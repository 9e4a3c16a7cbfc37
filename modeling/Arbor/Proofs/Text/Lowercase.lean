import Arbor.Text.Lowercase
import Mathlib.Data.List.Forall2

-- Which texts have a given small form. Beyond ASCII only two characters have a small form that
-- begins with an ASCII letter: the Kelvin sign, which becomes `k`, and the dotted capital I, which
-- becomes an `i` with a mark. For names without these two letters, lower-casing loses the case of
-- ASCII letters and nothing else.
namespace Arbor.Text

-- A small letter that no character beyond ASCII is turned into.
def isSteady (c : Char) : Bool :=
  'a'.toNat ≤ c.toNat && c.toNat ≤ 'z'.toNat && c != 'i' && c != 'k'

-- The text is the name, except that any of its letters may be capitals.
def CaseVariant (text name : List Char) : Prop :=
  List.Forall₂ (fun c small => c = small ∨ c = small.toUpper) text name

variable {c small : Char} {text name more : List Char}

theorem isSteady_iff :
    isSteady c = true ↔ (97 ≤ c.toNat ∧ c.toNat ≤ 122) ∧ c ≠ 'i' ∧ c ≠ 'k' := by
  simp [isSteady, and_assoc]

theorem eq_or_eq_toUpper_toLower (ascii : c.toNat < 128) :
    c = c.toLower ∨ c = c.toLower.toUpper := by
  have table : ∀ code < 128, Char.ofNat code = (Char.ofNat code).toLower ∨
      Char.ofNat code = (Char.ofNat code).toLower.toUpper := by decide +kernel
  have entry := table c.toNat ascii
  rwa [Char.ofNat_toNat] at entry

theorem lowercaseChar_variant (steady : isSteady small = true)
    (variant : c = small ∨ c = small.toUpper) : lowercaseChar c = [small] := by
  have table : ∀ code < 123, 97 ≤ code → lowercaseChar (Char.ofNat code) = [Char.ofNat code] ∧
      lowercaseChar (Char.ofNat code).toUpper = [Char.ofNat code] := by decide +kernel
  obtain ⟨⟨low, high⟩, -⟩ := isSteady_iff.mp steady
  have entry := table small.toNat (by omega) low
  rw [Char.ofNat_toNat] at entry
  rcases variant with rfl | rfl
  · exact entry.1
  · exact entry.2

-- The small forms in the table lie beyond ASCII, but for that of the Kelvin sign.
theorem small_of_mem {run : CapitalRun} (listed : run ∈ capitalRuns) :
    0x80 ≤ run.small ∨ run.small = 'k'.toNat ∧ run.last = run.first := by
  have table : ∀ run ∈ capitalRuns,
      0x80 ≤ run.small ∨ run.small = 'k'.toNat ∧ run.last = run.first := by decide +kernel
  exact table run listed

theorem toNat_ofNat_cases (code : Nat) :
    (Char.ofNat code).toNat = code ∨ (Char.ofNat code).toNat = 0 := by
  by_cases valid : code.isValidChar
  · rw [Char.ofNat, dif_pos valid]
    exact .inl rfl
  · rw [Char.ofNat, dif_neg valid]
    exact .inr rfl

-- A capital of the table never becomes a steady letter.
theorem ne_small_of_holds {run : CapitalRun} (listed : run ∈ capitalRuns)
    (holds : run.holds c.toNat = true) (steady : isSteady small = true) :
    Char.ofNat (run.small + (c.toNat - run.first)) ≠ small := by
  rintro rfl
  obtain ⟨⟨low, high⟩, -, noKelvin⟩ := isSteady_iff.mp steady
  have code := toNat_ofNat_cases (run.small + (c.toNat - run.first))
  rcases small_of_mem listed with beyond | ⟨kelvin, single⟩
  · omega
  · simp only [CapitalRun.holds, Bool.and_eq_true, decide_eq_true_eq] at holds
    have only : c.toNat - run.first = 0 := by omega
    rw [kelvin, only, Nat.add_zero, Char.ofNat_toNat] at noKelvin
    exact noKelvin rfl

theorem variant_of_lowercaseChar (steady : isSteady small = true)
    (begins : lowercaseChar c = small :: more) : (c = small ∨ c = small.toUpper) ∧ more = [] := by
  obtain ⟨⟨low, high⟩, noDotted, -⟩ := isSteady_iff.mp steady
  unfold lowercaseChar at begins
  split at begins
  · rename_i ascii
    cases begins
    exact ⟨eq_or_eq_toUpper_toLower ascii, rfl⟩
  · rename_i beyond
    split at begins
    · cases begins
      exact absurd rfl noDotted
    · split at begins
      · rename_i run found
        cases begins
        have holds := List.find?_some found
        exact absurd rfl (ne_small_of_holds (List.mem_of_find?_eq_some found) holds steady)
      · cases begins
        omega

theorem lowercaseChar_ne_nil (c : Char) : lowercaseChar c ≠ [] := by
  unfold lowercaseChar
  repeat' split
  all_goals exact List.cons_ne_nil _ _

-- The induction is on the text; the name is taken apart along with it.
theorem flatMap_lowercaseChar_eq_iff (steady : name.all isSteady = true) :
    text.flatMap lowercaseChar = name ↔ CaseVariant text name := by
  induction text generalizing name with
  | nil =>
    rw [CaseVariant, List.forall₂_nil_left_iff, List.flatMap_nil]
    exact eq_comm
  | cons c text ih =>
    obtain ⟨first, others, form⟩ := List.exists_cons_of_ne_nil (lowercaseChar_ne_nil c)
    rw [List.flatMap_cons, form]
    cases name with
    | nil => simp [CaseVariant]
    | cons small name =>
      rw [List.all_cons, Bool.and_eq_true] at steady
      rw [CaseVariant, List.forall₂_cons, ← CaseVariant, ← ih steady.2]
      constructor
      · intro same
        obtain ⟨rfl, rest⟩ := List.cons.inj same
        obtain ⟨variant, rfl⟩ := variant_of_lowercaseChar steady.1 form
        exact ⟨variant, rest⟩
      · rintro ⟨variant, rest⟩
        rw [lowercaseChar_variant steady.1 variant] at form
        cases form
        rw [rest]
        rfl

theorem lowercase_eq_iff {text name : String} (steady : name.toList.all isSteady = true) :
    lowercase text = name ↔ CaseVariant text.toList name.toList := by
  rw [← flatMap_lowercaseChar_eq_iff steady, lowercase]
  constructor
  · rintro rfl
    exact (String.toList_ofList ..).symm
  · intro same
    rw [same, String.ofList_toList]

end Arbor.Text
