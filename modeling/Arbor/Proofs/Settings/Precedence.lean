import Arbor.Proofs.Settings.Document
import Arbor.Settings.File

-- A settings file gives exactly the pairs that it holds, or is refused, and each setting in force
-- comes from the first source that has it.
namespace Arbor

theorem Graph.Scheme.ofName?_eq_some_iff {name : String} {scheme : Graph.Scheme} :
    Graph.Scheme.ofName? name = some scheme ↔ name = scheme.name := by
  unfold Graph.Scheme.ofName?
  cases scheme <;> grind [Graph.Scheme.name]

theorem Graph.Scheme.name_inj {one other : Graph.Scheme} : one.name = other.name ↔ one = other := by
  cases one <;> cases other <;> decide

theorem OutputFormat.ofName?_eq_some_iff {name : String} {format : OutputFormat} :
    OutputFormat.ofName? name = some format ↔ name = format.name := by
  unfold OutputFormat.ofName?
  cases format <;> grind [OutputFormat.name]

theorem OutputFormat.name_inj {one other : OutputFormat} : one.name = other.name ↔ one = other := by
  cases one <;> cases other <;> decide

theorem InputFormat.ofName?_eq_some_iff {name : String} {format : InputFormat} :
    InputFormat.ofName? name = some format ↔ name = format.name := by
  unfold InputFormat.ofName?
  cases format <;> grind [InputFormat.name]

theorem InputFormat.name_inj {one other : InputFormat} : one.name = other.name ↔ one = other := by
  cases one <;> cases other <;> decide

namespace Settings

-- The pairs that a settings file may hold.
inductive Gives : String × String → Prop where
  | scheme (scheme : Graph.Scheme) : Gives ("ids", scheme.name)
  | output (format : OutputFormat) : Gives ("format", format.name)
  | input (format : InputFormat) : Gives ("input_format", format.name)

-- Each key is known and its value a name of the key's type, and no key is given twice.
structure Acceptable (pairs : List (String × String)) : Prop where
  known : ∀ pair ∈ pairs, Gives pair
  once : (pairs.map Prod.fst).Nodup

-- Settings as the pairs of a file.
def Given.pairs (given : Given) : List (String × String) :=
  given.scheme.toList.map (fun scheme => ("ids", scheme.name)) ++
    (given.output.toList.map (fun format => ("format", format.name)) ++
      given.input.toList.map (fun format => ("input_format", format.name)))

-- A pair is taken up: its key was free and its value is a name.
inductive Puts : Given → String × String → Given → Prop where
  | scheme (scheme : Graph.Scheme) (output : Option OutputFormat) (input : Option InputFormat) :
    Puts ⟨none, output, input⟩ ("ids", scheme.name) ⟨some scheme, output, input⟩
  | output (scheme : Option Graph.Scheme) (output : OutputFormat) (input : Option InputFormat) :
    Puts ⟨scheme, none, input⟩ ("format", output.name) ⟨scheme, some output, input⟩
  | input (scheme : Option Graph.Scheme) (output : Option OutputFormat) (input : InputFormat) :
    Puts ⟨scheme, output, none⟩ ("input_format", input.name) ⟨scheme, output, some input⟩

-- The value of the first source that has one.
inductive FirstOf {α : Type} : List (α → Prop) → α → Prop where
  | here {source : α → Prop} {others : List (α → Prop)} {value : α} (has : source value) :
    FirstOf (source :: others) value
  | later {source : α → Prop} {others : List (α → Prop)} {value : α}
    (lacks : ∀ other, ¬ source other) (behind : FirstOf others value) :
    FirstOf (source :: others) value

variable {given next : Given} {pair : String × String} {pairs : List (String × String)}

theorem Given.mem_pairs_scheme {scheme : Graph.Scheme} :
    ("ids", scheme.name) ∈ given.pairs ↔ given.scheme = some scheme := by
  simp [Given.pairs, Graph.Scheme.name_inj]

theorem Given.mem_pairs_output {format : OutputFormat} :
    ("format", format.name) ∈ given.pairs ↔ given.output = some format := by
  simp [Given.pairs, OutputFormat.name_inj]

theorem Given.mem_pairs_input {format : InputFormat} :
    ("input_format", format.name) ∈ given.pairs ↔ given.input = some format := by
  simp [Given.pairs, InputFormat.name_inj]

-- The pairs determine the settings, in whatever order they stand.
theorem Given.eq_of_perm (perm : given.pairs.Perm next.pairs) : given = next := by
  obtain ⟨scheme, output, input⟩ := given
  obtain ⟨otherScheme, otherOutput, otherInput⟩ := next
  congr
  · exact Option.ext fun value => by
      simpa only [Given.mem_pairs_scheme] using perm.mem_iff (a := ("ids", value.name))
  · exact Option.ext fun value => by
      simpa only [Given.mem_pairs_output] using perm.mem_iff (a := ("format", value.name))
  · exact Option.ext fun value => by
      simpa only [Given.mem_pairs_input] using perm.mem_iff (a := ("input_format", value.name))

theorem Given.acceptable (given : Given) : Acceptable given.pairs where
  known := by
    intro pair held
    simp only [Given.pairs, List.mem_append, List.mem_map] at held
    rcases held with ⟨scheme, _, rfl⟩ | ⟨output, _, rfl⟩ | ⟨input, _, rfl⟩
    · exact .scheme scheme
    · exact .output output
    · exact .input input
  once := by
    obtain ⟨_ | scheme, _ | output, _ | input⟩ := given <;>
      simp [Given.pairs]

theorem Acceptable.perm {others : List (String × String)} (acceptable : Acceptable pairs)
    (perm : pairs.Perm others) : Acceptable others where
  known pair held := acceptable.known pair (perm.mem_iff.mpr held)
  once := (perm.map Prod.fst).nodup_iff.mp acceptable.once

theorem Acceptable.left {others : List (String × String)} (acceptable : Acceptable (pairs ++ others)) :
    Acceptable pairs where
  known pair held := acceptable.known pair (List.mem_append_left others held)
  once := by
    have once := acceptable.once
    rw [List.map_append] at once
    exact (List.nodup_append.mp once).1

theorem of_free {α : Type} {slot found : Option α} {put : α → Given}
    (taken : (if slot.isSome then none else found.map put) = some next) :
    slot = none ∧ ∃ value, found = some value ∧ put value = next := by
  cases slot with
  | none => exact ⟨rfl, Option.map_eq_some_iff.mp taken⟩
  | some old => cases taken

theorem put?_eq_some_iff : given.put? pair = some next ↔ Puts given pair next := by
  obtain ⟨key, value⟩ := pair
  obtain ⟨scheme, output, input⟩ := given
  constructor
  · intro put
    simp only [Given.put?] at put
    split at put
    next ids =>
      obtain ⟨rfl, value, named, rfl⟩ := of_free put
      rw [ids, Graph.Scheme.ofName?_eq_some_iff.mp named]
      exact .scheme value output input
    split at put
    next format =>
      obtain ⟨rfl, value, named, rfl⟩ := of_free put
      rw [format, OutputFormat.ofName?_eq_some_iff.mp named]
      exact .output scheme value input
    split at put
    next inputFormat =>
      obtain ⟨rfl, value, named, rfl⟩ := of_free put
      rw [inputFormat, InputFormat.ofName?_eq_some_iff.mp named]
      exact .input scheme output value
    · cases put
  · intro puts
    cases puts with
    | scheme value => cases value <;> rfl
    | output _ value => cases value <;> rfl
    | input _ _ value => cases value <;> rfl

theorem Puts.perm (puts : Puts given pair next) : next.pairs.Perm (pair :: given.pairs) := by
  cases puts with
  | scheme scheme output input => exact .refl _
  | output scheme output input => exact List.perm_middle
  | input scheme output input =>
    simp only [Given.pairs, Option.toList_some, Option.toList_none, List.map_singleton, List.map_nil,
      List.append_nil, ← List.append_assoc]
    exact List.perm_append_singleton ..

-- A pair that fits beside those that are held is taken up.
theorem Acceptable.exists_puts (acceptable : Acceptable (pair :: given.pairs)) :
    ∃ next, Puts given pair next := by
  have new : pair.1 ∉ given.pairs.map Prod.fst := (List.nodup_cons.mp acceptable.once).1
  obtain ⟨scheme, output, input⟩ := given
  cases acceptable.known pair List.mem_cons_self with
  | scheme value =>
    cases scheme with
    | none => exact ⟨_, .scheme value output input⟩
    | some old => exact absurd List.mem_cons_self new
  | output value =>
    cases output with
    | none => exact ⟨_, .output scheme value input⟩
    | some old => exact absurd (by simp [Given.pairs]) new
  | input value =>
    cases input with
    | none => exact ⟨_, .input scheme output value⟩
    | some old => exact absurd (by simp [Given.pairs]) new

theorem foldlM_put?_perm (read : pairs.foldlM Given.put? given = some next) :
    next.pairs.Perm (given.pairs ++ pairs) := by
  induction pairs generalizing given with
  | nil =>
    cases read
    rw [List.append_nil]
  | cons pair pairs ih =>
    obtain ⟨middle, put, rest⟩ := Option.bind_eq_some_iff.mp read
    exact (ih rest).trans (((put?_eq_some_iff.mp put).perm.append_right pairs).trans
      List.perm_middle.symm)

theorem Acceptable.exists_foldlM_put? (acceptable : Acceptable (given.pairs ++ pairs)) :
    ∃ next, pairs.foldlM Given.put? given = some next := by
  induction pairs generalizing given with
  | nil => exact ⟨given, rfl⟩
  | cons pair pairs ih =>
    have inFront := acceptable.perm List.perm_middle
    obtain ⟨middle, puts⟩ := inFront.left.exists_puts
    obtain ⟨next, rest⟩ := ih (inFront.perm (puts.perm.symm.append_right pairs))
    exact ⟨next, Option.bind_eq_some_iff.mpr ⟨middle, put?_eq_some_iff.mpr puts, rest⟩⟩

theorem ofPairs?_eq_some_iff : Given.ofPairs? pairs = some given ↔ given.pairs.Perm pairs := by
  constructor
  · exact foldlM_put?_perm
  · intro perm
    have acceptable : Acceptable (Given.empty.pairs ++ pairs) := given.acceptable.perm perm
    obtain ⟨next, read⟩ := acceptable.exists_foldlM_put?
    cases Given.eq_of_perm (perm.trans (foldlM_put?_perm read).symm)
    exact read

theorem isSome_ofPairs? : (Given.ofPairs? pairs).isSome = true ↔ Acceptable pairs := by
  rw [Option.isSome_iff_exists]
  constructor
  · rintro ⟨given, read⟩
    exact given.acceptable.perm (ofPairs?_eq_some_iff.mp read)
  · exact fun acceptable => Acceptable.exists_foldlM_put? acceptable

theorem parse?_of_document {text : String} (document : Toml.Document pairs text.toList) :
    Given.parse? text = Given.ofPairs? pairs := by
  rw [Given.parse?, Toml.pairs?_of_document document, Option.bind_some]

theorem FirstOf.getD {α : Type} {others : List (α → Prop)} {value : α} (option : Option α)
    (behind : FirstOf others value) : FirstOf ((option = some ·) :: others) (option.getD value) := by
  cases option with
  | none => exact .later nofun behind
  | some own => exact .here rfl

-- A file is accepted exactly when its pairs are, and then gives these pairs, so neither their order nor
-- their spelling matters. A flag wins over the file and the file over the standard value; the format
-- of the input may come from its location in between.
theorem settings_by_precedence {text : String} (document : Toml.Document pairs text.toList) :
    ((Given.parse? text).isSome = true ↔ Acceptable pairs) ∧
      (∀ (other : String) (otherPairs : List (String × String)),
        Toml.Document otherPairs other.toList → otherPairs.Perm pairs →
          Given.parse? other = Given.parse? text) ∧
      ∀ given, Given.parse? text = some given →
        given.pairs.Perm pairs ∧
        ∀ (flags : Given) (location : Option String),
          let settings := ofGiven (given.overlaid flags)
          FirstOf [(flags.scheme = some ·), fun scheme => ("ids", scheme.name) ∈ pairs,
            (· = .depth)] settings.scheme ∧
          FirstOf [(flags.output = some ·), fun format => ("format", format.name) ∈ pairs,
            (· = .dot)] settings.output ∧
          FirstOf [(flags.input = some ·), fun format => ("input_format", format.name) ∈ pairs,
            (location.bind InputFormat.ofLocation? = some ·), (· = .sexpr)]
            (settings.inputFormat location) := by
  refine ⟨?_, ?_, ?_⟩
  · rw [parse?_of_document document]
    exact isSome_ofPairs?
  · intro other otherPairs otherDocument perm
    rw [parse?_of_document document, parse?_of_document otherDocument]
    refine Option.ext fun given => ?_
    rw [ofPairs?_eq_some_iff, ofPairs?_eq_some_iff]
    exact ⟨(·.trans perm), (·.trans perm.symm)⟩
  · intro given parsed
    rw [parse?_of_document document, ofPairs?_eq_some_iff] at parsed
    refine ⟨parsed, fun flags location => ?_⟩
    simp only [← parsed.mem_iff, Given.mem_pairs_scheme, Given.mem_pairs_output,
      Given.mem_pairs_input, ofGiven, inputFormat, Given.overlaid, Option.or_assoc, Option.getD_or]
    exact ⟨.getD _ (.getD _ (.here rfl)), .getD _ (.getD _ (.here rfl)),
      .getD _ (.getD _ (.getD _ (.here rfl)))⟩

-- A comment, both ends of lines, a quoted key and an escape.
theorem settings_by_precedence_escaped :
    Given.parse? "# names\r\n'ids' = 'pre-order'\n\tformat=\"d\\u006ft\" # drawn" =
      some ⟨some .preOrder, some .dot, none⟩ := by
  have noSpace : Toml.Spaces [] := nofun
  have space : Toml.Spaces [' '] := by decide
  have remark : Toml.Line [] "# names".toList := .blank noSpace (.comment (List.all_eq_true.mp rfl))
  have scheme : Toml.Line [("ids", "pre-order")] "'ids' = 'pre-order'".toList :=
    .statement noSpace (.literal (show Toml.Verbatim "ids".toList by decide)) space space
      (.literal (show Toml.Verbatim "pre-order".toList by decide)) noSpace .none
  have code : Toml.Digits "006f".toList 'o'.toNat :=
    .snoc (.snoc (.snoc (.snoc .nil (.inl rfl : Text.HexDigit '0' 0)) (.inl rfl : Text.HexDigit '0' 0))
      (.inl rfl : Text.HexDigit '6' 6)) (.inl rfl : Text.HexDigit 'f' 15)
  have spelled : Toml.Spells "d\\u006ft".toList "dot".toList :=
    .plain rfl (by decide) (by decide)
      (.escaped (.short code rfl) (.plain rfl (by decide) (by decide) .nil))
  have output : Toml.Line [("format", "dot")] "\tformat=\"d\\u006ft\" # drawn".toList :=
    .statement (show Toml.Spaces ['\t'] by decide)
      (.bare (show "format".toList ≠ [] by decide) (List.all_eq_true.mp rfl)) noSpace noSpace
      (.basic spelled) space (.comment (show ∀ c ∈ " drawn".toList, _ from List.all_eq_true.mp rfl))
  have document : Toml.Document [("ids", "pre-order"), ("format", "dot")]
      "# names\r\n'ids' = 'pre-order'\n\tformat=\"d\\u006ft\" # drawn".toList :=
    .more remark .long (.more scheme .short (.last output))
  obtain ⟨accepted, _, holds⟩ := settings_by_precedence document
  have acceptable : Acceptable [("ids", "pre-order"), ("format", "dot")] :=
    Given.acceptable ⟨some .preOrder, some .dot, none⟩
  obtain ⟨given, parsed⟩ := Option.isSome_iff_exists.mp (accepted.mpr acceptable)
  have held : given = ⟨some .preOrder, some .dot, none⟩ := Given.eq_of_perm (holds given parsed).1
  rw [parsed, held]

end Settings

end Arbor
