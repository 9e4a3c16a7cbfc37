import Arbor.Json.Fault

-- White space in JSON, and the inside of brackets: pieces with commas between them and white space
-- around each.
namespace Arbor.Json

def Blanks (gap : List Char) : Prop := ∀ c ∈ gap, c = ' ' ∨ c = '\t' ∨ c = '\n' ∨ c = '\r'

instance (gap : List Char) : Decidable (Blanks gap) := List.decidableBAll _ gap

-- What leads up to a piece: white space, and a comma unless the piece is the first.
inductive Lead : Bool → List Char → Prop where
  | first (gap : Blanks lead) : Lead true lead
  | later (before : Blanks left) (behind : Blanks right) : Lead false (left ++ ',' :: right)

-- Pieces as they stand between brackets, or from behind one piece to the closing bracket.
inductive Joined : Bool → List (List Char) → List Char → Prop where
  | nil (gap : Blanks text) : Joined first [] text
  | cons (lead : Lead first gap) (more : Joined false pieces text) :
      Joined first (piece :: pieces) (gap ++ (piece ++ text))

variable {c : Char} {gap text rest : List Char}

theorem Blanks.nil : Blanks [] := nofun

theorem Blanks.append {left right : List Char} (first : Blanks left) (second : Blanks right) :
    Blanks (left ++ right) := by
  intro c present
  rcases List.mem_append.mp present with here | there
  · exact first c here
  · exact second c there

theorem isBlank_iff : isBlank c = true ↔ c = ' ' ∨ c = '\t' ∨ c = '\n' ∨ c = '\r' := by
  simp [isBlank, or_assoc]

theorem skipBlank_append (blank : Blanks gap) (rest : List Char) :
    skipBlank (gap ++ rest) = skipBlank rest :=
  List.dropWhile_append_of_pos fun c present => isBlank_iff.mpr (blank c present)

theorem skipBlank_cons (solid : isBlank c = false) (rest : List Char) :
    skipBlank (c :: rest) = c :: rest := by
  simp [skipBlank, solid]

theorem skipBlank_gap (blank : Blanks gap) (solid : isBlank c = false) (rest : List Char) :
    skipBlank (gap ++ c :: rest) = c :: rest := by
  rw [skipBlank_append blank, skipBlank_cons solid]

-- The characters passed over are blank, and the one that comes next is not.
theorem exists_gap (text : List Char) :
    ∃ gap, Blanks gap ∧ text = gap ++ skipBlank text ∧
      ∀ c rest, skipBlank text = c :: rest → isBlank c = false := by
  refine ⟨text.takeWhile isBlank, ?_, List.takeWhile_append_dropWhile.symm, ?_⟩
  · intro c present
    exact isBlank_iff.mp (List.all_eq_true.mp List.all_takeWhile c present)
  · intro c rest ahead
    have next := List.head?_dropWhile_not isBlank text
    rw [skipBlank] at ahead
    simpa [ahead] using next

theorem skipBlank_eq_cons_iff : skipBlank text = c :: rest ↔
    isBlank c = false ∧ ∃ gap, Blanks gap ∧ text = gap ++ c :: rest := by
  constructor
  · intro ahead
    obtain ⟨gap, blank, split, solid⟩ := exists_gap text
    exact ⟨solid c rest ahead, gap, blank, ahead ▸ split⟩
  · rintro ⟨solid, gap, blank, rfl⟩
    exact skipBlank_gap blank solid rest

theorem skipBlank_eq_nil_iff : skipBlank text = [] ↔ Blanks text := by
  constructor
  · intro ended
    obtain ⟨gap, blank, split, -⟩ := exists_gap text
    rw [ended, List.append_nil] at split
    exact split ▸ blank
  · intro blank
    simpa [skipBlank] using skipBlank_append blank []

end Arbor.Json
