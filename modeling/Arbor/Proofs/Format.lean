import Arbor.Format
import Arbor.Proofs.Location
import Arbor.Proofs.Text.Lowercase

-- The format that a location suggests. It depends on the extension of the last name alone, and on
-- that only up to the case of ASCII letters.
namespace Arbor.InputFormat

-- The extensions of files that hold a format, in small letters.
def extensions : InputFormat → List String
  | .sexpr => ["sexpr", "sexp", "tree"]
  | .json => ["json"]
  | .rust => ["rs"]

variable {extension location : String} {format : InputFormat} {piece : List Char}

theorem ofExtension?_eq_some_iff :
    ofExtension? extension = some format ↔ Text.lowercase extension ∈ format.extensions := by
  unfold ofExtension?
  cases format <;> grind [extensions]

theorem steady_extensions (format : InputFormat) :
    ∀ name ∈ format.extensions, name.toList.all Text.isSteady = true := by
  cases format <;> decide +kernel

theorem ofExtension?_eq_some_iff_variant : ofExtension? extension = some format ↔
    ∃ name ∈ format.extensions, Text.CaseVariant extension.toList name.toList := by
  rw [ofExtension?_eq_some_iff]
  constructor
  · intro listed
    exact ⟨_, listed, (Text.lowercase_eq_iff (steady_extensions format _ listed)).mp rfl⟩
  · rintro ⟨name, listed, variant⟩
    rwa [(Text.lowercase_eq_iff (steady_extensions format name listed)).mpr variant]

theorem ofLocation?_of_last (last : Location.LastPiece location.toList piece) :
    ofLocation? location =
      if piece = ['.'] ∨ piece = ['.', '.'] then none
      else (Location.extensionOfName? (String.ofList piece)).bind ofExtension? := by
  rw [ofLocation?, Location.extension?, Location.lastName?_eq last]
  split <;> rfl

-- The stem `.` with nothing behind the second dot means the directory above, which suggests no format,
-- and nor does an empty extension.
theorem ofLocation?_of_stem {stem extension : List Char} (filled : stem ≠ [])
    (free : '.' ∉ extension)
    (last : Location.LastPiece location.toList (stem ++ '.' :: extension)) :
    ofLocation? location = ofExtension? (String.ofList extension) := by
  rw [ofLocation?_of_last last]
  split
  · rename_i dots
    have short : (stem ++ '.' :: extension).length ≤ 2 := by
      rcases dots with same | same <;> simp [same]
    have started := List.length_pos_of_ne_nil filled
    rw [List.length_append, List.length_cons] at short
    have bare : extension = [] := List.eq_nil_of_length_eq_zero (by omega)
    rw [bare]
    decide +kernel
  · rw [Location.extensionOfName?_stem filled free]
    rfl

theorem ofLocation?_of_bare (bare : Location.extensionOfName? (String.ofList piece) = none)
    (last : Location.LastPiece location.toList piece) : ofLocation? location = none := by
  rw [ofLocation?_of_last last, bare]
  split <;> rfl

-- Neither the directories nor what stands behind the last name count, nor do other dots of the name,
-- unless it has only the one that it begins with.
theorem format_by_extension :
    (∀ (extension : String) (format : InputFormat), ofExtension? extension = some format ↔
      ∃ name ∈ format.extensions, Text.CaseVariant extension.toList name.toList) ∧
    ∀ (location : String) (piece : List Char), Location.LastPiece location.toList piece →
      (∀ stem extension, piece = stem ++ '.' :: extension → stem ≠ [] → '.' ∉ extension →
        ofLocation? location = ofExtension? (String.ofList extension)) ∧
      (piece = ['.', '.'] ∨ '.' ∉ piece ∨ (∃ name, piece = '.' :: name ∧ '.' ∉ name) →
        ofLocation? location = none) := by
  refine ⟨fun _ _ => ofExtension?_eq_some_iff_variant, fun location piece last => ⟨?_, ?_⟩⟩
  · rintro stem extension rfl filled free
    exact ofLocation?_of_stem filled free last
  · rintro (up | free | ⟨name, rfl, free⟩)
    · rw [ofLocation?_of_last last, if_pos (.inr up)]
    · exact ofLocation?_of_bare (Location.extensionOfName?_plain free).1 last
    · exact ofLocation?_of_bare (Location.extensionOfName?_plain free).2 last

-- Dots in a directory and in the stem, capitals, and slashes with a dot at the end; then a name that
-- is nothing but its first dot and what follows.
theorem format_by_extension_hidden :
    ofLocation? "v1.0/.notes.tar.Rs//./" = some .rust ∧ ofLocation? "a.rs/.rs" = none := by
  have inside : Location.LastPiece ("v1.0".toList ++ ['/'] ++ (".notes.tar.Rs".toList ++ "//./".toList))
      ".notes.tar.Rs".toList :=
    .mk (.inr ⟨_, rfl⟩) (by decide) (by decide) nofun (.slash (.dot (.slash .nil)))
  have hidden : Location.LastPiece ("a.rs".toList ++ ['/'] ++ (".rs".toList ++ [])) ".rs".toList :=
    .mk (.inr ⟨_, rfl⟩) (by decide) (by decide) nofun .nil
  constructor
  · rw [(format_by_extension.2 "v1.0/.notes.tar.Rs//./" _ inside).1 ".notes.tar".toList "Rs".toList rfl
      (by decide) (by decide)]
    decide +kernel
  · exact (format_by_extension.2 "a.rs/.rs" _ hidden).2 (.inr (.inr ⟨"rs".toList, rfl, by decide⟩))

end Arbor.InputFormat
