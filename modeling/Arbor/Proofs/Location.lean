import Arbor.Location
import Arbor.Proofs.Text.Split

-- The last piece of a location, told from the directories before it and from the slashes and dots
-- behind it, and the extension that it has.
namespace Arbor.Location

open Text (splitAt)

-- What stands before a name: nothing, or something with a slash at its end.
def Leads (directory : List Char) : Prop := directory = [] ∨ ∃ above, directory = above ++ ['/']

-- Slashes and single dots behind slashes.
inductive Idle : List Char → Prop where
  | nil : Idle []
  | slash (more : Idle rest) : Idle ('/' :: rest)
  | dot (more : Idle rest) : Idle ('/' :: '.' :: rest)

-- The last piece of a location that means something. Behind a slash a single dot means nothing.
inductive LastPiece : List Char → List Char → Prop where
  | mk (leads : Leads directory) (filled : piece ≠ []) (whole : '/' ∉ piece)
      (solid : piece = ['.'] → directory = []) (idle : Idle tail) :
      LastPiece (directory ++ (piece ++ tail)) piece

variable {piece tail stem extension : List Char} {location : String}

theorem Idle.splitAt (idle : Idle tail) :
    ∃ pieces, splitAt '/' tail = [] :: pieces ∧ pieces.filterMap part? = [] := by
  induction idle with
  | nil => exact ⟨[], rfl, rfl⟩
  | slash _ ih =>
    obtain ⟨pieces, cut, nothing⟩ := ih
    refine ⟨[] :: pieces, ?_, nothing⟩
    rw [Text.splitAt_cons_separator, cut]
  | dot _ ih =>
    obtain ⟨pieces, cut, nothing⟩ := ih
    refine ⟨['.'] :: pieces, ?_, nothing⟩
    rw [Text.splitAt_cons_separator, Text.splitAt_cons_other (by decide) cut]

-- What a piece stands for in last place.
def lastPart (piece : List Char) : Part :=
  if piece = ['.'] then .here else if piece = ['.', '.'] then .up else .name (String.ofList piece)

theorem part?_eq_lastPart (filled : piece ≠ []) (solid : piece ≠ ['.']) :
    part? piece = some (lastPart piece) := by
  rw [part?, lastPart, if_neg (by simp [filled, solid]), if_neg solid]
  split <;> rfl

-- Whatever the first piece stands for, the parts of the others come behind it.
theorem exists_parts {first : List Char} {others : List (List Char)}
    (cut : splitAt '/' location.toList = first :: others) (more : others ≠ []) :
    ∃ start, parts location = start ++ others.filterMap part? := by
  simp only [parts, cut, more, if_false]
  split
  · exact ⟨[.root], rfl⟩
  · split
    · exact ⟨[.here], rfl⟩
    · exact ⟨_, rfl⟩

-- The pieces behind the last one are dropped, and those before it only add parts before its own.
theorem getLast?_parts (last : LastPiece location.toList piece) :
    (parts location).getLast? = some (lastPart piece) := by
  generalize text : location.toList = whole at last
  obtain ⟨leads, filled, free, solid, idle⟩ := last
  obtain ⟨pieces, cut, nothing⟩ := idle.splitAt
  have own := Text.splitAt_append free cut
  rw [List.append_nil] at own
  rcases leads with rfl | ⟨above, rfl⟩
  · rw [List.nil_append] at text
    rw [parts, text, own]
    by_cases here : piece = ['.']
    · simp [here, nothing, lastPart]
    · simp [filled, here, nothing, part?_eq_lastPart filled here]
  · have solid : piece ≠ ['.'] := by
      intro dot
      simpa using solid dot
    obtain ⟨first, others, before⟩ := List.exists_cons_of_ne_nil (Text.splitAt_ne_nil '/' above)
    have pieces : splitAt '/' location.toList = first :: (others ++ piece :: pieces) := by
      rw [text, List.append_assoc, List.singleton_append, Text.splitAt_append_separator, own, before,
        List.cons_append]
    obtain ⟨start, made⟩ := exists_parts pieces (by simp)
    rw [made, List.filterMap_append, List.filterMap_cons_some (part?_eq_lastPart filled solid),
      nothing, ← List.append_assoc, List.getLast?_concat]

theorem lastName?_eq (last : LastPiece location.toList piece) :
    lastName? location =
      if piece = ['.'] ∨ piece = ['.', '.'] then none else some (String.ofList piece) := by
  rw [lastName?, getLast?_parts last, lastPart]
  by_cases here : piece = ['.']
  · simp [here]
  · by_cases up : piece = ['.', '.'] <;> simp [here, up]

theorem extensionOfName?_stem (filled : stem ≠ []) (free : '.' ∉ extension) :
    extensionOfName? (String.ofList (stem ++ '.' :: extension)) = some (String.ofList extension) := by
  have cut : splitAt '.' (stem ++ '.' :: extension) = splitAt '.' stem ++ [extension] := by
    rw [Text.splitAt_append_separator, Text.splitAt_piece free]
  obtain ⟨first, others, before⟩ := List.exists_cons_of_ne_nil (Text.splitAt_ne_nil '.' stem)
  rw [extensionOfName?, String.toList_ofList, cut, before]
  split
  · rename_i same
    cases same
  · rename_i same
    simp at same
  · rename_i same
    obtain ⟨rfl, rest⟩ := List.cons.inj same
    have alone : others = [] := by simpa using congrArg List.length rest
    rw [alone] at before
    exact absurd (Text.eq_nil_of_splitAt before) filled
  · rw [List.getLast?_concat]
    rfl

-- Without a dot, or with none but its first character, a name has no extension.
theorem extensionOfName?_plain (free : '.' ∉ piece) :
    extensionOfName? (String.ofList piece) = none ∧
      extensionOfName? (String.ofList ('.' :: piece)) = none := by
  simp only [extensionOfName?, String.toList_ofList, Text.splitAt_cons_separator,
    Text.splitAt_piece free, and_self]

end Arbor.Location
