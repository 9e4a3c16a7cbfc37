import Arbor.Text.Basic

-- Cutting a text that was put together from pieces gives the pieces back.
namespace Arbor.Text

variable {separator : Char} {piece rest : List Char}

theorem splitAt_ne_nil (separator : Char) (text : List Char) : splitAt separator text ≠ [] := by
  cases text with
  | nil => simp [splitAt]
  | cons c rest =>
    rw [splitAt, List.foldr_cons]
    split
    · simp
    · split <;> simp

theorem splitAt_cons_separator (separator : Char) (rest : List Char) :
    splitAt separator (separator :: rest) = [] :: splitAt separator rest := by
  obtain ⟨first, others, cut⟩ := List.exists_cons_of_ne_nil (splitAt_ne_nil separator rest)
  rw [cut]
  rw [splitAt] at cut ⊢
  rw [List.foldr_cons, cut]
  simp

theorem splitAt_cons_other {c : Char} {first : List Char} {others : List (List Char)}
    (other : c ≠ separator) (cut : splitAt separator rest = first :: others) :
    splitAt separator (c :: rest) = (c :: first) :: others := by
  rw [splitAt] at cut ⊢
  rw [List.foldr_cons, cut]
  simp [other]

-- A piece without the separator joins the first piece of what follows.
theorem splitAt_append {first : List Char} {others : List (List Char)} (free : separator ∉ piece)
    (cut : splitAt separator rest = first :: others) :
    splitAt separator (piece ++ rest) = (piece ++ first) :: others := by
  induction piece with
  | nil => exact cut
  | cons c piece ih =>
    rw [List.mem_cons, not_or] at free
    exact splitAt_cons_other (Ne.symm free.1) (ih free.2)

theorem splitAt_piece (free : separator ∉ piece) : splitAt separator piece = [piece] := by
  have whole := splitAt_append free (show splitAt separator [] = [] :: [] from rfl)
  rwa [List.append_nil] at whole

theorem splitAt_piece_append (free : separator ∉ piece) (rest : List Char) :
    splitAt separator (piece ++ separator :: rest) = piece :: splitAt separator rest := by
  have whole := splitAt_append free (splitAt_cons_separator separator rest)
  rwa [List.append_nil] at whole

-- Cutting at one separator first, and then the two texts around it.
theorem splitAt_append_separator (separator : Char) (left right : List Char) :
    splitAt separator (left ++ separator :: right) =
      splitAt separator left ++ splitAt separator right := by
  induction left with
  | nil => exact splitAt_cons_separator separator right
  | cons c left ih =>
    by_cases same : c = separator
    · rw [same, List.cons_append, splitAt_cons_separator, splitAt_cons_separator, ih,
        List.cons_append]
    · obtain ⟨first, others, cut⟩ := List.exists_cons_of_ne_nil (splitAt_ne_nil separator left)
      rw [cut, List.cons_append] at ih
      rw [List.cons_append, splitAt_cons_other same ih, splitAt_cons_other same cut,
        List.cons_append]

theorem eq_nil_of_splitAt {text : List Char} (cut : splitAt separator text = [[]]) : text = [] := by
  cases text with
  | nil => rfl
  | cons c rest =>
    obtain ⟨first, others, behind⟩ := List.exists_cons_of_ne_nil (splitAt_ne_nil separator rest)
    by_cases same : c = separator
    · rw [same, splitAt_cons_separator, behind] at cut
      cases cut
    · rw [splitAt_cons_other same behind] at cut
      cases cut

-- Lines, each with the separator behind it. Nothing is left behind the last one.
theorem splitAt_lines {lines : List (List Char)} (free : ∀ line ∈ lines, separator ∉ line) :
    splitAt separator (lines.flatMap fun line => line ++ [separator]) = lines ++ [[]] := by
  induction lines with
  | nil => rfl
  | cons line lines ih =>
    obtain ⟨here, later⟩ := List.forall_mem_cons.mp free
    rw [List.flatMap_cons, List.append_assoc, List.singleton_append, splitAt_piece_append here,
      ih later, List.cons_append]

end Arbor.Text
