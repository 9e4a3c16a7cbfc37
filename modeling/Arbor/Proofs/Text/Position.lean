import Arbor.Text.Position

-- Places counted out: a line is the number of line feeds before a place, a column the number of
-- characters since the last of them, both from 1.
namespace Arbor.Text.Position

def past (place : Position) (text : List Char) : Position := text.foldl advance place

-- The place behind a text that begins at the start.
def behind (text : List Char) : Position := start.past text

-- The characters since the last line feed, last first.
def sinceLineFeed (text : List Char) : List Char := text.reverse.takeWhile (· ≠ '\n')

theorem past_nil (place : Position) : place.past [] = place := rfl

theorem past_cons (place : Position) (c : Char) (text : List Char) :
    place.past (c :: text) = (place.advance c).past text := rfl

theorem past_append (place : Position) (text more : List Char) :
    place.past (text ++ more) = (place.past text).past more :=
  List.foldl_append

theorem behind_append (text more : List Char) : behind (text ++ more) = (behind text).past more :=
  past_append _ _ _

theorem behind_snoc (text : List Char) (c : Char) :
    behind (text ++ [c]) = (behind text).advance c :=
  behind_append text [c]

-- A character other than a line feed is found one column back from the place behind it.
theorem advance_back {c : Char} (oneLine : c ≠ '\n') (place : Position) :
    (⟨(place.advance c).line, (place.advance c).column - 1⟩ : Position) = place := by
  rw [advance, if_neg oneLine, Nat.add_sub_cancel]

theorem sinceLineFeed_snoc (text : List Char) (c : Char) :
    sinceLineFeed (text ++ [c]) = if c = '\n' then [] else c :: sinceLineFeed text := by
  rw [sinceLineFeed, List.reverse_append, List.reverse_singleton, List.singleton_append]
  by_cases feed : c = '\n'
  · simp [feed]
  · simp [feed, sinceLineFeed]

-- Advancing one character at a time comes to the same as counting; the induction is on the text
-- from its end.
theorem behind_eq (text : List Char) :
    behind text = ⟨1 + text.count '\n', 1 + (sinceLineFeed text).length⟩ := by
  obtain ⟨reversed, rfl⟩ : ∃ reversed, text = reversed.reverse := ⟨text.reverse, by simp⟩
  induction reversed with
  | nil => rfl
  | cons c reversed ih =>
    rw [List.reverse_cons, behind_snoc, ih, sinceLineFeed_snoc, advance]
    by_cases feed : c = '\n'
    · simp [feed, Nat.add_assoc]
    · simp [feed, Nat.add_comm]

theorem eq_behind_iff {position : Position} {text : List Char} :
    position = behind text ↔
      position.line = 1 + text.count '\n' ∧ position.column = 1 + (sinceLineFeed text).length := by
  rw [behind_eq]
  cases position with
  | mk line column => rw [Position.mk.injEq]

-- On the line behind a line feed only the characters of that line count.
theorem behind_lineFeed {text : List Char} (oneLine : '\n' ∉ text) (before : List Char) :
    behind (before ++ '\n' :: text) = ⟨before.count '\n' + 2, text.length + 1⟩ := by
  have none : text.count '\n' = 0 := List.count_eq_zero.mpr oneLine
  have line : sinceLineFeed (before ++ '\n' :: text) = text.reverse := by
    have within : ∀ c ∈ text.reverse, decide (c ≠ '\n') = true := by
      intro c member
      rw [List.mem_reverse] at member
      simpa using fun feed : c = '\n' => oneLine (feed ▸ member)
    rw [sinceLineFeed, List.reverse_append, List.reverse_cons, List.append_assoc,
      List.takeWhile_append_of_pos within]
    simp
  rw [behind_eq, line, List.count_append, List.count_cons_self, none, List.length_reverse,
    Position.mk.injEq]
  omega

end Arbor.Text.Position
