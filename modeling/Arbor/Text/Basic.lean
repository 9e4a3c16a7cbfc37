-- Small tools over texts: classes of characters as ranges of code points, white space, cutting at a
-- separator, hexadecimal digits and indentation.
namespace Arbor.Text

-- Pairs of a first and a last code point, both included.
abbrev Ranges := List (Nat × Nat)

def Ranges.holds (ranges : Ranges) (code : Nat) : Bool :=
  ranges.any fun range => range.1 ≤ code && code ≤ range.2

theorem Ranges.holds_iff (ranges : Ranges) (code : Nat) :
    ranges.holds code = true ↔ ∃ range ∈ ranges, range.1 ≤ code ∧ code ≤ range.2 := by
  simp [Ranges.holds]

-- The Unicode property White_Space.
def blankRanges : Ranges :=
  [(0x9, 0xd), (0x20, 0x20), (0x85, 0x85), (0xa0, 0xa0), (0x1680, 0x1680), (0x2000, 0x200a),
   (0x2028, 0x2029), (0x202f, 0x202f), (0x205f, 0x205f), (0x3000, 0x3000)]

def isBlank (c : Char) : Bool := blankRanges.holds c.toNat

-- There is always one more piece than there are separators.
def splitAt (separator : Char) (text : List Char) : List (List Char) :=
  text.foldr (fun c pieces =>
    match pieces with
    | [] => [[c]]
    | piece :: rest => if c = separator then [] :: piece :: rest else (c :: piece) :: rest) [[]]

def hexDigit? (c : Char) : Option Nat :=
  if '0' ≤ c && c ≤ '9' then some (c.toNat - '0'.toNat)
  else if 'a' ≤ c && c ≤ 'f' then some (c.toNat - 'a'.toNat + 10)
  else if 'A' ≤ c && c ≤ 'F' then some (c.toNat - 'A'.toNat + 10)
  else none

def indent (level : Nat) : String := String.ofList (List.replicate (2 * level) ' ')

end Arbor.Text
