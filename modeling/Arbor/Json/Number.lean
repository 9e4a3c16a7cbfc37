import Arbor.Decimal
import Arbor.Json.Fault

-- Numbers of a JSON source. Their values are never used, only shown: an integer that fits a machine
-- word by its digits, any other number by the floating-point number nearest to what its leading
-- digits and its exponent make.
namespace Arbor.Json

def digits (text : List Char) : List Char := text.takeWhile Char.isDigit

def behindDigits (text : List Char) : List Char := text.dropWhile Char.isDigit

theorem behindDigits_length_le (text : List Char) : (behindDigits text).length ≤ text.length :=
  (List.dropWhile_suffix Char.isDigit).length_le

def dropSign : List Char → List Char
  | '+' :: rest => rest
  | '-' :: rest => rest
  | text => text

theorem dropSign_length_le (text : List Char) : (dropSign text).length ≤ text.length := by
  unfold dropSign
  split
  · exact Nat.le_succ _
  · exact Nat.le_succ _
  · exact Nat.le_refl _

def isExponentMark (c : Char) : Bool := c = 'e' || c = 'E'

def skipExponent (text : List Char) : Except Fault (List Char) :=
  match dropSign text with
  | [] => .error (.behind .invalidNumber [])
  | c :: rest =>
    if c.isDigit then .ok (behindDigits rest) else .error (.at .invalidNumber (c :: rest))

def skipExponent? (text : List Char) : Except Fault (List Char) :=
  match text with
  | c :: rest => if isExponentMark c then skipExponent rest else .ok text
  | [] => .ok text

def skipFraction (text : List Char) : Except Fault (List Char) :=
  match text with
  | '.' :: rest =>
    if digits rest = [] then .error (.at .invalidNumber rest) else skipExponent? (behindDigits rest)
  | _ => skipExponent? text

def skipNumber (text : List Char) : Except Fault (List Char) :=
  match text with
  | [] => .error (.behind .invalidNumber [])
  | '0' :: rest => if digits rest = [] then skipFraction rest else .error (.at .invalidNumber rest)
  | c :: rest =>
    if c.isDigit then skipFraction (behindDigits rest) else .error (.at .invalidNumber text)

theorem skipExponent_le {text rest : List Char} (skipped : skipExponent text = .ok rest) :
    rest.length ≤ text.length := by
  have unsigned := dropSign_length_le text
  unfold skipExponent at skipped
  split at skipped
  · cases skipped
  · rename_i c tail ahead
    rw [ahead, List.length_cons] at unsigned
    split at skipped <;> cases skipped
    exact Nat.le_trans (behindDigits_length_le tail) (Nat.le_of_succ_le unsigned)

theorem skipExponent?_le {text rest : List Char} (skipped : skipExponent? text = .ok rest) :
    rest.length ≤ text.length := by
  unfold skipExponent? at skipped
  split at skipped
  · split at skipped
    · exact Nat.le_succ_of_le (skipExponent_le skipped)
    · cases skipped; exact Nat.le_refl _
  · cases skipped; exact Nat.le_refl _

theorem skipFraction_le {text rest : List Char} (skipped : skipFraction text = .ok rest) :
    rest.length ≤ text.length := by
  unfold skipFraction at skipped
  split at skipped
  · rename_i tail
    split at skipped
    · cases skipped
    · have := skipExponent?_le skipped
      have := behindDigits_length_le tail
      simp only [List.length_cons]
      omega
  · exact skipExponent?_le skipped

theorem skipNumber_lt {text rest : List Char} (skipped : skipNumber text = .ok rest) :
    rest.length < text.length := by
  unfold skipNumber at skipped
  split at skipped
  · cases skipped
  · split at skipped
    · exact Nat.lt_succ_of_le (skipFraction_le skipped)
    · cases skipped
  · rename_i tail _
    split at skipped
    · have := skipFraction_le skipped
      have := behindDigits_length_le tail
      simp only [List.length_cons]
      omega
    · cases skipped

-- Takes up digits as long as the number fits an unsigned word, and counts those that are left over.
def takeUp (significand : Nat) : List Char → Nat × Nat
  | [] => (significand, 0)
  | c :: rest =>
    let next := 10 * significand + (c.toNat - 48)
    if next < Nat.pow 2 64 then takeUp next rest else (significand, rest.length + 1)

def greatestPower : Nat := 308

def powerOfTen (n : Nat) : Float := Float.ofScientific 1 false n

def scale (x : Float) (exponent : Int) : Option Float :=
  if exponent.natAbs ≤ greatestPower then
    if exponent < 0 then some (x / powerOfTen exponent.natAbs)
    else
      let scaled := x * powerOfTen exponent.natAbs
      if scaled.isInf then none else some scaled
  else if x == 0.0 then some x
  else if exponent < 0 then scale (x / powerOfTen greatestPower) (exponent + greatestPower)
  else none
termination_by exponent.natAbs
decreasing_by all_goals simp only [greatestPower] at *; omega

-- Without an exponent there are at most sixteen digits before the point and five places behind it.
def layout : Decimal.Layout := ⟨16, 5⟩

def signed (negative : Bool) (x : Float) : Float := if negative then -x else x

def decimalFound (negative : Bool) (significand : Nat) (exponent : Int) (rest : List Char) :
    Except Fault (Found × List Char) :=
  match scale (Float.ofNat significand) exponent with
  | some x => .ok (.decimal (Decimal.ofFloat layout (signed negative x)), rest)
  | none => .error (.behind .numberOutOfRange rest)

def greatestExponent : Nat := Nat.pow 2 31 - 1

-- Nothing is answered if the digits exceed the greatest exponent, and then the text is the one
-- behind the digit that does.
def takeUpExponent (value : Nat) : List Char → Option Nat × List Char
  | [] => (some value, [])
  | c :: rest =>
    if c.isDigit then
      let next := 10 * value + (c.toNat - 48)
      if next ≤ greatestExponent then takeUpExponent next rest else (none, rest)
    else (some value, c :: rest)

def readExponent (negative : Bool) (significand : Nat) (exponent : Int) (text : List Char) :
    Except Fault (Found × List Char) :=
  let down := text.head? = some '-'
  match dropSign text with
  | [] => .error (.behind .endOfValue [])
  | c :: rest =>
    if c.isDigit then
      match takeUpExponent (c.toNat - 48) rest with
      | (some value, rest) =>
        decimalFound negative significand (if down then exponent - value else exponent + value) rest
      | (none, rest) =>
        if significand != 0 && !down then .error (.behind .numberOutOfRange rest)
        else decimalFound negative 0 0 (behindDigits rest)
    else .error (.at .invalidNumber (c :: rest))

def readExponent? (negative : Bool) (significand : Nat) (exponent : Int) (text : List Char) :
    Except Fault (Found × List Char) :=
  match text with
  | c :: rest =>
    if isExponentMark c then readExponent negative significand exponent rest
    else decimalFound negative significand exponent text
  | [] => decimalFound negative significand exponent text

-- An integer that exceeds the signed word, and a negative zero, is shown as a decimal number.
def integerFound (negative : Bool) (value : Nat) (rest : List Char) :
    Except Fault (Found × List Char) :=
  if negative then
    if value = 0 || Nat.pow 2 63 < value then decimalFound true value 0 rest
    else .ok (.integer ("-" ++ value.repr), rest)
  else .ok (.integer value.repr, rest)

def readFraction (negative : Bool) (whole text : List Char) : Except Fault (Found × List Char) :=
  let (significand, excess) := takeUp 0 whole
  match text with
  | '.' :: rest =>
    if digits rest = [] then
      match rest with
      | [] => .error (.behind .endOfValue [])
      | _ :: _ => .error (.at .invalidNumber rest)
    else
      let (significand, unused) := takeUp significand (digits rest)
      readExponent? negative significand (excess - ((digits rest).length - unused : Nat))
        (behindDigits rest)
  | c :: rest =>
    if isExponentMark c then readExponent negative significand excess rest
    else if excess = 0 then integerFound negative significand text
    else decimalFound negative significand excess text
  | [] =>
    if excess = 0 then integerFound negative significand text
    else decimalFound negative significand excess text

def readNumber (negative : Bool) (text : List Char) : Except Fault (Found × List Char) :=
  match text with
  | [] => .error (.behind .endOfValue [])
  | '0' :: rest =>
    if digits rest = [] then readFraction negative ['0'] rest else .error (.at .invalidNumber rest)
  | c :: rest =>
    if c.isDigit then readFraction negative (c :: digits rest) (behindDigits rest)
    else .error (.at .invalidNumber text)

end Arbor.Json
