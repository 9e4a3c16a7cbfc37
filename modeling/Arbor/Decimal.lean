-- Decimal text of binary floating-point numbers: the fewest digits that read back as the number,
-- and of those the nearest.
namespace Arbor

structure Decimal where
  digits : Nat
  exponent : Int
deriving DecidableEq

namespace Decimal

-- The number `mantissa * 2 ^ exponent`. `narrow` says whether its lower neighbour is only half as
-- far away as the upper one.
structure Binary where
  mantissa : Nat
  exponent : Int
  narrow : Bool

def Binary.ofFloat (x : Float) : Binary :=
  let bits := x.toBits.toNat
  let fraction : Nat := bits % Nat.pow 2 52
  let biased : Nat := bits / Nat.pow 2 52 % Nat.pow 2 11
  if biased = 0 then ⟨fraction, -1074, false⟩
  else ⟨Nat.pow 2 52 + fraction, (biased : Int) - 1075, fraction = 0 && biased != 1⟩

structure Ratio where
  num : Nat
  den : Nat

def Ratio.scaled (n base : Nat) (exponent : Int) : Ratio :=
  if 0 ≤ exponent then ⟨n * Nat.pow base exponent.toNat, 1⟩ else ⟨n, Nat.pow base (-exponent).toNat⟩

def Ratio.mul (a b : Ratio) : Ratio := ⟨a.num * b.num, a.den * b.den⟩

def Ratio.lt (a b : Ratio) : Bool := a.num * b.den < b.num * a.den

def Ratio.le (a b : Ratio) : Bool := a.num * b.den ≤ b.num * a.den

def Ratio.distance (a b : Ratio) : Ratio :=
  ⟨(a.num * b.den - b.num * a.den) + (b.num * a.den - a.num * b.den), a.den * b.den⟩

def Ratio.magnitude (a : Ratio) : Int :=
  if a.den ≤ a.num then ((a.num / a.den).repr.length : Int) - 1
  else
    let places := (a.den / a.num).repr.length
    if a.den ≤ a.num * Nat.pow 10 (places - 1) then -((places : Int) - 1) else -(places : Int)

-- In units of a quarter of the last place, so that both ends of the interval around it are whole.
def Binary.value (x : Binary) : Ratio := .scaled (4 * x.mantissa) 2 (x.exponent - 2)

-- The ends of the interval that reads back belong to it if the mantissa is even.
def Binary.covers (x : Binary) (candidate : Ratio) : Bool :=
  let lower := Ratio.scaled (4 * x.mantissa - if x.narrow then 1 else 2) 2 (x.exponent - 2)
  let upper := Ratio.scaled (4 * x.mantissa + 2) 2 (x.exponent - 2)
  if x.mantissa % 2 = 0 then lower.le candidate && candidate.le upper
  else lower.lt candidate && candidate.lt upper

-- A tie goes to the even candidate.
def Binary.rounded? (x : Binary) (count : Nat) : Option Decimal :=
  let value := x.value
  let exponent := value.magnitude + 1 - (count : Int)
  let grid := value.mul (.scaled 1 10 (-exponent))
  let below := grid.num / grid.den
  let ratio (digits : Nat) := Ratio.scaled digits 10 exponent
  match x.covers (ratio below), x.covers (ratio (below + 1)) with
  | true, true =>
    let low := value.distance (ratio below)
    let high := value.distance (ratio (below + 1))
    if low.lt high || !high.lt low && below % 2 = 0 then some ⟨below, exponent⟩
    else some ⟨below + 1, exponent⟩
  | true, false => some ⟨below, exponent⟩
  | false, true => some ⟨below + 1, exponent⟩
  | false, false => none

def trimZeros : Nat → Decimal → Decimal
  | 0, x => x
  | limit + 1, x =>
    if x.digits % 10 = 0 && x.digits != 0 then trimZeros limit ⟨x.digits / 10, x.exponent + 1⟩
    else x

def enough : Nat := 17

def shortest (x : Binary) : Decimal :=
  match (List.range enough).findSome? fun n => x.rounded? (n + 1) with
  | some found => trimZeros enough found
  | none => ⟨0, 0⟩

def zeros (count : Nat) : String := String.ofList (List.replicate count '0')

-- The first digit of a number that is written without an exponent stands at most so far to either
-- side of the point.
structure Layout where
  before : Int
  behind : Int

def text (layout : Layout) (x : Decimal) : String :=
  let digits := x.digits.repr
  let point := (digits.length : Int) + x.exponent
  if 0 ≤ x.exponent && point ≤ layout.before then digits ++ zeros x.exponent.toNat ++ ".0"
  else if 0 < point && point ≤ layout.before then
    String.ofList (digits.toList.take point.toNat) ++ "." ++
      String.ofList (digits.toList.drop point.toNat)
  else if -layout.behind < point && point ≤ 0 then "0." ++ zeros (-point).toNat ++ digits
  else
    let fraction := digits.toList.drop 1
    String.ofList (digits.toList.take 1) ++
      (if fraction.isEmpty then "" else "." ++ String.ofList fraction) ++ "e" ++
      (if point - 1 < 0 then "-" else "") ++ (point - 1).natAbs.repr

def ofFloat (layout : Layout) (x : Float) : String :=
  let sign := if x.toBits.toNat / Nat.pow 2 63 = 1 then "-" else ""
  let binary := Binary.ofFloat x
  if binary.mantissa = 0 then sign ++ "0.0" else sign ++ (shortest binary).text layout

end Decimal

end Arbor
