import Arbor.Source.Literal
import Arbor.Source.Lexical.Quoted
import Arbor.Source.Lexical.Word

-- Numbers of source code. A number is first cut off the text, together with any word that follows
-- it at once, and then split into its value and its suffix.
namespace Arbor.Source.Lexical

open Text (hexDigit?)

def isDigit (c : Char) : Bool := '0' ≤ c && c ≤ '9'

structure Mantissa where
  point : Bool
  exponent : Bool
  rest : List Char

-- A point before another point or before a word belongs to no number.
def mantissa? (point : Bool) : List Char → Option Mantissa
  | [] => some ⟨point, false, []⟩
  | c :: rest =>
    if isDigit c || c = '_' then mantissa? point rest
    else if c = '.' then
      if point then some ⟨point, false, c :: rest⟩
      else if rest.head?.any fun d => d = '.' || Text.isIdentifierStart d then none
      else mantissa? true rest
    else some ⟨point, c = 'e' || c = 'E', c :: rest⟩

def exponent? (signed valued : Bool) : List Char → Option (List Char)
  | [] => if valued then some [] else none
  | c :: rest =>
    if c = '+' || c = '-' then
      if valued then some (c :: rest) else if signed then none else exponent? true valued rest
    else if isDigit c then exponent? signed true rest
    else if c = '_' then exponent? signed valued rest
    else if valued then some (c :: rest)
    else none

def behindNumber? (source : List Char) : Option (List Char) :=
  let rest := dropSuffix source
  if rest.head?.any Text.isIdentifierPart then none else some rest

-- An exponent without digits is left to the suffix, if there is a point.
def decimalEnd? (source : List Char) : Option (List Char) := do
  match source with
  | first :: rest =>
    if !isDigit first then none
    let mantissa ← mantissa? false rest
    if mantissa.exponent then
      match exponent? false false mantissa.rest.tail with
      | some rest => behindNumber? rest
      | none => if mantissa.point then behindNumber? mantissa.rest else none
    else if mantissa.point then behindNumber? mantissa.rest
    else none
  | [] => none

def baseOf : List Char → Nat × List Char
  | '0' :: 'x' :: rest => (16, rest)
  | '0' :: 'o' :: rest => (8, rest)
  | '0' :: 'b' :: rest => (2, rest)
  | source => (10, source)

-- `empty` says whether no digit has been met. A decimal digit too great for the base belongs to no
-- number.
def digitsEnd? (base : Nat) (empty : Bool) : List Char → Option (List Char)
  | [] => if empty then none else some []
  | c :: rest =>
    if c = '_' then if empty && base = 10 then none else digitsEnd? base empty rest
    else match hexDigit? c with
      | some digit =>
        if digit < base then digitsEnd? base false rest
        else if isDigit c then none
        else if empty then none else some (c :: rest)
      | none => if empty then none else some (c :: rest)

def integerEnd? (source : List Char) : Option (List Char) := do
  let (base, digits) := baseOf source
  behindNumber? (← digitsEnd? base true digits)

def isSuffix (text : List Char) : Bool :=
  match text with
  | [] => true
  | c :: rest => Text.isIdentifierStart c && rest.all Text.isIdentifierPart

-- A sign behind the mark makes the number a decimal one, and so do digits with nothing but a suffix
-- behind them.
def marksDecimal (valued : Bool) : List Char → Bool
  | [] => valued
  | c :: rest =>
    if c = '_' then marksDecimal valued rest
    else if c = '+' || c = '-' then true
    else if isDigit c then marksDecimal true rest
    else valued && isSuffix (c :: rest)

def integerParts? (base value : Nat) (empty : Bool) : List Char → Option (Nat × List Char)
  | [] => if empty then none else some (value, [])
  | c :: rest =>
    let suffix : Option (Nat × List Char) :=
      if !empty && isSuffix (c :: rest) then some (value, c :: rest) else none
    if c = '_' then integerParts? base value empty rest
    else if base = 10 && c = '.' then none
    else if base = 10 && (c = 'e' || c = 'E') then
      if marksDecimal false rest then none else suffix
    else match hexDigit? c with
      | some digit =>
        if isDigit c || base = 16 then
          if digit < base then integerParts? base (value * base + digit) false rest else none
        else suffix
      | none => suffix

structure DecimalState where
  point : Bool := false
  mark : Bool := false
  signed : Bool := false
  valued : Bool := false
  digits : List Char := []

def decimalParts? (state : DecimalState) : List Char → Option (List Char × List Char)
  | [] => if state.mark && !state.valued then none else some (state.digits.reverse, [])
  | c :: rest =>
    let suffix : Option (List Char × List Char) :=
      if state.mark && !state.valued then none
      else if isSuffix (c :: rest) then some (state.digits.reverse, c :: rest)
      else none
    if c = '_' then decimalParts? state rest
    else if isDigit c then
      decimalParts? { state with valued := state.valued || state.mark, digits := c :: state.digits } rest
    else if c = '.' then
      if state.mark || state.point then none
      else decimalParts? { state with point := true, digits := c :: state.digits } rest
    else if c = 'e' || c = 'E' then
      match rest.dropWhile (· = '_') with
      | [] => suffix
      | d :: _ =>
        if d = '+' || d = '-' || isDigit d then
          if state.mark then (if state.valued then suffix else none)
          else decimalParts? { state with mark := true, digits := 'e' :: state.digits } rest
        else suffix
    else if c = '-' || c = '+' then
      if state.signed || state.valued || !state.mark then none
      else decimalParts?
        { state with signed := true, digits := if c = '-' then c :: state.digits else state.digits } rest
    else suffix

def numberOf (spelling : List Char) : Literal :=
  let (base, digits) := baseOf spelling
  match integerParts? base 0 true digits with
  | some (value, suffix) => .integer false value (String.ofList suffix)
  | none =>
    match decimalParts? {} spelling with
    | some (digits, suffix) => .decimal false (String.ofList digits) (String.ofList suffix)
    | none => .verbatim (String.ofList spelling)

def isNumberChar (c : Char) : Bool := Text.isIdentifierPart c || c = '.' || c = '+' || c = '-'

def number? (source : List Char) : Option (Literal × List Char × List Char) := do
  if !source.head?.any isDigit then none
  let front := source.takeWhile isNumberChar
  let rest ← decimalEnd? front <|> integerEnd? front
  let count := front.length - rest.length
  some (numberOf (front.take count), front.take count, source.drop count)

end Arbor.Source.Lexical
