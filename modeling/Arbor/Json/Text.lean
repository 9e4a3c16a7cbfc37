import Arbor.Json.Fault
import Arbor.Text.Basic

-- Strings of a JSON source, from behind their opening quote.
namespace Arbor.Json

open Text (hexDigit?)

def readUnit (text : List Char) : Except Fault (Nat × List Char) :=
  match text with
  | a :: b :: c :: d :: rest =>
    match hexDigit? a, hexDigit? b, hexDigit? c, hexDigit? d with
    | some a, some b, some c, some d => .ok (((a * 16 + b) * 16 + c) * 16 + d, rest)
    | _, _, _, _ => .error ⟨.invalidEscape, text, 4⟩
  | _ => if byteCount text < 4 then .error (.behind .endOfString []) else .error ⟨.invalidEscape, text, 4⟩

theorem readUnit_lt {text rest : List Char} {unit : Nat} (read : readUnit text = .ok (unit, rest)) :
    rest.length < text.length := by
  unfold readUnit at read
  split at read
  · split at read <;> cases read
    simp only [List.length_cons]
    omega
  · split at read <;> cases read

def isLeading (unit : Nat) : Bool := 0xD800 ≤ unit && unit ≤ 0xDBFF

def isTrailing (unit : Nat) : Bool := 0xDC00 ≤ unit && unit ≤ 0xDFFF

def paired (leading trailing : Nat) : Char :=
  Char.ofNat (0x10000 + (leading - 0xD800) * 0x400 + (trailing - 0xDC00))

def readTrailing (leading : Nat) (text : List Char) : Except Fault (Char × List Char) :=
  match text with
  | [] => .error (.behind .endOfString [])
  | '\\' :: [] => .error (.behind .endOfString [])
  | '\\' :: 'u' :: rest =>
    match readUnit rest with
    | .error fault => .error fault
    | .ok (unit, rest) =>
      if isTrailing unit then .ok (paired leading unit, rest) else .error (.behind .loneSurrogate rest)
  | '\\' :: rest => .error (.at .unfinishedEscape rest)
  | rest => .error (.at .unfinishedEscape rest)

theorem readTrailing_lt {leading : Nat} {text rest : List Char} {c : Char}
    (read : readTrailing leading text = .ok (c, rest)) : rest.length < text.length := by
  unfold readTrailing at read
  split at read
  · cases read
  · cases read
  · split at read
    · cases read
    · rename_i found
      have := readUnit_lt found
      split at read
      · simp only [Except.ok.injEq, Prod.mk.injEq] at read
        simp only [List.length_cons, ← read.2]
        omega
      · cases read
  · cases read
  · cases read

def unescape? (c : Char) : Option Char :=
  if c = '"' then some '"'
  else if c = '\\' then some '\\'
  else if c = '/' then some '/'
  else if c = 'b' then some '\x08'
  else if c = 'f' then some '\x0c'
  else if c = 'n' then some '\n'
  else if c = 'r' then some '\r'
  else if c = 't' then some '\t'
  else none

def readEscape (text : List Char) : Except Fault (Char × List Char) :=
  match text with
  | [] => .error (.behind .endOfString [])
  | 'u' :: rest =>
    match readUnit rest with
    | .error fault => .error fault
    | .ok (unit, rest) =>
      if isTrailing unit then .error (.behind .loneSurrogate rest)
      else if isLeading unit then readTrailing unit rest
      else .ok (Char.ofNat unit, rest)
  | c :: rest =>
    match unescape? c with
    | some plain => .ok (plain, rest)
    | none => .error (.at .invalidEscape (c :: rest))

theorem readEscape_lt {text rest : List Char} {c : Char} (read : readEscape text = .ok (c, rest)) :
    rest.length < text.length := by
  unfold readEscape at read
  split at read
  · cases read
  · split at read
    · cases read
    · rename_i found
      have := readUnit_lt found
      split at read
      · cases read
      · split at read
        · have := readTrailing_lt read
          simp only [List.length_cons]
          omega
        · simp only [Except.ok.injEq, Prod.mk.injEq] at read
          simp only [List.length_cons, ← read.2]
          omega
  · split at read <;> cases read
    exact Nat.lt_succ_self _

def isControl (c : Char) : Bool := c.toNat < 0x20

-- `content` is what has been read of the string, last character first.
def readText (content text : List Char) : Except Fault (String × List Char) :=
  match text with
  | [] => .error (.behind .endOfString [])
  | '"' :: rest => .ok (String.ofList content.reverse, rest)
  | '\\' :: rest =>
    match found : readEscape rest with
    | .error fault => .error fault
    | .ok (c, rest) =>
      have := readEscape_lt found
      readText (c :: content) rest
  | c :: rest =>
    if isControl c then .error (.at .controlCharacter (c :: rest)) else readText (c :: content) rest
termination_by text.length

theorem readText_lt {content text rest : List Char} {read : String}
    (found : readText content text = .ok (read, rest)) : rest.length < text.length := by
  fun_induction readText content text with
  | case1 => cases found
  | case2 => cases found; exact Nat.lt_succ_self _
  | case3 => cases found
  | case4 content tail c behind escape _ ih =>
    have := ih found
    have := readEscape_lt escape
    simp only [List.length_cons]
    omega
  | case5 => cases found
  | case6 content c tail _ _ _ ih =>
    have := ih found
    simp only [List.length_cons]
    omega

-- Where nothing is made of a string, surrogates need not pair up.
def skipEscape (text : List Char) : Except Fault (List Char) :=
  match text with
  | [] => .error (.behind .endOfString [])
  | 'u' :: rest =>
    match readUnit rest with
    | .error fault => .error fault
    | .ok (_, rest) => .ok rest
  | c :: rest =>
    match unescape? c with
    | some _ => .ok rest
    | none => .error (.at .invalidEscape (c :: rest))

theorem skipEscape_lt {text rest : List Char} (skipped : skipEscape text = .ok rest) :
    rest.length < text.length := by
  unfold skipEscape at skipped
  split at skipped
  · cases skipped
  · split at skipped <;> cases skipped
    rename_i found
    have := readUnit_lt found
    simp only [List.length_cons]
    omega
  · split at skipped <;> cases skipped
    exact Nat.lt_succ_self _

def skipText (text : List Char) : Except Fault (List Char) :=
  match text with
  | [] => .error (.behind .endOfString [])
  | '"' :: rest => .ok rest
  | '\\' :: rest =>
    match found : skipEscape rest with
    | .error fault => .error fault
    | .ok rest =>
      have := skipEscape_lt found
      skipText rest
  | c :: rest =>
    if isControl c then .error (.behind .controlCharacter (c :: rest)) else skipText rest
termination_by text.length

theorem skipText_lt {text rest : List Char} (skipped : skipText text = .ok rest) :
    rest.length < text.length := by
  fun_induction skipText text with
  | case1 => cases skipped
  | case2 => cases skipped; exact Nat.lt_succ_self _
  | case3 => cases skipped
  | case4 tail behind escape _ ih =>
    have := ih skipped
    have := skipEscape_lt escape
    simp only [List.length_cons]
    omega
  | case5 => cases skipped
  | case6 c tail _ _ _ ih =>
    have := ih skipped
    simp only [List.length_cons]
    omega

end Arbor.Json
