import Arbor.Text.Alphanumeric
import Arbor.Text.Basic
import Arbor.Text.Position

-- Tokens of the parenthesised notation. White space, and a comment from a semicolon to the end of
-- its line, may stand between them and mean nothing.
namespace Arbor.Sexpr

inductive Token where
  | opening
  | closing
  | word (text : String)
  | value (text : String)
deriving DecidableEq

inductive Cause where
  | unexpectedCharacter (c : Char)
  | unknownEscape (c : Char)
  | unterminatedValue
  | afterRoot
  | missingKind
  | misplacedValue
  | unexpectedWord (word : String)
  | unmatchedClosing
  | unclosed (count : Nat)
deriving DecidableEq

def Cause.text : Cause → String
  | .unexpectedCharacter c => "unexpected character '" ++ String.singleton c ++ "'"
  | .unknownEscape c => "unknown escape '\\" ++ String.singleton c ++ "'"
  | .unterminatedValue => "unterminated string"
  | .afterRoot => "unexpected input after the root node"
  | .missingKind => "expected node kind after '('"
  | .misplacedValue => "a value must directly follow the node kind"
  | .unexpectedWord word => "unexpected word '" ++ word ++ "'; values must be quoted"
  | .unmatchedClosing => "unmatched ')'"
  | .unclosed count => count.repr ++ " unclosed node(s) at end of input"

structure Fault where
  cause : Cause
  place : Text.Position

-- What is unread, and the place that has been counted up to there.
structure Cursor where
  rest : List Char
  place : Text.Position

def Cursor.start (source : String) : Cursor := ⟨source.toList, .start⟩

structure Lexeme where
  token : Token
  place : Text.Position

-- Signs that words may hold besides letters and digits.
def wordSigns : List Char :=
  ['_', '-', '.', ':', '+', '*', '/', '<', '>', '=', '!', '?', '&', '%', '^', '|', '~', '@', '#', '$']

def isWordChar (c : Char) : Bool := Text.isAlphanumeric c || wordSigns.contains c

-- `comment` says whether the text begins inside a comment.
def skipTrivia (comment : Bool) (place : Text.Position) : List Char → Cursor
  | [] => ⟨[], place⟩
  | c :: rest =>
    if comment then skipTrivia (c != '\n') (place.advance c) rest
    else if Text.isBlank c then skipTrivia false (place.advance c) rest
    else if c = ';' then skipTrivia true (place.advance c) rest
    else ⟨c :: rest, place⟩

def readWord (letters : List Char) (place : Text.Position) : List Char → String × Cursor
  | [] => (String.ofList letters.reverse, ⟨[], place⟩)
  | c :: rest =>
    if isWordChar c then readWord (c :: letters) (place.advance c) rest
    else (String.ofList letters.reverse, ⟨c :: rest, place⟩)

def unescape? (c : Char) : Option Char :=
  if c = '"' then some '"'
  else if c = '\\' then some '\\'
  else if c = 'n' then some '\n'
  else if c = 't' then some '\t'
  else none

-- `start` is the place of the opening quote, which has been read. The backslash of an unknown escape
-- is found one column back from the place behind it.
def readValue (start : Text.Position) (content : List Char) (place : Text.Position) :
    List Char → Except Fault (String × Cursor)
  | [] => .error ⟨.unterminatedValue, start⟩
  | '"' :: rest => .ok (String.ofList content.reverse, ⟨rest, place.advance '"'⟩)
  | ['\\'] => .error ⟨.unterminatedValue, start⟩
  | '\\' :: c :: rest =>
    match unescape? c with
    | some plain => readValue start (plain :: content) ((place.advance '\\').advance c) rest
    | none =>
      .error ⟨.unknownEscape c, (place.advance '\\').line, (place.advance '\\').column - 1⟩
  | c :: rest => readValue start (c :: content) (place.advance c) rest

-- The first token, if there is one, and the cursor behind what has been read.
def next (cursor : Cursor) : Except Fault (Option Lexeme × Cursor) :=
  match skipTrivia false cursor.place cursor.rest with
  | ⟨[], place⟩ => .ok (none, ⟨[], place⟩)
  | ⟨c :: rest, place⟩ =>
    if c = '(' then .ok (some ⟨.opening, place⟩, ⟨rest, place.advance c⟩)
    else if c = ')' then .ok (some ⟨.closing, place⟩, ⟨rest, place.advance c⟩)
    else if c = '"' then
      match readValue place [] (place.advance c) rest with
      | .ok (text, behind) => .ok (some ⟨.value text, place⟩, behind)
      | .error fault => .error fault
    else if isWordChar c then
      match readWord [] place (c :: rest) with
      | (text, behind) => .ok (some ⟨.word text, place⟩, behind)
    else .error ⟨.unexpectedCharacter c, place⟩

theorem skipTrivia_length_le (comment : Bool) (place : Text.Position) (text : List Char) :
    (skipTrivia comment place text).rest.length ≤ text.length := by
  fun_induction skipTrivia comment place text with
  | case1 => exact Nat.le_refl _
  | case2 _ _ _ ih | case3 _ _ _ _ _ _ ih | case4 _ _ _ _ _ ih => exact Nat.le_succ_of_le ih
  | case5 => exact Nat.le_refl _

theorem readWord_length_le (letters : List Char) (place : Text.Position) (text : List Char) :
    (readWord letters place text).2.rest.length ≤ text.length := by
  fun_induction readWord letters place text with
  | case1 => exact Nat.le_refl _
  | case2 _ _ _ _ _ ih => exact Nat.le_succ_of_le ih
  | case3 => exact Nat.le_refl _

theorem readValue_length_le {start place : Text.Position} {content text : List Char}
    {value : String} {behind : Cursor}
    (read : readValue start content place text = .ok (value, behind)) :
    behind.rest.length ≤ text.length := by
  fun_induction readValue start content place text with
  | case1 => cases read
  | case2 => cases read; exact Nat.le_succ _
  | case3 => cases read
  | case4 content place c tail plain found ih =>
    have := ih read
    simp only [List.length_cons]
    omega
  | case5 => cases read
  | case6 content place c tail _ _ _ ih => exact Nat.le_succ_of_le (ih read)

-- A token takes at least one character, so the unread text gets shorter and the reader ends.
theorem next_rest_lt {cursor behind : Cursor} {lexeme : Lexeme}
    (found : next cursor = .ok (some lexeme, behind)) :
    behind.rest.length < cursor.rest.length := by
  have shorter := skipTrivia_length_le false cursor.place cursor.rest
  unfold next at found
  split at found
  · cases found
  · rename_i c rest place trimmed
    rw [trimmed, List.length_cons] at shorter
    split at found
    · cases found; exact shorter
    · split at found
      · cases found; exact shorter
      · split at found
        · split at found
          · rename_i text behind read
            cases found
            exact Nat.lt_of_lt_of_le (Nat.lt_succ_of_le (readValue_length_le read)) shorter
          · cases found
        · split at found
          · rename_i letter
            rw [readWord, if_pos letter] at found
            cases found
            exact Nat.lt_of_lt_of_le (Nat.lt_succ_of_le (readWord_length_le ..)) shorter
          · cases found

end Arbor.Sexpr
