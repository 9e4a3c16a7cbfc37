import Arbor.Source.Token
import Arbor.Source.Lexical.Number
import Arbor.Source.Lexical.Trivia

-- The tokens of a source text. A text is refused if some stretch of it is no token, or if its
-- brackets do not match. Brackets that are still open are kept in a list, innermost first.
namespace Arbor.Source.Lexical

def signChars : List Char := "~!@#$%^&*-=+|;:,<.>/?'".toList

def beginsSign : List Char → Bool
  | '/' :: '/' :: _ => false
  | '/' :: '*' :: _ => false
  | c :: _ => signChars.contains c
  | [] => false

-- An apostrophe must begin a lifetime.
def sign? (source : List Char) : Option (Token × List Char) := do
  if !beginsSign source then none
  match source with
  | '\'' :: rest =>
    let (word, behind) ← anyWord? rest
    if behind.head? = some '\'' then none
    else if behind.head? = some '#' && !(['r', '#'].isPrefixOf word) then none
    else some (.sign '\'' true, rest)
  | c :: rest => some (.sign c (beginsSign rest), rest)
  | [] => none

def failedExpansion : List Char := "(/*ERROR*/)".toList

def leaf? (source : List Char) : Option (Token × List Char) :=
  match quotedLiteral? source with
  | some (value, rest) => some (.literal value "", rest)
  | none =>
    match number? source with
    | some (value, spelling, rest) => some (.literal value (String.ofList spelling), rest)
    | none =>
      match sign? source with
      | some found => some found
      | none =>
        match word? source with
        | some (word, rest) => some (.word (String.ofList word), rest)
        | none =>
          if failedExpansion.isPrefixOf source then
            some (.literal (.verbatim (String.ofList failedExpansion)) "",
              source.drop failedExpansion.length)
          else none

def opening? : Char → Option Delimiter
  | '(' => some .paren
  | '[' => some .bracket
  | '\x7b' => some .brace
  | _ => none

def closing? : Char → Option Delimiter
  | ')' => some .paren
  | ']' => some .bracket
  | '\x7d' => some .brace
  | _ => none

def Documentation.tokens (found : Documentation) : List Token :=
  let content := String.ofList found.content
  [.sign '#' false] ++ (if found.inner then [.sign '!' false] else []) ++
    [.group .bracket [.word "doc", .sign '=' false, .literal (.text content) ""]]

structure OpenGroup where
  delimiter : Delimiter
  before : List Token

-- `done` are the tokens behind the innermost open bracket, last first. Every round takes a
-- character, so the length of the text is fuel enough.
def tokensFrom : Nat → List OpenGroup → List Token → List Char → Option (List Token)
  | 0, _, _, _ => none
  | fuel + 1, groups, done, source => do
    let source ← skipGap .gap source
    match documentation? source with
    | some found => tokensFrom fuel groups (found.tokens.reverse ++ done) found.rest
    | none =>
      match source with
      | [] => if groups.isEmpty then some done.reverse else none
      | c :: rest =>
        match opening? c, closing? c with
        | some delimiter, _ =>
          if failedExpansion.isPrefixOf source then
            let (token, rest) ← leaf? source
            tokensFrom fuel groups (token :: done) rest
          else tokensFrom fuel (⟨delimiter, done⟩ :: groups) [] rest
        | none, some delimiter =>
          match groups with
          | [] => none
          | group :: outer =>
            if group.delimiter = delimiter then
              tokensFrom fuel outer (.group delimiter done.reverse :: group.before) rest
            else none
        | none, none =>
          let (token, rest) ← leaf? source
          tokensFrom fuel groups (token :: done) rest

def byteOrderMark : Char := '\ufeff'

def dropMark : List Char → List Char
  | c :: rest => if c = byteOrderMark then rest else c :: rest
  | [] => []

-- A line that begins an attribute is kept.
def dropInterpreter (source : List Char) : List Char :=
  match source with
  | '#' :: '!' :: rest =>
    if ((skipGap .gap rest).bind List.head?) = some '[' then source
    else source.dropWhile (· != '\n')
  | _ => source

-- A mark may also stand at the front of what an interpreter's line leaves.
def tokens? (source : String) : Option (List Token) :=
  let text := dropMark (dropInterpreter (dropMark source.toList))
  tokensFrom (text.length + 1) [] [] text

end Arbor.Source.Lexical
