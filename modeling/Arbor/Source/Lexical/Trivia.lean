import Arbor.Text.Basic

-- White space and comments between the tokens of source code. Documentation comments are not among
-- them: they stand for attributes.
namespace Arbor.Source.Lexical

def isSourceBlank (c : Char) : Bool := Text.isBlank c || c = '\u200e' || c = '\u200f'

-- Where a text begins: between tokens, in a comment up to the end of its line, or in a comment
-- between brackets with this many further ones around it.
inductive Within where
  | gap
  | line
  | block (outer : Nat)

-- An exclamation mark documents, and so does exactly one more slash.
def documentsLine : List Char → Bool
  | '!' :: _ => true
  | '/' :: '/' :: _ => false
  | '/' :: _ => true
  | _ => false

-- An exclamation mark documents, and so does exactly one more star.
def documentsBlock : List Char → Bool
  | '!' :: _ => true
  | '*' :: '*' :: _ => false
  | '*' :: '/' :: _ => false
  | '*' :: _ => true
  | _ => false

def skipGap : Within → List Char → Option (List Char)
  | .gap, [] => some []
  | .gap, '/' :: '/' :: rest =>
    if documentsLine rest then some ('/' :: '/' :: rest) else skipGap .line rest
  | .gap, '/' :: '*' :: rest =>
    if documentsBlock rest then some ('/' :: '*' :: rest) else skipGap (.block 0) rest
  | .gap, c :: rest => if isSourceBlank c then skipGap .gap rest else some (c :: rest)
  | .line, [] => some []
  | .line, '\n' :: rest => skipGap .gap rest
  | .line, _ :: rest => skipGap .line rest
  | .block _, [] => none
  | .block outer, '/' :: '*' :: rest => skipGap (.block (outer + 1)) rest
  | .block 0, '*' :: '/' :: rest => skipGap .gap rest
  | .block (outer + 1), '*' :: '/' :: rest => skipGap (.block outer) rest
  | .block outer, _ :: rest => skipGap (.block outer) rest

def lineContent (content : List Char) : List Char → List Char × List Char
  | [] => (content.reverse, [])
  | '\r' :: '\n' :: rest => (content.reverse, '\n' :: rest)
  | '\n' :: rest => (content.reverse, '\n' :: rest)
  | c :: rest => lineContent (c :: content) rest

def blockContent (outer : Nat) (content : List Char) : List Char → Option (List Char × List Char)
  | [] => none
  | '/' :: '*' :: rest => blockContent (outer + 1) ('*' :: '/' :: content) rest
  | '*' :: '/' :: rest =>
    match outer with
    | 0 => some (content.reverse, rest)
    | outer + 1 => blockContent outer ('/' :: '*' :: content) rest
  | c :: rest => blockContent outer (c :: content) rest

def hasBareReturn : List Char → Bool
  | [] => false
  | '\r' :: '\n' :: rest => hasBareReturn rest
  | '\r' :: _ => true
  | _ :: rest => hasBareReturn rest

structure Documentation where
  inner : Bool
  content : List Char
  rest : List Char

def documentation? (source : List Char) : Option Documentation := do
  let found : Documentation ← match source with
    | '/' :: '/' :: '!' :: rest => let (content, rest) := lineContent [] rest; pure ⟨true, content, rest⟩
    | '/' :: '/' :: '/' :: rest =>
      if rest.head? = some '/' then none
      else let (content, rest) := lineContent [] rest; pure ⟨false, content, rest⟩
    | '/' :: '*' :: '!' :: rest =>
      let (content, rest) ← blockContent 0 [] rest; pure ⟨true, content, rest⟩
    | '/' :: '*' :: '*' :: rest =>
      if rest.head? = some '*' || rest.head? = some '/' then none
      else let (content, rest) ← blockContent 0 [] rest; pure ⟨false, content, rest⟩
    | _ => none
  if hasBareReturn found.content then none else some found

end Arbor.Source.Lexical
