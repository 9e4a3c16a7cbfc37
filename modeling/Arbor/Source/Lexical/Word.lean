import Arbor.Text.Identifier

-- Identifiers and keywords of source code.
namespace Arbor.Source.Lexical

def plainWord? : List Char → Option (List Char × List Char)
  | c :: rest =>
    if Text.isIdentifierStart c then
      some (c :: rest.takeWhile Text.isIdentifierPart, rest.dropWhile Text.isIdentifierPart)
    else none
  | [] => none

def neverRaw : List (List Char) := ["_", "super", "self", "Self", "crate"].map String.toList

def anyWord? : List Char → Option (List Char × List Char)
  | 'r' :: '#' :: rest => do
    let (word, rest) ← plainWord? rest
    if neverRaw.contains word then none else some ('r' :: '#' :: word, rest)
  | source => plainWord? source

def literalOpenings : List (List Char) :=
  ["r\"", "r#\"", "r##", "b\"", "b'", "br\"", "br#", "c\"", "cr\"", "cr#"].map String.toList

-- A literal wins over a word with the same beginning.
def word? (source : List Char) : Option (List Char × List Char) :=
  if literalOpenings.any (·.isPrefixOf source) then none else anyWord? source

def dropSuffix (source : List Char) : List Char :=
  match plainWord? source with
  | some (_, rest) => rest
  | none => source

end Arbor.Source.Lexical
