import Arbor.Source.Lexical.Word
import Arbor.Source.Literal
import Arbor.Text.Basic

-- Literals between quotes: strings, byte strings and zero-ended strings, each with escapes or raw,
-- characters and bytes. Contents are kept as characters; a byte is the character of its number.
namespace Arbor.Source.Lexical

open Text (hexDigit?)

structure QuoteRules where
  unicode : Bool
  highBytes : Bool
  zero : Bool

namespace QuoteRules

def text : QuoteRules := ⟨true, false, true⟩
def bytes : QuoteRules := ⟨false, true, true⟩
def zeroEnded : QuoteRules := ⟨true, true, false⟩

def allows (rules : QuoteRules) (c : Char) : Bool :=
  (rules.unicode || c.toNat < 0x80) && (rules.zero || c.toNat != 0)

end QuoteRules

-- One to six digits, with underscores after the first. `digits` counts those read so far.
def codePoint? (value digits : Nat) : List Char → Option (Char × List Char)
  | [] => none
  | c :: rest =>
    match hexDigit? c with
    | some digit => if digits = 6 then none else codePoint? (value * 16 + digit) (digits + 1) rest
    | none =>
      if digits = 0 then none
      else if c = '_' then codePoint? value digits rest
      else if c = '\x7d' then
        if value < 0xd800 || (0xdfff < value && value < 0x110000) then some (Char.ofNat value, rest)
        else none
      else none

def escape? (rules : QuoteRules) : List Char → Option (Char × List Char)
  | 'n' :: rest => some ('\n', rest)
  | 'r' :: rest => some ('\r', rest)
  | 't' :: rest => some ('\t', rest)
  | '\\' :: rest => some ('\\', rest)
  | '\'' :: rest => some ('\'', rest)
  | '"' :: rest => some ('"', rest)
  | '0' :: rest => if rules.zero then some ('\x00', rest) else none
  | 'x' :: high :: low :: rest => do
    let value := (← hexDigit? high) * 16 + (← hexDigit? low)
    if (rules.highBytes || value < 0x80) && (rules.zero || value != 0) then
      some (Char.ofNat value, rest)
    else none
  | 'u' :: '\x7b' :: rest => do
    let (c, rest) ← codePoint? 0 0 rest
    if rules.unicode && (rules.zero || c.toNat != 0) then some (c, rest) else none
  | _ => none

def skipContinuation : List Char → Option (List Char)
  | ' ' :: rest | '\t' :: rest | '\n' :: rest => skipContinuation rest
  | '\r' :: '\n' :: rest => skipContinuation rest
  | '\r' :: _ => none
  | [] => none
  | source => some source

-- A line end is one line feed, however it is spelled. Every round takes a character, so as many
-- rounds as the text has characters are enough.
def cooked? (rules : QuoteRules) :
    (rounds : List Char) → (content source : List Char) → Option (List Char × List Char)
  | [], _, _ => none
  | _ :: rounds, content, source =>
    match source with
    | [] => none
    | '"' :: rest => some (content.reverse, rest)
    | '\r' :: '\n' :: rest => cooked? rules rounds ('\n' :: content) rest
    | '\r' :: _ => none
    | '\\' :: '\n' :: rest | '\\' :: '\r' :: '\n' :: rest => do
      cooked? rules rounds content (← skipContinuation rest)
    | '\\' :: rest => do
      let (c, rest) ← escape? rules rest
      cooked? rules rounds (c :: content) rest
    | c :: rest => if rules.allows c then cooked? rules rounds (c :: content) rest else none

def rawContent? (rules : QuoteRules) (hashes content : List Char) :
    List Char → Option (List Char × List Char)
  | [] => none
  | '\r' :: '\n' :: rest => rawContent? rules hashes ('\n' :: '\r' :: content) rest
  | '\r' :: _ => none
  | c :: rest =>
    if c = '"' && hashes.isPrefixOf rest then some (content.reverse, rest.drop hashes.length)
    else if rules.allows c then rawContent? rules hashes (c :: content) rest
    else none

def raw? (rules : QuoteRules) (source : List Char) : Option (List Char × List Char) :=
  let hashes := source.takeWhile (· = '#')
  match source.drop hashes.length with
  | '"' :: rest => if hashes.length ≤ 255 then rawContent? rules hashes [] rest else none
  | _ => none

def single? (rules : QuoteRules) (source : List Char) : Option (Char × List Char) := do
  let (c, rest) ← match source with
    | '\\' :: rest => escape? rules rest
    | c :: rest => if rules.allows c then some (c, rest) else none
    | [] => none
  match rest with
  | '\'' :: rest => some (c, rest)
  | _ => none

def quotedLiteral? (source : List Char) : Option (Literal × List Char) := do
  let text (found : List Char × List Char) : Literal × List Char :=
    (.text (String.ofList found.1), dropSuffix found.2)
  let bytes (found : List Char × List Char) : Literal × List Char :=
    (.bytes (found.1.map fun c => c.toNat.toUInt8), dropSuffix found.2)
  let zeroEnded (found : List Char × List Char) : Literal × List Char :=
    (.zeroEnded, dropSuffix found.2)
  match source with
  | '"' :: rest => text <$> cooked? .text rest [] rest
  | 'r' :: rest => text <$> raw? .text rest
  | 'b' :: '"' :: rest => bytes <$> cooked? .bytes rest [] rest
  | 'b' :: 'r' :: rest => bytes <$> raw? .bytes rest
  | 'b' :: '\'' :: rest => do
    let (c, rest) ← single? .bytes rest
    some (.byte c.toNat.toUInt8, dropSuffix rest)
  | 'c' :: '"' :: rest => zeroEnded <$> cooked? .zeroEnded rest [] rest
  | 'c' :: 'r' :: rest => zeroEnded <$> raw? .zeroEnded rest
  | '\'' :: rest => do
    let (c, rest) ← single? .text rest
    some (.char c, dropSuffix rest)
  | _ => none

end Arbor.Source.Lexical
