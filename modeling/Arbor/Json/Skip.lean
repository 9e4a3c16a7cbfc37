import Arbor.Json.Number
import Arbor.Json.Text

-- Passing over a value that means nothing to a tree. Brackets whose end has not been met are kept
-- in a list, innermost first, so that no depth is too great.
namespace Arbor.Json

def readWord (word text : List Char) : Except Fault (List Char) :=
  match word, text with
  | [], text => .ok text
  | _ :: _, [] => .error (.behind .endOfValue [])
  | c :: word, d :: text => if c = d then readWord word text else .error (.at .unknownWord (d :: text))

theorem readWord_le {word text rest : List Char} (read : readWord word text = .ok rest) :
    rest.length ≤ text.length := by
  fun_induction readWord word text with
  | case1 => cases read; exact Nat.le_refl _
  | case2 => cases read
  | case3 c word text ih => exact Nat.le_succ_of_le (ih read)
  | case4 => cases read

def readColon (text : List Char) : Except Fault (List Char) :=
  match skipBlank text with
  | [] => .error (.at .endOfObject [])
  | ':' :: rest => .ok rest
  | rest => .error (.at .expectedColon rest)

theorem readColon_lt {text rest : List Char} (read : readColon text = .ok rest) :
    rest.length < text.length := by
  unfold readColon at read
  split at read
  · cases read
  · rename_i ahead
    cases read
    exact lt_of_skipBlank ahead
  · cases read

inductive Bracket where
  | list
  | object
deriving DecidableEq

namespace Bracket

def closing : Bracket → Char
  | .list => ']'
  | .object => '\x7d'

def atEnd : Bracket → Cause
  | .list => .endOfList
  | .object => .endOfObject

def afterValue : Bracket → Cause
  | .list => .expectedCommaOrBracket
  | .object => .expectedCommaOrBrace

end Bracket

-- What is expected next: a value, the first element or the end of a bracket, or what may follow a
-- value.
inductive Stage where
  | value
  | first
  | after
deriving DecidableEq

def Stage.rank : Stage → Nat
  | .first => 1
  | _ => 0

def skipScalar (text : List Char) : Except Fault (List Char) :=
  match text with
  | 'n' :: rest => readWord ['u', 'l', 'l'] rest
  | 't' :: rest => readWord ['r', 'u', 'e'] rest
  | 'f' :: rest => readWord ['a', 'l', 's', 'e'] rest
  | '-' :: rest => skipNumber rest
  | '"' :: rest => skipText rest
  | c :: rest => if c.isDigit then skipNumber (c :: rest) else .error (.at .expectedValue (c :: rest))
  | [] => .error (.at .endOfValue [])

theorem skipScalar_lt {text rest : List Char} (skipped : skipScalar text = .ok rest) :
    rest.length < text.length := by
  unfold skipScalar at skipped
  split at skipped
  · exact Nat.lt_succ_of_le (readWord_le skipped)
  · exact Nat.lt_succ_of_le (readWord_le skipped)
  · exact Nat.lt_succ_of_le (readWord_le skipped)
  · exact Nat.lt_succ_of_lt (skipNumber_lt skipped)
  · exact Nat.lt_succ_of_lt (skipText_lt skipped)
  · split at skipped
    · exact skipNumber_lt skipped
    · cases skipped
  · cases skipped

def skipKey (bracket : Bracket) (text : List Char) : Except Fault (List Char) :=
  match bracket with
  | .list => .ok text
  | .object =>
    match skipBlank text with
    | [] => .error (.at .endOfObject [])
    | '"' :: rest =>
      match skipText rest with
      | .error fault => .error fault
      | .ok rest => readColon rest
    | rest => .error (.at .keyNotString rest)

theorem skipKey_le {bracket : Bracket} {text rest : List Char}
    (skipped : skipKey bracket text = .ok rest) : rest.length ≤ text.length := by
  unfold skipKey at skipped
  split at skipped
  · cases skipped; exact Nat.le_refl _
  · split at skipped
    · cases skipped
    · rename_i tail ahead
      have := lt_of_skipBlank ahead
      split at skipped
      · cases skipped
      · rename_i found
        have := skipText_lt found
        have := readColon_lt skipped
        omega
    · cases skipped

def skipFrom (stage : Stage) (brackets : List Bracket) (text : List Char) :
    Except Fault (List Char) :=
  match stage, brackets with
  | .value, brackets =>
    match ahead : skipBlank text with
    | '[' :: rest =>
      have := lt_of_skipBlank ahead
      skipFrom .first (.list :: brackets) rest
    | '\x7b' :: rest =>
      have := lt_of_skipBlank ahead
      skipFrom .first (.object :: brackets) rest
    | text' =>
      match found : skipScalar text' with
      | .error fault => .error fault
      | .ok rest =>
        have : rest.length < text.length :=
          Nat.lt_of_lt_of_le (skipScalar_lt found) (ahead ▸ skipBlank_length_le text)
        skipFrom .after brackets rest
  | _, [] => .ok text
  | stage, bracket :: outer =>
    match ahead : skipBlank text with
    | [] => .error (.at bracket.atEnd [])
    | c :: rest =>
      have := lt_of_skipBlank ahead
      if c = bracket.closing then skipFrom .after outer rest
      else if _ : stage = .first then
        match found : skipKey bracket (c :: rest) with
        | .error fault => .error fault
        | .ok behind =>
          have : behind.length ≤ text.length :=
            Nat.le_trans (skipKey_le found) (ahead ▸ skipBlank_length_le text)
          skipFrom .value (bracket :: outer) behind
      else if c = ',' then
        match found : skipKey bracket rest with
        | .error fault => .error fault
        | .ok behind =>
          have := skipKey_le found
          skipFrom .value (bracket :: outer) behind
      else .error (.at bracket.afterValue (c :: rest))
termination_by 2 * text.length + stage.rank
decreasing_by
  all_goals simp_all only [Stage.rank]
  all_goals omega

def skipValue (text : List Char) : Except Fault (List Char) := skipFrom .value [] text

theorem skipFrom_le {stage : Stage} {brackets : List Bracket} {text rest : List Char}
    (skipped : skipFrom stage brackets text = .ok rest) : rest.length ≤ text.length := by
  fun_induction skipFrom stage brackets text with
  | case1 => rename_i ih; have := ih skipped; omega
  | case2 => rename_i ih; have := ih skipped; omega
  | case3 => cases skipped
  | case4 => rename_i ih; have := ih skipped; omega
  | case5 => cases skipped; exact Nat.le_refl _
  | case6 => cases skipped
  | case7 => rename_i ih; have := ih skipped; omega
  | case8 => cases skipped
  | case9 => rename_i ih; have := ih skipped; omega
  | case10 => cases skipped
  | case11 => rename_i ih; have := ih skipped; omega
  | case12 => cases skipped

end Arbor.Json
