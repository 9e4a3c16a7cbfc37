import Arbor.Json.Skip
import Arbor.Text.Basic
import Arbor.Text.Quoted
import Arbor.Tree.Basic

-- Reading a tree from JSON. A node is an object with the members `kind`, `value` and `children`, of
-- which only the first must be there and others mean nothing, or a list of the same three, of which
-- the later ones may be missing. A source holds one node. Nodes whose end has not been met are kept
-- in a list, innermost first, so that no depth is too great.
namespace Arbor.Json

def mismatch (expected : Expected) (text : List Char) : Fault :=
  let found : Except Fault (Found × List Char) :=
    match text with
    | 'n' :: rest => (readWord ['u', 'l', 'l'] rest).map (.null, ·)
    | 't' :: rest => (readWord ['r', 'u', 'e'] rest).map (.boolean true, ·)
    | 'f' :: rest => (readWord ['a', 'l', 's', 'e'] rest).map (.boolean false, ·)
    | '-' :: rest => readNumber true rest
    | '"' :: rest => (readText [] rest).map fun (read, rest) => (.string (Text.quoted read), rest)
    | '[' :: _ => .ok (.list, text)
    | '\x7b' :: _ => .ok (.object, text)
    | c :: _ => if c.isDigit then readNumber false text else .error (.at .expectedValue text)
    | [] => .error (.at .endOfValue [])
  match found with
  | .ok (found, rest) => .behind (.mismatch found expected) rest
  | .error fault => fault

def readString (text : List Char) : Except Fault (String × List Char) :=
  match skipBlank text with
  | '"' :: rest => readText [] rest
  | rest => .error (mismatch .string rest)

theorem readString_lt {text rest : List Char} {read : String}
    (found : readString text = .ok (read, rest)) : rest.length < text.length := by
  unfold readString at found
  split at found
  · rename_i ahead
    exact Nat.lt_trans (readText_lt found) (lt_of_skipBlank ahead)
  · cases found

def openList (text : List Char) : Except Fault (List Char) :=
  match skipBlank text with
  | '[' :: rest => .ok rest
  | rest => .error (mismatch .list rest)

theorem openList_lt {text rest : List Char} (found : openList text = .ok rest) :
    rest.length < text.length := by
  unfold openList at found
  split at found
  · rename_i ahead
    cases found
    exact lt_of_skipBlank ahead
  · cases found

-- An element, or the closing bracket with what follows it.
inductive Ahead where
  | element (text : List Char)
  | closing (rest : List Char)

def nextElement (first : Bool) (text : List Char) : Except Fault Ahead :=
  match skipBlank text with
  | [] => .error (.at .endOfList [])
  | ']' :: rest => .ok (.closing rest)
  | c :: rest =>
    if first then .ok (.element (c :: rest))
    else if c = ',' then
      match skipBlank rest with
      | [] => .error (.at .endOfValue [])
      | ']' :: rest => .error (.at .trailingComma (']' :: rest))
      | text => .ok (.element text)
    else .error (.at .expectedCommaOrBracket (c :: rest))

theorem nextElement_closing {first : Bool} {text rest : List Char}
    (found : nextElement first text = .ok (.closing rest)) : rest.length < text.length := by
  unfold nextElement at found
  split at found
  · cases found
  · rename_i ahead
    cases found
    exact lt_of_skipBlank ahead
  · split at found
    · cases found
    · split at found
      · split at found <;> cases found
      · cases found

theorem nextElement_element {first : Bool} {text rest : List Char}
    (found : nextElement first text = .ok (.element rest)) : rest.length ≤ text.length := by
  have shorter := skipBlank_length_le text
  unfold nextElement at found
  split at found
  · cases found
  · cases found
  · rename_i c tail _ ahead
    rw [ahead] at shorter
    have := skipBlank_length_le tail
    rw [List.length_cons] at shorter
    split at found
    · cases found
      exact shorter
    · split at found
      · split at found <;> cases found
        omega
      · cases found

def closeList (text : List Char) : Except Fault (List Char) :=
  match skipBlank text with
  | [] => .error (.at .endOfList [])
  | ']' :: rest => .ok rest
  | ',' :: rest =>
    match skipBlank rest with
    | ']' :: rest => .error (.at .trailingComma (']' :: rest))
    | rest => .error (.at .trailingCharacters rest)
  | rest => .error (.at .trailingCharacters rest)

theorem closeList_lt {text rest : List Char} (found : closeList text = .ok rest) :
    rest.length < text.length := by
  unfold closeList at found
  split at found
  · cases found
  · rename_i ahead
    cases found
    exact lt_of_skipBlank ahead
  · split at found <;> cases found
  · cases found

structure Members where
  kind : Option String
  value : Option String
  children : Option (List Tree)

def Members.empty : Members := ⟨none, none, none⟩

def Members.node? (members : Members) : Option Tree :=
  members.kind.map fun kind => ⟨kind, members.value.getD "", members.children.getD []⟩

-- A node whose children are being read: an object with the members before them, or a list with the
-- elements before them.
inductive Holder where
  | object (members : Members)
  | list (kind value : String)

structure Frame where
  holder : Holder
  children : List Tree

-- Where the reader stands, with the nodes around it: before a member of an object, or before an
-- element of a list of children.
inductive State where
  | member (members : Members) (first : Bool) (outer : List Frame)
  | child (frame : Frame) (first : Bool) (outer : List Frame)

inductive Step where
  | next (state : State) (rest : List Char)
  | done (tree : Tree) (rest : List Char)

def Step.rest : Step → List Char
  | .next _ rest => rest
  | .done _ rest => rest

def complete (tree : Tree) (outer : List Frame) (rest : List Char) : Step :=
  match outer with
  | [] => .done tree rest
  | frame :: outer =>
    .next (.child { frame with children := tree :: frame.children } false outer) rest

@[simp] theorem complete_rest (tree : Tree) (outer : List Frame) (rest : List Char) :
    (complete tree outer rest).rest = rest := by
  cases outer <;> rfl

def openElements (outer : List Frame) (text : List Char) : Except Fault Step :=
  match nextElement true text with
  | .error fault => .error fault
  | .ok (.closing rest) => .error (.behind .noElements rest)
  | .ok (.element text) =>
    match readString text with
    | .error fault => .error fault
    | .ok (kind, text) =>
      match nextElement false text with
      | .error fault => .error fault
      | .ok (.closing rest) => .ok (complete ⟨kind, "", []⟩ outer rest)
      | .ok (.element text) =>
        match readString text with
        | .error fault => .error fault
        | .ok (value, text) =>
          match nextElement false text with
          | .error fault => .error fault
          | .ok (.closing rest) => .ok (complete ⟨kind, value, []⟩ outer rest)
          | .ok (.element text) =>
            match openList text with
            | .error fault => .error fault
            | .ok rest => .ok (.next (.child ⟨.list kind value, []⟩ true outer) rest)

def openNode (outer : List Frame) (text : List Char) : Except Fault Step :=
  match skipBlank text with
  | '\x7b' :: rest => .ok (.next (.member .empty true outer) rest)
  | '[' :: rest => openElements outer rest
  | rest => .error (mismatch .node rest)

def nextKey (first : Bool) (text : List Char) : Except Fault Ahead :=
  match skipBlank text with
  | [] => .error (.at .endOfObject [])
  | '\x7d' :: rest => .ok (.closing rest)
  | c :: rest =>
    if first then
      if c = '"' then .ok (.element rest) else .error (.at .keyNotString (c :: rest))
    else if c = ',' then
      match skipBlank rest with
      | [] => .error (.at .endOfValue [])
      | '"' :: rest => .ok (.element rest)
      | '\x7d' :: rest => .error (.at .trailingComma ('\x7d' :: rest))
      | rest => .error (.at .keyNotString rest)
    else .error (.at .expectedCommaOrBrace (c :: rest))

-- A closing brace right behind the key is passed over.
def repeated (key : Key) (text : List Char) : Fault :=
  match skipBlank text with
  | '\x7d' :: rest => .behind (.duplicate key) rest
  | rest => .behind (.duplicate key) rest

def Key.ofName? (name : String) : Option Key :=
  if name == "kind" then some .kind
  else if name == "value" then some .value
  else if name == "children" then some .children
  else none

def readMember (members : Members) (outer : List Frame) (key : Option Key) (text : List Char) :
    Except Fault Step :=
  match key with
  | none =>
    match readColon text with
    | .error fault => .error fault
    | .ok text =>
      match skipValue text with
      | .error fault => .error fault
      | .ok rest => .ok (.next (.member members false outer) rest)
  | some .kind =>
    if members.kind.isSome then .error (repeated .kind text)
    else
      match readColon text with
      | .error fault => .error fault
      | .ok text =>
        match readString text with
        | .error fault => .error fault
        | .ok (kind, rest) => .ok (.next (.member { members with kind } false outer) rest)
  | some .value =>
    if members.value.isSome then .error (repeated .value text)
    else
      match readColon text with
      | .error fault => .error fault
      | .ok text =>
        match readString text with
        | .error fault => .error fault
        | .ok (value, rest) => .ok (.next (.member { members with value } false outer) rest)
  | some .children =>
    if members.children.isSome then .error (repeated .children text)
    else
      match readColon text with
      | .error fault => .error fault
      | .ok text =>
        match openList text with
        | .error fault => .error fault
        | .ok rest => .ok (.next (.child ⟨.object members, []⟩ true outer) rest)

def step (state : State) (text : List Char) : Except Fault Step :=
  match state with
  | .member members first outer =>
    match nextKey first text with
    | .error fault => .error fault
    | .ok (.closing rest) =>
      match members.node? with
      | some tree => .ok (complete tree outer rest)
      | none => .error (.behind .missingKind rest)
    | .ok (.element text) =>
      match readText [] text with
      | .error fault => .error fault
      | .ok (name, rest) => readMember members outer (Key.ofName? name) rest
  | .child frame first outer =>
    match nextElement first text with
    | .error fault => .error fault
    | .ok (.element text) => openNode (frame :: outer) text
    | .ok (.closing rest) =>
      match frame.holder with
      | .object members =>
        .ok (.next (.member { members with children := frame.children.reverse } false outer) rest)
      | .list kind value =>
        match closeList rest with
        | .error fault => .error fault
        | .ok rest => .ok (complete ⟨kind, value, frame.children.reverse⟩ outer rest)

theorem openElements_lt {outer : List Frame} {text : List Char} {step : Step}
    (found : openElements outer text = .ok step) : step.rest.length < text.length := by
  unfold openElements at found
  split at found
  · cases found
  · cases found
  · rename_i first
    have := nextElement_element first
    split at found
    · cases found
    · rename_i kind
      have := readString_lt kind
      split at found
      · cases found
      · rename_i closed
        have := nextElement_closing closed
        cases found
        rw [complete_rest]
        omega
      · rename_i second
        have := nextElement_element second
        split at found
        · cases found
        · rename_i value
          have := readString_lt value
          split at found
          · cases found
          · rename_i closed
            have := nextElement_closing closed
            cases found
            rw [complete_rest]
            omega
          · rename_i third
            have := nextElement_element third
            split at found
            · cases found
            · rename_i opened
              have := openList_lt opened
              cases found
              simp only [Step.rest]
              omega

theorem openNode_lt {outer : List Frame} {text : List Char} {step : Step}
    (found : openNode outer text = .ok step) : step.rest.length < text.length := by
  unfold openNode at found
  split at found
  · rename_i ahead
    cases found
    exact lt_of_skipBlank ahead
  · rename_i ahead
    exact Nat.lt_trans (openElements_lt found) (lt_of_skipBlank ahead)
  · cases found

theorem nextKey_closing {first : Bool} {text rest : List Char}
    (found : nextKey first text = .ok (.closing rest)) : rest.length < text.length := by
  unfold nextKey at found
  split at found
  · cases found
  · rename_i ahead
    cases found
    exact lt_of_skipBlank ahead
  · split at found
    · split at found <;> cases found
    · split at found
      · split at found <;> cases found
      · cases found

theorem nextKey_element {first : Bool} {text rest : List Char}
    (found : nextKey first text = .ok (.element rest)) : rest.length < text.length := by
  unfold nextKey at found
  split at found
  · cases found
  · cases found
  · rename_i ahead
    have := lt_of_skipBlank ahead
    split at found
    · split at found <;> cases found
      assumption
    · split at found
      · split at found
        · cases found
        · rename_i quoted
          have := lt_of_skipBlank quoted
          cases found
          omega
        · cases found
        · cases found
      · cases found

theorem readMember_lt {members : Members} {outer : List Frame} {key : Option Key}
    {text : List Char} {step : Step} (found : readMember members outer key text = .ok step) :
    step.rest.length < text.length := by
  unfold readMember at found
  split at found
  · split at found
    · cases found
    · rename_i colon
      have := readColon_lt colon
      split at found
      · cases found
      · rename_i skipped
        have := skipFrom_le skipped
        cases found
        simp only [Step.rest]
        omega
  · split at found
    · cases found
    · split at found
      · cases found
      · rename_i colon
        have := readColon_lt colon
        split at found
        · cases found
        · rename_i read
          have := readString_lt read
          cases found
          simp only [Step.rest]
          omega
  · split at found
    · cases found
    · split at found
      · cases found
      · rename_i colon
        have := readColon_lt colon
        split at found
        · cases found
        · rename_i read
          have := readString_lt read
          cases found
          simp only [Step.rest]
          omega
  · split at found
    · cases found
    · split at found
      · cases found
      · rename_i colon
        have := readColon_lt colon
        split at found
        · cases found
        · rename_i read
          have := openList_lt read
          cases found
          simp only [Step.rest]
          omega

-- Every step reads something, so the reader ends.
theorem step_lt {state : State} {text : List Char} {next : Step}
    (found : step state text = .ok next) : next.rest.length < text.length := by
  unfold step at found
  split at found
  · split at found
    · cases found
    · rename_i closed
      have := nextKey_closing closed
      split at found <;> cases found
      rw [complete_rest]
      assumption
    · rename_i key
      have := nextKey_element key
      split at found
      · cases found
      · rename_i name
        have := readText_lt name
        have := readMember_lt found
        omega
  · split at found
    · cases found
    · rename_i element
      exact Nat.lt_of_lt_of_le (openNode_lt found) (nextElement_element element)
    · rename_i closed
      have := nextElement_closing closed
      split at found
      · cases found
        assumption
      · split at found
        · cases found
        · rename_i closing
          have := closeList_lt closing
          cases found
          rw [complete_rest]
          omega

def readFrom (state : State) (text : List Char) : Except Fault (Tree × List Char) :=
  match found : step state text with
  | .error fault => .error fault
  | .ok (.done tree rest) => .ok (tree, rest)
  | .ok (.next state rest) =>
    have : rest.length < text.length := step_lt found
    readFrom state rest
termination_by text.length

def readRoot (text : List Char) : Except Fault Tree :=
  let root : Except Fault (Tree × List Char) :=
    match openNode [] text with
    | .error fault => .error fault
    | .ok (.done tree rest) => .ok (tree, rest)
    | .ok (.next state rest) => readFrom state rest
  match root with
  | .error fault => .error fault
  | .ok (tree, rest) =>
    match skipBlank rest with
    | [] => .ok tree
    | rest => .error (.at .trailingCharacters rest)

inductive Refusal where
  -- The source holds nothing but white space.
  | empty
  | malformed (place : Place) (cause : Cause)
deriving DecidableEq

def read (source : String) : Except Refusal Tree :=
  if source.toList.all Text.isBlank then .error .empty
  else
    match readRoot source.toList with
    | .ok tree => .ok tree
    | .error fault => .error (.malformed (fault.place source.toList) fault.cause)

end Arbor.Json
