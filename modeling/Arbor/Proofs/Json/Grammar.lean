import Arbor.Json.Reader
import Arbor.Proofs.Json.Value

-- The JSON texts that denote a tree, as a grammar: objects whose members tell of a node in any
-- order, and lists that give a node's parts in place. Each part of the reader reads exactly one
-- part of such a text.
namespace Arbor.Json

-- A string with its quotes.
inductive Quoted : List Char → String → Prop where
  | mk (spelled : Spells raw content) : Quoted ('"' :: (raw ++ ['"'])) (String.ofList content)

-- A key, its colon and the white space around that. The key counts as it reads, not as it is spelled.
inductive Named : List Char → String → Prop where
  | mk (quoted : Quoted raw name) (before : Blanks left) (behind : Blanks right) :
      Named (raw ++ (left ++ ':' :: right)) name

-- What a member tells of its node.
inductive Detail where
  | kind (text : String)
  | value (text : String)
  | children (trees : List Tree)
  | nothing

namespace Detail

def kind? : Detail → Option String
  | kind text => some text
  | _ => none

def value? : Detail → Option String
  | value text => some text
  | _ => none

def children? : Detail → Option (List Tree)
  | children trees => some trees
  | _ => none

end Detail

-- Given once, or not at all and then the standard.
def AtMostOnce {α : Type} (given : List α) (standard meant : α) : Prop :=
  given = [meant] ∨ given = [] ∧ meant = standard

-- The members of an object determine its node. Their order does not matter.
structure Tells (details : List Detail) (tree : Tree) : Prop where
  kind : details.filterMap Detail.kind? = [tree.kind]
  value : AtMostOnce (details.filterMap Detail.value?) "" tree.value
  children : AtMostOnce (details.filterMap Detail.children?) [] tree.children

mutual

inductive Node : List Char → Tree → Prop where
  | object {members : List (List Char × Detail)} (joined : Joined true (members.map Prod.fst) text)
      (each : ∀ member ∈ members, Member member.1 member.2)
      (tells : Tells (members.map Prod.snd) tree) : Node ('\x7b' :: (text ++ ['\x7d'])) tree
  | kind (joined : Joined true [first] text) (kind : Quoted first word) :
      Node ('[' :: (text ++ [']'])) ⟨word, "", []⟩
  | value (joined : Joined true [first, second] text) (kind : Quoted first word)
      (value : Quoted second lexeme) : Node ('[' :: (text ++ [']'])) ⟨word, lexeme, []⟩
  | children (joined : Joined true [first, second, third] text) (kind : Quoted first word)
      (value : Quoted second lexeme) (kids : Nodes third trees) :
      Node ('[' :: (text ++ [']'])) ⟨word, lexeme, trees⟩

-- A list of nodes.
inductive Nodes : List Char → List Tree → Prop where
  | mk {kids : List (List Char × Tree)} (joined : Joined true (kids.map Prod.fst) text)
      (each : ∀ kid ∈ kids, Node kid.1 kid.2) :
      Nodes ('[' :: (text ++ [']'])) (kids.map Prod.snd)

inductive Member : List Char → Detail → Prop where
  | kind (key : Named name "kind") (meant : Quoted raw text) : Member (name ++ raw) (.kind text)
  | value (key : Named name "value") (meant : Quoted raw text) : Member (name ++ raw) (.value text)
  | children (key : Named name "children") (meant : Nodes raw trees) :
      Member (name ++ raw) (.children trees)
  | other (key : Named name word)
      (unknown : word ≠ "kind" ∧ word ≠ "value" ∧ word ≠ "children") (meant : Value raw) :
      Member (name ++ raw) .nothing

end

variable {c : Char} {first : Bool} {gap raw text rest inside : List Char} {word : String}
  {pieces : List (List Char)} {tree : Tree}

theorem readString_append (blank : Blanks gap) (quoted : Quoted raw word) (rest : List Char) :
    readString (gap ++ (raw ++ rest)) = .ok (word, rest) := by
  cases quoted with
  | @mk raw content spelled =>
    rw [readString, List.cons_append, skipBlank_gap blank (by decide), List.append_assoc]
    exact readText_append spelled [] rest

theorem quoted_of_readText (found : readText [] text = .ok (word, rest)) :
    ∃ raw, Quoted ('"' :: raw) word ∧ text = raw ++ rest := by
  obtain ⟨raw, content, spelled, rfl, rfl⟩ := spells_of_readText found
  exact ⟨_, .mk spelled, by simp⟩

theorem quoted_of_readString (found : readString text = .ok (word, rest)) :
    ∃ gap raw, Blanks gap ∧ Quoted raw word ∧ text = gap ++ (raw ++ rest) := by
  unfold readString at found
  split at found
  · rename_i ahead
    obtain ⟨-, gap, blank, rfl⟩ := skipBlank_eq_cons_iff.mp ahead
    obtain ⟨raw, quoted, rfl⟩ := quoted_of_readText found
    exact ⟨gap, _, blank, quoted, rfl⟩
  · cases found

theorem openList_append (blank : Blanks gap) (rest : List Char) :
    openList (gap ++ '[' :: rest) = .ok rest := by
  rw [openList, skipBlank_gap blank (by decide)]
  rfl

theorem gap_of_openList (found : openList text = .ok rest) :
    ∃ gap, Blanks gap ∧ text = gap ++ '[' :: rest := by
  unfold openList at found
  split at found
  · rename_i ahead
    cases found
    exact (skipBlank_eq_cons_iff.mp ahead).2
  · cases found

theorem closeList_append (blank : Blanks gap) (rest : List Char) :
    closeList (gap ++ ']' :: rest) = .ok rest := by
  rw [closeList, skipBlank_gap blank (by decide)]
  rfl

theorem gap_of_closeList (found : closeList text = .ok rest) :
    ∃ gap, Blanks gap ∧ text = gap ++ ']' :: rest := by
  unfold closeList at found
  split at found
  · cases found
  · rename_i ahead
    cases found
    exact (skipBlank_eq_cons_iff.mp ahead).2
  · split at found <;> cases found
  · cases found

theorem readColon_append (blank : Blanks gap) (rest : List Char) :
    readColon (gap ++ ':' :: rest) = .ok rest := by
  rw [readColon, skipBlank_gap blank (by decide)]
  rfl

theorem nextElement_end (first : Bool) (blank : Blanks gap) (rest : List Char) :
    nextElement first (gap ++ ']' :: rest) = .ok (.closing rest) := by
  rw [nextElement, skipBlank_gap blank (by decide)]
  rfl

theorem gap_of_nextElement (found : nextElement first text = .ok (.closing rest)) :
    ∃ gap, Blanks gap ∧ text = gap ++ ']' :: rest := by
  unfold nextElement at found
  split at found
  · cases found
  · rename_i ahead
    cases found
    exact (skipBlank_eq_cons_iff.mp ahead).2
  · split at found
    · cases found
    · split at found
      · split at found <;> cases found
      · cases found

theorem nextElement_lead (lead : Lead first gap) (solid : isBlank c = false) (other : c ≠ ']')
    (rest : List Char) : nextElement first (gap ++ c :: rest) = .ok (.element (c :: rest)) := by
  cases lead with
  | first blank =>
    rw [nextElement, skipBlank_gap blank solid]
    simp
  | later before behind =>
    rw [nextElement, List.append_assoc, List.cons_append, skipBlank_gap before (by decide)]
    simp [skipBlank_gap behind solid, other]

theorem lead_of_nextElement (found : nextElement first text = .ok (.element rest)) :
    ∃ gap, Lead first gap ∧ text = gap ++ rest := by
  unfold nextElement at found
  split at found
  · cases found
  · cases found
  · rename_i c tail _ ahead
    obtain ⟨-, left, before, rfl⟩ := skipBlank_eq_cons_iff.mp ahead
    split at found
    · rename_i isFirst
      cases found
      subst isFirst
      exact ⟨left, .first before, rfl⟩
    · rename_i isLater
      rw [Bool.not_eq_true] at isLater
      subst isLater
      split at found
      · rename_i comma
        subst comma
        split at found
        · cases found
        · cases found
        · cases found
          obtain ⟨right, behind, split, -⟩ := exists_gap tail
          exact ⟨_, .later before behind, by rw [List.append_assoc, List.cons_append, ← split]⟩
      · cases found

theorem nextKey_end (first : Bool) (blank : Blanks gap) (rest : List Char) :
    nextKey first (gap ++ '\x7d' :: rest) = .ok (.closing rest) := by
  rw [nextKey, skipBlank_gap blank (by decide)]
  rfl

theorem gap_of_nextKey (found : nextKey first text = .ok (.closing rest)) :
    ∃ gap, Blanks gap ∧ text = gap ++ '\x7d' :: rest := by
  unfold nextKey at found
  split at found
  · cases found
  · rename_i ahead
    cases found
    exact (skipBlank_eq_cons_iff.mp ahead).2
  · split at found
    · split at found <;> cases found
    · split at found
      · split at found <;> cases found
      · cases found

theorem nextKey_lead (lead : Lead first gap) (rest : List Char) :
    nextKey first (gap ++ '"' :: rest) = .ok (.element rest) := by
  cases lead with
  | first blank =>
    rw [nextKey, skipBlank_gap blank (by decide)]
    rfl
  | later before behind =>
    rw [nextKey, List.append_assoc, List.cons_append, skipBlank_gap before (by decide)]
    simp [skipBlank_gap behind (by decide : isBlank '"' = false)]

theorem lead_of_nextKey (found : nextKey first text = .ok (.element rest)) :
    ∃ gap, Lead first gap ∧ text = gap ++ '"' :: rest := by
  unfold nextKey at found
  split at found
  · cases found
  · cases found
  · rename_i c tail _ ahead
    obtain ⟨-, left, before, rfl⟩ := skipBlank_eq_cons_iff.mp ahead
    split at found
    · rename_i isFirst
      subst isFirst
      split at found
      · rename_i quote
        cases found
        subst quote
        exact ⟨left, .first before, rfl⟩
      · cases found
    · rename_i isLater
      rw [Bool.not_eq_true] at isLater
      subst isLater
      split at found
      · rename_i comma
        subst comma
        split at found
        · cases found
        · rename_i quoted
          cases found
          obtain ⟨-, right, behind, rfl⟩ := skipBlank_eq_cons_iff.mp quoted
          exact ⟨_, .later before behind, by simp⟩
        · cases found
        · cases found
      · cases found

theorem Key.ofName?_eq_none_iff : Key.ofName? word = none ↔
    word ≠ "kind" ∧ word ≠ "value" ∧ word ≠ "children" := by
  simp only [Key.ofName?, beq_iff_eq]
  grind

theorem Key.eq_name {key : Key} (found : Key.ofName? word = some key) : word = key.name := by
  simp only [Key.ofName?, beq_iff_eq] at found
  grind [Key.name]

theorem Quoted.head (quoted : Quoted raw word) : ∃ tail, raw = '"' :: tail := by
  cases quoted with
  | mk _ => exact ⟨_, rfl⟩

theorem Node.head (node : Node raw tree) :
    ∃ c tail, raw = c :: tail ∧ isBlank c = false ∧ c ≠ ']' := by
  cases node with
  | object | kind | value | children => exact ⟨_, _, rfl, by decide, by decide⟩

theorem joined_nil_iff : Joined first [] text ↔ Blanks text := by
  constructor
  · rintro ⟨blank⟩
    exact blank
  · exact .nil

theorem joined_cons_iff : Joined first (raw :: pieces) text ↔
    ∃ gap rest, Lead first gap ∧ Joined false pieces rest ∧ text = gap ++ (raw ++ rest) := by
  constructor
  · intro joined
    cases joined with
    | cons lead more => exact ⟨_, _, lead, more, rfl⟩
  · rintro ⟨gap, rest, lead, more, rfl⟩
    exact .cons lead more

end Arbor.Json
