import Arbor.Proofs.Json.Grammar

-- What the reader of nodes still has to meet, said from the end of the text backward: the members
-- and children that are open, and what stands behind each of them. Whatever a step goes on with, it
-- has met what it was waiting for.
namespace Arbor.Json

variable {first : Bool} {gap raw text rest inside : List Char} {word : String} {tree : Tree}
  {trees : List Tree} {members : Members} {outer : List Frame} {details : List Detail}

-- The members met so far and those to come make up the node.
structure Members.Tell (members : Members) (details : List Detail) (tree : Tree) : Prop where
  kind : members.kind.toList ++ details.filterMap Detail.kind? = [tree.kind]
  value : AtMostOnce (members.value.toList ++ details.filterMap Detail.value?) "" tree.value
  children :
    AtMostOnce (members.children.toList ++ details.filterMap Detail.children?) [] tree.children

theorem tells_iff : Tells details tree ↔ Members.empty.Tell details tree :=
  ⟨fun ⟨kind, value, children⟩ => ⟨kind, value, children⟩,
    fun ⟨kind, value, children⟩ => ⟨kind, value, children⟩⟩

theorem atMostOnce_toList {α : Type} {given : Option α} {standard meant : α} :
    AtMostOnce given.toList standard meant ↔ given.getD standard = meant := by
  cases given with
  | none => simp [AtMostOnce, eq_comm]
  | some value => simp [AtMostOnce]

theorem atMostOnce_cons {α : Type} {given : Option α} {value standard meant : α} {later : List α} :
    AtMostOnce (given.toList ++ value :: later) standard meant ↔
      given = none ∧ AtMostOnce (value :: later) standard meant := by
  cases given <;> simp [AtMostOnce]

theorem tell_nil_iff : members.Tell [] tree ↔ members.node? = some tree := by
  obtain ⟨kind, value, children⟩ := members
  constructor
  · rintro ⟨hasKind, hasValue, hasChildren⟩
    cases tree
    simp only [List.filterMap_nil, List.append_nil] at hasKind hasValue hasChildren
    rw [atMostOnce_toList] at hasValue hasChildren
    cases kind with
    | none => cases hasKind
    | some kind =>
      cases hasKind
      simp [Members.node?, hasValue, hasChildren]
  · intro whole
    obtain ⟨kind, rfl, rfl⟩ := Option.map_eq_some_iff.mp whole
    refine ⟨rfl, ?_, ?_⟩
    · rw [List.filterMap_nil, List.append_nil, atMostOnce_toList]
    · rw [List.filterMap_nil, List.append_nil, atMostOnce_toList]

theorem tell_kind_iff : members.Tell (.kind word :: details) tree ↔
    members.kind = none ∧ Members.Tell { members with kind := some word } details tree := by
  obtain ⟨kind, value, children⟩ := members
  constructor
  · rintro ⟨hasKind, hasValue, hasChildren⟩
    cases kind with
    | none => exact ⟨rfl, hasKind, hasValue, hasChildren⟩
    | some kind => simp [Detail.kind?] at hasKind
  · rintro ⟨rfl, hasKind, hasValue, hasChildren⟩
    exact ⟨hasKind, hasValue, hasChildren⟩

theorem tell_value_iff : members.Tell (.value word :: details) tree ↔
    members.value = none ∧ Members.Tell { members with value := some word } details tree := by
  constructor
  · rintro ⟨hasKind, hasValue, hasChildren⟩
    obtain ⟨new, once⟩ := atMostOnce_cons.mp hasValue
    exact ⟨new, hasKind, once, hasChildren⟩
  · rintro ⟨new, hasKind, hasValue, hasChildren⟩
    exact ⟨hasKind, atMostOnce_cons.mpr ⟨new, hasValue⟩, hasChildren⟩

theorem tell_children_iff : members.Tell (.children trees :: details) tree ↔
    members.children = none ∧
      Members.Tell { members with children := some trees } details tree := by
  constructor
  · rintro ⟨hasKind, hasValue, hasChildren⟩
    obtain ⟨new, once⟩ := atMostOnce_cons.mp hasChildren
    exact ⟨new, hasKind, hasValue, once⟩
  · rintro ⟨new, hasKind, hasValue, hasChildren⟩
    exact ⟨hasKind, hasValue, atMostOnce_cons.mpr ⟨new, hasChildren⟩⟩

theorem tell_nothing_iff : members.Tell (.nothing :: details) tree ↔ members.Tell details tree :=
  ⟨fun ⟨kind, value, children⟩ => ⟨kind, value, children⟩,
    fun ⟨kind, value, children⟩ => ⟨kind, value, children⟩⟩

-- From a member of an object on. `behind` says what may follow the object's node.
def Members.Awaits (behind : Tree → List Char → Prop) (members : Members) (first : Bool)
    (text : List Char) : Prop :=
  ∃ (told : List (List Char × Detail)) (inside : List Char) (tree : Tree) (rest : List Char),
    Joined first (told.map Prod.fst) inside ∧ (∀ member ∈ told, Member member.1 member.2) ∧
      members.Tell (told.map Prod.snd) tree ∧ text = inside ++ '\x7d' :: rest ∧ behind tree rest

-- From behind the children of a node on.
def Holder.Awaits (behind : Tree → List Char → Prop) (children : List Tree) (text : List Char) :
    Holder → Prop
  | .object members => Members.Awaits behind { members with children := some children } false text
  | .list kind value => ∃ gap rest, Blanks gap ∧ text = gap ++ ']' :: rest ∧
      behind ⟨kind, value, children⟩ rest

-- From a child of a node on.
def Frame.Awaits (behind : Tree → List Char → Prop) (frame : Frame) (first : Bool)
    (text : List Char) : Prop :=
  ∃ (kids : List (List Char × Tree)) (inside rest : List Char),
    Joined first (kids.map Prod.fst) inside ∧ (∀ kid ∈ kids, Node kid.1 kid.2) ∧
      text = inside ++ ']' :: rest ∧
      frame.holder.Awaits behind (frame.children.reverse ++ kids.map Prod.snd) rest

-- From behind a node on, to the root and what stands behind it.
def Awaits (answer : Tree × List Char) : List Frame → Tree → List Char → Prop
  | [], tree, rest => (tree, rest) = answer
  | frame :: outer, tree, rest =>
    Frame.Awaits (Awaits answer outer) { frame with children := tree :: frame.children } false rest

def State.Awaits (answer : Tree × List Char) (text : List Char) : State → Prop
  | .member members first outer => members.Awaits (Json.Awaits answer outer) first text
  | .child frame first outer => frame.Awaits (Json.Awaits answer outer) first text

def Step.Awaits (answer : Tree × List Char) : Step → Prop
  | .next state rest => state.Awaits answer rest
  | .done tree rest => (tree, rest) = answer

variable {behind : Tree → List Char → Prop} {answer : Tree × List Char} {after : Step}
  {detail : Detail}

theorem complete_awaits :
    (complete tree outer rest).Awaits answer ↔ Awaits answer outer tree rest := by
  cases outer <;> rfl

theorem Members.Awaits.nil (first : Bool) (blank : Blanks gap) (whole : members.node? = some tree)
    (follows : behind tree rest) : members.Awaits behind first (gap ++ '\x7d' :: rest) :=
  ⟨[], gap, tree, rest, .nil blank, nofun, tell_nil_iff.mpr whole, rfl, follows⟩

-- A member before others. `added` is what the reader has met behind it.
theorem Members.Awaits.cons {added : Members} (lead : Lead first gap) (member : Member raw detail)
    (tell : ∀ details tree, added.Tell details tree → members.Tell (detail :: details) tree)
    (more : added.Awaits behind false rest) : members.Awaits behind first (gap ++ (raw ++ rest)) := by
  obtain ⟨told, inside, tree, rest, joined, each, told_tells, rfl, follows⟩ := more
  refine ⟨(raw, detail) :: told, _, tree, rest, .cons lead joined, ?_, tell _ _ told_tells,
    by simp, follows⟩
  intro other present
  rcases List.mem_cons.mp present with rfl | later
  · exact member
  · exact each other later

theorem Frame.Awaits.cons {frame : Frame} (lead : Lead first gap) (node : Node raw tree)
    (more : Frame.Awaits behind { frame with children := tree :: frame.children } false rest) :
    frame.Awaits behind first (gap ++ (raw ++ rest)) := by
  obtain ⟨kids, inside, rest, joined, each, rfl, follows⟩ := more
  refine ⟨(raw, tree) :: kids, _, rest, .cons lead joined, ?_, by simp, by simpa using follows⟩
  intro other present
  rcases List.mem_cons.mp present with rfl | later
  · exact node
  · exact each other later

theorem Lead.append {right : List Char} (lead : Lead first gap) (blank : Blanks right) :
    Lead first (gap ++ right) := by
  cases lead with
  | first before => exact .first (before.append blank)
  | later before behind =>
    rw [List.append_assoc, List.cons_append]
    exact .later before (behind.append blank)

theorem quoted_of_nextElement (found : nextElement first text = .ok (.element inside))
    (read : readString inside = .ok (word, rest)) :
    ∃ gap raw, Lead first gap ∧ Quoted raw word ∧ text = gap ++ (raw ++ rest) := by
  obtain ⟨gap, lead, rfl⟩ := lead_of_nextElement found
  obtain ⟨blank, raw, clear, quoted, rfl⟩ := quoted_of_readString read
  exact ⟨gap ++ blank, raw, lead.append clear, quoted, by simp⟩

theorem node_of_openElements (found : openElements outer text = .ok after)
    (awaits : after.Awaits answer) : ∃ inside tree rest, Node ('[' :: (inside ++ [']'])) tree ∧
      text = inside ++ ']' :: rest ∧ Awaits answer outer tree rest := by
  unfold openElements at found
  split at found
  · cases found
  · cases found
  · rename_i one
    split at found
    · cases found
    · rename_i kind
      obtain ⟨gap, first, lead, word, rfl⟩ := quoted_of_nextElement one kind
      split at found
      · cases found
      · rename_i ended
        obtain ⟨last, blank, rfl⟩ := gap_of_nextElement ended
        cases found
        have joined : Joined true [first] _ := .cons lead (.nil blank)
        exact ⟨_, _, _, .kind joined word, by simp, complete_awaits.mp awaits⟩
      · rename_i two
        split at found
        · cases found
        · rename_i value
          obtain ⟨gapTwo, second, leadTwo, lexeme, rfl⟩ := quoted_of_nextElement two value
          split at found
          · cases found
          · rename_i ended
            obtain ⟨last, blank, rfl⟩ := gap_of_nextElement ended
            cases found
            have joined : Joined true [first, second] _ := .cons lead (.cons leadTwo (.nil blank))
            exact ⟨_, _, _, .value joined word lexeme, by simp, complete_awaits.mp awaits⟩
          · rename_i three
            split at found
            · cases found
            · rename_i opened
              cases found
              obtain ⟨kids, inside, more, joined, each, rfl, last, rest, blank, rfl, follows⟩ := awaits
              obtain ⟨gapThree, leadThree, rfl⟩ := lead_of_nextElement three
              obtain ⟨clear, clean, rfl⟩ := gap_of_openList opened
              have whole : Joined true [first, second, '[' :: (inside ++ [']'])] _ :=
                .cons lead (.cons leadTwo (.cons (leadThree.append clean) (.nil blank)))
              exact ⟨_, _, _, .children whole word lexeme (.mk joined each), by simp, follows⟩

theorem node_of_openNode (found : openNode outer text = .ok after)
    (awaits : after.Awaits answer) : ∃ gap raw tree rest, Blanks gap ∧ Node raw tree ∧
      text = gap ++ (raw ++ rest) ∧ Awaits answer outer tree rest := by
  unfold openNode at found
  split at found
  · rename_i ahead
    cases found
    obtain ⟨-, gap, blank, rfl⟩ := skipBlank_eq_cons_iff.mp ahead
    obtain ⟨told, inside, tree, rest, joined, each, tells, rfl, follows⟩ := awaits
    exact ⟨gap, _, tree, rest, blank, .object joined each (tells_iff.mpr tells), by simp, follows⟩
  · rename_i ahead
    obtain ⟨-, gap, blank, rfl⟩ := skipBlank_eq_cons_iff.mp ahead
    obtain ⟨inside, tree, rest, node, rfl, follows⟩ := node_of_openElements found awaits
    exact ⟨gap, _, tree, rest, blank, node, by simp, follows⟩
  · cases found

-- A member's text is its key up to the colon and the white space behind it, and its value.
theorem named_of_readColon {quoted : List Char} (key : Quoted quoted word)
    (found : readColon text = .ok rest) :
    ∃ gap, Blanks gap ∧ text = gap ++ ':' :: rest ∧
      ∀ right, Blanks right → Named (quoted ++ (gap ++ ':' :: right)) word := by
  obtain ⟨gap, blank, rfl⟩ := gap_of_readColon found
  exact ⟨gap, blank, rfl, fun right clear => .mk key blank clear⟩

-- Kind and value differ only in what they add to the members.
theorem awaits_of_readString {quoted inner : List Char} {name meant : String} {added : Members}
    (lead : Lead first gap) (key : Quoted quoted name) (colon : readColon text = .ok inner)
    (read : readString inner = .ok (meant, rest))
    (member : ∀ {named raw}, Named named name → Quoted raw meant → Member (named ++ raw) detail)
    (tell : ∀ details tree, added.Tell details tree → members.Tell (detail :: details) tree)
    (more : added.Awaits behind false rest) :
    members.Awaits behind first (gap ++ (quoted ++ text)) := by
  obtain ⟨left, before, rfl, named⟩ := named_of_readColon key colon
  obtain ⟨right, raw, clear, spelled, rfl⟩ := quoted_of_readString read
  simpa using Members.Awaits.cons lead (member (named right clear) spelled) tell more

theorem awaits_of_readMember {quoted : List Char} (lead : Lead first gap) (key : Quoted quoted word)
    (found : readMember members outer (Key.ofName? word) text = .ok after)
    (awaits : after.Awaits answer) :
    members.Awaits (Awaits answer outer) first (gap ++ (quoted ++ text)) := by
  unfold readMember at found
  split at found
  · rename_i unknown
    rw [Key.ofName?_eq_none_iff] at unknown
    split at found
    · cases found
    · rename_i colon
      obtain ⟨left, before, rfl, named⟩ := named_of_readColon key colon
      split at found
      · cases found
      · rename_i skipped
        cases found
        obtain ⟨right, raw, clear, value, rfl⟩ := value_of_skipValue skipped
        have member := Member.other (named right clear) unknown value
        simpa using Members.Awaits.cons lead member (fun _ _ => tell_nothing_iff.mpr) awaits
  · rename_i known
    cases Key.eq_name known
    split at found
    · cases found
    · rename_i new
      rw [Option.not_isSome_iff_eq_none] at new
      split at found
      · cases found
      · rename_i colon
        split at found
        · cases found
        · rename_i read
          cases found
          exact awaits_of_readString lead key colon read .kind
            (fun _ _ tells => tell_kind_iff.mpr ⟨new, tells⟩) awaits
  · rename_i known
    cases Key.eq_name known
    split at found
    · cases found
    · rename_i new
      rw [Option.not_isSome_iff_eq_none] at new
      split at found
      · cases found
      · rename_i colon
        split at found
        · cases found
        · rename_i read
          cases found
          exact awaits_of_readString lead key colon read .value
            (fun _ _ tells => tell_value_iff.mpr ⟨new, tells⟩) awaits
  · rename_i known
    cases Key.eq_name known
    split at found
    · cases found
    · rename_i new
      rw [Option.not_isSome_iff_eq_none] at new
      split at found
      · cases found
      · rename_i colon
        obtain ⟨left, before, rfl, named⟩ := named_of_readColon key colon
        split at found
        · cases found
        · rename_i opened
          cases found
          obtain ⟨right, clear, rfl⟩ := gap_of_openList opened
          obtain ⟨kids, inside, rest, joined, each, rfl, follows⟩ := awaits
          have member := Member.children (named right clear) (.mk joined each)
          simpa using Members.Awaits.cons lead member
            (fun _ _ tells => tell_children_iff.mpr ⟨new, tells⟩) follows

theorem awaits_of_step {state : State} (found : step state text = .ok after)
    (awaits : after.Awaits answer) : state.Awaits answer text := by
  unfold step at found
  split at found
  · split at found
    · cases found
    · rename_i ended
      obtain ⟨gap, blank, rfl⟩ := gap_of_nextKey ended
      split at found
      · rename_i whole
        cases found
        exact .nil _ blank whole (complete_awaits.mp awaits)
      · cases found
    · rename_i quoted
      obtain ⟨gap, lead, rfl⟩ := lead_of_nextKey quoted
      split at found
      · cases found
      · rename_i name
        obtain ⟨raw, key, rfl⟩ := quoted_of_readText name
        exact awaits_of_readMember lead key found awaits
  · split at found
    · cases found
    · rename_i element
      obtain ⟨gap, lead, rfl⟩ := lead_of_nextElement element
      obtain ⟨clear, raw, tree, rest, blank, node, rfl, follows⟩ := node_of_openNode found awaits
      rw [← List.append_assoc]
      exact .cons (lead.append blank) node follows
    · rename_i frame first outer rest ended
      obtain ⟨gap, blank, rfl⟩ := gap_of_nextElement ended
      refine ⟨[], gap, rest, .nil blank, nofun, rfl, ?_⟩
      rw [List.map_nil, List.append_nil]
      split at found
      · rename_i members held
        cases found
        rw [held]
        exact awaits
      · rename_i kind value held
        split at found
        · cases found
        · rename_i closed
          cases found
          obtain ⟨last, clear, rfl⟩ := gap_of_closeList closed
          rw [held]
          exact ⟨last, _, clear, rfl, complete_awaits.mp awaits⟩

end Arbor.Json
