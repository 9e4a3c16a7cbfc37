import Arbor.Proofs.Json.Awaits

-- The reader of nodes goes on exactly where the grammar does: by a step, and from there by a whole
-- run.
namespace Arbor.Json

variable {first : Bool} {gap raw text rest inside : List Char} {word : String}
  {pieces : List (List Char)} {tree : Tree} {members : Members} {outer : List Frame}
  {answer : Tree × List Char}

theorem nextElement_quoted (lead : Lead first gap) (quoted : Quoted raw word) (rest : List Char) :
    nextElement first (gap ++ (raw ++ rest)) = .ok (.element (raw ++ rest)) := by
  obtain ⟨tail, rfl⟩ := quoted.head
  exact nextElement_lead lead (by decide) (by decide) _

theorem readString_quoted (quoted : Quoted raw word) (rest : List Char) :
    readString (raw ++ rest) = .ok (word, rest) :=
  readString_append .nil quoted rest

theorem openNode_of_node (blank : Blanks gap) (node : Node raw tree)
    (follows : Awaits answer outer tree rest) :
    ∃ after, openNode outer (gap ++ (raw ++ rest)) = .ok after ∧ after.Awaits answer := by
  cases node with
  | @object inside tree members joined each tells =>
    refine ⟨.next (.member .empty true outer) (inside ++ '\x7d' :: rest), ?_, ?_⟩
    · rw [openNode, List.cons_append, skipBlank_gap blank (by decide)]
      simp
    · exact ⟨members, inside, _, rest, joined, each, tells_iff.mp tells, rfl, follows⟩
  | @kind first inside word joined kind =>
    refine ⟨complete ⟨word, "", []⟩ outer rest, ?_, complete_awaits.mpr follows⟩
    simp only [joined_cons_iff, joined_nil_iff] at joined
    obtain ⟨gapOne, _, leadOne, last, rfl⟩ := joined
    rw [openNode, List.cons_append, skipBlank_gap blank (by decide)]
    simp only [List.append_assoc, List.singleton_append]
    rw [openElements, nextElement_quoted leadOne kind]
    simp only [readString_quoted kind, nextElement_end false last]
  | @value first second inside word lexeme joined kind value =>
    refine ⟨complete ⟨word, lexeme, []⟩ outer rest, ?_, complete_awaits.mpr follows⟩
    simp only [joined_cons_iff, joined_nil_iff] at joined
    obtain ⟨gapOne, _, leadOne, ⟨gapTwo, _, leadTwo, last, rfl⟩, rfl⟩ := joined
    rw [openNode, List.cons_append, skipBlank_gap blank (by decide)]
    simp only [List.append_assoc, List.singleton_append]
    rw [openElements, nextElement_quoted leadOne kind]
    simp only [readString_quoted kind, nextElement_quoted leadTwo value, readString_quoted value,
      nextElement_end false last]
  | @children first second third inside word lexeme trees joined kind value kids =>
    cases kids with
    | @mk within kids nodes each =>
      simp only [joined_cons_iff, joined_nil_iff] at joined
      obtain ⟨gapOne, _, leadOne, ⟨gapTwo, _, leadTwo, ⟨gapThree, last, leadThree, clear, rfl⟩, rfl⟩,
        rfl⟩ := joined
      refine ⟨.next (.child ⟨.list word lexeme, []⟩ true outer)
        (within ++ ']' :: (last ++ ']' :: rest)), ?_, ?_⟩
      · have third := nextElement_lead leadThree (by decide : isBlank '[' = false) (by decide)
          (within ++ ']' :: (last ++ ']' :: rest))
        have opened : openList ('[' :: _) = _ :=
          openList_append .nil (within ++ ']' :: (last ++ ']' :: rest))
        rw [openNode, List.cons_append, skipBlank_gap blank (by decide)]
        simp only [List.append_assoc, List.cons_append, List.nil_append]
        rw [openElements, nextElement_quoted leadOne kind]
        simp only [readString_quoted kind, nextElement_quoted leadTwo value,
          readString_quoted value, third, opened]
      · exact ⟨kids, within, _, nodes, each, rfl, last, rest, clear, rfl, follows⟩

-- The key of a member decides how its value is read.
theorem step_named {name : List Char} (lead : Lead first gap) (named : Named name word)
    (members : Members) (outer : List Frame) :
    ∃ left right, Blanks left ∧ Blanks right ∧
      ∀ rest, step (.member members first outer) (gap ++ (name ++ rest)) =
        readMember members outer (Key.ofName? word) (left ++ ':' :: (right ++ rest)) := by
  cases named with
  | @mk quoted word left right key before behind =>
    refine ⟨left, right, before, behind, ?_⟩
    intro rest
    cases key with
    | @mk raw content spelled =>
      have read := readText_append spelled [] (left ++ ':' :: (right ++ rest))
      rw [List.reverse_nil, List.nil_append] at read
      rw [step, List.append_assoc, List.cons_append, nextKey_lead lead]
      simp only [List.append_assoc, List.cons_append, List.nil_append, read]

-- What stands behind a member does not lengthen a number.
theorem settled_member (joined : Joined false pieces inside) (rest : List Char) :
    Settled (inside ++ '\x7d' :: rest) :=
  joined.settled (settled_closing .object rest)

theorem step_of_member_awaits (awaits : members.Awaits (Awaits answer outer) first text) :
    ∃ after, step (.member members first outer) text = .ok after ∧ after.Awaits answer := by
  obtain ⟨told, inside, tree, rest, joined, each, tells, rfl, follows⟩ := awaits
  cases told with
  | nil =>
    rw [List.map_nil, joined_nil_iff] at joined
    rw [List.map_nil, tell_nil_iff] at tells
    refine ⟨complete tree outer rest, ?_, complete_awaits.mpr follows⟩
    rw [step, nextKey_end first joined]
    simp only [tells]
  | cons head told =>
    obtain ⟨raw, detail⟩ := head
    rw [List.map_cons, joined_cons_iff] at joined
    obtain ⟨gap, more, lead, later, rfl⟩ := joined
    have member : Member raw detail := each (raw, detail) (by simp)
    have others : ∀ member ∈ told, Member member.1 member.2 :=
      fun other present => each other (by simp [present])
    rw [List.append_assoc, List.append_assoc]
    cases member with
    | @kind name raw word key meant =>
      obtain ⟨left, right, before, behind, stepped⟩ := step_named lead key members outer
      obtain ⟨new, tells⟩ := tell_kind_iff.mp tells
      refine ⟨.next (.member { members with kind := some word } false outer)
        (more ++ '\x7d' :: rest), ?_, told, more, tree, rest, later, others, tells, rfl, follows⟩
      rw [List.append_assoc, stepped]
      simp [readMember, Key.ofName?, new, readColon_append before, readString_append behind meant]
    | @value name raw word key meant =>
      obtain ⟨left, right, before, behind, stepped⟩ := step_named lead key members outer
      obtain ⟨new, tells⟩ := tell_value_iff.mp tells
      refine ⟨.next (.member { members with value := some word } false outer)
        (more ++ '\x7d' :: rest), ?_, told, more, tree, rest, later, others, tells, rfl, follows⟩
      rw [List.append_assoc, stepped]
      simp [readMember, Key.ofName?, new, readColon_append before, readString_append behind meant]
    | @children name raw trees key meant =>
      obtain ⟨left, right, before, behind, stepped⟩ := step_named lead key members outer
      cases meant with
      | @mk within kids nodes eachKid =>
        obtain ⟨new, tells⟩ := tell_children_iff.mp tells
        refine ⟨.next (.child ⟨.object members, []⟩ true outer)
          (within ++ ']' :: (more ++ '\x7d' :: rest)), ?_, kids, within, _, nodes, eachKid, rfl,
          told, more, tree, rest, later, others, tells, rfl, follows⟩
        rw [List.append_assoc, stepped]
        simp [readMember, Key.ofName?, new, readColon_append before, openList_append behind]
    | @other name word raw key unknown meant =>
      obtain ⟨left, right, before, behind, stepped⟩ := step_named lead key members outer
      rw [List.map_cons, tell_nothing_iff] at tells
      refine ⟨.next (.member members false outer) (more ++ '\x7d' :: rest), ?_,
        told, more, tree, rest, later, others, tells, rfl, follows⟩
      have skipped := skipValue_append behind meant (settled_member later rest)
      rw [List.append_assoc, stepped, Key.ofName?_eq_none_iff.mpr unknown]
      simp [readMember, readColon_append before, skipped]

theorem step_of_child_awaits {frame : Frame}
    (awaits : frame.Awaits (Awaits answer outer) first text) :
    ∃ after, step (.child frame first outer) text = .ok after ∧ after.Awaits answer := by
  obtain ⟨kids, inside, rest, joined, each, rfl, follows⟩ := awaits
  cases kids with
  | nil =>
    rw [List.map_nil, joined_nil_iff] at joined
    rw [List.map_nil, List.append_nil] at follows
    rw [step, nextElement_end first joined]
    obtain ⟨holder, children⟩ := frame
    cases holder with
    | object members => exact ⟨_, rfl, follows⟩
    | list kind value =>
      obtain ⟨last, rest, clear, rfl, follows⟩ := follows
      refine ⟨complete ⟨kind, value, children.reverse⟩ outer rest, ?_, complete_awaits.mpr follows⟩
      simp only [closeList_append clear]
  | cons head kids =>
    obtain ⟨raw, tree⟩ := head
    rw [List.map_cons, joined_cons_iff] at joined
    obtain ⟨gap, more, lead, later, rfl⟩ := joined
    have node : Node raw tree := each (raw, tree) (by simp)
    obtain ⟨c, tail, rfl, solid, other⟩ := node.head
    have rest : Awaits answer (frame :: outer) tree (more ++ ']' :: rest) :=
      ⟨kids, more, rest, later, fun kid present => each kid (by simp [present]), rfl,
        by simpa using follows⟩
    obtain ⟨after, opened, awaits⟩ := openNode_of_node .nil node rest
    refine ⟨after, ?_, awaits⟩
    simp only [List.append_assoc, List.cons_append]
    rw [step, nextElement_lead lead solid other]
    exact opened

-- A step and its lookahead: the reader goes on exactly where the grammar does.
theorem awaits_iff_step {state : State} : state.Awaits answer text ↔
    ∃ after, step state text = .ok after ∧ after.Awaits answer := by
  constructor
  · intro awaits
    cases state with
    | member => exact step_of_member_awaits awaits
    | child => exact step_of_child_awaits awaits
  · rintro ⟨after, found, awaits⟩
    exact awaits_of_step found awaits

-- The run lemma, by the reader's own recursion.
theorem readFrom_eq_ok_iff {state : State} :
    readFrom state text = .ok answer ↔ state.Awaits answer text := by
  fun_induction readFrom state text with
  | case1 state text fault failed =>
    rw [awaits_iff_step]
    simp [failed]
  | case2 state text tree rest found =>
    rw [awaits_iff_step]
    simp [found, Step.Awaits]
  | case3 state text next rest found _ ih =>
    rw [ih]
    constructor
    · intro awaits
      exact awaits_iff_step.mpr ⟨_, found, awaits⟩
    · intro awaits
      obtain ⟨after, same, awaits⟩ := awaits_iff_step.mp awaits
      rw [found] at same
      cases same
      exact awaits

end Arbor.Json
