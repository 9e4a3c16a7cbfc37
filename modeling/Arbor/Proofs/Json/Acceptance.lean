import Arbor.Proofs.Json.Machine

-- Whole JSON sources: the reader accepts exactly the texts of one node with white space around it,
-- and so nothing but white space may follow an accepted source.
namespace Arbor.Json

-- One node, and white space around it.
def Denotes (source : List Char) (tree : Tree) : Prop :=
  ∃ lead raw trail, Blanks lead ∧ Node raw tree ∧ Blanks trail ∧ source = lead ++ (raw ++ trail)

variable {text more : List Char} {tree : Tree} {answer : Tree × List Char} {after : Step}

-- Reads on from a step to the root and what stands behind it.
def Step.finish : Step → Except Fault (Tree × List Char)
  | .done tree rest => .ok (tree, rest)
  | .next state rest => readFrom state rest

theorem finish_eq_ok_iff : after.finish = .ok answer ↔ after.Awaits answer := by
  cases after with
  | next state rest => exact readFrom_eq_ok_iff
  | done tree rest => simp [Step.finish, Step.Awaits]

-- Behind the root there may be blanks and nothing else.
theorem readRoot_of_finish {rest : List Char} (opened : openNode [] text = .ok after)
    (finished : after.finish = .ok (tree, rest)) :
    readRoot text =
      if Blanks rest then .ok tree else .error (.at .trailingCharacters (skipBlank rest)) := by
  by_cases blank : Blanks rest
  · have ended := skipBlank_eq_nil_iff.mpr blank
    rw [if_pos blank]
    cases after with
    | next state behind => simp [readRoot, opened, show readFrom state behind = _ from finished, ended]
    | done other behind =>
      cases finished
      simp [readRoot, opened, ended]
  · obtain ⟨c, tail, ahead⟩ := List.exists_cons_of_ne_nil (mt skipBlank_eq_nil_iff.mp blank)
    rw [if_neg blank]
    cases after with
    | next state behind => simp [readRoot, opened, show readFrom state behind = _ from finished, ahead]
    | done other behind =>
      cases finished
      simp [readRoot, opened, ahead]

theorem readRoot_eq_ok_iff : readRoot text = .ok tree ↔
    ∃ after rest, openNode [] text = .ok after ∧ after.finish = .ok (tree, rest) ∧ Blanks rest := by
  constructor
  · intro found
    cases opened : openNode [] text with
    | error fault => simp [readRoot, opened] at found
    | ok after =>
      cases finished : after.finish with
      | error fault =>
        cases after with
        | next state behind =>
          simp [readRoot, opened, show readFrom state behind = _ from finished] at found
        | done other behind => cases finished
      | ok answer =>
        obtain ⟨other, rest⟩ := answer
        rw [readRoot_of_finish opened finished] at found
        split at found
        · rename_i blank
          cases found
          exact ⟨after, rest, rfl, finished, blank⟩
        · cases found
  · rintro ⟨after, rest, opened, finished, blank⟩
    rw [readRoot_of_finish opened finished, if_pos blank]

theorem readRoot_eq_ok_iff_denotes : readRoot text = .ok tree ↔ Denotes text tree := by
  rw [readRoot_eq_ok_iff]
  constructor
  · rintro ⟨after, rest, opened, finished, behind⟩
    obtain ⟨lead, raw, other, trail, before, node, rfl, same⟩ :=
      node_of_openNode opened (finish_eq_ok_iff.mp finished)
    cases same
    exact ⟨lead, raw, rest, before, node, behind, rfl⟩
  · rintro ⟨lead, raw, trail, before, node, behind, rfl⟩
    obtain ⟨after, opened, awaits⟩ :=
      openNode_of_node before node (show Awaits (tree, trail) [] tree trail from rfl)
    exact ⟨after, trail, opened, finish_eq_ok_iff.mpr awaits, behind⟩

theorem Denotes.append_blanks (denotes : Denotes text tree) (blank : Blanks more) :
    Denotes (text ++ more) tree := by
  obtain ⟨lead, raw, trail, before, node, behind, rfl⟩ := denotes
  refine ⟨lead, raw, trail ++ more, before, node, behind.append blank, ?_⟩
  rw [List.append_assoc, List.append_assoc]

-- The root is read in the same way whatever follows it.
theorem Denotes.readRoot_append (denotes : Denotes text tree) (solid : ¬ Blanks more) :
    readRoot (text ++ more) = .error (.at .trailingCharacters (skipBlank more)) := by
  obtain ⟨lead, raw, trail, before, node, behind, rfl⟩ := denotes
  obtain ⟨after, opened, awaits⟩ := openNode_of_node before node
    (show Awaits (tree, trail ++ more) [] tree (trail ++ more) from rfl)
  have further : ¬ Blanks (trail ++ more) := fun blank =>
    solid fun c present => blank c (List.mem_append_right trail present)
  rw [List.append_assoc, List.append_assoc, readRoot_of_finish opened (finish_eq_ok_iff.mpr awaits),
    if_neg further, skipBlank_append behind]

theorem Denotes.not_blank (denotes : Denotes text tree) : ¬ ∀ c ∈ text, Text.isBlank c = true := by
  intro blank
  obtain ⟨lead, raw, trail, -, node, -, rfl⟩ := denotes
  cases node with
  | object => exact absurd (blank '\x7b' (by simp)) (by decide)
  | kind | value | children => exact absurd (blank '[' (by simp)) (by decide)

theorem read_of_blank {source : String} (blank : ∀ c ∈ source.toList, Text.isBlank c = true) :
    read source = .error .empty := by
  rw [read, if_pos (List.all_eq_true.mpr blank)]

section

variable {source : String}

theorem read_of_ok (solid : ¬ ∀ c ∈ source.toList, Text.isBlank c = true)
    (found : readRoot source.toList = .ok tree) : read source = .ok tree := by
  rw [read, if_neg (by rwa [List.all_eq_true]), found]

theorem read_of_error {fault : Fault} (solid : ¬ ∀ c ∈ source.toList, Text.isBlank c = true)
    (found : readRoot source.toList = .error fault) :
    read source = .error (.malformed (fault.place source.toList) fault.cause) := by
  rw [read, if_neg (by rwa [List.all_eq_true]), found]

theorem denotes_of_read (found : read source = .ok tree) : Denotes source.toList tree := by
  by_cases blank : ∀ c ∈ source.toList, Text.isBlank c = true
  · rw [read_of_blank blank] at found
    cases found
  · rw [← readRoot_eq_ok_iff_denotes]
    cases root : readRoot source.toList with
    | error fault =>
      rw [read_of_error blank root] at found
      cases found
    | ok other =>
      cases (read_of_ok blank root).symm.trans found
      rfl

theorem read_of_denotes (denotes : Denotes source.toList tree) : read source = .ok tree :=
  read_of_ok denotes.not_blank (readRoot_eq_ok_iff_denotes.mpr denotes)

end

-- The reader accepts exactly the texts of nodes; it finds nothing in white space of any script, and
-- whatever else it refuses is malformed.
theorem read_accepts_nodes (source : String) :
    (∀ tree, read source = .ok tree ↔ Denotes source.toList tree) ∧
    (read source = .error .empty ↔ ∀ c ∈ source.toList, Text.isBlank c = true) ∧
    ((∃ place cause, read source = .error (.malformed place cause)) ↔
      (∀ tree, ¬ Denotes source.toList tree) ∧
        ¬ ∀ c ∈ source.toList, Text.isBlank c = true) := by
  refine ⟨fun tree => ⟨denotes_of_read, read_of_denotes⟩, ?_⟩
  by_cases blank : ∀ c ∈ source.toList, Text.isBlank c = true
  · rw [read_of_blank blank]
    exact ⟨⟨fun _ => blank, fun _ => rfl⟩, nofun, fun ⟨_, solid⟩ => absurd blank solid⟩
  · cases root : readRoot source.toList with
    | error fault =>
      have refused (tree : Tree) : ¬ Denotes source.toList tree := by
        intro denotes
        cases root.symm.trans (readRoot_eq_ok_iff_denotes.mpr denotes)
      rw [read_of_error blank root]
      exact ⟨⟨nofun, fun all => absurd all blank⟩, fun _ => ⟨refused, blank⟩, fun _ => ⟨_, _, rfl⟩⟩
    | ok tree =>
      have denotes := readRoot_eq_ok_iff_denotes.mp root
      rw [read_of_ok blank root]
      exact ⟨⟨nofun, fun all => absurd all blank⟩, nofun, fun ⟨refused, _⟩ => absurd denotes (refused tree)⟩

-- An accepted source holds one tree. JSON's own four blanks may follow it, and anything else is
-- refused as too much, other white space included, so no accepted source begins another.
theorem read_holds_one_tree {source : String} (accepted : read source = .ok tree) (more : String) :
    (Blanks more.toList → read (source ++ more) = .ok tree) ∧
    (¬ Blanks more.toList →
      ∃ place, read (source ++ more) = .error (.malformed place .trailingCharacters)) ∧
    ∀ other, read (source ++ more) = .ok other → Blanks more.toList ∧ other = tree := by
  have denotes := denotes_of_read accepted
  have kept (blank : Blanks more.toList) : read (source ++ more) = .ok tree := by
    apply read_of_denotes
    rw [String.toList_append]
    exact denotes.append_blanks blank
  have refused (solid : ¬ Blanks more.toList) :
      ∃ place, read (source ++ more) = .error (.malformed place .trailingCharacters) := by
    have dark : ¬ ∀ c ∈ (source ++ more).toList, Text.isBlank c = true := by
      rw [String.toList_append, List.forall_mem_append]
      exact fun blank => denotes.not_blank blank.1
    have fault := denotes.readRoot_append solid
    rw [← String.toList_append] at fault
    exact ⟨_, read_of_error dark fault⟩
  refine ⟨kept, refused, ?_⟩
  intro other found
  by_cases blank : Blanks more.toList
  · cases (kept blank).symm.trans found
    exact ⟨blank, rfl⟩
  · obtain ⟨place, fault⟩ := refused blank
    cases fault.symm.trans found

-- A no-break space is white space, but none of JSON's.
theorem read_holds_one_tree_noBreak :
    read "[\"A\"]" = .ok ⟨"A", "", []⟩ ∧ Text.isBlank '\u00a0' = true ∧
    read "[\"A\"]\t\n" = .ok ⟨"A", "", []⟩ ∧
    ∃ place, read "[\"A\"]\u00a0" = .error (.malformed place .trailingCharacters) := by
  have spelled : Spells ['A'] ['A'] := .plain ⟨by decide, by decide, by decide⟩ .nil
  have joined : Joined true ["\"A\"".toList] "\"A\"".toList := .cons (.first .nil) (.nil .nil)
  have node : Node "[\"A\"]".toList ⟨"A", "", []⟩ := .kind joined (.mk spelled)
  have accepted : read "[\"A\"]" = .ok ⟨"A", "", []⟩ :=
    read_of_denotes ⟨[], "[\"A\"]".toList, [], .nil, node, .nil, by decide⟩
  refine ⟨accepted, by decide, ?_, ?_⟩
  · exact (read_holds_one_tree accepted "\t\n").1 (by decide)
  · exact (read_holds_one_tree accepted "\u00a0").2.1 (by decide)

end Arbor.Json
