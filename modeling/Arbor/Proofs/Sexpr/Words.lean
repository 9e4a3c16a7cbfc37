import Arbor.Proofs.Sexpr.Spelling
import Arbor.Proofs.Text.Split
import Arbor.Proofs.Tree.Position

-- Trees whose kinds are words. The reader builds no others, each of them can be written down and
-- read back, and in each of them labels tell kind and value apart.
namespace Arbor.Sexpr

variable {tokens : List Token} {tree left right : Tree} {trees lefts rights : List Tree}
  {source rest : List Char}

theorem wordKinds_iff :
    WordKinds tree ↔ IsWord tree.kind.toList ∧ AllWordKinds tree.children := by
  cases tree
  rw [WordKinds]

theorem allWordKinds_iff : AllWordKinds trees ↔ ∀ tree ∈ trees, WordKinds tree := by
  induction trees with
  | nil => simp [AllWordKinds]
  | cons tree trees ih => rw [AllWordKinds, ih, List.forall_mem_cons]

theorem allWordKinds_append :
    AllWordKinds (lefts ++ rights) ↔ AllWordKinds lefts ∧ AllWordKinds rights := by
  simp only [allWordKinds_iff, List.forall_mem_append]

theorem throughout_of_allWordKinds (words : AllWordKinds trees) :
    ∀ tree ∈ trees, tree.Throughout fun node => IsWord node.kind.toList := by
  induction trees using Tree.forest_induction with
  | nil => intro tree member; cases member
  | cons kind value children rest below beside =>
    obtain ⟨⟨word, inner⟩, others⟩ := words
    exact List.forall_mem_cons.mpr ⟨Tree.throughout_iff.mpr ⟨word, below inner⟩, beside others⟩

theorem WordKinds.throughout (words : WordKinds tree) :
    tree.Throughout fun node => IsWord node.kind.toList :=
  throughout_of_allWordKinds (allWordKinds_iff.mpr (List.forall_mem_singleton.mpr words)) tree
    (List.mem_singleton_self tree)

-- Words among the tokens of a source.
theorem isWord_of_mem_scans (scan : Scans source tokens rest) {text : String}
    (member : .word text ∈ tokens) : IsWord text.toList := by
  induction scan with
  | done => cases member
  | token _ written _ _ ih =>
    rcases List.mem_cons.mp member with rfl | later
    · cases written with
      | word holds => rwa [String.toList_ofList]
    · exact ih later

mutual

theorem Node.wordKinds : ∀ {tokens tree}, Node tokens tree →
    (∀ text, .word text ∈ tokens → IsWord text.toList) → WordKinds tree
  | _, _, @Node.mk within children kind value kids, words => by
    refine ⟨words kind (by simp), kids.wordKinds ?_⟩
    intro text member
    exact words text (by simp [member])

theorem Nodes.wordKinds : ∀ {tokens trees}, Nodes tokens trees →
    (∀ text, .word text ∈ tokens → IsWord text.toList) → AllWordKinds trees
  | _, _, .nil, _ => trivial
  | _, _, .cons first others, words =>
    ⟨first.wordKinds fun text member => words text (List.mem_append_left _ member),
      others.wordKinds fun text member => words text (List.mem_append_right _ member)⟩

end

theorem wordKinds_of_read {source : String} (accepted : read source = .ok tree) :
    WordKinds tree := by
  obtain ⟨tokens, ⟨rest, scan, _⟩, path⟩ :=
    (read_eq_ok_iff _ _ _).mp ((read_eq_ok source tree).mp accepted)
  exact (reaches_root_iff.mp path).wordKinds fun text member => isWord_of_mem_scans scan member

-- One way to write a value: an empty one is left out, and only what has to be escaped is.
def spellChar (c : Char) : List Char :=
  if c = '"' then ['\\', '"'] else if c = '\\' then ['\\', '\\'] else [c]

def spellValue (value : String) : List Char :=
  if value = "" then [] else ' ' :: '"' :: (value.toList.flatMap spellChar ++ ['"'])

mutual

-- One way to write a tree, with a space before each value and each child.
def spell : Tree → List Char
  | ⟨kind, value, children⟩ => '(' :: (kind.toList ++ (spellValue value ++ (spellAll children ++ [')'])))

def spellAll : List Tree → List Char
  | [] => []
  | tree :: rest => ' ' :: (spell tree ++ spellAll rest)

end

theorem spells_flatMap (value : List Char) : Spells (value.flatMap spellChar) value := by
  induction value with
  | nil => exact .nil
  | cons c value ih =>
    rw [List.flatMap_cons, spellChar]
    split
    · rename_i quote
      rw [quote]
      exact .escaped .quote ih
    · split
      · rename_i backslash
        rw [backslash]
        exact .escaped .backslash ih
      · rename_i noQuote noBackslash
        exact .plain noQuote noBackslash ih

theorem trivia_space : Trivia [' '] := .blank rfl .nil

theorem writtenValue_spellValue (value : String) : WrittenValue value (spellValue value) := by
  rw [spellValue]
  split
  · rename_i empty
    rw [empty]
    exact .absent
  · exact .quoted trivia_space (spells_flatMap value.toList)

theorem written_of_children (kind value : String) {children : List Tree}
    (kids : WrittenAll children (spellAll children)) :
    Written ⟨kind, value, children⟩ (spell ⟨kind, value, children⟩) := by
  rw [spell]
  exact .mk .nil (writtenValue_spellValue value) kids .nil

theorem writtenAll_spellAll (trees : List Tree) : WrittenAll trees (spellAll trees) := by
  induction trees using Tree.forest_induction with
  | nil => exact .nil
  | cons kind value children rest below beside =>
    exact .cons trivia_space (written_of_children kind value below) beside

theorem written_spell (tree : Tree) : Written tree (spell tree) := by
  cases tree with
  | mk kind value children => exact written_of_children kind value (writtenAll_spellAll children)

theorem read_of_written {text : List Char} (words : WordKinds tree) (written : Written tree text) :
    read (String.ofList text) = .ok tree := by
  obtain ⟨tokens, derived, scan⟩ := written.scans words
  have whole := scan [] .nil []
  rw [List.nil_append, List.append_nil] at whole
  exact read_of_scans (by rwa [String.toList_ofList]) derived

-- Signs that are no part of words.
theorem not_mem_of_isWord {text : List Char} (word : IsWord text) {c : Char}
    (sign : isWordChar c = false) : c ∉ text := by
  intro member
  rw [word.2 c member] at sign
  cases sign

-- The first space of a label is the one behind the kind.
theorem label_inj (word : IsWord left.kind.toList) (otherWord : IsWord right.kind.toList)
    (same : left.label = right.label) : left.kind = right.kind ∧ left.value = right.value := by
  have space : isWordChar ' ' = false := by decide +kernel
  have chars : left.kind.toList ++ ' ' :: left.value.toList =
      right.kind.toList ++ ' ' :: right.value.toList := by
    simpa [Tree.label] using congrArg String.toList same
  have cut := congrArg (Text.splitAt ' ') chars
  rw [Text.splitAt_piece_append (not_mem_of_isWord word space),
    Text.splitAt_piece_append (not_mem_of_isWord otherWord space)] at cut
  obtain ⟨kinds, _⟩ := List.cons.inj cut
  rw [kinds] at chars
  obtain ⟨_, values⟩ := List.cons.inj (List.append_cancel_left chars)
  exact ⟨String.toList_inj.mp kinds, String.toList_inj.mp values⟩

theorem eq_of_alikeAll (words : AllWordKinds lefts) (otherWords : AllWordKinds rights)
    (alike : Tree.AlikeAll lefts rights) : lefts = rights := by
  induction lefts using Tree.forest_induction generalizing rights with
  | nil => exact alike.nil_eq.symm
  | cons kind value children rest below beside =>
    obtain ⟨right, others, rfl⟩ := alike.cases
    obtain ⟨here, later⟩ := Tree.alikeAll_cons.mp alike
    obtain ⟨label, inside⟩ := Tree.alike_iff.mp here
    obtain ⟨⟨word, inner⟩, outer⟩ := words
    obtain ⟨otherFirst, otherOuter⟩ := otherWords
    obtain ⟨otherWord, otherInner⟩ := wordKinds_iff.mp otherFirst
    obtain ⟨kinds, values⟩ := label_inj word otherWord label
    have first : ⟨kind, value, children⟩ = right := by
      cases right with
      | mk otherKind otherValue otherChildren =>
        rw [show kind = otherKind from kinds, show value = otherValue from values,
          below inner otherInner inside]
    rw [first, beside outer otherOuter later]

-- Likeness is equality where labels are unambiguous.
theorem WordKinds.alike_iff_eq (words : WordKinds left) (otherWords : WordKinds right) :
    left.Alike right ↔ left = right := by
  constructor
  · intro alike
    have all := Tree.alikeAll_cons.mpr ⟨alike, Tree.alikeAll_nil⟩
    exact List.singleton_inj.mp (eq_of_alikeAll ⟨words, trivial⟩ ⟨otherWords, trivial⟩ all)
  · rintro rfl path
    rfl

end Arbor.Sexpr
