import Arbor.Proofs.Sexpr.Machine

-- The grammar of the parenthesised notation over tokens. The reader accepts exactly the sources whose
-- tokens are derived from it, and finds nothing exactly in those without tokens.
namespace Arbor.Sexpr

-- A value is written as one token or left out.
def valueTokens : Option String → List Token
  | none => []
  | some text => [.value text]

mutual

-- The tokens of a node: its kind, perhaps its value, and its children, between parentheses.
inductive Node : List Token → Tree → Prop where
  | mk (kids : Nodes within children) :
      Node (.opening :: .word kind :: (valueTokens value ++ within ++ [.closing]))
        ⟨kind, value.getD "", children⟩

-- The tokens of nodes one after the other.
inductive Nodes : List Token → List Tree → Prop where
  | nil : Nodes [] []
  | cons (first : Node tokens tree) (others : Nodes later trees) :
      Nodes (tokens ++ later) (tree :: trees)

end

-- What has been read of nodes that are still open, outermost first: each is an opening parenthesis
-- with kind, value and the children met so far, and no closing one.
inductive Open : List Unclosed → List Token → Prop where
  | nil : Open [] []
  | node (outer : Open nodes tokens) (kids : Nodes within node.children.reverse) :
      Open (node :: nodes)
        (tokens ++ .opening :: .word node.kind :: (valueTokens node.value ++ within))

-- The invariant: the tokens read so far are a partial derivation that the open nodes complete, or
-- else all of the root.
def State.Holds (state : State) (tokens : List Token) : Prop :=
  match state.root with
  | none => Open state.nodes tokens
  | some tree => state.nodes = [] ∧ Node tokens tree

variable {before after : State} {tokens later within : List Token} {tree : Tree}
  {trees children : List Tree}

theorem Nodes.snoc (last : Node later tree) :
    ∀ {tokens trees}, Nodes tokens trees → Nodes (tokens ++ later) (trees ++ [tree])
  | _, _, .nil => by
    have alone := Nodes.cons last .nil
    rwa [List.append_nil] at alone
  | _, _, .cons first others => by
    rw [List.append_assoc, List.cons_append]
    exact .cons first (others.snoc last)

-- A closed node is derived from what was read of it.
theorem Unclosed.node_close {node : Unclosed} (kids : Nodes within node.children.reverse) :
    Node (.opening :: .word node.kind :: (valueTokens node.value ++ within ++ [.closing]))
      node.close :=
  .mk kids

theorem Step.holds (step : Step before tokens after) {earlier : List Token}
    (holds : before.Holds earlier) : after.Holds (earlier ++ tokens) := by
  cases step with
  | opening => exact .node holds .nil
  | @value kind outer text =>
    cases holds with
    | node past kids =>
      cases kids with
      | nil =>
        have valued : Open (⟨kind, some text, []⟩ :: outer) _ := .node past .nil
        simpa [State.Holds, valueTokens] using valued
  | @closing node parent outer =>
    cases holds with
    | node past kids =>
      cases past with
      | node past elder =>
        have joined : Open (parent.add node.close :: outer) _ :=
          .node past (by simpa [Unclosed.add] using elder.snoc (Unclosed.node_close kids))
        simpa [State.Holds, Unclosed.add] using joined
  | root =>
    cases holds with
    | node past kids =>
      cases past with
      | nil => exact ⟨rfl, by simpa using Unclosed.node_close kids⟩

theorem Reaches.holds (path : Reaches before tokens after) {earlier : List Token}
    (holds : before.Holds earlier) : after.Holds (earlier ++ tokens) := by
  induction path generalizing earlier with
  | done => rwa [List.append_nil]
  | step move _ ih =>
    rw [← List.append_assoc]
    exact ih (move.holds holds)

theorem holds_of_reaches_start (path : Reaches .start tokens after) : after.Holds tokens :=
  path.holds (.nil : Open [] [])

theorem reaches_value (kind : String) (value : Option String) (nodes : List Unclosed) :
    Reaches ⟨⟨kind, none, []⟩ :: nodes, none⟩ (valueTokens value)
      ⟨⟨kind, value, []⟩ :: nodes, none⟩ := by
  cases value with
  | none => exact .done
  | some text => exact .single .value

mutual

-- The machine takes a node up to its closing parenthesis whatever is open around it.
theorem Node.reaches (nodes : List Unclosed) : ∀ {tokens tree}, Node tokens tree →
    ∃ inside node, tokens = inside ++ [.closing] ∧ node.close = tree ∧
      Reaches ⟨nodes, none⟩ inside ⟨node :: nodes, none⟩
  | _, _, @Node.mk within children kind value kids => by
    refine ⟨[.opening, .word kind] ++ (valueTokens value ++ within),
      ⟨kind, value, children.reverse⟩, by simp, by simp [Unclosed.close], ?_⟩
    have inside := kids.reaches ⟨kind, value, []⟩ nodes
    rw [List.append_nil] at inside
    exact .step .opening ((reaches_value kind value nodes).append inside)

theorem Nodes.reaches (node : Unclosed) (outer : List Unclosed) : ∀ {tokens trees},
    Nodes tokens trees → Reaches ⟨node :: outer, none⟩ tokens
      ⟨{ node with children := trees.reverse ++ node.children } :: outer, none⟩
  | _, _, .nil => .done
  | _, _, .cons first others => by
    obtain ⟨inside, child, rfl, rfl, path⟩ := first.reaches (node :: outer)
    have rest := others.reaches (node.add child.close) outer
    rw [List.append_assoc, List.reverse_cons, List.append_assoc]
    exact path.append (.step .closing rest)

end

theorem reaches_root_iff : Reaches .start tokens ⟨[], some tree⟩ ↔ Node tokens tree := by
  constructor
  · intro path
    exact (holds_of_reaches_start path).2
  · intro derived
    obtain ⟨inside, node, rfl, rfl, path⟩ := derived.reaches []
    exact path.append (.single .root)

theorem reaches_nothing_iff : Reaches .start tokens ⟨[], none⟩ ↔ tokens = [] := by
  constructor
  · intro path
    have holds : Open [] tokens := holds_of_reaches_start path
    cases holds with
    | nil => rfl
  · rintro rfl
    exact .done

theorem lexes_nil_iff {text : List Char} : Lexes text [] ↔ Trailing text := by
  constructor
  · rintro ⟨rest, scan, last⟩
    cases scan with
    | done => exact last
  · intro last
    exact ⟨text, .done, last⟩

theorem read_eq_ok (source : String) (tree : Tree) :
    read source = .ok tree ↔ State.start.read (.start source) = .ok (some tree) := by
  simp only [read, State.read, State.start]
  split <;> simp_all

theorem read_eq_tree_iff {source : String} :
    read source = .ok tree ↔ ∃ tokens, Lexes source.toList tokens ∧ Node tokens tree := by
  rw [read_eq_ok, read_eq_ok_iff]
  simp only [Cursor.start, reaches_root_iff]

theorem read_of_scans {source : String} (scan : Scans source.toList tokens [])
    (node : Node tokens tree) : read source = .ok tree :=
  read_eq_tree_iff.mpr ⟨tokens, ⟨[], scan, .closed .nil⟩, node⟩

theorem read_eq_empty (source : String) :
    read source = .error .empty ↔ State.start.read (.start source) = .ok none := by
  simp only [read, State.read, State.start]
  split <;> simp_all

-- The reader accepts exactly the grammar, and a source is empty exactly if it has no tokens.
theorem read_exact (source : String) :
    (∀ tree, read source = .ok tree ↔
      ∃ tokens, Lexes source.toList tokens ∧ Node tokens tree) ∧
    (read source = .error .empty ↔ Trailing source.toList) := by
  constructor
  · intro tree
    exact read_eq_tree_iff
  · rw [read_eq_empty, read_eq_ok_iff]
    simp only [Cursor.start, reaches_nothing_iff, exists_eq_right, lexes_nil_iff]

end Arbor.Sexpr
