import Arbor.Proofs.Graph.Faithful
import Arbor.Proofs.Rendering
import Arbor.Proofs.Source.Kinds

-- Trees read from the parenthesised notation or from source code. Their kinds are words, so nothing
-- is lost when kind and value are put together in a label.
namespace Arbor.InputFormat

open Arbor.Sexpr (IsWord WordKinds Written)

variable {format otherFormat : InputFormat} {source otherSource : String} {tree otherTree : Tree}

theorem wordKinds_of_read (bare : format = .sexpr ∨ format = .rust)
    (accepted : format.read source = .ok tree) : WordKinds tree := by
  rcases bare with rfl | rfl
  · rw [read] at accepted
    cases found : Sexpr.read source with
    | error refusal => rw [found] at accepted; cases accepted
    | ok root =>
      rw [found] at accepted
      cases accepted
      exact Sexpr.wordKinds_of_read found
  · rw [read] at accepted
    cases found : Source.read source with
    | none => rw [found] at accepted; cases accepted
    | some root =>
      rw [found] at accepted
      cases accepted
      exact Source.wordKinds_of_read found

-- Signs that are no part of a kind, because they mean something in the notation or in a drawing.
def separators : List Char := [' ', '"', '\\', '(', ')', '\n']

theorem separator_not_mem {kind : List Char} (word : IsWord kind) :
    ∀ c ∈ separators, c ∉ kind := by
  intro c member
  apply Sexpr.not_mem_of_isWord word
  simp only [separators, List.mem_cons, List.not_mem_nil, or_false] at member
  rcases member with rfl | rfl | rfl | rfl | rfl | rfl <;> decide +kernel

-- Two accepted sources, each in either of the formats. Kinds are words at every depth, labels tell
-- kinds and values, every way of writing the first tree down reads back, and the drawings are the
-- same exactly if the trees are.
theorem read_unambiguous (bare : format = .sexpr ∨ format = .rust)
    (otherBare : otherFormat = .sexpr ∨ otherFormat = .rust)
    (accepted : format.read source = .ok tree)
    (otherAccepted : otherFormat.read otherSource = .ok otherTree) :
    (tree.Throughout fun node =>
      IsWord node.kind.toList ∧ ∀ c ∈ separators, c ∉ node.kind.toList) ∧
    (tree.Throughout fun node => otherTree.Throughout fun peer =>
      node.label = peer.label → node.kind = peer.kind ∧ node.value = peer.value) ∧
    Written tree (Sexpr.spell tree) ∧
    (∀ raw, Written tree raw → Sexpr.read (String.ofList raw) = .ok tree) ∧
    (Rendering.text ⟨format, .dot, .preOrder⟩ source =
        Rendering.text ⟨otherFormat, .dot, .preOrder⟩ otherSource ↔
      tree = otherTree) := by
  have words := wordKinds_of_read bare accepted
  have otherWords := wordKinds_of_read otherBare otherAccepted
  refine ⟨?_, ?_, Sexpr.written_spell tree, fun raw => Sexpr.read_of_written words, ?_⟩
  · intro path node found
    have word := words.throughout path node found
    exact ⟨word, separator_not_mem word⟩
  · intro path node found place peer there
    exact Sexpr.label_inj (words.throughout path node found) (otherWords.throughout place peer there)
  · have drawn : Rendering.text ⟨format, .dot, .preOrder⟩ source = .ok (Graph.render .preOrder tree) :=
      Rendering.text_of_read accepted
    have otherDrawn : Rendering.text ⟨otherFormat, .dot, .preOrder⟩ otherSource =
        .ok (Graph.render .preOrder otherTree) :=
      Rendering.text_of_read otherAccepted
    rw [drawn, otherDrawn, Except.ok.injEq, Graph.render_preOrder_eq_iff,
      words.alike_iff_eq otherWords]

-- A function whose body is a text with a parenthesis, a quote and a line feed in it, and the same tree
-- in the notation, where only the quote has to be escaped.
theorem read_unambiguous_function :
    InputFormat.rust.read "fn f() \x7b \"(a \\\"\\n\" \x7d" =
      .ok ⟨"File", "", [⟨"Fn", "f", [⟨"Block", "", [⟨"Lit", "(a \"\n", []⟩]⟩]⟩]⟩ ∧
    InputFormat.sexpr.read "(File (Fn \"f\" (Block (Lit \"(a \\\"\n\"))))" =
      .ok ⟨"File", "", [⟨"Fn", "f", [⟨"Block", "", [⟨"Lit", "(a \"\n", []⟩]⟩]⟩]⟩ ∧
    Rendering.text ⟨.rust, .dot, .preOrder⟩ "fn f() \x7b \"(a \\\"\\n\" \x7d" =
      Rendering.text ⟨.sexpr, .dot, .preOrder⟩ "(File (Fn \"f\" (Block (Lit \"(a \\\"\n\"))))" := by
  let tree : Tree := ⟨"File", "", [⟨"Fn", "f", [⟨"Block", "", [⟨"Lit", "(a \"\n", []⟩]⟩]⟩]⟩
  have listed : (Source.read "fn f() \x7b \"(a \\\"\\n\" \x7d").map (Tree.listing 0) =
      some (Tree.listing 0 tree) := by decide +kernel
  obtain ⟨found, parsed, same⟩ := Option.map_eq_some_iff.mp listed
  rw [Tree.listing_inj same] at parsed
  have accepted : InputFormat.rust.read "fn f() \x7b \"(a \\\"\\n\" \x7d" = .ok tree := by
    rw [read, parsed]
  have spelled : String.ofList (Sexpr.spell tree) = "(File (Fn \"f\" (Block (Lit \"(a \\\"\n\"))))" := by
    decide +kernel
  have back := Sexpr.read_of_written (Source.wordKinds_of_read parsed) (Sexpr.written_spell tree)
  rw [spelled] at back
  have otherAccepted : InputFormat.sexpr.read "(File (Fn \"f\" (Block (Lit \"(a \\\"\n\"))))" = .ok tree :=
    congrArg (Except.mapError Refusal.ofSexpr) back
  obtain ⟨_, _, _, _, drawn⟩ := read_unambiguous (.inr rfl) (.inl rfl) accepted otherAccepted
  exact ⟨accepted, otherAccepted, drawn.mpr rfl⟩

end Arbor.InputFormat
