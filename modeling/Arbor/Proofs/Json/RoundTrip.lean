import Arbor.Proofs.Json.Acceptance
import Arbor.Proofs.Rendering
import Arbor.Proofs.Sexpr.Grammar
import Arbor.Proofs.Tree.Position

-- What the JSON writer writes is a text of the grammar that denotes the tree written, so that reading
-- gives the tree back, and a tree that has passed through JSON is rendered as it would have been before.
namespace Arbor.Json

open Text (indent)

theorem hexDigit_digitChar : ∀ n < 16, Text.HexDigit (Nat.digitChar n) n := by decide +kernel

-- Small characters have two hexadecimal digits.
theorem code_control {c : Char} (small : c.toNat < 0x20) :
    Code ['0', '0', Nat.digitChar (c.toNat / 16), Nat.digitChar (c.toNat % 16)] c.toNat := by
  have zero := hexDigit_digitChar 0 (by decide)
  have high := hexDigit_digitChar (c.toNat / 16) (by omega)
  have low := hexDigit_digitChar (c.toNat % 16) (by omega)
  have code := Code.mk zero zero high low
  rwa [show 0 * 4096 + 0 * 256 + c.toNat / 16 * 16 + c.toNat % 16 = c.toNat by omega] at code

theorem spells_escapeChar {raw content : List Char} (c : Char) (more : Spells raw content) :
    Spells (escapeChar c ++ raw) (c :: content) := by
  by_cases quote : c = '"'
  · subst quote
    exact .escaped (.letter .quote) more
  by_cases backslash : c = '\\'
  · subst backslash
    exact .escaped (.letter .backslash) more
  by_cases backspace : c = '\x08'
  · subst backspace
    exact .escaped (.letter .backspace) more
  by_cases formFeed : c = '\x0c'
  · subst formFeed
    exact .escaped (.letter .formFeed) more
  by_cases lineFeed : c = '\n'
  · subst lineFeed
    exact .escaped (.letter .lineFeed) more
  by_cases carriageReturn : c = '\r'
  · subst carriageReturn
    exact .escaped (.letter .carriageReturn) more
  by_cases tab : c = '\t'
  · subst tab
    exact .escaped (.letter .tab) more
  simp only [escapeChar, quote, backslash, backspace, formFeed, lineFeed, carriageReturn, tab,
    if_false]
  split
  · rename_i small
    exact .escaped (.code (code_control small)) more
  · rename_i large
    exact .plain ⟨quote, backslash, Nat.le_of_not_lt large⟩ more

theorem quoted_quote (text : String) : Quoted (quote text).toList text := by
  have spelled : ∀ content, Spells (content.flatMap escapeChar) content := by
    intro content
    induction content with
    | nil => exact .nil
    | cons c content ih => exact spells_escapeChar c ih
  have quoted := Quoted.mk (spelled text.toList)
  rw [String.ofList_toList] at quoted
  simpa [quote] using quoted

theorem blanks_indent (level : Nat) : Blanks (indent level).toList := by
  intro c present
  rw [indent, String.toList_ofList] at present
  exact .inl (List.eq_of_mem_replicate present)

theorem blanks_newLine (level : Nat) : Blanks ("\n" ++ indent level).toList := by
  rw [String.toList_append]
  exact .append (by decide) (blanks_indent level)

theorem lead_newLine (level : Nat) : Lead false (",\n" ++ indent level).toList := by
  rw [String.toList_append]
  exact .later .nil (.append (by decide : Blanks ['\n']) (blanks_indent level))

-- A key as it is written, up to its value.
theorem named_key {name text : String} (same : quote name ++ ": " = text) : Named text.toList name := by
  have named := Named.mk (quoted_quote name) Blanks.nil (by decide : Blanks [' '])
  rw [← same]
  simpa using named

theorem joined_further (level : Nat) {last : List Char} (blank : Blanks last) (trees : List Tree) :
    Joined false (trees.map fun tree => (written level tree).toList)
      ((further level trees).toList ++ last) := by
  induction trees with
  | nil => exact .nil blank
  | cons tree trees ih =>
    have joined : Joined false ((written level tree).toList :: _) _ := .cons (lead_newLine level) ih
    simpa [further] using joined

theorem nodes_of_joined {text : Tree → List Char} {trees : List Tree} {inside : List Char}
    (joined : Joined true (trees.map text) inside) (each : ∀ tree ∈ trees, Node (text tree) tree) :
    Nodes ('[' :: (inside ++ [']'])) trees := by
  have texts : (trees.map fun tree => (text tree, tree)).map Prod.fst = trees.map text := by simp
  have nodes : ∀ kid ∈ trees.map (fun tree => (text tree, tree)), Node kid.1 kid.2 := by
    intro kid present
    obtain ⟨tree, member, rfl⟩ := List.mem_map.mp present
    exact each tree member
  have all := Nodes.mk (texts ▸ joined) nodes
  rwa [List.map_map, show Prod.snd ∘ (fun tree => (text tree, tree)) = id from rfl, List.map_id]
    at all

theorem nodes_list (level : Nat) {trees : List Tree}
    (each : ∀ tree ∈ trees, ∀ level, Node (written level tree).toList tree) :
    Nodes (list level trees).toList trees := by
  cases trees with
  | nil =>
    have none := nodes_of_joined (.nil .nil) fun tree member => each tree member 0
    simpa [list] using none
  | cons first others =>
    have joined : Joined true ((first :: others).map fun tree => (written (level + 2) tree).toList) _ :=
      .cons (.first (blanks_newLine (level + 2)))
        (joined_further (level + 2) (blanks_newLine (level + 1)) others)
    have nodes := nodes_of_joined joined fun tree member => each tree member (level + 2)
    simpa [list] using nodes

theorem node_written_of_children (level : Nat) (kind value : String) {children : List Tree}
    (each : ∀ tree ∈ children, ∀ level, Node (written level tree).toList tree) :
    Node (written level ⟨kind, value, children⟩).toList ⟨kind, value, children⟩ := by
  have kindKey := named_key (by decide +kernel : quote "kind" ++ ": " = "\"kind\": ")
  have valueKey := named_key (by decide +kernel : quote "value" ++ ": " = "\"value\": ")
  have childrenKey := named_key (by decide +kernel : quote "children" ++ ": " = "\"children\": ")
  let members : List (List Char × Detail) :=
    [("\"kind\": ".toList ++ (quote kind).toList, .kind kind),
      ("\"value\": ".toList ++ (quote value).toList, .value value),
      ("\"children\": ".toList ++ (list level children).toList, .children children)]
  have told : ∀ member ∈ members, Member member.1 member.2 := by
    intro member present
    simp only [members, List.mem_cons, List.not_mem_nil, or_false] at present
    rcases present with rfl | rfl | rfl
    · exact .kind kindKey (quoted_quote kind)
    · exact .value valueKey (quoted_quote value)
    · exact .children childrenKey (nodes_list level each)
  have joined : Joined true (members.map Prod.fst) _ :=
    .cons (.first (blanks_newLine (level + 1))) (.cons (lead_newLine (level + 1))
      (.cons (lead_newLine (level + 1)) (.nil (blanks_newLine level))))
  have tells : Tells (members.map Prod.snd) ⟨kind, value, children⟩ := ⟨rfl, .inl rfl, .inl rfl⟩
  have node := Node.object joined told tells
  have opening : "\x7b\n".toList = '\x7b' :: "\n".toList := by decide
  have closing : "\x7d".toList = ['\x7d'] := by decide
  rw [written]
  delta head tail
  simp only [String.toList_append, List.append_assoc, List.cons_append, opening, closing] at node ⊢
  exact node

theorem node_written (level : Nat) (tree : Tree) : Node (written level tree).toList tree := by
  have all : ∀ trees : List Tree, ∀ tree ∈ trees, ∀ level, Node (written level tree).toList tree := by
    intro trees
    induction trees using Tree.forest_induction with
    | nil => nofun
    | cons kind value children rest below beside =>
      intro tree member level
      rcases List.mem_cons.mp member with rfl | later
      · exact node_written_of_children level kind value below
      · exact beside tree later level
  exact all [tree] tree (by simp) level

theorem denotes_render (tree : Tree) : Denotes (render tree).toList tree := by
  rw [render_eq_written, String.toList_append]
  exact ⟨[], _, ['\n'], by decide, node_written 0 tree, by decide, rfl⟩

theorem read_render (tree : Tree) : read (render tree) = .ok tree :=
  read_of_denotes (denotes_render tree)

-- Reading undoes writing, so a tree that went through JSON is rendered as if it had come straight
-- from its source.
theorem rendering_through_json :
    (∀ tree, read (render tree) = .ok tree) ∧
    ∀ (input : InputFormat) (scheme : Graph.Scheme) (source text : String),
      Rendering.text ⟨input, .json, scheme⟩ source = .ok text →
      ∀ output other, Rendering.text ⟨.json, output, other⟩ text =
        Rendering.text ⟨input, output, other⟩ source := by
  refine ⟨read_render, ?_⟩
  intro input scheme source text rendered output other
  cases found : input.read source with
  | error refusal =>
    rw [Rendering.text_of_refusal found] at rendered
    cases rendered
  | ok tree =>
    rw [Rendering.text_of_read found] at rendered
    cases rendered
    have back : InputFormat.json.read (render tree) = .ok tree :=
      congrArg (Except.mapError Refusal.ofJson) (read_render tree)
    have afterwards := @Rendering.text_of_read ⟨.json, output, other⟩ _ _ back
    have directly := @Rendering.text_of_read ⟨input, output, other⟩ _ _ found
    exact afterwards.trans directly.symm

-- The notation with parentheses escapes a line feed as JSON does, but lays the tree out otherwise.
theorem rendering_through_json_lineFeed :
    Rendering.text ⟨.sexpr, .json, .depth⟩ "(A \"\\n\")" =
      .ok "\x7b\n  \"kind\": \"A\",\n  \"value\": \"\\n\",\n  \"children\": []\n\x7d\n" ∧
    ∀ output scheme,
      Rendering.text ⟨.json, output, scheme⟩
        "\x7b\n  \"kind\": \"A\",\n  \"value\": \"\\n\",\n  \"children\": []\n\x7d\n" =
      Rendering.text ⟨.sexpr, output, scheme⟩ "(A \"\\n\")" := by
  have word : Sexpr.IsWord ['A'] := Sexpr.isWord_singleton (by decide +kernel)
  have ends : Sexpr.NoWord (' ' :: "\"\\n\")".toList) := Sexpr.noWord_cons (by decide +kernel)
  have scan : Sexpr.Scans "(A \"\\n\")".toList
      [.opening, .word "A", .value "\n", .closing] [] :=
    .token .nil .opening trivial <|
    .token .nil (.word word) ends <|
    .token (.blank rfl .nil : Sexpr.Trivia [' ']) (.value (.escaped .lineFeed .nil)) trivial <|
    .token .nil .closing trivial .done
  have node : Sexpr.Node [.opening, .word "A", .value "\n", .closing] ⟨"A", "\n", []⟩ :=
    @Sexpr.Node.mk [] [] "A" (some "\n") .nil
  have written : render ⟨"A", "\n", []⟩ =
      "\x7b\n  \"kind\": \"A\",\n  \"value\": \"\\n\",\n  \"children\": []\n\x7d\n" := by
    rw [render_eq_written]
    decide +kernel
  have rendered : Rendering.text ⟨.sexpr, .json, .depth⟩ "(A \"\\n\")" =
      .ok "\x7b\n  \"kind\": \"A\",\n  \"value\": \"\\n\",\n  \"children\": []\n\x7d\n" := by
    rw [← written]
    exact @Rendering.text_of_read ⟨.sexpr, .json, .depth⟩ _ _
      (congrArg (Except.mapError Refusal.ofSexpr) (Sexpr.read_of_scans scan node))
  exact ⟨rendered, rendering_through_json.2 .sexpr .depth _ _ rendered⟩

end Arbor.Json
