import Arbor.Proofs.Graph.Descent
import Arbor.Proofs.Text.Split

-- Reading the text of a drawing again: its lines, and the statement that stands on a line. What is
-- read off a line is what was written there, whatever labels the drawing holds.
namespace Arbor.Graph

def readNumber? (digits : List Char) : Option Nat :=
  if digits ≠ [] ∧ digits.all Char.isDigit then some (Nat.ofDigitChars 10 digits 0) else none

def readName? : List Char → Option Name
  | 'n' :: rest =>
    match Text.splitAt '_' rest with
    | [number] => (readNumber? number).map .numbered
    | [depth, index] => (readNumber? depth).bind fun depth => (readNumber? index).map (.slot depth)
    | _ => none
  | _ => none

-- The characters of names.
def isNameChar (c : Char) : Bool := c = 'n' || c = '_' || c.isDigit

-- What stands between two texts.
def between? (front back text : List Char) : Option (List Char) :=
  if front.isPrefixOf text && back.isSuffixOf (text.drop front.length) then
    some ((text.drop front.length).take (text.length - front.length - back.length))
  else none

-- A name, and what stands between two texts behind it.
def readHead? (front back text : List Char) : Option (Name × List Char) :=
  (readName? (text.takeWhile isNameChar)).bind fun name =>
    (between? front back (text.dropWhile isNameChar)).map (name, ·)

-- The statement on a line. Edges stand one tab deeper than declarations.
def readStatement? : List Char → Option Statement
  | '\t' :: '\t' :: edge =>
    (readHead? " -> ".toList ";".toList edge).bind fun (source, target) =>
      (readName? target).map (.connect source)
  | '\t' :: declaration =>
    (readHead? "[label = \"".toList "\"];".toList declaration).map fun (name, label) =>
      .declare name (String.ofList label)
  | _ => none

theorem readNumber?_digits (number : Nat) : readNumber? (Nat.toDigits 10 number) = some number := by
  have digits : (Nat.toDigits 10 number).all Char.isDigit = true := by
    rw [List.all_eq_true]
    intro c member
    exact Nat.isDigit_of_mem_toDigits (by decide) (by decide) member
  rw [readNumber?, if_pos ⟨Nat.toDigits_ne_nil, digits⟩, Nat.ofDigitChars_ten_toDigits]

@[simp] theorem toList_text_numbered (number : Nat) :
    (Name.numbered number).text.toList = 'n' :: Nat.toDigits 10 number := by
  simp [Name.text]

@[simp] theorem toList_text_slot (depth index : Nat) :
    (Name.slot depth index).text.toList =
      'n' :: (Nat.toDigits 10 depth ++ '_' :: Nat.toDigits 10 index) := by
  simp [Name.text]

theorem exists_toList_text (name : Name) : ∃ rest, name.text.toList = 'n' :: rest := by
  cases name with
  | numbered number => exact ⟨_, toList_text_numbered number⟩
  | slot depth index => exact ⟨_, toList_text_slot depth index⟩

theorem readName?_text (name : Name) : readName? name.text.toList = some name := by
  cases name with
  | numbered number =>
    have cut : Text.splitAt '_' (Nat.toDigits 10 number) = _ :=
      Text.splitAt_piece Nat.underscore_not_in_toDigits
    simp [readName?, cut, readNumber?_digits]
  | slot depth index =>
    have cut : Text.splitAt '_' (Nat.toDigits 10 depth ++ '_' :: Nat.toDigits 10 index) = _ :=
      Text.splitAt_piece_append Nat.underscore_not_in_toDigits _
    rw [Text.splitAt_piece Nat.underscore_not_in_toDigits] at cut
    simp [readName?, cut, readNumber?_digits]

theorem isNameChar_of_mem_digits {c : Char} {number : Nat} (member : c ∈ Nat.toDigits 10 number) :
    isNameChar c = true := by
  simp [isNameChar, Nat.isDigit_of_mem_toDigits (by decide) (by decide) member]

theorem isNameChar_of_mem_text {name : Name} {c : Char} (member : c ∈ name.text.toList) :
    isNameChar c = true := by
  cases name with
  | numbered number =>
    rw [toList_text_numbered, List.mem_cons] at member
    rcases member with rfl | digit
    · rfl
    · exact isNameChar_of_mem_digits digit
  | slot depth index =>
    rw [toList_text_slot, List.mem_cons, List.mem_append, List.mem_cons] at member
    rcases member with rfl | digit | rfl | digit
    · rfl
    · exact isNameChar_of_mem_digits digit
    · rfl
    · exact isNameChar_of_mem_digits digit

theorem between?_append (front middle back : List Char) :
    between? front back (front ++ (middle ++ back)) = some middle := by
  simp [between?]

theorem readHead?_append (name : Name) {c : Char} (ends : isNameChar c = false)
    (front middle back : List Char) :
    readHead? (c :: front) back (name.text.toList ++ (c :: front ++ (middle ++ back))) =
      some (name, middle) := by
  have letters : ∀ d ∈ name.text.toList, isNameChar d = true := fun d => isNameChar_of_mem_text
  rw [readHead?, List.takeWhile_append_of_pos letters, List.dropWhile_append_of_pos letters,
    List.cons_append, List.takeWhile_cons_of_neg (by simp [ends]),
    List.dropWhile_cons_of_neg (by simp [ends]), List.append_nil, readName?_text, ← List.cons_append,
    between?_append]
  rfl

theorem toList_line_declare (name : Name) (label : String) :
    (Statement.declare name label).line.toList =
      '\t' :: (name.text.toList ++ ("[label = \"".toList ++ (label.toList ++ "\"];".toList))) := by
  simp [Statement.line]

theorem toList_line_connect (source target : Name) :
    (Statement.connect source target).line.toList =
      '\t' :: '\t' :: (source.text.toList ++ (" -> ".toList ++ (target.text.toList ++ ";".toList))) := by
  simp [Statement.line]

theorem readStatement?_line (statement : Statement) :
    readStatement? statement.line.toList = some statement := by
  cases statement with
  | declare name label =>
    have head := readHead?_append name (show isNameChar '[' = false by decide)
      "label = \"".toList label.toList "\"];".toList
    obtain ⟨rest, first⟩ := exists_toList_text name
    rw [toList_line_declare]
    rw [first] at head ⊢
    exact (congrArg (Option.map _) head).trans (by simp)
  | connect source target =>
    have head := readHead?_append source (show isNameChar ' ' = false by decide)
      "-> ".toList target.text.toList ";".toList
    rw [toList_line_connect]
    exact (congrArg (Option.bind · _) head).trans (by simp [readName?_text])

-- A label with a line feed would spread its declaration over several lines.
def Statement.OneLine : Statement → Prop
  | .declare _ label => '\n' ∉ label.toList
  | .connect _ _ => True

theorem lineFeed_not_mem_text (name : Name) : '\n' ∉ name.text.toList := by
  intro member
  cases isNameChar_of_mem_text member

theorem lineFeed_not_mem_line {statement : Statement} (oneLine : statement.OneLine) :
    '\n' ∉ statement.line.toList := by
  cases statement with
  | declare name label =>
    have inName := lineFeed_not_mem_text name
    have inLabel : '\n' ∉ label.toList := oneLine
    simp [toList_line_declare, inName, inLabel]
  | connect source target =>
    have inSource := lineFeed_not_mem_text source
    have inTarget := lineFeed_not_mem_text target
    simp [toList_line_connect, inSource, inTarget]

variable {scheme : Scheme} {tree : Tree}

-- Cutting the text of a drawing at line feeds gives its lines, with nothing behind the last.
theorem splitAt_render (oneLine : ∀ statement ∈ statements scheme tree, statement.OneLine) :
    Text.splitAt '\n' (render scheme tree).toList =
      opening.toList :: ((statements scheme tree).map fun statement => statement.line.toList) ++
        [closing.toList, []] := by
  let texts := opening.toList ::
    ((statements scheme tree).map fun statement => statement.line.toList) ++ [closing.toList]
  have joined : (render scheme tree).toList = texts.flatMap fun line => line ++ ['\n'] := by
    simp [render_eq, linesOf, String.toList_join, texts, List.flatMap_map]
  have free : ∀ line ∈ texts, '\n' ∉ line := by
    intro line member
    simp only [texts, List.cons_append, List.mem_cons, List.mem_append, List.mem_map,
      List.not_mem_nil, or_false] at member
    rcases member with rfl | ⟨statement, member, rfl⟩ | rfl
    · decide
    · exact lineFeed_not_mem_line (oneLine statement member)
    · decide
  rw [joined, Text.splitAt_lines free]
  simp [texts]

theorem map_readStatement? (body : List Statement) :
    (body.map fun statement => statement.line.toList).map readStatement? = body.map some := by
  simp [Function.comp_def, readStatement?_line]

-- The text of a drawing determines its statements.
theorem statements_of_render {other : Tree}
    (oneLine : ∀ statement ∈ statements scheme tree, statement.OneLine)
    (otherOneLine : ∀ statement ∈ statements scheme other, statement.OneLine)
    (same : render scheme tree = render scheme other) :
    statements scheme tree = statements scheme other := by
  have cut := splitAt_render oneLine
  rw [same, splitAt_render otherOneLine] at cut
  have bodies := (List.append_inj_left' (List.cons.inj cut).2 rfl).symm
  have read := congrArg (List.map readStatement?) bodies
  rw [map_readStatement?, map_readStatement?] at read
  exact (List.map_inj_right fun _ _ => Option.some.inj).mp read

end Arbor.Graph
