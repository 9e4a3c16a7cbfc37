import Arbor.Graph.Statement

-- Escaping of labels as one pass from left to right, the way back, and the end of a label between
-- its quotes.
namespace Arbor.Graph

-- One character of a label between the quotes.
def escapeChar (c : Char) : List Char :=
  if c = '\\' then ['\\', '\\'] else if c = '"' then ['\\', '"'] else if c = '\n' then ['\\', 'n']
  else [c]

-- Takes escapes back from left to right. A backslash is always read together with its successor.
def unescape : List Char → List Char
  | [] => []
  | '\\' :: 'n' :: rest => '\n' :: unescape rest
  | '\\' :: c :: rest => c :: unescape rest
  | c :: rest => c :: unescape rest

-- The characters that are escaped, and all others.
theorem special_cases (c : Char) :
    c = '\\' ∨ c = '"' ∨ c = '\n' ∨ c ≠ '\\' ∧ c ≠ '"' ∧ c ≠ '\n' := by
  by_cases backslash : c = '\\'
  · exact .inl backslash
  by_cases quote : c = '"'
  · exact .inr (.inl quote)
  by_cases lineFeed : c = '\n'
  · exact .inr (.inr (.inl lineFeed))
  exact .inr (.inr (.inr ⟨backslash, quote, lineFeed⟩))

theorem replaceChar_append (target : Char) (replacement left right : List Char) :
    replaceChar target replacement (left ++ right) =
      replaceChar target replacement left ++ replaceChar target replacement right :=
  List.flatMap_append

theorem escapeChars_append (left right : List Char) :
    escapeChars (left ++ right) = escapeChars left ++ escapeChars right := by
  simp only [escapeChars, replaceChar_append]

-- The passes run over each other's output, but none meets a character that a later one replaces:
-- backslashes go first, and the quote and the letter that are written stand for themselves.
theorem escapeChars_singleton (c : Char) : escapeChars [c] = escapeChar c := by
  rcases special_cases c with rfl | rfl | rfl | ⟨backslash, quote, lineFeed⟩
  · rfl
  · rfl
  · rfl
  · simp [escapeChars, replaceChar, escapeChar, backslash, quote, lineFeed]

theorem escapeChars_eq (label : List Char) : escapeChars label = label.flatMap escapeChar := by
  induction label with
  | nil => rfl
  | cons c label ih =>
    rw [← List.singleton_append, escapeChars_append, escapeChars_singleton, ih, List.flatMap_append,
      List.flatMap_singleton]

theorem unescape_escapeChar (c : Char) (rest : List Char) :
    unescape (escapeChar c ++ rest) = c :: unescape rest := by
  rcases special_cases c with rfl | rfl | rfl | ⟨backslash, quote, lineFeed⟩
  · rfl
  · rfl
  · rfl
  · simp [escapeChar, unescape, backslash, quote, lineFeed]

theorem unescape_escapeChars (label : List Char) : unescape (escapeChars label) = label := by
  rw [escapeChars_eq]
  induction label with
  | nil => rfl
  | cons c label ih => rw [List.flatMap_cons, unescape_escapeChar, ih]

theorem lineFeed_not_mem_escapeChars (label : List Char) : '\n' ∉ escapeChars label := by
  rw [escapeChars_eq, List.mem_flatMap]
  rintro ⟨c, _, inside⟩
  rcases special_cases c with rfl | rfl | rfl | ⟨backslash, quote, lineFeed⟩
  · simp [escapeChar] at inside
  · simp [escapeChar] at inside
  · simp [escapeChar] at inside
  · simp only [escapeChar, backslash, quote, lineFeed, if_false] at inside
    exact lineFeed (List.mem_singleton.mp inside).symm

theorem lineFeed_not_mem_escape (label : String) : '\n' ∉ (escape label).toList := by
  rw [escape, String.toList_ofList]
  exact lineFeed_not_mem_escapeChars label.toList

theorem escape_append (left right : String) :
    escape (left ++ right) = escape left ++ escape right := by
  simp [escape, escapeChars_append]

theorem unescape_escape (label : String) : unescape (escape label).toList = label.toList := by
  rw [escape, String.toList_ofList, unescape_escapeChars]

theorem escape_inj {left right : String} (same : escape left = escape right) : left = right := by
  apply String.toList_inj.mp
  rw [← unescape_escape left, same, unescape_escape]

-- A label is escaped as its kind and its value are. The space between them stands for itself.
theorem escape_label (tree : Tree) :
    escape tree.label = escape tree.kind ++ " " ++ escape tree.value := by
  rw [Tree.label, escape_append, escape_append]
  rfl

-- The place at which a quoted text ends, counted from behind its opening quote. A backslash takes
-- the character after it along, so that only a quote on its own is the end.
def quoteEnd? : List Char → Option Nat
  | [] => none
  | '"' :: _ => some 0
  | '\\' :: _ :: rest => (quoteEnd? rest).map (· + 2)
  | _ :: rest => (quoteEnd? rest).map (· + 1)

-- An escaped character is passed as a whole. This is where backslashes stay paired: none of those
-- written for one character can reach into what follows.
theorem quoteEnd?_escapeChar (c : Char) (rest : List Char) :
    quoteEnd? (escapeChar c ++ rest) = (quoteEnd? rest).map (· + (escapeChar c).length) := by
  rcases special_cases c with rfl | rfl | rfl | ⟨backslash, quote, lineFeed⟩
  · rfl
  · rfl
  · rfl
  · simp [escapeChar, quoteEnd?, backslash, quote, lineFeed]

theorem quoteEnd?_escapeChars (label rest : List Char) :
    quoteEnd? (escapeChars label ++ '"' :: rest) = some (escapeChars label).length := by
  rw [escapeChars_eq]
  induction label with
  | nil => rfl
  | cons c label ih =>
    rw [List.flatMap_cons, List.append_assoc, quoteEnd?_escapeChar, ih, Option.map_some,
      List.length_append, Nat.add_comm]

-- The three passes are one, they are undone by one, and the label that a declaration holds ends
-- where its closing quote is written, whatever backslashes and quotes kind and value have.
theorem escape_reversible :
    (∀ label, escape label = String.ofList (label.toList.flatMap escapeChar)) ∧
    (∀ left right, escape (left ++ right) = escape left ++ escape right) ∧
    (∀ label, unescape (escape label).toList = label.toList) ∧
    Function.Injective escape ∧
    (∀ label, '\n' ∉ (escape label).toList) ∧
    ∀ (tree : Tree) (depth ordinal : Nat),
      let line := (Scheme.preOrder.declaration tree depth ordinal).line.toList
      let front := ("\tn" ++ ordinal.repr ++ "[label = \"").toList
      let label := (escape tree.kind ++ " " ++ escape tree.value).toList
      line = front ++ (label ++ "\"];".toList) ∧
        quoteEnd? (line.drop front.length) = some label.length := by
  refine ⟨?_, escape_append, unescape_escape, fun _ _ => escape_inj, lineFeed_not_mem_escape, ?_⟩
  · intro label
    rw [escape, escapeChars_eq]
  · intro tree depth ordinal line front label
    have written : line = front ++ (label ++ "\"];".toList) := by
      simp [line, front, label, Scheme.declaration, Statement.line, Name.text, escape_label]
    have same : label = escapeChars tree.label.toList := by
      rw [← String.toList_ofList (l := escapeChars tree.label.toList)]
      exact congrArg String.toList (escape_label tree).symm
    refine ⟨written, ?_⟩
    rw [written, List.drop_left, same]
    exact quoteEnd?_escapeChars tree.label.toList "];".toList

end Arbor.Graph
