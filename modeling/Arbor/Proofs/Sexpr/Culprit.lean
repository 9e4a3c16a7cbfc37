import Arbor.Proofs.Sexpr.Grammar

-- What is wrong with a refused source. The reader blames the first place at which the lexical rules or
-- the grammar break down, and reports the line and the column of that place.
namespace Arbor.Sexpr

-- Tokens with which nothing is wrong so far: part of a tree, perhaps as far as the opening
-- parenthesis of a node whose kind is still to come, or all of it.
inductive Viable : List Token → Prop where
  | inside (opened : Open nodes tokens) : Viable tokens
  | kind (opened : Open nodes tokens) : Viable (tokens ++ [.opening])
  | whole (node : Node tokens tree) : Viable tokens

-- A token of the source, the tokens before it, and the text from its first character on.
inductive Meets (source : List Char) (tokens : List Token) (token : Token) : List Char → Prop where
  | mk (scan : Scans source tokens (lead ++ (raw ++ behind))) (gap : Trivia lead)
      (written : Denotes raw token) (ends : Ends token behind) :
      Meets source tokens token (raw ++ behind)

-- What is wrong with a source, and the text from the culprit on.
inductive Culprit (source : List Char) : Cause → List Char → Prop where
  | lexical (viable : Viable tokens) (scan : Scans source tokens (lead ++ text))
      (gap : Trivia lead) (breaks : Breaks text cause rest) : Culprit source cause rest
  | afterRoot (node : Node tokens tree) (meets : Meets source tokens token rest) :
      Culprit source .afterRoot rest
  | noKind (opened : Open nodes tokens) (lexes : Lexes source (tokens ++ [.opening])) :
      Culprit source .missingKind []
  | otherKind (opened : Open nodes tokens) (meets : Meets source (tokens ++ [.opening]) token rest)
      (other : ∀ kind, token ≠ .word kind) : Culprit source .missingKind rest
  | value (opened : Open nodes tokens) (meets : Meets source tokens (.value text) rest)
      (late : ∀ earlier kind, tokens ≠ earlier ++ [.word kind]) :
      Culprit source .misplacedValue rest
  | word (opened : Open nodes tokens) (meets : Meets source tokens (.word text) rest) :
      Culprit source (.unexpectedWord text) rest
  | unmatched (meets : Meets source [] .closing rest) : Culprit source .unmatchedClosing rest
  | unclosed (opened : Open nodes tokens) (lexes : Lexes source tokens) (inside : nodes ≠ []) :
      Culprit source (.unclosed nodes.length) []

-- A text that the source ends with, and the place at which it begins there.
def Located (source rest : List Char) (place : Text.Position) : Prop :=
  ∃ before, source = before ++ rest ∧ place = .behind before

variable {source text rest : List Char} {tokens : List Token} {token : Token} {cause : Cause}
  {nodes : List Unclosed} {state : State} {cursor behind : Cursor} {calls : List Cursor}
  {place : Text.Position}

theorem Located.past {skipped : List Char} (located : Located source (skipped ++ rest) place) :
    Located source rest (place.past skipped) := by
  obtain ⟨before, rfl, rfl⟩ := located
  exact ⟨before ++ skipped, (List.append_assoc ..).symm, (Text.Position.behind_append ..).symm⟩

theorem Located.unique {other : Text.Position} (located : Located source rest place)
    (again : Located source rest other) : place = other := by
  obtain ⟨before, rfl, rfl⟩ := located
  obtain ⟨same, divided, rfl⟩ := again
  rw [List.append_cancel_right divided]

-- A cursor whose place is the one at which its text begins, and what `next` makes of it.
def Cursor.Within (source : List Char) (cursor : Cursor) : Prop :=
  Located source cursor.rest cursor.place

theorem Cursor.Within.start (source : String) : (Cursor.start source).Within source.toList :=
  ⟨[], rfl, rfl⟩

theorem Cursor.Within.next {lexeme : Option Lexeme} (within : cursor.Within source)
    (found : next cursor = .ok (lexeme, behind)) : behind.Within source := by
  cases Yields.of_next found with
  | @ended text place last =>
    have ended : Located source (text ++ []) place := (List.append_nil text).symm ▸ within
    exact ended.past
  | @token _ _ _ rest place gap written ends =>
    rw [Within, ← List.append_assoc] at within
    exact within.past

theorem Finds.within (finds : Finds cursor tokens calls behind) (within : cursor.Within source) :
    behind.Within source := by
  induction finds with
  | done => exact within
  | token found _ _ ih => exact ih (within.next found)

-- The other half of `Step.holds`: the reader gets to every partial derivation.
theorem Open.reaches (opened : Open nodes tokens) : Reaches .start tokens ⟨nodes, none⟩ := by
  induction opened with
  | nil => exact .done
  | @node nodes tokens within node outer kids ih =>
    have inside := kids.reaches ⟨node.kind, node.value, []⟩ nodes
    rw [List.reverse_reverse, List.append_nil] at inside
    exact ih.append (.step .opening ((reaches_value node.kind node.value nodes).append inside))

theorem Nodes.eq_nil_or_snoc : ∀ {tokens trees}, Nodes tokens trees →
    trees = [] ∧ tokens = [] ∨ ∃ earlier, tokens = earlier ++ [.closing]
  | _, _, .nil => .inl ⟨rfl, rfl⟩
  | _, _, .cons (.mk _) others => by
    rcases others.eq_nil_or_snoc with ⟨-, rfl⟩ | ⟨earlier, rfl⟩
    · rw [List.append_nil, ← List.cons_append, ← List.cons_append]
      exact .inr ⟨_, rfl⟩
    · exact .inr ⟨_, (List.append_assoc ..).symm⟩

-- A value is in its place exactly behind a kind.
theorem Open.snoc_word_iff (opened : Open nodes tokens) :
    (∃ earlier kind, tokens = earlier ++ [.word kind]) ↔
      ∃ kind outer, nodes = ⟨kind, none, []⟩ :: outer := by
  constructor
  · rintro ⟨earlier, kind, same⟩
    have last := congrArg List.getLast? same
    cases opened with
    | nil => simp at last
    | @node nodes tokens within node outer kids =>
      obtain ⟨name, value, children⟩ := node
      rcases kids.eq_nil_or_snoc with ⟨childless, rfl⟩ | ⟨before, rfl⟩
      · cases value with
        | none => exact ⟨name, nodes, by simpa using childless⟩
        | some text => simp [valueTokens] at last
      · simp only [← List.append_assoc, ← List.cons_append, List.getLast?_concat] at last
        cases last
  · rintro ⟨kind, outer, rfl⟩
    cases opened with
    | @node _ tokens _ _ past kids =>
      cases kids with
      | nil => exact ⟨tokens ++ [.opening], kind, by simp [valueTokens]⟩

theorem State.Holds.viable (holds : state.Holds tokens) : Viable tokens := by
  obtain ⟨nodes, root⟩ := state
  cases root with
  | none => exact .inside holds
  | some tree => exact .whole holds.2

-- The lexer's answers at a cursor that stands behind these tokens.
theorem Meets.of_next {lexeme : Lexeme} (scan : Scans source tokens cursor.rest)
    (within : cursor.Within source) (found : next cursor = .ok (some lexeme, behind)) :
    ∃ rest, Located source rest lexeme.place ∧ Meets source tokens lexeme.token rest := by
  cases Yields.of_next found with
  | token gap written ends => exact ⟨_, within.past, .mk scan gap written ends⟩

theorem Lexes.of_next (scan : Scans source tokens cursor.rest) (within : cursor.Within source)
    (found : next cursor = .ok (none, behind)) :
    Located source [] behind.place ∧ Lexes source tokens := by
  have ended := within.next found
  cases Yields.of_next found with
  | ended last => exact ⟨ended, _, scan, last⟩

theorem Viable.culprit {fault : Fault} (viable : Viable tokens)
    (scan : Scans source tokens cursor.rest) (within : cursor.Within source)
    (found : next cursor = .error fault) :
    ∃ rest, Located source rest fault.place ∧ Culprit source fault.cause rest := by
  cases Yields.of_next found with
  | fault gap breaks =>
    rw [Cursor.Within, ← List.append_assoc] at within
    exact ⟨_, within.past, .lexical viable scan gap breaks⟩

-- From here on the calls begin at the start of a source.
theorem culprit_of_stops {source : String} {last : List Cursor}
    (finds : Finds (.start source) tokens calls cursor) (path : Reaches .start tokens state)
    (stops : Stops state cursor last (.error ⟨cause, place⟩)) :
    ∃ rest, Located source.toList rest place ∧ Culprit source.toList cause rest := by
  have holds := holds_of_reaches_start path
  have scan : Scans source.toList tokens cursor.rest := finds.scans
  have within : cursor.Within source.toList := finds.within (.start source)
  cases stops with
  | @unclosed _ _ _ _ root found =>
    obtain ⟨located, lexes⟩ := Lexes.of_next scan within found
    cases root with
    | none => exact ⟨[], located, .unclosed holds lexes (List.cons_ne_nil _ _)⟩
    | some tree => exact absurd holds.1 (List.cons_ne_nil _ _)
  | lexical found => exact holds.viable.culprit scan within found
  | afterRoot found =>
    obtain ⟨rest, located, meets⟩ := Meets.of_next scan within found
    exact ⟨rest, located, .afterRoot holds.2 meets⟩
  | lexicalKind found opens foundKind =>
    exact (Viable.kind holds).culprit (scan.append (Finds.single found opens).scans)
      (within.next found) foundKind
  | noKind found opens foundKind =>
    obtain ⟨located, lexes⟩ := Lexes.of_next (scan.append (Finds.single found opens).scans)
      (within.next found) foundKind
    exact ⟨[], located, .noKind holds lexes⟩
  | otherKind found opens foundKind other =>
    obtain ⟨rest, located, meets⟩ := Meets.of_next (scan.append (Finds.single found opens).scans)
      (within.next found) foundKind
    exact ⟨rest, located, .otherKind holds meets other⟩
  | value found quoted late =>
    obtain ⟨rest, located, meets⟩ := Meets.of_next scan within found
    refine ⟨rest, located, .value holds (quoted ▸ meets) ?_⟩
    intro earlier kind same
    obtain ⟨kind, outer, top⟩ := (Open.snoc_word_iff holds).mp ⟨earlier, kind, same⟩
    exact late kind outer top
  | word found bare =>
    obtain ⟨rest, located, meets⟩ := Meets.of_next scan within found
    exact ⟨rest, located, .word holds (bare ▸ meets)⟩
  | unmatched found closes =>
    cases reaches_nothing_iff.mp path
    obtain ⟨rest, located, meets⟩ := Meets.of_next scan within found
    exact ⟨rest, located, .unmatched (closes ▸ meets)⟩

theorem Scans.finds_start {source : String} (scan : Scans source.toList tokens rest) :
    ∃ calls place, Finds (.start source) tokens calls ⟨rest, place⟩ ∧
      Located source.toList rest place := by
  obtain ⟨calls, ⟨_, place⟩, finds, rfl⟩ := scan.finds .start
  exact ⟨calls, place, finds, finds.within (.start source)⟩

theorem Meets.finds_start {source : String} (meets : Meets source.toList tokens token rest) :
    ∃ calls cursor lexeme behind, Finds (.start source) tokens calls cursor ∧
      next cursor = .ok (some lexeme, behind) ∧ lexeme.token = token ∧
      Located source.toList rest lexeme.place := by
  cases meets with
  | mk scan gap written ends =>
    obtain ⟨calls, place, finds, located⟩ := scan.finds_start
    exact ⟨calls, _, _, _, finds, next_of_denotes gap written ends place, rfl, located.past⟩

theorem Lexes.finds_start {source : String} (lexes : Lexes source.toList tokens) :
    ∃ calls cursor behind, Finds (.start source) tokens calls cursor ∧
      next cursor = .ok (none, behind) ∧ Located source.toList [] behind.place := by
  obtain ⟨rest, scan, last⟩ := lexes
  obtain ⟨calls, place, finds, located⟩ := scan.finds_start
  rw [← List.append_nil rest] at located
  exact ⟨calls, _, _, finds, next_of_trailing last place, located.past⟩

theorem runs_of_culprit {source : String} (culprit : Culprit source.toList cause rest) :
    ∃ calls place, Located source.toList rest place ∧
      Runs .start (.start source) calls (.error ⟨cause, place⟩) := by
  cases culprit with
  | lexical viable scan gap breaks =>
    obtain ⟨skipped, rfl⟩ := breaks.suffix
    obtain ⟨calls, place, finds, located⟩ := scan.finds_start
    have found := next_of_breaks gap breaks place
    rw [← List.append_assoc] at located
    cases viable with
    | inside opened => exact ⟨_, _, located.past, .mk finds opened.reaches (.lexical found)⟩
    | whole node =>
      exact ⟨_, _, located.past, .mk finds (reaches_root_iff.mpr node) (.lexical found)⟩
    | kind opened =>
      obtain ⟨middle, first, lexeme, earlier, opening, opens⟩ := finds.snoc
      exact ⟨_, _, located.past, .mk earlier opened.reaches (.lexicalKind opening opens found)⟩
  | afterRoot node meets =>
    obtain ⟨calls, cursor, lexeme, behind, finds, found, -, located⟩ := meets.finds_start
    exact ⟨_, _, located, .mk finds (reaches_root_iff.mpr node) (.afterRoot found)⟩
  | noKind opened lexes =>
    obtain ⟨calls, cursor, behind, finds, found, located⟩ := lexes.finds_start
    obtain ⟨middle, first, lexeme, earlier, opening, opens⟩ := finds.snoc
    exact ⟨_, _, located, .mk earlier opened.reaches (.noKind opening opens found)⟩
  | otherKind opened meets other =>
    obtain ⟨calls, cursor, kind, behind, finds, found, same, located⟩ := meets.finds_start
    obtain ⟨middle, first, lexeme, earlier, opening, opens⟩ := finds.snoc
    exact ⟨_, _, located,
      .mk earlier opened.reaches (.otherKind opening opens found (same ▸ other))⟩
  | value opened meets late =>
    obtain ⟨calls, cursor, lexeme, behind, finds, found, quoted, located⟩ := meets.finds_start
    refine ⟨_, _, located, .mk finds opened.reaches (.value found quoted ?_)⟩
    intro kind outer top
    obtain ⟨earlier, kind, same⟩ := opened.snoc_word_iff.mpr ⟨kind, outer, top⟩
    exact late earlier kind same
  | word opened meets =>
    obtain ⟨calls, cursor, lexeme, behind, finds, found, bare, located⟩ := meets.finds_start
    exact ⟨_, _, located, .mk finds opened.reaches (.word found bare)⟩
  | unmatched meets =>
    obtain ⟨calls, cursor, lexeme, behind, finds, found, closes, located⟩ := meets.finds_start
    exact ⟨_, _, located, .mk finds .done (.unmatched found closes)⟩
  | @unclosed nodes tokens opened lexes inside =>
    obtain ⟨calls, cursor, behind, finds, found, located⟩ := lexes.finds_start
    obtain ⟨node, outer, rfl⟩ := List.exists_cons_of_ne_nil inside
    exact ⟨_, _, located, .mk finds opened.reaches (.unclosed found)⟩

theorem read_eq_malformed {source : String} {position : Text.Position} :
    read source = .error (.malformed position cause) ↔
      State.start.read (.start source) = .error ⟨cause, position⟩ := by
  simp only [read, State.read, State.start]
  cases readFrom [] none (.start source) with
  | ok root => cases root <;> simp
  | error fault =>
    obtain ⟨blamed, place⟩ := fault
    simp [and_comm]

-- The culprit divides the source, and the place that the reader has carried along is the one behind
-- what stands before it.
theorem read_eq_malformed_iff {source : String} {position : Text.Position} :
    read source = .error (.malformed position cause) ↔
      ∃ before rest, source.toList = before ++ rest ∧ position = .behind before ∧
        Culprit source.toList cause rest := by
  rw [read_eq_malformed, read_eq_iff]
  constructor
  · rintro ⟨_, finds, path, stops⟩
    obtain ⟨rest, ⟨before, divided, counted⟩, culprit⟩ := culprit_of_stops finds path stops
    exact ⟨before, rest, divided, counted, culprit⟩
  · rintro ⟨before, rest, divided, counted, culprit⟩
    obtain ⟨calls, place, located, run⟩ := runs_of_culprit culprit
    have same := Located.unique ⟨before, divided, counted⟩ located
    exact ⟨calls, same ▸ run⟩

-- A source is refused exactly for its culprit, and the place counts the line feeds before the
-- culprit and the characters since the last of them. The place behind the backslash of an escape
-- is one column on in the same line, so that the backslash is found by counting one back.
theorem read_blames_culprit (source : String) (position : Text.Position) (cause : Cause) :
    read source = .error (.malformed position cause) ↔
      ∃ before rest, source.toList = before ++ rest ∧
        position.line = 1 + before.count '\n' ∧
        position.column = 1 + (Text.Position.sinceLineFeed before).length ∧
        Culprit source.toList cause rest ∧
        ∀ c, cause = .unknownEscape c →
          Text.Position.behind (before ++ ['\\']) = ⟨position.line, position.column + 1⟩ := by
  rw [read_eq_malformed_iff]
  constructor
  · rintro ⟨before, rest, same, rfl, culprit⟩
    obtain ⟨line, column⟩ := Text.Position.eq_behind_iff.mp (rfl : _ = Text.Position.behind before)
    refine ⟨before, rest, same, line, column, culprit, ?_⟩
    intro c _
    rw [Text.Position.behind_snoc]
    rfl
  · rintro ⟨before, rest, same, line, column, culprit, -⟩
    exact ⟨before, rest, same, Text.Position.eq_behind_iff.mpr ⟨line, column⟩, culprit⟩

end Arbor.Sexpr
