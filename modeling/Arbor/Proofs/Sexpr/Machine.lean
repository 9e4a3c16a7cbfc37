import Arbor.Proofs.Sexpr.Lexing
import Arbor.Sexpr.Reader

-- The reader as a machine over tokens: which tokens take it from which state to which, how a run over
-- the text follows a run over the tokens, and in which ways a run ends.
namespace Arbor.Sexpr

-- What the reader keeps between two tokens.
structure State where
  nodes : List Unclosed
  root : Option Tree

def State.start : State := ⟨[], none⟩

-- Reads the rest of a source from a state on.
def State.read (state : State) (cursor : Cursor) : Except Fault (Option Tree) :=
  readFrom state.nodes state.root cursor

-- The moves that lead on. A kind is never apart from its opening parenthesis.
inductive Step : State → List Token → State → Prop where
  | opening : Step ⟨nodes, none⟩ [.opening, .word kind] ⟨⟨kind, none, []⟩ :: nodes, none⟩
  | value : Step ⟨⟨kind, none, []⟩ :: outer, none⟩ [.value text]
      ⟨⟨kind, some text, []⟩ :: outer, none⟩
  | closing : Step ⟨node :: parent :: outer, none⟩ [.closing]
      ⟨parent.add node.close :: outer, none⟩
  | root : Step ⟨[node], none⟩ [.closing] ⟨[], some node.close⟩

inductive Reaches : State → List Token → State → Prop where
  | done : Reaches state [] state
  | step (first : Step before tokens middle) (more : Reaches middle later after) :
      Reaches before (tokens ++ later) after

-- The calls of the lexer that find these tokens, each made where the one before it ended.
inductive Finds : Cursor → List Token → List Cursor → Cursor → Prop where
  | done : Finds cursor [] [] cursor
  | token (found : next cursor = .ok (some lexeme, middle)) (same : lexeme.token = token)
      (more : Finds middle tokens calls behind) :
      Finds cursor (token :: tokens) (cursor :: calls) behind

-- The ends of a run: where the reader is, its last calls, and what it answers. Each constructor is
-- one place at which it stops.
inductive Stops : State → Cursor → List Cursor → Except Fault (Option Tree) → Prop where
  | finished (found : next cursor = .ok (none, behind)) : Stops ⟨[], root⟩ cursor [cursor] (.ok root)
  | unclosed (found : next cursor = .ok (none, behind)) :
      Stops ⟨node :: outer, root⟩ cursor [cursor]
        (.error ⟨.unclosed (node :: outer).length, behind.place⟩)
  | lexical (found : next cursor = .error fault) : Stops state cursor [cursor] (.error fault)
  | afterRoot (found : next cursor = .ok (some lexeme, behind)) :
      Stops ⟨nodes, some tree⟩ cursor [cursor] (.error ⟨.afterRoot, lexeme.place⟩)
  | lexicalKind (found : next cursor = .ok (some lexeme, behind)) (opens : lexeme.token = .opening)
      (foundKind : next behind = .error fault) :
      Stops ⟨nodes, none⟩ cursor [cursor, behind] (.error fault)
  | noKind (found : next cursor = .ok (some lexeme, behind)) (opens : lexeme.token = .opening)
      (foundKind : next behind = .ok (none, further)) :
      Stops ⟨nodes, none⟩ cursor [cursor, behind] (.error ⟨.missingKind, further.place⟩)
  | otherKind (found : next cursor = .ok (some lexeme, behind)) (opens : lexeme.token = .opening)
      (foundKind : next behind = .ok (some kind, further))
      (other : ∀ text, kind.token ≠ .word text) :
      Stops ⟨nodes, none⟩ cursor [cursor, behind] (.error ⟨.missingKind, kind.place⟩)
  | value (found : next cursor = .ok (some lexeme, behind)) (quoted : lexeme.token = .value text)
      (late : ∀ kind outer, nodes ≠ ⟨kind, none, []⟩ :: outer) :
      Stops ⟨nodes, none⟩ cursor [cursor] (.error ⟨.misplacedValue, lexeme.place⟩)
  | word (found : next cursor = .ok (some lexeme, behind)) (bare : lexeme.token = .word text) :
      Stops ⟨nodes, none⟩ cursor [cursor] (.error ⟨.unexpectedWord text, lexeme.place⟩)
  | unmatched (found : next cursor = .ok (some lexeme, behind)) (closes : lexeme.token = .closing) :
      Stops ⟨[], none⟩ cursor [cursor] (.error ⟨.unmatchedClosing, lexeme.place⟩)

-- A run from a state to an answer, with all its calls of the lexer.
inductive Runs (before : State) (cursor : Cursor) :
    List Cursor → Except Fault (Option Tree) → Prop where
  | mk (finds : Finds cursor tokens calls behind) (path : Reaches before tokens after)
      (stops : Stops after behind last answer) : Runs before cursor (calls ++ last) answer

variable {before middle after : State} {cursor behind further : Cursor} {source rest : List Char}
  {tokens more : List Token} {calls later : List Cursor} {answer : Except Fault (Option Tree)}

theorem Reaches.single (step : Step before tokens after) : Reaches before tokens after := by
  have path := Reaches.step step .done
  rwa [List.append_nil] at path

theorem Reaches.append (first : Reaches before tokens middle) (second : Reaches middle more after) :
    Reaches before (tokens ++ more) after := by
  induction first with
  | done => exact second
  | step move _ ih =>
    rw [List.append_assoc]
    exact .step move (ih second)

theorem Finds.append (first : Finds cursor tokens calls behind)
    (second : Finds behind more later further) :
    Finds cursor (tokens ++ more) (calls ++ later) further := by
  induction first with
  | done => exact second
  | token found same _ ih => exact .token found same (ih second)

-- Appending tokens splits the calls that find them.
theorem Finds.split (finds : Finds cursor (tokens ++ more) calls behind) :
    ∃ middle first second, Finds cursor tokens first middle ∧ Finds middle more second behind := by
  induction tokens generalizing cursor calls with
  | nil => exact ⟨cursor, [], calls, .done, finds⟩
  | cons token tokens ih =>
    cases finds with
    | token found same others =>
      obtain ⟨middle, first, second, earlier, remaining⟩ := ih others
      exact ⟨middle, _, second, .token found same earlier, remaining⟩

theorem Finds.single {lexeme : Lexeme} {token : Token}
    (found : next cursor = .ok (some lexeme, behind)) (same : lexeme.token = token) :
    Finds cursor [token] [cursor] behind :=
  .token found same .done

theorem Finds.next_eq {token : Token} (finds : Finds cursor [token] calls behind) :
    ∃ lexeme, next cursor = .ok (some lexeme, behind) ∧ lexeme.token = token := by
  cases finds with
  | @token _ lexeme _ _ _ _ _ found same others =>
    cases others with
    | done => exact ⟨lexeme, found, same⟩

theorem Finds.snoc {token : Token} (finds : Finds cursor (tokens ++ [token]) calls behind) :
    ∃ middle first lexeme, Finds cursor tokens first middle ∧
      next middle = .ok (some lexeme, behind) ∧ lexeme.token = token := by
  obtain ⟨middle, first, _, earlier, last⟩ := finds.split
  obtain ⟨lexeme, found, same⟩ := last.next_eq
  exact ⟨middle, first, lexeme, earlier, found, same⟩

-- The tokens that the calls find stand in the text, and the other way round.
theorem Finds.scans (finds : Finds cursor tokens calls behind) :
    Scans cursor.rest tokens behind.rest := by
  induction finds with
  | done => exact .done
  | token found same _ ih =>
    cases Yields.of_next found with
    | token gap written ends =>
      cases same
      exact .token gap written ends ih

theorem Scans.finds (scan : Scans source tokens rest) (place : Text.Position) :
    ∃ calls behind, Finds ⟨source, place⟩ tokens calls behind ∧ behind.rest = rest := by
  induction scan generalizing place with
  | done => exact ⟨[], _, .done, rfl⟩
  | token gap written ends _ ih =>
    obtain ⟨calls, behind, finds, same⟩ := ih _
    exact ⟨_, behind, .token (next_of_denotes gap written ends place) rfl finds, same⟩

-- The reader's own equation, without the proofs that end its recursion.
theorem readFrom_eq (nodes : List Unclosed) (root : Option Tree) (cursor : Cursor) :
    readFrom nodes root cursor =
      match next cursor with
      | .error fault => .error fault
      | .ok (none, behind) =>
        match nodes with
        | [] => .ok root
        | _ :: _ => .error ⟨.unclosed nodes.length, behind.place⟩
      | .ok (some lexeme, behind) =>
        match root with
        | some _ => .error ⟨.afterRoot, lexeme.place⟩
        | none =>
          match lexeme.token with
          | .opening =>
            match next behind with
            | .error fault => .error fault
            | .ok (none, further) => .error ⟨.missingKind, further.place⟩
            | .ok (some kind, further) =>
              match kind.token with
              | .word text => readFrom (⟨text, none, []⟩ :: nodes) none further
              | _ => .error ⟨.missingKind, kind.place⟩
          | .value text =>
            match nodes with
            | ⟨kind, none, []⟩ :: outer => readFrom (⟨kind, some text, []⟩ :: outer) none behind
            | _ => .error ⟨.misplacedValue, lexeme.place⟩
          | .word text => .error ⟨.unexpectedWord text, lexeme.place⟩
          | .closing =>
            match nodes with
            | [] => .error ⟨.unmatchedClosing, lexeme.place⟩
            | [node] => readFrom [] (some node.close) behind
            | node :: parent :: outer => readFrom (parent.add node.close :: outer) none behind := by
  fun_cases readFrom nodes root cursor <;> simp_all

theorem read_step (step : Step before tokens after) (finds : Finds cursor tokens calls behind) :
    before.read cursor = after.read behind := by
  cases step with
  | opening =>
    cases finds with
    | token found opens others =>
      obtain ⟨kind, foundKind, word⟩ := others.next_eq
      rw [State.read, readFrom_eq, found]
      simp only [opens, foundKind, word]
      rfl
  | value | closing | root =>
    obtain ⟨lexeme, found, same⟩ := finds.next_eq
    rw [State.read, readFrom_eq, found]
    simp only [same]
    rfl

-- The run lemma: reading from the first state is reading on from any state it reaches.
theorem read_reaches (path : Reaches before tokens after)
    (finds : Finds cursor tokens calls behind) : before.read cursor = after.read behind := by
  induction path generalizing cursor calls with
  | done =>
    cases finds with
    | done => rfl
  | step move _ ih =>
    obtain ⟨middle, _, _, first, second⟩ := finds.split
    rw [read_step move first, ih second]

theorem Runs.stop (stops : Stops before cursor calls answer) : Runs before cursor calls answer :=
  .mk .done .done stops

theorem Runs.step (move : Step before tokens middle) (finds : Finds cursor tokens calls behind)
    (run : Runs middle behind later answer) : Runs before cursor (calls ++ later) answer := by
  cases run with
  | mk others path stops =>
    rw [← List.append_assoc]
    exact .mk (finds.append others) (.step move path) stops

-- A move over one token, as the reader finds it.
theorem Runs.token {lexeme : Lexeme} {token : Token} (move : Step before [token] middle)
    (found : next cursor = .ok (some lexeme, behind)) (same : lexeme.token = token)
    (run : Runs middle behind calls answer) : Runs before cursor (cursor :: calls) answer :=
  .step move (.single found same) run

-- The reader answers by a run. The cases are its own: it goes on in four of them.
theorem exists_runs (nodes : List Unclosed) (root : Option Tree) (cursor : Cursor) :
    ∃ calls, Runs ⟨nodes, root⟩ cursor calls (readFrom nodes root cursor) := by
  fun_induction readFrom nodes root cursor with
  | case1 nodes root cursor fault found => exact ⟨_, .stop (.lexical found)⟩
  | case2 root cursor behind found => exact ⟨_, .stop (.finished found)⟩
  | case3 root cursor behind found node outer => exact ⟨_, .stop (.unclosed found)⟩
  | case4 nodes cursor lexeme behind found _ tree => exact ⟨_, .stop (.afterRoot found)⟩
  | case5 nodes cursor lexeme behind found _ opens fault foundKind =>
    exact ⟨_, .stop (.lexicalKind found opens foundKind)⟩
  | case6 nodes cursor lexeme behind found _ opens further foundKind =>
    exact ⟨_, .stop (.noKind found opens foundKind)⟩
  | case7 nodes cursor lexeme behind found _ opens kind further foundKind _ text word ih =>
    obtain ⟨calls, run⟩ := ih
    exact ⟨_, .step .opening (.token found opens (.single foundKind word)) run⟩
  | case8 nodes cursor lexeme behind found _ opens kind further foundKind _ other =>
    exact ⟨_, .stop (.otherKind found opens foundKind other)⟩
  | case9 cursor lexeme behind found _ text quoted kind outer ih =>
    obtain ⟨calls, run⟩ := ih
    exact ⟨_, .token .value found quoted run⟩
  | case10 nodes cursor lexeme behind found _ text quoted late =>
    exact ⟨_, .stop (.value found quoted late)⟩
  | case11 nodes cursor lexeme behind found _ text bare => exact ⟨_, .stop (.word found bare)⟩
  | case12 cursor lexeme behind found _ closes => exact ⟨_, .stop (.unmatched found closes)⟩
  | case13 cursor lexeme behind found _ closes node ih =>
    obtain ⟨calls, run⟩ := ih
    exact ⟨_, .token .root found closes run⟩
  | case14 cursor lexeme behind found _ closes node parent outer ih =>
    obtain ⟨calls, run⟩ := ih
    exact ⟨_, .token .closing found closes run⟩

theorem read_of_stops (stops : Stops after behind calls answer) : after.read behind = answer := by
  rw [State.read, readFrom_eq]
  cases stops with
  | finished found | unclosed found | lexical found | afterRoot found => rw [found]
  | lexicalKind found opens foundKind | noKind found opens foundKind =>
    simp only [found, opens, foundKind]
  | otherKind found opens foundKind other => simp only [found, opens, foundKind]
  | value found quoted late => simp only [found, quoted]
  | word found bare => simp only [found, bare]
  | unmatched found closes => simp only [found, closes]

theorem read_of_runs (run : Runs before cursor calls answer) : before.read cursor = answer := by
  cases run with
  | mk finds path stops => rw [read_reaches path finds, read_of_stops stops]

-- The reader answers exactly what its runs come to.
theorem read_eq_iff : before.read cursor = answer ↔ ∃ calls, Runs before cursor calls answer := by
  constructor
  · rintro rfl
    exact exists_runs before.nodes before.root cursor
  · rintro ⟨calls, run⟩
    exact read_of_runs run

-- An answer without fault comes of tokens that make up the whole source and leave nothing open.
theorem read_eq_ok_iff (before : State) (cursor : Cursor) (root : Option Tree) :
    before.read cursor = .ok root ↔
      ∃ tokens, Lexes cursor.rest tokens ∧ Reaches before tokens ⟨[], root⟩ := by
  rw [read_eq_iff]
  constructor
  · rintro ⟨calls, run⟩
    cases run with
    | @mk tokens _ _ _ _ _ finds path stops =>
      cases stops with
      | finished found =>
        cases Yields.of_next found with
        | ended last => exact ⟨tokens, ⟨_, finds.scans, last⟩, path⟩
  · rintro ⟨tokens, ⟨rest, scan, last⟩, path⟩
    obtain ⟨calls, ⟨_, place⟩, finds, rfl⟩ := scan.finds cursor.place
    exact ⟨_, .mk finds path (.finished (next_of_trailing last place))⟩

end Arbor.Sexpr
