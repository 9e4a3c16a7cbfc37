import Arbor.Proofs.Sexpr.Machine

-- The lexer over a whole source. Its tokens and the gaps between them make up the source, with nothing
-- lost or read twice, and each token is reported at its first character. Every token takes something
-- off the unread text, so the reader asks for at most one more token than there are characters.
namespace Arbor.Sexpr

-- All tokens from a cursor on, each with its place.
def lexFrom (cursor : Cursor) : Except Fault (List Lexeme) :=
  match found : next cursor with
  | .error fault => .error fault
  | .ok (none, _) => .ok []
  | .ok (some lexeme, behind) =>
    have := next_rest_lt found
    (lexFrom behind).map (lexeme :: ·)
termination_by cursor.rest.length

def lex (source : String) : Except Fault (List Lexeme) := lexFrom (.start source)

-- Gaps and tokens in turn, which make up the text behind what stands `before` it. A word ends where
-- no further letter can belong to it, and a token's place is counted out from the start.
inductive Laid : List Char → List Char → List Lexeme → Prop where
  | last (gap : Trailing text) : Laid before text []
  | token {position : Text.Position} (gap : Trivia lead) (written : Denotes raw token)
      (filled : raw ≠ []) (ends : Ends token rest)
      (line : position.line = 1 + (before ++ lead).count '\n')
      (column : position.column = 1 + (Text.Position.sinceLineFeed (before ++ lead)).length)
      (more : Laid (before ++ (lead ++ raw)) rest lexemes) :
      Laid before (lead ++ (raw ++ rest)) (⟨token, position⟩ :: lexemes)

-- Calls of the lexer one after the other: each is made where the token of the one before it ended.
inductive Calls : Cursor → List Cursor → Prop where
  | last : Calls cursor [cursor]
  | more (found : next cursor = .ok (some lexeme, behind)) (further : Calls behind calls) :
      Calls cursor (cursor :: calls)

variable {text before : List Char} {cursor behind : Cursor} {lexeme : Lexeme}
  {lexemes : List Lexeme} {tokens : List Token} {calls later : List Cursor} {state : State}
  {answer : Except Fault (Option Tree)}

theorem lexFrom_eq (cursor : Cursor) :
    lexFrom cursor =
      match next cursor with
      | .error fault => .error fault
      | .ok (none, _) => .ok []
      | .ok (some lexeme, behind) => (lexFrom behind).map (lexeme :: ·) := by
  fun_cases lexFrom cursor <;> simp_all

-- The place that is carried along is the one that `Laid` counts out.
theorem laid_of_lexFrom (counted : cursor.place = .behind before)
    (read : lexFrom cursor = .ok lexemes) : Laid before cursor.rest lexemes := by
  fun_induction lexFrom cursor generalizing before lexemes with
  | case1 => cases read
  | case2 cursor behind found =>
    cases read
    cases Yields.of_next found with
    | ended gap => exact .last gap
  | case3 cursor lexeme behind found _ ih =>
    cases further : lexFrom behind with
    | error fault =>
      rw [further] at read
      cases read
    | ok later =>
      rw [further] at read
      cases read
      cases Yields.of_next found with
      | @token lead raw token rest place gap written ends =>
        obtain rfl : place = .behind before := counted
        obtain ⟨line, column⟩ := Text.Position.eq_behind_iff.mp
          (Text.Position.behind_append before lead).symm
        refine .token gap written written.ne_nil ends line column (ih ?_ further)
        exact (Text.Position.behind_append before (lead ++ raw)).symm

theorem lexFrom_of_laid (laid : Laid before text lexemes) :
    lexFrom ⟨text, .behind before⟩ = .ok lexemes := by
  induction laid with
  | last gap => rw [lexFrom_eq, next_of_trailing gap]
  | token gap written filled ends line column more ih =>
    have place := Text.Position.eq_behind_iff.mpr ⟨line, column⟩
    rw [lexFrom_eq, next_of_denotes gap written ends]
    dsimp only
    rw [← Text.Position.behind_append, ← Text.Position.behind_append, ih, ← place]
    rfl

theorem next_consumes (found : next cursor = .ok (some lexeme, behind)) :
    ∃ consumed, consumed ≠ [] ∧ cursor.rest = consumed ++ behind.rest ∧
      behind.place = cursor.place.past consumed := by
  cases Yields.of_next found with
  | @token lead raw _ _ _ _ written =>
    refine ⟨lead ++ raw, ?_, (List.append_assoc ..).symm, rfl⟩
    exact List.append_ne_nil_of_right_ne_nil lead written.ne_nil

theorem Calls.length_le (chain : Calls cursor calls) : calls.length ≤ cursor.rest.length + 1 := by
  induction chain with
  | last => exact Nat.le_add_left 1 _
  | more found _ ih =>
    have := next_rest_lt found
    rw [List.length_cons]
    omega

theorem Finds.chain (finds : Finds cursor tokens calls behind) (further : Calls behind later) :
    Calls cursor (calls ++ later) := by
  induction finds with
  | done => exact further
  | token found _ _ ih => exact .more found (ih further)

theorem Stops.chain (stops : Stops state cursor calls answer) : Calls cursor calls := by
  cases stops with
  | lexicalKind found | noKind found | otherKind found => exact .more found .last
  | _ => exact .last

theorem Runs.chain (run : Runs state cursor calls answer) : Calls cursor calls := by
  cases run with
  | mk finds _ stops => exact finds.chain stops.chain

-- The tokens of a source are exactly those that its gaps leave, no word can be longer, and a token
-- takes at least one character wherever it is found. So the reader, which asks for tokens only where
-- the one before it ended, has its answer after at most one call more than there are characters,
-- whether it accepts the source or not.
theorem lexing_lossless (source : String) :
    (∀ lexemes, lex source = .ok lexemes ↔ Laid [] source.toList lexemes) ∧
    (∀ cursor lexeme behind, next cursor = .ok (some lexeme, behind) →
      ∃ consumed, consumed ≠ [] ∧ cursor.rest = consumed ++ behind.rest ∧
        behind.place = cursor.place.past consumed) ∧
    (∃ calls, Runs .start (.start source) calls (readFrom [] none (.start source))) ∧
    ∀ calls answer, Runs .start (.start source) calls answer →
      answer = readFrom [] none (.start source) ∧ Calls (.start source) calls ∧
        calls.length ≤ source.length + 1 := by
  refine ⟨fun lexemes => ⟨laid_of_lexFrom rfl, lexFrom_of_laid⟩,
    fun cursor lexeme behind => next_consumes, exists_runs [] none (.start source), ?_⟩
  intro calls answer run
  have bound := run.chain.length_le
  refine ⟨(read_of_runs run).symm, run.chain, ?_⟩
  rwa [Cursor.start, String.length_toList] at bound

-- A comment, a word with its end in sight, and an escape.
theorem lexing_lossless_comment :
    lex ";c\n(ab\"\\n\")" = .ok [⟨.opening, ⟨2, 1⟩⟩, ⟨.word "ab", ⟨2, 2⟩⟩, ⟨.value "\n", ⟨2, 4⟩⟩,
        ⟨.closing, ⟨2, 8⟩⟩] ∧
      ∃ consumed, consumed ≠ [] ∧ "(x".toList = consumed ++ ['x'] ∧
        (⟨1, 2⟩ : Text.Position) = Text.Position.start.past consumed := by
  have letters : IsWord "ab".toList := ⟨by decide, List.all_eq_true.mp (by decide +kernel)⟩
  have stop : NoWord "\"\\n\")".toList := noWord_cons (by decide +kernel)
  have value : Denotes "\"\\n\"".toList (.value "\n") := .value (.escaped .lineFeed .nil)
  have laid : Laid [] ";c\n(ab\"\\n\")".toList
      [⟨.opening, ⟨2, 1⟩⟩, ⟨.word "ab", ⟨2, 2⟩⟩, ⟨.value "\n", ⟨2, 4⟩⟩, ⟨.closing, ⟨2, 8⟩⟩] :=
    .token (.comment (show '\n' ∉ ['c'] by decide) .nil) .opening (by decide) trivial rfl rfl <|
    .token .nil (.word letters) (by decide) stop rfl rfl <|
    .token .nil value (by decide) trivial rfl rfl <|
    .token .nil .closing (by decide) trivial rfl rfl (.last (.closed .nil))
  obtain ⟨layout, progress, -⟩ := lexing_lossless ";c\n(ab\"\\n\")"
  exact ⟨(layout _).mpr laid, progress (.start "(x") ⟨.opening, ⟨1, 1⟩⟩ ⟨['x'], ⟨1, 2⟩⟩ rfl⟩

end Arbor.Sexpr
