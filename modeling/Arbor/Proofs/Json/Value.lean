import Arbor.Proofs.Json.Layout
import Arbor.Proofs.Json.Number
import Arbor.Proofs.Json.Text

-- Values of JSON that nothing is made of: words, numbers of any size, strings, lists and objects.
-- `skipValue` passes over exactly one such value.
namespace Arbor.Json

mutual

inductive Value : List Char → Prop where
  | null : Value ['n', 'u', 'l', 'l']
  | yes : Value ['t', 'r', 'u', 'e']
  | no : Value ['f', 'a', 'l', 's', 'e']
  | number (unsigned : Unsigned text) : Value text
  | negative (unsigned : Unsigned text) : Value ('-' :: text)
  | string (loose : LooseText raw) : Value ('"' :: (raw ++ ['"']))
  | list (joined : Joined true pieces text) (values : ∀ piece ∈ pieces, Value piece) :
      Value ('[' :: (text ++ [']']))
  | object (joined : Joined true pieces text) (entries : ∀ piece ∈ pieces, Entry piece) :
      Value ('\x7b' :: (text ++ ['\x7d']))

-- A key and its value.
inductive Entry : List Char → Prop where
  | mk (key : LooseText raw) (before : Blanks left) (behind : Blanks right) (value : Value text) :
      Entry ('"' :: (raw ++ '"' :: (left ++ ':' :: (right ++ text))))

end

variable {c : Char} {text rest inside left right : List Char} {pieces : List (List Char)}

def Bracket.opening : Bracket → Char
  | .list => '['
  | .object => '\x7b'

-- What stands between the brackets' commas.
def Bracket.Holds : Bracket → List Char → Prop
  | .list => Value
  | .object => Entry

theorem Value.brackets {bracket : Bracket} (joined : Joined true pieces text)
    (held : ∀ piece ∈ pieces, bracket.Holds piece) :
    Value (bracket.opening :: (text ++ [bracket.closing])) := by
  cases bracket with
  | list => exact .list joined held
  | object => exact .object joined held

theorem skipFrom_opening (bracket : Bracket) (brackets : List Bracket)
    (ahead : skipBlank text = bracket.opening :: rest) :
    skipFrom .value brackets text = skipFrom .first (bracket :: brackets) rest := by
  cases bracket with
  | list =>
    rw [skipFrom]
    split
    · rename_i same
      rw [ahead] at same
      cases same
      rfl
    · rename_i same
      rw [ahead] at same
      cases same
    · rename_i other _
      exact absurd ahead (other rest)
  | object =>
    rw [skipFrom]
    split
    · rename_i same
      rw [ahead] at same
      cases same
    · rename_i same
      rw [ahead] at same
      cases same
      rfl
    · rename_i _ other
      exact absurd ahead (other rest)

theorem skipScalar_head (found : skipScalar text = .ok rest) :
    skipBlank text = text ∧ (∀ tail, text ≠ '[' :: tail) ∧ ∀ tail, text ≠ '\x7b' :: tail := by
  refine ⟨?_, ?_, ?_⟩
  · cases text with
    | nil => rfl
    | cons c tail =>
      apply skipBlank_cons
      rw [Bool.eq_false_iff]
      intro blank
      rcases isBlank_iff.mp blank with rfl | rfl | rfl | rfl <;> cases found
  · rintro tail rfl
    cases found
  · rintro tail rfl
    cases found

theorem skipFrom_scalar {gap : List Char} (blank : Blanks gap)
    (found : skipScalar text = .ok rest) (brackets : List Bracket) :
    skipFrom .value brackets (gap ++ text) = skipFrom .after brackets rest := by
  obtain ⟨solid, noList, noObject⟩ := skipScalar_head found
  have ahead : skipBlank (gap ++ text) = text := by rw [skipBlank_append blank, solid]
  rw [skipFrom]
  split
  · rename_i same
    exact absurd (ahead.symm.trans same) (noList _)
  · rename_i same
    exact absurd (ahead.symm.trans same) (noObject _)
  · split
    · rename_i failed
      rw [ahead, found] at failed
      cases failed
    · rename_i same
      rw [ahead, found] at same
      cases same
      rfl

theorem skipFrom_closing {stage : Stage} {bracket : Bracket} (inside : stage ≠ .value)
    (ahead : skipBlank text = bracket.closing :: rest) (outer : List Bracket) :
    skipFrom stage (bracket :: outer) text = skipFrom .after outer rest := by
  rw [skipFrom]
  · split
    · rename_i ended
      rw [ahead] at ended
      cases ended
    · rename_i same
      rw [ahead] at same
      cases same
      rw [if_pos rfl]
  · exact inside

theorem skipFrom_first {bracket : Bracket} {behind : List Char}
    (ahead : skipBlank text = c :: rest) (other : c ≠ bracket.closing)
    (found : skipKey bracket (c :: rest) = .ok behind) (outer : List Bracket) :
    skipFrom .first (bracket :: outer) text = skipFrom .value (bracket :: outer) behind := by
  conv => lhs; rw [skipFrom.eq_def]
  dsimp only
  split
  · rename_i ended
    rw [ahead] at ended
    cases ended
  · rename_i same
    rw [ahead] at same
    cases same
    rw [if_neg other, dif_pos rfl]
    split
    · rename_i failed
      rw [found] at failed
      cases failed
    · rename_i same
      rw [found] at same
      cases same
      rfl

theorem skipFrom_later {bracket : Bracket} {behind : List Char}
    (ahead : skipBlank text = ',' :: rest) (found : skipKey bracket rest = .ok behind)
    (outer : List Bracket) :
    skipFrom .after (bracket :: outer) text = skipFrom .value (bracket :: outer) behind := by
  have other : ',' ≠ bracket.closing := by cases bracket <;> decide
  conv => lhs; rw [skipFrom.eq_def]
  dsimp only
  split
  · rename_i ended
    rw [ahead] at ended
    cases ended
  · rename_i same
    rw [ahead] at same
    cases same
    rw [if_neg other, dif_neg (by decide), if_pos rfl]
    split
    · rename_i failed
      rw [found] at failed
      cases failed
    · rename_i same
      rw [found] at same
      cases same
      rfl

theorem settled_cons (other : c.isDigit = false ∧ c ≠ '.' ∧ isExponentMark c = false) :
    Settled (c :: rest) := by
  rintro d tail same
  cases same
  exact other

theorem Settled.behind_blanks {gap : List Char} (blank : Blanks gap) (settled : Settled rest) :
    Settled (gap ++ rest) := by
  cases gap with
  | nil => exact settled
  | cons c gap => rcases blank c (by simp) with rfl | rfl | rfl | rfl <;> exact settled_cons (by decide)

theorem Joined.settled (joined : Joined false pieces inside) (settled : Settled rest) :
    Settled (inside ++ rest) := by
  cases joined with
  | nil gap => exact settled.behind_blanks gap
  | cons lead more =>
    cases lead with
    | later before _ =>
      rw [List.append_assoc, List.append_assoc]
      exact .behind_blanks before (settled_cons (by decide))

theorem settled_closing (bracket : Bracket) (rest : List Char) :
    Settled (bracket.closing :: rest) := by
  cases bracket <;> exact settled_cons (by decide)

-- A piece that can be told from the end of its bracket and is passed over up to what follows it.
def Bracket.Passes (bracket : Bracket) (piece : List Char) : Prop :=
  (∃ c tail, piece = c :: tail ∧ isBlank c = false ∧ c ≠ bracket.closing) ∧
    ∀ gap rest, Blanks gap → Settled rest → ∃ behind,
      skipKey bracket (gap ++ (piece ++ rest)) = .ok behind ∧
        ∀ outer, skipFrom .value (bracket :: outer) behind = skipFrom .after (bracket :: outer) rest

theorem skipFrom_joined (bracket : Bracket) {first : Bool} (joined : Joined first pieces inside)
    (passes : ∀ piece ∈ pieces, bracket.Passes piece) (outer : List Bracket) (rest : List Char) :
    skipFrom (if first then .first else .after) (bracket :: outer)
      (inside ++ bracket.closing :: rest) = skipFrom .after outer rest := by
  induction joined with
  | @nil _ first gap =>
    have solid : isBlank bracket.closing = false := by cases bracket <;> decide
    exact skipFrom_closing (by cases first <;> decide)
      (skipBlank_eq_cons_iff.mpr ⟨solid, _, gap, rfl⟩) outer
  | @cons _ left pieces text piece lead more ih =>
    obtain ⟨⟨c, tail, rfl, solid, other⟩, reads⟩ := passes piece (by simp)
    have later := ih fun piece present => passes piece (by simp [present])
    have stop := more.settled (settled_closing bracket rest)
    cases lead with
    | first gap =>
      obtain ⟨behind, key, value⟩ := reads [] _ nofun stop
      have ahead : skipBlank (left ++ (c :: tail ++ (text ++ bracket.closing :: rest))) =
          c :: (tail ++ (text ++ bracket.closing :: rest)) :=
        skipBlank_eq_cons_iff.mpr ⟨solid, _, gap, rfl⟩
      rw [if_pos rfl, List.append_assoc, List.append_assoc, skipFrom_first ahead other key, value]
      exact later
    | @later left right before gap =>
      obtain ⟨behind, key, value⟩ := reads right _ gap stop
      have ahead : skipBlank (left ++ (',' :: right ++ (c :: tail ++
          (text ++ bracket.closing :: rest)))) =
          ',' :: (right ++ (c :: tail ++ (text ++ bracket.closing :: rest))) :=
        skipBlank_eq_cons_iff.mpr ⟨by decide, _, before, rfl⟩
      rw [if_neg (by decide), List.append_assoc, List.append_assoc, List.append_assoc,
        skipFrom_later ahead key, value]
      exact later

theorem Value.head (value : Value text) :
    ∃ c tail, text = c :: tail ∧ isBlank c = false ∧ c ≠ ']' := by
  have number : ∀ {text}, Unsigned text →
      ∃ c tail, text = c :: tail ∧ isBlank c = false ∧ c ≠ ']' := by
    intro text unsigned
    obtain ⟨c, tail, rfl, digit⟩ := unsigned.head
    refine ⟨c, tail, rfl, ?_, ?_⟩
    · rw [Bool.eq_false_iff]
      intro blank
      rcases isBlank_iff.mp blank with rfl | rfl | rfl | rfl <;> exact absurd digit (by decide)
    · rintro rfl
      exact absurd digit (by decide)
  cases value with
  | number unsigned => exact number unsigned
  | null | yes | no | negative | string | list | object => exact ⟨_, _, rfl, by decide, by decide⟩

theorem skipScalar_number (unsigned : Unsigned text) (settled : Settled rest) :
    skipScalar (text ++ rest) = .ok rest := by
  have skipped := skipNumber_append unsigned settled
  obtain ⟨c, tail, rfl, digit⟩ := unsigned.head
  rw [List.cons_append] at skipped ⊢
  have other : ∀ d : Char, d.isDigit = false → c ≠ d := by
    rintro d letter rfl
    rw [digit] at letter
    cases letter
  have n := other 'n' (by decide)
  have t := other 't' (by decide)
  have f := other 'f' (by decide)
  have minus := other '-' (by decide)
  have quote := other '"' (by decide)
  simp [skipScalar, digit, skipped]

mutual

theorem Value.skips : ∀ {text}, Value text → ∀ gap rest brackets, Blanks gap → Settled rest →
    skipFrom .value brackets (gap ++ (text ++ rest)) = skipFrom .after brackets rest
  | _, .null, _, _, brackets, blank, _ => skipFrom_scalar blank rfl brackets
  | _, .yes, _, _, brackets, blank, _ => skipFrom_scalar blank rfl brackets
  | _, .no, _, _, brackets, blank, _ => skipFrom_scalar blank rfl brackets
  | _, .number unsigned, _, _, brackets, blank, settled =>
    skipFrom_scalar blank (skipScalar_number unsigned settled) brackets
  | _, @Value.negative text unsigned, gap, rest, brackets, blank, settled => by
    have found : skipScalar ('-' :: (text ++ rest)) = .ok rest := skipNumber_append unsigned settled
    exact skipFrom_scalar blank found brackets
  | _, @Value.string raw loose, gap, rest, brackets, blank, _ => by
    have found : skipScalar ('"' :: (raw ++ '"' :: rest)) = .ok rest := skipText_append loose rest
    simpa using skipFrom_scalar blank found brackets
  | _, @Value.list pieces inside joined values, gap, rest, brackets, blank, _ => by
    have ahead : skipBlank (gap ++ ('[' :: (inside ++ [']']) ++ rest)) =
        Bracket.list.opening :: (inside ++ ']' :: rest) :=
      skipBlank_eq_cons_iff.mpr ⟨by decide, gap, blank, by simp [Bracket.opening]⟩
    rw [skipFrom_opening .list brackets ahead]
    refine skipFrom_joined .list joined ?_ brackets rest
    intro piece present
    refine ⟨(values piece present).head, ?_⟩
    intro gap rest blank settled
    exact ⟨_, rfl, fun outer => (values piece present).skips gap rest _ blank settled⟩
  | _, @Value.object pieces inside joined entries, gap, rest, brackets, blank, _ => by
    have ahead : skipBlank (gap ++ ('\x7b' :: (inside ++ ['\x7d']) ++ rest)) =
        Bracket.object.opening :: (inside ++ '\x7d' :: rest) :=
      skipBlank_eq_cons_iff.mpr ⟨by decide, gap, blank, by simp [Bracket.opening]⟩
    rw [skipFrom_opening .object brackets ahead]
    exact skipFrom_joined .object joined
      (fun piece present => (entries piece present).passes) brackets rest

theorem Entry.passes : ∀ {text}, Entry text → Bracket.object.Passes text
  | _, @Entry.mk raw left right text key before behind value => by
    refine ⟨⟨_, _, rfl, by decide, by decide⟩, ?_⟩
    intro gap rest blank settled
    refine ⟨right ++ (text ++ rest), ?_, fun outer => value.skips right rest _ behind settled⟩
    have quote : skipBlank (gap ++ '"' :: (raw ++ '"' :: (left ++ ':' :: (right ++ (text ++ rest))))) =
        '"' :: (raw ++ '"' :: (left ++ ':' :: (right ++ (text ++ rest)))) :=
      skipBlank_eq_cons_iff.mpr ⟨by decide, gap, blank, rfl⟩
    have colon : skipBlank (left ++ ':' :: (right ++ (text ++ rest))) =
        ':' :: (right ++ (text ++ rest)) :=
      skipBlank_eq_cons_iff.mpr ⟨by decide, left, before, rfl⟩
    simp [skipKey, quote, skipText_append key, readColon, colon]

end

theorem eq_append_of_readWord {word : List Char} (found : readWord word text = .ok rest) :
    text = word ++ rest := by
  fun_induction readWord word text with
  | case1 => cases found; rfl
  | case2 => cases found
  | case3 c word text ih => rw [ih found]; rfl
  | case4 => cases found

theorem value_of_skipScalar (found : skipScalar text = .ok rest) :
    ∃ raw, Value raw ∧ text = raw ++ rest := by
  unfold skipScalar at found
  split at found
  · exact ⟨_, .null, by rw [eq_append_of_readWord found]; rfl⟩
  · exact ⟨_, .yes, by rw [eq_append_of_readWord found]; rfl⟩
  · exact ⟨_, .no, by rw [eq_append_of_readWord found]; rfl⟩
  · obtain ⟨raw, unsigned, rfl⟩ := unsigned_of_skipNumber found
    exact ⟨_, .negative unsigned, rfl⟩
  · obtain ⟨raw, loose, rfl⟩ := loose_of_skipText found
    exact ⟨_, .string loose, by simp⟩
  · split at found
    · obtain ⟨raw, unsigned, split⟩ := unsigned_of_skipNumber found
      exact ⟨raw, .number unsigned, split⟩
    · cases found
  · cases found

theorem gap_of_readColon (found : readColon text = .ok rest) :
    ∃ gap, Blanks gap ∧ text = gap ++ ':' :: rest := by
  unfold readColon at found
  split at found
  · cases found
  · rename_i ahead
    cases found
    exact (skipBlank_eq_cons_iff.mp ahead).2
  · cases found

-- A value behind its key is a piece, with the white space before the key left over.
theorem holds_of_skipKey {bracket : Bracket} {gap raw : List Char} (value : Value raw)
    (blank : Blanks gap) (found : skipKey bracket text = .ok (gap ++ (raw ++ rest))) :
    ∃ lead piece, Blanks lead ∧ bracket.Holds piece ∧ text = lead ++ (piece ++ rest) := by
  unfold skipKey at found
  split at found
  · cases found
    exact ⟨gap, raw, blank, value, rfl⟩
  · split at found
    · cases found
    · rename_i tail ahead
      obtain ⟨-, lead, clear, rfl⟩ := skipBlank_eq_cons_iff.mp ahead
      split at found
      · cases found
      · rename_i behind quoted
        obtain ⟨key, loose, rfl⟩ := loose_of_skipText quoted
        obtain ⟨left, before, rfl⟩ := gap_of_readColon found
        exact ⟨lead, _, clear, .mk loose before blank value, by simp⟩
    · cases found

-- From inside a bracket to what stands behind its end.
def Bracket.Fills (bracket : Bracket) (first : Bool) (text rest : List Char) : Prop :=
  ∃ pieces inside, Joined first pieces inside ∧ (∀ piece ∈ pieces, bracket.Holds piece) ∧
    text = inside ++ bracket.closing :: rest

-- From behind a value to what stands behind the outermost bracket.
def Closes : List Bracket → List Char → List Char → Prop
  | [], text, rest => text = rest
  | bracket :: outer, text, rest => ∃ more, bracket.Fills false text more ∧ Closes outer more rest

-- From behind a value, or from the inside of the innermost bracket.
def Stage.Demands : Stage → List Bracket → List Char → List Char → Prop
  | .value, brackets, text, rest => ∃ gap raw more, Blanks gap ∧ Value raw ∧
      text = gap ++ (raw ++ more) ∧ Closes brackets more rest
  | _, [], text, rest => text = rest
  | stage, bracket :: outer, text, rest => ∃ more, bracket.Fills (stage == .first) text more ∧
      Closes outer more rest

theorem Bracket.Fills.cons {bracket : Bracket} {first : Bool} {gap piece : List Char}
    (lead : Lead first gap) (held : bracket.Holds piece) (fills : bracket.Fills false text rest) :
    bracket.Fills first (gap ++ (piece ++ text)) rest := by
  obtain ⟨pieces, inside, joined, all, rfl⟩ := fills
  refine ⟨piece :: pieces, _, .cons lead joined, ?_, by simp⟩
  intro other present
  rcases List.mem_cons.mp present with rfl | later
  · exact held
  · exact all other later

theorem Bracket.Fills.nil {bracket : Bracket} {gap : List Char} (first : Bool) (blank : Blanks gap) :
    bracket.Fills first (gap ++ bracket.closing :: rest) rest :=
  ⟨[], gap, .nil blank, by simp, rfl⟩

theorem demands_after {brackets : List Bracket} :
    Stage.after.Demands brackets text rest ↔ Closes brackets text rest := by
  cases brackets <;> rfl

theorem demands_inside {stage : Stage} {bracket : Bracket} {outer : List Bracket}
    (inside : stage ≠ .value) : stage.Demands (bracket :: outer) text rest ↔
      ∃ more, bracket.Fills (stage == .first) text more ∧ Closes outer more rest := by
  cases stage with
  | value => exact absurd rfl inside
  | first => rfl
  | after => rfl

theorem demands_opening (bracket : Bracket) {brackets : List Bracket} {behind : List Char}
    (ahead : skipBlank text = bracket.opening :: behind)
    (inside : Stage.first.Demands (bracket :: brackets) behind rest) :
    Stage.value.Demands brackets text rest := by
  obtain ⟨-, gap, blank, rfl⟩ := skipBlank_eq_cons_iff.mp ahead
  obtain ⟨more, ⟨pieces, within, joined, all, rfl⟩, closes⟩ := inside
  exact ⟨gap, _, more, blank, .brackets joined all, by simp, closes⟩

-- The cases are those of the definition: six ways to go on, six to give up.
theorem demands_of_skipFrom {stage : Stage} {brackets : List Bracket}
    (found : skipFrom stage brackets text = .ok rest) : stage.Demands brackets text rest := by
  fun_induction skipFrom stage brackets text with
  | case1 text brackets behind ahead _ ih => exact demands_opening .list ahead (ih found)
  | case2 text brackets behind ahead _ ih => exact demands_opening .object ahead (ih found)
  | case4 text brackets behind _ _ scalar _ ih =>
    obtain ⟨gap, blank, split, -⟩ := exists_gap text
    obtain ⟨raw, value, ahead⟩ := value_of_skipScalar scalar
    rw [ahead] at split
    exact ⟨gap, raw, behind, blank, value, split, demands_after.mp (ih found)⟩
  | case5 stage text inside =>
    cases found
    cases stage with
    | value => exact absurd rfl inside
    | first => rfl
    | after => rfl
  | case7 text stage bracket outer inside behind ahead _ ih =>
    obtain ⟨-, gap, blank, rfl⟩ := skipBlank_eq_cons_iff.mp ahead
    exact (demands_inside inside).mpr ⟨behind, .nil _ blank, demands_after.mp (ih found)⟩
  | case9 text bracket outer c tail ahead _ _ behind key _ _ ih =>
    obtain ⟨gap, raw, more, blank, value, rfl, middle, fills, closes⟩ := ih found
    obtain ⟨lead, piece, clear, held, split⟩ := holds_of_skipKey value blank key
    obtain ⟨-, left, before, rfl⟩ := skipBlank_eq_cons_iff.mp ahead
    refine ⟨middle, ?_, closes⟩
    rw [split, ← List.append_assoc]
    exact .cons (.first (before.append clear)) held fills
  | case11 text stage bracket outer inside tail later behind key _ ahead _ _ ih =>
    obtain ⟨gap, raw, more, blank, value, rfl, middle, fills, closes⟩ := ih found
    obtain ⟨lead, piece, clear, held, rfl⟩ := holds_of_skipKey value blank key
    obtain ⟨-, left, before, rfl⟩ := skipBlank_eq_cons_iff.mp ahead
    have notFirst : (stage == .first) = false := by simpa using later
    refine (demands_inside inside).mpr ⟨middle, ?_, closes⟩
    rw [notFirst]
    simpa using Bracket.Fills.cons (.later before clear) held fills
  | case3 | case6 | case8 | case10 | case12 => cases found

theorem value_of_skipValue (found : skipValue text = .ok rest) :
    ∃ gap raw, Blanks gap ∧ Value raw ∧ text = gap ++ (raw ++ rest) := by
  obtain ⟨gap, raw, more, blank, value, split, rfl⟩ := demands_of_skipFrom found
  exact ⟨gap, raw, blank, value, split⟩

theorem skipValue_append {gap : List Char} (blank : Blanks gap) (value : Value text)
    (settled : Settled rest) : skipValue (gap ++ (text ++ rest)) = .ok rest := by
  rw [skipValue, value.skips gap rest [] blank settled, skipFrom.eq_def]

end Arbor.Json
