import Arbor.Proofs.Text.Position
import Arbor.Sexpr.Token

-- The lexical rules of the parenthesised notation as relations between texts and tokens, and the
-- proof that `next` reads a token exactly where the rules put one.
namespace Arbor.Sexpr

-- Text between two tokens. A comment belongs to it together with the line feed that ends it, so
-- that whatever stands behind such a text is not part of a comment.
inductive Trivia : List Char → Prop where
  | nil : Trivia []
  | blank (white : Text.isBlank c = true) (more : Trivia rest) : Trivia (c :: rest)
  | comment (oneLine : '\n' ∉ note) (more : Trivia rest) :
      Trivia (';' :: (note ++ '\n' :: rest))

-- Text behind the last token. Here a comment may also run to the end of the source.
inductive Trailing : List Char → Prop where
  | closed (gap : Trivia text) : Trailing text
  | comment (gap : Trivia text) (oneLine : '\n' ∉ note) :
      Trailing (text ++ ';' :: note)

-- What a backslash and the first character stand for.
inductive Escape : Char → Char → Prop where
  | quote : Escape '"' '"'
  | backslash : Escape '\\' '\\'
  | lineFeed : Escape 'n' '\n'
  | tab : Escape 't' '\t'

-- The text between two quotes, and the characters that it stands for.
inductive Spells : List Char → List Char → Prop where
  | nil : Spells [] []
  | plain (noQuote : c ≠ '"') (noBackslash : c ≠ '\\') (more : Spells raw content) :
      Spells (c :: raw) (c :: content)
  | escaped (escape : Escape c plain) (more : Spells raw content) :
      Spells ('\\' :: c :: raw) (plain :: content)

-- Text that a value does not go on with: its end, or what is wrong in it.
inductive Halts : List Char → Prop where
  | ended : Halts []
  | backslash : Halts ['\\']
  | unknown (nothing : ∀ plain, ¬ Escape c plain) : Halts ('\\' :: c :: rest)
  | quote : Halts ('"' :: rest)

-- A word as it stands in a source.
def IsWord (text : List Char) : Prop := text ≠ [] ∧ ∀ c ∈ text, isWordChar c = true

-- A token and a text that it is read from.
inductive Denotes : List Char → Token → Prop where
  | opening : Denotes ['('] .opening
  | closing : Denotes [')'] .closing
  | word (holds : IsWord text) : Denotes text (.word (String.ofList text))
  | value (spelled : Spells raw content) :
      Denotes ('"' :: (raw ++ ['"'])) (.value (String.ofList content))

-- No word can begin with the text's first character.
def NoWord (text : List Char) : Prop := ∀ c rest, text = c :: rest → isWordChar c = false

-- Words are as long as they can be. All other tokens show their own end.
def Ends : Token → List Char → Prop
  | .word _, rest => NoWord rest
  | _, _ => True

-- The first character of a token.
def Starts (c : Char) : Prop := Text.isBlank c = false ∧ c ≠ ';'

-- A character that begins no token and belongs to no gap.
def Strange (c : Char) : Prop :=
  Starts c ∧ c ≠ '(' ∧ c ≠ ')' ∧ c ≠ '"' ∧ isWordChar c = false

-- Text where a token should begin and none can be read, what is wrong there, and the text from the
-- culprit on. A value without an end is the fault of its opening quote.
inductive Breaks : List Char → Cause → List Char → Prop where
  | character (strange : Strange c) : Breaks (c :: rest) (.unexpectedCharacter c) (c :: rest)
  | escape (spelled : Spells raw content) (nothing : ∀ plain, ¬ Escape c plain) :
      Breaks ('"' :: (raw ++ '\\' :: c :: rest)) (.unknownEscape c) ('\\' :: c :: rest)
  | endless (spelled : Spells raw content) (last : tail = [] ∨ tail = ['\\']) :
      Breaks ('"' :: (raw ++ tail)) .unterminatedValue ('"' :: (raw ++ tail))

-- What a cursor stands before: nothing more, a token or a fault. Whatever lies between two places
-- has been advanced over one character at a time.
inductive Yields : Cursor → Except Fault (Option Lexeme × Cursor) → Prop where
  | ended {place : Text.Position} (last : Trailing text) :
      Yields ⟨text, place⟩ (.ok (none, ⟨[], place.past text⟩))
  | token {place : Text.Position} (gap : Trivia lead) (written : Denotes raw token)
      (ends : Ends token rest) :
      Yields ⟨lead ++ (raw ++ rest), place⟩
        (.ok (some ⟨token, place.past lead⟩, ⟨rest, place.past (lead ++ raw)⟩))
  | fault {place : Text.Position} (gap : Trivia lead) (breaks : Breaks (skipped ++ rest) cause rest) :
      Yields ⟨lead ++ (skipped ++ rest), place⟩ (.error ⟨cause, place.past (lead ++ skipped)⟩)

-- The tokens that stand in front of `rest`, each behind a gap that may be empty.
inductive Scans : List Char → List Token → List Char → Prop where
  | done : Scans rest [] rest
  | token (gap : Trivia lead) (written : Denotes raw token)
      (ends : Ends token middle) (more : Scans middle tokens rest) :
      Scans (lead ++ (raw ++ middle)) (token :: tokens) rest

-- The source is made up of these tokens and of text that means nothing.
def Lexes (source : List Char) (tokens : List Token) : Prop :=
  ∃ rest, Scans source tokens rest ∧ Trailing rest

variable {c : Char} {source lead raw rest text content : List Char} {token : Token}
  {tokens : List Token} {cause : Cause} {cursor : Cursor}

theorem Trivia.append (first : Trivia lead) (second : Trivia rest) : Trivia (lead ++ rest) := by
  induction first with
  | nil => exact second
  | blank white _ ih => exact .blank white ih
  | comment oneLine _ ih =>
    rw [List.cons_append, List.append_assoc, List.cons_append]
    exact .comment oneLine ih

theorem Trailing.prepend (gap : Trivia lead) (last : Trailing text) : Trailing (lead ++ text) := by
  cases last with
  | closed more => exact .closed (gap.append more)
  | comment more oneLine =>
    rw [← List.append_assoc]
    exact .comment (gap.append more) oneLine

theorem Scans.append {middle : List Char} {later : List Token} (first : Scans source tokens middle)
    (second : Scans middle later rest) : Scans source (tokens ++ later) rest := by
  induction first with
  | done => exact second
  | token gap written ends _ ih => exact .token gap written ends (ih second)

theorem noWord_cons (sign : isWordChar c = false) : NoWord (c :: rest) := by
  intro d tail same
  cases same
  exact sign

-- The table of letters is long, but white space is only a few characters: each is looked up.
theorem isWordChar_of_isBlank (white : Text.isBlank c = true) : isWordChar c = false := by
  have listed : ∀ range ∈ Text.blankRanges, ∀ n ∈ List.range' range.1 (range.2 + 1 - range.1),
      isWordChar (Char.ofNat n) = false := by decide +kernel
  obtain ⟨range, member, low, high⟩ := (Text.Ranges.holds_iff _ _).mp white
  have found := listed range member c.toNat (List.mem_range'_1.mpr ⟨low, by omega⟩)
  rwa [Char.ofNat_toNat] at found

theorem NoWord.prepend (gap : Trivia lead) (stop : NoWord rest) : NoWord (lead ++ rest) := by
  cases gap with
  | nil => exact stop
  | blank white _ => exact noWord_cons (isWordChar_of_isBlank white)
  | comment _ _ => exact noWord_cons (by decide +kernel)

-- Inside a comment everything up to the line feed goes.
theorem skipTrivia_note {note : List Char} (oneLine : '\n' ∉ note) (place : Text.Position)
    (rest : List Char) :
    skipTrivia true place (note ++ rest) = skipTrivia true (place.past note) rest := by
  induction note generalizing place with
  | nil => rfl
  | cons c note ih =>
    rw [List.mem_cons, not_or] at oneLine
    obtain ⟨here, later⟩ := oneLine
    have inside : (c != '\n') = true := by simpa using Ne.symm here
    simp [skipTrivia, inside, ih later, Text.Position.past_cons]

theorem skipTrivia_semicolon (place : Text.Position) (rest : List Char) :
    skipTrivia false place (';' :: rest) = skipTrivia true (place.advance ';') rest := by
  have dark : Text.isBlank ';' = false := by decide
  simp [skipTrivia, dark]

theorem skipTrivia_gap (gap : Trivia lead) (place : Text.Position) (rest : List Char) :
    skipTrivia false place (lead ++ rest) = skipTrivia false (place.past lead) rest := by
  induction gap generalizing place with
  | nil => rfl
  | blank white _ ih => simp [skipTrivia, white, ih, Text.Position.past_cons]
  | comment oneLine _ ih =>
    rw [List.cons_append, List.append_assoc, List.cons_append, skipTrivia_semicolon,
      skipTrivia_note oneLine]
    simp [skipTrivia, ih, Text.Position.past_cons, Text.Position.past_append]

theorem skipTrivia_trailing (last : Trailing text) (place : Text.Position) :
    skipTrivia false place text = ⟨[], place.past text⟩ := by
  cases last with
  | closed gap => simpa [skipTrivia] using skipTrivia_gap gap place []
  | comment gap oneLine =>
    have ended := fun place => skipTrivia_note oneLine place []
    simp only [List.append_nil] at ended
    rw [skipTrivia_gap gap, skipTrivia_semicolon, ended, skipTrivia, Text.Position.past_append,
      Text.Position.past_cons]

theorem skipTrivia_start (start : Starts c) (place : Text.Position) :
    skipTrivia false place (c :: rest) = ⟨c :: rest, place⟩ := by
  simp [skipTrivia, start.1, start.2]

-- Where a comment leads to: the end of the source, or the line behind it.
theorem note_cases (text : List Char) :
    '\n' ∉ text ∨ ∃ note rest, '\n' ∉ note ∧ text = note ++ '\n' :: rest := by
  by_cases ends : '\n' ∈ text
  · obtain ⟨note, rest, same, first⟩ := List.eq_append_cons_of_mem ends
    exact .inr ⟨note, rest, first, same⟩
  · exact .inl ends

-- Every source either means nothing or has a first token behind its leading gap.
theorem source_cases (source : List Char) :
    Trailing source ∨ ∃ lead c rest, Trivia lead ∧ Starts c ∧ source = lead ++ c :: rest := by
  match source with
  | [] => exact .inl (.closed .nil)
  | c :: rest =>
    by_cases white : Text.isBlank c = true
    · rcases source_cases rest with last | ⟨lead, d, tail, gap, start, rfl⟩
      · exact .inl (Trailing.prepend (.blank white .nil) last)
      · exact .inr ⟨c :: lead, d, tail, .blank white gap, start, rfl⟩
    · by_cases semicolon : c = ';'
      · subst semicolon
        rcases note_cases rest with endless | ⟨note, line, oneLine, same⟩
        · exact .inl (.comment .nil endless)
        · have whole := Trivia.comment oneLine .nil
          have shorter : line.length < rest.length := by rw [same]; simp; omega
          rcases source_cases line with last | ⟨lead, d, tail, gap, start, further⟩
          · refine .inl ?_
            simpa [same] using last.prepend whole
          · refine .inr ⟨_, d, tail, whole.append gap, start, ?_⟩
            simp [same, further]
      · exact .inr ⟨[], c, rest, .nil, ⟨by simpa using white, semicolon⟩, rfl⟩
termination_by source.length
decreasing_by all_goals simp only [List.length_cons]; omega

theorem unescape_eq_some_iff {c plain : Char} : unescape? c = some plain ↔ Escape c plain := by
  constructor
  · intro found
    unfold unescape? at found
    split at found
    · rename_i same; cases found; subst same; exact .quote
    · split at found
      · rename_i same; cases found; subst same; exact .backslash
      · split at found
        · rename_i same; cases found; subst same; exact .lineFeed
        · split at found
          · rename_i same; cases found; subst same; exact .tab
          · cases found
  · intro escape
    cases escape <;> rfl

-- Every text is the spelling of something up to a place where a value halts.
theorem exists_spelled (text : List Char) :
    ∃ raw content rest, Spells raw content ∧ Halts rest ∧ text = raw ++ rest := by
  fun_induction readValue .start [] .start text with
  | case1 => exact ⟨[], [], [], .nil, .ended, rfl⟩
  | case2 => exact ⟨[], [], _, .nil, .quote, rfl⟩
  | case3 => exact ⟨[], [], _, .nil, .backslash, rfl⟩
  | case4 _ _ c _ plain found ih =>
    obtain ⟨raw, content, rest, spelled, halts, rfl⟩ := ih
    exact ⟨'\\' :: c :: raw, plain :: content, rest,
      .escaped (unescape_eq_some_iff.mp found) spelled, halts, rfl⟩
  | case5 _ _ c _ none =>
    refine ⟨[], [], _, .nil, .unknown ?_, rfl⟩
    intro plain escape
    rw [unescape_eq_some_iff.mpr escape] at none
    cases none
  | case6 _ _ c tail noQuote noLast noEscape ih =>
    obtain ⟨raw, content, rest, spelled, halts, same⟩ := ih
    have noBackslash : c ≠ '\\' := by
      intro backslash
      cases tail with
      | nil => exact noLast backslash rfl
      | cons d tail => exact noEscape d tail backslash rfl
    exact ⟨c :: raw, c :: content, rest, .plain noQuote noBackslash spelled, halts, by rw [same]; rfl⟩

-- Reading over a spelling adds what it stands for.
theorem readValue_append (spelled : Spells raw content) (start place : Text.Position)
    (before rest : List Char) :
    readValue start before place (raw ++ rest) =
      readValue start (content.reverse ++ before) (place.past raw) rest := by
  induction spelled generalizing before place with
  | nil => rfl
  | plain noQuote noBackslash _ ih =>
    rw [List.cons_append, readValue, ih]
    · simp [Text.Position.past_cons]
    · exact noQuote
    · intro same; exact absurd same noBackslash
    · intro d tail same; exact absurd same noBackslash
  | escaped escape _ ih =>
    rw [List.cons_append, List.cons_append, readValue, unescape_eq_some_iff.mpr escape]
    simp [ih, Text.Position.past_cons]

theorem readValue_spelled (spelled : Spells raw content) (start place : Text.Position)
    (before rest : List Char) :
    readValue start before place (raw ++ '"' :: rest) =
      .ok (String.ofList (before.reverse ++ content), ⟨rest, place.past (raw ++ ['"'])⟩) := by
  rw [readValue_append spelled, readValue, List.reverse_append, List.reverse_reverse,
    Text.Position.past_append]
  rfl

theorem readValue_unknown (spelled : Spells raw content) (nothing : ∀ plain, ¬ Escape c plain)
    (start place : Text.Position) (before rest : List Char) :
    readValue start before place (raw ++ '\\' :: c :: rest) =
      .error ⟨.unknownEscape c, place.past raw⟩ := by
  have none : unescape? c = none := by
    rw [Option.eq_none_iff_forall_ne_some]
    intro plain found
    exact nothing plain (unescape_eq_some_iff.mp found)
  rw [readValue_append spelled, readValue, none]
  simp only [Text.Position.advance_back (by decide : '\\' ≠ '\n')]

theorem readValue_endless {tail : List Char} (spelled : Spells raw content)
    (last : tail = [] ∨ tail = ['\\']) (start place : Text.Position) (before : List Char) :
    readValue start before place (raw ++ tail) = .error ⟨.unterminatedValue, start⟩ := by
  rw [readValue_append spelled]
  rcases last with rfl | rfl <;> rw [readValue]

theorem denotes_nonempty (written : Denotes raw token) :
    ∃ c tail, raw = c :: tail ∧ Starts c := by
  cases written with
  | opening => exact ⟨_, _, rfl, by decide, by decide⟩
  | closing => exact ⟨_, _, rfl, by decide, by decide⟩
  | word holds =>
    obtain ⟨nonempty, letters⟩ := holds
    obtain ⟨c, tail, rfl⟩ := List.exists_cons_of_ne_nil nonempty
    have letter : isWordChar c = true := letters c List.mem_cons_self
    refine ⟨c, tail, rfl, ?_, ?_⟩
    · cases white : Text.isBlank c with
      | false => rfl
      | true => rw [isWordChar_of_isBlank white] at letter; cases letter
    · rintro rfl
      exact absurd letter (by decide +kernel)
  | value _ => exact ⟨_, _, rfl, by decide, by decide⟩

theorem Denotes.ne_nil (written : Denotes raw token) : raw ≠ [] := by
  obtain ⟨c, tail, rfl, -⟩ := denotes_nonempty written
  exact List.cons_ne_nil c tail

theorem isWord_singleton (letter : isWordChar c = true) : IsWord [c] := by
  simp [IsWord, letter]

theorem IsWord.append_takeWhile (word : IsWord text) (rest : List Char) :
    IsWord (text ++ rest.takeWhile isWordChar) := by
  refine ⟨List.append_ne_nil_of_left_ne_nil word.1 _, ?_⟩
  intro c member
  rcases List.mem_append.mp member with old | new
  · exact word.2 c old
  · exact List.all_eq_true.mp List.all_takeWhile c new

theorem noWord_dropWhile (text : List Char) : NoWord (text.dropWhile isWordChar) := by
  intro c tail same
  have stopped := List.head?_dropWhile_not isWordChar text
  rw [same] at stopped
  exact stopped

theorem readWord_append (holds : ∀ c ∈ text, isWordChar c = true) (stop : NoWord rest)
    (letters : List Char) (place : Text.Position) :
    readWord letters place (text ++ rest) =
      (String.ofList (letters.reverse ++ text), ⟨rest, place.past text⟩) := by
  induction text generalizing letters place with
  | nil =>
    cases rest with
    | nil => simp [readWord, Text.Position.past_nil]
    | cons c tail => simp [readWord, stop c tail rfl, Text.Position.past_nil]
  | cons c text ih =>
    obtain ⟨letter, others⟩ := List.forall_mem_cons.mp holds
    rw [List.cons_append, readWord, if_pos letter, ih others]
    simp [Text.Position.past_cons]

theorem Breaks.suffix (breaks : Breaks text cause rest) : rest <:+ text := by
  cases breaks with
  | character | endless => exact List.suffix_rfl
  | escape => exact (List.suffix_append _ _).trans (List.suffix_cons _ _)

theorem next_of_trailing (last : Trailing text) (place : Text.Position) :
    next ⟨text, place⟩ = .ok (none, ⟨[], place.past text⟩) := by
  unfold next
  rw [skipTrivia_trailing last]

theorem next_of_denotes (gap : Trivia lead) (written : Denotes raw token) (ends : Ends token rest)
    (place : Text.Position) :
    next ⟨lead ++ (raw ++ rest), place⟩ =
      .ok (some ⟨token, place.past lead⟩, ⟨rest, place.past (lead ++ raw)⟩) := by
  obtain ⟨first, tail, shape, start⟩ := denotes_nonempty written
  have trimmed : skipTrivia false place (lead ++ (raw ++ rest)) = ⟨raw ++ rest, place.past lead⟩ := by
    rw [skipTrivia_gap gap, shape, List.cons_append, skipTrivia_start start]
  unfold next
  rw [trimmed, Text.Position.past_append]
  cases written with
  | opening => rfl
  | closing => rfl
  | value spelled =>
    rw [List.cons_append, List.append_assoc, List.singleton_append]
    simp [readValue_spelled spelled, Text.Position.past_cons]
  | word holds =>
    have letter : isWordChar first = true := holds.2 first (shape ▸ List.mem_cons_self)
    have signs : first ≠ '(' ∧ first ≠ ')' ∧ first ≠ '"' := by
      refine ⟨?_, ?_, ?_⟩ <;> rintro rfl <;> exact absurd letter (by decide +kernel)
    have read := readWord_append holds.2 ends [] (place.past lead)
    rw [shape, List.cons_append] at read ⊢
    simp [signs, letter, read]

theorem next_of_breaks (gap : Trivia lead) {skipped : List Char}
    (breaks : Breaks (skipped ++ rest) cause rest) (place : Text.Position) :
    next ⟨lead ++ (skipped ++ rest), place⟩ = .error ⟨cause, place.past (lead ++ skipped)⟩ := by
  unfold next
  rw [skipTrivia_gap gap, Text.Position.past_append]
  generalize text : skipped ++ rest = broken at breaks ⊢
  cases breaks with
  | character strange =>
    obtain ⟨start, noOpening, noClosing, noQuote, noWord⟩ := strange
    obtain rfl : skipped = [] := List.self_eq_append_left.mp text.symm
    rw [skipTrivia_start start]
    simp [noOpening, noClosing, noQuote, noWord, Text.Position.past_nil]
  | @escape raw _ _ _ spelled nothing =>
    obtain rfl : skipped = '"' :: raw := List.append_cancel_right text
    rw [skipTrivia_start ⟨by decide, by decide⟩]
    simp [readValue_unknown spelled nothing, Text.Position.past_cons]
  | endless spelled last =>
    obtain rfl : skipped = [] := List.self_eq_append_left.mp text.symm
    rw [skipTrivia_start ⟨by decide, by decide⟩]
    simp [readValue_endless spelled last, Text.Position.past_nil]

-- Behind a gap there is a token to be read or something that breaks.
theorem front_cases (start : Starts c) (rest : List Char) :
    (∃ raw token behind, Denotes raw token ∧ Ends token behind ∧ c :: rest = raw ++ behind) ∨
      ∃ cause behind, Breaks (c :: rest) cause behind := by
  by_cases opening : c = '('
  · exact .inl ⟨['('], .opening, rest, .opening, trivial, by rw [opening]; rfl⟩
  by_cases closing : c = ')'
  · exact .inl ⟨[')'], .closing, rest, .closing, trivial, by rw [closing]; rfl⟩
  by_cases quote : c = '"'
  · subst quote
    obtain ⟨raw, content, tail, spelled, halts, rfl⟩ := exists_spelled rest
    cases halts with
    | @quote behind => exact .inl ⟨_, _, behind, .value spelled, trivial, by simp⟩
    | unknown nothing => exact .inr ⟨_, _, .escape spelled nothing⟩
    | ended | backslash => exact .inr ⟨_, _, .endless spelled (by simp)⟩
  by_cases letter : isWordChar c = true
  · have word := (isWord_singleton letter).append_takeWhile rest
    exact .inl ⟨_, _, _, .word word, noWord_dropWhile rest, by simp⟩
  · exact .inr ⟨_, _, .character ⟨start, opening, closing, quote, by simpa using letter⟩⟩

theorem yields_next (cursor : Cursor) : Yields cursor (next cursor) := by
  obtain ⟨text, place⟩ := cursor
  rcases source_cases text with last | ⟨lead, c, rest, gap, start, rfl⟩
  · rw [next_of_trailing last]
    exact .ended last
  · rcases front_cases start rest with ⟨raw, token, behind, written, ends, same⟩ | ⟨cause, behind, breaks⟩
    · rw [same, next_of_denotes gap written ends]
      exact .token gap written ends
    · obtain ⟨skipped, same⟩ := breaks.suffix
      rw [← same] at breaks ⊢
      rw [next_of_breaks gap breaks]
      exact .fault gap breaks

theorem Yields.of_next {answer : Except Fault (Option Lexeme × Cursor)}
    (found : next cursor = answer) : Yields cursor answer :=
  found ▸ yields_next cursor

end Arbor.Sexpr
