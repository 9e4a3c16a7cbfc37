import Arbor.Proofs.Settings.Strings

-- Settings files whose lines are blank, hold a comment, or give a string to a key, and the proof
-- that the keys and strings of such a file are read back in order.
namespace Arbor.Settings.Toml

-- A comment, or nothing.
inductive Note : List Char → Prop where
  | none : Note []
  | comment {text : List Char} (plain : ∀ c ∈ text, isPlain c = true) : Note ('#' :: text)

-- A key as it is written, and its characters.
inductive Key : List Char → List Char → Prop where
  | bare {word : List Char} (filled : word ≠ []) (letters : ∀ c ∈ word, isBare c = true) :
    Key word word
  | basic {raw content : List Char} (spelled : Spells raw content) :
    Key ('"' :: (raw ++ ['"'])) content
  | literal {content : List Char} (verbatim : Verbatim content) :
    Key ('\'' :: (content ++ ['\''])) content

-- One line without its end, and the pair that it gives.
inductive Line : List (String × String) → List Char → Prop where
  | blank {gap note : List Char} (spaces : Spaces gap) (remark : Note note) : Line [] (gap ++ note)
  | statement {before name key left right string value after note : List Char}
    (lead : Spaces before) (keyed : Key name key) (leftSpaces : Spaces left)
    (rightSpaces : Spaces right) (quoted : Quoted string value) (trail : Spaces after)
    (remark : Note note) :
    Line [(String.ofList key, String.ofList value)]
      (before ++ (name ++ (left ++ '=' :: (right ++ (string ++ (after ++ note))))))

-- Lines with ends of lines between them, and all pairs in order.
inductive Document : List (String × String) → List Char → Prop where
  | last {pairs : List (String × String)} {text : List Char} (line : Line pairs text) :
    Document pairs text
  | more {first pairs : List (String × String)} {text newLine rest : List Char}
    (line : Line first text) (ends : NewLine newLine) (others : Document pairs rest) :
    Document (first ++ pairs) (text ++ (newLine ++ rest))

-- The end of a line or of the file, and the lines behind it.
inductive LineEnds : List Char → List Char → Prop where
  | file : LineEnds [] []
  | line {newLine rest : List Char} (ends : NewLine newLine) : LineEnds (newLine ++ rest) rest

variable {c : Char} {text note gap behind rest name key string value : List Char}
  {pairs done : List (String × String)}

theorem LineEnds.head (ends : LineEnds behind rest) : ∀ c ∈ behind.head?, c = '\n' ∨ c = '\r' := by
  cases ends with
  | file => nofun
  | line newLine => exact newLine.head? _

theorem Note.head (remark : Note note) (ends : LineEnds behind rest) :
    ∀ c ∈ (note ++ behind).head?, c = '#' ∨ c = '\n' ∨ c = '\r' := by
  intro c ahead
  cases remark with
  | none => exact .inr (ends.head c ahead)
  | comment plain => cases ahead; exact .inl rfl

theorem noQuote_gap (spaces : Spaces gap) (remark : Note note) (ends : LineEnds behind rest) :
    NoQuote (gap ++ (note ++ behind)) := by
  intro c ahead
  cases gap with
  | nil => rcases remark.head ends c ahead with rfl | rfl | rfl <;> decide
  | cons d gap =>
    cases ahead
    rcases isSpace_iff.mp (spaces _ List.mem_cons_self) with rfl | rfl <;> decide

theorem dropComment_append (remark : Note note) (ends : LineEnds behind rest) :
    dropComment (note ++ behind) = behind := by
  cases remark with
  | none =>
    unfold dropComment
    split
    · rename_i same
      rcases ends.head '#' (by rw [← List.nil_append behind, same]; rfl) with false | false <;>
        cases false
    · rfl
  | comment plain =>
    exact dropWhile_run plain fun c ahead => isPlain_of_lineEnd (ends.head c ahead)

theorem endLine?_append (spaces : Spaces gap) (remark : Note note) (ends : LineEnds behind rest) :
    endLine? (gap ++ (note ++ behind)) = some rest := by
  have ahead : dropSpace (gap ++ (note ++ behind)) = note ++ behind :=
    dropWhile_run spaces fun c first => by
      rcases remark.head ends c first with rfl | rfl | rfl <;> rfl
  rw [endLine?, ahead, dropComment_append remark ends]
  cases ends with
  | file => rfl
  | line newLine => cases newLine <;> rfl

-- A key is not mistaken for a comment, a blank line or a gap.
theorem Key.head (keyed : Key name key) :
    ∃ c more, name = c :: more ∧ (isBare c = true ∨ c = '"' ∨ c = '\'') := by
  cases keyed with
  | bare filled letters =>
    obtain ⟨c, more, rfl⟩ := List.exists_cons_of_ne_nil filled
    exact ⟨c, more, rfl, .inl (letters c List.mem_cons_self)⟩
  | basic spelled => exact ⟨'"', _, rfl, .inr (.inl rfl)⟩
  | literal verbatim => exact ⟨'\'', _, rfl, .inr (.inr rfl)⟩

theorem key?_bare {word : List Char} (filled : word ≠ []) (letters : ∀ c ∈ word, isBare c = true)
    (ends : ∀ c ∈ rest.head?, isBare c = false) :
    key? (word ++ rest) = some (String.ofList word, rest) := by
  obtain ⟨c, more, rfl⟩ := List.exists_cons_of_ne_nil filled
  have bare := letters c List.mem_cons_self
  unfold key?
  split
  · rename_i same
    obtain ⟨rfl, _⟩ := List.cons.inj same
    cases bare
  · rename_i same
    obtain ⟨rfl, _⟩ := List.cons.inj same
    cases bare
  · rw [takeWhile_run letters ends, dropWhile_run letters ends, if_neg filled]

theorem key?_append (keyed : Key name key) (ends : ∀ c ∈ rest.head?, isBare c = false) :
    key? (name ++ rest) = some (String.ofList key, rest) := by
  cases keyed with
  | bare filled letters => exact key?_bare filled letters ends
  | basic spelled =>
    rw [List.cons_append, List.append_assoc, List.singleton_append, key?, basic?_append spelled,
      List.reverse_nil, List.nil_append]
  | literal verbatim =>
    rw [List.cons_append, List.append_assoc, List.singleton_append, key?, literal?_append verbatim,
      List.reverse_nil, List.nil_append]

theorem Quoted.head (quoted : Quoted string value) :
    ∃ c more, string = c :: more ∧ (c = '"' ∨ c = '\'') := by
  cases quoted with
  | basic | longBasic => exact ⟨'"', _, rfl, .inl rfl⟩
  | literal | longLiteral => exact ⟨'\'', _, rfl, .inr rfl⟩

theorem equals?_append {left right : List Char} (leftSpaces : Spaces left)
    (rightSpaces : Spaces right) (solid : ∀ c ∈ rest.head?, isSpace c = false) :
    equals? (left ++ '=' :: (right ++ rest)) = some rest := by
  have before : dropSpace (left ++ '=' :: (right ++ rest)) = '=' :: (right ++ rest) :=
    dropWhile_run leftSpaces fun c ahead => by cases ahead; rfl
  have behind : dropSpace (right ++ rest) = rest := dropWhile_run rightSpaces solid
  rw [equals?, before]
  simp only [behind]

theorem statement?_append {left right after : List Char} (keyed : Key name key)
    (leftSpaces : Spaces left) (rightSpaces : Spaces right) (quoted : Quoted string value)
    (trail : Spaces after) (remark : Note note) (ends : LineEnds behind rest) :
    statement? (name ++ (left ++ '=' :: (right ++ (string ++ (after ++ (note ++ behind)))))) =
      some ((String.ofList key, String.ofList value), rest) := by
  have keyEnds : ∀ c ∈ (left ++ '=' :: (right ++ (string ++ (after ++ (note ++ behind))))).head?,
      isBare c = false := by
    intro c ahead
    cases left with
    | nil => cases ahead; rfl
    | cons d left =>
      cases ahead
      rcases isSpace_iff.mp (leftSpaces _ List.mem_cons_self) with rfl | rfl <;> rfl
  have solid : ∀ c ∈ (string ++ (after ++ (note ++ behind))).head?, isSpace c = false := by
    intro c ahead
    obtain ⟨d, more, rfl, quote⟩ := quoted.head
    cases ahead
    rcases quote with rfl | rfl <;> rfl
  have readKey := key?_append keyed keyEnds
  have readEquals := equals?_append leftSpaces rightSpaces solid
  have readValue := value?_append quoted (noQuote_gap trail remark ends)
  have readEnd := endLine?_append trail remark ends
  simp only [statement?, readKey, readEquals, readValue, readEnd, Option.map_some]

theorem pairsFrom?_end (ahead : dropSpace text = []) : pairsFrom? done text = some done.reverse := by
  rw [pairsFrom?]
  split
  · rfl
  · rename_i found; rw [ahead] at found; cases found

theorem pairsFrom?_note (ahead : dropSpace text = c :: rest) (sign : c = '#' ∨ c = '\n' ∨ c = '\r')
    (read : endLine? (c :: rest) = some behind) : pairsFrom? done text = pairsFrom? done behind := by
  have test : (c = '#' || c = '\n' || c = '\r') = true := by simpa [or_assoc] using sign
  rw [pairsFrom?]
  split
  · rename_i found; rw [ahead] at found; cases found
  · rename_i found
    rw [ahead] at found
    obtain ⟨rfl, rfl⟩ := List.cons.inj found
    rw [if_pos test]
    split
    · rename_i found; rw [read] at found; cases found
    · rename_i found; rw [read] at found; cases found; rfl

theorem pairsFrom?_statement {pair : String × String} (ahead : dropSpace text = c :: rest)
    (noSign : c ≠ '#' ∧ c ≠ '\n' ∧ c ≠ '\r') (read : statement? (c :: rest) = some (pair, behind)) :
    pairsFrom? done text = pairsFrom? (pair :: done) behind := by
  have test : ¬ (c = '#' || c = '\n' || c = '\r') = true := by simpa [and_assoc] using noSign
  rw [pairsFrom?]
  split
  · rename_i found; rw [ahead] at found; cases found
  · rename_i found
    rw [ahead] at found
    obtain ⟨rfl, rfl⟩ := List.cons.inj found
    rw [if_neg test]
    split
    · rename_i found; rw [read] at found; cases found
    · rename_i found; rw [read] at found; cases found; rfl

theorem pairsFrom?_nil (done : List (String × String)) : pairsFrom? done [] = some done.reverse :=
  pairsFrom?_end rfl

theorem Key.noSign (start : isBare c = true ∨ c = '"' ∨ c = '\'') :
    isSpace c = false ∧ c ≠ '#' ∧ c ≠ '\n' ∧ c ≠ '\r' := by
  rcases start with bare | rfl | rfl
  · refine ⟨?_, ?_, ?_, ?_⟩
    · rw [Bool.eq_false_iff]
      intro space
      rcases isSpace_iff.mp space with rfl | rfl <;> cases bare
    all_goals rintro rfl; cases bare
  · decide
  · decide

-- One line takes the reader to the next one and adds its pair.
theorem Line.pairsFrom? {first : List (String × String)} (line : Line first text)
    (ends : LineEnds behind rest) (done : List (String × String)) :
    pairsFrom? done (text ++ behind) = pairsFrom? (first.reverse ++ done) rest := by
  cases line with
  | @blank gap note spaces remark =>
    have ahead : dropSpace (gap ++ note ++ behind) = note ++ behind := by
      rw [List.append_assoc]
      refine dropWhile_run spaces fun c first => ?_
      rcases remark.head ends c first with rfl | rfl | rfl <;> rfl
    cases found : note ++ behind with
    | nil =>
      obtain ⟨_, empty⟩ := List.append_eq_nil_iff.mp found
      rw [found] at ahead
      rw [pairsFrom?_end ahead]
      cases ends with
      | file => exact (pairsFrom?_nil done).symm
      | line newLine => cases newLine <;> cases empty
    | cons c more =>
      have read := endLine?_append (show Spaces [] from nofun) remark ends
      rw [found] at ahead read
      exact pairsFrom?_note ahead (remark.head ends c (by rw [found]; rfl)) read
  | statement lead keyed leftSpaces rightSpaces quoted trail remark =>
    have read := statement?_append keyed leftSpaces rightSpaces quoted trail remark ends
    obtain ⟨c, more, rfl, start⟩ := keyed.head
    obtain ⟨solid, noSign⟩ := Key.noSign start
    simp only [List.append_assoc, List.cons_append] at read ⊢
    refine pairsFrom?_statement (dropWhile_run lead fun d ahead => ?_) noSign read
    cases ahead
    exact solid

theorem Document.pairsFrom? (document : Document pairs text) (done : List (String × String)) :
    pairsFrom? done text = some (done.reverse ++ pairs) := by
  induction document generalizing done with
  | @last pairs text line =>
    have read := line.pairsFrom? .file done
    rw [List.append_nil, pairsFrom?_nil] at read
    rw [read, List.reverse_append, List.reverse_reverse]
  | @more first pairs text newLine rest line ends _ ih =>
    rw [line.pairsFrom? (.line ends) done, ih, List.reverse_append, List.reverse_reverse,
      List.append_assoc]

theorem pairsFrom?_mark (done : List (String × String)) (rest : List Char) :
    pairsFrom? done ('\uFEFF' :: rest) = none := by
  have ahead : dropSpace ('\uFEFF' :: rest) = '\uFEFF' :: rest := rfl
  have refused : statement? ('\uFEFF' :: rest) = none := rfl
  rw [pairsFrom?]
  split
  · rename_i found; cases found
  · rename_i found
    rw [ahead] at found
    obtain ⟨rfl, rfl⟩ := List.cons.inj found
    rw [if_neg (by decide)]
    split
    · rfl
    · rename_i found; rw [refused] at found; cases found

theorem pairs?_of_document {text : String} (document : Document pairs text.toList) :
    pairs? text = some pairs := by
  have read := document.pairsFrom? []
  rw [pairs?]
  unfold dropMark
  split
  · rename_i mark
    rw [mark, pairsFrom?_mark] at read
    cases read
  · exact read

end Arbor.Settings.Toml
