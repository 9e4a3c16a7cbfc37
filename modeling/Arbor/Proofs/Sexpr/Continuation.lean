import Arbor.Proofs.Sexpr.Culprit

-- What becomes of a refused source when more text follows. A culprit before the end stays where it is,
-- and nodes that are left open are closed by just as many parentheses.
namespace Arbor.Sexpr

-- What more text can make of a token: only a word may grow.
inductive Token.Grows : Token → Token → Prop where
  | same : Grows token token
  | word : Grows (.word part) (.word (part ++ longer))

inductive Cause.Grows : Cause → Cause → Prop where
  | same : Grows cause cause
  | word : Grows (.unexpectedWord part) (.unexpectedWord (part ++ longer))

-- A new line of closing parentheses.
def closingLine (count : Nat) : String := "\n" ++ String.ofList (List.replicate count ')')

variable {source text rest more : List Char} {tokens : List Token} {token : Token} {cause : Cause}
  {nodes : List Unclosed}

theorem NoWord.extend (stop : NoWord text) (apart : text ≠ [] ∨ NoWord more) :
    NoWord (text ++ more) := by
  cases text with
  | nil =>
    rcases apart with nonempty | stop
    · exact absurd rfl nonempty
    · exact stop
  | cons c tail => exact noWord_cons (stop c tail rfl)

theorem Ends.extend (ends : Ends token text) (apart : text ≠ [] ∨ NoWord more) :
    Ends token (text ++ more) := by
  cases token with
  | word => exact NoWord.extend ends apart
  | opening | closing | value => trivial

theorem Scans.suffix (scan : Scans source tokens rest) : rest <:+ source := by
  induction scan with
  | done => exact List.suffix_rfl
  | token _ _ _ _ ih => exact (ih.trans (List.suffix_append _ _)).trans (List.suffix_append _ _)

-- The tokens before a text stay the same, unless the new text lengthens a word at the very end.
theorem Scans.extend (scan : Scans source tokens rest) (more : List Char)
    (apart : rest ≠ [] ∨ NoWord more) :
    Scans (source ++ more) tokens (rest ++ more) := by
  induction scan with
  | done => exact .done
  | token gap written ends later ih =>
    rw [List.append_assoc, List.append_assoc]
    refine .token gap written (ends.extend ?_) (ih apart)
    refine apart.imp_left ?_
    rintro nonempty rfl
    exact nonempty (List.suffix_nil.mp later.suffix)

theorem Meets.extend (meets : Meets source tokens token rest) (more : List Char) :
    ∃ later, token.Grows later ∧ Meets (source ++ more) tokens later (rest ++ more) := by
  cases meets with
  | @mk lead raw behind scan gap written ends =>
    have nonempty : lead ++ (raw ++ behind) ≠ [] := by simp [written.ne_nil]
    have further := scan.extend more (.inl nonempty)
    rw [List.append_assoc, List.append_assoc] at further
    rw [List.append_assoc]
    cases written with
    | opening => exact ⟨_, .same, .mk further gap .opening trivial⟩
    | closing => exact ⟨_, .same, .mk further gap .closing trivial⟩
    | value spelled => exact ⟨_, .same, .mk further gap (.value spelled) trivial⟩
    | word holds =>
      -- The word now goes as far as its characters do.
      rw [← List.takeWhile_append_dropWhile (p := isWordChar) (l := behind ++ more),
        ← List.append_assoc raw] at further ⊢
      have grown := Meets.mk further gap (.word (holds.append_takeWhile _)) (noWord_dropWhile _)
      rw [String.ofList_append] at grown
      exact ⟨_, .word, grown⟩

theorem Breaks.extend (breaks : Breaks text cause rest) (ended : cause ≠ .unterminatedValue)
    (more : List Char) : Breaks (text ++ more) cause (rest ++ more) := by
  cases breaks with
  | character strange => exact .character strange
  | escape spelled nothing =>
    rw [List.cons_append, List.append_assoc]
    exact .escape spelled nothing
  | endless => exact absurd rfl ended

theorem Culprit.extend (culprit : Culprit source cause rest) (ended : cause ≠ .unterminatedValue)
    (early : rest ≠ []) (more : List Char) :
    ∃ later, cause.Grows later ∧ Culprit (source ++ more) later (rest ++ more) := by
  cases culprit with
  | @lexical tokens lead text _ _ viable scan gap breaks =>
    have nonempty : lead ++ text ≠ [] := by
      intro empty
      rw [(List.append_eq_nil_iff.mp empty).2] at breaks
      exact early (List.suffix_nil.mp breaks.suffix)
    have further := scan.extend more (.inl nonempty)
    rw [List.append_assoc] at further
    exact ⟨cause, .same, .lexical viable further gap (breaks.extend ended more)⟩
  | afterRoot node meets =>
    obtain ⟨later, -, further⟩ := meets.extend more
    exact ⟨_, .same, .afterRoot node further⟩
  | noKind | unclosed => exact absurd rfl early
  | otherKind opened meets other =>
    obtain ⟨later, grows, further⟩ := meets.extend more
    cases grows with
    | same => exact ⟨_, .same, .otherKind opened further other⟩
    | word => exact absurd rfl (other _)
  | value opened meets late =>
    obtain ⟨later, grows, further⟩ := meets.extend more
    cases grows
    exact ⟨_, .same, .value opened further late⟩
  | word opened meets =>
    obtain ⟨later, grows, further⟩ := meets.extend more
    cases grows with
    | same => exact ⟨_, .same, .word opened further⟩
    | word => exact ⟨_, .word, .word opened further⟩
  | unmatched meets =>
    obtain ⟨later, grows, further⟩ := meets.extend more
    cases grows
    exact ⟨_, .same, .unmatched further⟩

-- A fault before the end of the source stands whatever follows, at the same place. The one
-- exception is a value that may yet be ended.
theorem early_refusal_stands {source : String} {position : Text.Position}
    (refused : read source = .error (.malformed position cause))
    (ended : cause ≠ .unterminatedValue) (early : position ≠ .behind source.toList)
    (more : String) :
    ∃ later, read (source ++ more) = .error (.malformed position later) ∧ cause.Grows later := by
  obtain ⟨before, rest, same, rfl, culprit⟩ := read_eq_malformed_iff.mp refused
  have nonempty : rest ≠ [] := by
    rintro rfl
    rw [List.append_nil] at same
    exact early (congrArg _ same.symm)
  obtain ⟨later, grows, further⟩ := culprit.extend ended nonempty more.toList
  rw [← String.toList_append] at further
  refine ⟨later, read_eq_malformed_iff.mpr ⟨before, rest ++ more.toList, ?_, rfl, further⟩, grows⟩
  rw [String.toList_append, same, List.append_assoc]

-- A second word of which only the first letter is there.
theorem early_refusal_stands_word :
    read "(A b" = .error (.malformed ⟨1, 4⟩ (.unexpectedWord "b")) ∧
    ∃ later, read "(A bc)" = .error (.malformed ⟨1, 4⟩ later) ∧
      (Cause.unexpectedWord "b").Grows later := by
  have first : IsWord ['A'] := isWord_singleton (by decide +kernel)
  have second : IsWord ['b'] := isWord_singleton (by decide +kernel)
  have stop : NoWord " b".toList := noWord_cons (by decide +kernel)
  have scan : Scans "(A b".toList [.opening, .word "A"] " b".toList :=
    .token .nil .opening trivial (.token .nil (.word first) stop .done)
  have opened : Open [⟨"A", none, []⟩] [.opening, .word "A"] := .node .nil .nil
  have meets : Meets "(A b".toList [.opening, .word "A"] (.word "b") ['b'] :=
    .mk scan (.blank rfl .nil) (.word second) nofun
  have refused : read "(A b" = .error (.malformed ⟨1, 4⟩ (.unexpectedWord "b")) :=
    read_eq_malformed_iff.mpr ⟨"(A ".toList, ['b'], by decide, by decide, .word opened meets⟩
  exact ⟨refused, early_refusal_stands refused (by decide) (by decide) "c)"⟩

theorem Trailing.endLine (last : Trailing text) : Trivia (text ++ ['\n']) := by
  cases last with
  | closed gap => exact gap.append (.blank rfl .nil)
  | comment gap oneLine =>
    rw [List.append_assoc]
    exact gap.append (.comment oneLine .nil)

-- On a new line the source goes on behind its last token.
theorem Lexes.newLine (lexes : Lexes source tokens) (more : List Char) :
    ∃ gap, Trivia gap ∧ Scans (source ++ '\n' :: more) tokens (gap ++ more) := by
  obtain ⟨rest, scan, last⟩ := lexes
  have further := scan.extend ('\n' :: more) (.inr (noWord_cons (by decide +kernel)))
  rw [← List.singleton_append, ← List.append_assoc rest] at further
  exact ⟨rest ++ ['\n'], last.endLine, further⟩

theorem scans_closings {lead : List Char} (gap : Trivia lead) (count : Nat) (more : List Char) :
    ∃ left, Trivia left ∧ Scans (lead ++ (List.replicate count ')' ++ more))
      (List.replicate count .closing) (left ++ more) := by
  induction count generalizing lead with
  | zero => exact ⟨lead, gap, .done⟩
  | succ count ih =>
    obtain ⟨left, free, scan⟩ := ih .nil
    rw [List.replicate_succ, List.replicate_succ, List.cons_append]
    exact ⟨left, free, .token gap .closing trivial scan⟩

theorem Lexes.closings_append (lexes : Lexes source tokens) (count : Nat) (more : List Char) :
    ∃ gap, Trivia gap ∧ Scans (source ++ '\n' :: (List.replicate count ')' ++ more))
      (tokens ++ List.replicate count .closing) (gap ++ more) := by
  obtain ⟨gap, free, first⟩ := lexes.newLine (List.replicate count ')' ++ more)
  obtain ⟨left, between, second⟩ := scans_closings free count more
  exact ⟨left, between, first.append second⟩

theorem Lexes.closings (lexes : Lexes source tokens) (count : Nat) :
    Lexes (source ++ '\n' :: List.replicate count ')')
      (tokens ++ List.replicate count .closing) := by
  obtain ⟨gap, free, scan⟩ := lexes.closings_append count []
  rw [List.append_nil, List.append_nil] at scan
  exact ⟨gap, scan, .closed free⟩

theorem Lexes.meets_closing (lexes : Lexes source tokens) (count further : Nat) :
    Meets (source ++ '\n' :: List.replicate (count + (further + 1)) ')')
      (tokens ++ List.replicate count .closing) .closing (List.replicate (further + 1) ')') := by
  obtain ⟨gap, free, scan⟩ := lexes.closings_append count (List.replicate (further + 1) ')')
  rw [List.replicate_append_replicate] at scan
  exact .mk scan free .closing trivial

-- Each parenthesis closes the innermost node; the induction is on their number.
theorem Open.closings (opened : Open nodes tokens) (count : Nat) (fewer : count < nodes.length) :
    ∃ left, left.length + count = nodes.length ∧
      Open left (tokens ++ List.replicate count .closing) := by
  induction count generalizing nodes tokens with
  | zero => exact ⟨nodes, rfl, by simpa using opened⟩
  | succ count ih =>
    match nodes, opened, fewer with
    | inner :: parent :: outer, opened, fewer =>
      have closed : Open (parent.add inner.close :: outer) (tokens ++ [.closing]) :=
        Step.closing.holds opened
      obtain ⟨left, length, further⟩ := ih closed (Nat.lt_of_succ_lt_succ fewer)
      refine ⟨left, congrArg Nat.succ length, ?_⟩
      rw [List.replicate_succ, ← List.singleton_append, ← List.append_assoc]
      exact further

theorem Open.node_closings (opened : Open nodes tokens) (inside : nodes ≠ []) :
    ∃ tree, Node (tokens ++ List.replicate nodes.length .closing) tree := by
  obtain ⟨node, outer, rfl⟩ := List.exists_cons_of_ne_nil inside
  obtain ⟨left, length, further⟩ := opened.closings outer.length (Nat.lt_succ_self _)
  obtain ⟨last, rfl⟩ : ∃ last, left = [last] :=
    List.length_eq_one_iff.mp (by rw [List.length_cons] at length; omega)
  have whole := (Step.root.holds (show State.Holds ⟨[last], none⟩ _ from further)).2
  refine ⟨last.close, ?_⟩
  rw [List.length_cons, List.replicate_succ', ← List.append_assoc]
  exact whole

theorem toList_closingLine (source : String) (count : Nat) :
    (source ++ closingLine count).toList = source.toList ++ '\n' :: List.replicate count ')' := by
  simp [closingLine]

theorem behind_closings (source : List Char) (count : Nat) :
    Text.Position.behind (source ++ '\n' :: List.replicate count ')') =
      ⟨source.count '\n' + 2, count + 1⟩ := by
  rw [Text.Position.behind_lineFeed (by simp), List.length_replicate]

-- The number of unclosed nodes is the number of parentheses that are missing: fewer leave the
-- difference, as many make the source a tree, and of more the first that is too many is refused.
theorem unclosed_counts_missing {source : String} {position : Text.Position} {count : Nat}
    (refused : read source = .error (.malformed position (.unclosed count))) :
    1 ≤ count ∧
    (∀ k < count, read (source ++ closingLine k) =
      .error (.malformed ⟨source.toList.count '\n' + 2, k + 1⟩ (.unclosed (count - k)))) ∧
    (∃ tree, read (source ++ closingLine count) = .ok tree) ∧
    ∀ k > count, read (source ++ closingLine k) =
      .error (.malformed ⟨source.toList.count '\n' + 2, count + 1⟩ .afterRoot) := by
  obtain ⟨before, rest, -, -, culprit⟩ := read_eq_malformed_iff.mp refused
  cases culprit with
  | lexical _ _ _ breaks => cases breaks
  | @unclosed nodes tokens opened lexes inside =>
    refine ⟨List.length_pos_iff.mpr inside, ?_, ?_, ?_⟩
    · intro k fewer
      obtain ⟨left, length, further⟩ := opened.closings k fewer
      have remains : left ≠ [] := List.length_pos_iff.mp (by omega)
      rw [← length, Nat.add_sub_cancel, read_eq_malformed_iff, toList_closingLine]
      exact ⟨_, [], (List.append_nil _).symm, (behind_closings _ k).symm,
        .unclosed further (lexes.closings k) remains⟩
    · obtain ⟨tree, node⟩ := opened.node_closings inside
      refine ⟨tree, read_eq_tree_iff.mpr ⟨_, ?_, node⟩⟩
      rw [toList_closingLine]
      exact lexes.closings nodes.length
    · intro k more
      obtain ⟨further, rfl⟩ := Nat.exists_eq_add_of_lt more
      obtain ⟨tree, node⟩ := opened.node_closings inside
      rw [read_eq_malformed_iff, toList_closingLine]
      refine ⟨_, _, ?_, (behind_closings _ nodes.length).symm,
        .afterRoot node (lexes.meets_closing nodes.length further)⟩
      rw [List.append_assoc, List.cons_append, List.replicate_append_replicate, Nat.add_assoc]

-- Two nodes are open, and a comment runs to the end of the source.
theorem unclosed_counts_missing_commented :
    read "(A (B ; c" = .error (.malformed ⟨1, 10⟩ (.unclosed 2)) ∧
    read "(A (B ; c\n)" = .error (.malformed ⟨2, 2⟩ (.unclosed 1)) ∧
    (∃ tree, read "(A (B ; c\n))" = .ok tree) ∧
    read "(A (B ; c\n))))" = .error (.malformed ⟨2, 3⟩ .afterRoot) := by
  have first : IsWord ['A'] := isWord_singleton (by decide +kernel)
  have second : IsWord ['B'] := isWord_singleton (by decide +kernel)
  have stop (rest : List Char) : NoWord (' ' :: rest) := noWord_cons (by decide +kernel)
  have scan : Scans "(A (B ; c".toList [.opening, .word "A", .opening, .word "B"] " ; c".toList :=
    .token .nil .opening trivial (.token .nil (.word first) (stop _)
      (.token (.blank rfl .nil : Trivia [' ']) .opening trivial
        (.token .nil (.word second) (stop _) .done)))
  have outer : Open [⟨"A", none, []⟩] [.opening, .word "A"] := .node .nil .nil
  have opened : Open [⟨"B", none, []⟩, ⟨"A", none, []⟩]
      [.opening, .word "A", .opening, .word "B"] := .node outer .nil
  have last : Trailing " ; c".toList :=
    .comment (.blank rfl .nil : Trivia [' ']) (by decide : '\n' ∉ " c".toList)
  have refused : read "(A (B ; c" = .error (.malformed ⟨1, 10⟩ (.unclosed 2)) :=
    read_eq_malformed_iff.mpr ⟨"(A (B ; c".toList, [], by decide, by decide,
      .unclosed opened ⟨_, scan, last⟩ (by decide)⟩
  obtain ⟨-, fewer, enough, more⟩ := unclosed_counts_missing refused
  exact ⟨refused, fewer 1 (by decide), enough, more 4 (by decide)⟩

end Arbor.Sexpr
