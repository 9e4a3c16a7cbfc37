import Arbor.Proofs.Sexpr.Grammar

-- The many ways to write a tree in the parenthesised notation, and the proof that each of them
-- reads back as the tree.
namespace Arbor.Sexpr

mutual

-- Kinds are written bare, so they have to be words.
def WordKinds : Tree → Prop
  | ⟨kind, _, children⟩ => IsWord kind.toList ∧ AllWordKinds children

def AllWordKinds : List Tree → Prop
  | [] => True
  | tree :: trees => WordKinds tree ∧ AllWordKinds trees

end

-- A value stands between quotes; an empty one may also be left out.
inductive WrittenValue : String → List Char → Prop where
  | absent : WrittenValue "" []
  | quoted (gap : Trivia lead) (spelled : Spells raw value.toList) :
      WrittenValue value (lead ++ '"' :: (raw ++ ['"']))

mutual

-- A tree as it may be written, from its opening to its closing parenthesis.
inductive Written : Tree → List Char → Prop where
  | mk (gap : Trivia lead) (valued : WrittenValue value quoted) (kids : WrittenAll children within)
      (last : Trivia trail) :
      Written ⟨kind, value, children⟩
        ('(' :: (lead ++ (kind.toList ++ (quoted ++ (within ++ (trail ++ [')']))))))

inductive WrittenAll : List Tree → List Char → Prop where
  | nil : WrittenAll [] []
  | cons (gap : Trivia lead) (first : Written tree text) (others : WrittenAll trees more) :
      WrittenAll (tree :: trees) (lead ++ (text ++ more))

end

variable {rest text : List Char} {tree : Tree} {trees : List Tree} {value : String}

theorem WrittenValue.scans (valued : WrittenValue value text) :
    ∃ token, token.getD "" = value ∧ ∀ rest, Scans (text ++ rest) (valueTokens token) rest := by
  cases valued with
  | absent => exact ⟨none, rfl, fun _ => .done⟩
  | @quoted lead raw _ gap spelled =>
    refine ⟨some value, rfl, ?_⟩
    intro rest
    have written := Denotes.value spelled
    rw [String.ofList_toList] at written
    rw [List.append_assoc]
    exact .token gap written trivial .done

-- What follows a kind never lengthens it: each part begins with a sign of its own, or with a gap.
theorem WrittenValue.noWord (valued : WrittenValue value text) (stop : NoWord rest) :
    NoWord (text ++ rest) := by
  cases valued with
  | absent => exact stop
  | quoted gap _ =>
    rw [List.append_assoc]
    exact NoWord.prepend gap (noWord_cons (by decide +kernel))

theorem WrittenAll.noWord (kids : WrittenAll trees text) (stop : NoWord rest) :
    NoWord (text ++ rest) := by
  cases kids with
  | nil => exact stop
  | cons gap first _ =>
    cases first with
    | mk _ _ _ _ =>
      rw [List.append_assoc]
      exact NoWord.prepend gap (noWord_cons (by decide +kernel))

mutual

-- Whatever gap stands before a written tree, and whatever follows it.
theorem Written.scans : ∀ {tree text}, Written tree text → WordKinds tree →
    ∃ tokens, Node tokens tree ∧
      ∀ lead, Trivia lead → ∀ rest, Scans (lead ++ (text ++ rest)) tokens rest
  | ⟨kind, value, children⟩, _, @Written.mk lead _ quoted _ within trail _ gap valued kids last,
      ⟨word, words⟩ => by
    obtain ⟨token, rfl, scanValue⟩ := valued.scans
    obtain ⟨tokens, derived, scanKids⟩ := kids.scans words
    refine ⟨_, .mk derived, ?_⟩
    intro before free rest
    have written := Denotes.word word
    rw [String.ofList_toList] at written
    have stop : NoWord (quoted ++ (within ++ (trail ++ ')' :: rest))) :=
      valued.noWord (kids.noWord (.prepend last (noWord_cons (by decide +kernel))))
    have closing : Scans (trail ++ ')' :: rest) [.closing] rest :=
      .token last .closing trivial .done
    have inside := ((scanValue _).append (scanKids _)).append closing
    simpa using Scans.token free .opening trivial (.token gap written stop inside)

theorem WrittenAll.scans : ∀ {trees text}, WrittenAll trees text → AllWordKinds trees →
    ∃ tokens, Nodes tokens trees ∧ ∀ rest, Scans (text ++ rest) tokens rest
  | [], _, .nil, _ => ⟨[], .nil, fun _ => .done⟩
  | _ :: _, _, @WrittenAll.cons lead _ text _ more gap first others, ⟨word, words⟩ => by
    obtain ⟨tokens, derived, scan⟩ := first.scans word
    obtain ⟨later, derivedAll, scanAll⟩ := others.scans words
    refine ⟨tokens ++ later, .cons derived derivedAll, ?_⟩
    intro rest
    rw [List.append_assoc, List.append_assoc]
    exact (scan lead gap (more ++ rest)).append (scanAll rest)

end

theorem read_written {lead trail : List Char} (words : WordKinds tree)
    (written : Written tree text) (before : Trivia lead) (behind : Trivia trail) :
    read (String.ofList (lead ++ text ++ trail)) = .ok tree := by
  obtain ⟨tokens, derived, scan⟩ := written.scans words
  have lexed : Lexes (lead ++ (text ++ trail)) tokens :=
    ⟨trail, scan lead before trail, .closed behind⟩
  rw [read_eq_tree_iff, String.toList_ofList, List.append_assoc]
  exact ⟨tokens, lexed, derived⟩

-- Comments around and inside, no gap between kind and value, a quote and a line feed escaped, a
-- second line feed as it is, and an empty value written out.
theorem read_written_commented :
    WordKinds ⟨"<=", "a\"\n\n", [⟨"N", "", []⟩]⟩ ∧
    Written ⟨"<=", "a\"\n\n", [⟨"N", "", []⟩]⟩ "(<=\"a\\\"\\n\n\"(N \"\"\t) ;c\n)".toList ∧
    read "; two\n(<=\"a\\\"\\n\n\"(N \"\"\t) ;c\n)\n" =
      .ok ⟨"<=", "a\"\n\n", [⟨"N", "", []⟩]⟩ := by
  have words : WordKinds ⟨"<=", "a\"\n\n", [⟨"N", "", []⟩]⟩ := by
    have less : isWordChar '<' = true := by decide +kernel
    have equals : isWordChar '=' = true := by decide +kernel
    have letter : isWordChar 'N' = true := by decide +kernel
    simp [WordKinds, AllWordKinds, IsWord, less, equals, letter]
  have value : Spells "a\\\"\\n\n".toList "a\"\n\n".toList :=
    .plain (by decide) (by decide) (.escaped .quote (.escaped .lineFeed
      (.plain (by decide) (by decide) .nil)))
  have empty : WrittenValue "" " \"\"".toList :=
    @WrittenValue.quoted [' '] [] "" (.blank rfl .nil) .nil
  have child : Written ⟨"N", "", []⟩ "(N \"\"\t)".toList :=
    .mk .nil empty .nil (.blank rfl .nil : Trivia ['\t'])
  have note : Trivia " ;c\n".toList := .blank rfl (.comment (by decide : '\n' ∉ ['c']) .nil)
  have written : Written ⟨"<=", "a\"\n\n", [⟨"N", "", []⟩]⟩
      "(<=\"a\\\"\\n\n\"(N \"\"\t) ;c\n)".toList :=
    .mk .nil (.quoted .nil value) (.cons .nil child .nil) note
  have before : Trivia "; two\n".toList := .comment (by decide : '\n' ∉ " two".toList) .nil
  have behind : Trivia "\n".toList := .blank rfl .nil
  have answer := read_written words written before behind
  have whole : String.ofList ("; two\n".toList ++
      "(<=\"a\\\"\\n\n\"(N \"\"\t) ;c\n)".toList ++ "\n".toList) =
      "; two\n(<=\"a\\\"\\n\n\"(N \"\"\t) ;c\n)\n" := by decide +kernel
  rw [whole] at answer
  exact ⟨words, written, answer⟩

end Arbor.Sexpr
