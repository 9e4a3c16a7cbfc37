import Arbor.Proofs.Text.Hex
import Arbor.Settings.Toml

-- The four kinds of strings of a settings file as relations between a text and the characters that
-- it stands for, and the proof that each of them is read back.
namespace Arbor.Settings.Toml

open Text (HexDigit)

def Spaces (gap : List Char) : Prop := ∀ c ∈ gap, isSpace c = true

instance (gap : List Char) : Decidable (Spaces gap) := List.decidableBAll _ gap

inductive NewLine : List Char → Prop where
  | short : NewLine ['\n']
  | long : NewLine ['\r', '\n']

-- Hexadecimal digits and the number that they make.
inductive Digits : List Char → Nat → Prop where
  | nil : Digits [] 0
  | snoc {hex : List Char} {c : Char} {n value : Nat} (more : Digits hex n) (last : HexDigit c value) :
    Digits (hex ++ [c]) (16 * n + value)

-- What a backslash and a letter stand for.
inductive Letter : Char → Char → Prop where
  | backspace : Letter 'b' '\x08'
  | tab : Letter 't' '\t'
  | lineFeed : Letter 'n' '\n'
  | formFeed : Letter 'f' '\x0c'
  | carriageReturn : Letter 'r' '\r'
  | quote : Letter '"' '"'
  | backslash : Letter '\\' '\\'

-- What follows a backslash, and the character that it stands for.
inductive Escape : List Char → Char → Prop where
  | letter {sign c : Char} (known : Letter sign c) : Escape [sign] c
  | short {hex : List Char} {c : Char} (code : Digits hex c.toNat) (four : hex.length = 4) :
    Escape ('u' :: hex) c
  | long {hex : List Char} {c : Char} (code : Digits hex c.toNat) (eight : hex.length = 8) :
    Escape ('U' :: hex) c

-- The text between two quotes on one line, and the characters that it stands for.
inductive Spells : List Char → List Char → Prop where
  | nil : Spells [] []
  | plain {c : Char} {raw content : List Char} (itself : isPlain c = true) (noQuote : c ≠ '"')
    (noBackslash : c ≠ '\\') (more : Spells raw content) : Spells (c :: raw) (c :: content)
  | escaped {sign raw content : List Char} {c : Char} (escape : Escape sign c)
    (more : Spells raw content) : Spells ('\\' :: (sign ++ raw)) (c :: content)

-- The text between two apostrophes on one line, where every character stands for itself.
def Verbatim (content : List Char) : Prop := ∀ c ∈ content, isPlain c = true ∧ c ≠ '\''

instance (content : List Char) : Decidable (Verbatim content) := List.decidableBAll _ content

-- Spaces and ends of lines.
inductive Gaps : List Char → Prop where
  | nil : Gaps []
  | space {c : Char} {gap : List Char} (space : isSpace c = true) (more : Gaps gap) : Gaps (c :: gap)
  | newLine {line gap : List Char} (newLine : NewLine line) (more : Gaps gap) : Gaps (line ++ gap)

-- Gaps that go as far as they can end in front of this text.
def NoGap (text : List Char) : Prop := ∀ c ∈ text.head?, isSpace c = false ∧ c ≠ '\n' ∧ c ≠ '\r'

-- A piece of a string with escapes on several lines: its text, what it stands for, and the text
-- behind it. A backslash at the end of a line hides all gaps up to that text.
inductive EscapedPiece : List Char → List Char → List Char → Prop where
  | plain {c : Char} {behind : List Char} (itself : isPlain c = true) (noQuote : c ≠ '"')
    (noBackslash : c ≠ '\\') : EscapedPiece [c] [c] behind
  | newLine {line behind : List Char} (newLine : NewLine line) : EscapedPiece line ['\n'] behind
  | escaped {sign behind : List Char} {c : Char} (escape : Escape sign c) :
    EscapedPiece ('\\' :: sign) [c] behind
  | hidden {gap line more behind : List Char} (spaces : Spaces gap) (newLine : NewLine line)
    (gaps : Gaps more) (ends : NoGap behind) :
    EscapedPiece ('\\' :: (gap ++ (line ++ more))) [] behind

-- The same for a string without escapes.
inductive VerbatimPiece : List Char → List Char → List Char → Prop where
  | plain {c : Char} {behind : List Char} (itself : isPlain c = true) (noQuote : c ≠ '\'') :
    VerbatimPiece [c] [c] behind
  | newLine {line behind : List Char} (newLine : NewLine line) : VerbatimPiece line ['\n'] behind

-- Pieces of a string on several lines. In front of each piece and at the end there may be one or two
-- quotes, which stand for themselves because three would close the string.
inductive Body (quote : Char) (Piece : List Char → List Char → List Char → Prop) :
    List Char → List Char → Prop where
  | last {count : Nat} (few : count ≤ 2) :
    Body quote Piece (List.replicate count quote) (List.replicate count quote)
  | piece {count : Nat} {raw part text content : List Char} (few : count ≤ 2)
    (first : Piece raw part text) (more : Body quote Piece text content) :
    Body quote Piece (List.replicate count quote ++ (raw ++ text))
      (List.replicate count quote ++ (part ++ content))

-- The end of a line right behind the opening quotes is not part of the string.
inductive Opening : List Char → List Char → Prop where
  | newLine {line text : List Char} (newLine : NewLine line) : Opening line text
  | none {text : List Char} (content : ∀ c ∈ text.head?, c ≠ '\n' ∧ c ≠ '\r') : Opening [] text

-- A string of any kind with its quotes.
inductive Quoted : List Char → List Char → Prop where
  | basic {raw content : List Char} (spelled : Spells raw content) :
    Quoted ('"' :: (raw ++ ['"'])) content
  | literal {content : List Char} (verbatim : Verbatim content) :
    Quoted ('\'' :: (content ++ ['\''])) content
  | longBasic {line text content : List Char} (opening : Opening line text)
    (body : Body '"' EscapedPiece text content) :
    Quoted ('"' :: '"' :: '"' :: (line ++ (text ++ ['"', '"', '"']))) content
  | longLiteral {line text content : List Char} (opening : Opening line text)
    (body : Body '\'' VerbatimPiece text content) :
    Quoted ('\'' :: '\'' :: '\'' :: (line ++ (text ++ ['\'', '\'', '\'']))) content

variable {c quote : Char} {n : Nat} {text raw part content rest gap line sign : List Char}

-- A run of characters of one class goes up to the first character of another.
theorem takeWhile_run {inClass : Char → Bool} (inside : ∀ c ∈ text, inClass c = true)
    (ends : ∀ c ∈ rest.head?, inClass c = false) : (text ++ rest).takeWhile inClass = text := by
  rw [List.takeWhile_append_of_pos inside]
  cases rest with
  | nil => exact List.append_nil text
  | cons c rest => simp [ends c rfl]

theorem dropWhile_run {inClass : Char → Bool} (inside : ∀ c ∈ text, inClass c = true)
    (ends : ∀ c ∈ rest.head?, inClass c = false) : (text ++ rest).dropWhile inClass = rest := by
  rw [List.dropWhile_append_of_pos inside]
  cases rest with
  | nil => rfl
  | cons c rest => simp [ends c rfl]

theorem lineFeed?_append (newLine : NewLine line) (rest : List Char) :
    lineFeed? (line ++ rest) = some rest := by
  cases newLine <;> rfl

theorem isPlain_of_lineEnd (lineEnd : c = '\n' ∨ c = '\r') : isPlain c = false := by
  rcases lineEnd with rfl | rfl <;> rfl

theorem isSpace_iff : isSpace c = true ↔ c = ' ' ∨ c = '\t' := by
  simp [isSpace]

theorem dropGaps_of_noGap (ends : NoGap rest) : dropGaps rest = rest := by
  cases rest with
  | nil => rfl
  | cons c rest =>
    obtain ⟨solid, noFeed, noReturn⟩ := ends c rfl
    rw [dropGaps.eq_def]
    split
    · rename_i same; cases same
    · rename_i same; exact absurd (List.cons.inj same).1 noFeed
    · rename_i same; exact absurd (List.cons.inj same).1 noReturn
    · rename_i same
      obtain ⟨rfl, rfl⟩ := List.cons.inj same
      rw [if_neg (by simp [solid])]

theorem dropGaps_append (gaps : Gaps gap) (ends : NoGap rest) : dropGaps (gap ++ rest) = rest := by
  induction gaps with
  | nil => exact dropGaps_of_noGap ends
  | space space _ ih =>
    rcases isSpace_iff.mp space with rfl | rfl
    · exact ih
    · exact ih
  | newLine newLine _ ih =>
    cases newLine with
    | short => exact ih
    | long => exact ih

theorem isSpace_of_lineEnd (lineEnd : c = '\n' ∨ c = '\r') : isSpace c = false := by
  rcases lineEnd with rfl | rfl <;> rfl

theorem NewLine.head? (newLine : NewLine line) (rest : List Char) :
    ∀ c ∈ (line ++ rest).head?, c = '\n' ∨ c = '\r' := by
  intro c ahead
  cases newLine with
  | short => cases ahead; exact .inl rfl
  | long => cases ahead; exact .inr rfl

theorem hidden?_append {more : List Char} (spaces : Spaces gap) (newLine : NewLine line)
    (gaps : Gaps more) (ends : NoGap rest) : hidden? (gap ++ (line ++ (more ++ rest))) = some rest := by
  have ahead : dropSpace (gap ++ (line ++ (more ++ rest))) = line ++ (more ++ rest) :=
    dropWhile_run spaces fun c first => isSpace_of_lineEnd (newLine.head? _ c first)
  rw [hidden?, ahead, lineFeed?_append newLine, Option.map_some, dropGaps_append gaps ends]

theorem Digits.values (digits : Digits text n) : ∃ values, text.mapM Text.hexDigit? = some values ∧
    values.length = text.length ∧ values.foldl (fun n digit => 16 * n + digit) 0 = n := by
  induction digits with
  | nil => exact ⟨[], rfl, rfl, rfl⟩
  | @snoc hex c n value _ last ih =>
    obtain ⟨values, read, same, number⟩ := ih
    refine ⟨values ++ [value], ?_, ?_, ?_⟩
    · simp [List.mapM_append, read, Text.hexDigit?_eq_some_iff.mpr last]
    · simp [same]
    · rw [List.foldl_append, number]
      rfl

theorem codePoint?_append (digits : Digits text c.toNat) (rest : List Char) :
    codePoint? text.length (text ++ rest) = some (c, rest) := by
  obtain ⟨values, read, same, number⟩ := digits.values
  have valid : c.toNat.isValidChar := c.valid
  simp [codePoint?, read, same, number, valid]

theorem escape?_append (escape : Escape sign c) (rest : List Char) :
    escape? (sign ++ rest) = some (c, rest) := by
  cases escape with
  | letter known => cases known <;> rfl
  | short code four =>
    have read := codePoint?_append code rest
    rwa [four] at read
  | long code eight =>
    have read := codePoint?_append code rest
    rwa [eight] at read

theorem hidden?_escape (escape : Escape sign c) (rest : List Char) :
    hidden? (sign ++ rest) = none := by
  cases escape with
  | letter known => cases known <;> rfl
  | short code four => rfl
  | long code eight => rfl

variable {read : List Char}

theorem basic?_quote (read rest : List Char) :
    basic? read ('"' :: rest) = some (String.ofList read.reverse, rest) := by
  rw [basic?]

theorem basic?_plain (itself : isPlain c = true) (noQuote : c ≠ '"') (noBackslash : c ≠ '\\')
    (read rest : List Char) : basic? read (c :: rest) = basic? (c :: read) rest := by
  rw [basic?.eq_def]
  split
  · rename_i same; cases same
  · rename_i same; exact absurd (List.cons.inj same).1 noQuote
  · rename_i same; exact absurd (List.cons.inj same).1 noBackslash
  · rename_i same
    obtain ⟨rfl, rfl⟩ := List.cons.inj same
    rw [if_pos itself]

theorem basic?_escape (escape : Escape sign c) (read rest : List Char) :
    basic? read ('\\' :: (sign ++ rest)) = basic? (c :: read) rest := by
  rw [basic?]
  split
  · rename_i found; rw [escape?_append escape] at found; cases found
  · rename_i found; rw [escape?_append escape] at found; cases found; rfl

theorem basic?_append (spelled : Spells raw content) (read rest : List Char) :
    basic? read (raw ++ '"' :: rest) = some (String.ofList (read.reverse ++ content), rest) := by
  induction spelled generalizing read with
  | nil => rw [List.nil_append, basic?_quote, List.append_nil]
  | plain itself noQuote noBackslash _ ih =>
    rw [List.cons_append, basic?_plain itself noQuote noBackslash, ih, List.reverse_cons,
      List.append_assoc, List.singleton_append]
  | escaped escape _ ih =>
    rw [List.cons_append, List.append_assoc, basic?_escape escape, ih, List.reverse_cons,
      List.append_assoc, List.singleton_append]

theorem literal?_append (verbatim : Verbatim content) (read rest : List Char) :
    literal? read (content ++ '\'' :: rest) =
      some (String.ofList (read.reverse ++ content), rest) := by
  induction content generalizing read with
  | nil => rw [List.nil_append, literal?, List.append_nil]
  | cons c content ih =>
    obtain ⟨⟨itself, noQuote⟩, more⟩ := List.forall_mem_cons.mp verbatim
    rw [List.cons_append, literal?, if_pos itself, ih more, List.reverse_cons, List.append_assoc,
      List.singleton_append]
    exact noQuote

-- What both readers of such strings do with quotes and with pieces. Text that follows a string does
-- not go on with its quote.
structure ReadsPieces (quote : Char) (Piece : List Char → List Char → List Char → Prop)
    (reader : List Char → List Char → Option (String × List Char)) : Prop where
  head : ∀ {raw part text}, Piece raw part text → ∃ c more, raw = c :: more ∧ c ≠ quote
  single : ∀ {text}, (∀ rest, text ≠ quote :: quote :: rest) → ∀ read,
    reader read (quote :: text) = reader (quote :: read) text
  piece : ∀ {raw part text}, Piece raw part text → ∀ read rest,
    reader read (raw ++ (text ++ quote :: rest)) = reader (part.reverse ++ read) (text ++ quote :: rest)
  close : ∀ read rest,
    reader read (quote :: quote :: quote :: rest) = closeLong? quote read rest

theorem closeLong?_append {count : Nat} (few : count ≤ 2) (ends : ∀ c ∈ rest.head?, c ≠ quote)
    (read : List Char) : closeLong? quote read (List.replicate count quote ++ rest) =
      some (String.ofList (read.reverse ++ List.replicate count quote), rest) := by
  have more : (List.replicate count quote ++ rest).takeWhile (· = quote) =
      List.replicate count quote :=
    takeWhile_run (by simp) fun c ahead => by simpa using ends c ahead
  simp [closeLong?, more, few]

theorem ReadsPieces.quotes {Piece : List Char → List Char → List Char → Prop}
    {reader : List Char → List Char → Option (String × List Char)}
    (reads : ReadsPieces quote Piece reader) {count : Nat} (few : count ≤ 2) (other : c ≠ quote)
    (read rest : List Char) : reader read (List.replicate count quote ++ c :: rest) =
      reader (List.replicate count quote ++ read) (c :: rest) := by
  have one (read : List Char) : reader read (quote :: c :: rest) = reader (quote :: read) (c :: rest) :=
    reads.single (fun tail same => other (List.cons.inj same).1) read
  match count, few with
  | 0, _ => rfl
  | 1, _ => exact one read
  | 2, _ =>
    have two : reader read (quote :: quote :: c :: rest) =
        reader (quote :: read) (quote :: c :: rest) :=
      reads.single (fun tail same => other (List.cons.inj (List.cons.inj same).2).1) read
    exact two.trans (one _)

theorem ReadsPieces.body_append {Piece : List Char → List Char → List Char → Prop}
    {reader : List Char → List Char → Option (String × List Char)}
    (reads : ReadsPieces quote Piece reader) (body : Body quote Piece text content)
    (ends : ∀ c ∈ rest.head?, c ≠ quote) (read : List Char) :
    reader read (text ++ quote :: quote :: quote :: rest) =
      some (String.ofList (read.reverse ++ content), rest) := by
  induction body generalizing read with
  | @last count few =>
    -- It makes no difference which of the quotes at the end are taken for the closing ones.
    have turned : List.replicate count quote ++ List.replicate 3 quote =
        List.replicate 3 quote ++ List.replicate count quote := by
      rw [List.replicate_append_replicate, List.replicate_append_replicate, Nat.add_comm]
    calc reader read (List.replicate count quote ++ quote :: quote :: quote :: rest)
      _ = reader read ((List.replicate count quote ++ List.replicate 3 quote) ++ rest) := by
        rw [List.append_assoc]
        rfl
      _ = reader read (quote :: quote :: quote :: (List.replicate count quote ++ rest)) := by
        rw [turned, List.append_assoc]
        rfl
      _ = some (String.ofList (read.reverse ++ List.replicate count quote), rest) := by
        rw [reads.close, closeLong?_append few ends]
  | @piece count raw part text content few first _ ih =>
    obtain ⟨c, more, rfl, other⟩ := reads.head first
    have quotes := reads.quotes few other read (more ++ (text ++ quote :: quote :: quote :: rest))
    have pieces := reads.piece first (List.replicate count quote ++ read) (quote :: quote :: rest)
    simp only [List.append_assoc, List.cons_append] at quotes pieces ⊢
    rw [quotes, pieces, ih]
    simp

theorem longBasic?_quote (lone : ∀ rest, text ≠ '"' :: '"' :: rest) (read : List Char) :
    longBasic? read ('"' :: text) = longBasic? ('"' :: read) text := by
  rw [longBasic?.eq_def]
  split
  · rename_i same; cases same
  · rename_i same; exact absurd (List.cons.inj same).2 (lone _)
  all_goals rename_i same; obtain ⟨first, rfl⟩ := List.cons.inj same
  · cases first
  · cases first
  · cases first
  · cases first; rfl

theorem longBasic?_plain (itself : isPlain c = true) (noQuote : c ≠ '"') (noBackslash : c ≠ '\\')
    (read rest : List Char) : longBasic? read (c :: rest) = longBasic? (c :: read) rest := by
  rw [longBasic?.eq_def]
  split
  · rename_i same; cases same
  all_goals rename_i same; obtain ⟨rfl, rfl⟩ := List.cons.inj same
  · exact absurd rfl noQuote
  · exact absurd rfl noBackslash
  · cases itself
  · cases itself
  · rw [if_pos itself]

theorem longBasic?_newLine (newLine : NewLine line) (read rest : List Char) :
    longBasic? read (line ++ rest) = longBasic? ('\n' :: read) rest := by
  cases newLine with
  | short => rw [List.singleton_append, longBasic?]
  | long => rw [List.cons_append, List.singleton_append, longBasic?]

theorem longBasic?_escape (escape : Escape sign c) (read rest : List Char) :
    longBasic? read ('\\' :: (sign ++ rest)) = longBasic? (c :: read) rest := by
  rw [longBasic?]
  split
  · rename_i found; rw [hidden?_escape escape] at found; cases found
  · split
    · rename_i found; rw [escape?_append escape] at found; cases found
    · rename_i found; rw [escape?_append escape] at found; cases found; rfl

theorem longBasic?_hidden {text : List Char} (hides : hidden? text = some rest) (read : List Char) :
    longBasic? read ('\\' :: text) = longBasic? read rest := by
  rw [longBasic?]
  split
  · rename_i found; rw [hides] at found; cases found; rfl
  · rename_i found; rw [hides] at found; cases found

theorem readsPieces_longBasic : ReadsPieces '"' EscapedPiece longBasic? where
  head := by
    intro raw part text piece
    cases piece with
    | plain itself noQuote noBackslash => exact ⟨_, [], rfl, noQuote⟩
    | newLine newLine => cases newLine <;> exact ⟨_, _, rfl, by decide⟩
    | escaped escape => exact ⟨'\\', _, rfl, by decide⟩
    | hidden spaces newLine gaps ends => exact ⟨'\\', _, rfl, by decide⟩
  single := longBasic?_quote
  piece := by
    intro raw part text piece read rest
    cases piece with
    | plain itself noQuote noBackslash => exact longBasic?_plain itself noQuote noBackslash read _
    | newLine newLine => exact longBasic?_newLine newLine read _
    | escaped escape => exact longBasic?_escape escape read _
    | hidden spaces newLine gaps ends =>
      have stops : NoGap (text ++ '"' :: rest) := by
        cases text with
        | nil => intro c ahead; cases ahead; decide
        | cons c text => exact ends
      rw [List.cons_append, List.append_assoc, List.append_assoc]
      exact longBasic?_hidden (hidden?_append spaces newLine gaps stops) read
  close := by
    intro read rest
    rw [longBasic?]

theorem longLiteral?_quote (lone : ∀ rest, text ≠ '\'' :: '\'' :: rest) (read : List Char) :
    longLiteral? read ('\'' :: text) = longLiteral? ('\'' :: read) text := by
  rw [longLiteral?.eq_def]
  split
  · rename_i same; cases same
  · rename_i same; exact absurd (List.cons.inj same).2 (lone _)
  all_goals rename_i same; obtain ⟨first, rfl⟩ := List.cons.inj same
  · cases first
  · cases first
  · cases first; rfl

theorem longLiteral?_plain (itself : isPlain c = true) (noQuote : c ≠ '\'')
    (read rest : List Char) : longLiteral? read (c :: rest) = longLiteral? (c :: read) rest := by
  rw [longLiteral?.eq_def]
  split
  · rename_i same; cases same
  all_goals rename_i same; obtain ⟨rfl, rfl⟩ := List.cons.inj same
  · exact absurd rfl noQuote
  · cases itself
  · cases itself
  · rw [if_pos itself]

theorem readsPieces_longLiteral : ReadsPieces '\'' VerbatimPiece longLiteral? where
  head := by
    intro raw part text piece
    cases piece with
    | plain itself noQuote => exact ⟨_, [], rfl, noQuote⟩
    | newLine newLine => cases newLine <;> exact ⟨_, _, rfl, by decide⟩
  single := longLiteral?_quote
  piece := by
    intro raw part text piece read rest
    cases piece with
    | plain itself noQuote => exact longLiteral?_plain itself noQuote read _
    | newLine newLine => cases newLine <;> rfl
  close := by
    intro read rest
    rw [longLiteral?]

-- Text that may follow a string.
def NoQuote (rest : List Char) : Prop := ∀ c ∈ rest.head?, c ≠ '"' ∧ c ≠ '\''

theorem lineFeed?_eq_none (ends : ∀ c ∈ text.head?, c ≠ '\n' ∧ c ≠ '\r') : lineFeed? text = none := by
  unfold lineFeed?
  split
  · exact absurd rfl (ends '\n' rfl).1
  · exact absurd rfl (ends '\r' rfl).2
  · rfl

theorem dropLineFeed_append (opening : Opening line text) (other : quote ≠ '\n' ∧ quote ≠ '\r')
    (rest : List Char) : dropLineFeed (line ++ (text ++ quote :: rest)) = text ++ quote :: rest := by
  cases opening with
  | newLine newLine => rw [dropLineFeed, lineFeed?_append newLine, Option.getD_some]
  | none content =>
    have ends : ∀ c ∈ (text ++ quote :: rest).head?, c ≠ '\n' ∧ c ≠ '\r' := by
      cases text with
      | nil => intro c ahead; cases ahead; exact other
      | cons c text => exact content
    rw [List.nil_append, dropLineFeed, lineFeed?_eq_none ends, Option.getD_none]

-- A single quote does not open a string on several lines.
theorem value?_basic (lone : ∀ rest, text ≠ '"' :: '"' :: rest) :
    value? ('"' :: text) = basic? [] text := by
  unfold value?
  split
  · rename_i same; exact absurd (List.cons.inj same).2 (lone _)
  · rename_i same; rw [(List.cons.inj same).2]
  · rename_i same; cases same
  · rename_i same; cases same
  · rename_i noQuote _ _; exact absurd rfl (noQuote text)

theorem value?_literal (lone : ∀ rest, text ≠ '\'' :: '\'' :: rest) :
    value? ('\'' :: text) = literal? [] text := by
  unfold value?
  split
  · rename_i same; cases same
  · rename_i same; cases same
  · rename_i same; exact absurd (List.cons.inj same).2 (lone _)
  · rename_i same; rw [(List.cons.inj same).2]
  · rename_i noQuote; exact absurd rfl (noQuote text)

theorem Spells.lone (spelled : Spells raw content) (ends : NoQuote rest) :
    ∀ tail, raw ++ '"' :: rest ≠ '"' :: '"' :: tail := by
  intro tail same
  cases spelled with
  | nil =>
    have next : rest = '"' :: tail := (List.cons.inj same).2
    exact (ends '"' (by rw [next]; rfl)).1 rfl
  | plain itself noQuote => exact noQuote (List.cons.inj same).1
  | escaped escape => exact absurd (List.cons.inj same).1 (by decide)

theorem Verbatim.lone (verbatim : Verbatim content) (ends : NoQuote rest) :
    ∀ tail, content ++ '\'' :: rest ≠ '\'' :: '\'' :: tail := by
  intro tail same
  cases content with
  | nil =>
    have next : rest = '\'' :: tail := (List.cons.inj same).2
    exact (ends '\'' (by rw [next]; rfl)).2 rfl
  | cons c content => exact (verbatim c List.mem_cons_self).2 (List.cons.inj same).1

theorem value?_append (quoted : Quoted text content) (ends : NoQuote rest) :
    value? (text ++ rest) = some (String.ofList content, rest) := by
  cases quoted with
  | basic spelled =>
    rw [List.cons_append, List.append_assoc, List.singleton_append, value?_basic (spelled.lone ends),
      basic?_append spelled, List.reverse_nil, List.nil_append]
  | literal verbatim =>
    rw [List.cons_append, List.append_assoc, List.singleton_append,
      value?_literal (verbatim.lone ends), literal?_append verbatim, List.reverse_nil,
      List.nil_append]
  | longBasic opening body =>
    have read := readsPieces_longBasic.body_append body (fun c ahead => (ends c ahead).1) []
    simp only [List.cons_append, List.append_assoc, List.nil_append, value?]
    rw [dropLineFeed_append opening (by decide), read, List.reverse_nil, List.nil_append]
  | longLiteral opening body =>
    have read := readsPieces_longLiteral.body_append body (fun c ahead => (ends c ahead).2) []
    simp only [List.cons_append, List.append_assoc, List.nil_append, value?]
    rw [dropLineFeed_append opening (by decide), read, List.reverse_nil, List.nil_append]

end Arbor.Settings.Toml
