import Arbor.Json.Text
import Arbor.Proofs.Text.Hex

-- Strings of JSON as a relation between the text inside the quotes and the characters that it
-- stands for, and the proof that `readText` reads exactly such texts. A string that is only passed
-- over may hold surrogates without their partners; `skipText` accepts exactly those.
namespace Arbor.Json

open Text (HexDigit hexDigit? hexDigit?_eq_some_iff)

-- Four hexadecimal digits and the code unit that they make.
inductive Code : List Char → Nat → Prop where
  | mk (first : HexDigit a i) (second : HexDigit b j) (third : HexDigit c k)
      (fourth : HexDigit d l) : Code [a, b, c, d] (i * 4096 + j * 256 + k * 16 + l)

-- What a backslash and a letter stand for.
inductive Letter : Char → Char → Prop where
  | quote : Letter '"' '"'
  | backslash : Letter '\\' '\\'
  | slash : Letter '/' '/'
  | backspace : Letter 'b' '\x08'
  | formFeed : Letter 'f' '\x0c'
  | lineFeed : Letter 'n' '\n'
  | carriageReturn : Letter 'r' '\r'
  | tab : Letter 't' '\t'

-- What follows a backslash, and the character that it stands for. A character has one code unit, or
-- beyond the first plane two, and a unit that belongs to a pair is never a character of its own.
inductive Escape : List Char → Char → Prop where
  | letter (known : Letter sign c) : Escape [sign] c
  | code (unit : Code hex c.toNat) : Escape ('u' :: hex) c
  | pair (wide : 0x10000 ≤ c.toNat) (leading : Code first (0xD800 + (c.toNat - 0x10000) / 0x400))
      (trailing : Code second (0xDC00 + (c.toNat - 0x10000) % 0x400)) :
      Escape ('u' :: (first ++ '\\' :: 'u' :: second)) c

-- A character that stands for itself.
def Plain (c : Char) : Prop := c ≠ '"' ∧ c ≠ '\\' ∧ 0x20 ≤ c.toNat

-- The text between two quotes, and the characters that it stands for.
inductive Spells : List Char → List Char → Prop where
  | nil : Spells [] []
  | plain (itself : Plain c) (more : Spells raw content) : Spells (c :: raw) (c :: content)
  | escaped (escape : Escape sign c) (more : Spells raw content) :
      Spells ('\\' :: (sign ++ raw)) (c :: content)

-- What may follow a backslash where nothing is made of it: any code unit will do.
inductive LooseEscape : List Char → Prop where
  | letter (known : Letter sign c) : LooseEscape [sign]
  | code (unit : Code hex n) : LooseEscape ('u' :: hex)

-- The text between two quotes where nothing is made of it.
inductive LooseText : List Char → Prop where
  | nil : LooseText []
  | plain (itself : Plain c) (more : LooseText raw) : LooseText (c :: raw)
  | escaped (escape : LooseEscape sign) (more : LooseText raw) : LooseText ('\\' :: (sign ++ raw))

variable {c : Char} {n : Nat} {text rest content : List Char} {read : String}

theorem Code.lt (code : Code text n) : n < 0x10000 := by
  cases code with
  | mk first second third fourth =>
    have := first.lt
    have := second.lt
    have := third.lt
    have := fourth.lt
    omega

theorem readUnit_append (code : Code text n) (rest : List Char) :
    readUnit (text ++ rest) = .ok (n, rest) := by
  cases code with
  | mk first second third fourth =>
    rw [← hexDigit?_eq_some_iff] at first second third fourth
    simp only [List.cons_append, List.nil_append, readUnit, first, second, third, fourth,
      Except.ok.injEq, Prod.mk.injEq, and_true]
    omega

theorem code_of_readUnit (found : readUnit text = .ok (n, rest)) :
    ∃ digits, Code digits n ∧ text = digits ++ rest := by
  unfold readUnit at found
  split at found
  · rename_i a b c d tail
    split at found
    · rename_i i j k l first second third fourth
      simp only [Except.ok.injEq, Prod.mk.injEq] at found
      obtain ⟨rfl, rfl⟩ := found
      rw [hexDigit?_eq_some_iff] at first second third fourth
      have weights : ((i * 16 + j) * 16 + k) * 16 + l = i * 4096 + j * 256 + k * 16 + l := by
        omega
      rw [weights]
      exact ⟨[a, b, c, d], .mk first second third fourth, rfl⟩
    · cases found
  · split at found <;> cases found

theorem unescape?_eq_some_iff {sign : Char} : unescape? sign = some c ↔ Letter sign c := by
  constructor
  · intro found
    grind [unescape?, Letter]
  · intro known
    cases known <;> rfl

theorem Letter.ne_u {sign : Char} (known : Letter sign c) : sign ≠ 'u' := by
  rintro rfl
  cases known

-- No character is a surrogate.
theorem toNat_bounds (c : Char) : c.toNat < 0xD800 ∨ 0xDFFF < c.toNat ∧ c.toNat < 0x110000 :=
  c.valid

theorem toNat_ofNat (valid : n < 0xD800 ∨ 0xDFFF < n ∧ n < 0x110000) :
    (Char.ofNat n).toNat = n := by
  rw [Char.ofNat, dif_pos valid]
  rfl

theorem isLeading_iff : isLeading n = true ↔ 0xD800 ≤ n ∧ n ≤ 0xDBFF := by simp [isLeading]

theorem isTrailing_iff : isTrailing n = true ↔ 0xDC00 ≤ n ∧ n ≤ 0xDFFF := by simp [isTrailing]

-- The halves of a pair and the character that they make determine each other.
theorem eq_paired_iff {leading trailing : Nat} (high : isLeading leading = true)
    (low : isTrailing trailing = true) :
    c = paired leading trailing ↔ 0x10000 ≤ c.toNat ∧
      leading = 0xD800 + (c.toNat - 0x10000) / 0x400 ∧
      trailing = 0xDC00 + (c.toNat - 0x10000) % 0x400 := by
  rw [isLeading_iff] at high
  rw [isTrailing_iff] at low
  constructor
  · intro made
    rw [made, paired, toNat_ofNat (by omega)]
    omega
  · rintro ⟨wide, first, second⟩
    have whole : 0x10000 + (leading - 0xD800) * 0x400 + (trailing - 0xDC00) = c.toNat := by omega
    rw [paired, whole, Char.ofNat_toNat]

theorem readTrailing_append (leading : Nat) {unit : Nat} (code : Code text unit)
    (low : isTrailing unit = true) (rest : List Char) :
    readTrailing leading ('\\' :: 'u' :: (text ++ rest)) = .ok (paired leading unit, rest) := by
  simp only [readTrailing, readUnit_append code rest, low, if_true]

theorem code_of_readTrailing {leading : Nat} (found : readTrailing leading text = .ok (c, rest)) :
    ∃ digits unit, Code digits unit ∧ isTrailing unit = true ∧ c = paired leading unit ∧
      text = '\\' :: 'u' :: (digits ++ rest) := by
  unfold readTrailing at found
  split at found
  · cases found
  · cases found
  · split at found
    · cases found
    · rename_i unit behind read
      obtain ⟨digits, code, rfl⟩ := code_of_readUnit read
      split at found
      · rename_i low
        simp only [Except.ok.injEq, Prod.mk.injEq] at found
        obtain ⟨made, rfl⟩ := found
        exact ⟨digits, unit, code, low, made.symm, rfl⟩
      · cases found
  · cases found
  · cases found

theorem readEscape_append (escape : Escape text c) (rest : List Char) :
    readEscape (text ++ rest) = .ok (c, rest) := by
  have bounds := toNat_bounds c
  cases escape with
  | letter known =>
    have other := known.ne_u
    simp [readEscape, unescape?_eq_some_iff.mpr known]
  | code unit =>
    have notLow : ¬ isTrailing c.toNat = true := by rw [isTrailing_iff]; omega
    have notHigh : ¬ isLeading c.toNat = true := by rw [isLeading_iff]; omega
    simp only [List.cons_append, readEscape, readUnit_append unit rest, notLow, notHigh,
      Bool.false_eq_true, if_false, Char.ofNat_toNat]
  | pair wide leading trailing =>
    have high : isLeading (0xD800 + (c.toNat - 0x10000) / 0x400) = true := by
      rw [isLeading_iff]; omega
    have notLow : ¬ isTrailing (0xD800 + (c.toNat - 0x10000) / 0x400) = true := by
      rw [isTrailing_iff]; omega
    have low : isTrailing (0xDC00 + (c.toNat - 0x10000) % 0x400) = true := by
      rw [isTrailing_iff]; omega
    have made := (eq_paired_iff high low).mpr ⟨wide, rfl, rfl⟩
    simp only [List.cons_append, List.append_assoc, readEscape, readUnit_append leading, notLow,
      high, Bool.false_eq_true, if_false, if_true, readTrailing_append _ trailing low, ← made]

theorem escape_of_readEscape (found : readEscape text = .ok (c, rest)) :
    ∃ sign, Escape sign c ∧ text = sign ++ rest := by
  unfold readEscape at found
  split at found
  · cases found
  · split at found
    · cases found
    · rename_i unit behind read
      obtain ⟨digits, code, rfl⟩ := code_of_readUnit read
      split at found
      · cases found
      · rename_i notLow
        split at found
        · rename_i high
          obtain ⟨second, other, partner, low, made, rfl⟩ := code_of_readTrailing found
          obtain ⟨wide, first, rest⟩ := (eq_paired_iff high low).mp made
          rw [first] at code
          rw [rest] at partner
          exact ⟨_, .pair wide code partner, by simp⟩
        · rename_i notHigh
          have bound := code.lt
          rw [isTrailing_iff] at notLow
          rw [isLeading_iff] at notHigh
          simp only [Except.ok.injEq, Prod.mk.injEq] at found
          obtain ⟨same, rfl⟩ := found
          have number : c.toNat = unit := by rw [← same, toNat_ofNat (by omega)]
          rw [← number] at code
          exact ⟨_, .code code, rfl⟩
  · rename_i sign tail _
    split at found
    · rename_i plain known
      simp only [Except.ok.injEq, Prod.mk.injEq] at found
      obtain ⟨rfl, rfl⟩ := found
      exact ⟨[sign], .letter (unescape?_eq_some_iff.mp known), rfl⟩
    · cases found

theorem skipEscape_append (escape : LooseEscape text) (rest : List Char) :
    skipEscape (text ++ rest) = .ok rest := by
  cases escape with
  | letter known =>
    have other := known.ne_u
    simp [skipEscape, unescape?_eq_some_iff.mpr known]
  | code unit => simp only [List.cons_append, skipEscape, readUnit_append unit rest]

theorem escape_of_skipEscape (found : skipEscape text = .ok rest) :
    ∃ sign, LooseEscape sign ∧ text = sign ++ rest := by
  unfold skipEscape at found
  split at found
  · cases found
  · split at found
    · cases found
    · rename_i unit behind read
      obtain ⟨digits, code, rfl⟩ := code_of_readUnit read
      cases found
      exact ⟨_, .code code, rfl⟩
  · rename_i sign tail _
    split at found
    · rename_i plain known
      cases found
      exact ⟨[sign], .letter (unescape?_eq_some_iff.mp known), rfl⟩
    · cases found

theorem isControl_eq_false (itself : Plain c) : isControl c = false := by
  simpa [isControl] using itself.2.2

theorem plain_of_not_isControl (quote : c ≠ '"') (backslash : c ≠ '\\')
    (printed : ¬ isControl c = true) : Plain c :=
  ⟨quote, backslash, by simpa [isControl] using printed⟩

theorem readText_plain (itself : Plain c) (done rest : List Char) :
    readText done (c :: rest) = readText (c :: done) rest := by
  rw [readText]
  · simp [isControl_eq_false itself]
  · exact itself.1
  · exact itself.2.1

theorem readText_escape {tail : List Char} (found : readEscape rest = .ok (c, tail))
    (done : List Char) : readText done ('\\' :: rest) = readText (c :: done) tail := by
  rw [readText]
  split
  · rename_i failed
    rw [found] at failed
    cases failed
  · rename_i same
    rw [found] at same
    cases same
    rfl

theorem readText_append (spelled : Spells text content) (done rest : List Char) :
    readText done (text ++ '"' :: rest) = .ok (String.ofList (done.reverse ++ content), rest) := by
  induction spelled generalizing done with
  | nil => simp [readText]
  | plain itself _ ih =>
    rw [List.cons_append, readText_plain itself, ih]
    simp
  | escaped escape _ ih =>
    rw [List.cons_append, List.append_assoc, readText_escape (readEscape_append escape _), ih]
    simp

theorem spells_of_readText {done : List Char} (found : readText done text = .ok (read, rest)) :
    ∃ raw content, Spells raw content ∧ text = raw ++ '"' :: rest ∧
      read = String.ofList (done.reverse ++ content) := by
  fun_induction readText done text with
  | case1 => cases found
  | case2 =>
    cases found
    exact ⟨[], [], .nil, by simp, by simp⟩
  | case3 => cases found
  | case4 done tail c behind escape _ ih =>
    obtain ⟨raw, content, spelled, rfl, same⟩ := ih found
    obtain ⟨sign, meant, rfl⟩ := escape_of_readEscape escape
    exact ⟨_, _, .escaped meant spelled, by simp, by simpa using same⟩
  | case5 => cases found
  | case6 done c tail quote backslash printed ih =>
    obtain ⟨raw, content, spelled, rfl, same⟩ := ih found
    have itself := plain_of_not_isControl quote backslash printed
    exact ⟨_, _, .plain itself spelled, by simp, by simpa using same⟩

theorem skipText_plain (itself : Plain c) (rest : List Char) :
    skipText (c :: rest) = skipText rest := by
  rw [skipText]
  · simp [isControl_eq_false itself]
  · exact itself.1
  · exact itself.2.1

theorem skipText_escape {tail : List Char} (found : skipEscape rest = .ok tail) :
    skipText ('\\' :: rest) = skipText tail := by
  rw [skipText]
  split
  · rename_i failed
    rw [found] at failed
    cases failed
  · rename_i same
    rw [found] at same
    cases same
    rfl

theorem skipText_append (loose : LooseText text) (rest : List Char) :
    skipText (text ++ '"' :: rest) = .ok rest := by
  induction loose with
  | nil => simp [skipText]
  | plain itself _ ih => rw [List.cons_append, skipText_plain itself, ih]
  | escaped escape _ ih =>
    rw [List.cons_append, List.append_assoc, skipText_escape (skipEscape_append escape _), ih]

theorem loose_of_skipText (found : skipText text = .ok rest) :
    ∃ raw, LooseText raw ∧ text = raw ++ '"' :: rest := by
  fun_induction skipText text with
  | case1 => cases found
  | case2 =>
    cases found
    exact ⟨[], .nil, rfl⟩
  | case3 => cases found
  | case4 tail behind escape _ ih =>
    obtain ⟨raw, loose, rfl⟩ := ih found
    obtain ⟨sign, meant, rfl⟩ := escape_of_skipEscape escape
    exact ⟨_, .escaped meant loose, by simp⟩
  | case5 => cases found
  | case6 c tail quote backslash printed ih =>
    obtain ⟨raw, loose, rfl⟩ := ih found
    exact ⟨_, .plain (plain_of_not_isControl quote backslash printed) loose, rfl⟩

end Arbor.Json
