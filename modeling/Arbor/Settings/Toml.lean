import Arbor.Text.Basic

-- Statements of a settings file in TOML, as far as settings need it: lines that are blank, hold a
-- comment, or give a string to a key. Everything else is refused.
namespace Arbor.Settings.Toml

open Text (hexDigit?)

def isSpace (c : Char) : Bool := c = ' ' || c = '\t'

def dropSpace (text : List Char) : List Char := text.dropWhile isSpace

def isPlain (c : Char) : Bool := c = '\t' || 0x20 ≤ c.toNat && c.toNat != 0x7f

def lineFeed? : List Char → Option (List Char)
  | '\n' :: rest => some rest
  | '\r' :: '\n' :: rest => some rest
  | _ => none

theorem lineFeed?_lt {text rest : List Char} (read : lineFeed? text = some rest) :
    rest.length < text.length := by
  unfold lineFeed? at read
  split at read
  · cases read; exact Nat.lt_succ_self _
  · cases read; simp only [List.length_cons]; omega
  · cases read

def dropComment : List Char → List Char
  | '#' :: rest => rest.dropWhile isPlain
  | text => text

def endLine? (text : List Char) : Option (List Char) :=
  match dropComment (dropSpace text) with
  | [] => some []
  | behind => lineFeed? behind

theorem dropSpace_length_le (text : List Char) : (dropSpace text).length ≤ text.length :=
  (List.dropWhile_suffix isSpace).length_le

theorem dropComment_length_le (text : List Char) : (dropComment text).length ≤ text.length := by
  unfold dropComment
  split
  · exact Nat.le_succ_of_le (List.dropWhile_suffix isPlain).length_le
  · exact Nat.le_refl _

theorem endLine?_le {text rest : List Char} (read : endLine? text = some rest) :
    rest.length ≤ text.length := by
  have := dropSpace_length_le text
  have := dropComment_length_le (dropSpace text)
  unfold endLine? at read
  split at read
  · cases read; exact Nat.zero_le _
  · have := lineFeed?_lt read
    omega

theorem endLine?_lt {c : Char} {text rest : List Char} (read : endLine? (c :: text) = some rest) :
    rest.length < (c :: text).length := by
  have := dropSpace_length_le (c :: text)
  have := dropComment_length_le (dropSpace (c :: text))
  unfold endLine? at read
  split at read
  · cases read; exact Nat.succ_pos _
  · have := lineFeed?_lt read
    omega

def codePoint? (count : Nat) (text : List Char) : Option (Char × List Char) := do
  let digits ← (text.take count).mapM hexDigit?
  let code := digits.foldl (fun n digit => 16 * n + digit) 0
  if digits.length = count && code.isValidChar then some (Char.ofNat code, text.drop count) else none

def unescape? (c : Char) : Option Char :=
  if c = 'b' then some '\x08'
  else if c = 't' then some '\t'
  else if c = 'n' then some '\n'
  else if c = 'f' then some '\x0c'
  else if c = 'r' then some '\r'
  else if c = '"' then some '"'
  else if c = '\\' then some '\\'
  else none

def escape? : List Char → Option (Char × List Char)
  | 'u' :: rest => codePoint? 4 rest
  | 'U' :: rest => codePoint? 8 rest
  | c :: rest => (unescape? c).map (·, rest)
  | [] => none

theorem codePoint?_le {count : Nat} {text rest : List Char} {c : Char}
    (read : codePoint? count text = some (c, rest)) : rest.length ≤ text.length := by
  simp only [codePoint?, Option.bind_eq_bind, Option.bind_eq_some_iff] at read
  obtain ⟨digits, _, read⟩ := read
  split at read
  · simp only [Option.some.injEq, Prod.mk.injEq] at read
    rw [← read.2, List.length_drop]
    exact Nat.sub_le _ _
  · cases read

theorem escape?_lt {text rest : List Char} {c : Char} (read : escape? text = some (c, rest)) :
    rest.length < text.length := by
  unfold escape? at read
  split at read
  · exact Nat.lt_succ_of_le (codePoint?_le read)
  · exact Nat.lt_succ_of_le (codePoint?_le read)
  · simp only [Option.map_eq_some_iff, Prod.mk.injEq] at read
    obtain ⟨_, _, _, rfl⟩ := read
    exact Nat.lt_succ_self _
  · cases read

-- `content` is what has been read of the string, last character first.
def basic? (content text : List Char) : Option (String × List Char) :=
  match text with
  | [] => none
  | '"' :: rest => some (String.ofList content.reverse, rest)
  | '\\' :: rest =>
    match found : escape? rest with
    | none => none
    | some (c, rest) =>
      have := escape?_lt found
      basic? (c :: content) rest
  | c :: rest => if isPlain c then basic? (c :: content) rest else none
termination_by text.length

theorem basic?_le {content text rest : List Char} {read : String}
    (found : basic? content text = some (read, rest)) : rest.length ≤ text.length := by
  fun_induction basic? content text with
  | case1 => cases found
  | case2 => cases found; exact Nat.le_succ _
  | case3 => cases found
  | case4 content tail c behind escape _ ih =>
    have := ih found
    have := escape?_lt escape
    simp only [List.length_cons]
    omega
  | case5 content c tail _ _ _ ih => exact Nat.le_succ_of_le (ih found)
  | case6 => cases found

def literal? (content : List Char) : List Char → Option (String × List Char)
  | [] => none
  | '\'' :: rest => some (String.ofList content.reverse, rest)
  | c :: rest => if isPlain c then literal? (c :: content) rest else none

theorem literal?_le {content text rest : List Char} {read : String}
    (found : literal? content text = some (read, rest)) : rest.length ≤ text.length := by
  fun_induction literal? content text with
  | case1 => cases found
  | case2 => cases found; exact Nat.le_succ _
  | case3 content c tail _ _ ih => exact Nat.le_succ_of_le (ih found)
  | case4 => cases found

-- Behind the three closing quotes up to two more belong to the string.
def closeLong? (quote : Char) (content rest : List Char) : Option (String × List Char) :=
  let more := rest.takeWhile (· = quote)
  if more.length ≤ 2 then some (String.ofList (content.reverse ++ more), rest.drop more.length)
  else none

theorem closeLong?_le {quote : Char} {content text rest : List Char} {read : String}
    (found : closeLong? quote content text = some (read, rest)) : rest.length ≤ text.length := by
  simp only [closeLong?] at found
  split at found
  · simp only [Option.some.injEq, Prod.mk.injEq] at found
    rw [← found.2, List.length_drop]
    exact Nat.sub_le _ _
  · cases found

def dropGaps : List Char → List Char
  | [] => []
  | '\n' :: rest => dropGaps rest
  | '\r' :: '\n' :: rest => dropGaps rest
  | c :: rest => if isSpace c then dropGaps rest else c :: rest

theorem dropGaps_length_le (text : List Char) : (dropGaps text).length ≤ text.length := by
  fun_induction dropGaps text with
  | case1 => exact Nat.le_refl _
  | case2 rest ih => exact Nat.le_succ_of_le ih
  | case3 rest ih => exact Nat.le_succ_of_le (Nat.le_succ_of_le ih)
  | case4 c rest _ _ _ ih => exact Nat.le_succ_of_le ih
  | case5 => exact Nat.le_refl _

-- A backslash at the end of a line hides all gaps behind it.
def hidden? (text : List Char) : Option (List Char) := (lineFeed? (dropSpace text)).map dropGaps

theorem hidden?_lt {text rest : List Char} (found : hidden? text = some rest) :
    rest.length < text.length := by
  simp only [hidden?, Option.map_eq_some_iff] at found
  obtain ⟨behind, read, rfl⟩ := found
  have := lineFeed?_lt read
  have := dropSpace_length_le text
  have := dropGaps_length_le behind
  omega

def longBasic? (content text : List Char) : Option (String × List Char) :=
  match text with
  | [] => none
  | '"' :: '"' :: '"' :: rest => closeLong? '"' content rest
  | '\\' :: rest =>
    match escaped : hidden? rest with
    | some rest =>
      have := hidden?_lt escaped
      longBasic? content rest
    | none =>
      match found : escape? rest with
      | none => none
      | some (c, rest) =>
        have := escape?_lt found
        longBasic? (c :: content) rest
  | '\n' :: rest => longBasic? ('\n' :: content) rest
  | '\r' :: '\n' :: rest => longBasic? ('\n' :: content) rest
  | c :: rest => if isPlain c then longBasic? (c :: content) rest else none
termination_by text.length

theorem longBasic?_le {content text rest : List Char} {read : String}
    (found : longBasic? content text = some (read, rest)) : rest.length ≤ text.length := by
  fun_induction longBasic? content text with
  | case1 => cases found
  | case2 content tail => have := closeLong?_le found; simp only [List.length_cons]; omega
  | case3 content tail behind escaped _ ih =>
    have := ih found
    have := hidden?_lt escaped
    simp only [List.length_cons]
    omega
  | case4 => cases found
  | case5 content tail _ c behind escape _ ih =>
    have := ih found
    have := escape?_lt escape
    simp only [List.length_cons]
    omega
  | case6 content tail ih => exact Nat.le_succ_of_le (ih found)
  | case7 content tail ih => exact Nat.le_succ_of_le (Nat.le_succ_of_le (ih found))
  | case8 => rename_i ih; exact Nat.le_succ_of_le (ih found)
  | case9 => cases found

def longLiteral? (content : List Char) : List Char → Option (String × List Char)
  | [] => none
  | '\'' :: '\'' :: '\'' :: rest => closeLong? '\'' content rest
  | '\n' :: rest => longLiteral? ('\n' :: content) rest
  | '\r' :: '\n' :: rest => longLiteral? ('\n' :: content) rest
  | c :: rest => if isPlain c then longLiteral? (c :: content) rest else none

theorem longLiteral?_le {content text rest : List Char} {read : String}
    (found : longLiteral? content text = some (read, rest)) : rest.length ≤ text.length := by
  fun_induction longLiteral? content text with
  | case1 => cases found
  | case2 content tail => have := closeLong?_le found; simp only [List.length_cons]; omega
  | case3 content tail ih => exact Nat.le_succ_of_le (ih found)
  | case4 content tail ih => exact Nat.le_succ_of_le (Nat.le_succ_of_le (ih found))
  | case5 => rename_i ih; exact Nat.le_succ_of_le (ih found)
  | case6 => cases found

-- A line feed right behind the opening quotes does not belong to the string.
def dropLineFeed (text : List Char) : List Char := (lineFeed? text).getD text

theorem dropLineFeed_length_le (text : List Char) : (dropLineFeed text).length ≤ text.length := by
  unfold dropLineFeed
  cases found : lineFeed? text with
  | none => exact Nat.le_refl _
  | some rest => exact Nat.le_of_lt (lineFeed?_lt found)

def value? : List Char → Option (String × List Char)
  | '"' :: '"' :: '"' :: rest => longBasic? [] (dropLineFeed rest)
  | '"' :: rest => basic? [] rest
  | '\'' :: '\'' :: '\'' :: rest => longLiteral? [] (dropLineFeed rest)
  | '\'' :: rest => literal? [] rest
  | _ => none

theorem value?_le {text rest : List Char} {read : String} (found : value? text = some (read, rest)) :
    rest.length ≤ text.length := by
  unfold value? at found
  split at found
  · rename_i tail
    have := longBasic?_le found
    have := dropLineFeed_length_le tail
    simp only [List.length_cons]
    omega
  · exact Nat.le_succ_of_le (basic?_le found)
  · rename_i tail
    have := longLiteral?_le found
    have := dropLineFeed_length_le tail
    simp only [List.length_cons]
    omega
  · exact Nat.le_succ_of_le (literal?_le found)
  · cases found

def isBare (c : Char) : Bool := c.isAlphanum || c = '_' || c = '-'

def key? (text : List Char) : Option (String × List Char) :=
  match text with
  | '"' :: rest => basic? [] rest
  | '\'' :: rest => literal? [] rest
  | _ =>
    if text.takeWhile isBare = [] then none
    else some (String.ofList (text.takeWhile isBare), text.dropWhile isBare)

theorem key?_le {text rest : List Char} {read : String} (found : key? text = some (read, rest)) :
    rest.length ≤ text.length := by
  unfold key? at found
  split at found
  · exact Nat.le_succ_of_le (basic?_le found)
  · exact Nat.le_succ_of_le (literal?_le found)
  · split at found <;> cases found
    exact (List.dropWhile_suffix isBare).length_le

def equals? (text : List Char) : Option (List Char) :=
  match dropSpace text with
  | '=' :: rest => some (dropSpace rest)
  | _ => none

theorem equals?_lt {text rest : List Char} (found : equals? text = some rest) :
    rest.length < text.length := by
  have shorter := dropSpace_length_le text
  unfold equals? at found
  split at found
  · rename_i tail ahead
    rw [ahead, List.length_cons] at shorter
    cases found
    exact Nat.lt_of_le_of_lt (dropSpace_length_le tail) shorter
  · cases found

def statement? (text : List Char) : Option ((String × String) × List Char) :=
  match key? text with
  | none => none
  | some (key, rest) =>
    match equals? rest with
    | none => none
    | some rest =>
      match value? rest with
      | none => none
      | some (value, rest) => (endLine? rest).map ((key, value), ·)

theorem statement?_lt {text rest : List Char} {pair : String × String}
    (found : statement? text = some (pair, rest)) : rest.length < text.length := by
  unfold statement? at found
  split at found
  · cases found
  · rename_i key
    have := key?_le key
    split at found
    · cases found
    · rename_i equals
      have := equals?_lt equals
      split at found
      · cases found
      · rename_i value
        have := value?_le value
        simp only [Option.map_eq_some_iff, Prod.mk.injEq] at found
        obtain ⟨behind, ended, _, rfl⟩ := found
        have := endLine?_le ended
        omega

-- `done` holds the pairs that have been met, last first.
def pairsFrom? (done : List (String × String)) (text : List Char) : Option (List (String × String)) :=
  match ahead : dropSpace text with
  | [] => some done.reverse
  | c :: rest =>
    have shorter : (c :: rest).length ≤ text.length := ahead ▸ dropSpace_length_le text
    if c = '#' || c = '\n' || c = '\r' then
      match found : endLine? (c :: rest) with
      | none => none
      | some behind =>
        have : behind.length < text.length := Nat.lt_of_lt_of_le (endLine?_lt found) shorter
        pairsFrom? done behind
    else
      match found : statement? (c :: rest) with
      | none => none
      | some (pair, behind) =>
        have : behind.length < text.length := Nat.lt_of_lt_of_le (statement?_lt found) shorter
        pairsFrom? (pair :: done) behind
termination_by text.length

def dropMark : List Char → List Char
  | '\uFEFF' :: rest => rest
  | text => text

def pairs? (text : String) : Option (List (String × String)) := pairsFrom? [] (dropMark text.toList)

end Arbor.Settings.Toml
