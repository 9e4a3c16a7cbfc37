import Arbor.Text.Lossy

-- Bytes that encode a text are shown as that text: nothing in them is replaced.
namespace Arbor.Text

variable {done : List Char} {rest : List UInt8} {bits more n : Nat} {low high byte : UInt8}

theorem toNat_byte (small : n < 256) : (UInt8.ofNat n).toNat = n := UInt8.toNat_ofNat_of_lt' small

-- The ranges of the second byte keep out what could be encoded with fewer bytes, surrogates, and what
-- is no code point.
theorem lead?_two (least : 0xc2 ≤ n) (most : n ≤ 0xdf) :
    lead? (.ofNat n) = some ⟨n % 0x20, 0x80, 0xbf, 0⟩ := by
  have number := toNat_byte (show n < 256 by omega)
  simp only [lead?, UInt8.le_iff_toNat_le, number]
  simp [least, most]

theorem lead?_three (least : 0xe0 ≤ n) (most : n ≤ 0xef) :
    lead? (.ofNat n) = some ⟨n % 0x10, .ofNat (if n = 0xe0 then 0xa0 else 0x80),
      .ofNat (if n = 0xed then 0x9f else 0xbf), 1⟩ := by
  have number := toNat_byte (show n < 256 by omega)
  have late : ¬ n ≤ 0xdf := by omega
  simp only [lead?, UInt8.le_iff_toNat_le, ← UInt8.toNat_inj, number]
  by_cases first : n = 0xe0
  · subst first; rfl
  by_cases surrogates : n = 0xed
  · subst surrogates; rfl
  have least : 0xe1 ≤ n := by omega
  simp [first, surrogates, late, least, most]

theorem lead?_four (least : 0xf0 ≤ n) (most : n ≤ 0xf4) :
    lead? (.ofNat n) = some ⟨n % 0x08, .ofNat (if n = 0xf0 then 0x90 else 0x80),
      .ofNat (if n = 0xf4 then 0x8f else 0xbf), 2⟩ := by
  obtain rfl | rfl | rfl | rfl | rfl : n = 0xf0 ∨ n = 0xf1 ∨ n = 0xf2 ∨ n = 0xf3 ∨ n = 0xf4 := by
    omega
  all_goals rfl

theorem decodeFrom_ascii (small : n ≤ 0x7f) :
    decodeFrom done .first (.ofNat n :: rest) = decodeFrom (Char.ofNat n :: done) .first rest := by
  have number := toNat_byte (show n < 256 by omega)
  have single : UInt8.ofNat n < 0x80 := by
    rw [UInt8.lt_iff_toNat_lt, number]
    exact Nat.lt_succ_of_le small
  simp [decodeFrom, firstByte, single, number]

theorem decodeFrom_lead (least : 0x80 ≤ n) (bounded : n < 256)
    (leads : lead? (.ofNat n) = some ⟨bits, low, high, more⟩) :
    decodeFrom done .first (.ofNat n :: rest) = decodeFrom done (.next bits low high more) rest := by
  have long : ¬ UInt8.ofNat n < 0x80 := by
    rw [UInt8.lt_iff_toNat_lt, toNat_byte bounded]
    exact Nat.not_lt.mpr least
  simp [decodeFrom, firstByte, long, leads]

theorem decodeFrom_last (inside : low ≤ byte ∧ byte ≤ high) :
    decodeFrom done (.next bits low high 0) (byte :: rest) =
      decodeFrom (Char.ofNat (bits * 64 + byte.toNat % 64) :: done) .first rest := by
  simp [decodeFrom, inside]

theorem decodeFrom_more (inside : low ≤ byte ∧ byte ≤ high) :
    decodeFrom done (.next bits low high (more + 1)) (byte :: rest) =
      decodeFrom done (.next (bits * 64 + byte.toNat % 64) 0x80 0xbf more) rest := by
  simp [decodeFrom, inside]

-- A continuing byte holds six bits.
theorem toNat_continuing (n : Nat) : (UInt8.ofNat (n % 64 + 128)).toNat = n % 64 + 128 :=
  toNat_byte (by omega)

theorem bits_continuing (n : Nat) : (UInt8.ofNat (n % 64 + 128)).toNat % 64 = n % 64 := by
  rw [toNat_continuing]
  omega

theorem continuing_inside {least most : Nat} (lower : least ≤ n % 64 + 128)
    (upper : n % 64 + 128 ≤ most) (bounded : most < 256) :
    .ofNat least ≤ UInt8.ofNat (n % 64 + 128) ∧ UInt8.ofNat (n % 64 + 128) ≤ .ofNat most := by
  rw [UInt8.le_iff_toNat_le, UInt8.le_iff_toNat_le, toNat_continuing, toNat_byte bounded,
    toNat_byte (by omega)]
  exact ⟨lower, upper⟩

theorem continuing_plain (n : Nat) :
    0x80 ≤ UInt8.ofNat (n % 64 + 128) ∧ UInt8.ofNat (n % 64 + 128) ≤ 0xbf :=
  @continuing_inside n 0x80 0xbf (Nat.le_add_left _ _) (by omega) (by decide)

theorem decodeFrom_two (least : 0x80 ≤ n) (most : n ≤ 0x7ff) :
    decodeFrom done .first (.ofNat (n / 64 % 32 + 192) :: .ofNat (n % 64 + 128) :: rest) =
      decodeFrom (Char.ofNat n :: done) .first rest := by
  have leads := lead?_two (show 0xc2 ≤ n / 64 % 32 + 192 by omega) (by omega)
  rw [decodeFrom_lead (by omega) (by omega) leads, decodeFrom_last (continuing_plain n),
    bits_continuing]
  congr
  omega

theorem decodeFrom_three (least : 0x800 ≤ n) (most : n ≤ 0xffff)
    (valid : n < 0xd800 ∨ 0xdfff < n) :
    decodeFrom done .first (.ofNat (n / 4096 % 16 + 224) :: .ofNat (n / 64 % 64 + 128) ::
      .ofNat (n % 64 + 128) :: rest) = decodeFrom (Char.ofNat n :: done) .first rest := by
  have leads := lead?_three (show 0xe0 ≤ n / 4096 % 16 + 224 by omega) (by omega)
  have second := @continuing_inside (n / 64) (if n / 4096 % 16 + 224 = 0xe0 then 0xa0 else 0x80)
    (if n / 4096 % 16 + 224 = 0xed then 0x9f else 0xbf) (by split <;> omega) (by split <;> omega)
    (by split <;> decide)
  rw [decodeFrom_lead (by omega) (by omega) leads, decodeFrom_more second,
    decodeFrom_last (continuing_plain n), bits_continuing, bits_continuing]
  congr
  omega

theorem decodeFrom_four (least : 0x10000 ≤ n) (most : n < 0x110000) :
    decodeFrom done .first (.ofNat (n / 262144 % 8 + 240) :: .ofNat (n / 4096 % 64 + 128) ::
      .ofNat (n / 64 % 64 + 128) :: .ofNat (n % 64 + 128) :: rest) =
      decodeFrom (Char.ofNat n :: done) .first rest := by
  have leads := lead?_four (show 0xf0 ≤ n / 262144 % 8 + 240 by omega) (by omega)
  have second := @continuing_inside (n / 4096) (if n / 262144 % 8 + 240 = 0xf0 then 0x90 else 0x80)
    (if n / 262144 % 8 + 240 = 0xf4 then 0x8f else 0xbf) (by split <;> omega) (by split <;> omega)
    (by split <;> decide)
  rw [decodeFrom_lead (by omega) (by omega) leads, decodeFrom_more second,
    decodeFrom_more (continuing_plain (n / 64)), decodeFrom_last (continuing_plain n),
    bits_continuing, bits_continuing, bits_continuing]
  congr
  omega

theorem decodeFrom_char (c : Char) :
    decodeFrom done .first (String.utf8EncodeChar c ++ rest) = decodeFrom (c :: done) .first rest := by
  have whole : Char.ofNat c.toNat = c := Char.ofNat_toNat c
  have valid : c.toNat < 0xd800 ∨ 0xdfff < c.toNat ∧ c.toNat < 0x110000 := c.valid
  generalize number : c.toNat = n at whole valid
  have encoded : String.utf8EncodeChar c =
      if n ≤ 0x7f then [.ofNat n]
      else if n ≤ 0x7ff then [.ofNat (n / 64 % 32 + 192), .ofNat (n % 64 + 128)]
      else if n ≤ 0xffff then
        [.ofNat (n / 4096 % 16 + 224), .ofNat (n / 64 % 64 + 128), .ofNat (n % 64 + 128)]
      else
        [.ofNat (n / 262144 % 8 + 240), .ofNat (n / 4096 % 64 + 128), .ofNat (n / 64 % 64 + 128),
          .ofNat (n % 64 + 128)] := by
    rw [← number]
    rfl
  rw [encoded, ← whole]
  by_cases one : n ≤ 0x7f
  · rw [if_pos one]
    exact decodeFrom_ascii one
  by_cases two : n ≤ 0x7ff
  · rw [if_neg one, if_pos two]
    exact decodeFrom_two (by omega) two
  by_cases three : n ≤ 0xffff
  · rw [if_neg one, if_neg two, if_pos three]
    exact decodeFrom_three (by omega) three (by omega)
  · rw [if_neg one, if_neg two, if_neg three]
    exact decodeFrom_four (by omega) (by omega)

theorem decodeFrom_chars (chars : List Char) :
    decodeFrom done .first (chars.flatMap String.utf8EncodeChar) = done.reverse ++ chars := by
  induction chars generalizing done with
  | nil => simp [decodeFrom]
  | cons c chars ih =>
    rw [List.flatMap_cons, decodeFrom_char, ih]
    simp

-- The library reads the bytes off with a counter, from the first that `done` does not hold yet.
theorem toList_loop (bytes : ByteArray) (index : Nat) (done : List UInt8) :
    ByteArray.toList.loop bytes index done = done.reverse ++ bytes.data.toList.drop index := by
  fun_induction ByteArray.toList.loop bytes index done with
  | case1 index done inside ih =>
    have bound : index < bytes.data.toList.length := by simpa using inside
    have first : bytes.get! index = bytes.data.toList[index] := by
      simp [ByteArray.get!, getElem!_pos, inside]
    rw [ih, List.drop_eq_getElem_cons bound, first]
    simp
  | case2 index done outside =>
    have nothing : bytes.data.toList.drop index = [] := by
      apply List.drop_eq_nil_of_le
      simpa using Nat.le_of_not_lt outside
    simp [nothing]

theorem toList_eq_data (bytes : ByteArray) : bytes.toList = bytes.data.toList := by
  rw [ByteArray.toList, toList_loop]
  rfl

theorem length_bytes (text : String) : text.toUTF8.toList.length = text.utf8ByteSize := by
  rw [toList_eq_data]
  rfl

theorem bytes_append (left right : String) :
    (left ++ right).toUTF8.toList = left.toUTF8.toList ++ right.toUTF8.toList := by
  simp only [toList_eq_data, String.toUTF8_eq_toByteArray, String.toByteArray_append,
    ByteArray.toList_data_append]

theorem decodeLossy_bytes (text : String) : decodeLossy text.toUTF8.toList = text := by
  have encoded : text.toUTF8.toList = text.toList.flatMap String.utf8EncodeChar := by
    have spelled := congrArg String.toByteArray (String.ofList_toList (s := text))
    rw [String.toByteArray_ofList] at spelled
    rw [toList_eq_data, String.toUTF8_eq_toByteArray, ← spelled, List.utf8Encode,
      List.data_toByteArray]
  rw [decodeLossy, encoded, decodeFrom_chars, List.reverse_nil, List.nil_append, String.ofList_toList]

end Arbor.Text
