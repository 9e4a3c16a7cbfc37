import Arbor.Text.Basic

-- Hexadecimal digits by their place in a row, and the proof that `hexDigit?` reads just these.
namespace Arbor.Text

-- A digit counts by its place in the row; the case of a letter does not matter.
def HexDigit (c : Char) (value : Nat) : Prop :=
  "0123456789abcdef".toList[value]? = some c ∨ "0123456789ABCDEF".toList[value]? = some c

variable {c : Char} {n : Nat}

theorem HexDigit.lt (digit : HexDigit c n) : n < 16 := by
  rcases digit with found | found
  · simpa using (List.getElem?_eq_some_iff.mp found).1
  · simpa using (List.getElem?_eq_some_iff.mp found).1

instance (c : Char) (n : Nat) : Decidable (HexDigit c n) := inferInstanceAs (Decidable (_ ∨ _))

-- The ranges hold ten digits, six small and six capital letters, and nothing beyond ASCII.
theorem hexDigit?_eq_some_iff : hexDigit? c = some n ↔ HexDigit c n := by
  constructor
  · intro found
    have table : ∀ code < 128, ∀ value ∈ hexDigit? (Char.ofNat code),
        HexDigit (Char.ofNat code) value := by decide +kernel
    have ascii : c.val.toNat < 128 := by
      have ends : ('9' : Char).val.toNat = 57 ∧ ('f' : Char).val.toNat = 102 ∧
          ('F' : Char).val.toNat = 70 := by decide
      simp only [hexDigit?, Bool.and_eq_true, decide_eq_true_eq, Char.le_def,
        UInt32.le_iff_toNat_le] at found
      grind
    have entry := table c.toNat ascii n
    rw [Char.ofNat_toNat] at entry
    exact entry found
  · intro digit
    have small : ∀ value < 16, ("0123456789abcdef".toList[value]?.all fun c =>
        hexDigit? c = some value) = true := by decide +kernel
    have capital : ∀ value < 16, ("0123456789ABCDEF".toList[value]?.all fun c =>
        hexDigit? c = some value) = true := by decide +kernel
    rcases digit with found | found
    · have entry := small n (HexDigit.lt (.inl found))
      rw [found] at entry
      simpa using entry
    · have entry := capital n (HexDigit.lt (.inr found))
      rw [found] at entry
      simpa using entry

end Arbor.Text
