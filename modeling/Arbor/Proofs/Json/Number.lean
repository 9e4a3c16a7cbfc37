import Arbor.Json.Skip

-- Numbers of JSON, of any size. `skipNumber` passes over exactly one number without its sign, if
-- what stands behind does not lengthen it.
namespace Arbor.Json

def AllDigits (text : List Char) : Prop := ∀ c ∈ text, c.isDigit = true

-- The digits before the point. None stands behind a leading zero.
inductive Whole : List Char → Prop where
  | zero : Whole ['0']
  | digits (first : c.isDigit = true) (nonzero : c ≠ '0') (more : AllDigits text) :
      Whole (c :: text)

inductive Fraction : List Char → Prop where
  | absent : Fraction []
  | present (first : c.isDigit = true) (more : AllDigits text) : Fraction ('.' :: c :: text)

inductive Sign : List Char → Prop where
  | absent : Sign []
  | plus : Sign ['+']
  | minus : Sign ['-']

inductive Exponent : List Char → Prop where
  | absent : Exponent []
  | present (mark : e = 'e' ∨ e = 'E') (signed : Sign sign) (first : c.isDigit = true)
      (more : AllDigits text) : Exponent (e :: (sign ++ c :: text))

inductive Unsigned : List Char → Prop where
  | mk (whole : Whole left) (fraction : Fraction middle) (exponent : Exponent right) :
      Unsigned (left ++ (middle ++ right))

-- What stands behind a number must not lengthen it.
def Settled (rest : List Char) : Prop :=
  ∀ c tail, rest = c :: tail → c.isDigit = false ∧ c ≠ '.' ∧ isExponentMark c = false

variable {c : Char} {text rest left middle right : List Char}

theorem allDigits_digits (text : List Char) : AllDigits (digits text) :=
  List.all_eq_true.mp List.all_takeWhile

theorem digits_append_behind (text : List Char) : digits text ++ behindDigits text = text :=
  List.takeWhile_append_dropWhile

theorem behindDigits_append (digital : AllDigits text) (stop : digits rest = []) :
    behindDigits (text ++ rest) = rest := by
  have whole := digits_append_behind rest
  rw [stop, List.nil_append] at whole
  rw [behindDigits, List.dropWhile_append_of_pos digital]
  exact whole

theorem digits_cons_ne_nil (first : c.isDigit = true) : digits (c :: rest) ≠ [] := by
  simp [digits, first]

theorem digits_cons_eq_nil (other : c.isDigit = false) : digits (c :: rest) = [] := by
  simp [digits, other]

theorem Settled.digits_eq_nil (settled : Settled rest) : digits rest = [] := by
  cases rest with
  | nil => rfl
  | cons c tail => exact digits_cons_eq_nil (settled c tail rfl).1

theorem isExponentMark_iff : isExponentMark c = true ↔ c = 'e' ∨ c = 'E' := by
  simp [isExponentMark]

theorem Exponent.digits_eq_nil (exponent : Exponent text) (settled : Settled rest) :
    digits (text ++ rest) = [] := by
  cases exponent with
  | absent => exact settled.digits_eq_nil
  | present mark _ _ _ => rcases mark with rfl | rfl <;> exact digits_cons_eq_nil (by decide)

theorem Fraction.digits_eq_nil (fraction : Fraction text) (stop : digits rest = []) :
    digits (text ++ rest) = [] := by
  cases fraction with
  | absent => exact stop
  | present _ _ => exact digits_cons_eq_nil (by decide)

theorem dropSign_append {sign : List Char} (signed : Sign sign) (first : c.isDigit = true) :
    dropSign (sign ++ c :: rest) = c :: rest := by
  cases signed with
  | absent =>
    have plus : c ≠ '+' := by rintro rfl; revert first; decide
    have minus : c ≠ '-' := by rintro rfl; revert first; decide
    simp [dropSign, plus, minus]
  | plus => rfl
  | minus => rfl

theorem exists_sign (text : List Char) : ∃ sign, Sign sign ∧ text = sign ++ dropSign text := by
  unfold dropSign
  split
  · exact ⟨_, .plus, rfl⟩
  · exact ⟨_, .minus, rfl⟩
  · exact ⟨_, .absent, rfl⟩

theorem skipExponent?_append (exponent : Exponent text) (settled : Settled rest) :
    skipExponent? (text ++ rest) = .ok rest := by
  cases exponent with
  | absent =>
    cases rest with
    | nil => rfl
    | cons c tail => simp [skipExponent?, (settled c tail rfl).2.2]
  | present mark signed first more =>
    simp only [List.cons_append, List.append_assoc, skipExponent?, isExponentMark_iff.mpr mark,
      if_true, skipExponent, dropSign_append signed first, first,
      behindDigits_append more settled.digits_eq_nil]

theorem exponent_of_skipExponent? (found : skipExponent? text = .ok rest) :
    ∃ raw, Exponent raw ∧ text = raw ++ rest := by
  unfold skipExponent? at found
  split at found
  · rename_i e tail
    split at found
    · rename_i mark
      obtain ⟨sign, signed, split⟩ := exists_sign tail
      unfold skipExponent at found
      split at found
      · cases found
      · rename_i c more ahead
        split at found
        · rename_i first
          cases found
          refine ⟨_, .present (isExponentMark_iff.mp mark) signed first (allDigits_digits more), ?_⟩
          rw [split, ahead]
          simp [digits_append_behind]
        · cases found
    · cases found
      exact ⟨[], .absent, rfl⟩
  · cases found
    exact ⟨[], .absent, rfl⟩

-- Without a point the exponent comes at once.
theorem skipFraction_exponent (exponent : Exponent text) (settled : Settled rest) :
    skipFraction (text ++ rest) = skipExponent? (text ++ rest) := by
  unfold skipFraction
  split
  · rename_i tail same
    cases exponent with
    | absent => exact absurd rfl (settled '.' tail same).2.1
    | present mark _ _ _ => rcases mark with rfl | rfl <;> cases same
  · rfl

theorem skipFraction_append (fraction : Fraction left) (exponent : Exponent right)
    (settled : Settled rest) : skipFraction (left ++ (right ++ rest)) = .ok rest := by
  cases fraction with
  | absent =>
    rw [List.nil_append, skipFraction_exponent exponent settled,
      skipExponent?_append exponent settled]
  | present first more =>
    simp only [List.cons_append, skipFraction, digits_cons_ne_nil first, if_false]
    rw [behindDigits, List.dropWhile_cons_of_pos first, ← behindDigits,
      behindDigits_append more (exponent.digits_eq_nil settled),
      skipExponent?_append exponent settled]

theorem fraction_of_skipFraction (found : skipFraction text = .ok rest) :
    ∃ left right, Fraction left ∧ Exponent right ∧ text = left ++ (right ++ rest) := by
  unfold skipFraction at found
  split at found
  · rename_i tail
    split at found
    · cases found
    · rename_i some
      obtain ⟨right, exponent, split⟩ := exponent_of_skipExponent? found
      have whole := digits_append_behind tail
      have digital := allDigits_digits tail
      cases same : digits tail with
      | nil => exact absurd same some
      | cons c more =>
        rw [same] at whole digital
        refine ⟨'.' :: c :: more, right, .present (digital c (by simp)) ?_, exponent, ?_⟩
        · intro d present
          exact digital d (by simp [present])
        · rw [← split, List.cons_append, whole]
  · obtain ⟨right, exponent, split⟩ := exponent_of_skipExponent? found
    exact ⟨[], right, .absent, exponent, split⟩

theorem skipNumber_append (unsigned : Unsigned text) (settled : Settled rest) :
    skipNumber (text ++ rest) = .ok rest := by
  cases unsigned with
  | mk whole fraction exponent =>
    have stop := fraction.digits_eq_nil (exponent.digits_eq_nil settled)
    have behind := skipFraction_append fraction exponent settled
    cases whole with
    | zero => simp [skipNumber, stop, behind]
    | digits first nonzero more =>
      simp [skipNumber, first, behindDigits_append more stop, behind]

theorem unsigned_of_skipNumber (found : skipNumber text = .ok rest) :
    ∃ raw, Unsigned raw ∧ text = raw ++ rest := by
  unfold skipNumber at found
  split at found
  · cases found
  · split at found
    · obtain ⟨left, right, fraction, exponent, rfl⟩ := fraction_of_skipFraction found
      exact ⟨_, .mk .zero fraction exponent, by simp⟩
    · cases found
  · rename_i c tail nonzero
    split at found
    · rename_i first
      obtain ⟨left, right, fraction, exponent, split⟩ := fraction_of_skipFraction found
      have whole := digits_append_behind tail
      rw [split] at whole
      refine ⟨_, .mk (.digits first nonzero (allDigits_digits tail)) fraction exponent, ?_⟩
      simp only [List.cons_append, List.append_assoc, whole]
    · cases found

-- A number begins with a digit.
theorem Unsigned.head (unsigned : Unsigned text) :
    ∃ c tail, text = c :: tail ∧ c.isDigit = true := by
  cases unsigned with
  | mk whole _ _ =>
    cases whole with
    | zero => exact ⟨'0', _, rfl, by decide⟩
    | digits first _ _ => exact ⟨_, _, rfl, first⟩

end Arbor.Json
