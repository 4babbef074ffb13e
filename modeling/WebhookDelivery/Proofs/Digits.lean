import WebhookDelivery.Text.Decimal
import WebhookDelivery.Text.Numeral

/-!
# Numbers written and read back

What is written in decimal is read back as the same number.

* `Decimal.read_toDigits` — natural numbers.
* `Decimal.read_lowDigits`, `Decimal.read_padded` — with so many digits, or at least so many.
* `Decimal.readInt?_toString` — integers, with their sign.
-/

namespace WebhookDelivery.Decimal

theorem isDigit_eq (c : Char) : isDigit c = c.isDigit := by
  rw [isDigit, Char.isDigit]
  congr 1

theorem isDigit_of_mem_toDigits {n : Nat} {c : Char} (h : c ∈ Nat.toDigits 10 n) :
    isDigit c = true := by
  rw [isDigit_eq]
  exact Nat.isDigit_of_mem_toDigits (by decide) (by decide) h

/-- Digits are read as the number that they were made from. -/
theorem read_toDigits (n : Nat) : read (Nat.toDigits 10 n) = n := by
  have hcore := Nat.ofDigitChars_ten_toDigits (n := n)
  rw [Nat.ofDigitChars_eq_foldl] at hcore
  rw [read]
  simpa only [value, Nat.mul_comm] using hcore

-- ---------------------------------------------------------------------------
-- Digits of fixed number
-- ---------------------------------------------------------------------------

theorem isDigit_digit {n : Nat} (h : n < 10) : isDigit (digit n) = true := by
  have hall : ∀ m : Fin 10, isDigit (digit m.val) = true := by decide
  exact hall ⟨n, h⟩

theorem value_digit {n : Nat} (h : n < 10) : value (digit n) = n := by
  have hall : ∀ m : Fin 10, value (digit m.val) = m.val := by decide
  exact hall ⟨n, h⟩

theorem isDigit_of_mem_lowDigits {count n : Nat} {c : Char} (h : c ∈ lowDigits count n) :
    isDigit c = true := by
  induction count generalizing n with
  | zero => cases h
  | succ count ih =>
    rw [lowDigits, List.mem_append, List.mem_singleton] at h
    rcases h with h | rfl
    · exact ih h
    · exact isDigit_digit (Nat.mod_lt _ (by omega))

/-- The lowest digits of a number are read as what is left of it above no digit. -/
theorem read_lowDigits (count n : Nat) : read (lowDigits count n) = n % Nat.pow 10 count := by
  induction count generalizing n with
  | zero => exact (Nat.mod_one n).symm
  | succ count ih =>
    have hpow : Nat.pow 10 (count + 1) = 10 * Nat.pow 10 count := Nat.mul_comm _ _
    rw [lowDigits, read, List.foldl_append, ← read, ih, List.foldl_cons, List.foldl_nil,
      value_digit (Nat.mod_lt _ (by omega)), hpow, Nat.mod_mul]
    omega

theorem isDigit_of_mem_padded {width n : Nat} {c : Char} (h : c ∈ padded width n) :
    isDigit c = true := by
  rw [padded, List.mem_append] at h
  rcases h with h | h
  · rw [List.eq_of_mem_replicate h]
    decide
  · exact isDigit_of_mem_toDigits h

/-- A padded number is read as the number. -/
theorem read_padded (width n : Nat) : read (padded width n) = n := by
  have hzeros : ∀ count, (List.replicate count '0').foldl (fun n c => n * 10 + value c) 0 = 0 := by
    intro count
    induction count with
    | zero => rfl
    | succ count ih => exact ih
  rw [padded, read, List.foldl_append, hzeros, ← read, read_toDigits]

theorem padded_ne_nil (width n : Nat) : padded width n ≠ [] := by
  simp [padded, Nat.toDigits_ne_nil]

/-- A number that fits is padded to just that width. -/
theorem length_padded {width n : Nat} (hwidth : 0 < width) (h : n < Nat.pow 10 width) :
    (padded width n).length = width := by
  have hdigits : (Nat.toDigits 10 n).length ≤ width :=
    (Nat.length_toDigits_le_iff (by decide) hwidth).mpr h
  rw [padded, List.length_append, List.length_replicate]
  omega

-- ---------------------------------------------------------------------------
-- Integers
-- ---------------------------------------------------------------------------

/-- The integer that a text writes in decimal: digits, with or without a sign before them. -/
def readInt? (cs : List Char) : Option Int :=
  let (negative, digits) := splitSign cs
  if digits.isEmpty || !digits.all isDigit then none
  else some (if negative then -(read digits) else read digits)

/-- A number without a sign is not negative. -/
theorem splitSign_toDigits (n : Nat) :
    splitSign (Nat.toDigits 10 n) = (false, Nat.toDigits 10 n) := by
  cases h : Nat.toDigits 10 n with
  | nil => rfl
  | cons c cs =>
    have hdigit : isDigit c = true := isDigit_of_mem_toDigits (n := n) (h ▸ List.mem_cons_self)
    rw [splitSign.eq_def]
    split
    · rename_i heq
      obtain ⟨rfl, -⟩ := List.cons.inj heq
      cases hdigit
    · rename_i heq
      obtain ⟨rfl, -⟩ := List.cons.inj heq
      cases hdigit
    · rfl

/-- A number with or without a sign is read as that integer. -/
theorem readInt?_toDigits (n : Nat) (negative : Bool) {cs : List Char}
    (h : splitSign cs = (negative, Nat.toDigits 10 n)) :
    readInt? cs = some (if negative then -(n : Int) else n) := by
  have hall : (Nat.toDigits 10 n).all isDigit = true :=
    List.all_eq_true.mpr fun c => isDigit_of_mem_toDigits
  simp [readInt?, h, hall, read_toDigits, Nat.toDigits_ne_nil]

/-- An integer is read back from its decimal text. -/
theorem readInt?_toString (n : Int) : readInt? (toString n).toList = some n := by
  rw [Int.toString_eq_repr, Int.repr_eq_if]
  split
  · rename_i hn
    rw [Nat.repr_eq_ofList_toDigits, String.toList_ofList,
      readInt?_toDigits _ false (splitSign_toDigits _), if_neg Bool.false_ne_true,
      Int.toNat_of_nonneg hn]
  · rename_i hn
    rw [Nat.repr_eq_ofList_toDigits, String.toList_append, String.toList_ofList,
      String.toList_ofList, readInt?_toDigits (-n).toNat true rfl, if_pos rfl,
      Int.toNat_of_nonneg (by omega), Int.neg_neg]

example : readInt? "-62135596800".toList = some (-62135596800) := by decide

end WebhookDelivery.Decimal
