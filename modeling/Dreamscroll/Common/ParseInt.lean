import Dreamscroll.Common.Decimal
/-!
# Reading an `i32`

`str::parse::<i32>`: an optional sign, then decimal digits, with overflow
found at the digit that causes it.
-/

namespace Dreamscroll

/-- `i32::MAX`. -/
def i32Max : ℤ := 2147483647

/-- `i32::MIN`. -/
def i32Min : ℤ := -2147483648

/-- `IntErrorKind`. -/
inductive ParseIntError
  | empty
  | invalidDigit
  | posOverflow
  | negOverflow
  deriving DecidableEq, Repr

/-- Its texts. -/
def ParseIntError.message : ParseIntError → String
  | empty => "cannot parse integer from empty string"
  | invalidDigit => "invalid digit found in string"
  | posOverflow => "number too large to fit in target type"
  | negOverflow => "number too small to fit in target type"

/-- The digits after the sign, from what they follow. -/
def parseDigits (negative : Bool) : ℤ → List Char → Except ParseIntError ℤ
  | acc, [] => .ok acc
  | acc, c :: cs =>
    if c.isDigit then
      let digit : ℤ := c.toNat - '0'.toNat
      if negative then
        if acc * 10 - digit < i32Min then .error .negOverflow
        else parseDigits negative (acc * 10 - digit) cs
      else
        if i32Max < acc * 10 + digit then .error .posOverflow
        else parseDigits negative (acc * 10 + digit) cs
    else .error .invalidDigit

/-- `i32::from_str`: a sign alone is no digit. -/
def parseI32 (text : List Char) : Except ParseIntError ℤ :=
  match text with
  | [] => .error .empty
  | ['+'] | ['-'] => .error .invalidDigit
  | '+' :: digits => parseDigits false 0 digits
  | '-' :: digits => parseDigits true 0 digits
  | digits => parseDigits false 0 digits

/-- `u64::MAX`. -/
def u64Max : ℕ := 18446744073709551615

/-- The digits of a `u64`, the number so far in hand. -/
def parseUnsignedDigits : ℕ → List Char → Except ParseIntError ℕ
  | acc, [] => .ok acc
  | acc, c :: cs =>
    if c.isDigit then
      let next := 10 * acc + (c.toNat - '0'.toNat)
      if u64Max < next then .error .posOverflow else parseUnsignedDigits next cs
    else .error .invalidDigit

/-- `str::parse::<u64>`. -/
def parseU64 (text : List Char) : Except ParseIntError ℕ :=
  match text with
  | [] => .error .empty
  | ['+'] | ['-'] => .error .invalidDigit
  | '+' :: digits => parseUnsignedDigits 0 digits
  | digits => parseUnsignedDigits 0 digits

/-! ## What is written is read back -/

theorem le_ofDigitChars (cs : List Char) (acc : ℕ) : acc ≤ Nat.ofDigitChars 10 cs acc := by
  induction cs generalizing acc with
  | nil => exact Nat.le_refl _
  | cons c cs ih =>
    rw [Nat.ofDigitChars_cons]
    have hnext := ih (10 * acc + (c.toNat - '0'.toNat))
    omega

theorem parseDigits_eq_ok {cs : List Char} (acc : ℕ) (hdigits : ∀ c ∈ cs, c.isDigit = true)
    (hmax : (Nat.ofDigitChars 10 cs acc : ℤ) ≤ i32Max) :
    parseDigits false acc cs = .ok (Nat.ofDigitChars 10 cs acc : ℤ) := by
  induction cs generalizing acc with
  | nil => rfl
  | cons c cs ih =>
    have hc : c.isDigit = true := hdigits c List.mem_cons_self
    have hzero : '0'.toNat ≤ c.toNat := by
      simp only [Char.isDigit, Bool.and_eq_true, decide_eq_true_eq, ge_iff_le,
        UInt32.le_iff_toNat_le] at hc
      exact hc.1
    rw [Nat.ofDigitChars_cons] at hmax ⊢
    have hle := le_ofDigitChars cs (10 * acc + (c.toNat - '0'.toNat))
    have hcast : (acc : ℤ) * 10 + (c.toNat - '0'.toNat) =
        ((10 * acc + (c.toNat - '0'.toNat) : ℕ) : ℤ) := by
      omega
    have hroom : ¬ i32Max < (acc : ℤ) * 10 + (c.toNat - '0'.toNat) := by
      omega
    rw [parseDigits, if_pos hc]
    simp only [Bool.false_eq_true, if_false]
    rw [if_neg hroom, hcast]
    exact ih _ (fun c hc => hdigits c (List.mem_cons_of_mem _ hc)) hmax

theorem parseDigits_negative_eq_ok {cs : List Char} (acc : ℕ) (hdigits : ∀ c ∈ cs, c.isDigit = true)
    (hmin : i32Min ≤ -(Nat.ofDigitChars 10 cs acc : ℤ)) :
    parseDigits true (-(acc : ℤ)) cs = .ok (-(Nat.ofDigitChars 10 cs acc : ℤ)) := by
  induction cs generalizing acc with
  | nil => rfl
  | cons c cs ih =>
    have hc : c.isDigit = true := hdigits c List.mem_cons_self
    have hzero : '0'.toNat ≤ c.toNat := by
      simp only [Char.isDigit, Bool.and_eq_true, decide_eq_true_eq, ge_iff_le,
        UInt32.le_iff_toNat_le] at hc
      exact hc.1
    rw [Nat.ofDigitChars_cons] at hmin ⊢
    have hle := le_ofDigitChars cs (10 * acc + (c.toNat - '0'.toNat))
    have hcast : -(acc : ℤ) * 10 - (c.toNat - '0'.toNat) =
        -((10 * acc + (c.toNat - '0'.toNat) : ℕ) : ℤ) := by
      omega
    have hroom : ¬ -(acc : ℤ) * 10 - (c.toNat - '0'.toNat) < i32Min := by
      omega
    rw [parseDigits, if_pos hc]
    simp only [if_true]
    rw [if_neg hroom, hcast]
    exact ih _ (fun c hc => hdigits c (List.mem_cons_of_mem _ hc)) hmin

theorem parseUnsignedDigits_eq_ok {cs : List Char} (acc : ℕ) (hdigits : ∀ c ∈ cs, c.isDigit = true)
    (hmax : Nat.ofDigitChars 10 cs acc ≤ u64Max) :
    parseUnsignedDigits acc cs = .ok (Nat.ofDigitChars 10 cs acc) := by
  induction cs generalizing acc with
  | nil => rfl
  | cons c cs ih =>
    rw [Nat.ofDigitChars_cons] at hmax ⊢
    have hle := le_ofDigitChars cs (10 * acc + (c.toNat - '0'.toNat))
    have hroom : ¬ u64Max < 10 * acc + (c.toNat - '0'.toNat) := by
      omega
    rw [parseUnsignedDigits, if_pos (hdigits c List.mem_cons_self), if_neg hroom]
    exact ih _ (fun c hc => hdigits c (List.mem_cons_of_mem _ hc)) hmax

/-- The digits of a number are digits, and there is one. -/
theorem exists_toDigits (n : ℕ) : ∃ c cs, Nat.toDigits 10 n = c :: cs ∧
    (∀ d ∈ c :: cs, d.isDigit = true) ∧ c ≠ '+' ∧ c ≠ '-' := by
  have hdigits : ∀ c ∈ Nat.toDigits 10 n, c.isDigit = true := fun c hc =>
    Nat.isDigit_of_mem_toDigits (by decide) (by decide) hc
  cases hn : Nat.toDigits 10 n with
  | nil => exact absurd hn Nat.toDigits_ne_nil
  | cons c cs =>
    rw [hn] at hdigits
    have hc := hdigits c List.mem_cons_self
    refine ⟨c, cs, rfl, hdigits, ?_, ?_⟩
    · rintro rfl
      cases hc
    · rintro rfl
      cases hc

/-- **The notation of an `i32` that is not negative is read back.** -/
theorem parseI32_toString {n : ℕ} (h : (n : ℤ) ≤ i32Max) :
    parseI32 (toString (n : ℤ)).toList = .ok (n : ℤ) := by
  have hvalue : Nat.ofDigitChars 10 (Nat.toDigits 10 n) 0 = n := Nat.ofDigitChars_ten_toDigits
  obtain ⟨c, cs, hn, hdigits, hplus, hminus⟩ := exists_toDigits n
  rw [hn] at hvalue
  have hparse := parseDigits_eq_ok 0 hdigits (by rw [hvalue]; exact h)
  rw [hvalue] at hparse
  change parseI32 (toString (Int.ofNat n)).toList = _
  rw [toList_toString_ofNat, hn, parseI32.eq_def]
  split <;> simp_all

/-- **The notation of an `i32` is read back.** -/
theorem parseI32_toString_int {z : ℤ} (hmin : i32Min ≤ z) (hmax : z ≤ i32Max) :
    parseI32 (toString z).toList = .ok z := by
  cases z with
  | ofNat n => exact parseI32_toString hmax
  | negSucc n =>
    have hvalue : Nat.ofDigitChars 10 (Nat.toDigits 10 (n + 1)) 0 = n + 1 :=
      Nat.ofDigitChars_ten_toDigits
    obtain ⟨c, cs, hn, hdigits, -, -⟩ := exists_toDigits (n + 1)
    rw [hn] at hvalue
    have hparse := parseDigits_negative_eq_ok 0 hdigits (by rw [hvalue]; exact hmin)
    rw [hvalue] at hparse
    rw [toList_toString_negSucc, hn]
    exact hparse

/-- **The notation of a `u64` is read back.** -/
theorem parseU64_toString {n : ℕ} (h : n ≤ u64Max) : parseU64 (toString n).toList = .ok n := by
  have hvalue : Nat.ofDigitChars 10 (Nat.toDigits 10 n) 0 = n := Nat.ofDigitChars_ten_toDigits
  obtain ⟨c, cs, hn, hdigits, hplus, hminus⟩ := exists_toDigits n
  rw [hn] at hvalue
  have hparse := parseUnsignedDigits_eq_ok 0 hdigits (by rw [hvalue]; exact h)
  rw [hvalue] at hparse
  have htext : (toString n).toList = c :: cs := by
    rw [← hn, ← Nat.toList_repr]
    rfl
  rw [htext, parseU64.eq_def]
  split <;> simp_all

end Dreamscroll
