import Mathlib.Data.List.Basic
import Mathlib.Data.Int.Notation
/-!
# Integers in identifiers

The decimal notation of an integer is injective and has no letter, so an
integer in the middle of an identifier can be read back: it ends where the
next letter stands.
-/

namespace Dreamscroll

theorem isAlpha_of_isDigit {c : Char} (h : c.isDigit = true) : c.isAlpha = false := by
  simp only [Char.isDigit, Bool.and_eq_true, decide_eq_true_eq, ge_iff_le,
    UInt32.le_iff_toNat_le] at h
  have h₁ : 48 ≤ c.val.toNat := h.1
  have h₂ : c.val.toNat ≤ 57 := h.2
  show (decide (c.val ≥ 'A'.val ∧ c.val ≤ 'Z'.val) ||
    (decide (c.val ≥ 'a'.val) && decide (c.val ≤ 'z'.val))) = false
  simp only [Bool.or_eq_false_iff, Bool.and_eq_false_iff, decide_eq_false_iff_not, ge_iff_le,
    UInt32.le_iff_toNat_le]
  constructor
  · rintro ⟨h, -⟩
    have h₃ : 65 ≤ c.val.toNat := h
    omega
  · refine Or.inl fun h => ?_
    have h₃ : 97 ≤ c.val.toNat := h
    omega

theorem toList_toString_ofNat (n : ℕ) : (toString (Int.ofNat n)).toList = Nat.toDigits 10 n := by
  rw [← Nat.toList_repr]
  rfl

theorem toList_toString_negSucc (n : ℕ) :
    (toString (Int.negSucc n)).toList = '-' :: Nat.toDigits 10 (n + 1) := by
  rw [← Nat.toList_repr]
  change ("-" ++ (n + 1).repr).toList = _
  rw [String.toList_append]
  rfl

theorem toDigits_injective {n m : ℕ} (h : Nat.toDigits 10 n = Nat.toDigits 10 m) : n = m := by
  have hval := congrArg (fun ds => Nat.ofDigitChars 10 ds 0) h
  simpa using hval

theorem not_isAlpha_of_mem_toDigits {c : Char} {n : ℕ} (h : c ∈ Nat.toDigits 10 n) :
    c.isAlpha = false :=
  isAlpha_of_isDigit (Nat.isDigit_of_mem_toDigits (by decide) (by decide) h)

/-- No letter occurs in the notation of an integer. -/
theorem not_isAlpha_of_mem_toString {c : Char} {z : ℤ} (h : c ∈ (toString z).toList) :
    c.isAlpha = false := by
  cases z with
  | ofNat n =>
    rw [toList_toString_ofNat] at h
    exact not_isAlpha_of_mem_toDigits h
  | negSucc n =>
    rw [toList_toString_negSucc, List.mem_cons] at h
    rcases h with rfl | h
    · rfl
    · exact not_isAlpha_of_mem_toDigits h

/-- The notation of an integer is ASCII text. -/
theorem toNat_lt_of_mem_toString {c : Char} {z : ℤ} (h : c ∈ (toString z).toList) :
    c.toNat < 128 := by
  have hdigits : ∀ n : ℕ, c ∈ Nat.toDigits 10 n → c.toNat < 128 := by
    intro n hmem
    have hdigit := Nat.isDigit_of_mem_toDigits (by decide) (by decide) hmem
    simp only [Char.isDigit, Bool.and_eq_true, decide_eq_true_eq, UInt32.le_iff_toNat_le] at hdigit
    have hle : c.toNat ≤ 57 := hdigit.2
    omega
  cases z with
  | ofNat n =>
    rw [toList_toString_ofNat] at h
    exact hdigits n h
  | negSucc n =>
    rw [toList_toString_negSucc, List.mem_cons] at h
    rcases h with rfl | h
    · decide
    · exact hdigits (n + 1) h

/-- No digit is a sign. -/
theorem toDigits_ne_sign {n m : ℕ} : Nat.toDigits 10 n ≠ '-' :: Nat.toDigits 10 m := by
  intro h
  have hmem : '-' ∈ Nat.toDigits 10 n := by
    rw [h]
    exact List.mem_cons_self
  have hdigit := Nat.isDigit_of_mem_toDigits (by decide) (by decide) hmem
  cases hdigit

/-- **The notation of an integer determines it.** -/
theorem toString_int_injective {x y : ℤ} (h : (toString x).toList = (toString y).toList) :
    x = y := by
  cases x with
  | ofNat n =>
    cases y with
    | ofNat m =>
      rw [toList_toString_ofNat, toList_toString_ofNat] at h
      rw [toDigits_injective h]
    | negSucc m =>
      rw [toList_toString_ofNat, toList_toString_negSucc] at h
      exact absurd h toDigits_ne_sign
  | negSucc n =>
    cases y with
    | ofNat m =>
      rw [toList_toString_ofNat, toList_toString_negSucc] at h
      exact absurd h.symm toDigits_ne_sign
    | negSucc m =>
      rw [toList_toString_negSucc, toList_toString_negSucc] at h
      rw [Nat.succ.inj (toDigits_injective (List.cons.inj h).2)]

/-- Two texts that agree split alike at the first letter. -/
theorem append_cons_inj_of_alpha {l l' t t' : List Char} {a b : Char}
    (hl : ∀ c ∈ l, c.isAlpha = false) (hl' : ∀ c ∈ l', c.isAlpha = false)
    (ha : a.isAlpha = true) (hb : b.isAlpha = true) (h : l ++ a :: t = l' ++ b :: t') :
    l = l' ∧ a :: t = b :: t' := by
  induction l generalizing l' with
  | nil =>
    cases l' with
    | nil => exact ⟨rfl, h⟩
    | cons c l' =>
      rw [(List.cons.inj h).1, hl' c List.mem_cons_self] at ha
      cases ha
  | cons c l ih =>
    cases l' with
    | nil =>
      rw [← (List.cons.inj h).1, hl c List.mem_cons_self] at hb
      cases hb
    | cons c' l' =>
      obtain ⟨rfl, htail⟩ := List.cons.inj h
      obtain ⟨rfl, hrest⟩ := ih (fun c hc => hl c (List.mem_cons_of_mem _ hc))
        (fun c hc => hl' c (List.mem_cons_of_mem _ hc)) htail
      exact ⟨rfl, hrest⟩

/-- **An integer before a dash and a letter is read back**, and so is the
rest. -/
theorem int_dash_inj {x y : ℤ} {a b : Char} {t t' : List Char} (ha : a.isAlpha = true)
    (hb : b.isAlpha = true)
    (h : (toString x).toList ++ '-' :: a :: t = (toString y).toList ++ '-' :: b :: t') :
    x = y ∧ a :: t = b :: t' := by
  have hdash : ∀ z : ℤ, ∀ c ∈ (toString z).toList ++ ['-'], c.isAlpha = false := by
    intro z c hc
    rcases List.mem_append.1 hc with hc | hc
    · exact not_isAlpha_of_mem_toString hc
    · rw [List.mem_singleton.1 hc]
      rfl
  obtain ⟨heq, hrest⟩ := append_cons_inj_of_alpha (hdash x) (hdash y) ha hb
    (by simpa only [List.append_assoc, List.singleton_append] using h)
  exact ⟨toString_int_injective (List.append_cancel_right heq), hrest⟩

end Dreamscroll
