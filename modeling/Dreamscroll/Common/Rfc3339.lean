import Mathlib.Algebra.Order.Ring.Int
import Mathlib.Data.List.Basic
/-!
# Timestamps as RFC 3339 texts

A civil time of the Gregorian calendar, its seconds since the epoch, and the
text `YYYY-MM-DDTHH:MM:SS` with up to nine digits of a fraction and a zone of
UTC. `Date.parse` reads the text of whole seconds back (`dateParse_text`).
-/

namespace Dreamscroll

/-! ## Civil time -/

/-- A time of day on a date of the Gregorian calendar. -/
structure CivilTime where
  year : ℕ
  month : ℕ
  day : ℕ
  hour : ℕ
  minute : ℕ
  second : ℕ
  deriving DecidableEq, Repr

/-- The rule of the Gregorian calendar. -/
def isLeapYear (year : ℕ) : Bool := year % 4 = 0 && (year % 100 ≠ 0 || year % 400 = 0)

/-- The days of a month, counted from one. -/
def daysInMonth (year month : ℕ) : ℕ :=
  if month = 2 then if isLeapYear year then 29 else 28
  else if month = 4 ∨ month = 6 ∨ month = 9 ∨ month = 11 then 30 else 31

/-- Days from the epoch to the first of January. -/
def dayFromYear (year : ℤ) : ℤ :=
  365 * (year - 1970) + (year - 1969) / 4 - (year - 1901) / 100 + (year - 1601) / 400

/-- Days of the months before. -/
def dayWithinYear (year month : ℕ) : ℕ :=
  ((List.range (month - 1)).map fun m => daysInMonth year (m + 1)).sum

namespace CivilTime

/-- A time of a year of four digits that exists. -/
def Valid (c : CivilTime) : Prop :=
  c.year ≤ 9999 ∧ (1 ≤ c.month ∧ c.month ≤ 12) ∧ (1 ≤ c.day ∧ c.day ≤ daysInMonth c.year c.month) ∧
    c.hour ≤ 23 ∧ c.minute ≤ 59 ∧ c.second ≤ 59

instance (c : CivilTime) : Decidable c.Valid := by
  unfold Valid
  infer_instance

/-- Seconds since the epoch, in UTC. -/
def epochSeconds (c : CivilTime) : ℤ :=
  (dayFromYear c.year + dayWithinYear c.year c.month + (c.day - 1)) * 86400 + c.hour * 3600 +
    c.minute * 60 + c.second

end CivilTime

/-! ## Its text -/

/-- The last two digits. -/
def pad2 (n : ℕ) : List Char := [(n / 10 % 10).digitChar, (n % 10).digitChar]

/-- And the last four. -/
def pad4 (n : ℕ) : List Char := pad2 (n / 100) ++ pad2 n

/-- `YYYY-MM-DDTHH:MM:SS`. -/
def CivilTime.text (c : CivilTime) : List Char :=
  pad4 c.year ++ '-' :: pad2 c.month ++ '-' :: pad2 c.day ++ 'T' :: pad2 c.hour ++ ':' ::
    pad2 c.minute ++ ':' :: pad2 c.second

/-- The digits after the point, in nanoseconds. -/
def fractionNanoseconds (digits : List Char) : ℕ :=
  Nat.ofDigitChars 10 digits 0 * 10 ^ (9 - digits.length)

/-- **The text denotes the instant**, in nanoseconds since the epoch: RFC 3339
in UTC with at most nine digits of a fraction. -/
structure Rfc3339 (text : List Char) (t : ℤ) : Prop where
  exists_civil : ∃ (c : CivilTime) (digits zone : List Char), c.Valid ∧
    digits.length ≤ 9 ∧ (∀ d ∈ digits, d.isDigit = true) ∧
    (zone = ['Z'] ∨ zone = "+00:00".toList) ∧
    text = c.text ++ (if digits = [] then [] else '.' :: digits) ++ zone ∧
    t = c.epochSeconds * 1000000000 + fractionNanoseconds digits

/-! ## Reading it -/

/-- Where a text has its digits, as `0`, and its separators. -/
def timestampShape : List Char :=
  ['0', '0', '0', '0', '-', '0', '0', '-', '0', '0', 'T', '0', '0', ':', '0', '0', ':', '0', '0']

/-- The text has digits where the shape has `0`, and else the same characters. -/
def matchesShape : List Char → List Char → Bool
  | [], [] => true
  | p :: ps, c :: cs => (if p = '0' then c.isDigit else c = p) && matchesShape ps cs
  | _, _ => false

/-- The number some digits of the text are. -/
def readDigits (text : List Char) (start count : ℕ) : ℕ :=
  Nat.ofDigitChars 10 ((text.drop start).take count) 0

/-- `Date.parse` of a text of this shape with a final `Z`, in milliseconds;
`none` is `NaN`. Some browsers take a day past the end of its month for one
of the next, and `24:00:00` for the midnight after; here both are `NaN`. No
stamp of the server is such a text. -/
def dateParse (text : List Char) : Option ℤ :=
  if matchesShape (timestampShape ++ ['Z']) text then
    let c : CivilTime :=
      { year := readDigits text 0 4
        month := readDigits text 5 2
        day := readDigits text 8 2
        hour := readDigits text 11 2
        minute := readDigits text 14 2
        second := readDigits text 17 2 }
    if c.Valid then some (c.epochSeconds * 1000) else none
  else none

variable {c : CivilTime} {n : ℕ} {rest : List Char}

theorem ofDigitChars_pad2 (h : n ≤ 99) : Nat.ofDigitChars 10 (pad2 n) 0 = n := by
  rw [pad2, Nat.ofDigitChars_cons_digitChar_of_lt_ten (by omega),
    Nat.ofDigitChars_cons_digitChar_of_lt_ten (by omega), Nat.ofDigitChars_nil]
  omega

theorem ofDigitChars_pad4 (h : n ≤ 9999) : Nat.ofDigitChars 10 (pad4 n) 0 = n := by
  rw [pad4, Nat.ofDigitChars_append, ofDigitChars_pad2 (by omega), pad2,
    Nat.ofDigitChars_cons_digitChar_of_lt_ten (by omega),
    Nat.ofDigitChars_cons_digitChar_of_lt_ten (by omega), Nat.ofDigitChars_nil]
  omega

theorem matchesShape_cons_digit {ps cs : List Char} :
    matchesShape ('0' :: ps) ((n % 10).digitChar :: cs) = matchesShape ps cs := by
  rw [matchesShape, if_pos rfl, Nat.isDigit_digitChar, decide_eq_true (Nat.mod_lt _ (by decide)),
    Bool.true_and]

theorem matchesShape_cons_self {p : Char} {ps cs : List Char} (h : p ≠ '0') :
    matchesShape (p :: ps) (p :: cs) = matchesShape ps cs := by
  rw [matchesShape, if_neg h, decide_eq_true rfl, Bool.true_and]

/-- The text has the shape, whatever follows. -/
theorem matchesShape_text (c : CivilTime) (ps cs : List Char) :
    matchesShape (timestampShape ++ ps) (c.text ++ cs) = matchesShape ps cs := by
  unfold CivilTime.text pad4 pad2 timestampShape
  simp only [List.cons_append, List.nil_append]
  simp only [matchesShape_cons_digit, matchesShape_cons_self (show '-' ≠ '0' by decide),
    matchesShape_cons_self (show 'T' ≠ '0' by decide),
    matchesShape_cons_self (show ':' ≠ '0' by decide)]

theorem length_text (c : CivilTime) : c.text.length = 19 := rfl

/-- **`Date.parse` reads whole seconds.** -/
theorem dateParse_text (h : c.Valid) : dateParse (c.text ++ ['Z']) = some (c.epochSeconds * 1000) := by
  have hvalid := h
  obtain ⟨hyear, ⟨-, hmonth⟩, ⟨-, hday⟩, hhour, hminute, hsecond⟩ := h
  have hmax : daysInMonth c.year c.month ≤ 31 := by
    unfold daysInMonth
    split_ifs <;> omega
  have hcivil : (⟨readDigits (c.text ++ ['Z']) 0 4, readDigits (c.text ++ ['Z']) 5 2,
      readDigits (c.text ++ ['Z']) 8 2, readDigits (c.text ++ ['Z']) 11 2,
      readDigits (c.text ++ ['Z']) 14 2, readDigits (c.text ++ ['Z']) 17 2⟩ : CivilTime) = c := by
    have hfields : readDigits (c.text ++ ['Z']) 0 4 = c.year ∧
        readDigits (c.text ++ ['Z']) 5 2 = c.month ∧ readDigits (c.text ++ ['Z']) 8 2 = c.day ∧
        readDigits (c.text ++ ['Z']) 11 2 = c.hour ∧ readDigits (c.text ++ ['Z']) 14 2 = c.minute ∧
        readDigits (c.text ++ ['Z']) 17 2 = c.second :=
      ⟨ofDigitChars_pad4 hyear, ofDigitChars_pad2 (by omega), ofDigitChars_pad2 (by omega),
        ofDigitChars_pad2 (by omega), ofDigitChars_pad2 (by omega), ofDigitChars_pad2 (by omega)⟩
    obtain ⟨hy, hm, hd, hh, hn, hs⟩ := hfields
    rw [hy, hm, hd, hh, hn, hs]
  unfold dateParse
  rw [matchesShape_text, hcivil]
  exact (if_pos rfl).trans (if_pos hvalid)

end Dreamscroll
