import Mathlib.Algebra.Order.Field.Rat
import Mathlib.Algebra.Order.Floor.Ring
import Mathlib.Data.Rat.Floor
/-!
# Numbers of a script

A number of JavaScript is a finite value, an infinity or `NaN`. Finite values
are rationals here: what is proved is which of the three a number is, and
rounding does not change that.
-/

namespace Dreamscroll

/-- A number of the script, exact where it is finite. -/
inductive JsNumber
  | nan
  | infinity (negative : Bool)
  | finite (q : ℚ)
  deriving DecidableEq, Repr

namespace JsNumber

/-- `Number(n)` of a field that may be absent: `Number(undefined)` is `NaN`. -/
def ofField : Option ℤ → JsNumber
  | none => nan
  | some n => finite n

/-- `Number.isFinite`. -/
def isFinite : JsNumber → Bool
  | finite _ => true
  | _ => false

/-- `x > 0`. -/
def positive : JsNumber → Bool
  | nan => false
  | infinity negative => !negative
  | finite q => 0 < q

/-- `!x` of a number. -/
def falsy : JsNumber → Bool
  | nan => true
  | infinity _ => false
  | finite q => q = 0

/-- `x <= b`. -/
def le : JsNumber → ℚ → Bool
  | nan, _ => false
  | infinity negative, _ => negative
  | finite q, b => q ≤ b

/-- `a / x`, of a finite number. -/
def div (a : ℚ) : JsNumber → JsNumber
  | nan => nan
  | infinity _ => finite 0
  | finite q => if q ≠ 0 then finite (a / q) else if a = 0 then nan else infinity (a < 0)

/-- `x * b`, by a positive number. -/
def scale (b : ℚ) : JsNumber → JsNumber
  | finite q => finite (q * b)
  | x => x

/-- `x - a`, of a finite number. -/
def sub (a : ℚ) : JsNumber → JsNumber
  | finite q => finite (q - a)
  | x => x

/-- `Math.ceil`. -/
def ceil : JsNumber → JsNumber
  | finite q => finite ⌈q⌉
  | x => x

/-- `Math.min(b, x)`. -/
def min (b : ℚ) : JsNumber → JsNumber
  | nan => nan
  | infinity negative => if negative then infinity true else finite b
  | finite q => finite (if b ≤ q then b else q)

/-- `Math.max(x, y)`. -/
def max : JsNumber → JsNumber → JsNumber
  | nan, _ | _, nan => nan
  | infinity false, _ | _, infinity false => infinity false
  | infinity true, y => y
  | x, infinity true => x
  | finite a, finite b => finite (if a ≤ b then b else a)

/-- The text of a whole number. -/
def text : JsNumber → String
  | nan => "NaN"
  | infinity negative => if negative then "-Infinity" else "Infinity"
  | finite q => toString q.num

variable {x y : JsNumber} {a b q q' : ℚ}

theorem max_ne_nan (hx : x ≠ nan) (hy : y ≠ nan) : max x y ≠ nan := by
  cases x with
  | nan => exact absurd rfl hx
  | infinity negative =>
    cases negative <;> cases y with
    | nan => exact absurd rfl hy
    | infinity negative => cases negative <;> simp [max]
    | finite b => simp [max]
  | finite a =>
    cases y with
    | nan => exact absurd rfl hy
    | infinity negative => cases negative <;> simp [max]
    | finite b => simp [max]

/-- **A ratio to a positive number is a number**, and so is its percentage
below a bound. -/
theorem min_scale_div_ne_nan (h : 0 < q) : min b (scale q' (div a (finite q))) ≠ nan := by
  rw [div, if_pos (ne_of_gt h)]
  simp [scale, min]

end JsNumber

end Dreamscroll
