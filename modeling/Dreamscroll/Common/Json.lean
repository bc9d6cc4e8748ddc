import Mathlib.Data.Int.Notation
/-!
# JSON values

The values `serde_json` writes and reads, objects as their fields in
order.
-/

namespace Dreamscroll

/-- A JSON value; a number with a fraction or an exponent is its literal. -/
inductive Json
  | null
  | bool (b : Bool)
  | int (n : ℤ)
  | float (literal : String)
  | str (s : String)
  | arr (items : List Json)
  | obj (fields : List (String × Json))

end Dreamscroll
