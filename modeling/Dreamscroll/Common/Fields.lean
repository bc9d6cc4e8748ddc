import Dreamscroll.Common.Serde
/-!
# The fields of a value

A `serde_json::Value` that is taken apart field by field: `as_str`,
`as_array` and their like, a field that is taken out and leaves a null, and a
map that grows. Two objects that differ in some fields only are read alike
everywhere else (`SameBut`).
-/

namespace Dreamscroll

namespace Json

/-- `Value::as_array`. -/
def asArray : Json → Option (List Json)
  | .arr items => some items
  | _ => none

/-- The value is `null`. -/
def isNull : Json → Bool
  | .null => true
  | _ => false

/-- It is a string. -/
def isString : Json → Bool
  | .str _ => true
  | _ => false

/-- It is an object. -/
def isObject : Json → Bool
  | .obj _ => true
  | _ => false

/-- What is left after `get_mut(name).map(Value::take)`. -/
def withNull (name : String) : Json → Json
  | .obj fields => .obj (fields.map fun f => (f.1, if f.1 = name then .null else f.2))
  | v => v

/-- The field `type` is this string. -/
def hasType (name : String) (v : Json) : Bool := decide ((v.get "type").bind string = some name)

/-- **Two values with the same fields but these.** -/
def SameBut (names : List String) (v v' : Json) : Prop :=
  ∀ name ∉ names, v.get name = v'.get name

end Json

/-- `Map::insert`. -/
def insertField (name : String) (v : Json) (fields : List (String × Json)) :
    List (String × Json) :=
  fields.filter (fun f => f.1 ≠ name) ++ [(name, v)]

/-- `Map::remove`. -/
def removeField (name : String) (fields : List (String × Json)) : List (String × Json) :=
  fields.filter fun f => f.1 ≠ name

variable {name other : String} {names : List String} {v v' : Json}
variable {fields : List (String × Json)}

theorem lookup_map_value (g : String → Json → Json) :
    (fields.map fun f => (f.1, g f.1 f.2)).lookup name = (fields.lookup name).map (g name) := by
  induction fields with
  | nil => rfl
  | cons f fields ih =>
    rw [List.map_cons, lookup_cons_ite]
    by_cases h : name = f.1
    · rw [if_pos h, show f = (f.1, f.2) from rfl, lookup_cons_ite, if_pos h, h]
      rfl
    · rw [if_neg h, ih, show f = (f.1, f.2) from rfl, lookup_cons_ite, if_neg h]

theorem Json.get_withNull :
    (v.withNull other).get name =
      (v.get name).map fun value => if name = other then .null else value := by
  cases v with
  | obj fields => exact lookup_map_value fun name value => if name = other then .null else value
  | _ => rfl

theorem Json.get_withNull_of_ne (h : name ≠ other) : (v.withNull other).get name = v.get name := by
  rw [Json.get_withNull]
  simp only [if_neg h]
  exact Option.map_id'

theorem Json.sameBut_withNull (h : other ∈ names) : SameBut names (v.withNull other) v := by
  intro name hname
  exact get_withNull_of_ne fun heq => hname (heq ▸ h)

theorem Json.SameBut.trans {v'' : Json} (h : SameBut names v v') (h' : SameBut names v' v'') :
    SameBut names v v'' :=
  fun name hname => (h name hname).trans (h' name hname)

theorem Json.SameBut.symm (h : SameBut names v v') : SameBut names v' v :=
  fun name hname => (h name hname).symm

theorem lookup_filter_ne (h : name ≠ other) :
    (fields.filter fun f => f.1 ≠ other).lookup name = fields.lookup name := by
  induction fields with
  | nil => rfl
  | cons f fields ih =>
    rw [List.filter_cons]
    by_cases hf : f.1 = other
    · have hname : name ≠ f.1 := fun heq => h (heq.trans hf)
      rw [if_neg (by simp [hf]), ih, show f = (f.1, f.2) from rfl, lookup_cons_ite, if_neg hname]
    · rw [if_pos (by simp [hf]), show f = (f.1, f.2) from rfl, lookup_cons_ite, lookup_cons_ite, ih]

theorem lookup_filter_self : (fields.filter fun f => f.1 ≠ name).lookup name = none := by
  rw [List.lookup_eq_none_iff]
  intro f hf
  have hne := (List.mem_filter.mp hf).2
  rw [decide_eq_true_eq] at hne
  exact bne_iff_ne.mpr fun heq => hne heq.symm

theorem lookup_insertField_self : (insertField name v fields).lookup name = some v := by
  unfold insertField
  rw [List.lookup_append, lookup_filter_self, Option.none_or, lookup_cons_ite, if_pos rfl]

theorem lookup_insertField_of_ne (h : name ≠ other) :
    (insertField other v fields).lookup name = fields.lookup name := by
  unfold insertField
  rw [List.lookup_append, lookup_filter_ne h, lookup_cons_ite, if_neg h]
  exact Option.or_none

end Dreamscroll
