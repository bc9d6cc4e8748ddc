import Dreamscroll.Common.Json
import Dreamscroll.Common.ParseInt
import Mathlib.Data.List.Nodup
import Mathlib.Data.List.Sort
import Mathlib.Data.String.Basic
/-!
# Derived deserialization

What `#[derive(Deserialize)]` reads off a `serde_json::Value`: a struct from
an object by the names of its fields, unknown ones ignored, or from an array
in their order; a unit variant from its name. A value that was printed is
parsed with the fields of its objects sorted, as a `BTreeMap` holds them.
-/

namespace Dreamscroll

/-! ## Values -/

/-- `i64::MAX`. -/
def i64Max : ℤ := 9223372036854775807

/-- `i64::MIN`. -/
def i64Min : ℤ := -9223372036854775808

/-- The fields of an object, sorted by name. -/
def sortFields (fields : List (String × Json)) : List (String × Json) :=
  fields.insertionSort fun a b => a.1 ≤ b.1

namespace Json

mutual

/-- The value with the fields of every object in it sorted. -/
def sorted : Json → Json
  | .arr items => .arr (sortedItems items)
  | .obj fields => .obj (sortFields (sortedFields fields))
  | .null => .null
  | .bool b => .bool b
  | .int n => .int n
  | .float literal => .float literal
  | .str s => .str s

/-- The same of each item. -/
def sortedItems : List Json → List Json
  | [] => []
  | v :: items => v.sorted :: sortedItems items

/-- And of each field. -/
def sortedFields : List (String × Json) → List (String × Json)
  | [] => []
  | (name, v) :: fields => (name, v.sorted) :: sortedFields fields

end

/-- `Value::get`. -/
def get (v : Json) (name : String) : Option Json :=
  match v with
  | .obj fields => fields.lookup name
  | _ => none

/-- `Value::as_u64`. -/
def asU64 : Json → Option ℤ
  | .int n => if 0 ≤ n then some n else none
  | _ => none

/-! ## Reading a value -/

/-- A `String`. -/
def string : Json → Option String
  | .str s => some s
  | _ => none

/-- An integer type of this range. -/
def integer (lo hi : ℤ) : Json → Option ℤ
  | .int n => if lo ≤ n ∧ n ≤ hi then some n else none
  | _ => none

/-- A `u8`. -/
def u8 : Json → Option ℤ := integer 0 255

/-- An `i32`. -/
def i32 : Json → Option ℤ := integer i32Min i32Max

/-- An `i64`. -/
def i64 : Json → Option ℤ := integer i64Min i64Max

/-- A unit variant of this name. -/
def unitVariant (name : String) : Json → Option Unit
  | .str s => if s = name then some () else none
  | .obj [(s, .null)] => if s = name then some () else none
  | _ => none

/-- The values of the fields of a struct, in their order, each where it is
present. -/
def structFields (names : List String) : Json → Option (List (Option Json))
  | .obj fields => some (names.map fun name => fields.lookup name)
  | .arr items =>
    if items.length ≤ names.length then some ((List.range names.length).map fun i => items[i]?)
    else none
  | _ => none

end Json

variable {α : Type}

/-- A field that has to be there. -/
def required (read : Json → Option α) (v : Option Json) : Option α := v.bind read

/-- `#[serde(default)]` of an optional field. -/
def optional (read : Json → Option α) : Option Json → Option (Option α)
  | none | some .null => some none
  | some v => (read v).map some

/-- `#[serde(skip_serializing_if = "Option::is_none")]`. -/
def optionalField (name : String) (write : α → Json) (a : Option α) : List (String × Json) :=
  (a.map fun a => (name, write a)).toList

/-! ## Rules -/

variable {fields : List (String × Json)} {name : String} {v : Json} {names : List String}
variable {read : Json → Option α} {a : α} {n lo hi : ℤ} {s : String}

theorem sortedFields_eq_map :
    Json.sortedFields fields = fields.map fun f => (f.1, f.2.sorted) := by
  induction fields with
  | nil => rw [Json.sortedFields, List.map_nil]
  | cons f fields ih => rw [Json.sortedFields, ih, List.map_cons]

/-- A lookup that goes on by comparing the names. -/
theorem lookup_cons_ite {name' : String} :
    ((name', v) :: fields).lookup name = if name = name' then some v else fields.lookup name := by
  rw [List.lookup_cons]
  split_ifs with h
  · rw [h, beq_self_eq_true]
  · rw [beq_false_of_ne h]

/-- Where no name is there twice, a field is found by its name. -/
theorem lookup_eq_some_iff (h : (fields.map Prod.fst).Nodup) :
    fields.lookup name = some v ↔ (name, v) ∈ fields := by
  induction fields with
  | nil => simp
  | cons f fields ih =>
    obtain ⟨name', v'⟩ := f
    obtain ⟨hnew, hrest⟩ := List.nodup_cons.1 h
    rw [List.lookup_cons, List.mem_cons, Prod.mk.injEq]
    by_cases heq : name = name'
    · subst heq
      rw [beq_self_eq_true]
      constructor
      · intro hv
        exact Or.inl ⟨rfl, (Option.some.inj hv).symm⟩
      · rintro (⟨-, rfl⟩ | hmem)
        · rfl
        · exact absurd (List.mem_map_of_mem (f := Prod.fst) hmem) hnew
    · rw [beq_false_of_ne heq, ih hrest]
      simp only [heq, false_and, false_or]

/-- **Sorting moves no field to another name.** -/
theorem lookup_sortFields (h : (fields.map Prod.fst).Nodup) :
    (sortFields fields).lookup name = fields.lookup name := by
  have hperm : (sortFields fields).Perm fields := List.perm_insertionSort _ _
  have h' : ((sortFields fields).map Prod.fst).Nodup := (hperm.map Prod.fst).nodup_iff.2 h
  refine Option.ext fun v => ?_
  rw [lookup_eq_some_iff h', lookup_eq_some_iff h, hperm.mem_iff]

theorem lookup_map_sorted :
    (fields.map fun f => (f.1, f.2.sorted)).lookup name = (fields.lookup name).map Json.sorted := by
  induction fields with
  | nil => rfl
  | cons f fields ih =>
    rw [List.map_cons, List.lookup_cons, List.lookup_cons]
    by_cases heq : (name == f.1) = true
    · rw [heq]
      rfl
    · rw [Bool.not_eq_true] at heq
      rw [heq, ih]

/-- **The fields of an object that was printed and parsed.** -/
theorem lookup_sorted (h : (fields.map Prod.fst).Nodup) :
    (sortFields (Json.sortedFields fields)).lookup name =
      (fields.lookup name).map Json.sorted := by
  have hnodup : ((Json.sortedFields fields).map Prod.fst).Nodup := by
    rw [sortedFields_eq_map, List.map_map]
    exact h
  rw [lookup_sortFields hnodup, sortedFields_eq_map, lookup_map_sorted]

theorem get_sorted (h : (fields.map Prod.fst).Nodup) :
    (Json.obj fields).sorted.get name = (fields.lookup name).map Json.sorted := by
  rw [Json.sorted]
  exact lookup_sorted h

theorem structFields_sorted (h : (fields.map Prod.fst).Nodup) :
    (Json.obj fields).sorted.structFields names =
      some (names.map fun name => (fields.lookup name).map Json.sorted) := by
  rw [Json.sorted]
  exact congrArg some (List.map_congr_left fun name _ => lookup_sorted h)

theorem string_eq_some : v.string = some s ↔ v = .str s := by
  cases v <;> simp [Json.string]

theorem integer_eq_some : Json.integer lo hi v = some n ↔ v = .int n ∧ lo ≤ n ∧ n ≤ hi := by
  cases v with
  | int k =>
    simp only [Json.integer, Option.ite_none_right_eq_some, Option.some.injEq, Json.int.injEq]
    constructor
    · rintro ⟨hrange, rfl⟩
      exact ⟨rfl, hrange⟩
    · rintro ⟨rfl, hrange⟩
      exact ⟨hrange, rfl⟩
  | _ => simp [Json.integer]

theorem unitVariant_eq_some {u : Unit} :
    v.unitVariant name = some u ↔ v = .str name ∨ v = .obj [(name, .null)] := by
  unfold Json.unitVariant
  split
  · simp
  · simp
  · rename_i hstr hobj
    constructor
    · intro h
      cases h
    · rintro (rfl | rfl)
      · exact absurd rfl (hstr name)
      · exact absurd rfl (hobj name)

theorem required_eq_some {x : Option Json} :
    required read x = some a ↔ ∃ v, x = some v ∧ read v = some a := Option.bind_eq_some_iff

theorem optional_eq_some {x : Option Json} {y : Option α} (h : optional read x = some y) :
    ∀ a ∈ y, ∃ v, x = some v ∧ read v = some a := by
  intro a ha
  unfold optional at h
  split at h
  · cases h
    cases ha
  · cases h
    cases ha
  · rename_i v _
    obtain ⟨a', hread, rfl⟩ := Option.map_eq_some_iff.1 h
    exact ⟨v, rfl, hread.trans ha⟩

/-- An optional field that was written is read. -/
theorem optional_written {write : α → Json} {x : Option α}
    (hread : ∀ a ∈ x, read (write a) = some a) (hnull : ∀ a, write a ≠ .null) :
    optional read (x.map write) = some x := by
  cases x with
  | none => rfl
  | some a =>
    unfold optional
    rw [Option.map_some]
    split
    · rename_i heq
      cases heq
    · rename_i heq
      exact absurd (Option.some.inj heq) (hnull a)
    · rename_i heq
      rw [← Option.some.inj heq, hread a rfl]
      rfl

theorem integer_int (h : lo ≤ n ∧ n ≤ hi) : Json.integer lo hi (.int n) = some n :=
  integer_eq_some.2 ⟨rfl, h⟩

end Dreamscroll
