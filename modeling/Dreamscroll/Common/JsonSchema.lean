import Dreamscroll.Common.Serde
/-!
# JSON schemas

The part of JSON Schema a model is held to when it answers: objects by the
properties they name and those they require, arrays, strings and the strings
of an enumeration. What a schema does not name may be there as well.

A derived reader follows a schema (`Reads`) if it reads every value that
conforms. It is shown to by the rules below, from the fields up.
-/

namespace Dreamscroll

/-- The schemas the prompts use. -/
inductive JsonSchema
  | string (description : Option String) (enum : Option (List String))
  | array (description : Option String) (items : JsonSchema)
  | object (description : Option String) (properties : List (String × JsonSchema))
      (required : List String)

namespace JsonSchema

/-! ## Rendering -/

/-- A description, where there is one. -/
def descriptionField (description : Option String) : List (String × Json) :=
  optionalField "description" Json.str description

mutual

/-- The schema as it is sent. -/
def toJson : JsonSchema → Json
  | .string description enum => .obj <| ("type", .str "string") :: descriptionField description ++
      optionalField "enum" (fun names => .arr (names.map Json.str)) enum
  | .array description items => .obj <|
      ("type", .str "array") :: descriptionField description ++ [("items", items.toJson)]
  | .object description properties required => .obj <|
      ("type", .str "object") :: descriptionField description ++
        ("properties", .obj (propertiesJson properties)) ::
          if required.isEmpty then [] else [("required", .arr (required.map Json.str))]

/-- And each of its properties. -/
def propertiesJson : List (String × JsonSchema) → List (String × Json)
  | [] => []
  | (name, schema) :: properties => (name, schema.toJson) :: propertiesJson properties

end

/-! ## Conforming -/

mutual

/-- **The value conforms to the schema.** -/
def Conforms : JsonSchema → Json → Prop
  | .string _ none, v => ∃ s, v = .str s
  | .string _ (some names), v => ∃ s ∈ names, v = .str s
  | .array _ items, v => ∃ values, v = .arr values ∧ ∀ x ∈ values, items.Conforms x
  | .object _ properties required, v => ∃ fields, v = .obj fields ∧
      (∀ name ∈ required, (fields.lookup name).isSome) ∧ PropertiesConform properties fields

/-- Every property that is there conforms to its schema. -/
def PropertiesConform : List (String × JsonSchema) → List (String × Json) → Prop
  | [], _ => True
  | (name, schema) :: properties, fields =>
    (∀ v, fields.lookup name = some v → schema.Conforms v) ∧ PropertiesConform properties fields

end

/-! ## Readers that follow a schema -/

variable {α : Type} {schema items : JsonSchema} {description : Option String}
variable {properties : List (String × JsonSchema)} {names required : List String}
variable {fields : List (String × Json)} {name : String} {read : Json → Option α} {v : Json}

/-- **The reader reads every value that conforms.** -/
def Reads (schema : JsonSchema) (read : Json → Option α) : Prop :=
  ∀ v, schema.Conforms v → ∃ a, read v = some a

theorem reads_string : Reads (.string description none) Json.string := by
  intro v hv
  rw [Conforms] at hv
  obtain ⟨s, rfl⟩ := hv
  exact ⟨s, rfl⟩

theorem reads_enum (h : ∀ name ∈ names, ∃ a, read (.str name) = some a) :
    Reads (.string description (some names)) read := by
  intro v hv
  rw [Conforms] at hv
  obtain ⟨s, hs, rfl⟩ := hv
  exact h s hs

theorem exists_mapM_eq_some {values : List Json} (h : ∀ v ∈ values, ∃ a, read v = some a) :
    ∃ l, values.mapM read = some l := by
  induction values with
  | nil => exact ⟨[], rfl⟩
  | cons v values ih =>
    obtain ⟨a, ha⟩ := h v List.mem_cons_self
    obtain ⟨l, hl⟩ := ih fun v hv => h v (List.mem_cons_of_mem _ hv)
    exact ⟨a :: l, by rw [List.mapM_cons, ha, hl]; rfl⟩

theorem reads_array {readAll : Json → Option (List α)}
    (hall : ∀ values, readAll (.arr values) = values.mapM read) (h : Reads items read) :
    Reads (.array description items) readAll := by
  intro v hv
  rw [Conforms] at hv
  obtain ⟨values, rfl, hvalues⟩ := hv
  rw [hall]
  exact exists_mapM_eq_some fun x hx => h x (hvalues x hx)

/-- **The fields of a struct** whose object conforms. -/
theorem structFields_of_conforms (names : List String)
    (h : (object description properties required).Conforms v) :
    ∃ fields, v.structFields names = some (names.map fun name => fields.lookup name) ∧
      (∀ name ∈ required, (fields.lookup name).isSome) ∧ PropertiesConform properties fields := by
  rw [Conforms] at h
  obtain ⟨fields, rfl, hrequired, hproperties⟩ := h
  exact ⟨fields, rfl, hrequired, hproperties⟩

/-- A required property is read, -/
theorem exists_required (hsome : (fields.lookup name).isSome)
    (h : ∀ v, fields.lookup name = some v → schema.Conforms v) (hread : Reads schema read) :
    ∃ a, Dreamscroll.required read (fields.lookup name) = some a := by
  obtain ⟨v, hv⟩ := Option.isSome_iff_exists.1 hsome
  obtain ⟨a, ha⟩ := hread v (h v hv)
  exact ⟨a, required_eq_some.2 ⟨v, hv, ha⟩⟩

/-- and another where it is there. -/
theorem exists_optional (h : ∀ v, fields.lookup name = some v → schema.Conforms v)
    (hread : Reads schema read) :
    ∃ a, Dreamscroll.optional read (fields.lookup name) = some a := by
  cases hv : fields.lookup name with
  | none => exact ⟨none, rfl⟩
  | some v =>
    obtain ⟨a, ha⟩ := hread v (h v hv)
    unfold Dreamscroll.optional
    split
    · exact ⟨none, rfl⟩
    · exact ⟨none, rfl⟩
    · rename_i heq
      rw [← Option.some.inj heq, ha]
      exact ⟨some a, rfl⟩

end JsonSchema

end Dreamscroll
