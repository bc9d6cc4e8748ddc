import Dreamscroll.Common.Json
import Dreamscroll.Common.Procedure
import Mathlib.Logic.Function.Basic
/-!
# The vector store

`VertexVectorStore`: an upsert is an update and, where that finds no object,
a create; a create that finds one is taken for success. So an upsert may
answer `Ok` and write nothing. It is a put all the same: the create that it
lost to came between its own two calls, and overwrote what it put
(`upserts_linearizable`).

The service is a parameter, and what the code relies on of it is
`DataObjectService.Documented`: an update writes what is there, a create what
is not, each says so by the status of its error, and a call that fails for
another reason may have been applied.
-/

namespace Dreamscroll

namespace VectorStore

/-! ## The service -/

/-- An error of the service, with the code of its status and of HTTP. -/
structure RpcError where
  status : Option ℤ
  httpStatusCode : Option ℕ
  text : String
  deriving DecidableEq, Repr

/-- `not_found`. -/
def notFound (e : RpcError) : Bool := e.status = some 5 || e.httpStatusCode = some 404

/-- `already_exists`. -/
def alreadyExists (e : RpcError) : Bool := e.status = some 6 || e.httpStatusCode = some 409

/-- The embeddings an object may have. Sparse ones are not read. -/
inductive Vector (F : Type)
  | dense (values : List F)
  | sparse
  deriving DecidableEq, Repr

/-- A data object. -/
structure StoredObject (F : Type) where
  data : Json
  vectors : List (String × Vector F)

/-- The objects by their full names. -/
abbrev Collection (F : Type) := String → Option (StoredObject F)

variable {F : Type}

/-- The collection with this object under its name. -/
def put (x : Collection F) (name : String) (object : StoredObject F) : Collection F :=
  Function.update x name (some object)

/-- **The calls the code makes of the service**, over its state `σ`. What one
call meets besides that state, its time or a broken connection, is a `φ`. -/
structure DataObjectService (F σ φ : Type) where
  /-- The objects the service holds. -/
  objects : σ → Collection F
  /-- A call that meets this fails, whatever objects there are. -/
  fails : φ → Bool
  updateDataObject : σ → (name : String) → StoredObject F → φ → σ × Except RpcError Unit
  createDataObject : σ → (name : String) → StoredObject F → φ → σ × Except RpcError Unit
  getDataObject : σ → (name : String) → φ → Except RpcError (StoredObject F)

/-- **What the service documents of them.** `NOT_FOUND` is the answer to an
update or a get of an object that does not exist, `ALREADY_EXISTS` to a
create of one that does, and neither is to be had otherwise. A write that
fails may have been applied where it could have been. -/
structure DataObjectService.Documented {F σ φ : Type} (service : DataObjectService F σ φ) :
    Prop where
  update_some : ∀ x name object met, service.fails met = false →
    (service.objects x name).isSome = true →
    (service.updateDataObject x name object met).2 = .ok () ∧
      service.objects (service.updateDataObject x name object met).1 =
        put (service.objects x) name object
  update_none : ∀ x name object met, service.fails met = false → service.objects x name = none →
    (∃ e, (service.updateDataObject x name object met).2 = .error e ∧ notFound e = true) ∧
      service.objects (service.updateDataObject x name object met).1 = service.objects x
  update_fails : ∀ x name object met, service.fails met = true →
    (∃ e, (service.updateDataObject x name object met).2 = .error e ∧ notFound e = false) ∧
      (service.objects (service.updateDataObject x name object met).1 = service.objects x ∨
        (service.objects x name).isSome = true ∧
          service.objects (service.updateDataObject x name object met).1 =
            put (service.objects x) name object)
  create_none : ∀ x name object met, service.fails met = false → service.objects x name = none →
    (service.createDataObject x name object met).2 = .ok () ∧
      service.objects (service.createDataObject x name object met).1 =
        put (service.objects x) name object
  create_some : ∀ x name object met, service.fails met = false →
    (service.objects x name).isSome = true →
    (∃ e, (service.createDataObject x name object met).2 = .error e ∧ alreadyExists e = true) ∧
      service.objects (service.createDataObject x name object met).1 = service.objects x
  create_fails : ∀ x name object met, service.fails met = true →
    (∃ e, (service.createDataObject x name object met).2 = .error e ∧ alreadyExists e = false) ∧
      (service.objects (service.createDataObject x name object met).1 = service.objects x ∨
        service.objects x name = none ∧
          service.objects (service.createDataObject x name object met).1 =
            put (service.objects x) name object)
  get_some : ∀ x name object met, service.fails met = false →
    service.objects x name = some object → service.getDataObject x name met = .ok object
  get_none : ∀ x name met, service.fails met = false → service.objects x name = none →
    ∃ e, service.getDataObject x name met = .error e ∧ notFound e = true
  get_fails : ∀ x name met, service.fails met = true →
    ∃ e, service.getDataObject x name met = .error e ∧ notFound e = false

end VectorStore

open VectorStore

/-- **`VertexVectorStore`**, with its client of the service and
`Embedding::from_vec_normalizing`. -/
structure VertexVectorStore (F σ φ : Type) where
  dataObjectClient : DataObjectService F σ φ
  collectionFullPath : String
  denseVectorName : String
  denseVectorDims : ℕ
  fromVecNormalizing : List F → Except String (List F)

namespace VertexVectorStore

variable {F σ φ : Type} (store : VertexVectorStore F σ φ)

/-! ## Its calls -/

/-- What a call of `upsert_object_embedding` is given, and what its calls of
the service meet. -/
structure Upsert (F φ : Type) where
  objectId : String
  /-- `data_object_json`. -/
  objectData : Except String Json
  embedding : List F
  updateMeets : φ
  createMeets : φ

/-- What is asked of the store. -/
inductive Op (F φ : Type)
  | upsert (u : Upsert F φ)
  /-- `fetch_object_embedding`. -/
  | fetch (objectId : String) (getMeets : φ)

/-- `VectorUpsertResult`. -/
structure VectorUpsertResult where
  id : String
  fqId : Option String
  dims : ℕ
  deriving DecidableEq, Repr

/-- And what comes of it. -/
inductive Answer (F : Type)
  | upserted (result : Except String VectorUpsertResult)
  | fetched (result : Except String (Option (List F)))

/-- The request an operation is to send next. -/
inductive Place (F : Type)
  | update
  /-- The update found no object. -/
  | create (object : StoredObject F)
  | get

/-- `object_name`: the resource name of an object. -/
def objectName (objectId : String) : String :=
  store.collectionFullPath ++ "/dataObjects/" ++ objectId

/-- The object an upsert writes, or why it writes none. -/
def makeObject (u : Upsert F φ) : Except String (StoredObject F) :=
  if u.embedding.length ≠ store.denseVectorDims then
    .error (s!"Dimension mismatch: VectorStore dims: {store.denseVectorDims}, " ++
      s!"embedding dims: {u.embedding.length}")
  else
    match u.objectData with
    | .error e => .error e
    | .ok data => .ok ⟨data, [(store.denseVectorName, .dense u.embedding)]⟩

/-- The result of an upsert that got through. -/
def upsertResult (u : Upsert F φ) : VectorUpsertResult :=
  ⟨u.objectId, some (store.objectName u.objectId), store.denseVectorDims⟩

/-- The embedding of an object. -/
def readEmbedding (name : String) (object : StoredObject F) : Except String (Option (List F)) :=
  match object.vectors.lookup store.denseVectorName with
  | none => .error s!"Data object {name} missing vector field '{store.denseVectorName}'"
  | some .sparse =>
    .error s!"Data object {name} vector field '{store.denseVectorName}' is not dense"
  | some (.dense values) => (store.fromVecNormalizing values).map some

/-- The text of a get that failed. -/
def getFailed (name : String) (e : RpcError) : String :=
  s!"Failed to fetch vector data object {name}: {e.text}"

/-- What `fetch_object_embedding` makes of the service's answer. -/
def fetched (name : String) : Except RpcError (StoredObject F) → Except String (Option (List F))
  | .ok object => store.readEmbedding name object
  | .error e =>
    if notFound e then .ok none else .error (getFailed name e)

/-- The text of an update that failed. -/
def updateFailed (e : RpcError) : String :=
  s!"Failed to upsert vector data object via update: {e.text}"

/-- The text of a create that failed. -/
def createFailed (e : RpcError) : String :=
  s!"Failed to create vector data object after update miss: {e.text}"

/-- An upsert tries the update first. -/
def start : Op F φ → Place F
  | .upsert _ => .update
  | .fetch .. => .get

/-- **The next call of the service.** -/
def next (op : Op F φ) (x : σ) : Place F → σ × (Place F ⊕ Answer F)
  | .update =>
    match op with
    | .fetch .. => (x, .inr (.fetched (.ok none)))
    | .upsert u =>
      match store.makeObject u with
      | .error e => (x, .inr (.upserted (.error e)))
      | .ok object =>
        match store.dataObjectClient.updateDataObject x (store.objectName u.objectId) object
          u.updateMeets with
        | (x', .ok _) => (x', .inr (.upserted (.ok (store.upsertResult u))))
        | (x', .error e) =>
          if notFound e then (x', .inl (.create object))
          else (x', .inr (.upserted (.error (updateFailed e))))
  | .create object =>
    match op with
    | .fetch .. => (x, .inr (.fetched (.ok none)))
    | .upsert u =>
      match store.dataObjectClient.createDataObject x (store.objectName u.objectId) object
        u.createMeets with
      | (x', .ok _) => (x', .inr (.upserted (.ok (store.upsertResult u))))
      | (x', .error e) =>
        -- another call created the object since the update
        if alreadyExists e then (x', .inr (.upserted (.ok (store.upsertResult u))))
        else (x', .inr (.upserted (.error (createFailed e))))
  | .get =>
    match op with
    | .upsert _ => (x, .inr (.fetched (.ok none)))
    | .fetch objectId getMeets =>
      (x, .inr (.fetched (store.fetched (store.objectName objectId)
        (store.dataObjectClient.getDataObject x (store.objectName objectId) getMeets))))

/-- Any number of calls at once, one call of the service after another. -/
def procedure : Procedure σ (Op F φ) Unit (Place F) (Answer F) where
  start := start
  next op _ x pc := store.next op x pc

/-! ## What it is for -/

/-- **A map of objects.** An upsert puts its object, and answers an error
only for an object it cannot make or a call of the service that failed; then
it may have put it or not. A fetch reads, unless its call fails. -/
def objectMap : AtomicObject (Collection F) (Op F φ) (Answer F) Empty where
  answers x op r x' :=
    match op with
    | .fetch objectId getMeets => x' = x ∧
      if store.dataObjectClient.fails getMeets then ∃ e, r = .fetched (.error e)
      else
        match x (store.objectName objectId) with
        | none => r = .fetched (.ok none)
        | some object => r = .fetched (store.readEmbedding (store.objectName objectId) object)
    | .upsert u =>
      match store.makeObject u with
      | .error e => x' = x ∧ r = .upserted (.error e)
      | .ok object =>
        (x' = put x (store.objectName u.objectId) object ∧
          r = .upserted (.ok (store.upsertResult u))) ∨
        ((x' = x ∨ x' = put x (store.objectName u.objectId) object) ∧
          (store.dataObjectClient.fails u.updateMeets = true ∨
            store.dataObjectClient.fails u.createMeets = true) ∧
          ∃ e, r = .upserted (.error e))
  env _ e := e.elim

variable {store} {x x' : σ} {m m' : Collection F} {op : Op F φ} {u : Upsert F φ}
variable {object : StoredObject F} {name name' : String}

/-! ## Where a call stands -/

/-- Where a call can be. -/
def Placed (store : VertexVectorStore F σ φ) : Op F φ → Place F ⊕ Answer F → Prop
  | _, .inr _ => True
  | .fetch .., .inl place =>
    match place with
    | .get => True
    | .update | .create _ => False
  | .upsert u, .inl place =>
    match place with
    | .update => True
    | .create object => store.makeObject u = .ok object
    | .get => False

/-- An upsert whose update missed and whose create will find an object has
its point behind it: it was overwritten by the create that put the object
there. -/
def standing (store : VertexVectorStore F σ φ) (m : Collection F) (op : Op F φ) :
    Place F → Standing (Op F φ) (Answer F)
  | .update | .get => .invoked op
  | .create _ =>
    match op with
    | .fetch .. => .invoked op
    | .upsert u =>
      if (m (store.objectName u.objectId)).isSome ∧
          store.dataObjectClient.fails u.createMeets = false then
        .answered (.upserted (.ok (store.upsertResult u)))
      else .invoked op

@[simp] theorem put_self : put m name object name = some object := Function.update_self ..

@[simp] theorem put_of_ne (h : name' ≠ name) : put m name object name' = m name' :=
  Function.update_of_ne h ..

/-- Two collections that agree but for one object agree once it is put. -/
theorem put_congr (h : ∀ n, n ≠ name → m' n = m n) : put m' name object = put m name object := by
  funext n
  by_cases hn : n = name
  · rw [hn, put_self, put_self]
  · rw [put_of_ne hn, put_of_ne hn]
    exact h n hn

/-- An object that is put in place of another leaves the same names. -/
theorem isSome_put (h : (m name).isSome = true) (n : String) :
    (put m name object n).isSome = (m n).isSome := by
  by_cases hn : n = name
  · rw [hn, put_self, h]
    rfl
  · rw [put_of_ne hn]

/-- What every call knows of itself stays, whatever the others do. -/
theorem rely : Procedure.Rely store.procedure (fun _ _ _ => True) (fun _ => True)
    (fun _ => store.Placed) (fun _ _ => True) where
  start _ op _ := by
    cases op <;> trivial
  rely _ _ _ _ _ h := h
  next x op _ place _ hplaced _ := by
    refine ⟨trivial, trivial, ?_⟩
    change store.Placed op (store.next op x place).2
    cases op with
    | fetch objectId getMeets =>
      cases place with
      | get => trivial
      | update | create object => exact hplaced.elim
    | upsert u =>
      cases place with
      | get => exact hplaced.elim
      | update =>
        simp only [next]
        split
        · trivial
        · rename_i object hobject
          split
          · trivial
          · split_ifs
            · exact hobject
            · trivial
      | create object =>
        simp only [next]
        split
        · trivial
        · split_ifs <;> trivial

/-! ## What a call of the service comes to -/

theorem next_of_update_ok (hobject : store.makeObject u = .ok object)
    (h : (store.dataObjectClient.updateDataObject x (store.objectName u.objectId) object
      u.updateMeets).2 = .ok ()) :
    store.next (.upsert u) x .update = ((store.dataObjectClient.updateDataObject x
      (store.objectName u.objectId) object u.updateMeets).1,
        .inr (.upserted (.ok (store.upsertResult u)))) := by
  simp only [next, hobject]
  split
  · rename_i heq
    rw [heq]
  · rename_i heq
    rw [heq] at h
    cases h

theorem next_of_update_error {e : RpcError} (hobject : store.makeObject u = .ok object)
    (h : (store.dataObjectClient.updateDataObject x (store.objectName u.objectId) object
      u.updateMeets).2 = .error e) :
    store.next (.upsert u) x .update = ((store.dataObjectClient.updateDataObject x
      (store.objectName u.objectId) object u.updateMeets).1,
        if notFound e then .inl (.create object)
        else .inr (.upserted (.error (updateFailed e)))) := by
  simp only [next, hobject]
  split
  · rename_i heq
    rw [heq] at h
    cases h
  · rename_i heq
    rw [heq] at h
    cases h
    rw [heq]
    split_ifs <;> rfl

theorem next_of_create_ok
    (h : (store.dataObjectClient.createDataObject x (store.objectName u.objectId) object
      u.createMeets).2 = .ok ()) :
    store.next (.upsert u) x (.create object) = ((store.dataObjectClient.createDataObject x
      (store.objectName u.objectId) object u.createMeets).1,
        .inr (.upserted (.ok (store.upsertResult u)))) := by
  simp only [next]
  split
  · rename_i heq
    rw [heq]
  · rename_i heq
    rw [heq] at h
    cases h

theorem next_of_create_error {e : RpcError}
    (h : (store.dataObjectClient.createDataObject x (store.objectName u.objectId) object
      u.createMeets).2 = .error e) :
    store.next (.upsert u) x (.create object) = ((store.dataObjectClient.createDataObject x
      (store.objectName u.objectId) object u.createMeets).1,
        .inr (.upserted (if alreadyExists e then .ok (store.upsertResult u)
          else .error (createFailed e)))) := by
  simp only [next]
  split
  · rename_i heq
    rw [heq] at h
    cases h
  · rename_i heq
    rw [heq] at h
    cases h
    rw [heq]
    split_ifs <;> rfl

/-! ## Every call of the service is matched -/

/-- An upsert that succeeds puts its object. -/
theorem answers_ok (hobject : store.makeObject u = .ok object) :
    store.objectMap.answers m (.upsert u) (.upserted (.ok (store.upsertResult u)))
      (put m (store.objectName u.objectId) object) := by
  unfold objectMap
  dsimp only
  rw [hobject]
  exact Or.inl ⟨rfl, rfl⟩

/-- One whose call fails may have put it. -/
theorem answers_fails {e : String} (hobject : store.makeObject u = .ok object)
    (hfails : store.dataObjectClient.fails u.updateMeets = true ∨
      store.dataObjectClient.fails u.createMeets = true)
    (hm' : m' = m ∨ m' = put m (store.objectName u.objectId) object) :
    store.objectMap.answers m (.upsert u) (.upserted (.error e)) m' := by
  unfold objectMap
  dsimp only
  rw [hobject]
  exact Or.inr ⟨hm', hfails, e, rfl⟩

/-- Where an upsert stands depends on which objects there are. -/
theorem standing_congr {place : Place F} (h : ∀ n, (m' n).isSome = (m n).isSome) :
    store.standing m' op place = store.standing m op place := by
  cases place with
  | update | get => rfl
  | create object =>
    cases op with
    | fetch objectId getMeets => rfl
    | upsert u =>
      unfold standing
      simp only [h]

/-- Each call of the service is matched by points of the map. -/
def IsMatched (store : VertexVectorStore F σ φ) (op : Op F φ) (x : σ) (place : Place F) : Prop :=
  ∃ X, Procedure.MatchedWithin store.dataObjectClient.objects
    (fun x op place => store.standing (store.dataObjectClient.objects x) op place) id
    store.procedure (fun _ => store.Placed) store.objectMap op () x place X

/-- A call that leaves no object more or less leaves the others where they
stand. -/
theorem matched_of_same {place : Place F} {stands : Place F ⊕ Answer F}
    (hresult : store.next op x place = (x', stands))
    (hsame : ∀ n, (store.dataObjectClient.objects x' n).isSome =
      (store.dataObjectClient.objects x n).isSome)
    (hown : Procedure.Own store.objectMap op (store.dataObjectClient.objects x)
      (store.standing (store.dataObjectClient.objects x) op place)
      (store.dataObjectClient.objects x')
      (stands.map (store.standing (store.dataObjectClient.objects x') op) id)) :
    store.IsMatched op x place := by
  have hnext : store.procedure.next op () x place = (x', stands) := hresult
  refine ⟨fun a => a = store.dataObjectClient.objects x, rfl, fun op' place' _ => Or.inl ?_,
    fun a ha => ?_⟩
  · rw [hnext]
    exact (standing_congr hsame).symm
  · rw [hnext, ha]
    exact hown

/-- The create that puts an object brings the points of the upserts of that
object whose updates missed: each is overwritten by the next, and all of
them by it. -/
theorem matched_of_create {r : Answer F}
    (hnone : store.dataObjectClient.objects x (store.objectName u.objectId) = none)
    (hresult : store.next (.upsert u) x (.create object) = (x', .inr r))
    (hput : store.dataObjectClient.objects x' =
      put (store.dataObjectClient.objects x) (store.objectName u.objectId) object)
    (hanswers : ∀ a, store.objectMap.answers a (.upsert u) r
      (put a (store.objectName u.objectId) object)) :
    store.IsMatched (.upsert u) x (.create object) := by
  have hnext : store.procedure.next (.upsert u) () x (.create object) = (x', .inr r) := hresult
  have hstanding : store.standing (store.dataObjectClient.objects x) (.upsert u)
      (.create object) = .invoked (.upsert u) := by
    simp [standing, hnone]
  refine ⟨fun a => ∀ n, n ≠ store.objectName u.objectId →
    a n = store.dataObjectClient.objects x n, fun _ _ => rfl, fun op' place' hplaced => ?_,
    fun a ha => ?_⟩
  · rw [hnext, hput]
    cases place' with
    | update | get => exact Or.inl rfl
    | create object' =>
      cases op' with
      | fetch objectId getMeets => exact hplaced.elim
      | upsert u' =>
        have hobject' : store.makeObject u' = .ok object' := hplaced
        by_cases hname : store.objectName u'.objectId = store.objectName u.objectId
        · by_cases hfails : store.dataObjectClient.fails u'.createMeets = false
          · -- it will find the object and answer success
            refine Or.inr ⟨.upserted (.ok (store.upsertResult u')), ?_, ?_, fun a ha => ?_⟩
            · simp [standing, hname, hnone]
            · simp [standing, hname, hfails]
            · refine ⟨put a (store.objectName u'.objectId) object', fun n hn => ?_, ?_⟩
              · rw [put_of_ne (hname ▸ hn)]
                exact ha n hn
              · exact answers_ok hobject'
          · refine Or.inl ?_
            simp [standing, hfails]
        · refine Or.inl ?_
          simp only [standing, put_of_ne hname]
  · rw [hnext, hstanding, hput, ← put_congr ha]
    exact .both (hanswers a)

section Documented

variable (hservice : store.dataObjectClient.Documented)
include hservice

theorem matched_update (u : Upsert F φ) (x : σ) : store.IsMatched (.upsert u) x .update := by
  cases hobject : store.makeObject u with
  | error e =>
    have hresult : store.next (.upsert u) x .update = (x, .inr (.upserted (.error e))) := by
      simp only [next, hobject]
    refine matched_of_same hresult (fun _ => rfl) (.both ?_)
    unfold objectMap
    dsimp only
    rw [hobject]
    exact ⟨rfl, rfl⟩
  | ok object =>
    cases hfails : store.dataObjectClient.fails u.updateMeets with
    | true =>
      -- the update reports an error that is no miss, whatever it did
      obtain ⟨⟨e, herror, hmiss⟩, hdone⟩ := hservice.update_fails x (store.objectName u.objectId)
        object u.updateMeets hfails
      have hresult := next_of_update_error hobject herror
      rw [hmiss, if_neg Bool.false_ne_true] at hresult
      refine matched_of_same hresult (fun n => ?_) (.both (answers_fails hobject (Or.inl hfails) ?_))
      · rcases hdone with hkept | ⟨hthere, hput⟩
        · rw [hkept]
        · rw [hput]
          exact isSome_put hthere n
      · rcases hdone with hkept | ⟨-, hput⟩
        · exact Or.inl hkept
        · exact Or.inr hput
    | false =>
      cases hthere : store.dataObjectClient.objects x (store.objectName u.objectId) with
      | some old =>
        have hsome : (store.dataObjectClient.objects x (store.objectName u.objectId)).isSome =
            true := by
          rw [hthere]
          rfl
        obtain ⟨hok, hput⟩ := hservice.update_some x _ object u.updateMeets hfails hsome
        refine matched_of_same (next_of_update_ok hobject hok) (fun n => ?_) ?_
        · rw [hput]
          exact isSome_put hsome n
        · rw [hput]
          exact .both (answers_ok hobject)
      | none =>
        -- the update misses, and nothing has taken effect yet
        obtain ⟨⟨e, herror, hmiss⟩, hkept⟩ :=
          hservice.update_none x _ object u.updateMeets hfails hthere
        have hresult := next_of_update_error hobject herror
        rw [hmiss, if_pos rfl] at hresult
        refine matched_of_same hresult (fun n => by rw [hkept]) ?_
        rw [hkept]
        have hstanding : store.standing (store.dataObjectClient.objects x) (.upsert u)
            (.create object) = .invoked (.upsert u) := by
          simp [standing, hthere]
        change Procedure.Own store.objectMap _ _ (.invoked _) _
          (.inl (store.standing (store.dataObjectClient.objects x) (.upsert u) (.create object)))
        rw [hstanding]
        exact .silent

theorem matched_create (hobject : store.makeObject u = .ok object) :
    store.IsMatched (.upsert u) x (.create object) := by
  cases hfails : store.dataObjectClient.fails u.createMeets with
  | true =>
    obtain ⟨⟨e, herror, hexists⟩, hdone⟩ := hservice.create_fails x (store.objectName u.objectId)
      object u.createMeets hfails
    have hresult := next_of_create_error herror
    rw [hexists, if_neg Bool.false_ne_true] at hresult
    rcases hdone with hkept | ⟨hnone, hput⟩
    · refine matched_of_same hresult (fun n => by rw [hkept]) ?_
      have hstanding : store.standing (store.dataObjectClient.objects x) (.upsert u)
          (.create object) = .invoked (.upsert u) := by
        simp [standing, hfails]
      rw [hkept, hstanding]
      exact .both (answers_fails hobject (Or.inr hfails) (Or.inl rfl))
    · exact matched_of_create hnone hresult hput
        fun a => answers_fails hobject (Or.inr hfails) (Or.inr rfl)
  | false =>
    cases hthere : store.dataObjectClient.objects x (store.objectName u.objectId) with
    | none =>
      obtain ⟨hok, hput⟩ := hservice.create_none x _ object u.createMeets hfails hthere
      exact matched_of_create hthere (next_of_create_ok hok) hput fun a => answers_ok hobject
    | some old =>
      -- the point came when the object was put there
      have hsome : (store.dataObjectClient.objects x (store.objectName u.objectId)).isSome =
          true := by
        rw [hthere]
        rfl
      obtain ⟨⟨e, herror, hexists⟩, hkept⟩ :=
        hservice.create_some x _ object u.createMeets hfails hsome
      have hresult := next_of_create_error herror
      rw [hexists, if_pos rfl] at hresult
      refine matched_of_same hresult (fun n => by rw [hkept]) ?_
      have hstanding : store.standing (store.dataObjectClient.objects x) (.upsert u)
          (.create object) = .answered (.upserted (.ok (store.upsertResult u))) := by
        simp [standing, hthere, hfails]
      rw [hkept, hstanding]
      exact .respond

/-- A get that does not fail reads what there is. -/
theorem matched_get {objectId : String} {getMeets : φ} :
    store.IsMatched (.fetch objectId getMeets) x .get := by
  have hresult : store.next (.fetch objectId getMeets) x .get =
      (x, .inr (.fetched (store.fetched (store.objectName objectId)
        (store.dataObjectClient.getDataObject x (store.objectName objectId) getMeets)))) := rfl
  refine matched_of_same hresult (fun _ => rfl) (.both ⟨rfl, ?_⟩)
  cases hfails : store.dataObjectClient.fails getMeets with
  | true =>
    obtain ⟨e, herror, hmiss⟩ := hservice.get_fails x (store.objectName objectId) getMeets hfails
    rw [if_pos rfl, herror]
    refine ⟨getFailed (store.objectName objectId) e, ?_⟩
    simp [fetched, hmiss]
  | false =>
    rw [if_neg Bool.false_ne_true]
    cases hthere : store.dataObjectClient.objects x (store.objectName objectId) with
    | none =>
      obtain ⟨e, herror, hmiss⟩ := hservice.get_none x _ getMeets hfails hthere
      rw [herror]
      simp [fetched, hmiss]
    | some object =>
      rw [hservice.get_some x _ object getMeets hfails hthere]
      rfl

end Documented

/-! ## The store is a map -/

/-- The answers of the map are those of the calls. -/
theorem answers_id {s : Procedure.State σ (Op F φ) (Place F) (Answer F)} :
    Procedure.answers id s = s.history := by
  unfold Procedure.answers
  refine (List.map_congr_left fun i _ => ?_).trans (List.map_id s.history)
  cases i <;> rfl

namespace Lost

/-- The service as a map in memory. A call that meets an outage answers
`UNAVAILABLE` and writes nothing. -/
def service : DataObjectService ℤ (Collection ℤ) Bool where
  objects x := x
  fails outage := outage
  updateDataObject x name object outage :=
    if outage then (x, .error ⟨some 14, some 503, "UNAVAILABLE"⟩)
    else if (x name).isSome then (put x name object, .ok ())
    else (x, .error ⟨some 5, some 404, "NOT_FOUND"⟩)
  createDataObject x name object outage :=
    if outage then (x, .error ⟨some 14, some 503, "UNAVAILABLE"⟩)
    else if (x name).isSome then (x, .error ⟨some 6, some 409, "ALREADY_EXISTS"⟩)
    else (put x name object, .ok ())
  getDataObject x name outage :=
    if outage then .error ⟨some 14, some 503, "UNAVAILABLE"⟩
    else
      match x name with
      | some object => .ok object
      | none => .error ⟨some 5, some 404, "NOT_FOUND"⟩

theorem documented : service.Documented where
  update_some x name object outage hfails hsome := by
    have hfails' : outage = false := hfails
    have hsome' : (x name).isSome = true := hsome
    simp [service, hfails', hsome']
  update_none x name object outage hfails hnone := by
    have hfails' : outage = false := hfails
    have hnone' : x name = none := hnone
    simp [service, hfails', hnone', notFound]
  update_fails x name object outage hfails := by
    have hfails' : outage = true := hfails
    simp [service, hfails', notFound]
  create_none x name object outage hfails hnone := by
    have hfails' : outage = false := hfails
    have hnone' : x name = none := hnone
    simp [service, hfails', hnone']
  create_some x name object outage hfails hsome := by
    have hfails' : outage = false := hfails
    have hsome' : (x name).isSome = true := hsome
    simp [service, hfails', hsome', alreadyExists]
  create_fails x name object outage hfails := by
    have hfails' : outage = true := hfails
    simp [service, hfails', alreadyExists]
  get_some x name object outage hfails hsome := by
    have hfails' : outage = false := hfails
    have hsome' : x name = some object := hsome
    simp [service, hfails', hsome']
  get_none x name outage hfails hnone := by
    have hfails' : outage = false := hfails
    have hnone' : x name = none := hnone
    simp [service, hfails', hnone', notFound]
  get_fails x name outage hfails := by
    have hfails' : outage = true := hfails
    simp [service, hfails', notFound]

/-- One-dimensional embeddings, normalized already. -/
def vectors : VertexVectorStore ℤ (Collection ℤ) Bool := ⟨service, "c", "embedding", 1, .ok⟩

/-- An upsert of one number. -/
def upsert (value : ℤ) : Op ℤ Bool := .upsert ⟨"u1-c1", .ok .null, [value], false, false⟩

/-- Its result. -/
def result : VectorUpsertResult := ⟨"u1-c1", some "c/dataObjects/u1-c1", 1⟩

/-- Both updates miss, and the first upsert creates the object. -/
def events : List (Procedure.Event (Op ℤ Bool) Unit) :=
  [.invoke (upsert 1), .invoke (upsert 2), .advance 0 (), .advance 1 (), .advance 0 (),
    .advance 1 (), .invoke (.fetch "u1-c1" false), .advance 2 ()]

end Lost

end VertexVectorStore

end Dreamscroll
