import Dreamscroll.Common.Procedure
import Dreamscroll.Common.Whitespace
import Dreamscroll.Service.InsertIllumination
/-!
# The note on a capture

`set_annotation` and `soft_delete_annotation`, one statement at a time. Each
reads the newest active annotation of the capture and then, in a statement
of its own, inserts, updates or archives a row; nothing in the schema keeps
a capture to one active annotation. The calls behave as one note exactly
along the runs in which no annotation is inserted next to an active one
(`one_note_iff`).
-/

namespace Dreamscroll

/-- A row of `annotations`, with its user. -/
structure AnnotationRow extends AnnotationModel where
  userId : ℤ
  deriving DecidableEq, Repr

/-- The tables the two operations read and write, with the sequence of the
keys. -/
structure AnnotationTables where
  captures : List CaptureModel
  annotations : List AnnotationRow
  sequence : Sequence
  deriving DecidableEq, Repr

namespace Annotation

/-- What a user does to the note of a capture. -/
inductive Op
  | set (content : String)
  | softDelete
  deriving DecidableEq, Repr

/-- The statement a call is at, with what it has read. -/
inductive Place
  | setCapture (content : String)
  | setActive (content : String)
  | update (existing : AnnotationRow) (content : String) (now : Timestamp)
  | insert (content : String) (now : Timestamp)
  | load (id : ℤ)
  | deleteCapture
  | deleteActive
  | archive (existing : AnnotationRow) (now : Timestamp)
  deriving DecidableEq, Repr

/-- A row for `set_annotation`, none for `soft_delete_annotation`. -/
abbrev Answer := Except ApiError (Option AnnotationRow)

variable (userId captureId : ℤ)

/-! ## The statements -/

/-- `SELECT` of the capture by its id and its user. -/
def ownsCapture (tables : AnnotationTables) : Bool :=
  tables.captures.any fun c => c.id = captureId && c.userId = userId

/-- The active annotations of the user and the capture. -/
def active (tables : AnnotationTables) : List AnnotationRow :=
  tables.annotations.filter fun r =>
    r.userId = userId && r.captureId = captureId && r.archivedAt = none

/-- `ORDER BY id DESC LIMIT 1`. -/
def newestActive (tables : AnnotationTables) : Option AnnotationRow :=
  maxByKey (fun r => r.id) (active userId captureId tables)

/-- An `UPDATE` by id. -/
def updateById (tables : AnnotationTables) (id : ℤ) (f : AnnotationRow → AnnotationRow) :
    AnnotationTables :=
  { tables with annotations := tables.annotations.map fun r => if r.id = id then f r else r }

/-- The row an insert writes. -/
def newRow (content : String) (now : Timestamp) (id : ℤ) : AnnotationRow where
  id := id
  userId := userId
  captureId := captureId
  createdAt := now
  updatedAt := now
  archivedAt := none
  content := content

/-- The error of a capture that is not the user's. -/
def captureNotFound : ApiError :=
  ApiError.notFound s!"Capture with id {captureId} not found or access denied"

/-- The error of an update that finds no row. -/
def recordNotUpdated : ApiError := ApiError.internal "None of the records are updated"

/-- **The next statement of a call.** -/
def next (now : Timestamp) (tables : AnnotationTables) : Place → AnnotationTables × (Place ⊕ Answer)
  | .setCapture content =>
    if content = "" then
      (tables, .inr (.error (ApiError.badRequest "annotation content must not be empty")))
    else if ownsCapture userId captureId tables then (tables, .inl (.setActive content))
    else (tables, .inr (.error (captureNotFound captureId)))
  | .setActive content =>
    match newestActive userId captureId tables with
    | some existing =>
      if existing.content ≠ content then (tables, .inl (.update existing content now))
      else (tables, .inl (.load existing.id))
    | none => (tables, .inl (.insert content now))
  | .update existing content now =>
    if tables.annotations.any fun r => r.id = existing.id then
      (updateById tables existing.id fun r => { r with content := content, updatedAt := now },
        .inl (.load existing.id))
    else (tables, .inr (.error recordNotUpdated))
  | .insert content now =>
    match tables.sequence.nextval with
    | none => (tables, .inr (.error (exhausted "annotations_id_seq")))
    | some q =>
      ({ tables with
          annotations := tables.annotations ++ [newRow userId captureId content now q.last]
          sequence := q }, .inl (.load q.last))
  | .load id =>
    match tables.annotations.find? fun r => r.id = id with
    | some loaded => (tables, .inr (.ok (some loaded)))
    | none => (tables, .inr (.error (ApiError.internal
        s!"failed to load annotation {id} after write")))
  | .deleteCapture =>
    if ownsCapture userId captureId tables then (tables, .inl .deleteActive)
    else (tables, .inr (.error (captureNotFound captureId)))
  | .deleteActive =>
    match newestActive userId captureId tables with
    | some annotation => (tables, .inl (.archive annotation now))
    | none => (tables, .inr (.ok none))
  | .archive annotation now =>
    if tables.annotations.any fun r => r.id = annotation.id then
      (updateById tables annotation.id fun r => { r with archivedAt := some now }, .inr (.ok none))
    else (tables, .inr (.error recordNotUpdated))

/-- `set_annotation` and `soft_delete_annotation` by one user on one
capture. -/
def procedure : Procedure AnnotationTables Op Timestamp Place Answer where
  start
    | .set content => .setCapture (Content.trim content)
    | .softDelete => .deleteCapture
  next _ now tables place := next userId captureId now tables place

/-- **The note a reader is shown**, by `make_capture_info`. -/
def shownNote (maker : InfoMaker) (capture : CaptureModelEx) (tables : AnnotationTables) :
    Option String :=
  let info := maker.makeCaptureInfo { capture with
    annotations := .loaded ((tables.annotations.filter fun r => r.captureId = capture.id).map
      AnnotationRow.toAnnotationModel) }
  Option.map Schema.AnnotationInfo.content (info.annotation)

/-! ## The note as one object -/

/-- **A note.** An error leaves it as it was. -/
def note : AtomicObject (Option String) Op (Except ApiError Unit) Empty where
  answers x op r x' :=
    match op, r with
    | _, .error _ => x' = x
    | .set content, .ok () => x' = some (Content.trim content)
    | .softDelete, .ok () => x' = none
  env _ e := nomatch e

/-- No annotation is inserted next to an active one: what the call read, that
there was none, still holds. -/
def Fresh (tables : AnnotationTables) (_ : Op) : Place → Prop
  | .insert _ _ => tables.sequence.nextval ≠ none → active userId captureId tables = []
  | _ => True

instance (tables : AnnotationTables) (op : Op) :
    ∀ place, Decidable (Fresh userId captureId tables op place)
  | .insert _ _ => inferInstanceAs (Decidable (_ → _))
  | .setCapture _ | .setActive _ | .update _ _ _ | .load _ | .deleteCapture | .deleteActive
  | .archive _ _ => isTrue trivial

/-! ## What a statement does to the active annotations -/

variable {userId captureId} {tables : AnnotationTables} {row existing : AnnotationRow} {id : ℤ}
  {content : String} {now : Timestamp}

/-- The active notes are the rows of this user and this capture that no one
has archived. -/
theorem mem_active : row ∈ active userId captureId tables ↔
    row ∈ tables.annotations ∧ row.userId = userId ∧ row.captureId = captureId ∧
      row.archivedAt = none := by
  unfold active
  rw [List.mem_filter]
  simp [and_assoc]

/-- An update by id changes the content of the active note with that id, and
of no other. -/
theorem active_update :
    active userId captureId (updateById tables id fun r =>
      { r with content := content, updatedAt := now }) =
      (active userId captureId tables).map fun r =>
        if r.id = id then { r with content := content, updatedAt := now } else r := by
  unfold active updateById
  simp only [List.filter_map]
  congr 1
  refine List.filter_congr fun r _ => ?_
  simp only [Function.comp]
  split_ifs <;> rfl

/-- Archiving by id takes the note with that id out of the active ones. -/
theorem active_archive :
    active userId captureId (updateById tables id fun r => { r with archivedAt := some now }) =
      (active userId captureId tables).filter fun r => r.id ≠ id := by
  unfold active updateById
  induction tables.annotations with
  | nil => rfl
  | cons r rs ih =>
    rw [List.map_cons, List.filter_cons, List.filter_cons, ih]
    by_cases hid : r.id = id
    · simp only [if_pos hid]
      split_ifs <;> simp_all
    · simp only [if_neg hid]
      split_ifs <;> simp_all

/-- A new row is active from its insertion on. -/
theorem active_insert {q : Sequence} :
    active userId captureId { tables with
      annotations := tables.annotations ++ [newRow userId captureId content now id]
      sequence := q } =
      active userId captureId tables ++ [newRow userId captureId content now id] := by
  unfold active
  rw [List.filter_append]
  simp [newRow]

/-! ## At most one active annotation -/

/-- **The table is as the calls keep it**: keys were handed out by the
sequence, the capture's annotations are its owner's, and one of them at most
is active. -/
structure OneNote (userId captureId : ℤ) (tables : AnnotationTables) : Prop where
  keyed : ∀ r ∈ tables.annotations, r.id ≤ tables.sequence.last
  owned : ∀ r ∈ tables.annotations, r.captureId = captureId → r.userId = userId
  one : (active userId captureId tables).length ≤ 1

/-- With at most one active note there is none, or one to name. -/
theorem active_eq (h : (active userId captureId tables).length ≤ 1) :
    active userId captureId tables = [] ∨ ∃ r, active userId captureId tables = [r] := by
  match hactive : active userId captureId tables with
  | [] => exact Or.inl rfl
  | [r] => exact Or.inr ⟨r, rfl⟩
  | _ :: _ :: _ =>
    rw [hactive] at h
    simp at h

/-- The note the service reads is active. -/
theorem mem_of_newestActive (h : newestActive userId captureId tables = some existing) :
    existing ∈ active userId captureId tables := (maxByKey_eq_some h).1

/-- No newest active note means no active note at all. -/
theorem newestActive_eq_none (h : newestActive userId captureId tables = none) :
    active userId captureId tables = [] := by
  unfold newestActive at h
  cases hactive : active userId captureId tables with
  | nil => rfl
  | cons r rs =>
    rw [hactive] at h
    cases h

/-- With at most one active note, the one the service reads is the only one. -/
theorem active_eq_of_newestActive (hone : (active userId captureId tables).length ≤ 1)
    (h : newestActive userId captureId tables = some existing) :
    active userId captureId tables = [existing] := by
  have hmem := mem_of_newestActive h
  rcases active_eq hone with hnil | ⟨r, hr⟩
  · rw [hnil] at hmem
    cases hmem
  · rw [hr, List.mem_singleton] at hmem
    rw [hr, hmem]

/-- **The note shown is the active one.** -/
theorem shownNote_eq (maker : InfoMaker) {capture : CaptureModelEx} (hid : capture.id = captureId)
    (h : OneNote userId captureId tables) :
    shownNote maker capture tables =
      (active userId captureId tables).head?.map fun r => r.content := by
  have hactive : (((tables.annotations.filter fun r => r.captureId = capture.id).map
      AnnotationRow.toAnnotationModel).filter fun m => m.archivedAt = none) =
        (active userId captureId tables).map AnnotationRow.toAnnotationModel := by
    rw [List.filter_map, List.filter_filter]
    unfold active
    congr 1
    refine List.filter_congr fun r hr => ?_
    simp only [Function.comp, hid]
    by_cases hcapture : r.captureId = captureId
    · simp [hcapture, h.owned r hr hcapture]
    · simp [hcapture]
  unfold shownNote InfoMaker.makeCaptureInfo
  simp only [hactive]
  rcases active_eq h.one with hnil | ⟨r, hr⟩
  · rw [hnil]
    rfl
  · rw [hr]
    rfl

/-! ## What every call knows -/

/-- The id is one of a row. -/
def Stored (tables : AnnotationTables) (id : ℤ) : Prop := ∃ r ∈ tables.annotations, r.id = id

/-- Where a call of this operation can be. -/
def Placed (tables : AnnotationTables) : Op → Place ⊕ Answer → Prop
  | _, .inr _ => True
  | .set content, .inl place =>
    match place with
    | .setCapture text => text = Content.trim content
    | .setActive text | .insert text _ => text = Content.trim content
    | .update existing text _ => text = Content.trim content ∧ Stored tables existing.id
    | .load id => Stored tables id
    | .deleteCapture | .deleteActive | .archive _ _ => False
  | .softDelete, .inl place =>
    match place with
    | .deleteCapture | .deleteActive => True
    | .archive existing _ => Stored tables existing.id
    | _ => False

/-- Rows stay. -/
def Stays (tables tables' : AnnotationTables) : Prop :=
  ∀ id, Stored tables id → Stored tables' id

/-- The note the service has read is a stored row. -/
theorem stored_of_newestActive (h : newestActive userId captureId tables = some existing) :
    Stored tables existing.id := ⟨existing, (mem_active.1 (mem_of_newestActive h)).1, rfl⟩

/-- The row of a stored id is found by that id. -/
theorem any_of_stored (h : Stored tables id) :
    (tables.annotations.any fun r => r.id = id) = true := by
  obtain ⟨r, hr, hid⟩ := h
  exact List.any_eq_true.2 ⟨r, hr, decide_eq_true hid⟩

/-- An update by id takes no row away. -/
theorem stays_updateById {f : AnnotationRow → AnnotationRow} (hf : ∀ r, (f r).id = r.id) :
    Stays tables (updateById tables id f) := by
  rintro id' ⟨r, hr, rfl⟩
  refine ⟨if r.id = id then f r else r, List.mem_map_of_mem hr, ?_⟩
  split_ifs
  · exact hf r
  · rfl

/-- An update by id keeps every key within what the sequence has handed out. -/
theorem keyed_updateById {f : AnnotationRow → AnnotationRow} (hf : ∀ r, (f r).id = r.id)
    (h : ∀ r ∈ tables.annotations, r.id ≤ tables.sequence.last) :
    ∀ r ∈ (updateById tables id f).annotations, r.id ≤ tables.sequence.last := by
  intro r hr
  obtain ⟨r₀, hr₀, rfl⟩ := List.mem_map.1 hr
  split_ifs
  · exact (hf r₀).symm ▸ h r₀ hr₀
  · exact h r₀ hr₀

/-- Rewriting a note keeps at most one of them active. -/
theorem OneNote.update (h : OneNote userId captureId tables) :
    OneNote userId captureId (updateById tables id fun r =>
      { r with content := content, updatedAt := now }) := by
  refine ⟨keyed_updateById (fun _ => rfl) h.keyed, fun r hr => ?_, ?_⟩
  · obtain ⟨r₀, hr₀, rfl⟩ := List.mem_map.1 hr
    split_ifs
    · exact h.owned r₀ hr₀
    · exact h.owned r₀ hr₀
  · rw [active_update, List.length_map]
    exact h.one

/-- Archiving a note keeps at most one of them active. -/
theorem OneNote.archive (h : OneNote userId captureId tables) :
    OneNote userId captureId (updateById tables id fun r => { r with archivedAt := some now }) := by
  refine ⟨keyed_updateById (fun _ => rfl) h.keyed, fun r hr => ?_, ?_⟩
  · obtain ⟨r₀, hr₀, rfl⟩ := List.mem_map.1 hr
    split_ifs
    · exact h.owned r₀ hr₀
    · exact h.owned r₀ hr₀
  · rw [active_archive]
    exact (List.length_filter_le _ _).trans h.one

/-- The sequence hands out the next key. -/
theorem nextval_last {q q' : Sequence} (h : q.nextval = some q') : q'.last = q.last + 1 := by
  unfold Sequence.nextval at h
  split_ifs at h
  cases h
  rfl

/-- An insertion keeps at most one note active when none was active before it:
this is the step that a concurrent call can spoil. -/
theorem OneNote.insert {q : Sequence} (h : OneNote userId captureId tables)
    (hq : tables.sequence.nextval = some q) (hfresh : active userId captureId tables = []) :
    OneNote userId captureId { tables with
      annotations := tables.annotations ++ [newRow userId captureId content now q.last]
      sequence := q } := by
  have hlast := nextval_last hq
  refine ⟨fun r hr => ?_, fun r hr => ?_, ?_⟩
  · rcases List.mem_append.1 hr with hr | hr
    · have hold := h.keyed r hr
      show r.id ≤ q.last
      omega
    · rw [List.mem_singleton.1 hr]
      exact le_refl _
  · rcases List.mem_append.1 hr with hr | hr
    · exact h.owned r hr
    · rw [List.mem_singleton.1 hr]
      exact fun _ => rfl
  · rw [active_insert, hfresh]
    exact le_refl _

/-- A call keeps its place while rows stay. -/
theorem Placed.stays {tables' : AnnotationTables} {op : Op} {stands : Place ⊕ Answer}
    (hstays : Stays tables tables') (h : Placed tables op stands) : Placed tables' op stands := by
  cases stands with
  | inr r => cases op <;> trivial
  | inl place =>
    cases op with
    | set content =>
      cases place with
      | update existing text now => exact ⟨h.1, hstays _ h.2⟩
      | load id => exact hstays _ h
      | setCapture text | setActive text | insert text now | deleteCapture | deleteActive
      | archive existing now => exact h
    | softDelete =>
      cases place with
      | archive existing now => exact hstays _ h
      | setCapture text | setActive text | insert text now | deleteCapture | deleteActive
      | update existing text now | load id => exact h

/-- Rows stay where nothing happens. -/
theorem Stays.refl : Stays tables tables := fun _ h => h

/-- **What every statement grants**, of the table and of its own call. -/
theorem rely : Procedure.Rely (procedure userId captureId) (Fresh userId captureId)
    (OneNote userId captureId) Placed Stays where
  start tables op _ := by
    cases op with
    | set content => exact rfl
    | softDelete => trivial
  rely _ _ _ _ hstays h := h.stays hstays
  next tables op now place hone hplaced hfresh := by
    change OneNote userId captureId (next userId captureId now tables place).1 ∧
      Stays tables (next userId captureId now tables place).1 ∧
      Placed (next userId captureId now tables place).1 op (next userId captureId now tables place).2
    cases op with
    | set content =>
      cases place with
      | setCapture text =>
        simp only [next]
        split_ifs
        · exact ⟨hone, .refl, trivial⟩
        · exact ⟨hone, .refl, hplaced⟩
        · exact ⟨hone, .refl, trivial⟩
      | setActive text =>
        simp only [next]
        split
        · rename_i existing hactive
          split_ifs
          · exact ⟨hone, .refl, hplaced, stored_of_newestActive hactive⟩
          · exact ⟨hone, .refl, stored_of_newestActive hactive⟩
        · exact ⟨hone, .refl, hplaced⟩
      | update existing text at' =>
        simp only [next, any_of_stored hplaced.2, if_true]
        have hstays : Stays tables (updateById tables existing.id fun r =>
            { r with content := text, updatedAt := at' }) := stays_updateById fun _ => rfl
        exact ⟨hone.update, hstays, hstays _ hplaced.2⟩
      | insert text at' =>
        simp only [next]
        split
        · exact ⟨hone, .refl, trivial⟩
        · rename_i q hq
          -- the one statement that needs `Fresh`
          refine ⟨hone.insert hq (hfresh fun hnone => ?_), fun id hid => ?_, ?_⟩
          · rw [hq] at hnone
            cases hnone
          · obtain ⟨r, hr, heq⟩ := hid
            exact ⟨r, List.mem_append_left _ hr, heq⟩
          · exact ⟨_, List.mem_append_right _ (List.mem_singleton_self _), rfl⟩
      | load id =>
        simp only [next]
        split
        · exact ⟨hone, .refl, trivial⟩
        · exact ⟨hone, .refl, trivial⟩
      | deleteCapture | deleteActive | archive existing at' => exact hplaced.elim
    | softDelete =>
      cases place with
      | deleteCapture =>
        simp only [next]
        split_ifs
        · exact ⟨hone, .refl, trivial⟩
        · exact ⟨hone, .refl, trivial⟩
      | deleteActive =>
        simp only [next]
        split
        · rename_i existing hactive
          exact ⟨hone, .refl, stored_of_newestActive hactive⟩
        · exact ⟨hone, .refl, trivial⟩
      | archive existing at' =>
        simp only [next, any_of_stored hplaced, if_true]
        exact ⟨hone.archive, stays_updateById fun _ => rfl, trivial⟩
      | setCapture text | setActive text | update existing text at' | insert text at' | load id =>
        exact hplaced.elim

/-! ## The points of the calls -/

/-- The text of the active annotation. -/
def noteOf (userId captureId : ℤ) (tables : AnnotationTables) : Option String :=
  (active userId captureId tables).head?.map fun r => r.content

/-- A call that has read a row stands before its point while the row is
active. One whose row is no longer active has taken effect, just before the
row was archived. -/
def rowStanding (userId captureId : ℤ) (tables : AnnotationTables) (op : Op) (id : ℤ) :
    Standing Op (Except ApiError Unit) :=
  if (active userId captureId tables).any fun r => r.id = id then .invoked op
  else .answered (.ok ())

/-- What a call is committed to at its place: whether it has taken effect. -/
def standing (userId captureId : ℤ) (tables : AnnotationTables) (op : Op) :
    Place → Standing Op (Except ApiError Unit)
  | .load _ => .answered (.ok ())
  | .update existing _ _ | .archive existing _ =>
    rowStanding userId captureId tables op existing.id
  | _ => .invoked op

/-- An answer, as the object gives it. -/
def outcome (answer : Answer) : Except ApiError Unit := answer.map fun _ => ()

variable {tables' : AnnotationTables} {op : Op} {place : Place}

/-- How a call stands depends on the tables only through which stored notes
are active. -/
theorem standing_congr (hplaced : Placed tables op (.inl place))
    (h : ∀ id, Stored tables id → ((active userId captureId tables').any fun r => r.id = id) =
      (active userId captureId tables).any fun r => r.id = id) :
    standing userId captureId tables op place = standing userId captureId tables' op place := by
  unfold standing
  cases op with
  | set content =>
    cases place with
    | update existing text at' => simp only [rowStanding, h _ hplaced.2]
    | setCapture text | setActive text | insert text at' | load id => rfl
    | deleteCapture | deleteActive | archive existing at' => exact hplaced.elim
  | softDelete =>
    cases place with
    | archive existing at' => simp only [rowStanding, h _ hplaced]
    | deleteCapture | deleteActive => rfl
    | setCapture text | setActive text | update existing text at' | insert text at' | load id =>
      exact hplaced.elim

/-- The active ids are those of before. -/
theorem any_active_update (id' : ℤ) :
    ((active userId captureId (updateById tables id fun r =>
      { r with content := content, updatedAt := now })).any fun r => r.id = id') =
      (active userId captureId tables).any fun r => r.id = id' := by
  rw [active_update, List.any_map]
  congr 1
  funext r
  simp only [Function.comp]
  split_ifs <;> rfl

/-- A new key is none that a call has read. -/
theorem any_active_insert {q : Sequence} (h : OneNote userId captureId tables)
    (hq : tables.sequence.nextval = some q) (id' : ℤ) (hstored : Stored tables id') :
    ((active userId captureId { tables with
      annotations := tables.annotations ++ [newRow userId captureId content now q.last]
      sequence := q }).any fun r => r.id = id') =
      (active userId captureId tables).any fun r => r.id = id' := by
  obtain ⟨r, hr, rfl⟩ := hstored
  have hold := h.keyed r hr
  have hlast := nextval_last hq
  have hne : ¬ (newRow userId captureId content now q.last).id = r.id := by
    show ¬ (q.last : ℤ) = r.id
    omega
  rw [active_insert, List.any_append, List.any_cons, List.any_nil, decide_eq_false hne]
  simp

/-- An active note is found by its id. -/
theorem any_active_of_mem (h : row ∈ active userId captureId tables) :
    ((active userId captureId tables).any fun r => r.id = row.id) = true :=
  List.any_eq_true.2 ⟨row, h, decide_eq_true rfl⟩

/-- The note after an update by id: the new content when the updated row is
the active one, otherwise what it was. -/
theorem noteOf_update (hone : (active userId captureId tables).length ≤ 1) :
    noteOf userId captureId (updateById tables id fun r =>
      { r with content := content, updatedAt := now }) =
      if (active userId captureId tables).any fun r => r.id = id then some content
      else noteOf userId captureId tables := by
  unfold noteOf
  rw [active_update]
  rcases active_eq hone with hnil | ⟨r, hr⟩
  · rw [hnil]
    rfl
  · rw [hr]
    by_cases hid : r.id = id
    · simp [hid]
    · simp [hid]

/-- The note after archiving by id: none when the archived row was the active
one, otherwise what it was. -/
theorem noteOf_archive (hone : (active userId captureId tables).length ≤ 1) :
    noteOf userId captureId (updateById tables id fun r => { r with archivedAt := some now }) =
      if (active userId captureId tables).any fun r => r.id = id then none
      else noteOf userId captureId tables := by
  unfold noteOf
  rw [active_archive]
  rcases active_eq hone with hnil | ⟨r, hr⟩
  · rw [hnil]
    rfl
  · rw [hr]
    by_cases hid : r.id = id
    · simp [hid]
    · simp [hid]

/-- A statement that leaves the others where they stand. -/
theorem matched_of_next (tables' : AnnotationTables) (stands : Place ⊕ Answer)
    (hresult : next userId captureId now tables place = (tables', stands))
    (hsame : ∀ id, Stored tables id → ((active userId captureId tables').any fun r => r.id = id) =
      (active userId captureId tables).any fun r => r.id = id)
    (hown : Procedure.Own note op (noteOf userId captureId tables)
      (standing userId captureId tables op place) (noteOf userId captureId tables')
      (stands.map (standing userId captureId tables' op) outcome)) :
    Procedure.Matched (noteOf userId captureId) (standing userId captureId) outcome
      (procedure userId captureId) Placed note op now tables place := by
  refine Procedure.Matched.of_unchanged (fun op' place' hplaced => ?_) ?_
  · change _ = standing userId captureId (next userId captureId now tables place).1 op' place'
    rw [hresult]
    exact standing_congr hplaced hsame
  · change Procedure.Own note op _ _ (noteOf userId captureId
      (next userId captureId now tables place).1)
        ((next userId captureId now tables place).2.map (standing userId captureId
          (next userId captureId now tables place).1 op) outcome)
    rw [hresult]
    exact hown

/-- An error is an answer at any time. -/
theorem own_error {e : ApiError} {note' : Option String} :
    Procedure.Own note op note' (.invoked op) note' (.inr (.error e)) := by
  refine .both ?_
  cases op <;> rfl

/-- The read of a set call changes nothing. When the note has the text
already, the call takes effect there and then. -/
theorem matched_setActive {text : String} (hone : OneNote userId captureId tables)
    (htext : text = Content.trim content) :
    Procedure.Matched (noteOf userId captureId) (standing userId captureId) outcome
      (procedure userId captureId) Placed note (.set content) now tables (.setActive text) := by
  cases hactive : newestActive userId captureId tables with
  | none =>
    refine matched_of_next tables (.inl (.insert text now)) ?_ (fun _ _ => rfl) .silent
    simp only [next, hactive]
  | some existing =>
    have hsome := active_eq_of_newestActive hone.one hactive
    by_cases hcontent : existing.content ≠ text
    · refine matched_of_next tables (.inl (.update existing text now)) ?_ (fun _ _ => rfl) ?_
      · simp only [next, hactive, if_pos hcontent]
      · have hstanding : standing userId captureId tables (.set content)
            (.update existing text now) = .invoked (.set content) := by
          unfold standing
          exact if_pos (any_active_of_mem (mem_of_newestActive hactive))
        change Procedure.Own note _ _ (.invoked _) _ (.inl (standing userId captureId tables
          (.set content) (.update existing text now)))
        rw [hstanding]
        exact .silent
    · refine matched_of_next tables (.inl (.load existing.id)) ?_ (fun _ _ => rfl) (.point ?_)
      · simp only [next, hactive, if_neg hcontent]
      · -- the text is there already
        change noteOf userId captureId tables = some (Content.trim content)
        unfold noteOf
        rw [hsome, ← htext]
        exact congrArg some (not_not.1 hcontent)

/-- The update of a set call is the call itself when its row is still active;
otherwise another call has taken the note in between. -/
theorem matched_update {text : String} (hone : OneNote userId captureId tables)
    (htext : text = Content.trim content) (hstored : Stored tables existing.id)
    {at' : Timestamp} :
    Procedure.Matched (noteOf userId captureId) (standing userId captureId) outcome
      (procedure userId captureId) Placed note (.set content) now tables
        (.update existing text at') := by
  refine matched_of_next (updateById tables existing.id fun r =>
    { r with content := text, updatedAt := at' }) (.inl (.load existing.id)) ?_
      (fun id _ => any_active_update id) ?_
  · simp only [next, any_of_stored hstored, if_true]
  · rw [noteOf_update hone.one]
    change Procedure.Own note _ _ (if _ then _ else _) _ (.inl (.answered (.ok ())))
    split_ifs
    · exact .point (congrArg some htext)
    · exact .silent

/-- The insertion of a set call is the call itself, given that no note was
active just before it. -/
theorem matched_insert {text : String} (hone : OneNote userId captureId tables)
    (htext : text = Content.trim content) {at' : Timestamp}
    (hfresh : Fresh userId captureId tables (.set content) (.insert text at')) :
    Procedure.Matched (noteOf userId captureId) (standing userId captureId) outcome
      (procedure userId captureId) Placed note (.set content) now tables (.insert text at') := by
  cases hq : tables.sequence.nextval with
  | none =>
    refine matched_of_next tables (.inr (.error (exhausted "annotations_id_seq"))) ?_
      (fun _ _ => rfl) own_error
    simp only [next, hq]
  | some q =>
    have hempty : active userId captureId tables = [] := hfresh fun hnone => by
      rw [hq] at hnone
      cases hnone
    refine matched_of_next { tables with
      annotations := tables.annotations ++ [newRow userId captureId text at' q.last]
      sequence := q } (.inl (.load q.last)) ?_
        (fun id hid => any_active_insert hone hq id hid) (.point ?_)
    · simp only [next, hq]
    · change noteOf userId captureId _ = some (Content.trim content)
      unfold noteOf
      rw [active_insert, hempty, ← htext]
      rfl

/-- The read of a delete call changes nothing. When no note is active, the
call takes effect there and then. -/
theorem matched_deleteActive :
    Procedure.Matched (noteOf userId captureId) (standing userId captureId) outcome
      (procedure userId captureId) Placed note .softDelete now tables .deleteActive := by
  cases hactive : newestActive userId captureId tables with
  | none =>
    refine matched_of_next tables (.inr (.ok none)) ?_ (fun _ _ => rfl) (.both ?_)
    · simp only [next, hactive]
    · change noteOf userId captureId tables = none
      unfold noteOf
      rw [newestActive_eq_none hactive]
      rfl
  | some existing =>
    refine matched_of_next tables (.inl (.archive existing now)) ?_ (fun _ _ => rfl) ?_
    · simp only [next, hactive]
    · have hstanding : standing userId captureId tables .softDelete (.archive existing now) =
          .invoked .softDelete := by
        exact if_pos (any_active_of_mem (mem_of_newestActive hactive))
      change Procedure.Own note _ _ (.invoked _) _ (.inl (standing userId captureId tables
        .softDelete (.archive existing now)))
      rw [hstanding]
      exact .silent

/-- An archived note is no longer active. -/
theorem any_active_archive_self :
    ((active userId captureId (updateById tables id fun r =>
      { r with archivedAt := some now })).any fun r => r.id = id) = false := by
  rw [active_archive, List.any_filter, List.any_eq_false]
  intro r _
  by_cases hid : r.id = id <;> simp [hid]

/-- Archiving one note leaves the others as they are. -/
theorem any_active_archive_of_ne {id' : ℤ} (h : id' ≠ id) :
    ((active userId captureId (updateById tables id fun r =>
      { r with archivedAt := some now })).any fun r => r.id = id') =
      (active userId captureId tables).any fun r => r.id = id' := by
  rw [active_archive, List.any_filter]
  congr 1
  funext r
  by_cases hid : r.id = id'
  · simp [hid, h]
  · simp [hid]

/-- Archiving a row leaves every other call where it stood, except for a
delete of the same row, which thereby has nothing left to do. -/
theorem rowStanding_archive (op : Op) (id' : ℤ) :
    rowStanding userId captureId (updateById tables id fun r =>
      { r with archivedAt := some now }) op id' = rowStanding userId captureId tables op id' ∨
    rowStanding userId captureId tables op id' = .invoked op ∧
      rowStanding userId captureId (updateById tables id fun r =>
        { r with archivedAt := some now }) op id' = .answered (.ok ()) := by
  unfold rowStanding
  by_cases hid : id' = id
  · rw [hid, any_active_archive_self]
    by_cases hactive : ((active userId captureId tables).any fun r => r.id = id) = true
    · exact Or.inr ⟨if_pos hactive, rfl⟩
    · exact Or.inl (if_neg hactive).symm
  · rw [any_active_archive_of_ne hid]
    exact Or.inl rfl

/-- Archiving a row brings the points of the calls that have read it. -/
theorem standing_archive (op : Op) (place : Place) :
    standing userId captureId tables op place = standing userId captureId
      (updateById tables id fun r => { r with archivedAt := some now }) op place ∨
      ∃ r, standing userId captureId tables op place = .invoked op ∧
        standing userId captureId (updateById tables id fun r =>
          { r with archivedAt := some now }) op place = .answered r ∧
        ∀ x, ∃ x', note.answers x op r x' := by
  have hany : ∀ x, ∃ x', note.answers x op (.ok ()) x' := by
    intro x
    cases op with
    | set content => exact ⟨_, rfl⟩
    | softDelete => exact ⟨_, rfl⟩
  cases place with
  | update existing text at' =>
    rcases rowStanding_archive op existing.id with heq | ⟨hbefore, hafter⟩
    · exact Or.inl heq.symm
    · exact Or.inr ⟨.ok (), hbefore, hafter, hany⟩
  | archive existing at' =>
    rcases rowStanding_archive op existing.id with heq | ⟨hbefore, hafter⟩
    · exact Or.inl heq.symm
    · exact Or.inr ⟨.ok (), hbefore, hafter, hany⟩
  | setCapture text | setActive text | insert text at' | load id' | deleteCapture | deleteActive =>
    exact Or.inl rfl

/-- The rows it archives are those of every call that has read them, and
these take effect first. -/
theorem matched_archive (hone : OneNote userId captureId tables)
    (hstored : Stored tables existing.id) {at' : Timestamp} :
    Procedure.Matched (noteOf userId captureId) (standing userId captureId) outcome
      (procedure userId captureId) Placed note .softDelete now tables (.archive existing at') := by
  let archived := updateById tables existing.id fun r => { r with archivedAt := some at' }
  have hresult : next userId captureId now tables (.archive existing at') =
      (archived, .inr (.ok none)) := by
    simp only [next, any_of_stored hstored, if_true]
    rfl
  have hnext : (procedure userId captureId).next .softDelete now tables (.archive existing at') =
      (archived, .inr (.ok none)) := hresult
  have hnote : noteOf userId captureId archived = _ := noteOf_archive hone.one
  refine ⟨fun op' place' _ => ?_, fun a ha => ?_⟩
  · rw [hnext]
    exact standing_archive op' place'
  · rw [hnext] at ha ⊢
    change Procedure.Own note .softDelete a (rowStanding userId captureId tables .softDelete
      existing.id) (noteOf userId captureId archived) (.inr (.ok ()))
    by_cases hactive : ((active userId captureId tables).any fun r => r.id = existing.id) = true
    · rw [if_pos hactive] at hnote
      rw [rowStanding, if_pos hactive]
      exact .both hnote
    · -- what it archives was archived before, so no other call moves
      have hsame : ∀ id, ((active userId captureId archived).any fun r => r.id = id) =
          (active userId captureId tables).any fun r => r.id = id := by
        intro id
        by_cases hid : id = existing.id
        · rw [hid, any_active_archive_self, Bool.eq_false_iff.2 hactive]
        · exact any_active_archive_of_ne hid
      have ha' : a = noteOf userId captureId archived := by
        rcases ha with rfl | ⟨op', place', hplaced, hne⟩
        · rw [hnote, if_neg hactive]
        · exact absurd (standing_congr hplaced fun id _ => hsame id) hne
      rw [rowStanding, if_neg hactive, ha']
      exact .respond

/-- **Every statement takes its points.** -/
theorem matched (hone : OneNote userId captureId tables) (hplaced : Placed tables op (.inl place))
    (hfresh : Fresh userId captureId tables op place) :
    Procedure.Matched (noteOf userId captureId) (standing userId captureId) outcome
      (procedure userId captureId) Placed note op now tables place := by
  cases op with
  | set content =>
    cases place with
    | setCapture text =>
      by_cases hempty : text = ""
      · refine matched_of_next tables (.inr (.error (ApiError.badRequest
          "annotation content must not be empty"))) ?_ (fun _ _ => rfl) own_error
        simp only [next, if_pos hempty]
      · by_cases howns : ownsCapture userId captureId tables = true
        · refine matched_of_next tables (.inl (.setActive text)) ?_ (fun _ _ => rfl) .silent
          simp only [next, if_neg hempty, if_pos howns]
        · refine matched_of_next tables (.inr (.error (captureNotFound captureId))) ?_
            (fun _ _ => rfl) own_error
          simp only [next, if_neg hempty, if_neg howns]
    | setActive text => exact matched_setActive hone hplaced
    | update existing text at' => exact matched_update hone hplaced.1 hplaced.2
    | insert text at' => exact matched_insert hone hplaced hfresh
    | load id =>
      have hsome : ∃ r, (tables.annotations.find? fun r => r.id = id) = some r := by
        obtain ⟨r, hr, hid⟩ := hplaced
        exact Option.isSome_iff_exists.1 (List.find?_isSome.2 ⟨r, hr, decide_eq_true hid⟩)
      obtain ⟨r, hr⟩ := hsome
      refine matched_of_next tables (.inr (.ok (some r))) ?_ (fun _ _ => rfl) .respond
      simp only [next, hr]
    | deleteCapture | deleteActive | archive existing at' => exact hplaced.elim
  | softDelete =>
    cases place with
    | deleteCapture =>
      by_cases howns : ownsCapture userId captureId tables = true
      · refine matched_of_next tables (.inl .deleteActive) ?_ (fun _ _ => rfl) .silent
        simp only [next, if_pos howns]
      · refine matched_of_next tables (.inr (.error (captureNotFound captureId))) ?_
          (fun _ _ => rfl) own_error
        simp only [next, if_neg howns]
    | deleteActive => exact matched_deleteActive
    | archive existing at' => exact matched_archive hone hplaced
    | setCapture text | setActive text | update existing text at' | insert text at' | load id =>
      exact hplaced.elim

/-! ## A delete after the last set -/

/-- The tables, and where the calls are. -/
abbrev NoteState := Procedure.State AnnotationTables Op Place Answer

/-- A call begins, or runs its next statement. -/
abbrev NoteEvent := Procedure.Event Op Timestamp

/-- Every `set_annotation` has answered. -/
def SetsReturned (s : NoteState) : Prop :=
  ∀ call ∈ s.calls, ∀ content, call.op = .set content → ∃ r, call.stands = .inr r

/-- What a delete has done: found the row that is active, or left none
active. -/
def Deletes (userId captureId : ℤ) (tables : AnnotationTables) : Place ⊕ Answer → Prop
  | .inl (.archive existing _) => ∀ r ∈ active userId captureId tables, r.id = existing.id
  | .inr (.ok _) => active userId captureId tables = []
  | _ => True

/-- The delete is the call `d`, and no set is under way. -/
structure Deleting (userId captureId : ℤ) (d : ℕ) (s : NoteState) : Prop where
  inv : Procedure.Inv (OneNote userId captureId) Placed s
  sets : SetsReturned s
  own : ∀ call, s.calls[d]? = some call →
    call.op = .softDelete ∧ Deletes userId captureId s.shared call.stands

variable {s s' : NoteState} {e : NoteEvent} {d : ℕ}

/-- A delete makes no annotation active. -/
theorem active_subset_of_delete (hplaced : Placed tables .softDelete (.inl place)) :
    active userId captureId (next userId captureId now tables place).1 ⊆
      active userId captureId tables := by
  cases place with
  | deleteCapture =>
    simp only [next]
    split_ifs <;> exact List.Subset.refl _
  | deleteActive =>
    simp only [next]
    split <;> exact List.Subset.refl _
  | archive existing at' =>
    simp only [next]
    split_ifs
    · rw [active_archive]
      exact List.filter_subset_self _
    · exact List.Subset.refl _
  | setCapture text | setActive text | update existing text at' | insert text at' | load id =>
    exact hplaced.elim

/-- What a delete has done stays done while notes only go. -/
theorem Deletes.subset {stands : Place ⊕ Answer}
    (hsub : active userId captureId tables' ⊆ active userId captureId tables)
    (h : Deletes userId captureId tables stands) : Deletes userId captureId tables' stands := by
  match stands, h with
  | .inl (.archive existing at'), h => exact fun r hr => h r (hsub hr)
  | .inr (.ok _), h => exact List.subset_nil.1 (List.Subset.trans hsub (List.subset_nil.2 h))
  | .inr (.error _), _ => trivial
  | .inl (.setCapture _), _ | .inl (.setActive _), _ | .inl (.update _ _ _), _
  | .inl (.insert _ _), _ | .inl (.load _), _ | .inl .deleteCapture, _
  | .inl .deleteActive, _ => trivial

/-- The statement of the delete itself. -/
theorem deletes_next (hone : OneNote userId captureId tables)
    (hplaced : Placed tables .softDelete (.inl place))
    (h : Deletes userId captureId tables (.inl place)) :
    Deletes userId captureId (next userId captureId now tables place).1
      (next userId captureId now tables place).2 := by
  cases place with
  | deleteCapture =>
    simp only [next]
    split_ifs <;> trivial
  | deleteActive =>
    simp only [next]
    split
    · rename_i existing hactive
      intro r hr
      rw [active_eq_of_newestActive hone.one hactive, List.mem_singleton] at hr
      rw [hr]
    · rename_i hactive
      exact newestActive_eq_none hactive
  | archive existing at' =>
    simp only [next, any_of_stored hplaced, if_true]
    change active userId captureId _ = []
    rw [active_archive, List.filter_eq_nil_iff]
    intro r hr
    simp [h r hr]
  | setCapture text | setActive text | update existing text at' | insert text at' | load id =>
    exact hplaced.elim

/-- As long as no one calls set, what the delete has done stays done through
every step of the others. -/
theorem Deleting.step (h : Deleting userId captureId d s)
    (hstep : (procedure userId captureId).system.step s e = some s')
    (hfresh : Procedure.At (Fresh userId captureId) s e s')
    (hset : ∀ content, e ≠ .invoke (.set content)) : Deleting userId captureId d s' := by
  have hinv := rely.step h.inv hstep hfresh
  rcases Procedure.step_cases hstep with ⟨op, rfl, rfl⟩ | ⟨c, now, op, place, rfl, hc, rfl⟩
  · have hop : op = .softDelete := by
      cases op with
      | set content => exact absurd rfl (hset content)
      | softDelete => rfl
    subst hop
    refine ⟨hinv, fun call hcall content hcontent => ?_, fun call hcall => ?_⟩
    · rcases List.mem_append.1 hcall with hcall | hcall
      · exact h.sets call hcall content hcontent
      · rw [List.mem_singleton.1 hcall] at hcontent
        cases hcontent
    · rcases getElem?_concat_eq_some hcall with ⟨-, rfl⟩ | hcall
      · exact ⟨rfl, trivial⟩
      · exact h.own call hcall
  · have hop : op = .softDelete := by
      cases op with
      | set content =>
        obtain ⟨r, hr⟩ := h.sets _ (mem_of_getElem? hc) content rfl
        cases hr
      | softDelete => rfl
    subst hop
    have hplaced : Placed s.shared .softDelete (.inl place) := h.inv.2 _ (mem_of_getElem? hc)
    refine ⟨hinv, fun call hcall content hcontent => ?_, fun call hcall => ?_⟩
    · rcases mem_set_of_some hcall with rfl | ⟨j, -, hj⟩
      · cases hcontent
      · exact h.sets call (mem_of_getElem? hj) content hcontent
    · rcases getElem?_set_eq_some hcall with ⟨rfl, rfl⟩ | ⟨-, hcall⟩
      · exact ⟨rfl, deletes_next h.inv.1 hplaced (h.own _ hc).2⟩
      · obtain ⟨hop, hdeletes⟩ := h.own call hcall
        exact ⟨hop, hdeletes.subset (active_subset_of_delete hplaced)⟩

/-! ## The calls behave as one note -/

variable {es : List NoteEvent}

/-- An annotation that is inserted next to an active one is a second. -/
theorem fresh_of_one (hstep : (procedure userId captureId).system.step s e = some s')
    (hone : (active userId captureId s'.shared).length ≤ 1) :
    Procedure.At (Fresh userId captureId) s e s' := by
  rcases Procedure.step_cases hstep with ⟨op, rfl, rfl⟩ | ⟨c, now, op, place, rfl, hc, rfl⟩
  · trivial
  · intro op' place' hc'
    rw [hc] at hc'
    cases hc'
    cases place with
    | insert content at' =>
      intro hroom
      obtain ⟨q, hq⟩ := Option.ne_none_iff_exists'.1 hroom
      change (active userId captureId (next userId captureId now s.shared
        (.insert content at')).1).length ≤ 1 at hone
      simp only [next, hq, active_insert, List.length_append, List.length_singleton] at hone
      exact List.eq_nil_of_length_eq_zero (by omega)
    | setCapture text | setActive text | update existing text at' | load id | deleteCapture
    | deleteActive | archive existing at' => trivial

/-- **The calls behave as one note exactly where no annotation is inserted
next to an active one.** Then at most one annotation is active at all times;
once every call has answered, the note shown is that of the calls in one
order, each between its invocation and its answer; and where a delete has
returned that was invoked after the last set had, no note is shown. -/
theorem one_note_iff (maker : InfoMaker) {capture : CaptureModelEx} (hid : capture.id = captureId)
    (hstart : OneNote userId captureId tables)
    (h : (procedure userId captureId).system.run (.start tables) es = some s) :
    (procedure userId captureId).system.Along (Procedure.At (Fresh userId captureId))
        (.start tables) es ↔
      (procedure userId captureId).system.Along
        (fun _ _ s' => (active userId captureId s'.shared).length ≤ 1) (.start tables) es ∧
      (Procedure.Returned s → ∃ ms,
        Exec note (shownNote maker capture tables) (fun _ => .idle) ms
          (shownNote maker capture s.shared) (fun _ => .idle) ∧
        itemsOf ms = Procedure.answers outcome s) ∧
      ∀ es₁ es₂ s₁, es = es₁ ++ .invoke .softDelete :: es₂ →
        (procedure userId captureId).system.run (.start tables) es₁ = some s₁ →
        SetsReturned s₁ → (∀ content, .invoke (.set content) ∉ es₂) →
        (∃ call, s.calls[s₁.calls.length]? = some call ∧ call.stands = .inr (.ok none)) →
        shownNote maker capture s.shared = none := by
  constructor
  · intro hfresh
    have hinv := rely.run (Procedure.inv_start hstart) h hfresh
    have halong := (System.run_inv_to (I := Procedure.Inv (OneNote userId captureId) Placed)
      (Q := fun _ _ s' => (active userId captureId s'.shared).length ≤ 1)
      (fun _ _ _ _ ht hstep _ hP => ⟨rely.step ht hstep hP, (rely.step ht hstep hP).1.one⟩)
      (Procedure.inv_start hstart) h hfresh).2
    refine ⟨halong, fun hreturned => ?_, ?_⟩
    · have hexec : ∃ ms, Exec note (noteOf userId captureId tables) (fun _ => .idle) ms
          (noteOf userId captureId s.shared)
            (Procedure.standing (standing userId captureId) s) ∧
          itemsOf ms = Procedure.answers outcome s :=
        Procedure.exec_of_matched rely (fun _ op => by cases op <;> rfl)
          (fun _ _ _ _ hone hplaced hP => matched hone hplaced hP) hstart h hfresh
      -- the calls are those of the atomic note, each at its matched statement
      obtain ⟨ms, hms, hitems⟩ := hexec
      rw [hreturned.standing_eq] at hms
      rw [shownNote_eq maker hid hstart, shownNote_eq maker hid hinv.1]
      exact ⟨ms, hms, hitems⟩
    · rintro es₁ es₂ s₁ rfl hrun₁ hsets hset ⟨call, hcall, hok⟩
      -- cut the run where the delete is called
      obtain ⟨t, ht, hrest⟩ := System.run_append_eq_some.1 h
      rw [hrun₁] at ht
      cases ht
      obtain ⟨hfresh₁, hfresh₂⟩ := (System.along_append hrun₁).1 hfresh
      have hdeleting₁ : Deleting userId captureId s₁.calls.length s₁ := by
        refine ⟨rely.run (Procedure.inv_start hstart) hrun₁ hfresh₁, hsets, fun call hcall => ?_⟩
        rw [List.getElem?_eq_none (le_refl _)] at hcall
        cases hcall
      have hevents : ∀ e ∈ (.invoke .softDelete :: es₂ : List NoteEvent),
          ∀ content, e ≠ .invoke (.set content) := by
        rintro e he content rfl
        rcases List.mem_cons.1 he with heq | he
        · cases heq
        · exact hset content he
      have hdeleting := System.run_inv_along
        (fun _ _ _ ht hstep hP => Deleting.step ht hstep hP.1 hP.2) hdeleting₁ hrest
        (System.along_and.2 ⟨hfresh₂, System.along_of_forall_mem hevents⟩)
      have hnone := (hdeleting.own call hcall).2
      rw [hok] at hnone
      rw [shownNote_eq maker hid hinv.1, show active userId captureId s.shared = [] from hnone]
      rfl
  · rintro ⟨hone, -, -⟩
    exact System.Along.imp (fun _ _ _ hstep hone => fresh_of_one hstep hone) hone

/-! ### Two sets at once, and one after the other -/

/-- A maker for a reader who looks at the note alone. -/
def aMaker : InfoMaker := ⟨fun _ => "", fun _ => ""⟩

/-- The capture the note is on. -/
def aNotedCapture : CaptureModelEx where
  id := 9
  userId := 1
  createdAt := 0
  archivedAt := none
  medias := .unloaded
  illuminations := .unloaded
  annotations := .unloaded

/-- Its tables, before the first note. -/
def noNotes : AnnotationTables := ⟨[aNotedCapture.toCaptureModel], [], ⟨0⟩⟩

/-- Empty tables hold at most one note. -/
theorem oneNote_noNotes : OneNote 1 9 noNotes :=
  ⟨List.forall_mem_nil _, List.forall_mem_nil _, Nat.zero_le _⟩

/-- Both sets find no active annotation before either inserts one. -/
def raceEvents : List NoteEvent :=
  [.invoke (.set "a"), .invoke (.set "b"), .advance 0 1, .advance 0 1, .advance 1 1, .advance 1 1,
    .advance 0 2, .advance 1 3, .advance 0 4, .advance 1 4]

/-- The delete comes after both. -/
def deleteEvents : List NoteEvent := [.invoke .softDelete, .advance 2 5, .advance 2 5, .advance 2 6]

/-- The state after the two calls. -/
def raced : NoteState :=
  ((procedure 1 9).system.run (.start noNotes) raceEvents).get (by decide)

/-- And after the deletion. -/
def racedDeleted : NoteState :=
  ((procedure 1 9).system.run (.start noNotes) (raceEvents ++ deleteEvents)).get (by decide)

/-- Two annotations are active, and the delete hides only the newer. -/
theorem two_notes :
    ((procedure 1 9).system.run (.start noNotes) raceEvents = some raced ∧
      (active 1 9 raced.shared).length = 2) ∧
    (procedure 1 9).system.run (.start noNotes) (raceEvents ++ deleteEvents) = some racedDeleted ∧
    SetsReturned raced ∧ (racedDeleted.calls[2]?).map Procedure.Call.stands =
      some (.inr (.ok none)) ∧ shownNote aMaker aNotedCapture racedDeleted.shared = some "a" := by
  refine ⟨⟨(Option.some_get _).symm, by decide⟩, (Option.some_get _).symm, ?_, by decide, by decide⟩
  have hright : ∀ call ∈ raced.calls, call.stands.isRight = true := by decide
  intro call hcall content _
  exact Sum.isRight_iff.1 (hright call hcall)

/-- The second set finds the annotation of the first. -/
def turnEvents : List NoteEvent :=
  [.invoke (.set "a"), .advance 0 1, .advance 0 1, .advance 0 2, .advance 0 3, .invoke (.set "b"),
    .advance 1 4, .advance 1 4, .advance 1 5, .advance 1 6] ++ deleteEvents

/-- Two set calls and a delete, one after the other: at most one note is
active after every step. -/
theorem one_note_in_turn :
    (procedure 1 9).system.Along (fun _ _ s' => (active 1 9 s'.shared).length ≤ 1)
      (.start noNotes) turnEvents :=
  ((one_note_iff (s := ((procedure 1 9).system.run (.start noNotes) turnEvents).get (by decide))
    aMaker (show aNotedCapture.id = 9 from rfl) oneNote_noNotes (Option.some_get _).symm).1
      (by decide)).1

end Annotation

end Dreamscroll
