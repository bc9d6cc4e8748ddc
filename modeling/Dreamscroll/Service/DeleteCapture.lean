import Dreamscroll.Service.Annotation
import Dreamscroll.Service.InsertCapture
import Dreamscroll.Service.InsertSpark
/-!
# Deleting a capture

`delete_capture`: the lookup of the capture, six deletes of the rows that
hang off it, and the delete of the capture, each a statement of its own.
The foreign keys are those of the `belongs_to` relations, and a statement
that would leave a row without what it refers to fails.

A call that returns has deleted the capture and all that hangs off it, and
nothing else. One that fails keeps the deletes before the one that failed:
it changes nothing exactly where those found nothing (`delete_safe_iff`).
-/

namespace Dreamscroll

/-- A row of `illumination_raws`. -/
structure IlluminationRawModel where
  id : ℤ
  userId : ℤ
  captureId : ℤ
  mediaId : ℤ
  taskRunId : String
  inferenceMetaId : Option ℤ
  content : String
  deriving DecidableEq, Repr

/-- The tables that refer to a capture, and those that refer to them. -/
structure CaptureTables where
  captures : List CaptureModel
  searchIndex : List SearchIndexModel
  knowledgeEntities : List KnowledgeEntityModel
  illuminationRaws : List IlluminationRawModel
  illuminations : List IlluminationModel
  medias : List MediaRow
  annotations : List AnnotationRow
  sparkInputRefs : List SparkInputRefModel
  sparkOutputRefs : List SparkOutputRefModel
  deriving DecidableEq, Repr

/-- A statement of the deletion. -/
abbrev CaptureSql := Sql CaptureTables Unit ApiError

namespace DeleteCapture

/-- Rows of the table are referred to. -/
def stillReferenced (table : String) : ApiError :=
  ApiError.internal ("update or delete on table \"" ++ table ++
    "\" violates a foreign key constraint")

/-- A delete from a table nothing refers to. -/
def unreferenced (apply : CaptureTables → CaptureTables) : Sql.Checked CaptureTables ApiError :=
  ⟨fun _ => false, ApiError.internal "", apply⟩

section Statements

variable (userId captureId : ℤ)

/-- Its rows of the search index, which nothing refers to. -/
def deleteSearchIndex : Sql.Checked CaptureTables ApiError :=
  unreferenced fun t => { t with
    searchIndex := t.searchIndex.filter fun r => ¬ (r.userId = userId ∧ r.captureId = captureId) }

/-- Its entities. -/
def deleteKnowledgeEntities : Sql.Checked CaptureTables ApiError :=
  unreferenced fun t => { t with
    knowledgeEntities := t.knowledgeEntities.filter fun r => ¬ (r.userId = userId ∧ r.captureId = captureId) }

/-- Its raw results. -/
def deleteIlluminationRaws : Sql.Checked CaptureTables ApiError :=
  unreferenced fun t => { t with
    illuminationRaws := t.illuminationRaws.filter fun r => ¬ (r.userId = userId ∧ r.captureId = captureId) }

/-- Entities and index rows refer to an illumination. -/
def deleteIlluminations : Sql.Checked CaptureTables ApiError where
  blocked t := t.illuminations.any fun r => (r.userId = userId && r.captureId = captureId) &&
    (t.searchIndex.any (fun other => other.illuminationId = r.id) ||
      t.knowledgeEntities.any fun other => other.illuminationId = r.id)
  violation := stillReferenced "illuminations"
  apply t := { t with
    illuminations := t.illuminations.filter fun r => ¬ (r.userId = userId ∧ r.captureId = captureId) }

/-- Raw outputs refer to a media. -/
def deleteMedias : Sql.Checked CaptureTables ApiError where
  blocked t := t.medias.any fun r => (r.userId = userId && r.captureId = captureId) &&
    t.illuminationRaws.any fun other => other.mediaId = r.id
  violation := stillReferenced "medias"
  apply t := { t with
    medias := t.medias.filter fun r => ¬ (r.userId = userId ∧ r.captureId = captureId) }

/-- And its notes. -/
def deleteAnnotations : Sql.Checked CaptureTables ApiError :=
  unreferenced fun t => { t with
    annotations := t.annotations.filter fun r => ¬ (r.userId = userId ∧ r.captureId = captureId) }

/-- All the other tables refer to a capture. -/
def deleteById : Sql.Checked CaptureTables ApiError where
  blocked t := (t.captures.any fun r => r.id = captureId) &&
    (t.searchIndex.any (fun r => r.captureId = captureId) ||
      t.knowledgeEntities.any (fun r => r.captureId = captureId) ||
      t.illuminationRaws.any (fun r => r.captureId = captureId) ||
      t.illuminations.any (fun r => r.captureId = captureId) ||
      t.medias.any (fun r => r.captureId = captureId) ||
      t.annotations.any (fun r => r.captureId = captureId) ||
      t.sparkInputRefs.any (fun r => r.captureId = captureId) ||
      t.sparkOutputRefs.any fun r => r.captureId = captureId)
  violation := stillReferenced "captures"
  apply t := { t with captures := t.captures.filter fun r => r.id ≠ captureId }

/-- The deletes, in order. -/
def deletes : List (Sql.Checked CaptureTables ApiError) :=
  [deleteSearchIndex userId captureId, deleteKnowledgeEntities userId captureId,
    deleteIlluminationRaws userId captureId, deleteIlluminations userId captureId,
    deleteMedias userId captureId, deleteAnnotations userId captureId, deleteById captureId]

end Statements

/-- **`delete_capture`**, called by this user. -/
def deleteCapture (userId captureId : ℤ) : CaptureSql PUnit := do
  let capture ← Sql.select fun t => t.captures.find? fun r => r.id = captureId
  match capture with
  | none => throw (ApiError.notFound s!"Capture with id {captureId} not found")
  | some capture =>
    if capture.userId ≠ userId then
      throw (ApiError.notFound s!"Capture with id {captureId} not found or access denied")
    else (deletes userId captureId).forM fun delete => delete.run

/-! ## What a call should do -/

/-- The tables without the capture, and without what hangs off it. -/
def without (t : CaptureTables) (captureId : ℤ) : CaptureTables where
  captures := t.captures.filter fun r => r.id ≠ captureId
  searchIndex := t.searchIndex.filter fun r => r.captureId ≠ captureId
  knowledgeEntities := t.knowledgeEntities.filter fun r => r.captureId ≠ captureId
  illuminationRaws := t.illuminationRaws.filter fun r => r.captureId ≠ captureId
  illuminations := t.illuminations.filter fun r => r.captureId ≠ captureId
  medias := t.medias.filter fun r => r.captureId ≠ captureId
  annotations := t.annotations.filter fun r => r.captureId ≠ captureId
  sparkInputRefs := t.sparkInputRefs
  sparkOutputRefs := t.sparkOutputRefs

/-- **A failed delete changes nothing**, and one that returns deletes the
capture and what hangs off it, whoever's it is. -/
structure Safe (userId captureId : ℤ) (s : Session CaptureTables Unit ApiError) : Prop where
  failed : ∀ e s', deleteCapture userId captureId s = .error e s' → s'.tables = s.tables
  returned : ∀ u s', deleteCapture userId captureId s = .ok u s' →
    s'.tables = without s.tables captureId

/-! ## The deletes, on the tables before the call -/

section Conditions

variable (userId captureId : ℤ) (t : CaptureTables)

/-- The delete at this position finds a row. -/
def Hits : ℕ → Prop
  | 0 => ∃ r ∈ t.searchIndex, r.userId = userId ∧ r.captureId = captureId
  | 1 => ∃ r ∈ t.knowledgeEntities, r.userId = userId ∧ r.captureId = captureId
  | 2 => ∃ r ∈ t.illuminationRaws, r.userId = userId ∧ r.captureId = captureId
  | 3 => ∃ r ∈ t.illuminations, r.userId = userId ∧ r.captureId = captureId
  | 4 => ∃ r ∈ t.medias, r.userId = userId ∧ r.captureId = captureId
  | 5 => ∃ r ∈ t.annotations, r.userId = userId ∧ r.captureId = captureId
  | _ => False

/-- Rows it finds are referred to by rows that no delete before it finds. -/
def Referenced : ℕ → Prop
  | 3 => ∃ r ∈ t.illuminations, (r.userId = userId ∧ r.captureId = captureId) ∧
      ((∃ other ∈ t.searchIndex, ¬ (other.userId = userId ∧ other.captureId = captureId) ∧
          other.illuminationId = r.id) ∨
        ∃ other ∈ t.knowledgeEntities, ¬ (other.userId = userId ∧ other.captureId = captureId) ∧
          other.illuminationId = r.id)
  | 4 => ∃ r ∈ t.medias, (r.userId = userId ∧ r.captureId = captureId) ∧
      ∃ other ∈ t.illuminationRaws, ¬ (other.userId = userId ∧ other.captureId = captureId) ∧
        other.mediaId = r.id
  | 6 => (∃ r ∈ t.searchIndex, r.userId ≠ userId ∧ r.captureId = captureId) ∨
      (∃ r ∈ t.knowledgeEntities, r.userId ≠ userId ∧ r.captureId = captureId) ∨
      (∃ r ∈ t.illuminationRaws, r.userId ≠ userId ∧ r.captureId = captureId) ∨
      (∃ r ∈ t.illuminations, r.userId ≠ userId ∧ r.captureId = captureId) ∨
      (∃ r ∈ t.medias, r.userId ≠ userId ∧ r.captureId = captureId) ∨
      (∃ r ∈ t.annotations, r.userId ≠ userId ∧ r.captureId = captureId) ∨
      (∃ r ∈ t.sparkInputRefs, r.captureId = captureId) ∨
      ∃ r ∈ t.sparkOutputRefs, r.captureId = captureId
  | _ => False

end Conditions

variable {userId captureId : ℤ} {t : CaptureTables} {s : Session CaptureTables Unit ApiError}
  {k : ℕ}

/-- What is left of a table has a row of the capture: another user's. -/
theorem any_rest {ρ : Type} {l : List ρ} {user capture : ρ → ℤ} :
    ((l.filter fun r => ¬ (user r = userId ∧ capture r = captureId)).any
      fun r => capture r = captureId) = true ↔
      ∃ r ∈ l, user r ≠ userId ∧ capture r = captureId := by
  simp only [List.any_eq_true, List.mem_filter, decide_eq_true_eq, and_assoc]
  refine exists_congr fun r => and_congr_right fun _ => ?_
  constructor
  · rintro ⟨hown, hcapture⟩
    exact ⟨fun huser => hown ⟨huser, hcapture⟩, hcapture⟩
  · rintro ⟨huser, hcapture⟩
    exact ⟨fun hown => huser hown.1, hcapture⟩

/-- By then the rows of the illuminations that the call deletes are gone. -/
theorem blocked_illuminations : (deleteIlluminations userId captureId).blocked
    (Sql.Checked.after ((deletes userId captureId).take 3) t) ↔
      Referenced userId captureId t 3 := by
  simp only [deletes, Sql.Checked.after, deleteSearchIndex, deleteKnowledgeEntities,
    deleteIlluminationRaws, unreferenced, deleteIlluminations, Referenced, List.take_succ_cons,
    List.take_zero, List.foldl_cons, List.foldl_nil, List.any_eq_true, Bool.and_eq_true,
    Bool.or_eq_true, List.mem_filter, decide_eq_true_eq, and_assoc]

theorem blocked_medias : (deleteMedias userId captureId).blocked
    (Sql.Checked.after ((deletes userId captureId).take 4) t) ↔
      Referenced userId captureId t 4 := by
  simp only [deletes, Sql.Checked.after, deleteSearchIndex, deleteKnowledgeEntities,
    deleteIlluminationRaws, unreferenced, deleteIlluminations, deleteMedias, Referenced,
    List.take_succ_cons, List.take_zero, List.foldl_cons, List.foldl_nil, List.any_eq_true,
    Bool.and_eq_true, List.mem_filter, decide_eq_true_eq, and_assoc]

/-- The capture itself is there, and its own rows are gone. -/
theorem blocked_captures (hmem : ∃ r ∈ t.captures, r.id = captureId) :
    (deleteById captureId).blocked
      (Sql.Checked.after ((deletes userId captureId).take 6) t) ↔
        Referenced userId captureId t 6 := by
  have hany : (t.captures.any fun r => r.id = captureId) = true := by
    obtain ⟨r, hr, hid⟩ := hmem
    exact List.any_eq_true.2 ⟨r, hr, decide_eq_true hid⟩
  simp only [deletes, Sql.Checked.after, deleteSearchIndex, deleteKnowledgeEntities,
    deleteIlluminationRaws, unreferenced, deleteIlluminations, deleteMedias, deleteAnnotations,
    deleteById, Referenced, List.take_succ_cons, List.take_zero, List.foldl_cons, List.foldl_nil,
    hany, Bool.true_and, Bool.or_eq_true, any_rest, or_assoc]
  simp only [List.any_eq_true, decide_eq_true_eq]

/-- **The statement at this position fails**: it is refused, or rows it finds
are still referred to. -/
def FailsAt (userId captureId : ℤ) (s : Session CaptureTables Unit ApiError) (k : ℕ) : Prop :=
  k < 7 ∧ ((s.faults[k + 1]?.join).isSome ∨ Referenced userId captureId s.tables k)

theorem fails_iff {faults : List (Option ApiError)} (hmem : ∃ r ∈ t.captures, r.id = captureId) :
    Sql.Checked.Fails (deletes userId captureId) faults t k ↔
      k < 7 ∧ ((faults[k]?.join).isSome ∨ Referenced userId captureId t k) := by
  have hblocked : ∀ delete, (deletes userId captureId)[k]? = some delete →
      (delete.blocked (Sql.Checked.after ((deletes userId captureId).take k) t) ↔
        Referenced userId captureId t k) := by
    intro delete hk
    match k, hk with
    | 0, rfl | 1, rfl | 2, rfl | 5, rfl => exact iff_of_false Bool.false_ne_true id
    | 3, rfl => exact blocked_illuminations
    | 4, rfl => exact blocked_medias
    | 6, rfl => exact blocked_captures hmem
  constructor
  · rintro ⟨delete, hk, hfails⟩
    exact ⟨(List.getElem?_eq_some_iff.1 hk).1, hfails.imp_right (hblocked delete hk).1⟩
  · rintro ⟨hlt, hfails⟩
    obtain ⟨delete, hk⟩ : ∃ delete, (deletes userId captureId)[k]? = some delete :=
      ⟨_, List.getElem?_eq_getElem hlt⟩
    exact ⟨delete, hk, hfails.imp_right (hblocked delete hk).2⟩

theorem filter_eq_self_iff {ρ : Type} {l : List ρ} {user capture : ρ → ℤ} :
    (l.filter fun r => ¬ (user r = userId ∧ capture r = captureId)) = l ↔
      ¬ ∃ r ∈ l, user r = userId ∧ capture r = captureId := by
  simp only [List.filter_eq_self, decide_eq_true_eq]
  exact ⟨fun h ⟨r, hr, hown⟩ => h r hr hown, fun h r hr hown => h ⟨r, hr, hown⟩⟩

/-- **The deletes before this one changed nothing** exactly where they found
nothing. -/
theorem after_eq_self_iff (hk : k < 7) :
    Sql.Checked.after ((deletes userId captureId).take k) t = t ↔
      ∀ j < k, ¬ Hits userId captureId t j := by
  obtain ⟨captures, searchIndex, knowledgeEntities, illuminationRaws, illuminations, medias,
    annotations, sparkInputRefs, sparkOutputRefs⟩ := t
  match k, hk with
  | 0, _ | 1, _ | 2, _ | 3, _ | 4, _ | 5, _ | 6, _ =>
    simp only [deletes, Sql.Checked.after, deleteSearchIndex, deleteKnowledgeEntities,
      deleteIlluminationRaws, unreferenced, deleteIlluminations, deleteMedias, deleteAnnotations,
      List.take_succ_cons, List.take_zero, List.foldl_cons, List.foldl_nil,
      CaptureTables.mk.injEq, filter_eq_self_iff, Nat.forall_lt_succ_left, Nat.not_lt_zero, Hits,
      true_and, and_true, false_implies, implies_true]

/-- Without rows of other users, a delete has left none of the capture. -/
theorem filter_eq_without {ρ : Type} {l : List ρ} {user capture : ρ → ℤ}
    (h : ¬ ∃ r ∈ l, user r ≠ userId ∧ capture r = captureId) :
    (l.filter fun r => ¬ (user r = userId ∧ capture r = captureId)) =
      l.filter fun r => capture r ≠ captureId := by
  refine List.filter_congr fun r hr => decide_eq_decide.2 ⟨fun hown hcapture => ?_, fun hne hown =>
    hne hown.2⟩
  by_cases huser : user r = userId
  · exact hown ⟨huser, hcapture⟩
  · exact h ⟨r, hr, huser, hcapture⟩

/-- **All deletes together** leave nothing of the capture that nothing else
refers to. -/
theorem after_deletes (h : ¬ Referenced userId captureId t 6) :
    Sql.Checked.after (deletes userId captureId) t = without t captureId := by
  simp only [Referenced, not_or] at h
  obtain ⟨hsearch, hentities, hraws, hilluminations, hmedias, hannotations, -, -⟩ := h
  simp only [deletes, Sql.Checked.after, deleteSearchIndex, deleteKnowledgeEntities,
    deleteIlluminationRaws, unreferenced, deleteIlluminations, deleteMedias, deleteAnnotations,
    deleteById, List.foldl_cons, List.foldl_nil, without, CaptureTables.mk.injEq, and_true,
    true_and]
  exact ⟨filter_eq_without hsearch, filter_eq_without hentities, filter_eq_without hraws,
    filter_eq_without hilluminations, filter_eq_without hmedias, filter_eq_without hannotations⟩

/-- What a call on the user's own capture comes to. -/
theorem deleteCapture_cases {capture : CaptureModel}
    (hfound : (s.tables.captures.find? fun r => r.id = captureId) = some capture)
    (howned : capture.userId = userId) :
    (∃ e s', deleteCapture userId captureId s = .error e s' ∧ s'.tables = s.tables ∧
      (s.faults.head?.join).isSome) ∨
    (∃ s', deleteCapture userId captureId s = .ok ⟨⟩ s' ∧
      s'.tables = Sql.Checked.after (deletes userId captureId) s.tables ∧
      ∀ k, ¬ FailsAt userId captureId s k) ∨
    ∃ e s' k, deleteCapture userId captureId s = .error e s' ∧ s.faults.head?.join = none ∧
      s'.tables = Sql.Checked.after ((deletes userId captureId).take k) s.tables ∧
      FailsAt userId captureId s k ∧ ∀ j < k, ¬ FailsAt userId captureId s j := by
  have hmem : ∃ r ∈ s.tables.captures, r.id = captureId :=
    ⟨capture, List.mem_of_find?_eq_some hfound, by simpa using List.find?_some hfound⟩
  unfold deleteCapture
  cases hfault : s.faults.head?.join with
  | some e =>
    refine Or.inl ⟨e, { s with faults := s.faults.tail }, Sql.bind_eq_error.2 (Or.inl ?_), rfl, rfl⟩
    simp only [Sql.select, Sql.statement, hfault]
  | none =>
    have hselect : (Sql.select fun t : CaptureTables => t.captures.find? fun r => r.id = captureId)
        s = .ok (some capture) { s with faults := s.faults.tail } := by
      simp only [Sql.select, Sql.statement, hfault, hfound]
    -- the faults the deletes meet are those after the lookup's
    have hfails : ∀ k, Sql.Checked.Fails (deletes userId captureId) s.faults.tail s.tables k ↔
        FailsAt userId captureId s k := by
      intro k
      rw [fails_iff hmem, List.getElem?_tail]
      rfl
    refine Or.inr ?_
    rcases Sql.Checked.forM_run_cases (deletes userId captureId)
        ({ s with faults := s.faults.tail } : Session CaptureTables Unit ApiError) with
      ⟨s', hrun, htables, hnone⟩ | ⟨e, s', k, hrun, htables, hk, hfirst⟩
    · refine Or.inl ⟨s', Sql.bind_eq_ok.2 ⟨_, _, hselect, ?_⟩, htables, fun k hk =>
        hnone k ((hfails k).2 hk)⟩
      simp only [howned, ne_eq, not_true_eq_false, if_false]
      exact hrun
    · refine Or.inr ⟨e, s', k, Sql.bind_eq_error.2 (Or.inr ⟨_, _, hselect, ?_⟩), rfl, htables,
        (hfails k).1 hk, fun j hj hj' => hfirst j hj ((hfails j).2 hj')⟩
      simp only [howned, ne_eq, not_true_eq_false, if_false]
      exact hrun

/-- **A delete is safe** exactly where the lookup is refused, no statement
fails, or one fails before which there is nothing to delete. -/
theorem delete_safe_iff (userId captureId : ℤ) (s : Session CaptureTables Unit ApiError)
    (capture : CaptureModel)
    (hfound : (s.tables.captures.find? fun r => r.id = captureId) = some capture)
    (howned : capture.userId = userId) :
    Safe userId captureId s ↔ (s.faults.head?.join).isSome ∨
      (∀ k, ¬ FailsAt userId captureId s k) ∨
      ∃ k, FailsAt userId captureId s k ∧ ∀ j < k, ¬ Hits userId captureId s.tables j := by
  rcases deleteCapture_cases hfound howned with ⟨e, s', hrun, htables, hfault⟩ |
    ⟨s', hrun, htables, hnone⟩ | ⟨e, s', k, hrun, hnofault, htables, hk, hfirst⟩
  · refine iff_of_true ⟨fun e' t h => ?_, fun u t h => ?_⟩ (Or.inl hfault)
    · rw [hrun] at h
      cases h
      exact htables
    · rw [hrun] at h
      cases h
  · refine iff_of_true ⟨fun e' t h => ?_, fun u t h => ?_⟩ (Or.inr (Or.inl hnone))
    · rw [hrun] at h
      cases h
    · rw [hrun] at h
      cases h
      rw [htables]
      exact after_deletes fun href => hnone 6 ⟨by omega, Or.inr href⟩
  · have hsame : Safe userId captureId s ↔ ∀ j < k, ¬ Hits userId captureId s.tables j := by
      rw [← after_eq_self_iff hk.1, ← htables]
      constructor
      · intro hsafe
        exact hsafe.failed e s' hrun
      · refine fun heq => ⟨fun e' t h => ?_, fun u t h => ?_⟩
        · rw [hrun] at h
          cases h
          exact heq
        · rw [hrun] at h
          cases h
    rw [hsame]
    constructor
    · intro hquiet
      exact Or.inr (Or.inr ⟨k, hk, hquiet⟩)
    · rintro (hfault | hnone | ⟨i, hi, hquiet⟩) j hj
      · rw [hnofault] at hfault
        cases hfault
      · exact absurd hk (hnone k)
      · -- the first statement that fails is no later than this one
        refine hquiet j ?_
        by_contra hij
        exact hfirst i (by omega) hi

/-- A capture with its media, which a spark was about. -/
def sparked : Session CaptureTables Unit ApiError where
  tables :=
    { captures := [⟨1, 7, 0, none⟩]
      searchIndex := []
      knowledgeEntities := []
      illuminationRaws := []
      illuminations := []
      medias := [{
        id := 3, mimeType := none, hashBlake3 := none, storageProvider := "local",
        storageBucket := none, storageUserShard := "a", storageUuid := "b",
        storageExtension := none, userId := 7, captureId := 1, bytes := 10 }]
      annotations := []
      sparkInputRefs := [⟨2, 7, 5, 1, 0⟩]
      sparkOutputRefs := [] }
  sequences := ()
  faults := []

/-- **Its delete fails, and the media is gone.** -/
theorem delete_not_safe : ∃ e s', deleteCapture 7 1 sparked = .error e s' ∧
    s'.tables.medias = [] ∧ s'.tables.captures = sparked.tables.captures ∧ ¬ Safe 7 1 sparked := by
  refine ⟨_, _, rfl, rfl, rfl, fun hsafe => ?_⟩
  have hmedias := congrArg CaptureTables.medias (hsafe.failed _ _ rfl)
  exact absurd hmedias (by decide)

theorem delete_safe_iff_sparked : Safe 7 1 sparked ↔ (sparked.faults.head?.join).isSome ∨
    (∀ k, ¬ FailsAt 7 1 sparked k) ∨
    ∃ k, FailsAt 7 1 sparked k ∧ ∀ j < k, ¬ Hits 7 1 sparked.tables j :=
  delete_safe_iff 7 1 sparked ⟨1, 7, 0, none⟩ rfl rfl

end DeleteCapture

end Dreamscroll
