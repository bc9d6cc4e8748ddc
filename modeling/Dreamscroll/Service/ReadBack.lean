import Dreamscroll.Service.LastWriter
/-!
# Reading a projection back

What a reader sees of the newest projection of a capture is what was
inserted (`projection_read_back`), up to platform links without a handle,
which the reader's type has no place for.
-/

namespace Dreamscroll

open Service Schema

/-! ## Loading -/

/-- The capture as a loader returns it, each illumination with its
entities. -/
def ProjectionTables.loadCapture (t : ProjectionTables) (capture : CaptureModel)
    (medias : List MediaModel) (annotations : List AnnotationModel) : CaptureModelEx where
  toCaptureModel := capture
  medias := .loaded medias
  illuminations := .loaded <|
    (t.illuminations.filter fun r => r.captureId = capture.id).map fun r =>
      { r with knowledgeEntities := .loaded (t.entitiesOf r.id) }
  annotations := .loaded annotations

/-- **The call is the last commit of its run, and its row has the highest
key of its capture.** -/
def NewestProjection (s : ProjectionState) (call : ProjectionCall) : Prop :=
  ((s.commitsOf call.taskRunId).getLast?).map Prod.fst = some call ∧
  ∀ row ∈ s.tables.illuminations, row.taskRunId = call.taskRunId →
    ∀ row' ∈ s.tables.illuminations, row'.captureId = call.capture.id → row'.id ≤ row.id

instance (s : ProjectionState) (call : ProjectionCall) : Decidable (NewestProjection s call) :=
  inferInstanceAs (Decidable (_ ∧ _))

/-! ## What is read back -/

/-- The link a reader sees: there is none without a handle. -/
def V2.PlatformLink.info (link : V2.PlatformLink) : Option PlatformLinkInfo :=
  link.handle.map fun handle => ⟨link.platform.toString, handle, link.displayName⟩

/-- **The reader sees the entity.** -/
structure ReadsBack (entity : V2.Entity) (info : KnowledgeEntityInfo) : Prop where
  name : info.name = entity.name
  entityType : info.entityType = entity.entityType.toString
  description : info.description = entity.description
  searchQuery : info.searchQuery = entity.searchQuery
  platformLink : info.platformLink = entity.platformLink.bind V2.PlatformLink.info

variable {capture : Schema.CaptureInfo} {id : ℤ} {archivedAt : Option Timestamp}

theorem readsBack_of_holds {r : KnowledgeEntityModel} {entity : V2.Entity × ℕ}
    (h : r.Holds capture id entity) : ReadsBack entity.1 (.new r archivedAt) := by
  rw [h]
  refine ⟨rfl, rfl, rfl, rfl, ?_⟩
  cases hlink : entity.1.platformLink with
  | none => simp [KnowledgeEntityInfo.new, entityRow, hlink]
  | some link =>
    cases hhandle : link.handle with
    | none => simp [KnowledgeEntityInfo.new, entityRow, hlink, hhandle, V2.PlatformLink.info]
    | some handle => simp [KnowledgeEntityInfo.new, entityRow, hlink, hhandle, V2.PlatformLink.info]

/-- Entities that were inserted at their positions are sorted by them. -/
theorem sorted_of_holds {rows : List KnowledgeEntityModel} {entities : List V2.Entity} {k : ℕ}
    (h : List.Forall₂ (KnowledgeEntityModel.Holds capture id) rows (entities.zipIdx k)) :
    (rows.Pairwise fun a b => a.position ≤ b.position) ∧ ∀ r ∈ rows, (k : ℤ) ≤ r.position := by
  induction entities generalizing rows k with
  | nil =>
    rw [List.zipIdx_nil, List.forall₂_nil_right_iff] at h
    subst h
    simp
  | cons e entities ih =>
    rw [List.zipIdx_cons, List.forall₂_cons_right_iff] at h
    obtain ⟨r, rows', hr, hrows, rfl⟩ := h
    obtain ⟨hsorted, hle⟩ := ih hrows
    have hpos : r.position = k := by
      rw [hr]
      rfl
    refine ⟨List.pairwise_cons.2 ⟨fun b hb => ?_, hsorted⟩, fun b hb => ?_⟩
    · have hb := hle b hb
      omega
    · rcases List.mem_cons.1 hb with rfl | hb
      · omega
      · have hb := hle b hb
        omega

/-- **So the reader sees every entity, in order.** -/
theorem readsBack_of_projects {rows : List KnowledgeEntityModel} {entities : List V2.Entity}
    (h : List.Forall₂ (KnowledgeEntityModel.Holds capture id) rows entities.zipIdx) :
    List.Forall₂ ReadsBack entities
      ((sortByKey KnowledgeEntityModel.position rows).map fun r =>
        KnowledgeEntityInfo.new r archivedAt) := by
  rw [sortByKey_eq_self (sorted_of_holds h).1]
  have hmap : entities = entities.zipIdx.map Prod.fst := (List.zipIdx_map_fst 0 entities).symm
  rw [hmap, List.forall₂_map_left_iff, List.forall₂_map_right_iff]
  exact (h.flip).imp fun _ _ hr => readsBack_of_holds hr

variable {q : ProjectionSequences} {calls : List ProjectionCall} {s : ProjectionState}
variable {call : ProjectionCall} {row : IlluminationModel} {model : CaptureModel}
variable {maker : InfoMaker} {medias : List MediaModel} {annots : List AnnotationModel}

/-- The row with the highest key of a capture is the one exposed. -/
theorem illuminations_of_newest (hids : (s.tables.illuminations.map IlluminationModel.id).Nodup)
    (hrow : row ∈ s.tables.illuminations) (hcap : row.captureId = model.id)
    (hmax : ∀ row' ∈ s.tables.illuminations, row'.captureId = model.id → row'.id ≤ row.id) :
    (maker.makeCaptureInfo (s.tables.loadCapture model medias annots)).illuminations =
      [InfoMaker.makeIlluminationInfo
        { row with knowledgeEntities := .loaded (s.tables.entitiesOf row.id) }
        model.archivedAt] := by
  let load : IlluminationModel → IlluminationModelEx := fun r =>
    { r with knowledgeEntities := .loaded (s.tables.entitiesOf r.id) }
  let loaded := (s.tables.illuminations.filter fun r => r.captureId = model.id).map load
  have hkeys : loaded.map (fun m => m.id) =
      (s.tables.illuminations.filter fun r => r.captureId = model.id).map
        IlluminationModel.id := by
    rw [List.map_map]
    rfl
  have hnd : (loaded.map fun m => m.id).Nodup := by
    rw [hkeys]
    exact hids.sublist (List.filter_sublist.map _)
  have hmem : load row ∈ loaded :=
    List.mem_map_of_mem (List.mem_filter.2 ⟨hrow, by simpa using hcap⟩)
  have hbest : ∀ m ∈ loaded, m.id ≤ (load row).id := by
    intro m hm
    obtain ⟨r, hr, rfl⟩ := List.mem_map.1 hm
    obtain ⟨hr, hrc⟩ := List.mem_filter.1 hr
    rw [decide_eq_true_eq] at hrc
    exact hmax r hr hrc
  have hexposed : maxByKey (fun m => m.id) loaded = some (load row) :=
    maxByKey_eq_of_forall hnd hmem hbest
  show ((maxByKey (fun m => m.id) loaded).map fun m =>
    InfoMaker.makeIlluminationInfo m model.archivedAt).toList = _
  rw [hexposed]
  rfl

/-- **The newest projection of a capture is read back as it was inserted**:
the summary, the details, the suggested searches and every entity in order,
each with its platform link where that has a handle. -/
theorem projection_read_back (h : projections.run (ProjectionState.start q) calls = some s)
    (hnew : NewestProjection s call) (hcap : model.id = call.capture.id) :
    ∃ info, (maker.makeCaptureInfo (s.tables.loadCapture model medias annots)).illuminations =
        [info] ∧
      info.summary = call.illumination.summary ∧ info.details = call.illumination.details ∧
      info.suggestedSearches = call.illumination.suggestedSearches ∧
      List.Forall₂ ReadsBack call.illumination.entities info.knowledgeEntities := by
  have hi := projectionInv_of_run h
  obtain ⟨last, hlast, hcall⟩ := Option.map_eq_some_iff.1 hnew.1
  have hne : s.commitsOf call.taskRunId ≠ [] := fun hnil => by rw [hnil] at hlast; cases hlast
  obtain ⟨row, hrows, -, hproj⟩ :=
    hi.lastWriterWins.projected _ _ last (List.head?_eq_some_head hne) hlast
  rw [hcall] at hproj
  have hmem : row ∈ s.tables.illuminations.filter fun r => r.taskRunId = call.taskRunId := by
    rw [hrows]
    exact List.mem_singleton_self row
  obtain ⟨hrow, hrun⟩ := List.mem_filter.1 hmem
  rw [decide_eq_true_eq] at hrun
  have hcapture : row.captureId = model.id := by
    rw [hproj.fields, hcap]
    rfl
  refine ⟨_, illuminations_of_newest hi.ids hrow hcapture ?_, ?_, ?_, ?_, ?_⟩
  · intro row' hrow' hcap'
    exact hnew.2 row hrow hrun row' hrow' (hcap'.trans hcap)
  · rw [hproj.fields]
    rfl
  · rw [hproj.fields]
    rfl
  · rw [hproj.fields]
    rfl
  · exact readsBack_of_projects hproj.entities

/-- A maker of a local server. -/
def aMaker : InfoMaker := ⟨fun handle => "/media/" ++ handle.uuid, fun _ => "just now"⟩

/-- A projection with a link. -/
def communityCall : ProjectionCall := ⟨aCapture, "run-2", none, communityIllumination, []⟩

theorem projection_read_back_community :
    ∃ info, (aMaker.makeCaptureInfo
        (retryState.tables.loadCapture ⟨9, 1, 0, none⟩ [] [])).illuminations = [info] ∧
      info.summary = communityCall.illumination.summary ∧
      info.details = communityCall.illumination.details ∧
      info.suggestedSearches = communityCall.illumination.suggestedSearches ∧
      List.Forall₂ ReadsBack communityCall.illumination.entities info.knowledgeEntities :=
  projection_read_back (Option.some_get _).symm (by decide) rfl

/-! ## A link without a handle -/

/-- What a reader would see of a link if none were lost. -/
def KeepsLink (entity : V2.Entity) (info : KnowledgeEntityInfo) : Prop :=
  ∀ link, entity.platformLink = some link → ∃ seen, info.platformLink = some seen ∧
    seen.platform = link.platform.toString ∧ seen.displayName = link.displayName ∧
    ∀ handle, link.handle = some handle → seen.handle = handle

/-- A link the model reported without a handle. -/
def handlelessCall : ProjectionCall :=
  ⟨aCapture, "run-1", none, ⟨"A page", "A page of a magazine", [],
    [⟨"Monocle", none, none, .publication, some ⟨.instagram, some "Monocle", none, none⟩⟩]⟩, []⟩

/-- The state after one whose link has no handle. -/
def handlelessState : ProjectionState :=
  (projections.run (ProjectionState.start ⟨⟨0⟩, ⟨0⟩, ⟨0⟩⟩) [handlelessCall]).get (by decide)

/-- **A link without a handle is dropped**, with its platform and its
display name. -/
theorem handleless_link_dropped :
    ¬ ∀ (q : ProjectionSequences) (calls : List ProjectionCall) (s : ProjectionState)
      (call : ProjectionCall) (model : CaptureModel) (maker : InfoMaker),
      projections.run (ProjectionState.start q) calls = some s → NewestProjection s call →
      model.id = call.capture.id →
      ∃ info, (maker.makeCaptureInfo (s.tables.loadCapture model [] [])).illuminations = [info] ∧
        List.Forall₂ KeepsLink call.illumination.entities info.knowledgeEntities := by
  intro hall
  obtain ⟨info, hinfo, hkeeps⟩ := hall ⟨⟨0⟩, ⟨0⟩, ⟨0⟩⟩ [handlelessCall] handlelessState handlelessCall
    ⟨9, 1, 0, none⟩ aMaker (Option.some_get _).symm (by decide) rfl
  have hseen : ((aMaker.makeCaptureInfo
      (handlelessState.tables.loadCapture ⟨9, 1, 0, none⟩ [] [])).illuminations.map
        fun info => info.knowledgeEntities.map KnowledgeEntityInfo.platformLink) = [[none]] := by
    decide
  rw [hinfo, List.map_singleton, List.cons.injEq] at hseen
  obtain ⟨entity, rest, hlink, -, hrest⟩ := List.forall₂_cons_left_iff.1 hkeeps
  obtain ⟨seen, hsome, -⟩ := hlink _ rfl
  rw [hrest, List.map_cons, hsome] at hseen
  simp at hseen

end Dreamscroll
