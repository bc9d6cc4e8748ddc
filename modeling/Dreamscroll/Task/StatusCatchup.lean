import Dreamscroll.Sse.Event
import Mathlib.Data.List.Sort
import Mathlib.Data.String.Basic
/-!
# Status catch-up

`query_latest_task_runs` and the events it is replayed as: the latest run
of each entity and task type, scoped to one owner's entities.
-/

namespace Dreamscroll

/-! ## What a status is about -/

/-- The owner, the entity and the task type a status is about. -/
structure StatusKey where
  entityOwnerId : ℤ
  entityType : String
  entityId : ℤ
  taskType : String
  deriving DecidableEq, Repr

/-- What a run is the latest of. -/
def TaskRunModel.statusKey (row : TaskRunModel) : StatusKey :=
  ⟨row.entityOwnerId, row.entityType, row.entityId, row.taskType⟩

/-- The event is about the key: an event without owner is about none. -/
def TaskStatusUpdate.Concerns (ev : TaskStatusUpdate) (k : StatusKey) : Prop :=
  ev.entityOwnerId = some k.entityOwnerId ∧ ev.entityType = k.entityType ∧
    ev.entityId = k.entityId ∧ ev.payload.taskType = k.taskType

instance (ev : TaskStatusUpdate) (k : StatusKey) : Decidable (ev.Concerns k) :=
  inferInstanceAs (Decidable (_ ∧ _))

/-! ## The query -/

/-- `DISTINCT ON`: of the rows with one key the first. -/
def distinctOn {α κ : Type} [DecidableEq κ] (key : α → κ) : List κ → List α → List α
  | _, [] => []
  | seen, a :: l =>
    if key a ∈ seen then distinctOn key seen l else a :: distinctOn key (key a :: seen) l

/-- The order of the query: by entity and task type, the latest run first. -/
def QueryLe (a b : TaskRunModel) : Prop :=
  a.entityId < b.entityId ∨ a.entityId = b.entityId ∧
    if a.taskType = b.taskType then b.runNumber ≤ a.runNumber else a.taskType < b.taskType

instance : DecidableRel QueryLe := fun _ _ => inferInstanceAs (Decidable (_ ∨ _))

/-- `query_latest_task_runs`: the latest run of each task of each entity. -/
def queryLatestTaskRuns (rows : List TaskRunModel) (entityOwnerId : ℤ) (entityType : String)
    (entityIds : List ℤ) : List TaskRunModel :=
  let found := rows.filter fun row =>
    row.entityOwnerId = entityOwnerId && row.entityType = entityType && row.entityId ∈ entityIds
  distinctOn (fun row => (row.entityId, row.taskType)) [] (found.insertionSort QueryLe)

/-- Only a status a worker can still act on has a live estimate worth
replaying. -/
def isRunning (row : TaskRunModel) : Bool := row.statusCode = TaskRunStatus.inProgress.asI32

/-- `StatusCatchup::events`; `estimates` is what the timing aggregate of
each task type answers. -/
def StatusCatchup.events (rows : List TaskRunModel) (estimates : String → Option TaskTimingEstimate)
    (entityOwnerId : ℤ) (entityType : String) (entityIds : List ℤ) : List TaskStatusUpdate :=
  (queryLatestTaskRuns rows entityOwnerId entityType entityIds).filterMap fun row =>
    TaskStatusUpdate.fromRow row (if isRunning row then estimates row.taskType else none)

/-! ## What the query finds -/

section DistinctOn

variable {α κ : Type} [DecidableEq κ] {key : α → κ} {seen : List κ} {l : List α} {a : α}

theorem mem_distinctOn : a ∈ distinctOn key seen l ↔
    ∃ l₁ l₂, l = l₁ ++ a :: l₂ ∧ key a ∉ seen ∧ ∀ b ∈ l₁, key b ≠ key a := by
  induction l generalizing seen with
  | nil =>
    constructor
    · intro h
      cases h
    · rintro ⟨l₁, l₂, h, -⟩
      cases l₁ <;> cases h
  | cons x l ih =>
    unfold distinctOn
    by_cases hx : key x ∈ seen
    · rw [if_pos hx, ih]
      constructor
      · rintro ⟨l₁, l₂, rfl, hseen, hne⟩
        refine ⟨x :: l₁, l₂, rfl, hseen, ?_⟩
        intro b hb
        rcases List.mem_cons.1 hb with rfl | hb
        · exact fun heq => hseen (heq ▸ hx)
        · exact hne b hb
      · rintro ⟨l₁, l₂, hl, hseen, hne⟩
        cases l₁ with
        | nil =>
          cases hl
          exact absurd hx hseen
        | cons y l₁ =>
          cases hl
          exact ⟨l₁, l₂, rfl, hseen, fun b hb => hne b (List.mem_cons_of_mem _ hb)⟩
    · rw [if_neg hx, List.mem_cons, ih]
      constructor
      · rintro (rfl | ⟨l₁, l₂, rfl, hseen, hne⟩)
        · exact ⟨[], l, rfl, hx, nofun⟩
        · rw [List.mem_cons, not_or] at hseen
          refine ⟨x :: l₁, l₂, rfl, hseen.2, ?_⟩
          intro b hb
          rcases List.mem_cons.1 hb with rfl | hb
          · exact fun heq => hseen.1 heq.symm
          · exact hne b hb
      · rintro ⟨l₁, l₂, hl, hseen, hne⟩
        cases l₁ with
        | nil =>
          cases hl
          exact Or.inl rfl
        | cons y l₁ =>
          cases hl
          refine Or.inr ⟨l₁, l₂, rfl, ?_, fun b hb => hne b (List.mem_cons_of_mem _ hb)⟩
          rw [List.mem_cons, not_or]
          exact ⟨fun heq => hne _ List.mem_cons_self heq.symm, hseen⟩

/-- Every key that was not seen before is there. -/
theorem exists_mem_distinctOn (key : α → κ) (ha : a ∈ l) (hseen : key a ∉ seen) :
    ∃ b ∈ distinctOn key seen l, key b = key a := by
  induction l generalizing seen with
  | nil => cases ha
  | cons x l ih =>
    unfold distinctOn
    rcases List.mem_cons.1 ha with rfl | ha
    · rw [if_neg hseen]
      exact ⟨a, List.mem_cons_self, rfl⟩
    · by_cases hx : key x ∈ seen
      · rw [if_pos hx]
        exact ih ha hseen
      · rw [if_neg hx]
        by_cases heq : key a = key x
        · exact ⟨x, List.mem_cons_self, heq.symm⟩
        · obtain ⟨b, hb, hkey⟩ := ih ha (by
            rw [List.mem_cons, not_or]
            exact ⟨heq, hseen⟩)
          exact ⟨b, List.mem_cons_of_mem _ hb, hkey⟩

/-- No key is seen twice. -/
theorem nodup_distinctOn : ((distinctOn key seen l).map key).Nodup := by
  induction l generalizing seen with
  | nil => exact List.nodup_nil
  | cons x l ih =>
    unfold distinctOn
    by_cases hx : key x ∈ seen
    · rw [if_pos hx]
      exact ih
    · rw [if_neg hx, List.map_cons, List.nodup_cons]
      refine ⟨fun hmem => ?_, ih⟩
      obtain ⟨y, hy, heq⟩ := List.mem_map.1 hmem
      obtain ⟨l₁, l₂, -, hseen, -⟩ := mem_distinctOn.1 hy
      exact hseen (heq ▸ List.mem_cons_self)

end DistinctOn

instance : Std.Total QueryLe where
  total a b := by
    unfold QueryLe
    rcases lt_trichotomy a.entityId b.entityId with h | h | h
    · exact Or.inl (Or.inl h)
    · by_cases ht : a.taskType = b.taskType
      · rw [if_pos ht, if_pos ht.symm]
        omega
      · rw [if_neg ht, if_neg (Ne.symm ht)]
        rcases lt_or_gt_of_ne ht with hlt | hlt
        · exact Or.inl (Or.inr ⟨h, hlt⟩)
        · exact Or.inr (Or.inr ⟨h.symm, hlt⟩)
    · exact Or.inr (Or.inl h)

instance : IsTrans TaskRunModel QueryLe where
  trans a b c := by
    rintro (hab | ⟨hab, hab'⟩) (hbc | ⟨hbc, hbc'⟩)
    · exact Or.inl (hab.trans hbc)
    · exact Or.inl (hbc ▸ hab)
    · exact Or.inl (hab ▸ hbc)
    · refine Or.inr ⟨hab.trans hbc, ?_⟩
      by_cases h₁ : a.taskType = b.taskType <;> by_cases h₂ : b.taskType = c.taskType
      · rw [if_pos h₁] at hab'
        rw [if_pos h₂] at hbc'
        rw [if_pos (h₁.trans h₂)]
        omega
      · rw [if_neg h₂] at hbc'
        rw [h₁, if_neg h₂]
        exact hbc'
      · rw [if_neg h₁] at hab'
        rw [← h₂, if_neg h₁]
        exact hab'
      · rw [if_neg h₁] at hab'
        rw [if_neg h₂] at hbc'
        have hlt := hab'.trans hbc'
        rw [if_neg hlt.ne]
        exact hlt

variable {rows : List TaskRunModel} {row : TaskRunModel} {k : StatusKey} {ids : List ℤ}

/-- The row is of the latest run its key has. -/
def IsLatest (rows : List TaskRunModel) (row : TaskRunModel) : Prop :=
  row ∈ rows ∧ ∀ r ∈ rows, r.statusKey = row.statusKey → r = row ∨ r.runNumber < row.runNumber

theorem mem_queryLatestTaskRuns {owner : ℤ} {entityType : String} :
    row ∈ queryLatestTaskRuns rows owner entityType ids ↔ ∃ l₁ l₂,
      (rows.filter fun r => r.entityOwnerId = owner && r.entityType = entityType &&
        r.entityId ∈ ids).insertionSort QueryLe = l₁ ++ row :: l₂ ∧
      ∀ b ∈ l₁, (b.entityId, b.taskType) ≠ (row.entityId, row.taskType) := by
  unfold queryLatestTaskRuns
  rw [mem_distinctOn]
  constructor
  · rintro ⟨l₁, l₂, hl, -, hne⟩
    exact ⟨l₁, l₂, hl, hne⟩
  · rintro ⟨l₁, l₂, hl, hne⟩
    exact ⟨l₁, l₂, hl, List.not_mem_nil, hne⟩

/-- What the query answers was asked for. -/
theorem of_mem_queryLatestTaskRuns {owner : ℤ} {entityType : String}
    (h : row ∈ queryLatestTaskRuns rows owner entityType ids) :
    row ∈ rows ∧ row.entityOwnerId = owner ∧ row.entityType = entityType ∧ row.entityId ∈ ids := by
  obtain ⟨l₁, l₂, hl, -⟩ := mem_queryLatestTaskRuns.1 h
  have hmem : row ∈ l₁ ++ row :: l₂ := List.mem_append_right _ List.mem_cons_self
  rw [← hl, List.mem_insertionSort, List.mem_filter] at hmem
  obtain ⟨hrow, hfound⟩ := hmem
  simp only [Bool.and_eq_true, decide_eq_true_eq] at hfound
  exact ⟨hrow, hfound.1.1, hfound.1.2, hfound.2⟩

/-- **The query finds the latest run** of every requested entity. -/
theorem mem_query_of_isLatest (h : IsLatest rows row) (hids : row.entityId ∈ ids) :
    row ∈ queryLatestTaskRuns rows row.entityOwnerId row.entityType ids := by
  have hmem : row ∈ (rows.filter fun r => r.entityOwnerId = row.entityOwnerId &&
      r.entityType = row.entityType && r.entityId ∈ ids).insertionSort QueryLe := by
    rw [List.mem_insertionSort, List.mem_filter]
    exact ⟨h.1, by simp only [decide_true, hids, Bool.and_self]⟩
  -- the first row of its key is no other row: that one would be of an earlier run
  obtain ⟨b, hb, hkey⟩ := exists_mem_distinctOn
    (fun r : TaskRunModel => (r.entityId, r.taskType)) hmem (List.not_mem_nil)
  have hb' : b ∈ queryLatestTaskRuns rows row.entityOwnerId row.entityType ids := hb
  obtain ⟨hid, htask⟩ := Prod.mk.inj hkey
  obtain ⟨hbrow, howner, htype, -⟩ := of_mem_queryLatestTaskRuns hb'
  have hsame : b.statusKey = row.statusKey := by
    simp only [TaskRunModel.statusKey, howner, htype, hid, htask]
  rcases h.2 b hbrow hsame with rfl | hlt
  · exact hb'
  · obtain ⟨l₁, l₂, hl, hne⟩ := mem_queryLatestTaskRuns.1 hb'
    have hsorted := List.pairwise_insertionSort QueryLe
      (rows.filter fun r => r.entityOwnerId = row.entityOwnerId &&
        r.entityType = row.entityType && r.entityId ∈ ids)
    rw [hl] at hmem hsorted
    have hle : QueryLe b row := by
      rcases List.mem_append.1 hmem with hin | hin
      · exact absurd hkey.symm (hne row hin)
      · rcases List.mem_cons.1 hin with rfl | hin
        · exact absurd hlt (Nat.lt_irrefl _)
        · exact (List.pairwise_cons.1 (List.pairwise_append.1 hsorted).2.1).1 row hin
    rcases hle with hlt' | ⟨-, hle⟩
    · omega
    · rw [if_pos htask] at hle
      omega

theorem nodup_query {owner : ℤ} {entityType : String} :
    (queryLatestTaskRuns rows owner entityType ids).Nodup :=
  List.Nodup.of_map _ nodup_distinctOn

/-- Of two rows the query answers, only one has the key. -/
theorem eq_of_mem_query {owner : ℤ} {entityType : String} {r : TaskRunModel}
    (h : row ∈ queryLatestTaskRuns rows owner entityType ids)
    (h' : r ∈ queryLatestTaskRuns rows owner entityType ids) (hkey : r.statusKey = row.statusKey) :
    r = row := by
  have hpair : (r.entityId, r.taskType) = (row.entityId, row.taskType) := by
    simp only [TaskRunModel.statusKey, StatusKey.mk.injEq] at hkey
    rw [hkey.2.2.1, hkey.2.2.2]
  exact List.inj_on_of_nodup_map nodup_distinctOn h' h hpair

/-! ## What is replayed -/

variable {estimates : String → Option TaskTimingEstimate} {ev : TaskStatusUpdate}

/-- A row of a known status has an event. -/
theorem exists_fromRow {st : TaskRunStatus} (h : row.HasStatus st)
    (estimate : Option TaskTimingEstimate) : ∃ ev, TaskStatusUpdate.fromRow row estimate = some ev := by
  unfold TaskStatusUpdate.fromRow
  rw [TaskRunStatus.fromI32_eq_ok.2 h.symm]
  exact ⟨_, rfl⟩

/-- **An event concerns what its row is about.** -/
theorem Announces.concerns (h : Announces row ev) : ev.Concerns k ↔ row.statusKey = k := by
  obtain ⟨estimate, h⟩ := h
  unfold TaskStatusUpdate.fromRow at h
  split at h
  · cases h
  · cases h
    cases k
    simp only [TaskStatusUpdate.Concerns, TaskRunModel.statusKey, StatusKey.mk.injEq,
      Option.some.injEq]

/-- A list in which one entry alone is kept. -/
theorem filterMap_eq_singleton {α β : Type} {g : α → Option β} {l : List α} {a : α} {b : β}
    (hl : l.Nodup) (ha : a ∈ l) (hg : g a = some b) (hne : ∀ x ∈ l, x ≠ a → g x = none) :
    l.filterMap g = [b] := by
  obtain ⟨l₁, l₂, rfl⟩ := List.append_of_mem ha
  obtain ⟨-, hright, hdisj⟩ := List.nodup_append.1 hl
  have h₁ : l₁.filterMap g = [] := List.filterMap_eq_nil_iff.2 fun x hx =>
    hne x (List.mem_append_left _ hx) (hdisj x hx a List.mem_cons_self)
  have h₂ : l₂.filterMap g = [] := List.filterMap_eq_nil_iff.2 fun x hx =>
    hne x (List.mem_append_right _ (List.mem_cons_of_mem _ hx)) fun heq =>
      (List.nodup_cons.1 hright).1 (heq ▸ hx)
  rw [List.filterMap_append, h₁, List.filterMap_cons_some hg, h₂]
  rfl

/-- **The latest run of a requested entity is replayed once.** -/
theorem events_of_isLatest (estimates : String → Option TaskTimingEstimate) {st : TaskRunStatus}
    (h : IsLatest rows row) (hst : row.HasStatus st) (hids : row.entityId ∈ ids) :
    ∃ ev, Announces row ev ∧ (StatusCatchup.events rows estimates row.entityOwnerId row.entityType
      ids).filter (fun ev => ev.Concerns row.statusKey) = [ev] := by
  obtain ⟨ev, hev⟩ := exists_fromRow hst
    (if isRunning row then estimates row.taskType else none)
  have hmem := mem_query_of_isLatest h hids
  refine ⟨ev, ⟨_, hev⟩, ?_⟩
  unfold StatusCatchup.events
  rw [List.filter_filterMap]
  refine filterMap_eq_singleton nodup_query hmem ?_ fun r hr hne => ?_
  · have hconcerns := (Announces.concerns ⟨_, hev⟩).2 (rfl : row.statusKey = row.statusKey)
    simp only [hev, Option.filter_some, hconcerns, decide_true, if_true]
  · rw [Option.filter_eq_none_iff]
    intro ev' hev'
    have hother : ¬ ev'.Concerns row.statusKey := fun hc =>
      hne (eq_of_mem_query hmem hr ((Announces.concerns ⟨_, hev'⟩).1 hc))
    simpa using hother

/-- Nothing is replayed of a key without runs. -/
theorem events_of_no_rows {owner : ℤ} {entityType : String} (h : ∀ r ∈ rows, r.statusKey ≠ k) :
    (StatusCatchup.events rows estimates owner entityType ids).filter
      (fun ev => ev.Concerns k) = [] := by
  refine List.filter_eq_nil_iff.2 fun ev hev => ?_
  obtain ⟨r, hr, hev'⟩ := List.mem_filterMap.1 hev
  have hconcerns := (Announces.concerns (k := k) ⟨_, hev'⟩).1
  simpa using fun hc => h r (of_mem_queryLatestTaskRuns hr).1 (hconcerns hc)

end Dreamscroll
