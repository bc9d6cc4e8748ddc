import Mathlib.Data.Int.Notation
import Dreamscroll.Common.LockedTransaction
/-!
# Schema sync

`sync_schema`, by binaries of any required versions at once. A run refuses a
database of a newer version, and otherwise drops the manual unique indexes,
reconciles the model schema, creates the manual indexes and records its
version, all in one transaction behind an advisory lock. So the recorded
version never goes back, and the index that keeps a backfill from being
submitted twice is never seen missing (`schema_marker`).
-/

namespace Dreamscroll

/-- An index the entities do not declare. -/
structure ManualIndex where
  name : String
  table : String
  columns : List String
  unique : Bool
  deriving DecidableEq, Repr

/-- How it is made: what goes before the schema is synced, and what comes
after. -/
structure ManualIndexOperation where
  dropBeforeSchemaSync : Option String
  create : ManualIndex
  deriving DecidableEq, Repr

/-- A backfill submits a logical task once. -/
def backfillTaskIndex : ManualIndex :=
  ⟨"idx-task_runs-backfill_task", "task_runs", ["backfill_id", "logical_id"], true⟩

/-- The index is made anew each time. -/
def backfillTaskOperation : ManualIndexOperation :=
  ⟨some "idx-task_runs-backfill_task", backfillTaskIndex⟩

/-- `TASK_RUN_INDEXES`. -/
def taskRunIndexes : List ManualIndexOperation :=
  [backfillTaskOperation, ⟨none,
    ⟨"idx-task_runs-backfill_status", "task_runs", ["backfill_id", "task_type", "status_code"],
      false⟩⟩]

/-- The index of `indexes::inference_meta`. -/
def taskAttemptIndex : ManualIndex :=
  ⟨"idx-inference_metas-task_attempt", "inference_metas", ["task_run_id", "attempt"], false⟩

/-- A database: the schema of the models, the indexes next to it, and the
table `dreamscroll_schema_version`, where it exists, with the version of its
one row. -/
structure Database (σ : Type) where
  schema : σ
  indexes : List ManualIndex
  marker : Option (Option ℤ)

namespace Database

variable {σ : Type}

/-- The recorded version. -/
def version (db : Database σ) : Option ℤ := db.marker.getD none

/-- `DROP INDEX IF EXISTS`. -/
def dropIndex (db : Database σ) (name : String) : Database σ :=
  { db with indexes := db.indexes.filter fun index => index.name ≠ name }

/-- `CREATE INDEX IF NOT EXISTS`. -/
def createIndex (db : Database σ) (index : ManualIndex) : Database σ :=
  if db.indexes.any fun other => other.name = index.name then db
  else { db with indexes := db.indexes ++ [index] }

end Database

/-- `registry.sync` of the binary with this required version. -/
abbrev Registry (σ : Type) := ℤ → Database σ → Except String (Database σ)

namespace SyncSchema

variable {σ : Type}

/-- The statements after the advisory lock. -/
inductive Place
  | toRegclass
  | selectVersion
  | beforeSchemaSync (operations : List ManualIndexOperation)
  | registrySync
  | afterSchemaSync (operations : List ManualIndexOperation)
  | inferenceMeta
  | createMarkerTable
  | recordVersion
  | commit
  deriving DecidableEq, Repr

/-- The refusal of a binary that is older than the schema. -/
def newerThan (applied required : ℤ) : String :=
  s!"database schema version {applied} is newer than this binary's required version " ++
    s!"{required}; refusing to sync"

/-- **`sync_schema`**, by a binary of this `REQUIRED_SCHEMA_VERSION`. -/
def syncSchema (registry : Registry σ) : LockedTransaction (Database σ) ℤ Place String where
  start _ := .toRegclass
  next required view
    | .toRegclass =>
      .read (if view.marker.isSome then .selectVersion else .beforeSchemaSync taskRunIndexes)
    | .selectVersion =>
      match view.version with
      | none => .read (.beforeSchemaSync taskRunIndexes)
      | some applied =>
        if required < applied then .abort (newerThan applied required)
        else .read (.beforeSchemaSync taskRunIndexes)
    | .beforeSchemaSync [] => .read .registrySync
    | .beforeSchemaSync (operation :: operations) =>
      match operation.dropBeforeSchemaSync with
      | none => .read (.beforeSchemaSync operations)
      | some name => .write (view.dropIndex name) (.beforeSchemaSync operations)
    | .registrySync =>
      match registry required view with
      | .error error => .abort error
      | .ok view => .write view (.afterSchemaSync taskRunIndexes)
    | .afterSchemaSync [] => .read .inferenceMeta
    | .afterSchemaSync (operation :: operations) =>
      .write (view.createIndex operation.create) (.afterSchemaSync operations)
    | .inferenceMeta => .write (view.createIndex taskAttemptIndex) .createMarkerTable
    | .createMarkerTable =>
      .write (if view.marker.isSome then view else { view with marker := some none }) .recordVersion
    | .recordVersion =>
      match view.marker with
      | none => .abort "relation \"dreamscroll_schema_version\" does not exist"
      | some _ => .write { view with marker := some (some required) } .commit
    | .commit => .commit

/-- The statements of the schema registry are about the models: they leave
the marker alone and make no index of the name that is managed by hand. -/
def KeepsOwnParts (registry : Registry σ) : Prop :=
  ∀ required db db', registry required db = .ok db' → db'.marker = db.marker ∧
    ∀ index ∈ db'.indexes, index.name = backfillTaskIndex.name → index ∈ db.indexes

/-- The state of all runs, with the required versions of those committed. -/
abbrev State (σ : Type) := LockedTransaction.State (Database σ) ℤ Place String

/-- A sync, and where it is. -/
abbrev Call (σ : Type) := LockedTransaction.Call (Database σ) ℤ Place String

/-- **The marker never goes back.** -/
structure MarkerSafe (registry : Registry σ) (s : State σ) : Prop where
  nondecreasing : s.commits.Pairwise (· ≤ ·)
  /-- The recorded version is the greatest that was committed. -/
  recorded : s.commits ≠ [] → ∃ v ∈ s.commits, s.committed.version = some v ∧
    ∀ c ∈ s.commits, c ≤ v
  index : s.commits ≠ [] → backfillTaskIndex ∈ s.committed.indexes
  /-- A run below the recorded version is never committed, -/
  refused : ∀ (c : ℕ) (call : Call σ) v, s.calls[c]? = some call → call.stands ≠ .committed →
    s.committed.version = some v → call.op < v →
    ∀ es s', (syncSchema registry).system.run s es = some s' →
      ∃ call' : Call σ, s'.calls[c]? = some call' ∧ call'.stands ≠ .committed
  /-- and fails where it reads the version. -/
  fails : ∀ (c : ℕ) (call : Call σ) v, s.calls[c]? = some call → call.stands = .at .selectVersion →
    s.committed.version = some v → call.op < v →
    (syncSchema registry).system.step s (.advance c) =
      some (s.abort c call.op (newerThan v call.op))
  /-- Nothing else than a commit changes the database, and it records its
  version. -/
  unchanged : ∀ e s', (syncSchema registry).system.step s e = some s' →
    s'.committed = s.committed ∧ s'.commits = s.commits ∨
      ∃ (c : ℕ) (call : Call σ), e = .advance c ∧ s.calls[c]? = some call ∧
        (∀ v, s.committed.version = some v → v ≤ call.op) ∧
        s'.commits = s.commits ++ [call.op] ∧ s'.committed.version = some call.op

/-! ## What a run has learned -/

/-- The version that is recorded is not newer. -/
def Checked (db : Database σ) (required : ℤ) : Prop := ∀ v, db.version = some v → v ≤ required

/-- No index has the name. -/
def Absent (view : Database σ) : Prop :=
  ∀ index ∈ view.indexes, index.name ≠ backfillTaskIndex.name

/-- **What a run knows at each place.** -/
def Learned (db : Database σ) (required : ℤ) (view : Database σ) : Place → Prop
  | .toRegclass | .selectVersion => view = db
  | .beforeSchemaSync operations =>
    Checked db required ∧ (backfillTaskOperation ∈ operations ∨ Absent view)
  | .registrySync => Checked db required ∧ Absent view
  | .afterSchemaSync operations => Checked db required ∧
    (∀ operation ∈ operations, operation ∈ taskRunIndexes) ∧
    (backfillTaskOperation ∈ operations ∧ Absent view ∨ backfillTaskIndex ∈ view.indexes)
  | .inferenceMeta | .createMarkerTable | .recordVersion =>
    Checked db required ∧ backfillTaskIndex ∈ view.indexes
  | .commit => Checked db required ∧ backfillTaskIndex ∈ view.indexes ∧
    view.version = some required

variable {registry : Registry σ} {db view view' : Database σ} {required : ℤ}
  {place place' : Place} {index : ManualIndex} {name : String}

theorem Absent.dropIndex (h : Absent view) : Absent (view.dropIndex name) :=
  fun index hindex => h index (List.mem_of_mem_filter hindex)

theorem absent_dropIndex : Absent (view.dropIndex backfillTaskIndex.name) := by
  intro index hindex
  exact of_decide_eq_true (List.mem_filter.1 hindex).2

theorem mem_createIndex (h : backfillTaskIndex ∈ view.indexes) :
    backfillTaskIndex ∈ (view.createIndex index).indexes := by
  unfold Database.createIndex
  split_ifs
  · exact h
  · exact List.mem_append_left _ h

theorem Absent.createIndex (h : Absent view) (hname : index.name ≠ backfillTaskIndex.name) :
    Absent (view.createIndex index) := by
  unfold Database.createIndex
  split_ifs
  · exact h
  · intro other hother
    rcases List.mem_append.1 hother with hother | hother
    · exact h other hother
    · rw [List.mem_singleton.1 hother]
      exact hname

/-- **With no index of its name in the way, the unique index is created.** -/
theorem Absent.mem_createIndex (h : Absent view) :
    backfillTaskIndex ∈ (view.createIndex backfillTaskIndex).indexes := by
  unfold Database.createIndex
  rw [if_neg]
  · exact List.mem_append_right _ (List.mem_singleton_self _)
  · rw [List.any_eq_true]
    rintro ⟨other, hother, hname⟩
    exact h other hother (of_decide_eq_true hname)

/-- The operation of the unique index is the only one that makes an index of
its name. -/
theorem create_name_ne {operation : ManualIndexOperation} (h : operation ∈ taskRunIndexes)
    (hne : operation ≠ backfillTaskOperation) :
    operation.create.name ≠ backfillTaskIndex.name := by
  revert operation
  decide

/-- What a statement that only reads finds out. -/
theorem learned_read (hknown : Learned db required view place)
    (hnext : (syncSchema registry).next required view place = .read place') :
    Learned db required view place' := by
  have hmem : backfillTaskOperation ∈ taskRunIndexes := by decide
  cases place with
  | toRegclass =>
    subst hknown
    simp only [syncSchema, TxStep.read.injEq] at hnext
    split_ifs at hnext with hmarker
    · subst hnext
      rfl
    · subst hnext
      refine ⟨fun v hv => ?_, Or.inl hmem⟩
      rw [Option.not_isSome_iff_eq_none] at hmarker
      rw [Database.version, hmarker] at hv
      cases hv
  | selectVersion =>
    subst hknown
    simp only [syncSchema] at hnext
    split at hnext
    · rename_i hversion
      cases hnext
      refine ⟨fun v hv => ?_, Or.inl hmem⟩
      cases hversion.symm.trans hv
    · rename_i applied hversion
      split_ifs at hnext with hnewer
      cases hnext
      refine ⟨fun v hv => ?_, Or.inl hmem⟩
      cases hversion.symm.trans hv
      exact Int.not_lt.1 hnewer
  | beforeSchemaSync operations =>
    cases operations with
    | nil =>
      cases hnext
      exact ⟨hknown.1, hknown.2.resolve_left List.not_mem_nil⟩
    | cons operation operations =>
      simp only [syncSchema] at hnext
      split at hnext
      · rename_i hdrop
        cases hnext
        refine ⟨hknown.1, hknown.2.imp_left fun h => ?_⟩
        rcases List.mem_cons.1 h with rfl | h
        · cases hdrop
        · exact h
      · cases hnext
  | afterSchemaSync operations =>
    cases operations with
    | nil =>
      cases hnext
      exact ⟨hknown.1, hknown.2.2.resolve_left fun h => List.not_mem_nil h.1⟩
    | cons operation operations => cases hnext
  | registrySync => simp only [syncSchema] at hnext; split at hnext <;> cases hnext
  | recordVersion => simp only [syncSchema] at hnext; split at hnext <;> cases hnext
  | inferenceMeta | createMarkerTable | commit => cases hnext

/-- What a statement that writes leaves. -/
theorem learned_write (hkeeps : KeepsOwnParts registry) (hknown : Learned db required view place)
    (hnext : (syncSchema registry).next required view place = .write view' place') :
    Learned db required view' place' := by
  have hmem : backfillTaskOperation ∈ taskRunIndexes := by decide
  cases place with
  | selectVersion =>
    simp only [syncSchema] at hnext
    split at hnext
    · cases hnext
    · split_ifs at hnext
  | toRegclass | commit => cases hnext
  | beforeSchemaSync operations =>
    cases operations with
    | nil => cases hnext
    | cons operation operations =>
      simp only [syncSchema] at hnext
      split at hnext
      · cases hnext
      · rename_i name hdrop
        cases hnext
        refine ⟨hknown.1, ?_⟩
        rcases hknown.2 with h | h
        · rcases List.mem_cons.1 h with rfl | h
          · cases hdrop
            exact Or.inr absent_dropIndex
          · exact Or.inl h
        · exact Or.inr h.dropIndex
  | registrySync =>
    -- the registry creates no index of the backfill's name but the right one
    simp only [syncSchema] at hnext
    split at hnext
    · cases hnext
    · rename_i synced hsync
      cases hnext
      obtain ⟨-, hindexes⟩ := hkeeps required view _ hsync
      refine ⟨hknown.1, fun _ h => h, Or.inl ⟨hmem, fun index hindex hname => ?_⟩⟩
      exact hknown.2 index (hindexes index hindex hname) hname
  | afterSchemaSync operations =>
    cases operations with
    | nil => cases hnext
    | cons operation operations =>
      cases hnext
      obtain ⟨hchecked, hall, hindex⟩ := hknown
      refine ⟨hchecked, fun other hother => hall other (List.mem_cons_of_mem _ hother), ?_⟩
      rcases hindex with ⟨h, habsent⟩ | h
      · -- this operation creates the index, or one of another name
        by_cases heq : operation = backfillTaskOperation
        · subst heq
          exact Or.inr habsent.mem_createIndex
        · refine Or.inl ⟨?_, habsent.createIndex
            (create_name_ne (hall operation List.mem_cons_self) heq)⟩
          exact (List.mem_cons.1 h).resolve_left fun h => heq h.symm
      · exact Or.inr (mem_createIndex h)
  | inferenceMeta =>
    cases hnext
    exact ⟨hknown.1, mem_createIndex hknown.2⟩
  | createMarkerTable =>
    cases hnext
    refine ⟨hknown.1, ?_⟩
    split_ifs
    · exact hknown.2
    · exact hknown.2
  | recordVersion =>
    simp only [syncSchema] at hnext
    split at hnext
    · cases hnext
    · cases hnext
      exact ⟨hknown.1, hknown.2, rfl⟩

/-- **What each statement learns.** -/
theorem learns (hkeeps : KeepsOwnParts registry) : (syncSchema registry).Learns Learned :=
  ⟨fun _ _ => rfl, fun _ _ _ _ _ => learned_read, fun _ _ _ _ _ _ => learned_write hkeeps⟩

/-! ## The recorded version -/

/-- The commit follows on the statement that records the version. -/
theorem eq_commit (h : (syncSchema registry).next required view place = .commit) :
    place = .commit := by
  cases place with
  | commit => rfl
  | toRegclass | inferenceMeta | createMarkerTable => cases h
  | selectVersion =>
    simp only [syncSchema] at h
    split at h
    · cases h
    · split_ifs at h
  | registrySync | recordVersion => simp only [syncSchema] at h; split at h <;> cases h
  | beforeSchemaSync operations =>
    cases operations with
    | nil => cases h
    | cons operation operations => simp only [syncSchema] at h; split at h <;> cases h
  | afterSchemaSync operations => cases operations <;> cases h

variable {s s' : State σ} {e : LockedTransaction.Event ℤ String} {call : Call σ} {c : ℕ}

/-- What holds of the committed database, and of what each run has learned
of it. -/
structure Inv (s : State σ) : Prop where
  knows : LockedTransaction.Knows Learned s
  nondecreasing : s.commits.Pairwise (· ≤ ·)
  recorded : s.commits ≠ [] → ∃ v ∈ s.commits, s.committed.version = some v ∧
    ∀ c ∈ s.commits, c ≤ v
  index : s.commits ≠ [] → backfillTaskIndex ∈ s.committed.indexes

/-- **A run that commits has the lock, is not below the recorded version,
and made the index.** -/
theorem Inv.commit (hi : Inv s) (hc : s.calls[c]? = some call) (hat : call.stands = .at place)
    (hnext : (syncSchema registry).next call.op (s.view call) place = .commit) :
    Checked s.committed call.op ∧ backfillTaskIndex ∈ (s.view call).indexes ∧
      (s.view call).version = some call.op := by
  rw [eq_commit hnext] at hat
  exact (hi.knows c call _ hc hat).2

theorem Inv.step (hkeeps : KeepsOwnParts registry) (hi : Inv s)
    (h : (syncSchema registry).system.step s e = some s') : Inv s' := by
  have hstep := LockedTransaction.step_cases h
  have hknows := hi.knows.step (learns hkeeps) hstep
  rcases LockedTransaction.committed_cases hstep with
    ⟨hcommitted, hcommits⟩ | ⟨c, call, place, rfl, hc, hat, hnext, rfl⟩
  · refine ⟨hknows, ?_, ?_, ?_⟩ <;> rw [hcommits]
    · exact hi.nondecreasing
    · rw [hcommitted]
      exact hi.recorded
    · rw [hcommitted]
      exact hi.index
  · obtain ⟨hchecked, hindex, hversion⟩ := hi.commit hc hat hnext
    have hle : ∀ required ∈ s.commits, required ≤ call.op := by
      intro required hmem
      obtain ⟨v, -, hv, hmax⟩ := hi.recorded (List.ne_nil_of_mem hmem)
      exact Int.le_trans (hmax required hmem) (hchecked v hv)
    refine ⟨hknows, ?_, fun _ => ⟨call.op, ?_, hversion, ?_⟩, fun _ => hindex⟩
    · refine List.pairwise_append.2 ⟨hi.nondecreasing, List.pairwise_singleton _ _, ?_⟩
      intro required hmem other hother
      rw [List.mem_singleton.1 hother]
      exact hle required hmem
    · exact List.mem_append_right _ (List.mem_singleton_self _)
    · intro required hmem
      rcases List.mem_append.1 hmem with hmem | hmem
      · exact hle required hmem
      · exact Int.le_of_eq (List.mem_singleton.1 hmem)

theorem inv_start : Inv (LockedTransaction.State.start db : State σ) where
  knows := LockedTransaction.knows_start
  nondecreasing := List.Pairwise.nil
  recorded h := absurd rfl h
  index h := absurd rfl h

/-- **The recorded version never goes back.** -/
theorem Inv.version_le (hi : Inv s) (h : (syncSchema registry).system.step s e = some s') {v : ℤ}
    (hv : s.committed.version = some v) : ∃ v', s'.committed.version = some v' ∧ v ≤ v' := by
  rcases LockedTransaction.committed_cases (LockedTransaction.step_cases h) with
    ⟨hcommitted, -⟩ | ⟨c, call, place, rfl, hc, hat, hnext, rfl⟩
  · exact ⟨v, (congrArg Database.version hcommitted).trans hv, Int.le_refl v⟩
  · obtain ⟨hchecked, -, hversion⟩ := hi.commit hc hat hnext
    exact ⟨call.op, hversion, hchecked v hv⟩

/-- A run of this version that is below the marker, and not committed. -/
def Below (c : ℕ) (required : ℤ) (s : State σ) : Prop :=
  (∃ v, s.committed.version = some v ∧ required < v) ∧
    ∃ call : Call σ, s.calls[c]? = some call ∧ call.op = required ∧ call.stands ≠ .committed

theorem Below.step (hb : Below c required s) (hi : Inv s)
    (h : (syncSchema registry).system.step s e = some s') : Below c required s' := by
  obtain ⟨⟨v, hv, hlt⟩, call, hc, rfl, hstands⟩ := hb
  obtain ⟨v', hv', hle⟩ := hi.version_le h hv
  obtain ⟨call', hc', hop, hcommitted⟩ :=
    LockedTransaction.call_step (LockedTransaction.step_cases h) hc
  refine ⟨⟨v', hv', Int.lt_of_lt_of_le hlt hle⟩, call', hc', hop, fun hs => ?_⟩
  rcases hcommitted hs with hs | ⟨place, hat, hnext⟩
  · exact hstands hs
  · -- a run that commits has checked that it is not below
    exact Int.not_lt.2 ((hi.commit hc hat hnext).1 v hv) hlt

/-- **At the statement that reads the version, a run below it fails.** -/
theorem step_selectVersion (hc : s.calls[c]? = some call)
    (hat : call.stands = .at .selectVersion) (hk : LockedTransaction.Knows Learned s) {v : ℤ}
    (hv : s.committed.version = some v) (hlt : call.op < v) :
    (syncSchema registry).system.step s (.advance c) =
      some (s.abort c call.op (newerThan v call.op)) := by
  have hview : s.view call = s.committed := (hk c call _ hc hat).2
  have hnext : (syncSchema registry).next call.op (s.view call) .selectVersion =
      .abort (newerThan v call.op) := by
    simp only [syncSchema, hview, hv, if_pos hlt]
  obtain ⟨op, work, stands⟩ := call
  dsimp only at hat
  subst hat
  change (syncSchema registry).step s (.advance c) = _
  simp only [LockedTransaction.step, hc]
  rw [show work.getD s.committed = s.view ⟨op, work, .at .selectVersion⟩ from rfl, hnext]

/-- **The schema marker never goes back**, whatever runs of whatever binaries
overlap, and wherever they fail. -/
theorem schema_marker (registry : Registry σ) (hkeeps : KeepsOwnParts registry)
    (db : Database σ) (es : List (LockedTransaction.Event ℤ String)) (s : State σ)
    (hrun : (syncSchema registry).system.run (.start db) es = some s) :
    MarkerSafe registry s := by
  have hi : Inv s := (syncSchema registry).system.run_inv
    (fun _ _ _ hi hstep => hi.step hkeeps hstep) inv_start hrun
  refine ⟨hi.nondecreasing, hi.recorded, hi.index, ?_, ?_, ?_⟩
  · intro c call v hc hstands hv hlt es' s' hrun'
    have hb : Inv s' ∧ Below c call.op s' := (syncSchema registry).system.run_inv
      (I := fun s => Inv s ∧ Below c call.op s)
      (fun _ _ _ hb hstep => ⟨hb.1.step hkeeps hstep, hb.2.step hb.1 hstep⟩)
      ⟨hi, ⟨v, hv, hlt⟩, call, hc, rfl, hstands⟩ hrun'
    obtain ⟨-, -, call', hc', -, hstands'⟩ := hb
    exact ⟨call', hc', hstands'⟩
  · intro c call v hc hat hv hlt
    exact step_selectVersion hc hat hi.knows hv hlt
  · intro e s' hstep
    rcases LockedTransaction.committed_cases (LockedTransaction.step_cases hstep) with
      h | ⟨c, call, place, rfl, hc, hat, hnext, rfl⟩
    · exact Or.inl h
    · obtain ⟨hchecked, -, hversion⟩ := hi.commit hc hat hnext
      exact Or.inr ⟨c, call, rfl, hc, hchecked, rfl, hversion⟩

/-- Version 8 is applied to a new database, and then version 7 is refused. -/
def refusedRun : List (LockedTransaction.Event ℤ String) :=
  [.invoke 8, .invoke 7, .acquire 0] ++ List.replicate 12 (.advance 0) ++
    [.acquire 1, .advance 1, .advance 1]

theorem schema_marker_refused : ∃ s : State Unit,
    (syncSchema fun _ db => .ok db).system.run (.start ⟨(), [], none⟩) refusedRun = some s ∧
    s.commits = [8] ∧ (∃ call : Call Unit, s.calls[1]? = some call ∧
      call.stands = .failed (newerThan 8 7)) ∧
    MarkerSafe (fun _ db => .ok db) s :=
  ⟨_, rfl, rfl, ⟨_, rfl, rfl⟩, schema_marker (fun _ db => .ok db)
    (fun _ _ _ h => by cases h; exact ⟨rfl, fun _ hindex _ => hindex⟩) ⟨(), [], none⟩ refusedRun _
    rfl⟩

end SyncSchema

end Dreamscroll
