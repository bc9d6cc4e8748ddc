import Dreamscroll.Common.Decimal
import Dreamscroll.Task.TaskDef
/-!
# The three task types

The concrete tasks of the application and the JSON each is queued as.
`AnyTask` is their sum: one table of runs serves all three.
-/

namespace Dreamscroll

/-- The versions of the prompt. -/
inductive IlluminationVersion
  | v1
  | v2
  deriving DecidableEq, Repr

/-- Their names. -/
def IlluminationVersion.asStr : IlluminationVersion → String
  | v1 => "v1"
  | v2 => "v2"

/-- How much the model is to think. -/
inductive ThinkingLevel
  | minimal
  | low
  | medium
  | high
  deriving DecidableEq, Repr

/-- The names of the levels. -/
def ThinkingLevel.asStr : ThinkingLevel → String
  | minimal => "minimal"
  | low => "low"
  | medium => "medium"
  | high => "high"

/-- The concrete task for illuminating a single capture. -/
structure IlluminationTask where
  captureId : ℤ
  entityOwnerId : ℤ
  modelId : String
  promptVersion : IlluminationVersion
  thinkingLevel : Option ThinkingLevel
  /-- Persist the relational projection and enqueue indexing. -/
  persistProjection : Bool
  deriving DecidableEq, Repr

instance : Task IlluminationTask where
  taskType _ := "illuminate"
  entityType _ := "capture"
  entityId := IlluminationTask.captureId
  entityOwnerId := IlluminationTask.entityOwnerId
  toJson t := .obj <|
    [("capture_id", .int t.captureId), ("entity_owner_id", .int t.entityOwnerId),
      ("model_id", .str t.modelId), ("prompt_version", .str t.promptVersion.asStr)] ++
    -- `skip_serializing_if = "Option::is_none"`
    (t.thinkingLevel.map fun level => ("thinking_level", Json.str level.asStr)).toList ++
    [("persist_projection", .bool t.persistProjection)]

/-- The concrete task for search-indexing a single capture. -/
structure SearchIndexTask where
  captureId : ℤ
  entityOwnerId : ℤ
  deriving DecidableEq, Repr

instance : Task SearchIndexTask where
  taskType _ := "search_index"
  entityType _ := "capture"
  entityId := SearchIndexTask.captureId
  entityOwnerId := SearchIndexTask.entityOwnerId
  toJson t := .obj [("capture_id", .int t.captureId), ("entity_owner_id", .int t.entityOwnerId)]

/-- The concrete task for generating a spark over a set of captures. -/
structure SparkTask where
  sparkId : ℤ
  entityOwnerId : ℤ
  captureIds : List ℤ
  deriving DecidableEq, Repr

instance : Task SparkTask where
  taskType _ := "spark"
  entityType _ := "spark"
  entityId := SparkTask.sparkId
  entityOwnerId := SparkTask.entityOwnerId
  toJson t := .obj [("spark_id", .int t.sparkId), ("entity_owner_id", .int t.entityOwnerId),
    ("capture_ids", .arr (t.captureIds.map Json.int))]

/-- A task of any of the three types. -/
inductive AnyTask
  | illuminate (task : IlluminationTask)
  | searchIndex (task : SearchIndexTask)
  | spark (task : SparkTask)
  deriving DecidableEq, Repr

instance : Task AnyTask where
  taskType
    | .illuminate t => Task.taskType t
    | .searchIndex t => Task.taskType t
    | .spark t => Task.taskType t
  entityType
    | .illuminate t => Task.entityType t
    | .searchIndex t => Task.entityType t
    | .spark t => Task.entityType t
  entityId
    | .illuminate t => Task.entityId t
    | .searchIndex t => Task.entityId t
    | .spark t => Task.entityId t
  entityOwnerId
    | .illuminate t => Task.entityOwnerId t
    | .searchIndex t => Task.entityOwnerId t
    | .spark t => Task.entityOwnerId t
  toJson
    | .illuminate t => Task.toJson t
    | .searchIndex t => Task.toJson t
    | .spark t => Task.toJson t

/-! ## Logical ids -/

namespace AnyTask

/-- The type of work and of its entity, as the logical id spells them. -/
def workType : AnyTask → String
  | .illuminate _ => "illuminate-capture"
  | .searchIndex _ => "search_index-capture"
  | .spark _ => "spark-spark"

theorem toList_makeLogicalId (task : AnyTask) :
    (TaskRun.makeLogicalId task).toList = 'u' :: ((toString (Task.entityOwnerId task)).toList ++
      '-' :: (task.workType.toList ++ (toString (Task.entityId task)).toList)) := by
  cases task <;>
    simp [TaskRun.makeLogicalId, String.toList_append, workType, Task.taskType, Task.entityType]

theorem workType_eq_cons (task : AnyTask) :
    ∃ c t, task.workType.toList = c :: t ∧ c.isAlpha = true := by
  cases task with
  | _ =>
    simp only [workType, String.reduceToList, List.cons.injEq]
    exact ⟨_, _, ⟨rfl, rfl⟩, rfl⟩

/-- No type of work is the beginning of another. -/
theorem workType_inj {task task' : AnyTask} {t t' : List Char}
    (h : task.workType.toList ++ t = task'.workType.toList ++ t') :
    task.workType = task'.workType := by
  cases task <;> cases task' <;> first | rfl | simp [workType] at h

/-- **A logical id names its work**: the owner, the type of the task and the
entity are read back from it. -/
theorem work_of_logicalId {task task' : AnyTask}
    (h : TaskRun.makeLogicalId task = TaskRun.makeLogicalId task') :
    Task.entityOwnerId task = Task.entityOwnerId task' ∧ task.workType = task'.workType ∧
      Task.entityId task = Task.entityId task' := by
  have hlist := congrArg String.toList h
  rw [toList_makeLogicalId, toList_makeLogicalId] at hlist
  have htail := (List.cons.inj hlist).2
  obtain ⟨c, t, hw, hc⟩ := workType_eq_cons task
  obtain ⟨c', t', hw', hc'⟩ := workType_eq_cons task'
  rw [hw, hw', List.cons_append, List.cons_append] at htail
  obtain ⟨howner, hrest⟩ := int_dash_inj hc hc' htail
  rw [← List.cons_append, ← List.cons_append, ← hw, ← hw'] at hrest
  have htype := workType_inj hrest
  rw [htype] at hrest
  exact ⟨howner, htype, toString_int_injective (List.append_cancel_left hrest)⟩

/-- So the runs of a search-index logical task index one capture. -/
theorem eq_searchIndex_of_logicalId {task : AnyTask} {t : SearchIndexTask}
    (h : TaskRun.makeLogicalId task = TaskRun.makeLogicalId (AnyTask.searchIndex t)) :
    task = .searchIndex t := by
  obtain ⟨howner, htype, hid⟩ := work_of_logicalId h
  cases task with
  | illuminate => simp [workType] at htype
  | spark => simp [workType] at htype
  | searchIndex t' =>
    obtain ⟨captureId, owner⟩ := t
    obtain ⟨captureId', owner'⟩ := t'
    have h₁ : owner' = owner := howner
    have h₂ : captureId' = captureId := hid
    rw [h₁, h₂]

end AnyTask

end Dreamscroll
