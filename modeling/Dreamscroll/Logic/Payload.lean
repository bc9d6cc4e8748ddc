import Dreamscroll.Common.Serde
import Dreamscroll.Logic.Tasks
import Dreamscroll.Task.Tracker
/-!
# The payload of a queued run

What a queue posts for a run and what the webhook of its task type reads.
Fields that are omitted when they are empty, and fields that older payloads
do not have, are read as their defaults, so a run comes back as it was
submitted (`queued_payload`).
-/

namespace Dreamscroll

/-- `serde_json::to_vec` and `from_slice`, as text. What is read keeps the
fields of an object in the order they stand in. -/
structure JsonText where
  toVec : Json → String
  fromSlice : String → Option Json

/-- The reader reads back what was written for the value. -/
def JsonText.Reads (text : JsonText) (v : Json) : Prop := text.fromSlice (text.toVec v) = some v

/-! ## Reading a struct from the text -/

namespace Json

/-- A field of the struct is there twice, which a reader of the text refuses. -/
def repeats (names : List String) : Json → Bool
  | .obj fields => !decide ((fields.map Prod.fst).filter fun name => name ∈ names).Nodup
  | _ => false

/-- The fields of a struct, from the text. -/
def structOnce (names : List String) (v : Json) : Option (List (Option Json)) :=
  if v.repeats names then none else v.structFields names

/-- The value is an array. -/
def isArr : Json → Bool
  | .arr _ => true
  | _ => false

/-- A `bool`, from `true` and `false` alone. -/
def boolean : Json → Option Bool
  | .bool b => some b
  | _ => none

/-- `Vec<T>`. -/
def vec {α : Type} (read : Json → Option α) : Json → Option (List α)
  | .arr items => items.mapM read
  | _ => none

/-- The object without these fields. -/
def without (names : List String) : Json → Json
  | .obj fields => .obj (fields.filter fun f => f.1 ∉ names)
  | v => v

end Json

/-- `#[serde(default = "…")]`. -/
def orDefault {α : Type} (d : α) (read : Json → Option α) : Option Json → Option α
  | none => some d
  | some v => read v

/-- An option without a default. Only from an object may it be absent. -/
def optionIn {α : Type} (v : Json) (read : Json → Option α) (x : Option Json) :
    Option (Option α) := if v.isArr && x.isNone then none else optional read x

/-! ## The tasks -/

/-- The derived `Deserialize` of the version. -/
def IlluminationVersion.fromJson (v : Json) : Option IlluminationVersion :=
  ((v.unitVariant "v1").map fun _ => .v1) <|> (v.unitVariant "v2").map fun _ => .v2

/-- And of the level. -/
def ThinkingLevel.fromJson (v : Json) : Option ThinkingLevel :=
  ((v.unitVariant "minimal").map fun _ => .minimal) <|> ((v.unitVariant "low").map fun _ => .low) <|>
    ((v.unitVariant "medium").map fun _ => .medium) <|> (v.unitVariant "high").map fun _ => .high

/-- `default_persist_projection`. -/
def defaultPersistProjection : Bool := true

/-- The keys of the task, in the order of its fields. -/
def IlluminationTask.names : List String :=
  ["capture_id", "entity_owner_id", "model_id", "prompt_version", "thinking_level",
    "persist_projection"]

/-- `Deserialize for IlluminationTask`. -/
def IlluminationTask.fromJson (v : Json) : Option IlluminationTask :=
  match v.structOnce IlluminationTask.names with
  | some [captureId, entityOwnerId, modelId, promptVersion, thinkingLevel, persistProjection] => do
    let captureId ← required Json.i32 captureId
    let entityOwnerId ← required Json.i32 entityOwnerId
    let modelId ← required Json.string modelId
    let promptVersion ← required IlluminationVersion.fromJson promptVersion
    let thinkingLevel ← optionIn v ThinkingLevel.fromJson thinkingLevel
    let persistProjection ← orDefault defaultPersistProjection Json.boolean persistProjection
    some ⟨captureId, entityOwnerId, modelId, promptVersion, thinkingLevel, persistProjection⟩
  | _ => none

/-- The keys of an indexing. -/
def SearchIndexTask.names : List String := ["capture_id", "entity_owner_id"]

/-- The derived `Deserialize` of an indexing: both keys, each once. -/
def SearchIndexTask.fromJson (v : Json) : Option SearchIndexTask :=
  match v.structOnce SearchIndexTask.names with
  | some [captureId, entityOwnerId] => do
    let captureId ← required Json.i32 captureId
    let entityOwnerId ← required Json.i32 entityOwnerId
    some ⟨captureId, entityOwnerId⟩
  | _ => none

/-- The keys of a spark. -/
def SparkTask.names : List String := ["spark_id", "entity_owner_id", "capture_ids"]

/-- The derived `Deserialize` of a spark: all three keys, each once. -/
def SparkTask.fromJson (v : Json) : Option SparkTask :=
  match v.structOnce SparkTask.names with
  | some [sparkId, entityOwnerId, captureIds] => do
    let sparkId ← required Json.i32 sparkId
    let entityOwnerId ← required Json.i32 entityOwnerId
    let captureIds ← required (Json.vec Json.i32) captureIds
    some ⟨sparkId, entityOwnerId, captureIds⟩
  | _ => none

/-- The webhook routes, one for each task type. -/
inductive TaskRoute
  | illuminate
  | searchIndex
  | spark
  deriving DecidableEq, Repr

/-- The route a task is posted to. -/
def AnyTask.route : AnyTask → TaskRoute
  | .illuminate _ => .illuminate
  | .searchIndex _ => .searchIndex
  | .spark _ => .spark

/-- What the route reads as its task. -/
def TaskRoute.taskFromJson : TaskRoute → Json → Option AnyTask
  | .illuminate, v => (IlluminationTask.fromJson v).map .illuminate
  | .searchIndex, v => (SearchIndexTask.fromJson v).map .searchIndex
  | .spark, v => (SparkTask.fromJson v).map .spark

/-! ## The run -/

namespace TaskRun

/-- `#[derive(Serialize)]`. -/
def toJson {T : Type} [Task T] (run : TaskRun T) : Json := .obj <|
  [("logical_id", .str run.logicalId), ("run_id", .str run.runId),
    ("run_number", .int run.runNumber)] ++
  optionalField "backfill_id" .str run.backfillId ++ [("task", Task.toJson run.task)]

/-- The keys of a run, in the order of its fields. -/
def names : List String := ["logical_id", "run_id", "run_number", "backfill_id", "task"]

/-- `#[derive(Deserialize)]`. A run number is an `i32`, from 1 on. -/
def fromJson (route : TaskRoute) (v : Json) : Option (TaskRun AnyTask) :=
  match v.structOnce TaskRun.names with
  | some [logicalId, runId, runNumber, backfillId, task] => do
    let logicalId ← required Json.string logicalId
    let runId ← required Json.string runId
    let runNumber ← required (Json.integer 0 i32Max) runNumber
    let backfillId ← optional Json.string backfillId
    let task ← required route.taskFromJson task
    some ⟨logicalId, runId, runNumber.toNat, backfillId, task⟩
  | _ => none

end TaskRun

/-- The body `enqueue` builds. -/
def enqueueBody (text : JsonText) (run : TaskRun AnyTask) : String := text.toVec run.toJson

/-- `Json<TaskRun<_>>`, the argument of a webhook route. -/
def webhookRun (text : JsonText) (route : TaskRoute) (body : String) : Option (TaskRun AnyTask) :=
  (text.fromSlice body).bind (TaskRun.fromJson route)

/-! ## Older payloads -/

/-- The fields that payloads did not always have. -/
def optionalFields : List String := ["backfill_id", "thinking_level", "persist_projection"]

/-- The run as it was written before the fields `absent` existed. -/
def TaskRun.payload (run : TaskRun AnyTask) (absent : List String) : Json :=
  (Json.obj <|
    [("logical_id", .str run.logicalId), ("run_id", .str run.runId),
      ("run_number", .int run.runNumber)] ++
    optionalField "backfill_id" .str run.backfillId ++
    [("task", (Task.toJson run.task).without absent)]).without absent

/-- The task with what its fields default to. -/
def AnyTask.withDefaults (absent : List String) : AnyTask → AnyTask
  | .illuminate task => .illuminate { task with
      thinkingLevel := if "thinking_level" ∈ absent then none else task.thinkingLevel
      persistProjection := if "persist_projection" ∈ absent then true else task.persistProjection }
  | task => task

/-- The run with the defaults of the keys that are not there. -/
def TaskRun.withDefaults (run : TaskRun AnyTask) (absent : List String) : TaskRun AnyTask :=
  { run with
    backfillId := if "backfill_id" ∈ absent then none else run.backfillId
    task := run.task.withDefaults absent }

/-- The value is one of an `i32`. -/
def FitsI32 (n : ℤ) : Prop := i32Min ≤ n ∧ n ≤ i32Max

instance (n : ℤ) : Decidable (FitsI32 n) := inferInstanceAs (Decidable (_ ∧ _))

/-- The fields of the task have the values of their types. -/
def AnyTask.Typed : AnyTask → Prop
  | .illuminate task => FitsI32 task.captureId ∧ FitsI32 task.entityOwnerId
  | .searchIndex task => FitsI32 task.captureId ∧ FitsI32 task.entityOwnerId
  | .spark task => FitsI32 task.sparkId ∧ FitsI32 task.entityOwnerId ∧
      ∀ id ∈ task.captureIds, FitsI32 id

/-- The numbers are in the range of their types. -/
def TaskRun.Typed (run : TaskRun AnyTask) : Prop := (run.runNumber : ℤ) ≤ i32Max ∧ run.task.Typed

/-! ## Reading back what was written -/

/-- The keys that are written, with their values. -/
def IlluminationTask.fields (task : IlluminationTask) : List (String × Json) :=
  [("capture_id", .int task.captureId), ("entity_owner_id", .int task.entityOwnerId),
    ("model_id", .str task.modelId), ("prompt_version", .str task.promptVersion.asStr)] ++
  (task.thinkingLevel.map fun level => ("thinking_level", Json.str level.asStr)).toList ++
  [("persist_projection", .bool task.persistProjection)]

variable {fields : List (String × Json)} {names absent : List String} {name : String}
variable {run : TaskRun AnyTask} {text : JsonText}

theorem lookup_filter_absent : (fields.filter fun f => f.1 ∉ absent).lookup name =
    if name ∈ absent then none else fields.lookup name := by
  induction fields with
  | nil => simp
  | cons f fields ih =>
    by_cases hf : f.1 ∈ absent
    · rw [List.filter_cons_of_neg (by simpa using hf), ih, List.lookup_cons]
      by_cases hname : name = f.1
      · rw [hname, if_pos hf, if_pos hf]
      · rw [beq_false_of_ne hname]
    · rw [List.filter_cons_of_pos (by simpa using hf), List.lookup_cons, List.lookup_cons]
      by_cases hname : name = f.1
      · rw [hname, beq_self_eq_true, if_neg hf]
      · rw [beq_false_of_ne hname, ih]

/-- **The fields of a struct that was written without some of them.** -/
theorem structOnce_without (h : (fields.map Prod.fst).Nodup) :
    ((Json.obj fields).without absent).structOnce names =
      some (names.map fun name => if name ∈ absent then none else fields.lookup name) := by
  have honce : (((fields.filter fun f => f.1 ∉ absent).map Prod.fst).filter
      fun name => name ∈ names).Nodup :=
    ((h.sublist (List.filter_sublist.map Prod.fst)).filter _)
  unfold Json.structOnce Json.without Json.repeats
  rw [if_neg (by simpa using honce)]
  exact congrArg some (List.map_congr_left fun name _ => lookup_filter_absent)

theorem optionIn_without {α : Type} {read : Json → Option α} {x : Option Json} :
    optionIn ((Json.obj fields).without absent) read x = optional read x := rfl

theorem i32_int {n : ℤ} (h : FitsI32 n) : Json.i32 (.int n) = some n := integer_int h

theorem IlluminationVersion.fromJson_asStr (version : IlluminationVersion) :
    IlluminationVersion.fromJson (.str version.asStr) = some version := by
  cases version <;> rfl

theorem ThinkingLevel.fromJson_asStr (level : ThinkingLevel) :
    ThinkingLevel.fromJson (.str level.asStr) = some level := by
  cases level <;> rfl

/-- A list of numbers that was written is read. -/
theorem vec_i32_int {ids : List ℤ} (h : ∀ id ∈ ids, FitsI32 id) :
    Json.vec Json.i32 (.arr (ids.map Json.int)) = some ids := by
  change (ids.map Json.int).mapM Json.i32 = some ids
  induction ids with
  | nil => rfl
  | cons id ids ih =>
    obtain ⟨hid, hids⟩ := List.forall_mem_cons.1 h
    rw [List.map_cons, List.mapM_cons, ih hids, i32_int hid]
    rfl

/-- Only the fields that were not always there are ever absent. -/
theorem not_mem_absent (habsent : ∀ name ∈ absent, name ∈ optionalFields)
    (hname : name ∉ optionalFields) : name ∉ absent := fun h => hname (habsent name h)

/-- The six fields, those that may be absent as far as they are there. -/
theorem IlluminationTask.lookup_fields {task : IlluminationTask}
    (habsent : ∀ name ∈ absent, name ∈ optionalFields) :
    (IlluminationTask.names.map fun name =>
        if name ∈ absent then none else task.fields.lookup name) =
      [some (.int task.captureId), some (.int task.entityOwnerId), some (.str task.modelId),
        some (.str task.promptVersion.asStr),
        if "thinking_level" ∈ absent then none
        else task.thinkingLevel.map fun level => .str level.asStr,
        if "persist_projection" ∈ absent then none else some (.bool task.persistProjection)] := by
  have hcapture : "capture_id" ∉ absent := not_mem_absent habsent (by decide)
  have howner : "entity_owner_id" ∉ absent := not_mem_absent habsent (by decide)
  have hmodel : "model_id" ∉ absent := not_mem_absent habsent (by decide)
  have hversion : "prompt_version" ∉ absent := not_mem_absent habsent (by decide)
  unfold IlluminationTask.names IlluminationTask.fields
  cases task.thinkingLevel <;>
    simp only [List.map_cons, List.map_nil, if_neg hcapture, if_neg howner, if_neg hmodel,
      if_neg hversion, Option.map_some, Option.map_none, Option.toList_some, Option.toList_none,
      List.cons_append, List.nil_append, lookup_cons_ite, List.lookup_nil, String.reduceEq,
      if_true, if_false]

theorem IlluminationTask.fromJson_without {task : IlluminationTask}
    (habsent : ∀ name ∈ absent, name ∈ optionalFields)
    (hcapture : FitsI32 task.captureId) (howner : FitsI32 task.entityOwnerId) :
    (IlluminationTask.fromJson ((Json.obj task.fields).without absent)).map AnyTask.illuminate =
      some ((AnyTask.illuminate task).withDefaults absent) := by
  have hnodup : (task.fields.map Prod.fst).Nodup := by
    unfold IlluminationTask.fields
    cases task.thinkingLevel <;> simp
  have hlevel : optional ThinkingLevel.fromJson
      (if "thinking_level" ∈ absent then none
        else task.thinkingLevel.map fun level => .str level.asStr) =
      some (if "thinking_level" ∈ absent then none else task.thinkingLevel) := by
    split_ifs
    · rfl
    · exact optional_written (fun level _ => level.fromJson_asStr) fun _ => by simp
  have hpersist : orDefault defaultPersistProjection Json.boolean
      (if "persist_projection" ∈ absent then none else some (.bool task.persistProjection)) =
      some (if "persist_projection" ∈ absent then true else task.persistProjection) := by
    split_ifs <;> rfl
  unfold IlluminationTask.fromJson
  rw [structOnce_without hnodup, IlluminationTask.lookup_fields habsent]
  simp only [required, Option.bind_some, Option.bind_eq_bind, Json.string, i32_int hcapture,
    i32_int howner, IlluminationVersion.fromJson_asStr, optionIn_without, hlevel, hpersist,
    Option.map_some]
  rfl

theorem SearchIndexTask.fromJson_without {task : SearchIndexTask}
    (habsent : ∀ name ∈ absent, name ∈ optionalFields)
    (hcapture : FitsI32 task.captureId) (howner : FitsI32 task.entityOwnerId) :
    SearchIndexTask.fromJson ((Task.toJson task).without absent) = some task := by
  have hfirst : "capture_id" ∉ absent := not_mem_absent habsent (by decide)
  have hsecond : "entity_owner_id" ∉ absent := not_mem_absent habsent (by decide)
  change SearchIndexTask.fromJson ((Json.obj [("capture_id", .int task.captureId),
    ("entity_owner_id", .int task.entityOwnerId)]).without absent) = _
  unfold SearchIndexTask.fromJson
  rw [structOnce_without (by simp)]
  simp only [SearchIndexTask.names, List.map_cons, List.map_nil, if_neg hfirst, if_neg hsecond,
    lookup_cons_ite, String.reduceEq, if_true, if_false, required, Option.bind_some,
    Option.bind_eq_bind, i32_int hcapture, i32_int howner]

theorem SparkTask.fromJson_without {task : SparkTask}
    (habsent : ∀ name ∈ absent, name ∈ optionalFields) (hspark : FitsI32 task.sparkId)
    (howner : FitsI32 task.entityOwnerId) (hids : ∀ id ∈ task.captureIds, FitsI32 id) :
    SparkTask.fromJson ((Task.toJson task).without absent) = some task := by
  have hfirst : "spark_id" ∉ absent := not_mem_absent habsent (by decide)
  have hsecond : "entity_owner_id" ∉ absent := not_mem_absent habsent (by decide)
  have hthird : "capture_ids" ∉ absent := not_mem_absent habsent (by decide)
  change SparkTask.fromJson ((Json.obj [("spark_id", .int task.sparkId),
    ("entity_owner_id", .int task.entityOwnerId),
    ("capture_ids", .arr (task.captureIds.map Json.int))]).without absent) = _
  unfold SparkTask.fromJson
  rw [structOnce_without (by simp)]
  simp only [SparkTask.names, List.map_cons, List.map_nil, if_neg hfirst, if_neg hsecond,
    if_neg hthird, lookup_cons_ite, String.reduceEq, if_true, if_false, required,
    Option.bind_some, Option.bind_eq_bind, i32_int hspark, i32_int howner, vec_i32_int hids]

/-- **The route of a task reads the task**, from any of its payloads. -/
theorem taskFromJson_without {task : AnyTask} (htyped : task.Typed)
    (habsent : ∀ name ∈ absent, name ∈ optionalFields) :
    task.route.taskFromJson ((Task.toJson task).without absent) =
      some (task.withDefaults absent) := by
  cases task with
  | illuminate task => exact IlluminationTask.fromJson_without habsent htyped.1 htyped.2
  | searchIndex task =>
    exact congrArg (Option.map AnyTask.searchIndex)
      (SearchIndexTask.fromJson_without habsent htyped.1 htyped.2)
  | spark task =>
    exact congrArg (Option.map AnyTask.spark)
      (SparkTask.fromJson_without habsent htyped.1 htyped.2.1 htyped.2.2)

/-- The five fields of a run, those that may be absent as far as they are
there. -/
theorem lookup_payload {task : Json} (habsent : ∀ name ∈ absent, name ∈ optionalFields) :
    (TaskRun.names.map fun name => if name ∈ absent then none else
        ([("logical_id", Json.str run.logicalId), ("run_id", .str run.runId),
          ("run_number", .int run.runNumber)] ++
          optionalField "backfill_id" .str run.backfillId ++ [("task", task)]).lookup name) =
      [some (.str run.logicalId), some (.str run.runId), some (.int run.runNumber),
        if "backfill_id" ∈ absent then none else run.backfillId.map .str, some task] := by
  have hfirst : "logical_id" ∉ absent := not_mem_absent habsent (by decide)
  have hsecond : "run_id" ∉ absent := not_mem_absent habsent (by decide)
  have hthird : "run_number" ∉ absent := not_mem_absent habsent (by decide)
  have htask : "task" ∉ absent := not_mem_absent habsent (by decide)
  unfold TaskRun.names optionalField
  cases run.backfillId <;>
    simp only [List.map_cons, List.map_nil, if_neg hfirst, if_neg hsecond, if_neg hthird,
      if_neg htask, Option.map_some, Option.map_none, Option.toList_some, Option.toList_none,
      List.cons_append, List.nil_append, lookup_cons_ite, List.lookup_nil, String.reduceEq,
      if_true, if_false]

/-- **And the run.** -/
theorem TaskRun.fromJson_payload (htyped : run.Typed)
    (habsent : ∀ name ∈ absent, name ∈ optionalFields) :
    TaskRun.fromJson run.task.route (run.payload absent) = some (run.withDefaults absent) := by
  have hbackfill : optional Json.string
      (if "backfill_id" ∈ absent then none else run.backfillId.map .str) =
      some (if "backfill_id" ∈ absent then none else run.backfillId) := by
    split_ifs
    · rfl
    · exact optional_written (fun _ _ => rfl) fun _ => by simp
  have hnumber : Json.integer 0 i32Max (.int run.runNumber) = some (run.runNumber : ℤ) :=
    integer_int ⟨Int.natCast_nonneg _, htyped.1⟩
  unfold TaskRun.payload TaskRun.fromJson
  rw [structOnce_without (by cases run.backfillId <;> simp [optionalField]), lookup_payload habsent]
  simp only [required, Option.bind_some, Option.bind_eq_bind, Json.string, hnumber, hbackfill,
    taskFromJson_without htyped.2 habsent]
  rfl

theorem without_nil (v : Json) : v.without [] = v := by
  cases v with
  | obj fields =>
    change Json.obj (fields.filter _) = _
    rw [List.filter_eq_self.2 fun f _ => decide_eq_true List.not_mem_nil]
  | _ => rfl

/-- With no field absent, it is the body of the queue. -/
theorem payload_nil : run.payload [] = run.toJson := by
  unfold TaskRun.payload TaskRun.toJson
  rw [without_nil, without_nil]

theorem withDefaults_nil : run.withDefaults [] = run := by
  obtain ⟨logicalId, runId, runNumber, backfillId, task⟩ := run
  cases task <;> rfl

/-- The row was inserted for this run. -/
structure TaskRun.Identifies (run : TaskRun AnyTask) (row : TaskRunModel) : Prop where
  logicalId : row.logicalId = run.logicalId
  runId : row.runId = run.runId
  runNumber : row.runNumber = run.runNumber
  backfillId : row.backfillId = run.backfillId
  taskPayload : row.taskPayload = some (Task.toJson run.task)

/-- **The webhook reads the run that was submitted**, and a payload from
before some of its fields existed with their defaults. -/
theorem queued_payload (text : JsonText) (run : TaskRun AnyTask) (absent : List String)
    (htyped : run.Typed) (habsent : ∀ name ∈ absent, name ∈ optionalFields)
    (hbody : text.Reads run.toJson) (hpayload : text.Reads (run.payload absent)) :
    (∃ read, webhookRun text run.task.route (enqueueBody text run) = some read ∧ read = run ∧
      (∀ now, read.Identifies (queuedRow run now)) ∧
      (run.logicalId = TaskRun.makeLogicalId run.task →
        read.logicalId = TaskRun.makeLogicalId read.task)) ∧
    webhookRun text run.task.route (text.toVec (run.payload absent)) =
      some (run.withDefaults absent) := by
  have hread : webhookRun text run.task.route (enqueueBody text run) = some run := by
    have hnone : TaskRun.fromJson run.task.route (run.payload []) = some (run.withDefaults []) :=
      TaskRun.fromJson_payload htyped nofun
    rw [payload_nil, withDefaults_nil] at hnone
    unfold webhookRun enqueueBody
    rw [hbody, Option.bind_some, hnone]
  refine ⟨⟨run, hread, rfl, fun now => ⟨rfl, rfl, rfl, rfl, rfl⟩, id⟩, ?_⟩
  unfold webhookRun
  rw [hpayload, Option.bind_some, TaskRun.fromJson_payload htyped habsent]

/-- A run whose projection is not kept. -/
def unprojectedRun : TaskRun AnyTask where
  logicalId := "u1-illuminate-capture5"
  runId := "r1"
  runNumber := 1
  backfillId := none
  task := .illuminate ⟨5, 1, "g", .v1, none, false⟩

/-- Its body, from before `persist_projection`, and from now. -/
def unprojectedBody (persistProjection : String) : String :=
  "\x7b\"logical_id\":\"u1-illuminate-capture5\",\"run_id\":\"r1\",\"run_number\":1," ++
    "\"task\":\x7b\"capture_id\":5,\"entity_owner_id\":1,\"model_id\":\"g\"," ++
    "\"prompt_version\":\"v1\"" ++ persistProjection ++ "\x7d\x7d"

/-- `serde_json`, on the two bodies. -/
def unprojectedText : JsonText where
  toVec
    | .obj [_, _, _, (_, .obj [_, _, _, _])] => unprojectedBody ""
    | _ => unprojectedBody ",\"persist_projection\":false"
  fromSlice body :=
    if body = unprojectedBody "" then some (unprojectedRun.payload ["persist_projection"])
    else if body = unprojectedBody ",\"persist_projection\":false" then some unprojectedRun.toJson
    else none

/-- The older body asks for the projection, which is the default; the run's
own is read back as it is. -/
theorem queued_payload_unprojected :
    (∃ read, webhookRun unprojectedText .illuminate
        (enqueueBody unprojectedText unprojectedRun) = some read ∧ read = unprojectedRun ∧
      (∀ now, read.Identifies (queuedRow unprojectedRun now)) ∧
      (unprojectedRun.logicalId = TaskRun.makeLogicalId unprojectedRun.task →
        read.logicalId = TaskRun.makeLogicalId read.task)) ∧
    webhookRun unprojectedText .illuminate
        (unprojectedText.toVec (unprojectedRun.payload ["persist_projection"])) =
      some { unprojectedRun with task := .illuminate ⟨5, 1, "g", .v1, none, true⟩ } := by
  have hbody : unprojectedText.Reads unprojectedRun.toJson := by
    unfold JsonText.Reads
    rw [show unprojectedText.toVec unprojectedRun.toJson =
      unprojectedBody ",\"persist_projection\":false" from rfl]
    unfold unprojectedText
    dsimp only
    have hne : unprojectedBody ",\"persist_projection\":false" ≠ unprojectedBody "" := by
      intro h
      have hprefix := (String.append_left_inj _).1 h
      exact absurd ((String.append_right_inj _).1 hprefix) (by decide)
    exact (if_neg hne).trans (if_pos rfl)
  have hpayload : unprojectedText.Reads (unprojectedRun.payload ["persist_projection"]) := by
    unfold JsonText.Reads
    rw [show unprojectedText.toVec (unprojectedRun.payload ["persist_projection"]) =
      unprojectedBody "" from rfl]
    unfold unprojectedText
    dsimp only
    rw [if_pos rfl]
  exact queued_payload unprojectedText unprojectedRun ["persist_projection"]
    ⟨by decide, by decide, by decide⟩ (by simp [optionalFields]) hbody hpayload

end Dreamscroll
