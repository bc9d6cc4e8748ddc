import Dreamscroll.Common.Serde
import Dreamscroll.Sse.Http
/-!
# Server events through `NOTIFY`

What the notifier sends and the listener decodes. A status is written as
its name and its discriminant and read with a check that they agree; the
version and the kind are read before the rest. An event comes back as it was
sent, and what is accepted at all is an event that would (`server_event_codec`).

The integers of the wire are as wide as their types in the source; `ServerEvent`
is `TaskStatusUpdate` with all of them.
-/

namespace Dreamscroll

/-- `serde_json` and `chrono`: the text of a value, and of a time. -/
structure Serde where
  fromStr : String → Option Json
  toStr : Json → String
  parseTime : String → Option Timestamp
  rfc3339 : Timestamp → String

/-! ## The event -/

/-- The kinds of events there are. -/
inductive ServerEventKind
  | taskStatus
  deriving DecidableEq, Repr

/-- What an event says of its run. -/
structure StatusPayload where
  taskType : String
  status : TaskRunStatus
  logicalId : String
  runId : String
  runNumber : ℤ
  attempts : ℤ
  processingStartedAt : Option Timestamp
  estimatedDurationMsP50 : Option ℤ
  deriving DecidableEq, Repr

/-- An event of the stream, with the entity its run is of. -/
structure ServerEvent where
  schemaVersion : ℤ
  eventType : ServerEventKind
  timestamp : Timestamp
  entityType : String
  entityId : ℤ
  entityOwnerId : Option ℤ
  payload : StatusPayload
  deriving DecidableEq, Repr

/-- The event with its numbers as integers. -/
def TaskStatusUpdate.wire (update : TaskStatusUpdate) : ServerEvent where
  schemaVersion := update.schemaVersion
  eventType := .taskStatus
  timestamp := update.timestamp
  entityType := update.entityType
  entityId := update.entityId
  entityOwnerId := update.entityOwnerId
  payload := {
    taskType := update.payload.taskType
    status := update.payload.status
    logicalId := update.payload.logicalId
    runId := update.payload.runId
    runNumber := update.payload.runNumber
    attempts := update.payload.attempts
    processingStartedAt := update.payload.processingStartedAt
    estimatedDurationMsP50 := update.payload.estimatedDurationMsP50 }

/-! ## Encoding -/

/-- The name in the JSON. -/
def ServerEventKind.name : ServerEventKind → String
  | .taskStatus => "task_status"

variable (serde : Serde)

/-- The keys that are written, with their values: an absent option writes
none. -/
def StatusPayload.fields (payload : StatusPayload) : List (String × Json) :=
  [("task_type", .str payload.taskType), ("status", payload.status.toJson),
    ("logical_id", .str payload.logicalId), ("run_id", .str payload.runId),
    ("run_number", .int payload.runNumber), ("attempts", .int payload.attempts)] ++
  optionalField "processing_started_at" (fun t => .str (serde.rfc3339 t))
    payload.processingStartedAt ++
  optionalField "estimated_duration_ms_p50" .int payload.estimatedDurationMsP50

/-- Likewise, the payload inside. -/
def ServerEvent.fields (event : ServerEvent) : List (String × Json) :=
  [("schema_version", .int event.schemaVersion), ("event_type", .str event.eventType.name),
    ("timestamp", .str (serde.rfc3339 event.timestamp)), ("entity_type", .str event.entityType),
    ("entity_id", .int event.entityId)] ++
  optionalField "entity_owner_id" .int event.entityOwnerId ++
  [("payload", .obj (event.payload.fields serde))]

/-- `#[derive(Serialize)]`. -/
def ServerEvent.toJson (event : ServerEvent) : Json := .obj (event.fields serde)

/-- The payload `PostgresNotifier::notify` sends. -/
def ServerEvent.notify (event : ServerEvent) : String := serde.toStr (event.toJson serde)

/-- It is the JSON of the update. -/
theorem wire_toJson (update : TaskStatusUpdate) :
    update.wire.toJson serde = update.toJson serde.rfc3339 := rfl

/-! ## Decoding -/

/-- `Deserialize for TaskRunStatus`, through `TaskRunStatusWire`. -/
def TaskRunStatus.fromJson (v : Json) : Option TaskRunStatus :=
  match v.structFields ["name", "discriminant"] with
  | some [name, discriminant] => do
    let name ← required Json.string name
    let discriminant ← required Json.i32 discriminant
    let status ← (TaskRunStatus.fromI32 discriminant).toOption
    if name = status.asStr then some status else none
  | _ => none

/-- The derived `Deserialize` of the kind. -/
def ServerEventKind.fromJson (v : Json) : Option ServerEventKind :=
  (v.unitVariant "task_status").map fun _ => .taskStatus

/-- `Deserialize for DateTime<Utc>`. -/
def Serde.time (v : Json) : Option Timestamp := v.string.bind serde.parseTime

/-- The keys of the payload, in the order of its fields. -/
def StatusPayload.names : List String :=
  ["task_type", "status", "logical_id", "run_id", "run_number", "attempts",
    "processing_started_at", "estimated_duration_ms_p50"]

/-- `#[derive(Deserialize)]` of the payload. -/
def StatusPayload.fromJson (v : Json) : Option StatusPayload :=
  match v.structFields StatusPayload.names with
  | some [taskType, status, logicalId, runId, runNumber, attempts, startedAt, estimate] => do
    let taskType ← required Json.string taskType
    let status ← required TaskRunStatus.fromJson status
    let logicalId ← required Json.string logicalId
    let runId ← required Json.string runId
    let runNumber ← required Json.i32 runNumber
    let attempts ← required Json.i32 attempts
    let startedAt ← optional serde.time startedAt
    let estimate ← optional Json.i64 estimate
    some ⟨taskType, status, logicalId, runId, runNumber, attempts, startedAt, estimate⟩
  | _ => none

/-- The keys of the event. -/
def ServerEvent.names : List String :=
  ["schema_version", "event_type", "timestamp", "entity_type", "entity_id", "entity_owner_id",
    "payload"]

/-- `#[derive(Deserialize)]` of the envelope. -/
def ServerEvent.fromJson (v : Json) : Option ServerEvent :=
  match v.structFields ServerEvent.names with
  | some [schemaVersion, eventType, timestamp, entityType, entityId, entityOwnerId, payload] => do
    let schemaVersion ← required Json.u8 schemaVersion
    let eventType ← required ServerEventKind.fromJson eventType
    let timestamp ← required serde.time timestamp
    let entityType ← required Json.string entityType
    let entityId ← required Json.i32 entityId
    let entityOwnerId ← optional Json.i32 entityOwnerId
    let payload ← required (StatusPayload.fromJson serde) payload
    some ⟨schemaVersion, eventType, timestamp, entityType, entityId, entityOwnerId, payload⟩
  | _ => none

/-- The `task_status` body of an envelope that passed the version and kind
gates. -/
def decodeTaskStatusUpdate (value : Json) : Option ServerEvent :=
  (ServerEvent.fromJson serde value).bind fun event =>
    if event.entityOwnerId.any fun ownerId => 0 < ownerId then some event else none

/-- **Decode one notification**, skipping anything this build does not
understand. -/
def decodeServerEvent (payload : String) : Option ServerEvent := do
  let value ← serde.fromStr payload
  if (value.get "schema_version").bind Json.asU64 ≠ some (currentSchemaVersion : ℤ) then none
  else
    let kindValue ← value.get "event_type"
    match ← ServerEventKind.fromJson kindValue with
    | .taskStatus => decodeTaskStatusUpdate serde value

/-! ## What is sent is decoded -/

/-- **The fields have the values of their types**, and the event is one this
build would publish. -/
structure ServerEvent.Valid (event : ServerEvent) : Prop where
  schemaVersion : event.schemaVersion = currentSchemaVersion
  entityId : i32Min ≤ event.entityId ∧ event.entityId ≤ i32Max
  entityOwnerId : ∃ ownerId, event.entityOwnerId = some ownerId ∧ 0 < ownerId ∧ ownerId ≤ i32Max
  runNumber : i32Min ≤ event.payload.runNumber ∧ event.payload.runNumber ≤ i32Max
  attempts : i32Min ≤ event.payload.attempts ∧ event.payload.attempts ≤ i32Max
  estimate : ∀ p50 ∈ event.payload.estimatedDurationMsP50, i64Min ≤ p50 ∧ p50 ≤ i64Max

/-- The times an event writes as texts. -/
def ServerEvent.times (event : ServerEvent) : List Timestamp :=
  event.timestamp :: event.payload.processingStartedAt.toList

/-- `serde_json` and `chrono` read back what they wrote of the event. -/
def Serde.RoundTrips (event : ServerEvent) : Prop :=
  serde.fromStr (event.notify serde) = some (event.toJson serde).sorted ∧
    ∀ t ∈ event.times, serde.parseTime (serde.rfc3339 t) = some t

variable {serde : Serde} {event : ServerEvent} {payload : StatusPayload} {v : Json}

/-- A status is read back, in whichever order its fields come. -/
theorem TaskRunStatus.fromJson_toJson (status : TaskRunStatus) :
    TaskRunStatus.fromJson status.toJson.sorted = some status := by
  unfold TaskRunStatus.fromJson TaskRunStatus.toJson
  rw [structFields_sorted (by simp)]
  cases status <;> rfl

/-- A payload has each field once. -/
theorem StatusPayload.nodup_fields : ((payload.fields serde).map Prod.fst).Nodup := by
  unfold StatusPayload.fields optionalField
  cases payload.processingStartedAt <;> cases payload.estimatedDurationMsP50 <;> simp

/-- An event has each field once. -/
theorem ServerEvent.nodup_fields : ((event.fields serde).map Prod.fst).Nodup := by
  unfold ServerEvent.fields optionalField
  cases event.entityOwnerId <;> simp

/-- What each field of a payload holds. -/
theorem StatusPayload.lookup_fields :
    StatusPayload.names.map (fun name => ((payload.fields serde).lookup name).map Json.sorted) =
      [some (.str payload.taskType), some payload.status.toJson.sorted,
        some (.str payload.logicalId), some (.str payload.runId),
        some (.int payload.runNumber), some (.int payload.attempts),
        payload.processingStartedAt.map fun t => .str (serde.rfc3339 t),
        payload.estimatedDurationMsP50.map .int] := by
  unfold StatusPayload.names StatusPayload.fields optionalField
  cases payload.processingStartedAt <;> cases payload.estimatedDurationMsP50 <;>
    simp [lookup_cons_ite, Json.sorted]

/-- What each field of an event holds. -/
theorem ServerEvent.lookup_fields :
    ServerEvent.names.map (fun name => ((event.fields serde).lookup name).map Json.sorted) =
      [some (.int event.schemaVersion), some (.str event.eventType.name),
        some (.str (serde.rfc3339 event.timestamp)), some (.str event.entityType),
        some (.int event.entityId), event.entityOwnerId.map .int,
        some (Json.obj (event.payload.fields serde)).sorted] := by
  unfold ServerEvent.names ServerEvent.fields optionalField
  cases event.entityOwnerId <;> simp [lookup_cons_ite, Json.sorted]

/-- **The payload that was written is read.** -/
theorem StatusPayload.fromJson_fields (hrun : i32Min ≤ payload.runNumber ∧ payload.runNumber ≤ i32Max)
    (hattempts : i32Min ≤ payload.attempts ∧ payload.attempts ≤ i32Max)
    (hp50 : ∀ p50 ∈ payload.estimatedDurationMsP50, i64Min ≤ p50 ∧ p50 ≤ i64Max)
    (htime : ∀ t ∈ payload.processingStartedAt, serde.parseTime (serde.rfc3339 t) = some t) :
    StatusPayload.fromJson serde (Json.obj (payload.fields serde)).sorted = some payload := by
  have hstarted : optional serde.time
      (payload.processingStartedAt.map fun t => .str (serde.rfc3339 t)) =
        some payload.processingStartedAt :=
    optional_written htime fun _ => by simp
  have hestimate : optional Json.i64 (payload.estimatedDurationMsP50.map .int) =
      some payload.estimatedDurationMsP50 :=
    optional_written (fun p50 h => integer_int (hp50 p50 h)) fun _ => by simp
  unfold StatusPayload.fromJson
  rw [structFields_sorted StatusPayload.nodup_fields, StatusPayload.lookup_fields]
  simp only [required, Option.bind_some, Json.string, Option.bind_eq_bind,
    TaskRunStatus.fromJson_toJson, Json.i32, integer_int hrun, integer_int hattempts, hstarted,
    hestimate]

/-- **The envelope that was written is read.** -/
theorem ServerEvent.fromJson_toJson (hv : event.Valid)
    (htime : ∀ t ∈ event.times, serde.parseTime (serde.rfc3339 t) = some t) :
    ServerEvent.fromJson serde (event.toJson serde).sorted = some event := by
  obtain ⟨ownerId, howner, hpos, hmax⟩ := hv.entityOwnerId
  have hschema : Json.integer 0 255 (.int event.schemaVersion) = some event.schemaVersion := by
    refine integer_int ?_
    rw [hv.schemaVersion]
    decide
  have hkind : ServerEventKind.fromJson (.str event.eventType.name) = some event.eventType := by
    cases event.eventType
    rfl
  have hstamp : serde.time (.str (serde.rfc3339 event.timestamp)) = some event.timestamp :=
    htime _ List.mem_cons_self
  have howner' : optional (Json.integer i32Min i32Max) (event.entityOwnerId.map .int) =
      some event.entityOwnerId := by
    refine optional_written (fun n hn => integer_int ?_) fun _ => by simp
    rw [howner] at hn
    cases hn
    unfold i32Min
    omega
  have hpayload : StatusPayload.fromJson serde (Json.obj (event.payload.fields serde)).sorted =
      some event.payload :=
    StatusPayload.fromJson_fields hv.runNumber hv.attempts hv.estimate fun t ht =>
      htime t (List.mem_cons_of_mem _ (Option.mem_toList.2 ht))
  unfold ServerEvent.fromJson ServerEvent.toJson
  rw [structFields_sorted ServerEvent.nodup_fields, ServerEvent.lookup_fields]
  simp only [required, Option.bind_some, Json.string, Option.bind_eq_bind, Json.u8, hschema,
    hkind, hstamp, Json.i32, integer_int hv.entityId, howner', hpayload]

/-- **A valid event comes back as it was sent.** -/
theorem decode_notify (hv : event.Valid) (h : serde.RoundTrips event) :
    decodeServerEvent serde (event.notify serde) = some event := by
  obtain ⟨hjson, htime⟩ := h
  obtain ⟨ownerId, howner, hpos, -⟩ := hv.entityOwnerId
  have hversion : ((event.toJson serde).sorted.get "schema_version").bind Json.asU64 =
      some (currentSchemaVersion : ℤ) := by
    unfold ServerEvent.toJson
    have hlookup : (event.fields serde).lookup "schema_version" = some (.int event.schemaVersion) :=
      rfl
    rw [get_sorted ServerEvent.nodup_fields, hlookup, hv.schemaVersion, Option.map_some,
      Json.sorted, Option.bind_some]
    rfl
  have hkind : (event.toJson serde).sorted.get "event_type" = some (.str event.eventType.name) := by
    have hlookup : (event.fields serde).lookup "event_type" = some (.str event.eventType.name) :=
      rfl
    unfold ServerEvent.toJson
    rw [get_sorted ServerEvent.nodup_fields, hlookup, Option.map_some, Json.sorted]
  have hfrom : ServerEventKind.fromJson (.str event.eventType.name) = some event.eventType := by
    cases event.eventType
    rfl
  unfold decodeServerEvent
  rw [hjson]
  simp only [Option.bind_eq_bind, Option.bind_some, hversion, ne_eq, not_true_eq_false, if_false,
    hkind, hfrom]
  cases event.eventType
  unfold decodeTaskStatusUpdate
  rw [ServerEvent.fromJson_toJson hv htime, Option.bind_some, howner, Option.any_some,
    decide_eq_true hpos, if_pos rfl]

/-! ## What is accepted -/

/-- **What an accepted payload says.** -/
structure Accepts (serde : Serde) (payload : String) (event : ServerEvent) : Prop where
  /-- It is an object of the current version, -/
  object : ∃ fields, serde.fromStr payload = some (.obj fields) ∧
    fields.lookup "schema_version" = some (.int currentSchemaVersion) ∧
    -- of the `task_status` kind, by its name or as a unit variant
    (fields.lookup "event_type" = some (.str "task_status") ∨
      fields.lookup "event_type" = some (.obj [("task_status", .null)])) ∧
    -- for an owner,
    (∃ ownerId, fields.lookup "entity_owner_id" = some (.int ownerId) ∧ 0 < ownerId ∧
      event.entityOwnerId = some ownerId) ∧
    -- with a status whose name and discriminant agree
    ∃ body status values name discriminant, fields.lookup "payload" = some body ∧
      body.structFields StatusPayload.names = some values ∧ values[1]? = some (some status) ∧
      status.structFields ["name", "discriminant"] =
        some [some (.str name), some (.int discriminant)] ∧
      name = event.payload.status.asStr ∧ discriminant = event.payload.status.asI32

/-- A status that is read has the fields of that status. -/
theorem TaskRunStatus.of_fromJson {status : TaskRunStatus} (h : TaskRunStatus.fromJson v = some status) :
    v.structFields ["name", "discriminant"] =
      some [some (.str status.asStr), some (.int status.asI32)] := by
  unfold TaskRunStatus.fromJson at h
  split at h
  · rename_i name discriminant hfields
    simp only [Option.bind_eq_bind, Option.bind_eq_some_iff, required_eq_some] at h
    obtain ⟨name', ⟨jname, rfl, hname⟩, code, ⟨jcode, rfl, hcode⟩, st, hst, heq⟩ := h
    rw [string_eq_some] at hname
    obtain ⟨rfl, -⟩ := integer_eq_some.1 hcode
    split_ifs at heq with hsame
    cases heq
    have hcode' : TaskRunStatus.fromI32 code = .ok status := by
      cases hfrom : TaskRunStatus.fromI32 code with
      | ok st => rw [hfrom] at hst; rw [Option.some.inj hst]
      | error e => rw [hfrom] at hst; cases hst
    rw [hfields, hname, hsame, TaskRunStatus.fromI32_eq_ok.1 hcode']
  · cases h

/-- What a payload that was read says. -/
theorem StatusPayload.of_fromJson (h : StatusPayload.fromJson serde v = some payload) :
    (∃ status values, v.structFields StatusPayload.names = some values ∧
      values[1]? = some (some status) ∧ TaskRunStatus.fromJson status = some payload.status) ∧
    (i32Min ≤ payload.runNumber ∧ payload.runNumber ≤ i32Max) ∧
    (i32Min ≤ payload.attempts ∧ payload.attempts ≤ i32Max) ∧
    ∀ p50 ∈ payload.estimatedDurationMsP50, i64Min ≤ p50 ∧ p50 ≤ i64Max := by
  unfold StatusPayload.fromJson at h
  split at h
  · rename_i taskType status logicalId runId runNumber attempts startedAt estimate hfields
    simp only [Option.bind_eq_bind, Option.bind_eq_some_iff, required_eq_some] at h
    obtain ⟨_, -, st, ⟨jst, rfl, hst⟩, _, -, _, -, n, ⟨_, -, hn⟩, k, ⟨_, -, hk⟩, _, -, p50, hp50,
      heq⟩ := h
    cases heq
    refine ⟨⟨jst, _, hfields, rfl, hst⟩, (integer_eq_some.1 hn).2, (integer_eq_some.1 hk).2, ?_⟩
    intro p hp
    obtain ⟨_, -, hread⟩ := optional_eq_some hp50 p hp
    exact (integer_eq_some.1 hread).2
  · cases h

/-- **What is decoded is valid, and its payload says so.** -/
theorem of_decode {text : String} (h : decodeServerEvent serde text = some event) :
    Accepts serde text event ∧ event.Valid := by
  unfold decodeServerEvent at h
  rw [Option.bind_eq_bind, Option.bind_eq_some_iff] at h
  obtain ⟨value, hvalue, h⟩ := h
  split_ifs at h with hversion
  rw [not_not] at hversion
  simp only [Option.bind_eq_bind, Option.bind_eq_some_iff] at h
  obtain ⟨kindValue, hkindValue, kind, hkind, h⟩ := h
  cases kind
  simp only [decodeTaskStatusUpdate, Option.bind_eq_some_iff] at h
  obtain ⟨event', hevent, h⟩ := h
  split_ifs at h with howner
  cases h
  cases value with
  | obj fields =>
    obtain ⟨version, hgetv, hversion⟩ := Option.bind_eq_some_iff.1 hversion
    have hv : version = .int currentSchemaVersion := by
      cases version with
      | int n =>
        simp only [Json.asU64, Option.ite_none_right_eq_some, Option.some.injEq] at hversion
        rw [hversion.2]
      | _ => cases hversion
    rw [hv] at hgetv
    have hk : kindValue = .str "task_status" ∨ kindValue = .obj [("task_status", .null)] := by
      obtain ⟨u, hu, -⟩ := Option.map_eq_some_iff.1 hkind
      exact unitVariant_eq_some.1 hu
    simp only [ServerEvent.fromJson, ServerEvent.names, Json.structFields, List.map_cons,
      List.map_nil, Option.bind_eq_bind, Option.bind_eq_some_iff, required_eq_some] at hevent
    obtain ⟨schema, ⟨jschema, hjschema, hschema⟩, _, -, _, -, _, -, entityId, ⟨_, -, hid⟩, owner,
      howner', p, ⟨jp, hjp, hp⟩, heq⟩ := hevent
    cases heq
    -- the version is read twice, by the check and by the decoder
    have hsame : jschema = .int currentSchemaVersion := Option.some.inj (hjschema.symm.trans hgetv)
    rw [hsame] at hschema
    have hschema' : schema = currentSchemaVersion := by
      have hint := (integer_eq_some.1 hschema).1
      exact (Json.int.inj hint).symm
    obtain ⟨ownerId, hown, hpos⟩ : ∃ ownerId, owner = some ownerId ∧ 0 < ownerId := by
      cases owner with
      | none => cases howner
      | some ownerId => exact ⟨ownerId, rfl, of_decide_eq_true howner⟩
    obtain ⟨jowner, hjowner, hreadOwner⟩ := optional_eq_some howner' ownerId hown
    obtain ⟨hjint, -, hmax⟩ := integer_eq_some.1 hreadOwner
    obtain ⟨⟨status, values, hvalues, hat, hst⟩, hrun, hattempts, hp50⟩ :=
      StatusPayload.of_fromJson hp
    refine ⟨⟨fields, hvalue, hgetv, ?_, ⟨ownerId, ?_, hpos, hown⟩, jp, status, values, _, _, hjp,
      hvalues, hat, TaskRunStatus.of_fromJson hst, rfl, rfl⟩,
      ⟨hschema', (integer_eq_some.1 hid).2, ⟨ownerId, hown, hpos, hmax⟩, hrun, hattempts, hp50⟩⟩
    · rcases hk with rfl | rfl
      · exact Or.inl hkindValue
      · exact Or.inr hkindValue
    · rw [← hjint]
      exact hjowner
  | _ => cases hkindValue

/-! ## The codec -/

/-- The columns of the row and the estimate fit their types. -/
structure TaskRunModel.FitsColumns (row : TaskRunModel) (estimate : Option TaskTimingEstimate) :
    Prop where
  entityId : i32Min ≤ row.entityId ∧ row.entityId ≤ i32Max
  entityOwnerId : i32Min ≤ row.entityOwnerId ∧ row.entityOwnerId ≤ i32Max
  runNumber : (row.runNumber : ℤ) ≤ i32Max
  attempts : (row.attempts : ℤ) ≤ i32Max
  estimate : ∀ e ∈ estimate, i64Min ≤ e.durationMsP50 ∧ e.durationMsP50 ≤ i64Max

/-- What a row is published as is a valid event. -/
theorem valid_wire {row : TaskRunModel} {estimate : Option TaskTimingEstimate}
    {update : TaskStatusUpdate} (h : TaskStatusUpdate.fromRow row estimate = some update)
    (hfits : row.FitsColumns estimate) (howner : 0 < row.entityOwnerId) : update.wire.Valid := by
  unfold TaskStatusUpdate.fromRow at h
  split at h
  · cases h
  · cases h
    refine ⟨rfl, hfits.entityId, ⟨_, rfl, howner, hfits.entityOwnerId.2⟩, ⟨?_, hfits.runNumber⟩,
      ⟨?_, hfits.attempts⟩, ?_⟩
    · show i32Min ≤ (row.runNumber : ℤ)
      unfold i32Min
      omega
    · show i32Min ≤ (row.attempts : ℤ)
      unfold i32Min
      omega
    · intro p50 hp50
      obtain ⟨e, he, hclient⟩ := Option.bind_eq_some_iff.1 hp50
      unfold TaskTimingEstimate.clientProcessingDurationMs at hclient
      split_ifs at hclient
      cases hclient
      exact hfits.estimate e he

/-- **The codec of server events**, where `serde_json` and `chrono` read back
what they wrote. The event of a row comes back from the payload the notifier
sends for it; and an event that is decoded from any payload at all has the
version, the kind, a status that agrees with itself and an owner, and comes
back when it is sent again. -/
theorem server_event_codec (serde : Serde) :
    (∀ row estimate update, TaskStatusUpdate.fromRow row estimate = some update →
      row.FitsColumns estimate → 0 < row.entityOwnerId → serde.RoundTrips update.wire →
      decodeServerEvent serde (update.wire.notify serde) = some update.wire) ∧
    ∀ text event, decodeServerEvent serde text = some event →
      Accepts serde text event ∧ (serde.RoundTrips event →
        decodeServerEvent serde (event.notify serde) = some event) := by
  refine ⟨fun row estimate update h hfits howner hserde => ?_, fun text event h => ?_⟩
  · exact decode_notify (valid_wire h hfits howner) hserde
  · obtain ⟨haccepts, hvalid⟩ := of_decode h
    exact ⟨haccepts, decode_notify hvalid⟩

/-! ### One notification -/

/-- The third run of capture 42, completed. -/
def notifiedRow : TaskRunModel where
  logicalId := "u7-illuminate-capture42"
  runId := "b91a7c4f-7e8a-4bf8-9a76-c81e258ec113"
  runNumber := 3
  backfillId := none
  taskType := "illuminate"
  entityOwnerId := 7
  entityType := "capture"
  entityId := 42
  taskPayload := none
  statusCode := 4
  attempts := 1
  createdAt := 0
  processingStartedAt := none
  lastErrorCode := none
  lastErrorMessage := none
  lastErrorDurationMs := none
  successDurationMs := none
  updatedAt := 1790016130000000

/-- The time of an event that says a run succeeded. -/
def completedTime : String := "2026-09-21T18:42:10Z"

/-- Its event, as it is printed. -/
def completedText : String :=
  "\x7b\"schema_version\":4,\"event_type\":\"task_status\",\"timestamp\":" ++
  "\"2026-09-21T18:42:10Z\",\"entity_type\":\"capture\",\"entity_id\":42," ++
  "\"entity_owner_id\":7,\"payload\":\x7b\"task_type\":\"illuminate\",\"status\":" ++
  "\x7b\"name\":\"complete_success\",\"discriminant\":4\x7d,\"logical_id\":" ++
  "\"u7-illuminate-capture42\",\"run_id\":\"b91a7c4f-7e8a-4bf8-9a76-c81e258ec113\"," ++
  "\"run_number\":3,\"attempts\":1\x7d\x7d"

/-- That event, as it is sent. -/
def completedJson : Json :=
  .obj [("schema_version", .int 4), ("event_type", .str "task_status"),
    ("timestamp", .str completedTime), ("entity_type", .str "capture"), ("entity_id", .int 42),
    ("entity_owner_id", .int 7), ("payload", .obj [("task_type", .str "illuminate"),
      ("status", .obj [("name", .str "complete_success"), ("discriminant", .int 4)]),
      ("logical_id", .str "u7-illuminate-capture42"),
      ("run_id", .str "b91a7c4f-7e8a-4bf8-9a76-c81e258ec113"), ("run_number", .int 3),
      ("attempts", .int 1)])]

/-- `serde_json` and `chrono` on this event. -/
def completedSerde : Serde where
  fromStr text := if text = completedText then some completedJson.sorted else none
  toStr _ := completedText
  parseTime text := if text = completedTime then some notifiedRow.updatedAt else none
  rfc3339 _ := completedTime

theorem completedSerde_fromStr :
    completedSerde.fromStr completedText = some completedJson.sorted := by
  simp [completedSerde]

theorem completedSerde_parseTime :
    completedSerde.parseTime completedTime = some notifiedRow.updatedAt := by
  simp [completedSerde]

/-- A completed run, notified and decoded. -/
theorem server_event_codec_completed :
    ∃ update, TaskStatusUpdate.fromRow notifiedRow none = some update ∧
      decodeServerEvent completedSerde (update.wire.notify completedSerde) = some update.wire := by
  refine ⟨_, rfl, (server_event_codec completedSerde).1 notifiedRow none _ rfl ?_ (by decide) ?_⟩
  · exact ⟨by decide, by decide, by decide, by decide, fun e he => by cases he⟩
  · refine ⟨completedSerde_fromStr, fun t ht => ?_⟩
    rw [List.mem_singleton.1 ht]
    exact completedSerde_parseTime

end Dreamscroll
