import Dreamscroll.Common.Procedure
import Dreamscroll.Service.InsertIllumination
/-!
# Importing a capture

`insert_capture`, one statement at a time: the look for a media of the user
with the same hash, the upload, and the insert of the capture with its media.
Nothing in the schema keeps a hash to one media of a user, so what the look
found may no longer hold when the insert runs.

What any overlap of the calls leaves to each of them is `Knows`, and what
each statement grants of it is `rely`; an import that runs alone is
`importAlone`.
-/

namespace Dreamscroll

/-- A row of `medias`, with its user, its capture and its size. -/
structure MediaRow extends MediaModel where
  userId : ℤ
  captureId : ℤ
  bytes : ℤ
  deriving DecidableEq, Repr

/-- The tables an upload writes, with their sequences. -/
structure UploadTables where
  captures : List CaptureModel
  medias : List MediaRow
  captureSequence : Sequence
  mediaSequence : Sequence
  deriving DecidableEq, Repr

namespace Upload

/-- The content of a file. -/
abbrev Bytes := List UInt8

/-- `infer::Type`. -/
structure MediaType where
  mimeType : String
  extension : String
  deriving DecidableEq, Repr

/-- What the code takes from the crates `infer` and `blake3`. -/
structure Tools where
  inferGet : Bytes → Option MediaType
  /-- The hash in hexadecimal. -/
  blake3 : Bytes → String

/-! ## The statements -/

/-- **`supported_image`.** -/
def supportedImage (tools : Tools) (bytes : Bytes) : Except ApiError MediaType :=
  match tools.inferGet bytes with
  | none => .error (ApiError.unsupportedMediaType
      s!"Could not identify the uploaded file format ({bytes.length} bytes)")
  | some mediaType =>
    if !"image/".toList.isPrefixOf mediaType.mimeType.toList then
      .error (ApiError.badRequest "Uploaded media is not an image.")
    else if mediaType.mimeType = "image/heic" ∨ mediaType.mimeType = "image/heif" then
      .error (ApiError.unsupportedMediaType (s!"Refused {bytes.length} bytes of " ++
        s!"{mediaType.mimeType}: no browser outside Safari renders it"))
    else .ok mediaType

/-- A media of the user has the hash. -/
def holds (userId : ℤ) (tables : UploadTables) (hash : String) : Bool :=
  tables.medias.any fun m => m.userId = userId && m.hashBlake3 = some hash

/-- The answer to an import whose content is there already. -/
def alreadyExists : ApiError := ApiError.conflict
  "An image with the same blake3 content hash already exists for this account."

/-- What is inserted, next to what the upload returned. -/
structure Saved where
  mediaType : MediaType
  handle : StorageHandle
  deriving DecidableEq, Repr

/-- The media of the capture, with its key. -/
def mediaRow (userId : ℤ) (tools : Tools) (bytes : Bytes) (saved : Saved) (captureId id : ℤ) :
    MediaRow where
  id := id
  userId := userId
  captureId := captureId
  bytes := bytes.length
  mimeType := some saved.mediaType.mimeType
  hashBlake3 := some (tools.blake3 bytes)
  storageProvider := saved.handle.provider
  storageBucket := saved.handle.bucket
  storageUserShard := saved.handle.userShard
  storageUuid := saved.handle.uuid
  storageExtension := saved.handle.extension

/-- `save` of the capture with its media, both in one transaction. -/
def save (userId : ℤ) (tools : Tools) (bytes : Bytes) (createdAt : Timestamp) (saved : Saved)
    (tables : UploadTables) : UploadTables × Except ApiError CaptureModelEx :=
  match tables.captureSequence.nextval with
  | none => (tables, .error (exhausted "captures_id_seq"))
  | some captureSequence =>
    match tables.mediaSequence.nextval with
    | none => ({ tables with captureSequence := captureSequence },
        .error (exhausted "medias_id_seq"))
    | some mediaSequence =>
      let capture : CaptureModel := ⟨captureSequence.last, userId, createdAt, none⟩
      let media := mediaRow userId tools bytes saved captureSequence.last mediaSequence.last
      (⟨tables.captures ++ [capture], tables.medias ++ [media], captureSequence, mediaSequence⟩,
        .ok { capture with
          medias := .loaded [media.toMediaModel]
          illuminations := .unloaded
          annotations := .unloaded })

/-- What a statement reads from outside: the clock, and what the storage
makes of the bytes. -/
structure Input where
  now : Timestamp
  stored : Except String StorageHandle

/-- The statement an upload is to run next. -/
inductive Place
  | lookup
  | store (mediaType : MediaType)
  | save (saved : Saved)
  deriving DecidableEq, Repr

/-- What an upload answers. -/
abbrev Answer := Except ApiError CaptureModelEx

/-- **The next statement of `insert_capture`.** -/
def insertCapture (userId : ℤ) (tools : Tools) (bytes : Bytes) (dedupe : Bool)
    (createdAt : Option Timestamp) (input : Input) (tables : UploadTables) :
    Place → UploadTables × (Place ⊕ Answer)
  | .lookup =>
    match supportedImage tools bytes with
    | .error e => (tables, .inr (.error e))
    | .ok mediaType =>
      if dedupe && holds userId tables (tools.blake3 bytes) then
        (tables, .inr (.error alreadyExists))
      else (tables, .inl (.store mediaType))
  | .store mediaType =>
    match input.stored with
    | .error e => (tables, .inr (.error (ApiError.internal e)))
    | .ok handle => (tables, .inl (.save ⟨mediaType, handle⟩))
  | .save saved =>
    let (tables, answer) := save userId tools bytes (createdAt.getD input.now) saved tables
    (tables, .inr answer)

/-! ## Imports -/

/-- A call of `import_capture`. -/
structure Import where
  bytes : Bytes
  createdAt : Timestamp
  deriving DecidableEq, Repr

/-- What `import_capture` makes of the capture: without a model for its
illumination it fails, and what the beacon answers is ignored. -/
def importAnswer (modelId : Option String) : Answer → Answer
  | .error e => .error e
  | .ok capture =>
    match modelId with
    | none => .error (ApiError.internal "GEMINI_MODEL_ID required to enqueue illumination tasks")
    | some _ => .ok capture

/-- **`import_capture`** by one user. -/
def importCapture (userId : ℤ) (tools : Tools) (modelId : Option String) :
    Procedure UploadTables Import Input Place Answer where
  start _ := .lookup
  next op input tables place :=
    let (tables, stands) :=
      insertCapture userId tools op.bytes true (some op.createdAt) input tables place
    (tables, stands.map id (importAnswer modelId))

/-- `import_capture` with no other call under way. -/
def importAlone (userId : ℤ) (tools : Tools) (modelId : Option String)
    (op : Import) (input : Input) (tables : UploadTables) :
    UploadTables × Answer :=
  match supportedImage tools op.bytes with
  | .error e => (tables, .error e)
  | .ok mediaType =>
    if holds userId tables (tools.blake3 op.bytes) then (tables, .error alreadyExists)
    else
      match input.stored with
      | .error e => (tables, .error (ApiError.internal e))
      | .ok handle =>
        let (tables, answer) := save userId tools op.bytes op.createdAt ⟨mediaType, handle⟩ tables
        (tables, importAnswer modelId answer)

/-- The insert has the keys to run. -/
def HasRoom (tables : UploadTables) : Prop :=
  tables.captureSequence.nextval ≠ none ∧ tables.mediaSequence.nextval ≠ none

instance (tables : UploadTables) : Decidable (HasRoom tables) :=
  inferInstanceAs (Decidable (_ ∧ _))

/-! ## What a statement does -/

variable {userId : ℤ} {tools : Tools} {modelId : Option String} {tables tables' : UploadTables}
  {op : Import} {input : Input} {place : Place} {hash : String}

/-- **What a statement can do**: insert the capture with its media, or leave
the medias alone. -/
theorem next_cases (userId : ℤ) (tools : Tools) (modelId : Option String) (op : Import)
    (input : Input) (tables : UploadTables) (place : Place) :
    (((importCapture userId tools modelId).next op input tables place).1.medias = tables.medias ∧
        ∀ saved, place = .save saved → ¬ HasRoom tables) ∨
      ∃ saved captureId id, place = .save saved ∧ HasRoom tables ∧
        ((importCapture userId tools modelId).next op input tables place).1.medias =
          tables.medias ++ [mediaRow userId tools op.bytes saved captureId id] := by
  cases place with
  | lookup =>
    refine Or.inl ⟨?_, fun _ h => by cases h⟩
    simp only [importCapture, insertCapture]
    split
    · rfl
    · split_ifs <;> rfl
  | store mediaType =>
    refine Or.inl ⟨?_, fun _ h => by cases h⟩
    simp only [importCapture, insertCapture]
    split <;> rfl
  | save saved =>
    simp only [importCapture, insertCapture, save]
    cases hcapture : tables.captureSequence.nextval with
    | none => exact Or.inl ⟨rfl, fun _ _ hroom => hroom.1 hcapture⟩
    | some captureSequence =>
      cases hmedia : tables.mediaSequence.nextval with
      | none => exact Or.inl ⟨rfl, fun _ _ hroom => hroom.2 hmedia⟩
      | some mediaSequence =>
        refine Or.inr ⟨saved, captureSequence.last, mediaSequence.last, rfl, ⟨?_, ?_⟩, rfl⟩
        · rw [hcapture]
          exact Option.some_ne_none _
        · rw [hmedia]
          exact Option.some_ne_none _

theorem holds_eq_false_iff : holds userId tables hash = false ↔
    ∀ m ∈ tables.medias, m.userId = userId → m.hashBlake3 ≠ some hash := by
  unfold holds
  rw [List.any_eq_false]
  simp

theorem holds_append {m : MediaRow} (hmedias : tables'.medias = tables.medias ++ [m]) :
    holds userId tables' hash =
      (holds userId tables hash || (m.userId = userId && m.hashBlake3 = some hash)) := by
  unfold holds
  rw [hmedias, List.any_append, List.any_cons, List.any_nil, Bool.or_false]

theorem holds_of_append {m : MediaRow} (hmedias : tables'.medias = tables.medias ++ [m])
    (huser : m.userId = userId) (hhash : m.hashBlake3 = some hash) :
    holds userId tables' hash = true := by
  rw [holds_append hmedias, huser, hhash]
  simp

/-- **A hash that is held stays held.** -/
theorem holds_next (h : holds userId tables hash = true) :
    holds userId ((importCapture userId tools modelId).next op input tables place).1 hash = true := by
  rcases next_cases userId tools modelId op input tables place with
    ⟨hsame, -⟩ | ⟨saved, captureId, id, -, -, hmedias⟩
  · unfold holds at h ⊢
    rwa [hsame]
  · rw [holds_append hmedias, h, Bool.true_or]

/-- One call alone is a run of the calls. -/
theorem importAlone_run (userId : ℤ) (tools : Tools) (modelId : Option String)
    (op : Import) (input : Input) (uploads : UploadTables) :
    ∃ n s, (importCapture userId tools modelId).system.run (.start uploads)
        (.invoke op :: List.replicate n (.advance 0 input)) = some s ∧
      s.shared = (importAlone userId tools modelId op input uploads).1 ∧
      s.calls = [⟨op, .inr (importAlone userId tools modelId op input uploads).2⟩] := by
  -- the statements of the call, one after the other
  have hrun : ∀ (n : ℕ) (t : UploadTables) (place : Place) (history : _),
      (importCapture userId tools modelId).system.run ⟨t, [⟨op, .inl place⟩], history⟩
        (List.replicate (n + 1) (.advance 0 input)) =
      (importCapture userId tools modelId).system.run
        (Procedure.State.advanced ⟨t, [⟨op, .inl place⟩], history⟩ 0 op
          ((importCapture userId tools modelId).next op input t place))
        (List.replicate n (.advance 0 input)) := fun n t place history => rfl
  have hfirst : ∀ n, (importCapture userId tools modelId).system.run (.start uploads)
      (.invoke op :: List.replicate n (.advance 0 input)) =
      (importCapture userId tools modelId).system.run
        ⟨uploads, [⟨op, .inl .lookup⟩], [.invoke 0 op]⟩ (List.replicate n (.advance 0 input)) :=
    fun n => rfl
  have hdone : ∀ (t : UploadTables) (stands : Place ⊕ Answer) (history : _)
      (place : Place), Procedure.State.advanced ⟨t, [⟨op, .inl place⟩], history⟩ 0 op (t, stands) =
        ⟨t, [⟨op, stands⟩], history ++ Procedure.State.answerItems 0 stands⟩ :=
    fun _ _ _ _ => rfl
  unfold importAlone
  cases himage : supportedImage tools op.bytes with
  | error e =>
    have hlookup : (importCapture userId tools modelId).next op input uploads .lookup =
        (uploads, .inr (.error e)) := by
      simp [importCapture, insertCapture, himage, importAnswer]
    exact ⟨1, _, by rw [hfirst, hrun, hlookup]; rfl, rfl, rfl⟩
  | ok mediaType =>
    cases hheld : holds userId uploads (tools.blake3 op.bytes) with
    | true =>
      have hlookup : (importCapture userId tools modelId).next op input uploads .lookup =
          (uploads, .inr (.error alreadyExists)) := by
        simp [importCapture, insertCapture, himage, importAnswer, hheld]
      exact ⟨1, _, by rw [hfirst, hrun, hlookup]; rfl, rfl, rfl⟩
    | false =>
      have hlookup : (importCapture userId tools modelId).next op input uploads .lookup =
          (uploads, .inl (.store mediaType)) := by
        simp [importCapture, insertCapture, himage, hheld]
      cases hstored : input.stored with
      | error e =>
        have hstore : (importCapture userId tools modelId).next op input uploads
            (.store mediaType) = (uploads, .inr (.error (ApiError.internal e))) := by
          simp [importCapture, insertCapture, hstored, importAnswer]
        exact ⟨2, _, by rw [hfirst, hrun, hlookup, hdone, hrun, hstore]; rfl, rfl, rfl⟩
      | ok handle =>
        have hstore : (importCapture userId tools modelId).next op input uploads
            (.store mediaType) = (uploads, .inl (.save ⟨mediaType, handle⟩)) := by
          simp [importCapture, insertCapture, hstored]
        exact ⟨3, _, by rw [hfirst, hrun, hlookup, hdone, hrun, hstore, hdone, hrun]; rfl, rfl, rfl⟩

/-! ## What every call knows -/

/-- Nothing was taken from the table, and what came is the user's. -/
def Extends (userId : ℤ) (start tables : UploadTables) : Prop :=
  ∃ rows, tables.medias = start.medias ++ rows ∧ ∀ m ∈ rows, m.userId = userId

/-- The bytes are an image the code takes. -/
def Supported (tools : Tools) (bytes : Bytes) : Prop :=
  ∃ mediaType, supportedImage tools bytes = .ok mediaType

instance (tools : Tools) (bytes : Bytes) : Decidable (Supported tools bytes) :=
  match h : supportedImage tools bytes with
  | .ok mediaType => isTrue ⟨mediaType, h⟩
  | .error _ => isFalse fun hok => by
    obtain ⟨mediaType, hok⟩ := hok
    rw [h] at hok
    cases hok

/-- A call that is past its look found no media in the table the calls
began with; one that ended in the conflict found the hash. -/
def Knows (userId : ℤ) (tools : Tools) (start tables : UploadTables) (op : Import) :
    Place ⊕ Answer → Prop
  | .inl .lookup => True
  | .inl (.store _) | .inl (.save _) => holds userId start (tools.blake3 op.bytes) = false
  | .inr answer => answer = .error alreadyExists →
    holds userId tables (tools.blake3 op.bytes) = true

/-- Held hashes stay held. -/
def Grows (userId : ℤ) (tables tables' : UploadTables) : Prop :=
  ∀ hash, holds userId tables hash = true → holds userId tables' hash = true

variable {start : UploadTables}

theorem Extends.next (h : Extends userId start tables) :
    Extends userId start ((importCapture userId tools modelId).next op input tables place).1 := by
  obtain ⟨rows, hrows, huser⟩ := h
  rcases next_cases userId tools modelId op input tables place with
    ⟨hsame, -⟩ | ⟨saved, captureId, id, -, -, hmedias⟩
  · exact ⟨rows, hsame.trans hrows, huser⟩
  · refine ⟨rows ++ [mediaRow userId tools op.bytes saved captureId id], ?_, fun m hm => ?_⟩
    · rw [hmedias, hrows, List.append_assoc]
    · rcases List.mem_append.1 hm with hm | hm
      · exact huser m hm
      · rw [List.mem_singleton.1 hm]
        rfl

theorem holds_of_extends (h : Extends userId start tables) (hstart : holds userId start hash = true) :
    holds userId tables hash = true := by
  obtain ⟨rows, hrows, -⟩ := h
  unfold holds at hstart ⊢
  rw [hrows, List.any_append, hstart, Bool.true_or]

theorem alreadyExists_httpStatusCode : alreadyExists.httpStatusCode = 409 := rfl

theorem ne_alreadyExists_of_code {err : ApiError} (h : err.httpStatusCode ≠ 409) :
    err ≠ alreadyExists := fun heq => h (heq ▸ alreadyExists_httpStatusCode)

/-- Bytes that are refused are not a conflict. -/
theorem ne_alreadyExists_of_supportedImage {bytes : Bytes} {err : ApiError}
    (h : supportedImage tools bytes = .error err) : err ≠ alreadyExists := by
  have hcode : err.httpStatusCode = 415 ∨ err.httpStatusCode = 400 := by
    unfold supportedImage at h
    split at h
    · cases h
      exact Or.inl rfl
    · split_ifs at h
      · cases h
        exact Or.inr rfl
      · cases h
        exact Or.inl rfl
  refine ne_alreadyExists_of_code ?_
  omega

theorem internal_ne_alreadyExists (text : String) : ApiError.internal text ≠ alreadyExists := by
  have hcode : (ApiError.internal text).httpStatusCode = 500 := rfl
  refine ne_alreadyExists_of_code ?_
  omega

/-- Where the insert is reached, the call does not end in the conflict. -/
theorem ne_alreadyExists_of_next (hplace : place ≠ .lookup) :
    ((importCapture userId tools modelId).next op input tables place).2 ≠
      .inr (.error alreadyExists) := by
  cases place with
  | lookup => exact absurd rfl hplace
  | store mediaType =>
    simp only [importCapture, insertCapture]
    split
    · exact fun h => internal_ne_alreadyExists _ (Except.error.inj (Sum.inr.inj h))
    · exact fun h => by cases h
  | save saved =>
    simp only [importCapture, insertCapture, save]
    split
    · exact fun h => internal_ne_alreadyExists _ (Except.error.inj (Sum.inr.inj h))
    · split
      · exact fun h => internal_ne_alreadyExists _ (Except.error.inj (Sum.inr.inj h))
      · cases modelId with
        | none => exact fun h => internal_ne_alreadyExists _ (Except.error.inj (Sum.inr.inj h))
        | some modelId => exact fun h => by cases h

/-- **What the look does**: it refuses the bytes, finds the hash, or goes on
to the upload. -/
theorem lookup_cases (userId : ℤ) (tools : Tools) (modelId : Option String) (op : Import)
    (input : Input) (tables : UploadTables) :
    ((importCapture userId tools modelId).next op input tables .lookup).1 = tables ∧
      ((∃ err, supportedImage tools op.bytes = .error err ∧
          ((importCapture userId tools modelId).next op input tables .lookup).2 = .inr (.error err)) ∨
        ∃ mediaType, supportedImage tools op.bytes = .ok mediaType ∧
          ((importCapture userId tools modelId).next op input tables .lookup).2 =
            if holds userId tables (tools.blake3 op.bytes) then .inr (.error alreadyExists)
            else .inl (.store mediaType)) := by
  simp only [importCapture, insertCapture]
  cases himage : supportedImage tools op.bytes with
  | error err => exact ⟨rfl, Or.inl ⟨err, rfl, rfl⟩⟩
  | ok mediaType =>
    cases holds userId tables (tools.blake3 op.bytes) with
    | true => exact ⟨rfl, Or.inr ⟨mediaType, rfl, rfl⟩⟩
    | false => exact ⟨rfl, Or.inr ⟨mediaType, rfl, rfl⟩⟩

theorem Knows.next (hextends : Extends userId start tables)
    (h : Knows userId tools start tables op (.inl place)) :
    Knows userId tools start ((importCapture userId tools modelId).next op input tables place).1 op
      ((importCapture userId tools modelId).next op input tables place).2 := by
  cases place with
  | lookup =>
    obtain ⟨htables, ⟨err, himage, hlook⟩ | ⟨mediaType, -, hlook⟩⟩ :=
      lookup_cases userId tools modelId op input tables
    · rw [hlook]
      intro heq
      exact absurd (Except.error.inj heq) (ne_alreadyExists_of_supportedImage himage)
    · rw [hlook, htables]
      by_cases hheld : holds userId tables (tools.blake3 op.bytes) = true
      · rw [if_pos hheld]
        exact fun _ => hheld
      · rw [if_neg hheld]
        -- what the table does not hold, it did not hold at the start
        change holds userId start (tools.blake3 op.bytes) = false
        rw [← Bool.not_eq_true]
        exact fun hstart => hheld (holds_of_extends hextends hstart)
  | store mediaType =>
    have hnot : ((importCapture userId tools modelId).next op input tables (.store mediaType)).2 ≠
        .inr (.error alreadyExists) := ne_alreadyExists_of_next (by simp)
    simp only [importCapture, insertCapture] at hnot ⊢
    split at hnot
    · exact fun heq => absurd (congrArg Sum.inr heq) hnot
    · exact h
  | save saved =>
    have hnot : ((importCapture userId tools modelId).next op input tables (.save saved)).2 ≠
        .inr (.error alreadyExists) := ne_alreadyExists_of_next (by simp)
    simp only [importCapture, insertCapture] at hnot ⊢
    exact fun heq => absurd (congrArg Sum.inr heq) hnot

/-- **What every statement grants**, whatever the overlap of the calls and
whatever is asked of it. -/
theorem rely {P : UploadTables → Import → Place → Prop} :
    Procedure.Rely (importCapture userId tools modelId) P (Extends userId start)
      (Knows userId tools start) (Grows userId) where
  start _ _ _ := trivial
  next tables op input place hextends hknows _ :=
    ⟨hextends.next, fun _ h => holds_next h, hknows.next hextends⟩
  rely tables tables' op stands hgrows h := by
    match stands, h with
    | .inl .lookup, _ => trivial
    | .inl (.store _), h => exact h
    | .inl (.save _), h => exact h
    | .inr answer, h => exact fun hconflict => hgrows _ (h hconflict)

/-! ## A file and a server for it -/

/-- The first bytes of a PNG file. -/
def pngBytes : Bytes := [0x89, 0x50, 0x4e, 0x47, 0x0d, 0x0a, 0x1a, 0x0a]

/-- `infer` and `blake3` on these bytes. -/
def pngTools : Tools where
  inferGet bytes := if bytes = pngBytes then some ⟨"image/png", "png"⟩ else none
  blake3 bytes := if bytes = pngBytes then "5a1f" else "00"

/-- An account with nothing in it. -/
def noCaptures : UploadTables := ⟨[], [], ⟨0⟩, ⟨0⟩⟩

/-- What the statements of a sample upload meet: storage takes the file under
this name. -/
def stored (uuid : String) : Input := ⟨1, .ok ⟨"local", none, "shard", uuid, some "png"⟩⟩

end Upload

end Dreamscroll
