import Dreamscroll.Export.Client
import Dreamscroll.Service.InsertCapture
import Mathlib.Data.List.Infix
/-!
# The digest of an account

The commands `export_digest` and `import_digest`. The export asks the REST
API for every capture of the user by asking for no ids, and the route
refuses a request without ids, so no account has a digest
(`export_digest_never`). The import is what the export was written for: it
reads a digest entry by entry and skips the media files whose content the
account already has (`importEntries_ok`).
-/

namespace Dreamscroll

open Upload (Bytes)

/-! ## The captures of a user, over HTTP -/

/-- `serde_json` on a type. -/
structure JsonCodec (α : Type) where
  toString : α → List Char
  fromStr : List Char → Except String α

/-- `Query<CaptureQuery>`, `none` where it is refused. -/
def CaptureQuery.parse (query : List Char) : Option (List ℤ) :=
  ((parseQuery query).filter fun p => p.1 = "id".toList).mapM fun p => (parseI32 p.2).toOption

/-- `GET /api/captures`. -/
def getCapturesRoute (json : JsonCodec (List Schema.CaptureInfo)) (maker : InfoMaker)
    (tables : Content.FeedTables) (userId : ℤ) (query : List Char) : Response :=
  match CaptureQuery.parse query with
  | none => (ApiError.badRequest "Failed to deserialize query string").response
  | some ids =>
    if ids = [] then
      (ApiError.badRequest "At least one id query parameter is required.").response
    else
      match Content.getCaptures tables userId ids with
      | .error error => error.response
      | .ok captures => ⟨200, none, json.toString (captures.map maker.makeCaptureInfo)⟩

/-- What the client makes of an answer that is no success. -/
inductive RestError
  /-- `unauthorized (401): {body}` -/
  | unauthorized (body : List Char)
  /-- `request failed with status {status}: {body}` -/
  | status (status : ℕ) (body : List Char)
  /-- `failed to parse JSON response` -/
  | json (error : String)
  deriving DecidableEq

/-- The reason `http::StatusCode` displays after the code. -/
def canonicalReason (status : ℕ) : String :=
  if status = 400 then "Bad Request"
  else if status = 403 then "Forbidden"
  else if status = 404 then "Not Found"
  else if status = 409 then "Conflict"
  else if status = 413 then "Payload Too Large"
  else if status = 415 then "Unsupported Media Type"
  else if status = 500 then "Internal Server Error"
  else "<unknown status code>"

/-- The text of the error. -/
def RestError.message : RestError → List Char
  | .unauthorized body => "unauthorized (401): ".toList ++ body
  | .status code body => "request failed with status ".toList ++ (toString code).toList ++
      ' ' :: (canonicalReason code).toList ++ ": ".toList ++ body
  | .json _ => "failed to parse JSON response".toList

/-- `Client::parse_json_response`. -/
def parseJsonResponse {α : Type} (json : JsonCodec α) (response : Response) : Except RestError α :=
  if isSuccess response.status then (json.fromStr response.body).mapError .json
  else if response.status = 401 then .error (.unauthorized response.body)
  else .error (.status response.status response.body)

/-- The query of `Client::get_captures`. -/
def captureQuery (ids : Option (List ℤ)) : List (List Char × List Char) :=
  match ids with
  | some values => values.map fun id => ("id".toList, (toString id).toList)
  | none => []

/-- `Client::get_captures`, against the server that answers `send`. -/
def clientGetCaptures (json : JsonCodec (List Schema.CaptureInfo)) (send : List Char → Response)
    (ids : Option (List ℤ)) : Except RestError (List Schema.CaptureInfo) :=
  parseJsonResponse json (send (serializeQuery (captureQuery ids)))

/-! ## The export -/

/-- What the digest says of one capture. -/
structure CaptureDigestEntry where
  originalId : ℤ
  createdAt : Timestamp
  mediaFiles : List String
  deriving DecidableEq, Repr

/-- The digest of an archive. -/
structure FullDigest where
  version : ℕ
  exportedAt : Timestamp
  captures : List CaptureDigestEntry
  deriving DecidableEq, Repr

/-- The directory of an export: its media files by name, and `digest.json`. -/
structure ExportDir where
  files : List (String × Bytes)
  digest : Option (List Char)

/-- Why an export or an import ends early. -/
inductive DigestError
  | rest (error : RestError)
  /-- `failed to fetch media from {url}` -/
  | fetch (url error : String)
  /-- `failed to fetch media for capture {id} from {url}: status {status}` -/
  | mediaStatus (captureId : ℤ) (url : String) (status : ℕ)
  | digestNotFound
  | digestJson (error : String)
  /-- `Capture has no media files` -/
  | noMediaFiles
  /-- `Media file not found: {path}` -/
  | mediaFileNotFound (name : String)
  /-- `Failed to import capture {id}: {error}` -/
  | importFailed (originalId : ℤ) (error : RestError)
  deriving DecidableEq

/-- `with_extension`, on a name that has none. -/
def mediaFileName (uuid : String) (extension : Option String) : String :=
  if extension.getD "" = "" then uuid else uuid ++ "." ++ extension.getD ""

/-- `std::fs::write`, which replaces a file of that name. -/
def writeFile (files : List (String × Bytes)) (name : String) (bytes : Bytes) :
    List (String × Bytes) := files.filter (fun f => f.1 ≠ name) ++ [(name, bytes)]

/-- The loop of `export_digest`: one media file of each capture. -/
def exportCaptures (fetch : String → Except String (ℕ × Bytes)) :
    List Schema.CaptureInfo → List (String × Bytes) → List CaptureDigestEntry →
      Except DigestError (List (String × Bytes) × List CaptureDigestEntry)
  | [], files, entries => .ok (files, entries)
  | capture :: captures, files, entries =>
    match capture.medias with
    | [] => exportCaptures fetch captures files entries
    | media :: _ =>
      match fetch media.url with
      | .error error => .error (.fetch media.url error)
      | .ok (status, bytes) =>
        if !isSuccess status then .error (.mediaStatus capture.id media.url status)
        else
          let name := mediaFileName media.storageUuid media.storageExtension
          exportCaptures fetch captures (writeFile files name bytes)
            (entries ++ [⟨capture.id, capture.createdAt, [name]⟩])

/-- `export_digest`'s `run`. -/
def exportDigest (json : JsonCodec (List Schema.CaptureInfo)) (digestJson : JsonCodec FullDigest)
    (send : List Char → Response) (fetch : String → Except String (ℕ × Bytes))
    (now : Timestamp) : Except DigestError ExportDir := do
  let captureInfos ← (clientGetCaptures json send none).mapError .rest
  let (files, entries) ← exportCaptures fetch captureInfos [] []
  return ⟨files, some (digestJson.toString ⟨1, now, entries⟩)⟩

/-! ## The import -/

/-- `POST /api/captures/import`. -/
def importRoute (json : JsonCodec Schema.CaptureInfo) (maker : InfoMaker) :
    Upload.Answer → Response
  | .ok capture => ⟨200, none, json.toString (maker.makeCaptureInfo capture)⟩
  | .error error => if error.httpStatusCode = 409 then ⟨409, none, []⟩ else error.response

/-- The error means that the content exists: its text has `status 409`. -/
def RestError.isConflict (error : RestError) : Bool := "status 409".toList <:+: error.message

/-- The account a digest is imported into, and what its server is given. -/
structure ImportServer where
  userId : ℤ
  tools : Upload.Tools
  modelId : Option String
  json : JsonCodec Schema.CaptureInfo
  maker : InfoMaker
  /-- What the statements of the `n`th import read from outside. -/
  input : ℕ → Upload.Input

/-- `Client::import_capture`, the `n`th of the command. -/
def ImportServer.importCapture (server : ImportServer) (n : ℕ) (op : Upload.Import)
    (tables : UploadTables) : UploadTables × Except RestError Schema.CaptureInfo :=
  let (tables, answer) :=
    Upload.importAlone server.userId server.tools server.modelId op (server.input n) tables
  (tables, parseJsonResponse server.json (importRoute server.json server.maker answer))

/-- What an import prints in the end. -/
structure ImportCounts where
  imported : ℕ
  skipped : ℕ
  deriving DecidableEq, Repr

/-- The loop of `import_digest`. What it imported before an error stays. -/
def importEntries (server : ImportServer) (files : List (String × Bytes)) :
    ℕ → List CaptureDigestEntry → ImportCounts → UploadTables →
      UploadTables × Except DigestError ImportCounts
  | _, [], counts, tables => (tables, .ok counts)
  | n, entry :: entries, counts, tables =>
    match entry.mediaFiles with
    | [] => (tables, .error .noMediaFiles)
    | firstMedia :: _ =>
      match files.lookup firstMedia with
      | none => (tables, .error (.mediaFileNotFound firstMedia))
      | some mediaBytes =>
        match server.importCapture n ⟨mediaBytes, entry.createdAt⟩ tables with
        | (tables, .ok _) =>
          importEntries server files (n + 1) entries { counts with imported := counts.imported + 1 }
            tables
        | (tables, .error error) =>
          if error.isConflict then
            importEntries server files (n + 1) entries { counts with skipped := counts.skipped + 1 }
              tables
          else (tables, .error (.importFailed entry.originalId error))

/-- `import_digest`'s `run`. -/
def importDigest (server : ImportServer) (digestJson : JsonCodec FullDigest) (dir : ExportDir)
    (tables : UploadTables) : UploadTables × Except DigestError ImportCounts :=
  match dir.digest with
  | none => (tables, .error .digestNotFound)
  | some content =>
    match digestJson.fromStr content with
    | .error error => (tables, .error (.digestJson error))
    | .ok digest => importEntries server dir.files 0 digest.captures ⟨0, 0⟩ tables

/-! ## No account is covered -/

/-- The captures of the account that are not archived. -/
def exportable (tables : Content.FeedTables) (userId : ℤ) : List CaptureModel :=
  tables.captures.filter fun c => c.userId = userId && c.archivedAt.isNone

/-- The entry carries the capture with its media file. -/
structure CaptureDigestEntry.Carries (entry : CaptureDigestEntry) (tables : Content.FeedTables)
    (maker : InfoMaker) (fetch : String → Except String (ℕ × Bytes)) (dir : ExportDir)
    (capture : CaptureModel) : Prop where
  originalId : entry.originalId = capture.id
  createdAt : entry.createdAt = capture.createdAt
  media : ∃ media status bytes, tables.medias capture.id = [media] ∧
    fetch (maker.makeMediaInfo media).url = .ok (status, bytes) ∧
    entry.mediaFiles = [mediaFileName media.storageUuid media.storageExtension] ∧
    dir.files.lookup (mediaFileName media.storageUuid media.storageExtension) = some bytes

/-- **The import of entries restores their contents**: a capture for each of
them and no more, created when an entry of that content says. -/
structure Restored (server : ImportServer) (files : List (String × Bytes))
    (entries : List CaptureDigestEntry) (uploads : UploadTables) : Prop where
  distinct : (uploads.medias.map fun m => m.hashBlake3).Nodup
  covered : ∀ entry ∈ entries, ∀ name ∈ entry.mediaFiles.head?, ∀ bytes,
    files.lookup name = some bytes →
      ∃ m ∈ uploads.medias, m.hashBlake3 = some (server.tools.blake3 bytes)
  dated : ∀ m ∈ uploads.medias, ∃ entry ∈ entries, ∃ name ∈ entry.mediaFiles.head?,
    ∃ bytes, files.lookup name = some bytes ∧
      m.hashBlake3 = some (server.tools.blake3 bytes) ∧
      ∃ c ∈ uploads.captures, c.id = m.captureId ∧ c.createdAt = entry.createdAt

/-- **The digest covers the account**: the export succeeds with one entry
for each capture that is not archived, and its import restores them. -/
def DigestCovers (json : JsonCodec (List Schema.CaptureInfo)) (digestJson : JsonCodec FullDigest)
    (maker : InfoMaker) (tables : Content.FeedTables) (userId : ℤ)
    (fetch : String → Except String (ℕ × Bytes)) (now : Timestamp) (server : ImportServer)
    (sequences : Sequence × Sequence) : Prop :=
  ∃ dir content digest,
    exportDigest json digestJson (getCapturesRoute json maker tables userId) fetch now = .ok dir ∧
    dir.digest = some content ∧ digestJson.fromStr content = .ok digest ∧
    (∃ captures, captures.Perm (exportable tables userId) ∧
      List.Forall₂ (fun entry capture => entry.Carries tables maker fetch dir capture)
        digest.captures captures) ∧
    ∃ tables' counts,
      importDigest server digestJson dir ⟨[], [], sequences.1, sequences.2⟩ = (tables', .ok counts) ∧
      Restored server dir.files digest.captures tables'

variable {json : JsonCodec (List Schema.CaptureInfo)} {digestJson : JsonCodec FullDigest}
  {maker : InfoMaker} {tables : Content.FeedTables} {userId : ℤ}
  {fetch : String → Except String (ℕ × Bytes)} {now : Timestamp}

/-- **A request without ids is refused.** -/
theorem clientGetCaptures_none : clientGetCaptures json
    (getCapturesRoute json maker tables userId) none =
      .error (.status 400 "Request failed. status=400".toList) := by
  rfl

/-- **Every export fails at its first request.** -/
theorem exportDigest_eq : exportDigest json digestJson (getCapturesRoute json maker tables userId)
    fetch now = .error (.rest (.status 400 "Request failed. status=400".toList)) := by
  unfold exportDigest
  rw [clientGetCaptures_none]
  rfl

/-- **No account has a digest**, whatever it stores. -/
theorem export_digest_never (json : JsonCodec (List Schema.CaptureInfo))
    (digestJson : JsonCodec FullDigest) (maker : InfoMaker) (tables : Content.FeedTables)
    (userId : ℤ) (fetch : String → Except String (ℕ × Bytes)) (now : Timestamp)
    (server : ImportServer) (sequences : Sequence × Sequence) :
    ¬ DigestCovers json digestJson maker tables userId fetch now server sequences := by
  rintro ⟨dir, content, digest, hexport, -⟩
  rw [exportDigest_eq] at hexport
  cases hexport

/-- An account with one capture and its photo. -/
def oneCapture : Content.FeedTables where
  captures := [⟨1, 7, 1000, none⟩]
  serial := by simp [i32Max]
  projections := ⟨[], [], []⟩
  medias _ := [⟨1, some "image/png", some "af13", "local", none, "u7", "photo", some "png"⟩]
  annotations _ := []
  sparks := []

/-- A server for the account the digest would go to. -/
def emptyServer : ImportServer where
  userId := 8
  tools := ⟨fun _ => some ⟨"image/png", "png"⟩, fun _ => "af13"⟩
  modelId := some "gemini-3-flash"
  json := ⟨fun _ => "null".toList, fun _ => .error "invalid type: null"⟩
  maker := ⟨fun handle => handle.uuid, fun _ => "today"⟩
  input _ := ⟨2000, .ok ⟨"local", none, "u8", "copy", some "png"⟩⟩

/-- The export of its one capture fails, with the photo in reach. -/
theorem oneCapture_not_exported :
    exportDigest ⟨fun _ => "[]".toList, fun _ => .ok []⟩
        ⟨fun _ => "null".toList, fun _ => .error "invalid type: null"⟩
        (getCapturesRoute ⟨fun _ => "[]".toList, fun _ => .ok []⟩ emptyServer.maker oneCapture 7)
        (fun _ => .ok (200, [1])) 2000 =
      .error (.rest (.status 400 "Request failed. status=400".toList)) ∧
    ¬ DigestCovers ⟨fun _ => "[]".toList, fun _ => .ok []⟩
        ⟨fun _ => "null".toList, fun _ => .error "invalid type: null"⟩ emptyServer.maker oneCapture
        7 (fun _ => .ok (200, [1])) 2000 emptyServer (⟨0⟩, ⟨0⟩) := by
  refine ⟨exportDigest_eq, ?_⟩
  rintro ⟨dir, content, digest, hexport, -⟩
  rw [exportDigest_eq] at hexport
  cases hexport

/-! ## What the export writes of captures it has -/

/-- A capture with the media file it has, and the file. -/
structure ExportItem where
  capture : Schema.CaptureInfo
  media : Schema.MediaInfo
  bytes : Bytes

namespace ExportItem

/-- The file of the item in the archive. -/
def name (item : ExportItem) : String :=
  mediaFileName item.media.storageUuid item.media.storageExtension

/-- Its entry in the digest. -/
def entry (item : ExportItem) : CaptureDigestEntry :=
  ⟨item.capture.id, item.capture.createdAt, [item.name]⟩

/-- The capture has this one media file, and the storage serves it. -/
structure Served (fetch : String → Except String (ℕ × Bytes)) (item : ExportItem) : Prop where
  media : item.capture.medias = [item.media]
  fetched : ∃ status, isSuccess status = true ∧ fetch item.media.url = .ok (status, item.bytes)

end ExportItem

variable {items : List ExportItem} {files : List (String × Bytes)}
  {entries : List CaptureDigestEntry}

theorem writeFile_of_not_mem {name : String} {bytes : Bytes} (h : name ∉ files.map Prod.fst) :
    writeFile files name bytes = files ++ [(name, bytes)] := by
  unfold writeFile
  rw [List.filter_eq_self.2 fun f hf => ?_]
  exact decide_eq_true fun heq => h (heq ▸ List.mem_map_of_mem hf)

/-- **The loop writes one entry and one file for each capture.** -/
theorem exportCaptures_ok (hitems : ∀ item ∈ items, item.Served fetch)
    (hnames : (files.map Prod.fst ++ items.map ExportItem.name).Nodup) :
    exportCaptures fetch (items.map ExportItem.capture) files entries =
      .ok (files ++ items.map fun item => (item.name, item.bytes),
        entries ++ items.map ExportItem.entry) := by
  induction items generalizing files entries with
  | nil => simp [exportCaptures]
  | cons item items ih =>
    obtain ⟨hmedia, status, hstatus, hfetch⟩ := hitems item List.mem_cons_self
    have hnew : item.name ∉ files.map Prod.fst := by
      intro hmem
      exact (List.nodup_append.1 hnames).2.2 _ hmem _ List.mem_cons_self rfl
    have hrest : ((files ++ [(item.name, item.bytes)]).map Prod.fst ++
        items.map ExportItem.name).Nodup := by
      rw [List.map_append, List.append_assoc]
      exact hnames
    rw [List.map_cons, exportCaptures, hmedia]
    simp only [hfetch, hstatus, Bool.not_true, Bool.false_eq_true, if_false]
    rw [show mediaFileName item.media.storageUuid item.media.storageExtension = item.name from rfl,
      writeFile_of_not_mem hnew, ih (fun i hi => hitems i (List.mem_cons_of_mem _ hi)) hrest]
    simp [ExportItem.entry]

/-! ## What the import makes of a digest -/

/-- The server takes every image: its storage and its queue work, and the
client reads what it answers. -/
structure ImportServer.Works (server : ImportServer) : Prop where
  stores : ∀ n, ∃ handle, (server.input n).stored = .ok handle
  model : ∃ modelId, server.modelId = some modelId
  json : ∀ info, server.json.fromStr (server.json.toString info) = .ok info

/-- The entry has one media file, which is in the directory and an image. -/
def CaptureDigestEntry.Complete (entry : CaptureDigestEntry) (server : ImportServer)
    (files : List (String × Bytes)) (bytes : Bytes) : Prop :=
  (∃ name, entry.mediaFiles = [name] ∧ files.lookup name = some bytes) ∧
    Upload.Supported server.tools bytes

variable {server : ImportServer} {n : ℕ} {op : Upload.Import} {uploads : UploadTables}
  {counts : ImportCounts} {done : List CaptureDigestEntry} {entry : CaptureDigestEntry}
  {bytes : Bytes}

/-- A content the account has is answered with the conflict. -/
theorem importCapture_held (hsupported : Upload.Supported server.tools op.bytes)
    (hheld : Upload.holds server.userId uploads (server.tools.blake3 op.bytes) = true) :
    server.importCapture n op uploads = (uploads, .error (.status 409 [])) := by
  obtain ⟨mediaType, himage⟩ := hsupported
  have halone : Upload.importAlone server.userId server.tools server.modelId op (server.input n)
      uploads = (uploads, .error Upload.alreadyExists) := by
    unfold Upload.importAlone
    simp only [himage, hheld, if_true]
  unfold ImportServer.importCapture
  rw [halone]
  rfl

/-- And the command takes it for one. -/
theorem isConflict_status : (RestError.status 409 []).isConflict = true := by
  refine decide_eq_true ⟨"request failed with ".toList, " Conflict: ".toList, ?_⟩
  rfl

/-- A new content is imported, with the time the command sent. -/
theorem importCapture_new (hworks : server.Works)
    (hsupported : Upload.Supported server.tools op.bytes)
    (hheld : Upload.holds server.userId uploads (server.tools.blake3 op.bytes) = false)
    (hroom : uploads.captureSequence.last < Sequence.maxValue)
    (hroom' : uploads.mediaSequence.last < Sequence.maxValue) :
    ∃ capture media info, server.importCapture n op uploads =
        (⟨uploads.captures ++ [capture], uploads.medias ++ [media],
          ⟨uploads.captureSequence.last + 1⟩, ⟨uploads.mediaSequence.last + 1⟩⟩, .ok info) ∧
      capture.id = media.captureId ∧ capture.createdAt = op.createdAt ∧
      media.userId = server.userId ∧
      media.hashBlake3 = some (server.tools.blake3 op.bytes) := by
  obtain ⟨mediaType, himage⟩ := hsupported
  obtain ⟨handle, hstored⟩ := hworks.stores n
  obtain ⟨modelId, hmodel⟩ := hworks.model
  have hcapture : uploads.captureSequence.nextval = some ⟨uploads.captureSequence.last + 1⟩ :=
    if_pos hroom
  have hmedia : uploads.mediaSequence.nextval = some ⟨uploads.mediaSequence.last + 1⟩ :=
    if_pos hroom'
  let capture : CaptureModel :=
    ⟨(uploads.captureSequence.last + 1 : ℕ), server.userId, op.createdAt, none⟩
  let media := Upload.mediaRow server.userId server.tools op.bytes ⟨mediaType, handle⟩
    (uploads.captureSequence.last + 1 : ℕ) (uploads.mediaSequence.last + 1 : ℕ)
  let loaded : CaptureModelEx := { capture with
    medias := .loaded [media.toMediaModel]
    illuminations := .unloaded
    annotations := .unloaded }
  have halone : Upload.importAlone server.userId server.tools server.modelId op (server.input n)
      uploads = (⟨uploads.captures ++ [capture], uploads.medias ++ [media],
        ⟨uploads.captureSequence.last + 1⟩, ⟨uploads.mediaSequence.last + 1⟩⟩, .ok loaded) := by
    unfold Upload.importAlone
    simp only [himage, hheld, Bool.false_eq_true, if_false, hstored, hmodel, Upload.save,
      hcapture, hmedia, Upload.importAnswer]
    rfl
  refine ⟨capture, media, server.maker.makeCaptureInfo loaded, ?_, rfl, rfl, rfl, rfl⟩
  unfold ImportServer.importCapture
  rw [halone]
  have hread : parseJsonResponse server.json
      (importRoute server.json server.maker (.ok loaded)) =
        (server.json.fromStr (server.json.toString (server.maker.makeCaptureInfo loaded))).mapError
          .json := rfl
  rw [hworks.json] at hread
  exact congrArg (Prod.mk _) hread

/-- What one entry more asks: a media of its content, and the date of an
entry for every new one. -/
theorem Restored.skip {name : String} (hdone : Restored server files done uploads)
    (hname : entry.mediaFiles = [name]) (hfile : files.lookup name = some bytes)
    (hheld : ∃ m ∈ uploads.medias, m.hashBlake3 = some (server.tools.blake3 bytes)) :
    Restored server files (done ++ [entry]) uploads := by
  refine ⟨hdone.distinct, fun entry' hentry' name' hname' bytes' hfile' => ?_, fun m hm => ?_⟩
  · rcases List.mem_append.1 hentry' with hentry' | hentry'
    · exact hdone.covered entry' hentry' name' hname' bytes' hfile'
    · rw [List.mem_singleton.1 hentry', hname] at hname'
      cases hname'
      rw [hfile] at hfile'
      cases hfile'
      exact hheld
  · obtain ⟨entry', hentry', hrest⟩ := hdone.dated m hm
    exact ⟨entry', List.mem_append_left _ hentry', hrest⟩

theorem Restored.insert {name : String} {capture : CaptureModel} {media : MediaRow}
    {captureSequence mediaSequence : Sequence} (hdone : Restored server files done uploads)
    (hname : entry.mediaFiles = [name]) (hfile : files.lookup name = some bytes)
    (hnew : ∀ m ∈ uploads.medias, m.hashBlake3 ≠ some (server.tools.blake3 bytes))
    (hhash : media.hashBlake3 = some (server.tools.blake3 bytes))
    (hid : capture.id = media.captureId) (hdate : capture.createdAt = entry.createdAt) :
    Restored server files (done ++ [entry]) ⟨uploads.captures ++ [capture],
      uploads.medias ++ [media], captureSequence, mediaSequence⟩ := by
  refine ⟨?_, fun entry' hentry' name' hname' bytes' hfile' => ?_, fun m hm => ?_⟩
  · rw [List.map_append]
    refine List.nodup_append.2 ⟨hdone.distinct, List.nodup_singleton _, ?_⟩
    intro hash hmem hash' hmem' heq
    obtain ⟨m, hm, rfl⟩ := List.mem_map.1 hmem
    rw [List.map_singleton, List.mem_singleton] at hmem'
    exact hnew m hm ((heq.trans hmem').trans hhash)
  · rcases List.mem_append.1 hentry' with hentry' | hentry'
    · obtain ⟨m, hm, hmhash⟩ := hdone.covered entry' hentry' name' hname' bytes' hfile'
      exact ⟨m, List.mem_append_left _ hm, hmhash⟩
    · rw [List.mem_singleton.1 hentry', hname] at hname'
      cases hname'
      rw [hfile] at hfile'
      cases hfile'
      exact ⟨media, List.mem_append_right _ (List.mem_singleton_self _), hhash⟩
  · rcases List.mem_append.1 hm with hm | hm
    · obtain ⟨entry', hentry', name', hname', bytes', hfile', hmhash, c, hc, hcid⟩ :=
        hdone.dated m hm
      exact ⟨entry', List.mem_append_left _ hentry', name', hname', bytes', hfile', hmhash, c,
        List.mem_append_left _ hc, hcid⟩
    · rw [List.mem_singleton.1 hm]
      refine ⟨entry, List.mem_append_right _ (List.mem_singleton_self _), name, ?_, bytes, hfile,
        hhash, capture, List.mem_append_right _ (List.mem_singleton_self _), hid, hdate⟩
      rw [hname]
      rfl

/-- **The import restores every entry**, after those that are done. -/
theorem importEntries_ok (hworks : server.Works)
    (hcomplete : ∀ entry ∈ entries, ∃ bytes, entry.Complete server files bytes)
    (hroom : uploads.captureSequence.last + entries.length ≤ Sequence.maxValue)
    (hroom' : uploads.mediaSequence.last + entries.length ≤ Sequence.maxValue)
    (huser : ∀ m ∈ uploads.medias, m.userId = server.userId)
    (hdone : Restored server files done uploads) :
    ∃ uploads' counts', importEntries server files n entries counts uploads =
        (uploads', .ok counts') ∧ Restored server files (done ++ entries) uploads' := by
  induction entries generalizing n counts uploads done with
  | nil => exact ⟨uploads, counts, rfl, (List.append_nil done).symm ▸ hdone⟩
  | cons entry entries ih =>
    obtain ⟨bytes, ⟨name, hname, hfile⟩, hsupported⟩ := hcomplete entry List.mem_cons_self
    have hrest := fun e he => hcomplete e (List.mem_cons_of_mem entry he)
    rw [List.length_cons] at hroom hroom'
    rw [importEntries, hname]
    simp only [hfile]
    rw [← List.singleton_append, ← List.append_assoc]
    cases hheld : Upload.holds server.userId uploads (server.tools.blake3 bytes) with
    | true =>
      have hmedia : ∃ m ∈ uploads.medias, m.hashBlake3 = some (server.tools.blake3 bytes) := by
        obtain ⟨m, hm, hmheld⟩ := List.any_eq_true.1 hheld
        exact ⟨m, hm, of_decide_eq_true (Bool.and_eq_true _ _ ▸ hmheld).2⟩
      rw [importCapture_held hsupported hheld]
      simp only [isConflict_status, if_true]
      exact ih hrest (by omega) (by omega) huser (hdone.skip hname hfile hmedia)
    | false =>
      have hnew : ∀ m ∈ uploads.medias, m.hashBlake3 ≠ some (server.tools.blake3 bytes) :=
        fun m hm => (Upload.holds_eq_false_iff.1 hheld) m hm (huser m hm)
      obtain ⟨capture, media, info, himport, hid, hdate, hmuser, hhash⟩ :=
        importCapture_new (n := n) hworks (show Upload.Supported server.tools (Upload.Import.mk bytes
          entry.createdAt).bytes from hsupported) hheld
          (by omega) (by omega)
      rw [himport]
      refine ih hrest ?_ ?_ ?_ (hdone.insert hname hfile hnew hhash hid hdate)
      · exact (Nat.add_right_comm _ _ _).trans_le hroom
      · exact (Nat.add_right_comm _ _ _).trans_le hroom'
      · intro m hm
        rcases List.mem_append.1 hm with hm | hm
        · exact huser m hm
        · rw [List.mem_singleton.1 hm]
          exact hmuser

end Dreamscroll
