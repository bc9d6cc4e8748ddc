import Dreamscroll.Api.Models
import Dreamscroll.Common.ByKey
/-!
# What readers see of a capture

The reader's types and `InfoMaker`, which maps loaded rows to them. The
text of a creation time and the URL of a media file are the only parts that
come from elsewhere, the clock and the storage configuration.
-/

namespace Dreamscroll

/-! ## The reader's types -/

namespace Schema

/-- Where an entity is found on a platform, as far as its row says. -/
structure PlatformLinkInfo where
  platform : String
  handle : String
  displayName : Option String
  deriving DecidableEq, Repr

/-- A knowledge entity, as the API shows it. -/
structure KnowledgeEntityInfo where
  id : ℤ
  captureId : ℤ
  /-- The illumination that produced this occurrence. -/
  illuminationId : ℤ
  /-- Archived captures stay readable; only the feeds hide them. -/
  captureArchivedAt : Option Timestamp
  name : String
  entityType : String
  description : Option String
  searchQuery : Option String
  platformLink : Option PlatformLinkInfo
  deriving DecidableEq, Repr

/-- An illumination, as the API shows it, with its entities in the order of
their positions. -/
structure IlluminationInfo where
  id : ℤ
  captureId : ℤ
  summary : String
  details : String
  suggestedSearches : List String
  knowledgeEntities : List KnowledgeEntityInfo
  deriving DecidableEq, Repr

/-- A media file, as the API shows it, with the URL it is served under. -/
structure MediaInfo where
  id : ℤ
  storageUuid : String
  url : String
  mimeType : Option String
  hashBlake3 : Option String
  storageProvider : String
  storageBucket : Option String
  storageShard : String
  storageExtension : Option String
  deriving DecidableEq, Repr

/-- A note, as the API shows it. -/
structure AnnotationInfo where
  id : ℤ
  captureId : ℤ
  content : String
  createdAt : Timestamp
  updatedAt : Timestamp
  archivedAt : Option Timestamp
  deriving DecidableEq, Repr

/-- A capture, as the API shows it: its files, the illumination that counts,
and the note. -/
structure CaptureInfo where
  id : ℤ
  userId : ℤ
  createdAt : Timestamp
  createdAtHuman : String
  /-- Set when the capture is archived. -/
  archivedAt : Option Timestamp
  medias : List MediaInfo
  /-- At most one entry: the most recent illumination (highest `id`). -/
  illuminations : List IlluminationInfo
  annotation : Option AnnotationInfo
  deriving DecidableEq, Repr

/-- `KnowledgeEntityInfo::new`: the wire form of one occurrence. -/
def KnowledgeEntityInfo.new (entity : KnowledgeEntityModel)
    (captureArchivedAt : Option Timestamp) : KnowledgeEntityInfo where
  id := entity.id
  captureId := entity.captureId
  illuminationId := entity.illuminationId
  captureArchivedAt := captureArchivedAt
  name := entity.name
  entityType := entity.entityType
  description := entity.description
  searchQuery := entity.searchQuery
  platformLink :=
    match entity.platform, entity.platformHandle with
    | some platform, some handle => some ⟨platform, handle, entity.platformDisplayName⟩
    | _, _ => none

end Schema

open Schema

/-! ## The info maker -/

/-- Where a media file is stored. -/
structure StorageHandle where
  provider : String
  bucket : Option String
  userShard : String
  uuid : String
  extension : Option String
  deriving DecidableEq, Repr

/-- `StorageHandle::from`: the columns of the row that say where the file is. -/
def MediaModel.storageHandle (media : MediaModel) : StorageHandle where
  provider := media.storageProvider
  bucket := media.storageBucket
  userShard := media.storageUserShard
  uuid := media.storageUuid
  extension := media.storageExtension

/-- What turns rows into what the API shows. The URLs and the texts of the
times are not its own. -/
structure InfoMaker where
  /-- `UrlMaker::make_url`. -/
  makeUrl : StorageHandle → String
  /-- `common::humanize_datetime`, at the time of the call. -/
  humanizeDatetime : Timestamp → String

namespace InfoMaker

variable (maker : InfoMaker)

/-- `make_annotation_info`: the note's own columns. -/
def makeAnnotationInfo (model : AnnotationModel) : AnnotationInfo where
  id := model.id
  captureId := model.captureId
  content := model.content
  createdAt := model.createdAt
  updatedAt := model.updatedAt
  archivedAt := model.archivedAt

/-- `make_media_info`: the file's own columns, and its URL. -/
def makeMediaInfo (media : MediaModel) : MediaInfo where
  id := media.id
  storageUuid := media.storageUuid
  url := maker.makeUrl media.storageHandle
  mimeType := media.mimeType
  hashBlake3 := media.hashBlake3
  storageProvider := media.storageProvider
  storageBucket := media.storageBucket
  storageShard := media.storageUserShard
  storageExtension := media.storageExtension

/-- `make_illumination_info`. An illumination whose entities were not loaded
shows none. -/
def makeIlluminationInfo (illumination : IlluminationModelEx)
    (captureArchivedAt : Option Timestamp) : IlluminationInfo where
  id := illumination.id
  captureId := illumination.captureId
  summary := illumination.summary
  details := illumination.details
  suggestedSearches := illumination.suggestedSearches.getD []
  knowledgeEntities :=
    match illumination.knowledgeEntities with
    | .unloaded => []
    | .loaded models => (sortByKey KnowledgeEntityModel.position models).map fun entity =>
        KnowledgeEntityInfo.new entity captureArchivedAt

/-- **`make_capture_info`.** Only the most recent illumination is exposed,
the one with the highest `id`. -/
def makeCaptureInfo (capture : CaptureModelEx) : Schema.CaptureInfo where
  id := capture.id
  userId := capture.userId
  createdAt := capture.createdAt
  createdAtHuman := maker.humanizeDatetime capture.createdAt
  archivedAt := capture.archivedAt
  medias :=
    match capture.medias with
    | .unloaded => []
    | .loaded models => models.map maker.makeMediaInfo
  illuminations :=
    match capture.illuminations with
    | .unloaded => []
    | .loaded models => ((maxByKey (fun m => m.id) models).map fun m =>
        makeIlluminationInfo m capture.archivedAt).toList
  annotation :=
    match capture.annotations with
    | .unloaded => none
    | .loaded models =>
      (maxByKey AnnotationModel.id (models.filter fun m => m.archivedAt = none)).map
        makeAnnotationInfo

end InfoMaker

end Dreamscroll
