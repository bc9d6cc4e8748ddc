import Dreamscroll.Task.Model
/-!
# The tables of a capture

A row of each table that hangs off a capture, and a capture as a loader
returns it, with the related rows it was asked for.
-/

namespace Dreamscroll

/-- A row of `illuminations`. -/
structure IlluminationModel where
  id : ℤ
  userId : ℤ
  captureId : ℤ
  /-- TaskRun that produced this projection; retries replace the same row. -/
  taskRunId : String
  inferenceMetaId : Option ℤ
  summary : String
  details : String
  suggestedSearches : Option (List String)
  deriving DecidableEq, Repr

/-- A row of `knowledge_entities`. -/
structure KnowledgeEntityModel where
  id : ℤ
  userId : ℤ
  captureId : ℤ
  illuminationId : ℤ
  position : ℤ
  name : String
  entityType : String
  description : Option String
  searchQuery : Option String
  platform : Option String
  platformHandle : Option String
  platformDisplayName : Option String
  deriving DecidableEq, Repr

/-- A row of `search_index`. -/
structure SearchIndexModel where
  id : ℤ
  userId : ℤ
  captureId : ℤ
  illuminationId : ℤ
  content : String
  deriving DecidableEq, Repr

/-- A row of `medias`, as far as it is read. -/
structure MediaModel where
  id : ℤ
  mimeType : Option String
  hashBlake3 : Option String
  storageProvider : String
  storageBucket : Option String
  storageUserShard : String
  storageUuid : String
  storageExtension : Option String
  deriving DecidableEq, Repr

/-- A row of `annotations`. -/
structure AnnotationModel where
  id : ℤ
  captureId : ℤ
  createdAt : Timestamp
  updatedAt : Timestamp
  archivedAt : Option Timestamp
  content : String
  deriving DecidableEq, Repr

/-- A row of `captures`. -/
structure CaptureModel where
  id : ℤ
  userId : ℤ
  createdAt : Timestamp
  archivedAt : Option Timestamp
  deriving DecidableEq, Repr

/-! ## Loaded rows -/

/-- The related rows of a row, where they were asked for. -/
inductive HasMany (M : Type)
  | unloaded
  | loaded (models : List M)
  deriving DecidableEq, Repr

/-- A row of `illuminations` with its entities, where they were loaded. -/
structure IlluminationModelEx extends IlluminationModel where
  knowledgeEntities : HasMany KnowledgeEntityModel
  deriving DecidableEq, Repr

/-- A row of `captures` with what belongs to it, where it was loaded. -/
structure CaptureModelEx extends CaptureModel where
  medias : HasMany MediaModel
  illuminations : HasMany IlluminationModelEx
  annotations : HasMany AnnotationModel
  deriving DecidableEq, Repr

end Dreamscroll
