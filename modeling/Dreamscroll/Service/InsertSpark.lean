import Dreamscroll.Service.InsertIllumination
/-!
# Inserting a spark

`insert_spark`, one statement at a time: the row of the spark, a row for
each capture it was asked about, and for each cluster of the response its
row, a row for each capture it refers to and a row for each link. They are
in no transaction.

`SparkStored` says what a call that returned did to the tables.
-/

namespace Dreamscroll

/-! ## The response -/

/-- A link the model recommends, with what it says of it. -/
structure SparkRecommendedLink where
  url : String
  commentary : String
  deriving DecidableEq, Repr

/-- Captures the model puts together, by their ids, and links that go with
them. -/
structure SparkRecommendedCluster where
  title : String
  summary : String
  captureIds : List ℤ
  recommendedLinks : List SparkRecommendedLink
  deriving DecidableEq, Repr

/-- What the model answers for a spark. -/
structure SparkResponse where
  clusters : List SparkRecommendedCluster
  deriving DecidableEq, Repr

/-! ## The tables -/

/-- A row of `sparks`: the head of one spark, and the usage it was billed
with. -/
structure SparkModel where
  id : ℤ
  userId : ℤ
  inferenceMetaId : Option ℤ
  deriving DecidableEq, Repr

/-- A row of `spark_input_refs`: a capture the spark was asked about, with its
place in the request. -/
structure SparkInputRefModel where
  id : ℤ
  userId : ℤ
  sparkId : ℤ
  captureId : ℤ
  position : ℤ
  deriving DecidableEq, Repr

/-- A row of `spark_clusters`. -/
structure SparkClusterModel where
  id : ℤ
  userId : ℤ
  sparkId : ℤ
  title : String
  summary : String
  deriving DecidableEq, Repr

/-- A row of `spark_output_refs`: a capture of a cluster. -/
structure SparkOutputRefModel where
  id : ℤ
  userId : ℤ
  sparkId : ℤ
  sparkClusterId : ℤ
  captureId : ℤ
  deriving DecidableEq, Repr

/-- A row of `spark_links`. -/
structure SparkLinkModel where
  id : ℤ
  userId : ℤ
  sparkClusterId : ℤ
  url : String
  commentary : String
  deriving DecidableEq, Repr

/-- A row of `inference_metas`, less what the provider reported. -/
structure InferenceMetaModel where
  id : ℤ
  userId : ℤ
  taskRunId : Option String
  attempt : Option ℕ
  taskType : Option String
  deriving DecidableEq, Repr

/-- The tables an insert reads and writes. Captures are read alone, for the
foreign keys. -/
structure SparkTables where
  captures : List CaptureModel
  inferenceMetas : List InferenceMetaModel
  sparks : List SparkModel
  sparkInputRefs : List SparkInputRefModel
  sparkClusters : List SparkClusterModel
  sparkOutputRefs : List SparkOutputRefModel
  sparkLinks : List SparkLinkModel
  deriving DecidableEq, Repr

/-- The sequences of the serial keys. -/
structure SparkSequences where
  inferenceMetas : Sequence
  sparks : Sequence
  sparkInputRefs : Sequence
  sparkClusters : Sequence
  sparkOutputRefs : Sequence
  sparkLinks : Sequence
  deriving DecidableEq, Repr

/-- A statement of the transaction. It draws its serial keys from sequences
that no rollback takes back. -/
abbrev SparkSql := Sql SparkTables SparkSequences ApiError

/-- The foreign key of `capture_id` in this table is violated. -/
def noCapture (table constraint : String) : ApiError :=
  ApiError.internal ("insert or update on table \"" ++ table ++
    "\" violates foreign key constraint \"" ++ constraint ++ "\"")

/-! ## The statements -/

namespace Service

/-- The insert of the head. -/
def insertSparkRow (userId : ℤ) (inferenceMetaId : Option ℤ) : SparkSql SparkModel :=
  .insertSerial (·.sparks) (fun q id => { q with sparks := id }) (exhausted "sparks_id_seq")
    fun id tables =>
      let row : SparkModel := ⟨id, userId, inferenceMetaId⟩
      .ok (row, { tables with sparks := tables.sparks ++ [row] })

/-- The rows of a capture are deleted only with it, so the key is looked up
in `captures`. -/
def insertInputRef (userId sparkId captureId position : ℤ) : SparkSql Unit :=
  .insertSerial (·.sparkInputRefs) (fun q id => { q with sparkInputRefs := id })
    (exhausted "spark_input_refs_id_seq") fun id tables =>
      if tables.captures.any fun capture => capture.id = captureId then
        .ok ((), { tables with sparkInputRefs := tables.sparkInputRefs ++
          [⟨id, userId, sparkId, captureId, position⟩] })
      else .error (noCapture "spark_input_refs" "fk-spark_input_refs-capture_id")

/-- The insert of one cluster, without its captures and links. -/
def insertCluster (userId sparkId : ℤ) (cluster : SparkRecommendedCluster) :
    SparkSql SparkClusterModel :=
  .insertSerial (·.sparkClusters) (fun q id => { q with sparkClusters := id })
    (exhausted "spark_clusters_id_seq") fun id tables =>
      let row : SparkClusterModel := ⟨id, userId, sparkId, cluster.title, cluster.summary⟩
      .ok (row, { tables with sparkClusters := tables.sparkClusters ++ [row] })

/-- The insert of one capture of a cluster. The foreign key refuses a capture
that is not there. -/
def insertOutputRef (userId sparkId sparkClusterId captureId : ℤ) : SparkSql Unit :=
  .insertSerial (·.sparkOutputRefs) (fun q id => { q with sparkOutputRefs := id })
    (exhausted "spark_output_refs_id_seq") fun id tables =>
      if tables.captures.any fun capture => capture.id = captureId then
        .ok ((), { tables with sparkOutputRefs := tables.sparkOutputRefs ++
          [⟨id, userId, sparkId, sparkClusterId, captureId⟩] })
      else .error (noCapture "spark_output_refs" "fk-spark_output_refs-capture_id")

/-- The insert of one link of a cluster. -/
def insertLink (userId sparkClusterId : ℤ) (link : SparkRecommendedLink) : SparkSql Unit :=
  .insertSerial (·.sparkLinks) (fun q id => { q with sparkLinks := id })
    (exhausted "spark_links_id_seq") fun id tables =>
      .ok ((), { tables with sparkLinks := tables.sparkLinks ++
        [⟨id, userId, sparkClusterId, link.url, link.commentary⟩] })

/-- One cluster: its row, its references and its links. -/
def insertClusterRows (userId sparkId : ℤ) (cluster : SparkRecommendedCluster) :
    SparkSql PUnit := do
  let clusterRow ← insertCluster userId sparkId cluster
  cluster.captureIds.forM fun captureId => insertOutputRef userId sparkId clusterRow.id captureId
  cluster.recommendedLinks.forM fun link => insertLink userId clusterRow.id link

/-- **`insert_spark`.** -/
def insertSpark (userId : ℤ) (inputCaptureIds : List ℤ) (spark : SparkResponse)
    (inferenceMetaId : Option ℤ) : SparkSql PUnit := do
  let sparkRow ← insertSparkRow userId inferenceMetaId
  inputCaptureIds.zipIdx.forM fun (captureId, idx) =>
    insertInputRef userId sparkRow.id captureId (asI32 idx)
  spark.clusters.forM fun cluster => insertClusterRows userId sparkRow.id cluster

/-! ## What a call that returned did -/

/-- The rows of one cluster. -/
structure ClusterRows where
  cluster : SparkClusterModel
  outputRefs : List SparkOutputRefModel
  links : List SparkLinkModel

end Service

namespace SparkTables

/-- The tables with these references more. -/
def addInputRefs (t : SparkTables) (rows : List SparkInputRefModel) : SparkTables :=
  { t with sparkInputRefs := t.sparkInputRefs ++ rows }

/-- And with these of a cluster. -/
def addOutputRefs (t : SparkTables) (rows : List SparkOutputRefModel) : SparkTables :=
  { t with sparkOutputRefs := t.sparkOutputRefs ++ rows }

/-- And with these links. -/
def addLinks (t : SparkTables) (rows : List SparkLinkModel) : SparkTables :=
  { t with sparkLinks := t.sparkLinks ++ rows }

/-- And with these clusters, each with what belongs to it. -/
def addClusters (t : SparkTables) (rows : List Service.ClusterRows) : SparkTables :=
  { t with
    sparkClusters := t.sparkClusters ++ rows.map (·.cluster)
    sparkOutputRefs := t.sparkOutputRefs ++ rows.flatMap (·.outputRefs)
    sparkLinks := t.sparkLinks ++ rows.flatMap (·.links) }

end SparkTables

namespace Service

/-- The capture is there. -/
def Exists (captures : List CaptureModel) (captureId : ℤ) : Prop :=
  ∃ capture ∈ captures, capture.id = captureId

/-- The row is that of the capture, at its position in the input. -/
structure IsInputRef (captures : List CaptureModel) (userId sparkId : ℤ) (input : ℤ × ℕ)
    (row : SparkInputRefModel) : Prop where
  user : row.userId = userId
  spark : row.sparkId = sparkId
  capture : row.captureId = input.1
  place : row.position = asI32 input.2
  captureExists : Exists captures input.1

/-- The row is the reference of the cluster to a capture that is there, its
serial key aside. -/
structure IsOutputRef (captures : List CaptureModel) (userId sparkId clusterId captureId : ℤ)
    (row : SparkOutputRefModel) : Prop where
  user : row.userId = userId
  spark : row.sparkId = sparkId
  cluster : row.sparkClusterId = clusterId
  capture : row.captureId = captureId
  captureExists : Exists captures captureId

/-- The row is the link of the cluster, its serial key aside. -/
structure IsLink (userId clusterId : ℤ) (link : SparkRecommendedLink) (row : SparkLinkModel) :
    Prop where
  user : row.userId = userId
  cluster : row.sparkClusterId = clusterId
  url : row.url = link.url
  commentary : row.commentary = link.commentary

/-- **The rows hold the cluster**, its references and its links. -/
structure IsCluster (captures : List CaptureModel) (userId sparkId : ℤ)
    (cluster : SparkRecommendedCluster) (rows : ClusterRows) : Prop where
  user : rows.cluster.userId = userId
  spark : rows.cluster.sparkId = sparkId
  title : rows.cluster.title = cluster.title
  summary : rows.cluster.summary = cluster.summary
  outputRefs : List.Forall₂ (IsOutputRef captures userId sparkId rows.cluster.id)
    cluster.captureIds rows.outputRefs
  links : List.Forall₂ (IsLink userId rows.cluster.id) cluster.recommendedLinks rows.links

/-- **What `insert_spark` stores.** -/
structure SparkStored (userId : ℤ) (inputCaptureIds : List ℤ) (spark : SparkResponse)
    (inferenceMetaId : Option ℤ) (t t' : SparkTables) (row : SparkModel)
    (inputs : List SparkInputRefModel) (clusters : List ClusterRows) : Prop where
  sparkRow : row = ⟨row.id, userId, inferenceMetaId⟩
  tables : t' = ({ t with sparks := t.sparks ++ [row] }.addInputRefs inputs).addClusters clusters
  inputRows : List.Forall₂ (IsInputRef t.captures userId row.id) inputCaptureIds.zipIdx inputs
  clusterRows : List.Forall₂ (IsCluster t.captures userId row.id) spark.clusters clusters

variable {captures : List CaptureModel} {userId sparkId clusterId : ℤ} {captureIds : List ℤ}
  {cluster : SparkRecommendedCluster} {spark : SparkResponse} {inferenceMetaId : Option ℤ}
  {s s' : Session SparkTables SparkSequences ApiError} {u : PUnit}

/-- The head that was inserted is the last one of its table. -/
theorem insertSparkRow_eq_ok {row : SparkModel}
    (h : insertSparkRow userId inferenceMetaId s = .ok row s') :
    row = ⟨(s.sequences.sparks.last + 1 : ℕ), userId, inferenceMetaId⟩ ∧
      s'.tables = { s.tables with sparks := s.tables.sparks ++ [row] } := by
  obtain ⟨-, hwrite, -⟩ := Sql.insertSerial_eq_ok h
  simp only [Except.ok.injEq, Prod.mk.injEq] at hwrite
  obtain ⟨rfl, htables⟩ := hwrite
  exact ⟨rfl, htables.symm⟩

/-- What the foreign key asks. -/
theorem exists_of_any {captureId : ℤ}
    (h : (captures.any fun capture => capture.id = captureId) = true) :
    Exists captures captureId := by
  obtain ⟨capture, hmem, hid⟩ := List.any_eq_true.1 h
  exact ⟨capture, hmem, of_decide_eq_true hid⟩

/-- **The inputs are inserted in order.** -/
theorem insertInputRefs_eq_ok
    (h : (captureIds.zipIdx.forM fun (captureId, idx) =>
      insertInputRef userId sparkId captureId (asI32 idx)) s = .ok u s') :
    ∃ rows, s'.tables = s.tables.addInputRefs rows ∧
      List.Forall₂ (IsInputRef s.tables.captures userId sparkId) captureIds.zipIdx rows := by
  refine Sql.forM_put (J := fun t : SparkTables => t.captures = s.tables.captures)
    (fun t => by rw [SparkTables.addInputRefs, List.append_nil])
    (fun t rows row => by simp only [SparkTables.addInputRefs, List.append_assoc])
    (fun _ _ hcaptures => hcaptures) ?_ rfl h
  rintro ⟨captureId, idx⟩ t t' v hcaptures hrun
  obtain ⟨-, hwrite, -⟩ := Sql.insertSerial_eq_ok hrun
  split_ifs at hwrite with hany
  simp only [Except.ok.injEq, Prod.mk.injEq, true_and] at hwrite
  refine ⟨⟨_, userId, sparkId, captureId, asI32 idx⟩, hwrite.symm, ⟨rfl, rfl, rfl, ?_, ?_⟩⟩
  · dsimp only
  · rw [← hcaptures]
    exact exists_of_any hany

/-- **The captures of a cluster** are inserted in their order, all of them. -/
theorem insertOutputRefs_eq_ok
    (h : (captureIds.forM fun captureId =>
      insertOutputRef userId sparkId clusterId captureId) s = .ok u s') :
    ∃ rows, s'.tables = s.tables.addOutputRefs rows ∧
      List.Forall₂ (IsOutputRef s.tables.captures userId sparkId clusterId) captureIds rows := by
  refine Sql.forM_put (J := fun t : SparkTables => t.captures = s.tables.captures)
    (fun t => by rw [SparkTables.addOutputRefs, List.append_nil])
    (fun t rows row => by simp only [SparkTables.addOutputRefs, List.append_assoc])
    (fun _ _ hcaptures => hcaptures) ?_ rfl h
  intro captureId t t' v hcaptures hrun
  obtain ⟨-, hwrite, -⟩ := Sql.insertSerial_eq_ok hrun
  split_ifs at hwrite with hany
  simp only [Except.ok.injEq, Prod.mk.injEq, true_and] at hwrite
  refine ⟨⟨_, userId, sparkId, clusterId, captureId⟩, hwrite.symm, ⟨rfl, rfl, rfl, rfl, ?_⟩⟩
  rw [← hcaptures]
  exact exists_of_any hany

/-- So are its links. -/
theorem insertLinks_eq_ok {links : List SparkRecommendedLink}
    (h : (links.forM fun link => insertLink userId clusterId link) s = .ok u s') :
    ∃ rows, s'.tables = s.tables.addLinks rows ∧
      List.Forall₂ (IsLink userId clusterId) links rows := by
  refine Sql.forM_put (J := fun _ : SparkTables => True)
    (fun t => by rw [SparkTables.addLinks, List.append_nil])
    (fun t rows row => by simp only [SparkTables.addLinks, List.append_assoc])
    (fun _ _ h => h) ?_ trivial h
  intro link t t' v _ hrun
  obtain ⟨-, hwrite, -⟩ := Sql.insertSerial_eq_ok hrun
  simp only [Except.ok.injEq, Prod.mk.injEq, true_and] at hwrite
  exact ⟨⟨_, userId, clusterId, link.url, link.commentary⟩, hwrite.symm, ⟨rfl, rfl, rfl, rfl⟩⟩

/-- **One cluster.** -/
theorem insertClusterRows_eq_ok (h : insertClusterRows userId sparkId cluster s = .ok u s') :
    ∃ rows, s'.tables = s.tables.addClusters [rows] ∧
      IsCluster s.tables.captures userId sparkId cluster rows := by
  obtain ⟨row, t, hrow, hrest⟩ := Sql.bind_eq_ok.1 h
  obtain ⟨_, t', hrefs, hlinks⟩ := Sql.bind_eq_ok.1 hrest
  obtain ⟨-, hwrite, -⟩ := Sql.insertSerial_eq_ok hrow
  simp only [Except.ok.injEq, Prod.mk.injEq] at hwrite
  obtain ⟨rfl, htables⟩ := hwrite
  obtain ⟨refs, htables', hrefs⟩ := insertOutputRefs_eq_ok hrefs
  obtain ⟨links, htables'', hlinks⟩ := insertLinks_eq_ok hlinks
  refine ⟨⟨⟨_, userId, sparkId, cluster.title, cluster.summary⟩, refs, links⟩, ?_,
    ⟨rfl, rfl, rfl, rfl, ?_, hlinks⟩⟩
  · rw [htables'', htables', ← htables]
    simp only [SparkTables.addLinks, SparkTables.addOutputRefs, SparkTables.addClusters,
      List.map_cons, List.map_nil, List.flatMap_cons, List.flatMap_nil, List.append_nil]
  · rw [← htables] at hrefs
    exact hrefs

/-- **A call that returned stored the whole spark.** -/
theorem sparkStored_of_ok (h : insertSpark userId captureIds spark inferenceMetaId s = .ok u s') :
    ∃ row inputs clusters, SparkStored userId captureIds spark inferenceMetaId s.tables s'.tables
      row inputs clusters ∧ row.id = (s.sequences.sparks.last + 1 : ℕ) := by
  obtain ⟨row, t, hrow, hrest⟩ := Sql.bind_eq_ok.1 h
  obtain ⟨_, t', hinputs, hclusters⟩ := Sql.bind_eq_ok.1 hrest
  obtain ⟨hrow, htables⟩ := insertSparkRow_eq_ok hrow
  obtain ⟨inputs, htables', hinputs⟩ := insertInputRefs_eq_ok hinputs
  have hcaptures : t.tables.captures = s.tables.captures := by rw [htables]
  have hcaptures' : t'.tables.captures = s.tables.captures := by
    rw [htables']
    exact hcaptures
  obtain ⟨clusters, htables'', hclusters⟩ : ∃ clusters,
      s'.tables = t'.tables.addClusters clusters ∧
        List.Forall₂ (IsCluster s.tables.captures userId row.id) spark.clusters clusters := by
    refine Sql.forM_put (J := fun t : SparkTables => t.captures = s.tables.captures)
      (fun t => by simp only [SparkTables.addClusters, List.map_nil, List.flatMap_nil,
        List.append_nil])
      (fun t rows row => by simp only [SparkTables.addClusters, List.append_assoc,
        List.map_append, List.flatMap_append])
      (fun _ _ hcaptures => hcaptures) ?_ hcaptures' hclusters
    intro cluster t t' v hcaptures hrun
    obtain ⟨rows, hrows, hcluster⟩ := insertClusterRows_eq_ok hrun
    exact ⟨rows, hrows, hcaptures ▸ hcluster⟩
  refine ⟨row, inputs, clusters, ⟨?_, ?_, ?_, hclusters⟩, ?_⟩
  · rw [hrow]
  · rw [htables'', htables', htables]
  · rw [← hcaptures]
    exact hinputs
  · rw [hrow]

/-- The references of a cluster, read back. -/
theorem map_captureId {refs : List SparkOutputRefModel}
    (h : List.Forall₂ (IsOutputRef captures userId sparkId clusterId) captureIds refs) :
    refs.map (·.captureId) = captureIds := by
  induction h with
  | nil => rfl
  | cons href _ ih => rw [List.map_cons, ih, href.capture]

/-- The captures its references name are those the response names. -/
theorem SparkStored.referenced {t t' : SparkTables} {row : SparkModel}
    {inputs : List SparkInputRefModel} {clusters : List ClusterRows}
    (h : SparkStored userId captureIds spark inferenceMetaId t t' row inputs clusters) :
    (clusters.flatMap (·.outputRefs)).map (·.captureId) =
      spark.clusters.flatMap (·.captureIds) := by
  have hclusters := h.clusterRows
  clear h
  generalize spark.clusters = responses at hclusters
  induction hclusters with
  | nil => rfl
  | cons hcluster _ ih =>
    rw [List.flatMap_cons, List.flatMap_cons, List.map_append, ih,
      map_captureId hcluster.outputRefs]

end Service

end Dreamscroll
