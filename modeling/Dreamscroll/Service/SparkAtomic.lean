import Dreamscroll.Common.Budget
import Dreamscroll.Logic.Spark
/-!
# What a spark that failed leaves

The statements of `insert_spark` are in no transaction. The first inserts
the row of the spark; if any after it fails, that row stays. So a call that
fails leaves nothing exactly where its first statement fails, or all of them
succeed (`leaves_nothing_iff`).
-/

namespace Dreamscroll

/-- The tables `insert_spark` writes. -/
inductive SparkKey
  | sparks
  | inputRefs
  | clusters
  | outputRefs
  | links
  deriving DecidableEq, Repr

instance : Fintype SparkKey :=
  Fintype.ofList [SparkKey.sparks, .inputRefs, .clusters, .outputRefs, .links] fun k => by
    cases k <;> decide

namespace SparkSequences

/-- The sequence of a key. -/
def get (q : SparkSequences) : SparkKey → Sequence
  | .sparks => q.sparks
  | .inputRefs => q.sparkInputRefs
  | .clusters => q.sparkClusters
  | .outputRefs => q.sparkOutputRefs
  | .links => q.sparkLinks

/-- After so many keys of each. -/
def draw (q : SparkSequences) (d : SparkKey → ℕ) : SparkSequences where
  inferenceMetas := q.inferenceMetas
  sparks := ⟨q.sparks.last + d .sparks⟩
  sparkInputRefs := ⟨q.sparkInputRefs.last + d .inputRefs⟩
  sparkClusters := ⟨q.sparkClusters.last + d .clusters⟩
  sparkOutputRefs := ⟨q.sparkOutputRefs.last + d .outputRefs⟩
  sparkLinks := ⟨q.sparkLinks.last + d .links⟩

/-- The sequences of a spark's tables, by their keys. -/
def keyed : Sql.Sequences SparkSequences SparkKey where
  get := get
  draw := draw
  get_draw q d k := by cases k <;> rfl
  draw_zero _ := rfl
  draw_draw q d d' := by simp only [draw, Pi.add_apply, Nat.add_assoc]

end SparkSequences

namespace Service

open SparkSequences (keyed)

/-! ## What a call needs -/

/-- The keys one cluster draws. -/
def clusterDemand (cluster : SparkRecommendedCluster) : SparkKey → ℕ
  | .sparks | .inputRefs => 0
  | .clusters => 1
  | .outputRefs => cluster.captureIds.length
  | .links => cluster.recommendedLinks.length

/-- The keys a call draws, one for each statement. -/
def sparkDemand (captureIds : List ℤ) (spark : SparkResponse) : SparkKey → ℕ
  | .sparks => 1
  | .inputRefs => captureIds.length
  | .clusters => spark.clusters.length
  | .outputRefs => (spark.clusters.map fun cluster => cluster.captureIds.length).sum
  | .links => (spark.clusters.map fun cluster => cluster.recommendedLinks.length).sum

/-- **The call is granted**: no statement is refused, no sequence runs out
of keys, and the captures of the input and of the response are there. -/
structure Granted (captureIds : List ℤ) (spark : SparkResponse)
    (s : Session SparkTables SparkSequences ApiError) : Prop where
  grants : Sql.Grants keyed s (sparkDemand captureIds spark)
  inputs : ∀ captureId ∈ captureIds, Exists s.tables.captures captureId
  references : ∀ cluster ∈ spark.clusters, ∀ captureId ∈ cluster.captureIds,
    Exists s.tables.captures captureId

/-- The first statement is granted. -/
structure Opens (s : Session SparkTables SparkSequences ApiError) : Prop where
  unrefused : s.faults.head?.join = none
  key : s.sequences.sparks.last < Sequence.maxValue

/-- The five tables are the same. -/
structure SameSparks (t t' : SparkTables) : Prop where
  sparks : t'.sparks = t.sparks
  inputRefs : t'.sparkInputRefs = t.sparkInputRefs
  clusters : t'.sparkClusters = t.sparkClusters
  outputRefs : t'.sparkOutputRefs = t.sparkOutputRefs
  links : t'.sparkLinks = t.sparkLinks

theorem SameSparks.of_eq {t t' : SparkTables} (h : t' = t) : SameSparks t t' := by
  subst h
  exact ⟨rfl, rfl, rfl, rfl, rfl⟩

variable {userId sparkId clusterId : ℤ} {captureIds : List ℤ} {spark : SparkResponse}
  {inferenceMetaId : Option ℤ} {captures : List CaptureModel}
  {s s' : Session SparkTables SparkSequences ApiError} {u : PUnit} {e : ApiError}

/-- What is granted depends on the captures, the keys and what is refused. -/
theorem Granted.congr (h : Granted captureIds spark s)
    (hcaptures : s'.tables.captures = s.tables.captures)
    (hkeys : s'.sequences.get = s.sequences.get) (hfaults : s'.faults = s.faults) :
    Granted captureIds spark s' where
  grants := by
    refine ⟨?_, ?_⟩
    · rw [hfaults]
      exact h.grants.unrefused
    · rw [show keyed.get s'.sequences = keyed.get s.sequences from hkeys]
      exact h.grants.keys
  inputs := by
    rw [hcaptures]
    exact h.inputs
  references := by
    rw [hcaptures]
    exact h.references

/-! ## The cost of each statement -/

theorem any_eq_true_iff {captureId : ℤ} :
    (captures.any fun capture => capture.id = captureId) = true ↔ Exists captures captureId := by
  rw [List.any_eq_true]
  simp only [decide_eq_true_eq]
  rfl

section Costs

variable {α : Type} {k : SparkKey} {sequence : SparkSequences → Sequence}
  {store : SparkSequences → Sequence → SparkSequences} {exhausted : ApiError}

/-- An insert that looks at no other table is admitted. -/
theorem costs_unchecked {write : ℤ → SparkTables → α × SparkTables}
    (hget : ∀ q, sequence q = keyed.get q k)
    (hstore : ∀ q, store q ⟨(sequence q).last + 1⟩ = keyed.draw q (Pi.single k 1))
    (hkeeps : ∀ id t, (write id t).2.captures = t.captures) :
    Sql.Costs keyed (fun t => t.captures = captures)
      (Sql.insertSerial sequence store exhausted fun id t => .ok (write id t))
      (Pi.single k 1) True := by
  refine Sql.costs_insertSerial k hget hstore (fun id t _ => iff_of_true ⟨_, rfl⟩ trivial) ?_
  intro id t a t' hcaptures h
  obtain ⟨-, rfl⟩ := Prod.mk.inj (Except.ok.inj h)
  exact (hkeeps id t).trans hcaptures

/-- An insert of a reference is admitted where the capture is there. -/
theorem costs_reference {captureId : ℤ} {write : ℤ → SparkTables → α × SparkTables}
    {missing : ApiError} (hget : ∀ q, sequence q = keyed.get q k)
    (hstore : ∀ q, store q ⟨(sequence q).last + 1⟩ = keyed.draw q (Pi.single k 1))
    (hkeeps : ∀ id t, (write id t).2.captures = t.captures) :
    Sql.Costs keyed (fun t => t.captures = captures)
      (Sql.insertSerial sequence store exhausted fun id t =>
        if t.captures.any fun capture => capture.id = captureId then .ok (write id t)
        else .error missing) (Pi.single k 1) (Exists captures captureId) := by
  refine Sql.costs_insertSerial k hget hstore ?_ ?_
  · intro id t hcaptures
    rw [hcaptures, ← any_eq_true_iff]
    split_ifs with hany
    · exact iff_of_true ⟨_, rfl⟩ hany
    · exact iff_of_false (by rintro ⟨p, hp⟩; cases hp) hany
  · intro id t a t' hcaptures h
    split_ifs at h
    obtain ⟨-, rfl⟩ := Prod.mk.inj (Except.ok.inj h)
    exact (hkeeps id t).trans hcaptures

variable (captures userId sparkId clusterId inferenceMetaId)

theorem costs_insertSparkRow :
    Sql.Costs keyed (fun t => t.captures = captures) (insertSparkRow userId inferenceMetaId)
      (Pi.single .sparks 1) True :=
  costs_unchecked (fun _ => rfl) (fun _ => rfl) fun _ _ => rfl

theorem costs_insertInputRef (captureId position : ℤ) :
    Sql.Costs keyed (fun t => t.captures = captures)
      (insertInputRef userId sparkId captureId position) (Pi.single .inputRefs 1)
      (Exists captures captureId) :=
  costs_reference (fun _ => rfl) (fun _ => rfl) fun _ _ => rfl

theorem costs_insertOutputRef (captureId : ℤ) :
    Sql.Costs keyed (fun t => t.captures = captures)
      (insertOutputRef userId sparkId clusterId captureId) (Pi.single .outputRefs 1)
      (Exists captures captureId) :=
  costs_reference (fun _ => rfl) (fun _ => rfl) fun _ _ => rfl

theorem costs_insertCluster (cluster : SparkRecommendedCluster) :
    Sql.Costs keyed (fun t => t.captures = captures) (insertCluster userId sparkId cluster)
      (Pi.single .clusters 1) True :=
  costs_unchecked (fun _ => rfl) (fun _ => rfl) fun _ _ => rfl

theorem costs_insertLink (link : SparkRecommendedLink) :
    Sql.Costs keyed (fun t => t.captures = captures) (insertLink userId clusterId link)
      (Pi.single .links 1) True :=
  costs_unchecked (fun _ => rfl) (fun _ => rfl) fun _ _ => rfl

/-- So many keys of one sequence. -/
theorem sum_map_single {γ : Type} (k : SparkKey) (l : List γ) :
    (l.map fun _ => (Pi.single k 1 : SparkKey → ℕ)).sum = Pi.single k l.length := by
  induction l with
  | nil => exact (Pi.single_zero k).symm
  | cons c l ih =>
    rw [List.map_cons, List.sum_cons, ih, ← Pi.single_add, List.length_cons, Nat.add_comm]

theorem clusterDemand_eq (cluster : SparkRecommendedCluster) :
    clusterDemand cluster = Pi.single .clusters 1 +
      ((cluster.captureIds.map fun _ => Pi.single .outputRefs 1).sum +
        (cluster.recommendedLinks.map fun _ => Pi.single .links 1).sum) := by
  rw [sum_map_single, sum_map_single]
  funext k
  cases k <;> simp [clusterDemand]

theorem sparkDemand_eq (captureIds : List ℤ) (spark : SparkResponse) :
    sparkDemand captureIds spark = Pi.single .sparks 1 +
      ((captureIds.zipIdx.map fun _ => Pi.single .inputRefs 1).sum +
        (spark.clusters.map clusterDemand).sum) := by
  have hsum : ∀ (clusters : List SparkRecommendedCluster) k, (clusters.map clusterDemand).sum k =
      (clusters.map fun cluster => clusterDemand cluster k).sum := by
    intro clusters k
    induction clusters with
    | nil => rfl
    | cons cluster clusters ih =>
      rw [List.map_cons, List.sum_cons, List.map_cons, List.sum_cons, Pi.add_apply, ih]
  rw [sum_map_single]
  funext k
  rw [Pi.add_apply, Pi.add_apply, hsum]
  cases k <;> simp [sparkDemand, clusterDemand]

theorem costs_insertClusterRows (cluster : SparkRecommendedCluster) :
    Sql.Costs keyed (fun t => t.captures = captures) (insertClusterRows userId sparkId cluster)
      (clusterDemand cluster) (∀ captureId ∈ cluster.captureIds, Exists captures captureId) := by
  have hcosts := Sql.costs_bind (costs_insertCluster userId sparkId captures cluster) fun row =>
    Sql.costs_bind
      (Sql.costs_forM (costs_insertOutputRef userId sparkId row.id captures) cluster.captureIds)
      fun _ => Sql.costs_forM (costs_insertLink userId row.id captures) cluster.recommendedLinks
  rw [← clusterDemand_eq] at hcosts
  simp only [implies_true, and_true, true_and] at hcosts
  exact hcosts

/-- **The cost of `insert_spark`.** -/
theorem costs_insertSpark (captureIds : List ℤ) (spark : SparkResponse) :
    Sql.Costs keyed (fun t => t.captures = captures)
      (insertSpark userId captureIds spark inferenceMetaId) (sparkDemand captureIds spark)
      ((∀ captureId ∈ captureIds, Exists captures captureId) ∧
        ∀ cluster ∈ spark.clusters, ∀ captureId ∈ cluster.captureIds,
          Exists captures captureId) := by
  have hcosts := Sql.costs_bind (costs_insertSparkRow userId inferenceMetaId captures) fun row =>
    Sql.costs_bind
      (Sql.costs_forM (fun input : ℤ × ℕ =>
        costs_insertInputRef userId row.id captures input.1 (asI32 input.2)) captureIds.zipIdx)
      fun _ => Sql.costs_forM (costs_insertClusterRows userId row.id captures) spark.clusters
  rw [← sparkDemand_eq, true_and] at hcosts
  have hinputs : (∀ input ∈ captureIds.zipIdx, Exists captures input.1) ↔
      ∀ captureId ∈ captureIds, Exists captures captureId := by
    rw [← List.forall_mem_map (f := Prod.fst) (P := Exists captures), List.zipIdx_map_fst]
  rw [hinputs] at hcosts
  exact hcosts

end Costs

/-- **`insert_spark` returns exactly where it is granted.** -/
theorem insertSpark_returns_iff :
    (∃ u s', insertSpark userId captureIds spark inferenceMetaId s = .ok u s') ↔
      Granted captureIds spark s := by
  rw [(costs_insertSpark userId inferenceMetaId s.tables.captures captureIds spark).returns s rfl]
  constructor
  · rintro ⟨hgrants, hinputs, hreferences⟩
    exact ⟨hgrants, hinputs, hreferences⟩
  · rintro ⟨hgrants, hinputs, hreferences⟩
    exact ⟨hgrants, hinputs, hreferences⟩

/-! ## What a call that failed left -/

/-- The statements after the first leave the table of sparks alone. -/
theorem frames_sparks (row : SparkModel) :
    Sql.Frames SparkTables.sparks (captureIds.zipIdx.forM (fun (captureId, idx) =>
        insertInputRef userId row.id captureId (asI32 idx)) >>= fun _ =>
      spark.clusters.forM fun cluster => insertClusterRows userId row.id cluster) := by
  refine Sql.frames_bind (Sql.frames_forM fun input => ?_) fun _ => Sql.frames_forM fun cluster =>
    Sql.frames_bind ?_ fun clusterRow => Sql.frames_bind (Sql.frames_forM fun captureId => ?_)
      fun _ => Sql.frames_forM fun link => ?_
  · refine Sql.frames_insertSerial fun id t a t' h => ?_
    split_ifs at h
    cases h
    rfl
  · refine Sql.frames_insertSerial fun id t a t' h => ?_
    cases h
    rfl
  · refine Sql.frames_insertSerial fun id t a t' h => ?_
    split_ifs at h
    cases h
    rfl
  · refine Sql.frames_insertSerial fun id t a t' h => ?_
    cases h
    rfl

theorem insertSparkRow_returns_iff :
    (∃ row s', insertSparkRow userId inferenceMetaId s = .ok row s') ↔ Opens s := by
  refine Sql.insertSerial_returns_iff.trans ⟨?_, ?_⟩
  · rintro ⟨hfault, hkey, -⟩
    exact ⟨hfault, hkey⟩
  · rintro ⟨hfault, hkey⟩
    exact ⟨hfault, hkey, _, rfl⟩

theorem opens_of_ok (h : insertSpark userId captureIds spark inferenceMetaId s = .ok u s') :
    Opens s := by
  obtain ⟨row, t, hrow, -⟩ := Sql.bind_eq_ok.1 h
  exact insertSparkRow_returns_iff.1 ⟨row, t, hrow⟩

/-- **A call that failed** failed at its first statement and left nothing,
or left the row of the spark. -/
theorem insertSpark_eq_error
    (h : insertSpark userId captureIds spark inferenceMetaId s = .error e s') :
    (¬ Opens s ∧ s'.tables = s.tables) ∨
      (Opens s ∧ ∃ row, s'.tables.sparks = s.tables.sparks ++ [row]) := by
  rcases Sql.bind_eq_error.1 h with hfirst | ⟨row, t, hfirst, hrest⟩
  · refine Or.inl ⟨fun hopens => ?_, ?_⟩
    · obtain ⟨row, t, hok⟩ := insertSparkRow_returns_iff.2 hopens
      rw [hfirst] at hok
      cases hok
    · unfold insertSparkRow at hfirst
      exact Sql.tables_of_statement_error hfirst
  · refine Or.inr ⟨insertSparkRow_returns_iff.1 ⟨row, t, hfirst⟩, row, ?_⟩
    rw [(frames_sparks row).of_error t s' e hrest, (insertSparkRow_eq_ok hfirst).2]

/-- **A call leaves nothing if it fails** exactly where its first statement
fails, or it is granted. -/
theorem leaves_nothing_iff :
    (∀ e s', insertSpark userId captureIds spark inferenceMetaId s = .error e s' →
      SameSparks s.tables s'.tables) ↔ ¬ Opens s ∨ Granted captureIds spark s := by
  constructor
  · intro hnothing
    cases hrun : insertSpark userId captureIds spark inferenceMetaId s with
    | ok u s' => exact Or.inr (insertSpark_returns_iff.1 ⟨u, s', hrun⟩)
    | error e s' =>
      rcases insertSpark_eq_error hrun with ⟨hopens, -⟩ | ⟨-, row, hrow⟩
      · exact Or.inl hopens
      · have hlength := congrArg List.length ((hnothing e s' hrun).sparks.symm.trans hrow)
        rw [List.length_append, List.length_singleton] at hlength
        omega
  · rintro hsafe e s' hrun
    rcases insertSpark_eq_error hrun with ⟨-, hsame⟩ | ⟨hopens, -⟩
    · exact SameSparks.of_eq hsame
    · rcases hsafe with hnot | hgranted
      · exact absurd hopens hnot
      · obtain ⟨u, t, hok⟩ := insertSpark_returns_iff.2 hgranted
        rw [hrun] at hok
        cases hok

end Service

end Dreamscroll
