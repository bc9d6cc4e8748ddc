import Dreamscroll.Common.Overlap
import Dreamscroll.Service.InsertCapture
import Mathlib.Data.List.Induction
/-!
# Imports that overlap

Any number of imports of one user, statement by statement. No hash is to be
created twice, and a call whose content the user holds, or another call
creates while it is under way, is to end in the conflict.

That is so exactly along the runs in which every insert has the hash to
itself (`imports_distinct_iff`): no media holds it by then, and every other
call with it that overlaps is still to look for it. A look that comes after
the insert finds the hash, whatever else goes on.
-/

namespace Dreamscroll

namespace Upload

variable {userId : ℤ} {tools : Tools} {modelId : Option String} {tables tables' : UploadTables}
  {start : UploadTables} {op op' : Import} {input : Input} {place : Place} {hash : String}

/-- The tables, and where the imports are. -/
abbrev ImportState := Procedure.State UploadTables Import Place Answer

/-- An import begins, or runs its next statement. -/
abbrev ImportEvent := Procedure.Event Import Input

variable {s s' : ImportState} {e : ImportEvent} {es : List ImportEvent} {c : ℕ} {answer : Answer}

/-! ## What the imports promise -/

/-- The medias inserted since. -/
def created (start tables : UploadTables) : List MediaRow :=
  tables.medias.drop start.medias.length

/-- No two medias that were created have the same hash. -/
def Distinct (start : UploadTables) (s : ImportState) : Prop :=
  ((created start s.shared).map fun m => m.hashBlake3).Nodup

instance (start : UploadTables) (s : ImportState) : Decidable (Distinct start s) :=
  inferInstanceAs (Decidable (List.Nodup _))

/-- The call runs its insert, and has the keys to: it creates its capture. -/
def Creates (c : ℕ) (op : Import) (s : ImportState) (e : ImportEvent) (_ : ImportState) : Prop :=
  HasRoom s.shared ∧
    ∃ input saved, e = .advance c input ∧ s.calls[c]? = some ⟨op, .inl (.save saved)⟩

/-- **The imports of the run duplicate no media.** -/
structure NoDuplicates (userId : ℤ) (tools : Tools) (modelId : Option String)
    (tables : UploadTables) (es : List ImportEvent) (s : ImportState) : Prop where
  /-- In no state reached has a hash been created twice. -/
  distinct : (importCapture userId tools modelId).system.Along (fun _ _ s' => Distinct tables s')
    (.start tables) es
  /-- A call ends in the conflict if another creates its content while it is
  under way. -/
  concurrent : ∀ (i j : ℕ) (op op' : Import) (answer : Answer), i ≠ j →
    (importCapture userId tools modelId).system.Occurs (Creates j op') (.start tables) es →
    s.calls[i]? = some ⟨op, .inr answer⟩ → tools.blake3 op.bytes = tools.blake3 op'.bytes →
    s.Overlap i j → answer = .error alreadyExists
  /-- And if its content was held when it was invoked. -/
  held : ∀ es₁ op es₂ s₁ s₂ answer,
    (importCapture userId tools modelId).system.Cut (.start tables) es es₁ (.invoke op) es₂ s₁ s₂ →
    holds userId s₁.shared (tools.blake3 op.bytes) = true →
    s.calls[s₁.calls.length]? = some ⟨op, .inr answer⟩ → answer = .error alreadyExists

/-! ## The condition -/

/-- Call `i`, if it is another with the content, is still to look, unless it
had answered before call `c` was invoked. -/
def ToLook (tools : Tools) (s : ImportState) (c : ℕ) (op : Import) (i : ℕ)
    (call : Procedure.Call Import Place Answer) : Prop :=
  i ≠ c → tools.blake3 call.op.bytes = tools.blake3 op.bytes → ¬ s.Precedes i c →
    call.stands = .inl .lookup

instance (tools : Tools) (s : ImportState) (c : ℕ) (op : Import) (i : ℕ)
    (call : Procedure.Call Import Place Answer) : Decidable (ToLook tools s c op i call) :=
  inferInstanceAs (Decidable (_ → _ → _ → _))

/-- **The content is the call's own** where its insert has the keys to run:
no media of the user has the hash, and the other calls are still to look. -/
def Alone (userId : ℤ) (tools : Tools) (s : ImportState) (c : ℕ) (op : Import) : Prop :=
  HasRoom s.shared → holds userId s.shared (tools.blake3 op.bytes) = false ∧
    ∀ i < s.calls.length, ∀ call ∈ s.calls[i]?, ToLook tools s c op i call

instance (userId : ℤ) (tools : Tools) (s : ImportState) (c : ℕ) (op : Import) :
    Decidable (Alone userId tools s c op) :=
  inferInstanceAs (Decidable (_ → _ ∧ ∀ i < s.calls.length, ∀ call ∈ s.calls[i]?, _))

/-- Bytes whose hash the user holds are an image. -/
def FindsImage (userId : ℤ) (tools : Tools) (tables : UploadTables) (op : Import) : Place → Prop
  | .lookup => holds userId tables (tools.blake3 op.bytes) = true → Supported tools op.bytes
  | .store _ | .save _ => True

instance (userId : ℤ) (tools : Tools) (tables : UploadTables) (op : Import) :
    ∀ place, Decidable (FindsImage userId tools tables op place)
  | .lookup => inferInstanceAs (Decidable (_ → _))
  | .store _ | .save _ => isTrue trivial

/-- What is asked of the next statement of a call. -/
def ExclusiveAt (userId : ℤ) (tools : Tools) (s : ImportState) (c : ℕ) (op : Import) :
    Place ⊕ Answer → Prop
  | .inl (.save _) => Alone userId tools s c op
  | .inl .lookup => FindsImage userId tools s.shared op .lookup
  | .inl (.store _) | .inr _ => True

instance (userId : ℤ) (tools : Tools) (s : ImportState) (c : ℕ) (op : Import) :
    ∀ stands, Decidable (ExclusiveAt userId tools s c op stands)
  | .inl (.save _) => inferInstanceAs (Decidable (Alone userId tools s c op))
  | .inl .lookup => inferInstanceAs (Decidable (FindsImage userId tools s.shared op .lookup))
  | .inl (.store _) | .inr _ => isTrue trivial

/-- **Every import has its content to itself.** -/
def Exclusive (userId : ℤ) (tools : Tools) (s : ImportState) : ImportEvent → ImportState → Prop
  | .invoke _, _ => True
  | .advance c _, _ => ∀ call ∈ s.calls[c]?, ExclusiveAt userId tools s c call.op call.stands

instance (userId : ℤ) (tools : Tools) (s : ImportState) :
    ∀ (e : ImportEvent) (s' : ImportState), Decidable (Exclusive userId tools s e s')
  | .invoke _, _ => isTrue trivial
  | .advance c _, _ => inferInstanceAs (Decidable (∀ call ∈ s.calls[c]?, _))

/-- An exclusive import finds every image that was there before it. -/
theorem findsImage_of_exclusive (h : Exclusive userId tools s e s') :
    Procedure.At (FindsImage userId tools) s e s' := by
  cases e with
  | invoke op => trivial
  | advance c input =>
    intro op place hc
    have hx := h ⟨op, .inl place⟩ hc
    cases place with
    | lookup => exact hx
    | store mediaType => trivial
    | save saved => trivial

/-! ## No hash twice -/

/-- The rows behind those of the start are the created ones. -/
theorem created_eq {rows : List MediaRow} (h : tables.medias = start.medias ++ rows) :
    created start tables = rows := by
  unfold created
  rw [h, List.drop_left]

/-- What holds of the state and of every call, whatever the overlap. -/
abbrev ImportInv (userId : ℤ) (tools : Tools) (start : UploadTables) : ImportState → Prop :=
  Procedure.Inv (Extends userId start) (Knows userId tools start)

/-- No import has created anything at the start. -/
theorem importInv_start : ImportInv userId tools tables (.start tables) :=
  Procedure.inv_start ⟨[], (List.append_nil _).symm, List.forall_mem_nil _⟩

/-- The invariant holds along every run. -/
theorem importInv_of_run
    (h : (importCapture userId tools modelId).system.run (.start tables) es = some s) :
    ImportInv userId tools tables s := rely.run importInv_start h Procedure.along_at_true

/-- A statement that creates nothing leaves the created hashes. -/
theorem distinct_congr (h : tables'.medias = tables.medias) :
    created start tables' = created start tables := by
  unfold created
  rw [h]

/-- **An insert creates a new hash exactly where no media has it.** -/
theorem distinct_insert_iff {saved : Saved} {captureId id : ℤ} (hs : Extends userId start tables)
    (hstart : holds userId start (tools.blake3 op.bytes) = false)
    (hmedias : tables'.medias =
      tables.medias ++ [mediaRow userId tools op.bytes saved captureId id]) :
    ((created start tables').map fun m => m.hashBlake3).Nodup ↔
      ((created start tables).map fun m => m.hashBlake3).Nodup ∧
        holds userId tables (tools.blake3 op.bytes) = false := by
  obtain ⟨rows, hrows, huser⟩ := hs
  rw [hrows, List.append_assoc] at hmedias
  rw [created_eq hmedias, created_eq hrows, List.map_append, List.nodup_append,
    holds_eq_false_iff]
  rw [holds_eq_false_iff] at hstart
  constructor
  · rintro ⟨hold, -, hnew⟩
    refine ⟨hold, fun m hm hmuser hhash => ?_⟩
    rw [hrows] at hm
    rcases List.mem_append.1 hm with hm | hm
    · exact hstart m hm hmuser hhash
    · exact hnew _ (List.mem_map_of_mem hm) _ (List.mem_map_of_mem (List.mem_singleton_self _)) hhash
  · rintro ⟨hold, hnone⟩
    refine ⟨hold, List.nodup_singleton _, fun h₁ hh₁ h₂ hh₂ heq => ?_⟩
    obtain ⟨m, hm, rfl⟩ := List.mem_map.1 hh₁
    rw [List.map_singleton, List.mem_singleton] at hh₂
    rw [hh₂] at heq
    exact hnone m (hrows ▸ List.mem_append_right _ hm) (huser m hm) heq

/-- Nothing created, nothing created twice. -/
theorem distinct_start : Distinct tables (.start tables) := by
  unfold Distinct created
  rw [Procedure.State.start, List.drop_length]
  exact List.nodup_nil

/-- **A step keeps the hashes apart** if what it inserts is of a new one. -/
theorem Distinct.step (hd : Distinct start s) (hs : ImportInv userId tools start s)
    (hstep : (importCapture userId tools modelId).system.step s e = some s')
    (hnew : ∀ c op, Creates c op s e s' → holds userId s.shared (tools.blake3 op.bytes) = false) :
    Distinct start s' := by
  rcases Procedure.step_cases hstep with ⟨op, rfl, rfl⟩ | ⟨c, input, op, place, rfl, hc, rfl⟩
  · exact hd
  · rcases next_cases userId tools modelId op input s.shared place with
      ⟨hsame, -⟩ | ⟨saved, captureId, id, rfl, hroom, hmedias⟩
    · change (List.map _ (created start ((importCapture userId tools modelId).next op input
        s.shared place).1)).Nodup
      rw [distinct_congr hsame]
      exact hd
    · have hstart : holds userId start (tools.blake3 op.bytes) = false :=
        hs.2 _ (mem_of_getElem? hc)
      exact (distinct_insert_iff hs.1 hstart hmedias).2
        ⟨hd, hnew c op ⟨hroom, input, saved, rfl, hc⟩⟩

/-- **And where they stay apart, it is.** -/
theorem Creates.fresh (h : Creates c op s e s') (hs : ImportInv userId tools start s)
    (hstep : (importCapture userId tools modelId).system.step s e = some s')
    (hd : Distinct start s') : holds userId s.shared (tools.blake3 op.bytes) = false := by
  obtain ⟨hroom, input, saved, rfl, hc⟩ := h
  rcases Procedure.step_cases hstep with ⟨op', heq, -⟩ | ⟨c', input', op', place, heq, hc', rfl⟩
  · cases heq
  · cases heq
    rw [hc] at hc'
    cases hc'
    rcases next_cases userId tools modelId op input s.shared (.save saved) with
      ⟨-, hnone⟩ | ⟨saved', captureId, id, hplace, -, hmedias⟩
    · exact absurd hroom (hnone saved rfl)
    · cases hplace
      have hstart : holds userId start (tools.blake3 op.bytes) = false :=
        hs.2 _ (mem_of_getElem? hc)
      exact ((distinct_insert_iff hs.1 hstart hmedias).1 hd).2

/-! ## What an insert leaves to the others -/

/-- **What an insert leaves**: the hash, an answer of its call, and the other
calls where they were. -/
theorem Creates.effect (h : Creates c op s e s')
    (hstep : (importCapture userId tools modelId).system.step s e = some s') :
    holds userId s'.shared (tools.blake3 op.bytes) = true ∧
      (∃ answer, s'.calls[c]? = some ⟨op, .inr answer⟩) ∧ s'.calls.length = s.calls.length ∧
      ∀ i, i ≠ c → s'.calls[i]? = s.calls[i]? := by
  obtain ⟨hroom, input, saved, rfl, hc⟩ := h
  rcases Procedure.step_cases hstep with ⟨op', heq, -⟩ | ⟨c', input', op', place, heq, hc', rfl⟩
  · cases heq
  · cases heq
    rw [hc] at hc'
    cases hc'
    refine ⟨?_, ⟨_, getElem?_set_of_some hc⟩, List.length_set, fun i hi => getElem?_set_of_ne hi⟩
    rcases next_cases userId tools modelId op input s.shared (.save saved) with
      ⟨-, hnone⟩ | ⟨saved', captureId, id, -, -, hmedias⟩
    · exact absurd hroom (hnone saved rfl)
    · exact holds_of_append hmedias rfl rfl

/-- A call whose content is held is to be refused: it is still to look, or
has ended in the conflict. -/
def Refused (userId : ℤ) (tools : Tools) (op : Import) (tables : UploadTables) :
    Place ⊕ Answer → Prop
  | .inl place => holds userId tables (tools.blake3 op.bytes) = true ∧ place = .lookup
  | .inr answer => answer = .error alreadyExists

/-- A refusal stays a refusal as the table grows. -/
theorem Refused.grows {stands : Place ⊕ Answer} (hgrows : Grows userId tables tables')
    (h : Refused userId tools op tables stands) : Refused userId tools op tables' stands := by
  cases stands with
  | inl place => exact ⟨hgrows _ h.1, h.2⟩
  | inr answer => exact h

/-- An import that is to be refused takes its next step towards the refusal. -/
theorem refused_next (h : Refused userId tools op tables (.inl place))
    (himage : FindsImage userId tools tables op place) :
    Refused userId tools op ((importCapture userId tools modelId).next op input tables place).1
      ((importCapture userId tools modelId).next op input tables place).2 := by
  obtain ⟨hheld, rfl⟩ := h
  obtain ⟨mediaType, hok⟩ := himage hheld
  obtain ⟨-, ⟨err, hrefused, -⟩ | ⟨mediaType, -, hlook⟩⟩ :=
    lookup_cases userId tools modelId op input tables
  · rw [hok] at hrefused
    cases hrefused
  · rw [hlook, if_pos hheld]
    exact rfl

/-- **A look that comes when the hash is held finds it**, however long it
takes to come. -/
theorem refused_of_run (hs : ImportInv userId tools start s)
    (hc : s.calls[c]? = some ⟨op, .inl .lookup⟩)
    (hheld : holds userId s.shared (tools.blake3 op.bytes) = true)
    (hrun : (importCapture userId tools modelId).system.run s es = some s')
    (hx : (importCapture userId tools modelId).system.Along (Exclusive userId tools) s es)
    (hend : s'.calls[c]? = some ⟨op', .inr answer⟩) : answer = .error alreadyExists := by
  have himages := System.Along.imp (fun _ _ _ _ hx => findsImage_of_exclusive hx) hx
  obtain ⟨stands, hstands, hrefused⟩ := rely.keeps (K := Refused userId tools op)
    (fun _ _ _ _ hK himage => refused_next hK himage) (fun _ _ _ hgrows hK => hK.grows hgrows) hs hc
    ⟨hheld, rfl⟩ hrun himages
  rw [hstands] at hend
  cases hend
  exact hrefused

section Forward

variable (h : (importCapture userId tools modelId).system.run (.start tables) es = some s)
variable (hx : (importCapture userId tools modelId).system.Along (Exclusive userId tools)
  (.start tables) es)
include h hx

/-- **No hash is created twice** where every insert has its own. -/
theorem distinct_of_exclusive : (importCapture userId tools modelId).system.Along
    (fun _ _ s' => Distinct tables s') (.start tables) es := by
  refine (System.run_inv_to (P := Exclusive userId tools)
    (I := fun s => ImportInv userId tools tables s ∧ Distinct tables s) ?_
    ⟨importInv_start, distinct_start⟩ h hx).2
  rintro t e t' - ⟨hinv, hd⟩ hstep - hxt
  have hd' : Distinct tables t' := by
    refine hd.step hinv hstep fun c op hcreates => ?_
    obtain ⟨hroom, input, saved, rfl, hc⟩ := hcreates
    exact (hxt ⟨op, .inl (.save saved)⟩ hc hroom).1
  exact ⟨⟨rely.step hinv hstep Procedure.at_true, hd'⟩, hd'⟩

/-- **A call whose content another creates meanwhile ends in the conflict**:
it had not looked by then, so it finds the hash. -/
theorem conflict_of_overlap {i j : ℕ} (hne : i ≠ j)
    (hcreated : (importCapture userId tools modelId).system.Occurs (Creates j op') (.start tables) es)
    (hi : s.calls[i]? = some ⟨op, .inr answer⟩)
    (hhash : tools.blake3 op.bytes = tools.blake3 op'.bytes) (hover : s.Overlap i j) :
    answer = .error alreadyExists := by
  obtain ⟨es₁, e, es₂, s₁, s₂, hcut, hcreates⟩ := System.occurs_iff_cut.1 hcreated
  obtain ⟨hx₁, hx₂⟩ := hcut.along hx
  have hrun₂ := hcut.after h
  have hrun₁ : (importCapture userId tools modelId).system.run s₁ (e :: es₂) = some s :=
    System.run_cons_eq_some.2 ⟨s₂, hcut.step, hrun₂⟩
  have hinv₂ : ImportInv userId tools tables s₂ :=
    rely.step (importInv_of_run hcut.before) hcut.step Procedure.at_true
  obtain ⟨hheld, ⟨answer', hj'⟩, hlength, hothers⟩ := hcreates.effect hcut.step
  obtain ⟨hroom, input, saved, rfl, hj⟩ := hcreates
  have hjlt : j < s₁.calls.length := (List.getElem?_eq_some_iff.1 hj).1
  by_cases hilt : i < s₁.calls.length
  · -- it was invoked by then, and still to look
    obtain ⟨⟨opᵢ, stands⟩, hcall⟩ : ∃ call, s₁.calls[i]? = some call :=
      ⟨_, List.getElem?_eq_getElem hilt⟩
    obtain ⟨stands', hend, -⟩ := Procedure.call_of_run hrun₁ hcall
    rw [hi] at hend
    cases hend
    have hlook : stands = .inl .lookup := by
      refine (hx₁ ⟨op', .inl (.save saved)⟩ hj hroom).2 i hilt ⟨op, stands⟩ hcall hne hhash ?_
      rw [← Procedure.precedes_iff_of_run hrun₁ hjlt]
      exact hover.1
    rw [hlook] at hcall
    refine refused_of_run hinv₂ ((hothers i hne).trans hcall) ?_ hrun₂ hx₂ hi
    rw [hhash]
    exact hheld
  · -- it was invoked after the other had answered
    have ht₂ : Procedure.Timed s₂ := (Procedure.timed_of_run hcut.before).step hcut.step
    have hilt' : i < s.calls.length := (List.getElem?_eq_some_iff.1 hi).1
    exact absurd (ht₂.precedes_of_run hj' hrun₂ (by omega) hilt') hover.2

/-- With exclusive imports the claim holds, each part by its own lemma. -/
theorem noDuplicates_of_exclusive : NoDuplicates userId tools modelId tables es s where
  distinct := distinct_of_exclusive h hx
  concurrent _ _ _ _ _ hne hcreated hi hhash hover :=
    conflict_of_overlap h hx hne hcreated hi hhash hover
  held es₁ op es₂ s₁ s₂ answer hcut hheld hend := by
    have hs₂ : s₂ = s₁.invoked op .lookup := (Option.some.inj hcut.step).symm
    subst hs₂
    have hinv : ImportInv userId tools tables (s₁.invoked op .lookup) :=
      rely.step (importInv_of_run hcut.before) hcut.step Procedure.at_true
    exact refused_of_run hinv List.getElem?_concat_length hheld (hcut.after h) (hcut.along hx).2 hend

end Forward

/-! ## Where a run that duplicates none has come from -/

/-- No statement goes back to the look. -/
theorem ne_lookup_of_next : ((importCapture userId tools modelId).next op input tables place).2 ≠
    .inl .lookup := by
  cases place with
  | lookup =>
    obtain ⟨-, ⟨err, -, hlook⟩ | ⟨mediaType, -, hlook⟩⟩ :=
      lookup_cases userId tools modelId op input tables
    · rw [hlook]
      exact fun h => by cases h
    · rw [hlook]
      split_ifs
      · exact fun h => by cases h
      · exact fun h => by cases h
  | store mediaType =>
    simp only [importCapture, insertCapture]
    split
    · exact fun h => by cases h
    · exact fun h => by cases h
  | save saved => exact fun h => by cases h

/-- **A hash that a look finds** was held when its call was invoked, or was
inserted by a call it overlaps. -/
inductive Origin (userId : ℤ) (tools : Tools) (modelId : Option String) (tables : UploadTables)
    (es : List ImportEvent) (c : ℕ) (op : Import) : Prop
  | held {es₁ es₂ : List ImportEvent} {s₁ s₂ : ImportState} :
      (importCapture userId tools modelId).system.Cut (.start tables) es es₁ (.invoke op) es₂ s₁ s₂ →
      s₁.calls.length = c → holds userId s₁.shared (tools.blake3 op.bytes) = true →
      Origin userId tools modelId tables es c op
  | created {j : ℕ} {op' : Import} {es₁ es₂ : List ImportEvent} {e : ImportEvent}
      {s₁ s₂ : ImportState} :
      (importCapture userId tools modelId).system.Cut (.start tables) es es₁ e es₂ s₁ s₂ →
      Creates j op' s₁ e s₂ → tools.blake3 op.bytes = tools.blake3 op'.bytes →
      s₁.calls[c]? = some ⟨op, .inl .lookup⟩ → Origin userId tools modelId tables es c op

/-- Where an import comes from does not depend on what happens later. -/
theorem Origin.append (h : Origin userId tools modelId tables es c op) (es' : List ImportEvent) :
    Origin userId tools modelId tables (es ++ es') c op := by
  cases h with
  | held hcut hlength hheld => exact .held (hcut.append es') hlength hheld
  | created hcut hcreates hhash hc => exact .created (hcut.append es') hcreates hhash hc

/-- By the last event of the run: it invoked the call, or inserted the hash,
or the hash was held before it. -/
theorem origin_of_held
    (h : (importCapture userId tools modelId).system.run (.start tables) es = some s)
    (hc : s.calls[c]? = some ⟨op, .inl .lookup⟩)
    (hheld : holds userId s.shared (tools.blake3 op.bytes) = true) :
    Origin userId tools modelId tables es c op := by
  induction es using List.reverseRecOn generalizing s with
  | nil =>
    cases h
    cases hc
  | append_singleton es e ih =>
    obtain ⟨t, ht, hlast⟩ := System.run_append_eq_some.1 h
    rw [System.run_singleton] at hlast
    have hcut : (importCapture userId tools modelId).system.Cut (.start tables) (es ++ [e]) es e []
        t s := ⟨rfl, ht, hlast⟩
    rcases Procedure.step_cases hlast with ⟨op', rfl, rfl⟩ | ⟨d, input, op', place, rfl, hd, rfl⟩
    · rcases getElem?_concat_eq_some hc with ⟨hlength, heq⟩ | hc
      · cases heq
        exact .held hcut hlength.symm hheld
      · exact (ih ht hc hheld).append _
    · rcases getElem?_set_eq_some hc with ⟨-, heq⟩ | ⟨-, hc₀⟩
      · exact absurd (congrArg Procedure.Call.stands heq).symm ne_lookup_of_next
      · by_cases hold : holds userId t.shared (tools.blake3 op.bytes) = true
        · exact (ih ht hc₀ hold).append _
        · rcases next_cases userId tools modelId op' input t.shared place with
            ⟨hsame, -⟩ | ⟨saved, captureId, id, rfl, hroom, hmedias⟩
          · refine absurd ?_ hold
            change holds userId ((importCapture userId tools modelId).next op' input t.shared
              place).1 (tools.blake3 op.bytes) = true at hheld
            unfold holds at hheld ⊢
            rwa [hsame] at hheld
          · change holds userId ((importCapture userId tools modelId).next op' input t.shared
              (.save saved)).1 (tools.blake3 op.bytes) = true at hheld
            rw [holds_append hmedias, Bool.or_eq_true, or_iff_right hold] at hheld
            have hhash : tools.blake3 op.bytes = tools.blake3 op'.bytes := by
              simpa [mediaRow, eq_comm] using hheld
            exact .created hcut ⟨hroom, input, saved, rfl, hd⟩ hhash hc₀

/-- **A call past its look never ends in the conflict.** -/
theorem ne_conflict_of_run {i : ℕ} {place : Place} {s₁ : ImportState}
    (hs : ImportInv userId tools tables s₁)
    (hcall : s₁.calls[i]? = some ⟨op, .inl place⟩) (hplace : place ≠ .lookup)
    (hrun : (importCapture userId tools modelId).system.run s₁ es = some s)
    (hend : s.calls[i]? = some ⟨op', .inr answer⟩) : answer ≠ .error alreadyExists := by
  obtain ⟨stands, hstands, hpast⟩ := rely.keeps
    (K := fun _ stands => stands ≠ .inl .lookup ∧ stands ≠ .inr (.error alreadyExists))
    (fun _ _ _ _ hK _ => ⟨ne_lookup_of_next, ne_alreadyExists_of_next fun heq => hK.1 (heq ▸ rfl)⟩)
    (fun _ _ _ _ hK => hK) hs hcall
    ⟨fun heq => hplace (Sum.inl.inj heq), fun heq => by cases heq⟩ hrun Procedure.along_at_true
  rw [hstands] at hend
  cases hend
  exact fun heq => hpast.2 (congrArg Sum.inr heq)

section Backward

variable (h : (importCapture userId tools modelId).system.run (.start tables) es = some s)
variable (hn : NoDuplicates userId tools modelId tables es s)
variable {es₁ es₂ : List ImportEvent} {s₁ s₂ : ImportState}
include h hn

/-- **A look that finds the hash looks for an image**, since its call ends in
the conflict. -/
theorem supported_of_noDuplicates
    (hcut : (importCapture userId tools modelId).system.Cut (.start tables) es es₁
      (.advance c input) es₂ s₁ s₂)
    (hc : s₁.calls[c]? = some ⟨op, .inl .lookup⟩)
    (hheld : holds userId s₁.shared (tools.blake3 op.bytes) = true) :
    Supported tools op.bytes := by
  obtain ⟨-, ⟨err, himage, hlook⟩ | ⟨mediaType, himage, -⟩⟩ :=
    lookup_cases userId tools modelId op input s₁.shared
  · exfalso
    -- it is refused at the look, and that is its answer
    have hs₂ : s₂.calls[c]? = some ⟨op, .inr (.error err)⟩ := by
      rcases Procedure.step_cases hcut.step with ⟨op', heq, -⟩ | ⟨c', input', op', place, heq, hc', rfl⟩
      · cases heq
      · cases heq
        rw [hc] at hc'
        cases hc'
        rw [← hlook]
        exact getElem?_set_of_some hc
    obtain ⟨stands, hend, hstays⟩ := Procedure.call_of_run (hcut.after h) hs₂
    rw [hstays _ rfl] at hend
    have hconflict : (.error err : Answer) = .error alreadyExists := by
      have horigin := (origin_of_held hcut.before hc hheld).append (.advance c input :: es₂)
      rw [← hcut.events] at horigin
      cases horigin with
      | held hcut' hlength hheld' => exact hn.held _ _ _ _ _ _ hcut' hheld' (hlength ▸ hend)
      | @created j op' es₁' es₂' e' t₁ t₂ hcut' hcreates hhash hc' =>
        have hoccurs := System.occurs_iff_cut.2 ⟨_, _, _, _, _, hcut', hcreates⟩
        obtain ⟨-, input', saved, -, hj⟩ := hcreates
        have hne : c ≠ j := by
          rintro rfl
          rw [hc'] at hj
          cases hj
        have hrun : (importCapture userId tools modelId).system.run t₁ (e' :: es₂') = some s :=
          System.run_cons_eq_some.2 ⟨t₂, hcut'.step, hcut'.after h⟩
        exact hn.concurrent c j op op' _ hne hoccurs hend hhash
          ((Procedure.timed_of_run hcut'.before).overlap_of_run hc' hj hrun)
    exact ne_alreadyExists_of_supportedImage himage (Except.error.inj hconflict)
  · exact ⟨mediaType, himage⟩

/-- **An insert has the content to itself**: another call with it that
overlaps ends in the conflict, so it neither went past its look nor has found
the hash. -/
theorem alone_of_noDuplicates {saved : Saved} (hreturned : Procedure.Returned s)
    (hcut : (importCapture userId tools modelId).system.Cut (.start tables) es es₁
      (.advance c input) es₂ s₁ s₂)
    (hc : s₁.calls[c]? = some ⟨op, .inl (.save saved)⟩) : Alone userId tools s₁ c op := by
  intro hroom
  have hcreates : Creates c op s₁ (.advance c input) s₂ := ⟨hroom, input, saved, rfl, hc⟩
  have hinv := importInv_of_run hcut.before
  have hnone : holds userId s₁.shared (tools.blake3 op.bytes) = false :=
    hcreates.fresh hinv hcut.step (System.along_iff_cut.1 hn.distinct _ _ _ _ _ hcut)
  refine ⟨hnone, fun i hilt call hcall hne hhash hnot => ?_⟩
  have hclt : c < s₁.calls.length := (List.getElem?_eq_some_iff.1 hc).1
  have hrun : (importCapture userId tools modelId).system.run s₁ (.advance c input :: es₂) = some s :=
    System.run_cons_eq_some.2 ⟨s₂, hcut.step, hcut.after h⟩
  have hover : s.Overlap i c := by
    constructor
    · rwa [Procedure.precedes_iff_of_run hrun hclt]
    · rw [Procedure.precedes_iff_of_run hrun hilt]
      exact (Procedure.timed_of_run hcut.before).not_precedes hc
  obtain ⟨op', stands⟩ := call
  obtain ⟨stands', hend, hstays⟩ := Procedure.call_of_run hrun hcall
  obtain ⟨answer, hanswer⟩ := hreturned _ (mem_of_getElem? hend)
  have hanswer' : stands' = .inr answer := hanswer
  subst hanswer'
  have hconflict := hn.concurrent i c op' op answer hne
    (System.occurs_iff_cut.2 ⟨_, _, _, _, _, hcut, hcreates⟩) hend hhash hover
  cases stands with
  | inl place =>
    by_contra hplace
    exact ne_conflict_of_run hinv hcall (fun heq => hplace (congrArg Sum.inl heq)) hrun hend hconflict
  | inr answer' =>
    -- it has found the hash, which no media has
    exfalso
    cases hstays _ rfl
    have hheld := hinv.2 _ (mem_of_getElem? hcall) hconflict
    change holds userId s₁.shared (tools.blake3 op'.bytes) = true at hheld
    rw [hhash, hnone] at hheld
    cases hheld

/-- A run without duplicates, all of whose calls have returned, was exclusive. -/
theorem exclusive_of_noDuplicates (hreturned : Procedure.Returned s) :
    (importCapture userId tools modelId).system.Along (Exclusive userId tools)
      (.start tables) es := by
  rw [System.along_iff_cut]
  intro es₁ e es₂ s₁ s₂ hcut
  cases e with
  | invoke op => trivial
  | advance c input =>
    rintro ⟨op, stands⟩ hc
    match stands, hc with
    | .inl .lookup, hc => exact supported_of_noDuplicates h hn hcut hc
    | .inl (.save _), hc => exact alone_of_noDuplicates h hn hreturned hcut hc
    | .inl (.store _), _ => trivial
    | .inr _, _ => trivial

end Backward

/-- Both look for the hash before either inserts it. -/
def twiceEvents : List ImportEvent :=
  [.invoke ⟨pngBytes, 5⟩, .invoke ⟨pngBytes, 6⟩, .advance 0 (stored "a"), .advance 1 (stored "b"),
    .advance 0 (stored "a"), .advance 1 (stored "b"), .advance 0 (stored "a"),
    .advance 1 (stored "b")]

/-- The state after the imports, on an empty account. -/
def imported (events : List ImportEvent)
    (h : ((importCapture 1 pngTools (some "gemini")).system.run (.start noCaptures)
      events).isSome) : ImportState :=
  ((importCapture 1 pngTools (some "gemini")).system.run (.start noCaptures) events).get h

/-- Both are under way, and the second looks for the hash after the first
has inserted it. -/
def turnEvents : List ImportEvent :=
  [.invoke ⟨pngBytes, 5⟩, .invoke ⟨pngBytes, 6⟩, .advance 0 (stored "a"), .advance 0 (stored "a"),
    .advance 0 (stored "a"), .advance 1 (stored "b")]

end Upload

end Dreamscroll
