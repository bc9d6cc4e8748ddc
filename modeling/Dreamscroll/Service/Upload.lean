import Dreamscroll.Service.InsertCapture
/-!
# Uploads that fail

`UserApiClient::insert_capture` and `import_capture`, one call from start to
end: the insert, the task for the illumination of the capture, and the
signal to the beacon, whose failure is ignored. The task needs the default
illumination model, and is made after the insert is committed.

So an upload that fails stores nothing exactly where there is a model, or
the insert was not reached or failed itself (`stores_nothing_iff`).
-/

namespace Dreamscroll

namespace Upload

/-- A call of the client. -/
inductive UploadCall
  | insertCapture (bytes : Bytes)
  | importCapture (bytes : Bytes) (createdAt : Timestamp)
  deriving DecidableEq, Repr

namespace UploadCall

/-- The content of the file. -/
def bytes : UploadCall → Bytes
  | insertCapture bytes | importCapture bytes _ => bytes

/-- An import fails on media dupes, an insert allows them. -/
def dedupe : UploadCall → Bool
  | insertCapture _ => false
  | importCapture _ _ => true

/-- The time of the capture, where the call says it. -/
def createdAt : UploadCall → Option Timestamp
  | insertCapture _ => none
  | importCapture _ createdAt => some createdAt

end UploadCall

/-- The statements the database refuses. -/
structure Refusals where
  lookup : Option String
  save : Option String

/-- **`insert_capture`**, from start to end. -/
def insertAlone (userId : ℤ) (tools : Tools) (call : UploadCall) (refused : Refusals)
    (input : Input) (tables : UploadTables) : UploadTables × Answer :=
  match supportedImage tools call.bytes with
  | .error e => (tables, .error e)
  | .ok mediaType =>
    match (if call.dedupe then refused.lookup else none) with
    | some e => (tables, .error (ApiError.internal e))
    | none =>
      if call.dedupe && holds userId tables (tools.blake3 call.bytes) then
        (tables, .error alreadyExists)
      else
        match input.stored with
        | .error e => (tables, .error (ApiError.internal e))
        | .ok handle =>
          match refused.save with
          | some e => (tables, .error (ApiError.internal e))
          | none => save userId tools call.bytes (call.createdAt.getD input.now)
              ⟨mediaType, handle⟩ tables

/-- **The call of the client**, where this is the default illumination
model. -/
def upload (userId : ℤ) (tools : Tools) (modelId : Option String) (call : UploadCall)
    (refused : Refusals) (input : Input) (tables : UploadTables) : UploadTables × Answer :=
  let (tables, answer) := insertAlone userId tools call refused input tables
  (tables, importAnswer modelId answer)

/-- An import that is refused no statement is the import alone. -/
theorem upload_eq_importAlone (userId : ℤ) (tools : Tools) (modelId : Option String)
    (op : Import) (input : Input) (tables : UploadTables) :
    upload userId tools modelId (.importCapture op.bytes op.createdAt) ⟨none, none⟩ input tables =
      importAlone userId tools modelId op input tables := by
  unfold upload insertAlone importAlone
  dsimp only [UploadCall.bytes, UploadCall.dedupe, UploadCall.createdAt]
  cases supportedImage tools op.bytes with
  | error e => rfl
  | ok mediaType =>
    simp only [if_true, Bool.true_and, Option.getD_some]
    split_ifs
    · rfl
    · cases input.stored <;> rfl

/-- **A failed upload stores nothing**, and what is retried is not in its
way. -/
structure StoresNothing (userId : ℤ) (tools : Tools) (modelId : Option String) (call : UploadCall)
    (refused : Refusals) (input : Input) (tables : UploadTables) : Prop where
  unchanged : ∀ e, (upload userId tools modelId call refused input tables).2 = .error e →
    (upload userId tools modelId call refused input tables).1.captures = tables.captures ∧
      (upload userId tools modelId call refused input tables).1.medias = tables.medias
  /-- The retry is no duplicate of the failed call. -/
  retried : ∀ e, (upload userId tools modelId call refused input tables).2 = .error e →
    ∀ modelId' refused' input',
      (upload userId tools modelId' call refused' input'
        (upload userId tools modelId call refused input tables).1).2 = .error alreadyExists →
      holds userId tables (tools.blake3 call.bytes) = true
  /-- The retry leaves one capture. -/
  once : ∀ e, (upload userId tools modelId call refused input tables).2 = .error e →
    ∀ modelId' refused' input' capture,
      (upload userId tools modelId' call refused' input'
        (upload userId tools modelId call refused input tables).1).2 = .ok capture →
      (upload userId tools modelId' call refused' input'
        (upload userId tools modelId call refused input tables).1).1.captures.length =
          tables.captures.length + 1

/-- **The insert is reached and succeeds**: the bytes are an image, an import
finds no duplicate, the storage takes them, no statement is refused, and
there are keys. -/
def Inserts (userId : ℤ) (tools : Tools) (call : UploadCall) (refused : Refusals) (input : Input)
    (tables : UploadTables) : Prop :=
  (∃ mediaType, supportedImage tools call.bytes = .ok mediaType) ∧
    (call.dedupe = true → refused.lookup = none ∧
      holds userId tables (tools.blake3 call.bytes) = false) ∧
    (∃ handle, input.stored = .ok handle) ∧ refused.save = none ∧ HasRoom tables

variable {userId : ℤ} {tools : Tools} {modelId : Option String} {call : UploadCall}
  {refused : Refusals} {input : Input} {tables tables' : UploadTables}

/-- Bytes that are no image are no conflict. -/
theorem supportedImage_ne_alreadyExists {bytes : Bytes} :
    supportedImage tools bytes ≠ .error alreadyExists := by
  intro h
  unfold supportedImage at h
  split at h
  · cases h
  · split_ifs at h <;> cases h

/-- **What the insert comes to.** -/
theorem insertAlone_cases (userId : ℤ) (tools : Tools) (call : UploadCall) (refused : Refusals)
    (input : Input) (tables : UploadTables) :
    (∃ tables' capture row media, insertAlone userId tools call refused input tables =
        (tables', .ok capture) ∧ Inserts userId tools call refused input tables ∧
        tables'.captures = tables.captures ++ [row] ∧ tables'.medias = tables.medias ++ [media]) ∨
      ∃ tables' e, insertAlone userId tools call refused input tables = (tables', .error e) ∧
        ¬ Inserts userId tools call refused input tables ∧
        tables'.captures = tables.captures ∧ tables'.medias = tables.medias ∧
        (e = alreadyExists → holds userId tables (tools.blake3 call.bytes) = true) := by
  -- one case for each point where the source can return, in its order
  unfold insertAlone
  cases himage : supportedImage tools call.bytes with
  | error e =>
    refine Or.inr ⟨tables, e, rfl, ?_, rfl, rfl, ?_⟩
    · rintro ⟨⟨mediaType, hmediaType⟩, -⟩
      cases himage.symm.trans hmediaType
    · rintro rfl
      exact absurd himage supportedImage_ne_alreadyExists
  | ok mediaType =>
    cases hlookup : (if call.dedupe then refused.lookup else none) with
    | some e =>
      refine Or.inr ⟨tables, _, rfl, ?_, rfl, rfl, fun h => by cases h⟩
      rintro ⟨-, hdedupe, -⟩
      split_ifs at hlookup with hd
      rw [(hdedupe hd).1] at hlookup
      cases hlookup
    | none =>
      dsimp only
      by_cases hheld : (call.dedupe && holds userId tables (tools.blake3 call.bytes)) = true
      · rw [if_pos hheld]
        rw [Bool.and_eq_true] at hheld
        refine Or.inr ⟨tables, _, rfl, ?_, rfl, rfl, fun _ => hheld.2⟩
        rintro ⟨-, hdedupe, -⟩
        rw [(hdedupe hheld.1).2] at hheld
        cases hheld.2
      · rw [if_neg hheld]
        cases hstored : input.stored with
        | error e =>
          refine Or.inr ⟨tables, _, rfl, ?_, rfl, rfl, fun h => by cases h⟩
          rintro ⟨-, -, ⟨handle, hhandle⟩, -⟩
          cases hstored.symm.trans hhandle
        | ok handle =>
          cases hsave : refused.save with
          | some e =>
            refine Or.inr ⟨tables, _, rfl, ?_, rfl, rfl, fun h => by cases h⟩
            rintro ⟨-, -, -, hnone, -⟩
            cases hsave.symm.trans hnone
          | none =>
            dsimp only
            unfold save
            cases hcapture : tables.captureSequence.nextval with
            | none =>
              refine Or.inr ⟨tables, _, rfl, ?_, rfl, rfl, fun h => by cases h⟩
              rintro ⟨-, -, -, -, hroom⟩
              exact hroom.1 hcapture
            | some captureSequence =>
              cases hmedia : tables.mediaSequence.nextval with
              | none =>
                refine Or.inr ⟨_, _, rfl, ?_, rfl, rfl, fun h => by cases h⟩
                rintro ⟨-, -, -, -, hroom⟩
                exact hroom.2 hmedia
              | some mediaSequence =>
                -- every statement succeeded
                refine Or.inl ⟨_, _, _, _, rfl, ⟨⟨mediaType, himage⟩, ?_, ⟨handle, hstored⟩, hsave,
                  ?_, ?_⟩, rfl, rfl⟩
                · intro hd
                  rw [if_pos hd] at hlookup
                  refine ⟨hlookup, ?_⟩
                  rw [hd, Bool.true_and, Bool.not_eq_true] at hheld
                  exact hheld
                · rw [hcapture]
                  exact Option.some_ne_none _
                · rw [hmedia]
                  exact Option.some_ne_none _

/-- A call that returns has added one capture. -/
theorem length_of_upload_ok {capture : CaptureModelEx}
    (h : (upload userId tools modelId call refused input tables).2 = .ok capture) :
    (upload userId tools modelId call refused input tables).1.captures.length =
      tables.captures.length + 1 := by
  unfold upload at h ⊢
  rcases insertAlone_cases userId tools call refused input tables with
    ⟨tables', _, row, media, heq, -, hcaptures, -⟩ | ⟨tables', e, heq, -⟩
  · rw [heq, show ((tables', _) : UploadTables × Answer).1 = tables' from rfl, hcaptures,
      List.length_append, List.length_singleton]
  · rw [heq] at h
    cases h

/-- The conflict is with a media that was there. -/
theorem holds_of_upload_alreadyExists
    (h : (upload userId tools modelId call refused input tables).2 = .error alreadyExists) :
    holds userId tables (tools.blake3 call.bytes) = true := by
  unfold upload at h
  rcases insertAlone_cases userId tools call refused input tables with
    ⟨tables', _, row, media, heq, -⟩ | ⟨tables', e, heq, -, -, -, hheld⟩
  · rw [heq] at h
    cases modelId <;> cases h
  · rw [heq] at h
    exact hheld (Except.error.inj h)

/-- Where the tables are as before, so is what a retry comes to. -/
theorem storesNothing_of_unchanged
    (h : ∀ e, (upload userId tools modelId call refused input tables).2 = .error e →
      (upload userId tools modelId call refused input tables).1.captures = tables.captures ∧
        (upload userId tools modelId call refused input tables).1.medias = tables.medias) :
    StoresNothing userId tools modelId call refused input tables := by
  refine ⟨h, fun e he modelId' refused' input' hretry => ?_, fun e he modelId' refused' input'
    capture hretry => ?_⟩
  · have hheld := holds_of_upload_alreadyExists hretry
    unfold holds at hheld ⊢
    rw [(h e he).2] at hheld
    exact hheld
  · rw [length_of_upload_ok hretry, (h e he).1]

/-- **A failed upload stores nothing** exactly where there is a default
illumination model, or the insert is not reached or fails. -/
theorem stores_nothing_iff (userId : ℤ) (tools : Tools) (modelId : Option String)
    (call : UploadCall) (refused : Refusals) (input : Input) (tables : UploadTables) :
    StoresNothing userId tools modelId call refused input tables ↔
      modelId.isSome ∨ ¬ Inserts userId tools call refused input tables := by
  rcases insertAlone_cases userId tools call refused input tables with
    ⟨tables', capture, row, media, heq, hinserts, hcaptures, -⟩ |
    ⟨tables', e, heq, hinserts, hcaptures, hmedias, -⟩
  · cases modelId with
    | none =>
      refine iff_of_false (fun hsafe => ?_) (by rintro (h | h); cases h; exact h hinserts)
      have hunchanged := (hsafe.unchanged (ApiError.internal
        "GEMINI_MODEL_ID required to enqueue illumination tasks") (by rw [upload, heq]; rfl)).1
      rw [show (upload userId tools none call refused input tables).1 = tables' by
        rw [upload, heq], hcaptures] at hunchanged
      have hlength := congrArg List.length hunchanged
      rw [List.length_append, List.length_singleton] at hlength
      omega
    | some model =>
      refine iff_of_true (storesNothing_of_unchanged fun e he => ?_) (Or.inl rfl)
      rw [upload, heq] at he
      cases he
  · refine iff_of_true (storesNothing_of_unchanged fun e' _ => ?_) (Or.inr hinserts)
    rw [show (upload userId tools modelId call refused input tables).1 = tables' by
      rw [upload, heq]]
    exact ⟨hcaptures, hmedias⟩

/-- **Without a model the call fails and the capture is there**: the retry
of an import is refused as a duplicate. -/
theorem failed_upload_stored :
    let call := UploadCall.importCapture pngBytes 5
    let first := upload 1 pngTools none call ⟨none, none⟩ (stored "a") noCaptures
    first.2 = .error (ApiError.internal
      "GEMINI_MODEL_ID required to enqueue illumination tasks") ∧
    first.1.captures.map CaptureModel.id = [1] ∧
    (upload 1 pngTools (some "gemini") call ⟨none, none⟩ (stored "b") first.1).2 =
      .error alreadyExists ∧
    ¬ StoresNothing 1 pngTools none call ⟨none, none⟩ (stored "a") noCaptures := by
  refine ⟨by decide, by decide, by decide, fun hsafe => ?_⟩
  have hunchanged := (hsafe.unchanged (ApiError.internal
    "GEMINI_MODEL_ID required to enqueue illumination tasks") (by decide)).1
  exact absurd hunchanged (by decide)

end Upload

end Dreamscroll
