import Dreamscroll.Llms.Inference
import Dreamscroll.Service.InsertSpark
/-!
# The response parsers

`inference_response` of the Gemini client, and `parse_gemini_response` and
`parse_grok_response` of the firestarters: the metadata is taken out of the
response first, what is left of it is read for the output.
`usage_apart_from_output` says that neither disturbs the other. The two
firestarters trim the text they selected, with more characters taken for
white space than JSON has.
-/

namespace Dreamscroll

namespace Llms

/-! ## Gemini Interactions -/

/-- Provider-specific response shape returned by the Gemini Interactions API. -/
structure GeminiInteractionResponse where
  status : Option String
  steps : List Json

/-- A list that may be left out, with `#[serde(default)]`. -/
def defaultList : Option Json → Option (List Json)
  | none => some []
  | some v => v.asArray

/-- `#[derive(Deserialize)]`. -/
def GeminiInteractionResponse.fromValue : Json → Option GeminiInteractionResponse
  | .obj fields => do
    let status ← optional Json.string (fields.lookup "status")
    let steps ← defaultList (fields.lookup "steps")
    some ⟨status, steps⟩
  | .arr [status] => do
    let status ← optional Json.string (some status)
    let steps ← defaultList none
    some ⟨status, steps⟩
  | .arr [status, steps] => do
    let status ← optional Json.string (some status)
    let steps ← defaultList (some steps)
    some ⟨status, steps⟩
  | _ => none

/-- The text of a part that is a text. -/
def textPart (part : Json) : Option String :=
  if part.hasType "text" then (part.get "text").bind Json.string else none

/-- **`output_text`**: text from the final model-output step, after any tool
steps. -/
def GeminiInteractionResponse.outputText (interaction : GeminiInteractionResponse) :
    Except OutputError String :=
  match interaction.steps.reverse.find? fun step => step.hasType "model_output" with
  | none => .error .noModelOutput
  | some step =>
    match (step.get "content").bind Json.asArray with
    | none => .error .noContent
    | some content =>
      let text := String.join (content.filterMap textPart)
      if Content.trim text = "" then .error (.noText interaction.status) else .ok text

/-- Where the Interactions API has its counts. -/
def interactionCounts : TokenCounts where
  input usage := (usage.get "total_input_tokens").bind Json.i64
  cached usage := (usage.get "total_cached_tokens").bind Json.i64
  output usage := (usage.get "total_output_tokens").bind Json.i64
  thought usage := (usage.get "total_thought_tokens").bind Json.i64

/-- The configuration of the request, less what it asks and of whom. -/
def interactionParams : Json → List (String × Json)
  | .obj params => removeField "response_mime_type" (removeField "response_format"
      (removeField "model" (removeField "input" params)))
  | _ => []

/-- The output that is read from what is left of the response. -/
def interactionOutput (fromStr : String → Except String Json) (response : Json) (status : ℕ) :
    Except OutputError Json :=
  if isSuccess status then
    match GeminiInteractionResponse.fromValue response with
    | none => .error .interactionsShape
    | some interaction =>
      match interaction.outputText with
      | .error error => .error error
      | .ok text =>
        match fromStr text with
        | .error error => .error (.notStructured error)
        | .ok v => .ok v
  else .error (.interactionsStatus status response)

/-- **`inference_response`.** -/
def inferenceResponse (fromStr : String → Except String Json) (backendName modelId : String)
    (durationMs : ℤ) (requestBody : Json) (response : Json) (status : ℕ) :
    InferenceOutcome Json :=
  let metadata : InferenceMetadata :=
    { tokensIn := none, tokensInCached := none, tokensOut := none, tokensThought := none,
      providerName := "gemini", backendName, modelId, durationMs,
      params := interactionParams requestBody, providerMetadata := [] }
  let id := (response.get "id").filter Json.isString
  let response := response.withNull "id"
  let metadata := metadata.withEntry "provider_request_id" id
  let metadata := metadata.withEntry "provider_created"
    ((response.get "created").filter fun v => !v.isNull)
  let metadata := metadata.withEntry "provider_updated"
    ((response.get "updated").filter fun v => !v.isNull)
  let usage := (response.get "usage").filter fun v => !v.isNull
  let response := response.withNull "usage"
  { output := interactionOutput fromStr response status
    metadata := metadata.withUsage interactionCounts usage
    httpStatusCode := some status }

/-! ## The Gemini firestarter -/

/-- Where Gemini has them. -/
def geminiCounts : TokenCounts where
  input usage := (usage.get "promptTokenCount").bind Json.i64
  cached usage := (usage.get "cachedContentTokenCount").bind Json.i64
  output usage := (usage.get "candidatesTokenCount").bind Json.i64
  thought usage := (usage.get "thoughtsTokenCount").bind Json.i64

/-- The first text part of the first candidate. -/
def geminiText (response : Json) : Option String :=
  ((((((response.get "candidates").bind Json.asArray).bind List.head?).bind
    fun candidate => candidate.get "content").bind fun content => content.get "parts").bind
      Json.asArray).bind fun parts => parts.findSome? fun part => (part.get "text").bind Json.string

/-- The spark Gemini's answer holds, as text that is JSON. -/
def geminiOutput (fromStr : String → Except String SparkResponse) (response : Json)
    (status : ℕ) : Except OutputError SparkResponse :=
  if isSuccess status then
    let content := Content.trim ((geminiText response).getD "")
    if content = "" then .error .geminiEmpty
    else match fromStr content with
      | .error error => .error (.geminiSpark error content)
      | .ok spark => .ok spark
  else .error (.geminiStatus response)

/-- The grounding of the candidates that have one. -/
def geminiGrounding (response : Json) : Option Json :=
  ((response.get "candidates").bind Json.asArray).bind fun candidates =>
    let grounding := (candidates.filterMap fun candidate =>
      candidate.get "groundingMetadata").filter fun v => !v.isNull
    if grounding.isEmpty then none else some (.arr grounding)

/-- **`parse_gemini_response`.** -/
def parseGeminiResponse (fromStr : String → Except String SparkResponse) (modelId : String)
    (durationMs : ℤ) (params : List (String × Json)) (response : Json) (status : ℕ) :
    InferenceOutcome SparkResponse :=
  let metadata : InferenceMetadata :=
    { tokensIn := none, tokensInCached := none, tokensOut := none, tokensThought := none,
      providerName := "gemini", backendName := "developer_api", modelId, durationMs,
      params, providerMetadata := [] }
  let usage := (response.get "usageMetadata").filter Json.isObject
  let response := response.withNull "usageMetadata"
  let metadata := metadata.withUsage geminiCounts usage
  let metadata := metadata.withEntry "provider_request_id"
    ((response.get "responseId").filter Json.isString)
  { output := geminiOutput fromStr response status
    metadata := metadata.withEntry "provider_grounding" (geminiGrounding response)
    httpStatusCode := some status }

/-! ## The Grok firestarter -/

/-- And where Grok has them. -/
def grokCounts : TokenCounts where
  input usage := (usage.get "input_tokens").bind Json.i64
  cached usage := ((usage.get "input_tokens_details").bind fun details =>
    details.get "cached_tokens").bind Json.i64
  output usage := (usage.get "output_tokens").bind Json.i64
  thought usage := ((usage.get "output_tokens_details").bind fun details =>
    details.get "reasoning_tokens").bind Json.i64

/-- The content of an item that is a message. -/
def messageContent (item : Json) : Option (List Json) :=
  if item.hasType "message" then (item.get "content").bind Json.asArray else none

/-- **`find_grok_output_text_part`.** -/
def findGrokOutputTextPart (response : Json) : Option Json :=
  ((response.get "output").bind Json.asArray).bind fun output =>
    output.findSome? fun item => (messageContent item).bind fun content =>
      content.find? fun part => part.hasType "output_text"

/-- The spark Grok's answer holds. -/
def grokOutput (fromStr : String → Except String SparkResponse) (response : Json)
    (status : ℕ) : Except OutputError SparkResponse :=
  if isSuccess status then
    let text := (((findGrokOutputTextPart response).bind fun part => part.get "text").bind
      Json.string).map Content.trim
    match text.filter fun text => text ≠ "" with
    | none => .error (.grokNoText response)
    | some text =>
      match fromStr text with
      | .error error => .error (.grokSpark error text)
      | .ok spark => .ok spark
  else .error (.grokStatus response)

/-- The annotations of every output text. -/
def grokAnnotations (output : List Json) : List Json :=
  (((output.filterMap messageContent).flatten.filter fun part =>
    part.hasType "output_text").filterMap fun part =>
      (part.get "annotations").bind Json.asArray).flatten

/-- What Grok cites, where it cites anything. -/
def grokGrounding (response : Json) : Option Json :=
  let citations := ((response.get "citations").filter fun v => !v.isNull).map fun v =>
    ("citations", v)
  let annotations := ((response.get "output").bind Json.asArray).bind fun output =>
    if (grokAnnotations output).isEmpty then none
    else some ("annotations", Json.arr (grokAnnotations output))
  let grounding := citations.toList ++ annotations.toList
  if grounding.isEmpty then none else some (.obj grounding)

/-- **`parse_grok_response`.** -/
def parseGrokResponse (fromStr : String → Except String SparkResponse) (modelId : String)
    (durationMs : ℤ) (params : List (String × Json)) (response : Json) (status : ℕ) :
    InferenceOutcome SparkResponse :=
  let metadata : InferenceMetadata :=
    { tokensIn := none, tokensInCached := none, tokensOut := none, tokensThought := none,
      providerName := "xai", backendName := "responses", modelId, durationMs,
      params, providerMetadata := [] }
  let usage := (response.get "usage").filter Json.isObject
  let response := response.withNull "usage"
  let metadata := metadata.withUsage grokCounts usage
  let metadata := metadata.withEntry "provider_request_id"
    ((response.get "id").filter Json.isString)
  { output := grokOutput fromStr response status
    metadata := metadata.withEntry "provider_grounding" (grokGrounding response)
    httpStatusCode := some status }

/-! ## The selected texts -/

/-- The texts of these parts that are texts, one after the other. -/
def partTexts (content : List Json) : String :=
  String.join (content.filterMap fun part =>
    match part.get "type", part.get "text" with
    | some (.str "text"), some (.str text) => some text
    | _, _ => none)

/-- The concatenated text parts of the last model-output step. -/
def ModelOutput (response : Json) (text : String) : Prop :=
  ∃ before step after content, response.get "steps" = some (.arr (before ++ step :: after)) ∧
    step.get "type" = some (.str "model_output") ∧
    (∀ later ∈ after, later.get "type" ≠ some (.str "model_output")) ∧
    step.get "content" = some (.arr content) ∧ text = partTexts content

/-- The first text part of the first candidate. -/
def FirstTextPart (response : Json) (text : String) : Prop :=
  ∃ candidate others content before part after,
    response.get "candidates" = some (.arr (candidate :: others)) ∧
    candidate.get "content" = some content ∧
    content.get "parts" = some (.arr (before ++ part :: after)) ∧
    part.get "text" = some (.str text) ∧
    ∀ earlier ∈ before, ∀ other, earlier.get "text" ≠ some (.str other)

/-- An output text of a message. -/
def IsOutputText (item part : Json) : Prop :=
  item.get "type" = some (.str "message") ∧ part.get "type" = some (.str "output_text") ∧
    ∃ content, item.get "content" = some (.arr content) ∧ part ∈ content

/-- The first output-text part of the first message that has one. -/
def FirstOutputText (response : Json) (text : String) : Prop :=
  ∃ before item after content earlier part later,
    response.get "output" = some (.arr (before ++ item :: after)) ∧
    (∀ item' ∈ before, ∀ part', ¬ IsOutputText item' part') ∧
    item.get "type" = some (.str "message") ∧
    item.get "content" = some (.arr content) ∧ content = earlier ++ part :: later ∧
    part.get "type" = some (.str "output_text") ∧
    (∀ part' ∈ earlier, part'.get "type" ≠ some (.str "output_text")) ∧
    part.get "text" = some (.str text)

/-! ## Rules -/

variable {response response' : Json} {status : ℕ} {text : String}

/-- What the `type` check of the parsers asks for. -/
theorem hasType_iff {name : String} {v : Json} :
    v.hasType name = true ↔ v.get "type" = some (.str name) := by
  unfold Json.hasType
  rw [decide_eq_true_eq, Option.bind_eq_some_iff]
  simp only [string_eq_some]
  exact exists_eq_right

/-- What the `type` check of the parsers rejects. -/
theorem not_hasType_iff {name : String} {v : Json} :
    v.hasType name = false ↔ v.get "type" ≠ some (.str name) := by
  rw [← Bool.not_eq_true, hasType_iff]

/-- A value read as an array is one. -/
theorem asArray_eq_some {v : Json} {items : List Json} :
    v.asArray = some items ↔ v = .arr items := by
  cases v <;> simp [Json.asArray]

/-- An optional value read as an array is there, and is one. -/
theorem bind_asArray {v : Option Json} {items : List Json} :
    v.bind Json.asArray = some items ↔ v = some (.arr items) := by
  rw [Option.bind_eq_some_iff]
  simp only [asArray_eq_some]
  exact exists_eq_right

/-- An optional value read as a string is there, and is one. -/
theorem bind_string {v : Option Json} : v.bind Json.string = some text ↔ v = some (.str text) := by
  rw [Option.bind_eq_some_iff]
  simp only [string_eq_some]
  exact exists_eq_right

/-- The statuses a parser accepts. -/
theorem isSuccess_iff : isSuccess status = true ↔ 200 ≤ status ∧ status < 300 := by
  unfold isSuccess
  rw [Bool.and_eq_true, decide_eq_true_eq, decide_eq_true_eq]

/-! ## The client keeps them apart -/

/-- The texts of the parts, joined in their order. -/
theorem join_textPart (content : List Json) :
    String.join (content.filterMap textPart) = partTexts content := by
  unfold partTexts
  congr 2
  funext part
  unfold textPart
  by_cases htype : part.hasType "text" = true
  · rw [if_pos htype, hasType_iff.mp htype]
    rcases part.get "text" with _ | v
    · rfl
    · cases v <;> rfl
  · rw [if_neg htype]
    rw [hasType_iff] at htype
    split
    · rename_i heq _
      exact absurd heq htype
    · rfl

/-- The text is that of the last step with an output. -/
theorem modelOutput_of_outputText {fields : List (String × Json)}
    {interaction : GeminiInteractionResponse}
    (hvalue : GeminiInteractionResponse.fromValue (.obj fields) = some interaction)
    (h : interaction.outputText = .ok text) :
    ModelOutput (.obj fields) text ∧ ¬ IsBlank text := by
  have hsteps : interaction.steps = [] ∨
      fields.lookup "steps" = some (.arr interaction.steps) := by
    unfold GeminiInteractionResponse.fromValue at hvalue
    simp only [Option.bind_eq_bind, Option.bind_eq_some_iff, Option.some.injEq] at hvalue
    obtain ⟨_, _, steps, hread, rfl⟩ := hvalue
    rcases hlookup : fields.lookup "steps" with _ | v
    · rw [hlookup] at hread
      exact .inl (Option.some.inj hread).symm
    · rw [hlookup] at hread
      exact .inr (congrArg some (asArray_eq_some.mp hread))
  unfold GeminiInteractionResponse.outputText at h
  split at h
  · cases h
  · rename_i step hfind
    obtain ⟨htype, after, before, hsplit, hafter⟩ := List.find?_eq_some_iff_append.mp hfind
    split at h
    · cases h
    · rename_i content hcontent
      dsimp only at h
      split_ifs at h with hblank
      obtain rfl := Except.ok.inj h
      have hlist : interaction.steps = before.reverse ++ step :: after.reverse := by
        rw [← List.reverse_reverse interaction.steps, hsplit]
        simp
      refine ⟨⟨before.reverse, step, after.reverse, content, ?_, hasType_iff.mp htype, ?_,
        bind_asArray.mp hcontent, join_textPart content⟩, fun hwhite => ?_⟩
      · rcases hsteps with hnil | hsome
        · rw [hnil] at hfind
          cases hfind
        · rw [← hlist]
          exact hsome
      · intro later hlater
        have hnot := hafter later (List.mem_reverse.mp hlater)
        rw [Bool.not_eq_true'] at hnot
        exact not_hasType_iff.mp hnot
      · exact hblank (trim_of_isBlank hwhite)

/-- An interaction that yields a value had a success status, a model output
that is not blank, and the value is read from that output. -/
theorem interactionOutput_eq_ok {fromStr : String → Except String Json}
    {fields : List (String × Json)} {v : Json}
    (h : interactionOutput fromStr (.obj fields) status = .ok v) :
    200 ≤ status ∧ status < 300 ∧
      ∃ text, ModelOutput (.obj fields) text ∧ ¬ IsBlank text ∧ fromStr text = .ok v := by
  unfold interactionOutput at h
  split_ifs at h with hstatus
  obtain ⟨hlo, hhi⟩ := isSuccess_iff.mp hstatus
  refine ⟨hlo, hhi, ?_⟩
  split at h
  · cases h
  · rename_i interaction hvalue
    split at h
    · cases h
    · rename_i text htext
      obtain ⟨hselected, hblank⟩ := modelOutput_of_outputText hvalue htext
      refine ⟨text, hselected, hblank, ?_⟩
      split at h
      · cases h
      · rename_i read hread
        rw [hread, Except.ok.inj h]

/-- Only two fields of the response are read for the output. -/
theorem toOption_interactionOutput {fromStr : String → Except String Json}
    {fields fields' : List (String × Json)}
    (hstatus : fields.lookup "status" = fields'.lookup "status")
    (hsteps : fields.lookup "steps" = fields'.lookup "steps") :
    (interactionOutput fromStr (.obj fields) status).toOption =
      (interactionOutput fromStr (.obj fields') status).toOption := by
  have hvalue : GeminiInteractionResponse.fromValue (.obj fields) =
      GeminiInteractionResponse.fromValue (.obj fields') := by
    unfold GeminiInteractionResponse.fromValue
    dsimp only
    rw [hstatus, hsteps]
  unfold interactionOutput
  rw [hvalue]
  split_ifs
  · rfl
  · rfl

/-- The model output depends on the steps of the response alone. -/
theorem modelOutput_congr (h : response.get "steps" = response'.get "steps")
    (hselected : ModelOutput response text) : ModelOutput response' text := by
  obtain ⟨before, step, after, content, hsteps, hrest⟩ := hselected
  exact ⟨before, step, after, content, h ▸ hsteps, hrest⟩

/-- What is left once `id` and then `usage` are taken. -/
theorem sameBut_taken (usage id : String) (response : Json) :
    Json.SameBut [usage, id] ((response.withNull id).withNull usage) response :=
  Json.SameBut.trans (Json.sameBut_withNull List.mem_cons_self)
    (Json.sameBut_withNull (List.mem_cons_of_mem _ List.mem_cons_self))

/-- The parser of the Interactions API reads its value from the model output
and its counts from `usage`, each without regard to the other. -/
theorem inferenceResponse_separates (fromStr : String → Except String Json)
    (backendName modelId : String) (durationMs : ℤ) (requestBody : Json) :
    Separates "usage" "id" interactionCounts ModelOutput fromStr
      (inferenceResponse fromStr backendName modelId durationMs requestBody) := by
  refine ⟨?_, ?_, ?_⟩
  · intro fields status reported husage
    have htaken : ((Json.obj fields).withNull "id").get "usage" = some (.obj reported) := by
      rw [Json.get_withNull_of_ne (by decide), husage]
    unfold inferenceResponse
    dsimp only
    rw [htaken]
    exact billed_withUsage
  · intro fields status v h
    obtain ⟨hlo, hhi, text, hselected, hblank, hread⟩ := interactionOutput_eq_ok h
    refine ⟨hlo, hhi, text, ?_, hblank, hread⟩
    exact modelOutput_congr (sameBut_taken "usage" "id" (.obj fields) "steps" (by decide)) hselected
  · intro fields fields' status hsame
    have htaken := ((sameBut_taken "usage" "id" (.obj fields)).trans hsame).trans
      (sameBut_taken "usage" "id" (.obj fields')).symm
    exact toOption_interactionOutput (htaken "status" (by decide)) (htaken "steps" (by decide))

/-! ## So does the Gemini firestarter -/

/-- The text Gemini's parser selects is the first text part of the first
candidate. -/
theorem geminiText_iff : geminiText response = some text ↔ FirstTextPart response text := by
  unfold geminiText
  constructor
  · intro h
    obtain ⟨parts, hparts, htext⟩ := Option.bind_eq_some_iff.mp h
    obtain ⟨content, hcontent, hparts⟩ := Option.bind_eq_some_iff.mp (bind_asArray.mp hparts)
    obtain ⟨candidate, hcandidate, hcontent⟩ := Option.bind_eq_some_iff.mp hcontent
    obtain ⟨candidates, hcandidates, hhead⟩ := Option.bind_eq_some_iff.mp hcandidate
    obtain ⟨others, rfl⟩ := List.head?_eq_some_iff.mp hhead
    obtain ⟨before, part, after, rfl, hpart, hbefore⟩ := List.findSome?_eq_some_iff.mp htext
    refine ⟨candidate, others, content, before, part, after, bind_asArray.mp hcandidates,
      hcontent, hparts, bind_string.mp hpart, ?_⟩
    intro earlier hearlier other hother
    have hnone := hbefore earlier hearlier
    rw [bind_string.mpr hother] at hnone
    exact absurd hnone (Option.some_ne_none other)
  · rintro ⟨candidate, others, content, before, part, after, hcandidates, hcontent, hparts, hpart,
      hbefore⟩
    rw [bind_asArray.mpr hcandidates, Option.bind_some, List.head?_cons, Option.bind_some,
      hcontent, Option.bind_some, bind_asArray.mpr hparts, Option.bind_some,
      List.findSome?_eq_some_iff]
    refine ⟨before, part, after, rfl, bind_string.mpr hpart, fun earlier hearlier => ?_⟩
    rw [Option.eq_none_iff_forall_ne_some]
    intro other hother
    exact hbefore earlier hearlier other (bind_string.mp hother)

/-- The text depends on the candidates alone. -/
theorem geminiText_congr (h : response.get "candidates" = response'.get "candidates") :
    geminiText response = geminiText response' := by
  unfold geminiText
  rw [h]

/-- A Gemini response that yields a spark had a success status and a text that
is not blank; the spark is read from the trimmed text. -/
theorem geminiOutput_eq_ok {fromStr : String → Except String SparkResponse} {spark : SparkResponse}
    (h : geminiOutput fromStr response status = .ok spark) :
    200 ≤ status ∧ status < 300 ∧ ∃ text, FirstTextPart response text ∧ ¬ IsBlank text ∧
      fromStr (Content.trim text) = .ok spark := by
  unfold geminiOutput at h
  split_ifs at h with hstatus
  obtain ⟨hlo, hhi⟩ := isSuccess_iff.mp hstatus
  refine ⟨hlo, hhi, ?_⟩
  dsimp only at h
  split_ifs at h with hempty
  have htext : ∃ text, geminiText response = some text := by
    rcases hnone : geminiText response with _ | text
    · rw [hnone] at hempty
      exact absurd (trim_of_isBlank fun c hc => absurd hc List.not_mem_nil) hempty
    · exact ⟨text, rfl⟩
  obtain ⟨text, htext⟩ := htext
  rw [htext, Option.getD_some] at hempty h
  refine ⟨text, geminiText_iff.mp htext, fun hblank => hempty (trim_of_isBlank hblank), ?_⟩
  split at h
  · cases h
  · rename_i read hread
    rw [hread, Except.ok.inj h]

/-- Whether Gemini's response yields a spark, and which, depends on the
candidates alone. -/
theorem toOption_geminiOutput {fromStr : String → Except String SparkResponse}
    (h : response.get "candidates" = response'.get "candidates") :
    (geminiOutput fromStr response status).toOption =
      (geminiOutput fromStr response' status).toOption := by
  unfold geminiOutput
  rw [geminiText_congr h]
  split_ifs
  · rfl
  · rfl

/-- Gemini's parser keeps the output apart from `usageMetadata` and the
response id. -/
theorem parseGeminiResponse_separates (fromStr : String → Except String SparkResponse)
    (modelId : String) (durationMs : ℤ) (params : List (String × Json)) :
    Separates "usageMetadata" "responseId" geminiCounts FirstTextPart
      (fun text => fromStr (Content.trim text))
      (parseGeminiResponse fromStr modelId durationMs params) := by
  have hkept : ∀ fields, ((Json.obj fields).withNull "usageMetadata").get "candidates" =
      (Json.obj fields).get "candidates" :=
    fun fields => Json.get_withNull_of_ne (by decide)
  refine ⟨?_, ?_, ?_⟩
  · intro fields status reported husage
    unfold parseGeminiResponse
    dsimp only
    rw [husage]
    exact (billed_withUsage.withEntry (by decide)).withEntry (by decide)
  · intro fields status spark h
    obtain ⟨hlo, hhi, text, hselected, hblank, hread⟩ := geminiOutput_eq_ok h
    refine ⟨hlo, hhi, text, ?_, hblank, hread⟩
    rw [← geminiText_iff] at hselected ⊢
    rw [← hselected, geminiText_congr (hkept fields)]
  · intro fields fields' status hsame
    refine toOption_geminiOutput ?_
    rw [hkept, hkept]
    exact hsame "candidates" (by decide)

/-! ## And the Grok firestarter -/

/-- The part that is found, and the message it is in. -/
theorem findGrokOutputTextPart_iff {part : Json} :
    findGrokOutputTextPart response = some part ↔
      ∃ before item after content, response.get "output" = some (.arr (before ++ item :: after)) ∧
        messageContent item = some content ∧
        content.find? (fun part => part.hasType "output_text") = some part ∧
        ∀ item' ∈ before, ((messageContent item').bind fun content =>
          content.find? fun part => part.hasType "output_text") = none := by
  unfold findGrokOutputTextPart
  constructor
  · intro h
    obtain ⟨output, houtput, hfind⟩ := Option.bind_eq_some_iff.mp h
    obtain ⟨before, item, after, rfl, hitem, hbefore⟩ := List.findSome?_eq_some_iff.mp hfind
    obtain ⟨content, hcontent, hpart⟩ := Option.bind_eq_some_iff.mp hitem
    exact ⟨before, item, after, content, bind_asArray.mp houtput, hcontent, hpart, hbefore⟩
  · rintro ⟨before, item, after, content, houtput, hcontent, hpart, hbefore⟩
    rw [bind_asArray.mpr houtput, Option.bind_some, List.findSome?_eq_some_iff]
    refine ⟨before, item, after, rfl, ?_, hbefore⟩
    rw [hcontent, Option.bind_some, hpart]

/-- An output item with content is a message. -/
theorem messageContent_eq_some {item : Json} {content : List Json} :
    messageContent item = some content ↔
      item.get "type" = some (.str "message") ∧ item.get "content" = some (.arr content) := by
  unfold messageContent
  rw [Option.ite_none_right_eq_some, hasType_iff, bind_asArray]

/-- The part that the search finds holds the first output text. -/
theorem firstOutputText_of_found {part : Json} (h : findGrokOutputTextPart response = some part)
    (htext : part.get "text" = some (.str text)) : FirstOutputText response text := by
  obtain ⟨before, item, after, content, houtput, hcontent, hpart, hbefore⟩ :=
    findGrokOutputTextPart_iff.mp h
  obtain ⟨htype, hitem⟩ := messageContent_eq_some.mp hcontent
  obtain ⟨hpartType, earlier, later, hsplit, hearlier⟩ := List.find?_eq_some_iff_append.mp hpart
  refine ⟨before, item, after, content, earlier, part, later, houtput, ?_, htype, hitem, hsplit,
    hasType_iff.mp hpartType, ?_, htext⟩
  · rintro item' hitem' part' ⟨htype', hpart', content', hcontent', hmem⟩
    have hnone := hbefore item' hitem'
    rw [messageContent_eq_some.mpr ⟨htype', hcontent'⟩, Option.bind_some,
      List.find?_eq_none] at hnone
    exact hnone part' hmem (hasType_iff.mpr hpart')
  · intro part' hpart'
    have hnot := hearlier part' hpart'
    rw [Bool.not_eq_true'] at hnot
    exact not_hasType_iff.mp hnot

/-- The part depends on the output alone. -/
theorem findGrokOutputTextPart_congr (h : response.get "output" = response'.get "output") :
    findGrokOutputTextPart response = findGrokOutputTextPart response' := by
  unfold findGrokOutputTextPart
  rw [h]

/-- A Grok response that yields a spark had a success status and a first
output text that is not blank. -/
theorem grokOutput_eq_ok {fromStr : String → Except String SparkResponse} {spark : SparkResponse}
    (h : grokOutput fromStr response status = .ok spark) :
    200 ≤ status ∧ status < 300 ∧ ∃ text, FirstOutputText response text ∧ ¬ IsBlank text ∧
      fromStr (Content.trim text) = .ok spark := by
  unfold grokOutput at h
  split_ifs at h with hstatus
  obtain ⟨hlo, hhi⟩ := isSuccess_iff.mp hstatus
  refine ⟨hlo, hhi, ?_⟩
  dsimp only at h
  split at h
  · cases h
  · rename_i trimmed htrimmed
    rw [Option.filter_eq_some_iff, Option.map_eq_some_iff] at htrimmed
    obtain ⟨⟨text, htext, rfl⟩, hne⟩ := htrimmed
    obtain ⟨part, hpart, hget⟩ := Option.bind_eq_some_iff.mp (bind_string.mp htext)
    refine ⟨text, firstOutputText_of_found hpart hget, fun hblank => ?_, ?_⟩
    · rw [decide_eq_true_eq] at hne
      exact hne (trim_of_isBlank hblank)
    · split at h
      · cases h
      · rename_i read hread
        rw [hread, Except.ok.inj h]

/-- Whether Grok's response yields a spark, and which, depends on the output
alone. -/
theorem toOption_grokOutput {fromStr : String → Except String SparkResponse}
    (h : response.get "output" = response'.get "output") :
    (grokOutput fromStr response status).toOption =
      (grokOutput fromStr response' status).toOption := by
  unfold grokOutput
  rw [findGrokOutputTextPart_congr h]
  split_ifs
  · dsimp only
    split
    · rfl
    · rfl
  · rfl

/-- The first output text depends on the output alone. -/
theorem firstOutputText_congr (h : response.get "output" = response'.get "output")
    (hselected : FirstOutputText response text) : FirstOutputText response' text := by
  obtain ⟨before, item, after, content, earlier, part, later, houtput, hrest⟩ := hselected
  exact ⟨before, item, after, content, earlier, part, later, h ▸ houtput, hrest⟩

/-- Grok's parser keeps the output apart from `usage` and the response id. -/
theorem parseGrokResponse_separates (fromStr : String → Except String SparkResponse)
    (modelId : String) (durationMs : ℤ) (params : List (String × Json)) :
    Separates "usage" "id" grokCounts FirstOutputText
      (fun text => fromStr (Content.trim text))
      (parseGrokResponse fromStr modelId durationMs params) := by
  have hkept : ∀ fields, ((Json.obj fields).withNull "usage").get "output" =
      (Json.obj fields).get "output" :=
    fun fields => Json.get_withNull_of_ne (by decide)
  refine ⟨?_, ?_, ?_⟩
  · intro fields status reported husage
    unfold parseGrokResponse
    dsimp only
    rw [husage]
    exact (billed_withUsage.withEntry (by decide)).withEntry (by decide)
  · intro fields status spark h
    obtain ⟨hlo, hhi, text, hselected, hblank, hread⟩ := grokOutput_eq_ok h
    exact ⟨hlo, hhi, text, firstOutputText_congr (hkept fields) hselected, hblank, hread⟩
  · intro fields fields' status hsame
    refine toOption_grokOutput ?_
    rw [hkept, hkept]
    exact hsame "output" (by decide)

/-! ## All three -/

/-- **Usage accounting and output extraction do not interfere**, in any of
the three parsers: whatever the response, the usage is billed as it was
reported, the output is the value of the selected text, which the
firestarters trim, and the fields taken for the metadata do not count for
it. -/
theorem usage_apart_from_output (readValue : String → Except String Json)
    (readSpark : String → Except String SparkResponse) (backendName modelId : String)
    (durationMs : ℤ) (requestBody : Json) (params : List (String × Json)) :
    Separates "usage" "id" interactionCounts ModelOutput readValue
      (inferenceResponse readValue backendName modelId durationMs requestBody) ∧
    Separates "usageMetadata" "responseId" geminiCounts FirstTextPart
      (fun text => readSpark (Content.trim text))
      (parseGeminiResponse readSpark modelId durationMs params) ∧
    Separates "usage" "id" grokCounts FirstOutputText
      (fun text => readSpark (Content.trim text))
      (parseGrokResponse readSpark modelId durationMs params) :=
  ⟨inferenceResponse_separates readValue backendName modelId durationMs requestBody,
    parseGeminiResponse_separates readSpark modelId durationMs params,
    parseGrokResponse_separates readSpark modelId durationMs params⟩

/-- A response without clusters, and nothing else. -/
def noClusters : String := "\x7b\"clusters\":[]\x7d"

/-- A reader of JSON, on texts that are this one or none. -/
def readNoClusters (text : String) : Except String SparkResponse :=
  if text = noClusters then .ok ⟨[]⟩ else .error "expected value at line 1 column 1"

/-- It is answered after a no-break space, which JSON does not allow there. -/
def spacedFields : List (String × Json) :=
  [("candidates", .arr [.obj [("content", .obj [("parts", .arr [.obj
    [("text", .str ("\u00a0" ++ noClusters))]])])]])]

/-- **An output of a text that is not JSON**: the no-break space is trimmed
before the text is read. -/
theorem output_of_spaced :
    ¬ Separates "usageMetadata" "responseId" geminiCounts FirstTextPart readNoClusters
      (parseGeminiResponse readNoClusters "gemini-3-flash-preview" 0 []) := by
  intro h
  have htrim : Content.trim ("\u00a0" ++ noClusters) = noClusters := by decide +kernel
  have hspaced : readNoClusters ("\u00a0" ++ noClusters) =
      .error "expected value at line 1 column 1" := if_neg (by decide +kernel)
  have hok : (parseGeminiResponse readNoClusters "gemini-3-flash-preview" 0 []
      (.obj spacedFields) 200).output = .ok ⟨[]⟩ := by
    show geminiOutput readNoClusters ((Json.obj spacedFields).withNull "usageMetadata") 200 = _
    unfold geminiOutput
    have htext : geminiText ((Json.obj spacedFields).withNull "usageMetadata") =
        some ("\u00a0" ++ noClusters) := rfl
    rw [htext, Option.getD_some, htrim]
    rfl
  obtain ⟨-, -, text, hselected, -, hread⟩ := h.output spacedFields 200 ⟨[]⟩ hok
  have htext : geminiText (.obj spacedFields) = some ("\u00a0" ++ noClusters) := rfl
  rw [← geminiText_iff, htext] at hselected
  rw [← Option.some.inj hselected, hspaced] at hread
  cases hread

end Llms

end Dreamscroll
