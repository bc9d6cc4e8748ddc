import Dreamscroll.Api.ApiError
import Dreamscroll.Common.Fields
import Dreamscroll.Common.Whitespace
import Mathlib.Data.List.TakeWhile
/-!
# The outcome of an inference

What a provider's response came to: its metadata, which is billed whatever
came of the output, and the output or why there is none. A parser keeps the
two apart (`Separates`) where the usage is copied as it was reported, the
output is what is read from the selected text and nothing else, and the
fields the metadata takes out of the response do not count for it.
-/

namespace Dreamscroll

namespace Llms

/-- The usage of a call of a model, as far as its answer reports it. -/
structure InferenceMetadata where
  tokensIn : Option ℤ
  tokensInCached : Option ℤ
  tokensOut : Option ℤ
  /-- Provider-reported reasoning tokens. -/
  tokensThought : Option ℤ
  providerName : String
  backendName : String
  modelId : String
  durationMs : ℤ
  /-- Additional request configuration; never response data. -/
  params : List (String × Json)
  providerMetadata : List (String × Json)

/-- Why there is no output, with what its text is made of. -/
inductive OutputError
  /-- "Gemini Interactions API returned {status}: {response}" -/
  | interactionsStatus (status : ℕ) (response : Json)
  /-- "Failed to parse Gemini Interactions response" -/
  | interactionsShape
  /-- "Gemini Interactions response has no model-output step" -/
  | noModelOutput
  /-- "Gemini model-output step has no content array" -/
  | noContent
  /-- "Gemini model-output step contains no text (interaction status: {:?})" -/
  | noText (status : Option String)
  /-- "Gemini model output is not valid structured JSON" -/
  | notStructured (error : String)
  /-- "Gemini API error: {response}" -/
  | geminiStatus (response : Json)
  /-- "Gemini API returned an empty structured response" -/
  | geminiEmpty
  /-- "Failed to parse Gemini structured spark response: {error}. Content excerpt: {content}" -/
  | geminiSpark (error content : String)
  /-- "XAI API error: {response}" -/
  | grokStatus (response : Json)
  /-- "XAI API response did not contain valid output text. Excerpt: {response}" -/
  | grokNoText (response : Json)
  /-- "Failed to parse structured spark response: {error}. Excerpt: {content}" -/
  | grokSpark (error content : String)

/-- What a provider call came to, with the metadata of the call. -/
structure InferenceOutcome (α : Type) where
  output : Except OutputError α
  metadata : InferenceMetadata
  httpStatusCode : Option ℕ

/-- Where a provider reports its counts. -/
structure TokenCounts where
  input : Json → Option ℤ
  cached : Json → Option ℤ
  output : Json → Option ℤ
  thought : Json → Option ℤ

/-- The metadata with one more entry, where there is one. -/
def InferenceMetadata.withEntry (metadata : InferenceMetadata) (name : String)
    (entry : Option Json) : InferenceMetadata :=
  match entry with
  | some v => { metadata with providerMetadata := insertField name v metadata.providerMetadata }
  | none => metadata

/-- The metadata with the usage, where one was reported. -/
def InferenceMetadata.withUsage (metadata : InferenceMetadata) (counts : TokenCounts)
    (usage : Option Json) : InferenceMetadata :=
  match usage with
  | some v => { metadata with
      tokensIn := counts.input v
      tokensInCached := counts.cached v
      tokensOut := counts.output v
      tokensThought := counts.thought v
      providerMetadata := insertField "provider_usage" v metadata.providerMetadata }
  | none => metadata

/-! ## Usage and output -/

/-- The usage is there as it was reported, with the counts read from it. -/
structure Billed (counts : TokenCounts) (usage : Json) (metadata : InferenceMetadata) : Prop where
  reported : metadata.providerMetadata.lookup "provider_usage" = some usage
  tokensIn : metadata.tokensIn = counts.input usage
  tokensInCached : metadata.tokensInCached = counts.cached usage
  tokensOut : metadata.tokensOut = counts.output usage
  tokensThought : metadata.tokensThought = counts.thought usage

/-- Nothing but white space. -/
def IsBlank (text : String) : Prop := ∀ c ∈ text.toList, Content.isWhitespace c = true

/-- **Usage accounting and output extraction do not interfere**: where `usage` and
`id` are the fields that are taken for the metadata, `Selected` says which
text of the response holds the output and `read` reads it. -/
structure Separates {α : Type} (usage id : String) (counts : TokenCounts)
    (Selected : Json → String → Prop) (read : String → Except String α)
    (parse : Json → ℕ → InferenceOutcome α) : Prop where
  /-- A usage object is billed, whether or not there is an output. -/
  billed : ∀ (fields : List (String × Json)) (status : ℕ) (reported : List (String × Json)),
    (Json.obj fields).get usage = some (.obj reported) →
      Billed counts (.obj reported) (parse (.obj fields) status).metadata
  /-- An output is the value of the selected text. -/
  output : ∀ (fields : List (String × Json)) (status : ℕ) (a : α),
    (parse (.obj fields) status).output = .ok a →
      200 ≤ status ∧ status < 300 ∧
        ∃ text, Selected (.obj fields) text ∧ ¬ IsBlank text ∧ read text = .ok a
  /-- Neither field counts for the output. -/
  apart : ∀ (fields fields' : List (String × Json)) (status : ℕ),
    Json.SameBut [usage, id] (.obj fields) (.obj fields') →
      (parse (.obj fields) status).output.toOption = (parse (.obj fields') status).output.toOption

/-! ## Rules -/

variable {metadata : InferenceMetadata} {counts : TokenCounts} {usage : Json} {name : String}

theorem billed_withUsage : Billed counts usage (metadata.withUsage counts (some usage)) :=
  ⟨lookup_insertField_self, rfl, rfl, rfl, rfl⟩

/-- Another entry leaves the bill as it is. -/
theorem Billed.withEntry {entry : Option Json} (h : Billed counts usage metadata)
    (hname : name ≠ "provider_usage") : Billed counts usage (metadata.withEntry name entry) := by
  cases entry with
  | none => exact h
  | some v =>
    refine ⟨?_, h.tokensIn, h.tokensInCached, h.tokensOut, h.tokensThought⟩
    show (insertField name v metadata.providerMetadata).lookup "provider_usage" = some usage
    rw [lookup_insertField_of_ne hname.symm]
    exact h.reported

/-- Nothing is left of white space once it is trimmed. -/
theorem trim_of_isBlank {text : String} (h : IsBlank text) : Content.trim text = "" := by
  have hdrop : text.toList.dropWhile Content.isWhitespace = [] := List.dropWhile_eq_nil_iff.mpr h
  unfold Content.trim
  rw [hdrop]
  rfl

end Llms

end Dreamscroll
