import Dreamscroll.Common.JsonSchema
import Dreamscroll.Illumination.V1
import Dreamscroll.Illumination.V2
import Dreamscroll.Logic.Payload
/-!
# Illuminations from raw JSON

What the model is asked to answer, and what `from_raw_json` reads of the
answer, for both versions of the prompt. The schema each sends asks for
nothing that would not be read (`schema_accepted`); what a version has read
it renders.
-/

namespace Dreamscroll

/-- `KnowledgeEntityType::iter`. -/
def KnowledgeEntityType.all : List KnowledgeEntityType :=
  [realPerson, religiousFigure, place, event, book, publication, movie, televisionShow, artWork,
    fictionalCharacter, music, meme, software, product, financial, brand, organization,
    onlineCommunity, socialMediaAccount, unknown]

/-- `Platform::iter`. -/
def V2.Platform.all : List V2.Platform :=
  [xTwitter, youtube, instagram, tiktok, facebook, linkedin, threads, bluesky, mastodon, reddit,
    other]

/-! ## Reading -/

/-- A unit variant of an enumeration, by the name each is displayed as. -/
def variant {α : Type} (all : List α) (display : α → String) (v : Json) : Option α :=
  all.find? fun a => (v.unitVariant (display a)).isSome

namespace V1

/-- The keys of an entity of version 1, in the order of its fields. -/
def Entity.names : List String := ["name", "description", "type"]

/-- The derived `Deserialize` of an entity of version 1: every key is
required. -/
def Entity.fromJson (v : Json) : Option Entity :=
  match v.structFields Entity.names with
  | some [name, description, entityType] => do
    let name ← required Json.string name
    let description ← required Json.string description
    let entityType ← required (variant EntityType.all EntityType.toString) entityType
    some ⟨name, description, entityType⟩
  | _ => none

/-- The keys of an account. -/
def SocialMediaAccount.names : List String := ["display_name", "handle", "platform"]

/-- The derived `Deserialize` of an account. -/
def SocialMediaAccount.fromJson (v : Json) : Option SocialMediaAccount :=
  match v.structFields SocialMediaAccount.names with
  | some [displayName, handle, platform] => do
    let displayName ← required Json.string displayName
    let handle ← required Json.string handle
    let platform ← required (variant SocialMediaPlatform.all SocialMediaPlatform.toString) platform
    some ⟨displayName, handle, platform⟩
  | _ => none

/-- The keys of the answer of version 1. -/
def Illumination.names : List String :=
  ["summary", "details", "suggested_searches", "entities", "social_media_accounts"]

/-- `from_raw_json`, less the content it keeps. -/
def Illumination.fromRawJson (content : Json) : Option Illumination :=
  match content.structFields Illumination.names with
  | some [summary, details, suggestedSearches, entities, socialMediaAccounts] => do
    let summary ← required Json.string summary
    let details ← required Json.string details
    let suggestedSearches ← required (Json.vec Json.string) suggestedSearches
    let entities ← required (Json.vec Entity.fromJson) entities
    let socialMediaAccounts ← required (Json.vec SocialMediaAccount.fromJson) socialMediaAccounts
    some ⟨summary, details, suggestedSearches, entities, socialMediaAccounts⟩
  | _ => none

end V1

namespace V2

/-- The keys of a link of version 2. -/
def PlatformLink.names : List String := ["platform", "display_name", "handle"]

/-- The URL is not read. -/
def PlatformLink.fromJson (v : Json) : Option PlatformLink :=
  match v.structFields PlatformLink.names with
  | some [platform, displayName, handle] => do
    let platform ← required (variant Platform.all Platform.toString) platform
    let displayName ← Dreamscroll.optional Json.string displayName
    let handle ← Dreamscroll.optional Json.string handle
    some ⟨platform, displayName, handle, none⟩
  | _ => none

/-- The keys of an entity of version 2. -/
def Entity.names : List String := ["name", "search_query", "description", "type", "platform_link"]

/-- The derived `Deserialize` of an entity of version 2. -/
def Entity.fromJson (v : Json) : Option Entity :=
  match v.structFields Entity.names with
  | some [name, searchQuery, description, entityType, platformLink] => do
    let name ← required Json.string name
    let searchQuery ← Dreamscroll.optional Json.string searchQuery
    let description ← Dreamscroll.optional Json.string description
    let entityType ←
      required (variant KnowledgeEntityType.all KnowledgeEntityType.toString) entityType
    let platformLink ← Dreamscroll.optional PlatformLink.fromJson platformLink
    some ⟨name, searchQuery, description, entityType, platformLink⟩
  | _ => none

/-- The keys of the answer of version 2. -/
def Illumination.names : List String := ["summary", "details", "suggested_searches", "entities"]

/-- `from_raw_json`, less the content it keeps. -/
def Illumination.fromRawJson (content : Json) : Option Illumination :=
  match content.structFields Illumination.names with
  | some [summary, details, suggestedSearches, entities] => do
    let summary ← required Json.string summary
    let details ← required Json.string details
    let suggestedSearches ← required (Json.vec Json.string) suggestedSearches
    let entities ← required (Json.vec Entity.fromJson) entities
    some ⟨summary, details, suggestedSearches, entities⟩
  | _ => none

end V2

/-! ## The schemas -/

open JsonSchema (string array object)

/-- A string the model is told nothing about. -/
def plainString : JsonSchema := string none none

/-- The schema of an entity of version 1, as it is sent. -/
def V1.entitySchema : JsonSchema :=
  object none
    [("name", string (some "The name of the entity") none),
      ("description", string (some "A brief description of the entity") none),
      ("type", string (some "The type of entity")
        (some (EntityType.all.map EntityType.toString)))]
    ["name", "description", "type"]

/-- And of an account. -/
def V1.accountSchema : JsonSchema :=
  object none
    [("display_name", string (some "The display name or real name shown on the profile") none),
      ("handle", string (some "The username/handle of the account (e.g., @username)") none),
      ("platform", string (some "The social-media platform")
        (some (SocialMediaPlatform.all.map SocialMediaPlatform.toString)))]
    ["display_name", "handle", "platform"]

/-- `make_schema` of v1. -/
def V1.makeSchema : JsonSchema :=
  object none
    [("summary", string (some ("A concise 1-2 sentence summary of the image content, max 280 " ++
        "characters. Focus on substance, not format.")) none),
      ("details", string (some ("A detailed multi-paragraph description exploring the content, " ++
        "context, and significance of the image.")) none),
      ("suggested_searches", array (some ("A list of concise search queries for notable " ++
        "objects, people, or locations visible in the image.")) plainString),
      ("entities", array (some ("A list of notable entities (objects, people, locations, " ++
          "references) with descriptions and types. Do NOT include social media accounts here."))
        V1.entitySchema),
      ("social_media_accounts", array
        (some "A list of social media accounts visible in the image.")
        V1.accountSchema)]
    ["summary", "details", "suggested_searches", "entities", "social_media_accounts"]

/-- The schema of a platform link. -/
def V2.platformLinkSchema : JsonSchema :=
  object (some "Optional platform profile clearly associated with this entity.")
    [("platform", string none (some (Platform.all.map Platform.toString))),
      ("display_name", string (some ("Optional name visibly shown by the platform; distinct " ++
        "from the entity name and handle.")) none),
      ("handle", plainString)]
    ["platform", "handle"]

/-- And of an entity of version 2, its link inside. -/
def V2.entitySchema : JsonSchema :=
  object none
    [("name", plainString),
      ("search_query", string (some ("Optional concise entity-specific search query for " ++
        "disambiguation or lookup.")) none),
      ("description", string (some ("Useful information about the entity itself; omit when " ++
        "unsupported or not useful.")) none),
      ("type", string (some "The entity's category.")
        (some (KnowledgeEntityType.all.map KnowledgeEntityType.toString))),
      ("platform_link", V2.platformLinkSchema)]
    ["name", "type"]

/-- `make_schema` of v2. -/
def V2.makeSchema : JsonSchema :=
  object none
    [("summary", string (some ("A concise summary of the image content, no more than 280 " ++
        "characters.")) none),
      ("details", string (some ("A detailed description exploring the image content, context, " ++
        "and significance.")) none),
      ("suggested_searches", array (some ("Concise searches for notable content worth " ++
        "exploring further.")) plainString),
      ("entities", array (some "Notable entities using one unified entity shape.")
        V2.entitySchema)]
    ["summary", "details", "suggested_searches", "entities"]

/-! ## What is asked for is read -/

open JsonSchema (Reads reads_string reads_enum reads_array structFields_of_conforms exists_required
  exists_optional)

theorem reads_variant {α : Type} {all : List α} {display : α → String}
    {description : Option String} :
    Reads (string description (some (all.map display))) (variant all display) := by
  refine reads_enum fun name hname => ?_
  obtain ⟨a, ha, rfl⟩ := List.mem_map.1 hname
  refine Option.isSome_iff_exists.1 (List.find?_isSome.2 ⟨a, ha, ?_⟩)
  rw [Json.unitVariant, if_pos rfl]
  rfl

theorem reads_vec {α : Type} {read : Json → Option α} {items : JsonSchema}
    {description : Option String} (h : Reads items read) :
    Reads (array description items) (Json.vec read) :=
  reads_array (fun _ => rfl) h

namespace V1

theorem reads_entity : Reads entitySchema Entity.fromJson := by
  intro v hv
  obtain ⟨fields, hfields, hrequired, hname, hdescription, htype, -⟩ :=
    structFields_of_conforms Entity.names hv
  obtain ⟨name, hname⟩ := exists_required (hrequired _ (by simp)) hname reads_string
  obtain ⟨description, hdescription⟩ :=
    exists_required (hrequired _ (by simp)) hdescription reads_string
  obtain ⟨entityType, htype⟩ := exists_required (hrequired _ (by simp)) htype reads_variant
  refine ⟨⟨name, description, entityType⟩, ?_⟩
  rw [Entity.fromJson, hfields]
  simp only [Entity.names, List.map_cons, List.map_nil, hname, hdescription, htype]
  rfl

theorem reads_account : Reads accountSchema SocialMediaAccount.fromJson := by
  intro v hv
  obtain ⟨fields, hfields, hrequired, hname, hhandle, hplatform, -⟩ :=
    structFields_of_conforms SocialMediaAccount.names hv
  obtain ⟨displayName, hname⟩ := exists_required (hrequired _ (by simp)) hname reads_string
  obtain ⟨handle, hhandle⟩ := exists_required (hrequired _ (by simp)) hhandle reads_string
  obtain ⟨platform, hplatform⟩ := exists_required (hrequired _ (by simp)) hplatform reads_variant
  refine ⟨⟨displayName, handle, platform⟩, ?_⟩
  rw [SocialMediaAccount.fromJson, hfields]
  simp only [SocialMediaAccount.names, List.map_cons, List.map_nil, hname, hhandle, hplatform]
  rfl

theorem reads_illumination : Reads makeSchema Illumination.fromRawJson := by
  intro v hv
  obtain ⟨fields, hfields, hrequired, hsummary, hdetails, hsearches, hentities, haccounts, -⟩ :=
    structFields_of_conforms Illumination.names hv
  obtain ⟨summary, hsummary⟩ := exists_required (hrequired _ (by simp)) hsummary reads_string
  obtain ⟨details, hdetails⟩ := exists_required (hrequired _ (by simp)) hdetails reads_string
  obtain ⟨searches, hsearches⟩ :=
    exists_required (hrequired _ (by simp)) hsearches (reads_vec reads_string)
  obtain ⟨entities, hentities⟩ :=
    exists_required (hrequired _ (by simp)) hentities (reads_vec reads_entity)
  obtain ⟨accounts, haccounts⟩ :=
    exists_required (hrequired _ (by simp)) haccounts (reads_vec reads_account)
  refine ⟨⟨summary, details, searches, entities, accounts⟩, ?_⟩
  rw [Illumination.fromRawJson, hfields]
  simp only [Illumination.names, List.map_cons, List.map_nil, hsummary, hdetails, hsearches,
    hentities, haccounts]
  rfl

end V1

namespace V2

theorem reads_platformLink : Reads platformLinkSchema PlatformLink.fromJson := by
  intro v hv
  obtain ⟨fields, hfields, hrequired, hplatform, hname, hhandle, -⟩ :=
    structFields_of_conforms PlatformLink.names hv
  obtain ⟨platform, hplatform⟩ := exists_required (hrequired _ (by simp)) hplatform reads_variant
  obtain ⟨displayName, hname⟩ := exists_optional hname reads_string
  obtain ⟨handle, hhandle⟩ := exists_optional hhandle reads_string
  refine ⟨⟨platform, displayName, handle, none⟩, ?_⟩
  rw [PlatformLink.fromJson, hfields]
  simp only [PlatformLink.names, List.map_cons, List.map_nil, hplatform, hname, hhandle]
  rfl

theorem reads_entity : Reads entitySchema Entity.fromJson := by
  intro v hv
  obtain ⟨fields, hfields, hrequired, hname, hquery, hdescription, htype, hlink, -⟩ :=
    structFields_of_conforms Entity.names hv
  obtain ⟨name, hname⟩ := exists_required (hrequired _ (by simp)) hname reads_string
  obtain ⟨searchQuery, hquery⟩ := exists_optional hquery reads_string
  obtain ⟨description, hdescription⟩ := exists_optional hdescription reads_string
  obtain ⟨entityType, htype⟩ := exists_required (hrequired _ (by simp)) htype reads_variant
  obtain ⟨platformLink, hlink⟩ := exists_optional hlink reads_platformLink
  refine ⟨⟨name, searchQuery, description, entityType, platformLink⟩, ?_⟩
  rw [Entity.fromJson, hfields]
  simp only [Entity.names, List.map_cons, List.map_nil, hname, hquery, hdescription, htype, hlink]
  rfl

theorem reads_illumination : Reads makeSchema Illumination.fromRawJson := by
  intro v hv
  obtain ⟨fields, hfields, hrequired, hsummary, hdetails, hsearches, hentities, -⟩ :=
    structFields_of_conforms Illumination.names hv
  obtain ⟨summary, hsummary⟩ := exists_required (hrequired _ (by simp)) hsummary reads_string
  obtain ⟨details, hdetails⟩ := exists_required (hrequired _ (by simp)) hdetails reads_string
  obtain ⟨searches, hsearches⟩ :=
    exists_required (hrequired _ (by simp)) hsearches (reads_vec reads_string)
  obtain ⟨entities, hentities⟩ :=
    exists_required (hrequired _ (by simp)) hentities (reads_vec reads_entity)
  refine ⟨⟨summary, details, searches, entities⟩, ?_⟩
  rw [Illumination.fromRawJson, hfields]
  simp only [Illumination.names, List.map_cons, List.map_nil, hsummary, hdetails, hsearches,
    hentities]
  rfl

end V2

/-! ## A version of the prompt -/

namespace IlluminationVersion

/-- The schema the version sends with its prompt. -/
def makeSchema : IlluminationVersion → JsonSchema
  | v1 => V1.makeSchema
  | v2 => V2.makeSchema

/-- **`illuminate` of the version has an output**: the content the model
answered is read. -/
def reads (version : IlluminationVersion) (content : Json) : Bool :=
  match version with
  | v1 => (V1.Illumination.fromRawJson content).isSome
  | v2 => (V2.Illumination.fromRawJson content).isSome

end IlluminationVersion

/-- `render_illumination`. -/
def renderIllumination (promptVersion : IlluminationVersion) (content : Json) :
    Except String String :=
  match promptVersion with
  | .v1 =>
    match V1.Illumination.fromRawJson content with
    | some result => .ok result.toMarkdown
    | none => .error "failed to parse raw v1 illumination result"
  | .v2 =>
    match V2.Illumination.fromRawJson content with
    | some result => .ok result.toMarkdown
    | none => .error "failed to parse raw v2 illumination result"

variable {version : IlluminationVersion} {content : Json}

/-- What the worker has read the command line renders. -/
theorem render_of_reads (h : version.reads content = true) :
    ∃ markdown, renderIllumination version content = .ok markdown := by
  unfold renderIllumination
  cases version with
  | v1 =>
    obtain ⟨result, hresult⟩ := Option.isSome_iff_exists.1 h
    rw [hresult]
    exact ⟨_, rfl⟩
  | v2 =>
    obtain ⟨result, hresult⟩ := Option.isSome_iff_exists.1 h
    rw [hresult]
    exact ⟨_, rfl⟩

/-- **What the schema asks for is read and rendered**, whichever the
version, whatever else the model answers with it. -/
theorem schema_accepted (version : IlluminationVersion) (content : Json)
    (h : version.makeSchema.Conforms content) :
    version.reads content = true ∧
      ∃ markdown, renderIllumination version content = .ok markdown := by
  have hreads : version.reads content = true := by
    cases version with
    | v1 => exact Option.isSome_iff_exists.2 (V1.reads_illumination content h)
    | v2 => exact Option.isSome_iff_exists.2 (V2.reads_illumination content h)
  exact ⟨hreads, render_of_reads hreads⟩

/-- An answer with a field that no schema names. -/
def communityAnswer : Json := .obj [("summary", .str "A community"), ("details", .str ""),
  ("suggested_searches", .arr [.str "memes"]), ("future_schema_field", .null),
  ("entities", .arr [.obj [("name", .str "NFCWestMemeWar"), ("type", .str "online_community"),
    ("platform_link", .obj [("platform", .str "reddit"), ("handle", .str "r/NFCWestMemeWar")])]])]

theorem schema_accepted_community :
    IlluminationVersion.v2.reads communityAnswer = true ∧
      ∃ markdown, renderIllumination .v2 communityAnswer = .ok markdown := by
  refine schema_accepted .v2 communityAnswer ?_
  simp [IlluminationVersion.makeSchema, V2.makeSchema, V2.entitySchema, V2.platformLinkSchema,
    plainString, communityAnswer, JsonSchema.Conforms, JsonSchema.PropertiesConform,
    List.lookup_cons, KnowledgeEntityType.all, KnowledgeEntityType.toString, V2.Platform.all,
    V2.Platform.toString]

end Dreamscroll
