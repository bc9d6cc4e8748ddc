import Mathlib.Data.Int.Notation
import Mathlib.Tactic.Common
/-!
# The v2 interpretation of a capture

What the model answers about a capture, less the JSON it was read from, and
the Markdown it is indexed as.
-/

namespace Dreamscroll

/-- Shared v2 taxonomy for persisted knowledge entities. -/
inductive KnowledgeEntityType
  | realPerson
  | religiousFigure
  | place
  | event
  | book
  | publication
  | movie
  | televisionShow
  | artWork
  | fictionalCharacter
  | music
  | meme
  | software
  | product
  | financial
  | brand
  | organization
  | onlineCommunity
  | socialMediaAccount
  | unknown
  deriving DecidableEq, Repr

/-- `Display`, in snake case. -/
def KnowledgeEntityType.toString : KnowledgeEntityType → String
  | realPerson => "real_person"
  | religiousFigure => "religious_figure"
  | place => "place"
  | event => "event"
  | book => "book"
  | publication => "publication"
  | movie => "movie"
  | televisionShow => "television_show"
  | artWork => "art_work"
  | fictionalCharacter => "fictional_character"
  | music => "music"
  | meme => "meme"
  | software => "software"
  | product => "product"
  | financial => "financial"
  | brand => "brand"
  | organization => "organization"
  | onlineCommunity => "online_community"
  | socialMediaAccount => "social_media_account"
  | unknown => "unknown"

namespace V2

/-- The platforms a link may be of. -/
inductive Platform
  | xTwitter
  | youtube
  | instagram
  | tiktok
  | facebook
  | linkedin
  | threads
  | bluesky
  | mastodon
  | reddit
  | other
  deriving DecidableEq, Repr

/-- `Display`, in snake case. -/
def Platform.toString : Platform → String
  | xTwitter => "x_twitter"
  | youtube => "youtube"
  | instagram => "instagram"
  | tiktok => "tiktok"
  | facebook => "facebook"
  | linkedin => "linkedin"
  | threads => "threads"
  | bluesky => "bluesky"
  | mastodon => "mastodon"
  | reddit => "reddit"
  | other => "other"

/-- Where an entity is found. -/
structure PlatformLink where
  platform : Platform
  displayName : Option String
  handle : Option String
  /-- Optional post-inference URL; not populated from model output. -/
  url : Option String
  deriving DecidableEq, Repr

/-- An entity of a capture, as the model answers it. -/
structure Entity where
  name : String
  searchQuery : Option String
  description : Option String
  entityType : KnowledgeEntityType
  platformLink : Option PlatformLink
  deriving DecidableEq, Repr

/-- Structured v2 interpretation of a capture. -/
structure Illumination where
  summary : String
  details : String
  suggestedSearches : List String
  entities : List Entity
  deriving DecidableEq, Repr

/-! ## Markdown -/

/-- A field that is written only where there is one. -/
def optional (before : String) (field : Option String) (after : String) : String :=
  match field with
  | some text => before ++ text ++ after
  | none => ""

/-- The line of a link. -/
def PlatformLink.toMarkdown (link : PlatformLink) : String :=
  "  - Platform: " ++ link.platform.toString ++
    optional "; display name: " link.displayName "" ++
    optional "; handle: " link.handle "" ++
    optional "; URL: " link.url "" ++ "\n"

/-- The bullet of an entity. Its search query follows on the same line. -/
def Entity.toMarkdown (entity : Entity) : String :=
  "- **" ++ entity.name ++ "** (`" ++ entity.entityType.toString ++ "`)" ++
    optional " — " entity.description "" ++
    optional "  - Search query: " entity.searchQuery "\n" ++ "\n" ++
    match entity.platformLink with
    | some link => link.toMarkdown
    | none => ""

/-- **Lossy Markdown projection** for evaluation and console display, and
for the search index. -/
def Illumination.toMarkdown (illumination : Illumination) : String :=
  "## Summary\n\n" ++ illumination.summary ++ "\n\n## Details\n\n" ++ illumination.details ++
    "\n" ++
    (if illumination.suggestedSearches.isEmpty then ""
      else "\n## Suggested searches\n" ++
        String.join (illumination.suggestedSearches.map fun search => "- " ++ search ++ "\n")) ++
    if illumination.entities.isEmpty then ""
    else "\n## Entities\n" ++ String.join (illumination.entities.map Entity.toMarkdown)

end V2

end Dreamscroll
