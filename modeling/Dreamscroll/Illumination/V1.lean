import Mathlib.Data.Int.Notation
import Mathlib.Tactic.Common
/-!
# The v1 interpretation of a capture

What the legacy prompt answers about a capture, less the JSON it was read
from, and the Markdown it is printed as. It is raw-only: nothing of it is
projected or indexed.
-/

namespace Dreamscroll

namespace V1

/-- Legacy v1 category. -/
inductive EntityType
  | realPerson
  | place
  | book
  | movie
  | televisionShow
  | artWork
  | fictionalCharacter
  | music
  | meme
  | software
  | financial
  | brand
  | unknown
  deriving DecidableEq, Repr

/-- `EntityType::iter`. -/
def EntityType.all : List EntityType :=
  [realPerson, place, book, movie, televisionShow, artWork, fictionalCharacter, music, meme,
    software, financial, brand, unknown]

/-- `Display`, in snake case. -/
def EntityType.toString : EntityType → String
  | realPerson => "real_person"
  | place => "place"
  | book => "book"
  | movie => "movie"
  | televisionShow => "television_show"
  | artWork => "art_work"
  | fictionalCharacter => "fictional_character"
  | music => "music"
  | meme => "meme"
  | software => "software"
  | financial => "financial"
  | brand => "brand"
  | unknown => "unknown"

/-- The platform of a social media account. -/
inductive SocialMediaPlatform
  | xTwitter
  | youtube
  | instagram
  | tiktok
  | facebook
  | linkedin
  | threads
  | bluesky
  | mastodon
  | other
  deriving DecidableEq, Repr

/-- `SocialMediaPlatform::iter`. -/
def SocialMediaPlatform.all : List SocialMediaPlatform :=
  [xTwitter, youtube, instagram, tiktok, facebook, linkedin, threads, bluesky, mastodon, other]

/-- `Display`, in snake case. -/
def SocialMediaPlatform.toString : SocialMediaPlatform → String
  | xTwitter => "x_twitter"
  | youtube => "youtube"
  | instagram => "instagram"
  | tiktok => "tiktok"
  | facebook => "facebook"
  | linkedin => "linkedin"
  | threads => "threads"
  | bluesky => "bluesky"
  | mastodon => "mastodon"
  | other => "other"

/-- A notable entity found in an image. -/
structure Entity where
  name : String
  description : String
  entityType : EntityType
  deriving DecidableEq, Repr

/-- A social media account found in an image. -/
structure SocialMediaAccount where
  displayName : String
  handle : String
  platform : SocialMediaPlatform
  deriving DecidableEq, Repr

/-- Structured v1 interpretation of a capture. -/
structure Illumination where
  summary : String
  details : String
  suggestedSearches : List String
  entities : List Entity
  socialMediaAccounts : List SocialMediaAccount
  deriving DecidableEq, Repr

/-! ## Markdown -/

/-- The line of an entity. -/
def Entity.toMarkdown (entity : Entity) : String :=
  "- **" ++ entity.name ++ "** (`" ++ entity.entityType.toString ++ "`) — " ++
    entity.description ++ "\n"

/-- And of an account. -/
def SocialMediaAccount.toMarkdown (account : SocialMediaAccount) : String :=
  "- **" ++ account.displayName ++ "** (`" ++ account.handle ++ "`; " ++
    account.platform.toString ++ ")\n"

/-- A section, where there is anything to list in it. -/
def listing (title : String) (bullets : List String) : String :=
  if bullets.isEmpty then "" else "\n## " ++ title ++ "\n" ++ String.join bullets

/-- **Lossy Markdown projection** for evaluation and console display. -/
def Illumination.toMarkdown (illumination : Illumination) : String :=
  "## Summary\n\n" ++ illumination.summary ++ "\n\n## Details\n\n" ++ illumination.details ++
    "\n" ++
    listing "Suggested searches"
      (illumination.suggestedSearches.map fun search => "- " ++ search ++ "\n") ++
    listing "Entities" (illumination.entities.map Entity.toMarkdown) ++
    listing "Social media accounts"
      (illumination.socialMediaAccounts.map SocialMediaAccount.toMarkdown)

end V1

end Dreamscroll
