import Dreamscroll.Common.Lines
import Dreamscroll.Illumination.V2
import Mathlib.Data.List.Forall2
import Mathlib.Data.List.TakeWhile
/-!
# The bullets of an illumination

The Markdown of an illumination as a reader of its lines sees it: the
bullets of a section are the lines that begin with a dash, and what follows
one belongs to it up to the next. So the searches and the entities can be
read back where every bullet has a line of its own, which is so exactly
where no entity has a search query (`one_bullet_per_line_iff`).
-/

namespace Dreamscroll

namespace V2

/-- A line of the text. -/
abbrev Line := List Char

/-! ## Reading a document -/

/-- A top-level bullet. -/
def isTop (line : Line) : Bool := "- ".toList.isPrefixOf line

/-- The line is the title of a section. -/
def isTitle (line : Line) : Bool := "## ".toList.isPrefixOf line

/-- The lines of the last section with this title. -/
def sectionOf (title : Line) (ls : List Line) : List Line :=
  (ls.reverse.takeWhile (· ≠ title)).reverse.takeWhile fun line => ¬ isTitle line

/-- The lines before the first bullet, and every bullet with the lines up to
the next. -/
def groupBullets : List Line → List Line × List (List Line)
  | [] => ([], [])
  | line :: ls =>
    let (before, blocks) := groupBullets ls
    if isTop line then ([], (line :: before) :: blocks) else (line :: before, blocks)

/-- The bullets of the section of searches. -/
def readSearches (markdown : List Char) : List Line :=
  (sectionOf "## Suggested searches".toList (lines markdown)).filter isTop

/-- The bullets of the section of entities, each with the lines under it. -/
def readEntities (markdown : List Char) : List (List Line) :=
  (groupBullets (sectionOf "## Entities".toList (lines markdown))).2

/-! ## What is to be read -/

/-- A bullet with these texts. -/
structure IsBullet (mark : String) (texts : List String) (line : Line) : Prop where
  starts : mark.toList <+: line
  contains : ∀ text ∈ texts, text.toList <:+: line

/-- The texts of a link, where it has them. -/
def PlatformLink.texts (link : PlatformLink) : List String :=
  link.platform.toString :: (link.displayName.toList ++ link.handle.toList ++ link.url.toList)

/-- The texts of an entity but those of its link and its search. -/
def Entity.texts (entity : Entity) : List String :=
  entity.name :: entity.entityType.toString :: entity.description.toList

/-- The texts of the bullets nested under it. -/
def Entity.nestedTexts (entity : Entity) : List (List String) :=
  (entity.searchQuery.map fun query => [query]).toList ++
    (entity.platformLink.map PlatformLink.texts).toList

/-- **The lines of an entity**: its own bullet, then those that are nested
under it and no other line. -/
def IsBlock (entity : Entity) (block : List Line) : Prop :=
  ∃ head nested, block = head :: nested ∧ IsBullet "- " entity.texts head ∧
    List.Forall₂ (IsBullet "  - ") entity.nestedTexts nested

/-- **Every bullet has a line of its own**: the searches and the entities
are read back, in order, and every nested bullet under its entity. -/
structure OneBulletPerLine (illumination : Illumination) (markdown : List Char) : Prop where
  searches : List.Forall₂ (fun search => IsBullet "- " [search]) illumination.suggestedSearches
    (readSearches markdown)
  entities : List.Forall₂ IsBlock illumination.entities (readEntities markdown)

/-- The text fields of an entity. -/
def Entity.fields (entity : Entity) : List String :=
  entity.name :: (entity.description.toList ++ entity.searchQuery.toList ++
    match entity.platformLink with
    | some link => link.displayName.toList ++ link.handle.toList ++ link.url.toList
    | none => [])

/-- No text field has a line break. -/
structure NoLineBreaks (illumination : Illumination) : Prop where
  summary : IsLine illumination.summary.toList
  details : IsLine illumination.details.toList
  searches : ∀ search ∈ illumination.suggestedSearches, IsLine search.toList
  entities : ∀ entity ∈ illumination.entities, ∀ field ∈ entity.fields, IsLine field.toList

/-! ## The lines that are written -/

/-- The line of a link. -/
def PlatformLink.line (link : PlatformLink) : String :=
  "  - Platform: " ++ link.platform.toString ++
    optional "; display name: " link.displayName "" ++
    optional "; handle: " link.handle "" ++
    optional "; URL: " link.url ""

/-- The line of an entity, its search query put after it with no newline
between. -/
def Entity.line (entity : Entity) : String :=
  "- **" ++ entity.name ++ "** (`" ++ entity.entityType.toString ++ "`)" ++
    optional " — " entity.description "" ++ optional "  - Search query: " entity.searchQuery ""

/-- A search query ends its line, and the line after it is blank. -/
def Entity.lines (entity : Entity) : List Line :=
  entity.line.toList :: ((entity.searchQuery.map fun _ => []).toList ++
    (entity.platformLink.map fun link => link.line.toList).toList)

/-- The lines of the section, after a blank one. -/
def titled (title : String) (ls : List Line) : List Line :=
  if ls.isEmpty then [] else [] :: title.toList :: ls

/-- The summary and the details, under their titles. -/
def Illumination.preamble (illumination : Illumination) : List Line :=
  ["## Summary".toList, [], illumination.summary.toList, [], "## Details".toList, [],
    illumination.details.toList]

/-- The bullets of the searches. -/
def Illumination.searchLines (illumination : Illumination) : List Line :=
  illumination.suggestedSearches.map fun search => ("- " ++ search).toList

/-- The bullets of the entities, each with its link. -/
def Illumination.entityLines (illumination : Illumination) : List Line :=
  illumination.entities.flatMap Entity.lines

/-- All lines of the text. -/
def Illumination.lines (illumination : Illumination) : List Line :=
  illumination.preamble ++ titled "## Suggested searches" illumination.searchLines ++
    titled "## Entities" illumination.entityLines

/-- The text of two lists of lines is the text of the one followed by the text
of the other. -/
theorem unlines_append (ls ls' : List Line) : unlines (ls ++ ls') = unlines ls ++ unlines ls' :=
  List.flatMap_append

/-- A first line is followed by its line feed and the rest of the text. -/
theorem unlines_cons (line : Line) (ls : List Line) :
    unlines (line :: ls) = line ++ '\n' :: unlines ls := by
  unfold unlines
  rw [List.flatMap_cons, List.append_assoc, List.singleton_append]

/-- A line that the renderer closes with `\n`, as characters. -/
theorem toList_line_feed (line rest : String) :
    (line ++ "\n" ++ rest).toList = line.toList ++ '\n' :: rest.toList := by
  rw [String.toList_append, String.toList_append, List.append_assoc]
  rfl

/-- What follows the lines of an entity's own. -/
theorem toMarkdown_entity_eq (entity : Entity) :
    entity.toMarkdown = entity.line ++ "\n" ++ ((match entity.searchQuery with
      | some _ => "" ++ "\n"
      | none => "") ++ match entity.platformLink with
      | some link => link.line ++ "\n"
      | none => "") := by
  unfold Entity.toMarkdown Entity.line
  cases entity.searchQuery with
  | none => simp only [optional, String.append_assoc, String.empty_append]; rfl
  | some query =>
    simp only [optional, String.append_assoc, String.empty_append, String.append_empty]
    rfl

/-- The text an entity is rendered to is exactly its lines: `Entity.lines` is
a faithful reading of the nested `format!` calls. -/
theorem toList_toMarkdown_entity (entity : Entity) :
    entity.toMarkdown.toList = unlines entity.lines := by
  rw [toMarkdown_entity_eq, toList_line_feed, String.toList_append, Entity.lines, unlines_cons,
    unlines_append]
  congr 3
  · cases entity.searchQuery with
    | none => rfl
    | some query =>
      show ("" ++ "\n").toList = _
      rw [String.toList_append]
      rfl
  · cases entity.platformLink with
    | none => rfl
    | some link =>
      show (link.line ++ "\n").toList = unlines [link.line.toList]
      rw [String.toList_append, unlines_cons]
      rfl

/-- A section is written where it has a line. -/
theorem toList_section {α : Type} (heading title : String) (items : List α) (text : α → String)
    (ls : α → List Line) (hheading : heading.toList = '\n' :: title.toList ++ ['\n'])
    (hne : ∀ item ∈ items, ls item ≠ [])
    (h : ∀ item ∈ items, (text item).toList = unlines (ls item)) :
    (if items.isEmpty then "" else heading ++ String.join (items.map text)).toList =
      unlines (titled title (items.flatMap ls)) := by
  cases items with
  | nil => rfl
  | cons item items =>
    have hlines : (item :: items).flatMap ls ≠ [] := by
      rw [List.flatMap_cons]
      exact List.append_ne_nil_of_left_ne_nil (hne item List.mem_cons_self) _
    have hjoin : (String.join ((item :: items).map text)).toList =
        unlines ((item :: items).flatMap ls) := by
      rw [String.toList_join, List.flatMap_map]
      unfold unlines
      rw [List.flatMap_assoc]
      exact List.flatMap_congr h
    unfold titled
    rw [if_neg (by simp), if_neg (by rw [List.isEmpty_iff]; exact hlines), String.toList_append,
      hjoin, hheading, unlines_cons, unlines_cons, List.nil_append, List.append_assoc]
    rfl

/-- A suggested search is rendered to one line of its own. -/
theorem toList_bullet (search : String) :
    ("- " ++ search ++ "\n").toList = unlines [("- " ++ search).toList] := by
  rw [String.toList_append, unlines_cons]
  rfl

/-- The summary and the details, as the lines they take. -/
theorem toList_preamble (summary details : String) :
    ("## Summary\n\n" ++ summary ++ "\n\n## Details\n\n" ++ details ++ "\n").toList =
      unlines ["## Summary".toList, [], summary.toList, [], "## Details".toList, [],
        details.toList] := by
  have htop : "## Summary\n\n".toList = unlines ["## Summary".toList, []] := by decide
  have hmiddle : "\n\n## Details\n\n".toList =
      '\n' :: unlines [[], "## Details".toList, []] := by decide
  rw [String.toList_append, String.toList_append, String.toList_append, String.toList_append,
    htop, hmiddle]
  simp only [unlines_cons, List.append_assoc, List.cons_append, List.nil_append]
  rfl

/-- **The document is these lines.** -/
theorem toList_toMarkdown (illumination : Illumination) :
    illumination.toMarkdown.toList = unlines illumination.lines := by
  have hsearches := toList_section "\n## Suggested searches\n" "## Suggested searches"
    illumination.suggestedSearches (fun search => "- " ++ search ++ "\n")
    (fun search => [("- " ++ search).toList]) (by decide)
    (fun _ _ => List.cons_ne_nil _ _) (fun search _ => toList_bullet search)
  have hentities := toList_section "\n## Entities\n" "## Entities"
    illumination.entities Entity.toMarkdown Entity.lines (by decide)
    (fun _ _ => List.cons_ne_nil _ _) (fun entity _ => toList_toMarkdown_entity entity)
  rw [← List.map_eq_flatMap] at hsearches
  unfold Illumination.toMarkdown Illumination.lines Illumination.searchLines
    Illumination.entityLines
  rw [unlines_append, unlines_append, ← hsearches, ← hentities, String.toList_append,
    String.toList_append, toList_preamble]
  rfl

/-! ## They are lines -/

/-- A blank line is a line. -/
theorem isLine_nil : IsLine [] := ⟨List.not_mem_nil, List.not_mem_nil⟩

/-- Two texts without line breaks make one without line breaks. -/
theorem isLine_append {l l' : Line} (h : IsLine l) (h' : IsLine l') : IsLine (l ++ l') := by
  refine ⟨fun hmem => ?_, fun hmem => ?_⟩
  · exact (List.mem_append.mp hmem).elim h.1 h'.1
  · exact (List.mem_append.mp hmem).elim h.2 h'.2

/-- An optional field, with the text before it, has no line break when the
field has none. -/
theorem isLine_optional {before : String} {field : Option String} (hbefore : IsLine before.toList)
    (h : ∀ text ∈ field, IsLine text.toList) : IsLine (optional before field "").toList := by
  cases field with
  | none => exact isLine_nil
  | some text =>
    unfold optional
    rw [String.toList_append, String.toList_append]
    exact isLine_append (isLine_append hbefore (h text rfl)) isLine_nil

/-- The name of a platform has no line break. -/
theorem isLine_platform (platform : Platform) : IsLine platform.toString.toList := by
  cases platform <;> decide

/-- The name of an entity type has no line break. -/
theorem isLine_entityType (entityType : KnowledgeEntityType) :
    IsLine entityType.toString.toList := by
  cases entityType <;> decide

section Entities

variable {entity : Entity} (h : ∀ field ∈ entity.fields, IsLine field.toList)
include h

/-- The bullet of an entity stays on one line when its texts have no line
breaks. -/
theorem isLine_entity_line : IsLine entity.line.toList := by
  have hname : IsLine entity.name.toList := h _ List.mem_cons_self
  have hdescription : ∀ text ∈ entity.description, IsLine text.toList := by
    intro text htext
    refine h text (List.mem_cons_of_mem _ ?_)
    simp only [List.mem_append, Option.mem_toList]
    exact .inl (.inl htext)
  have hquery : ∀ text ∈ entity.searchQuery, IsLine text.toList := by
    intro text htext
    refine h text (List.mem_cons_of_mem _ ?_)
    simp only [List.mem_append, Option.mem_toList]
    exact .inl (.inr htext)
  unfold Entity.line
  simp only [String.toList_append]
  refine isLine_append (isLine_append (isLine_append (isLine_append (isLine_append
    (isLine_append ?_ hname) ?_) (isLine_entityType _)) ?_) ?_) ?_
  · decide
  · decide
  · decide
  · exact isLine_optional (by decide) hdescription
  · exact isLine_optional (by decide) hquery

/-- The nested bullet of a platform link stays on one line. -/
theorem isLine_link_line {link : PlatformLink} (hlink : entity.platformLink = some link) :
    IsLine link.line.toList := by
  have hfield : ∀ text ∈ link.displayName.toList ++ link.handle.toList ++ link.url.toList,
      IsLine text.toList := by
    intro text htext
    refine h text (List.mem_cons_of_mem _ (List.mem_append_right _ ?_))
    rw [hlink]
    exact htext
  have hoptional : ∀ (before : String) (field : Option String), IsLine before.toList →
      field.toList ⊆ link.displayName.toList ++ link.handle.toList ++ link.url.toList →
      IsLine (optional before field "").toList := by
    intro before field hbefore hsub
    exact isLine_optional hbefore fun text htext =>
      hfield text (hsub (Option.mem_toList.mpr htext))
  unfold PlatformLink.line
  simp only [String.toList_append]
  refine isLine_append (isLine_append (isLine_append (isLine_append (by decide)
    (isLine_platform _)) ?_) ?_) ?_
  · refine hoptional _ _ (by decide) ?_
    exact fun text htext => List.mem_append_left _ (List.mem_append_left _ htext)
  · refine hoptional _ _ (by decide) ?_
    exact fun text htext => List.mem_append_left _ (List.mem_append_right _ htext)
  · exact hoptional _ _ (by decide) fun text htext => List.mem_append_right _ htext

/-- Each line of an entity is one line of the document. -/
theorem isLine_entity_lines : ∀ line ∈ entity.lines, IsLine line := by
  intro line hline
  unfold Entity.lines at hline
  simp only [List.mem_cons, List.mem_append, Option.mem_toList, Option.map_eq_some_iff] at hline
  obtain rfl | ⟨_, _, rfl⟩ | ⟨link, hlink, rfl⟩ := hline
  · exact isLine_entity_line h
  · exact isLine_nil
  · exact isLine_link_line h hlink

end Entities

/-- A section with its title is made of lines. -/
theorem isLine_titled {title : String} {ls : List Line} (htitle : IsLine title.toList)
    (h : ∀ line ∈ ls, IsLine line) : ∀ line ∈ titled title ls, IsLine line := by
  intro line hline
  unfold titled at hline
  split at hline
  · cases hline
  · obtain _ | ⟨_, hline⟩ := hline
    · exact isLine_nil
    · obtain _ | ⟨_, hline⟩ := hline
      · exact htitle
      · exact h line hline

/-- The summary and the details are lines when their texts have no line
breaks. -/
theorem isLine_preamble {illumination : Illumination} (h : NoLineBreaks illumination) :
    ∀ line ∈ illumination.preamble, IsLine line := by
  have hsummary : IsLine "## Summary".toList := by decide
  have hdetails : IsLine "## Details".toList := by decide
  refine List.forall_mem_cons.mpr ⟨hsummary, ?_⟩
  refine List.forall_mem_cons.mpr ⟨isLine_nil, ?_⟩
  refine List.forall_mem_cons.mpr ⟨h.summary, ?_⟩
  refine List.forall_mem_cons.mpr ⟨isLine_nil, ?_⟩
  refine List.forall_mem_cons.mpr ⟨hdetails, ?_⟩
  refine List.forall_mem_cons.mpr ⟨isLine_nil, ?_⟩
  exact List.forall_mem_singleton.mpr h.details

/-- Every line of the document is a line: without line breaks in the texts
nothing the renderer writes can be split in two. -/
theorem isLine_lines {illumination : Illumination} (h : NoLineBreaks illumination) :
    ∀ line ∈ illumination.lines, IsLine line := by
  intro line hline
  unfold Illumination.lines at hline
  rw [List.mem_append, List.mem_append] at hline
  obtain (hline | hline) | hline := hline
  · exact isLine_preamble h line hline
  · refine isLine_titled (by decide) ?_ line hline
    intro line hline
    obtain ⟨search, hsearch, rfl⟩ := List.mem_map.mp hline
    rw [String.toList_append]
    exact isLine_append (by decide) (h.searches search hsearch)
  · refine isLine_titled (by decide) ?_ line hline
    intro line hline
    obtain ⟨entity, hentity, hline⟩ := List.mem_flatMap.mp hline
    exact isLine_entity_lines (h.entities entity hentity) line hline

/-- **A reader sees these lines.** -/
theorem lines_toMarkdown {illumination : Illumination} (h : NoLineBreaks illumination) :
    Dreamscroll.lines illumination.toMarkdown.toList = illumination.lines := by
  rw [toList_toMarkdown, lines_unlines (isLine_lines h)]

/-! ## Reading them -/

/-- A line is a top bullet when it starts with `- `. -/
theorem isTop_iff {line : Line} : isTop line = true ↔ "- ".toList <+: line :=
  List.isPrefixOf_iff_prefix

/-- Neither title nor top-level bullet. -/
def IsInner (line : Line) : Prop := isTop line = false ∧ isTitle line = false

/-- A blank line belongs to the bullet above it. -/
theorem isInner_nil : IsInner [] := ⟨rfl, rfl⟩

/-- A top bullet is no section title. -/
theorem not_isTitle_of_isTop {line : Line} (h : isTop line = true) : isTitle line = false := by
  obtain ⟨rest, rfl⟩ := isTop_iff.mp h
  rfl

section Sections

variable {title : Line} {before after : List Line}

/-- A section is read from behind its title up to the next title, whatever
stands before it. -/
theorem sectionOf_append (h : title ∉ after) :
    sectionOf title (before ++ title :: after) =
      after.takeWhile fun line => ¬ isTitle line := by
  have hafter : ∀ line ∈ after.reverse, decide (line ≠ title) = true := by
    intro line hline
    rw [decide_eq_true_eq]
    exact fun heq => h (heq ▸ List.mem_reverse.mp hline)
  unfold sectionOf
  rw [List.reverse_append, List.reverse_cons, List.append_assoc,
    List.takeWhile_append_of_pos hafter, List.singleton_append, List.takeWhile_cons,
    if_neg (by simp), List.append_nil, List.reverse_reverse]

/-- What is read of a section whose title does not come again. -/
theorem sectionOf_of_not_mem (h : title ∉ after) :
    sectionOf title after = after.takeWhile fun line => ¬ isTitle line := by
  have hafter : ∀ line ∈ after.reverse, decide (line ≠ title) = true := by
    intro line hline
    rw [decide_eq_true_eq]
    exact fun heq => h (heq ▸ List.mem_reverse.mp hline)
  unfold sectionOf
  rw [List.takeWhile_eq_self_iff.mpr hafter, List.reverse_reverse]

/-- A section ends before the next title. -/
theorem takeWhile_titled (other : String) (rest : List Line)
    (hother : isTitle other.toList = true) {ls : List Line} (h : ∀ line ∈ ls, isTitle line = false) :
    ∃ gap, (∀ line ∈ gap, line = []) ∧
      (ls ++ titled other rest).takeWhile (fun line => ¬ isTitle line) = ls ++ gap := by
  have hls : ∀ line ∈ ls, decide (¬ isTitle line = true) = true := by
    intro line hline
    rw [h line hline]
    rfl
  rw [List.takeWhile_append_of_pos hls]
  unfold titled
  split
  · exact ⟨[], fun _ hline => absurd hline List.not_mem_nil, rfl⟩
  · refine ⟨[[]], fun line hline => List.mem_singleton.mp hline, ?_⟩
    have hblank : decide (¬ isTitle [] = true) = true := rfl
    have hnext : ¬ decide (¬ isTitle other.toList = true) = true := by
      rw [hother]
      decide
    rw [List.takeWhile_cons, if_pos hblank, List.takeWhile_cons, if_neg hnext]

end Sections

/-- A title that is not written has no lines under it, also where a text
field reads like it. -/
theorem sectionOf_untitled {title other : String} (illumination : Illumination)
    {rest : List Line} (htitle : title ≠ "## Summary" ∧ title ≠ "## Details" ∧ title ≠ "")
    (hother : isTitle other.toList = true) (hrest : title.toList ∉ titled other rest) :
    ∀ line ∈ sectionOf title.toList (illumination.preamble ++ titled other rest), line = [] := by
  have hsummary : title.toList ≠ "## Summary".toList :=
    fun heq => htitle.1 (String.toList_inj.mp heq)
  have hdetails : title.toList ≠ "## Details".toList :=
    fun heq => htitle.2.1 (String.toList_inj.mp heq)
  have hblank : title.toList ≠ [] := fun heq => htitle.2.2 (String.toList_inj.mp heq)
  by_cases hd : illumination.details.toList = title.toList
  · have hsplit : illumination.preamble ++ titled other rest =
        ["## Summary".toList, [], illumination.summary.toList, [], "## Details".toList, []] ++
          title.toList :: titled other rest := by
      unfold Illumination.preamble
      rw [hd]
      rfl
    obtain ⟨gap, hgap, htake⟩ := takeWhile_titled other rest hother
      (fun line (hline : line ∈ []) => absurd hline List.not_mem_nil)
    rw [hsplit, sectionOf_append hrest]
    rw [List.nil_append, List.nil_append] at htake
    rw [htake]
    exact hgap
  · by_cases hs : illumination.summary.toList = title.toList
    · have hsplit : illumination.preamble ++ titled other rest =
          ["## Summary".toList, []] ++ title.toList :: ([[], "## Details".toList, [],
            illumination.details.toList] ++ titled other rest) := by
        unfold Illumination.preamble
        rw [hs]
        rfl
      rw [hsplit, sectionOf_append]
      · intro line hline
        exact List.mem_singleton.mp hline
      · simp only [List.mem_append, List.mem_cons, List.not_mem_nil, or_false, not_or]
        exact ⟨⟨hblank, hdetails, hblank, fun heq => hd heq.symm⟩, hrest⟩
    · rw [sectionOf_of_not_mem]
      · intro line hline
        exact absurd hline List.not_mem_nil
      · unfold Illumination.preamble
        simp only [List.mem_append, List.mem_cons, List.not_mem_nil, or_false, not_or]
        exact ⟨⟨hsummary, hblank, fun heq => hs heq.symm, hblank, hdetails, hblank,
          fun heq => hd heq.symm⟩, hrest⟩

/-! ## The bullets -/

/-- A suggested search is a top bullet. -/
theorem isTop_search (search : String) : isTop ("- " ++ search).toList = true := by
  rw [isTop_iff, String.toList_append]
  exact List.prefix_append _ _

/-- The first line of an entity is a top bullet. -/
theorem isTop_entity_line (entity : Entity) : isTop entity.line.toList = true := by
  rw [isTop_iff]
  unfold Entity.line
  simp only [String.toList_append, List.append_assoc]
  exact (show "- ".toList <+: "- **".toList from ⟨_, rfl⟩).trans (List.prefix_append _ _)

/-- The line of a platform link is indented under its entity. -/
theorem starts_link_line (link : PlatformLink) : "  - ".toList <+: link.line.toList := by
  unfold PlatformLink.line
  simp only [String.toList_append, List.append_assoc]
  exact (show "  - ".toList <+: "  - Platform: ".toList from ⟨_, rfl⟩).trans
    (List.prefix_append _ _)

/-- An indented bullet is neither a top bullet nor a title. -/
theorem isInner_of_starts {line : Line} (h : "  - ".toList <+: line) : IsInner line := by
  obtain ⟨rest, rfl⟩ := h
  exact ⟨rfl, rfl⟩

/-- What an entity writes behind its first line stays under it. -/
theorem isInner_entity (entity : Entity) : ∀ line ∈ entity.lines.tail, IsInner line := by
  intro line hline
  unfold Entity.lines at hline
  simp only [List.tail_cons, List.mem_append, Option.mem_toList, Option.map_eq_some_iff] at hline
  obtain ⟨_, _, rfl⟩ | ⟨link, _, rfl⟩ := hline
  · exact isInner_nil
  · exact isInner_of_starts (starts_link_line link)

/-- An entity is its bullet and what stands under it. -/
theorem entity_lines_eq (entity : Entity) :
    entity.lines = entity.line.toList :: entity.lines.tail := rfl

/-- No line of an entity is read as a section title. -/
theorem not_isTitle_entityLines (illumination : Illumination) :
    ∀ line ∈ illumination.entityLines, isTitle line = false := by
  intro line hline
  obtain ⟨entity, _, hline⟩ := List.mem_flatMap.mp hline
  rw [entity_lines_eq] at hline
  obtain rfl | hline := List.mem_cons.mp hline
  · exact not_isTitle_of_isTop (isTop_entity_line entity)
  · exact (isInner_entity entity line hline).2

/-- Every line of the suggested searches is a bullet of its own. -/
theorem isTop_searchLines (illumination : Illumination) :
    ∀ line ∈ illumination.searchLines, isTop line = true := by
  intro line hline
  obtain ⟨search, _, rfl⟩ := List.mem_map.mp hline
  exact isTop_search search

/-- A title is not among lines that are no titles. -/
theorem title_not_mem {title : Line} (htitle : isTitle title = true) {ls : List Line}
    (h : ∀ line ∈ ls, isTitle line = false) : title ∉ ls := by
  intro hmem
  rw [h title hmem] at htitle
  cases htitle

/-- A title does not occur in the section of another title. -/
theorem title_not_mem_titled {title other : String} (htitle : isTitle title.toList = true)
    (hother : title ≠ other) {ls : List Line} (h : ∀ line ∈ ls, isTitle line = false) :
    title.toList ∉ titled other ls := by
  have hblank : title.toList ≠ [] := by
    intro heq
    rw [heq] at htitle
    cases htitle
  unfold titled
  split
  · exact List.not_mem_nil
  · simp only [List.mem_cons, not_or]
    exact ⟨hblank, fun heq => hother (String.toList_inj.mp heq), title_not_mem htitle h⟩

/-- A section that is not empty: a blank line, the title, the lines. -/
theorem titled_cons {title : String} {ls : List Line} (h : ls ≠ []) :
    titled title ls = [] :: title.toList :: ls := by
  unfold titled
  rw [if_neg (by rw [List.isEmpty_iff]; exact h)]

/-- Blank lines hold no bullet. -/
theorem filter_isTop_blank {ls : List Line} (h : ∀ line ∈ ls, line = []) :
    ls.filter isTop = [] := by
  rw [List.filter_eq_nil_iff]
  intro line hline
  rw [h line hline]
  exact Bool.false_ne_true

/-- **The searches are read back.** -/
theorem readSearches_eq (illumination : Illumination) :
    (sectionOf "## Suggested searches".toList illumination.lines).filter isTop =
      illumination.searchLines := by
  have htop := isTop_searchLines illumination
  have hrest : "## Suggested searches".toList ∉ titled "## Entities" illumination.entityLines :=
    title_not_mem_titled (by decide) (by decide) (not_isTitle_entityLines illumination)
  by_cases hnil : illumination.searchLines = []
  · have hlines : illumination.lines =
        illumination.preamble ++ titled "## Entities" illumination.entityLines := by
      unfold Illumination.lines
      rw [hnil]
      rfl
    rw [hlines, hnil, filter_isTop_blank]
    exact sectionOf_untitled illumination (by decide) (by decide) hrest
  · have hlines : illumination.lines = (illumination.preamble ++ [[]]) ++
        "## Suggested searches".toList :: (illumination.searchLines ++
          titled "## Entities" illumination.entityLines) := by
      unfold Illumination.lines
      rw [titled_cons hnil]
      simp only [List.append_assoc, List.cons_append, List.nil_append]
    have hmem : "## Suggested searches".toList ∉
        illumination.searchLines ++ titled "## Entities" illumination.entityLines := by
      rw [List.mem_append, not_or]
      exact ⟨title_not_mem (by decide) fun line hline => not_isTitle_of_isTop (htop line hline),
        hrest⟩
    obtain ⟨gap, hgap, htake⟩ := takeWhile_titled "## Entities"
      illumination.entityLines (by decide)
      fun line hline => not_isTitle_of_isTop (htop line hline)
    rw [hlines, sectionOf_append hmem, htake, List.filter_append, filter_isTop_blank hgap,
      List.append_nil, List.filter_eq_self]
    exact htop

/-- Lines under a bullet are kept for the bullet that comes before them. -/
theorem groupBullets_inner (rest : List Line) {ls : List Line} (h : ∀ line ∈ ls, IsInner line) :
    groupBullets (ls ++ rest) = (ls ++ (groupBullets rest).1, (groupBullets rest).2) := by
  induction ls with
  | nil => rfl
  | cons line ls ih =>
    rw [List.cons_append, groupBullets, ih fun line' hline' => h line' (List.mem_cons_of_mem _ hline'),
      (h line List.mem_cons_self).1]
    rfl

/-- Reading the bullets of rendered entities gives back the lines of each
entity, none merged and none split. -/
theorem groupBullets_entities (entities : List Entity) :
    groupBullets (entities.flatMap Entity.lines) = ([], entities.map Entity.lines) := by
  induction entities with
  | nil => rfl
  | cons entity entities ih =>
    rw [List.flatMap_cons, entity_lines_eq, List.cons_append, groupBullets,
      groupBullets_inner _ (isInner_entity entity), ih, isTop_entity_line, List.append_nil]
    rfl

/-- Blank lines make no bullet. -/
theorem groupBullets_blank {ls : List Line} (h : ∀ line ∈ ls, line = []) :
    (groupBullets ls).2 = [] := by
  have hinner := groupBullets_inner [] fun line hline => by
    rw [h line hline]
    exact isInner_nil
  rw [List.append_nil] at hinner
  rw [hinner]
  rfl

/-- **What is read back of the entities.** -/
theorem readEntities_eq (illumination : Illumination) :
    (groupBullets (sectionOf "## Entities".toList illumination.lines)).2 =
      illumination.entities.map Entity.lines := by
  have hnot := not_isTitle_entityLines illumination
  by_cases hnil : illumination.entities = []
  · have hlines : illumination.lines =
        illumination.preamble ++ titled "## Suggested searches" illumination.searchLines := by
      unfold Illumination.lines Illumination.entityLines
      rw [hnil]
      exact List.append_nil _
    have hrest : "## Entities".toList ∉
        titled "## Suggested searches" illumination.searchLines :=
      title_not_mem_titled (by decide) (by decide) fun line hline =>
        not_isTitle_of_isTop (isTop_searchLines illumination line hline)
    rw [hlines, hnil, groupBullets_blank]
    · rfl
    · exact sectionOf_untitled illumination (by decide) (by decide) hrest
  · have hne : illumination.entityLines ≠ [] := by
      obtain ⟨entity, hentity⟩ := List.exists_mem_of_ne_nil _ hnil
      exact List.ne_nil_of_mem (List.mem_flatMap.mpr ⟨entity, hentity, List.mem_cons_self⟩)
    have hlines : illumination.lines =
        (illumination.preamble ++ titled "## Suggested searches" illumination.searchLines ++
          [[]]) ++ "## Entities".toList :: illumination.entityLines := by
      unfold Illumination.lines
      rw [titled_cons hne]
      simp only [List.append_assoc, List.cons_append, List.nil_append]
    have hself : illumination.entityLines.takeWhile (fun line => ¬ isTitle line) =
        illumination.entityLines := by
      rw [List.takeWhile_eq_self_iff]
      intro line hline
      rw [hnot line hline]
      rfl
    rw [hlines, sectionOf_append (title_not_mem (by decide) hnot), hself]
    unfold Illumination.entityLines
    rw [groupBullets_entities]

/-! ## When they are bullets of their own -/

/-- A field that is there is in the text. -/
theorem mem_optional {before text : String} {field : Option String} (h : text ∈ field) :
    text.toList <:+: (optional before field "").toList := by
  obtain rfl : field = some text := h
  unfold optional
  rw [String.toList_append, String.toList_append]
  exact List.infix_append _ _ _

/-- The bullet of a platform link holds each of its texts. -/
theorem isBullet_link (link : PlatformLink) : IsBullet "  - " link.texts link.line.toList := by
  refine ⟨starts_link_line link, fun text htext => ?_⟩
  unfold PlatformLink.texts at htext
  unfold PlatformLink.line
  simp only [List.mem_cons, List.mem_append, Option.mem_toList] at htext
  simp only [String.toList_append]
  obtain rfl | (hname | hhandle) | hurl := htext
  · refine List.infix_append_of_infix_left (List.infix_append_of_infix_left
      (List.infix_append_of_infix_left ?_))
    exact List.infix_append_of_infix_right (List.infix_refl _)
  · refine List.infix_append_of_infix_left (List.infix_append_of_infix_left ?_)
    exact List.infix_append_of_infix_right (mem_optional hname)
  · refine List.infix_append_of_infix_left ?_
    exact List.infix_append_of_infix_right (mem_optional hhandle)
  · exact List.infix_append_of_infix_right (mem_optional hurl)

/-- The bullet of an entity holds its name, its type and its description. -/
theorem isBullet_entity (entity : Entity) : IsBullet "- " entity.texts entity.line.toList := by
  refine ⟨isTop_iff.mp (isTop_entity_line entity), fun text htext => ?_⟩
  unfold Entity.texts at htext
  unfold Entity.line
  simp only [List.mem_cons, Option.mem_toList] at htext
  simp only [String.toList_append]
  refine List.infix_append_of_infix_left ?_
  obtain rfl | rfl | hdescription := htext
  · refine List.infix_append_of_infix_left (List.infix_append_of_infix_left
      (List.infix_append_of_infix_left (List.infix_append_of_infix_left ?_)))
    exact List.infix_append_of_infix_right (List.infix_refl _)
  · refine List.infix_append_of_infix_left (List.infix_append_of_infix_left ?_)
    exact List.infix_append_of_infix_right (List.infix_refl _)
  · exact List.infix_append_of_infix_right (mem_optional hdescription)

/-- The lines of an entity are its bullets without a search query only. -/
theorem isBlock_iff (entity : Entity) : IsBlock entity entity.lines ↔ entity.searchQuery = none := by
  constructor
  · rintro ⟨head, nested, hlines, -, hnested⟩
    cases hquery : entity.searchQuery with
    | none => rfl
    | some query =>
      -- the line after the entity's own is blank
      exfalso
      rw [entity_lines_eq, List.cons.injEq] at hlines
      rw [← hlines.2] at hnested
      unfold Entity.lines Entity.nestedTexts at hnested
      rw [hquery] at hnested
      obtain _ | ⟨hbullet, _⟩ := hnested
      exact absurd hbullet.starts (show ¬ "  - ".toList <+: [] by decide)
  · intro hquery
    refine ⟨_, _, entity_lines_eq entity, isBullet_entity entity, ?_⟩
    unfold Entity.lines Entity.nestedTexts
    rw [hquery]
    cases entity.platformLink with
    | none => exact .nil
    | some link => exact .cons (isBullet_link link) .nil

/-- **The entities of a document.** A reader of the rendered text finds
exactly one bullet for each entity, with that entity's lines. -/
theorem readEntities_toMarkdown {illumination : Illumination} (h : NoLineBreaks illumination) :
    readEntities illumination.toMarkdown.toList = illumination.entities.map Entity.lines := by
  unfold readEntities
  rw [lines_toMarkdown h, readEntities_eq]

/-- Each entity is one block of bullets exactly when none has a search query,
the field the renderer leaves without a line feed of its own. -/
theorem blocks_iff {illumination : Illumination} (h : NoLineBreaks illumination) :
    List.Forall₂ IsBlock illumination.entities
      (readEntities illumination.toMarkdown.toList) ↔
        ∀ entity ∈ illumination.entities, entity.searchQuery = none := by
  rw [readEntities_toMarkdown h, List.forall₂_map_right_iff, List.forall₂_same]
  exact forall₂_congr fun entity _ => isBlock_iff entity

/-- Each suggested search is one bullet that holds its text. -/
theorem searches_bullets {illumination : Illumination} (h : NoLineBreaks illumination) :
    List.Forall₂ (fun search => IsBullet "- " [search]) illumination.suggestedSearches
      (readSearches illumination.toMarkdown.toList) := by
  have hsearches : readSearches illumination.toMarkdown.toList = illumination.searchLines := by
    unfold readSearches
    rw [lines_toMarkdown h, readSearches_eq]
  rw [hsearches]
  unfold Illumination.searchLines
  rw [List.forall₂_map_right_iff, List.forall₂_same]
  intro search _
  refine ⟨isTop_iff.mp (isTop_search search), fun text htext => ?_⟩
  rw [List.mem_singleton.mp htext, String.toList_append]
  exact List.infix_append_of_infix_right (List.infix_refl _)

/-- **One bullet per line**: where no text field has a line break, the
bullets of the document are read back, each on a line of its own and the
nested ones under their entities, exactly where no entity has a search
query. -/
theorem one_bullet_per_line_iff (illumination : Illumination) (h : NoLineBreaks illumination) :
    OneBulletPerLine illumination illumination.toMarkdown.toList ↔
      ∀ entity ∈ illumination.entities, entity.searchQuery = none :=
  ⟨fun hone => (blocks_iff h).mp hone.entities,
    fun hquery => ⟨searches_bullets h, (blocks_iff h).mpr hquery⟩⟩

/-- An entity with a link. -/
def linked : Entity where
  name := "Ada"
  searchQuery := none
  description := none
  entityType := .meme
  platformLink := some { platform := .other, displayName := none, handle := none, url := none }

/-- What was seen of it, with the entity under this search query. -/
def seen (query : Option String) : Illumination where
  summary := "A meme"
  details := "A meme."
  suggestedSearches := ["memes"]
  entities := [{ linked with searchQuery := query }]

/-- Without a search query every bullet is read back. -/
theorem one_bullet_per_line_seen : OneBulletPerLine (seen none) (seen none).toMarkdown.toList :=
  (one_bullet_per_line_iff (seen none)
    ⟨by decide, by decide, by decide, by decide⟩).mpr (by decide)

/-- **A search query is written at the end of the line of its entity**, and a
blank line comes before the platform link. -/
theorem search_query_on_entity_line :
    NoLineBreaks (seen (some "ada")) ∧
    readEntities (seen (some "ada")).toMarkdown.toList =
      [["- **Ada** (`meme`)  - Search query: ada".toList, "".toList,
        "  - Platform: other".toList]] ∧
    ¬ OneBulletPerLine (seen (some "ada")) (seen (some "ada")).toMarkdown.toList := by
  have hlines : NoLineBreaks (seen (some "ada")) :=
    ⟨by decide, by decide, by decide, by decide⟩
  refine ⟨hlines, ?_, fun h => ?_⟩
  · rw [readEntities_toMarkdown hlines]
    decide +kernel
  · exact absurd ((blocks_iff hlines).mp h.entities) (by decide)

end V2

end Dreamscroll
