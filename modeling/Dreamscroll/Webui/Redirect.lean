import Dreamscroll.Common.Url
/-!
# Where an archive action goes next

`redirect_target`, on whatever the form says: a path of this site, or the
page the action falls back on. A browser resolves it against the page the
form was on, and stays on the site (`redirect_stays`).
-/

namespace Dreamscroll

namespace Webui

open Whatwg

/-! ## The redirect -/

/-- `char::is_control`: the general category Cc. -/
def isControl (c : Char) : Bool := c.toNat < 0x20 || (0x7f ≤ c.toNat && c.toNat ≤ 0x9f)

/-- Only local paths are honored, so the form cannot be used as an open
redirect. -/
def isLocal (next : String) : Bool :=
  "/".toList.isPrefixOf next.toList && !"//".toList.isPrefixOf next.toList &&
    !next.toList.contains '\\' && !next.toList.any isControl

/-- **`redirect_target`.** -/
def redirectTarget (next fallback : String) : String :=
  if isLocal next then next else fallback

/-- The routes that redirect. -/
inductive ArchiveRoute
  | archive
  | unarchive
  deriving DecidableEq, Repr

/-- Where an action goes whose form says nothing. -/
def ArchiveRoute.fallback : ArchiveRoute → String
  | archive => "/"
  | unarchive => "/archived"

/-- `Redirect::to`, of an action that succeeded. -/
def ArchiveRoute.location (route : ArchiveRoute) (next : String) : String :=
  redirectTarget next route.fallback

/-! ## As a header -/

/-- The UTF-8 bytes of a text. -/
def bytes (text : String) : List UInt8 := text.toList.flatMap String.utf8EncodeChar

/-- **A valid header value**, as `HeaderValue::try_from` takes it: visible
bytes, spaces and tabs. -/
def IsHeaderValue (text : String) : Prop :=
  ∀ b ∈ bytes text, (32 ≤ b.toNat ∧ b.toNat ≠ 127) ∨ b.toNat = 9

/-- A byte is the ASCII character it encodes, or has its first bit set. -/
theorem mem_utf8EncodeChar {c : Char} {b : UInt8} (h : b ∈ String.utf8EncodeChar c) :
    b.toNat = c.toNat ∧ c.toNat < 128 ∨ 128 ≤ b.toNat := by
  have hval : c.val.toNat = c.toNat := rfl
  unfold String.utf8EncodeChar at h
  dsimp only at h
  rw [hval] at h
  split_ifs at h with h7f h7ff hffff
  · left
    rw [List.mem_singleton] at h
    rw [h, UInt8.toNat_ofNat']
    omega
  · right
    simp only [List.mem_cons, List.not_mem_nil, or_false] at h
    obtain rfl | rfl := h
    · rw [UInt8.toNat_ofNat']
      omega
    · rw [UInt8.toNat_ofNat']
      omega
  · right
    simp only [List.mem_cons, List.not_mem_nil, or_false] at h
    obtain rfl | rfl | rfl := h
    · rw [UInt8.toNat_ofNat']
      omega
    · rw [UInt8.toNat_ofNat']
      omega
    · rw [UInt8.toNat_ofNat']
      omega
  · right
    simp only [List.mem_cons, List.not_mem_nil, or_false] at h
    obtain rfl | rfl | rfl | rfl := h
    · rw [UInt8.toNat_ofNat']
      omega
    · rw [UInt8.toNat_ofNat']
      omega
    · rw [UInt8.toNat_ofNat']
      omega
    · rw [UInt8.toNat_ofNat']
      omega

theorem isHeaderValue_of_plain {text : String} (h : ∀ c ∈ text.toList, isControl c = false) :
    IsHeaderValue text := by
  intro b hb
  obtain ⟨c, hc, hmem⟩ := List.mem_flatMap.mp hb
  have hplain := h c hc
  unfold isControl at hplain
  simp only [Bool.or_eq_false_iff, Bool.and_eq_false_iff, decide_eq_false_iff_not] at hplain
  left
  obtain ⟨heq, hascii⟩ | hhigh := mem_utf8EncodeChar hmem
  · omega
  · omega

/-! ## On the page -/

/-- What is honored: one slash in front, no backslash and no control
character. -/
structure LocalPath (text : String) : Prop where
  slash : ∃ rest, text.toList = '/' :: rest ∧ rest.head? ≠ some '/'
  noBackslash : '\\' ∉ text.toList
  plain : ∀ c ∈ text.toList, isControl c = false

theorem localPath_of_isLocal {next : String} (h : isLocal next = true) : LocalPath next := by
  unfold isLocal at h
  simp only [Bool.and_eq_true, Bool.not_eq_true', List.any_eq_false, List.contains_eq_mem,
    decide_eq_false_iff_not] at h
  obtain ⟨⟨⟨hslash, hslashes⟩, hbackslash⟩, hplain⟩ := h
  refine ⟨?_, hbackslash, fun c hc => Bool.eq_false_iff.mpr (hplain c hc)⟩
  obtain ⟨rest, hrest⟩ := List.isPrefixOf_iff_prefix.mp hslash
  refine ⟨rest, hrest.symm, fun hhead => ?_⟩
  obtain ⟨rest', rfl⟩ := List.head?_eq_some_iff.mp hhead
  rw [← hrest] at hslashes
  cases hslashes

theorem localPath_fallback (route : ArchiveRoute) : LocalPath route.fallback := by
  rcases route with _ | _
  · exact localPath_of_isLocal (by decide)
  · exact localPath_of_isLocal (by decide)

/-- Every redirect is to a local path. -/
theorem localPath_location (route : ArchiveRoute) (next : String) :
    LocalPath (route.location next) := by
  unfold ArchiveRoute.location redirectTarget
  by_cases h : isLocal next = true
  · rw [if_pos h]
    exact localPath_of_isLocal h
  · rw [if_neg h]
    exact localPath_fallback route

/-- Tabs and line breaks are control characters. -/
theorem not_isTabOrNewline {c : Char} (h : isControl c = false) : isTabOrNewline c = false := by
  rw [← Bool.not_eq_true]
  intro htab
  unfold isTabOrNewline at htab
  simp only [Bool.or_eq_true, decide_eq_true_eq] at htab
  obtain (rfl | rfl) | rfl := htab
  · exact absurd h (by decide)
  · exact absurd h (by decide)
  · exact absurd h (by decide)

theorem LocalPath.resolves {Host : Type} (parseHost : List Char → Option Host) (page : Url Host)
    {text : String} (h : LocalPath text) :
    ∃ u, resolve parseHost page text.toList = some (.url u) ∧ SameSite page u := by
  obtain ⟨rest, htext, hhead⟩ := h.slash
  have hmem : ∀ c ∈ rest, c ∈ text.toList := by
    intro c hc
    rw [htext]
    exact List.mem_cons_of_mem _ hc
  rw [htext]
  refine resolve_local parseHost page ?_ fun c hc => not_isTabOrNewline (h.plain c (hmem c hc))
  intro c hc
  obtain ⟨rest', rfl⟩ := List.head?_eq_some_iff.mp hc
  have hslash : c ≠ '/' := fun heq => hhead (congrArg some heq)
  have hbackslash : c ≠ '\\' := fun heq => h.noBackslash (heq ▸ hmem c List.mem_cons_self)
  unfold isSlash
  rw [decide_eq_false hslash, decide_eq_false hbackslash]
  rfl

/-- **No open redirect**: whatever is posted as the next page, the location
is a valid header value, and on every page of the site it resolves to a URL
of the same scheme, host and port. -/
theorem redirect_stays {Host : Type} (parseHost : List Char → Option Host) (page : Url Host)
    (route : ArchiveRoute) (next : String) :
    IsHeaderValue (route.location next) ∧
      ∃ u, resolve parseHost page (route.location next).toList = some (.url u) ∧
        u.scheme = page.scheme ∧ u.host = page.host ∧ u.port = page.port := by
  have hlocal := localPath_location route next
  obtain ⟨u, hresolve, hsame⟩ := hlocal.resolves parseHost page
  exact ⟨isHeaderValue_of_plain hlocal.plain, u, hresolve, hsame.scheme, hsame.host, hsame.port⟩

/-- What the check is for: a backslash that is a slash to a browser. -/
example : (resolve some (Url.mk .https [] [] "site".toList none [] none none)
    "/\\evil.example".toList).map (fun
      | .url u => u.host
      | .other name => name) = some "evil.example".toList := by
  decide +kernel

end Webui

end Dreamscroll
