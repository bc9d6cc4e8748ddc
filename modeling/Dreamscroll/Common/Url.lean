import Mathlib.Data.List.TakeWhile
import Mathlib.Tactic.Common
/-!
# Resolving a reference against a page

The WHATWG URL parser, for a base of the scheme `http` or `https`: what a
browser makes of a reference it finds on a page. White space around the
reference goes, tabs and line breaks in it go, and a backslash is a slash. A
reference of another scheme is told apart and not parsed further, hosts are
parsed by a parameter, and what the URL holds is as it was written, before
its percent-encoding.

`resolve_local` is the rule for references that begin with one slash: the
URL differs from the page's in its path, query and fragment only.
-/

namespace Dreamscroll

namespace Whatwg

/-- The schemes of the web. -/
inductive Scheme
  | http
  | https
  deriving DecidableEq, Repr

/-- Their names. -/
def Scheme.toString : Scheme → String
  | http => "http"
  | https => "https"

/-- The port that is not written. -/
def Scheme.defaultPort : Scheme → ℕ
  | http => 80
  | https => 443

/-- A URL of the web, as a parser leaves it. -/
structure Url (Host : Type) where
  scheme : Scheme
  username : List Char
  password : List Char
  host : Host
  /-- None for the default port of the scheme. -/
  port : Option ℕ
  path : List (List Char)
  query : Option (List Char)
  fragment : Option (List Char)
  deriving DecidableEq, Repr

/-- What a reference is: an `http` or `https` URL, or one of another scheme. -/
inductive Resolved (Host : Type)
  | url (u : Url Host)
  | other (scheme : List Char)
  deriving DecidableEq, Repr

/-! ## Characters -/

/-- A C0 control or a space. -/
def isC0OrSpace (c : Char) : Bool := c.toNat ≤ 0x20

/-- What a parser drops wherever it stands. -/
def isTabOrNewline (c : Char) : Bool := c = '\t' || c = '\n' || c = '\r'

/-- A slash, in the special schemes. -/
def isSlash (c : Char) : Bool := c = '/' || c = '\\'

/-- What a scheme goes on with. -/
def isSchemeChar (c : Char) : Bool := c.isAlphanum || c = '+' || c = '-' || c = '.'

/-- The authority ends here. -/
def isTerminator (c : Char) : Bool := isSlash c || c = '?' || c = '#'

/-- The reference as it is parsed: trimmed, and without tabs and line
breaks. -/
def strip (input : List Char) : List Char :=
  (((input.dropWhile isC0OrSpace).reverse.dropWhile isC0OrSpace).reverse).filter
    fun c => !isTabOrNewline c

/-! ## Path, query and fragment -/

/-- A segment in lower case, ASCII alone. -/
def lower (segment : List Char) : List Char := segment.map Char.toLower

/-- A segment that stands for its own directory. -/
def isSingleDot (segment : List Char) : Bool :=
  lower segment = ".".toList || lower segment = "%2e".toList

/-- And one for the directory above. -/
def isDoubleDot (segment : List Char) : Bool :=
  lower segment = "..".toList || lower segment = ".%2e".toList ||
    lower segment = "%2e.".toList || lower segment = "%2e%2e".toList

/-- A segment that is read, and whether a slash follows it. -/
def pushSegment (path : List (List Char)) (segment : List Char) (slash : Bool) :
    List (List Char) :=
  if isDoubleDot segment then
    if slash then path.dropLast else path.dropLast ++ [[]]
  else if isSingleDot segment then
    if slash then path else path ++ [[]]
  else path ++ [segment]

/-- The path state, on the characters of the path. -/
def pathState (path : List (List Char)) (buffer : List Char) : List Char → List (List Char)
  | [] => pushSegment path buffer false
  | c :: cs =>
    if isSlash c then pathState (pushSegment path buffer true) [] cs
    else pathState path (buffer ++ [c]) cs

variable {Host : Type}

/-- The query state. -/
def queryState (u : Url Host) (input : List Char) : Url Host :=
  { u with
    query := some (input.takeWhile (· ≠ '#'))
    fragment := match input.dropWhile (· ≠ '#') with
      | _ :: fragment => some fragment
      | [] => none }

/-- The path state, to the end of the reference. -/
def pathOnwards (u : Url Host) (input : List Char) : Url Host :=
  let u := { u with
    path := pathState u.path [] (input.takeWhile fun c => c ≠ '?' && c ≠ '#')
    query := none
    fragment := none }
  match input.dropWhile fun c => c ≠ '?' && c ≠ '#' with
  | '?' :: rest => queryState u rest
  | _ :: rest => { u with fragment := some rest }
  | [] => u

/-! ## Authority -/

/-- The characters of the host and those after its colon, which does not
count in brackets. -/
def splitPort (inside : Bool) : List Char → List Char × Option (List Char)
  | [] => ([], none)
  | c :: cs =>
    if c = ':' && !inside then ([], some cs)
    else
      let (host, port) := splitPort (c = '[' || (inside && c ≠ ']')) cs
      (c :: host, port)

/-- The port state: none where it fails. -/
def portState (scheme : Scheme) (digits : List Char) : Option (Option ℕ) :=
  if digits.all Char.isDigit then
    if digits = [] then some none
    else
      let port := digits.foldl (fun n d => n * 10 + (d.toNat - '0'.toNat)) 0
      if 65535 < port then none
      else some (if port = scheme.defaultPort then none else some port)
  else none

/-- The authority state and what follows, on a reference without its leading
slashes. -/
def authority (parseHost : List Char → Option Host) (scheme : Scheme) (input : List Char) :
    Option (Resolved Host) :=
  let text := input.takeWhile fun c => !isTerminator c
  let rest := input.dropWhile fun c => !isTerminator c
  let address := (text.reverse.takeWhile (· ≠ '@')).reverse
  let credentials := ((text.reverse.dropWhile (· ≠ '@')).drop 1).reverse
  let (hostText, portText) := splitPort false address
  if hostText = [] then none
  else
    (parseHost hostText).bind fun host =>
      (portState scheme (portText.getD [])).map fun port =>
        .url (pathOnwards
          { scheme, host, port
            username := credentials.takeWhile (· ≠ ':')
            password := (credentials.dropWhile (· ≠ ':')).drop 1
            path := [], query := none, fragment := none }
          -- the path start state reads one slash
          (match rest with
            | c :: cs => if isSlash c then cs else rest
            | [] => []))

/-! ## The reference -/

/-- The scheme state: the scheme, in lower case, and what follows its colon. -/
def splitScheme : List Char → Option (List Char × List Char)
  | [] => none
  | c :: cs =>
    if c.isAlpha then
      match (c :: cs).dropWhile isSchemeChar with
      | ':' :: rest => some (lower ((c :: cs).takeWhile isSchemeChar), rest)
      | _ => none
    else none

/-- The relative slash state. -/
def relativeSlash (parseHost : List Char → Option Host) (base : Url Host) (input : List Char) :
    Option (Resolved Host) :=
  match input with
  | c :: _ =>
    if isSlash c then authority parseHost base.scheme (input.dropWhile isSlash)
    else some (.url (pathOnwards { base with path := [] } input))
  | [] => some (.url (pathOnwards { base with path := [] } input))

/-- The relative state. -/
def relative (parseHost : List Char → Option Host) (base : Url Host) (input : List Char) :
    Option (Resolved Host) :=
  match input with
  | [] => some (.url { base with fragment := none })
  | c :: cs =>
    if isSlash c then relativeSlash parseHost base cs
    else if c = '?' then some (.url (queryState base cs))
    else if c = '#' then some (.url { base with fragment := some cs })
    else some (.url (pathOnwards { base with path := base.path.dropLast } input))

/-- **The URL of a reference on this page**, where it has one. -/
def resolve (parseHost : List Char → Option Host) (base : Url Host) (reference : List Char) :
    Option (Resolved Host) :=
  let input := strip reference
  match splitScheme input with
  | none => relative parseHost base input
  | some (name, rest) =>
    match [Scheme.http, Scheme.https].find? fun scheme => scheme.toString.toList = name with
    | none => some (.other name)
    | some scheme =>
      -- the special relative or authority state
      if scheme = base.scheme ∧ ¬ "//".toList <+: rest then relative parseHost base rest
      else authority parseHost scheme (rest.dropWhile isSlash)

/-! ## References to the same site -/

/-- The same scheme, host and port. -/
structure SameSite (base u : Url Host) : Prop where
  scheme : u.scheme = base.scheme
  host : u.host = base.host
  port : u.port = base.port

variable {parseHost : List Char → Option Host} {base u : Url Host}

theorem SameSite.pathOnwards (h : SameSite base u) (input : List Char) :
    SameSite base (Whatwg.pathOnwards u input) := by
  unfold Whatwg.pathOnwards
  dsimp only
  split
  · exact ⟨h.scheme, h.host, h.port⟩
  · exact ⟨h.scheme, h.host, h.port⟩
  · exact ⟨h.scheme, h.host, h.port⟩

/-- Trimming stops at a slash in front. -/
theorem trimEnd_slash (rest : List Char) :
    ∃ kept, kept <+: rest ∧
      (('/' :: rest).reverse.dropWhile isC0OrSpace).reverse = '/' :: kept := by
  have hslash : isC0OrSpace '/' = false := by decide
  have hkept : ('/' :: rest).reverse.dropWhile isC0OrSpace =
      rest.reverse.dropWhile isC0OrSpace ++ ['/'] := by
    rw [List.reverse_cons, List.dropWhile_append]
    split
    · rename_i hnil
      rw [List.isEmpty_iff.mp hnil, List.dropWhile_cons, hslash]
      rfl
    · rfl
  refine ⟨(rest.reverse.dropWhile isC0OrSpace).reverse, ?_, ?_⟩
  · rw [← List.reverse_suffix, List.reverse_reverse]
    exact List.dropWhile_suffix _
  · rw [hkept, List.reverse_append]
    rfl

/-- A reference without tabs and line breaks loses nothing but its ends. -/
theorem strip_slash {rest : List Char} (h : ∀ c ∈ rest, isTabOrNewline c = false) :
    ∃ kept, kept <+: rest ∧ strip ('/' :: rest) = '/' :: kept := by
  obtain ⟨kept, htaken, hkept⟩ := trimEnd_slash rest
  refine ⟨kept, htaken, ?_⟩
  have hslash : isC0OrSpace '/' = false := by decide
  unfold strip
  rw [List.dropWhile_cons, hslash, if_neg Bool.false_ne_true, hkept, List.filter_eq_self]
  intro c hc
  rcases List.mem_cons.mp hc with rfl | hc
  · decide
  · rw [h c (htaken.subset hc)]
    rfl

/-- **A reference that begins with one slash stays on the site.** Neither
its host nor its scheme is ever parsed. -/
theorem resolve_local (parseHost : List Char → Option Host) (base : Url Host) {rest : List Char}
    (hone : ∀ c ∈ rest.head?, isSlash c = false)
    (hplain : ∀ c ∈ rest, isTabOrNewline c = false) :
    ∃ u, resolve parseHost base ('/' :: rest) = some (.url u) ∧ SameSite base u := by
  obtain ⟨kept, htaken, hstrip⟩ := strip_slash hplain
  have hnone : splitScheme ('/' :: kept) = none := rfl
  have hbase : SameSite base { base with path := [] } := ⟨rfl, rfl, rfl⟩
  have hresolve : resolve parseHost base ('/' :: rest) = relativeSlash parseHost base kept := by
    unfold resolve
    dsimp only
    rw [hstrip, hnone]
    rfl
  refine ⟨pathOnwards { base with path := [] } kept, ?_, hbase.pathOnwards kept⟩
  rw [hresolve]
  rcases kept with _ | ⟨c, cs⟩
  · rfl
  · obtain ⟨after, rfl⟩ := htaken
    have hc : isSlash c = false := hone c rfl
    unfold relativeSlash
    dsimp only
    rw [hc, if_neg Bool.false_ne_true]

end Whatwg

end Dreamscroll
