import Mathlib.Data.Nat.Notation
import Mathlib.Tactic.Common
import Mathlib.Tactic.IntervalCases
/-!
# Query strings

`application/x-www-form-urlencoded`, as a browser serialises it and a
server parses it, for ASCII text. What is serialised is parsed back
(`parseQuery_serializeQuery`).
-/

namespace Dreamscroll

/-- The characters left alone. -/
def isUnreserved (c : Char) : Bool :=
  c.isAlphanum || c = '*' || c = '-' || c = '.' || c = '_'

/-- An upper-case hexadecimal digit. -/
def hexDigit (n : ℕ) : Char := if n < 10 then Char.ofNat (48 + n) else Char.ofNat (55 + n)

/-- The value of a hexadecimal digit, of either case. -/
def hexValue (c : Char) : Option ℕ :=
  if c.isDigit then some (c.toNat - 48)
  else if 'A' ≤ c ∧ c ≤ 'F' then some (c.toNat - 55)
  else if 'a' ≤ c ∧ c ≤ 'f' then some (c.toNat - 87)
  else none

/-- A character of a query: a space is a plus. -/
def formEncodeChar (c : Char) : List Char :=
  if c = ' ' then ['+']
  else if isUnreserved c then [c]
  else ['%', hexDigit (c.toNat / 16), hexDigit (c.toNat % 16)]

/-- A text of a query. -/
def formEncode (text : List Char) : List Char := text.flatMap formEncodeChar

/-- A `%` that two digits do not follow stands for itself. -/
def formDecode : List Char → List Char
  | [] => []
  | [c] => [if c = '+' then ' ' else c]
  | [c, c'] => [if c = '+' then ' ' else c, if c' = '+' then ' ' else c']
  | c :: h :: l :: cs =>
    if c = '%' then
      match hexValue h, hexValue l with
      | some a, some b => Char.ofNat (16 * a + b) :: formDecode cs
      | _, _ => '%' :: formDecode (h :: l :: cs)
    else (if c = '+' then ' ' else c) :: formDecode (h :: l :: cs)

/-- The pairs, each name and value encoded. -/
def serializeQuery (pairs : List (List Char × List Char)) : List Char :=
  ['&'].intercalate (pairs.map fun p => formEncode p.1 ++ '=' :: formEncode p.2)

/-- One pair, split at its first `=`. -/
def parsePair (pair : List Char) : List Char × List Char :=
  (formDecode (pair.takeWhile (· ≠ '=')), formDecode ((pair.dropWhile (· ≠ '=')).drop 1))

/-- The pairs of a query. Empty ones are left out. -/
def parseQuery (query : List Char) : List (List Char × List Char) :=
  ((query.splitOn '&').filter (· ≠ [])).map parsePair

/-! ## What is encoded is decoded -/

variable {c : Char} {text rest : List Char}

theorem formDecode_cons (hplus : c ≠ '+') (hpercent : c ≠ '%') :
    formDecode (c :: rest) = c :: formDecode rest := by
  match rest with
  | [] => simp only [formDecode, if_neg hplus]
  | [_] => simp only [formDecode, if_neg hplus]
  | _ :: _ :: _ => simp only [formDecode, if_neg hplus, if_neg hpercent]

theorem formDecode_plus : formDecode ('+' :: rest) = ' ' :: formDecode rest := by
  match rest with
  | [] => rfl
  | [_] => rfl
  | _ :: _ :: _ => rfl

theorem hexValue_hexDigit {n : ℕ} (h : n < 16) : hexValue (hexDigit n) = some n := by
  interval_cases n <;> decide

theorem ne_of_isUnreserved (h : isUnreserved c = true) : c ≠ '+' ∧ c ≠ '%' ∧ c ≠ '&' ∧ c ≠ '=' := by
  refine ⟨?_, ?_, ?_, ?_⟩ <;> (rintro rfl; revert h; decide)

/-- **An ASCII character is decoded as it was encoded.** -/
theorem formDecode_formEncodeChar (h : c.toNat < 128) :
    formDecode (formEncodeChar c ++ rest) = c :: formDecode rest := by
  unfold formEncodeChar
  split_ifs with hspace hplain
  · rw [hspace]
    exact formDecode_plus
  · obtain ⟨hplus, hpercent, -, -⟩ := ne_of_isUnreserved hplain
    exact formDecode_cons hplus hpercent
  · have hhigh := hexValue_hexDigit (n := c.toNat / 16) (by omega)
    have hlow := hexValue_hexDigit (n := c.toNat % 16) (by omega)
    have hcode : 16 * (c.toNat / 16) + c.toNat % 16 = c.toNat := Nat.div_add_mod _ _
    simp only [List.cons_append, List.nil_append, formDecode, if_true, hhigh, hlow, hcode,
      Char.ofNat_toNat]

theorem formDecode_formEncode (h : ∀ c ∈ text, c.toNat < 128) :
    formDecode (formEncode text) = text := by
  induction text with
  | nil => rfl
  | cons c cs ih =>
    unfold formEncode at ih ⊢
    rw [List.flatMap_cons, formDecode_formEncodeChar (h c List.mem_cons_self),
      ih fun c hc => h c (List.mem_cons_of_mem _ hc)]

/-- No separator is left in what is encoded. -/
theorem ne_of_mem_formEncode (h : ∀ c ∈ text, c.toNat < 128) (hc : c ∈ formEncode text) :
    c ≠ '&' ∧ c ≠ '=' := by
  have hdigit : ∀ n < 16, hexDigit n ≠ '&' ∧ hexDigit n ≠ '=' := by
    intro n hn
    interval_cases n <;> decide
  obtain ⟨c', hc', hmem⟩ := List.mem_flatMap.1 hc
  have hlt := h c' hc'
  unfold formEncodeChar at hmem
  split_ifs at hmem with hspace hplain
  · rw [List.mem_singleton.1 hmem]
    decide
  · rw [List.mem_singleton.1 hmem]
    exact (ne_of_isUnreserved hplain).2.2
  · simp only [List.mem_cons, List.not_mem_nil, or_false] at hmem
    rcases hmem with rfl | rfl | rfl
    · decide
    · exact hdigit _ (by omega)
    · exact hdigit _ (by omega)

/-- A text of the source is checked once. -/
theorem ascii_of_all (h : text.all (fun c => decide (c.toNat < 128)) = true) :
    ∀ c ∈ text, c.toNat < 128 := fun c hc => of_decide_eq_true (List.all_eq_true.1 h c hc)

/-- Both parts of the pair are ASCII text. -/
def AsciiPair (p : List Char × List Char) : Prop :=
  (∀ c ∈ p.1, c.toNat < 128) ∧ ∀ c ∈ p.2, c.toNat < 128

theorem parsePair_serialized {p : List Char × List Char} (h : AsciiPair p) :
    parsePair (formEncode p.1 ++ '=' :: formEncode p.2) = p := by
  have hname : ∀ c ∈ formEncode p.1, (decide (c ≠ '=')) = true := by
    intro c hc
    exact decide_eq_true (ne_of_mem_formEncode h.1 hc).2
  unfold parsePair
  rw [List.takeWhile_append_of_pos hname, List.dropWhile_append_of_pos hname,
    List.takeWhile_cons_of_neg (by decide), List.dropWhile_cons_of_neg (by decide),
    List.append_nil, List.drop_succ_cons, List.drop_zero, formDecode_formEncode h.1,
    formDecode_formEncode h.2]

/-- **A query that is serialised is parsed back.** -/
theorem parseQuery_serializeQuery {pairs : List (List Char × List Char)}
    (h : ∀ p ∈ pairs, AsciiPair p) : parseQuery (serializeQuery pairs) = pairs := by
  cases pairs with
  | nil => rfl
  | cons p ps =>
    unfold parseQuery serializeQuery
    rw [List.splitOn_intercalate '&' ?_ (by simp), List.filter_eq_self.2 ?_, List.map_map]
    · refine (List.map_congr_left fun p' hp' => ?_).trans (List.map_id _)
      exact parsePair_serialized (h p' hp')
    · intro l hl
      obtain ⟨p', -, rfl⟩ := List.mem_map.1 hl
      simp
    · intro l hl hmem
      obtain ⟨p', hp', rfl⟩ := List.mem_map.1 hl
      rcases List.mem_append.1 hmem with hc | hc
      · exact (ne_of_mem_formEncode (h p' hp').1 hc).1 rfl
      · rcases List.mem_cons.1 hc with hc | hc
        · exact absurd hc (by decide)
        · exact (ne_of_mem_formEncode (h p' hp').2 hc).1 rfl

end Dreamscroll
