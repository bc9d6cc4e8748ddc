import Mathlib.Data.List.Basic
/-!
# Lines of a text

`str::lines`: a line ends with a line feed, or a carriage return and a line
feed, and neither belongs to it. What was written one line at a time is read
one line at a time (`lines_unlines`).
-/

namespace Dreamscroll

/-- The line without the carriage return before its line feed. -/
def stripCr (line : List Char) : List Char :=
  if line.getLast? = some '\r' then line.dropLast else line

/-- The lines that begin with `acc`. -/
def linesFrom : List Char → List Char → List (List Char)
  | acc, [] => if acc = [] then [] else [acc]
  | acc, c :: cs => if c = '\n' then stripCr acc :: linesFrom [] cs else linesFrom (acc ++ [c]) cs

/-- `str::lines`. -/
def lines (text : List Char) : List (List Char) := linesFrom [] text

/-- Every line with its line feed. -/
def unlines (ls : List (List Char)) : List Char := ls.flatMap fun line => line ++ ['\n']

/-- The text is one line, without its end. -/
def IsLine (line : List Char) : Prop := '\n' ∉ line ∧ '\r' ∉ line

instance (line : List Char) : Decidable (IsLine line) :=
  inferInstanceAs (Decidable ('\n' ∉ line ∧ '\r' ∉ line))

variable {acc line rest : List Char} {ls : List (List Char)}

theorem linesFrom_append (h : '\n' ∉ line) :
    linesFrom acc (line ++ '\n' :: rest) = stripCr (acc ++ line) :: lines rest := by
  induction line generalizing acc with
  | nil => rw [List.nil_append, linesFrom, if_pos rfl, List.append_nil, lines]
  | cons c line ih =>
    have hc : c ≠ '\n' := fun heq => h (heq ▸ List.mem_cons_self)
    rw [List.cons_append, linesFrom, if_neg hc, ih fun hmem => h (List.mem_cons_of_mem _ hmem),
      List.append_assoc, List.singleton_append]

theorem stripCr_of_isLine (h : IsLine line) : stripCr line = line := by
  rw [stripCr, if_neg]
  intro hlast
  exact h.2 (List.mem_of_getLast? hlast)

/-- **What is written line by line is read line by line.** -/
theorem lines_unlines (h : ∀ line ∈ ls, IsLine line) : lines (unlines ls) = ls := by
  induction ls with
  | nil => rfl
  | cons line ls ih =>
    have hline := h line List.mem_cons_self
    have happend : unlines (line :: ls) = line ++ '\n' :: unlines ls := by
      unfold unlines
      rw [List.flatMap_cons, List.append_assoc, List.singleton_append]
    rw [happend, lines, linesFrom_append hline.1, List.nil_append, stripCr_of_isLine hline,
      ih fun line' hline' => h line' (List.mem_cons_of_mem _ hline')]

end Dreamscroll
