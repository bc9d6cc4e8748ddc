import Mathlib.Data.List.Basic
import Mathlib.Data.List.Induction
import Mathlib.Data.Nat.Notation
/-!
# Journals

A list to which entries are only added. Each entry may be asked to be
justified by the entries before it (`Justified`), what an entry writes under
a key stands until the next one under that key (`lastWritten`), and what was
read of the journal at some time stays the reading of that time while later
entries are added (`ReadAt`).
-/

namespace Dreamscroll.Journal

variable {ε κ α : Type*} {J : List ε → ε → Prop} {log older newer : List ε} {e : ε}

/-! ## Justified entries -/

/-- **Each entry is justified by those before it.** -/
def Justified (J : List ε → ε → Prop) (log : List ε) : Prop :=
  ∀ before e after, log = before ++ e :: after → J before e

theorem justified_nil : Justified J [] := by
  intro before _ after hsplit
  have hlength := congrArg List.length hsplit
  simp only [List.length_nil, List.length_append, List.length_cons] at hlength
  omega

theorem Justified.concat (h : Justified J log) (he : J log e) : Justified J (log ++ [e]) := by
  intro before e' after hsplit
  rcases List.eq_nil_or_concat' after with rfl | ⟨after', last, rfl⟩
  · obtain ⟨hlog, hlast⟩ := List.append_inj' hsplit rfl
    obtain rfl : e = e' := List.singleton_inj.1 hlast
    rw [← hlog]
    exact he
  · have hsplit' : log ++ [e] = (before ++ e' :: after') ++ [last] := by
      rw [hsplit, List.append_assoc, List.cons_append]
    exact h before e' after' (List.append_inj' hsplit' rfl).1

theorem Justified.of_append (h : Justified J (older ++ newer)) : Justified J older := by
  intro before e after hsplit
  refine h before e (after ++ newer) ?_
  rw [hsplit, List.append_assoc, List.cons_append]

/-- **What justified entries keep**, from the journal they are added to. -/
theorem Justified.keep {I : List ε → Prop} (h : Justified J (older ++ newer)) (hI : I older)
    (hstep : ∀ before e, older <+: before → e ∈ newer → J before e → I before → I (before ++ [e])) :
    I (older ++ newer) := by
  induction newer using List.reverseRecOn with
  | nil => rwa [List.append_nil]
  | append_singleton newer e ih =>
    rw [← List.append_assoc] at h ⊢
    have hbefore : I (older ++ newer) := ih h.of_append fun before e' hbegins hmem =>
      hstep before e' hbegins (List.mem_append_left _ hmem)
    have he : J (older ++ newer) e := h (older ++ newer) e [] rfl
    exact hstep _ e (List.prefix_append ..) (List.mem_append_right _ List.mem_cons_self) he hbefore

/-- And from the empty one. -/
theorem Justified.keep_nil {I : List ε → Prop} (h : Justified J log) (hI : I [])
    (hstep : ∀ before e, J before e → I before → I (before ++ [e])) : I log :=
  Justified.keep (show Justified J ([] ++ log) from h) hI
    fun before e _ _ he hbefore => hstep before e he hbefore

/-! ## What was written last -/

section LastWritten

variable [DecidableEq κ] (written : ε → Option (κ × α)) {k : κ}

/-- What the last entry under this key has written. -/
def lastWritten (k : κ) (log : List ε) : Option α :=
  log.foldl (fun value e =>
    match written e with
    | some (k', a) => if k' = k then some a else value
    | none => value) none

theorem lastWritten_concat : lastWritten written k (log ++ [e]) =
    match written e with
    | some (k', a) => if k' = k then some a else lastWritten written k log
    | none => lastWritten written k log := by
  unfold lastWritten
  rw [List.foldl_append]
  rfl

variable {written}

theorem lastWritten_concat_of_none (h : written e = none) :
    lastWritten written k (log ++ [e]) = lastWritten written k log := by
  rw [lastWritten_concat, h]

end LastWritten

/-! ## Readings -/

section Readings

variable (time : ε → ℕ) {t : ℕ} {P Q : List ε → Prop}

/-- **`P` was read at time `t`**: it held of the entries up to some point,
which had been added by then, and the others were added since. -/
def ReadAt (t : ℕ) (P : List ε → Prop) (log : List ε) : Prop :=
  ∃ older newer, log = older ++ newer ∧ P older ∧ (∀ e ∈ older, time e ≤ t) ∧
    ∀ e ∈ newer, t ≤ time e

variable {time}

theorem readAt_now (hP : P log) (htime : ∀ e ∈ log, time e ≤ t) : ReadAt time t P log :=
  ⟨log, [], (List.append_nil log).symm, hP, htime, fun _ he => absurd he List.not_mem_nil⟩

theorem ReadAt.append (h : ReadAt time t P log) (hnewer : ∀ e ∈ newer, t ≤ time e) :
    ReadAt time t P (log ++ newer) := by
  obtain ⟨older, since, rfl, hP, holder, hsince⟩ := h
  refine ⟨older, since ++ newer, List.append_assoc .., hP, holder, fun e he => ?_⟩
  rcases List.mem_append.1 he with he | he
  · exact hsince e he
  · exact hnewer e he

theorem ReadAt.mono (h : ReadAt time t P log) (hPQ : ∀ older, older <+: log → P older → Q older) :
    ReadAt time t Q log := by
  obtain ⟨older, since, rfl, hP, holder, hsince⟩ := h
  exact ⟨older, since, rfl, hPQ older (List.prefix_append ..) hP, holder, hsince⟩

end Readings

end Dreamscroll.Journal
