import Mathlib.Data.List.Basic
import Mathlib.Data.Nat.Notation
/-!
# Transition systems and their runs

A system is a guarded step function: `step s e` is the state after event
`e`, and `none` where the event is not enabled. A run is a list of events
all of which are enabled in turn, so one definition serves the proofs and
the replay of a concrete schedule.

What a proof about every run needs is here once: an invariant is carried
along a run (`run_inv`), a property of steps is asked of every step of a
run (`Along`), or found at one of them (`Occurs`), and both are read at the
cuts of the run, its events before one step and after it (`Cut`).
-/

namespace Dreamscroll

/-- **A guarded step function.** -/
structure System (σ ε : Type*) where
  /-- The state after an event, `none` where the event is not enabled. -/
  step : σ → ε → Option σ

namespace System

variable {σ ε : Type*} (sys : System σ ε)

/-- Replay a list of events; `none` where one of them is not enabled. -/
def run : σ → List ε → Option σ
  | s, [] => some s
  | s, e :: es => (sys.step s e).bind fun s' => run s' es

/-- Every step of the replay satisfies `P`, as far as it is enabled. -/
def Along (P : σ → ε → σ → Prop) : σ → List ε → Prop
  | _, [] => True
  | s, e :: es => ∀ s', sys.step s e = some s' → P s e s' ∧ Along P s' es

/-- Some run from `s` ends in `s'`. -/
def Reachable (s s' : σ) : Prop := ∃ es, sys.run s es = some s'

/-- Some step of the replay satisfies `P`. -/
def Occurs (P : σ → ε → σ → Prop) : σ → List ε → Prop
  | _, [] => False
  | s, e :: es => ∃ s', sys.step s e = some s' ∧ (P s e s' ∨ Occurs P s' es)

/-- Whether a run has only steps satisfying `P` is decided by replaying it. -/
instance decidableAlong (P : σ → ε → σ → Prop) [∀ s e s', Decidable (P s e s')] :
    ∀ s es, Decidable (sys.Along P s es)
  | _, [] => isTrue trivial
  | s, e :: es =>
    match h : sys.step s e with
    | none => isTrue fun s' hs => by rw [h] at hs; cases hs
    | some s₁ =>
      match decidableAlong P s₁ es with
      | isTrue ht =>
        if hp : P s e s₁ then
          isTrue fun s' hs => by rw [h] at hs; cases hs; exact ⟨hp, ht⟩
        else isFalse fun ha => hp (ha s₁ h).1
      | isFalse hf => isFalse fun ha => hf (ha s₁ h).2

/-! ## Replaying -/

variable {sys} {s s' s₁ s₂ : σ} {e : ε} {es es₁ es₂ : List ε} {P Q : σ → ε → σ → Prop}

/-- A run begins with its first event. -/
theorem run_cons : sys.run s (e :: es) = (sys.step s e).bind fun s' => sys.run s' es := rfl

/-- A run that goes through has a state behind its first event. -/
theorem run_cons_eq_some :
    sys.run s (e :: es) = some s' ↔ ∃ t, sys.step s e = some t ∧ sys.run t es = some s' := by
  rw [run_cons, Option.bind_eq_some_iff]

/-- A run in two parts. -/
theorem run_append :
    sys.run s (es₁ ++ es₂) = (sys.run s es₁).bind fun t => sys.run t es₂ := by
  induction es₁ generalizing s with
  | nil => rfl
  | cons e es ih =>
    rw [List.cons_append, run_cons, run_cons]
    cases sys.step s e with
    | none => rfl
    | some t => exact ih

/-- A run in two parts that goes through has a state between them. -/
theorem run_append_eq_some :
    sys.run s (es₁ ++ es₂) = some s' ↔
      ∃ t, sys.run s es₁ = some t ∧ sys.run t es₂ = some s' := by
  rw [run_append, Option.bind_eq_some_iff]

/-- A run of one event is a step. -/
theorem run_singleton : sys.run s [e] = sys.step s e := by
  rw [run_cons]
  cases sys.step s e <;> rfl

/-! ## Invariants -/

/-- **An invariant is carried along a run.** -/
theorem run_inv {I : σ → Prop} (hstep : ∀ s e s', I s → sys.step s e = some s' → I s')
    (hs : I s) (h : sys.run s es = some s') : I s' := by
  induction es generalizing s with
  | nil => cases h; exact hs
  | cons e es ih =>
    obtain ⟨t, ht, hrun⟩ := run_cons_eq_some.1 h
    exact ih (hstep s e t hs ht) hrun

/-- **And where its step lemma asks something of the step**, along the
runs all of whose steps grant it. -/
theorem run_inv_along {I : σ → Prop}
    (hstep : ∀ s e s', I s → sys.step s e = some s' → P s e s' → I s')
    (hs : I s) (h : sys.run s es = some s') (ha : sys.Along P s es) : I s' := by
  induction es generalizing s with
  | nil => cases h; exact hs
  | cons e es ih =>
    obtain ⟨t, ht, hrun⟩ := run_cons_eq_some.1 h
    exact ih (hstep s e t hs ht (ha t ht).1) hrun (ha t ht).2

/-- **What an invariant grants of every step** holds along every run. -/
theorem along_of_inv {I : σ → Prop}
    (hstep : ∀ s e s', I s → sys.step s e = some s' → I s' ∧ Q s e s') (hs : I s) :
    sys.Along Q s es := by
  induction es generalizing s with
  | nil => trivial
  | cons e es ih =>
    intro t ht
    obtain ⟨hI, hQ⟩ := hstep s e t hs ht
    exact ⟨hQ, ih hI⟩

/-- **Where the step lemma knows how the run goes on**, the invariant is
carried to its end, and what else it grants holds along it. -/
theorem run_inv_to {I : σ → Prop}
    (hstep : ∀ s e t es, I s → sys.step s e = some t → sys.run t es = some s' → P s e t →
      I t ∧ Q s e t)
    (hs : I s) (h : sys.run s es = some s') (ha : sys.Along P s es) :
    I s' ∧ sys.Along Q s es := by
  induction es generalizing s with
  | nil => cases h; exact ⟨hs, trivial⟩
  | cons e es ih =>
    obtain ⟨t, ht, hrun⟩ := run_cons_eq_some.1 h
    obtain ⟨hP, ha'⟩ := ha t ht
    obtain ⟨hI, hQ⟩ := hstep s e t es hs ht hrun hP
    obtain ⟨hend, halong⟩ := ih hI hrun ha'
    refine ⟨hend, fun t' ht' => ?_⟩
    rw [ht] at ht'
    cases ht'
    exact ⟨hQ, halong⟩

/-- A state is reachable from itself. -/
theorem Reachable.refl : sys.Reachable s s := ⟨[], rfl⟩

/-- One step further is reachable still. -/
theorem Reachable.step (h : sys.Reachable s s₁) (hs : sys.step s₁ e = some s₂) :
    sys.Reachable s s₂ := by
  obtain ⟨es, hes⟩ := h
  exact ⟨es ++ [e], run_append_eq_some.2 ⟨s₁, hes, by rw [run_singleton, hs]⟩⟩

/-- **Where two properties of steps agree under an invariant**, they agree
along every run from it. -/
theorem along_congr {I : σ → Prop} (hstep : ∀ s e s', I s → sys.step s e = some s' → I s')
    (hPQ : ∀ s e s', I s → sys.step s e = some s' → (P s e s' ↔ Q s e s')) (hs : I s) :
    sys.Along P s es ↔ sys.Along Q s es := by
  induction es generalizing s with
  | nil => exact Iff.rfl
  | cons e es ih =>
    constructor
    · intro ha t ht
      exact ⟨(hPQ s e t hs ht).1 (ha t ht).1, (ih (hstep s e t hs ht)).1 (ha t ht).2⟩
    · intro ha t ht
      exact ⟨(hPQ s e t hs ht).2 (ha t ht).1, (ih (hstep s e t hs ht)).2 (ha t ht).2⟩

/-- Along a run is along both its parts. -/
theorem along_append (h : sys.run s es₁ = some s₁) :
    sys.Along P s (es₁ ++ es₂) ↔ sys.Along P s es₁ ∧ sys.Along P s₁ es₂ := by
  induction es₁ generalizing s with
  | nil => cases h; exact ⟨fun h => ⟨trivial, h⟩, fun h => h.2⟩
  | cons e es ih =>
    obtain ⟨t, ht, hrun⟩ := run_cons_eq_some.1 h
    constructor
    · intro ha
      have h₂ := (ih hrun).1 (ha t ht).2
      refine ⟨fun t' ht' => ?_, h₂.2⟩
      rw [ht] at ht'
      cases ht'
      exact ⟨(ha t ht).1, h₂.1⟩
    · rintro ⟨ha, hb⟩ t' ht'
      rw [ht] at ht'
      cases ht'
      exact ⟨(ha t ht).1, (ih hrun).2 ⟨(ha t ht).2, hb⟩⟩

/-- What follows at each step follows along the run. -/
theorem Along.imp (hPQ : ∀ s e s', sys.step s e = some s' → P s e s' → Q s e s')
    (ha : sys.Along P s es) : sys.Along Q s es := by
  induction es generalizing s with
  | nil => trivial
  | cons e es ih => exact fun t ht => ⟨hPQ s e t ht (ha t ht).1, ih (ha t ht).2⟩

/-- Two facts hold along a run when each of them does. -/
theorem along_and :
    sys.Along (fun s e s' => P s e s' ∧ Q s e s') s es ↔ sys.Along P s es ∧ sys.Along Q s es := by
  induction es generalizing s with
  | nil => exact ⟨fun _ => ⟨trivial, trivial⟩, fun _ => trivial⟩
  | cons e es ih =>
    constructor
    · intro ha
      exact ⟨fun t ht => ⟨(ha t ht).1.1, (ih.1 (ha t ht).2).1⟩,
        fun t ht => ⟨(ha t ht).1.2, (ih.1 (ha t ht).2).2⟩⟩
    · rintro ⟨ha, hb⟩ t ht
      exact ⟨⟨(ha t ht).1, (hb t ht).1⟩, ih.2 ⟨(ha t ht).2, (hb t ht).2⟩⟩

/-- What the events themselves grant. -/
theorem along_of_forall_mem {E : ε → Prop} (h : ∀ e ∈ es, E e) :
    sys.Along (fun _ e _ => E e) s es := by
  induction es generalizing s with
  | nil => trivial
  | cons e es ih =>
    exact fun t _ => ⟨h e List.mem_cons_self, ih fun e' he' => h e' (List.mem_cons_of_mem _ he')⟩

/-! ## Steps that occur -/

/-- A run on which `P` never occurs has only steps that refute it. -/
theorem along_not_of_not_occurs (h : ¬ sys.Occurs P s es) :
    sys.Along (fun s e s' => ¬ P s e s') s es := by
  induction es generalizing s with
  | nil => trivial
  | cons e es ih =>
    exact fun t ht => ⟨fun hP => h ⟨t, ht, Or.inl hP⟩, ih fun ho => h ⟨t, ht, Or.inr ho⟩⟩

/-- What occurs along a run occurs at its steps: whatever is granted by an
occurrence is granted by every step of the run. -/
theorem along_of_occurs {ι : Type*} {P : ι → σ → ε → σ → Prop} {Q : ι → Prop}
    (h : ∀ i, sys.Occurs (P i) s es → Q i) :
    sys.Along (fun s e s' => ∀ i, P i s e s' → Q i) s es := by
  induction es generalizing s with
  | nil => trivial
  | cons e es ih =>
    intro t ht
    refine ⟨fun i hP => h i ⟨t, ht, Or.inl hP⟩, ih fun i ho => h i ⟨t, ht, Or.inr ho⟩⟩

/-- **What only such a step brings about** has come about exactly if one
occurred. -/
theorem iff_occurs_of_run {A : σ → Prop}
    (hstep : ∀ s e s', sys.step s e = some s' → (A s' ↔ A s ∨ P s e s'))
    (h : sys.run s es = some s') : A s' ↔ A s ∨ sys.Occurs P s es := by
  induction es generalizing s with
  | nil =>
    cases h
    exact (or_iff_left id).symm
  | cons e es ih =>
    obtain ⟨t, ht, hrun⟩ := run_cons_eq_some.1 h
    rw [ih hrun, hstep s e t ht, or_assoc]
    refine or_congr_right ⟨fun hP => ⟨t, ht, hP⟩, ?_⟩
    rintro ⟨t', ht', hP⟩
    rw [ht] at ht'
    cases ht'
    exact hP

/-! ## The steps of a run, one at a time -/

/-- **A step of the run is a cut of its events.** -/
structure Cut (sys : System σ ε) (s : σ) (es es₁ : List ε) (e : ε) (es₂ : List ε) (s₁ s₂ : σ) :
    Prop where
  events : es = es₁ ++ e :: es₂
  before : sys.run s es₁ = some s₁
  step : sys.step s₁ e = some s₂

/-- A cut of the rest of a run is a cut of the run. -/
theorem Cut.cons {t : σ} (ht : sys.step s e = some t) {e' : ε} (h : sys.Cut t es es₁ e' es₂ s₁ s₂) :
    sys.Cut s (e :: es) (e :: es₁) e' es₂ s₁ s₂ where
  events := congrArg (e :: ·) h.events
  before := run_cons_eq_some.2 ⟨t, ht, h.before⟩
  step := h.step

/-- The run goes on from the cut. -/
theorem Cut.after {s' : σ} (h : sys.Cut s es es₁ e es₂ s₁ s₂) (hrun : sys.run s es = some s') :
    sys.run s₂ es₂ = some s' := by
  rw [h.events] at hrun
  obtain ⟨t, ht, hrest⟩ := run_append_eq_some.1 hrun
  rw [h.before] at ht
  cases ht
  obtain ⟨u, hu, hrest⟩ := run_cons_eq_some.1 hrest
  rw [h.step] at hu
  cases hu
  exact hrest

/-- And what holds along the run holds at the cut and after it. -/
theorem Cut.along (h : sys.Cut s es es₁ e es₂ s₁ s₂) (ha : sys.Along P s es) :
    P s₁ e s₂ ∧ sys.Along P s₂ es₂ := by
  rw [h.events] at ha
  exact ((along_append h.before).1 ha).2 s₂ h.step

/-- A longer run has the cut, too. -/
theorem Cut.append (h : sys.Cut s es es₁ e es₂ s₁ s₂) (es' : List ε) :
    sys.Cut s (es ++ es') es₁ e (es₂ ++ es') s₁ s₂ where
  events := by rw [h.events, List.append_assoc, List.cons_append]
  before := h.before
  step := h.step

/-- **What occurs, occurs at a cut.** -/
theorem occurs_iff_cut :
    sys.Occurs P s es ↔ ∃ es₁ e es₂ s₁ s₂, sys.Cut s es es₁ e es₂ s₁ s₂ ∧ P s₁ e s₂ := by
  induction es generalizing s with
  | nil =>
    refine ⟨False.elim, ?_⟩
    rintro ⟨es₁, e, es₂, s₁, s₂, hcut, -⟩
    exact List.append_ne_nil_of_right_ne_nil _ (List.cons_ne_nil _ _) hcut.events.symm
  | cons e es ih =>
    constructor
    · rintro ⟨t, ht, hP | hrest⟩
      · exact ⟨[], e, es, s, t, ⟨rfl, rfl, ht⟩, hP⟩
      · obtain ⟨es₁, e', es₂, s₁, s₂, hcut, hP⟩ := ih.1 hrest
        exact ⟨e :: es₁, e', es₂, s₁, s₂, hcut.cons ht, hP⟩
    · rintro ⟨es₁, e', es₂, s₁, s₂, ⟨hevents, hbefore, hstep⟩, hP⟩
      cases es₁ with
      | nil =>
        cases hbefore
        obtain ⟨rfl, rfl⟩ := List.cons.inj hevents
        exact ⟨s₂, hstep, Or.inl hP⟩
      | cons e₁ es₁ =>
        obtain ⟨rfl, rfl⟩ := List.cons.inj hevents
        obtain ⟨t, ht, hrest⟩ := run_cons_eq_some.1 hbefore
        exact ⟨t, ht, Or.inr (ih.2 ⟨es₁, e', es₂, s₁, s₂, ⟨rfl, hrest, hstep⟩, hP⟩)⟩

/-- **A property of every cut holds along the run**, and the other way. -/
theorem along_iff_cut :
    sys.Along P s es ↔ ∀ es₁ e es₂ s₁ s₂, sys.Cut s es es₁ e es₂ s₁ s₂ → P s₁ e s₂ := by
  constructor
  · exact fun h es₁ e es₂ s₁ s₂ hcut => (hcut.along h).1
  · intro h
    induction es generalizing s with
    | nil => trivial
    | cons e es ih =>
      intro t ht
      exact ⟨h [] e es s t ⟨rfl, rfl, ht⟩,
        ih fun es₁ e' es₂ s₁ s₂ hcut => h (e :: es₁) e' es₂ s₁ s₂ (hcut.cons ht)⟩
end System

end Dreamscroll
