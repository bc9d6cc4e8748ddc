import Dreamscroll.Common.System
import Mathlib.Logic.Function.Basic
/-!
# Linearizability

A history records when calls are invoked and answered, and what happens to
the object outside its operations. It is linearizable when one point can
be put into it for every answered call, between its invocation and its
answer, so that the object, operated atomically at the points and exposed
to the rest of the history in the order it happened, gives every answer
the history records.

The proof rule is a simulation (`linearizable_of_simulation`): a system
says, for each of its states, where every call stands, and each of its
steps is matched by marks that take the standings of one state to those of
the next. Where a call stands may depend on how the run ends, which is
what lets a point be put before the step that reveals its answer.
-/

namespace Dreamscroll

/-- **An atomic object**, operated by calls and exposed to an environment. -/
structure AtomicObject (σ ω ρ ε : Type*) where
  /-- The operation may give this answer, leaving this state. -/
  answers : σ → ω → ρ → σ → Prop
  env : σ → ε → σ

/-- What an outside observer sees: a call, an answer, or the environment. -/
inductive HistoryItem (ω ρ ε : Type*)
  | invoke (c : ℕ) (op : ω)
  | respond (c : ℕ) (answer : ρ)
  | env (e : ε)

/-- An item of the history, or the point at which a call takes effect. -/
inductive Mark (ω ρ ε : Type*)
  | item (i : HistoryItem ω ρ ε)
  | point (c : ℕ) (answer : ρ)

/-- Where a call stands: its point is still to come, or behind it. -/
inductive Standing (ω ρ : Type*)
  | idle
  | invoked (op : ω)
  | answered (answer : ρ)

variable {σ ω ρ ε : Type*} {obj : AtomicObject σ ω ρ ε}

/-- The history in a list of marks. -/
def itemsOf (ms : List (Mark ω ρ ε)) : List (HistoryItem ω ρ ε) :=
  ms.filterMap fun
    | .item i => some i
    | .point .. => none

/-- **The object operated atomically at the points.** A point is one of a
call invoked before it, and a call is answered as its point was. -/
inductive Exec (obj : AtomicObject σ ω ρ ε) :
    σ → (ℕ → Standing ω ρ) → List (Mark ω ρ ε) → σ → (ℕ → Standing ω ρ) → Prop
  | nil {x : σ} {st : ℕ → Standing ω ρ} : Exec obj x st [] x st
  | invoke {x x' : σ} {st st' : ℕ → Standing ω ρ} {c : ℕ} {op : ω} {ms : List (Mark ω ρ ε)} :
      st c = .idle → Exec obj x (Function.update st c (.invoked op)) ms x' st' →
      Exec obj x st (.item (.invoke c op) :: ms) x' st'
  | point {x x₁ x' : σ} {st st' : ℕ → Standing ω ρ} {c : ℕ} {op : ω} {r : ρ}
      {ms : List (Mark ω ρ ε)} : st c = .invoked op → obj.answers x op r x₁ →
      Exec obj x₁ (Function.update st c (.answered r)) ms x' st' →
      Exec obj x st (.point c r :: ms) x' st'
  | respond {x x' : σ} {st st' : ℕ → Standing ω ρ} {c : ℕ} {r : ρ}
      {ms : List (Mark ω ρ ε)} : st c = .answered r →
      Exec obj x (Function.update st c .idle) ms x' st' →
      Exec obj x st (.item (.respond c r) :: ms) x' st'
  | env {x x' : σ} {st st' : ℕ → Standing ω ρ} {e : ε} {ms : List (Mark ω ρ ε)} :
      Exec obj (obj.env x e) st ms x' st' → Exec obj x st (.item (.env e) :: ms) x' st'

/-- **A linearizable history**: the items of some atomic execution. -/
def Linearizable (obj : AtomicObject σ ω ρ ε) (x : σ) (history : List (HistoryItem ω ρ ε)) :
    Prop :=
  ∃ ms x' st', Exec obj x (fun _ => .idle) ms x' st' ∧ itemsOf ms = history

variable {x x₁ x' : σ} {st st₁ st' : ℕ → Standing ω ρ} {ms ms' : List (Mark ω ρ ε)}

@[simp] theorem itemsOf_nil : itemsOf ([] : List (Mark ω ρ ε)) = [] := rfl

@[simp] theorem itemsOf_append : itemsOf (ms ++ ms') = itemsOf ms ++ itemsOf ms' :=
  List.filterMap_append

@[simp] theorem itemsOf_item {i : HistoryItem ω ρ ε} :
    itemsOf (.item i :: ms) = i :: itemsOf ms := rfl

@[simp] theorem itemsOf_point {c : ℕ} {r : ρ} : itemsOf (.point c r :: ms) = itemsOf ms := rfl

theorem Exec.append (h : Exec obj x st ms x₁ st₁) (h' : Exec obj x₁ st₁ ms' x' st') :
    Exec obj x st (ms ++ ms') x' st' := by
  induction h with
  | nil => exact h'
  | invoke hc _ ih => exact .invoke hc (ih h')
  | point hc ha _ ih => exact .point hc ha (ih h')
  | respond hc _ ih => exact .respond hc (ih h')
  | env _ ih => exact .env (ih h')

/-- **Points may be taken together**, in any order, where each has its
answer from every state the others leave. -/
theorem Exec.points_within {X : σ → Prop} : ∀ (n : ℕ) (st : ℕ → Standing ω ρ) (x : σ), X x →
    (∀ c, st c ≠ st' c → c < n ∧ ∃ op r, st c = .invoked op ∧ st' c = .answered r ∧
      ∀ a, X a → ∃ a', X a' ∧ obj.answers a op r a') →
    ∃ ms x', Exec obj x st ms x' st' ∧ itemsOf ms = [] ∧ X x' := by
  classical
  intro n
  induction n with
  | zero =>
    intro st x hx h
    have heq : st = st' := by
      funext c
      by_contra hne
      exact absurd (h c hne).1 (Nat.not_lt_zero c)
    exact ⟨[], x, heq ▸ .nil, rfl, hx⟩
  | succ n ih =>
    intro st x hx h
    by_cases hn : st n = st' n
    · refine ih st x hx fun c hne => ?_
      obtain ⟨hlt, hc⟩ := h c hne
      have hcn : c ≠ n := fun heq => hne (heq ▸ hn)
      exact ⟨by omega, hc⟩
    · obtain ⟨-, op, r, hst, hst', ha⟩ := h n hn
      obtain ⟨x₁, hx₁, hx₁'⟩ := ha x hx
      obtain ⟨ms, x', hms, hitems, hx'⟩ := ih (Function.update st n (.answered r)) x₁ hx₁ (by
        intro c hne
        by_cases hcn : c = n
        · subst hcn
          rw [Function.update_self, hst'] at hne
          exact absurd rfl hne
        · rw [Function.update_of_ne hcn] at hne ⊢
          obtain ⟨hlt, hc⟩ := h c hne
          exact ⟨by omega, hc⟩)
      exact ⟨.point n r :: ms, x', .point hst hx₁' hms, hitems, hx'⟩

/-- **Among them those that leave the object alone.** Among the calls below
`n`, those that change their standing give an answer the object has for them
here. -/
theorem Exec.points (n : ℕ) (st : ℕ → Standing ω ρ)
    (h : ∀ c, st c ≠ st' c → c < n ∧ ∃ op r, st c = .invoked op ∧ st' c = .answered r ∧
      obj.answers x op r x) : ∃ ms, Exec obj x st ms x st' ∧ itemsOf ms = [] := by
  have hpoints : ∃ ms x', Exec obj x st ms x' st' ∧ itemsOf ms = [] ∧ x' = x := by
    refine Exec.points_within (X := fun a => a = x) n st x rfl fun c hne => ?_
    obtain ⟨hlt, op, r, hst, hst', ha⟩ := h c hne
    refine ⟨hlt, op, r, hst, hst', fun a hax => ?_⟩
    rw [hax]
    exact ⟨x, rfl, ha⟩
  obtain ⟨ms, x', hms, hitems, rfl⟩ := hpoints
  exact ⟨ms, hms, hitems⟩

/-! ## The proof rule -/

section Simulation

variable {τ ε' : Type*} {sys : System τ ε'} {F : τ} {I : τ → Prop}
variable {P : τ → ε' → τ → Prop}
variable (abs : τ → σ) (standing : τ → ℕ → Standing ω ρ)
variable (history : τ → List (HistoryItem ω ρ ε))

/-- What a step of a simulation owes: marks that account for the history
it adds, and for every standing it changes. -/
def Simulates (obj : AtomicObject σ ω ρ ε) (s s' : τ) : Prop :=
  ∃ ms, Exec obj (abs s) (standing s) ms (abs s') (standing s') ∧
    history s' = history s ++ itemsOf ms

theorem exec_of_simulation (hI : ∀ s e s', I s → sys.step s e = some s' → P s e s' → I s')
    (hsim : ∀ s e s' es, I s → sys.step s e = some s' → P s e s' → sys.run s' es = some F →
      Simulates abs standing history obj s s') {s : τ} {es : List ε'} (hs : I s)
    (hrun : sys.run s es = some F) (halong : sys.Along P s es) :
    Simulates abs standing history obj s F := by
  induction es generalizing s with
  | nil =>
    cases hrun
    exact ⟨[], .nil, by simp⟩
  | cons e es ih =>
    obtain ⟨t, ht, hrest⟩ := System.run_cons_eq_some.1 hrun
    obtain ⟨hP, halong'⟩ := halong t ht
    obtain ⟨ms, hms, hh⟩ := hsim s e t es hs ht hP hrest
    obtain ⟨ms', hms', hh'⟩ := ih (hI s e t hs ht hP) hrest halong'
    exact ⟨ms ++ ms', hms.append hms', by rw [hh', hh, itemsOf_append, List.append_assoc]⟩

/-- **A simulation linearizes its runs.** -/
theorem linearizable_of_simulation
    (hI : ∀ s e s', I s → sys.step s e = some s' → P s e s' → I s')
    (hsim : ∀ s e s' es, I s → sys.step s e = some s' → P s e s' → sys.run s' es = some F →
      Simulates abs standing history obj s s') {s : τ} {es : List ε'} (hs : I s)
    (hidle : standing s = fun _ => .idle) (hnil : history s = [])
    (hrun : sys.run s es = some F) (halong : sys.Along P s es) :
    Linearizable obj (abs s) (history F) := by
  obtain ⟨ms, hms, hh⟩ := exec_of_simulation abs standing history hI hsim hs hrun halong
  rw [hidle] at hms
  exact ⟨ms, _, _, hms, by rw [hh, hnil, List.nil_append]⟩

end Simulation

end Dreamscroll
