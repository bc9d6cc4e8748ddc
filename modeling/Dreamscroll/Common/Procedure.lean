import Dreamscroll.Common.Linearizable
import Dreamscroll.Common.ProcessTable
/-!
# Calls of a procedure that run at once

A procedure runs one statement after another, each on the state that all
calls share. Any number of its calls are under way, and a step is the next
statement of one of them, so a run is an interleaving statement by statement.

Two rules read such a run. What every statement grants of the shared state
and of its own call, and no statement of another call destroys, holds in
every state reached (`Rely.run`). And where each statement is matched by the
points of an atomic object, the calls take effect in one order
(`exec_of_matched`).
-/

namespace Dreamscroll

/-- **A procedure**, as the statements of one call. -/
structure Procedure (σ ω ι κ ρ : Type*) where
  start : ω → κ
  /-- The statement at this place, with what it reads from outside: it goes
  on at the next place, or answers. -/
  next : ω → ι → σ → κ → σ × (κ ⊕ ρ)

namespace Procedure

variable {σ ω ι κ ρ : Type*}

/-- A call, and the place it has reached or its answer. -/
structure Call (ω κ ρ : Type*) where
  op : ω
  stands : κ ⊕ ρ

/-- What the calls share, where they are, and their history. -/
structure State (σ ω κ ρ : Type*) where
  shared : σ
  calls : List (Call ω κ ρ)
  history : List (HistoryItem ω ρ Empty)

/-- What happens, in any order. -/
inductive Event (ω ι : Type*)
  | invoke (op : ω)
  /-- The next statement of a call. -/
  | advance (c : ℕ) (input : ι)

namespace State

/-- Nobody has called yet. -/
def start (x : σ) : State σ ω κ ρ := ⟨x, [], []⟩

/-- What an answer adds to the history. -/
def answerItems (c : ℕ) : κ ⊕ ρ → List (HistoryItem ω ρ Empty)
  | .inl _ => []
  | .inr r => [.respond c r]

/-- The statement of the call has come out like this. -/
def advanced (s : State σ ω κ ρ) (c : ℕ) (op : ω) (result : σ × (κ ⊕ ρ)) : State σ ω κ ρ where
  shared := result.1
  calls := s.calls.set c ⟨op, result.2⟩
  history := s.history ++ answerItems c result.2

/-- A call begins. -/
def invoked (s : State σ ω κ ρ) (op : ω) (pc : κ) : State σ ω κ ρ where
  shared := s.shared
  calls := s.calls ++ [⟨op, .inl pc⟩]
  history := s.history ++ [.invoke s.calls.length op]

end State

variable (p : Procedure σ ω ι κ ρ)

/-- What an event does. -/
def step (s : State σ ω κ ρ) : Event ω ι → Option (State σ ω κ ρ)
  | .invoke op => some (s.invoked op (p.start op))
  | .advance c input =>
    match s.calls[c]? with
    | some ⟨op, .inl pc⟩ => some (s.advanced c op (p.next op input s.shared pc))
    | _ => none

/-- The calls as a system. -/
def system : System (State σ ω κ ρ) (Event ω ι) := ⟨p.step⟩

/-- Each statement is run where `P` holds of the shared state and its place. -/
def At (P : σ → ω → κ → Prop) (s : State σ ω κ ρ) : Event ω ι → State σ ω κ ρ → Prop
  | .invoke _, _ => True
  | .advance c _, _ => ∀ op pc, s.calls[c]? = some ⟨op, .inl pc⟩ → P s.shared op pc

/-- It is decided at the place the call has reached. -/
instance decidableAt (P : σ → ω → κ → Prop) [∀ x op pc, Decidable (P x op pc)]
    (s : State σ ω κ ρ) : ∀ (e : Event ω ι) (s' : State σ ω κ ρ), Decidable (At P s e s')
  | .invoke _, _ => isTrue trivial
  | .advance c _, _ =>
    match h : s.calls[c]? with
    | some ⟨op, .inl pc⟩ =>
      if hP : P s.shared op pc then
        isTrue fun op' pc' hc => by rw [h] at hc; cases hc; exact hP
      else isFalse fun ha => hP (ha op pc h)
    | some ⟨_, .inr _⟩ => isTrue fun op' pc' hc => by rw [h] at hc; cases hc
    | none => isTrue fun op' pc' hc => by rw [h] at hc; cases hc

variable {p} {s s' : State σ ω κ ρ} {e : Event ω ι} {es : List (Event ω ι)}
variable {P : σ → ω → κ → Prop} {I : σ → Prop} {J : σ → ω → κ ⊕ ρ → Prop} {R : σ → σ → Prop}

/-- **What a step can do.** -/
theorem step_cases (h : p.system.step s e = some s') :
    (∃ op, e = .invoke op ∧ s' = s.invoked op (p.start op)) ∨
      ∃ c input op pc, e = .advance c input ∧ s.calls[c]? = some ⟨op, .inl pc⟩ ∧
        s' = s.advanced c op (p.next op input s.shared pc) := by
  change p.step s e = some s' at h
  cases e with
  | invoke op => exact Or.inl ⟨op, rfl, (Option.some.inj h).symm⟩
  | advance c input =>
    simp only [step] at h
    split at h
    · rename_i op pc hc
      exact Or.inr ⟨c, input, op, pc, rfl, hc, (Option.some.inj h).symm⟩
    · cases h

/-- Nothing is asked of any statement. -/
theorem at_true : At (fun _ _ _ => True) s e s' := by
  cases e with
  | invoke op => trivial
  | advance c input => exact fun _ _ _ => trivial

theorem along_at_true : p.system.Along (At fun _ _ _ => True) s es :=
  System.along_of_inv (I := fun _ => True) (fun _ _ _ _ _ => ⟨trivial, at_true⟩) trivial

/-! ## Rely and guarantee -/

/-- The shared state and every call are as they should be. -/
def Inv (I : σ → Prop) (J : σ → ω → κ ⊕ ρ → Prop) (s : State σ ω κ ρ) : Prop :=
  I s.shared ∧ ∀ call ∈ s.calls, J s.shared call.op call.stands

/-- **The rule**: a statement keeps `I`, advances its own call as `J` asks
and changes the shared state as `R` allows, and `R` leaves `J` alone. -/
structure Rely (p : Procedure σ ω ι κ ρ) (P : σ → ω → κ → Prop) (I : σ → Prop)
    (J : σ → ω → κ ⊕ ρ → Prop) (R : σ → σ → Prop) : Prop where
  start : ∀ x op, I x → J x op (.inl (p.start op))
  next : ∀ x op input pc, I x → J x op (.inl pc) → P x op pc →
    I (p.next op input x pc).1 ∧ R x (p.next op input x pc).1 ∧
      J (p.next op input x pc).1 op (p.next op input x pc).2
  rely : ∀ x x' op stands, R x x' → J x op stands → J x' op stands

theorem Rely.step (h : Rely p P I J R) (hs : Inv I J s) (hstep : p.system.step s e = some s')
    (hP : At P s e s') : Inv I J s' := by
  obtain ⟨hI, hJ⟩ := hs
  rcases step_cases hstep with ⟨op, rfl, rfl⟩ | ⟨c, input, op, pc, rfl, hc, rfl⟩
  · refine ⟨hI, fun call hcall => ?_⟩
    rcases List.mem_append.1 hcall with hcall | hcall
    · exact hJ call hcall
    · rw [List.mem_singleton.1 hcall]
      exact h.start s.shared op hI
  · obtain ⟨hI', hR, hown⟩ := h.next s.shared op input pc hI (hJ _ (mem_of_getElem? hc)) (hP op pc hc)
    refine ⟨hI', fun call hcall => ?_⟩
    rcases mem_set_of_some hcall with rfl | ⟨j, -, hj⟩
    · exact hown
    · exact h.rely _ _ _ _ hR (hJ call (mem_of_getElem? hj))

/-- **Along every run whose statements are run where `P` holds.** -/
theorem Rely.run (h : Rely p P I J R) (hs : Inv I J s) (hrun : p.system.run s es = some s')
    (hP : p.system.Along (At P) s es) : Inv I J s' :=
  System.run_inv_along (fun _ _ _ hs hstep hP => h.step hs hstep hP) hs hrun hP

theorem inv_start {x : σ} (hI : I x) : Inv I J (State.start x : State σ ω κ ρ) :=
  ⟨hI, List.forall_mem_nil _⟩

/-- **One call, from a state on**: what is known of it, its own statements
and those of the others keep. -/
theorem Rely.keeps (h : Rely p P I J R) {c : ℕ} {op : ω} {stands : κ ⊕ ρ} {K : σ → κ ⊕ ρ → Prop}
    (hown : ∀ x input pc, I x → K x (.inl pc) → P x op pc →
      K (p.next op input x pc).1 (p.next op input x pc).2)
    (hrely : ∀ x x' stands, R x x' → K x stands → K x' stands) (hs : Inv I J s)
    (hc : s.calls[c]? = some ⟨op, stands⟩) (hK : K s.shared stands)
    (hrun : p.system.run s es = some s') (hP : p.system.Along (At P) s es) :
    ∃ stands', s'.calls[c]? = some ⟨op, stands'⟩ ∧ K s'.shared stands' := by
  let Follows : State σ ω κ ρ → Prop := fun t => Inv I J t ∧ ∃ stands',
    t.calls[c]? = some ⟨op, stands'⟩ ∧ K t.shared stands'
  refine (System.run_inv_along (I := Follows) ?_ ⟨hs, stands, hc, hK⟩ hrun hP).2
  rintro u e u' ⟨hu, stands', hcall, hKu⟩ hstep hPu
  refine ⟨h.step hu hstep hPu, ?_⟩
  rcases step_cases hstep with ⟨op', rfl, rfl⟩ | ⟨d, input, op', pc, rfl, hd, rfl⟩
  · exact ⟨stands', getElem?_concat_of_some hcall, hKu⟩
  · obtain ⟨-, hR, -⟩ := h.next u.shared op' input pc hu.1 (hu.2 _ (mem_of_getElem? hd)) (hPu op' pc hd)
    by_cases hcd : c = d
    · subst hcd
      rw [hd] at hcall
      cases hcall
      exact ⟨_, getElem?_set_of_some hd, hown _ _ _ hu.1 hKu (hPu op pc hd)⟩
    · exact ⟨stands', (getElem?_set_of_ne hcd).trans hcall, hrely _ _ _ hR hKu⟩

/-! ## The points of the calls -/

section Matched

variable {τ ρ' : Type*} {obj : AtomicObject τ ω ρ' Empty}
variable (abs : σ → τ) (place : σ → ω → κ → Standing ω ρ') (answer : ρ → ρ')

/-- Where a call stands, by its place. -/
def standing (s : State σ ω κ ρ) (c : ℕ) : Standing ω ρ' :=
  match s.calls[c]? with
  | some ⟨op, .inl pc⟩ => place s.shared op pc
  | _ => .idle

/-- The history, as the object's answers have it. -/
def answers (s : State σ ω κ ρ) : List (HistoryItem ω ρ' Empty) :=
  s.history.map fun
    | .invoke c op => .invoke c op
    | .respond c r => .respond c (answer r)
    | .env e => .env e

/-- **What a statement of its own call may be**: nothing, the point of the
call, its answer, or both. -/
inductive Own (obj : AtomicObject τ ω ρ' Empty) (op : ω) (x : τ) :
    Standing ω ρ' → τ → Standing ω ρ' ⊕ ρ' → Prop
  | silent {st : Standing ω ρ'} : Own obj op x st x (.inl st)
  | point {r : ρ'} {x' : τ} : obj.answers x op r x' →
      Own obj op x (.invoked op) x' (.inl (.answered r))
  | respond {r : ρ'} : Own obj op x (.answered r) x (.inr r)
  | both {r : ρ'} {x' : τ} : obj.answers x op r x' → Own obj op x (.invoked op) x' (.inr r)

/-- **A matched statement**: it may bring the points of other calls, which
are answered wherever they leave the object, and then its own part. `X` is
where they leave it. -/
structure MatchedWithin (p : Procedure σ ω ι κ ρ) (J : σ → ω → κ ⊕ ρ → Prop)
    (obj : AtomicObject τ ω ρ' Empty) (op : ω) (input : ι) (x : σ) (pc : κ) (X : τ → Prop) :
    Prop where
  here : X (abs x)
  others : ∀ op' pc', J x op' (.inl pc') →
    place x op' pc' = place (p.next op input x pc).1 op' pc' ∨
      ∃ r, place x op' pc' = .invoked op' ∧
        place (p.next op input x pc).1 op' pc' = .answered r ∧
          ∀ a, X a → ∃ a', X a' ∧ obj.answers a op' r a'
  own : ∀ a, X a → Own obj op a (place x op pc) (abs (p.next op input x pc).1)
    ((p.next op input x pc).2.map (place (p.next op input x pc).1 op) answer)

/-- One whose other points are answered whatever the object is. -/
structure Matched (p : Procedure σ ω ι κ ρ) (J : σ → ω → κ ⊕ ρ → Prop)
    (obj : AtomicObject τ ω ρ' Empty) (op : ω) (input : ι) (x : σ) (pc : κ) : Prop where
  others : ∀ op' pc', J x op' (.inl pc') →
    place x op' pc' = place (p.next op input x pc).1 op' pc' ∨
      ∃ r, place x op' pc' = .invoked op' ∧
        place (p.next op input x pc).1 op' pc' = .answered r ∧ ∀ a, ∃ a', obj.answers a op' r a'
  own : ∀ a, (a = abs x ∨ ∃ op' pc', J x op' (.inl pc') ∧
      place x op' pc' ≠ place (p.next op input x pc).1 op' pc') →
    Own obj op a (place x op pc) (abs (p.next op input x pc).1)
      ((p.next op input x pc).2.map (place (p.next op input x pc).1 op) answer)

variable {abs place answer}

/-- One that leaves the others where they stand. -/
theorem Matched.of_unchanged {op : ω} {input : ι} {x : σ} {pc : κ}
    (hsame : ∀ op' pc', J x op' (.inl pc') →
      place x op' pc' = place (p.next op input x pc).1 op' pc')
    (hown : Own obj op (abs x) (place x op pc) (abs (p.next op input x pc).1)
      ((p.next op input x pc).2.map (place (p.next op input x pc).1 op) answer)) :
    Matched abs place answer p J obj op input x pc := by
  refine ⟨fun op' pc' hJ => Or.inl (hsame op' pc' hJ), ?_⟩
  rintro a (rfl | ⟨op', pc', hJ, hne⟩)
  · exact hown
  · exact absurd (hsame op' pc' hJ) hne

theorem standing_of_running {c : ℕ} {op : ω} {pc : κ} (hc : s.calls[c]? = some ⟨op, .inl pc⟩) :
    standing place s c = place s.shared op pc := by
  unfold standing
  rw [hc]

theorem standing_congr {c : ℕ} (hcalls : s'.calls[c]? = s.calls[c]?)
    (hshared : ∀ op pc, s.calls[c]? = some ⟨op, .inl pc⟩ →
      place s'.shared op pc = place s.shared op pc) : standing place s' c = standing place s c := by
  unfold standing
  rw [hcalls]
  split
  · rename_i op pc hc
    exact hshared op pc hc
  · rfl

theorem standing_advanced_self {c : ℕ} {op : ω} {pc : κ} {result : σ × (κ ⊕ ρ)}
    (hc : s.calls[c]? = some ⟨op, .inl pc⟩) : standing place (s.advanced c op result) c =
      match result.2 with
      | .inl pc' => place result.1 op pc'
      | .inr _ => .idle := by
  unfold standing
  rw [show (s.advanced c op result).calls[c]? = some ⟨op, result.2⟩ from getElem?_set_of_some hc]
  cases result.2 <;> rfl

theorem answers_advanced {c : ℕ} {op : ω} {result : σ × (κ ⊕ ρ)} :
    answers answer (s.advanced c op result) = answers answer s ++
      match result.2 with
      | .inl _ => []
      | .inr r => [.respond c (answer r)] := by
  unfold answers State.advanced
  rw [List.map_append]
  cases result.2 <;> rfl

/-- An invocation is an item of its own. -/
theorem simulates_invoke {op : ω} {pc : κ} (hstart : place s.shared op pc = .invoked op) :
    Simulates (fun s => abs s.shared) (standing place) (answers answer) obj s
      (s.invoked op pc) := by
  refine ⟨[.item (.invoke s.calls.length op)], .invoke ?_ ?_, ?_⟩
  · unfold standing
    rw [List.getElem?_eq_none (Nat.le_refl _)]
  · have hself : standing place (s.invoked op pc) s.calls.length = place s.shared op pc :=
      standing_of_running (s := s.invoked op pc) List.getElem?_concat_length
    have hst : Function.update (standing place s) s.calls.length (.invoked op) =
        standing place (s.invoked op pc) := by
      funext d
      by_cases hd : d = s.calls.length
      · rw [hd, Function.update_self, hself, hstart]
      · rw [Function.update_of_ne hd]
        refine (show standing place (s.invoked op pc) d = standing place s d from
          standing_congr ?_ fun _ _ _ => rfl).symm
        change (s.calls ++ [_])[d]? = _
        rw [List.getElem?_append]
        split_ifs with hlt
        · rfl
        · rw [List.getElem?_eq_none (by simp; omega), List.getElem?_eq_none (by omega)]
    rw [hst]
    exact .nil
  · unfold answers State.invoked
    rw [List.map_append]
    rfl

/-- What its own part adds to the marks. -/
theorem Own.exec {c : ℕ} {op : ω} {a a' : τ} {st : ℕ → Standing ω ρ'} {out : Standing ω ρ' ⊕ ρ'}
    (h : Own obj op a (st c) a' out) :
    ∃ ms, Exec obj a st ms a' (Function.update st c (out.elim id fun _ => .idle)) ∧
      itemsOf ms = out.elim (fun _ => []) fun r => [.respond c r] := by
  generalize hst : st c = standing at h
  cases h with
  | silent =>
    refine ⟨[], ?_, rfl⟩
    rw [← hst]
    change Exec obj a st [] a (Function.update st c (st c))
    rw [Function.update_eq_self]
    exact .nil
  | point ha => exact ⟨[.point c _], .point hst ha .nil, rfl⟩
  | respond => exact ⟨[.item (.respond c _)], .respond hst .nil, rfl⟩
  | both ha =>
    rename_i r
    refine ⟨[.point c r, .item (.respond c r)],
      .point hst ha (.respond (Function.update_self ..) ?_), rfl⟩
    rw [Function.update_idem]
    exact .nil

/-- **A matched statement takes its points.** -/
theorem MatchedWithin.simulates {c : ℕ} {op : ω} {input : ι} {pc : κ} {X : τ → Prop}
    (h : MatchedWithin abs place answer p J obj op input s.shared pc X)
    (hJ : ∀ call ∈ s.calls, J s.shared call.op call.stands)
    (hc : s.calls[c]? = some ⟨op, .inl pc⟩) :
    Simulates (fun s => abs s.shared) (standing place) (answers answer) obj s
      (s.advanced c op (p.next op input s.shared pc)) := by
  have hst : standing place s c = place s.shared op pc := standing_of_running hc
  have hnew : standing place (s.advanced c op (p.next op input s.shared pc)) c = _ :=
    standing_advanced_self hc
  have hhistory : answers answer (s.advanced c op (p.next op input s.shared pc)) = _ :=
    answers_advanced
  have hothers' := h.others
  have hown' := h.own
  generalize hresult : p.next op input s.shared pc = result at *
  -- the points of the others come first, and leave the call itself where it is
  let between : ℕ → Standing ω ρ' :=
    Function.update (standing place (s.advanced c op result)) c (standing place s c)
  have hc' : between c = standing place s c := Function.update_self ..
  have hothers : ∃ ms a, Exec obj (abs s.shared) (standing place s) ms a between ∧
      itemsOf ms = [] ∧ X a := by
    refine Exec.points_within s.calls.length _ _ h.here fun d hne => ?_
    have hd : d ≠ c := by
      rintro rfl
      exact hne hc'.symm
    have hbetween : between d = standing place (s.advanced c op result) d :=
      Function.update_of_ne hd ..
    have hcalls : (s.advanced c op result).calls[d]? = s.calls[d]? := getElem?_set_of_ne hd
    rw [hbetween] at hne ⊢
    unfold standing at hne ⊢
    rw [hcalls] at hne ⊢
    split at hne
    · rename_i op' pc' hd'
      rcases hothers' op' pc' (hJ _ (mem_of_getElem? hd')) with heq | ⟨r, hinvoked, hanswered, hany⟩
      · exact absurd heq hne
      · exact ⟨(List.getElem?_eq_some_iff.1 hd').1, op', r, hinvoked, hanswered, hany⟩
    · exact absurd rfl hne
  obtain ⟨ms, a, hms, hitems, ha⟩ := hothers
  have hown := hown' a ha
  rw [← hst, ← hc'] at hown
  obtain ⟨ms', hms', hitems'⟩ := hown.exec
  refine ⟨ms ++ ms', hms.append ?_, ?_⟩
  · have hend : standing place (s.advanced c op result) = Function.update between c
        ((result.2.map (place result.1 op) answer).elim id fun _ => .idle) := by
      funext d
      by_cases hd : d = c
      · rw [hd, Function.update_self, hnew]
        cases result.2 <;> rfl
      · rw [Function.update_of_ne hd]
        exact (Function.update_of_ne hd ..).symm
    rw [hend]
    exact hms'
  · rw [itemsOf_append, hitems, hitems', hhistory, List.nil_append]
    cases result.2 <;> rfl

/-- A matched statement leaves the object anywhere where it brings another
point, and where it was where it brings none. -/
theorem Matched.within {op : ω} {input : ι} {x : σ} {pc : κ}
    (h : Matched abs place answer p J obj op input x pc) :
    MatchedWithin abs place answer p J obj op input x pc fun a => a = abs x ∨
      ∃ op' pc', J x op' (.inl pc') ∧
        place x op' pc' ≠ place (p.next op input x pc).1 op' pc' := by
  refine ⟨Or.inl rfl, fun op' pc' hJ => ?_, h.own⟩
  rcases h.others op' pc' hJ with heq | ⟨r, hinvoked, hanswered, hany⟩
  · exact Or.inl heq
  · refine Or.inr ⟨r, hinvoked, hanswered, fun a _ => ?_⟩
    obtain ⟨a', ha'⟩ := hany a
    refine ⟨a', Or.inr ⟨op', pc', hJ, ?_⟩, ha'⟩
    rw [hinvoked, hanswered]
    exact nofun

/-- **The calls take effect in one order.** Where every statement is
matched, the points of the calls make an atomic execution with the history
of the run, and it leaves the object as the run does. -/
theorem exec_of_matchedWithin (h : Rely p P I J R)
    (hstart : ∀ x op, place x op (p.start op) = .invoked op)
    (hmatched : ∀ x op input pc, I x → J x op (.inl pc) → P x op pc →
      ∃ X, MatchedWithin abs place answer p J obj op input x pc X)
    {x : σ} (hI : I x) (hrun : p.system.run (State.start x) es = some s)
    (hP : p.system.Along (At P) (State.start x) es) :
    ∃ ms, Exec obj (abs x) (fun _ => .idle) ms (abs s.shared) (standing place s) ∧
      itemsOf ms = answers answer s := by
  have hsimulates : Simulates (fun s => abs s.shared) (standing place) (answers answer) obj
      (State.start x) s := by
    refine exec_of_simulation (F := s) (I := Inv I J) (P := At P) _ _ _
      (fun _ _ _ hs hstep hP => h.step hs hstep hP) ?_ (inv_start hI) hrun hP
    intro t e t' _ ht hstep hP _
    rcases step_cases hstep with ⟨op, rfl, rfl⟩ | ⟨c, input, op, pc, rfl, hc, rfl⟩
    · exact simulates_invoke (hstart _ _)
    · obtain ⟨X, hX⟩ := hmatched _ op input pc ht.1 (ht.2 _ (mem_of_getElem? hc)) (hP op pc hc)
      exact hX.simulates ht.2 hc
  obtain ⟨ms, hms, hitems⟩ := hsimulates
  exact ⟨ms, hms, hitems.symm⟩

/-- In particular where the other points are answered whatever the object
is. -/
theorem exec_of_matched (h : Rely p P I J R)
    (hstart : ∀ x op, place x op (p.start op) = .invoked op)
    (hmatched : ∀ x op input pc, I x → J x op (.inl pc) → P x op pc →
      Matched abs place answer p J obj op input x pc)
    {x : σ} (hI : I x) (hrun : p.system.run (State.start x) es = some s)
    (hP : p.system.Along (At P) (State.start x) es) :
    ∃ ms, Exec obj (abs x) (fun _ => .idle) ms (abs s.shared) (standing place s) ∧
      itemsOf ms = answers answer s :=
  exec_of_matchedWithin h hstart
    (fun x op input pc hI hJ hP => ⟨_, (hmatched x op input pc hI hJ hP).within⟩) hI hrun hP

/-- Every call has answered. -/
def Returned (s : State σ ω κ ρ) : Prop := ∀ call ∈ s.calls, ∃ r, call.stands = .inr r

theorem Returned.standing_eq (h : Returned s) : standing place s = fun _ => .idle := by
  funext c
  unfold standing
  split
  · rename_i op pc hc
    obtain ⟨r, hr⟩ := h _ (mem_of_getElem? hc)
    cases hr
  · rfl

end Matched

end Procedure

end Dreamscroll
