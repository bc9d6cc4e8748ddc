import Dreamscroll.Common.ProcessTable
import Dreamscroll.Common.System
/-!
# Transactions behind a lock

A transaction takes a lock with its first statement and holds it to its end,
which is a commit or a rollback. Its statements read what is committed under
what it wrote itself. Any number of such transactions are under way, and a
step is a statement of one of them.

While one holds the lock no other commits, so what a statement has learned
of the committed state still holds at the commit (`Knows.step`). Nothing but
a commit changes the committed state (`committed_cases`).
-/

namespace Dreamscroll

/-- What a statement comes to. -/
inductive TxStep (δ κ ε : Type*)
  | read (place : κ)
  | write (view : δ) (place : κ)
  | commit
  | abort (error : ε)

/-- **A transaction behind the lock**, as its statements after the first. -/
structure LockedTransaction (δ ω κ ε : Type*) where
  start : ω → κ
  /-- The statement at this place, on what the transaction sees. -/
  next : ω → δ → κ → TxStep δ κ ε

namespace LockedTransaction

/-- Where a transaction is. -/
inductive Stands (κ ε : Type*)
  /-- For the lock. -/
  | waiting
  | at (place : κ)
  | committed
  | failed (error : ε)

/-- A transaction, with its working copy. -/
structure Call (δ ω κ ε : Type*) where
  op : ω
  /-- The state it wrote, and nobody else sees. -/
  work : Option δ
  stands : Stands κ ε

/-- The database, and the operations committed to it so far. -/
structure State (δ ω κ ε : Type*) where
  committed : δ
  lock : Option ℕ
  calls : List (Call δ ω κ ε)
  commits : List ω

/-- What happens, in any order. -/
inductive Event (ω ε : Type*)
  | invoke (op : ω)
  /-- The lock is granted. -/
  | acquire (c : ℕ)
  | advance (c : ℕ)
  /-- The statement under way fails. -/
  | fail (c : ℕ) (error : ε)

variable {δ ω κ ε : Type*}

namespace State

/-- Nobody has called yet. -/
def start (db : δ) : State δ ω κ ε := ⟨db, none, [], []⟩

/-- What the call sees. -/
def view (s : State δ ω κ ε) (call : Call δ ω κ ε) : δ := call.work.getD s.committed

/-- A transaction goes on. -/
def setCall (s : State δ ω κ ε) (c : ℕ) (op : ω) (work : Option δ) (stands : Stands κ ε) :
    State δ ω κ ε :=
  { s with calls := s.calls.set c ⟨op, work, stands⟩ }

/-- The transaction is rolled back, and its lock released. -/
def abort (s : State δ ω κ ε) (c : ℕ) (op : ω) (error : ε) : State δ ω κ ε :=
  { s.setCall c op none (.failed error) with lock := none }

/-- What it wrote is there for all, and its lock released. -/
def commit (s : State δ ω κ ε) (c : ℕ) (call : Call δ ω κ ε) : State δ ω κ ε :=
  { s.setCall c call.op none .committed with
    committed := s.view call, lock := none, commits := s.commits ++ [call.op] }

end State

variable (t : LockedTransaction δ ω κ ε)

/-- What an event does. Only the holder of the lock runs. -/
def step (s : State δ ω κ ε) : Event ω ε → Option (State δ ω κ ε)
  | .invoke op => some { s with calls := s.calls ++ [⟨op, none, .waiting⟩] }
  | .acquire c =>
    match s.calls[c]?, s.lock with
    | some ⟨op, _, .waiting⟩, none =>
      some { s.setCall c op none (.at (t.start op)) with lock := some c }
    | _, _ => none
  | .advance c =>
    match s.calls[c]? with
    | some ⟨op, work, .at place⟩ =>
      match t.next op (work.getD s.committed) place with
      | .read place => some (s.setCall c op work (.at place))
      | .write view place => some (s.setCall c op (some view) (.at place))
      | .commit => some (s.commit c ⟨op, work, .at place⟩)
      | .abort error => some (s.abort c op error)
    | _ => none
  | .fail c error =>
    match s.calls[c]? with
    | some ⟨op, _, .waiting⟩ => some (s.setCall c op none (.failed error))
    | some ⟨op, _, .at _⟩ => some (s.abort c op error)
    | _ => none

/-- The transactions as a system. -/
def system : System (State δ ω κ ε) (Event ω ε) := ⟨t.step⟩

variable {t} {s s' : State δ ω κ ε} {e : Event ω ε} {c : ℕ} {call : Call δ ω κ ε}

/-- **What a step can do.** -/
inductive Step (t : LockedTransaction δ ω κ ε) : State δ ω κ ε → Event ω ε → State δ ω κ ε → Prop
  | invoke {s : State δ ω κ ε} {op : ω} :
      Step t s (.invoke op) { s with calls := s.calls ++ [⟨op, none, .waiting⟩] }
  | acquire {s : State δ ω κ ε} {c : ℕ} {op : ω} {work : Option δ}
      (waits : s.calls[c]? = some ⟨op, work, .waiting⟩) (free : s.lock = none) :
      Step t s (.acquire c) { s.setCall c op none (.at (t.start op)) with lock := some c }
  | read {s : State δ ω κ ε} {c : ℕ} {call : Call δ ω κ ε} {place place' : κ}
      (at' : s.calls[c]? = some call) (stands : call.stands = .at place)
      (next : t.next call.op (s.view call) place = .read place') :
      Step t s (.advance c) (s.setCall c call.op call.work (.at place'))
  | write {s : State δ ω κ ε} {c : ℕ} {call : Call δ ω κ ε} {place place' : κ} {view : δ}
      (at' : s.calls[c]? = some call) (stands : call.stands = .at place)
      (next : t.next call.op (s.view call) place = .write view place') :
      Step t s (.advance c) (s.setCall c call.op (some view) (.at place'))
  | commit {s : State δ ω κ ε} {c : ℕ} {call : Call δ ω κ ε} {place : κ}
      (at' : s.calls[c]? = some call) (stands : call.stands = .at place)
      (next : t.next call.op (s.view call) place = .commit) :
      Step t s (.advance c) (s.commit c call)
  | abort {s : State δ ω κ ε} {c : ℕ} {call : Call δ ω κ ε} {place : κ} {error : ε}
      (at' : s.calls[c]? = some call) (stands : call.stands = .at place)
      (next : t.next call.op (s.view call) place = .abort error) :
      Step t s (.advance c) (s.abort c call.op error)
  | giveUp {s : State δ ω κ ε} {c : ℕ} {call : Call δ ω κ ε} {error : ε}
      (waits : s.calls[c]? = some call) (stands : call.stands = .waiting) :
      Step t s (.fail c error) (s.setCall c call.op none (.failed error))
  | fail {s : State δ ω κ ε} {c : ℕ} {call : Call δ ω κ ε} {place : κ} {error : ε}
      (at' : s.calls[c]? = some call) (stands : call.stands = .at place) :
      Step t s (.fail c error) (s.abort c call.op error)

theorem step_cases (h : t.system.step s e = some s') : Step t s e s' := by
  change t.step s e = some s' at h
  unfold step at h
  cases e with
  | invoke op =>
    cases h
    exact .invoke
  | acquire c =>
    dsimp only at h
    split at h
    · rename_i hc hlock
      cases h
      exact .acquire hc hlock
    · cases h
  | advance c =>
    dsimp only at h
    split at h
    · rename_i op work place hc
      split at h <;> rename_i hnext <;> cases h
      · exact .read hc rfl hnext
      · exact .write hc rfl hnext
      · exact .commit hc rfl hnext
      · exact .abort hc rfl hnext
    · cases h
  | fail c error =>
    dsimp only at h
    split at h
    · rename_i hc
      cases h
      exact .giveUp hc rfl
    · rename_i hc
      cases h
      exact .fail hc rfl
    · cases h

/-! ## What a transaction knows -/

/-- **What the statements of one transaction keep**, of the committed state
and what it sees. -/
structure Learns (t : LockedTransaction δ ω κ ε) (K : δ → ω → δ → κ → Prop) : Prop where
  start : ∀ db op, K db op db (t.start op)
  read : ∀ db op view place place', K db op view place →
    t.next op view place = .read place' → K db op view place'
  write : ∀ db op view place view' place', K db op view place →
    t.next op view place = .write view' place' → K db op view' place'

/-- Every transaction past its first statement holds the lock, and knows
what it has learned. -/
def Knows (K : δ → ω → δ → κ → Prop) (s : State δ ω κ ε) : Prop :=
  ∀ c call place, s.calls[c]? = some call → call.stands = .at place →
    s.lock = some c ∧ K s.committed call.op (s.view call) place

variable {K : δ → ω → δ → κ → Prop}

theorem knows_start {db : δ} : Knows K (State.start db : State δ ω κ ε) :=
  fun _ _ _ hc => by cases hc

/-- **Two that hold the lock are one.** -/
theorem Knows.eq (hk : Knows K s) {d : ℕ} {call' : Call δ ω κ ε} {place place' : κ}
    (hc : s.calls[c]? = some call) (hat : call.stands = .at place) (hd : s.calls[d]? = some call')
    (hat' : call'.stands = .at place') : c = d :=
  Option.some.inj ((hk c call place hc hat).1.symm.trans (hk d call' place' hd hat').1)

/-- **What was learned holds to the end of the transaction**: it has the
lock, so no other is past its first statement. -/
theorem Knows.step (hl : Learns t K) (hk : Knows K s) (hstep : Step t s e s') : Knows K s' := by
  -- a transaction that releases the lock leaves no other past its first statement
  have hreleased : ∀ {c : ℕ} {call : Call δ ω κ ε} {place : κ} {stands : Stands κ ε}
      {d : ℕ} {call' : Call δ ω κ ε} {place' : κ}, s.calls[c]? = some call →
      call.stands = .at place → (s.calls.set c ⟨call.op, none, stands⟩)[d]? = some call' →
      (∀ place, stands ≠ .at place) → call'.stands ≠ .at place' := by
    intro c call place stands d call' place' hc hat hd hends hat'
    rcases getElem?_set_eq_some hd with ⟨-, rfl⟩ | ⟨hne, hd⟩
    · exact hends _ hat'
    · exact hne (hk.eq hc hat hd hat').symm
  intro d call' place' hd hat'
  cases hstep with
  | invoke =>
    rcases getElem?_concat_eq_some hd with ⟨-, rfl⟩ | hd
    · cases hat'
    · exact hk d call' place' hd hat'
  | acquire hwaits hfree =>
    rcases getElem?_set_eq_some hd with ⟨rfl, rfl⟩ | ⟨-, hd⟩
    · cases hat'
      exact ⟨rfl, hl.start _ _⟩
    · cases hfree.symm.trans (hk d call' place' hd hat').1
  | read hc hat hnext =>
    rcases getElem?_set_eq_some hd with ⟨rfl, rfl⟩ | ⟨-, hd⟩
    · cases hat'
      obtain ⟨hlock, hknown⟩ := hk _ _ _ hc hat
      exact ⟨hlock, hl.read _ _ _ _ _ hknown hnext⟩
    · exact hk d call' place' hd hat'
  | write hc hat hnext =>
    rcases getElem?_set_eq_some hd with ⟨rfl, rfl⟩ | ⟨-, hd⟩
    · cases hat'
      obtain ⟨hlock, hknown⟩ := hk _ _ _ hc hat
      exact ⟨hlock, hl.write _ _ _ _ _ _ hknown hnext⟩
    · exact hk d call' place' hd hat'
  | commit hc hat => exact absurd hat' (hreleased hc hat hd nofun)
  | abort hc hat => exact absurd hat' (hreleased hc hat hd nofun)
  | fail hc hat => exact absurd hat' (hreleased hc hat hd nofun)
  | giveUp hwaits hat =>
    rcases getElem?_set_eq_some hd with ⟨rfl, rfl⟩ | ⟨-, hd⟩
    · cases hat'
    · exact hk d call' place' hd hat'

/-- **Only a commit changes the committed state**, to what its transaction
sees. -/
theorem committed_cases (hstep : Step t s e s') :
    s'.committed = s.committed ∧ s'.commits = s.commits ∨
      ∃ c call place, e = .advance c ∧ s.calls[c]? = some call ∧ call.stands = .at place ∧
        t.next call.op (s.view call) place = .commit ∧ s' = s.commit c call := by
  cases hstep with
  | commit hc hat hnext => exact Or.inr ⟨_, _, _, rfl, hc, hat, hnext, rfl⟩
  | _ => exact Or.inl ⟨rfl, rfl⟩

/-- **A call goes on as it was invoked**, and is committed by its own commit
only. -/
theorem call_step (hstep : Step t s e s') (hc : s.calls[c]? = some call) :
    ∃ call', s'.calls[c]? = some call' ∧ call'.op = call.op ∧
      (call'.stands = .committed → call.stands = .committed ∨
        ∃ place, call.stands = .at place ∧ t.next call.op (s.view call) place = .commit) := by
  -- what replaces a call has its operation
  have hset : ∀ {d : ℕ} {old : Call δ ω κ ε} {work : Option δ} {stands : Stands κ ε},
      s.calls[d]? = some old →
      (stands = .committed → ∃ place, old.stands = .at place ∧
        t.next old.op (s.view old) place = .commit) →
      ∃ call', (s.calls.set d ⟨old.op, work, stands⟩)[c]? = some call' ∧ call'.op = call.op ∧
        (call'.stands = .committed → call.stands = .committed ∨
          ∃ place, call.stands = .at place ∧ t.next call.op (s.view call) place = .commit) := by
    intro d old work stands hd hcommit
    by_cases hcd : c = d
    · subst hcd
      rw [hc] at hd
      cases hd
      exact ⟨_, getElem?_set_of_some hc, rfl, fun hs => Or.inr (hcommit hs)⟩
    · exact ⟨call, (getElem?_set_of_ne hcd).trans hc, rfl, Or.inl⟩
  cases hstep with
  | invoke => exact ⟨call, getElem?_concat_of_some hc, rfl, Or.inl⟩
  | acquire hwaits => exact hset hwaits nofun
  | read hat | write hat | abort hat | fail hat | giveUp hat => exact hset hat nofun
  | commit hat hstands hnext => exact hset hat fun _ => ⟨_, hstands, hnext⟩

end LockedTransaction

end Dreamscroll
