import Mathlib.Data.List.Basic
import Mathlib.Data.Nat.Notation
/-!
# Broadcast and watch channels

A broadcast channel as one of its receivers sees it. `Broadcast` is what a
program may rely on: values arrive in the order they were sent, and a
receiver that missed one is told so before it gets another. `ring` is the
bounded channel that keeps the last `capacity` values.

A watch channel holds one value and tells a receiver that it changed.
-/

namespace Dreamscroll

/-- What a receive answers. -/
inductive Recv (E : Type)
  | ok (event : E)
  /-- The receiver was overrun by this many values. -/
  | lagged (skipped : ℕ)
  /-- Every sender is gone, and nothing is left. -/
  | closed
  deriving DecidableEq, Repr

/-- **A broadcast channel, from one receiver.** A receive answers `none`
while it is pending, and has then done nothing: it may be dropped. -/
structure Broadcast (E χ : Type) where
  /-- A new receiver, from this moment on. -/
  subscribe : χ
  send : χ → E → χ
  close : χ → χ
  recv : χ → Option (Recv E × χ)
  /-- What was sent since the subscription and has not been received. -/
  unread : χ → List E
  unread_subscribe : unread subscribe = []
  unread_send : ∀ rx event, unread (send rx event) = unread rx ++ [event]
  unread_close : ∀ rx, unread (close rx) = unread rx
  /-- A value is received in its turn: one that was missed is reported. -/
  recv_ok : ∀ rx event rx', recv rx = some (.ok event, rx') → unread rx = event :: unread rx'

/-! ## The bounded channel -/

/-- What a receiver of the bounded channel is behind by. -/
structure Ring (E : Type) where
  backlog : List E
  closed : Bool
  deriving DecidableEq, Repr

namespace Ring

variable {E : Type}

/-- Of the backlog only the last `capacity` values are retained. -/
def recv (capacity : ℕ) (rx : Ring E) : Option (Recv E × Ring E) :=
  if capacity < rx.backlog.length then
    let skipped := rx.backlog.length - capacity
    some (.lagged skipped, { rx with backlog := rx.backlog.drop skipped })
  else
    match rx.backlog with
    | event :: rest => some (.ok event, { rx with backlog := rest })
    | [] => if rx.closed then some (.closed, rx) else none

theorem recv_ok {capacity : ℕ} {rx rx' : Ring E} {event : E}
    (h : rx.recv capacity = some (.ok event, rx')) : rx.backlog = event :: rx'.backlog := by
  unfold recv at h
  split at h
  · cases h
  · split at h
    · rename_i first rest hb
      simp only [Option.some.injEq, Prod.mk.injEq, Recv.ok.injEq] at h
      obtain ⟨rfl, rfl⟩ := h
      exact hb
    · split at h <;> cases h

end Ring

/-- **The bounded channel keeps what `Broadcast` promises.** -/
def ring (E : Type) (capacity : ℕ) : Broadcast E (Ring E) where
  subscribe := ⟨[], false⟩
  send rx event := { rx with backlog := rx.backlog ++ [event] }
  close rx := { rx with closed := true }
  recv := Ring.recv capacity
  unread := Ring.backlog
  unread_subscribe := rfl
  unread_send _ _ := rfl
  unread_close _ := rfl
  recv_ok _ _ _ h := Ring.recv_ok h

/-! ## Watch channels -/

/-- A receiver of a watch channel over a flag. -/
structure Watch where
  value : Bool
  /-- The value has been sent since the receiver last looked for a change. -/
  unseen : Bool
  senderDropped : Bool
  deriving DecidableEq, Repr

namespace Watch

/-- `send`: the receiver has something to see. -/
def send (w : Watch) (value : Bool) : Watch := { w with value := value, unseen := true }

/-- The sender is dropped. -/
def dropSender (w : Watch) : Watch := { w with senderDropped := true }

/-- `changed`: pending until a value is unseen, which it then marks as seen,
or an error once the sender is gone. -/
def changed (w : Watch) : Option (Except Unit Unit × Watch) :=
  if w.unseen then some (.ok (), { w with unseen := false })
  else if w.senderDropped then some (.error (), w)
  else none

end Watch

end Dreamscroll
