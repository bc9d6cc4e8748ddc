import Mathlib.Data.List.Induction
import Mathlib.Data.List.Nodup
import Mathlib.Logic.Function.Basic
/-!
# The one-shot queue

`OneShotQueue`: a deque of items and a map of their statuses, both behind
one mutex, so that a history is a list of calls. The deque and the map are
at every point what three lists say, the items enqueued, popped and
completed so far (`Follows`); every fact about histories is read off it
(`one_shot`).
-/

namespace Dreamscroll

/-! ## The items in the order they are first seen -/

section FirstSeen

variable {α : Type*} [DecidableEq α]

/-- The list without its repetitions; the first occurrence stays. -/
def firstSeen (xs : List α) : List α :=
  xs.foldl (fun seen x => if x ∈ seen then seen else seen ++ [x]) []

variable {xs : List α} {x y : α}

/-- One more item counts when it has not been seen. -/
theorem firstSeen_concat :
    firstSeen (xs ++ [x]) = if x ∈ firstSeen xs then firstSeen xs else firstSeen xs ++ [x] := by
  unfold firstSeen
  rw [List.foldl_append]
  rfl

/-- Every item is seen once. -/
theorem mem_firstSeen : y ∈ firstSeen xs ↔ y ∈ xs := by
  induction xs using List.reverseRecOn with
  | nil => rfl
  | append_singleton xs x ih =>
    rw [firstSeen_concat]
    split_ifs with h
    · rw [List.mem_append, List.mem_singleton, ih]
      constructor
      · exact Or.inl
      · rintro (hy | rfl)
        · exact hy
        · exact ih.1 h
    · rw [List.mem_append, List.mem_append, ih]

/-- No item is seen twice. -/
theorem nodup_firstSeen : (firstSeen xs).Nodup := by
  induction xs using List.reverseRecOn with
  | nil => exact List.nodup_nil
  | append_singleton xs x ih =>
    rw [firstSeen_concat]
    split_ifs with h
    · exact ih
    · refine List.nodup_append.2 ⟨ih, List.nodup_singleton x, ?_⟩
      intro y hy z hz heq
      rw [List.mem_singleton] at hz
      exact h (hz ▸ heq ▸ hy)

end FirstSeen

/-! ## The queue -/

/-- Where an item is that was enqueued. -/
inductive QueueStatus
  | pending
  | reserved
  | completed
  deriving DecidableEq, Repr

/-- `OneShotQueueInner`. -/
structure OneShotQueue (α : Type*) where
  pending : List α
  statusMap : α → Option QueueStatus

namespace OneShotQueue

variable {α : Type*}

/-- The panics of `pop_next`. -/
inductive Panic (α : Type*)
  /-- `invariant violated: pending item not in status_map` -/
  | notInStatusMap
  /-- `invariant violated: only pending items should be in pending queue` -/
  | notPending (status : QueueStatus) (item : α)
  deriving DecidableEq

/-- `OneShotQueue::new`. -/
def new : OneShotQueue α := ⟨[], fun _ => none⟩

variable [DecidableEq α]

/-- `enqueue`: an item that was ever enqueued is not taken again. -/
def enqueue (q : OneShotQueue α) (item : α) : OneShotQueue α × Bool :=
  match q.statusMap item with
  | none => (⟨q.pending ++ [item], Function.update q.statusMap item (some .pending)⟩, true)
  | some _ => (q, false)

/-- The loop of `enqueue_iter`. -/
def enqueueLoop : OneShotQueue α → ℕ → List α → OneShotQueue α × ℕ
  | q, count, [] => (q, count)
  | q, count, item :: items =>
    match q.statusMap item with
    | none =>
      enqueueLoop ⟨q.pending ++ [item], Function.update q.statusMap item (some .pending)⟩
        (count + 1) items
    | some _ => enqueueLoop q count items

/-- `enqueue_iter`: with the number of items taken. -/
def enqueueIter (q : OneShotQueue α) (items : List α) : OneShotQueue α × ℕ :=
  enqueueLoop q 0 items

/-- `pop_next`: the front of the deque, which is reserved from then on. -/
def popNext (q : OneShotQueue α) : Except (Panic α) (OneShotQueue α × Option α) :=
  match q.pending with
  | [] => .ok (q, none)
  | next :: pending =>
    match q.statusMap next with
    | none => .error .notInStatusMap
    | some .pending =>
      .ok (⟨pending, Function.update q.statusMap next (some .reserved)⟩, some next)
    | some status => .error (.notPending status next)

/-- `complete`: true where it completes a reserved item. -/
def complete (q : OneShotQueue α) (item : α) : OneShotQueue α × Bool :=
  match q.statusMap item with
  | some .reserved =>
    (⟨q.pending, Function.update q.statusMap item (some .completed)⟩, true)
  | _ => (q, false)

/-! ## Histories -/

/-- A call, atomic under the mutex. -/
inductive Call (α : Type*)
  | enqueue (item : α)
  | enqueueIter (items : List α)
  | popNext
  | complete (item : α)
  deriving DecidableEq

/-- What the call returns. -/
inductive Answer (α : Type*)
  | enqueued (new : Bool)
  | count (new : ℕ)
  | popped (item : Option α)
  | completed (now : Bool)
  deriving DecidableEq

/-- The call, with its answer. -/
def exec (q : OneShotQueue α) : Call α → Except (Panic α) (OneShotQueue α × Answer α)
  | .enqueue item => .ok ((q.enqueue item).map id .enqueued)
  | .enqueueIter items => .ok ((q.enqueueIter items).map id .count)
  | .popNext => q.popNext.map fun result => result.map id .popped
  | .complete item => .ok ((q.complete item).map id .completed)

/-- **The calls in the order they take the mutex**, with their answers. -/
def run : OneShotQueue α → List (Call α) →
    Except (Panic α) (OneShotQueue α × List (Call α × Answer α))
  | q, [] => .ok (q, [])
  | q, call :: calls =>
    match q.exec call with
    | .error panic => .error panic
    | .ok (q, answer) =>
      match run q calls with
      | .error panic => .error panic
      | .ok (q, history) => .ok (q, (call, answer) :: history)

/-- The items handed to the queue, in order. -/
def enqueuedItems (history : List (Call α × Answer α)) : List α :=
  history.flatMap fun
    | (.enqueue item, _) => [item]
    | (.enqueueIter items, _) => items
    | _ => []

/-- The items `pop_next` returned, in order. -/
def poppedItems (history : List (Call α × Answer α)) : List α :=
  history.filterMap fun
    | (.popNext, .popped item) => item
    | _ => none

/-- The items for which `complete` returned true. -/
def completedItems (history : List (Call α × Answer α)) : List α :=
  history.filterMap fun
    | (.complete item, .completed true) => some item
    | _ => none

/-- Where the status of an item may go in one call. -/
inductive Moves : Option QueueStatus → Option QueueStatus → Prop
  | stay (status : Option QueueStatus) : Moves status status
  | enqueue : Moves none (some .pending)
  | pop : Moves (some .pending) (some .reserved)
  | complete : Moves (some .reserved) (some .completed)

/-- **Each item is processed once.** -/
structure ProcessesOnce (q : OneShotQueue α) (history : List (Call α × Answer α)) : Prop where
  nodup : q.pending.Nodup
  mem_pending : ∀ x, x ∈ q.pending ↔ q.statusMap x = some .pending
  popped_once : (poppedItems history).Nodup
  /-- What was popped and what is pending is what was enqueued, in order. -/
  in_order : poppedItems history ++ q.pending = firstSeen (enqueuedItems history)
  completed : ∀ before x answer after,
    history = before ++ (.complete x, .completed answer) :: after →
      (answer = true ↔ (.popNext, .popped (some x)) ∈ before ∧
        (.complete x, .completed true) ∉ before)
  /-- A next `pop_next` answers the first pending item, if there is one. -/
  pops_front : ∃ q', q.exec .popNext = .ok (q', .popped q.pending.head?) ∧
    q'.pending = q.pending.tail
  /-- No next call panics, and it moves a status by one step at most. -/
  moves : ∀ call, ∃ q' answer, q.exec call = .ok (q', answer) ∧
    ∀ x, Moves (q.statusMap x) (q'.statusMap x)
  /-- `enqueue_iter` is one `enqueue` after the other. -/
  one_by_one : ∀ xs, ∃ history', q.run (xs.map .enqueue) = .ok ((q.enqueueIter xs).1, history') ∧
    (q.enqueueIter xs).2 = (history'.filter fun entry => entry.2 = .enqueued true).length

/-! ## What the queue knows -/

/-- **The queue follows its history**: the deque and the map are given by
the items enqueued, popped and completed so far. -/
structure Follows (q : OneShotQueue α) (enqueued popped completed : List α) : Prop where
  order : popped ++ q.pending = firstSeen enqueued
  status : ∀ x, q.statusMap x =
    if x ∈ completed then some .completed
    else if x ∈ popped then some .reserved
    else if x ∈ enqueued then some .pending
    else none
  completed_popped : ∀ x ∈ completed, x ∈ popped

variable {q q' : OneShotQueue α} {enqueued popped completed xs : List α} {x y : α}
  {history history' : List (Call α × Answer α)} {call : Call α} {answer : Answer α}

/-- **The loop of `enqueue_iter` is one `enqueue` after the other.** -/
theorem enqueueLoop_cons (q : OneShotQueue α) (count : ℕ) (x : α) (xs : List α) :
    q.enqueueLoop count (x :: xs) =
      (q.enqueue x).1.enqueueLoop (count + if (q.enqueue x).2 then 1 else 0) xs := by
  unfold enqueue
  rw [enqueueLoop]
  cases q.statusMap x <;> rfl

/-- A new queue has seen nothing. -/
theorem follows_new : Follows (new : OneShotQueue α) [] [] [] :=
  ⟨rfl, fun _ => rfl, fun _ h => h⟩

namespace Follows

variable (h : Follows q enqueued popped completed)

include h

/-- Nothing is popped and pending at once, or twice. -/
theorem nodup : (popped ++ q.pending).Nodup := h.order ▸ nodup_firstSeen

/-- What was enqueued has been popped or is pending. -/
theorem mem_enqueued : x ∈ enqueued ↔ x ∈ popped ∨ x ∈ q.pending := by
  rw [← mem_firstSeen, ← h.order, List.mem_append]

/-- A pending item has not been popped. -/
theorem not_popped (hx : x ∈ q.pending) : x ∉ popped :=
  fun hp => (List.nodup_append.1 h.nodup).2.2 x hp x hx rfl

/-- **The deque holds the pending items.** -/
theorem mem_pending : x ∈ q.pending ↔ q.statusMap x = some .pending := by
  rw [h.status]
  constructor
  · intro hx
    have hp := h.not_popped hx
    rw [if_neg fun hc => hp (h.completed_popped x hc), if_neg hp,
      if_pos (h.mem_enqueued.2 (Or.inr hx))]
  · intro hx
    split_ifs at hx with hc hp he
    · cases hx
    · cases hx
    · exact (h.mem_enqueued.1 he).resolve_left hp

/-- An item without a status was never enqueued. -/
theorem status_eq_none : q.statusMap x = none ↔ x ∉ enqueued := by
  rw [h.status]
  constructor
  · intro hx hmem
    split_ifs at hx with hc hp
  · intro hx
    have hp : x ∉ popped := fun hp => hx (h.mem_enqueued.2 (Or.inl hp))
    rw [if_neg fun hc => hp (h.completed_popped x hc), if_neg hp, if_neg hx]

/-- A reserved item was popped and is not complete. -/
theorem status_eq_reserved : q.statusMap x = some .reserved ↔ x ∈ popped ∧ x ∉ completed := by
  rw [h.status]
  constructor
  · intro hx
    split_ifs at hx with hc hp he
    · cases hx
    · exact ⟨hp, hc⟩
    · cases hx
  · rintro ⟨hp, hc⟩
    rw [if_neg hc, if_pos hp]

/-! ## What a call does -/

/-- **An item that is new is put at the end.** -/
theorem push (hx : x ∉ enqueued) :
    Follows ⟨q.pending ++ [x], Function.update q.statusMap x (some .pending)⟩ (enqueued ++ [x])
      popped completed := by
  have hp : x ∉ popped := fun hp => hx (h.mem_enqueued.2 (Or.inl hp))
  refine ⟨?_, fun y => ?_, h.completed_popped⟩
  · rw [firstSeen_concat, if_neg fun hmem => hx (mem_firstSeen.1 hmem), ← h.order,
      List.append_assoc]
  · by_cases hy : y = x
    · rw [hy, if_neg fun hc => hp (h.completed_popped x hc), if_neg hp,
        if_pos (List.mem_append_right _ (List.mem_singleton_self x))]
      exact Function.update_self ..
    · have hmem : y ∈ enqueued ++ [x] ↔ y ∈ enqueued := by
        rw [List.mem_append, List.mem_singleton, or_iff_left hy]
      refine (Function.update_of_ne hy ..).trans ((h.status y).trans ?_)
      simp only [hmem]

/-- One that is not new leaves everything as it is. -/
theorem skip (hx : x ∈ enqueued) : Follows q (enqueued ++ [x]) popped completed := by
  have hmem : ∀ y, y ∈ enqueued ++ [x] ↔ y ∈ enqueued := by
    intro y
    rw [List.mem_append, List.mem_singleton]
    constructor
    · rintro (hy | rfl)
      · exact hy
      · exact hx
    · exact Or.inl
  refine ⟨?_, fun y => ?_, h.completed_popped⟩
  · rw [firstSeen_concat, if_pos (mem_firstSeen.2 hx), h.order]
  · rw [h.status]
    simp only [hmem]

theorem enqueue (x : α) : Follows (q.enqueue x).1 (enqueued ++ [x]) popped completed := by
  unfold OneShotQueue.enqueue
  cases hx : q.statusMap x with
  | none => exact h.push (h.status_eq_none.1 hx)
  | some status =>
    refine h.skip ?_
    by_contra hnot
    rw [h.status_eq_none.2 hnot] at hx
    cases hx

omit h in
theorem enqueueLoop (h : Follows q enqueued popped completed) (count : ℕ) :
    Follows (q.enqueueLoop count xs).1 (enqueued ++ xs) popped completed := by
  induction xs generalizing q enqueued count with
  | nil => rwa [List.append_nil]
  | cons x xs ih =>
    rw [enqueueLoop_cons, ← List.singleton_append, ← List.append_assoc]
    exact ih (h.enqueue x) _

/-- **`pop_next` does not panic**, and returns the first pending item. -/
theorem popNext : ∃ q', q.popNext = .ok (q', q.pending.head?) ∧ q'.pending = q.pending.tail ∧
    Follows q' enqueued (popped ++ q.pending.head?.toList) completed := by
  unfold OneShotQueue.popNext
  cases hpending : q.pending with
  | nil => exact ⟨q, rfl, hpending, (List.append_nil popped).symm ▸ h⟩
  | cons next pending =>
    have hnext : next ∈ q.pending := hpending ▸ List.mem_cons_self
    have hnot := h.not_popped hnext
    rw [List.head?_cons, List.tail_cons]
    refine ⟨⟨pending, Function.update q.statusMap next (some .reserved)⟩, ?_, rfl,
      ?_, fun y => ?_, ?_⟩
    · simp only [h.mem_pending.1 hnext]
    · rw [← h.order, hpending, Option.toList_some, List.append_assoc, List.singleton_append]
    · by_cases hy : y = next
      · have hmem : next ∈ popped ++ (some next).toList :=
          List.mem_append_right _ (List.mem_singleton_self next)
        rw [hy, if_neg fun hc => hnot (h.completed_popped next hc), if_pos hmem]
        exact Function.update_self ..
      · have hmem : y ∈ popped ++ (some next).toList ↔ y ∈ popped := by
          rw [Option.toList_some, List.mem_append, List.mem_singleton, or_iff_left hy]
        refine (Function.update_of_ne hy ..).trans ((h.status y).trans ?_)
        simp only [hmem]
    · exact fun y hy => List.mem_append_left _ (h.completed_popped y hy)

/-- **`complete` takes an item that is reserved**, and no other. -/
theorem complete (x : α) :
    (x ∈ popped ∧ x ∉ completed) ∧
        (∃ q', q.complete x = (q', true) ∧ Follows q' enqueued popped (completed ++ [x])) ∨
      ¬ (x ∈ popped ∧ x ∉ completed) ∧ q.complete x = (q, false) := by
  by_cases hx : q.statusMap x = some .reserved
  · have hpopped := h.status_eq_reserved.1 hx
    refine Or.inl ⟨hpopped, ⟨q.pending, Function.update q.statusMap x (some .completed)⟩, ?_,
      h.order, fun y => ?_, fun y hy => ?_⟩
    · unfold OneShotQueue.complete
      rw [hx]
    · by_cases hy : y = x
      · rw [hy, if_pos (List.mem_append_right _ (List.mem_singleton_self x))]
        exact Function.update_self ..
      · have hmem : y ∈ completed ++ [x] ↔ y ∈ completed := by
          rw [List.mem_append, List.mem_singleton, or_iff_left hy]
        refine (Function.update_of_ne hy ..).trans ((h.status y).trans ?_)
        simp only [hmem]
    · rcases List.mem_append.1 hy with hy | hy
      · exact h.completed_popped y hy
      · exact List.mem_singleton.1 hy ▸ hpopped.1
  · refine Or.inr ⟨fun hpopped => hx (h.status_eq_reserved.2 hpopped), ?_⟩
    unfold OneShotQueue.complete
    split
    · contradiction
    · rfl

end Follows

/-! ## What a history says -/

omit [DecidableEq α] in
/-- What two histories in a row enqueue. -/
theorem enqueuedItems_append :
    enqueuedItems (history ++ history') = enqueuedItems history ++ enqueuedItems history' :=
  List.flatMap_append

omit [DecidableEq α] in
/-- What two histories in a row pop. -/
theorem poppedItems_append :
    poppedItems (history ++ history') = poppedItems history ++ poppedItems history' :=
  List.filterMap_append

omit [DecidableEq α] in
/-- What two histories in a row complete. -/
theorem completedItems_append :
    completedItems (history ++ history') = completedItems history ++ completedItems history' :=
  List.filterMap_append

omit [DecidableEq α] in
/-- An item was popped when some call answered it. -/
theorem mem_poppedItems : x ∈ poppedItems history ↔ (.popNext, .popped (some x)) ∈ history := by
  unfold poppedItems
  rw [List.mem_filterMap]
  constructor
  · rintro ⟨⟨call, answer⟩, hmem, hx⟩
    cases call <;> cases answer <;> cases hx
    exact hmem
  · exact fun hmem => ⟨_, hmem, rfl⟩

omit [DecidableEq α] in
/-- An item was completed when a call for it answered so. -/
theorem mem_completedItems :
    x ∈ completedItems history ↔ (.complete x, .completed true) ∈ history := by
  unfold completedItems
  rw [List.mem_filterMap]
  constructor
  · rintro ⟨⟨call, answer⟩, hmem, hx⟩
    split at hx
    · rename_i heq
      cases hx
      exact heq ▸ hmem
    · cases hx
  · exact fun hmem => ⟨_, hmem, rfl⟩

/-- Every answer of `complete` says whether the item was reserved. -/
def Truthful (history : List (Call α × Answer α)) : Prop :=
  ∀ before x answer after, history = before ++ (.complete x, .completed answer) :: after →
    (answer = true ↔ x ∈ poppedItems before ∧ x ∉ completedItems before)

omit [DecidableEq α] in
/-- One more call with a true answer. -/
theorem Truthful.concat {entry : Call α × Answer α} (h : Truthful history)
    (hentry : ∀ x answer, entry = (.complete x, .completed answer) →
      (answer = true ↔ x ∈ poppedItems history ∧ x ∉ completedItems history)) :
    Truthful (history ++ [entry]) := by
  intro before x answer after heq
  rcases List.eq_nil_or_concat after with rfl | ⟨after', last, rfl⟩
  · obtain ⟨rfl, hlast⟩ := List.append_inj' heq rfl
    exact hentry x answer (List.singleton_injective hlast)
  · rw [List.concat_eq_append, ← List.cons_append, ← List.append_assoc] at heq
    exact h before x answer after' (List.append_inj' heq rfl).1

/-- The queue follows the history. -/
def FollowsHistory (q : OneShotQueue α) (history : List (Call α × Answer α)) : Prop :=
  Follows q (enqueuedItems history) (poppedItems history) (completedItems history)

/-- **A call does not panic, and the queue goes on following the history.** -/
theorem FollowsHistory.exec (h : FollowsHistory q history) (call : Call α) :
    ∃ q' answer, q.exec call = .ok (q', answer) ∧ FollowsHistory q' (history ++ [(call, answer)]) ∧
      ∀ x now, (call, answer) = (.complete x, .completed now) →
        (now = true ↔ x ∈ poppedItems history ∧ x ∉ completedItems history) := by
  unfold FollowsHistory at h ⊢
  simp only [enqueuedItems_append, poppedItems_append, completedItems_append]
  cases call with
  | enqueue item =>
    have hnext := h.enqueue item
    rw [← List.append_nil (poppedItems history), ← List.append_nil (completedItems history)] at hnext
    exact ⟨_, _, rfl, hnext, fun _ _ heq => by cases heq⟩
  | enqueueIter items =>
    have hnext : Follows (q.enqueueIter items).1 _ _ _ := h.enqueueLoop 0
    rw [← List.append_nil (poppedItems history), ← List.append_nil (completedItems history)] at hnext
    refine ⟨_, _, rfl, ?_, fun _ _ heq => by cases heq⟩
    rw [show enqueuedItems [(Call.enqueueIter items, _)] = items from List.append_nil items]
    exact hnext
  | popNext =>
    obtain ⟨q', hpop, -, hnext⟩ := h.popNext
    rw [← List.append_nil (enqueuedItems history), ← List.append_nil (completedItems history)] at hnext
    refine ⟨q', .popped q.pending.head?, ?_, ?_, fun _ _ heq => by cases heq⟩
    · change (q.popNext.map _) = _
      rw [hpop]
      rfl
    · cases hitem : q.pending.head? <;> exact hitem ▸ hnext
  | complete item =>
    rcases h.complete item with ⟨hpopped, q', hresult, hnext⟩ | ⟨hnot, hresult⟩
    · rw [← List.append_nil (enqueuedItems history), ← List.append_nil (poppedItems history)] at hnext
      refine ⟨q', .completed true, ?_, hnext, ?_⟩
      · change Except.ok ((q.complete item).map _ _) = _
        rw [hresult]
        rfl
      · intro x now heq
        cases heq
        exact ⟨fun _ => hpopped, fun _ => rfl⟩
    · rw [← List.append_nil (enqueuedItems history), ← List.append_nil (poppedItems history),
        ← List.append_nil (completedItems history)] at h
      refine ⟨q, .completed false, ?_, h, ?_⟩
      · change Except.ok ((q.complete item).map _ _) = _
        rw [hresult]
        rfl
      · intro x now heq
        cases heq
        exact ⟨fun hfalse => (Bool.false_ne_true hfalse).elim, fun hpopped => absurd hpopped hnot⟩

/-- **So no history panics**, by induction on the calls. -/
theorem FollowsHistory.run (calls : List (Call α)) (h : FollowsHistory q history)
    (htrue : Truthful history) : ∃ q' history', q.run calls = .ok (q', history') ∧
      history'.map Prod.fst = calls ∧ FollowsHistory q' (history ++ history') ∧
      Truthful (history ++ history') := by
  induction calls generalizing q history with
  | nil => exact ⟨q, [], rfl, rfl, (List.append_nil history).symm ▸ ⟨h, htrue⟩⟩
  | cons call calls ih =>
    obtain ⟨q₁, answer, hexec, hfollows, hanswer⟩ := h.exec call
    obtain ⟨q', history', hrun, hcalls, hfollows', htrue'⟩ := ih hfollows (htrue.concat hanswer)
    rw [List.append_assoc] at hfollows' htrue'
    refine ⟨q', (call, answer) :: history', ?_, congrArg (call :: ·) hcalls, hfollows', htrue'⟩
    unfold OneShotQueue.run
    simp only [hexec, hrun]

/-! ## Where the statuses go -/

/-- When one item moves, every item moves or stands still. -/
theorem moves_update {statusMap : α → Option QueueStatus} {item : α}
    {status : Option QueueStatus} (h : Moves (statusMap item) status) (x : α) :
    Moves (statusMap x) (Function.update statusMap item status x) := by
  by_cases hx : x = item
  · rw [hx, Function.update_self]
    exact h
  · rw [Function.update_of_ne hx]
    exact .stay _

/-- An item that was new was handed over once at most. -/
theorem moves_enqueueLoop (q : OneShotQueue α) (count : ℕ) (xs : List α) (x : α) :
    q.statusMap x = (q.enqueueLoop count xs).1.statusMap x ∨
      q.statusMap x = none ∧ (q.enqueueLoop count xs).1.statusMap x = some .pending := by
  induction xs generalizing q count with
  | nil => exact Or.inl rfl
  | cons item items ih =>
    rw [enqueueLoop]
    cases hitem : q.statusMap item with
    | some status => exact ih q count
    | none =>
      have hrest := ih ⟨q.pending ++ [item], Function.update q.statusMap item (some .pending)⟩
        (count + 1)
      by_cases hx : x = item
      · rw [hx] at hrest ⊢
        rcases hrest with hsame | ⟨hnone, -⟩
        · exact Or.inr ⟨hitem, hsame.symm.trans (Function.update_self ..)⟩
        · cases (Function.update_self ..).symm.trans hnone
      · have hold : Function.update q.statusMap item (some .pending) x = q.statusMap x :=
          Function.update_of_ne hx ..
        simp only [hold] at hrest
        exact hrest

/-- **A call moves a status by one step at most.** -/
theorem moves_exec (h : q.exec call = .ok (q', answer)) (x : α) :
    Moves (q.statusMap x) (q'.statusMap x) := by
  cases call with
  | enqueue item =>
    cases h
    change Moves _ ((q.enqueue item).1.statusMap x)
    unfold enqueue
    cases hitem : q.statusMap item with
    | none => exact moves_update (hitem ▸ .enqueue) x
    | some status => exact .stay _
  | enqueueIter items =>
    cases h
    change Moves _ ((q.enqueueLoop 0 items).1.statusMap x)
    rcases moves_enqueueLoop q 0 items x with hsame | ⟨hnone, hpending⟩
    · rw [← hsame]
      exact .stay _
    · rw [hnone, hpending]
      exact .enqueue
  | popNext =>
    change q.popNext.map _ = _ at h
    unfold popNext at h
    cases hpending : q.pending with
    | nil =>
      rw [hpending] at h
      cases h
      exact .stay _
    | cons next pending =>
      simp only [hpending] at h
      cases hstatus : q.statusMap next with
      | none =>
        rw [hstatus] at h
        cases h
      | some status =>
        rw [hstatus] at h
        cases status <;> cases h
        exact moves_update (hstatus ▸ .pop) x
  | complete item =>
    cases h
    change Moves _ ((q.complete item).1.statusMap x)
    unfold complete
    split
    · rename_i hitem
      exact moves_update (hitem ▸ .complete) x
    · exact .stay _

/-! ## One item after the other -/

/-- Enqueueing a list is enqueueing its items one by one, and the count is
that of the accepted ones. -/
theorem run_enqueueLoop (q : OneShotQueue α) (count : ℕ) (xs : List α) :
    ∃ history', q.run (xs.map .enqueue) = .ok ((q.enqueueLoop count xs).1, history') ∧
      (q.enqueueLoop count xs).2 =
        count + (history'.filter fun entry => entry.2 = .enqueued true).length := by
  induction xs generalizing q count with
  | nil => exact ⟨[], rfl, rfl⟩
  | cons x xs ih =>
    obtain ⟨history', hrun, hcount⟩ := ih (q.enqueue x).1 (count + if (q.enqueue x).2 then 1 else 0)
    refine ⟨(.enqueue x, .enqueued (q.enqueue x).2) :: history', ?_, ?_⟩
    · rw [enqueueLoop_cons, List.map_cons]
      unfold run exec
      simp only [Prod.map, id, hrun]
    · rw [enqueueLoop_cons, hcount]
      cases (q.enqueue x).2 with
      | true => simp only [if_true, List.filter_cons, decide_true, List.length_cons]; omega
      | false => simp

/-- **Every history of calls**: none of them panics, and each item is
processed once. -/
theorem one_shot (calls : List (Call α)) : ∃ q history,
    (new : OneShotQueue α).run calls = .ok (q, history) ∧ history.map Prod.fst = calls ∧
      ProcessesOnce q history := by
  have htrue : Truthful ([] : List (Call α × Answer α)) := by
    intro before x answer after heq
    cases before <;> cases heq
  obtain ⟨q, history, hrun, hcalls, hfollows, htrue'⟩ :=
    FollowsHistory.run calls (show FollowsHistory new [] from follows_new) htrue
  rw [List.nil_append] at hfollows htrue'
  refine ⟨q, history, hrun, hcalls, ?_⟩
  refine ⟨(List.nodup_append.1 hfollows.nodup).2.1, fun x => hfollows.mem_pending,
    (List.nodup_append.1 hfollows.nodup).1, hfollows.order, ?_, ?_, fun call => ?_,
    fun xs => ?_⟩
  · intro before x answer after heq
    rw [← mem_poppedItems, ← mem_completedItems]
    exact htrue' before x answer after heq
  · obtain ⟨q', hpop, htail, -⟩ := Follows.popNext hfollows
    refine ⟨q', ?_, htail⟩
    change q.popNext.map _ = _
    rw [hpop]
    rfl
  · obtain ⟨q', answer, hexec, -, -⟩ := hfollows.exec call
    exact ⟨q', answer, hexec, moves_exec hexec⟩
  · obtain ⟨history', hiter, hcount⟩ := run_enqueueLoop q 0 xs
    exact ⟨history', hiter, hcount.trans (Nat.zero_add _)⟩

end OneShotQueue

end Dreamscroll
