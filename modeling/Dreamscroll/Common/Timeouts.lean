import Mathlib.Data.Fintype.Card
import Mathlib.Data.List.Nodup
import Mathlib.Logic.Function.Basic
/-!
# Timeouts of an event loop

A program that sets timeouts and keeps the id of each in a variable: the
loop runs the callback of a timeout once its time has come, and clearing
one by its id forgets it. If every variable is cleared before it is set
again and released when its callback runs, the timeouts pending are those
the variables name, one each.
-/

namespace Dreamscroll

/-- A timeout that is pending. -/
structure Timeout (C : Type*) where
  id : ℕ
  due : ℕ
  callback : C

/-- The timeouts of a program whose variables are `V`. -/
structure Timeouts (V C : Type*) where
  now : ℕ
  pending : List (Timeout C)
  /-- The id the next timeout gets. -/
  next : ℕ
  held : V → Option ℕ

namespace Timeouts

variable {V C : Type*}

/-- Nothing is pending. -/
def start (now : ℕ) : Timeouts V C := ⟨now, [], 0, fun _ => none⟩

/-- Time passes. -/
def elapse (ts : Timeouts V C) (ms : ℕ) : Timeouts V C := { ts with now := ts.now + ms }

/-- The loop takes a timeout that is due. -/
def expire (ts : Timeouts V C) (id : ℕ) : Option (C × Timeouts V C) :=
  (ts.pending.find? fun t => t.id = id ∧ t.due ≤ ts.now).map fun t =>
    (t.callback, { ts with pending := ts.pending.filter fun t => t.id ≠ id })

/-- **The pending timeouts are those the variables name**, where a callback
is kept in the variable `var` says. -/
structure Owned (var : C → V) (ts : Timeouts V C) : Prop where
  fresh : ∀ t ∈ ts.pending, t.id < ts.next
  held_id : ∀ t ∈ ts.pending, ts.held (var t.callback) = some t.id
  pending_of_held : ∀ v id, ts.held v = some id → ∃ t ∈ ts.pending, t.id = id ∧ var t.callback = v
  nodup : (ts.pending.map Timeout.id).Nodup

/-- No timeout is late. -/
def Punctual (ts : Timeouts V C) : Prop := ∀ t ∈ ts.pending, ts.now ≤ t.due

variable {var : C → V} {ts : Timeouts V C} {v : V} {id delay : ℕ} {callback : C} {t t' : Timeout C}

/-- No timer is set at the start. -/
theorem owned_start {now : ℕ} : Owned var (start now : Timeouts V C) where
  fresh _ ht := absurd ht List.not_mem_nil
  held_id _ ht := absurd ht List.not_mem_nil
  pending_of_held _ _ hv := by cases hv
  nodup := List.nodup_nil

/-- Time passing sets no timer. -/
theorem Owned.elapse (h : Owned var ts) {ms : ℕ} : Owned var (ts.elapse ms) := { h with }

/-- A variable holds one timeout. -/
theorem Owned.eq_of_var (h : Owned var ts) (ht : t ∈ ts.pending) (ht' : t' ∈ ts.pending)
    (hvar : var t.callback = var t'.callback) : t = t' := by
  have hheld := h.held_id t ht
  rw [hvar, h.held_id t' ht'] at hheld
  exact (List.inj_on_of_nodup_map h.nodup ht' ht (Option.some.inj hheld)).symm

/-- A timeout fires once it is due, and is gone then. -/
theorem expire_eq_some {ts' : Timeouts V C} (h : ts.expire id = some (callback, ts')) :
    ∃ t ∈ ts.pending, t.id = id ∧ t.due ≤ ts.now ∧ t.callback = callback ∧
      ts' = { ts with pending := ts.pending.filter fun t => t.id ≠ id } := by
  obtain ⟨t, ht, heq⟩ := Option.map_eq_some_iff.1 h
  have hfound := List.find?_some ht
  obtain ⟨hid, hdue⟩ := of_decide_eq_true hfound
  cases heq
  exact ⟨t, List.mem_of_find?_eq_some ht, hid, hdue, rfl, rfl⟩

/-- **There are no more timeouts than variables.** -/
theorem Owned.length_le [Fintype V] (h : Owned var ts) : ts.pending.length ≤ Fintype.card V := by
  have hnodup : (ts.pending.map fun t => var t.callback).Nodup := by
    refine List.Nodup.map_on (fun t ht t' ht' hvar => h.eq_of_var ht ht' hvar) ?_
    exact List.Nodup.of_map _ h.nodup
  have hle := hnodup.length_le_card
  rwa [List.length_map] at hle

variable [DecidableEq V]

/-- The variable is set to `null`. -/
def release (ts : Timeouts V C) (v : V) : Timeouts V C :=
  { ts with held := Function.update ts.held v none }

/-- `clearTimeout` of the variable, unless that is `null`. -/
def clear (ts : Timeouts V C) (v : V) : Timeouts V C :=
  match ts.held v with
  | none => ts
  | some id => { ts with pending := ts.pending.filter fun t => t.id ≠ id }.release v

/-- `setTimeout`, its id kept in the variable. -/
def set (ts : Timeouts V C) (v : V) (callback : C) (delay : ℕ) : Timeouts V C :=
  { ts with
    pending := ts.pending ++ [⟨ts.next, ts.now + delay, callback⟩]
    next := ts.next + 1
    held := Function.update ts.held v (some ts.next) }

/-- The variable is cleared and set again. -/
def arm (ts : Timeouts V C) (v : V) (callback : C) (delay : ℕ) : Timeouts V C :=
  (ts.clear v).set v callback delay

/-! ## Clearing -/

/-- Clearing takes no time. -/
@[simp] theorem now_clear : (ts.clear v).now = ts.now := by
  unfold clear
  split <;> rfl

/-- Clearing takes no id. -/
theorem next_clear : (ts.clear v).next = ts.next := by
  unfold clear
  split <;> rfl

/-- The cleared variable holds nothing, the others what they held. -/
theorem held_clear : (ts.clear v).held = Function.update ts.held v none := by
  unfold clear
  split
  · rename_i hv
    rw [← hv, Function.update_eq_self]
  · rfl

/-- Clearing a variable forgets its timeout, and no other. -/
theorem Owned.mem_clear (h : Owned var ts) :
    t ∈ (ts.clear v).pending ↔ t ∈ ts.pending ∧ var t.callback ≠ v := by
  unfold clear
  split
  · rename_i hnone
    refine ⟨fun ht => ⟨ht, fun hv => ?_⟩, And.left⟩
    have hheld := h.held_id t ht
    rw [hv, hnone] at hheld
    cases hheld
  · rename_i id hid
    change t ∈ ts.pending.filter _ ↔ _
    rw [List.mem_filter, decide_eq_true_eq]
    refine and_congr_right fun ht => not_congr ⟨fun heq => ?_, fun hv => ?_⟩
    · obtain ⟨t', ht', hid', hv'⟩ := h.pending_of_held v id hid
      rw [List.inj_on_of_nodup_map h.nodup ht ht' (heq.trans hid'.symm)]
      exact hv'
    · have hheld := h.held_id t ht
      rw [hv, hid] at hheld
      exact (Option.some.inj hheld).symm

/-- Clearing only takes timeouts away. -/
theorem pending_clear_sublist : (ts.clear v).pending.Sublist ts.pending := by
  unfold clear
  split
  · exact List.Sublist.refl _
  · exact List.filter_sublist

/-- Each variable still owns its timeouts. -/
theorem Owned.clear (h : Owned var ts) : Owned var (ts.clear v) where
  fresh t ht := by
    rw [next_clear]
    exact h.fresh t (h.mem_clear.1 ht).1
  held_id t ht := by
    obtain ⟨ht, hv⟩ := h.mem_clear.1 ht
    rw [held_clear, Function.update_of_ne hv]
    exact h.held_id t ht
  pending_of_held v' id hv' := by
    rw [held_clear] at hv'
    by_cases heq : v' = v
    · rw [heq, Function.update_self] at hv'
      cases hv'
    · rw [Function.update_of_ne heq] at hv'
      obtain ⟨t, ht, hid, hvar⟩ := h.pending_of_held v' id hv'
      exact ⟨t, h.mem_clear.2 ⟨ht, hvar ▸ heq⟩, hid, hvar⟩
  nodup := h.nodup.sublist (pending_clear_sublist.map _)

/-! ## Setting -/

/-- A timeout is set beside the others. -/
theorem mem_set : t ∈ (ts.set v callback delay).pending ↔
    t ∈ ts.pending ∨ t = ⟨ts.next, ts.now + delay, callback⟩ := by
  rw [set, List.mem_append, List.mem_singleton]

/-- A variable that holds nothing may be set. -/
theorem Owned.set (h : Owned var ts) (hnone : ts.held v = none) (hvar : var callback = v) :
    Owned var (ts.set v callback delay) where
  fresh t ht := by
    rcases mem_set.1 ht with ht | rfl
    · exact Nat.lt_succ_of_lt (h.fresh t ht)
    · exact Nat.lt_succ_self _
  held_id t ht := by
    rcases mem_set.1 ht with ht | rfl
    · have hheld := h.held_id t ht
      have hne : var t.callback ≠ v := by
        intro heq
        rw [heq, hnone] at hheld
        cases hheld
      exact (Function.update_of_ne hne _ _).trans hheld
    · change Function.update ts.held v _ (var callback) = _
      rw [hvar, Function.update_self]
  pending_of_held v' id hv' := by
    change Function.update ts.held v _ v' = some id at hv'
    by_cases heq : v' = v
    · rw [heq, Function.update_self] at hv'
      exact ⟨_, mem_set.2 (Or.inr rfl), Option.some.inj hv', hvar.trans heq.symm⟩
    · rw [Function.update_of_ne heq] at hv'
      obtain ⟨t, ht, hid, hvar'⟩ := h.pending_of_held v' id hv'
      exact ⟨t, mem_set.2 (Or.inl ht), hid, hvar'⟩
  nodup := by
    change ((ts.pending ++ [_]).map Timeout.id).Nodup
    rw [List.map_append, List.nodup_append]
    refine ⟨h.nodup, List.nodup_singleton _, fun id hid id' hid' heq => ?_⟩
    obtain ⟨t, ht, rfl⟩ := List.mem_map.1 hid
    rw [List.map_singleton, List.mem_singleton] at hid'
    have hlt : t.id < ts.next := h.fresh t ht
    have heq' : t.id = ts.next := heq.trans hid'
    omega

/-! ## Arming -/

/-- Only one timeout of a variable is ever pending. -/
theorem Owned.arm (h : Owned var ts) : Owned var (ts.arm (var callback) callback delay) := by
  refine h.clear.set ?_ rfl
  rw [held_clear, Function.update_self]

/-- After arming, the variable has the new timeout alone. -/
theorem Owned.mem_arm (h : Owned var ts) :
    t ∈ (ts.arm v callback delay).pending ↔
      t ∈ ts.pending ∧ var t.callback ≠ v ∨ t = ⟨ts.next, ts.now + delay, callback⟩ := by
  rw [Timeouts.arm, mem_set, h.mem_clear, next_clear, now_clear]

/-- Clearing a variable that holds nothing does nothing. -/
theorem clear_of_none (h : ts.held v = none) : ts.clear v = ts := by
  unfold clear
  rw [h]

/-- Clearing a variable twice is clearing it once. -/
theorem arm_clear : (ts.clear v).arm v callback delay = ts.arm v callback delay := by
  have hnone : (ts.clear v).held v = none := by rw [held_clear, Function.update_self]
  rw [arm, clear_of_none hnone, arm]

/-! ## Expiring -/

/-- A callback that releases its variable leaves what clearing it would. -/
theorem Owned.release_expire (h : Owned var ts) {ts' : Timeouts V C}
    (hexpire : ts.expire id = some (callback, ts')) :
    ts'.release (var callback) = ts.clear (var callback) := by
  obtain ⟨t, ht, rfl, -, rfl, rfl⟩ := expire_eq_some hexpire
  rw [Timeouts.clear, h.held_id t ht]

end Timeouts

end Dreamscroll
