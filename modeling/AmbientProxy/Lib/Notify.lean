import Mathlib.Data.List.Basic

/-! # A notification cell with edge-triggered and permit-based wake-ups

    The wake-up primitive that asynchronous tasks share: a task creates a
    FUTURE of the cell and polls it; another task notifies.  Two ways to notify:

    * `notifyWaiters` wakes every future CREATED before the call, whether or not
      it was polled yet, and stores nothing for later ones;
    * `notifyOne` wakes the oldest REGISTERED waiter, and stores one permit if
      there is none; a second call on a stored permit changes nothing.

    A future that was created but never polled remembers how many
    `notifyWaiters` calls the cell had seen (`Notified.init`); its first poll
    takes the permit, or sees a newer call, or registers.  A registered future
    (`Notified.waiting`) is complete when it is no longer among the waiters.

    The rules the users of a cell need: `ready_notifyWaiters` (a call completes
    every future created before it) and `ready_poll_of_ne` (polling one future
    never takes a completed one back, in a cell that stores no permit). -/

namespace Sync

/-- A notification cell whose futures are named by `W`. -/
structure Notify (W : Type) where
  permit : Bool := false
  calls : Nat := 0
  waiters : List W := []
  deriving DecidableEq, Repr

/-- The state of one future of a cell, from its creation to its completion. -/
inductive Notified where
  /-- Created when the cell had seen this many `notifyWaiters` calls. -/
  | init (calls : Nat)
  /-- Polled at least once, and registered as a waiter. -/
  | waiting
  deriving DecidableEq, Repr

variable {W : Type}

namespace Notify

/-- Create a future. -/
def notified (n : Notify W) : Notified := .init n.calls

/-- Wake every future created so far. -/
def notifyWaiters (n : Notify W) : Notify W :=
  { n with calls := n.calls + 1, waiters := [] }

/-- Wake the oldest registered waiter, or store the permit. -/
def notifyOne (n : Notify W) : Notify W :=
  match n.waiters with
  | [] => { n with permit := true }
  | _ :: ws => { n with waiters := ws }

/-- The future was created by this cell: it has seen no call the cell has not. -/
def Created (n : Notify W) : Notified → Prop
  | .init c => c ≤ n.calls
  | .waiting => True

section Poll

variable [DecidableEq W]

/-- The next poll of `w`'s future completes it. -/
def ready (n : Notify W) (w : W) : Notified → Bool
  | .init c => n.permit || c != n.calls
  | .waiting => decide (w ∉ n.waiters)

/-- Poll `w`'s future: `none` when it completes, else the future registered. -/
def poll (n : Notify W) (w : W) : Notified → Notify W × Option Notified
  | .init c =>
      if n.permit then ({ n with permit := false }, none)
      else if c ≠ n.calls then (n, none)
      else ({ n with waiters := n.waiters ++ [w] }, some .waiting)
  | .waiting => if w ∈ n.waiters then (n, some .waiting) else (n, none)

/-- Drop `w`'s future, in a cell that is only notified by `notifyWaiters`. -/
def remove (n : Notify W) (w : W) : Notify W := { n with waiters := n.waiters.erase w }

/-- Drop `w`'s future, in a cell that is only notified by `notifyOne`: a wake-up
    that it received and did not see goes on to the next. -/
def forward (n : Notify W) (w : W) : Notified → Notify W
  | .init _ => n
  | .waiting => if w ∈ n.waiters then n.remove w else n.notifyOne

end Poll

@[simp] theorem notifyWaiters_permit (n : Notify W) : n.notifyWaiters.permit = n.permit := rfl
@[simp] theorem notifyWaiters_calls (n : Notify W) : n.notifyWaiters.calls = n.calls + 1 := rfl
@[simp] theorem notifyWaiters_waiters (n : Notify W) : n.notifyWaiters.waiters = [] := rfl

theorem created_notified (n : Notify W) : n.Created n.notified := Nat.le_refl _

theorem Created.notifyWaiters {n : Notify W} {f : Notified} (h : n.Created f) :
    n.notifyWaiters.Created f := by
  cases f with
  | init c => exact Nat.le_succ_of_le h
  | waiting => trivial

theorem notifyOne_of_nil {n : Notify W} (h : n.waiters = []) :
    n.notifyOne = { n with permit := true } := by
  rw [notifyOne, h]

theorem notifyOne_of_cons {n : Notify W} {w : W} {ws : List W} (h : n.waiters = w :: ws) :
    n.notifyOne = { n with waiters := ws } := by
  rw [notifyOne, h]

variable [DecidableEq W]

/-- **A call to `notifyWaiters` completes every future created before it.** -/
theorem ready_notifyWaiters {n : Notify W} {f : Notified} (h : n.Created f) (w : W) :
    n.notifyWaiters.ready w f = true := by
  cases f with
  | init c =>
      have hc : c ≤ n.calls := h
      have hne : c ≠ n.calls + 1 := by omega
      simp [ready, hne]
  | waiting => simp [ready]

/-- A future just created is pending, unless a permit is stored. -/
theorem ready_notified {n : Notify W} (hp : n.permit = false) (w : W) :
    n.ready w n.notified = false := by
  show (n.permit || n.calls != n.calls) = false
  rw [hp, bne_self_eq_false, Bool.or_false]

/-- A poll completes exactly the ready futures. -/
theorem poll_snd_eq_none_iff (n : Notify W) (w : W) (f : Notified) :
    (n.poll w f).2 = none ↔ n.ready w f = true := by
  cases f with
  | init c =>
      by_cases hp : n.permit = true
      · simp [poll, ready, hp]
      · by_cases hc : c = n.calls
        · simp [poll, ready, hp, hc]
        · simp [poll, ready, hp, hc]
  | waiting =>
      by_cases hw : w ∈ n.waiters
      · simp [poll, ready, hw]
      · simp [poll, ready, hw]

/-- A poll that does not complete leaves a registered waiter. -/
theorem poll_of_not_ready {n : Notify W} {w : W} {f : Notified}
    (h : n.ready w f = false) :
    (n.poll w f).2 = some .waiting ∧ w ∈ (n.poll w f).1.waiters := by
  cases f with
  | init c =>
      obtain ⟨hp, hc⟩ : n.permit = false ∧ c = n.calls := by simpa [ready] using h
      simp [poll, hp, hc]
  | waiting =>
      have hw : w ∈ n.waiters := by simpa [ready] using h
      simp [poll, hw]

/-- What a poll leaves of a future that it does not complete. -/
theorem poll_snd_eq_some {n : Notify W} {w : W} {f g : Notified}
    (h : (n.poll w f).2 = some g) : g = .waiting := by
  have hready : n.ready w f = false := by
    by_contra hr
    rw [(poll_snd_eq_none_iff n w f).mpr (by simpa using hr)] at h
    exact nomatch h
  exact Option.some.inj (h.symm.trans (poll_of_not_ready hready).1)

@[simp] theorem poll_calls (n : Notify W) (w : W) (f : Notified) :
    (n.poll w f).1.calls = n.calls := by
  cases f with
  | init c => simp only [poll]; split <;> [rfl; split <;> rfl]
  | waiting => simp only [poll]; split <;> rfl

/-- Where no permit is stored, a poll stores none. -/
theorem poll_permit {n : Notify W} (hp : n.permit = false) (w : W) (f : Notified) :
    (n.poll w f).1.permit = false := by
  cases f with
  | init c => simp only [poll, hp]; split <;> [rfl; split <;> simp [hp]]
  | waiting => simp only [poll]; split <;> exact hp

theorem Created.poll {n : Notify W} {f : Notified} (h : n.Created f) (w : W) (g : Notified) :
    (n.poll w g).1.Created f := by
  cases f with
  | init c =>
      show c ≤ (n.poll w g).1.calls
      rw [poll_calls]
      exact h
  | waiting => trivial

/-- Polling `w`'s future takes nobody else off the list of waiters, and puts
    nobody else on it. -/
theorem mem_poll_waiters_of_ne {n : Notify W} {w v : W} (hne : v ≠ w) (f : Notified) :
    v ∈ (n.poll w f).1.waiters ↔ v ∈ n.waiters := by
  cases f with
  | init c =>
      simp only [poll]
      split
      · rfl
      · split
        · rfl
        · simp [hne]
  | waiting => simp only [poll]; split <;> rfl

/-- Where no permit is stored, polling `w`'s future changes nothing for the
    future of another task. -/
theorem ready_poll_of_ne {n : Notify W} (hp : n.permit = false) {w v : W} (hne : v ≠ w)
    (f g : Notified) : (n.poll w g).1.ready v f = n.ready v f := by
  cases f with
  | init c => simp only [ready, poll_permit hp, poll_calls, hp]
  | waiting => simp only [ready, mem_poll_waiters_of_ne hne]

theorem Created.remove {n : Notify W} {f : Notified} (h : n.Created f) (w : W) :
    (n.remove w).Created f := by
  cases f with
  | init c => exact h
  | waiting => trivial

/-- Dropping the future of one task changes nothing for another. -/
theorem ready_remove_of_ne {n : Notify W} {w v : W} (hne : v ≠ w) (f : Notified) :
    (n.remove w).ready v f = n.ready v f := by
  cases f with
  | init c => rfl
  | waiting => simp only [ready, remove, List.mem_erase_of_ne hne]

end Notify

end Sync
