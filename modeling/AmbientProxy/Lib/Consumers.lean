import AmbientProxy.Lib.Notify
import AmbientProxy.Lib.Transition
import Mathlib.Data.Set.Card

/-! # Consumers of a queue — who sleeps next to an item

    Any number of consumers take items from one queue.  A consumer that finds the
    queue empty creates a future of the queue's notification cell and waits for it;
    a push wakes one waiter, or stores the one permit that the cell has room for:

        consumer                        producer
        loop {
          look: an item? take it, leave   push: queue the item,
          create the future                     notify_one
          await it }

    The NUMBERS of consumers at each stage say all about what can happen next: a step
    is a move between numbers (`Moves`), and the numbers from which the consumers can
    all fall asleep next to an item are the DOOMED ones.  More items are queued then
    than consumers are awake or will be woken by the permit, and more consumers are
    there to wait than the permit will wake.

    * `doomed_of_crowded`, `not_doomed_of_moves` — they are entered by a `notify_one`
      that finds the permit stored while the cell is CROWDED, and in no other way;
    * `stranded_of_doomed` — from there the consumers fall asleep, each by its own
      steps.

    A consumer may also be dropped while it waits, and passes on the wake-up that it
    did not see. -/

namespace Consumers

open Sync Transition

/-- Where a consumer is. -/
inductive Spot where
  /-- About to look into the queue. -/
  | look
  /-- The queue was empty; about to create the future. -/
  | createNotified
  | awaitNotified (future : Notified)
  deriving DecidableEq

/-- A queue, by the number of its items, with its consumers. -/
structure State (W : Type) where
  items : Nat := 0
  notify : Notify W := {}
  spot : W → Option Spot := fun _ => none

inductive Action (W : Type) where
  | start (w : W)
  | look (w : W)
  | createNotified (w : W)
  | pollNotified (w : W)
  | drop (w : W)
  | push
  deriving DecidableEq

variable {W : Type} [DecidableEq W]

/-- A consumer goes elsewhere, or leaves. -/
def State.setSpot (s : State W) (w : W) (spot : Option Spot) : State W :=
  { s with spot := Function.update s.spot w spot }

/-- Where a poll leads. -/
def afterPoll : Option Notified → Spot
  | none => .look
  | some future => .awaitNotified future

/-- What each action does, where it is enabled. -/
def step (s : State W) : Action W → Option (State W)
  | .start w =>
      match s.spot w with
      | none => some (s.setSpot w (some .look))
      | some _ => none
  | .look w =>
      match s.spot w with
      | some .look =>
          match s.items with
          | 0 => some (s.setSpot w (some .createNotified))
          | items + 1 => some ({ s with items := items }.setSpot w none)
      | _ => none
  | .createNotified w =>
      match s.spot w with
      | some .createNotified => some (s.setSpot w (some (.awaitNotified s.notify.notified)))
      | _ => none
  | .pollNotified w =>
      match s.spot w with
      | some (.awaitNotified future) =>
          if future = .waiting ∧ s.notify.ready w future = false then none
          else
            some ({ s with notify := (s.notify.poll w future).1 }.setSpot w
              (some (afterPoll (s.notify.poll w future).2)))
      | _ => none
  | .drop w =>
      match s.spot w with
      | some (.awaitNotified future) =>
          some ({ s with notify := s.notify.forward w future }.setSpot w none)
      | _ => none
  | .push => some { s with items := s.items + 1, notify := s.notify.notifyOne }

/-- The queue with its consumers. -/
def system (W : Type) [DecidableEq W] : System (State W) (Action W) where
  init := {}
  step := step

variable {s t : State W} {a : Action W} {w v : W}

/-- The steps of the system, each with all that it needs and all that it does. -/
inductive Step (s : State W) : Action W → State W → Prop where
  | start {w : W} (h : s.spot w = none) : Step s (.start w) (s.setSpot w (some .look))
  | popped {w : W} {items : Nat} (h : s.spot w = some .look) (hi : s.items = items + 1) :
      Step s (.look w) ({ s with items := items }.setSpot w none)
  | empty {w : W} (h : s.spot w = some .look) (hi : s.items = 0) :
      Step s (.look w) (s.setSpot w (some .createNotified))
  | createNotified {w : W} (h : s.spot w = some .createNotified) :
      Step s (.createNotified w) (s.setSpot w (some (.awaitNotified s.notify.notified)))
  | takesPermit {w : W} {calls : Nat} (h : s.spot w = some (.awaitNotified (.init calls)))
      (hp : s.notify.permit = true) :
      Step s (.pollNotified w)
        ({ s with notify := { s.notify with permit := false } }.setSpot w (some .look))
  | late {w : W} {calls : Nat} (h : s.spot w = some (.awaitNotified (.init calls)))
      (hc : calls ≠ s.notify.calls) : Step s (.pollNotified w) (s.setSpot w (some .look))
  | registers {w : W} {calls : Nat} (h : s.spot w = some (.awaitNotified (.init calls)))
      (hp : s.notify.permit = false) :
      Step s (.pollNotified w)
        ({ s with notify := { s.notify with waiters := s.notify.waiters ++ [w] } }.setSpot w
          (some (.awaitNotified .waiting)))
  | wakesUp {w : W} (h : s.spot w = some (.awaitNotified .waiting)) (hw : w ∉ s.notify.waiters) :
      Step s (.pollNotified w) (s.setSpot w (some .look))
  | dropCreated {w : W} {calls : Nat} (h : s.spot w = some (.awaitNotified (.init calls))) :
      Step s (.drop w) (s.setSpot w none)
  | dropWaiting {w : W} (h : s.spot w = some (.awaitNotified .waiting))
      (hw : w ∈ s.notify.waiters) :
      Step s (.drop w) ({ s with notify := s.notify.remove w }.setSpot w none)
  | forward {w : W} (h : s.spot w = some (.awaitNotified .waiting))
      (hw : w ∉ s.notify.waiters) :
      Step s (.drop w) ({ s with notify := s.notify.notifyOne }.setSpot w none)
  | push : Step s .push { s with items := s.items + 1, notify := s.notify.notifyOne }

theorem step_cases (h : (system W).step s a = some t) : Step s a t := by
  change step s a = some t at h
  cases a with
  | start w =>
      rw [step] at h
      split at h
      · rename_i hw
        cases h
        exact .start hw
      · cases h
  | look w =>
      rw [step] at h
      split at h
      · rename_i hw
        split at h
        · rename_i hi
          cases h
          exact .empty hw hi
        · rename_i hi
          cases h
          exact .popped hw hi
      · cases h
  | createNotified w =>
      rw [step] at h
      split at h
      · rename_i hw
        cases h
        exact .createNotified hw
      · cases h
  | pollNotified w =>
      rw [step] at h
      split at h
      · rename_i future hw
        split at h
        · cases h
        · rename_i hready
          cases h
          cases future with
          | init calls =>
              by_cases hp : s.notify.permit = true
              · have hpoll : s.notify.poll w (.init calls)
                    = ({ s.notify with permit := false }, none) := if_pos hp
                rw [hpoll]
                exact .takesPermit hw hp
              · by_cases hc : calls = s.notify.calls
                · have hpoll : s.notify.poll w (.init calls)
                      = ({ s.notify with waiters := s.notify.waiters ++ [w] }, some .waiting) := by
                    rw [Notify.poll, if_neg hp, if_neg (not_not.mpr hc)]
                  rw [hpoll]
                  exact .registers hw (by simpa using hp)
                · have hpoll : s.notify.poll w (.init calls) = (s.notify, none) := by
                    rw [Notify.poll, if_neg hp, if_pos hc]
                  rw [hpoll]
                  exact .late hw hc
          | waiting =>
              have hnot : w ∉ s.notify.waiters := by simpa [Notify.ready] using hready
              have hpoll : s.notify.poll w .waiting = (s.notify, none) := if_neg hnot
              rw [hpoll]
              exact .wakesUp hw hnot
      · cases h
  | drop w =>
      rw [step] at h
      split at h
      · rename_i future hw
        cases h
        cases future with
        | init calls => exact .dropCreated hw
        | waiting =>
            by_cases hmem : w ∈ s.notify.waiters
            · rw [Notify.forward, if_pos hmem]
              exact .dropWaiting hw hmem
            · rw [Notify.forward, if_neg hmem]
              exact .forward hw hmem
      · cases h
  | push =>
      cases h
      exact .push

/-! ## The numbers -/

/-- What a consumer is to the others. -/
inductive Stage where
  | away
  | looking
  /-- Its future is complete. -/
  | woken
  | creating
  | polling
  | asleep
  deriving DecidableEq

/-- The stage of a consumer that is at this spot. -/
def stageAt (waiters : List W) (w : W) : Option Spot → Stage
  | none => .away
  | some .look => .looking
  | some .createNotified => .creating
  | some (.awaitNotified (.init _)) => .polling
  | some (.awaitNotified .waiting) => if w ∈ waiters then .asleep else .woken

def State.stage (s : State W) (w : W) : Stage := stageAt s.notify.waiters w (s.spot w)

/-- How many consumers are at a stage. -/
noncomputable def State.count (s : State W) (x : Stage) : Nat := {w | s.stage w = x}.ncard

/-- Items, permits, and the consumers at each stage. -/
structure Counts where
  items : Nat
  permits : Nat
  looking : Nat
  woken : Nat
  creating : Nat
  polling : Nat
  asleep : Nat

noncomputable def State.counts (s : State W) : Counts where
  items := s.items
  permits := s.notify.permit.toNat
  looking := s.count .looking
  woken := s.count .woken
  creating := s.count .creating
  polling := s.count .polling
  asleep := s.count .asleep

theorem stage_of_spot {spot : Option Spot} (h : s.spot w = spot) :
    s.stage w = stageAt s.notify.waiters w spot := by
  rw [State.stage, h]

/-- Only a consumer that waits is asleep or woken. -/
theorem spot_of_stage (h : s.stage w = .asleep ∨ s.stage w = .woken) :
    s.spot w = some (.awaitNotified .waiting) := by
  cases hspot : s.spot w with
  | none =>
      rw [stage_of_spot hspot] at h
      rcases h with h | h <;> cases h
  | some spot =>
      rw [stage_of_spot hspot] at h
      cases spot with
      | awaitNotified future =>
          cases future with
          | init calls => rcases h with h | h <;> cases h
          | waiting => rfl
      | _ => rcases h with h | h <;> cases h

/-- A consumer waits, and nothing has woken it. -/
theorem stage_eq_asleep_iff :
    s.stage w = .asleep ↔
      s.spot w = some (.awaitNotified .waiting) ∧ w ∈ s.notify.waiters := by
  constructor
  · intro h
    have hspot := spot_of_stage (Or.inl h)
    refine ⟨hspot, ?_⟩
    by_contra hmem
    rw [stage_of_spot hspot, stageAt, if_neg hmem] at h
    cases h
  · rintro ⟨hspot, hmem⟩
    rw [stage_of_spot hspot, stageAt, if_pos hmem]

/-- A consumer waits, and its future is complete. -/
theorem stage_eq_woken_iff :
    s.stage w = .woken ↔
      s.spot w = some (.awaitNotified .waiting) ∧ w ∉ s.notify.waiters := by
  constructor
  · intro h
    have hspot := spot_of_stage (Or.inr h)
    refine ⟨hspot, ?_⟩
    intro hmem
    rw [stage_of_spot hspot, stageAt, if_pos hmem] at h
    cases h
  · rintro ⟨hspot, hmem⟩
    rw [stage_of_spot hspot, stageAt, if_neg hmem]

theorem stage_eq_away_iff : s.stage w = .away ↔ s.spot w = none := by
  rw [State.stage]
  cases s.spot w with
  | none => exact ⟨fun _ => rfl, fun _ => rfl⟩
  | some spot =>
      refine ⟨fun h => ?_, nofun⟩
      cases spot with
      | awaitNotified future =>
          cases future with
          | init calls => cases h
          | waiting =>
              rw [stageAt] at h
              split at h <;> cases h
      | _ => cases h

/-- Who takes a step: a consumer on its way, a consumer that comes or is dropped, or
    a caller of `notify_one`. -/
inductive Kind where
  | own
  | outside
  | notify
  deriving DecidableEq

def State.kind (s : State W) : Action W → Kind
  | .look _ | .createNotified _ | .pollNotified _ => .own
  | .start _ => .outside
  | .drop w => if s.stage w = .woken then .notify else .outside
  | .push => .notify

/-- What a step does to the numbers: items, permits, and the consumers that look, are
    woken, create, poll, and are asleep. -/
inductive Moves : Kind → Counts → Counts → Prop where
  | start {n p l k c f w : Nat} : Moves .outside ⟨n, p, l, k, c, f, w⟩ ⟨n, p, l + 1, k, c, f, w⟩
  | popped {n p l k c f w : Nat} : Moves .own ⟨n + 1, p, l + 1, k, c, f, w⟩ ⟨n, p, l, k, c, f, w⟩
  | empty {p l k c f w : Nat} : Moves .own ⟨0, p, l + 1, k, c, f, w⟩ ⟨0, p, l, k, c + 1, f, w⟩
  | created {n p l k c f w : Nat} : Moves .own ⟨n, p, l, k, c + 1, f, w⟩ ⟨n, p, l, k, c, f + 1, w⟩
  | permit {n l k c f w : Nat} : Moves .own ⟨n, 1, l, k, c, f + 1, w⟩ ⟨n, 0, l + 1, k, c, f, w⟩
  | registers {n l k c f w : Nat} : Moves .own ⟨n, 0, l, k, c, f + 1, w⟩ ⟨n, 0, l, k, c, f, w + 1⟩
  | wakesUp {n p l k c f w : Nat} : Moves .own ⟨n, p, l, k + 1, c, f, w⟩ ⟨n, p, l + 1, k, c, f, w⟩
  | dropCreated {n p l k c f w : Nat} :
      Moves .outside ⟨n, p, l, k, c, f + 1, w⟩ ⟨n, p, l, k, c, f, w⟩
  | dropAsleep {n p l k c f w : Nat} :
      Moves .outside ⟨n, p, l, k, c, f, w + 1⟩ ⟨n, p, l, k, c, f, w⟩
  -- a wake-up is passed on: to a waiter, as the permit, or to nobody
  | forwardWakes {n l k c f w : Nat} : Moves .notify ⟨n, 0, l, k, c, f, w + 1⟩ ⟨n, 0, l, k, c, f, w⟩
  | forwardStores {n l k c f w : Nat} :
      Moves .notify ⟨n, 0, l, k + 1, c, f, w⟩ ⟨n, 1, l, k, c, f, w⟩
  | forwardMerges {n l k c f : Nat} :
      Moves .notify ⟨n, 1, l, k + 1, c, f, 0⟩ ⟨n, 1, l, k, c, f, 0⟩
  -- a push wakes a waiter, stores the permit, or finds it stored
  | pushWakes {n l k c f w : Nat} :
      Moves .notify ⟨n, 0, l, k, c, f, w + 1⟩ ⟨n + 1, 0, l, k + 1, c, f, w⟩
  | pushStores {n l k c f w : Nat} : Moves .notify ⟨n, 0, l, k, c, f, w⟩ ⟨n + 1, 1, l, k, c, f, w⟩
  | pushMerges {n l k c f : Nat} : Moves .notify ⟨n, 1, l, k, c, f, 0⟩ ⟨n + 1, 1, l, k, c, f, 0⟩

namespace Counts

variable {c d : Counts} {kind : Kind}

/-- There are more items than consumers that are awake or will be woken by the permit,
    and more consumers on their way into the sleep than the permit will wake. -/
def Doomed (c : Counts) : Prop :=
  c.permits + c.looking + c.woken < c.items ∧ c.permits < c.creating + c.polling + c.asleep

/-- The permit is stored, two consumers at least are between their look and the list of
    waiters, and there are more items than consumers awake. -/
def Crowded (c : Counts) : Prop :=
  c.permits = 1 ∧ 2 ≤ c.creating + c.polling ∧ c.looking + c.woken < c.items

/-- How many own steps the consumers have left before each sleeps or leaves. -/
def rank (c : Counts) : Nat := c.looking + 2 * c.woken + 3 * c.polling + 4 * c.creating

/-- Only a `notify_one` in a crowded cell dooms the queue. -/
theorem not_doomed_of_moves (h : Moves kind c d) (hc : ¬ c.Doomed)
    (hnotify : kind = .notify → ¬ c.Crowded) : ¬ d.Doomed := by
  cases h with
  | forwardMerges | pushMerges =>
      have hcalm := hnotify rfl
      simp only [Doomed, Crowded, true_and] at *
      omega
  | _ =>
      simp only [Doomed] at *
      omega

/-- **A `notify_one` in a crowded cell dooms the queue.**  The cell has its permit, so
    one more wake-up is lost. -/
theorem doomed_of_crowded (h : Moves .notify c d) (hc : c.Crowded) : d.Doomed := by
  cases h <;> (simp only [Doomed, Crowded] at *; omega)

/-- Their own steps do not save the consumers, and bring them nearer to their sleep. -/
theorem Doomed.own (hc : c.Doomed) (h : Moves .own c d) : d.Doomed ∧ d.rank < c.rank := by
  cases h <;> (simp only [Doomed, rank] at *; omega)

end Counts

/-! ## What holds of the cell and its consumers -/

structure Inv (s : State W) : Prop where
  finite : {w | s.spot w ≠ none}.Finite
  current : ∀ w calls, s.spot w = some (.awaitNotified (.init calls)) → calls = s.notify.calls
  waiting : ∀ w ∈ s.notify.waiters, s.spot w = some (.awaitNotified .waiting)
  nodup : s.notify.waiters.Nodup
  permit : s.notify.permit = true → s.notify.waiters = []

omit [DecidableEq W] in
theorem Inv.init : Inv ({} : State W) where
  finite := by simp
  current := nofun
  waiting := nofun
  nodup := List.nodup_nil
  permit := fun _ => rfl

omit [DecidableEq W] in
/-- A consumer that is not waiting is not among the waiters. -/
theorem Inv.not_mem (hs : Inv s) (h : s.spot w ≠ some (.awaitNotified .waiting)) :
    w ∉ s.notify.waiters := by
  intro hw
  exact h (hs.waiting w hw)

/-- A consumer goes elsewhere, and the cell changes for it alone. -/
theorem Inv.setSpot (hs : Inv s) {items : Nat} {notify : Notify W} {spot : Option Spot}
    (hcalls : notify.calls = s.notify.calls)
    (hcurrent : ∀ calls, spot = some (.awaitNotified (.init calls)) → calls = s.notify.calls)
    (hself : w ∈ notify.waiters → spot = some (.awaitNotified .waiting))
    (hothers : ∀ v ∈ notify.waiters, v ≠ w → v ∈ s.notify.waiters)
    (hnodup : notify.waiters.Nodup) (hpermit : notify.permit = true → notify.waiters = []) :
    Inv (({ s with items := items, notify := notify } : State W).setSpot w spot) where
  finite := by
    refine (hs.finite.insert w).subset ?_
    intro v hv
    by_cases hne : v = w
    · exact Or.inl hne
    · refine Or.inr ?_
      change Function.update s.spot w spot v ≠ none at hv
      rw [Function.update_of_ne hne] at hv
      exact hv
  current := by
    intro v calls hv
    change Function.update s.spot w spot v = _ at hv
    show calls = notify.calls
    rw [hcalls]
    by_cases hne : v = w
    · rw [hne, Function.update_self] at hv
      exact hcurrent calls hv
    · rw [Function.update_of_ne hne] at hv
      exact hs.current v calls hv
  waiting := by
    intro v hv
    show Function.update s.spot w spot v = _
    by_cases hne : v = w
    · subst hne
      rw [Function.update_self]
      exact hself hv
    · rw [Function.update_of_ne hne]
      exact hs.waiting v (hothers v hv hne)
  nodup := hnodup
  permit := hpermit

/-- A consumer goes elsewhere, and was no waiter. -/
theorem Inv.setSpot_of_not_mem (hs : Inv s) {items : Nat} {spot : Option Spot}
    (hw : w ∉ s.notify.waiters)
    (hcurrent : ∀ calls, spot = some (.awaitNotified (.init calls)) → calls = s.notify.calls) :
    Inv (({ s with items := items } : State W).setSpot w spot) :=
  hs.setSpot rfl hcurrent (fun h => absurd h hw) (fun _ hv _ => hv) hs.nodup hs.permit

omit [DecidableEq W] in
/-- Where somebody waits, no permit is stored. -/
theorem Inv.not_permit_of_mem (hs : Inv s) (h : w ∈ s.notify.waiters) :
    s.notify.permit = false := by
  by_contra hp
  rw [hs.permit (by simpa using hp)] at h
  exact List.not_mem_nil h

omit [DecidableEq W] in
/-- A wake-up goes to the first waiter, or is stored. -/
theorem Inv.notifyOne (hs : Inv s) (items : Nat) :
    Inv { s with items := items, notify := s.notify.notifyOne } := by
  cases hwaiters : s.notify.waiters with
  | nil =>
      rw [Notify.notifyOne_of_nil hwaiters]
      exact ⟨hs.finite, hs.current, hs.waiting, hs.nodup, fun _ => hwaiters⟩
  | cons w ws =>
      rw [Notify.notifyOne_of_cons hwaiters]
      have hwaiting := hs.waiting
      have hnodup := hs.nodup
      rw [hwaiters] at hwaiting hnodup
      refine ⟨hs.finite, hs.current, ?_, (List.nodup_cons.mp hnodup).2, ?_⟩
      · intro v hv
        exact hwaiting v (List.mem_cons_of_mem w hv)
      · intro hp
        cases hwaiters.symm.trans (hs.permit hp)

theorem Inv.step (hs : Inv s) (h : Step s a t) : Inv t := by
  cases h with
  | start hw => exact hs.setSpot_of_not_mem (hs.not_mem (hw ▸ nofun)) nofun
  | popped hw _ | empty hw _ => exact hs.setSpot_of_not_mem (hs.not_mem (hw ▸ nofun)) nofun
  | createNotified hw =>
      refine hs.setSpot_of_not_mem (hs.not_mem (hw ▸ nofun)) ?_
      intro calls hcalls
      cases hcalls
      rfl
  | takesPermit hw hp =>
      have hnil := hs.permit hp
      refine hs.setSpot rfl nofun ?_ (fun _ hv _ => hv) hs.nodup nofun
      intro hmem
      exact absurd hmem (hs.not_mem (hw ▸ nofun))
  | late hw _ => exact hs.setSpot_of_not_mem (hs.not_mem (hw ▸ nofun)) nofun
  | registers hw hp =>
      rename_i w calls
      have hnew : w ∉ s.notify.waiters := hs.not_mem (hw ▸ nofun)
      refine hs.setSpot rfl nofun (fun _ => rfl) ?_ ?_ ?_
      · intro v hv hne
        rcases List.mem_append.mp hv with hv | hv
        · exact hv
        · exact absurd (List.mem_singleton.mp hv) hne
      · exact List.nodup_append.mpr ⟨hs.nodup, List.nodup_singleton w, by
          rintro v hv _ hlast rfl
          exact hnew (List.mem_singleton.mp hlast ▸ hv)⟩
      · intro htrue
        cases hp.symm.trans htrue
  | wakesUp _ hmem => exact hs.setSpot_of_not_mem hmem nofun
  | dropCreated hw => exact hs.setSpot_of_not_mem (hs.not_mem (hw ▸ nofun)) nofun
  | dropWaiting _ hmem =>
      refine hs.setSpot rfl nofun ?_ ?_ (hs.nodup.erase _) ?_
      · intro h
        exact absurd h hs.nodup.not_mem_erase
      · intro v hv _
        exact List.mem_of_mem_erase hv
      · intro hp
        show s.notify.waiters.erase _ = []
        rw [hs.permit hp]
        rfl
  | forward _ hmem =>
      have hleft : Inv (s.setSpot _ none) := hs.setSpot_of_not_mem hmem nofun
      exact hleft.notifyOne s.items
  | push => exact hs.notifyOne (s.items + 1)

/-! ## What a step does to the numbers -/

/-- One consumer more at a stage. -/
def Counts.add (c : Counts) : Stage → Counts
  | .away => c
  | .looking => { c with looking := c.looking + 1 }
  | .woken => { c with woken := c.woken + 1 }
  | .creating => { c with creating := c.creating + 1 }
  | .polling => { c with polling := c.polling + 1 }
  | .asleep => { c with asleep := c.asleep + 1 }

/-- One consumer goes from a stage to another, and no other does. -/
structure Moved (s t : State W) (w : W) (x y : Stage) : Prop where
  before : s.stage w = x
  after : t.stage w = y
  others : ∀ v, v ≠ w → t.stage v = s.stage v

theorem Moved.of_spot {x y : Stage} (hspot : ∀ v, v ≠ w → t.spot v = s.spot v)
    (hwaiters : ∀ v, v ≠ w → (v ∈ t.notify.waiters ↔ v ∈ s.notify.waiters))
    (hx : s.stage w = x) (hy : t.stage w = y) : Moved s t w x y := by
  refine ⟨hx, hy, ?_⟩
  intro v hne
  show stageAt t.notify.waiters v (t.spot v) = stageAt s.notify.waiters v (s.spot v)
  rw [hspot v hne]
  cases s.spot v with
  | none => rfl
  | some spot =>
      cases spot with
      | awaitNotified future =>
          cases future with
          | init calls => rfl
          | waiting => simp only [stageAt, hwaiters v hne]
      | _ => rfl

/-- A consumer at a stage is counted there, next to the others. -/
theorem Inv.count_eq (hs : Inv s) (w : W) {x : Stage} (hx : x ≠ .away) :
    s.count x = {v | v ≠ w ∧ s.stage v = x}.ncard + if s.stage w = x then 1 else 0 := by
  have hfinite : {v | v ≠ w ∧ s.stage v = x}.Finite := by
    refine hs.finite.subset ?_
    rintro v ⟨-, hv⟩ hnone
    rw [State.stage, hnone] at hv
    exact hx hv.symm
  by_cases hw : s.stage w = x
  · have hinsert : {v | s.stage v = x} = insert w {v | v ≠ w ∧ s.stage v = x} := by
      ext v
      by_cases hne : v = w
      · simp [hne, hw]
      · simp [hne]
    rw [if_pos hw, State.count, hinsert, Set.ncard_insert_of_notMem (by simp) hfinite]
  · have hsame : {v | s.stage v = x} = {v | v ≠ w ∧ s.stage v = x} := by
      ext v
      by_cases hne : v = w
      · simp [hne, hw]
      · simp [hne]
    rw [if_neg hw, State.count, hsame, Nat.add_zero]

theorem Inv.count_pos (hs : Inv s) {x : Stage} (hx : x ≠ .away) (h : s.stage w = x) :
    0 < s.count x := by
  rw [hs.count_eq w hx, if_pos h]
  exact Nat.succ_pos _

theorem count_eq_zero {x : Stage} (h : ∀ w, s.stage w ≠ x) : s.count x = 0 := by
  have hempty : {w | s.stage w = x} = ∅ := by
    ext w
    exact ⟨fun hw => absurd hw (h w), fun hw => absurd hw (Set.notMem_empty w)⟩
  rw [State.count, hempty, Set.ncard_empty]

theorem count_eq_zero_of_all {x : Stage} (h : ∀ w, s.stage w = .away ∨ s.stage w = .asleep)
    (haway : x ≠ .away) (hasleep : x ≠ .asleep) : s.count x = 0 := by
  refine count_eq_zero ?_
  rintro w rfl
  rcases h w with hw | hw
  · exact haway hw
  · exact hasleep hw

theorem exists_of_count_pos {x : Stage} (h : 0 < s.count x) : ∃ w, s.stage w = x := by
  by_contra hnone
  rw [not_exists] at hnone
  rw [count_eq_zero hnone] at h
  exact Nat.lt_irrefl 0 h

/-- **When one consumer moves**, all numbers but two are the same. -/
theorem Moved.counts {x y : Stage} (h : Moved s t w x y) (hs : Inv s) (ht : Inv t) :
    ∃ l k c f n,
      s.counts = Counts.add ⟨s.items, s.notify.permit.toNat, l, k, c, f, n⟩ x ∧
      t.counts = Counts.add ⟨t.items, t.notify.permit.toNat, l, k, c, f, n⟩ y := by
  obtain ⟨rest, hrest⟩ : ∃ rest : Stage → Nat, ∀ z, z ≠ .away →
      s.count z = rest z + (if x = z then 1 else 0) ∧
        t.count z = rest z + if y = z then 1 else 0 := by
    refine ⟨fun z => {v | v ≠ w ∧ s.stage v = z}.ncard, ?_⟩
    intro z hz
    have hothers : {v | v ≠ w ∧ t.stage v = z} = {v | v ≠ w ∧ s.stage v = z} := by
      ext v
      constructor
      · rintro ⟨hne, hv⟩
        exact ⟨hne, h.others v hne ▸ hv⟩
      · rintro ⟨hne, hv⟩
        exact ⟨hne, (h.others v hne).trans hv⟩
    have hcount := ht.count_eq w hz
    rw [hothers, h.after] at hcount
    exact ⟨h.before ▸ hs.count_eq w hz, hcount⟩
  refine ⟨rest .looking, rest .woken, rest .creating, rest .polling, rest .asleep, ?_, ?_⟩
  · simp only [State.counts, (hrest .looking nofun).1, (hrest .woken nofun).1,
      (hrest .creating nofun).1, (hrest .polling nofun).1, (hrest .asleep nofun).1]
    cases x <;> rfl
  · simp only [State.counts, (hrest .looking nofun).2, (hrest .woken nofun).2,
      (hrest .creating nofun).2, (hrest .polling nofun).2, (hrest .asleep nofun).2]
    cases y <;> rfl

/-- One consumer goes elsewhere, and the cell changes for it alone. -/
theorem moved_setSpot {items : Nat} {notify : Notify W} {spot : Option Spot} {x y : Stage}
    (hothers : ∀ v, v ≠ w → (v ∈ notify.waiters ↔ v ∈ s.notify.waiters)) (hx : s.stage w = x)
    (hy : stageAt notify.waiters w spot = y) :
    Moved s (({ s with items := items, notify := notify } : State W).setSpot w spot) w x y := by
  refine Moved.of_spot ?_ hothers hx ?_
  · intro v hne
    exact Function.update_of_ne hne ..
  · show stageAt notify.waiters w (Function.update s.spot w spot w) = y
    rw [Function.update_self]
    exact hy

/-- The wake-up reaches a waiter. -/
theorem counts_notifyOne_of_cons (hs : Inv s) {ws : List W} (items : Nat)
    (h : s.notify.waiters = w :: ws) :
    ∃ l k c f n,
      s.counts = ⟨s.items, 0, l, k, c, f, n + 1⟩ ∧
      State.counts { s with items := items, notify := s.notify.notifyOne }
        = ⟨items, 0, l, k + 1, c, f, n⟩ := by
  have hp : s.notify.permit = false := hs.not_permit_of_mem (h ▸ List.mem_cons_self)
  have ht := hs.notifyOne items
  rw [Notify.notifyOne_of_cons h] at ht ⊢
  have hnodup := hs.nodup
  rw [h] at hnodup
  have hw : s.spot w = some (.awaitNotified .waiting) := hs.waiting w (h ▸ List.mem_cons_self)
  have hmoved : Moved s { s with items := items, notify := { s.notify with waiters := ws } } w
      .asleep .woken := by
    refine Moved.of_spot (fun _ _ => rfl) ?_ ?_ ?_
    · intro v hne
      rw [h, List.mem_cons, or_iff_right hne]
    · rw [stage_of_spot hw, stageAt, if_pos (h ▸ List.mem_cons_self)]
    · show stageAt ws w (s.spot w) = .woken
      rw [hw, stageAt, if_neg (List.nodup_cons.mp hnodup).1]
  obtain ⟨l, k, c, f, n, hbefore, hafter⟩ := hmoved.counts hs ht
  refine ⟨l, k, c, f, n, ?_, ?_⟩
  · rw [hbefore, hp]
    rfl
  · rw [hafter, hp]
    rfl

/-- The wake-up is stored, or merges with the one that is. -/
theorem counts_notifyOne_of_nil {items : Nat} (h : s.notify.waiters = []) :
    State.counts { s with items := items, notify := s.notify.notifyOne }
      = { s.counts with items := items, permits := 1 } := by
  rw [Notify.notifyOne_of_nil h]
  rfl

/-- Nobody is asleep who is no waiter. -/
theorem count_asleep_of_nil (h : s.notify.waiters = []) : s.count .asleep = 0 := by
  refine count_eq_zero ?_
  intro w hw
  have hmem := (stage_eq_asleep_iff.mp hw).2
  rw [h] at hmem
  exact List.not_mem_nil hmem

/-- A step in which one consumer moves. -/
theorem Moved.moves {x y : Stage} {kind : Kind} (h : Moved s t w x y) (hs : Inv s) (ht : Inv t)
    (hmoves : ∀ l k c f n, Moves kind
      (Counts.add ⟨s.items, s.notify.permit.toNat, l, k, c, f, n⟩ x)
      (Counts.add ⟨t.items, t.notify.permit.toNat, l, k, c, f, n⟩ y)) :
    Moves kind s.counts t.counts := by
  obtain ⟨l, k, c, f, n, hbefore, hafter⟩ := h.counts hs ht
  rw [hbefore, hafter]
  exact hmoves l k c f n

theorem kind_drop_of_woken (h : s.stage w = .woken) : s.kind (.drop w) = .notify := if_pos h

theorem kind_drop_of_ne (h : s.stage w ≠ .woken) : s.kind (.drop w) = .outside := if_neg h

/-- A push wakes the first waiter, or stores the permit, or finds it stored. -/
theorem moves_push (hs : Inv s) :
    Moves .notify s.counts
      (State.counts { s with items := s.items + 1, notify := s.notify.notifyOne }) := by
  cases hwaiters : s.notify.waiters with
  | cons w ws =>
      obtain ⟨l, k, c, f, n, hbefore, hafter⟩ := counts_notifyOne_of_cons hs (s.items + 1) hwaiters
      rw [hbefore, hafter]
      exact .pushWakes
  | nil =>
      rw [counts_notifyOne_of_nil hwaiters]
      cases hp : s.notify.permit with
      | false =>
          rw [State.counts, hp]
          exact .pushStores
      | true =>
          rw [State.counts, hp, count_asleep_of_nil hwaiters]
          exact .pushMerges

/-- A consumer is dropped that did not see its wake-up. -/
theorem moves_forward (hs : Inv s) (hspot : s.spot w = some (.awaitNotified .waiting))
    (hmem : w ∉ s.notify.waiters) :
    Moves .notify s.counts
      (State.counts ({ s with notify := s.notify.notifyOne }.setSpot w none)) := by
  have hleft : Inv (s.setSpot w none) := hs.setSpot_of_not_mem hmem nofun
  have hstage : s.stage w = .woken := by
    rw [stage_of_spot hspot, stageAt, if_neg hmem]
  have hmoved : Moved s (s.setSpot w none) w .woken .away :=
    moved_setSpot (fun _ _ => Iff.rfl) hstage rfl
  obtain ⟨l, k, c, f, n, hbefore, hbetween⟩ := hmoved.counts hs hleft
  change (s.setSpot w none).counts = ⟨s.items, s.notify.permit.toNat, l, k, c, f, n⟩ at hbetween
  rw [hbefore]
  -- the wake-up goes on from the queue that the consumer has left
  cases hwaiters : s.notify.waiters with
  | cons v ws =>
      obtain ⟨l', k', c', f', n', hbetween', hafter⟩ :=
        counts_notifyOne_of_cons hleft s.items hwaiters
      have hp : s.notify.permit = false :=
        hs.not_permit_of_mem (hwaiters ▸ List.mem_cons_self)
      rw [hp] at hbetween
      cases hbetween.symm.trans hbetween'
      change State.counts ({ s with notify := s.notify.notifyOne }.setSpot w none) = _ at hafter
      rw [hafter, hp]
      exact .forwardWakes
  | nil =>
      have hafter : State.counts ({ s with notify := s.notify.notifyOne }.setSpot w none)
          = { (s.setSpot w none).counts with items := s.items, permits := 1 } :=
        counts_notifyOne_of_nil (s := s.setSpot w none) hwaiters
      rw [hafter, hbetween]
      cases hp : s.notify.permit with
      | false => exact .forwardStores
      | true =>
          have hnobody : (s.setSpot w none).count .asleep = 0 := count_asleep_of_nil hwaiters
          have hn : (s.setSpot w none).count .asleep = n := congrArg Counts.asleep hbetween
          rw [← hn, hnobody]
          exact .forwardMerges

/-- **A step of the queue is a move between numbers.** -/
theorem moves_of_step (hs : Inv s) (h : Step s a t) : Moves (s.kind a) s.counts t.counts := by
  have ht := hs.step h
  cases h with
  | start hw =>
      have hmoved : Moved s (s.setSpot _ (some .look)) _ .away .looking :=
        moved_setSpot (fun _ _ => Iff.rfl) (stage_of_spot hw) rfl
      exact hmoved.moves hs ht fun _ _ _ _ _ => .start
  | popped hw hi =>
      rename_i w items
      have hmoved : Moved s (({ s with items := items } : State W).setSpot w none) w
          .looking .away := moved_setSpot (fun _ _ => Iff.rfl) (stage_of_spot hw) rfl
      refine hmoved.moves hs ht ?_
      intro l k c f n
      rw [hi]
      exact .popped
  | empty hw hi =>
      have hmoved : Moved s (s.setSpot _ (some .createNotified)) _ .looking .creating :=
        moved_setSpot (fun _ _ => Iff.rfl) (stage_of_spot hw) rfl
      refine hmoved.moves hs ht ?_
      intro l k c f n
      show Moves .own (Counts.add ⟨s.items, _, l, k, c, f, n⟩ _)
        (Counts.add ⟨s.items, _, l, k, c, f, n⟩ _)
      rw [hi]
      exact .empty
  | createNotified hw =>
      have hmoved : Moved s (s.setSpot _ (some (.awaitNotified s.notify.notified))) _
          .creating .polling := moved_setSpot (fun _ _ => Iff.rfl) (stage_of_spot hw) rfl
      exact hmoved.moves hs ht fun _ _ _ _ _ => .created
  | takesPermit hw hp =>
      rename_i w calls
      have hmoved : Moved s (({ s with notify := { s.notify with permit := false } } :
          State W).setSpot w (some .look)) w .polling .looking :=
        moved_setSpot (fun _ _ => Iff.rfl) (stage_of_spot hw) rfl
      refine hmoved.moves hs ht ?_
      intro l k c f n
      rw [hp]
      exact .permit
  | late hw hc => exact absurd (hs.current _ _ hw) hc
  | registers hw hp =>
      rename_i w calls
      have hmoved : Moved s (({ s with notify :=
          { s.notify with waiters := s.notify.waiters ++ [w] } } : State W).setSpot w
            (some (.awaitNotified .waiting))) w .polling .asleep := by
        refine moved_setSpot ?_ (stage_of_spot hw) (if_pos (by simp))
        intro v hne
        rw [List.mem_append, List.mem_singleton, or_iff_left hne]
      refine hmoved.moves hs ht ?_
      intro l k c f n
      show Moves .own (Counts.add ⟨s.items, s.notify.permit.toNat, l, k, c, f, n⟩ _)
        (Counts.add ⟨s.items, s.notify.permit.toNat, l, k, c, f, n⟩ _)
      rw [hp]
      exact .registers
  | wakesUp hw hmem =>
      have hstage : s.stage _ = .woken := (stage_of_spot hw).trans (if_neg hmem)
      have hmoved : Moved s (s.setSpot _ (some .look)) _ .woken .looking :=
        moved_setSpot (fun _ _ => Iff.rfl) hstage rfl
      exact hmoved.moves hs ht fun _ _ _ _ _ => .wakesUp
  | dropCreated hw =>
      have hstage : s.stage _ = .polling := stage_of_spot hw
      have hmoved : Moved s (s.setSpot _ none) _ .polling .away :=
        moved_setSpot (fun _ _ => Iff.rfl) hstage rfl
      rw [kind_drop_of_ne (hstage ▸ nofun)]
      exact hmoved.moves hs ht fun _ _ _ _ _ => .dropCreated
  | dropWaiting hw hmem =>
      rename_i w
      have hstage : s.stage w = .asleep := (stage_of_spot hw).trans (if_pos hmem)
      have hmoved : Moved s (({ s with notify := s.notify.remove w } : State W).setSpot w none) w
          .asleep .away := by
        refine moved_setSpot ?_ hstage rfl
        intro v hne
        exact List.mem_erase_of_ne hne
      rw [kind_drop_of_ne (hstage ▸ nofun)]
      exact hmoved.moves hs ht fun _ _ _ _ _ => .dropAsleep
  | forward hw hmem =>
      rw [kind_drop_of_woken ((stage_of_spot hw).trans (if_neg hmem))]
      exact moves_forward hs hw hmem
  | push => exact moves_push hs

/-! ## Where a doomed queue ends -/

/-- An item is queued, no wake-up is on its way, and whoever is there is asleep. -/
structure Stranded (s : State W) : Prop where
  item : 0 < s.items
  permit : s.notify.permit = false
  waiter : ∃ w, s.stage w = .asleep
  all : ∀ w, s.stage w = .away ∨ s.stage w = .asleep

/-- A step of a consumer on its way. -/
def Action.Own : Action W → Prop
  | .look _ | .createNotified _ | .pollNotified _ => True
  | _ => False

/-- Who is there and not asleep can go on. -/
theorem exists_own_step (haway : s.stage w ≠ .away) (hasleep : s.stage w ≠ .asleep) :
    ∃ a t, Action.Own a ∧ s.kind a = .own ∧ (system W).step s a = some t := by
  cases hspot : s.spot w with
  | none => exact absurd (stage_of_spot hspot) haway
  | some spot =>
      cases spot with
      | look =>
          cases hi : s.items with
          | zero =>
              refine ⟨.look w, s.setSpot w (some .createNotified), trivial, rfl, ?_⟩
              show step s (.look w) = _
              simp only [step, hspot, hi]
          | succ items =>
              refine ⟨.look w, { s with items := items }.setSpot w none, trivial, rfl, ?_⟩
              show step s (.look w) = _
              simp only [step, hspot, hi]
      | createNotified =>
          refine ⟨.createNotified w, s.setSpot w (some (.awaitNotified s.notify.notified)), trivial,
            rfl, ?_⟩
          show step s (.createNotified w) = _
          rw [step, hspot]
      | awaitNotified future =>
          have hready : ¬ (future = .waiting ∧ s.notify.ready w future = false) := by
            rintro ⟨rfl, hready⟩
            have hmem : w ∈ s.notify.waiters := by simpa [Notify.ready] using hready
            exact hasleep ((stage_of_spot hspot).trans (if_pos hmem))
          refine ⟨.pollNotified w, { s with notify := (s.notify.poll w future).1 }.setSpot w
            (some (afterPoll (s.notify.poll w future).2)), trivial, rfl, ?_⟩
          show step s (.pollNotified w) = _
          rw [step, hspot]
          exact if_neg hready

theorem Stranded.doomed (h : Stranded s) (hs : Inv s) : s.counts.Doomed := by
  obtain ⟨w, hw⟩ := h.waiter
  have hlooking : s.counts.looking = 0 := count_eq_zero_of_all h.all nofun nofun
  have hwoken : s.counts.woken = 0 := count_eq_zero_of_all h.all nofun nofun
  have hpermits : s.counts.permits = 0 := congrArg Bool.toNat h.permit
  have hasleep : 0 < s.counts.asleep := hs.count_pos nofun hw
  have hitem : 0 < s.counts.items := h.item
  constructor
  · omega
  · omega

/-- **The consumers of a doomed queue fall asleep**, by their own steps. -/
theorem stranded_of_doomed (hs : Inv s) (hdoomed : s.counts.Doomed) :
    ∃ bs u, (∀ b ∈ bs, Action.Own b) ∧ (system W).exec s bs = some u ∧ Stranded u := by
  induction hrank : s.counts.rank using Nat.strong_induction_on generalizing s with
  | _ rank ih =>
      by_cases hall : ∀ w, s.stage w = .away ∨ s.stage w = .asleep
      · have hcreating : s.counts.creating = 0 := count_eq_zero_of_all hall nofun nofun
        have hpolling : s.counts.polling = 0 := count_eq_zero_of_all hall nofun nofun
        have hpos : 0 < s.counts.asleep := by
          have hwait := hdoomed.2
          omega
        obtain ⟨w, hw⟩ := exists_of_count_pos hpos
        have hpermit := hs.not_permit_of_mem (stage_eq_asleep_iff.mp hw).2
        refine ⟨[], s, nofun, rfl, ?_, hpermit, ⟨w, hw⟩, hall⟩
        exact Nat.lt_of_le_of_lt (Nat.zero_le _) hdoomed.1
      · rw [not_forall] at hall
        obtain ⟨w, hw⟩ := hall
        obtain ⟨haway, hasleep⟩ := not_or.mp hw
        obtain ⟨a, t, ha, hkind, hstep⟩ := exists_own_step haway hasleep
        have hmove := moves_of_step hs (step_cases hstep)
        rw [hkind] at hmove
        obtain ⟨hdoomed', hless⟩ := hdoomed.own hmove
        obtain ⟨bs, u, hbs, hu, hstranded⟩ :=
          ih _ (hrank ▸ hless) (hs.step (step_cases hstep)) hdoomed' rfl
        refine ⟨a :: bs, u, ?_, exec_cons_iff.mpr ⟨t, hstep, hu⟩, hstranded⟩
        intro b hb
        rcases List.mem_cons.mp hb with rfl | hb
        · exact ha
        · exact hbs b hb

end Consumers
