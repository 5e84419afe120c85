import AmbientProxy.Lib.Consumers
import AmbientProxy.PendingResources

/-! # Calls that wait — several consumers of one player

    A `ProxiedConnection` can be cloned, so `accept_uni`, `accept_bi` and
    `read_datagram` can be called more than once at a time for one player.  A call
    releases the lock of the map before it creates the future that `push` would wake:

        call 0           call 1           Client::start
        pop is None; unlock
                         pop is None; unlock
                                          push: the permit is stored
                                          push: it is stored already
        takes the permit
        pop is Some
                         waits            -- next to the second item

    For one kind and one player, the client is a queue with consumers
    (`State.consumers`), and so:

    * `notInCrowd_iff_never_stranded` — no call is stranded next to an item in exactly
      the runs in which `notify_one` is not called on a permit that is stored while two
      calls are between their `pop` and the list of waiters and there are more items
      than calls awake;
    * `stranded_twoCalls` — and it happens. -/

namespace AmbientProxy.Client

open Transition Sync

variable {config : Config} {s t : State} {a : Action} {k k' : Kind} {p p' : Str} {c : CallId}

/-- A call is parked: it waits, and nothing has woken it. -/
def Parked (s : State) (k : Kind) (p : Str) (c : CallId) : Prop :=
  s.calls c = some ⟨k, p, .awaitNotified .waiting⟩ ∧ c ∈ (s.resource k p).notify.waiters

/-- A call has not returned, and its caller has not dropped it. -/
def Place.InProgress : Place k → Prop
  | .returned _ | .cancelled => False
  | _ => True

/-- An item is queued, no wake-up is stored, and all calls in progress are parked, one
    at least. -/
structure Stranded (s : State) (k : Kind) (p : Str) : Prop where
  item : (s.resource k p).queue ≠ []
  permit : (s.resource k p).notify.permit = false
  waiter : ∃ c, Parked s k p c
  all : ∀ c place, s.calls c = some ⟨k, p, place⟩ → place.InProgress → Parked s k p c

/-! ## The queue of one kind and one player -/

/-- Where a call is as a consumer. -/
def Place.spot : Place k → Option Consumers.Spot
  | .lock => some .look
  | .createNotified => some .createNotified
  | .awaitNotified future => some (.awaitNotified future)
  | .returned _ | .cancelled => none

/-- Where a call is as a consumer of this kind and this player. -/
def Call.spotFor (call : Call) (k : Kind) (p : Str) : Option Consumers.Spot :=
  if call.kind = k ∧ call.playerId = p then call.place.spot else none

/-- The queue of one kind and one player, with the calls that take items from it. -/
def State.consumers (s : State) (k : Kind) (p : Str) : Consumers.State CallId where
  items := (s.resource k p).queue.length
  notify := (s.resource k p).notify
  spot c := (s.calls c).bind fun call => call.spotFor k p

theorem Call.spotFor_self (place : Place k) : Call.spotFor ⟨k, p, place⟩ k p = place.spot :=
  if_pos ⟨rfl, rfl⟩

theorem Call.spotFor_of_ne (h : ¬ (k' = k ∧ p' = p)) (place : Place k) :
    Call.spotFor ⟨k, p, place⟩ k' p' = none :=
  if_neg fun heq => h ⟨heq.1.symm, heq.2.symm⟩

theorem spot_of_call {place : Place k} (h : s.calls c = some ⟨k, p, place⟩) :
    (s.consumers k p).spot c = place.spot := by
  show (s.calls c).bind _ = _
  rw [h]
  exact Call.spotFor_self place

/-- A consumer is a call at that place. -/
theorem call_of_spot {spot : Consumers.Spot} (h : (s.consumers k p).spot c = some spot) :
    ∃ place : Place k, s.calls c = some ⟨k, p, place⟩ ∧ place.spot = some spot := by
  obtain ⟨⟨k', p', place⟩, hc, hspot⟩ := Option.bind_eq_some_iff.mp h
  rw [Call.spotFor] at hspot
  split at hspot
  · rename_i hkp
    obtain ⟨rfl, rfl⟩ := hkp
    exact ⟨place, hc, hspot⟩
  · cases hspot

theorem resource_setResource_self (r : QueuedResource k.Item) :
    (s.setResource k p r).resource k p = r := by
  show (s.pending.setResource k p r).resource k p = r
  rw [PendingResources.resource_setResource, update_self]

theorem resource_setResource_of_ne (h : ¬ (k' = k ∧ p' = p)) (r : QueuedResource k.Item) :
    (s.setResource k p r).resource k' p' = s.resource k' p' := by
  show (s.pending.setResource k p r).resource k' p' = _
  rw [PendingResources.resource_setResource, update_of_ne h]
  rfl

/-- A call goes elsewhere: one consumer does. -/
theorem consumers_setCall (place : Place k) :
    (s.setCall c ⟨k, p, place⟩).consumers k p = (s.consumers k p).setSpot c place.spot := by
  have hspot : ((s.setCall c ⟨k, p, place⟩).consumers k p).spot
      = Function.update (s.consumers k p).spot c place.spot := by
    ext c' : 1
    show (Function.update s.calls c (some ⟨k, p, place⟩) c').bind _ = _
    by_cases hne : c' = c
    · rw [hne, Function.update_self, Function.update_self]
      exact Call.spotFor_self place
    · rw [Function.update_of_ne hne, Function.update_of_ne hne]
      rfl
  exact congrArg (Consumers.State.mk _ _) hspot

/-- The calls of another kind or player stay where they are. -/
theorem consumers_setCall_of_ne (h : ¬ (k' = k ∧ p' = p)) (place : Place k)
    (hc : s.calls c = none ∨ ∃ old : Place k, s.calls c = some ⟨k, p, old⟩) :
    (s.setCall c ⟨k, p, place⟩).consumers k' p' = s.consumers k' p' := by
  have hspot : ((s.setCall c ⟨k, p, place⟩).consumers k' p').spot = (s.consumers k' p').spot := by
    ext c' : 1
    show (Function.update s.calls c (some ⟨k, p, place⟩) c').bind _ = (s.calls c').bind _
    by_cases hne : c' = c
    · rw [hne, Function.update_self]
      show Call.spotFor ⟨k, p, place⟩ k' p' = _
      rw [Call.spotFor_of_ne h]
      rcases hc with hc | ⟨old, hc⟩
      · rw [hc]
        rfl
      · rw [hc]
        exact (Call.spotFor_of_ne h old).symm
    · rw [Function.update_of_ne hne]
  exact congrArg (Consumers.State.mk _ _) hspot

theorem consumers_setResource (r : QueuedResource k.Item) :
    (s.setResource k p r).consumers k p
      = { s.consumers k p with items := r.queue.length, notify := r.notify } := by
  rw [State.consumers, resource_setResource_self]
  rfl

theorem consumers_setResource_of_ne (h : ¬ (k' = k ∧ p' = p)) (r : QueuedResource k.Item) :
    (s.setResource k p r).consumers k' p' = s.consumers k' p' := by
  rw [State.consumers, resource_setResource_of_ne h]
  rfl

/-- A call looks into its entry, and changes it. -/
theorem consumers_setEntry (r : QueuedResource k.Item) (place : Place k) :
    ((s.setResource k p r).setCall c ⟨k, p, place⟩).consumers k p
      = ({ s.consumers k p with items := r.queue.length, notify := r.notify } :
          Consumers.State CallId).setSpot c place.spot := by
  rw [consumers_setCall, consumers_setResource]

theorem consumers_setEntry_of_ne (h : ¬ (k' = k ∧ p' = p)) (r : QueuedResource k.Item)
    (place : Place k) {old : Place k} (hc : s.calls c = some ⟨k, p, old⟩) :
    ((s.setResource k p r).setCall c ⟨k, p, place⟩).consumers k' p' = s.consumers k' p' := by
  have hc' : (s.setResource k p r).calls c = some ⟨k, p, old⟩ := hc
  rw [consumers_setCall_of_ne h place (Or.inr ⟨old, hc'⟩), consumers_setResource_of_ne h]

/-! ## Its steps -/

/-- The action calls `notify_one` for this kind and this player. -/
def Notifies (s : State) (a : Action) (k : Kind) (p : Str) : Prop :=
  match a with
  | .push => ∃ item, s.phase = .push k p item
  | .cancel c =>
      s.calls c = some ⟨k, p, .awaitNotified .waiting⟩ ∧ c ∉ (s.resource k p).notify.waiters
  | _ => False

theorem spot_eq_awaitNotified_iff :
    (s.consumers k p).spot c = some (.awaitNotified .waiting) ↔
      s.calls c = some ⟨k, p, .awaitNotified .waiting⟩ := by
  constructor
  · intro h
    obtain ⟨place, hc, hplace⟩ := call_of_spot h
    cases place with
    | awaitNotified future =>
        cases hplace
        exact hc
    | _ => cases hplace
  · intro h
    exact spot_of_call h

/-- A call that is dropped passes its wake-up on, if it did not see it. -/
theorem kind_drop_iff :
    (s.consumers k p).kind (.drop c) = .notify ↔ Notifies s (.cancel c) k p := by
  have hwoken : (s.consumers k p).stage c = .woken ↔ Notifies s (.cancel c) k p :=
    Consumers.stage_eq_woken_iff.trans (and_congr_left fun _ => spot_eq_awaitNotified_iff)
  rw [← hwoken]
  constructor
  · intro h
    by_contra hne
    rw [Consumers.kind_drop_of_ne hne] at h
    cases h
  · exact Consumers.kind_drop_of_woken

/-- A call locks the map: a consumer looks into the queue. -/
theorem consumers_lock (hc : s.calls c = some ⟨k, p, .lock⟩) :
    Consumers.step (s.consumers k p) (.look c) = some ((lockResource s c k p).consumers k p) := by
  have hspot : (s.consumers k p).spot c = some .look := spot_of_call hc
  cases hq : (s.resource k p).queue with
  | nil =>
      have hitems : (s.consumers k p).items = 0 := congrArg List.length hq
      rw [lockResource_of_nil hq, consumers_setEntry]
      simp only [Consumers.step, hspot, hitems]
      rfl
  | cons item rest =>
      have hitems : (s.consumers k p).items = rest.length + 1 := congrArg List.length hq
      have hset := consumers_setEntry (s := s) (p := p) (c := c)
        { s.resource k p with queue := rest } (.returned item)
      rw [lockResource_of_cons hq]
      simp only [Consumers.step, hspot, hitems]
      exact congrArg some hset.symm

theorem consumers_createNotified (hc : s.calls c = some ⟨k, p, .createNotified⟩) :
    Consumers.step (s.consumers k p) (.createNotified c)
      = some ((s.setCall c
          ⟨k, p, .awaitNotified (s.resource k p).notify.notified⟩).consumers k p) := by
  have hspot : (s.consumers k p).spot c = some .createNotified := spot_of_call hc
  rw [Consumers.step, hspot, consumers_setCall]
  rfl

theorem consumers_pollNotified {future : Notified}
    (hc : s.calls c = some ⟨k, p, .awaitNotified future⟩)
    (hr : ¬ (future = .waiting ∧ (s.resource k p).notify.ready c future = false)) :
    Consumers.step (s.consumers k p) (.pollNotified c)
      = some ((pollNotified s c k p future).consumers k p) := by
  have hspot : (s.consumers k p).spot c = some (.awaitNotified future) := spot_of_call hc
  have hready : ¬ (future = .waiting ∧ (s.consumers k p).notify.ready c future = false) := hr
  obtain ⟨notify, next, hpoll⟩ :
      ∃ notify next, (s.resource k p).notify.poll c future = (notify, next) := ⟨_, _, rfl⟩
  have hpoll' : (s.consumers k p).notify.poll c future = (notify, next) := hpoll
  rw [Consumers.step, hspot]
  refine (if_neg hready).trans ?_
  rw [hpoll', pollNotified, hpoll]
  cases next with
  | none =>
      have hset := consumers_setEntry (s := s) (p := p) (c := c)
        { s.resource k p with notify := notify } .lock
      exact congrArg some hset.symm
  | some next =>
      have hset := consumers_setEntry (s := s) (p := p) (c := c)
        { s.resource k p with notify := notify } (.awaitNotified next)
      exact congrArg some hset.symm

theorem consumers_cancel {future : Notified}
    (hc : s.calls c = some ⟨k, p, .awaitNotified future⟩) :
    Consumers.step (s.consumers k p) (.drop c)
      = some (((s.setResource k p
          { s.resource k p with notify := (s.resource k p).notify.forward c future }).setCall c
          ⟨k, p, .cancelled⟩).consumers k p) := by
  have hspot : (s.consumers k p).spot c = some (.awaitNotified future) := spot_of_call hc
  rw [Consumers.step, hspot, consumers_setEntry]
  rfl

/-- A call starts. -/
theorem consumers_call (hc : s.calls c = none) :
    Consumers.step (s.consumers k p) (.start c)
      = some ((s.setCall c ⟨k, p, .lock⟩).consumers k p) := by
  have hspot : (s.consumers k p).spot c = none := by
    show (s.calls c).bind _ = none
    rw [hc]
    rfl
  rw [Consumers.step, hspot, consumers_setCall]
  rfl

theorem consumers_push (item : k.Item) :
    Consumers.step (s.consumers k p) .push
      = some ((s.setResource k p ((s.resource k p).push item)).consumers k p) := by
  have hlength : ((s.resource k p).push item).queue.length = (s.resource k p).queue.length + 1 :=
    List.length_append ..
  rw [consumers_setResource, hlength]
  rfl

/-- What the loop reads changes no queue and no call. -/
theorem consumers_receiveOutcome (s : State) (k' : Kind) (outcome : Outcome (Str × k'.Item))
    (k : Kind) (p : Str) : (s.receiveOutcome k' outcome).consumers k p = s.consumers k p := by
  cases outcome <;> rfl

/-- What a step of the client is for one queue: none of its steps, or one that calls
    `notify_one` if the client does. -/
def Follows (s t : State) (a : Action) (k : Kind) (p : Str) : Prop :=
  t.consumers k p = s.consumers k p ∧ ¬ Notifies s a k p ∨
    ∃ b, Consumers.step (s.consumers k p) b = some (t.consumers k p) ∧
      ((s.consumers k p).kind b = .notify ↔ Notifies s a k p)

/-- A step for one kind and one player. -/
theorem Follows.of_step {b : Consumers.Action CallId}
    (hstep : Consumers.step (s.consumers k' p') b = some (t.consumers k' p'))
    (hnotify : (s.consumers k' p').kind b = .notify ↔ Notifies s a k' p')
    (hothers : ∀ k p, ¬ (k = k' ∧ p = p') →
      t.consumers k p = s.consumers k p ∧ ¬ Notifies s a k p) (k : Kind) (p : Str) :
    Follows s t a k p := by
  by_cases hkp : k = k' ∧ p = p'
  · obtain ⟨rfl, rfl⟩ := hkp
    exact Or.inr ⟨b, hstep, hnotify⟩
  · exact Or.inl (hothers k p hkp)

/-- **A step of the client is a step of one queue, or of none.** -/
theorem follows_of_step (h : (system config).step s a = some t) (k : Kind) (p : Str) :
    Follows s t a k p := by
  cases step_cases h with
  | push hp =>
      rename_i k' p' item
      have hnotify : Notifies s .push k' p' := ⟨item, hp⟩
      refine Follows.of_step (consumers_push item) ⟨fun _ => hnotify, fun _ => rfl⟩ ?_ k p
      intro k p hkp
      refine ⟨consumers_setResource_of_ne hkp _, ?_⟩
      rintro ⟨item', hp'⟩
      cases hp.symm.trans hp'
      exact hkp ⟨rfl, rfl⟩
  | acceptUni hc | acceptBi hc | readDatagram hc =>
      refine Follows.of_step (consumers_call hc) ⟨nofun, False.elim⟩ ?_ k p
      intro k p hkp
      exact ⟨consumers_setCall_of_ne hkp .lock (Or.inl hc), False.elim⟩
  | popped hc hq =>
      have hlock := consumers_lock hc
      rw [lockResource_of_cons hq] at hlock
      refine Follows.of_step hlock ⟨nofun, False.elim⟩ ?_ k p
      intro k p hkp
      exact ⟨consumers_setEntry_of_ne hkp _ _ hc, False.elim⟩
  | empty hc hq =>
      have hlock := consumers_lock hc
      rw [lockResource_of_nil hq] at hlock
      refine Follows.of_step hlock ⟨nofun, False.elim⟩ ?_ k p
      intro k p hkp
      exact ⟨consumers_setEntry_of_ne hkp _ _ hc, False.elim⟩
  | createNotified hc =>
      refine Follows.of_step (consumers_createNotified hc) ⟨nofun, False.elim⟩ ?_ k p
      intro k p hkp
      exact ⟨consumers_setCall_of_ne hkp _ (Or.inr ⟨_, hc⟩), False.elim⟩
  | pollNotified hc hr =>
      refine Follows.of_step (consumers_pollNotified hc hr) ⟨nofun, False.elim⟩ ?_ k p
      intro k p hkp
      exact ⟨consumers_setEntry_of_ne hkp _ _ hc, False.elim⟩
  | cancel hc =>
      refine Follows.of_step (consumers_cancel hc) ?_ ?_ k p
      · exact kind_drop_iff
      · intro k p hkp
        refine ⟨consumers_setEntry_of_ne hkp _ _ hc, ?_⟩
        rintro ⟨hc', -⟩
        cases hc.symm.trans hc'
        exact hkp ⟨rfl, rfl⟩
  | uniHeader _ | biHeader _ =>
      exact Or.inl ⟨consumers_receiveOutcome s _ _ k p, False.elim⟩
  | datagram _ =>
      refine Or.inl ⟨?_, False.elim⟩
      exact consumers_receiveOutcome { s with datagrams := s.datagrams ++ [_] } _ _ k p
  | _ => exact Or.inl ⟨rfl, False.elim⟩

/-- The steps that a call takes by itself. -/
def Action.goesOn (a : Action) : Prop :=
  ∃ c, a = .lock c ∨ a = .createNotified c ∨ a = .pollNotified c

/-- A consumer at the queue is a call of the client, and can do what it can. -/
theorem exists_step_of_own {b : Consumers.Action CallId} {v : Consumers.State CallId}
    (hb : b.Own) (h : (Consumers.system CallId).step (s.consumers k p) b = some v) :
    ∃ a t, Action.goesOn a ∧ (system config).step s a = some t ∧ t.consumers k p = v := by
  cases b with
  | look c =>
      have hc : s.calls c = some ⟨k, p, .lock⟩ := by
        have hspot : (s.consumers k p).spot c = some .look := by
          cases Consumers.step_cases h with
          | popped hspot _ | empty hspot _ => exact hspot
        obtain ⟨place, hc, hplace⟩ := call_of_spot hspot
        cases place with
        | lock => exact hc
        | _ => cases hplace
      refine ⟨.lock c, lockResource s c k p, ⟨c, Or.inl rfl⟩, ?_, ?_⟩
      · show step config s (.lock c) = _
        rw [step, hc]
      · exact Option.some.inj ((consumers_lock hc).symm.trans h)
  | createNotified c =>
      have hc : s.calls c = some ⟨k, p, .createNotified⟩ := by
        have hspot : (s.consumers k p).spot c = some .createNotified := by
          cases Consumers.step_cases h with
          | createNotified hspot => exact hspot
        obtain ⟨place, hc, hplace⟩ := call_of_spot hspot
        cases place with
        | createNotified => exact hc
        | _ => cases hplace
      refine ⟨.createNotified c,
        s.setCall c ⟨k, p, .awaitNotified (s.resource k p).notify.notified⟩,
        ⟨c, Or.inr (Or.inl rfl)⟩, ?_, ?_⟩
      · show step config s (.createNotified c) = _
        rw [step, hc]
      · exact Option.some.inj ((consumers_createNotified hc).symm.trans h)
  | pollNotified c =>
      obtain ⟨future, hspot, hr⟩ : ∃ future,
          (s.consumers k p).spot c = some (.awaitNotified future) ∧
          ¬ (future = .waiting ∧ (s.resource k p).notify.ready c future = false) := by
        cases Consumers.step_cases h with
        | takesPermit hspot _ | late hspot _ | registers hspot _ =>
            refine ⟨_, hspot, ?_⟩
            rintro ⟨hinit, -⟩
            cases hinit
        | wakesUp hspot hmem =>
            refine ⟨_, hspot, ?_⟩
            rintro ⟨-, hready⟩
            have hwaits : c ∈ (s.resource k p).notify.waiters := by
              simpa [Notify.ready] using hready
            exact hmem hwaits
      have hc : s.calls c = some ⟨k, p, .awaitNotified future⟩ := by
        obtain ⟨place, hc, hplace⟩ := call_of_spot hspot
        cases place with
        | awaitNotified _ =>
            cases hplace
            exact hc
        | _ => cases hplace
      refine ⟨.pollNotified c, pollNotified s c k p future, ⟨c, Or.inr (Or.inr rfl)⟩, ?_, ?_⟩
      · show step config s (.pollNotified c) = _
        rw [step, hc]
        exact if_neg hr
      · exact Option.some.inj ((consumers_pollNotified hc hr).symm.trans h)
  | start _ | drop _ | push => exact hb.elim

/-! ## Stranded calls -/

/-- A call is parked where the consumer is asleep. -/
theorem asleep_iff : (s.consumers k p).stage c = .asleep ↔ Parked s k p c :=
  Consumers.stage_eq_asleep_iff.trans (and_congr_left fun _ => spot_eq_awaitNotified_iff)

/-- A call is in progress where there is a consumer. -/
theorem away_iff : (s.consumers k p).stage c = .away ↔
    ∀ place, s.calls c = some ⟨k, p, place⟩ → ¬ place.InProgress := by
  rw [Consumers.stage_eq_away_iff]
  constructor
  · intro hnone place hc hprogress
    have hspot := (spot_of_call hc).symm.trans hnone
    cases place with
    | returned _ | cancelled => exact hprogress
    | _ => cases hspot
  · intro hall
    cases hspot : (s.consumers k p).spot c with
    | none => rfl
    | some spot =>
        obtain ⟨place, hc, hplace⟩ := call_of_spot hspot
        refine absurd ?_ (hall place hc)
        cases place with
        | returned _ | cancelled => cases hplace
        | _ => trivial

theorem stranded_iff : Stranded s k p ↔ Consumers.Stranded (s.consumers k p) := by
  constructor
  · intro h
    obtain ⟨c, hc⟩ := h.waiter
    refine ⟨List.length_pos_iff.mpr h.item, h.permit, ⟨c, asleep_iff.mpr hc⟩, ?_⟩
    intro c'
    rw [or_iff_not_imp_left, away_iff, asleep_iff]
    intro hnot
    by_contra hparked
    refine hnot fun place hc' hprogress => ?_
    exact hparked (h.all c' place hc' hprogress)
  · intro h
    obtain ⟨c, hc⟩ := h.waiter
    refine ⟨List.length_pos_iff.mp h.item, h.permit, ⟨c, asleep_iff.mp hc⟩, ?_⟩
    intro c' place hc' hprogress
    rcases h.all c' with haway | hasleep
    · exact absurd hprogress (away_iff.mp haway place hc')
    · exact asleep_iff.mp hasleep

/-- The permit is stored, two calls at least are between their `pop` and the list of
    waiters, and more items are queued than calls are awake. -/
def Crowded (s : State) (k : Kind) (p : Str) : Prop := (s.consumers k p).counts.Crowded

/-- `notify_one` is not called on a crowded `Notify`. -/
def NotInCrowd (s : State) (a : Action) : Prop :=
  ∀ k p, Notifies s a k p → ¬ Crowded s k p

/-- No queue is doomed. -/
structure Served (s : State) : Prop where
  inv : ∀ k p, Consumers.Inv (s.consumers k p)
  calm : ∀ k p, ¬ (s.consumers k p).counts.Doomed

theorem Served.init : Served {} where
  inv k p := by
    cases k <;> exact Consumers.Inv.init
  calm k p := by
    cases k <;> exact fun h => Nat.not_lt_zero _ h.1

theorem Served.step (hs : Served s) (ha : NotInCrowd s a)
    (h : (system config).step s a = some t) : Served t := by
  have hqueue : ∀ k p, Consumers.Inv (t.consumers k p) ∧ ¬ (t.consumers k p).counts.Doomed := by
    intro k p
    rcases follows_of_step h k p with ⟨hsame, -⟩ | ⟨b, hstep, hnotify⟩
    · rw [hsame]
      exact ⟨hs.inv k p, hs.calm k p⟩
    · have hcases := Consumers.step_cases hstep
      refine ⟨(hs.inv k p).step hcases, ?_⟩
      refine Consumers.Counts.not_doomed_of_moves
        (Consumers.moves_of_step (hs.inv k p) hcases) (hs.calm k p) ?_
      intro hkind
      exact ha k p (hnotify.mp hkind)
  exact ⟨fun k p => (hqueue k p).1, fun k p => (hqueue k p).2⟩

theorem Served.not_stranded (hs : Served s) : ¬ ∃ k p, Stranded s k p := by
  rintro ⟨k, p, hstranded⟩
  exact hs.calm k p ((stranded_iff.mp hstranded).doomed (hs.inv k p))

theorem notInCrowd_of_goesOn (ha : a.goesOn) (s : State) : NotInCrowd s a := by
  obtain ⟨c, rfl | rfl | rfl⟩ := ha
  · exact fun _ _ h => h.elim
  · exact fun _ _ h => h.elim
  · exact fun _ _ h => h.elim

/-- A `notify_one` on a crowded `Notify`: the calls go on, and one is stranded. -/
theorem stranded_of_crowd (hs : Served s) (ha : ¬ NotInCrowd s a)
    (h : (system config).step s a = some t) :
    ∃ bs u, (∀ b ∈ bs, Action.goesOn b) ∧ (system config).exec t bs = some u ∧
      ∃ k p, Stranded u k p := by
  obtain ⟨k, p, hnotifies, hcrowded⟩ : ∃ k p, Notifies s a k p ∧ Crowded s k p := by
    by_contra hno
    refine ha fun k p hnotifies hcrowded => ?_
    exact hno ⟨k, p, hnotifies, hcrowded⟩
  rcases follows_of_step h k p with ⟨-, hnot⟩ | ⟨b, hstep, hnotify⟩
  · exact absurd hnotifies hnot
  · have hcases := Consumers.step_cases hstep
    have hmove := Consumers.moves_of_step (hs.inv k p) hcases
    rw [hnotify.mpr hnotifies] at hmove
    have hdoomed := Consumers.Counts.doomed_of_crowded hmove hcrowded
    obtain ⟨bs, v, hbs, hv, hstranded⟩ :=
      Consumers.stranded_of_doomed ((hs.inv k p).step hcases) hdoomed
    obtain ⟨as, u, has, hu, rfl⟩ := exec_lift exists_step_of_own hbs hv
    exact ⟨as, u, has, hu, k, p, stranded_iff.mpr hstranded⟩

/-- **No call is stranded next to an item in exactly the runs in which `notify_one` is
    not called on a crowded `Notify`.**  The states meant are all that the run passes
    through, and those that the calls reach from there by their own steps. -/
theorem notInCrowd_iff_never_stranded {acts : List Action}
    (h : (system config).exec {} acts = some s) :
    Along (system config) NotInCrowd {} acts ↔
      ∀ pre m, pre <+: acts → (system config).exec {} pre = some m →
        ∀ bs u, (∀ b ∈ bs, Action.goesOn b) → (system config).exec m bs = some u →
          ¬ ∃ k p, Stranded u k p :=
  along_iff_never_bad Served.step Served.not_stranded notInCrowd_of_goesOn stranded_of_crowd
    Served.init h

/-- Two calls find the queue empty, and two datagrams are pushed before either of them
    polls its future. -/
def twoCalls : List Action :=
  [.readDatagram 0 Str.a, .readDatagram 1 Str.a, .lock 0, .lock 1,
    .createNotified 0, .createNotified 1,
    .datagram (sendDatagram Str.a [0x07]), .push, .datagram (sendDatagram Str.a [0x07]), .push,
    .pollNotified 0, .lock 0, .pollNotified 1]

theorem notInCrowd_iff_never_stranded_twoCalls :
    ∃ s, (system ⟨none, none⟩).exec {} twoCalls = some s ∧
      (Along (system ⟨none, none⟩) NotInCrowd {} twoCalls ↔
        ∀ pre m, pre <+: twoCalls → (system ⟨none, none⟩).exec {} pre = some m →
          ∀ bs u, (∀ b ∈ bs, Action.goesOn b) → (system ⟨none, none⟩).exec m bs = some u →
            ¬ ∃ k p, Stranded u k p) :=
  ⟨_, rfl, notInCrowd_iff_never_stranded rfl⟩

/-- **A call can be stranded next to an item.** -/
theorem stranded_twoCalls :
    ∃ s, (system ⟨none, none⟩).exec {} twoCalls = some s ∧ Stranded s .datagram Str.a := by
  refine ⟨_, rfl, nofun, rfl, ⟨1, rfl, List.mem_cons_self⟩, ?_⟩
  intro c place hc hprogress
  rcases c with _ | _ | c
  · cases hc
    exact hprogress.elim
  · cases hc
    exact ⟨rfl, List.mem_cons_self⟩
  · cases hc

end AmbientProxy.Client
