import AmbientProxy.PreCaching

/-! # The wait for the allocation — a wake-up that nobody hears

    The pre-caching task reads the flag that says the endpoint is allocated, and
    creates the future that would wake it only afterwards:

        pre-caching task                 loop of Client::start
        *endpoint_allocated.read()
                                         *endpoint_allocated.write() = true
                                         notify_waiters()
        notified()
        select! { deadline, … }          -- nobody will wake it

    * `undisturbed_iff_never_missed` — the task hears of every allocation, and gives
      up for no endpoint that was allocated in time, in exactly the runs in which the
      call to `notify_waiters` does not fall between the read and the creation, and
      the clock does not overtake a task that has yet to look again;
    * `missed_allocatedInWindow` — and it happens, with 30 s to spare. -/

namespace AmbientProxy.PreCaching

open Transition Sync UnixPath

variable {fs : FileSystem} {assetsPath : Option Path} {s t : State} {a : Action}
  {acts : List Action}

/-- The endpoint is allocated and `notify_waiters` was called, and the task is parked
    with only its deadline left to wake it. -/
def Missed (s : State) : Prop :=
  s.endpointAllocated = true ∧ s.loop = .select ∧
    ∃ future, s.task = .awaitNotified future ∧ s.allocatedNotify.ready () future = false

/-- On its way from one read of the flag to the next. -/
def Task.Waits : Task → Prop
  | .testDeadline | .createNotified | .awaitNotified _ => True
  | _ => False

theorem not_waits_afterFileType {path : Path} {dir : OpenDir} {entry : Name}
    {node : Option Node} : ¬ (afterFileType path dir entry node).Waits := by
  rcases afterFileType_cases path dir entry node with h | ⟨-, h⟩ | ⟨_, _, -, -, h⟩
  · rw [h]
    exact id
  · rw [h]
    exact id
  · rw [h]
    exact id

/-- The deadline has passed, and the task gives up with its next step, or can. -/
def Overdue (s : State) : Prop :=
  s.deadline ≤ s.now ∧ (s.task = .testDeadline ∨ ∃ future, s.task = .awaitNotified future)

/-- `notify_waiters` is not called between the read of the flag and the creation of
    the future, and the clock does not reach the deadline of a task that waits although
    the endpoint is allocated. -/
def Undisturbed (s : State) (a : Action) : Prop :=
  (a = .notifyWaiters → s.task ≠ .createNotified) ∧
    (a = .tick → s.endpointAllocated = true → s.task.Waits → s.now < s.deadline →
      s.now + 1 < s.deadline)

/-- The steps that the task takes on its way into its sleep. -/
def Action.fallsAsleep : Action → Prop
  | .createNotified | .pollNotified => True
  | _ => False

theorem undisturbed_of_fallsAsleep (ha : a.fallsAsleep) (s : State) : Undisturbed s a := by
  constructor
  · rintro rfl
    exact ha.elim
  · rintro rfl
    exact ha.elim

/-! ## The wake-up -/

/-- A task that has read the flag before it was written, or is about to wait, will be
    woken by the call to `notify_waiters` that is still to come. -/
structure Attentive (s : State) : Prop where
  permit : s.allocatedNotify.permit = false
  notifying : s.loop = .notifyWaiters → s.endpointAllocated = true
  window : s.task = .createNotified → s.endpointAllocated = true → s.loop = .notifyWaiters
  created : ∀ future, s.task = .awaitNotified future → s.allocatedNotify.Created future
  waits : ∀ future, s.task = .awaitNotified future → s.endpointAllocated = true →
    s.allocatedNotify.ready () future = false → s.loop = .notifyWaiters

theorem Attentive.init : Attentive {} := ⟨rfl, nofun, nofun, nofun, nofun⟩

theorem Attentive.not_missed (hs : Attentive s) : ¬ Missed s := by
  rintro ⟨hallocated, hselect, future, htask, hready⟩
  have hloop := hs.waits future htask hallocated hready
  cases hselect.symm.trans hloop

/-- The task goes to a place at which it has no future and is not about to create
    one. -/
theorem Attentive.leave (hs : Attentive s) (hpermit : t.allocatedNotify.permit = false)
    (hallocated : t.endpointAllocated = s.endpointAllocated) (hloop : t.loop = s.loop)
    (hcreate : t.task ≠ .createNotified) (hawait : ∀ future, t.task ≠ .awaitNotified future) :
    Attentive t := by
  refine ⟨hpermit, ?_, fun h => absurd h hcreate, fun f h => absurd h (hawait f),
    fun f h => absurd h (hawait f)⟩
  rw [hallocated, hloop]
  exact hs.notifying

/-- What the invariant speaks of does not change. -/
theorem Attentive.frame (hs : Attentive s) (hnotify : t.allocatedNotify = s.allocatedNotify)
    (hallocated : t.endpointAllocated = s.endpointAllocated) (hloop : t.loop = s.loop)
    (htask : t.task = s.task) : Attentive t := by
  constructor
  · rw [hnotify]
    exact hs.permit
  · rw [hallocated, hloop]
    exact hs.notifying
  · rw [hallocated, hloop, htask]
    exact hs.window
  · rw [hnotify, htask]
    exact hs.created
  · rw [hnotify, hallocated, hloop, htask]
    exact hs.waits

theorem Attentive.moves (hs : Attentive s) {task task' : Task} (ht : s.task = task)
    (hmove : Moves fs assetsPath s a task task') : Attentive { s with task := task' } := by
  cases hmove with
  | notAllocated hnot =>
      refine ⟨hs.permit, hs.notifying, ?_, nofun, nofun⟩
      intro _ hallocated
      cases hnot.symm.trans hallocated
  | createNotified =>
      refine ⟨hs.permit, hs.notifying, nofun, ?_, ?_⟩
      · rintro future ⟨⟩
        exact Notify.created_notified _
      · rintro future ⟨⟩ hallocated _
        exact hs.window ht hallocated
  | fileType _ =>
      rename_i dir entry path hpath
      have hwaits : ¬ (afterFileType path dir entry (fs.node (dir.names ++ [entry]))).Waits :=
        not_waits_afterFileType
      generalize afterFileType path dir entry (fs.node (dir.names ++ [entry])) = task at hwaits ⊢
      refine hs.leave hs.permit rfl rfl ?_ ?_
      · rintro ⟨⟩
        exact hwaits trivial
      · rintro future ⟨⟩
        exact hwaits trivial
  | _ => exact hs.leave hs.permit rfl rfl nofun nofun

theorem Attentive.step (hs : Attentive s) (ha : Undisturbed s a)
    (h : (system fs assetsPath).step s a = some t) : Attentive t := by
  cases step_cases h with
  | moves ht hmove => exact hs.moves ht hmove
  | pollNotified ht =>
      rename_i future
      have hpermit := Notify.poll_permit hs.permit () future
      cases hpoll : (s.allocatedNotify.poll () future).2 with
      | none => exact hs.leave hpermit rfl rfl nofun nofun
      | some future' =>
          -- the future was not ready, so the call is still to come
          cases Notify.poll_snd_eq_some hpoll
          have hnot : s.allocatedNotify.ready () future = false := by
            by_contra hready
            rw [Bool.not_eq_false, ← Notify.poll_snd_eq_none_iff, hpoll] at hready
            cases hready
          refine ⟨hpermit, hs.notifying, nofun, ?_, ?_⟩
          · rintro future' ⟨⟩
            trivial
          · rintro future' ⟨⟩ hallocated _
            exact hs.waits future ht hallocated hnot
  | startTask _ _ _ | taskStarts _ | popped _ _ | sendAsset _ | pushEntry _ | clear _ =>
      exact hs.leave hs.permit rfl rfl nofun nofun
  | deadlinePasses _ _ =>
      have hpermit : (s.allocatedNotify.remove ()).permit = false := hs.permit
      exact hs.leave hpermit rfl rfl nofun nofun
  | allocation hl =>
      exact ⟨hs.permit, fun _ => rfl, fun _ _ => rfl, hs.created, fun _ _ _ _ => rfl⟩
  | notifyWaiters hl =>
      refine ⟨hs.permit, nofun, fun h => absurd h (ha.1 rfl), ?_, ?_⟩
      · intro future htask
        exact (hs.created future htask).notifyWaiters
      · intro future htask _ hnot
        have hready := Notify.ready_notifyWaiters (hs.created future htask) ()
        cases hready.symm.trans hnot
  | _ => exact hs.frame rfl rfl rfl rfl

/-! ## The deadline -/

/-- The endpoint was allocated at the time `k`: a task that waits for a deadline after
    that is not late. -/
def InTime (k : Nat) (s : State) : Prop :=
  s.endpointAllocated = true ∧ (s.task.Waits → k < s.deadline → s.now < s.deadline)

theorem InTime.not_overdue {k : Nat} (hs : InTime k s) (hk : k < s.deadline) : ¬ Overdue s := by
  rintro ⟨hlate, htask | ⟨future, htask⟩⟩
  · have hnow := hs.2 (htask ▸ trivial) hk
    omega
  · have hnow := hs.2 (htask ▸ trivial) hk
    omega

theorem InTime.step {k : Nat} (hs : InTime k s) (ha : Undisturbed s a)
    (h : (system fs assetsPath).step s a = some t) : InTime k t := by
  cases step_cases h with
  | moves ht hmove =>
      refine ⟨hs.1, ?_⟩
      cases hmove with
      | notAllocated hnot => cases hnot.symm.trans hs.1
      | createNotified => exact fun _ hk => hs.2 (ht ▸ trivial) hk
      | fileType _ => exact fun hwaits => (not_waits_afterFileType hwaits).elim
      | _ => exact False.elim
  | startTask _ _ _ | deadlinePasses _ _ | popped _ _ | sendAsset _ | pushEntry _ | clear _ =>
      exact ⟨hs.1, False.elim⟩
  | taskStarts ht =>
      refine ⟨hs.1, fun _ _ => ?_⟩
      show s.now < s.now + 30
      omega
  | pollNotified ht => exact ⟨hs.1, fun _ hk => hs.2 (ht ▸ trivial) hk⟩
  | allocation _ => exact ⟨rfl, hs.2⟩
  | tick => exact ⟨hs.1, fun hwaits hk => ha.2 rfl hs.1 hwaits (hs.2 hwaits hk)⟩
  | _ => exact hs

/-! ## Exactly when -/

/-- The call falls into the window: the task creates its future next, and sleeps. -/
theorem missed_of_notify_in_window (hs : Attentive s) (htask : s.task = .createNotified)
    (h : (system fs assetsPath).step s .notifyWaiters = some t) :
    ∃ u, (system fs assetsPath).exec t [.createNotified] = some u ∧ Missed u := by
  cases step_cases h with
  | moves _ hmove => cases hmove
  | notifyWaiters hl =>
      obtain ⟨notify, hnotify⟩ : ∃ notify, notify = s.allocatedNotify.notifyWaiters := ⟨_, rfl⟩
      have hpermit : notify.permit = false := hnotify ▸ hs.permit
      have hstep : (system fs assetsPath).step
            { s with allocatedNotify := notify, loop := .select } .createNotified
          = some { s with
              allocatedNotify := notify
              loop := .select
              task := .awaitNotified notify.notified } := by
        show PreCaching.step fs assetsPath
          { s with allocatedNotify := notify, loop := .select } .createNotified = _
        simp only [PreCaching.step, htask]
      rw [← hnotify]
      refine ⟨_, exec_cons_iff.mpr ⟨_, hstep, rfl⟩, ?_⟩
      exact ⟨hs.notifying hl, rfl, _, rfl, Notify.ready_notified hpermit ()⟩

/-- The clock overtakes the task: it is late, or once it has created its future. -/
theorem overdue_of_tick (hwaits : s.task.Waits) (hlate : s.deadline ≤ s.now + 1)
    (h : (system fs assetsPath).step s .tick = some t) :
    ∃ bs u, (∀ b ∈ bs, Action.fallsAsleep b) ∧ (system fs assetsPath).exec t bs = some u ∧
      u.deadline = s.deadline ∧ Overdue u := by
  cases step_cases h with
  | moves _ hmove => cases hmove
  | tick =>
      cases htask : s.task with
      | testDeadline => exact ⟨[], _, nofun, rfl, rfl, hlate, Or.inl rfl⟩
      | awaitNotified future => exact ⟨[], _, nofun, rfl, rfl, hlate, Or.inr ⟨future, rfl⟩⟩
      | createNotified =>
          have hstep : (system fs assetsPath).step
                { s with now := s.now + 1, task := .createNotified } .createNotified
              = some { s with
                  now := s.now + 1, task := .awaitNotified s.allocatedNotify.notified } := rfl
          exact ⟨[.createNotified], _, List.forall_mem_singleton.mpr trivial,
            exec_cons_iff.mpr ⟨_, hstep, rfl⟩, rfl, hlate, Or.inr ⟨_, rfl⟩⟩
      | _ =>
          rw [htask] at hwaits
          exact hwaits.elim

/-- **The task misses no allocation in exactly the runs in which `notify_waiters` is
    not called between its read of the flag and the creation of its future, and the
    clock does not overtake it once the endpoint is allocated.**  The states meant are
    all that the run passes through, and those that the task reaches from there on its
    way into its sleep: in none of them it is parked with only its deadline left, and
    in none of them it gives up although the endpoint was allocated, in some state `k`
    on the way, before its deadline. -/
theorem undisturbed_iff_never_missed (h : (system fs assetsPath).exec {} acts = some s) :
    Along (system fs assetsPath) Undisturbed {} acts ↔
      (∀ pre m, pre <+: acts → (system fs assetsPath).exec {} pre = some m →
        ∀ bs u, (∀ b ∈ bs, Action.fallsAsleep b) → (system fs assetsPath).exec m bs = some u →
          ¬ Missed u) ∧
      ∀ pre mid k m, pre ++ mid <+: acts → (system fs assetsPath).exec {} pre = some k →
        k.endpointAllocated = true → (system fs assetsPath).exec k mid = some m →
        ∀ bs u, (∀ b ∈ bs, Action.fallsAsleep b) → (system fs assetsPath).exec m bs = some u →
          k.now < u.deadline → ¬ Overdue u := by
  have hown : ∀ {bs m}, (∀ b ∈ bs, Action.fallsAsleep b) →
      Along (system fs assetsPath) Undisturbed m bs := fun hbs =>
    along_of_forall_mem fun b hb => undisturbed_of_fallsAsleep (hbs b hb)
  constructor
  · intro hal
    constructor
    · rintro pre m ⟨rest, rfl⟩ hpre bs u hbs hu
      have hm := exec_invariant_along Attentive.step Attentive.init hal.of_append hpre
      exact (exec_invariant_along Attentive.step hm (hown hbs) hu).not_missed
    · rintro pre mid k m ⟨rest, rfl⟩ hpre hallocated hmid bs u hbs hu hk
      have hin : InTime k.now k := ⟨hallocated, fun _ hlt => hlt⟩
      have hm := exec_invariant_along InTime.step hin (hal.of_append.after hpre) hmid
      exact (exec_invariant_along InTime.step hm (hown hbs) hu).not_overdue hk
  · rintro ⟨hnever, hlate⟩
    refine along_of_first h ?_
    intro pre a m n hpre hm hal hstep
    constructor
    · rintro rfl htask
      have hs := exec_invariant_along Attentive.step Attentive.init hal hm
      obtain ⟨u, hu, hmissed⟩ := missed_of_notify_in_window hs htask hstep
      exact hnever _ n hpre (exec_snoc_iff.mpr ⟨m, hm, hstep⟩) [.createNotified] u
        (List.forall_mem_singleton.mpr trivial) hu hmissed
    · rintro rfl hallocated hwaits hnow
      by_contra hno
      obtain ⟨bs, u, hbs, hu, hdeadline, hover⟩ :=
        overdue_of_tick hwaits (Nat.le_of_not_lt hno) hstep
      have hstep' : (system fs assetsPath).exec m [.tick] = some n :=
        exec_cons_iff.mpr ⟨n, hstep, rfl⟩
      exact hlate pre [.tick] m n hpre hm hallocated hstep' bs u hbs hu (hdeadline ▸ hnow) hover

/-- The endpoint is allocated when the task has read the flag, and is about to create
    its future. -/
def allocatedInWindow : List Action :=
  [.preCacheAssets [], .pushDirectory, .testRequested, .allocateEndpoint, .testStack,
    .startTaskIfNeeded, .taskStarts, .testDeadline, .readAllocated, .allocation,
    .notifyWaiters, .createNotified, .pollNotified]

theorem undisturbed_iff_never_missed_allocatedInWindow :
    ∃ s, (system oneFile (some (render []))).exec {} allocatedInWindow = some s ∧
      (Along (system oneFile (some (render []))) Undisturbed {} allocatedInWindow ↔
        (∀ pre m, pre <+: allocatedInWindow →
          (system oneFile (some (render []))).exec {} pre = some m →
          ∀ bs u, (∀ b ∈ bs, Action.fallsAsleep b) →
            (system oneFile (some (render []))).exec m bs = some u → ¬ Missed u) ∧
        ∀ pre mid k m, pre ++ mid <+: allocatedInWindow →
          (system oneFile (some (render []))).exec {} pre = some k →
          k.endpointAllocated = true →
          (system oneFile (some (render []))).exec k mid = some m →
          ∀ bs u, (∀ b ∈ bs, Action.fallsAsleep b) →
            (system oneFile (some (render []))).exec m bs = some u →
            k.now < u.deadline → ¬ Overdue u) :=
  ⟨_, rfl, undisturbed_iff_never_missed rfl⟩

/-- **The task can sleep through the allocation**: 30 s later it gives up, and the
    directory is still on the stack. -/
theorem missed_allocatedInWindow :
    ∃ s t, (system oneFile (some (render []))).exec {} allocatedInWindow = some s ∧
      Missed s ∧ s.now + 30 = s.deadline ∧
      (system oneFile (some (render []))).exec s
        (List.replicate 30 .tick ++ [.deadlinePasses, .clear]) = some t ∧
      t.stack = [render []] ∧ t.task = .notRunning ∧ t.preCached = [] :=
  ⟨_, _, rfl, ⟨rfl, rfl, _, rfl, rfl⟩, rfl, rfl, rfl, rfl, rfl⟩

end AmbientProxy.PreCaching
