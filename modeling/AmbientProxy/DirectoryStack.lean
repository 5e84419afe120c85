import AmbientProxy.PreCaching

/-! # The directory stack — who starts the task that empties it

    The pre-caching task decides that the stack is empty under one lock, and clears
    the flag that says it runs under another:

        pre-caching task                 ClientController::pre_cache_assets
        stack.pop() is None
                                         stack.push(path)
                                         running? yes: return
        running = false                  -- nobody is left to pop the path

    * `notInWindow_iff_never_stranded` — that is the only way, where the file system
      and the deadlines are kind: no directory is stranded in exactly the runs in
      which the flag is not read between the last `pop` and the clearing with a
      directory on the stack;
    * `stranded_pushedInWindow` — and it happens, in a run without an error. -/

namespace AmbientProxy.PreCaching

open Transition UnixPath

variable {fs : FileSystem} {assetsPath : Option Path} {s t : State} {a : Action}
  {acts : List Action}

/-- A directory waits on the stack, and nobody is on the way to it. -/
def Stranded (s : State) : Prop :=
  s.allocationRequested = true ∧ s.controller = .idle ∧ s.stack ≠ [] ∧ s.task = .notRunning

/-- Directories can be opened and listed, no deadline passes, and the endpoint is
    allocated when the task starts. -/
def Orderly (fs : FileSystem) (s : State) : Action → Prop
  | .readDirFails | .nextEntryFails | .deadlinePasses => False
  | .readDir =>
      match s.task with
      | .readDir path => (fs.readDir path).isSome = true
      | _ => True
  | .testDeadline => s.now < s.deadline
  | .taskStarts => s.endpointAllocated = true
  | _ => True

instance (fs : FileSystem) (s : State) (a : Action) : Decidable (Orderly fs s a) := by
  cases a with
  | readDir =>
      show Decidable (match s.task with
        | .readDir path => (fs.readDir path).isSome = true
        | _ => True)
      cases s.task <;> (dsimp only; infer_instance)
  | _ => dsimp only [Orderly]; infer_instance

/-- The controller does not read the flag of a task that has popped for the last time,
    with a directory on the stack. -/
def NotInWindow (s : State) (a : Action) : Prop :=
  a = .startTaskIfNeeded → s.task = .clear → s.stack = []

/-- Whoever pushes a directory after the last `pop` is still on the way to the flag. -/
structure Covered (assetsPath : Option Path) (s : State) : Prop where
  running : s.running = true ↔ s.task ≠ .notRunning
  pathless : assetsPath = none →
    s.stack = [] ∧ s.task = .notRunning ∧ ∀ path, s.controller ≠ .pushDirectory path
  requested : s.controller = .testStack ∨ s.controller = .startTask → s.allocationRequested = true
  allocated : s.task = .testDeadline ∨ s.task = .readAllocated → s.endpointAllocated = true
  awake : s.task ≠ .createNotified ∧ ∀ future, s.task ≠ .awaitNotified future
  covered : s.allocationRequested = true → s.stack ≠ [] → s.task = .notRunning ∨ s.task = .clear →
    s.controller = .testRequested ∨ s.controller = .testStack ∨ s.controller = .startTask

theorem Covered.init : Covered assetsPath {} :=
  ⟨by simp, fun _ => ⟨rfl, rfl, nofun⟩, nofun, nofun, ⟨nofun, nofun⟩, nofun⟩

theorem Covered.not_stranded (hs : Covered assetsPath s) : ¬ Stranded s := by
  rintro ⟨hrequested, hidle, hstack, htask⟩
  rcases hs.covered hrequested hstack (Or.inl htask) with h | h | h
  · cases hidle.symm.trans h
  · cases hidle.symm.trans h
  · cases hidle.symm.trans h

/-- Without a path to the assets, nothing is pushed by a controller that is elsewhere. -/
theorem Covered.pathless_of_ne (hs : Covered assetsPath s) {controller : Controller}
    (hc : ∀ path, controller ≠ .pushDirectory path) (hnone : assetsPath = none) :
    s.stack = [] ∧ s.task = .notRunning ∧ ∀ path, controller ≠ .pushDirectory path :=
  ⟨(hs.pathless hnone).1, (hs.pathless hnone).2.1, hc⟩

/-- A running task goes on to a place at which it has not popped for the last time. -/
theorem Covered.goOn (hs : Covered assetsPath s) (hfrom : s.task ≠ .notRunning)
    (hrunning : t.running = s.running) (hcontroller : t.controller = s.controller)
    (hrequested : t.allocationRequested = s.allocationRequested)
    (hto : t.task ≠ .notRunning ∧ t.task ≠ .clear)
    (hallocated : t.task = .testDeadline ∨ t.task = .readAllocated → t.endpointAllocated = true)
    (hawake : t.task ≠ .createNotified ∧ ∀ future, t.task ≠ .awaitNotified future) :
    Covered assetsPath t := by
  refine ⟨?_, ?_, ?_, hallocated, hawake, ?_⟩
  · rw [hrunning]
    exact ⟨fun _ => hto.1, fun _ => hs.running.mpr hfrom⟩
  · intro hnone
    exact absurd (hs.pathless hnone).2.1 hfrom
  · rw [hcontroller, hrequested]
    exact hs.requested
  · rintro _ _ (h | h)
    · exact absurd h hto.1
    · exact absurd h hto.2

/-- A move of the task that no error and no deadline brings about. -/
theorem Covered.moves (hs : Covered assetsPath s) (hkind : Orderly fs s a) {task task' : Task}
    (ht : s.task = task) (hmove : Moves fs assetsPath s a task task') :
    Covered assetsPath { s with task := task' } := by
  have hfrom : task ≠ .notRunning := by
    rintro rfl
    cases hmove
  have hrunning : s.task ≠ .notRunning := ht ▸ hfrom
  cases hmove with
  | inTime _ =>
      exact hs.goOn hrunning rfl rfl rfl ⟨nofun, nofun⟩ (fun _ => hs.allocated (Or.inl ht))
        ⟨nofun, nofun⟩
  | late hlate => exact absurd hkind (Nat.not_lt.mpr hlate)
  | allocated _ =>
      refine hs.goOn hrunning rfl rfl rfl ⟨nofun, nofun⟩ ?_ ⟨nofun, nofun⟩
      rintro (h | h) <;> cases h
  | notAllocated hnot =>
      have hallocated := hs.allocated (Or.inr ht)
      cases hnot.symm.trans hallocated
  | createNotified => exact absurd ht hs.awake.1
  | drained hstack =>
      refine ⟨⟨fun _ => nofun, fun _ => hs.running.mpr hrunning⟩, ?_, hs.requested, ?_, ?_, ?_⟩
      · intro hnone
        exact absurd (hs.pathless hnone).2.1 hrunning
      · rintro (h | h) <;> cases h
      · exact ⟨nofun, nofun⟩
      · intro _ hne _
        exact absurd hstack hne
  | opened _ | entry | listed | fileTypeFails | read _ | notRead _ | readFileFails | sendReturns =>
      refine hs.goOn hrunning rfl rfl rfl ⟨nofun, nofun⟩ ?_ ⟨nofun, nofun⟩
      rintro (h | h) <;> cases h
  | notOpened hnone =>
      have hopens : (match s.task with
          | .readDir path => (fs.readDir path).isSome = true
          | _ => True) := hkind
      simp only [ht, hnone] at hopens
      cases hopens
  | readDirFails | nextEntryFails => exact hkind.elim
  | fileType _ =>
      rename_i dir entry path hpath
      rcases afterFileType_cases path dir entry (fs.node (dir.names ++ [entry])) with
        h | ⟨-, h⟩ | ⟨_, _, -, -, h⟩ <;> rw [h]
      all_goals
        refine hs.goOn hrunning rfl rfl rfl ⟨nofun, nofun⟩ ?_ ⟨nofun, nofun⟩
        rintro (h | h) <;> cases h

theorem Covered.step (hs : Covered assetsPath s) (hkind : Orderly fs s a) (ha : NotInWindow s a)
    (h : (system fs assetsPath).step s a = some t) : Covered assetsPath t := by
  cases step_cases h with
  | moves ht hmove => exact hs.moves hkind ht hmove
  | checked hc hpath =>
      refine ⟨hs.running, ?_, nofun, hs.allocated, hs.awake, ?_⟩
      · rintro rfl
        cases hpath
      · intro hrequested hstack htask
        rcases hs.covered hrequested hstack htask with h | h | h <;> cases hc.symm.trans h
  | rejected _ _ | notSent _ => exact hs
  | pushDirectory hc =>
      refine ⟨hs.running, ?_, nofun, hs.allocated, hs.awake, fun _ _ _ => Or.inl rfl⟩
      intro hnone
      exact absurd hc ((hs.pathless hnone).2.2 _)
  | testRequested hc =>
      cases hrequested : s.allocationRequested with
      | false =>
          rw [if_neg Bool.false_ne_true]
          exact ⟨hs.running, hs.pathless_of_ne nofun, nofun, hs.allocated, hs.awake, nofun⟩
      | true =>
          rw [if_pos rfl]
          refine ⟨hs.running, hs.pathless_of_ne nofun, fun _ => rfl, hs.allocated, hs.awake, ?_⟩
          exact fun _ _ _ => Or.inr (Or.inr rfl)
  | allocateEndpoint hc =>
      refine ⟨hs.running, hs.pathless_of_ne nofun, fun _ => rfl, hs.allocated, hs.awake, ?_⟩
      exact fun _ _ _ => Or.inr (Or.inl rfl)
  | testStack hc =>
      have hrequested := hs.requested (Or.inl hc)
      by_cases hstack : s.stack = []
      · rw [if_pos hstack]
        refine ⟨hs.running, hs.pathless_of_ne nofun, nofun, hs.allocated, hs.awake, ?_⟩
        intro _ hne _
        exact absurd hstack hne
      · rw [if_neg hstack]
        refine ⟨hs.running, hs.pathless_of_ne nofun, fun _ => hrequested, hs.allocated,
          hs.awake, ?_⟩
        exact fun _ _ _ => Or.inr (Or.inr rfl)
  | notStarted hc hn =>
      refine ⟨hs.running, hs.pathless_of_ne nofun, nofun, hs.allocated, hs.awake, ?_⟩
      intro _ hstack htask
      rcases htask with htask | htask
      · -- a task that does not run leaves the flag clear, so the path is missing
        rcases hn with hnone | hrunning
        · exact absurd (hs.pathless (Option.isNone_iff_eq_none.mp hnone)).1 hstack
        · exact absurd htask (hs.running.mp hrunning)
      · exact absurd (ha rfl htask) hstack
  | startTask hc hpath hr =>
      refine ⟨⟨fun _ => nofun, fun _ => rfl⟩, ?_, nofun, ?_, ⟨nofun, nofun⟩, ?_⟩
      · rintro rfl
        cases hpath
      · rintro (h | h) <;> cases h
      · rintro _ _ (h | h) <;> cases h
  | taskStarts ht =>
      exact hs.goOn (ht ▸ nofun) rfl rfl rfl ⟨nofun, nofun⟩ (fun _ => hkind) ⟨nofun, nofun⟩
  | pollNotified ht | deadlinePasses ht _ => exact absurd ht (hs.awake.2 _)
  | popped ht _ | sendAsset ht | pushEntry ht =>
      refine hs.goOn (ht ▸ nofun) rfl rfl rfl ⟨nofun, nofun⟩ ?_ ⟨nofun, nofun⟩
      rintro (h | h) <;> cases h
  | clear ht =>
      refine ⟨⟨nofun, fun h => absurd rfl h⟩, ?_, hs.requested, ?_, ⟨nofun, nofun⟩, ?_⟩
      · intro hnone
        exact ⟨(hs.pathless hnone).1, rfl, (hs.pathless hnone).2.2⟩
      · rintro (h | h) <;> cases h
      · exact fun hrequested hstack _ => hs.covered hrequested hstack (Or.inr ht)
  | allocation _ =>
      exact ⟨hs.running, hs.pathless, hs.requested, fun _ => rfl, hs.awake, hs.covered⟩
  | notifyWaiters _ | sent _ _ _ | tick =>
      exact ⟨hs.running, hs.pathless, hs.requested, hs.allocated, hs.awake, hs.covered⟩

/-! ## The window -/

/-- The flag is read in the window: the task clears it next, and the directory is
    stranded. -/
theorem stranded_of_read_in_window (hs : Covered assetsPath s) (ha : ¬ NotInWindow s a)
    (h : (system fs assetsPath).step s a = some t) :
    ∃ bs u, (∀ b ∈ bs, b = Action.clear) ∧ (system fs assetsPath).exec t bs = some u ∧
      Stranded u := by
  obtain ⟨rfl, htask, hstack⟩ : a = .startTaskIfNeeded ∧ s.task = .clear ∧ s.stack ≠ [] := by
    by_contra hno
    refine ha fun ha' htask => ?_
    by_contra hstack
    exact hno ⟨ha', htask, hstack⟩
  have hrunning : s.running = true := hs.running.mpr (htask ▸ nofun)
  cases step_cases h with
  | moves _ hmove => cases hmove
  | startTask _ _ hr => cases hr.symm.trans hrunning
  | notStarted hc _ =>
      have hstep : (system fs assetsPath).step { s with controller := .idle } .clear
          = some { s with controller := .idle, running := false, task := .notRunning } := by
        show PreCaching.step fs assetsPath { s with controller := .idle } .clear = _
        simp only [PreCaching.step, htask]
      refine ⟨[.clear], _, ?_, exec_cons_iff.mpr ⟨_, hstep, rfl⟩, ?_⟩
      · intro b hb
        exact List.mem_singleton.mp hb
      · exact ⟨hs.requested (Or.inr hc), rfl, hstack, rfl⟩

/-- **No directory is stranded in exactly the runs in which the flag is not read
    between the last `pop` and the clearing with a directory on the stack.**  The runs
    are those without errors and passed deadlines; the states meant are all that the
    run passes through, and those in which the task has cleared the flag next. -/
theorem notInWindow_iff_never_stranded (hkind : Along (system fs assetsPath) (Orderly fs) {} acts)
    (h : (system fs assetsPath).exec {} acts = some s) :
    Along (system fs assetsPath) NotInWindow {} acts ↔
      ∀ pre m, pre <+: acts → (system fs assetsPath).exec {} pre = some m →
        ∀ bs u, (∀ b ∈ bs, b = Action.clear) → (system fs assetsPath).exec m bs = some u →
          ¬ Stranded u := by
  refine along_iff_never_bad_of (I := Covered assetsPath) Covered.step Covered.not_stranded ?_ ?_
    Covered.init hkind h
  · rintro a rfl s
    exact ⟨trivial, nofun⟩
  · intro s a t hs _ ha hstep
    exact stranded_of_read_in_window hs ha hstep

/-- The root is pre-cached; when the task has popped it and found nothing below it,
    it is pushed once more. -/
def pushedInWindow : List Action :=
  [.allocation, .notifyWaiters, .allocateEndpoint, .testStack,
    .preCacheAssets [], .pushDirectory, .testRequested, .startTaskIfNeeded,
    .taskStarts, .testDeadline, .readAllocated, .pop, .readDir,
    .nextEntry, .fileType, .readFile, .sendAsset, .sendReturns, .nextEntry, .pop,
    .preCacheAssets [], .pushDirectory, .testRequested, .startTaskIfNeeded, .clear]

theorem notInWindow_iff_never_stranded_pushedInWindow :
    ∃ s, (system oneFile (some (render []))).exec {} pushedInWindow = some s ∧
      (Along (system oneFile (some (render []))) NotInWindow {} pushedInWindow ↔
        ∀ pre m, pre <+: pushedInWindow →
          (system oneFile (some (render []))).exec {} pre = some m →
            ∀ bs u, (∀ b ∈ bs, b = Action.clear) →
              (system oneFile (some (render []))).exec m bs = some u → ¬ Stranded u) :=
  ⟨_, rfl, notInWindow_iff_never_stranded (by decide) rfl⟩

/-- **A directory can be stranded**, in a run without errors and passed deadlines. -/
theorem stranded_pushedInWindow :
    ∃ s, (system oneFile (some (render []))).exec {} pushedInWindow = some s ∧
      Along (system oneFile (some (render []))) (Orderly oneFile) {} pushedInWindow ∧
      Stranded s :=
  ⟨_, rfl, by decide, rfl, rfl, nofun, rfl⟩

end AmbientProxy.PreCaching
