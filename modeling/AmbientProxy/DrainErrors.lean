import AmbientProxy.Drain

/-! # Directories that cannot be read — what else they cost

    Of the seven calls in the loop of `drain_pre_cache_assets_stack` that can fail, two
    end it:

        read_dir(path)?                  -- Err: the drain is over
        next_entry()?                    -- Err: the drain is over
        file_type, strip_prefix, path_to_key, read, send: warn, and go on

    What is then on the stack stays there, and the task clears its flag.

    * `failsLast_iff` — a directory that cannot be read costs only itself, in exactly the
      drains in which the stack is empty when it fails;
    * `fileA_not_sent_unreadable` — otherwise it costs what waits on the stack. -/

namespace AmbientProxy.PreCaching

open Transition UnixPath

variable {fs : FileSystem} {assets : List Name} {s t : State} {a : Action} {acts : List Action}
  {file : PreCached} {broken : List Name → Prop}

/-- Nothing waits on the stack when a directory cannot be read. -/
def FailsLast (s : State) (a : Action) : Prop := a.DirFails → s.stack = []

/-- What leads to a file through readable directories leads to it. -/
theorem Leads.mono {names : List Name} (h : Leads fs assets broken names file) :
    Leads fs assets (fun _ => False) names file := by
  obtain ⟨rest, hfile, -⟩ := h
  exact ⟨rest, hfile, fun _ _ _ => id⟩

theorem Misses.mono (h : Misses fs assets broken file s a) :
    Misses fs assets (fun _ => False) file s a := by
  obtain ⟨ha, hitem⟩ := h
  refine ⟨ha, ?_⟩
  cases htask : s.task with
  | readDir path | readFile _ path _ | pushEntry _ path =>
      rw [htask] at hitem
      obtain ⟨names, hpath, hleads⟩ := hitem
      exact ⟨names, hpath, hleads.mono⟩
  | fileType dir entry =>
      rw [htask] at hitem
      exact Leads.mono hitem
  | _ =>
      rw [htask] at hitem
      exact hitem

theorem once_le {p q : Prop} (h : p → q) : once p ≤ once q := by
  by_cases hp : p
  · rw [once_of hp, once_of (h hp)]
  · rw [once_of_not hp]
    exact Nat.zero_le _

/-- What is sent and what is on the stack do not get less while a directory is listed. -/
theorem calls_le_of_listing (file : PreCached) {dir : OpenDir} (hdir : s.task.dir? = some dir)
    (hbroken : broken dir.names) (h : DrainStep fs assets s a t) :
    s.calls fs assets broken file ≤ t.calls fs assets broken file := by
  classical
  rw [State.calls, State.calls, owed_broken hdir hbroken]
  cases h with
  | drained ht _ | popped ht _ | opened ht _ _ | readDirFails ht _ =>
      rw [ht] at hdir
      cases hdir
  | sendAsset _ _ =>
      dsimp only
      rw [List.count_append]
      omega
  | pushEntry _ _ _ _ =>
      dsimp only
      rw [List.countP_cons]
      omega
  | _ =>
      dsimp only
      omega

/-- **Whatever can be read moves on to be sent**, or is missed. -/
theorem calls_le_step (hfails : OnlyBroken broken s a) (h : DrainStep fs assets s a t) :
    s.calls fs assets broken file ≤
      t.calls fs assets broken file + once (MissesUnder fs assets file s a) := by
  have hmisses : once (Misses fs assets broken file s a) ≤
      once (MissesUnder fs assets file s a) := once_le fun hm => (missesUnder_iff h).mpr hm.mono
  by_cases hbroken : ∃ dir, s.task.dir? = some dir ∧ broken dir.names
  · obtain ⟨dir, hdir, hbroken⟩ := hbroken
    have hle := calls_le_of_listing file hdir hbroken h
    omega
  · have hstep := calls_step file
      (fun dir hdir hdown => hbroken ⟨dir, hdir, hdown⟩) hfails h
    omega

/-- A directory that cannot be read ends the drain, and the stack stays as it is. -/
theorem end_of_dirFails (hs : Draining fs assets s) (hown : ∀ b ∈ a :: acts, b.OfDrain)
    (hfails : a.DirFails)
    (h : (system fs (some (render assets))).exec s (a :: acts) = some t) :
    t.stack = s.stack := by
  obtain ⟨ha, hacts⟩ := List.forall_mem_cons.mp hown
  obtain ⟨m, hm, hrest⟩ := exec_cons_iff.mp h
  have hdrain := drainStep_of_step hs ha hm
  obtain ⟨hclear, hstack⟩ : m.task = .clear ∧ m.stack = s.stack := by
    cases hdrain with
    | readDirFails _ _ | nextEntryFails _ => exact ⟨rfl, rfl⟩
    | _ => exact hfails.elim
  cases acts with
  | nil =>
      cases hrest
      exact hstack
  | cons b acts =>
      obtain ⟨n, hn, -⟩ := exec_cons_iff.mp hrest
      have hafter := drainStep_of_step (hs.step hdrain) (List.forall_mem_cons.mp hacts).1 hn
      exact absurd hclear hafter.not_clear

/-- Where the stack is empty in the end, no directory failed with something on it. -/
theorem failsLast_of_stack (hs : Draining fs assets s) (hown : ∀ b ∈ acts, b.OfDrain)
    (h : (system fs (some (render assets))).exec s acts = some t) (hempty : t.stack = []) :
    Along (system fs (some (render assets))) FailsLast s acts := by
  induction acts generalizing s with
  | nil => trivial
  | cons a acts ih =>
      obtain ⟨ha, hacts⟩ := List.forall_mem_cons.mp hown
      refine ⟨fun hfails => ?_, fun m hm => ?_⟩
      · rw [← end_of_dirFails hs hown hfails h]
        exact hempty
      · obtain ⟨m', hm', hrest⟩ := exec_cons_iff.mp h
        cases hm.symm.trans hm'
        exact ih (hs.step (drainStep_of_step hs ha hm)) hacts hrest

open Classical in
/-- **A DIRECTORY THAT CANNOT BE READ COSTS ONLY ITSELF**, exactly where nothing waits on
    the stack when it fails: then the drain ends with an empty stack, and each file has
    had at least one call for each directory of the stack from which readable directories
    lead to it, but for those that were missed. -/
theorem failsLast_iff (hfs : fs.Finite) (hpop : s.task = .pop)
    (hstack : ∀ path ∈ s.stack, DirectoryAt fs assets path) :
    (∃ bound, ∀ acts t, (∀ a ∈ acts, a.OfDrain) →
      (system fs (some (render assets))).exec s acts = some t → acts.length ≤ bound) ∧
    ∀ broken acts t, (∀ a ∈ acts, a.OfDrain) →
      Along (system fs (some (render assets))) (OnlyBroken broken) s acts →
      (system fs (some (render assets))).exec s acts = some t → t.task = .clear →
      (Along (system fs (some (render assets))) FailsLast s acts ↔
        t.stack = [] ∧ ∀ file,
          s.preCached.count file +
              s.stack.countP (fun path => LeadsFrom fs assets broken path file) ≤
            t.preCached.count file + (system fs (some (render assets))).tally
              (fun s a => once (MissesUnder fs assets file s a)) s acts) := by
  have hs : Draining fs assets s := ⟨hstack, by rw [hpop]; trivial⟩
  refine ⟨⟨s.work fs, fun acts t hown h => drain_length_le hfs hs hown h⟩, ?_⟩
  intro broken acts t hown hbroken h hclear
  have hown' : Along (system fs (some (render assets))) (fun _ a => a.OfDrain) s acts :=
    along_of_forall_mem fun a ha _ => hown a ha
  constructor
  · intro hlast
    have hal : Along (system fs (some (render assets)))
        (fun s a => a.OfDrain ∧ (a.DirFails → s.stack = [])) s acts :=
      along_and_iff.mpr ⟨hown', hlast⟩
    have hempty := stack_of_clear hal hs (fun h => nomatch hpop.symm.trans h) h hclear
    refine ⟨hempty, fun file => ?_⟩
    have hal' : Along (system fs (some (render assets)))
        (fun s a => a.OfDrain ∧ OnlyBroken broken s a) s acts :=
      along_and_iff.mpr ⟨hown', hbroken⟩
    have htally := exec_tally_le (I := Draining fs assets)
      (C := fun s a => a.OfDrain ∧ OnlyBroken broken s a)
      (V := State.calls fs assets broken file)
      (f := fun s a => once (MissesUnder fs assets file s a))
      (fun hs ha hstep => hs.step (drainStep_of_step hs ha.1 hstep))
      (fun hs ha hstep => calls_le_step ha.2 (drainStep_of_step hs ha.1 hstep)) hs hal' h
    rw [calls_between (Or.inl hpop), calls_between (Or.inr hclear), hempty] at htally
    exact htally
  · rintro ⟨hempty, -⟩
    exact failsLast_of_stack hs hown h hempty

/-- Both directories are on the stack, `b` first. -/
def fromBoth : State := { task := .pop, stack := [render [nameB], render [nameA]] }

/-- The directory `b` cannot be opened. -/
def unreadable : List Action := [.pop, .readDirFails]

theorem fromBoth_stack : ∀ path ∈ fromBoth.stack, DirectoryAt twoDirs [] path := by
  intro path hpath
  rcases List.mem_cons.mp hpath with rfl | hpath
  · exact ⟨[nameB], rfl, List.nil_prefix, rfl⟩
  · cases List.mem_singleton.mp hpath
    exact ⟨[nameA], rfl, List.nil_prefix, rfl⟩

open Classical in
theorem failsLast_iff_unreadable :
    ∃ t, (system twoDirs (some (render []))).exec fromBoth unreadable = some t ∧
      (Along (system twoDirs (some (render []))) FailsLast fromBoth unreadable ↔
        t.stack = [] ∧ ∀ file,
          fromBoth.preCached.count file +
              fromBoth.stack.countP (fun path =>
                LeadsFrom twoDirs [] (fun d => d = [nameB]) path file) ≤
            t.preCached.count file + (system twoDirs (some (render []))).tally
              (fun s a => once (MissesUnder twoDirs [] file s a)) fromBoth unreadable) := by
  have hrun : (system twoDirs (some (render []))).exec fromBoth unreadable = some _ := rfl
  refine ⟨_, rfl, (failsLast_iff FileSystem.finite_ofTree rfl fromBoth_stack).2
    (fun d => d = [nameB]) unreadable _ (by decide) ⟨trivial, ?_⟩ hrun rfl⟩
  intro m hm
  cases hm
  refine ⟨?_, fun _ _ => trivial⟩
  intro d hd
  exact (render_injective (Task.readDir.inj hd)).symm

/-- **The directory `b` cannot be opened, and the file in `a` is not sent**: the drain is
    over, and `a` stays on the stack. -/
theorem fileA_not_sent_unreadable :
    ∃ t, (system twoDirs (some (render []))).exec fromBoth unreadable = some t ∧
      t.task = .clear ∧ t.stack = [render [nameA]] ∧ t.preCached = [] ∧
      LeadsFrom twoDirs [] (fun d => d = [nameB]) (render [nameA]) fileA := by
  refine ⟨_, rfl, rfl, rfl, rfl, [nameA], rfl, [nameA], ?_, ?_⟩
  · exact ⟨[nameA, nameA], rfl, rfl, rfl, rfl⟩
  · intro above hprefix hne
    rcases List.prefix_cons_iff.mp hprefix with rfl | ⟨rest, rfl, hrest⟩
    · exact nofun
    · rw [List.prefix_nil.mp hrest] at hne
      exact absurd rfl hne

end AmbientProxy.PreCaching
