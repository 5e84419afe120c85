import AmbientProxy.AssetPaths

/-! # The drain — one call for each file

    `ClientController::drain_pre_cache_assets_stack` pops directories from the stack and
    pushes the ones that it finds in them:

        while let Some(path) = stack.pop() {
          for entry in read_dir(path) {
            a file: read and send it     a directory: stack.push(entry)
          }                              anything else: leave it
        }

    The stack grows while it is drained, so what gets smaller is the part of the tree
    that is still to be walked; and what a file is still owed moves from the stack to
    the directory in hand, and from there to what is sent.

    * `drain_length_le` — a drain of a finite tree takes a bounded number of steps;
    * `drain_progress` — it waits for nothing but the return of a send;
    * `calls_step` — a call is made for each thing that leads to a file, or a failure is
      counted instead;
    * `drain_exact` — at the end each directory of the stack has led to one call for each
      file below it. -/

namespace AmbientProxy.PreCaching

open Transition UnixPath

variable {fs : FileSystem} {assets : List Name} {s t : State} {a : Action} {acts : List Action}

/-! ## The steps of a drain -/

/-- The drain's own actions. -/
def Action.OfDrain : Action → Prop
  | .pop | .readDir | .readDirFails | .nextEntry | .nextEntryFails | .fileType | .fileTypeFails
  | .readFile | .readFileFails | .sendAsset | .sendReturns | .pushEntry => True
  | _ => False

/-- `read_dir` or `next_entry` fails. -/
def Action.DirFails : Action → Prop
  | .readDirFails | .nextEntryFails => True
  | _ => False

instance : DecidablePred Action.OfDrain := fun a =>
  decidable_of_iff (a ∈ [Action.pop, .readDir, .readDirFails, .nextEntry, .nextEntryFails,
      .fileType, .fileTypeFails, .readFile, .readFileFails, .sendAsset, .sendReturns, .pushEntry])
    (by cases a <;> simp [Action.OfDrain])

instance : DecidablePred Action.DirFails := fun a =>
  decidable_of_iff (a ∈ [Action.readDirFails, .nextEntryFails])
    (by cases a <;> simp [Action.DirFails])

/-- A directory in the assets directory, by its canonical path. -/
def DirectoryAt (fs : FileSystem) (assets : List Name) (path : Path) : Prop :=
  ∃ d, path = render d ∧ assets <+: d ∧ fs.node d = some .dir

/-- Such a directory is being listed. -/
structure OpenDir.Listed (fs : FileSystem) (assets : List Name) (dir : OpenDir) : Prop where
  path : dir.path = render dir.names
  under : assets <+: dir.names
  entries : ∀ entry ∈ dir.entries, (fs.node (dir.names ++ [entry])).isSome = true

/-- The file at `names` has this path, this content, and a UTF-8 path in the assets
    directory, which is its key. -/
def PreCached.At (fs : FileSystem) (assets names : List Name) (file : PreCached) : Prop :=
  ∃ rest, names = assets ++ rest ∧ file.path = render names ∧ file.key.bytes = relative rest ∧
    fs.node names = some (.file file.data)

/-- Where the task is while it drains the stack, and what it has in hand. -/
def Task.InDrain (fs : FileSystem) (assets : List Name) : Task → Prop
  | .pop | .clear => True
  | .readDir path => DirectoryAt fs assets path
  | .nextEntry dir | .sending dir => dir.Listed fs assets
  | .fileType dir entry =>
      dir.Listed fs assets ∧ (fs.node (dir.names ++ [entry])).isSome = true
  | .readFile dir entryPath key =>
      dir.Listed fs assets ∧ ∃ names data, PreCached.At fs assets names ⟨entryPath, key, data⟩
  | .sendAsset dir entryPath key data =>
      dir.Listed fs assets ∧ ∃ names, PreCached.At fs assets names ⟨entryPath, key, data⟩
  | .pushEntry dir entryPath => dir.Listed fs assets ∧ DirectoryAt fs assets entryPath
  | _ => False

structure Draining (fs : FileSystem) (assets : List Name) (s : State) : Prop where
  stack : ∀ path ∈ s.stack, DirectoryAt fs assets path
  task : s.task.InDrain fs assets

/-- What an action of the drain does. -/
inductive DrainStep (fs : FileSystem) (assets : List Name) (s : State) : Action → State → Prop where
  | drained (ht : s.task = .pop) (hstack : s.stack = []) :
      DrainStep fs assets s .pop { s with task := .clear }
  | popped {path : Path} {stack : List Path} (ht : s.task = .pop)
      (hstack : s.stack = path :: stack) :
      DrainStep fs assets s .pop { s with stack := stack, task := .readDir path }
  | opened {d : List Name} (ht : s.task = .readDir (render d)) (hunder : assets <+: d)
      (hd : fs.node d = some .dir) :
      DrainStep fs assets s .readDir { s with task := .nextEntry ⟨render d, d, fs.listing d⟩ }
  | readDirFails {d : List Name} (ht : s.task = .readDir (render d))
      (hd : fs.node d = some .dir) :
      DrainStep fs assets s .readDirFails { s with task := .clear }
  | entry {path : Path} {d entries : List Name} {entry : Name}
      (ht : s.task = .nextEntry ⟨path, d, entry :: entries⟩)
      (hdir : OpenDir.Listed fs assets ⟨path, d, entry :: entries⟩) :
      DrainStep fs assets s .nextEntry { s with task := .fileType ⟨path, d, entries⟩ entry }
  | listed {path : Path} {d : List Name} (ht : s.task = .nextEntry ⟨path, d, []⟩) :
      DrainStep fs assets s .nextEntry { s with task := .pop }
  | nextEntryFails {dir : OpenDir} (ht : s.task = .nextEntry dir) :
      DrainStep fs assets s .nextEntryFails { s with task := .clear }
  /-- Neither a directory nor a file with a key. -/
  | left {dir : OpenDir} {entry : Name} (ht : s.task = .fileType dir entry)
      (hdir : dir.Listed fs assets) (hentry : (fs.node (dir.names ++ [entry])).isSome = true)
      (hnodir : fs.node (dir.names ++ [entry]) ≠ some .dir)
      (hnofile : ∀ file, ¬ PreCached.At fs assets (dir.names ++ [entry]) file) :
      DrainStep fs assets s .fileType { s with task := .nextEntry dir }
  | isFile {dir : OpenDir} {entry : Name} {file : PreCached} (ht : s.task = .fileType dir entry)
      (hdir : dir.Listed fs assets) (hfile : file.At fs assets (dir.names ++ [entry])) :
      DrainStep fs assets s .fileType { s with task := .readFile dir file.path file.key }
  | isDir {dir : OpenDir} {entry : Name} (ht : s.task = .fileType dir entry)
      (hdir : dir.Listed fs assets) (hd : fs.node (dir.names ++ [entry]) = some .dir) :
      DrainStep fs assets s .fileType
        { s with task := .pushEntry dir (render (dir.names ++ [entry])) }
  | fileTypeFails {dir : OpenDir} {entry : Name} (ht : s.task = .fileType dir entry)
      (hdir : dir.Listed fs assets) (hentry : (fs.node (dir.names ++ [entry])).isSome = true) :
      DrainStep fs assets s .fileTypeFails { s with task := .nextEntry dir }
  | read {dir : OpenDir} {names : List Name} {file : PreCached}
      (ht : s.task = .readFile dir file.path file.key)
      (hdir : dir.Listed fs assets) (hfile : file.At fs assets names) :
      DrainStep fs assets s .readFile
        { s with task := .sendAsset dir file.path file.key file.data }
  | readFileFails {dir : OpenDir} {names : List Name} {file : PreCached}
      (ht : s.task = .readFile dir file.path file.key) (hdir : dir.Listed fs assets)
      (hfile : file.At fs assets names) :
      DrainStep fs assets s .readFileFails { s with task := .nextEntry dir }
  | sendAsset {dir : OpenDir} {file : PreCached}
      (ht : s.task = .sendAsset dir file.path file.key file.data) (hdir : dir.Listed fs assets) :
      DrainStep fs assets s .sendAsset
        { s with preCached := s.preCached ++ [file], task := .sending dir }
  | sendReturns {dir : OpenDir} (ht : s.task = .sending dir) (hdir : dir.Listed fs assets) :
      DrainStep fs assets s .sendReturns { s with task := .nextEntry dir }
  | pushEntry {dir : OpenDir} {d : List Name} (ht : s.task = .pushEntry dir (render d))
      (hdir : dir.Listed fs assets) (hunder : assets <+: d) (hd : fs.node d = some .dir) :
      DrainStep fs assets s .pushEntry
        { s with stack := render d :: s.stack, task := .nextEntry dir }

theorem OpenDir.Listed.prefix {dir : OpenDir} (hdir : dir.Listed fs assets) (entry : Name) :
    ∃ rest, dir.names ++ [entry] = assets ++ (rest ++ [entry]) := by
  obtain ⟨rest, hrest⟩ := hdir.under
  exact ⟨rest, by rw [← hrest, List.append_assoc]⟩

/-- The entry of a directory that is listed leads to a file with a key, to a directory,
    or nowhere. -/
theorem drainStep_fileType {dir : OpenDir} {entry : Name} (ht : s.task = .fileType dir entry)
    (hdir : dir.Listed fs assets) (hentry : (fs.node (dir.names ++ [entry])).isSome = true) :
    DrainStep fs assets s .fileType { s with
      task := afterFileType (render assets) dir entry (fs.node (dir.names ++ [entry])) } := by
  obtain ⟨rest, hnames⟩ := hdir.prefix entry
  have hpath := OpenDir.entryPath_eq hdir.path entry
  rcases afterFileType_cases (render assets) dir entry (fs.node (dir.names ++ [entry])) with
    h | ⟨hnode, h⟩ | ⟨data, key, hnode, hkey, h⟩
  · rw [h]
    refine .left ht hdir hentry ?_ ?_
    · intro hnode
      rw [hnode] at h
      cases h
    · rintro file ⟨rest', hrest', -, hkey, hnode⟩
      cases List.append_cancel_left (hnames.symm.trans hrest')
      have hkey' : keyOf (render assets) (dir.entryPath entry) = some file.key := by
        rw [hpath, hnames]
        exact keyOf_eq_some_iff.mpr hkey
      rw [hnode, afterFileType, hkey'] at h
      cases h
  · rw [h, hpath]
    exact .isDir ht hdir hnode
  · rw [h]
    rw [hpath, hnames] at hkey
    have hfile : PreCached.At fs assets (dir.names ++ [entry]) ⟨dir.entryPath entry, key, data⟩ :=
      ⟨rest ++ [entry], hnames, hpath, keyOf_eq_some_iff.mp hkey, hnode⟩
    exact .isFile ht hdir hfile

theorem drainStep_of_step (hs : Draining fs assets s) (ha : a.OfDrain)
    (h : (system fs (some (render assets))).step s a = some t) : DrainStep fs assets s a t := by
  have htask := hs.task
  cases step_cases h with
  | moves ht hmove =>
      rw [ht] at htask
      cases hmove with
      | inTime _ | late _ | allocated _ | notAllocated _ | createNotified => exact ha.elim
      | drained hstack => exact .drained ht hstack
      | opened hopen =>
          obtain ⟨d, rfl, hunder, hd⟩ := htask
          cases (FileSystem.readDir_render hd).symm.trans hopen
          exact .opened ht hunder hd
      | notOpened hnone =>
          obtain ⟨d, rfl, hunder, hd⟩ := htask
          cases (FileSystem.readDir_render hd).symm.trans hnone
      | readDirFails =>
          obtain ⟨d, rfl, -, hd⟩ := htask
          exact .readDirFails ht hd
      | entry => exact .entry ht htask
      | listed => exact .listed ht
      | nextEntryFails => exact .nextEntryFails ht
      | fileType hpath =>
          cases hpath
          exact drainStep_fileType ht htask.1 htask.2
      | fileTypeFails => exact .fileTypeFails ht htask.1 htask.2
      | read hread =>
          rename_i dir entryPath key data
          obtain ⟨hdir, names, data', hfile⟩ := htask
          have hfile' := hfile
          obtain ⟨rest, -, hpath, -, hnode⟩ := hfile'
          change entryPath = render names at hpath
          rw [hpath, FileSystem.read_render hnode] at hread
          cases hread
          exact .read ht hdir hfile
      | notRead hread =>
          rename_i dir entryPath key
          obtain ⟨-, names, data, rest, -, hpath, -, hnode⟩ := htask
          change entryPath = render names at hpath
          rw [hpath, FileSystem.read_render hnode] at hread
          cases hread
      | readFileFails =>
          rename_i dir entryPath key
          obtain ⟨hdir, names, data, hfile⟩ := htask
          exact .readFileFails ht hdir hfile
      | sendReturns => exact .sendReturns ht htask
  | popped ht hstack => exact .popped ht hstack
  | sendAsset ht =>
      rw [ht] at htask
      exact .sendAsset ht htask.1
  | pushEntry ht =>
      rw [ht] at htask
      obtain ⟨hdir, d, rfl, hunder, hd⟩ := htask
      exact .pushEntry ht hdir hunder hd
  | _ => exact ha.elim

/-- A drain that is over has no step. -/
theorem DrainStep.not_clear (h : DrainStep fs assets s a t) : s.task ≠ .clear := by
  intro hclear
  cases h with
  | drained ht _ | popped ht _ | opened ht _ _ | readDirFails ht _ | entry ht _ | listed ht
  | nextEntryFails ht | left ht _ _ _ _ | isFile ht _ _ | isDir ht _ _ | fileTypeFails ht _ _
  | read ht _ _ | readFileFails ht _ _ | sendAsset ht _ | sendReturns ht _
  | pushEntry ht _ _ _ =>
      cases hclear.symm.trans ht

/-- What is left of a listing is still listed. -/
theorem OpenDir.Listed.tail {path : Path} {d entries : List Name} {entry : Name}
    (hdir : OpenDir.Listed fs assets ⟨path, d, entry :: entries⟩) :
    OpenDir.Listed fs assets ⟨path, d, entries⟩ :=
  ⟨hdir.path, hdir.under, fun entry' h => hdir.entries entry' (List.mem_cons_of_mem entry h)⟩

theorem Draining.step (hs : Draining fs assets s) (h : DrainStep fs assets s a t) :
    Draining fs assets t := by
  have htask := hs.task
  cases h with
  | drained _ _ | readDirFails _ _ | listed _ | nextEntryFails _ => exact ⟨hs.stack, trivial⟩
  | popped _ hstack =>
      rename_i path stack
      have hall := hs.stack
      rw [hstack] at hall
      obtain ⟨hpath, hrest⟩ := List.forall_mem_cons.mp hall
      exact ⟨hrest, hpath⟩
  | opened _ hunder hd =>
      exact ⟨hs.stack, rfl, hunder, fun entry h => fs.mem_listing.mp h⟩
  | entry _ hdir => exact ⟨hs.stack, hdir.tail, hdir.entries _ List.mem_cons_self⟩
  | left _ hdir _ _ _ | fileTypeFails _ hdir _ | readFileFails _ hdir _ | sendAsset _ hdir
  | sendReturns _ hdir =>
      exact ⟨hs.stack, hdir⟩
  | isFile _ hdir hfile => exact ⟨hs.stack, hdir, _, _, hfile⟩
  | isDir _ hdir hd =>
      obtain ⟨rest, hnames⟩ := hdir.prefix _
      exact ⟨hs.stack, hdir, _, rfl, hnames ▸ List.prefix_append _ _, hd⟩
  | read _ hdir hfile => exact ⟨hs.stack, hdir, _, hfile⟩
  | pushEntry _ hdir hunder hd =>
      refine ⟨?_, hdir⟩
      intro path hpath
      rcases List.mem_cons.mp hpath with rfl | hpath
      · exact ⟨_, rfl, hunder, hd⟩
      · exact hs.stack path hpath

/-! ## The drain ends -/

/-- What the entries of a directory cost at most. -/
noncomputable def entriesWork (fs : FileSystem) (d entries : List Name) : Nat :=
  6 * (entries.map fun entry => fs.size (d ++ [entry])).sum

/-- What a directory on the stack costs at most. -/
noncomputable def dirWork (fs : FileSystem) (path : Path) : Nat :=
  (fs.resolve path).elim 0 fun d => 3 + entriesWork fs d (fs.listing d)

/-- What the task has in hand costs at most. -/
noncomputable def Task.work (fs : FileSystem) : Task → Nat
  | .pop => 1
  | .readDir path => dirWork fs path
  | .nextEntry dir => 2 + entriesWork fs dir.names dir.entries
  | .fileType dir entry =>
      1 + 6 * fs.size (dir.names ++ [entry]) + entriesWork fs dir.names dir.entries
  | .readFile dir _ _ => 5 + entriesWork fs dir.names dir.entries
  | .sendAsset dir _ _ _ => 4 + entriesWork fs dir.names dir.entries
  | .sending dir => 3 + entriesWork fs dir.names dir.entries
  | .pushEntry dir entryPath => 3 + dirWork fs entryPath + entriesWork fs dir.names dir.entries
  | _ => 0

/-- How many steps the drain may still take. -/
noncomputable def State.work (fs : FileSystem) (s : State) : Nat :=
  (s.stack.map (dirWork fs)).sum + s.task.work fs

variable {file : PreCached} {names d : List Name}

theorem dirWork_render (hd : fs.node d = some .dir) :
    dirWork fs (render d) = 3 + entriesWork fs d (fs.listing d) := by
  rw [dirWork, FileSystem.resolve_render (FileSystem.canonical_of_dir hd)]
  rfl

/-- A directory costs less than the entry that it is. -/
theorem dirWork_render_lt (hfs : fs.Finite) (hd : fs.node d = some .dir) :
    dirWork fs (render d) + 3 = 6 * fs.size d := by
  have hsize := FileSystem.sum_size_listing hfs hd
  rw [dirWork_render hd, entriesWork, ← hsize]
  omega

theorem entriesWork_cons (fs : FileSystem) (d entries : List Name) (entry : Name) :
    entriesWork fs d (entry :: entries)
      = 6 * fs.size (d ++ [entry]) + entriesWork fs d entries := by
  rw [entriesWork, List.map_cons, List.sum_cons, Nat.mul_add]
  rfl

/-- A step that leaves the stack alone makes what is in hand smaller. -/
theorem work_task_step {task : Task} (h : task.work fs < s.task.work fs) :
    State.work fs { s with task := task } < s.work fs :=
  Nat.add_lt_add_left h _

theorem work_step (hfs : fs.Finite) (h : DrainStep fs assets s a t) :
    t.work fs < s.work fs := by
  cases h with
  | drained ht _ | listed ht | nextEntryFails ht | read ht _ _ | readFileFails ht _ _
  | sendReturns ht _ =>
      refine work_task_step ?_
      rw [ht]
      dsimp only [Task.work]
      omega
  | popped ht hstack =>
      dsimp only [State.work]
      rw [ht, hstack, List.map_cons, List.sum_cons]
      dsimp only [Task.work]
      omega
  | opened ht _ hd | readDirFails ht hd =>
      refine work_task_step ?_
      rw [ht]
      dsimp only [Task.work]
      rw [dirWork_render hd]
      omega
  | entry ht _ =>
      refine work_task_step ?_
      rw [ht]
      dsimp only [Task.work]
      rw [entriesWork_cons]
      omega
  | left ht _ hentry _ _ | fileTypeFails ht _ hentry =>
      have hpos := FileSystem.size_pos hfs hentry
      refine work_task_step ?_
      rw [ht]
      dsimp only [Task.work]
      omega
  | isFile ht _ hfile =>
      obtain ⟨-, -, -, -, hnode⟩ := hfile
      have hpos := FileSystem.size_pos hfs (Option.isSome_of_eq_some hnode)
      refine work_task_step ?_
      rw [ht]
      dsimp only [Task.work]
      omega
  | isDir ht _ hd =>
      have hless := dirWork_render_lt hfs hd
      refine work_task_step ?_
      rw [ht]
      dsimp only [Task.work]
      omega
  | sendAsset ht _ =>
      refine Nat.add_lt_add_left ?_ _
      rw [ht]
      dsimp only [Task.work]
      omega
  | pushEntry ht _ _ _ =>
      dsimp only [State.work]
      rw [ht, List.map_cons, List.sum_cons]
      dsimp only [Task.work]
      omega

/-- **A drain of a finite tree ends**: it takes no more steps than its work allows. -/
theorem drain_length_le (hfs : fs.Finite) (hs : Draining fs assets s)
    (hown : ∀ a ∈ acts, a.OfDrain)
    (h : (system fs (some (render assets))).exec s acts = some t) :
    acts.length ≤ s.work fs := by
  refine Nat.le_of_add_right_le (exec_length_le (I := Draining fs assets) ?_ ?_ hs hown h)
  · intro s a t hs ha hstep
    exact hs.step (drainStep_of_step hs ha hstep)
  · intro s a t hs ha hstep
    exact work_step hfs (drainStep_of_step hs ha hstep)

theorem draining_of_exec (hs : Draining fs assets s) (hown : ∀ a ∈ acts, a.OfDrain)
    (h : (system fs (some (render assets))).exec s acts = some t) : Draining fs assets t :=
  exec_invariant_along (fun hs ha hstep => hs.step (drainStep_of_step hs ha hstep)) hs
    (along_of_forall_mem fun a ha _ => hown a ha) h

theorem step_readDir {assetsPath : Option Path} (ht : s.task = .readDir (render d))
    (hd : fs.node d = some .dir) :
    (system fs assetsPath).step s .readDir =
      some { s with task := .nextEntry ⟨render d, d, fs.listing d⟩ } := by
  show PreCaching.step fs assetsPath s .readDir = _
  rw [PreCaching.step, ht]
  dsimp only
  rw [FileSystem.readDir_render hd]

/-- **A drain waits for nothing but a send**: until it is done it has a step of its own
    that is no failure, or it has called `send_store_asset_message`, whose return leads
    on. -/
theorem drain_progress (hs : Draining fs assets s) (hclear : s.task ≠ .clear) :
    (∃ a t, a.OfDrain ∧ ¬ a.DirFails ∧ a ≠ .sendReturns ∧
      (system fs (some (render assets))).step s a = some t) ∨
    ∃ dir t, s.task = .sending dir ∧
      (system fs (some (render assets))).step s .sendReturns = some t := by
  by_cases hsending : ∃ dir, s.task = .sending dir
  · obtain ⟨dir, hdir⟩ := hsending
    refine .inr ⟨dir, { s with task := .nextEntry dir }, hdir, ?_⟩
    show PreCaching.step fs (some (render assets)) s .sendReturns = _
    rw [PreCaching.step, hdir]
  -- no call is awaited, so the step is not its return
  suffices hown : ∃ a t, a.OfDrain ∧ ¬ a.DirFails ∧
      (system fs (some (render assets))).step s a = some t by
    obtain ⟨a, t, hown, hfails, hstep⟩ := hown
    refine .inl ⟨a, t, hown, hfails, ?_, hstep⟩
    rintro rfl
    cases step_cases hstep with
    | moves ht hmove =>
        cases hmove
        exact hsending ⟨_, ht⟩
  obtain ⟨-, htask⟩ := hs
  obtain ⟨_, _, stack, _, _, _, task, _, _, _, _, _⟩ := s
  cases task with
  | pop =>
      cases stack with
      | nil => exact ⟨.pop, _, trivial, id, rfl⟩
      | cons path stack => exact ⟨.pop, _, trivial, id, rfl⟩
  | readDir path =>
      obtain ⟨d, rfl, -, hd⟩ := htask
      exact ⟨.readDir, _, trivial, id, step_readDir rfl hd⟩
  | nextEntry dir =>
      obtain ⟨path, names, entries⟩ := dir
      cases entries with
      | nil => exact ⟨.nextEntry, _, trivial, id, rfl⟩
      | cons entry entries => exact ⟨.nextEntry, _, trivial, id, rfl⟩
  | fileType dir entry => exact ⟨.fileType, _, trivial, id, rfl⟩
  | readFile dir entryPath key => exact ⟨.readFile, _, trivial, id, rfl⟩
  | sendAsset dir entryPath key data => exact ⟨.sendAsset, _, trivial, id, rfl⟩
  | sending dir => exact absurd ⟨dir, rfl⟩ hsending
  | pushEntry dir entryPath => exact ⟨.pushEntry, _, trivial, id, rfl⟩
  | clear => exact absurd rfl hclear
  | _ => exact htask.elim

/-! ## What leads to a file -/

/-- What stands at `names` leads to the file: it is the file, or a directory above it,
    and no directory from there on is in `broken`. -/
def Leads (fs : FileSystem) (assets : List Name) (broken : List Name → Prop) (names : List Name)
    (file : PreCached) : Prop :=
  ∃ rest, file.At fs assets (names ++ rest) ∧
    ∀ above, above <+: rest → above ≠ rest → ¬ broken (names ++ above)

/-- The path of something that leads to the file. -/
def LeadsFrom (fs : FileSystem) (assets : List Name) (broken : List Name → Prop) (path : Path)
    (file : PreCached) : Prop :=
  ∃ names, path = render names ∧ Leads fs assets broken names file

variable {broken : List Name → Prop} {entry : Name} {file' : PreCached}

theorem leadsFrom_render :
    LeadsFrom fs assets broken (render names) file ↔ Leads fs assets broken names file := by
  constructor
  · rintro ⟨names', hpath, hleads⟩
    exact render_injective hpath ▸ hleads
  · intro hleads
    exact ⟨names, rfl, hleads⟩

theorem PreCached.At.node (h : file.At fs assets names) :
    fs.node names = some (.file file.data) := by
  obtain ⟨-, -, -, -, hnode⟩ := h
  exact hnode

theorem PreCached.At.path (h : file.At fs assets names) : file.path = render names := by
  obtain ⟨-, -, hpath, -, -⟩ := h
  exact hpath

/-- There is one file at a place, and its key and content are what they are. -/
theorem PreCached.At.unique (h : file.At fs assets names) (h' : file'.At fs assets names) :
    file = file' := by
  obtain ⟨rest, hnames, hpath, hkey, hnode⟩ := h
  obtain ⟨rest', hnames', hpath', hkey', hnode'⟩ := h'
  cases List.append_cancel_left (hnames.symm.trans hnames')
  obtain ⟨path, key, data⟩ := file
  obtain ⟨path', key', data'⟩ := file'
  cases hnode.symm.trans hnode'
  cases hpath.trans hpath'.symm
  cases Text.ext (hkey.trans hkey'.symm)
  rfl

/-- What leads to a file stands there. -/
theorem Leads.isSome (h : Leads fs assets broken names file) :
    (fs.node names).isSome = true := by
  obtain ⟨rest, hfile, -⟩ := h
  by_cases hrest : rest = []
  · rw [hrest, List.append_nil] at hfile
    rw [hfile.node]
    rfl
  · rw [FileSystem.node_of_append hrest (by rw [hfile.node]; rfl)]
    rfl

/-- A directory leads where one of its entries does, unless it is broken. -/
theorem leads_dir_iff (hd : fs.node d = some .dir) :
    Leads fs assets broken d file ↔
      ¬ broken d ∧ ∃ entry, Leads fs assets broken (d ++ [entry]) file := by
  constructor
  · rintro ⟨rest, hfile, habove⟩
    cases rest with
    | nil =>
        have hnode := hfile.node
        rw [List.append_nil, hd] at hnode
        cases hnode
    | cons entry rest =>
        have hroot := habove [] List.nil_prefix nofun
        rw [List.append_nil] at hroot
        refine ⟨hroot, entry, rest, ?_, ?_⟩
        · rw [List.append_assoc]
          exact hfile
        · intro above hprefix hne
          rw [List.append_assoc]
          refine habove (entry :: above) (List.cons_prefix_cons.mpr ⟨rfl, hprefix⟩) ?_
          intro heq
          exact hne (List.cons.inj heq).2
  · rintro ⟨hbroken, entry, rest, hfile, habove⟩
    rw [List.append_assoc] at hfile
    refine ⟨entry :: rest, hfile, ?_⟩
    intro above hprefix hne
    cases above with
    | nil =>
        rw [List.append_nil]
        exact hbroken
    | cons entry' above =>
        obtain ⟨rfl, hrest⟩ := List.cons_prefix_cons.mp hprefix
        have hnot := habove above hrest fun heq => hne (heq ▸ rfl)
        rw [List.append_assoc] at hnot
        exact hnot

/-- A file leads to itself. -/
theorem leads_file_iff (hfile : file.At fs assets names) :
    Leads fs assets broken names file' ↔ file' = file := by
  constructor
  · rintro ⟨rest, hfile', -⟩
    by_cases hrest : rest = []
    · rw [hrest, List.append_nil] at hfile'
      exact hfile'.unique hfile
    · have hdir := FileSystem.node_of_append hrest (by rw [hfile'.node]; rfl)
      cases hdir.symm.trans hfile.node
  · rintro rfl
    refine ⟨[], by rw [List.append_nil]; exact hfile, ?_⟩
    intro above hprefix hne
    exact absurd (List.prefix_nil.mp hprefix) hne

/-- What is neither a directory nor a file with a key leads nowhere. -/
theorem not_leads (hnodir : fs.node names ≠ some .dir)
    (hnofile : ∀ file, ¬ PreCached.At fs assets names file) :
    ¬ Leads fs assets broken names file := by
  rintro ⟨rest, hfile, -⟩
  by_cases hrest : rest = []
  · rw [hrest, List.append_nil] at hfile
    exact hnofile file hfile
  · exact hnodir (FileSystem.node_of_append hrest (by rw [hfile.node]; rfl))

/-- Two entries do not lead to one file. -/
theorem Leads.entry_unique {entry' : Name} (h : Leads fs assets broken (d ++ [entry]) file)
    (h' : Leads fs assets broken (d ++ [entry']) file) : entry = entry' := by
  obtain ⟨rest, hfile, -⟩ := h
  obtain ⟨rest', hfile', -⟩ := h'
  have hnames := render_injective (hfile.path.symm.trans hfile'.path)
  rw [List.append_assoc, List.append_assoc] at hnames
  exact (List.cons.inj (List.append_cancel_left hnames)).1

/-- 1 where it holds. -/
noncomputable def once (p : Prop) : Nat := open Classical in if p then 1 else 0

theorem once_of {p : Prop} (h : p) : once p = 1 := if_pos h

theorem once_of_not {p : Prop} (h : ¬ p) : once p = 0 := if_neg h

@[simp] theorem once_false : once False = 0 := once_of_not id

open Classical in
theorem countP_cons_once {α : Type} (p : α → Prop) (x : α) (xs : List α) :
    ((x :: xs).countP fun y => p y) = (xs.countP fun y => p y) + once (p x) := by
  rw [List.countP_cons]
  by_cases hx : p x
  · rw [if_pos (decide_eq_true hx), once_of hx]
  · rw [if_neg fun h => hx (of_decide_eq_true h), once_of_not hx]

theorem count_snoc_once (files : List PreCached) (file file' : PreCached) :
    (files ++ [file']).count file = files.count file + once (file = file') := by
  rw [List.count_append, List.count_singleton]
  by_cases hfile : file' = file
  · rw [if_pos (beq_iff_eq.mpr hfile), once_of hfile.symm]
  · rw [if_neg fun h => hfile (beq_iff_eq.mp h), once_of_not (Ne.symm hfile)]

open Classical in
/-- How many of these entries of a directory lead to the file. -/
noncomputable def leading (fs : FileSystem) (assets : List Name) (broken : List Name → Prop)
    (d : List Name) (file : PreCached) (entries : List Name) : Nat :=
  entries.countP fun entry => Leads fs assets broken (d ++ [entry]) file

theorem leading_cons {entries : List Name} :
    leading fs assets broken d file (entry :: entries) =
      leading fs assets broken d file entries +
        once (Leads fs assets broken (d ++ [entry]) file) :=
  countP_cons_once (fun entry => Leads fs assets broken (d ++ [entry]) file) entry entries

/-- **Of the entries of a directory one leads to a file**, or none. -/
theorem leading_listing :
    leading fs assets broken d file (fs.listing d) =
      once (∃ entry, Leads fs assets broken (d ++ [entry]) file) := by
  classical
  by_cases hex : ∃ entry, Leads fs assets broken (d ++ [entry]) file
  · rw [once_of hex]
    obtain ⟨entry, hleads⟩ := hex
    have hcount : leading fs assets broken d file (fs.listing d) = (fs.listing d).count entry := by
      refine List.countP_congr fun entry' _ => ?_
      rw [decide_eq_true_eq, beq_iff_eq]
      constructor
      · exact fun hleads' => hleads'.entry_unique hleads
      · rintro rfl
        exact hleads
    rw [hcount]
    exact List.count_eq_one_of_mem (fs.listing_nodup d) (fs.mem_listing.mpr hleads.isSome)
  · rw [once_of_not hex]
    refine List.countP_eq_zero.mpr fun entry _ => ?_
    rw [decide_eq_true_eq]
    exact fun hleads => hex ⟨entry, hleads⟩

/-! ## What a file is owed -/

/-- What the task has in hand leads to the file. -/
def Task.Item (fs : FileSystem) (assets : List Name) (broken : List Name → Prop)
    (file : PreCached) : Task → Prop
  | .readDir path | .readFile _ path _ | .pushEntry _ path =>
      LeadsFrom fs assets broken path file
  | .fileType dir entry => Leads fs assets broken (dir.names ++ [entry]) file
  | .sendAsset _ path key data => file = ⟨path, key, data⟩
  | _ => False

/-- The directory that the task is listing. -/
def Task.dir? : Task → Option OpenDir
  | .nextEntry dir | .fileType dir _ | .readFile dir _ _ | .sendAsset dir _ _ _ | .sending dir
  | .pushEntry dir _ => some dir
  | _ => none

/-- How many more calls what the task has in hand leads to; a broken directory owes
    nothing. -/
noncomputable def Task.owed (fs : FileSystem) (assets : List Name) (broken : List Name → Prop)
    (file : PreCached) (task : Task) : Nat :=
  match task.dir? with
  | none => once (task.Item fs assets broken file)
  | some dir =>
      open Classical in
      if broken dir.names then 0
      else once (task.Item fs assets broken file) +
        leading fs assets broken dir.names file dir.entries

open Classical in
/-- How many calls for the file have been made or are still owed. -/
noncomputable def State.calls (fs : FileSystem) (assets : List Name) (broken : List Name → Prop)
    (file : PreCached) (s : State) : Nat :=
  s.preCached.count file +
    (s.stack.countP (fun path => LeadsFrom fs assets broken path file) +
      s.task.owed fs assets broken file)

/-- `file_type` or `read` fails. -/
def Action.EntryFails : Action → Prop
  | .fileTypeFails | .readFileFails => True
  | _ => False

/-- The step fails to stat, or to read, what leads to the file. -/
def Misses (fs : FileSystem) (assets : List Name) (broken : List Name → Prop) (file : PreCached)
    (s : State) (a : Action) : Prop :=
  a.EntryFails ∧ s.task.Item fs assets broken file

/-- Only directories in `broken` cannot be read. -/
def OnlyBroken (broken : List Name → Prop) (s : State) : Action → Prop
  | .readDirFails => ∀ d, s.task = .readDir (render d) → broken d
  | .nextEntryFails => ∀ dir, s.task = .nextEntry dir → broken dir.names
  | _ => True

theorem owed_unbroken {task : Task} {dir : OpenDir} (hdir : task.dir? = some dir)
    (hbroken : ¬ broken dir.names) :
    task.owed fs assets broken file = once (task.Item fs assets broken file) +
      leading fs assets broken dir.names file dir.entries := by
  rw [Task.owed, hdir]
  exact if_neg hbroken

theorem owed_broken {task : Task} {dir : OpenDir} (hdir : task.dir? = some dir)
    (hbroken : broken dir.names) : task.owed fs assets broken file = 0 := by
  rw [Task.owed, hdir]
  exact if_pos hbroken

theorem owed_none {task : Task} (hdir : task.dir? = none) :
    task.owed fs assets broken file = once (task.Item fs assets broken file) := by
  rw [Task.owed, hdir]

/-- Only a failure misses anything. -/
theorem once_misses (ha : ¬ a.EntryFails) : once (Misses fs assets broken file s a) = 0 :=
  once_of_not fun h => ha h.1

/-- A step that sends nothing, misses nothing and leaves the stack alone. -/
theorem calls_moved {task : Task} (ha : ¬ a.EntryFails)
    (h : task.owed fs assets broken file = s.task.owed fs assets broken file) :
    State.calls fs assets broken file { s with task := task } +
      once (Misses fs assets broken file s a) = s.calls fs assets broken file := by
  rw [once_misses ha, State.calls, State.calls, ← h]
  rfl

/-- A step that misses what is in hand. -/
theorem calls_missed {dir : OpenDir} (ha : a.EntryFails) (hdir : s.task.dir? = some dir)
    (hbroken : ¬ broken dir.names) :
    State.calls fs assets broken file { s with task := .nextEntry dir } +
      once (Misses fs assets broken file s a) = s.calls fs assets broken file := by
  have hmisses : Misses fs assets broken file s a ↔ s.task.Item fs assets broken file :=
    and_iff_right ha
  have hnext : Task.Item fs assets broken file (.nextEntry dir) ↔ False := Iff.rfl
  rw [State.calls, State.calls, owed_unbroken hdir hbroken, hmisses]
  dsimp only
  rw [owed_unbroken rfl hbroken, hnext, once_false]
  omega

/-- A step in a listing that leaves what is in hand as it was. -/
theorem owed_same {task task' : Task} {dir : OpenDir} (hdir : task.dir? = some dir)
    (hdir' : task'.dir? = some dir)
    (h : task'.Item fs assets broken file ↔ task.Item fs assets broken file) :
    task'.owed fs assets broken file = task.owed fs assets broken file := by
  rw [Task.owed, Task.owed, hdir, hdir', h]

/-- The listing of a directory is owed what the directory was. -/
theorem owed_listing (hd : fs.node d = some .dir) :
    Task.owed fs assets broken file (.nextEntry ⟨render d, d, fs.listing d⟩) =
      Task.owed fs assets broken file (.readDir (render d)) := by
  have hleads : LeadsFrom fs assets broken (render d) file ↔ _ :=
    leadsFrom_render.trans (leads_dir_iff hd)
  show _ = once (LeadsFrom fs assets broken (render d) file)
  by_cases hbroken : broken d
  · rw [owed_broken rfl hbroken, once_of_not fun h => (hleads.mp h).1 hbroken]
  · rw [owed_unbroken rfl hbroken, hleads, and_iff_right hbroken, ← leading_listing]
    show once False + _ = _
    rw [once_false, Nat.zero_add]

/-- **A step of the drain moves what is owed**, or misses it, unless the directory in
    hand is broken. -/
theorem calls_step (file : PreCached) (hbroken : ∀ dir, s.task.dir? = some dir → ¬ broken dir.names)
    (hfails : OnlyBroken broken s a) (h : DrainStep fs assets s a t) :
    t.calls fs assets broken file + once (Misses fs assets broken file s a) =
      s.calls fs assets broken file := by
  classical
  cases h with
  | drained ht _ =>
      refine calls_moved id ?_
      rw [ht]
      rfl
  | popped ht hstack =>
      rename_i path stack
      rw [once_misses id, State.calls, State.calls, ht, hstack, countP_cons_once]
      dsimp only
      rw [owed_none rfl, owed_none rfl]
      show _ + (_ + once (LeadsFrom fs assets broken path file)) + 0 = _ + (_ + _ + once False)
      rw [once_false]
      omega
  | opened ht hunder hd =>
      refine calls_moved id ?_
      rw [ht]
      exact owed_listing hd
  | readDirFails ht hd =>
      rename_i d
      have hleads : ¬ LeadsFrom fs assets broken (render d) file :=
        fun h => ((leads_dir_iff hd).mp (leadsFrom_render.mp h)).1 (hfails _ ht)
      refine calls_moved id ?_
      rw [ht, owed_none rfl, owed_none rfl]
      show once False = once (LeadsFrom fs assets broken (render d) file)
      rw [once_of_not hleads, once_false]
  | nextEntryFails ht => exact absurd (hfails _ ht) (hbroken _ (congrArg Task.dir? ht))
  | entry ht hdir =>
      rename_i path d entries entry
      have hd : ¬ broken (OpenDir.names ⟨path, d, entry :: entries⟩) :=
        hbroken _ (congrArg Task.dir? ht)
      have hd' : ¬ broken (OpenDir.names ⟨path, d, entries⟩) := hd
      refine calls_moved id ?_
      rw [ht, owed_unbroken rfl hd', owed_unbroken rfl hd]
      show once (Leads fs assets broken (d ++ [entry]) file) + _ =
        once False + leading fs assets broken d file (entry :: entries)
      rw [leading_cons, once_false]
      dsimp only
      omega
  | listed ht =>
      rename_i path d
      have hd : ¬ broken (OpenDir.names ⟨path, d, []⟩) := hbroken _ (congrArg Task.dir? ht)
      refine calls_moved id ?_
      rw [ht, owed_none rfl, owed_unbroken rfl hd]
      rfl
  | sendReturns ht _ =>
      refine calls_moved id ?_
      rw [ht]
      rfl
  | left ht hdir hentry hnodir hnofile =>
      refine calls_moved id ?_
      rw [ht]
      exact owed_same rfl rfl ⟨nofun, fun h => absurd h (not_leads hnodir hnofile)⟩
  | isFile ht hdir hfile =>
      refine calls_moved id ?_
      rw [ht]
      refine owed_same rfl rfl ?_
      show LeadsFrom fs assets broken _ file ↔ _
      rw [hfile.path]
      exact leadsFrom_render
  | isDir ht hdir hd =>
      refine calls_moved id ?_
      rw [ht]
      exact owed_same rfl rfl leadsFrom_render
  | fileTypeFails ht _ _ | readFileFails ht _ _ =>
      exact calls_missed trivial (congrArg Task.dir? ht) (hbroken _ (congrArg Task.dir? ht))
  | read ht hdir hfile =>
      refine calls_moved id ?_
      rw [ht]
      refine owed_same rfl rfl ?_
      show _ ↔ LeadsFrom fs assets broken _ file
      rw [hfile.path, leadsFrom_render, leads_file_iff hfile, ← hfile.path]
      rfl
  | sendAsset ht hdir =>
      rename_i dir file'
      have hdir' : s.task.dir? = some dir := congrArg Task.dir? ht
      rw [once_misses id, State.calls, State.calls, owed_unbroken hdir' (hbroken _ hdir'), ht]
      dsimp only
      rw [owed_unbroken rfl (hbroken _ hdir'), count_snoc_once]
      show _ + _ + (_ + (once False + _)) + 0 = _ + (_ + (once (file = file') + _))
      rw [once_false]
      omega
  | pushEntry ht hdir hunder hd =>
      rename_i dir d
      have hdir' : s.task.dir? = some dir := congrArg Task.dir? ht
      rw [once_misses id, State.calls, State.calls, owed_unbroken hdir' (hbroken _ hdir'), ht]
      dsimp only
      rw [owed_unbroken rfl (hbroken _ hdir'), countP_cons_once]
      show _ + (_ + _ + (once False + _)) + 0 =
        _ + (_ + (once (LeadsFrom fs assets broken (render d) file) + _))
      rw [once_false]
      omega

/-! ## Whole drains -/

/-- Where the drain is done without an error, the stack is empty. -/
theorem stack_of_clear (hal : Along (system fs (some (render assets)))
      (fun s a => a.OfDrain ∧ (a.DirFails → s.stack = [])) s acts)
    (hs : Draining fs assets s) (hclear : s.task = .clear → s.stack = [])
    (h : (system fs (some (render assets))).exec s acts = some t) :
    t.task = .clear → t.stack = [] := by
  refine (exec_invariant_along
    (P := fun s => Draining fs assets s ∧ (s.task = .clear → s.stack = []))
    ?_ ⟨hs, hclear⟩ hal h).2
  rintro s a t ⟨hs, -⟩ ⟨ha, hfails⟩ hstep
  have hdrain := drainStep_of_step hs ha hstep
  refine ⟨hs.step hdrain, ?_⟩
  cases hdrain with
  | drained _ hstack => exact fun _ => hstack
  | readDirFails _ _ | nextEntryFails _ => exact fun _ => hfails trivial
  | _ => exact nofun

/-- The file lies at or below this path, with no symbolic link on the way. -/
def Under (fs : FileSystem) (assets : List Name) (path : Path) (file : PreCached) : Prop :=
  ∃ d rest, path = render d ∧ file.At fs assets (d ++ rest)

theorem leadsFrom_false_iff {path : Path} :
    LeadsFrom fs assets (fun _ => False) path file ↔ Under fs assets path file := by
  constructor
  · rintro ⟨d, hpath, rest, hfile, -⟩
    exact ⟨d, rest, hpath, hfile⟩
  · rintro ⟨d, rest, hpath, hfile⟩
    exact ⟨d, hpath, rest, hfile, fun _ _ _ => id⟩

/-- The step fails to stat, or to read, the file or a directory above it. -/
def MissesUnder (fs : FileSystem) (assets : List Name) (file : PreCached) (s : State)
    (a : Action) : Prop :=
  match a, s.task with
  | .fileTypeFails, .fileType dir entry => Under fs assets (dir.entryPath entry) file
  | .readFileFails, .readFile _ entryPath _ => Under fs assets entryPath file
  | _, _ => False

open Classical in
/-- Between two directories, only the stack is owed something. -/
theorem calls_between (ht : s.task = .pop ∨ s.task = .clear) :
    s.calls fs assets broken file = s.preCached.count file +
      s.stack.countP fun path => LeadsFrom fs assets broken path file := by
  have howed : s.task.owed fs assets broken file = once False := by
    rcases ht with ht | ht
    · rw [ht]
      rfl
    · rw [ht]
      rfl
  rw [State.calls, howed, once_false]
  rfl

theorem missesUnder_iff (h : DrainStep fs assets s a t) :
    MissesUnder fs assets file s a ↔ Misses fs assets (fun _ => False) file s a := by
  cases h with
  | fileTypeFails ht hdir _ =>
      unfold MissesUnder Misses
      rw [ht]
      dsimp only
      rw [OpenDir.entryPath_eq hdir.path, ← leadsFrom_false_iff, leadsFrom_render]
      exact (and_iff_right trivial).symm
  | readFileFails ht _ _ =>
      unfold MissesUnder Misses
      rw [ht]
      dsimp only
      rw [← leadsFrom_false_iff]
      exact (and_iff_right trivial).symm
  | _ => exact ⟨fun h => h.elim, fun h => h.1.elim⟩

open Classical in
/-- **THE DRAIN ENDS, AND COVERS THE TREE.**  It takes finitely many steps, and waits for
    nothing but the return of a call to `send_store_asset_message`; where every directory
    can be read it ends with an empty stack, and then each file has had one call for each
    directory of the stack that it lies below, but for those that were missed by a failure
    to read it, or to stat it or a directory on the way to it. -/
theorem drain_exact (hfs : fs.Finite) (hpop : s.task = .pop)
    (hstack : ∀ path ∈ s.stack, DirectoryAt fs assets path) :
    (∃ bound, ∀ acts t, (∀ a ∈ acts, a.OfDrain) →
      (system fs (some (render assets))).exec s acts = some t → acts.length ≤ bound) ∧
    ∀ acts t, (∀ a ∈ acts, a.OfDrain ∧ ¬ a.DirFails) →
      (system fs (some (render assets))).exec s acts = some t →
      (t.task ≠ .clear →
        (∃ a u, a.OfDrain ∧ ¬ a.DirFails ∧ a ≠ .sendReturns ∧
          (system fs (some (render assets))).step t a = some u) ∨
        ∃ dir u, t.task = .sending dir ∧
          (system fs (some (render assets))).step t .sendReturns = some u) ∧
      (t.task = .clear → t.stack = [] ∧ ∀ file,
        t.preCached.count file +
            (system fs (some (render assets))).tally
              (fun s a => once (MissesUnder fs assets file s a)) s acts =
          s.preCached.count file + s.stack.countP fun path => Under fs assets path file) := by
  have hs : Draining fs assets s := ⟨hstack, by rw [hpop]; trivial⟩
  refine ⟨⟨s.work fs, fun acts t hown h => drain_length_le hfs hs hown h⟩, ?_⟩
  intro acts t hown h
  refine ⟨drain_progress (draining_of_exec hs (fun a ha => (hown a ha).1) h), ?_⟩
  intro hclear
  have hal : Along (system fs (some (render assets)))
      (fun s a => a.OfDrain ∧ (a.DirFails → s.stack = [])) s acts :=
    along_of_forall_mem fun a ha _ => ⟨(hown a ha).1, fun hfails => absurd hfails (hown a ha).2⟩
  have hempty := stack_of_clear hal hs (fun h => nomatch hpop.symm.trans h) h hclear
  refine ⟨hempty, fun file => ?_⟩
  have htally := exec_tally (I := Draining fs assets)
    (C := fun _ a => a.OfDrain ∧ ¬ a.DirFails) (V := State.calls fs assets (fun _ => False) file)
    (f := fun s a => once (MissesUnder fs assets file s a))
    (fun hs ha hstep => hs.step (drainStep_of_step hs ha.1 hstep)) ?_ hs
    (along_of_forall_mem fun a ha _ => hown a ha) h
  · rw [calls_between (Or.inl hpop), calls_between (Or.inr hclear), hempty] at htally
    simp only [leadsFrom_false_iff] at htally
    exact htally
  · intro s a t hs ha hstep
    have hdrain := drainStep_of_step hs ha.1 hstep
    rw [missesUnder_iff hdrain]
    refine calls_step file (fun _ _ => id) ?_ hdrain
    cases a with
    | readDirFails | nextEntryFails => exact absurd trivial ha.2
    | _ => trivial

/-! ## Two directories -/

/-- The root, a directory `a` with a file `a` in it, of one byte, and an empty
    directory `b`. -/
def twoDirs : FileSystem :=
  .ofTree ⟨[⟨[nameA], .dir⟩, ⟨[nameA, nameA], .file [0x07]⟩, ⟨[nameB], .dir⟩],
      by unfold List.NodupKeys; decide⟩
    (by decide)

/-- The file, with its key `a/a`. -/
def fileA : PreCached := ⟨render [nameA, nameA], ⟨relative [nameA, nameA], by decide⟩, [0x07]⟩

/-- The root is on the stack. -/
def fromRoot : State := { task := .pop, stack := [render []] }

/-- All of the tree is walked. -/
def allWalked : List Action :=
  [.pop, .readDir, .nextEntry, .fileType, .pushEntry, .nextEntry, .fileType, .pushEntry,
    .nextEntry, .pop, .readDir, .nextEntry, .pop, .readDir, .nextEntry, .fileType, .readFile,
    .sendAsset, .sendReturns, .nextEntry, .pop]

/-- The type of the entry `a` cannot be read. -/
def dirMissed : List Action :=
  [.pop, .readDir, .nextEntry, .fileTypeFails, .nextEntry, .fileType, .pushEntry, .nextEntry,
    .pop, .readDir, .nextEntry, .pop]

theorem fromRoot_stack : ∀ path ∈ fromRoot.stack, DirectoryAt twoDirs [] path := by
  intro path hpath
  cases List.mem_singleton.mp hpath
  exact ⟨[], rfl, List.prefix_refl [], rfl⟩

open Classical in
theorem drain_exact_allWalked :
    ∃ t, (system twoDirs (some (render []))).exec fromRoot allWalked = some t ∧
      t.preCached = [fileA] ∧ t.stack = [] ∧ ∀ file,
        t.preCached.count file +
            (system twoDirs (some (render []))).tally
              (fun s a => once (MissesUnder twoDirs [] file s a)) fromRoot allWalked =
          fromRoot.preCached.count file +
            fromRoot.stack.countP fun path => Under twoDirs [] path file := by
  have hrun : (system twoDirs (some (render []))).exec fromRoot allWalked = some _ := rfl
  have hall := (drain_exact FileSystem.finite_ofTree rfl fromRoot_stack).2 allWalked _
    (by decide) hrun
  exact ⟨_, rfl, rfl, hall.2 rfl⟩

/-- **A directory whose type cannot be read costs all that is below it**: every
    `read_dir` and every `next_entry` succeeds, the stack is empty in the end, and the
    file `a/a` is not sent.  And where the call for `a/a` does not return, the drain takes
    no further step. -/
theorem fileA_not_sent_dirMissed :
    (∃ t, (system twoDirs (some (render []))).exec fromRoot allWalked = some t ∧
      t.task = .clear ∧ t.preCached = [fileA]) ∧
    (∃ m dir, (system twoDirs (some (render []))).exec fromRoot (allWalked.take 18) = some m ∧
      m.task = .sending dir ∧
      ∀ a, a.OfDrain → a ≠ .sendReturns → (system twoDirs (some (render []))).step m a = none) ∧
    (∀ a ∈ dirMissed, a ≠ .readDirFails ∧ a ≠ .nextEntryFails ∧ a ≠ .readFileFails) ∧
    ∃ m t, (system twoDirs (some (render []))).exec fromRoot (dirMissed.take 3) = some m ∧
      m.task = .fileType ⟨render [], [], [nameB]⟩ nameA ∧
      (system twoDirs (some (render []))).exec fromRoot dirMissed = some t ∧
      t.task = .clear ∧ t.stack = [] ∧ t.preCached = [] := by
  refine ⟨⟨_, rfl, rfl, rfl⟩, ⟨_, _, rfl, rfl, ?_⟩, by decide, _, _, rfl, rfl, rfl, rfl, rfl, rfl⟩
  intro a ha hreturns
  cases a with
  | sendReturns => exact absurd rfl hreturns
  | pop | readDir | readDirFails | nextEntry | nextEntryFails | fileType | fileTypeFails | readFile
  | readFileFails | sendAsset | pushEntry => rfl
  | _ => exact ha.elim

end AmbientProxy.PreCaching
