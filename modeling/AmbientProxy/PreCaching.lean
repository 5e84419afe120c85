import AmbientProxy.Lib.Notify
import AmbientProxy.Lib.Transition
import AmbientProxy.Paths

/-! # Assets on their way out of the client — pre-caching and requests

    `src/client.rs`: `ClientController::pre_cache_assets` puts directories on a stack,
    and a task that runs once at a time sends the files below them; the loop of
    `Client::start` sends the assets that the proxy requests.

        ClientController                 pre-caching task
        stack.push(path)                 wait for the allocation, 30 s at most
        running? return : running =      while let Some(path) = stack.pop() {
          true, spawn                      for entry in read_dir(path) { send it, or
                                           push it, or leave it } }
                                         running = false

    Every lock, every `await` and every call to the file system is a step of its own;
    a call to the file system may also fail.  A call of `send_store_asset_message` starts
    in one step and returns in another, which is the proxy's to let happen: it opens a
    stream, writes and finishes, each as far as the proxy lets it.  The file system does
    not change. -/

namespace AmbientProxy.PreCaching

open Transition Sync UnixPath

/-- What `Client::connect` makes of its `assets_path`. -/
def connectAssetsPath (fs : FileSystem) : Option Path → Option (Option Path)
  | none => some none
  | some path => (fs.canonicalize path).map some

/-- Where the `ClientController` is. -/
inductive Controller where
  | idle
  /-- `pre_cache_assets`: about to lock the stack. -/
  | pushDirectory (path : Path)
  /-- `pre_cache_assets`: about to read `allocation_requested`. -/
  | testRequested
  /-- `allocate_endpoint`: about to lock the stack. -/
  | testStack
  /-- About to lock the flag in `start_pre_caching_task_if_needed`. -/
  | startTask
  deriving DecidableEq

/-- A directory that is being listed: the path it was opened by, the node that this
    led to, and the entries still to come. -/
structure OpenDir where
  path : Path
  names : List Name
  entries : List Name
  deriving DecidableEq

/-- `entry.path()`. -/
def OpenDir.entryPath (dir : OpenDir) (entry : Name) : Path := join dir.path entry.bytes

/-- Where the pre-caching task is. -/
inductive Task where
  | notRunning
  /-- Spawned; about to compute its deadline. -/
  | started
  | testDeadline
  | readAllocated
  | createNotified
  /-- At the `select!`. -/
  | awaitNotified (future : Notified)
  /-- About to pop the stack. -/
  | pop
  | readDir (path : Path)
  | nextEntry (dir : OpenDir)
  | fileType (dir : OpenDir) (entry : Name)
  | readFile (dir : OpenDir) (entryPath : Path) (key : Text)
  | sendAsset (dir : OpenDir) (entryPath : Path) (key : Text) (data : Bytes)
  /-- In `send_store_asset_message`, which awaits the proxy. -/
  | sending (dir : OpenDir)
  | pushEntry (dir : OpenDir) (entryPath : Path)
  /-- About to clear the flag. -/
  | clear
  deriving DecidableEq

/-- Where the loop of `Client::start` is. -/
inductive ClientLoop where
  | select
  /-- `endpoint_allocated` is written; about to call `notify_waiters`. -/
  | notifyWaiters
  deriving DecidableEq

/-- One call of `send_store_asset_message` by the pre-caching task, for this file. -/
structure PreCached where
  path : Path
  key : Text
  data : Bytes
  deriving DecidableEq

/-- The controller, its task and the loop.  The stack has its top first; the last two
    fields record the calls of `send_store_asset_message`. -/
structure State where
  controller : Controller := .idle
  allocationRequested : Bool := false
  stack : List Path := []
  running : Bool := false
  endpointAllocated : Bool := false
  allocatedNotify : Notify Unit := {}
  task : Task := .notRunning
  deadline : Nat := 0
  now : Nat := 0
  loop : ClientLoop := .select
  preCached : List PreCached := []
  requested : List (Str × Bytes) := []

inductive Action where
  -- the controller
  | preCacheAssets (directory : Path)
  | pushDirectory
  | testRequested
  | allocateEndpoint
  | testStack
  | startTaskIfNeeded
  -- the pre-caching task
  | taskStarts
  | testDeadline
  | readAllocated
  | createNotified
  | pollNotified
  | deadlinePasses
  | pop
  | readDir
  | readDirFails
  | nextEntry
  | nextEntryFails
  | fileType
  | fileTypeFails
  | readFile
  | readFileFails
  | sendAsset
  /-- The call returns; an error is only logged. -/
  | sendReturns
  | pushEntry
  | clear
  -- the loop
  | allocation
  | notifyWaiters
  | requestAsset (key : Str)
  | tick
  deriving DecidableEq

/-- The check of `pre_cache_assets` on its argument. -/
def checkDirectory (fs : FileSystem) (assetsPath : Option Path) (directory : Path) : Option Path :=
  match assetsPath with
  | none => none
  | some assetsPath =>
      match fs.canonicalize (join assetsPath directory) with
      | none => none
      | some path => if startsWith path assetsPath then some path else none

/-- The key of a file that the pre-caching task found. -/
def keyOf (assetsPath entryPath : Path) : Option Text :=
  match stripPrefix entryPath assetsPath with
  | none => none
  | some keyPath =>
      match pathToKey keyPath with
      | .ok key => some key
      | .error _ => none

/-- Where the task goes with an entry of this type. -/
def afterFileType (assetsPath : Path) (dir : OpenDir) (entry : Name) : Option Node → Task
  | some (.file _) =>
      match keyOf assetsPath (dir.entryPath entry) with
      | some key => .readFile dir (dir.entryPath entry) key
      | none => .nextEntry dir
  | some .dir => .pushEntry dir (dir.entryPath entry)
  | _ => .nextEntry dir

/-- What each action does, where it is enabled. -/
def step (fs : FileSystem) (assetsPath : Option Path) (s : State) : Action → Option State
  | .preCacheAssets directory =>
      match s.controller with
      | .idle =>
          match checkDirectory fs assetsPath directory with
          | some path => some { s with controller := .pushDirectory path }
          | none => some s
      | _ => none
  | .pushDirectory =>
      match s.controller with
      | .pushDirectory path =>
          some { s with stack := path :: s.stack, controller := .testRequested }
      | _ => none
  | .testRequested =>
      match s.controller with
      | .testRequested =>
          some { s with controller := if s.allocationRequested then .startTask else .idle }
      | _ => none
  | .allocateEndpoint =>
      match s.controller with
      | .idle => some { s with allocationRequested := true, controller := .testStack }
      | _ => none
  | .testStack =>
      match s.controller with
      | .testStack => some { s with controller := if s.stack = [] then .idle else .startTask }
      | _ => none
  | .startTaskIfNeeded =>
      match s.controller with
      | .startTask =>
          if assetsPath.isNone ∨ s.running then some { s with controller := .idle }
          else some { s with controller := .idle, running := true, task := .started }
      | _ => none
  | .taskStarts =>
      match s.task with
      | .started => some { s with deadline := s.now + 30, task := .testDeadline }
      | _ => none
  | .testDeadline =>
      match s.task with
      | .testDeadline =>
          some { s with task := if s.now < s.deadline then .readAllocated else .clear }
      | _ => none
  | .readAllocated =>
      match s.task with
      | .readAllocated =>
          some { s with task := if s.endpointAllocated then .pop else .createNotified }
      | _ => none
  | .createNotified =>
      match s.task with
      | .createNotified => some { s with task := .awaitNotified s.allocatedNotify.notified }
      | _ => none
  | .pollNotified =>
      match s.task with
      | .awaitNotified future =>
          if future = .waiting ∧ s.allocatedNotify.ready () future = false then none
          else
            some { s with
              allocatedNotify := (s.allocatedNotify.poll () future).1
              task := match (s.allocatedNotify.poll () future).2 with
                | none => .testDeadline
                | some future => .awaitNotified future }
      | _ => none
  | .deadlinePasses =>
      match s.task with
      | .awaitNotified _ =>
          if s.now < s.deadline then none
          else some { s with allocatedNotify := s.allocatedNotify.remove (), task := .clear }
      | _ => none
  | .pop =>
      match s.task with
      | .pop =>
          match s.stack with
          | [] => some { s with task := .clear }
          | path :: stack => some { s with stack := stack, task := .readDir path }
      | _ => none
  | .readDir =>
      match s.task with
      | .readDir path =>
          match fs.readDir path with
          | some names => some { s with task := .nextEntry ⟨path, names, fs.listing names⟩ }
          | none => some { s with task := .clear }
      | _ => none
  | .readDirFails =>
      match s.task with
      | .readDir _ => some { s with task := .clear }
      | _ => none
  | .nextEntry =>
      match s.task with
      | .nextEntry ⟨path, names, entry :: entries⟩ =>
          some { s with task := .fileType ⟨path, names, entries⟩ entry }
      | .nextEntry ⟨_, _, []⟩ => some { s with task := .pop }
      | _ => none
  | .nextEntryFails =>
      match s.task with
      | .nextEntry _ => some { s with task := .clear }
      | _ => none
  | .fileType =>
      match s.task with
      | .fileType dir entry =>
          assetsPath.map fun assetsPath =>
            { s with task := afterFileType assetsPath dir entry (fs.node (dir.names ++ [entry])) }
      | _ => none
  | .fileTypeFails =>
      match s.task with
      | .fileType dir _ => some { s with task := .nextEntry dir }
      | _ => none
  | .readFile =>
      match s.task with
      | .readFile dir entryPath key =>
          some { s with task := match fs.read entryPath with
            | some data => .sendAsset dir entryPath key data
            | none => .nextEntry dir }
      | _ => none
  | .readFileFails =>
      match s.task with
      | .readFile dir _ _ => some { s with task := .nextEntry dir }
      | _ => none
  | .sendAsset =>
      match s.task with
      | .sendAsset dir entryPath key data =>
          some { s with
            preCached := s.preCached ++ [⟨entryPath, key, data⟩]
            task := .sending dir }
      | _ => none
  | .sendReturns =>
      match s.task with
      | .sending dir => some { s with task := .nextEntry dir }
      | _ => none
  | .pushEntry =>
      match s.task with
      | .pushEntry dir entryPath =>
          some { s with stack := entryPath :: s.stack, task := .nextEntry dir }
      | _ => none
  | .clear =>
      match s.task with
      | .clear => some { s with running := false, task := .notRunning }
      | _ => none
  | .allocation =>
      match s.loop with
      | .select => some { s with endpointAllocated := true, loop := .notifyWaiters }
      | _ => none
  | .notifyWaiters =>
      match s.loop with
      | .notifyWaiters =>
          some { s with allocatedNotify := s.allocatedNotify.notifyWaiters, loop := .select }
      | _ => none
  | .requestAsset key =>
      match s.loop with
      | .select =>
          match assetsPath with
          | none => some s
          | some assetsPath =>
              match loadAssetData fs assetsPath key.bytes with
              | .ok data => some { s with requested := s.requested ++ [(key, data)] }
              | .error _ => some s
      | _ => none
  | .tick => some { s with now := s.now + 1 }

/-- The client's side of the assets. -/
def system (fs : FileSystem) (assetsPath : Option Path) : System State Action where
  init := {}
  step := step fs assetsPath

/-! ## What one step can do -/

variable {fs : FileSystem} {assetsPath : Option Path} {s t : State} {a : Action}

/-- Where an entry leads the task. -/
theorem afterFileType_cases (path : Path) (dir : OpenDir) (entry : Name) (node : Option Node) :
    afterFileType path dir entry node = .nextEntry dir ∨
      (node = some .dir ∧
        afterFileType path dir entry node = .pushEntry dir (dir.entryPath entry)) ∨
      ∃ data key, node = some (.file data) ∧ keyOf path (dir.entryPath entry) = some key ∧
        afterFileType path dir entry node = .readFile dir (dir.entryPath entry) key := by
  cases node with
  | none => exact Or.inl rfl
  | some node =>
      cases node with
      | dir => exact Or.inr (Or.inl ⟨rfl, rfl⟩)
      | symlink _ | other => exact Or.inl rfl
      | file data =>
          cases hkey : keyOf path (dir.entryPath entry) with
          | none =>
              refine Or.inl ?_
              rw [afterFileType, hkey]
          | some key =>
              refine Or.inr (Or.inr ⟨data, key, rfl, rfl, ?_⟩)
              rw [afterFileType, hkey]

/-- A move of the pre-caching task that changes nothing else. -/
inductive Moves (fs : FileSystem) (assetsPath : Option Path) (s : State) :
    Action → Task → Task → Prop where
  | inTime (h : s.now < s.deadline) :
      Moves fs assetsPath s .testDeadline .testDeadline .readAllocated
  | late (h : s.deadline ≤ s.now) : Moves fs assetsPath s .testDeadline .testDeadline .clear
  | allocated (h : s.endpointAllocated = true) :
      Moves fs assetsPath s .readAllocated .readAllocated .pop
  | notAllocated (h : s.endpointAllocated = false) :
      Moves fs assetsPath s .readAllocated .readAllocated .createNotified
  | createNotified : Moves fs assetsPath s .createNotified .createNotified
      (.awaitNotified s.allocatedNotify.notified)
  | drained (h : s.stack = []) : Moves fs assetsPath s .pop .pop .clear
  | opened {path : Path} {names : List Name} (h : fs.readDir path = some names) :
      Moves fs assetsPath s .readDir (.readDir path) (.nextEntry ⟨path, names, fs.listing names⟩)
  | notOpened {path : Path} (h : fs.readDir path = none) :
      Moves fs assetsPath s .readDir (.readDir path) .clear
  | readDirFails {path : Path} : Moves fs assetsPath s .readDirFails (.readDir path) .clear
  | entry {path : Path} {names entries : List Name} {entry : Name} :
      Moves fs assetsPath s .nextEntry (.nextEntry ⟨path, names, entry :: entries⟩)
        (.fileType ⟨path, names, entries⟩ entry)
  | listed {path : Path} {names : List Name} :
      Moves fs assetsPath s .nextEntry (.nextEntry ⟨path, names, []⟩) .pop
  | nextEntryFails {dir : OpenDir} : Moves fs assetsPath s .nextEntryFails (.nextEntry dir) .clear
  | fileType {dir : OpenDir} {entry : Name} {path : Path} (h : assetsPath = some path) :
      Moves fs assetsPath s .fileType (.fileType dir entry)
        (afterFileType path dir entry (fs.node (dir.names ++ [entry])))
  | fileTypeFails {dir : OpenDir} {entry : Name} :
      Moves fs assetsPath s .fileTypeFails (.fileType dir entry) (.nextEntry dir)
  | read {dir : OpenDir} {entryPath : Path} {key : Text} {data : Bytes}
      (h : fs.read entryPath = some data) :
      Moves fs assetsPath s .readFile (.readFile dir entryPath key)
        (.sendAsset dir entryPath key data)
  | notRead {dir : OpenDir} {entryPath : Path} {key : Text} (h : fs.read entryPath = none) :
      Moves fs assetsPath s .readFile (.readFile dir entryPath key) (.nextEntry dir)
  | readFileFails {dir : OpenDir} {entryPath : Path} {key : Text} :
      Moves fs assetsPath s .readFileFails (.readFile dir entryPath key) (.nextEntry dir)
  | sendReturns {dir : OpenDir} : Moves fs assetsPath s .sendReturns (.sending dir) (.nextEntry dir)

/-- The steps of the system, each with all that it needs and all that it does. -/
inductive Step (fs : FileSystem) (assetsPath : Option Path) (s : State) :
    Action → State → Prop where
  | moves {a : Action} {task task' : Task} (ht : s.task = task)
      (hmove : Moves fs assetsPath s a task task') :
      Step fs assetsPath s a { s with task := task' }
  | checked {directory path : Path} (hc : s.controller = .idle)
      (hpath : checkDirectory fs assetsPath directory = some path) :
      Step fs assetsPath s (.preCacheAssets directory) { s with controller := .pushDirectory path }
  | rejected {directory : Path} (hc : s.controller = .idle)
      (hpath : checkDirectory fs assetsPath directory = none) :
      Step fs assetsPath s (.preCacheAssets directory) s
  | pushDirectory {path : Path} (hc : s.controller = .pushDirectory path) :
      Step fs assetsPath s .pushDirectory
        { s with stack := path :: s.stack, controller := .testRequested }
  | testRequested (hc : s.controller = .testRequested) :
      Step fs assetsPath s .testRequested
        { s with controller := if s.allocationRequested then .startTask else .idle }
  | allocateEndpoint (hc : s.controller = .idle) :
      Step fs assetsPath s .allocateEndpoint
        { s with allocationRequested := true, controller := .testStack }
  | testStack (hc : s.controller = .testStack) :
      Step fs assetsPath s .testStack
        { s with controller := if s.stack = [] then .idle else .startTask }
  | notStarted (hc : s.controller = .startTask) (hn : assetsPath.isNone ∨ s.running) :
      Step fs assetsPath s .startTaskIfNeeded { s with controller := .idle }
  | startTask (hc : s.controller = .startTask) (hpath : assetsPath.isSome)
      (hr : s.running = false) :
      Step fs assetsPath s .startTaskIfNeeded
        { s with controller := .idle, running := true, task := .started }
  | taskStarts (ht : s.task = .started) :
      Step fs assetsPath s .taskStarts { s with deadline := s.now + 30, task := .testDeadline }
  | pollNotified {future : Notified} (ht : s.task = .awaitNotified future) :
      Step fs assetsPath s .pollNotified { s with
        allocatedNotify := (s.allocatedNotify.poll () future).1
        task := match (s.allocatedNotify.poll () future).2 with
          | none => .testDeadline
          | some future => .awaitNotified future }
  | deadlinePasses {future : Notified} (ht : s.task = .awaitNotified future)
      (hnow : s.deadline ≤ s.now) :
      Step fs assetsPath s .deadlinePasses
        { s with allocatedNotify := s.allocatedNotify.remove (), task := .clear }
  | popped {path : Path} {stack : List Path} (ht : s.task = .pop)
      (hstack : s.stack = path :: stack) :
      Step fs assetsPath s .pop { s with stack := stack, task := .readDir path }
  | sendAsset {dir : OpenDir} {entryPath : Path} {key : Text} {data : Bytes}
      (ht : s.task = .sendAsset dir entryPath key data) :
      Step fs assetsPath s .sendAsset
        { s with preCached := s.preCached ++ [⟨entryPath, key, data⟩], task := .sending dir }
  | pushEntry {dir : OpenDir} {entryPath : Path} (ht : s.task = .pushEntry dir entryPath) :
      Step fs assetsPath s .pushEntry
        { s with stack := entryPath :: s.stack, task := .nextEntry dir }
  | clear (ht : s.task = .clear) :
      Step fs assetsPath s .clear { s with running := false, task := .notRunning }
  | allocation (hl : s.loop = .select) :
      Step fs assetsPath s .allocation { s with endpointAllocated := true, loop := .notifyWaiters }
  | notifyWaiters (hl : s.loop = .notifyWaiters) :
      Step fs assetsPath s .notifyWaiters
        { s with allocatedNotify := s.allocatedNotify.notifyWaiters, loop := .select }
  | sent {key : Str} {path : Path} {data : Bytes} (hl : s.loop = .select)
      (hpath : assetsPath = some path) (hdata : loadAssetData fs path key.bytes = .ok data) :
      Step fs assetsPath s (.requestAsset key) { s with requested := s.requested ++ [(key, data)] }
  | notSent {key : Str} (hl : s.loop = .select) : Step fs assetsPath s (.requestAsset key) s
  | tick : Step fs assetsPath s .tick { s with now := s.now + 1 }

theorem step_cases (h : (system fs assetsPath).step s a = some t) : Step fs assetsPath s a t := by
  change PreCaching.step fs assetsPath s a = some t at h
  cases a with
  | preCacheAssets directory =>
      rw [PreCaching.step] at h
      split at h
      · rename_i hc
        split at h
        · rename_i hpath
          cases h
          exact .checked hc hpath
        · rename_i hpath
          cases h
          exact .rejected hc hpath
      · cases h
  | pushDirectory =>
      rw [PreCaching.step] at h
      split at h
      · rename_i hc
        cases h
        exact .pushDirectory hc
      · cases h
  | testRequested =>
      rw [PreCaching.step] at h
      split at h
      · rename_i hc
        cases h
        exact .testRequested hc
      · cases h
  | allocateEndpoint =>
      rw [PreCaching.step] at h
      split at h
      · rename_i hc
        cases h
        exact .allocateEndpoint hc
      · cases h
  | testStack =>
      rw [PreCaching.step] at h
      split at h
      · rename_i hc
        cases h
        exact .testStack hc
      · cases h
  | startTaskIfNeeded =>
      rw [PreCaching.step] at h
      split at h
      · rename_i hc
        split at h
        · rename_i hn
          cases h
          exact .notStarted hc hn
        · rename_i hn
          cases h
          obtain ⟨hpath, hr⟩ := not_or.mp hn
          exact .startTask hc (by simpa [Option.isSome_iff_ne_none] using hpath) (by simpa using hr)
      · cases h
  | taskStarts =>
      rw [PreCaching.step] at h
      split at h
      · rename_i ht
        cases h
        exact .taskStarts ht
      · cases h
  | testDeadline =>
      rw [PreCaching.step] at h
      split at h
      · rename_i ht
        cases h
        split
        · rename_i hnow
          exact .moves ht (.inTime hnow)
        · rename_i hnow
          exact .moves ht (.late (Nat.le_of_not_lt hnow))
      · cases h
  | readAllocated =>
      rw [PreCaching.step] at h
      split at h
      · rename_i ht
        cases h
        split
        · rename_i hallocated
          exact .moves ht (.allocated hallocated)
        · rename_i hallocated
          exact .moves ht (.notAllocated (by simpa using hallocated))
      · cases h
  | createNotified =>
      rw [PreCaching.step] at h
      split at h
      · rename_i ht
        cases h
        exact .moves ht .createNotified
      · cases h
  | pollNotified =>
      rw [PreCaching.step] at h
      split at h
      · rename_i ht
        split at h
        · cases h
        · cases h
          exact .pollNotified ht
      · cases h
  | deadlinePasses =>
      rw [PreCaching.step] at h
      split at h
      · rename_i ht
        split at h
        · cases h
        · rename_i hnow
          cases h
          exact .deadlinePasses ht (Nat.le_of_not_lt hnow)
      · cases h
  | pop =>
      rw [PreCaching.step] at h
      split at h
      · rename_i ht
        split at h
        · rename_i hstack
          cases h
          exact .moves ht (.drained hstack)
        · rename_i hstack
          cases h
          exact .popped ht hstack
      · cases h
  | readDir =>
      rw [PreCaching.step] at h
      split at h
      · rename_i ht
        split at h
        · rename_i hdir
          cases h
          exact .moves ht (.opened hdir)
        · rename_i hdir
          cases h
          exact .moves ht (.notOpened hdir)
      · cases h
  | readDirFails =>
      rw [PreCaching.step] at h
      split at h
      · rename_i ht
        cases h
        exact .moves ht .readDirFails
      · cases h
  | nextEntry =>
      rw [PreCaching.step] at h
      split at h
      · rename_i ht
        cases h
        exact .moves ht .entry
      · rename_i ht
        cases h
        exact .moves ht .listed
      · cases h
  | nextEntryFails =>
      rw [PreCaching.step] at h
      split at h
      · rename_i ht
        cases h
        exact .moves ht .nextEntryFails
      · cases h
  | fileType =>
      rw [PreCaching.step] at h
      split at h
      · rename_i ht
        obtain ⟨path, hpath, rfl⟩ := Option.map_eq_some_iff.mp h
        exact .moves ht (.fileType hpath)
      · cases h
  | fileTypeFails =>
      rw [PreCaching.step] at h
      split at h
      · rename_i ht
        cases h
        exact .moves ht .fileTypeFails
      · cases h
  | readFile =>
      rw [PreCaching.step] at h
      split at h
      · rename_i dir entryPath key ht
        cases h
        cases hread : fs.read entryPath with
        | some data => exact .moves ht (.read hread)
        | none => exact .moves ht (.notRead hread)
      · cases h
  | readFileFails =>
      rw [PreCaching.step] at h
      split at h
      · rename_i ht
        cases h
        exact .moves ht .readFileFails
      · cases h
  | sendAsset =>
      rw [PreCaching.step] at h
      split at h
      · rename_i ht
        cases h
        exact .sendAsset ht
      · cases h
  | sendReturns =>
      rw [PreCaching.step] at h
      split at h
      · rename_i ht
        cases h
        exact .moves ht .sendReturns
      · cases h
  | pushEntry =>
      rw [PreCaching.step] at h
      split at h
      · rename_i ht
        cases h
        exact .pushEntry ht
      · cases h
  | clear =>
      rw [PreCaching.step] at h
      split at h
      · rename_i ht
        cases h
        exact .clear ht
      · cases h
  | allocation =>
      rw [PreCaching.step] at h
      split at h
      · rename_i hl
        cases h
        exact .allocation hl
      · cases h
  | notifyWaiters =>
      rw [PreCaching.step] at h
      split at h
      · rename_i hl
        cases h
        exact .notifyWaiters hl
      · cases h
  | requestAsset key =>
      simp only [PreCaching.step] at h
      split at h
      · rename_i hl
        split at h
        · cases h
          exact .notSent hl
        · split at h
          · rename_i hdata
            cases h
            exact .sent hl rfl hdata
          · cases h
            exact .notSent hl
      · cases h
  | tick =>
      cases h
      exact .tick

end AmbientProxy.PreCaching
