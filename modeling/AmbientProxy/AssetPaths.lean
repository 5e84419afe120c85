import AmbientProxy.Lib.FileTrees
import AmbientProxy.PreCaching

/-! # Where the assets come from — both routes to the disk

    The data of an asset is read from the disk in two places.  A request names a file
    by a key, which is joined to the assets directory, made canonical and compared;
    the pre-caching task compares the directory that it is given, and then walks the
    tree by itself:

        RequestAsset                     pre_cache_assets, then the task
        canonicalize(assets/key)         canonicalize(assets/directory)
        starts_with(assets)?             starts_with(assets)?
        read                             read_dir; for each entry, not through links:
                                           a file: read   a directory: once more

    * `sent_from_assets` — all that is sent is the content of a regular file whose
      canonical path begins with the assets directory;
    * `preCached_agrees` — a file that the task sends is what a request for its key
      gets, and no two files have one key.

    What the walk keeps is that each path it holds is the absolute path, without links,
    of what it stands for (`Walk`). -/

namespace AmbientProxy.PreCaching

open Transition UnixPath

variable {fs : FileSystem} {assetsArg assetsPath : Option Path} {s t : State} {a : Action}
  {acts : List Action}

/-- The assets directory is a canonical path, if it is set. -/
theorem canonical_of_connect {base : Path} (h : connectAssetsPath fs assetsArg = some (some base)) :
    ∃ assets, base = render assets ∧ fs.Canonical assets := by
  cases assetsArg with
  | none => cases h
  | some path =>
      obtain ⟨canonical, hcanonical, heq⟩ := Option.map_eq_some_iff.mp h
      cases heq
      exact FileSystem.canonicalize_eq_some hcanonical

/-- The canonical path of a node below the assets directory. -/
def Below (fs : FileSystem) (assetsPath : Option Path) (path : Path) : Prop :=
  ∃ assets names, assetsPath = some (render assets) ∧ path = render names ∧
    fs.Canonical names ∧ assets <+: names

/-- A directory below the assets directory, opened by its canonical path. -/
def OpenDir.Below (fs : FileSystem) (assetsPath : Option Path) (dir : OpenDir) : Prop :=
  ∃ assets, assetsPath = some (render assets) ∧ dir.path = render dir.names ∧
    fs.node dir.names = some .dir ∧ assets <+: dir.names

/-- A regular file below the assets directory, with its key and its content. -/
def PreCached.Below (fs : FileSystem) (assetsPath : Option Path) (file : PreCached) : Prop :=
  ∃ assets rest, assetsPath = some (render assets) ∧ rest ≠ [] ∧
    file.path = render (assets ++ rest) ∧ file.key.bytes = relative rest ∧
    fs.node (assets ++ rest) = some (.file file.data)

/-- What the task knows of the paths in its hands. -/
def Task.Walk (fs : FileSystem) (assetsPath : Option Path) : Task → Prop
  | .readDir path => Below fs assetsPath path
  | .nextEntry dir | .fileType dir _ | .sending dir => dir.Below fs assetsPath
  | .readFile dir entryPath key =>
      dir.Below fs assetsPath ∧ ∃ data, PreCached.Below fs assetsPath ⟨entryPath, key, data⟩
  | .sendAsset dir entryPath key data =>
      dir.Below fs assetsPath ∧ PreCached.Below fs assetsPath ⟨entryPath, key, data⟩
  | .pushEntry dir entryPath => dir.Below fs assetsPath ∧ Below fs assetsPath entryPath
  | _ => True

/-- Every path that is pushed, waits on the stack, or is walked is canonical and below
    the assets directory, and so is every file that has been sent. -/
structure Walk (fs : FileSystem) (assetsPath : Option Path) (s : State) : Prop where
  pushed : ∀ path, s.controller = .pushDirectory path → Below fs assetsPath path
  stack : ∀ path ∈ s.stack, Below fs assetsPath path
  task : s.task.Walk fs assetsPath
  preCached : ∀ file ∈ s.preCached, file.Below fs assetsPath
  requested : ∀ key data, (key, data) ∈ s.requested →
    ∃ base, assetsPath = some base ∧ loadAssetData fs base key.bytes = .ok data

theorem Walk.init : Walk fs assetsPath {} :=
  ⟨nofun, nofun, trivial, nofun, nofun⟩

/-! ## What the walk keeps -/

/-- The directory that `pre_cache_assets` lets through. -/
theorem below_of_checkDirectory {directory path : Path}
    (hbase : connectAssetsPath fs assetsArg = some assetsPath)
    (h : checkDirectory fs assetsPath directory = some path) : Below fs assetsPath path := by
  cases assetsPath with
  | none => cases h
  | some base =>
      rw [checkDirectory] at h
      split at h
      · cases h
      · rename_i canonical hcanonical
        split at h
        · rename_i hstarts
          cases h
          obtain ⟨assets, rfl, -⟩ := canonical_of_connect hbase
          obtain ⟨names, rfl, hnames⟩ := FileSystem.canonicalize_eq_some hcanonical
          exact ⟨assets, names, rfl, rfl, hnames, startsWith_render.mp hstarts⟩
        · cases h

/-- A canonical path opens the directory that it names. -/
theorem below_of_readDir {path : Path} {names : List Name} {entries : List Name}
    (hpath : Below fs assetsPath path) (h : fs.readDir path = some names) :
    OpenDir.Below fs assetsPath ⟨path, names, entries⟩ := by
  obtain ⟨assets, names', hassets, rfl, hcanonical, hunder⟩ := hpath
  obtain ⟨hresolve, hdir⟩ := FileSystem.readDir_eq_some h
  rw [FileSystem.resolve_render hcanonical] at hresolve
  cases hresolve
  exact ⟨assets, hassets, rfl, hdir, hunder⟩

/-- The path of an entry is the absolute path of the entry. -/
theorem OpenDir.entryPath_eq {dir : OpenDir} (hpath : dir.path = render dir.names) (entry : Name) :
    dir.entryPath entry = render (dir.names ++ [entry]) := by
  have hjoin := join_render dir.names (List.cons_ne_nil entry [])
  rw [relative_singleton] at hjoin
  rw [OpenDir.entryPath, hpath, hjoin]

/-- An entry has a key exactly if its path from the assets directory on is UTF-8, and
    that is the key. -/
theorem keyOf_eq_some_iff {assets rest : List Name} {key : Text} :
    keyOf (render assets) (render (assets ++ rest)) = some key ↔ key.bytes = relative rest := by
  rw [keyOf, stripPrefix_render, ← pathToKey_eq_ok_iff]
  dsimp only
  split
  · rename_i hkey
    rw [hkey, Option.some.injEq, Except.ok.injEq]
  · rename_i hkey
    rw [hkey]
    exact ⟨nofun, nofun⟩

/-- Where the task goes with an entry: to a file or a directory below the assets
    directory, for a link leads nowhere. -/
theorem walk_afterFileType {path : Path} {dir : OpenDir} {entry : Name}
    (hassets : assetsPath = some path) (hdir : dir.Below fs assetsPath) :
    (afterFileType path dir entry (fs.node (dir.names ++ [entry]))).Walk fs assetsPath := by
  have hdir' := hdir
  obtain ⟨assets, hassets', hpath, -, ⟨rest, hrest⟩⟩ := hdir'
  cases hassets.symm.trans hassets'
  have hnames : dir.names ++ [entry] = assets ++ (rest ++ [entry]) := by
    rw [← hrest, List.append_assoc]
  have hentry := dir.entryPath_eq hpath entry
  rcases afterFileType_cases (render assets) dir entry (fs.node (dir.names ++ [entry])) with
    h | ⟨hnode, h⟩ | ⟨data, key, hnode, hkey, h⟩
  · rw [h]
    exact hdir
  · rw [h]
    refine ⟨hdir, assets, dir.names ++ [entry], hassets', hentry, ?_, ?_⟩
    · exact FileSystem.canonical_of_dir hnode
    · rw [hnames]
      exact List.prefix_append _ _
  · rw [h]
    rw [hentry, hnames] at hkey
    refine ⟨hdir, data, assets, rest ++ [entry], hassets', List.concat_ne_nil entry rest,
      ?_, ?_, ?_⟩
    · rw [← hnames]
      exact hentry
    · exact keyOf_eq_some_iff.mp hkey
    · rw [← hnames]
      exact hnode

/-- What is read of a file on the walk is its content. -/
theorem below_of_read {entryPath : Path} {key : Text} {data data' : Bytes}
    (hfile : PreCached.Below fs assetsPath ⟨entryPath, key, data⟩)
    (h : fs.read entryPath = some data') :
    PreCached.Below fs assetsPath ⟨entryPath, key, data'⟩ := by
  have hfile' := hfile
  obtain ⟨assets, rest, -, -, hpath, -, hnode⟩ := hfile'
  have hpath : entryPath = render (assets ++ rest) := hpath
  rw [hpath, FileSystem.read_render hnode] at h
  cases h
  exact hfile

/-- A move of the task keeps to the walk. -/
theorem walk_of_moves {task task' : Task} (htask : task.Walk fs assetsPath)
    (h : Moves fs assetsPath s a task task') : task'.Walk fs assetsPath := by
  cases h with
  | opened hdir => exact below_of_readDir htask hdir
  | entry => exact htask
  | fileType hassets => exact walk_afterFileType hassets htask
  | fileTypeFails => exact htask
  | read hread =>
      obtain ⟨hdir, _, hfile⟩ := htask
      exact ⟨hdir, below_of_read hfile hread⟩
  | notRead _ | readFileFails => exact htask.1
  | _ => trivial

theorem Walk.step (hbase : connectAssetsPath fs assetsArg = some assetsPath)
    (hs : Walk fs assetsPath s) (h : (system fs assetsPath).step s a = some t) :
    Walk fs assetsPath t := by
  cases step_cases h with
  | moves ht hmove =>
      have htask := hs.task
      rw [ht] at htask
      exact ⟨hs.pushed, hs.stack, walk_of_moves htask hmove, hs.preCached, hs.requested⟩
  | checked _ hpath =>
      refine ⟨?_, hs.stack, hs.task, hs.preCached, hs.requested⟩
      intro path hc
      cases hc
      exact below_of_checkDirectory hbase hpath
  | rejected _ _ | notSent _ => exact hs
  | pushDirectory hc =>
      refine ⟨nofun, ?_, hs.task, hs.preCached, hs.requested⟩
      intro path hpath
      rcases List.mem_cons.mp hpath with rfl | hpath
      · exact hs.pushed path hc
      · exact hs.stack path hpath
  | testRequested _ | testStack _ =>
      refine ⟨?_, hs.stack, hs.task, hs.preCached, hs.requested⟩
      intro path hc
      simp only at hc
      split at hc <;> cases hc
  | allocateEndpoint _ | notStarted _ _ =>
      exact ⟨nofun, hs.stack, hs.task, hs.preCached, hs.requested⟩
  | startTask _ _ _ => exact ⟨nofun, hs.stack, trivial, hs.preCached, hs.requested⟩
  | taskStarts _ | deadlinePasses _ _ | clear _ =>
      exact ⟨hs.pushed, hs.stack, trivial, hs.preCached, hs.requested⟩
  | pollNotified _ =>
      refine ⟨hs.pushed, hs.stack, ?_, hs.preCached, hs.requested⟩
      dsimp only
      split <;> trivial
  | popped ht hstack =>
      rename_i path stack
      have hall := hs.stack
      rw [hstack] at hall
      refine ⟨hs.pushed, ?_, hall path List.mem_cons_self, hs.preCached, hs.requested⟩
      intro path' hpath
      exact hall path' (List.mem_cons_of_mem path hpath)
  | sendAsset ht =>
      have htask := hs.task
      rw [ht] at htask
      refine ⟨hs.pushed, hs.stack, htask.1, ?_, hs.requested⟩
      intro file hfile
      rcases List.mem_append.mp hfile with hfile | hfile
      · exact hs.preCached file hfile
      · cases List.mem_singleton.mp hfile
        exact htask.2
  | pushEntry ht =>
      have htask := hs.task
      rw [ht] at htask
      refine ⟨hs.pushed, ?_, htask.1, hs.preCached, hs.requested⟩
      intro path hpath
      rcases List.mem_cons.mp hpath with rfl | hpath
      · exact htask.2
      · exact hs.stack path hpath
  | allocation _ | notifyWaiters _ | tick =>
      exact ⟨hs.pushed, hs.stack, hs.task, hs.preCached, hs.requested⟩
  | sent _ hpath hdata =>
      refine ⟨hs.pushed, hs.stack, hs.task, hs.preCached, ?_⟩
      intro key data hmem
      rcases List.mem_append.mp hmem with hmem | hmem
      · exact hs.requested key data hmem
      · cases List.mem_singleton.mp hmem
        exact ⟨_, hpath, hdata⟩

theorem walk_of_exec (hbase : connectAssetsPath fs assetsArg = some assetsPath)
    (h : (system fs assetsPath).exec {} acts = some s) : Walk fs assetsPath s :=
  exec_invariant (fun hs hstep => hs.step hbase hstep) Walk.init h

/-! ## What is sent -/

/-- The content of the regular file whose canonical path is `path`, and begins with
    the components of `base`. -/
def FileBelow (fs : FileSystem) (base path : Path) (data : Bytes) : Prop :=
  fs.canonicalize path = some path ∧ startsWith path base = true ∧
    ∃ names, fs.resolve path = some names ∧ fs.node names = some (.file data)

theorem fileBelow_render {assets names : List Name} {data : Bytes} (hunder : assets <+: names)
    (hnode : fs.node names = some (.file data)) :
    FileBelow fs (render assets) (render names) data := by
  have hcanonical := FileSystem.canonical_of_file hnode
  refine ⟨FileSystem.canonicalize_render hcanonical, startsWith_render.mpr hunder, names, ?_, hnode⟩
  exact FileSystem.resolve_render hcanonical

/-- **Whatever the client sends is in the assets directory**: it is the content of a
    regular file whose canonical path begins with that of the directory.  A file of the
    pre-caching task is named by its canonical path, a requested one by its key. -/
theorem sent_from_assets (hbase : connectAssetsPath fs assetsArg = some assetsPath)
    (h : (system fs assetsPath).exec {} acts = some s) :
    (∀ file ∈ s.preCached,
      ∃ base, assetsPath = some base ∧ FileBelow fs base file.path file.data) ∧
    ∀ key data, (key, data) ∈ s.requested →
      ∃ base path, assetsPath = some base ∧ fs.canonicalize (join base key.bytes) = some path ∧
        FileBelow fs base path data := by
  have hs := walk_of_exec hbase h
  constructor
  · intro file hfile
    obtain ⟨assets, rest, hassets, -, hpath, -, hnode⟩ := hs.preCached file hfile
    refine ⟨render assets, hassets, ?_⟩
    rw [hpath]
    exact fileBelow_render (List.prefix_append assets rest) hnode
  · intro key data hmem
    obtain ⟨base, rfl, hdata⟩ := hs.requested key data hmem
    obtain ⟨assets, rfl, -⟩ := canonical_of_connect hbase
    obtain ⟨names, hcanonical, hunder, hnode⟩ := loadAssetData_eq_ok hdata
    exact ⟨render assets, render names, rfl, hcanonical, fileBelow_render hunder hnode⟩

/-- The name `c`. -/
def nameC : Name := ⟨[0x63], by decide, by decide, by decide, by decide, by decide⟩

/-- The assets directory `/a` holds two files, `a` and `b`, and a link `c`, which leads out
    of it to the file `/b`. -/
def leavingLink : FileSystem :=
  .ofTree ⟨[⟨[nameA], .dir⟩, ⟨[nameA, nameA], .file [0x07]⟩, ⟨[nameA, nameB], .file [0x08]⟩,
      ⟨[nameA, nameC], .symlink (render [nameB])⟩, ⟨[nameB], .file [0x09]⟩],
      by unfold List.NodupKeys; decide⟩
    (by decide)

/-- The link and the file `b` are requested; then the pre-caching task finds both files,
    and the link. -/
def bothRoutes : List Action :=
  [.requestAsset ⟨nameC.bytes, rfl, by decide⟩, .requestAsset Str.b,
    .allocation, .notifyWaiters, .preCacheAssets [], .pushDirectory, .testRequested,
    .allocateEndpoint, .testStack, .startTaskIfNeeded, .taskStarts, .testDeadline, .readAllocated,
    .pop, .readDir, .nextEntry, .fileType, .readFile, .sendAsset, .sendReturns, .nextEntry,
    .fileType, .readFile, .sendAsset, .sendReturns, .nextEntry, .fileType, .nextEntry, .pop]

/-- The files `a` and `b` in the assets directory. -/
def assetA : PreCached := ⟨render [nameA, nameA], ⟨nameA.bytes, by decide⟩, [0x07]⟩

def assetB : PreCached := ⟨render [nameA, nameB], ⟨nameB.bytes, by decide⟩, [0x08]⟩

theorem sent_from_assets_bothRoutes :
    ∃ s, (system leavingLink (some (render [nameA]))).exec {} bothRoutes = some s ∧
      s.preCached = [assetA, assetB] ∧ s.requested = [(Str.b, [0x08])] ∧
      (∀ file ∈ s.preCached, ∃ base, some (render [nameA]) = some base ∧
        FileBelow leavingLink base file.path file.data) ∧
      ∀ key data, (key, data) ∈ s.requested →
        ∃ base path, some (render [nameA]) = some base ∧
          leavingLink.canonicalize (join base key.bytes) = some path ∧
          FileBelow leavingLink base path data := by
  have hbase : connectAssetsPath leavingLink (some (render [nameA]))
      = some (some (render [nameA])) := rfl
  have hrun : (system leavingLink (some (render [nameA]))).exec {} bothRoutes = some _ := rfl
  exact ⟨_, rfl, rfl, rfl, sent_from_assets hbase hrun⟩

/-- **A pre-cached file is what a request for its key gets**, and two files with the
    same key are the same file. -/
theorem preCached_agrees (hbase : connectAssetsPath fs assetsArg = some assetsPath)
    (h : (system fs assetsPath).exec {} acts = some s) :
    (∀ file ∈ s.preCached, ∃ base, assetsPath = some base ∧
      loadAssetData fs base file.key.bytes = .ok file.data) ∧
    ∀ file ∈ s.preCached, ∀ file' ∈ s.preCached, file.key = file'.key → file.path = file'.path := by
  have hs := walk_of_exec hbase h
  constructor
  · intro file hfile
    obtain ⟨assets, rest, hassets, hne, -, hkey, hnode⟩ := hs.preCached file hfile
    refine ⟨render assets, hassets, ?_⟩
    rw [hkey]
    exact loadAssetData_relative hne hnode
  · intro file hfile file' hfile' hkeys
    obtain ⟨assets, rest, hassets, -, hpath, hkey, -⟩ := hs.preCached file hfile
    obtain ⟨assets', rest', hassets', -, hpath', hkey', -⟩ := hs.preCached file' hfile'
    have hsame : render assets = render assets' := Option.some.inj (hassets.symm.trans hassets')
    have hrest : relative rest = relative rest' := by
      rw [← hkey, ← hkey', hkeys]
    rw [hpath, hpath', render_injective hsame, relative_injective hrest]

theorem preCached_agrees_bothRoutes :
    (∃ base, some (render [nameA]) = some base ∧
      loadAssetData leavingLink base nameA.bytes = .ok [0x07]) ∧
    (∃ base, some (render [nameA]) = some base ∧
      loadAssetData leavingLink base nameB.bytes = .ok [0x08]) ∧
    assetA.key ≠ assetB.key := by
  have hbase : connectAssetsPath leavingLink (some (render [nameA]))
      = some (some (render [nameA])) := rfl
  have hrun : (system leavingLink (some (render [nameA]))).exec {} bothRoutes = some _ := rfl
  obtain ⟨hload, hkeys⟩ := preCached_agrees hbase hrun
  have hA : assetA ∈ [assetA, assetB] := List.mem_cons_self
  have hB : assetB ∈ [assetA, assetB] := List.mem_cons_of_mem assetA List.mem_cons_self
  refine ⟨hload assetA hA, hload assetB hB, fun hkey => ?_⟩
  have hpath := hkeys assetA hA assetB hB hkey
  revert hpath
  decide

end AmbientProxy.PreCaching
