import AmbientProxy.Lib.Codec
import AmbientProxy.Lib.FileSystem

/-! # Keys and paths of assets

    `src/paths.rs`: `load_asset_data` turns the key of an asset into a file below the
    assets directory and reads it; `path_to_key` turns the path of a file, relative
    to that directory, into a key.

    The file system is a parameter: it does not change while the client runs.

    * `loadAssetData_eq_ok` — only regular files below the assets directory are loaded;
    * `pathToKey_exact` — a key is the path without what does not name anything, and
      a path has none exactly if it is absolute, goes up, or is not UTF-8. -/

namespace AmbientProxy

open UnixPath

/-- The `anyhow` errors of `src/paths.rs`, each with its arguments. -/
inductive PathError where
  /-- An error of the file system, passed on. -/
  | io
  /-- `Asset path is outside of assets directory` -/
  | outsideAssets
  /-- `Failed to created key from the path: {:?}` -/
  | failedToCreateKey (path : Path)
  /-- `Parent directory is not allowed in the path: {:?}` -/
  | parentDirectory (path : Path)
  /-- `Path should be relative: {:?}` -/
  | notRelative (path : Path)
  deriving DecidableEq

/-- `load_asset_data`. -/
def loadAssetData (fs : FileSystem) (assetsPath key : Path) : Except PathError Bytes :=
  match fs.canonicalize (join assetsPath key) with
  | none => .error .io
  | some filePath =>
      if startsWith filePath assetsPath then
        match fs.read filePath with
        | none => .error .io
        | some data => .ok data
      else .error .outsideAssets

/-- A `String`. -/
structure Text where
  bytes : Bytes
  valid : validUtf8 bytes = true

namespace Text

def empty : Text := ⟨[], Str.empty.valid⟩

def append (s t : Text) : Text := ⟨s.bytes ++ t.bytes, validUtf8_append s.valid t.valid⟩

/-- The text `/`. -/
def slash : Text := ⟨[sep], by decide⟩

theorem ext {s t : Text} (h : s.bytes = t.bytes) : s = t := by
  obtain ⟨b, _⟩ := s
  obtain ⟨c, _⟩ := t
  cases h
  rfl

instance : DecidableEq Text := fun s t =>
  decidable_of_iff (s.bytes = t.bytes) ⟨Text.ext, congrArg Text.bytes⟩

end Text

/-- What `path_to_key` makes of one component. -/
def pushComponent (path : Path) (result : Text) : Component → Except PathError Text
  | .normal s =>
      let result := if result.bytes.isEmpty then result else result.append .slash
      if h : validUtf8 s = true then .ok (result.append ⟨s, h⟩)
      else .error (.failedToCreateKey path)
  | .parentDir => .error (.parentDirectory path)
  | .rootDir => .error (.notRelative path)
  | .curDir => .ok result

/-- `path_to_key`. -/
def pathToKey (path : Path) : Except PathError Text :=
  (components path).foldlM (pushComponent path) .empty

/-! ## Loading files -/

variable {fs : FileSystem} {names : List Name}

/-- What is loaded is the content of a regular file whose path without links begins
    with the assets directory. -/
theorem loadAssetData_eq_ok {assets : List Name} {key : Path} {data : Bytes}
    (h : loadAssetData fs (render assets) key = .ok data) :
    ∃ names, fs.canonicalize (join (render assets) key) = some (render names) ∧
      assets <+: names ∧ fs.node names = some (.file data) := by
  rw [loadAssetData] at h
  split at h
  · cases h
  · rename_i filePath hcanonical
    obtain ⟨names, rfl, hnames⟩ := FileSystem.canonicalize_eq_some hcanonical
    split at h
    · rename_i hstarts
      split at h
      · cases h
      · rename_i data' hread
        cases h
        obtain ⟨names', hresolve, hnode⟩ := FileSystem.read_eq_some hread
        rw [FileSystem.resolve_render hnames] at hresolve
        cases hresolve
        exact ⟨names, hcanonical, startsWith_render.mp hstarts, hnode⟩
    · cases h

/-- A file below the assets directory is loaded under its relative path. -/
theorem loadAssetData_relative {assets : List Name} {data : Bytes} (hne : names ≠ [])
    (h : fs.node (assets ++ names) = some (.file data)) :
    loadAssetData fs (render assets) (relative names) = .ok data := by
  rw [loadAssetData, join_render assets hne,
    FileSystem.canonicalize_render (FileSystem.canonical_of_file h)]
  simp only [startsWith_render.mpr (List.prefix_append assets names), if_true,
    FileSystem.read_render h]

/-! ## Keys of paths -/

variable {path p p' : Path} {acc next key key' : Text} {c : Component} {cs : List Component}
  {done ss : List Path}

/-- The components that `path_to_key` does not fail at. -/
def Taken : Component → Prop
  | .normal s => validUtf8 s = true
  | .parentDir => False
  | .rootDir => False
  | .curDir => True

theorem taken_of_pushComponent (h : pushComponent path acc c = .ok next) : Taken c := by
  cases c with
  | normal s =>
      rw [pushComponent] at h
      split at h
      · rename_i hs
        exact hs
      · cases h
  | parentDir => cases h
  | rootDir => cases h
  | curDir => trivial

/-- A component is pushed behind the names before it, with a separator where there
    are any: the result is empty only if none was pushed yet. -/
theorem pushComponent_of_taken (path : Path) (hdone : ∀ s ∈ done, s ≠ [])
    (hacc : acc.bytes = [sep].intercalate done) (h : Taken c) :
    ∃ next, pushComponent path acc c = .ok next ∧
      next.bytes = [sep].intercalate (done ++ c.normal?.toList) := by
  cases c with
  | normal s =>
      have hs : validUtf8 s = true := h
      rw [pushComponent]
      simp only [dif_pos hs]
      refine ⟨_, rfl, ?_⟩
      by_cases hnil : done = []
      · subst hnil
        have hempty : acc.bytes = [] := hacc
        simp [Text.append, Component.normal?, hempty]
      · have hfull : acc.bytes.isEmpty = false := by
          simpa [hacc] using intercalate_ne_nil hdone hnil
        show _ = [sep].intercalate (done ++ [s])
        rw [hfull, intercalate_append_cons _ _ hnil, ← hacc]
        simp [Text.append, Text.slash]
  | parentDir => exact h.elim
  | rootDir => exact h.elim
  | curDir =>
      refine ⟨acc, rfl, ?_⟩
      rw [hacc]
      simp [Component.normal?]

theorem taken_of_foldlM (h : cs.foldlM (pushComponent path) acc = .ok key) :
    ∀ c ∈ cs, Taken c := by
  induction cs generalizing acc with
  | nil => exact nofun
  | cons c cs ih =>
      rw [List.foldlM_cons] at h
      cases hpush : pushComponent path acc c with
      | error e =>
          rw [hpush] at h
          cases h
      | ok next =>
          rw [hpush] at h
          exact List.forall_mem_cons.mpr ⟨taken_of_pushComponent hpush, ih h⟩

/-- The names of the normal components are pushed one after the other. -/
theorem foldlM_of_taken (path : Path) (hdone : ∀ s ∈ done, s ≠ [])
    (hacc : acc.bytes = [sep].intercalate done) (hne : ∀ s, Component.normal s ∈ cs → s ≠ [])
    (h : ∀ c ∈ cs, Taken c) :
    ∃ key, cs.foldlM (pushComponent path) acc = .ok key ∧
      key.bytes = [sep].intercalate (done ++ cs.filterMap Component.normal?) := by
  induction cs generalizing done acc with
  | nil =>
      refine ⟨acc, rfl, ?_⟩
      rw [List.filterMap_nil, List.append_nil]
      exact hacc
  | cons c cs ih =>
      obtain ⟨hc, hcs⟩ := List.forall_mem_cons.mp h
      obtain ⟨next, hpush, hnext⟩ := pushComponent_of_taken path hdone hacc hc
      have hdone' : ∀ s ∈ done ++ c.normal?.toList, s ≠ [] := by
        intro s hs
        rcases List.mem_append.mp hs with hs | hs
        · exact hdone s hs
        · refine hne s ?_
          rw [← normal?_eq_some.mp (Option.mem_toList.mp hs)]
          exact List.mem_cons_self
      obtain ⟨key, hkey, hbytes⟩ :=
        ih hdone' hnext (fun s hs => hne s (List.mem_cons_of_mem c hs)) hcs
      refine ⟨key, ?_, ?_⟩
      · rw [List.foldlM_cons, hpush]
        exact hkey
      · rw [hbytes, List.append_assoc]
        congr 2
        cases c with
        | normal s => rfl
        | parentDir => rfl
        | rootDir => rfl
        | curDir => rfl

/-- A path whose components are all taken has a key: the names of the normal ones,
    one separator between any two. -/
theorem exists_pathToKey (h : ∀ c ∈ components p, Taken c) :
    ∃ key, pathToKey p = .ok key ∧ key.bytes = [sep].intercalate (normals p) := by
  have hne : ∀ s, Component.normal s ∈ components p → s ≠ [] := by
    intro s hs
    exact (isNormal_of_mem_normals (mem_normals.mpr hs)).ne_nil
  have hempty : Text.empty.bytes = [sep].intercalate [] := rfl
  exact foldlM_of_taken p (List.forall_mem_nil _) hempty hne h

/-- **A key is the names of the normal components**, and there is one exactly if all
    components are taken. -/
theorem pathToKey_eq_ok :
    pathToKey p = .ok key ↔
      (∀ c ∈ components p, Taken c) ∧ key.bytes = [sep].intercalate (normals p) := by
  constructor
  · intro h
    have htaken := taken_of_foldlM h
    obtain ⟨key', hkey', hbytes⟩ := exists_pathToKey htaken
    cases Except.ok.inj (hkey'.symm.trans h)
    exact ⟨htaken, hbytes⟩
  · rintro ⟨htaken, hkey⟩
    obtain ⟨key', hkey', hbytes⟩ := exists_pathToKey htaken
    rw [hkey', Text.ext (hbytes.trans hkey.symm)]

theorem forall_taken_iff :
    (∀ c ∈ components p, Taken c) ↔
      isAbsolute p = false ∧ Component.parentDir ∉ components p ∧
        ∀ s ∈ normals p, validUtf8 s = true := by
  constructor
  · intro h
    refine ⟨?_, fun hup => h _ hup, fun s hs => h _ (mem_normals.mp hs)⟩
    rw [Bool.eq_false_iff]
    exact fun habs => h _ (rootDir_mem_components.mpr habs)
  · rintro ⟨habs, hup, hvalid⟩ c hc
    cases c with
    | normal s => exact hvalid s (mem_normals.mpr hc)
    | parentDir => exact hup hc
    | rootDir =>
        rw [rootDir_mem_components.mp hc] at habs
        cases habs
    | curDir => trivial

/-- The names of a valid path are valid. -/
theorem valid_of_intercalate (h : validUtf8 ([sep].intercalate ss) = true) :
    ∀ s ∈ ss, validUtf8 s = true := by
  induction ss with
  | nil => exact nofun
  | cons s ss ih =>
      cases ss with
      | nil =>
          rw [List.intercalate_singleton] at h
          exact List.forall_mem_singleton.mpr h
      | cons t ss =>
          rw [List.intercalate_cons_cons, List.append_assoc, List.singleton_append] at h
          obtain ⟨hs, hrest⟩ := validUtf8_of_append_ascii (by decide) h
          exact List.forall_mem_cons.mpr ⟨hs, ih hrest⟩

/-- A path that has exactly these normal components, with one separator between any
    two, has a key exactly if it is UTF-8, and that is the path itself. -/
theorem pathToKey_intercalate (h : ∀ s ∈ ss, IsNormal s) :
    pathToKey ([sep].intercalate ss) = .ok key ↔ key.bytes = [sep].intercalate ss := by
  have hcomponents := components_intercalate h
  rw [pathToKey_eq_ok, normals_of_components hcomponents, hcomponents, and_iff_right_iff_imp]
  intro hkey c hc
  obtain ⟨s, hs, rfl⟩ := List.mem_map.mp hc
  exact valid_of_intercalate (hkey ▸ key.valid) s hs

/-- **A relative path of names has a key exactly if it is UTF-8**, and that is the
    path itself. -/
theorem pathToKey_eq_ok_iff :
    pathToKey (relative names) = .ok key ↔ key.bytes = relative names :=
  pathToKey_intercalate isNormal_of_mem_names

/-- The key of a path, read as a path, has the normal components of the path and no
    others. -/
theorem components_key (h : pathToKey p = .ok key) :
    components key.bytes = (normals p).map .normal := by
  rw [(pathToKey_eq_ok.mp h).2]
  exact components_intercalate fun s hs => isNormal_of_mem_normals hs

/-- A key is the key of itself. -/
theorem pathToKey_key (h : pathToKey p = .ok key) : pathToKey key.bytes = .ok key := by
  have hbytes := (pathToKey_eq_ok.mp h).2
  rw [hbytes, pathToKey_intercalate fun s hs => isNormal_of_mem_normals hs]
  exact hbytes

/-- Keys tell apart exactly the lists of normal components. -/
theorem key_eq_iff (h : pathToKey p = .ok key) (h' : pathToKey p' = .ok key') :
    key = key' ↔ normals p = normals p' := by
  constructor
  · rintro rfl
    rw [← normals_of_components (components_key h), ← normals_of_components (components_key h')]
  · intro hsame
    refine Text.ext ?_
    rw [(pathToKey_eq_ok.mp h).2, (pathToKey_eq_ok.mp h').2, hsame]

/-- **`path_to_key` normalises exactly.**  A path has a key if and only if it is
    relative, no component is `..` and all names are UTF-8; the key read back as a
    path has the same names and no other components, no separator is too many in it,
    it is its own key, and it is shared by exactly the paths with the same names. -/
theorem pathToKey_exact (p : Path) :
    ((∃ key, pathToKey p = .ok key) ↔
      isAbsolute p = false ∧ Component.parentDir ∉ components p ∧
        ∀ s ∈ normals p, validUtf8 s = true) ∧
    ∀ key, pathToKey p = .ok key →
      components key.bytes = (normals p).map .normal ∧ Tidy key.bytes ∧
      pathToKey key.bytes = .ok key ∧
      ∀ p' key', pathToKey p' = .ok key' → (key = key' ↔ normals p = normals p') := by
  constructor
  · rw [← forall_taken_iff]
    constructor
    · rintro ⟨key, hkey⟩
      exact (pathToKey_eq_ok.mp hkey).1
    · intro htaken
      obtain ⟨key, hkey, -⟩ := exists_pathToKey htaken
      exact ⟨key, hkey⟩
  · intro key hkey
    refine ⟨components_key hkey, ?_, pathToKey_key hkey, fun p' key' => key_eq_iff hkey⟩
    rw [(pathToKey_eq_ok.mp hkey).2]
    exact tidy_intercalate fun s hs => isNormal_of_mem_normals hs

/-- `./a//b/.` has the key `a/b`, which it shares with `a/./b`. -/
theorem pathToKey_exact_dotted :
    let key : Text := ⟨[0x61, sep, 0x62], rfl⟩
    let p : Path := [0x2e, sep, 0x61, sep, sep, 0x62, sep, 0x2e]
    let p' : Path := [0x61, sep, 0x2e, sep, 0x62]
    Tidy key.bytes ∧ pathToKey key.bytes = .ok key ∧ normals p = normals p' := by
  intro key p p'
  have hp : pathToKey p = .ok key := by decide
  have hp' : pathToKey p' = .ok key := by decide
  obtain ⟨-, htidy, hself, hsame⟩ := (pathToKey_exact p).2 key hp
  exact ⟨htidy, hself, (hsame p' key hp').mp rfl⟩

/-! ## A small file system -/

/-- The name `a`. -/
def nameA : Name := ⟨[0x61], by decide, by decide, by decide, by decide, by decide⟩

/-- The name `b`. -/
def nameB : Name := ⟨[0x62], by decide, by decide, by decide, by decide, by decide⟩

/-- The root directory and one file `a` in it, of one byte. -/
def oneFile : FileSystem where
  node names :=
    if names = [] then some .dir else if names = [nameA] then some (.file [0x07]) else none
  listing names := if names = [] then [nameA] else []
  cwd := []
  root := rfl
  parent := by
    intro d n h
    rw [if_neg (List.concat_ne_nil n d)] at h
    split at h
    · rename_i hname
      have hd : d = [] := by simpa using congrArg List.dropLast hname
      rw [hd, if_pos rfl]
    · cases h
  listing_nodup := by
    intro d
    split
    · exact List.nodup_cons.mpr ⟨List.not_mem_nil, List.nodup_nil⟩
    · exact List.nodup_nil
  mem_listing := by
    intro d n
    rw [if_neg (List.concat_ne_nil n d)]
    by_cases hd : d = []
    · subst hd
      by_cases hn : n = nameA
      · simp [hn]
      · simp [hn]
    · have hne : d ++ [n] ≠ [nameA] := by
        intro h
        exact hd (by simpa using congrArg List.dropLast h)
      simp [hd, hne]
  cwd_dir := rfl

-- the second key leads to the root itself, which is no file
example : loadAssetData oneFile (render []) [0x61] = .ok [0x07] := rfl
example : loadAssetData oneFile (render []) dotdot = .error .io := rfl

end AmbientProxy
