import AmbientProxy.Lib.UnixPath
import Mathlib.Data.List.Induction

/-! # File systems — named nodes, and where a path leads

    A file system that nobody changes, as the calls of a program see it: directories,
    regular files, symbolic links to any path, and other nodes.  A node is named by
    the list of names that leads to it from the root without a link.

    * `resolve` follows a path as the kernel does, segment by segment: a link
      goes on at its target, from the root where that is absolute, and at most
      `MAXSYMLINKS` links are followed, so links in a cycle are an error;
    * `canonicalize`, `read` and `readDir` are what programs call.

    What resolves is free of links (`canonical_resolve`), and the absolute path of a
    node that is not a link leads to it (`resolve_render`). -/

open UnixPath

/-- What a name can stand for. -/
inductive Node where
  | file (data : List UInt8)
  | dir
  | symlink (target : Path)
  | other
  deriving DecidableEq

/-- A file system: its nodes, the order in which a directory is listed, and the
    working directory of the program. -/
structure FileSystem where
  node : List Name → Option Node
  listing : List Name → List Name
  cwd : List Name
  root : node [] = some .dir
  parent : ∀ {d n}, (node (d ++ [n])).isSome = true → node d = some .dir
  listing_nodup : ∀ d, (listing d).Nodup
  mem_listing : ∀ {d n}, n ∈ listing d ↔ (node (d ++ [n])).isSome = true
  cwd_dir : node cwd = some .dir

namespace FileSystem

/-- How many links one path may lead through. -/
def MAXSYMLINKS : Nat := 40

variable (fs : FileSystem)

/-- Follow segments from a node on, where `follow` takes over at a link. -/
def walk (follow : List Name → List Path → Option (List Name)) :
    List Name → List Path → Option (List Name)
  | cur, [] => some cur
  | cur, s :: rest =>
      if fs.node cur ≠ some .dir then none
      else if s = [] ∨ s = dot then walk follow cur rest
      else if s = dotdot then walk follow cur.dropLast rest
      else
        match Name.ofBytes s with
        | none => none
        | some n =>
            match fs.node (cur ++ [n]) with
            | none => none
            | some (.symlink target) =>
                follow (if isAbsolute target then [] else cur) (segments target ++ rest)
            | some _ => walk follow (cur ++ [n]) rest

/-- Follow segments from a node on, through at most so many links. -/
def resolveFrom : Nat → List Name → List Path → Option (List Name)
  | 0 => fs.walk fun _ _ => none
  | links + 1 => fs.walk (resolveFrom links)

/-- The node that a path leads to. -/
def resolve (p : Path) : Option (List Name) :=
  if p = [] then none
  else fs.resolveFrom MAXSYMLINKS (if isAbsolute p then [] else fs.cwd) (segments p)

/-- `canonicalize`: the absolute path without links. -/
def canonicalize (p : Path) : Option Path := (fs.resolve p).map render

/-- `read`: the content of a regular file. -/
def read (p : Path) : Option (List UInt8) :=
  match (fs.resolve p).bind fs.node with
  | some (.file data) => some data
  | _ => none

/-- `read_dir`: the directory that is opened. -/
def readDir (p : Path) : Option (List Name) :=
  (fs.resolve p).filter fun d => fs.node d = some .dir

/-- Some node stands there, and it is not a link. -/
def Canonical (names : List Name) : Prop :=
  ∃ node, fs.node names = some node ∧ ∀ target, node ≠ .symlink target

variable {fs} {names names' cur : List Name} {n : Name}

theorem canonical_of_dir (h : fs.node names = some .dir) : fs.Canonical names :=
  ⟨.dir, h, nofun⟩

theorem canonical_of_file {data : List UInt8} (h : fs.node names = some (.file data)) :
    fs.Canonical names :=
  ⟨.file data, h, nofun⟩

/-- What is above a node is a directory. -/
theorem node_of_append (hne : names' ≠ []) (h : (fs.node (names ++ names')).isSome = true) :
    fs.node names = some .dir := by
  induction names' using List.reverseRecOn with
  | nil => exact absurd rfl hne
  | append_singleton rest n ih =>
      rw [← List.append_assoc] at h
      have hparent := fs.parent h
      by_cases hrest : rest = []
      · rw [hrest, List.append_nil] at hparent
        exact hparent
      · exact ih hrest (by rw [hparent]; rfl)

/-- The parent of a directory is a directory, and so is the root's, itself. -/
theorem node_dropLast (h : fs.node names = some .dir) : fs.node names.dropLast = some .dir := by
  induction names using List.reverseRecOn with
  | nil => exact h
  | append_singleton rest n _ =>
      rw [List.dropLast_concat]
      exact fs.parent (by rw [h]; rfl)

/-! ## What a path leads to -/

/-- A walk ends where no link is, if each continuation at a link does. -/
theorem canonical_walk {follow : List Name → List Path → Option (List Name)}
    (hfollow : ∀ {cur segs names}, fs.Canonical cur → follow cur segs = some names →
      fs.Canonical names) {segs : List Path} (hcur : fs.Canonical cur)
    (h : fs.walk follow cur segs = some names) : fs.Canonical names := by
  induction segs generalizing cur with
  | nil =>
      cases h
      exact hcur
  | cons s rest ih =>
      rw [walk] at h
      split at h
      · cases h
      · rename_i hdir
        rw [not_not] at hdir
        split at h
        · exact ih hcur h
        · split at h
          · exact ih (canonical_of_dir (node_dropLast hdir)) h
          · cases hname : Name.ofBytes s with
            | none =>
                rw [hname] at h
                cases h
            | some n =>
                simp only [hname] at h
                cases hnode : fs.node (cur ++ [n]) with
                | none =>
                    rw [hnode] at h
                    cases h
                | some node =>
                    cases node with
                    | symlink target =>
                        simp only [hnode] at h
                        refine hfollow ?_ h
                        split
                        · exact canonical_of_dir fs.root
                        · exact hcur
                    | file _ | dir | other =>
                        simp only [hnode] at h
                        have hnext : fs.Canonical (cur ++ [n]) := ⟨_, hnode, nofun⟩
                        exact ih hnext h

theorem canonical_resolveFrom {links : Nat} {segs : List Path} (hcur : fs.Canonical cur)
    (h : fs.resolveFrom links cur segs = some names) : fs.Canonical names := by
  induction links generalizing cur segs names with
  | zero =>
      refine canonical_walk ?_ hcur h
      intro _ _ _ _ hnone
      cases hnone
  | succ links ih => exact canonical_walk ih hcur h

/-- **What a path leads to is not a link.** -/
theorem canonical_resolve {p : Path} (h : fs.resolve p = some names) : fs.Canonical names := by
  rw [resolve] at h
  split at h
  · cases h
  · refine canonical_resolveFrom ?_ h
    split
    · exact canonical_of_dir fs.root
    · exact canonical_of_dir fs.cwd_dir

/-- A walk along names that are no links ends below them. -/
theorem walk_names {follow : List Name → List Path → Option (List Name)}
    (h : fs.Canonical (cur ++ names)) :
    fs.walk follow cur (names.map Name.bytes) = some (cur ++ names) := by
  induction names generalizing cur with
  | nil =>
      rw [List.append_nil]
      rfl
  | cons n names ih =>
      obtain ⟨node, hnode, hlink⟩ := h
      have hdir : fs.node cur = some .dir :=
        node_of_append (List.cons_ne_nil n names) (by rw [hnode]; rfl)
      have hsplit : cur ++ n :: names = cur ++ [n] ++ names := by simp
      have hnext : ∃ next, fs.node (cur ++ [n]) = some next ∧ ∀ target, next ≠ .symlink target := by
        by_cases hnil : names = []
        · subst hnil
          exact ⟨node, hnode, hlink⟩
        · refine canonical_of_dir (node_of_append hnil ?_)
          rw [← hsplit, hnode]
          rfl
      obtain ⟨next, hnext, hnolink⟩ := hnext
      have hrest : fs.walk follow (cur ++ [n]) (names.map Name.bytes)
          = some (cur ++ [n] ++ names) :=
        ih ⟨node, hsplit ▸ hnode, hlink⟩
      rw [List.map_cons, walk, if_neg (not_not.mpr hdir),
        if_neg (not_or.mpr ⟨n.ne_nil, n.ne_dot⟩), if_neg n.ne_dotdot, Name.ofBytes_bytes]
      simp only [hnext]
      rw [hrest, hsplit]

/-- An empty segment stays where it is. -/
theorem walk_nil_cons {follow : List Name → List Path → Option (List Name)} {segs : List Path}
    (h : fs.node cur = some .dir) :
    fs.walk follow cur ([] :: segs) = fs.walk follow cur segs := by
  rw [walk, if_neg (not_not.mpr h), if_pos (Or.inl rfl)]

/-- **The absolute path of a node that is not a link leads to it.** -/
theorem resolve_render (h : fs.Canonical names) : fs.resolve (render names) = some names := by
  have hwalk : ∀ follow, fs.walk follow [] (segments (render names)) = some names := by
    intro follow
    rw [segments_render, walk_nil_cons fs.root]
    split
    · rename_i hnil
      rw [walk_nil_cons fs.root, hnil]
      rfl
    · have hnames : fs.Canonical ([] ++ names) := h
      exact walk_names hnames
  rw [resolve, if_neg nofun, isAbsolute_render, if_pos rfl]
  exact hwalk _

/-- `canonicalize` is the identity on absolute paths without links. -/
theorem canonicalize_render (h : fs.Canonical names) :
    fs.canonicalize (render names) = some (render names) := by
  rw [canonicalize, resolve_render h]
  rfl

/-- What `canonicalize` returns is the absolute path of a node that is not a link. -/
theorem canonicalize_eq_some {p q : Path} (h : fs.canonicalize p = some q) :
    ∃ names, q = render names ∧ fs.Canonical names := by
  obtain ⟨names, hnames, rfl⟩ := Option.map_eq_some_iff.mp h
  exact ⟨names, rfl, canonical_resolve hnames⟩

theorem read_render {data : List UInt8} (h : fs.node names = some (.file data)) :
    fs.read (render names) = some data := by
  rw [read, resolve_render (canonical_of_file h), Option.bind_some, h]

/-- What is read is the content of the regular file that the path leads to. -/
theorem read_eq_some {p : Path} {data : List UInt8} (h : fs.read p = some data) :
    ∃ names, fs.resolve p = some names ∧ fs.node names = some (.file data) := by
  rw [read] at h
  split at h
  · rename_i data' hnode
    cases h
    exact Option.bind_eq_some_iff.mp hnode
  · cases h

theorem readDir_eq_some {p : Path} {d : List Name} (h : fs.readDir p = some d) :
    fs.resolve p = some d ∧ fs.node d = some .dir := by
  obtain ⟨hd, hnode⟩ := Option.filter_eq_some_iff.mp h
  exact ⟨hd, of_decide_eq_true hnode⟩

theorem readDir_render (h : fs.node names = some .dir) :
    fs.readDir (render names) = some names := by
  rw [readDir, resolve_render (canonical_of_dir h)]
  exact Option.filter_some_pos (decide_eq_true h)

end FileSystem
