import Mathlib.Data.List.Basic

/-! # Unix paths — bytes, components, and names

    A path is a string of bytes.  Programs take it apart into COMPONENTS, put paths
    together with `join` and compare them component by component; the kernel takes
    it apart into the SEGMENTS between the separators.

    * `components` leaves out empty segments and all `.` but one that the path
      begins with; `join` replaces the base by an absolute path; `startsWith` and
      `stripPrefix` compare whole components;
    * `normals` are the components that are neither of these nor `..`; written with
      one separator between any two they are a `Tidy` path with exactly these
      components: `components_intercalate`, `tidy_intercalate`;
    * a `Name` is what a directory entry can be called, and `render` writes the
      absolute path of a list of names.

    The rendered paths are where all of these agree: `components_render`,
    `startsWith_render`, `stripPrefix_render`, `join_render`. -/

namespace UnixPath

/-- A path, or a part of one. -/
abbrev Path := List UInt8

/-- The separator `/`. -/
def sep : UInt8 := 0x2f

/-- The segment `.`. -/
def dot : Path := [0x2e]

/-- The segment `..`. -/
def dotdot : Path := [0x2e, 0x2e]

inductive Component where
  | rootDir
  | curDir
  | parentDir
  | normal (name : Path)
  deriving DecidableEq, Repr

/-- The parts between the separators. -/
def segments (p : Path) : List Path := p.splitOn sep

def isAbsolute (p : Path) : Bool := p.head? = some sep

/-- The component that a segment stands for, after the first. -/
def ofSegment (s : Path) : Option Component :=
  if s = [] ∨ s = dot then none
  else if s = dotdot then some .parentDir
  else some (.normal s)

/-- The components of a path. -/
def components (p : Path) : List Component :=
  (if isAbsolute p then [.rootDir] else if (segments p).head? = some dot then [.curDir] else [])
    ++ (segments p).filterMap ofSegment

/-- Go from `base` to `p`. -/
def join (base p : Path) : Path :=
  if isAbsolute p then p
  else if base = [] ∨ base.getLast? = some sep then base ++ p
  else base ++ sep :: p

/-- The components of `base` come first. -/
def startsWith (p base : Path) : Bool := (components base).isPrefixOf (components p)

/-- How a component is written. -/
def Component.bytes : Component → Path
  | .rootDir => []
  | .curDir => dot
  | .parentDir => dotdot
  | .normal name => name

/-- A path with these components, without a separator too many. -/
def ofComponents : List Component → Path
  | .rootDir :: cs => sep :: [sep].intercalate (cs.map Component.bytes)
  | cs => [sep].intercalate (cs.map Component.bytes)

/-- What is left of `p` after the components of `base`. -/
def stripPrefix (p base : Path) : Option Path :=
  if startsWith p base then some (ofComponents ((components p).drop (components base).length))
  else none

/-! ## Segments -/

theorem segments_of_not_mem {p : Path} (h : sep ∉ p) : segments p = [p] :=
  List.splitOn_eq_singleton h

theorem segments_append_cons_sep (p q : Path) :
    segments (p ++ sep :: q) = segments p ++ segments q :=
  List.splitOn_append_cons_self p q

theorem segments_cons_sep (p : Path) : segments (sep :: p) = [] :: segments p :=
  segments_append_cons_sep [] p

/-- There is no separator within a segment. -/
theorem sep_not_mem_of_mem_segments {p s : Path} (h : s ∈ segments p) : sep ∉ s := by
  induction hlen : p.length using Nat.strongRecOn generalizing p with
  | _ n ih =>
      by_cases hsep : sep ∈ p
      · -- the first segment ends at the first separator
        obtain ⟨first, rest, rfl, hfirst⟩ := List.eq_append_cons_of_mem hsep
        rw [segments_append_cons_sep, List.mem_append, segments_of_not_mem hfirst,
          List.mem_singleton] at h
        rcases h with rfl | h
        · exact hfirst
        · refine ih rest.length ?_ h rfl
          rw [← hlen, List.length_append, List.length_cons]
          omega
      · rw [segments_of_not_mem hsep, List.mem_singleton] at h
        rw [h]
        exact hsep

/-- No separator is at the beginning, at the end, or next to another one. -/
structure Tidy (p : Path) : Prop where
  head : p.head? ≠ some sep
  last : p.getLast? ≠ some sep
  doubled : ¬ [sep, sep] <:+: p

/-- A separator too many is an empty segment. -/
theorem tidy_of_not_mem {p : Path} (h : [] ∉ segments p) : Tidy p := by
  constructor
  · intro hhead
    obtain ⟨q, rfl⟩ := List.head?_eq_some_iff.mp hhead
    rw [segments_cons_sep] at h
    exact h List.mem_cons_self
  · intro hlast
    obtain ⟨q, rfl⟩ := List.getLast?_eq_some_iff.mp hlast
    rw [segments_append_cons_sep] at h
    exact h (List.mem_append_right _ List.mem_cons_self)
  · rintro ⟨a, b, rfl⟩
    rw [List.append_assoc] at h
    show False
    have hsegments : segments (a ++ sep :: (sep :: b)) = segments a ++ [] :: segments b := by
      rw [segments_append_cons_sep, segments_cons_sep]
    exact h (hsegments ▸ List.mem_append_right _ List.mem_cons_self)

/-! ## Normal components -/

/-- The name of a normal component. -/
def Component.normal? : Component → Option Path
  | .normal name => some name
  | .rootDir => none
  | .curDir => none
  | .parentDir => none

/-- The names of the normal components, in order. -/
def normals (p : Path) : List Path := (components p).filterMap Component.normal?

/-- What a normal component can be called. -/
structure IsNormal (s : Path) : Prop where
  ne_nil : s ≠ []
  not_sep : sep ∉ s
  ne_dot : s ≠ dot
  ne_dotdot : s ≠ dotdot

variable {p s : Path} {ss : List Path}

theorem normal?_eq_some {c : Component} : c.normal? = some s ↔ c = .normal s := by
  cases c <;> simp [Component.normal?]

theorem mem_normals : s ∈ normals p ↔ Component.normal s ∈ components p := by
  rw [normals, List.mem_filterMap]
  constructor
  · rintro ⟨c, hc, hs⟩
    rw [← normal?_eq_some.mp hs]
    exact hc
  · intro h
    exact ⟨.normal s, h, rfl⟩

theorem normals_of_components (h : components p = ss.map .normal) : normals p = ss := by
  rw [normals, h, List.filterMap_map]
  exact List.filterMap_some

theorem ofSegment_of_isNormal (h : IsNormal s) : ofSegment s = some (.normal s) := by
  rw [ofSegment, if_neg (not_or.mpr ⟨h.ne_nil, h.ne_dot⟩), if_neg h.ne_dotdot]

theorem ofSegment_eq_some {c : Component} (h : ofSegment s = some c) :
    c = .parentDir ∨ (c = .normal s ∧ s ≠ [] ∧ s ≠ dot ∧ s ≠ dotdot) := by
  rw [ofSegment] at h
  split at h
  · cases h
  · rename_i hs
    split at h
    · exact .inl (Option.some.inj h).symm
    · rename_i hdots
      exact .inr ⟨(Option.some.inj h).symm, fun hnil => hs (.inl hnil), fun hdot => hs (.inr hdot),
        hdots⟩

/-- A component is the one a path begins with, or it is made from a segment. -/
theorem mem_components {c : Component} (h : c ∈ components p) :
    (c = .rootDir ∧ isAbsolute p = true) ∨ c = .curDir ∨ c = .parentDir ∨
      ∃ s, c = .normal s ∧ IsNormal s := by
  rw [components, List.mem_append, List.mem_filterMap] at h
  rcases h with h | ⟨s, hs, hc⟩
  · split at h
    · rename_i habs
      exact .inl ⟨List.mem_singleton.mp h, habs⟩
    · split at h
      · exact .inr (.inl (List.mem_singleton.mp h))
      · cases h
  · rcases ofSegment_eq_some hc with rfl | ⟨rfl, hnil, hdot, hdots⟩
    · exact .inr (.inr (.inl rfl))
    · exact .inr (.inr (.inr ⟨s, rfl, hnil, sep_not_mem_of_mem_segments hs, hdot, hdots⟩))

/-- A path has the root among its components exactly if it is absolute. -/
theorem rootDir_mem_components : Component.rootDir ∈ components p ↔ isAbsolute p = true := by
  constructor
  · intro h
    rcases mem_components h with ⟨-, habs⟩ | h | h | ⟨_, h, -⟩
    · exact habs
    · cases h
    · cases h
    · cases h
  · intro habs
    rw [components, if_pos habs]
    exact List.mem_append_left _ List.mem_cons_self

theorem isNormal_of_mem_normals (h : s ∈ normals p) : IsNormal s := by
  rcases mem_components (mem_normals.mp h) with ⟨h, -⟩ | h | h | ⟨s', h, hs'⟩
  · cases h
  · cases h
  · cases h
  · cases h
    exact hs'

/-! Names with one separator between any two. -/

theorem intercalate_append_cons (t : Path) (ts : List Path) (hne : ss ≠ []) :
    [sep].intercalate (ss ++ t :: ts)
      = [sep].intercalate ss ++ sep :: [sep].intercalate (t :: ts) := by
  induction ss with
  | nil => exact absurd rfl hne
  | cons r ss ih =>
      cases ss with
      | nil => simp
      | cons q ss =>
          have hrest := ih (List.cons_ne_nil q ss)
          rw [List.cons_append, List.cons_append, List.intercalate_cons_cons, ← List.cons_append,
            hrest, List.intercalate_cons_cons, List.append_assoc _ _ (sep :: _)]

theorem intercalate_ne_nil (h : ∀ s ∈ ss, s ≠ []) (hne : ss ≠ []) : [sep].intercalate ss ≠ [] := by
  obtain ⟨r, ss, rfl⟩ := List.exists_cons_of_ne_nil hne
  have hr : r ≠ [] := h r List.mem_cons_self
  cases ss with
  | nil =>
      rw [List.intercalate_singleton]
      exact hr
  | cons q ss =>
      rw [List.intercalate_cons_cons]
      simp [hr]

/-- Such a path has exactly these segments. -/
theorem segments_intercalate (h : ∀ s ∈ ss, IsNormal s) (hne : ss ≠ []) :
    segments ([sep].intercalate ss) = ss :=
  List.splitOn_intercalate sep (fun s hs => (h s hs).not_sep) hne

theorem tidy_intercalate (h : ∀ s ∈ ss, IsNormal s) : Tidy ([sep].intercalate ss) := by
  by_cases hne : ss = []
  · subst hne
    exact ⟨nofun, nofun, by decide⟩
  · refine tidy_of_not_mem ?_
    rw [segments_intercalate h hne]
    intro hnil
    exact (h [] hnil).ne_nil rfl

theorem filterMap_ofSegment (h : ∀ s ∈ ss, IsNormal s) :
    ss.filterMap ofSegment = ss.map .normal := by
  induction ss with
  | nil => rfl
  | cons r ss ih =>
      obtain ⟨hr, hss⟩ := List.forall_mem_cons.mp h
      rw [List.filterMap_cons_some (ofSegment_of_isNormal hr), ih hss, List.map_cons]

/-- **The components of such a path are the names.** -/
theorem components_intercalate (h : ∀ s ∈ ss, IsNormal s) :
    components ([sep].intercalate ss) = ss.map .normal := by
  by_cases hne : ss = []
  · subst hne
    rfl
  · have habs : isAbsolute ([sep].intercalate ss) = false :=
      decide_eq_false (tidy_intercalate h).head
    have hdot : ss.head? ≠ some dot := by
      intro hhead
      exact (h dot (List.mem_of_head? hhead)).ne_dot rfl
    rw [components, habs, segments_intercalate h hne, if_neg hdot, filterMap_ofSegment h]
    rfl

/-! ## Names -/

/-- What a directory entry can be called. -/
structure Name where
  bytes : Path
  ne_nil : bytes ≠ []
  not_sep : sep ∉ bytes
  not_nul : 0 ∉ bytes
  ne_dot : bytes ≠ dot
  ne_dotdot : bytes ≠ dotdot
  deriving DecidableEq

namespace Name

/-- The name that a segment is, if it can be one. -/
def ofBytes (b : Path) : Option Name :=
  if h : b ≠ [] ∧ sep ∉ b ∧ 0 ∉ b ∧ b ≠ dot ∧ b ≠ dotdot then
    some ⟨b, h.1, h.2.1, h.2.2.1, h.2.2.2.1, h.2.2.2.2⟩
  else none

@[simp] theorem ofBytes_bytes (n : Name) : ofBytes n.bytes = some n :=
  dif_pos ⟨n.ne_nil, n.not_sep, n.not_nul, n.ne_dot, n.ne_dotdot⟩

theorem bytes_injective : Function.Injective Name.bytes := by
  rintro ⟨b, _⟩ ⟨c, _⟩ rfl
  rfl

theorem isNormal (n : Name) : IsNormal n.bytes := ⟨n.ne_nil, n.not_sep, n.ne_dot, n.ne_dotdot⟩

end Name

/-- The relative path of a list of names. -/
def relative (names : List Name) : Path := [sep].intercalate (names.map Name.bytes)

/-- The absolute path of a list of names. -/
def render (names : List Name) : Path := sep :: relative names

variable {names names' : List Name} {n : Name}

theorem isNormal_of_mem_names : ∀ s ∈ names.map Name.bytes, IsNormal s := by
  intro s hs
  obtain ⟨n, -, rfl⟩ := List.mem_map.mp hs
  exact n.isNormal

theorem relative_singleton (n : Name) : relative [n] = n.bytes := List.intercalate_singleton

theorem relative_append_cons (names : List Name) (n : Name) (names' : List Name)
    (hne : names ≠ []) :
    relative (names ++ n :: names') = relative names ++ sep :: relative (n :: names') := by
  rw [relative, List.map_append, List.map_cons, intercalate_append_cons _ _ (by simpa using hne)]
  rfl

/-- A relative path of names has exactly these segments. -/
theorem segments_relative (hne : names ≠ []) :
    segments (relative names) = names.map Name.bytes :=
  segments_intercalate isNormal_of_mem_names (by simpa using hne)

theorem relative_ne_nil (hne : names ≠ []) : relative names ≠ [] :=
  intercalate_ne_nil (fun s hs => (isNormal_of_mem_names s hs).ne_nil) (by simpa using hne)

theorem tidy_relative (names : List Name) : Tidy (relative names) :=
  tidy_intercalate isNormal_of_mem_names

theorem isAbsolute_relative (names : List Name) : isAbsolute (relative names) = false :=
  decide_eq_false (tidy_relative names).head

@[simp] theorem isAbsolute_render (names : List Name) : isAbsolute (render names) = true := rfl

/-- The segments of an absolute path of names: the empty one before the first
    separator, and for the root one more behind it. -/
theorem segments_render (names : List Name) :
    segments (render names) = [] :: if names = [] then [[]] else names.map Name.bytes := by
  rw [render, segments_cons_sep]
  split
  · rename_i hnil
    rw [hnil]
    rfl
  · rename_i hne
    rw [segments_relative hne]

/-- **The components of a relative path of names are the names.** -/
theorem components_relative (names : List Name) :
    components (relative names) = names.map fun n => .normal n.bytes := by
  rw [relative, components_intercalate isNormal_of_mem_names, List.map_map]
  rfl

/-- **The components of an absolute path of names are the root and the names.** -/
theorem components_render (names : List Name) :
    components (render names) = .rootDir :: names.map fun n => .normal n.bytes := by
  rw [components, isAbsolute_render, if_pos rfl, segments_render]
  show Component.rootDir :: List.filterMap ofSegment (if names = [] then [[]] else _) = _
  split
  · rename_i hnil
    rw [hnil]
    rfl
  · rw [filterMap_ofSegment isNormal_of_mem_names, List.map_map]
    rfl

theorem normal_bytes_injective :
    Function.Injective fun n : Name => Component.normal n.bytes := by
  intro n m h
  exact Name.bytes_injective (Component.normal.inj h)

theorem relative_injective : Function.Injective relative := by
  intro names names' h
  have hcomponents := components_relative names
  rw [h, components_relative] at hcomponents
  exact (List.map_injective_iff.mpr normal_bytes_injective hcomponents).symm

theorem render_injective : Function.Injective render := by
  intro names names' h
  exact relative_injective (List.cons.inj h).2

theorem startsWith_iff {p base : Path} :
    startsWith p base = true ↔ components base <+: components p :=
  List.isPrefixOf_iff_prefix

/-- Among absolute paths of names, `startsWith` compares lists of names. -/
theorem startsWith_render :
    startsWith (render names) (render names') = true ↔ names' <+: names := by
  rw [startsWith_iff, components_render, components_render, List.cons_prefix_cons]
  constructor
  · rintro ⟨-, h⟩
    obtain ⟨rest, hrest⟩ := h
    obtain ⟨l₁, l₂, rfl, h₁, -⟩ := List.map_eq_append_iff.mp hrest.symm
    cases List.map_injective_iff.mpr normal_bytes_injective h₁
    exact List.prefix_append _ _
  · rintro ⟨rest, rfl⟩
    refine ⟨rfl, ?_⟩
    rw [List.map_append]
    exact List.prefix_append _ _

theorem ofComponents_names (names : List Name) :
    ofComponents (names.map fun n => .normal n.bytes) = relative names := by
  cases names with
  | nil => rfl
  | cons n names =>
      simp [ofComponents, relative, Component.bytes, Function.comp_def]

/-- What is left of an absolute path of names after its first part. -/
theorem stripPrefix_render (names names' : List Name) :
    stripPrefix (render (names ++ names')) (render names) = some (relative names') := by
  rw [stripPrefix, if_pos (startsWith_render.mpr (List.prefix_append _ _)), components_render,
    components_render, List.map_append]
  congr 1
  show ofComponents ((names.map _ ++ names'.map _).drop (names.map _).length) = _
  rw [List.drop_left, ofComponents_names]

/-- To join an absolute path of names and a relative one is to append the names. -/
theorem join_render (names : List Name) (hne : names' ≠ []) :
    join (render names) (relative names') = render (names ++ names') := by
  obtain ⟨n, rest, rfl⟩ := List.exists_cons_of_ne_nil hne
  rw [join, isAbsolute_relative]
  cases names with
  | nil => rfl
  | cons m names =>
      have hlast : (render (m :: names)).getLast? ≠ some sep := by
        rw [render, List.getLast?_cons_of_ne_nil (relative_ne_nil (List.cons_ne_nil m names))]
        exact (tidy_relative (m :: names)).last
      rw [if_neg nofun, if_neg (not_or.mpr ⟨nofun, hlast⟩)]
      rw [render, render, relative_append_cons _ _ _ (List.cons_ne_nil m names), List.cons_append]

end UnixPath
