import AmbientProxy.Lib.FileSystem
import Mathlib.Data.List.AList
import Mathlib.Data.Set.Card

/-! # Finite file trees — how large they are, and small ones

    A tree without endless branches, and what a walk of it costs:

    * `size` counts the nodes at and below a directory, and `sum_size_listing` says
      that the entries of a directory hold all of them but itself;
    * `ofTree` makes a file system of a map from names to nodes. -/

open UnixPath

namespace FileSystem

variable {fs : FileSystem} {d names : List Name} {n : Name}

/-- There are finitely many nodes. -/
def Finite (fs : FileSystem) : Prop := {names | (fs.node names).isSome = true}.Finite

/-- The nodes at and below `d`. -/
def subtree (fs : FileSystem) (d : List Name) : Set (List Name) :=
  {names | d <+: names ∧ (fs.node names).isSome = true}

/-- How many nodes there are at and below `d`. -/
noncomputable def size (fs : FileSystem) (d : List Name) : Nat := (fs.subtree d).ncard

theorem Finite.subtree (hfs : fs.Finite) (d : List Name) : (fs.subtree d).Finite :=
  hfs.subset fun _ h => h.2

theorem size_pos (hfs : fs.Finite) (h : (fs.node names).isSome = true) : 0 < fs.size names :=
  (Set.ncard_pos (hfs.subtree names)).mpr ⟨names, List.prefix_refl names, h⟩

/-- Two entries of a directory have nothing below them in common. -/
theorem notMem_subtree {m : Name} {names : List Name} (hne : n ≠ m)
    (hnames : names ∈ fs.subtree (d ++ [n])) : names ∉ fs.subtree (d ++ [m]) := by
  obtain ⟨⟨rest, rfl⟩, -⟩ := hnames
  rintro ⟨hm, -⟩
  rw [List.append_assoc] at hm
  have hhead := (List.prefix_append_right_inj d).mp hm
  exact hne (List.cons_prefix_cons.mp hhead).1.symm

/-- Some entries of a directory, together. -/
theorem sum_size_le (hfs : fs.Finite) {entries : List Name} (hnodup : entries.Nodup) :
    (entries.map fun n => fs.size (d ++ [n])).sum =
      {names | ∃ n ∈ entries, names ∈ fs.subtree (d ++ [n])}.ncard := by
  induction entries with
  | nil => simp
  | cons n entries ih =>
      obtain ⟨hn, hnodup⟩ := List.nodup_cons.mp hnodup
      have hsplit : {names | ∃ m ∈ n :: entries, names ∈ fs.subtree (d ++ [m])} =
          fs.subtree (d ++ [n]) ∪ {names | ∃ m ∈ entries, names ∈ fs.subtree (d ++ [m])} := by
        ext names
        simp
      have hdisjoint : Disjoint (fs.subtree (d ++ [n]))
          {names | ∃ m ∈ entries, names ∈ fs.subtree (d ++ [m])} := by
        refine Set.disjoint_left.mpr ?_
        rintro names hnames ⟨m, hm, hnames'⟩
        have hne : n ≠ m := by
          rintro rfl
          exact hn hm
        exact notMem_subtree hne hnames hnames'
      have hfinite : {names | ∃ m ∈ entries, names ∈ fs.subtree (d ++ [m])}.Finite :=
        hfs.subset fun names ⟨_, _, hnames⟩ => hnames.2
      rw [hsplit, Set.ncard_union_eq hdisjoint (hfs.subtree _) hfinite, List.map_cons,
        List.sum_cons, ih hnodup]
      rfl

/-- **A directory holds itself, and what its entries hold.** -/
theorem sum_size_listing (hfs : fs.Finite) (hd : fs.node d = some .dir) :
    ((fs.listing d).map fun n => fs.size (d ++ [n])).sum + 1 = fs.size d := by
  have hsplit : fs.subtree d =
      insert d {names | ∃ n ∈ fs.listing d, names ∈ fs.subtree (d ++ [n])} := by
    ext names
    constructor
    · rintro ⟨⟨rest, rfl⟩, hnode⟩
      cases rest with
      | nil => exact Or.inl (List.append_nil d)
      | cons n rest =>
          have heq : d ++ n :: rest = d ++ [n] ++ rest := by simp
          have hn : (fs.node (d ++ [n])).isSome = true := by
            by_cases hrest : rest = []
            · rw [heq, hrest, List.append_nil] at hnode
              exact hnode
            · rw [node_of_append hrest (heq ▸ hnode)]
              rfl
          exact Or.inr ⟨n, fs.mem_listing.mpr hn, heq ▸ List.prefix_append _ _, hnode⟩
    · rintro (rfl | ⟨n, -, ⟨rest, rfl⟩, hnode⟩)
      · exact ⟨List.prefix_refl _, by rw [hd]; rfl⟩
      · refine ⟨?_, hnode⟩
        rw [List.append_assoc]
        exact List.prefix_append _ _
  have hfinite : {names | ∃ n ∈ fs.listing d, names ∈ fs.subtree (d ++ [n])}.Finite :=
    hfs.subset fun names ⟨_, _, hnames⟩ => hnames.2
  have hnot : d ∉ {names | ∃ n ∈ fs.listing d, names ∈ fs.subtree (d ++ [n])} := by
    rintro ⟨n, -, hprefix, -⟩
    have hlen := hprefix.length_le
    rw [List.length_append, List.length_singleton] at hlen
    omega
  rw [size, hsplit, Set.ncard_insert_of_notMem hnot hfinite,
    sum_size_le hfs (fs.listing_nodup d)]

/-! ## Trees from tables -/

/-- The name of an entry of `d`, if the node is one. -/
def entryOf (d names : List Name) : Option Name :=
  if names.dropLast = d then names.getLast? else none

theorem entryOf_eq_some_iff : entryOf d names = some n ↔ names = d ++ [n] := by
  rw [entryOf]
  constructor
  · intro h
    split at h
    · rename_i hd
      rw [← hd]
      exact (List.dropLast_append_getLast? n h).symm
    · cases h
  · rintro rfl
    rw [if_pos List.dropLast_concat, List.getLast?_concat]

/-- The file system of a table: the root is a directory, and the node above each node
    of the table is one. -/
def ofTree (tree : AList fun _ : List Name => Node)
    (hparent : ∀ names ∈ tree.keys,
      names.dropLast = [] ∨ tree.lookup names.dropLast = some .dir) : FileSystem where
  node names := if names = [] then some .dir else tree.lookup names
  listing d := tree.keys.filterMap (entryOf d)
  cwd := []
  root := rfl
  parent := by
    intro d n h
    rw [if_neg (List.concat_ne_nil n d)] at h
    have hkey := hparent _ (AList.lookup_isSome.mp h)
    rw [List.dropLast_concat] at hkey
    split
    · rfl
    · rename_i hd
      exact hkey.resolve_left hd
  listing_nodup := by
    intro d
    refine List.Nodup.filterMap ?_ tree.nodupKeys
    intro names names' n h h'
    rw [entryOf_eq_some_iff.mp h, entryOf_eq_some_iff.mp h']
  mem_listing := by
    intro d n
    rw [List.mem_filterMap, if_neg (List.concat_ne_nil n d), AList.lookup_isSome]
    constructor
    · rintro ⟨names, hnames, hentry⟩
      exact entryOf_eq_some_iff.mp hentry ▸ hnames
    · intro hkey
      exact ⟨d ++ [n], hkey, entryOf_eq_some_iff.mpr rfl⟩
  cwd_dir := rfl

theorem finite_ofTree {tree : AList fun _ : List Name => Node}
    {hparent : ∀ names ∈ tree.keys,
      names.dropLast = [] ∨ tree.lookup names.dropLast = some .dir} :
    (ofTree tree hparent).Finite := by
  refine (insert [] tree.keys.toFinset).finite_toSet.subset ?_
  intro names hnames
  rw [Finset.coe_insert, List.coe_toFinset]
  by_cases hnil : names = []
  · exact Or.inl hnil
  · refine Or.inr ?_
    change ((if names = [] then some .dir else tree.lookup names).isSome = true) at hnames
    rw [if_neg hnil] at hnames
    exact AList.lookup_isSome.mp hnames

end FileSystem
