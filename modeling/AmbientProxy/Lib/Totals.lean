import Mathlib.Algebra.BigOperators.Group.Finset.Piecewise
import Mathlib.Data.List.AList

/-! # Totals of keyed stores

    A program that counts, in a variable of its own, how much a keyed store holds
    is right as long as the variable follows the store.  What a store holds is
    measured by a weight of its values; here is what one write does to the total:

    * `total`, the total over the entries of a map, and `total_insert`;
    * `sum_update`, the same for a function that is summed over finitely many names.

    Both say, without a subtraction, that a write takes the weight of the old value
    out and puts the weight of the new value in. -/

namespace Totals

variable {K V : Type}

/-- The total weight of a list of entries. -/
def totalOf (f : V → Nat) : List (Sigma fun _ : K => V) → Nat
  | [] => 0
  | entry :: l => f entry.2 + totalOf f l

/-- The total weight of the entries of a map. -/
def total (f : V → Nat) (m : AList fun _ : K => V) : Nat :=
  totalOf f m.entries

variable [DecidableEq K]

/-- Erasing a key takes the weight of its value out. -/
theorem totalOf_kerase (f : V → Nat) (key : K) (l : List (Sigma fun _ : K => V)) :
    totalOf f (l.kerase key) + (l.dlookup key).elim 0 f = totalOf f l := by
  induction l with
  | nil => rfl
  | cons entry l ih =>
      obtain ⟨key', v⟩ := entry
      by_cases hkey : key = key'
      · subst hkey
        have hgone : List.kerase key (⟨key, v⟩ :: l) = l := List.kerase_cons_eq rfl
        rw [hgone, List.dlookup_cons_eq]
        exact Nat.add_comm _ _
      · have hkept : List.kerase key (⟨key', v⟩ :: l) = ⟨key', v⟩ :: l.kerase key :=
          List.kerase_cons_ne hkey
        rw [hkept, List.dlookup_cons_ne _ _ hkey]
        show f v + totalOf f (l.kerase key) + (l.dlookup key).elim 0 f = f v + totalOf f l
        rw [Nat.add_assoc, ih]

/-- **A write to a map** takes the weight of the old value out and puts that of the
    new value in. -/
theorem total_insert (f : V → Nat) (m : AList fun _ : K => V) (key : K) (v : V) :
    total f (m.insert key v) + (m.lookup key).elim 0 f = total f m + f v := by
  have hrest : totalOf f (m.entries.kerase key) + (m.lookup key).elim 0 f = total f m :=
    totalOf_kerase f key m.entries
  show f v + totalOf f (m.entries.kerase key) + (m.lookup key).elim 0 f = total f m + f v
  rw [Nat.add_assoc, hrest, Nat.add_comm]

/-- **A write to a function** that is summed over finitely many names. -/
theorem sum_update {ι : Type} [DecidableEq ι] {ids : Finset ι} {i : ι} (hi : i ∈ ids)
    (f : V → Nat) (g : ι → V) (v : V) :
    ∑ j ∈ ids, f (Function.update g i v j) + f (g i) = ∑ j ∈ ids, f (g j) + f v := by
  have hnew := Finset.sum_update_of_mem hi (fun j => f (g j)) (f v)
  have hold := Finset.sum_update_of_mem hi (fun j => f (g j)) (f (g i))
  rw [Function.update_eq_self] at hold
  have hcomp : (fun j => f (Function.update g i v j))
      = Function.update (fun j => f (g j)) i (f v) := by
    ext j
    by_cases hj : j = i
    · rw [hj, Function.update_self, Function.update_self]
    · rw [Function.update_of_ne hj, Function.update_of_ne hj]
  rw [hcomp, hnew, hold]
  omega

/-- Nothing outside the names counts: a sum does not change where all names beyond
    it weigh nothing. -/
theorem sum_of_subset {ι : Type} {ids ids' : Finset ι} (hsub : ids ⊆ ids') {g : ι → Nat}
    (hzero : ∀ i, i ∉ ids → g i = 0) : ∑ i ∈ ids', g i = ∑ i ∈ ids, g i :=
  (Finset.sum_subset hsub fun i _ hi => hzero i hi).symm

end Totals
