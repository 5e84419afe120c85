import Mathlib.Data.List.Nodup
import Mathlib.Logic.Function.Basic

/-! # Enumerations — a log that holds the values of a partial map, each key's once

    Things are named by keys, some of them have a value, and a log lists values.  It
    `Enumerates` the partial map if the keys that have a value can be listed, each once,
    such that the log is the list of their values: no value in the log is made up, none is
    there twice for one key, and no key that has a value is missing.

    A log grows at its end, by the value of a key that had none (`snoc`), or not, where the
    key still has none (`grow`); whoever takes values from its start has those of some of
    the keys (`of_prefix`). -/

namespace Enumeration

universe u v

variable {ι : Type u} {β : Type v} {f g : ι → Option β} {items taken : List β}

def Enumerates (f : ι → Option β) (items : List β) : Prop :=
  ∃ keys : List ι, keys.Nodup ∧ (∀ i, i ∈ keys ↔ f i ≠ none) ∧ keys.map f = items.map some

theorem Enumerates.nil (h : ∀ i, f i = none) : Enumerates f [] :=
  ⟨[], List.nodup_nil, fun i => ⟨fun hi => absurd hi List.not_mem_nil, fun hi => absurd (h i) hi⟩,
    rfl⟩

/-- A key's value is in the log. -/
theorem Enumerates.mem {i : ι} {b : β} (h : Enumerates f items) (hi : f i = some b) :
    b ∈ items := by
  obtain ⟨keys, -, hmem, hmap⟩ := h
  have hkey : i ∈ keys := (hmem i).mpr (by rw [hi]; exact Option.some_ne_none b)
  have hvalue : some b ∈ items.map some := by
    rw [← hmap, ← hi]
    exact List.mem_map_of_mem hkey
  obtain ⟨b', hb', hbb⟩ := List.mem_map.mp hvalue
  cases hbb
  exact hb'

/-- A key gets a value, and the log grows by it. -/
theorem Enumerates.snoc {i : ι} {b : β} (h : Enumerates f items) (hnew : f i = none)
    (hold : ∀ j, j ≠ i → g j = f j) (hb : g i = some b) : Enumerates g (items ++ [b]) := by
  obtain ⟨keys, hnodup, hmem, hmap⟩ := h
  have hi : i ∉ keys := fun hi => (hmem i).mp hi hnew
  have hne : ∀ j, j ∈ keys → j ≠ i := by
    rintro j hj rfl
    exact hi hj
  refine ⟨keys ++ [i], ?_, ?_, ?_⟩
  · rw [List.nodup_append]
    refine ⟨hnodup, List.nodup_singleton i, ?_⟩
    intro j hj k hk
    rw [List.mem_singleton.mp hk]
    exact hne j hj
  · intro j
    rw [List.mem_append, List.mem_singleton]
    by_cases hj : j = i
    · subst hj
      rw [hb]
      exact ⟨fun _ => Option.some_ne_none b, fun _ => .inr rfl⟩
    · rw [hold j hj, hmem j, or_iff_left hj]
  · rw [List.map_append, List.map_append, ← hmap, List.map_congr_left fun j hj => hold j (hne j hj)]
    show _ ++ [g i] = _ ++ [some b]
    rw [hb]

/-- A key may get a value, and the log grows with it. -/
theorem Enumerates.grow {i : ι} (h : Enumerates f items) (hnew : f i = none)
    (hold : ∀ j, j ≠ i → g j = f j) : Enumerates g (items ++ (g i).toList) := by
  cases hi : g i with
  | some b => exact h.snoc hnew hold hi
  | none =>
      have heq : g = f := by
        funext j
        by_cases hj : j = i
        · rw [hj, hi, hnew]
        · exact hold j hj
      rw [heq, Option.toList_none, List.append_nil]
      exact h

/-- What is taken from the start of the log are the values of some of the keys. -/
theorem Enumerates.of_prefix (h : Enumerates f items) (hp : taken <+: items) :
    ∃ g : ι → Option β, (∀ i b, g i = some b → f i = some b) ∧ Enumerates g taken := by
  classical
  obtain ⟨keys, hnodup, hmem, hmap⟩ := h
  obtain ⟨rest, rfl⟩ := hp
  rw [List.map_append] at hmap
  -- the keys of what is taken are the first ones
  obtain ⟨first, last, rfl, hfirst, -⟩ := List.map_eq_append_iff.mp hmap
  refine ⟨fun i => if i ∈ first then f i else none, ?_, first,
    hnodup.sublist (List.sublist_append_left first last), ?_, ?_⟩
  · intro i b hi
    dsimp only at hi
    split at hi
    · exact hi
    · cases hi
  · intro i
    dsimp only
    split
    · rename_i hi
      exact ⟨fun _ => (hmem i).mp (List.mem_append_left last hi), fun _ => hi⟩
    · rename_i hi
      exact ⟨fun h => absurd h hi, fun h => absurd rfl h⟩
  · rw [← hfirst]
    exact List.map_congr_left fun i hi => if_pos hi

end Enumeration
