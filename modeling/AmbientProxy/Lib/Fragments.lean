import Mathlib.Data.List.Basic

/-! # Reading from a source that arrives in fragments

    A stream transport delivers a sequence of elements cut into fragments that
    the sender does not choose.  A reader that wants exactly `n` elements takes
    whole fragments while they fit and splits the last one (`readExact`).

    * `readExact_of_le` — where the fragments hold `n` elements, it returns the
      first `n` of their concatenation and leaves exactly the others;
    * `readExact_of_lt` — where they do not, it fails.

    Both speak about the concatenation only, so no result of a read depends on
    how the elements arrived. -/

namespace Fragments

variable {α : Type}

/-- Read exactly `n` elements, and leave the rest unread. -/
def readExact : Nat → List (List α) → Option (List α × List (List α))
  | n, [] => if n = 0 then some ([], []) else none
  | n, c :: cs =>
      if n < c.length then some (c.take n, c.drop n :: cs)
      else (readExact (n - c.length) cs).map fun (taken, rest) => (c ++ taken, rest)

/-- **A read that the fragments can serve**: the first `n` elements, and exactly
    the others left. -/
theorem readExact_of_le {n : Nat} {cs : List (List α)} (h : n ≤ cs.flatten.length) :
    ∃ rest, readExact n cs = some (cs.flatten.take n, rest) ∧
      rest.flatten = cs.flatten.drop n := by
  induction cs generalizing n with
  | nil =>
      have hn : n = 0 := Nat.le_zero.mp h
      exact ⟨[], by rw [readExact, if_pos hn, hn]; rfl, by rw [hn]; rfl⟩
  | cons c cs ih =>
      rw [List.flatten_cons, List.length_append] at h
      by_cases hc : n < c.length
      · -- the read ends inside the first fragment
        refine ⟨c.drop n :: cs, ?_, ?_⟩
        · rw [readExact, if_pos hc, List.flatten_cons,
            List.take_append_of_le_length (Nat.le_of_lt hc)]
        · rw [List.flatten_cons, List.flatten_cons, List.drop_append_of_le_length (Nat.le_of_lt hc)]
      · obtain ⟨rest, hrest, hflat⟩ := ih (n := n - c.length) (by omega)
        refine ⟨rest, ?_, ?_⟩
        · rw [readExact, if_neg hc, hrest, Option.map_some, List.flatten_cons, List.take_append,
            List.take_of_length_le (Nat.le_of_not_lt hc)]
        · rw [hflat, List.flatten_cons, List.drop_append,
            List.drop_of_length_le (Nat.le_of_not_lt hc), List.nil_append]

/-- A read that the fragments cannot serve. -/
theorem readExact_of_lt {n : Nat} {cs : List (List α)} (h : cs.flatten.length < n) :
    readExact n cs = none := by
  induction cs generalizing n with
  | nil =>
      have hn : n ≠ 0 := Nat.ne_of_gt h
      rw [readExact, if_neg hn]
  | cons c cs ih =>
      rw [List.flatten_cons, List.length_append] at h
      have hc : ¬ n < c.length := by omega
      rw [readExact, if_neg hc, ih (n := n - c.length) (by omega), Option.map_none]

end Fragments
