/-! # Loops — turns until none is left

    The body of a loop is a PARTIAL function on the state: `turn s` is the state
    after one more turn, or `none` where the loop's condition fails in `s`.  `run`
    bounds the number of turns, so that a loop that goes on for ever is told from
    one that ends.

    * `run_of_le` — a loop that has ended does not depend on the bound;
    * `run_total` is the rule of total correctness: an invariant, and a variant that
      every turn decreases. -/

namespace Loops

universe u

variable {σ : Type u} {turn : σ → Option σ} {s t : σ} {fuel fuel' : Nat}

/-- Take at most `fuel` turns: the state in which there is none left to take, or
    `none` where there still is one. -/
def run (turn : σ → Option σ) : Nat → σ → Option σ
  | 0, s => if (turn s).isNone then some s else none
  | fuel + 1, s =>
      match turn s with
      | none => some s
      | some s' => run turn fuel s'

theorem run_of_none (h : turn s = none) : run turn fuel s = some s := by
  cases fuel with
  | zero => simp [run, h]
  | succ fuel => rw [run, h]

theorem run_of_some {s' : σ} (h : turn s = some s') :
    run turn (fuel + 1) s = run turn fuel s' := by
  rw [run, h]

theorem run_of_le (hle : fuel ≤ fuel') (h : run turn fuel s = some t) :
    run turn fuel' s = some t := by
  induction fuel generalizing s fuel' with
  | zero =>
      cases hnext : turn s with
      | none =>
          rw [run_of_none hnext] at h ⊢
          exact h
      | some s' => simp [run, hnext] at h
  | succ fuel ih =>
      cases hnext : turn s with
      | none =>
          rw [run_of_none hnext] at h ⊢
          exact h
      | some s' =>
          obtain ⟨more, rfl⟩ := Nat.exists_eq_add_of_le hle
          rw [run_of_some hnext] at h
          rw [Nat.succ_add, run_of_some hnext]
          exact ih (Nat.le_add_right _ _) h

/-- **The rule of total correctness**: where every turn keeps the invariant `I` and
    decreases the variant `v`, the loop ends within `v s` turns, in a state with
    the invariant. -/
theorem run_total {I : σ → Prop} {v : σ → Nat}
    (hturn : ∀ {s s'}, I s → turn s = some s' → I s' ∧ v s' < v s)
    (hs : I s) (hfuel : v s ≤ fuel) :
    ∃ t, run turn fuel s = some t ∧ I t ∧ turn t = none := by
  induction fuel generalizing s with
  | zero =>
      cases hnext : turn s with
      | none => exact ⟨s, run_of_none hnext, hs, hnext⟩
      | some s' =>
          obtain ⟨-, hlt⟩ := hturn hs hnext
          omega
  | succ fuel ih =>
      cases hnext : turn s with
      | none => exact ⟨s, run_of_none hnext, hs, hnext⟩
      | some s' =>
          obtain ⟨hs', hlt⟩ := hturn hs hnext
          rw [run_of_some hnext]
          exact ih hs' (by omega)

end Loops
