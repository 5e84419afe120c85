import Mathlib.Data.List.Induction

/-! # Labelled step systems — runs, invariants, and runs under a condition

    A program made of several tasks is a state together with a PARTIAL step
    function: `step s a` is the state after action `a`, or `none` where `a` is
    not enabled in `s`.  One action is one atomic step of one task, so a list of
    actions is one interleaving, and a statement over all lists of actions is a
    statement over all interleavings.

    This file fixes the vocabulary:

    * `exec` runs a list of actions;
    * `exec_invariant` is the invariant rule, `exec_history` the same rule for
      a property of the run and the state together;
    * `Along C s as` says that every step of the run met the condition `C`;
      `exec_invariant_along` is the invariant rule for such runs, and
      `along_iff_not_bad`, `along_iff_forall_prefix` and `along_iff_never_bad` say which
      states tell that a step did not, and `along_of_first` finds the first such step;
    * `exec_length_le` bounds the length of runs by a measure, and `exec_tally` adds up
      along a run what its steps take from a total;
    * `foldlM_ready_iff` is the rule for a loop that consumes a list of inputs;
    * `exec_project` carries a run across a projection of the state, so a property
      of a component is a property of every system the component is part of, and
      `exec_lift` carries the component's own runs back, `exec_embed` into a given
      surrounding; `exec_simulate` carries a run across a relation. -/

namespace Transition

universe u v

/-- A system of labelled steps: `none` means that the action is not enabled. -/
structure System (σ : Type u) (α : Type v) where
  init : σ
  step : σ → α → Option σ

variable {σ σ' : Type u} {α α' : Type v}

/-- Run a list of actions from a state, in order. -/
def System.exec (M : System σ α) : σ → List α → Option σ
  | s, [] => some s
  | s, a :: as => (M.step s a).bind fun t => M.exec t as

variable {M : System σ α} {s t : σ}

theorem exec_cons (s : σ) (a : α) (as : List α) :
    M.exec s (a :: as) = (M.step s a).bind fun m => M.exec m as := rfl

/-- A run that starts with `a` is a step followed by a run. -/
theorem exec_cons_iff {a : α} {as : List α} :
    M.exec s (a :: as) = some t ↔ ∃ m, M.step s a = some m ∧ M.exec m as = some t := by
  rw [exec_cons, Option.bind_eq_some_iff]

theorem exec_append (as bs : List α) (s : σ) :
    M.exec s (as ++ bs) = (M.exec s as).bind fun m => M.exec m bs := by
  induction as generalizing s with
  | nil => rfl
  | cons a as ih =>
      rw [List.cons_append, exec_cons, exec_cons, Option.bind_assoc]
      congr 1
      funext m
      exact ih m

/-- A run that ends with `a` is a run followed by a step. -/
theorem exec_snoc_iff {a : α} {as : List α} :
    M.exec s (as ++ [a]) = some t ↔ ∃ m, M.exec s as = some m ∧ M.step m a = some t := by
  rw [exec_append, Option.bind_eq_some_iff]
  constructor
  · rintro ⟨m, hm, hstep⟩
    obtain ⟨t', hstep', ht⟩ := exec_cons_iff.mp hstep
    cases Option.some.inj ht
    exact ⟨m, hm, hstep'⟩
  · rintro ⟨m, hm, hstep⟩
    exact ⟨m, hm, exec_cons_iff.mpr ⟨t, hstep, rfl⟩⟩

/-! ## Invariants -/

/-- **The invariant rule**: what every step preserves, every run preserves. -/
theorem exec_invariant {P : σ → Prop}
    (hstep : ∀ {s a t}, P s → M.step s a = some t → P t) :
    ∀ {as s t}, P s → M.exec s as = some t → P t := by
  intro as
  induction as with
  | nil =>
      intro s t hs h
      exact Option.some.inj h ▸ hs
  | cons a as ih =>
      intro s t hs h
      obtain ⟨m, hm, hrest⟩ := exec_cons_iff.mp h
      exact ih (hstep hs hm) hrest

/-- The invariant rule for a property of the run so far and the state it
    reached; the induction takes the LAST action off. -/
theorem exec_history {P : List α → σ → Prop} (h0 : P [] s)
    (hstep : ∀ {as m a t}, P as m → M.step m a = some t → P (as ++ [a]) t) :
    ∀ {as t}, M.exec s as = some t → P as t := by
  intro as
  induction as using List.reverseRecOn with
  | nil =>
      intro t h
      exact Option.some.inj h ▸ h0
  | append_singleton as a ih =>
      intro t h
      obtain ⟨m, hm, hlast⟩ := exec_snoc_iff.mp h
      exact hstep (ih hm) hlast

/-! ## Runs whose steps meet a condition -/

/-- Every step of the run of `as` from `s` is taken where `C` holds of the state
    before the step and the action. -/
def Along (M : System σ α) (C : σ → α → Prop) : σ → List α → Prop
  | _, [] => True
  | s, a :: as => C s a ∧ ∀ t, M.step s a = some t → Along M C t as

/-- A condition that the actions meet in every state is met along every run. -/
theorem along_of_forall_mem {C : σ → α → Prop} :
    ∀ {as : List α} {s : σ}, (∀ a ∈ as, ∀ s, C s a) → Along M C s as := by
  intro as
  induction as with
  | nil => intro s _; trivial
  | cons a as ih =>
      intro s h
      exact ⟨h a List.mem_cons_self s, fun t _ => ih fun b hb => h b (List.mem_cons_of_mem a hb)⟩

/-- Two conditions are met along a run where each of them is. -/
theorem along_and_iff {C D : σ → α → Prop} :
    ∀ {as : List α} {s : σ},
      Along M (fun s a => C s a ∧ D s a) s as ↔ Along M C s as ∧ Along M D s as := by
  intro as
  induction as with
  | nil => intro s; exact ⟨fun _ => ⟨trivial, trivial⟩, fun _ => trivial⟩
  | cons a as ih =>
      intro s
      constructor
      · rintro ⟨⟨hC, hD⟩, hrest⟩
        exact ⟨⟨hC, fun t ht => (ih.mp (hrest t ht)).1⟩, ⟨hD, fun t ht => (ih.mp (hrest t ht)).2⟩⟩
      · rintro ⟨⟨hC, hrestC⟩, ⟨hD, hrestD⟩⟩
        exact ⟨⟨hC, hD⟩, fun t ht => ih.mpr ⟨hrestC t ht, hrestD t ht⟩⟩

/-- The invariant rule for runs whose steps all meet `C`. -/
theorem exec_invariant_along {C : σ → α → Prop} {P : σ → Prop}
    (hstep : ∀ {s a t}, P s → C s a → M.step s a = some t → P t) :
    ∀ {as s t}, P s → Along M C s as → M.exec s as = some t → P t := by
  intro as
  induction as with
  | nil =>
      intro s t hs _ h
      exact Option.some.inj h ▸ hs
  | cons a as ih =>
      intro s t hs hC h
      obtain ⟨m, hm, hrest⟩ := exec_cons_iff.mp h
      exact ih (hstep hs hC.1 hm) (hC.2 m hm) hrest

/-- **A run meets `C` exactly when it does not end in a bad state**, if a step
    from a good state leads to a bad one exactly when it violates `C`, and no
    step leads back.  All steps are taken where the invariant `I` holds. -/
theorem along_iff_not_bad {C : σ → α → Prop} {I Bad : σ → Prop}
    (hI : ∀ {s a t}, I s → M.step s a = some t → I t)
    (hstay : ∀ {s a t}, I s → Bad s → M.step s a = some t → Bad t)
    (hkeep : ∀ {s a t}, I s → ¬ Bad s → C s a → M.step s a = some t → ¬ Bad t)
    (henter : ∀ {s a t}, ¬ C s a → M.step s a = some t → Bad t) :
    ∀ {as s t}, I s → ¬ Bad s → M.exec s as = some t → (Along M C s as ↔ ¬ Bad t) := by
  intro as
  induction as with
  | nil =>
      intro s t _ hs h
      cases Option.some.inj h
      exact ⟨fun _ => hs, fun _ => trivial⟩
  | cons a as ih =>
      intro s t his hs h
      obtain ⟨m, hm, hrest⟩ := exec_cons_iff.mp h
      by_cases hC : C s a
      · rw [← ih (hI his hm) (hkeep his hs hC hm) hrest]
        constructor
        · intro hal
          exact hal.2 m hm
        · intro hal
          refine ⟨hC, fun m' hm' => ?_⟩
          cases Option.some.inj (hm.symm.trans hm')
          exact hal
      · -- the step enters the bad states, and no later step leaves them
        refine ⟨fun hal => absurd hal.1 hC, fun hgood => absurd ?_ hgood⟩
        exact (exec_invariant (P := fun u => I u ∧ Bad u)
          (fun ⟨hi, hb⟩ hstep => ⟨hI hi hstep, hstay hi hb hstep⟩)
          ⟨hI his hm, henter hC hm⟩ hrest).2

/-- A run that meets `C` meets it along every initial part. -/
theorem Along.of_append {C : σ → α → Prop} :
    ∀ {as bs : List α} {s : σ}, Along M C s (as ++ bs) → Along M C s as := by
  intro as
  induction as with
  | nil => intro _ _ _; trivial
  | cons a as ih =>
      intro bs s h
      exact ⟨h.1, fun t ht => ih (h.2 t ht)⟩

/-- A run that meets `C` meets it along what follows an initial part. -/
theorem Along.after {C : σ → α → Prop} :
    ∀ {as bs : List α} {s m : σ}, Along M C s (as ++ bs) → M.exec s as = some m →
      Along M C m bs := by
  intro as
  induction as with
  | nil =>
      intro bs s m hal h
      cases Option.some.inj h
      exact hal
  | cons a as ih =>
      intro bs s m hal h
      obtain ⟨k, hk, hrest⟩ := exec_cons_iff.mp h
      exact ih (hal.2 k hk) hrest

/-- A run that met `C` so far meets it with one more step. -/
theorem Along.snoc {C : σ → α → Prop} {a : α} :
    ∀ {as : List α} {s m : σ}, Along M C s as → M.exec s as = some m → C m a →
      Along M C s (as ++ [a]) := by
  intro as
  induction as with
  | nil =>
      intro s m _ h hC
      cases Option.some.inj h
      exact ⟨hC, fun _ _ => trivial⟩
  | cons b as ih =>
      intro s m hal h hC
      obtain ⟨k, hk, hrest⟩ := exec_cons_iff.mp h
      refine ⟨hal.1, fun k' hk' => ?_⟩
      cases Option.some.inj (hk.symm.trans hk')
      exact ih (hal.2 k hk) hrest hC

/-- **A run meets `C` if each of its steps does where all those before it did**: a
    run that does not has a first step that violates `C`. -/
theorem along_of_first {C : σ → α → Prop} {as : List α} (h : M.exec s as = some t)
    (hC : ∀ {pre a m n}, pre ++ [a] <+: as → M.exec s pre = some m → Along M C s pre →
      M.step m a = some n → C m a) : Along M C s as := by
  induction as using List.reverseRecOn generalizing t with
  | nil => trivial
  | append_singleton as a ih =>
      obtain ⟨m, hm, hlast⟩ := exec_snoc_iff.mp h
      have hal : Along M C s as := by
        refine ih hm ?_
        intro pre b k n hpre
        exact hC (hpre.trans (List.prefix_append as [a]))
      exact hal.snoc hm (hC (List.prefix_refl _) hm hal hlast)

/-- **A run meets `C` exactly when a property holds at each of its states**, if the
    property holds where `C` was met so far, and a step that violates `C` ends it. -/
theorem along_iff_forall_prefix {C : σ → α → Prop} {I P : σ → Prop}
    (hI : ∀ {s a t}, I s → C s a → M.step s a = some t → I t) (hP : ∀ {s}, I s → P s)
    (henter : ∀ {s a t}, I s → ¬ C s a → M.step s a = some t → ¬ P t) {as : List α}
    (hs : I s) (h : M.exec s as = some t) :
    Along M C s as ↔ ∀ pre m, pre <+: as → M.exec s pre = some m → P m := by
  constructor
  · rintro hal pre m ⟨rest, rfl⟩ hpre
    exact hP (exec_invariant_along hI hs hal.of_append hpre)
  · intro hall
    refine along_of_first h ?_
    intro pre a m n hpre hm hal hstep
    by_contra hC
    exact henter (exec_invariant_along hI hs hal hm) hC hstep
      (hall (pre ++ [a]) n hpre (exec_snoc_iff.mpr ⟨m, hm, hstep⟩))

/-- **A run meets `C` exactly when no state on its way leads to a bad state by the
    `own` steps of the tasks concerned**, among the runs that meet `H`: if `I` holds
    as long as `C` is met and excludes the bad states, own steps meet both, and a
    step that violates `C` leads by own steps to a bad state. -/
theorem along_iff_never_bad_of {H C : σ → α → Prop} {I Bad : σ → Prop} {own : α → Prop}
    (hI : ∀ {s a t}, I s → H s a → C s a → M.step s a = some t → I t)
    (hgood : ∀ {s}, I s → ¬ Bad s) (hown : ∀ {a}, own a → ∀ s, H s a ∧ C s a)
    (henter : ∀ {s a t}, I s → H s a → ¬ C s a → M.step s a = some t →
      ∃ bs u, (∀ b ∈ bs, own b) ∧ M.exec t bs = some u ∧ Bad u) :
    ∀ {as s t}, I s → Along M H s as → M.exec s as = some t →
      (Along M C s as ↔ ∀ pre m, pre <+: as → M.exec s pre = some m →
        ∀ bs u, (∀ b ∈ bs, own b) → M.exec m bs = some u → ¬ Bad u) := by
  have hboth : ∀ {s a t}, I s → H s a ∧ C s a → M.step s a = some t → I t :=
    fun hs hHC hstep => hI hs hHC.1 hHC.2 hstep
  intro as s t hs hH h
  constructor
  · rintro hal pre m ⟨rest, rfl⟩ hpre bs u hbs hu
    have hm : I m :=
      exec_invariant_along hboth hs (along_and_iff.mpr ⟨hH.of_append, hal.of_append⟩) hpre
    exact hgood
      (exec_invariant_along hboth hm (along_of_forall_mem fun b hb => hown (hbs b hb)) hu)
  · induction as generalizing s with
    | nil => intro _; trivial
    | cons a as ih =>
        intro hnever
        obtain ⟨m, hm, hrest⟩ := exec_cons_iff.mp h
        have hC : C s a := by
          by_contra hC
          obtain ⟨bs, u, hbs, hu, hbad⟩ := henter hs hH.1 hC hm
          exact hnever [a] m ⟨as, rfl⟩ (exec_cons_iff.mpr ⟨m, hm, rfl⟩) bs u hbs hu hbad
        refine ⟨hC, fun m' hm' => ?_⟩
        cases Option.some.inj (hm.symm.trans hm')
        refine ih (hI hs hH.1 hC hm) (hH.2 m hm) hrest ?_
        rintro pre m' ⟨rest, rfl⟩ hpre
        exact hnever (a :: pre) m' ⟨rest, rfl⟩ (exec_cons_iff.mpr ⟨m, hm, hpre⟩)

/-- The same among all runs. -/
theorem along_iff_never_bad {C : σ → α → Prop} {I Bad : σ → Prop} {own : α → Prop}
    (hI : ∀ {s a t}, I s → C s a → M.step s a = some t → I t)
    (hgood : ∀ {s}, I s → ¬ Bad s) (hown : ∀ {a}, own a → ∀ s, C s a)
    (henter : ∀ {s a t}, I s → ¬ C s a → M.step s a = some t →
      ∃ bs u, (∀ b ∈ bs, own b) ∧ M.exec t bs = some u ∧ Bad u) :
    ∀ {as s t}, I s → M.exec s as = some t →
      (Along M C s as ↔ ∀ pre m, pre <+: as → M.exec s pre = some m →
        ∀ bs u, (∀ b ∈ bs, own b) → M.exec m bs = some u → ¬ Bad u) := by
  intro as s t hs h
  exact along_iff_never_bad_of (H := fun _ _ => True) (fun hs _ hC hstep => hI hs hC hstep) hgood
    (fun ha s => ⟨trivial, hown ha s⟩) (fun hs _ hC hstep => henter hs hC hstep) hs
    (along_of_forall_mem fun _ _ _ => trivial) h

instance Along.decidable {C : σ → α → Prop} [∀ s a, Decidable (C s a)] :
    ∀ (s : σ) (as : List α), Decidable (Along M C s as)
  | _, [] => isTrue trivial
  | s, a :: as =>
      match h : M.step s a with
      | none =>
          decidable_of_iff (C s a) (by simp [Along, h])
      | some t =>
          haveI := Along.decidable (C := C) t as
          decidable_of_iff (C s a ∧ Along M C t as) (by simp [Along, h])

/-! ## Guarded actions -/

section Guarded

variable {init : σ} {guard : σ → α → Prop} [∀ s a, Decidable (guard s a)] {effect : σ → α → σ}

/-- The system in which an action is enabled where its guard holds, and then
    has one effect. -/
def guarded (init : σ) (guard : σ → α → Prop) [∀ s a, Decidable (guard s a)]
    (effect : σ → α → σ) : System σ α where
  init := init
  step s a := if guard s a then some (effect s a) else none

theorem guarded_step_iff {a : α} :
    (guarded init guard effect).step s a = some t ↔ guard s a ∧ effect s a = t := by
  show (if guard s a then some (effect s a) else none) = some t ↔ _
  by_cases h : guard s a
  · rw [if_pos h, Option.some.injEq]
    exact ⟨fun ht => ⟨h, ht⟩, And.right⟩
  · rw [if_neg h]
    exact ⟨fun ht => (nomatch ht), fun ht => absurd ht.1 h⟩

/-- An action whose guard holds is enabled. -/
theorem guarded_step_of_guard {a : α} (h : guard s a) :
    (guarded init guard effect).step s a = some (effect s a) :=
  guarded_step_iff.mpr ⟨h, rfl⟩

/-- An action that is not enabled has a guard that does not hold. -/
theorem not_guard_of_step_eq_none {a : α} (h : (guarded init guard effect).step s a = none) :
    ¬ guard s a := by
  intro hg
  rw [guarded_step_of_guard hg] at h
  exact nomatch h

end Guarded

/-! ## Loops that consume inputs -/

/-- **A loop gets through its inputs exactly when each of them meets `P`**, if an
    input that meets `P` leaves it ready for the next, and any other input leaves
    it stuck. -/
theorem foldlM_ready_iff {ι : Type v} {f : σ → ι → Option σ} {P : ι → Prop}
    (Ready Stuck : σ → Prop)
    (hgo : ∀ {s i}, Ready s → P i → ∃ t, f s i = some t ∧ Ready t)
    (hend : ∀ {s i}, Ready s → ¬ P i → ∃ t, f s i = some t ∧ Stuck t)
    (hstuck : ∀ {s i}, Stuck s → f s i = none) (hne : ∀ {s}, Stuck s → ¬ Ready s) :
    ∀ {is : List ι} {s : σ}, Ready s →
      ((∃ t, is.foldlM f s = some t ∧ Ready t) ↔ ∀ i ∈ is, P i) := by
  intro is
  induction is with
  | nil =>
      intro s hs
      exact ⟨fun _ => nofun, fun _ => ⟨s, rfl, hs⟩⟩
  | cons i is ih =>
      intro s hs
      rw [List.forall_mem_cons, List.foldlM_cons]
      by_cases hi : P i
      · obtain ⟨t, ht, hready⟩ := hgo hs hi
        rw [ht, Option.bind_eq_bind, Option.bind_some, ih hready, and_iff_right hi]
      · obtain ⟨t, ht, hst⟩ := hend hs hi
        rw [ht, Option.bind_eq_bind, Option.bind_some]
        refine ⟨?_, fun h => absurd h.1 hi⟩
        rintro ⟨u, hu, hready⟩
        -- no input gets the loop out of there
        cases is with
        | nil =>
            cases Option.some.inj hu
            exact absurd hready (hne hst)
        | cons j is =>
            rw [List.foldlM_cons, hstuck hst] at hu
            exact nomatch hu

/-! ## Measures and totals -/

/-- **The measure rule**: where each step makes the measure smaller, a run is no longer
    than its start allows. -/
theorem exec_length_le {own : α → Prop} {I : σ → Prop} {μ : σ → Nat}
    (hI : ∀ {s a t}, I s → own a → M.step s a = some t → I t)
    (hμ : ∀ {s a t}, I s → own a → M.step s a = some t → μ t < μ s) :
    ∀ {as s t}, I s → (∀ a ∈ as, own a) → M.exec s as = some t → as.length + μ t ≤ μ s := by
  intro as
  induction as with
  | nil =>
      intro s t _ _ h
      cases Option.some.inj h
      exact Nat.le_of_eq (Nat.zero_add _)
  | cons a as ih =>
      intro s t hs hown h
      obtain ⟨m, hm, hrest⟩ := exec_cons_iff.mp h
      obtain ⟨ha, has⟩ := List.forall_mem_cons.mp hown
      have hlt := hμ hs ha hm
      have hle := ih (hI hs ha hm) has hrest
      rw [List.length_cons]
      omega

/-- What the steps of a run count for, together. -/
def System.tally (M : System σ α) (f : σ → α → Nat) : σ → List α → Nat
  | _, [] => 0
  | s, a :: as => f s a + (M.step s a).elim 0 fun t => M.tally f t as

theorem tally_cons {f : σ → α → Nat} {a : α} {as : List α} (h : M.step s a = some t) :
    M.tally f s (a :: as) = f s a + M.tally f t as := by
  rw [System.tally, h]
  rfl

/-- What holds between the total before a step, and the total after it with what the
    step counts for, holds for runs. -/
theorem exec_tally_of {R : Nat → Nat → Prop} (hrefl : ∀ n, R n n)
    (htrans : ∀ {k m n}, R k m → R m n → R k n) (hadd : ∀ {m n} k, R m n → R (m + k) (n + k))
    {C : σ → α → Prop} {I : σ → Prop} {V : σ → Nat} {f : σ → α → Nat}
    (hI : ∀ {s a t}, I s → C s a → M.step s a = some t → I t)
    (hV : ∀ {s a t}, I s → C s a → M.step s a = some t → R (V s) (V t + f s a)) :
    ∀ {as s t}, I s → Along M C s as → M.exec s as = some t →
      R (V s) (V t + M.tally f s as) := by
  intro as
  induction as with
  | nil =>
      intro s t _ _ h
      cases Option.some.inj h
      exact hrefl _
  | cons a as ih =>
      intro s t hs hal h
      obtain ⟨m, hm, hrest⟩ := exec_cons_iff.mp h
      have hrun := hadd (f s a) (ih (hI hs hal.1 hm) (hal.2 m hm) hrest)
      rw [Nat.add_right_comm, Nat.add_assoc, ← tally_cons hm] at hrun
      exact htrans (hV hs hal.1 hm) hrun

/-- **The total rule**: where each step takes what it counts for from a total, the run
    takes what its steps count for together. -/
theorem exec_tally {C : σ → α → Prop} {I : σ → Prop} {V : σ → Nat} {f : σ → α → Nat}
    (hI : ∀ {s a t}, I s → C s a → M.step s a = some t → I t)
    (hV : ∀ {s a t}, I s → C s a → M.step s a = some t → V t + f s a = V s) {as : List α}
    (hs : I s) (hal : Along M C s as) (h : M.exec s as = some t) :
    V t + M.tally f s as = V s :=
  (exec_tally_of (R := Eq) (fun _ => rfl) Eq.trans (fun k => congrArg (· + k)) hI
    (fun hs ha hstep => (hV hs ha hstep).symm) hs hal h).symm

/-- The total rule where a step may also add to the total. -/
theorem exec_tally_le {C : σ → α → Prop} {I : σ → Prop} {V : σ → Nat} {f : σ → α → Nat}
    (hI : ∀ {s a t}, I s → C s a → M.step s a = some t → I t)
    (hV : ∀ {s a t}, I s → C s a → M.step s a = some t → V s ≤ V t + f s a) {as : List α}
    (hs : I s) (hal : Along M C s as) (h : M.exec s as = some t) :
    V s ≤ V t + M.tally f s as :=
  exec_tally_of (R := (· ≤ ·)) Nat.le_refl Nat.le_trans (fun k hle => Nat.add_le_add_right hle k)
    hI hV hs hal h

/-! ## Components -/

/-- **A run of a system is, seen from one component, a run of that component**, if
    each step is a (possibly empty) list of the component's steps. -/
theorem exec_project {N : System σ' α'} {f : σ → σ'} {g : α → List α'}
    (hstep : ∀ {s a t}, M.step s a = some t → N.exec (f s) (g a) = some (f t)) :
    ∀ {as s t}, M.exec s as = some t → N.exec (f s) (as.flatMap g) = some (f t) := by
  intro as
  induction as with
  | nil =>
      intro s t h
      cases Option.some.inj h
      rfl
  | cons a as ih =>
      intro s t h
      obtain ⟨m, hm, hrest⟩ := exec_cons_iff.mp h
      rw [List.flatMap_cons, exec_append, hstep hm, Option.bind_some]
      exact ih hrest

/-- A run of a system is a run of a component where each step moves the component on
    by one step, or leaves it. -/
theorem exec_component {N : System σ' α'} {f : σ → σ'}
    (hstep : ∀ {s a t}, M.step s a = some t → f t = f s ∨ ∃ b, N.step (f s) b = some (f t)) :
    ∀ {as s t}, M.exec s as = some t → ∃ bs, N.exec (f s) bs = some (f t) := by
  intro as
  induction as with
  | nil =>
      intro s t h
      cases Option.some.inj h
      exact ⟨[], rfl⟩
  | cons a as ih =>
      intro s t h
      obtain ⟨m, hm, hrest⟩ := exec_cons_iff.mp h
      obtain ⟨bs, hbs⟩ := ih hrest
      rcases hstep hm with hsame | ⟨b, hb⟩
      · rw [hsame] at hbs
        exact ⟨bs, hbs⟩
      · exact ⟨b :: bs, exec_cons_iff.mpr ⟨f m, hb, hbs⟩⟩

/-- **Simulation**: what another system does after each step, from every related state, it
    does along every run. -/
theorem exec_simulate {N : System σ' α'} {R : σ → σ' → Prop} {own : α' → Prop}
    (hstep : ∀ {s u a t}, R s u → M.step s a = some t →
      ∃ bs v, (∀ b ∈ bs, own b) ∧ N.exec u bs = some v ∧ R t v) :
    ∀ {as s u t}, R s u → M.exec s as = some t →
      ∃ bs v, (∀ b ∈ bs, own b) ∧ N.exec u bs = some v ∧ R t v := by
  intro as
  induction as with
  | nil =>
      intro s u t hR h
      cases Option.some.inj h
      exact ⟨[], u, nofun, rfl, hR⟩
  | cons a as ih =>
      intro s u t hR h
      obtain ⟨m, hm, hrest⟩ := exec_cons_iff.mp h
      obtain ⟨bs, v, hown, hv, hR'⟩ := hstep hR hm
      obtain ⟨cs, w, hown', hw, hR''⟩ := ih hR' hrest
      refine ⟨bs ++ cs, w, ?_, ?_, hR''⟩
      · intro b hb
        exact (List.mem_append.mp hb).elim (hown b) (hown' b)
      · rw [exec_append, hv]
        exact hw

/-- **A run of a component is a run of the system**, if each of the component's own
    steps is a step of the system. -/
theorem exec_lift {N : System σ' α'} {f : σ → σ'} {own : α' → Prop} {goes : α → Prop}
    (hstep : ∀ {s b v}, own b → N.step (f s) b = some v →
      ∃ a t, goes a ∧ M.step s a = some t ∧ f t = v) :
    ∀ {bs s v}, (∀ b ∈ bs, own b) → N.exec (f s) bs = some v →
      ∃ as t, (∀ a ∈ as, goes a) ∧ M.exec s as = some t ∧ f t = v := by
  intro bs
  induction bs with
  | nil =>
      intro s v _ h
      exact ⟨[], s, nofun, rfl, Option.some.inj h⟩
  | cons b bs ih =>
      intro s v hown h
      obtain ⟨v', hv', hrest⟩ := exec_cons_iff.mp h
      obtain ⟨a, m, ha, hm, rfl⟩ := hstep (hown b List.mem_cons_self) hv'
      obtain ⟨as, t, has, ht, htv⟩ := ih (fun b hb => hown b (List.mem_cons_of_mem _ hb)) hrest
      refine ⟨a :: as, t, ?_, exec_cons_iff.mpr ⟨m, hm, ht⟩, htv⟩
      intro a' ha'
      rcases List.mem_cons.mp ha' with rfl | ha'
      · exact ha
      · exact has a' ha'

/-- The same where each step is a step of the system, with the component put in a
    surrounding that stays what it is. -/
theorem exec_embed {N : System σ' α'} {f : σ' → σ} {g : α' → α} {own : α' → Prop}
    (hstep : ∀ {u b v}, own b → N.step u b = some v → M.step (f u) (g b) = some (f v)) :
    ∀ {bs u v}, (∀ b ∈ bs, own b) → N.exec u bs = some v →
      M.exec (f u) (bs.map g) = some (f v) := by
  intro bs
  induction bs with
  | nil =>
      intro u v _ h
      cases Option.some.inj h
      rfl
  | cons b bs ih =>
      intro u v hown h
      obtain ⟨m, hm, hrest⟩ := exec_cons_iff.mp h
      exact exec_cons_iff.mpr ⟨f m, hstep (hown b List.mem_cons_self) hm,
        ih (fun b hb => hown b (List.mem_cons_of_mem _ hb)) hrest⟩

end Transition
