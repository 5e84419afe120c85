import Mathlib.Data.List.Nodup

/-! # Shared ownership — strong holders, upgrades, and the drop

    A value that several tasks hold by reference counting: it is created by its first
    holder, a holder may hand out further references, a task that only has a weak
    reference may try to upgrade it, and the value is dropped with its last holder.

        unborn ── create ──▶ alive (at least one holder) ── release of the last ──▶ dropped

    A shared value without holders that was not dropped cannot be written down, and
    no operation leads back from `dropped`, so the drop happens once.

    What remains to be shown of a program is that the list of holders is right:
    `Tracks x Needs Lingers` says that those who need the value are in it, each once,
    and nobody else but those who are through with it and linger.  The rules
    `Tracks.create`, `.clone`, `.release`, `.move` and `.mono` keep it; who needs the
    value keeps it alive (`Tracks.isAlive`), and nobody needs it after its drop. -/

namespace Sharing

/-- A value that is held by strong references. -/
inductive Shared (H : Type) where
  | unborn
  | alive (first : H) (others : List H)
  | dropped
  deriving DecidableEq

namespace Shared

variable {H : Type}

/-- Who holds a strong reference. -/
def holders : Shared H → List H
  | .alive first others => first :: others
  | _ => []

/-- An upgrade of a weak reference succeeds. -/
def isAlive : Shared H → Bool
  | .alive _ _ => true
  | _ => false

/-- The value is created, with its first reference. -/
def create (h : H) : Shared H := .alive h []

/-- One more strong reference, where there is one already. -/
def clone (x : Shared H) (h : H) : Shared H :=
  match x with
  | .alive first others => .alive first (others ++ [h])
  | x => x

variable {x : Shared H} {h : H}

theorem isAlive_iff : x.isAlive = true ↔ x.holders ≠ [] := by
  cases x with
  | alive first others => exact ⟨fun _ => List.cons_ne_nil _ _, fun _ => rfl⟩
  | unborn | dropped => exact ⟨fun hx => (Bool.noConfusion hx), fun hx => absurd rfl hx⟩

theorem holders_clone (hx : x.isAlive = true) (h : H) : (x.clone h).holders = x.holders ++ [h] := by
  cases x with
  | alive first others => rfl
  | unborn | dropped => cases hx

@[simp] theorem clone_eq_unborn_iff {h : H} : x.clone h = unborn ↔ x = unborn := by
  cases x with
  | unborn => exact Iff.rfl
  | alive first others => exact ⟨nofun, nofun⟩
  | dropped => exact ⟨nofun, nofun⟩

/-- What was created and is not alive was dropped. -/
theorem eq_dropped_of_not_isAlive (hborn : x ≠ unborn) (hx : x.isAlive = false) : x = dropped := by
  cases x with
  | unborn => exact absurd rfl hborn
  | alive first others => cases hx
  | dropped => rfl

variable [DecidableEq H]

/-- A holder gives its reference up; the last one drops the value. -/
def release (x : Shared H) (h : H) : Shared H :=
  match x with
  | .alive first others =>
      match (first :: others).erase h with
      | [] => .dropped
      | first :: others => .alive first others
  | x => x

/-- A holder hands its reference over. -/
def move (x : Shared H) (h h' : H) : Shared H := (x.clone h').release h

theorem holders_release (x : Shared H) (h : H) : (x.release h).holders = x.holders.erase h := by
  cases x with
  | alive first others =>
      show holders (match (first :: others).erase h with
        | [] => .dropped
        | first :: others => .alive first others) = (first :: others).erase h
      cases (first :: others).erase h <;> rfl
  | unborn | dropped => rfl

@[simp] theorem release_eq_unborn_iff : x.release h = unborn ↔ x = unborn := by
  cases x with
  | unborn => exact Iff.rfl
  | dropped => exact ⟨nofun, nofun⟩
  | alive first others =>
      show (match (first :: others).erase h with
        | [] => dropped
        | first :: others => alive first others) = unborn ↔ alive first others = unborn
      cases (first :: others).erase h <;> exact ⟨nofun, nofun⟩

@[simp] theorem move_eq_unborn_iff {h' : H} : x.move h h' = unborn ↔ x = unborn := by
  rw [move, release_eq_unborn_iff, clone_eq_unborn_iff]

end Shared

/-! ## Who needs it -/

/-- The references are held by all those who need the value, each one, and otherwise by
    those who linger only. -/
structure Tracks {H : Type} (x : Shared H) (Needs Lingers : H → Prop) : Prop where
  nodup : x.holders.Nodup
  needs : ∀ h, Needs h → h ∈ x.holders
  mem : ∀ h ∈ x.holders, Needs h ∨ Lingers h

namespace Tracks

variable {H : Type} {x : Shared H} {h h' : H} {Needs Needs' Lingers Lingers' : H → Prop}

/-- Nobody needs what is not there yet. -/
theorem unborn (hnone : ∀ h, ¬ Needs h) : Tracks .unborn Needs Lingers :=
  ⟨List.nodup_nil, fun h hh => absurd hh (hnone h), nofun⟩

theorem create (hNeeds : ∀ h', Needs h' ↔ h' = h) : Tracks (.create h) Needs Lingers := by
  refine ⟨List.nodup_singleton h, ?_, ?_⟩
  · intro h' hh'
    exact List.mem_singleton.mpr ((hNeeds h').mp hh')
  · intro h' hh'
    exact Or.inl ((hNeeds h').mpr (List.mem_singleton.mp hh'))

/-- Some who needed the value are through with it. -/
theorem mono (hx : Tracks x Needs Lingers) (hneeds : ∀ h, Needs' h → Needs h)
    (hmem : ∀ h, Needs h ∨ Lingers h → Needs' h ∨ Lingers' h) : Tracks x Needs' Lingers' :=
  ⟨hx.nodup, fun h hh => hx.needs h (hneeds h hh), fun h hh => hmem h (hx.mem h hh)⟩

/-- Who needs the value keeps it alive. -/
theorem isAlive (hx : Tracks x Needs Lingers) (hh : Needs h) : x.isAlive = true :=
  Shared.isAlive_iff.mpr (List.ne_nil_of_mem (hx.needs h hh))

/-- A value without holders is needed by nobody. -/
theorem not_needs (hx : Tracks x Needs Lingers) (hnone : x.holders = []) (h : H) : ¬ Needs h := by
  intro hh
  have hmem := hx.needs h hh
  rw [hnone] at hmem
  cases hmem

theorem clone (hx : Tracks x Needs Lingers) (halive : x.isAlive = true)
    (hnew : ¬ (Needs h ∨ Lingers h)) (hneeds : ∀ h', Needs' h' → Needs h' ∨ h' = h)
    (hmem : ∀ h', (Needs h' ∨ Lingers h') ∨ h' = h → Needs' h' ∨ Lingers' h') :
    Tracks (x.clone h) Needs' Lingers' := by
  refine ⟨?_, ?_, ?_⟩
  · rw [Shared.holders_clone halive]
    refine List.nodup_append.mpr ⟨hx.nodup, List.nodup_singleton h, ?_⟩
    intro a ha b hb hab
    rw [List.mem_singleton.mp hb] at hab
    exact hnew (hx.mem h (hab ▸ ha))
  · intro h' hh'
    rw [Shared.holders_clone halive, List.mem_append, List.mem_singleton]
    exact (hneeds h' hh').imp_left (hx.needs h')
  · intro h' hh'
    rw [Shared.holders_clone halive, List.mem_append, List.mem_singleton] at hh'
    exact hmem h' (hh'.imp_left (hx.mem h'))

variable [DecidableEq H]

theorem release (hx : Tracks x Needs Lingers) (hneeds : ∀ h', Needs' h' → Needs h' ∧ h' ≠ h)
    (hmem : ∀ h', Needs h' ∨ Lingers h' → h' ≠ h → Needs' h' ∨ Lingers' h') :
    Tracks (x.release h) Needs' Lingers' := by
  refine ⟨?_, ?_, ?_⟩
  · rw [Shared.holders_release]
    exact hx.nodup.erase h
  · intro h' hh'
    obtain ⟨hold, hne⟩ := hneeds h' hh'
    rw [Shared.holders_release, hx.nodup.mem_erase_iff]
    exact ⟨hne, hx.needs h' hold⟩
  · intro h' hh'
    rw [Shared.holders_release, hx.nodup.mem_erase_iff] at hh'
    exact hmem h' (hx.mem h' hh'.2) hh'.1

theorem move (hx : Tracks x Needs Lingers) (halive : x.isAlive = true)
    (hnew : ¬ (Needs h' ∨ Lingers h')) (hneeds : ∀ k, Needs' k → (Needs k ∨ k = h') ∧ k ≠ h)
    (hmem : ∀ k, (Needs k ∨ Lingers k) ∨ k = h' → k ≠ h → Needs' k ∨ Lingers' k) :
    Tracks (x.move h h') Needs' Lingers' := by
  -- in between both hold it
  have hboth : Tracks (x.clone h') (fun k => Needs k ∨ k = h') Lingers := by
    refine hx.clone halive hnew (fun _ hk => hk) ?_
    rintro k ((hk | hk) | hk)
    · exact Or.inl (Or.inl hk)
    · exact Or.inr hk
    · exact Or.inl (Or.inr hk)
  refine hboth.release hneeds ?_
  rintro k hk hne
  refine hmem k ?_ hne
  rcases hk with (hk | hk) | hk
  · exact Or.inl (Or.inl hk)
  · exact Or.inr hk
  · exact Or.inl (Or.inr hk)

end Tracks

end Sharing
