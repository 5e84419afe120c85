import Mathlib.Data.List.Perm.Subperm

/-! # What arrives over a network, and what comes once and first in a list

    Two kinds of channels between two machines:

    * a LOSSY one may lose and reorder messages but neither duplicates nor alters
      them: what was received is, as a multiset, part of what was sent
      (`received <+~ sent`, which `subperm_snoc` keeps);
    * a FIFO one delivers a prefix of what was sent (`received <+: sent`).

    `filterMap_map_sublist` is the rule for a message that is encoded at one end and
    decoded at the other, where decoding may fail: nothing comes out of the lossy
    channel that did not go in.

    `OnceFirst P Q` says that at most one element of a list has `P` and that every
    element with `Q` comes after one with `P`.  It passes from what was sent to what
    was received over a FIFO channel (`OnceFirst.of_prefix`), and from a list to
    what is selected of it (`OnceFirst.filterMap`). -/

namespace Network

open scoped List

variable {α β : Type}

/-! ## Lossy channels -/

/-- One more message arrives that was sent more often than it was received. -/
theorem subperm_snoc [BEq α] [LawfulBEq α] {received sent : List α} {a : α}
    (h : received <+~ sent) (ha : received.count a < sent.count a) : received ++ [a] <+~ sent := by
  rw [List.subperm_ext_iff] at h ⊢
  intro x hx
  rw [List.count_append]
  by_cases hxa : x = a
  · subst hxa
    rw [List.count_singleton_self]
    exact ha
  · rw [List.count_singleton, if_neg (by simpa using fun h => hxa h.symm), Nat.add_zero]
    refine h x ?_
    rcases List.mem_append.mp hx with hx | hx
    · exact hx
    · exact absurd (List.mem_singleton.mp hx) hxa

/-- More is sent. -/
theorem subperm_append {received sent : List α} (h : received <+~ sent) (more : List α) :
    received <+~ sent ++ more :=
  h.trans (List.sublist_append_left sent more).subperm

theorem subperm_filterMap {received sent : List α} (f : α → Option β) (h : received <+~ sent) :
    received.filterMap f <+~ sent.filterMap f := by
  obtain ⟨l, hperm, hsub⟩ := h
  exact ⟨l.filterMap f, hperm.filterMap f, hsub.filterMap f⟩

/-- **What is decoded is what was encoded**, where decoding may fail: if `decode`
    gives from an encoded message only what `select` gives from the message. -/
theorem filterMap_map_sublist {γ : Type} {encode : α → β} {decode : β → Option γ}
    {select : α → Option γ} (h : ∀ a c, decode (encode a) = some c → select a = some c) :
    ∀ l : List α, (l.map encode).filterMap decode <+ l.filterMap select := by
  intro l
  induction l with
  | nil => exact List.Sublist.refl _
  | cons a l ih =>
      rw [List.map_cons]
      cases hd : decode (encode a) with
      | none =>
          rw [List.filterMap_cons_none hd]
          exact ih.trans ((List.sublist_cons_self a l).filterMap select)
      | some c =>
          rw [List.filterMap_cons_some hd, List.filterMap_cons_some (h a c hd)]
          exact ih.cons_cons c

/-! ## Once and first -/

/-- At most one element has `P`, and every element with `Q` comes after it. -/
structure OnceFirst (P Q : α → Bool) (l : List α) : Prop where
  once : l.countP P ≤ 1
  first : ∀ before a after, l = before ++ a :: after → Q a = true → ∃ b ∈ before, P b = true

theorem OnceFirst.of_prefix {P Q : α → Bool} {l l' : List α} (h : OnceFirst P Q l)
    (hp : l' <+: l) : OnceFirst P Q l' where
  once := Nat.le_trans hp.sublist.countP_le h.once
  first before a after hl ha := by
    obtain ⟨rest, rfl⟩ := hp
    refine h.first before a (after ++ rest) ?_ ha
    rw [hl, List.append_assoc, List.cons_append]

/-- A list without elements of either kind. -/
theorem OnceFirst.of_forall {P Q : α → Bool} {l : List α}
    (h : ∀ a ∈ l, P a = false ∧ Q a = false) : OnceFirst P Q l where
  once := by
    rw [List.countP_eq_zero.mpr]
    · exact Nat.zero_le 1
    · intro a ha
      rw [(h a ha).1]
      exact Bool.false_ne_true
  first before a after hl ha := by
    have hmem : a ∈ l := hl ▸ List.mem_append_right before List.mem_cons_self
    exact absurd ((h a hmem).2.symm.trans ha) Bool.false_ne_true

/-- An element of the first kind, nothing of either kind before it, and no other of
    the first kind after it. -/
theorem OnceFirst.of_cons {P Q : α → Bool} {before after : List α} {a : α} (ha : P a = true)
    (haq : Q a = false) (hbefore : ∀ b ∈ before, P b = false ∧ Q b = false)
    (hafter : ∀ b ∈ after, P b = false) : OnceFirst P Q (before ++ a :: after) where
  once := by
    have hb : before.countP P = 0 := by
      rw [List.countP_eq_zero]
      intro b hb
      rw [(hbefore b hb).1]
      exact Bool.false_ne_true
    have hc : after.countP P = 0 := by
      rw [List.countP_eq_zero]
      intro b hb
      rw [hafter b hb]
      exact Bool.false_ne_true
    rw [List.countP_append, List.countP_cons, hb, hc, ha]
    exact Nat.le_refl 1
  first before' b after' hl hq := by
    refine ⟨a, ?_, ha⟩
    rcases List.append_eq_append_iff.mp hl with ⟨mid, rfl, hmid⟩ | ⟨mid, rfl, hmid⟩
    · cases mid with
      | nil =>
          obtain ⟨rfl, -⟩ := List.cons.inj hmid
          exact absurd (haq.symm.trans hq) Bool.false_ne_true
      | cons c mid =>
          obtain ⟨rfl, -⟩ := List.cons.inj hmid
          exact List.mem_append_right before List.mem_cons_self
    · -- an element of the second kind does not come before it
      cases mid with
      | nil =>
          obtain ⟨rfl, -⟩ := List.cons.inj hmid
          exact absurd (haq.symm.trans hq) Bool.false_ne_true
      | cons c mid =>
          obtain ⟨rfl, -⟩ := List.cons.inj hmid
          have hmem : b ∈ before' ++ b :: mid := List.mem_append_right before' List.mem_cons_self
          exact absurd ((hbefore b hmem).2.symm.trans hq) Bool.false_ne_true

/-- What is selected of a list, where the elements of the first kind are all
    selected and the selection keeps both kinds apart. -/
theorem OnceFirst.filterMap {P Q : α → Bool} {P' Q' : β → Bool} {f : α → Option β} {l : List α}
    (h : OnceFirst P Q l) (hP : ∀ a, P a = true → ∃ b, f a = some b ∧ P' b = true)
    (hP' : ∀ a b, f a = some b → P' b = true → P a = true)
    (hQ' : ∀ a b, f a = some b → Q' b = true → Q a = true) : OnceFirst P' Q' (l.filterMap f) where
  once := by
    refine Nat.le_trans ?_ h.once
    rw [List.countP_filterMap]
    refine List.countP_mono_left ?_
    intro a _ ha
    cases hf : f a with
    | none =>
        rw [hf] at ha
        exact nomatch ha
    | some b =>
        rw [hf] at ha
        exact hP' a b hf ha
  first before b after hl hb := by
    obtain ⟨l₁, l₂, rfl, rfl, hl₂⟩ := List.filterMap_eq_append_iff.mp hl
    obtain ⟨l₃, a, l₄, rfl, hnone, hf, -⟩ := List.filterMap_eq_cons_iff.mp hl₂
    obtain ⟨x, hx, hPx⟩ := h.first (l₁ ++ l₃) a l₄ (List.append_assoc _ _ _).symm (hQ' a b hf hb)
    obtain ⟨y, hfx, hPy⟩ := hP x hPx
    refine ⟨y, List.mem_filterMap.mpr ⟨x, ?_, hfx⟩, hPy⟩
    rcases List.mem_append.mp hx with hx | hx
    · exact hx
    · exact nomatch (hnone x hx).symm.trans hfx

end Network
