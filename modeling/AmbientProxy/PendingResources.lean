import AmbientProxy.Client

/-! # Pending resources — delivered once and in order

    The loop of the client has an item for a player in hand, pushes it under the
    lock of its map, and any number of calls pop items under the same lock.  The
    equation that every step keeps, for every kind and every player:

        handed out  ++  queued  ++  in the loop's hand  =  received

    Each item that was handed out is what exactly one call returned, and that call
    was made for its kind and its player (`delivered_once`). -/

namespace AmbientProxy.Client

open Transition Sync

/-! ## Families over kinds and players -/

section Update

variable {V : Kind → Type} (f : (k : Kind) → Str → V k) (k : Kind) (p : Str) (value : V k)

theorem update_self : update f k p value k p = value := by
  rw [update, Function.update_self, Function.update_self]

variable {f k p value} in
theorem update_of_ne {k' : Kind} {p' : Str} (h : ¬ (k' = k ∧ p' = p)) :
    update f k p value k' p' = f k' p' := by
  rw [update]
  by_cases hk : k' = k
  · subst hk
    rw [Function.update_self, Function.update_of_ne fun hp => h ⟨rfl, hp⟩]
  · rw [Function.update_of_ne hk]

end Update

namespace PendingResources

variable (pending : PendingResources) {k k' : Kind}

theorem map_setMap_self (map : HashMap (QueuedResource k.Item)) :
    (pending.setMap k map).map k = map := by
  cases k <;> rfl

theorem map_setMap_of_ne (map : HashMap (QueuedResource k.Item)) (h : k' ≠ k) :
    (pending.setMap k map).map k' = pending.map k' := by
  cases k <;> cases k' <;> first | rfl | exact absurd rfl h

/-- An entry is changed for one kind and one player. -/
theorem resource_setResource (p : Str) (r : QueuedResource k.Item) :
    (pending.setResource k p r).resource = update pending.resource k p r := by
  ext k' p' : 2
  by_cases h : k' = k ∧ p' = p
  · obtain ⟨rfl, rfl⟩ := h
    rw [update_self, resource, setResource, map_setMap_self, DashMap.entry_insert, if_pos rfl]
  · rw [update_of_ne h, resource, setResource]
    by_cases hk : k' = k
    · subst hk
      rw [map_setMap_self, DashMap.entry_insert, if_neg fun hp => h ⟨rfl, hp⟩, resource]
    · rw [map_setMap_of_ne pending _ hk, resource]

end PendingResources

/-- The item that the loop has in hand. -/
def Phase.inHand : Phase → (k : Kind) → Str → List k.Item
  | .push k p item => update (fun _ _ => []) k p [item]
  | _ => fun _ _ => []

/-- What holds of the queues, of the calls and of what was handed out. -/
structure Inv (s : State) : Prop where
  delivered : ∀ k p, (s.handedOut k p).map Prod.snd ++ (s.resource k p).queue ++
    s.phase.inHand k p = s.received k p
  returned : ∀ k p c item,
    (c, item) ∈ s.handedOut k p ↔ s.calls c = some ⟨k, p, .returned item⟩
  nodup : ∀ k p, ((s.handedOut k p).map Prod.fst).Nodup

variable {config : Config} {s t : State} {a : Action} {k : Kind} {p : Str} {c : CallId}

theorem Inv.init : Inv {} where
  delivered k p := by cases k <;> rfl
  returned k p c item := by
    constructor
    · intro h
      exact absurd h List.not_mem_nil
    · intro h
      exact nomatch h
  nodup k p := List.nodup_nil

/-- The parts that the invariant speaks of do not change. -/
theorem Inv.frame (hs : Inv s) (hphase : t.phase.inHand = s.phase.inHand)
    (hqueue : ∀ k p, (t.resource k p).queue = (s.resource k p).queue)
    (hreceived : t.received = s.received) (hhanded : t.handedOut = s.handedOut)
    (hcalls : t.calls = s.calls) : Inv t where
  delivered k p := by
    rw [hphase, hqueue, hreceived, hhanded]
    exact hs.delivered k p
  returned := by
    rw [hhanded, hcalls]
    exact hs.returned
  nodup := by
    rw [hhanded]
    exact hs.nodup

/-- The loop goes on without an item in hand. -/
theorem Inv.withPhase {phase : Phase} (hs : Inv s) (hn : s.phase.inHand = fun _ _ => [])
    (hn' : phase.inHand = fun _ _ => []) : Inv { s with phase := phase } :=
  hs.frame (hn'.trans hn.symm) (fun _ _ => rfl) rfl rfl rfl

/-- An entry changes, but not its queue. -/
theorem Inv.setNotify (hs : Inv s) {r : QueuedResource k.Item}
    (hr : r.queue = (s.resource k p).queue) : Inv (s.setResource k p r) := by
  refine hs.frame rfl ?_ rfl rfl rfl
  intro k' p'
  show ((s.pending.setResource k p r).resource k' p').queue = _
  rw [PendingResources.resource_setResource]
  by_cases h : k' = k ∧ p' = p
  · obtain ⟨rfl, rfl⟩ := h
    rw [update_self]
    exact hr
  · rw [update_of_ne h]
    rfl

/-- A call that has not returned goes on, and does not return. -/
theorem Inv.setCall {call : Call} (hs : Inv s)
    (hold : ∀ k p item, s.calls c ≠ some ⟨k, p, .returned item⟩)
    (hnew : ∀ k p item, call ≠ ⟨k, p, .returned item⟩) : Inv (s.setCall c call) where
  delivered := hs.delivered
  returned k p c' item := by
    show (c', item) ∈ s.handedOut k p ↔ Function.update s.calls c (some call) c' = _
    rw [hs.returned k p c' item]
    by_cases hne : c' = c
    · subst hne
      rw [Function.update_self]
      constructor
      · intro h
        exact absurd h (hold k p item)
      · intro h
        exact absurd (Option.some.inj h) (hnew k p item)
    · rw [Function.update_of_ne hne]
  nodup := hs.nodup

/-- A call looks into the entry, or polls or drops its future, and does not return. -/
theorem Inv.setEntry {r : QueuedResource k.Item} {call : Call} (hs : Inv s)
    (hr : r.queue = (s.resource k p).queue)
    (hold : ∀ k p item, s.calls c ≠ some ⟨k, p, .returned item⟩)
    (hnew : ∀ k p item, call ≠ ⟨k, p, .returned item⟩) :
    Inv ((s.setResource k p r).setCall c call) :=
  (hs.setNotify hr).setCall hold hnew

/-- The loop takes an item for a player in hand. -/
theorem Inv.receive (hs : Inv s) (hn : s.phase.inHand = fun _ _ => []) (item : k.Item) :
    Inv (s.receive k p item) where
  delivered k' p' := by
    have h := hs.delivered k' p'
    rw [hn, List.append_nil] at h
    show _ ++ (s.resource k' p').queue ++ update (fun _ _ => []) k p [item] k' p'
      = update s.received k p (s.received k p ++ [item]) k' p'
    by_cases hkp : k' = k ∧ p' = p
    · obtain ⟨rfl, rfl⟩ := hkp
      rw [update_self, update_self, ← h]
      rfl
    · rw [update_of_ne hkp, update_of_ne hkp, List.append_nil]
      exact h
  returned := hs.returned
  nodup := hs.nodup

theorem Inv.receiveOutcome (hs : Inv s) (hn : s.phase.inHand = fun _ _ => [])
    (outcome : Outcome (Str × k.Item)) : Inv (s.receiveOutcome k outcome) := by
  cases outcome with
  | ok out => exact hs.receive hn out.2
  | err e => exact hs.withPhase hn rfl
  | panic => exact hs.withPhase hn rfl

/-- The loop pushes the item that it has in hand. -/
theorem Inv.push {item : k.Item} (hs : Inv s) (hp : s.phase = .push k p item) :
    Inv { s.setResource k p ((s.resource k p).push item) with phase := .select } where
  delivered k' p' := by
    have h := hs.delivered k' p'
    rw [hp] at h
    change _ ++ (s.resource k' p').queue ++ update (fun _ _ => []) k p [item] k' p' = _ at h
    show _ ++ ((s.pending.setResource k p _).resource k' p').queue ++ [] = _
    rw [PendingResources.resource_setResource, List.append_nil]
    by_cases hkp : k' = k ∧ p' = p
    · obtain ⟨rfl, rfl⟩ := hkp
      rw [update_self, List.append_assoc] at h
      rw [update_self]
      exact h
    · rw [update_of_ne hkp, List.append_nil] at h
      rw [update_of_ne hkp]
      exact h
  returned := hs.returned
  nodup := hs.nodup

/-- One more item is handed out, to the call that returns it. -/
theorem mem_handedOut_snoc_iff {f : (k : Kind) → Str → List (CallId × k.Item)} {k' : Kind}
    {p' : Str} {c' : CallId} {item : k.Item} {item' : k'.Item} :
    (c', item') ∈ update f k p (f k p ++ [(c, item)]) k' p' ↔
      (c', item') ∈ f k' p' ∨
        c' = c ∧ (⟨k', p', .returned item'⟩ : Call) = ⟨k, p, .returned item⟩ := by
  by_cases hkp : k' = k ∧ p' = p
  · obtain ⟨rfl, rfl⟩ := hkp
    have hitem : item' = item ↔
        (⟨k', p', .returned item'⟩ : Call) = ⟨k', p', .returned item⟩ := by
      constructor
      · rintro rfl
        rfl
      · intro h
        cases h
        rfl
    rw [update_self, List.mem_append, List.mem_singleton, Prod.mk.injEq, hitem]
  · rw [update_of_ne hkp, or_iff_left]
    rintro ⟨-, h⟩
    cases h
    exact hkp ⟨rfl, rfl⟩

/-- A call pops the first item of the queue and returns it. -/
theorem Inv.pop {item : k.Item} {rest : List k.Item} (hs : Inv s)
    (hc : s.calls c = some ⟨k, p, .lock⟩) (hq : (s.resource k p).queue = item :: rest) :
    Inv { (s.setResource k p { s.resource k p with queue := rest }).setCall c
        ⟨k, p, .returned item⟩ with
      handedOut := update s.handedOut k p (s.handedOut k p ++ [(c, item)]) } where
  delivered k' p' := by
    have h := hs.delivered k' p'
    show (update s.handedOut k p _ k' p').map Prod.snd
      ++ ((s.pending.setResource k p _).resource k' p').queue ++ s.phase.inHand k' p'
      = s.received k' p'
    rw [PendingResources.resource_setResource]
    by_cases hkp : k' = k ∧ p' = p
    · obtain ⟨rfl, rfl⟩ := hkp
      rw [hq] at h
      rw [update_self, update_self, List.map_append, ← h]
      simp only [List.map_cons, List.map_nil, List.append_assoc, List.cons_append, List.nil_append]
    · rw [update_of_ne hkp, update_of_ne hkp]
      exact h
  returned k' p' c' item' := by
    show (c', item') ∈ update s.handedOut k p _ k' p'
      ↔ Function.update s.calls c _ c' = _
    rw [mem_handedOut_snoc_iff, hs.returned]
    by_cases hne : c' = c
    · -- the call was not among those that had returned
      subst hne
      rw [hc, Function.update_self]
      constructor
      · rintro (h | ⟨-, h⟩)
        · cases h
        · exact congrArg some h.symm
      · intro h
        exact .inr ⟨rfl, (Option.some.inj h).symm⟩
    · rw [Function.update_of_ne hne, or_iff_left]
      rintro ⟨h, -⟩
      exact hne h
  nodup k' p' := by
    show ((update s.handedOut k p _ k' p').map Prod.fst).Nodup
    by_cases hkp : k' = k ∧ p' = p
    · obtain ⟨rfl, rfl⟩ := hkp
      rw [update_self, List.map_append, List.nodup_append]
      refine ⟨hs.nodup k' p', List.nodup_singleton _, ?_⟩
      rintro c1 hmem c2 hlast rfl
      cases List.mem_singleton.mp hlast
      obtain ⟨⟨c', item'⟩, hout, rfl⟩ := List.mem_map.mp hmem
      cases hc.symm.trans ((hs.returned k' p' c' item').mp hout)
    · rw [update_of_ne hkp]
      exact hs.nodup k' p'

theorem inHand_of_phase {phase phase' : Phase} (hp : phase = phase')
    (hn : phase'.inHand = fun _ _ => []) : phase.inHand = fun _ _ => [] :=
  hp ▸ hn

theorem Inv.step (hs : Inv s) (h : (system config).step s a = some t) : Inv t := by
  cases step_cases h with
  | close | allocateEndpoint | sendDatagram | datagramLost =>
      exact hs.frame rfl (fun _ _ => rfl) rfl rfl rfl
  | playerConnected _ | ignoreAsset _ _ => exact hs.frame rfl (fun _ _ => rfl) rfl rfl rfl
  | allocation hp | requestAsset hp _ | notifyAllocated hp | callAllocated hp _ | callPanics hp _
  | assetLoaded hp | assetMissing hp | clientMessage hp _ | messageSent hp | messageLost hp
  | uniStream hp | biStream hp | seesClosed hp _ =>
      have hn : s.phase.inHand = fun _ _ => [] := inHand_of_phase hp rfl
      exact hs.frame hn.symm (fun _ _ => rfl) rfl rfl rfl
  | uniHeader hp | biHeader hp =>
      exact hs.receiveOutcome (inHand_of_phase hp rfl) _
  | datagram hp =>
      rename_i data
      have hread : Inv { s with datagrams := s.datagrams ++ [data] } :=
        hs.frame rfl (fun _ _ => rfl) rfl rfl rfl
      exact hread.receiveOutcome (inHand_of_phase hp rfl) _
  | push hp => exact hs.push hp
  | acceptUni hc | acceptBi hc | readDatagram hc =>
      refine hs.setCall ?_ nofun
      intro k p item
      rw [hc]
      exact nofun
  | popped hc hq => exact hs.pop hc hq
  | empty hc hq =>
      refine hs.setEntry rfl ?_ nofun
      intro k p item heq
      cases hc.symm.trans heq
  | createNotified hc =>
      refine hs.setCall ?_ nofun
      intro k p item heq
      cases hc.symm.trans heq
  | pollNotified hc _ =>
      obtain ⟨notify, place, hplace, heq⟩ := pollNotified_eq s _ _ _ _
      rw [heq]
      refine hs.setEntry rfl ?_ ?_
      · intro k p item heq
        cases hc.symm.trans heq
      · intro k p item heq
        cases heq
        exact hplace item rfl
  | cancel hc =>
      refine hs.setEntry rfl ?_ nofun
      intro k p item heq
      cases hc.symm.trans heq

theorem inv_of_exec {acts : List Action} (h : (system config).exec {} acts = some s) : Inv s :=
  exec_invariant Inv.step Inv.init h

/-- **Every item is delivered once and in order.**  For every kind and every player,
    the items handed out, in the order of the pops, followed by those still queued,
    are the items that the loop received, but for the one it has in hand until it has
    pushed it.  An item is handed out to one call, which was made for its kind and
    its player and returns it. -/
theorem delivered_once {acts : List Action} (h : (system config).exec {} acts = some s) :
    (∀ k p, (s.handedOut k p).map Prod.snd ++ (s.resource k p).queue ++ s.phase.inHand k p
      = s.received k p) ∧
    ((∀ k p item, s.phase ≠ .push k p item) →
      ∀ k p, (s.handedOut k p).map Prod.snd ++ (s.resource k p).queue = s.received k p) ∧
    (∀ k p c item, (c, item) ∈ s.handedOut k p ↔ s.calls c = some ⟨k, p, .returned item⟩) ∧
    ∀ k p, ((s.handedOut k p).map Prod.fst).Nodup := by
  have hs := inv_of_exec h
  refine ⟨hs.delivered, ?_, hs.returned, hs.nodup⟩
  intro hpush k p
  have hn : s.phase.inHand k p = [] := by
    cases hphase : s.phase with
    | push k' p' item => exact absurd hphase (hpush k' p' item)
    | _ => rfl
  rw [← hs.delivered k p, hn, List.append_nil]

/-- Two datagrams of a player and one of another, neither of them announced; a call for each
    player takes one. -/
def threeDatagrams : List Action :=
  [.datagram (sendDatagram Str.a [0x07]), .push, .datagram (sendDatagram Str.b [0x08]), .push,
    .datagram (sendDatagram Str.a [0x09]), .push, .readDatagram 0 Str.a, .lock 0,
    .readDatagram 1 Str.b, .lock 1]

theorem delivered_once_threeDatagrams :
    ∃ s, (system ⟨none, none⟩).exec {} threeDatagrams = some s ∧
      s.received .datagram Str.a = ([[0x07], [0x09]] : List Bytes) ∧
      (s.resource .datagram Str.a).queue = ([[0x09]] : List Bytes) ∧
      (s.handedOut .datagram Str.a).map Prod.snd ++ (s.resource .datagram Str.a).queue
        = s.received .datagram Str.a ∧
      (0, ([0x07] : Bytes)) ∈ s.handedOut .datagram Str.a ∧
      (1, ([0x08] : Bytes)) ∈ s.handedOut .datagram Str.b := by
  have hrun : (system ⟨none, none⟩).exec {} threeDatagrams = some _ := rfl
  obtain ⟨-, hall, hreturned, -⟩ := delivered_once hrun
  exact ⟨_, rfl, rfl, rfl, hall nofun .datagram Str.a,
    (hreturned .datagram Str.a 0 _).mpr rfl, (hreturned .datagram Str.b 1 _).mpr rfl⟩

end AmbientProxy.Client
