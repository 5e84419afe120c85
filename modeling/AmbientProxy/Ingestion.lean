import AmbientProxy.Client

/-! # Datagram ingestion — what both loops do with any bytes

    `ProxyServer::start` and `Client::start` read datagrams that the other machine
    chose.  Both call `drop_prefix`, log its error and go on; but `drop_prefix`
    panics on a datagram that is not `WellFramed`, and the panic ends the task that
    runs the loop.

    * `handleDatagram_eq_panic_iff`, `readDatagramInfo_eq_panic_iff` — the panic
      goes through both handlers;
    * `ingestion_total_iff` — for every sequence of datagrams, from every state:
      both loops get through it, and `drop_prefix` does what its type promises, if
      and only if every datagram is well framed. -/

namespace AmbientProxy

open Transition

/-- `drop_prefix` panics on exactly the datagrams that are not well framed. -/
theorem dropPrefix_eq_panic_iff {T : Type} (deserialize : Bytes → Option T) (b : Bytes) :
    dropPrefix deserialize b = .panic ↔ ¬ WellFramed b := by
  constructor
  · intro h hb
    rw [dropPrefix_of_wellFramed deserialize hb] at h
    cases hd : deserialize ((b.drop 4).take (announcedLength b)) with
    | none =>
        rw [hd] at h
        cases h
    | some header =>
        rw [hd] at h
        cases h
  · exact dropPrefix_of_not_wellFramed deserialize

namespace ProxyServer

variable {config : ProxyConfig} {s : State} {b : Bytes}

theorem handleDatagram_eq_panic_iff : handleDatagram s b = .panic ↔ ¬ WellFramed b := by
  rw [← dropPrefix_eq_panic_iff (deserialize DatagramInfo.codec)]
  unfold handleDatagram
  cases hd : dropPrefix (deserialize DatagramInfo.codec) b with
  | panic => exact ⟨fun _ => rfl, fun _ => rfl⟩
  | err e => exact ⟨nofun, nofun⟩
  | ok out =>
      obtain ⟨⟨playerId⟩, data⟩ := out
      refine ⟨?_, nofun⟩
      intro h
      change (playerConnection s playerId >>= fun conn => _) = _ at h
      unfold playerConnection at h
      cases hc : getPlayerConnection s playerId with
      | none =>
          rw [hc] at h
          cases h
      | some conn =>
          rw [hc] at h
          cases h

/-- The loop reads a datagram. -/
def ingest (config : ProxyConfig) (accepted : Bytes → Bool) (s : State) (b : Bytes) :
    Option State :=
  (system config).step s (.datagram b (accepted b))

theorem ingest_of_select {accepted : Bytes → Bool} (hp : s.phase = .select) :
    ∃ t, ingest config accepted s b = some t ∧
      t.phase = if WellFramed b then .select else .panicked := by
  show ∃ t, step config s (.datagram b (accepted b)) = some t ∧ _
  rw [step]
  split
  · dsimp only
    split
    · rename_i out hd
      have hb : WellFramed b := by
        by_contra hb
        cases hd.symm.trans (handleDatagram_eq_panic_iff.mpr hb)
      rw [if_pos hb]
      cases accepted b with
      | true => exact ⟨_, rfl, hp⟩
      | false => exact ⟨_, rfl, hp⟩
    · rename_i e hd
      have hb : WellFramed b := by
        by_contra hb
        cases hd.symm.trans (handleDatagram_eq_panic_iff.mpr hb)
      rw [if_pos hb]
      exact ⟨_, rfl, hp⟩
    · rename_i hd
      rw [if_neg (handleDatagram_eq_panic_iff.mp hd)]
      exact ⟨_, rfl, rfl⟩
  · rename_i hselect
    exact absurd hp hselect

theorem ingest_of_panicked {accepted : Bytes → Bool} (hp : s.phase = .panicked) :
    ingest config accepted s b = none := by
  show step config s (.datagram b (accepted b)) = none
  rw [step, hp]

end ProxyServer

namespace Client

variable {config : Config} {s : State} {b : Bytes}

theorem readDatagramInfo_eq_panic_iff : readDatagramInfo b = .panic ↔ ¬ WellFramed b := by
  rw [← dropPrefix_eq_panic_iff (deserialize DatagramInfo.codec)]
  unfold readDatagramInfo
  cases hd : dropPrefix (deserialize DatagramInfo.codec) b with
  | panic => exact ⟨fun _ => rfl, fun _ => rfl⟩
  | err e => exact ⟨nofun, nofun⟩
  | ok out => exact ⟨nofun, nofun⟩

/-- The loop reads a datagram, and pushes what it holds. -/
def ingest (config : Config) (s : State) (b : Bytes) : Option State := do
  let s ← (system config).step s (.datagram b)
  match s.phase with
  | .push _ _ _ => (system config).step s .push
  | _ => some s

theorem ingest_of_select (hp : s.phase = .select) :
    ∃ t, ingest config s b = some t ∧ t.phase = if WellFramed b then .select else .panicked := by
  have hstep : (system config).step s (.datagram b)
      = some ({ s with datagrams := s.datagrams ++ [b] }.receiveOutcome .datagram
          (readDatagramInfo b)) := by
    show step config s (.datagram b) = _
    rw [step, hp]
  rw [ingest, hstep]
  cases hd : readDatagramInfo b with
  | ok out =>
      have hb : WellFramed b := by
        by_contra hb
        cases hd.symm.trans (readDatagramInfo_eq_panic_iff.mpr hb)
      rw [if_pos hb]
      exact ⟨_, rfl, rfl⟩
  | err e =>
      have hb : WellFramed b := by
        by_contra hb
        cases hd.symm.trans (readDatagramInfo_eq_panic_iff.mpr hb)
      rw [if_pos hb]
      exact ⟨_, rfl, rfl⟩
  | panic =>
      rw [if_neg (readDatagramInfo_eq_panic_iff.mp hd)]
      exact ⟨_, rfl, rfl⟩

theorem ingest_of_panicked (hp : s.phase = .panicked) : ingest config s b = none := by
  have hstep : (system config).step s (.datagram b) = none := by
    show step config s (.datagram b) = none
    rw [step, hp]
  rw [ingest, hstep]
  rfl

end Client

/-- A loop whose phase after each datagram is `select` or `panicked`. -/
theorem foldlM_select_iff {σ π : Type} {f : σ → Bytes → Option σ} (phase : σ → π)
    {select panicked : π} (hne : panicked ≠ select)
    (hselect : ∀ {s b}, phase s = select →
      ∃ t, f s b = some t ∧ phase t = if WellFramed b then select else panicked)
    (hpanicked : ∀ {s b}, phase s = panicked → f s b = none) {ds : List Bytes} {s : σ}
    (hs : phase s = select) :
    (∃ t, ds.foldlM f s = some t ∧ phase t = select) ↔ ∀ b ∈ ds, WellFramed b := by
  refine foldlM_ready_iff (fun s => phase s = select) (fun s => phase s = panicked) ?_ ?_
    hpanicked ?_ hs
  · intro s b hs hb
    obtain ⟨t, ht, hphase⟩ := hselect (b := b) hs
    rw [if_pos hb] at hphase
    exact ⟨t, ht, hphase⟩
  · intro s b hs hb
    obtain ⟨t, ht, hphase⟩ := hselect (b := b) hs
    rw [if_neg hb] at hphase
    exact ⟨t, ht, hphase⟩
  · intro s hs hs'
    exact hne (hs.symm.trans hs')

/-- **Ingestion is total on exactly the well-framed datagrams.**  For every sequence
    of datagrams: whatever the other tasks have done, both loops get through the
    sequence and are ready for the next event, and `drop_prefix` gives the header
    and the rest or an error, if and only if every datagram is well framed. -/
theorem ingestion_total_iff (proxyConfig : ProxyServer.ProxyConfig) (config : Client.Config)
    (ds : List Bytes) :
    ((∀ (s : ProxyServer.State) (accepted : Bytes → Bool), s.phase = .select →
        ∃ t, ds.foldlM (ProxyServer.ingest proxyConfig accepted) s = some t ∧
          t.phase = .select) ∧
      (∀ s : Client.State, s.phase = .select →
        ∃ t, ds.foldlM (Client.ingest config) s = some t ∧ t.phase = .select) ∧
      ∀ b ∈ ds, ∀ decode : Bytes → Option DatagramInfo,
        dropPrefix decode b = claimedDropPrefix decode b) ↔
    ∀ b ∈ ds, WellFramed b := by
  have hproxy : ∀ (s : ProxyServer.State) (accepted : Bytes → Bool), s.phase = .select →
      ((∃ t, ds.foldlM (ProxyServer.ingest proxyConfig accepted) s = some t ∧
        t.phase = .select) ↔ ∀ b ∈ ds, WellFramed b) := by
    intro s accepted hs
    have hne : ProxyServer.Phase.panicked ≠ .select := nofun
    exact foldlM_select_iff ProxyServer.State.phase hne ProxyServer.ingest_of_select
      ProxyServer.ingest_of_panicked hs
  have hclient : ∀ s : Client.State, s.phase = .select →
      ((∃ t, ds.foldlM (Client.ingest config) s = some t ∧ t.phase = .select) ↔
        ∀ b ∈ ds, WellFramed b) := by
    intro s hs
    have hne : Client.Phase.panicked ≠ .select := nofun
    exact foldlM_select_iff Client.State.phase hne Client.ingest_of_select
      Client.ingest_of_panicked hs
  constructor
  · rintro ⟨hp, -, -⟩
    exact (hproxy {} (fun _ => true) rfl).mp (hp {} _ rfl)
  · intro hframed
    refine ⟨?_, ?_, ?_⟩
    · intro s accepted hs
      exact (hproxy s accepted hs).mpr hframed
    · intro s hs
      exact (hclient s hs).mpr hframed
    · intro b hb decode
      exact (dropPrefix_eq_claimed_iff decode b).mpr (hframed b hb)

/-- **The empty datagram ends both loops**, and is no error. -/
theorem not_ingested_empty :
    (¬ ∃ t, [[]].foldlM (ProxyServer.ingest ⟨0, "", "", .v4 0 0⟩ fun _ => true) {} = some t ∧
      t.phase = .select) ∧
    (¬ ∃ t, [[]].foldlM (Client.ingest ⟨none, none⟩) {} = some t ∧ t.phase = .select) ∧
    dropPrefix (deserialize DatagramInfo.codec) [] ≠
      claimedDropPrefix (deserialize DatagramInfo.codec) [] := by
  refine ⟨?_, ?_, ?_⟩
  · rintro ⟨t, ht, hp⟩
    cases Option.some.inj ht
    cases hp
  · rintro ⟨t, ht, hp⟩
    cases Option.some.inj ht
    cases hp
  · intro h
    cases h

end AmbientProxy
