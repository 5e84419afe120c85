import AmbientProxy.HttpResponses

/-! # Isolation — an allocation, and all the others

    Allocations share the management loop, the store, the event channel, the clock and
    the HTTP interface.  What an allocation and the requests for it go through does not
    depend on the others: each run, seen from one allocation, is a run of a proxy that has
    no other.  The loop's work on the others is left out, and its own work for the
    allocation closes up:

        accept … handshakeEnds id      accept, handshakeEnds id
        insert … writeMetrics          insert, writeMetrics
        recvEvent … writeMetrics       recvEvent, writeMetrics

    * `Alone.step` — the loop, step by step;
    * `isolated` — over every run: the assets, the tasks, the references to the proxy
      server, and the answers to the requests are those of a run with this allocation
      only. -/

namespace AmbientProxy

open Transition

namespace ManagementServer

open Startup (ProxyEvent)

variable {id : Uuid} {s t u v : State} {a : Action}

/-- Where the loop is with the allocation. -/
def Phase.only (id : Uuid) : Phase → Phase
  | .newProxyServer id' => if id' = id then .newProxyServer id else .select
  | .spawnStart id' => if id' = id then .spawnStart id else .select
  | .insert id' => if id' = id then .insert id else .select
  | .select | .handshake | .inserted _ | .removed _ => .select

/-- What the loop does in a step, as far as it is about the allocation. -/
def shadow (id : Uuid) (s : State) : Action → List Action
  | .handshakeEnds id' => if id' = id then [.accept, .handshakeEnds id] else []
  | .newProxyServer => if s.phase = .newProxyServer id then [.newProxyServer] else []
  | .spawnStart => if s.phase = .spawnStart id then [.spawnStart] else []
  | .insert => if s.phase = .insert id then [.insert, .writeMetrics] else []
  | .recvEvent =>
      if s.events.head? = some (.stopped id) then [.recvEvent, .writeMetrics] else []
  | .task id' a => if id' = id then [.task id a] else []
  | .accept | .handshakeFails | .writeMetrics | .tick | .serverChanges _ _ => []

/-- The steps of a loop that has only the allocation. -/
def OnlyOf (id : Uuid) : Action → Prop
  | .handshakeEnds id' | .task id' _ => id' = id
  | .accept | .newProxyServer | .spawnStart | .insert | .recvEvent | .writeMetrics => True
  | .handshakeFails | .tick | .serverChanges _ _ => False

theorem onlyOf_shadow : ∀ b ∈ shadow id s a, OnlyOf id b := by
  intro b hb
  cases a with
  | handshakeEnds id' | newProxyServer | spawnStart | insert | recvEvent | task id' a =>
      rw [shadow] at hb
      split at hb
      · simp only [List.mem_cons, List.not_mem_nil, or_false] at hb
        rcases hb with rfl | rfl <;> trivial
      · cases hb
  | accept | handshakeFails | writeMetrics | tick | serverChanges _ _ => cases hb

/-- The second loop has nothing but the allocation, and has it as the first. -/
structure Alone (id : Uuid) (s u : State) : Prop where
  phase : u.phase = s.phase.only id
  ids : ∀ id', id' ∈ u.ids ↔ id' = id ∧ id ∈ s.ids
  events : u.events = s.events.filter (· = .stopped id)
  allocation : u.allocations id = s.allocations id
  lookup : u.proxies.lookup id = s.proxies.lookup id
  only : ∀ id' ∈ u.proxies, id' = id

theorem Alone.init : Alone id {} {} where
  phase := rfl
  ids _ := ⟨nofun, fun h => nomatch h.2⟩
  events := rfl
  allocation := rfl
  lookup := rfl
  only id' h := absurd h (AList.notMem_empty id')

/-- The loop works on others, or on nothing. -/
theorem Alone.others (hs : Alone id s u) (hphase : t.phase.only id = s.phase.only id)
    (hids : id ∈ t.ids ↔ id ∈ s.ids)
    (hevents : t.events.filter (· = .stopped id) = s.events.filter (· = .stopped id))
    (hallocation : t.allocations id = s.allocations id)
    (hlookup : t.proxies.lookup id = s.proxies.lookup id) : Alone id t u where
  phase := hs.phase.trans hphase.symm
  ids id' := by rw [hs.ids, hids]
  events := hs.events.trans hevents.symm
  allocation := hs.allocation.trans hallocation.symm
  lookup := hs.lookup.trans hlookup.symm
  only := hs.only

/-- It moves the allocation on. -/
theorem Alone.move (hs : Alone id s u) {a : Startup.Action} {phase phase' : Phase}
    (hphase : phase' = phase.only id) : Alone id (s.move id a phase) (u.move id a phase') where
  phase := hphase
  ids := hs.ids
  events := hs.events
  allocation := by
    show Function.update u.allocations id _ id = Function.update s.allocations id _ id
    rw [Function.update_self, Function.update_self, hs.allocation]
  lookup := hs.lookup
  only := hs.only

/-- It moves another one on. -/
theorem Alone.moveOther (hs : Alone id s u) {a : Startup.Action} {id' : Uuid} {phase : Phase}
    (hne : id' ≠ id) (hphase : phase.only id = s.phase.only id) :
    Alone id (s.move id' a phase) u :=
  hs.others hphase Iff.rfl rfl (Function.update_of_ne hne.symm _ _) rfl

/-- A store with one entry at most has room. -/
theorem insert_fits {proxies : ProxyStore} (h : ∀ id' ∈ proxies, id' = id) (proxy : Uuid) :
    (proxies.insert id proxy).2 < 2 ^ 63 := by
  have hsub : (AList.insert id proxy proxies).keys ⊆ [id] := by
    intro id' hmem
    rcases (AList.mem_insert proxies).mp hmem with rfl | hmem
    · exact List.mem_cons_self
    · exact List.mem_singleton.mpr (h id' hmem)
  have hle := (List.subperm_of_subset (AList.keys_nodup _) hsub).length_le
  exact lt_of_le_of_lt hle (Nat.one_lt_two_pow (by decide))

/-- A new game server is given the id. -/
theorem Alone.connect (hs : Alone id s u) (hp : s.phase = .handshake) (hid : id ∉ s.ids) :
    ∃ v, system.exec u [.accept, .handshakeEnds id] = some v ∧
      Alone id { s with ids := s.ids ++ [id], phase := .newProxyServer id } v := by
  have hu := hs.phase
  rw [hp] at hu
  have hnew : id ∉ u.ids := fun hmem => hid ((hs.ids id).mp hmem).2
  have haccept : system.step u .accept = some { u with phase := .handshake } := by
    show step u .accept = _
    rw [ManagementServer.step, hu]
    rfl
  have hends : system.step { u with phase := .handshake } (.handshakeEnds id)
      = some { u with ids := u.ids ++ [id], phase := .newProxyServer id } := if_neg hnew
  refine ⟨_, exec_cons_iff.mpr ⟨_, haccept, exec_cons_iff.mpr ⟨_, hends, rfl⟩⟩, ?_⟩
  refine ⟨(if_pos rfl).symm, ?_, hs.events, hs.allocation, hs.lookup, hs.only⟩
  intro id'
  show id' ∈ u.ids ++ [id] ↔ id' = id ∧ id ∈ s.ids ++ [id]
  rw [List.mem_append, List.mem_singleton, hs.ids]
  constructor
  · rintro (h | rfl)
    · exact ⟨h.1, List.mem_append_right _ List.mem_cons_self⟩
    · exact ⟨rfl, List.mem_append_right _ List.mem_cons_self⟩
  · rintro ⟨rfl, -⟩
    exact Or.inr rfl

/-- The allocation is inserted. -/
theorem Alone.insert (hs : Alone id s u) (hp : s.phase = .insert id) :
    ∃ v, system.exec u [.insert, .writeMetrics] = some v ∧
      Alone id { s.move id .insert (.inserted (s.proxies.insert id id).2) with
        proxies := (s.proxies.insert id id).1
        accepted := s.accepted ++ [id] } v := by
  have hu := hs.phase
  rw [hp, Phase.only, if_pos rfl] at hu
  have hstep : system.step u .insert
      = some { u.move id .insert (.inserted (u.proxies.insert id id).2) with
          proxies := (u.proxies.insert id id).1
          accepted := u.accepted ++ [id] } := by
    show step u .insert = _
    rw [ManagementServer.step, hu]
    exact if_pos (insert_fits hs.only id)
  have hmove : Alone id (s.move id .insert .select) (u.move id .insert .select) := hs.move rfl
  refine ⟨_, exec_cons_iff.mpr ⟨_, hstep, exec_cons_iff.mpr ⟨_, rfl, rfl⟩⟩, ?_⟩
  refine ⟨rfl, hmove.ids, hmove.events, hmove.allocation, ?_, ?_⟩
  · show (AList.insert id id u.proxies).lookup id = (AList.insert id id s.proxies).lookup id
    rw [AList.lookup_insert, AList.lookup_insert]
  · intro id' hmem
    rcases (AList.mem_insert _).mp hmem with rfl | hmem
    · rfl
    · exact hs.only id' hmem

/-- The event of the allocation is processed. -/
theorem Alone.remove (hs : Alone id s u) (hp : s.phase = .select) {events : List ProxyEvent}
    (hev : s.events = .stopped id :: events) :
    ∃ v, system.exec u [.recvEvent, .writeMetrics] = some v ∧
      Alone id { s.move id .recvEvent (.removed (s.proxies.remove id).2.1) with
        proxies := (s.proxies.remove id).1
        events := events
        removals := s.removals ++ [(id, (s.proxies.remove id).2.2)] } v := by
  have hu := hs.phase
  have hevents := hs.events
  rw [hp] at hu
  rw [hev, List.filter_cons_of_pos (by simp)] at hevents
  have hstep : system.step u .recvEvent
      = some { u.move id .recvEvent (.removed (u.proxies.remove id).2.1) with
          proxies := (u.proxies.remove id).1
          events := events.filter (· = .stopped id)
          removals := u.removals ++ [(id, (u.proxies.remove id).2.2)] } := by
    show step u .recvEvent = _
    rw [ManagementServer.step, hu, hevents]
    rfl
  have hmove : Alone id (s.move id .recvEvent .select) (u.move id .recvEvent .select) :=
    hs.move rfl
  refine ⟨_, exec_cons_iff.mpr ⟨_, hstep, exec_cons_iff.mpr ⟨_, rfl, rfl⟩⟩, ?_⟩
  refine ⟨rfl, hmove.ids, rfl, hmove.allocation, ?_, ?_⟩
  · show (u.proxies.erase id).lookup id = (s.proxies.erase id).lookup id
    rw [AList.lookup_erase, AList.lookup_erase]
  · intro id' hmem
    exact hs.only id' (AList.mem_erase.mp hmem).2

/-- A task of the allocation takes a step. -/
theorem Alone.task (hs : Alone id s u) {a : Startup.Action} {allocation : Startup.Allocation}
    (hmem : id ∈ s.ids) (ha : a.ofTasks = true)
    (hstep : (Startup.system id).step (s.allocations id) a = some allocation) :
    ∃ v, system.exec u [.task id a] = some v ∧
      Alone id { s with
        allocations := Function.update s.allocations id allocation
        events := s.events ++ if a = .sendStopped then [.stopped id] else [] } v := by
  have hown : system.step u (.task id a)
      = some { u with
          allocations := Function.update u.allocations id allocation
          events := u.events ++ if a = .sendStopped then [.stopped id] else [] } := by
    show step u (.task id a) = _
    rw [ManagementServer.step, if_pos ⟨(hs.ids id).mpr ⟨rfl, hmem⟩, ha⟩, hs.allocation, hstep]
    rfl
  refine ⟨_, exec_cons_iff.mpr ⟨_, hown, rfl⟩, hs.phase, hs.ids, ?_, ?_, hs.lookup, hs.only⟩
  · show u.events ++ _ = (s.events ++ _).filter _
    rw [List.filter_append, hs.events]
    split <;> simp
  · show Function.update u.allocations id allocation id
      = Function.update s.allocations id allocation id
    rw [Function.update_self, Function.update_self]

/-- **A step of the loop, seen from one allocation.** -/
theorem Alone.step (hs : Alone id s u) (h : system.step s a = some t) :
    ∃ v, system.exec u (shadow id s a) = some v ∧ Alone id t v := by
  cases step_cases h with
  | accept hp | handshakeFails hp | afterInsert hp | afterRemove hp =>
      exact ⟨u, rfl, hs.others (by rw [hp]; rfl) Iff.rfl rfl rfl rfl⟩
  | tick | serverChanges => exact ⟨u, rfl, hs.others rfl Iff.rfl rfl rfl rfl⟩
  | handshakeEnds hp hnew =>
      rename_i id'
      by_cases hid : id' = id
      · subst hid
        rw [shadow, if_pos rfl]
        exact hs.connect hp hnew
      · rw [shadow, if_neg hid]
        refine ⟨u, rfl, hs.others ?_ ?_ rfl rfl rfl⟩
        · rw [hp]
          exact if_neg hid
        · rw [List.mem_append, List.mem_singleton]
          exact or_iff_left (Ne.symm hid)
  | newProxyServer hp =>
      rename_i id'
      by_cases hid : id' = id
      · subst hid
        have hu := hs.phase
        rw [hp, Phase.only, if_pos rfl] at hu
        have hstep : system.step u .newProxyServer
            = some (u.move id' .newProxyServer (.spawnStart id')) := by
          show ManagementServer.step u .newProxyServer = _
          rw [ManagementServer.step, hu]
        rw [shadow, if_pos hp]
        exact ⟨_, exec_cons_iff.mpr ⟨_, hstep, rfl⟩, hs.move (if_pos rfl).symm⟩
      · rw [shadow, if_neg (by rw [hp]; simpa using hid)]
        refine ⟨u, rfl, hs.moveOther hid ?_⟩
        rw [hp]
        exact (if_neg hid).trans (if_neg hid).symm
  | spawnStart hp =>
      rename_i id'
      by_cases hid : id' = id
      · subst hid
        have hu := hs.phase
        rw [hp, Phase.only, if_pos rfl] at hu
        have hstep : system.step u .spawnStart
            = some (u.move id' .spawnStart (.insert id')) := by
          show ManagementServer.step u .spawnStart = _
          rw [ManagementServer.step, hu]
        rw [shadow, if_pos hp]
        exact ⟨_, exec_cons_iff.mpr ⟨_, hstep, rfl⟩, hs.move (if_pos rfl).symm⟩
      · rw [shadow, if_neg (by rw [hp]; simpa using hid)]
        refine ⟨u, rfl, hs.moveOther hid ?_⟩
        rw [hp]
        exact (if_neg hid).trans (if_neg hid).symm
  | insert hp hfits =>
      rename_i id'
      by_cases hid : id' = id
      · subst hid
        rw [shadow, if_pos hp]
        exact hs.insert hp
      · rw [shadow, if_neg (by rw [hp]; simpa using hid)]
        refine ⟨u, rfl, hs.others ?_ Iff.rfl rfl (Function.update_of_ne (Ne.symm hid) _ _) ?_⟩
        · rw [hp]
          exact (if_neg hid).symm
        · exact AList.lookup_insert_ne (Ne.symm hid)
  | recvEvent hp hev =>
      rename_i id' events
      by_cases hid : id' = id
      · subst hid
        rw [shadow, hev, List.head?_cons, if_pos rfl]
        exact hs.remove hp hev
      · rw [shadow, hev, List.head?_cons, if_neg (by simpa using hid)]
        refine ⟨u, rfl, hs.others ?_ Iff.rfl ?_ (Function.update_of_ne (Ne.symm hid) _ _) ?_⟩
        · rw [hp]
          rfl
        · rw [hev, List.filter_cons_of_neg (by simpa using hid)]
        · exact AList.lookup_erase_ne (Ne.symm hid)
  | task hmem ha hstep =>
      rename_i id' a allocation
      by_cases hid : id' = id
      · subst hid
        rw [shadow, if_pos rfl]
        exact hs.task hmem ha hstep
      · rw [shadow, if_neg hid]
        refine ⟨u, rfl, hs.others rfl Iff.rfl ?_ (Function.update_of_ne (Ne.symm hid) _ _) rfl⟩
        rw [List.filter_append]
        split <;> simp [hid]

end ManagementServer

namespace HttpInterface

open Sharing

variable {config : Config} {id : Uuid} {s t u v : State} {a : Action} {r : RequestId}

/-! ## The references, along the loop -/

/-- What the loop does to the references in several steps. -/
def holdersAlong (s : ManagementServer.State) (proxyServers : Uuid → Shared Holder) :
    List ManagementServer.Action → Uuid → Shared Holder
  | [] => proxyServers
  | a :: as =>
      match ManagementServer.system.step s a with
      | some t => holdersAlong t (loopHolders s proxyServers a) as
      | none => proxyServers

/-- The loop goes on, in the whole proxy. -/
theorem exec_server {bs : List ManagementServer.Action} {server : ManagementServer.State}
    (h : ManagementServer.system.exec u.server bs = some server) :
    (system config).exec u (bs.map .server)
      = some { u with
          server := server
          proxyServers := holdersAlong u.server u.proxyServers bs } := by
  induction bs generalizing u with
  | nil =>
      cases h
      rfl
  | cons b bs ih =>
      obtain ⟨m, hm, hrest⟩ := exec_cons_iff.mp h
      have hstep : (system config).step u (.server b)
          = some { u with
              server := m
              proxyServers := loopHolders u.server u.proxyServers b } := by
        show (ManagementServer.system.step u.server b).map _ = _
        rw [hm]
        rfl
      rw [List.map_cons, holdersAlong, hm]
      exact exec_cons_iff.mpr ⟨_, hstep, ih hrest⟩

/-- A second step that concerns no reference. -/
theorem holdersAlong_pair {s : ManagementServer.State} {P : Uuid → Shared Holder}
    {b c : ManagementServer.Action} {t : ManagementServer.State}
    (h : ManagementServer.system.exec s [b, c] = some t)
    (hc : ∀ s' P', loopHolders s' P' c = P') :
    holdersAlong s P [b, c] = loopHolders s P b := by
  obtain ⟨m, hm, hrest⟩ := exec_cons_iff.mp h
  obtain ⟨n, hn, -⟩ := exec_cons_iff.mp hrest
  rw [holdersAlong, hm]
  show holdersAlong m _ [c] = _
  rw [holdersAlong, hn]
  exact hc _ _

theorem holdersAlong_single {s t : ManagementServer.State} {P : Uuid → Shared Holder}
    {b : ManagementServer.Action} (h : ManagementServer.system.exec s [b] = some t) :
    holdersAlong s P [b] = loopHolders s P b := by
  obtain ⟨m, hm, -⟩ := exec_cons_iff.mp h
  rw [holdersAlong, hm]
  rfl

/-- The loop does the same to the references of the allocation's proxy server. -/
theorem holdersAlong_shadow {s t u v : ManagementServer.State} {P Q : Uuid → Shared Holder}
    {b : ManagementServer.Action} (hs : ManagementServer.Alone id s u)
    (h : ManagementServer.system.step s b = some t)
    (hv : ManagementServer.system.exec u (ManagementServer.shadow id s b) = some v)
    (hQ : Q id = P id) :
    holdersAlong u Q (ManagementServer.shadow id s b) id = loopHolders s P b id := by
  have hu := hs.phase
  cases ManagementServer.step_cases h with
  | accept _ | handshakeFails _ | afterInsert _ | afterRemove _ | tick _ | serverChanges =>
      exact hQ
  | handshakeEnds hp hnew =>
      rename_i id'
      by_cases hid : id' = id
      · rw [ManagementServer.shadow, if_pos hid] at hv ⊢
        rw [holdersAlong_pair hv fun _ _ => rfl]
        exact hQ
      · rw [ManagementServer.shadow, if_neg hid]
        exact hQ
  | task hmem ha hstep =>
      rename_i id' a allocation
      by_cases hid : id' = id
      · rw [ManagementServer.shadow, if_pos hid] at hv ⊢
        rw [holdersAlong_single hv]
        exact hQ
      · rw [ManagementServer.shadow, if_neg hid]
        exact hQ
  | newProxyServer hp =>
      rename_i id'
      by_cases hid : id' = id
      · subst hid
        rw [hp, ManagementServer.Phase.only, if_pos rfl] at hu
        rw [ManagementServer.shadow, if_pos hp] at hv ⊢
        rw [holdersAlong_single hv, loopHolders, hu, loopHolders, hp]
        dsimp only
        rw [Function.update_self, Function.update_self]
      · rw [ManagementServer.shadow, if_neg (by rw [hp]; simpa using hid), loopHolders, hp]
        exact hQ.trans (Function.update_of_ne (Ne.symm hid) ..).symm
  | spawnStart hp =>
      rename_i id'
      by_cases hid : id' = id
      · subst hid
        rw [hp, ManagementServer.Phase.only, if_pos rfl] at hu
        rw [ManagementServer.shadow, if_pos hp] at hv ⊢
        rw [holdersAlong_single hv, loopHolders, hu, loopHolders, hp]
        dsimp only
        rw [Function.update_self, Function.update_self, hQ]
      · rw [ManagementServer.shadow, if_neg (by rw [hp]; simpa using hid), loopHolders, hp]
        exact hQ.trans (Function.update_of_ne (Ne.symm hid) ..).symm
  | insert hp hfits =>
      rename_i id'
      by_cases hid : id' = id
      · subst hid
        rw [hp, ManagementServer.Phase.only, if_pos rfl] at hu
        rw [ManagementServer.shadow, if_pos hp] at hv ⊢
        rw [holdersAlong_pair hv fun _ _ => rfl, loopHolders, hu, loopHolders, hp]
        dsimp only
        rw [Function.update_self, Function.update_self, hQ]
      · rw [ManagementServer.shadow, if_neg (by rw [hp]; simpa using hid), loopHolders, hp]
        exact hQ.trans (Function.update_of_ne (Ne.symm hid) ..).symm
  | recvEvent hp hev =>
      rename_i id' events
      by_cases hid : id' = id
      · subst hid
        have hevents := hs.events
        rw [hev, List.filter_cons_of_pos (by simp)] at hevents
        rw [ManagementServer.shadow, hev, List.head?_cons, if_pos rfl] at hv ⊢
        rw [holdersAlong_pair hv fun _ _ => rfl, loopHolders, hevents, loopHolders, hev]
        dsimp only
        rw [Function.update_self, Function.update_self, hQ]
      · rw [ManagementServer.shadow, hev, List.head?_cons, if_neg (by simpa using hid),
          loopHolders, hev]
        exact hQ.trans (Function.update_of_ne (Ne.symm hid) ..).symm

/-! ## The whole proxy, seen from one allocation -/

/-- The request is for the allocation. -/
def Asks (config : Config) (r : RequestId) (id : Uuid) : Prop :=
  config.parseUuid (config.url r).1 = some id

/-- The steps of a proxy that has only the allocation and the requests for it. -/
def OnlyOf (config : Config) (id : Uuid) : Action → Prop
  | .server a => ManagementServer.OnlyOf id a
  | .assets id' _ | .acceptUni id' _ _ | .dropProxy id' _ => id' = id
  | .tick => True
  | .request r | .parseId r | .getProxy r | .getAsset r | .returns r | .count r | .observe r
  | .drop r => Asks config r id

/-- The second proxy has nothing but the allocation and the requests for it, and has them
    as the first. -/
structure Isolated (config : Config) (id : Uuid) (s u : State) : Prop where
  server : ManagementServer.Alone id s.server u.server
  assets : u.assets id = s.assets id
  places : ∀ r, Asks config r id → u.places r = s.places r
  proxyServer : u.proxyServers id = s.proxyServers id

theorem Isolated.init : Isolated config id {} {} :=
  ⟨ManagementServer.Alone.init, rfl, fun _ _ => rfl, rfl⟩

/-- What the first proxy does for others. -/
theorem Isolated.others (hs : Isolated config id s u) (hserver : t.server = s.server)
    (hassets : t.assets id = s.assets id)
    (hplaces : ∀ r, Asks config r id → t.places r = s.places r)
    (hproxy : t.proxyServers id = s.proxyServers id) : Isolated config id t u where
  server := hserver ▸ hs.server
  assets := hs.assets.trans hassets.symm
  places r hr := (hs.places r hr).trans (hplaces r hr).symm
  proxyServer := hs.proxyServer.trans hproxy.symm

/-- The allocation that a request is about, once its id was parsed. -/
def Place.allocation : Place → Option Uuid
  | .getProxy id | .callGetAsset id | .getAsset id => some id
  | .count answer | .observe answer | .responded answer => answer.proxy
  | .notArrived | .parseId | .dropped => none

theorem asks_of_answer {answer : Answer} {id' : Uuid} (h : AnswerOk config s r answer)
    (hid : answer.proxy = some id') : Asks config r id' := by
  cases answer with
  | returned id result =>
      cases hid
      exact h.1
  | malformed | allocationNotFound => cases hid

/-- A request is about the allocation that it asks for. -/
theorem asks_of_place (hs : Requests config s) {place : Place} {id' : Uuid}
    (hp : s.places r = place) (hid : place.allocation = some id') : Asks config r id' := by
  have hok := hs r
  rw [hp] at hok
  cases place with
  | getProxy id | callGetAsset id | getAsset id =>
      cases hid
      exact hok.1
  | count answer | responded answer => exact asks_of_answer hok hid
  | observe answer => exact asks_of_answer hok.1 hid
  | notArrived | parseId | dropped => cases hid

theorem Asks.unique {id' : Uuid} (h : Asks config r id) (h' : Asks config r id') : id' = id :=
  Option.some.inj (h'.symm.trans h)

theorem assets_set_congr (u s : State) (assets : AllocatedAssets.State) :
    (u.setAssets id assets).assets id = (s.setAssets id assets).assets id := by
  rw [State.assets_setAssets_self, State.assets_setAssets_self]

/-- A request for the allocation goes on. -/
theorem Isolated.move (hs : Isolated config id s u) {place : Place}
    (hserver : t.server = s.server) (hserver' : v.server = u.server)
    (hassets : v.assets id = t.assets id)
    (hplaces : t.places = Function.update s.places r place)
    (hplaces' : v.places = Function.update u.places r place)
    (hproxy : v.proxyServers id = t.proxyServers id) : Isolated config id t v where
  server := by
    rw [hserver, hserver']
    exact hs.server
  assets := hassets
  places r' hr' := by
    rw [hplaces, hplaces']
    by_cases hne : r' = r
    · subst hne
      rw [Function.update_self, Function.update_self]
    · rw [Function.update_of_ne hne, Function.update_of_ne hne]
      exact hs.places r' hr'
  proxyServer := hproxy

/-- A request for another allocation goes on. -/
theorem Isolated.moveOther (hs : Isolated config id s u) {place : Place}
    (hr : ¬ Asks config r id) (hserver : t.server = s.server)
    (hassets : t.assets id = s.assets id)
    (hplaces : t.places = Function.update s.places r place)
    (hproxy : t.proxyServers id = s.proxyServers id) : Isolated config id t u := by
  refine hs.others hserver hassets ?_ hproxy
  intro r' hr'
  have hne : r' ≠ r := by
    rintro rfl
    exact hr hr'
  rw [hplaces, Function.update_of_ne hne]

/-- It gives its proxy server up. -/
theorem Isolated.giveUp (hs : Isolated config id s u) (r : RequestId) (proxy : Option Uuid) :
    Isolated config id (s.release r proxy) (u.release r proxy) := by
  cases proxy with
  | none => exact hs
  | some id' =>
      refine ⟨hs.server, hs.assets, hs.places, ?_⟩
      show Function.update u.proxyServers id' _ id = Function.update s.proxyServers id' _ id
      by_cases hid : id = id'
      · subst hid
        rw [Function.update_self, Function.update_self, hs.proxyServer]
      · rw [Function.update_of_ne hid, Function.update_of_ne hid, hs.proxyServer]

theorem Isolated.giveUpOther (hs : Isolated config id s u) (r : RequestId)
    {proxy : Option Uuid} (h : proxy ≠ some id) : Isolated config id (s.release r proxy) u := by
  cases proxy with
  | none => exact hs
  | some id' =>
      have hne : id ≠ id' := fun hid => h (congrArg some hid.symm)
      exact hs.others rfl rfl (fun _ _ => rfl) (Function.update_of_ne hne ..)

/-- What the second proxy does where the first one takes a step. -/
def Follows (config : Config) (id : Uuid) (u t : State) : Prop :=
  ∃ bs v, (∀ b ∈ bs, OnlyOf config id b) ∧ (system config).exec u bs = some v ∧
    Isolated config id t v

/-- It does nothing. -/
theorem Follows.rest (h : Isolated config id t u) : Follows config id u t :=
  ⟨[], u, nofun, rfl, h⟩

/-- It takes the same step. -/
theorem Follows.same (hstep : (system config).step u a = some v) (ha : OnlyOf config id a)
    (h : Isolated config id t v) : Follows config id u t := by
  refine ⟨[a], v, ?_, exec_cons_iff.mpr ⟨v, hstep, rfl⟩, h⟩
  intro b hb
  cases List.mem_singleton.mp hb
  exact ha

/-- The loop takes a step. -/
theorem Isolated.loop (hs : Isolated config id s u) {b : ManagementServer.Action}
    {server : ManagementServer.State}
    (h : ManagementServer.system.step s.server b = some server) :
    Follows config id u { s with
      server := server
      proxyServers := loopHolders s.server s.proxyServers b } := by
  obtain ⟨v, hv, halone⟩ := hs.server.step h
  refine ⟨_, _, ?_, exec_server hv, halone, hs.assets, hs.places,
    holdersAlong_shadow hs.server h hv hs.proxyServer⟩
  intro b' hb'
  obtain ⟨c, hc, rfl⟩ := List.mem_map.mp hb'
  exact ManagementServer.onlyOf_shadow c hc

/-- A step of the assets does not look at the other allocations. -/
theorem guard_isolated (hs : Isolated config id s u) (b : AllocatedAssets.Action) :
    HttpInterface.guard u id b ↔ HttpInterface.guard s id b := by
  cases b with
  | assets b =>
      cases b with
      | readToEnd _ upgraded =>
          show upgraded = (u.proxyServers id).isAlive ↔ upgraded = (s.proxyServers id).isAlive
          rw [hs.proxyServer]
      | dropReceiver =>
          show receiverGone (u.server.allocations id).messageTask = true
            ↔ receiverGone (s.server.allocations id).messageTask = true
          rw [hs.server.allocation]
      | _ => exact Iff.rfl
  | _ => exact Iff.rfl

theorem returned_isolated (hs : Isolated config id s u) (h : Holder) :
    returned u id h = returned s id h := by
  cases h with
  | task =>
      rw [returned, returned, hs.server.allocation]
  | upload upload =>
      rw [returned, returned, hs.assets]
  | _ => rfl

/-- The assets of an allocation take a step. -/
theorem Isolated.assetsStep (hs : Isolated config id s u) {id' : Uuid}
    {b : AllocatedAssets.Action} {assets : AllocatedAssets.State}
    (hg : HttpInterface.guard s id' b)
    (h : (AllocatedAssets.system (config.game id') config.compression).step (s.assets id') b
      = some assets) :
    Follows config id u { s.setAssets id' assets with
      proxyServers := Function.update s.proxyServers id'
        (uploadHolders (s.proxyServers id') assets b) } := by
  by_cases hid : id' = id
  · subst hid
    have hstep : (system config).step u (.assets id' b)
        = some { u.setAssets id' assets with
            proxyServers := Function.update u.proxyServers id'
              (uploadHolders (u.proxyServers id') assets b) } := by
      show HttpInterface.step config u (.assets id' b) = _
      rw [HttpInterface.step, if_pos ((guard_isolated hs b).mpr hg), stepAssets, hs.assets]
      change AllocatedAssets.step _ _ (s.assets id') b = some assets at h
      rw [h]
      rfl
    refine .same hstep rfl ⟨hs.server, ?_, hs.places, ?_⟩
    · show Function.update u.assets id' assets id' = Function.update s.assets id' assets id'
      rw [Function.update_self, Function.update_self]
    · show Function.update u.proxyServers id' _ id' = Function.update s.proxyServers id' _ id'
      rw [Function.update_self, Function.update_self, hs.proxyServer]
  · exact .rest (hs.others rfl (Function.update_of_ne (Ne.symm hid) ..) (fun _ _ => rfl)
      (Function.update_of_ne (Ne.symm hid) ..))

/-- A stream of an upload is accepted. -/
theorem Isolated.accept (hs : Isolated config id s u) {id' : Uuid} {upload : Assets.UploadId}
    {recvStream : RecvStream} {server : ManagementServer.State}
    {assets : AllocatedAssets.State}
    (hserver : ManagementServer.system.step s.server (.task id' (.headerRead false))
      = some server)
    (h : (AllocatedAssets.system (config.game id') config.compression).step (s.assets id')
      (.assets (.acceptUni upload recvStream)) = some assets) :
    Follows config id u { s.setAssets id' assets with server := server } := by
  obtain ⟨v, hv, halone⟩ := hs.server.step hserver
  by_cases hid : id' = id
  · subst hid
    rw [ManagementServer.shadow, if_pos rfl] at hv
    obtain ⟨m, hm, hrest⟩ := exec_cons_iff.mp hv
    cases hrest
    have hstep : (system config).step u (.acceptUni id' upload recvStream)
        = some { u.setAssets id' assets with server := v } := by
      show HttpInterface.step config u (.acceptUni id' upload recvStream) = _
      change ManagementServer.step u.server (.task id' (.headerRead false)) = some v at hm
      change AllocatedAssets.step (config.game id') config.compression (s.assets id')
        (.assets (.acceptUni upload recvStream)) = some assets at h
      rw [HttpInterface.step, hm, Option.bind_some, stepAssets, hs.assets, h]
      rfl
    refine .same hstep rfl ⟨halone, ?_, hs.places, hs.proxyServer⟩
    show Function.update u.assets id' assets id' = Function.update s.assets id' assets id'
    rw [Function.update_self, Function.update_self]
  · rw [ManagementServer.shadow, if_neg hid] at hv
    cases hv
    refine .rest ⟨halone, hs.assets.trans ?_, hs.places, hs.proxyServer⟩
    exact (Function.update_of_ne (Ne.symm hid) ..).symm

/-- A reference is dropped. -/
theorem Isolated.release (hs : Isolated config id s u) {id' : Uuid} {h : Holder}
    (hmem : h ∈ (s.proxyServers id').holders) (hreturned : returned s id' h = true) :
    Follows config id u (s.dropProxy id' h) := by
  by_cases hid : id' = id
  · subst hid
    have hstep : (system config).step u (.dropProxy id' h) = some (u.dropProxy id' h) := by
      refine if_pos ⟨?_, ?_⟩
      · rw [hs.proxyServer]
        exact hmem
      · rw [returned_isolated hs]
        exact hreturned
    refine .same hstep rfl ⟨hs.server, hs.assets, hs.places, ?_⟩
    show Function.update u.proxyServers id' _ id' = Function.update s.proxyServers id' _ id'
    rw [Function.update_self, Function.update_self, hs.proxyServer]
  · exact .rest (hs.others rfl rfl (fun _ _ => rfl) (Function.update_of_ne (Ne.symm hid) ..))

/-- A request arrives. -/
theorem Isolated.arrive (hs : Isolated config id s u) (hp : s.places r = .notArrived) :
    Follows config id u (s.setPlace r .parseId) := by
  by_cases hr : Asks config r id
  · have hstep : (system config).step u (.request r) = some (u.setPlace r .parseId) := by
      show HttpInterface.step config u (.request r) = _
      rw [HttpInterface.step, hs.places r hr, hp]
    exact .same hstep hr (hs.move rfl rfl hs.assets rfl rfl hs.proxyServer)
  · exact .rest (hs.moveOther hr rfl rfl rfl rfl)

/-- Its id is parsed. -/
theorem Isolated.parse (hs : Isolated config id s u) {id' : Uuid} (hp : s.places r = .parseId)
    (hid : config.parseUuid (config.url r).1 = some id') :
    Follows config id u (s.setPlace r (.getProxy id')) := by
  by_cases hr : Asks config r id
  · have hstep : (system config).step u (.parseId r)
        = some (u.setPlace r (.getProxy id')) := by
      show HttpInterface.step config u (.parseId r) = _
      rw [HttpInterface.step, hs.places r hr, hp]
      dsimp only
      rw [hid]
    exact .same hstep hr (hs.move rfl rfl hs.assets rfl rfl hs.proxyServer)
  · exact .rest (hs.moveOther hr rfl rfl rfl rfl)

/-- It finds the proxy server. -/
theorem Isolated.find (hs : Isolated config id s u) {id' : Uuid}
    (hp : s.places r = .getProxy id') (hasks : Asks config r id')
    (hproxy : s.server.proxies.lookup id' = some id') :
    Follows config id u ((s.setPlace r (.callGetAsset id')).hold r id') := by
  by_cases hr : Asks config r id
  · cases hasks.unique hr
    have hstep : (system config).step u (.getProxy r)
        = some ((u.setPlace r (.callGetAsset id)).hold r id) := by
      show HttpInterface.step config u (.getProxy r) = _
      rw [HttpInterface.step, hs.places r hr, hp]
      dsimp only
      rw [hs.server.lookup, hproxy]
    refine .same hstep hr (hs.move rfl rfl hs.assets rfl rfl ?_)
    show Function.update u.proxyServers id _ id = Function.update s.proxyServers id _ id
    rw [Function.update_self, Function.update_self]
    exact congrArg (·.clone (.request r)) hs.proxyServer
  · have hne : id ≠ id' := by
      rintro rfl
      exact hr hasks
    exact .rest (hs.moveOther hr rfl rfl rfl (Function.update_of_ne hne ..))

/-- It finds none. -/
theorem Isolated.miss (hs : Isolated config id s u) {id' : Uuid}
    (hp : s.places r = .getProxy id') (hasks : Asks config r id')
    (hproxy : s.server.proxies.lookup id' = none) :
    Follows config id u (s.setPlace r (.count .allocationNotFound)) := by
  by_cases hr : Asks config r id
  · cases hasks.unique hr
    have hstep : (system config).step u (.getProxy r)
        = some (u.setPlace r (.count .allocationNotFound)) := by
      show HttpInterface.step config u (.getProxy r) = _
      rw [HttpInterface.step, hs.places r hr, hp]
      dsimp only
      rw [hs.server.lookup, hproxy]
    exact .same hstep hr (hs.move rfl rfl hs.assets rfl rfl hs.proxyServer)
  · exact .rest (hs.moveOther hr rfl rfl rfl rfl)

/-- It calls `ProxyServer::get_asset`. -/
theorem Isolated.call (hs : Isolated config id s u) {id' : Uuid}
    {assets : AllocatedAssets.State} (hp : s.places r = .callGetAsset id')
    (hasks : Asks config r id')
    (h : (AllocatedAssets.system (config.game id') config.compression).step (s.assets id')
      (.assets (.getAsset r (config.url r).2 config.getAssetsDownloadTimeout)) = some assets) :
    Follows config id u ((s.setAssets id' assets).setPlace r (.getAsset id')) := by
  by_cases hr : Asks config r id
  · cases hasks.unique hr
    have hstep : (system config).step u (.getAsset r)
        = some ((u.setAssets id assets).setPlace r (.getAsset id)) := by
      show HttpInterface.step config u (.getAsset r) = _
      rw [HttpInterface.step, hs.places r hr, hp]
      dsimp only
      rw [stepAssets, hs.assets]
      exact congrArg (Option.map _) h
    exact .same hstep hr (hs.move rfl rfl (assets_set_congr u s assets) rfl rfl hs.proxyServer)
  · have hne : id ≠ id' := by
      rintro rfl
      exact hr hasks
    exact .rest (hs.moveOther hr rfl (Function.update_of_ne hne ..) rfl rfl)

/-- The call returns. -/
theorem Isolated.returns (hs : Isolated config id s u) {id' : Uuid} {call : Assets.Call}
    {result : Except Anyhow (Option Bytes)} (hp : s.places r = .getAsset id')
    (hasks : Asks config r id') (hc : (s.assets id').session.assets.calls r = some call)
    (hresult : call.place = .returned result) :
    Follows config id u (s.setPlace r (.count (.returned id' result))) := by
  by_cases hr : Asks config r id
  · cases hasks.unique hr
    obtain ⟨assetId, deadline, requested, place⟩ := call
    cases hresult
    have hstep : (system config).step u (.returns r)
        = some (u.setPlace r (.count (.returned id result))) := by
      show HttpInterface.step config u (.returns r) = _
      rw [HttpInterface.step, hs.places r hr, hp]
      dsimp only
      rw [hs.assets, hc]
    exact .same hstep hr (hs.move rfl rfl hs.assets rfl rfl hs.proxyServer)
  · exact .rest (hs.moveOther hr rfl rfl rfl rfl)

/-- A success is counted. -/
theorem Isolated.succeed (hs : Isolated config id s u) {answer : Answer} {data : Bytes}
    (hp : s.places r = .count answer) (hdata : answer.response = .ok data) :
    Follows config id u
      ((s.incAssetRequests answer.result).setPlace r (.observe answer)) := by
  by_cases hr : Asks config r id
  · have hstep : (system config).step u (.count r)
        = some ((u.incAssetRequests answer.result).setPlace r (.observe answer)) := by
      show HttpInterface.step config u (.count r) = _
      rw [HttpInterface.step, hs.places r hr, hp]
      dsimp only
      rw [hdata]
    exact .same hstep hr (hs.move rfl rfl hs.assets rfl rfl hs.proxyServer)
  · exact .rest (hs.moveOther hr rfl rfl rfl rfl)

/-- A failure is counted, and sent back. -/
theorem Isolated.fail (hs : Isolated config id s u) {answer : Answer} {status : StatusCode}
    (hp : s.places r = .count answer)
    (hasks : ∀ id', answer.proxy = some id' → Asks config r id')
    (hstatus : answer.response = .error status) :
    Follows config id u (((s.incAssetRequests answer.result).setPlace r
      (.responded answer)).release r answer.proxy) := by
  by_cases hr : Asks config r id
  · have hstep : (system config).step u (.count r)
        = some (((u.incAssetRequests answer.result).setPlace r (.responded answer)).release r
            answer.proxy) := by
      show HttpInterface.step config u (.count r) = _
      rw [HttpInterface.step, hs.places r hr, hp]
      dsimp only
      rw [hstatus]
    have hmove : Isolated config id
        ((s.incAssetRequests answer.result).setPlace r (.responded answer))
        ((u.incAssetRequests answer.result).setPlace r (.responded answer)) :=
      hs.move rfl rfl hs.assets rfl rfl hs.proxyServer
    exact .same hstep hr (hmove.giveUp r answer.proxy)
  · have hne : answer.proxy ≠ some id := fun hid => hr (hasks id hid)
    have hmove : Isolated config id
        ((s.incAssetRequests answer.result).setPlace r (.responded answer)) u :=
      hs.moveOther hr rfl rfl rfl rfl
    exact .rest (hmove.giveUpOther r hne)

/-- The data are sent back. -/
theorem Isolated.observe (hs : Isolated config id s u) {answer : Answer} {data : Bytes}
    (hp : s.places r = .observe answer)
    (hasks : ∀ id', answer.proxy = some id' → Asks config r id')
    (hdata : answer.response = .ok data) :
    Follows config id u (((s.observeAssetResponseSizeBytes data.length).setPlace r
      (.responded answer)).release r answer.proxy) := by
  by_cases hr : Asks config r id
  · have hstep : (system config).step u (.observe r)
        = some (((u.observeAssetResponseSizeBytes data.length).setPlace r
            (.responded answer)).release r answer.proxy) := by
      show HttpInterface.step config u (.observe r) = _
      rw [HttpInterface.step, hs.places r hr, hp]
      dsimp only
      rw [hdata]
    have hmove : Isolated config id
        ((s.observeAssetResponseSizeBytes data.length).setPlace r (.responded answer))
        ((u.observeAssetResponseSizeBytes data.length).setPlace r (.responded answer)) :=
      hs.move rfl rfl hs.assets rfl rfl hs.proxyServer
    exact .same hstep hr (hmove.giveUp r answer.proxy)
  · have hne : answer.proxy ≠ some id := fun hid => hr (hasks id hid)
    have hmove : Isolated config id
        ((s.observeAssetResponseSizeBytes data.length).setPlace r (.responded answer)) u :=
      hs.moveOther hr rfl rfl rfl rfl
    exact .rest (hmove.giveUpOther r hne)

/-- The request is dropped. -/
theorem Isolated.drop (hs : Isolated config id s u) {id' : Uuid}
    {assets : AllocatedAssets.State} (hp : s.places r = .getAsset id')
    (hasks : Asks config r id')
    (h : (AllocatedAssets.system (config.game id') config.compression).step (s.assets id')
      (.assets (.cancel r)) = some assets) :
    Follows config id u
      (((s.setAssets id' assets).setPlace r .dropped).release r (some id')) := by
  by_cases hr : Asks config r id
  · cases hasks.unique hr
    have hstep : (system config).step u (.drop r)
        = some (((u.setAssets id assets).setPlace r .dropped).release r (some id)) := by
      show HttpInterface.step config u (.drop r) = _
      rw [HttpInterface.step, hs.places r hr, hp]
      dsimp only
      rw [stepAssets, hs.assets]
      exact congrArg (Option.map _) h
    have hmove : Isolated config id ((s.setAssets id assets).setPlace r .dropped)
        ((u.setAssets id assets).setPlace r .dropped) :=
      hs.move rfl rfl (assets_set_congr u s assets) rfl rfl hs.proxyServer
    exact .same hstep hr (hmove.giveUp r (some id))
  · have hne : id ≠ id' := by
      rintro rfl
      exact hr hasks
    have hmove : Isolated config id ((s.setAssets id' assets).setPlace r .dropped) u :=
      hs.moveOther hr rfl (Function.update_of_ne hne ..) rfl rfl
    exact .rest (hmove.giveUpOther r fun hid => hne (Option.some.inj hid).symm)

/-- **A step of the whole proxy, seen from one allocation.** -/
theorem Isolated.step (hs : Isolated config id s u) (hserver : ManagementServer.Inv s.server)
    (hreq : Requests config s) (h : (system config).step s a = some t) :
    Follows config id u t := by
  cases step_cases h with
  | server hstep => exact hs.loop hstep
  | assets hg hstep => exact hs.assetsStep hg hstep
  | acceptUni hserver' hstep => exact hs.accept hserver' hstep
  | dropProxy hmem hreturned => exact hs.release hmem hreturned
  | tick =>
      have hstep : (system config).step u .tick
          = some { u with assets := fun id => tickAssets (u.assets id) } := rfl
      exact .same hstep trivial
        ⟨hs.server, congrArg tickAssets hs.assets, hs.places, hs.proxyServer⟩
  | request hp => exact hs.arrive hp
  | parsed hp hid => exact hs.parse hp hid
  | malformed hp hid =>
      rename_i r
      have hr : ¬ Asks config r id := fun hr => nomatch hid.symm.trans hr
      exact .rest (hs.moveOther hr rfl rfl rfl rfl)
  | foundProxy hp hproxy =>
      -- the store has each proxy server under its own id
      cases hserver.own _ _ hproxy
      exact hs.find hp (asks_of_place hreq hp rfl) hproxy
  | noProxy hp hproxy => exact hs.miss hp (asks_of_place hreq hp rfl) hproxy
  | getAsset hp hstep => exact hs.call hp (asks_of_place hreq hp rfl) hstep
  | returns hp hc hresult => exact hs.returns hp (asks_of_place hreq hp rfl) hc hresult
  | countSuccess hp hdata => exact hs.succeed hp hdata
  | countFailure hp hstatus => exact hs.fail hp (fun _ => asks_of_place hreq hp) hstatus
  | observe hp hdata => exact hs.observe hp (fun _ => asks_of_place hreq hp) hdata
  | drop hp hstep => exact hs.drop hp (asks_of_place hreq hp rfl) hstep

/-- **Isolation.**  In every run of the whole proxy, for every allocation, there is a run
    with this allocation only, in which no other game server ever connects and no request
    is for another, such that all that belongs to the allocation ends up the same: its
    tasks, its assets at both ends, its entry in the store, the references to its proxy
    server, and every request for it with its answer. -/
theorem isolated {acts : List Action} (h : (system config).exec {} acts = some s) (id : Uuid) :
    ∃ own u, (∀ a ∈ own, OnlyOf config id a) ∧ (system config).exec {} own = some u ∧
      (∀ id', id' ∈ u.server.ids → id' = id) ∧
      u.server.allocations id = s.server.allocations id ∧ u.assets id = s.assets id ∧
      u.server.proxies.lookup id = s.server.proxies.lookup id ∧
      u.proxyServers id = s.proxyServers id ∧
      ∀ r, Asks config r id → u.places r = s.places r := by
  have hrun : ∃ own u, (∀ a ∈ own, OnlyOf config id a) ∧
      (system config).exec {} own = some u ∧
      ManagementServer.Inv s.server ∧ Requests config s ∧ Isolated config id s u := by
    refine exec_simulate (R := fun s u => ManagementServer.Inv s.server ∧ Requests config s ∧
      Isolated config id s u) ?_ ⟨ManagementServer.Inv.init, Requests.init, Isolated.init⟩ h
    rintro s u a t ⟨hserver, hreq, hs⟩ hstep
    obtain ⟨bs, v, hown, hv, hs'⟩ := hs.step hserver hreq hstep
    refine ⟨bs, v, hown, hv, ?_, hreq.step hserver hstep, hs'⟩
    rcases server_step hstep with heq | ⟨b, hb⟩
    · exact heq ▸ hserver
    · exact hserver.step hb
  obtain ⟨own, u, hown, hu, -, -, hs⟩ := hrun
  exact ⟨own, u, hown, hu, fun id' hid' => ((hs.server.ids id').mp hid').1,
    hs.server.allocation, hs.assets, hs.server.lookup, hs.proxyServer, hs.places⟩

/-- Two game servers; one of them goes while a request for the other waits. -/
def besideAnother : List Action :=
  connect 1 ++ connect 2 ++ ask 1 0 ++
    [Startup.Action.close, .headerFails, .startSeesClosed, .sendStopped].map
      (fun a => .server (.task 2 a)) ++
    [.server .recvEvent, .server .writeMetrics] ++ upload 1 ++ finish 1 0

theorem isolated_besideAnother :
    ∃ s, (system oneGame).exec {} besideAnother = some s ∧
      ∃ own u, (∀ a ∈ own, OnlyOf oneGame 1 a) ∧ (system oneGame).exec {} own = some u ∧
        (∀ id', id' ∈ u.server.ids → id' = 1) ∧
        u.places 0 = .responded (.returned 1 (.ok (some [0x07]))) := by
  have hrun : (system oneGame).exec {} besideAnother = some _ := rfl
  obtain ⟨own, u, hown, hu, hids, -, -, -, -, hplaces⟩ := isolated hrun 1
  exact ⟨_, rfl, own, u, hown, hu, hids, hplaces 0 rfl⟩

end HttpInterface

end AmbientProxy
