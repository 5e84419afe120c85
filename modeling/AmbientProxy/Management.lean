import AmbientProxy.Startup
import Mathlib.Data.List.AList

/-! # The management loop — all allocations of one proxy

    `src/server.rs`: `ManagementServer::start` accepts the game servers one after the
    other and keeps them in `ProxyStore` until it receives their `Stopped` event.
    `Startup` follows one allocation; here are any number of them, with the loop,
    the store, the event channel and the metrics that they share:

        Some(conn) = endpoint.accept()   handle_connection(conn): the handshake, an
                                         id, ProxyServer::new, spawn; then insert
        Ok(event) = rx.recv_async()      remove
        tick()                           the metrics of all proxies

    A spawned `ProxyServer::start` runs while the loop goes on, so its `Stopped` can
    be in the channel before its entry is in the store.

    `store_consistent`: between two iterations the store holds exactly the accepted
    allocations whose event was not processed, every event found its own entry, and
    the gauge of the connections is the number of entries. -/

namespace AmbientProxy.ManagementServer

open Transition Startup

/-- `ConnectionRole`. -/
inductive ConnectionRole where
  | client
  | server
  deriving DecidableEq

/-- The parts of `Metrics` that the loop writes. -/
structure Metrics where
  connections : ConnectionRole → Nat := fun _ => 0
  currentConnections : ConnectionRole → Option Nat := fun _ => none
  currentAssetsSizeBytes : Nat := 0

namespace Metrics

/-- `inc_connections`. -/
def incConnections (m : Metrics) (role : ConnectionRole) : Metrics :=
  { m with connections := Function.update m.connections role (m.connections role + 1) }

/-- `set_current_connections`: the gauge is an `i64`. -/
def setCurrentConnections (m : Metrics) (role : ConnectionRole) (count : Nat) : Metrics :=
  if count < 2 ^ 63 then
    { m with currentConnections := Function.update m.currentConnections role (some count) }
  else m

/-- `set_current_assets_size_bytes`. -/
def setCurrentAssetsSizeBytes (m : Metrics) (size : Nat) : Metrics :=
  if size < 2 ^ 63 then { m with currentAssetsSizeBytes := size } else m

@[simp] theorem currentConnections_incConnections (m : Metrics) (role : ConnectionRole) :
    (m.incConnections role).currentConnections = m.currentConnections := rfl

@[simp] theorem currentConnections_setCurrentAssetsSizeBytes (m : Metrics) (size : Nat) :
    (m.setCurrentAssetsSizeBytes size).currentConnections = m.currentConnections := by
  rw [setCurrentAssetsSizeBytes]
  split <;> rfl

theorem currentConnections_set_self (m : Metrics) (role : ConnectionRole) {count : Nat}
    (h : count < 2 ^ 63) : (m.setCurrentConnections role count).currentConnections role
      = some count := by
  rw [setCurrentConnections, if_pos h]
  exact Function.update_self ..

theorem currentConnections_set_of_ne (m : Metrics) {role role' : ConnectionRole}
    (h : role' ≠ role) (count : Nat) : (m.setCurrentConnections role count).currentConnections role'
      = m.currentConnections role' := by
  rw [setCurrentConnections]
  split
  · exact Function.update_of_ne h ..
  · rfl

end Metrics

/-- `ProxyStore`: the proxy server of an id, named by the id in its configuration. -/
abbrev ProxyStore := AList fun _ : Uuid => Uuid

/-- What the loop reads of a proxy server. -/
structure ServerSizes where
  playerConns : Nat := 0
  totalAssetsSize : Nat := 0

namespace ProxyStore

/-- `insert`, with the number of entries. -/
def insert (store : ProxyStore) (id proxy : Uuid) : ProxyStore × Nat :=
  (AList.insert id proxy store, (AList.insert id proxy store).keys.length)

/-- `remove`, with the number of entries and the proxy server it found. -/
def remove (store : ProxyStore) (id : Uuid) : ProxyStore × Nat × Option Uuid :=
  (store.erase id, (store.erase id).keys.length, store.lookup id)

/-- `fold_proxies`, for the sums of the loop: they are 64 bits wide. -/
def foldProxies (store : ProxyStore) (f : Uuid → Nat) : Nat :=
  store.entries.foldl (fun sum entry => (sum + f entry.2) % 2 ^ 64) 0

end ProxyStore

/-- Where the loop is. -/
inductive Phase where
  | select
  /-- In `handle_connection`, at `conn.await`. -/
  | handshake
  | newProxyServer (id : Uuid)
  | spawnStart (id : Uuid)
  /-- `handle_connection` returned `Ok`. -/
  | insert (id : Uuid)
  /-- About to write the metrics after an insertion. -/
  | inserted (proxiesCount : Nat)
  /-- About to write the metrics after a removal. -/
  | removed (proxiesCount : Nat)
  deriving DecidableEq

/-- The loop, what it owns, and the allocations with their tasks.  The last three
    fields only record: the ids drawn, those inserted, and the events processed,
    each with what `remove` found. -/
structure State where
  phase : Phase := .select
  proxies : ProxyStore := ∅
  events : List ProxyEvent := []
  metrics : Metrics := {}
  allocations : Uuid → Allocation := fun _ => {}
  sizes : Uuid → ServerSizes := fun _ => {}
  ids : List Uuid := []
  accepted : List Uuid := []
  removals : List (Uuid × Option Uuid) := []

inductive Action where
  -- the loop
  | accept
  | handshakeFails
  | handshakeEnds (id : Uuid)
  | newProxyServer
  | spawnStart
  | insert
  | recvEvent
  | writeMetrics
  | tick
  -- the connection and the two tasks of an allocation
  | task (id : Uuid) (a : Startup.Action)
  | serverChanges (id : Uuid) (sizes : ServerSizes)

namespace State

/-- The loop does its part of an allocation. -/
def move (s : State) (id : Uuid) (a : Startup.Action) (phase : Phase) : State :=
  { s with
    allocations := Function.update s.allocations id (effect id (s.allocations id) a)
    phase := phase }

/-- The events that the loop has received. -/
def processed (s : State) : List ProxyEvent := s.removals.map fun removal => .stopped removal.1

end State

/-- What each action does, where it is enabled. -/
def step (s : State) : Action → Option State
  | .accept =>
      match s.phase with
      | .select => some { s with phase := .handshake }
      | _ => none
  | .handshakeFails =>
      match s.phase with
      | .handshake => some { s with phase := .select }
      | _ => none
  | .handshakeEnds id =>
      match s.phase with
      | .handshake =>
          -- `Uuid::new_v4` draws no id twice
          if id ∈ s.ids then none
          else some { s with ids := s.ids ++ [id], phase := .newProxyServer id }
      | _ => none
  | .newProxyServer =>
      match s.phase with
      | .newProxyServer id => some (s.move id .newProxyServer (.spawnStart id))
      | _ => none
  | .spawnStart =>
      match s.phase with
      | .spawnStart id => some (s.move id .spawnStart (.insert id))
      | _ => none
  | .insert =>
      match s.phase with
      | .insert id =>
          let (proxies, proxiesCount) := s.proxies.insert id id
          -- a map of more entries does not fit the address space, and panics
          if proxiesCount < 2 ^ 63 then
            some { s.move id .insert (.inserted proxiesCount) with
              proxies := proxies
              accepted := s.accepted ++ [id] }
          else none
      | _ => none
  | .recvEvent =>
      match s.phase, s.events with
      | .select, .stopped id :: events =>
          let (proxies, proxiesCount, found) := s.proxies.remove id
          some { s.move id .recvEvent (.removed proxiesCount) with
            proxies := proxies
            events := events
            removals := s.removals ++ [(id, found)] }
      | _, _ => none
  | .writeMetrics =>
      match s.phase with
      | .inserted proxiesCount =>
          some { s with
            metrics :=
              (s.metrics.incConnections .server).setCurrentConnections .server proxiesCount
            phase := .select }
      | .removed proxiesCount =>
          some { s with
            metrics := s.metrics.setCurrentConnections .server proxiesCount
            phase := .select }
      | _ => none
  | .tick =>
      match s.phase with
      | .select =>
          let clientConnectionsCount := s.proxies.foldProxies fun id => (s.sizes id).playerConns
          let assetsSize := s.proxies.foldProxies fun id => (s.sizes id).totalAssetsSize
          some { s with
            metrics :=
              (s.metrics.setCurrentConnections .client clientConnectionsCount).setCurrentAssetsSizeBytes
                assetsSize }
      | _ => none
  | .task id a =>
      if id ∈ s.ids ∧ a.ofTasks then
        ((Startup.system id).step (s.allocations id) a).map fun allocation =>
          { s with
            allocations := Function.update s.allocations id allocation
            events := s.events ++ if a = .sendStopped then [.stopped id] else [] }
      else none
  | .serverChanges id sizes => some { s with sizes := Function.update s.sizes id sizes }

/-- One proxy, with all its allocations. -/
def system : System State Action where
  init := {}
  step := step

/-! ## What one step can do -/

/-- The steps of the system, each with all that it needs and all that it does. -/
inductive Step (s : State) : Action → State → Prop where
  | accept (hp : s.phase = .select) : Step s .accept { s with phase := .handshake }
  | handshakeFails (hp : s.phase = .handshake) :
      Step s .handshakeFails { s with phase := .select }
  | handshakeEnds {id : Uuid} (hp : s.phase = .handshake) (hid : id ∉ s.ids) :
      Step s (.handshakeEnds id) { s with ids := s.ids ++ [id], phase := .newProxyServer id }
  | newProxyServer {id : Uuid} (hp : s.phase = .newProxyServer id) :
      Step s .newProxyServer (s.move id .newProxyServer (.spawnStart id))
  | spawnStart {id : Uuid} (hp : s.phase = .spawnStart id) :
      Step s .spawnStart (s.move id .spawnStart (.insert id))
  | insert {id : Uuid} (hp : s.phase = .insert id) (hfits : (s.proxies.insert id id).2 < 2 ^ 63) :
      Step s .insert { s.move id .insert (.inserted (s.proxies.insert id id).2) with
        proxies := (s.proxies.insert id id).1
        accepted := s.accepted ++ [id] }
  | recvEvent {id : Uuid} {events : List ProxyEvent} (hp : s.phase = .select)
      (hev : s.events = .stopped id :: events) :
      Step s .recvEvent { s.move id .recvEvent (.removed (s.proxies.remove id).2.1) with
        proxies := (s.proxies.remove id).1
        events := events
        removals := s.removals ++ [(id, (s.proxies.remove id).2.2)] }
  | afterInsert {count : Nat} (hp : s.phase = .inserted count) :
      Step s .writeMetrics { s with
        metrics := (s.metrics.incConnections .server).setCurrentConnections .server count
        phase := .select }
  | afterRemove {count : Nat} (hp : s.phase = .removed count) :
      Step s .writeMetrics { s with
        metrics := s.metrics.setCurrentConnections .server count
        phase := .select }
  | tick {clients assets : Nat} (hp : s.phase = .select) :
      Step s .tick { s with
        metrics := (s.metrics.setCurrentConnections .client clients).setCurrentAssetsSizeBytes
          assets }
  | task {id : Uuid} {a : Startup.Action} {allocation : Allocation} (hid : id ∈ s.ids)
      (ha : a.ofTasks = true)
      (h : (Startup.system id).step (s.allocations id) a = some allocation) :
      Step s (.task id a) { s with
        allocations := Function.update s.allocations id allocation
        events := s.events ++ if a = .sendStopped then [.stopped id] else [] }
  | serverChanges {id : Uuid} {sizes : ServerSizes} :
      Step s (.serverChanges id sizes) { s with sizes := Function.update s.sizes id sizes }

variable {s t : State} {a : Action} {acts : List Action}

theorem step_cases (h : system.step s a = some t) : Step s a t := by
  change ManagementServer.step s a = some t at h
  cases a with
  | accept =>
      rw [ManagementServer.step] at h
      split at h
      · rename_i hp
        cases h
        exact .accept hp
      · cases h
  | handshakeFails =>
      rw [ManagementServer.step] at h
      split at h
      · rename_i hp
        cases h
        exact .handshakeFails hp
      · cases h
  | handshakeEnds id =>
      rw [ManagementServer.step] at h
      split at h
      · rename_i hp
        split at h
        · cases h
        · rename_i hid
          cases h
          exact .handshakeEnds hp hid
      · cases h
  | newProxyServer =>
      rw [ManagementServer.step] at h
      split at h
      · rename_i hp
        cases h
        exact .newProxyServer hp
      · cases h
  | spawnStart =>
      rw [ManagementServer.step] at h
      split at h
      · rename_i hp
        cases h
        exact .spawnStart hp
      · cases h
  | insert =>
      rw [ManagementServer.step] at h
      split at h
      · rename_i id hp
        change (if (s.proxies.insert id id).2 < 2 ^ 63 then _ else none) = some t at h
        split at h
        · rename_i hfits
          cases h
          exact .insert hp hfits
        · cases h
      · cases h
  | recvEvent =>
      rw [ManagementServer.step] at h
      split at h
      · rename_i id events hp hev
        cases h
        exact .recvEvent hp hev
      · cases h
  | writeMetrics =>
      rw [ManagementServer.step] at h
      split at h
      · rename_i hp
        cases h
        exact .afterInsert hp
      · rename_i hp
        cases h
        exact .afterRemove hp
      · cases h
  | tick =>
      rw [ManagementServer.step] at h
      split at h
      · rename_i hp
        cases h
        exact .tick hp
      · cases h
  | task id a =>
      rw [ManagementServer.step] at h
      split at h
      · rename_i hg
        obtain ⟨allocation, hstep, rfl⟩ := Option.map_eq_some_iff.mp h
        exact .task hg.1 hg.2 hstep
      · cases h
  | serverChanges id sizes =>
      cases h
      exact .serverChanges

/-! ## Each allocation on its own

    What the loop and its tasks do to one allocation is a run of `Startup`: the loop
    is where it should be when it moves the allocation on, and the events of the
    allocation are those of its own channel. -/

/-- Where the loop is with an allocation. -/
def State.managementOf (s : State) (id : Uuid) : Startup.Management :=
  if id ∈ s.accepted then .select
  else if s.phase = .spawnStart id then .spawnStart
  else if s.phase = .insert id then .insert
  else .newProxyServer

/-- The id that the loop is working on. -/
def Phase.current : Phase → Option Uuid
  | .newProxyServer id | .spawnStart id | .insert id => some id
  | _ => none

/-- Where the loop works on no id, there is nothing to show of one. -/
theorem Phase.forall_current {phase : Phase} {P : Uuid → Prop} (h : phase.current = none)
    (id : Uuid) (hid : phase.current = some id) : P id := by
  rw [h] at hid
  cases hid

/-- Each allocation is a run of `Startup`, and sees its part of what is shared. -/
structure Projects (s : State) : Prop where
  run : ∀ id, ∃ acts, (Startup.system id).exec {} acts = some (s.allocations id)
  management : ∀ id, (s.allocations id).management = s.managementOf id
  events : ∀ id, (s.allocations id).events = s.events.filter (· = .stopped id)
  processed : ∀ id, (s.allocations id).processed = s.processed.filter (· = .stopped id)
  current : ∀ id, s.phase.current = some id → id ∈ s.ids ∧ id ∉ s.accepted
  accepted : ∀ id ∈ s.accepted, id ∈ s.ids
  once : (s.processed ++ s.events).Nodup

theorem Projects.init : Projects {} :=
  ⟨fun _ => ⟨[], rfl⟩, fun _ => rfl, fun _ => rfl, fun _ => rfl, nofun, nofun, List.nodup_nil⟩

/-- The event that a removal was made for has been processed. -/
theorem State.processed_snoc {removal : Uuid × Option Uuid}
    (h : t.removals = s.removals ++ [removal]) :
    t.processed = s.processed ++ [.stopped removal.1] := by
  rw [State.processed, State.processed, h, List.map_append]
  rfl

/-- The loop goes on, and no allocation does. -/
theorem Projects.idle (hs : Projects s)
    (hsame : t.allocations = s.allocations ∧ t.events = s.events ∧ t.removals = s.removals ∧
      t.accepted = s.accepted)
    (hids : ∀ id ∈ s.ids, id ∈ t.ids) (hmanagement : t.managementOf = s.managementOf)
    (hcurrent : ∀ id, t.phase.current = some id → id ∈ t.ids ∧ id ∉ t.accepted) :
    Projects t := by
  obtain ⟨hallocations, hevents, hremovals, haccepted⟩ := hsame
  have hprocessed : t.processed = s.processed := by
    rw [State.processed, hremovals, ← State.processed]
  refine ⟨?_, ?_, ?_, ?_, hcurrent, ?_, ?_⟩
  · rw [hallocations]
    exact hs.run
  · rw [hallocations, hmanagement]
    exact hs.management
  · rw [hallocations, hevents]
    exact hs.events
  · rw [hallocations, hprocessed]
    exact hs.processed
  · intro id hid
    rw [haccepted] at hid
    exact hids id (hs.accepted id hid)
  · rw [hprocessed, hevents]
    exact hs.once

/-- One allocation takes a step of `Startup`. -/
theorem run_update {allocations : Uuid → Allocation} {id : Uuid} {a : Startup.Action}
    {allocation : Allocation}
    (hrun : ∀ id, ∃ acts, (Startup.system id).exec {} acts = some (allocations id))
    (h : (Startup.system id).step (allocations id) a = some allocation) (id' : Uuid) :
    ∃ acts, (Startup.system id').exec {} acts
      = some (Function.update allocations id allocation id') := by
  by_cases hid : id' = id
  · subst hid
    obtain ⟨acts, hacts⟩ := hrun id'
    rw [Function.update_self]
    exact ⟨acts ++ [a], exec_snoc_iff.mpr ⟨_, hacts, h⟩⟩
  · rw [Function.update_of_ne hid]
    exact hrun id'

/-- A field of the allocations that only the allocation on the move changes. -/
theorem update_field {β : Type} {f : Allocation → β} {g g' : Uuid → β}
    {allocations : Uuid → Allocation} {id : Uuid} {allocation : Allocation}
    (h : ∀ id', f (allocations id') = g id') (hself : f allocation = g' id)
    (hother : ∀ id', id' ≠ id → g id' = g' id') (id' : Uuid) :
    f (Function.update allocations id allocation id') = g' id' := by
  by_cases hid : id' = id
  · subst hid
    rw [Function.update_self]
    exact hself
  · rw [Function.update_of_ne hid, h id']
    exact hother id' hid

/-- The event of an allocation was sent only if its task has finished. -/
theorem Projects.finished_iff (hs : Projects s) (id : Uuid) :
    (s.allocations id).startTask = .finished ↔ .stopped id ∈ s.processed ++ s.events := by
  obtain ⟨acts, hacts⟩ := hs.run id
  rw [(registryInv_of_exec hacts).stopped, hs.events, hs.processed, List.mem_append,
    List.mem_append, List.mem_filter, List.mem_filter]
  simp

/-- **An event that is received belongs to an allocation in the store**: the loop
    received nothing between the spawning of the task and the insertion. -/
theorem Projects.accepted_of_event (hs : Projects s) (hp : s.phase = .select) {id : Uuid}
    (hev : .stopped id ∈ s.events) : id ∈ s.accepted := by
  have hfinished : (s.allocations id).startTask = .finished :=
    (hs.finished_iff id).mpr (List.mem_append_right _ hev)
  obtain ⟨acts, hacts⟩ := hs.run id
  have hspawned := (registryInv_of_exec hacts).spawned
  by_contra hnot
  have hmanagement := hs.management id
  rw [State.managementOf, if_neg hnot, if_neg (by rw [hp]; exact nofun),
    if_neg (by rw [hp]; exact nofun)] at hmanagement
  exact nomatch hfinished.symm.trans (hspawned.mpr (Or.inl hmanagement))

/-- Where the loop is with the allocation it works on. -/
theorem Projects.management_current (hs : Projects s) {id : Uuid}
    (hid : s.phase.current = some id) :
    (s.allocations id).management
      = if s.phase = .spawnStart id then .spawnStart
        else if s.phase = .insert id then .insert else .newProxyServer := by
  rw [hs.management, State.managementOf, if_neg (hs.current id hid).2]

/-- The loop moves an allocation on, and nothing is sent or received. -/
theorem Projects.move (hs : Projects s) {id : Uuid} {a : Startup.Action}
    (hguard : guard id (s.allocations id) a)
    (hkeeps : (effect id (s.allocations id) a).events = (s.allocations id).events ∧
      (effect id (s.allocations id) a).processed = (s.allocations id).processed)
    (hallocations : t.allocations
      = Function.update s.allocations id (effect id (s.allocations id) a))
    (hsame : t.events = s.events ∧ t.removals = s.removals ∧ t.ids = s.ids)
    (hmanagement : (effect id (s.allocations id) a).management = t.managementOf id)
    (hothers : ∀ id', id' ≠ id → s.managementOf id' = t.managementOf id')
    (hcurrent : ∀ id, t.phase.current = some id → id ∈ t.ids ∧ id ∉ t.accepted)
    (haccepted : ∀ id ∈ t.accepted, id ∈ t.ids) : Projects t := by
  obtain ⟨hevents, hremovals, hids⟩ := hsame
  have hprocessed : t.processed = s.processed := by
    rw [State.processed, hremovals, ← State.processed]
  refine ⟨?_, ?_, ?_, ?_, hcurrent, haccepted, ?_⟩
  · rw [hallocations]
    exact run_update hs.run (guarded_step_of_guard hguard)
  · rw [hallocations]
    exact update_field (f := Allocation.management) hs.management hmanagement hothers
  · rw [hallocations, hevents]
    exact update_field (f := Allocation.events) hs.events
      (hkeeps.1.trans (hs.events id)) fun _ _ => rfl
  · rw [hallocations, hprocessed]
    exact update_field (f := Allocation.processed) hs.processed
      (hkeeps.2.trans (hs.processed id)) fun _ _ => rfl
  · rw [hprocessed, hevents]
    exact hs.once

/-- An event was received only of an allocation that had been inserted. -/
theorem Projects.accepted_of_processed (hs : Projects s) {id : Uuid}
    (hev : .stopped id ∈ s.processed) : id ∈ s.accepted := by
  obtain ⟨acts, hacts⟩ := hs.run id
  have hown : .stopped id ∈ (s.allocations id).processed := by
    rw [hs.processed, List.mem_filter]
    exact ⟨hev, by simp⟩
  have hinserted := ((registryInv_of_exec hacts).removed hown).1
  by_contra hnot
  rw [hs.management, State.managementOf, if_neg hnot] at hinserted
  split at hinserted
  · cases hinserted
  · split at hinserted <;> cases hinserted

theorem Projects.step (hs : Projects s) (h : system.step s a = some t) : Projects t := by
  have ⟨hrun, hmanagement, hevents, hprocessed, hcurrent, haccepted, honce⟩ := hs
  cases step_cases h with
  | accept hp | handshakeFails hp =>
      refine hs.idle ⟨rfl, rfl, rfl, rfl⟩ (fun _ hid => hid) ?_ (Phase.forall_current rfl)
      ext id
      simp [State.managementOf, hp]
  | handshakeEnds hp hid =>
      rename_i id
      refine hs.idle ⟨rfl, rfl, rfl, rfl⟩ (fun _ => List.mem_append_left _) ?_ ?_
      · ext id'
        simp [State.managementOf, hp]
      · rintro id' ⟨⟩
        exact ⟨List.mem_append_right _ List.mem_cons_self, fun hmem => hid (haccepted id hmem)⟩
  | newProxyServer hp =>
      rename_i id
      have hid : s.phase.current = some id := by rw [hp]; rfl
      have hm := hs.management_current hid
      obtain ⟨hmem, hnew⟩ := hcurrent id hid
      simp only [hp, reduceCtorEq, if_false] at hm
      refine hs.move (a := .newProxyServer) hm ⟨rfl, rfl⟩ rfl ⟨rfl, rfl, rfl⟩ ?_ ?_ ?_ haccepted
      · simp [State.managementOf, State.move, hnew]
        rfl
      · intro id' hne
        simp [State.managementOf, State.move, hp, Ne.symm hne]
      · rintro id' ⟨⟩
        exact ⟨hmem, hnew⟩
  | spawnStart hp =>
      rename_i id
      have hid : s.phase.current = some id := by rw [hp]; rfl
      have hm := hs.management_current hid
      obtain ⟨hmem, hnew⟩ := hcurrent id hid
      simp only [hp, if_true] at hm
      refine hs.move (a := .spawnStart) hm ⟨rfl, rfl⟩ rfl ⟨rfl, rfl, rfl⟩ ?_ ?_ ?_ haccepted
      · simp [State.managementOf, State.move, hnew]
        rfl
      · intro id' hne
        simp [State.managementOf, State.move, hp, Ne.symm hne]
      · rintro id' ⟨⟩
        exact ⟨hmem, hnew⟩
  | insert hp hfits =>
      rename_i id
      have hid : s.phase.current = some id := by rw [hp]; rfl
      have hm := hs.management_current hid
      obtain ⟨hmem, hnew⟩ := hcurrent id hid
      simp only [hp, reduceCtorEq, if_false, if_true] at hm
      refine hs.move (a := .insert) hm ⟨rfl, rfl⟩ rfl ⟨rfl, rfl, rfl⟩ ?_ ?_ ?_ ?_
      · simp [State.managementOf]
        rfl
      · intro id' hne
        simp [State.managementOf, State.move, hp, hne, Ne.symm hne]
      · exact Phase.forall_current rfl
      · intro id' hmem'
        rcases List.mem_append.mp hmem' with hold | hlast
        · exact haccepted id' hold
        · cases List.mem_singleton.mp hlast
          exact hmem
  | recvEvent hp hev =>
      rename_i id events
      have hin : .stopped id ∈ s.events := by rw [hev]; exact List.mem_cons_self
      have hacc : id ∈ s.accepted := hs.accepted_of_event hp hin
      have hm : (s.allocations id).management = .select := by
        rw [hmanagement, State.managementOf, if_pos hacc]
      have hown : (s.allocations id).events
          = .stopped id :: events.filter (· = .stopped id) := by
        rw [hevents, hev, List.filter_cons_of_pos (by simp)]
      have heffect : effect id (s.allocations id) .recvEvent
          = { s.allocations id with
              proxies := (s.allocations id).proxies.filter (· ≠ id)
              events := events.filter (· = .stopped id)
              processed := (s.allocations id).processed ++ [.stopped id] } := by
        rw [effect, hown]
      have hguard : guard id (s.allocations id) .recvEvent :=
        ⟨hm, by rw [hown]; exact List.cons_ne_nil _ _⟩
      refine ⟨run_update hrun (guarded_step_of_guard hguard), ?_, ?_, ?_, Phase.forall_current rfl,
        haccepted, ?_⟩
      · refine update_field (f := Allocation.management) hmanagement ?_ ?_
        · rw [heffect]
          simp [State.managementOf, State.move, hacc, hm]
        · intro id' _
          simp [State.managementOf, State.move, hp]
      · refine update_field (f := Allocation.events) hevents ?_ ?_
        · rw [heffect]
        · intro id' hne
          simp [hev, Ne.symm hne]
      · rw [State.processed_snoc rfl]
        refine update_field (f := Allocation.processed) hprocessed ?_ ?_
        · rw [heffect]
          simp [hprocessed]
        · intro id' hne
          simp [Ne.symm hne]
      · rw [State.processed_snoc rfl, List.append_assoc]
        rw [hev] at honce
        exact honce
  | afterInsert hp | afterRemove hp =>
      refine hs.idle ⟨rfl, rfl, rfl, rfl⟩ (fun _ hid => hid) ?_ (Phase.forall_current rfl)
      ext id
      simp [State.managementOf, hp]
  | tick hp => exact ⟨hrun, hmanagement, hevents, hprocessed, hcurrent, haccepted, honce⟩
  | serverChanges => exact ⟨hrun, hmanagement, hevents, hprocessed, hcurrent, haccepted, honce⟩
  | task hid ha hstep =>
      rename_i id a allocation
      obtain ⟨hm, hproc, hsent⟩ := step_ofTasks ha hstep
      refine ⟨run_update hrun hstep, ?_, ?_, ?_, hcurrent, haccepted, ?_⟩
      · exact update_field (f := Allocation.management) hmanagement
          (hm.trans (hmanagement id)) fun _ _ => rfl
      · refine update_field (f := Allocation.events) hevents ?_ ?_
        · rw [hsent, hevents]
          split <;> simp
        · intro id' hne
          split <;> simp [Ne.symm hne]
      · exact update_field (f := Allocation.processed) hprocessed
          (hproc.trans (hprocessed id)) fun _ _ => rfl
      · show (s.processed ++ (s.events ++
          if a = Startup.Action.sendStopped then [ProxyEvent.stopped id] else [])).Nodup
        split
        · rename_i hsend
          subst hsend
          -- a task that is about to send has not sent yet
          have hplace : (s.allocations id).startTask = .sendStopped :=
            (guarded_step_iff.mp hstep).1
          have hnot : .stopped id ∉ s.processed ++ s.events := by
            intro hmem
            cases hplace.symm.trans ((hs.finished_iff id).mpr hmem)
          rw [← List.append_assoc]
          exact List.nodup_append.mpr ⟨honce, List.nodup_singleton _, by
            intro ev hev ev' hev' heq
            cases List.mem_singleton.mp hev'
            exact hnot (heq ▸ hev)⟩
        · rw [List.append_nil]
          exact honce

/-! ## The store and the gauge -/

/-- What the loop has written of the connections of the servers. -/
def State.GaugeOk (s : State) : Prop :=
  match s.phase with
  | .inserted count | .removed count => count = s.proxies.keys.length
  | _ => s.metrics.currentConnections .server
      = if s.accepted = [] then none else some s.proxies.keys.length

/-- What the store holds, at every point of the loop. -/
structure Inv (s : State) : Prop where
  projects : Projects s
  store : ∀ id, id ∈ s.proxies ↔ id ∈ s.accepted ∧ .stopped id ∉ s.processed
  own : ∀ id proxy, s.proxies.lookup id = some proxy → proxy = id
  found : ∀ removal ∈ s.removals, removal.2 = some removal.1
  started : ∀ count, s.phase = .inserted count ∨ s.phase = .removed count → s.accepted ≠ []
  fits : s.proxies.keys.length < 2 ^ 63
  gauge : s.GaugeOk

theorem Inv.init : Inv {} :=
  ⟨Projects.init, fun id => ⟨fun h => absurd h (AList.notMem_empty id), nofun⟩, nofun, nofun, nofun,
    by decide, rfl⟩

/-- The entry of an allocation that is in the store is its own. -/
theorem Inv.lookup (hs : Inv s) {id : Uuid} (h : id ∈ s.proxies) :
    s.proxies.lookup id = some id := by
  obtain ⟨proxy, hproxy⟩ := Option.isSome_iff_exists.mp (AList.lookup_isSome.mpr h)
  rw [hproxy, hs.own id proxy hproxy]

/-- An event that is in the channel finds its own entry. -/
theorem Inv.lookup_of_event (hs : Inv s) (hp : s.phase = .select) {id : Uuid}
    (hev : .stopped id ∈ s.events) : s.proxies.lookup id = some id := by
  refine hs.lookup ((hs.store id).mpr ⟨hs.projects.accepted_of_event hp hev, ?_⟩)
  intro hprocessed
  exact (List.nodup_append.mp hs.projects.once).2.2 _ hprocessed _ hev rfl

theorem Inv.step (hs : Inv s) (h : system.step s a = some t) : Inv t := by
  have hprojects := hs.projects.step h
  have ⟨_, hstore, hown, hfound, hstarted, hfits, hgauge⟩ := hs
  cases step_cases h with
  | accept hp | handshakeFails hp | handshakeEnds hp _ | newProxyServer hp | spawnStart hp =>
      rw [State.GaugeOk, hp] at hgauge
      exact ⟨hprojects, hstore, hown, hfound, nofun, hfits, hgauge⟩
  | insert hp hfits' =>
      rename_i id
      have hnew := (hs.projects.current id (by rw [hp]; rfl)).2
      refine ⟨hprojects, ?_, ?_, hfound, ?_, hfits', rfl⟩
      · intro id'
        show id' ∈ AList.insert id id s.proxies ↔
          id' ∈ s.accepted ++ [id] ∧ .stopped id' ∉ s.processed
        rw [AList.mem_insert, List.mem_append, List.mem_singleton, hstore]
        constructor
        · rintro (rfl | ⟨hmem, hnot⟩)
          · exact ⟨Or.inr rfl, fun hev => hnew (hs.projects.accepted_of_processed hev)⟩
          · exact ⟨Or.inl hmem, hnot⟩
        · rintro ⟨hmem | rfl, hnot⟩
          · exact Or.inr ⟨hmem, hnot⟩
          · exact Or.inl rfl
      · intro id' proxy hproxy
        change (AList.insert id id s.proxies).lookup id' = some proxy at hproxy
        by_cases hid : id' = id
        · subst hid
          rw [AList.lookup_insert] at hproxy
          exact (Option.some.inj hproxy).symm
        · rw [AList.lookup_insert_ne hid] at hproxy
          exact hown id' proxy hproxy
      · intro count _
        simp
  | recvEvent hp hev =>
      rename_i id events
      have hin : .stopped id ∈ s.events := by rw [hev]; exact List.mem_cons_self
      have hentry := hs.lookup_of_event hp hin
      refine ⟨hprojects, ?_, ?_, ?_, ?_, ?_, rfl⟩
      · intro id'
        rw [State.processed_snoc rfl]
        show id' ∈ s.proxies.erase id
          ↔ id' ∈ s.accepted ∧ .stopped id' ∉ s.processed ++ [.stopped id]
        rw [AList.mem_erase, hstore]
        simp only [List.mem_append, List.mem_singleton, ProxyEvent.stopped.injEq, not_or]
        constructor
        · rintro ⟨hne, hmem, hnot⟩
          exact ⟨hmem, hnot, hne⟩
        · rintro ⟨hmem, hnot, hne⟩
          exact ⟨hne, hmem, hnot⟩
      · intro id' proxy hproxy
        change (s.proxies.erase id).lookup id' = some proxy at hproxy
        by_cases hid : id' = id
        · subst hid
          rw [AList.lookup_erase] at hproxy
          cases hproxy
        · rw [AList.lookup_erase_ne hid] at hproxy
          exact hown id' proxy hproxy
      · intro removal hmem
        rcases List.mem_append.mp hmem with hold | hlast
        · exact hfound removal hold
        · cases List.mem_singleton.mp hlast
          exact hentry
      · intro _ _
        exact List.ne_nil_of_mem (hs.projects.accepted_of_event hp hin)
      · show (s.proxies.erase id).keys.length < 2 ^ 63
        rw [AList.keys_erase]
        exact lt_of_le_of_lt List.length_erase_le hfits
  | afterInsert hp =>
      rw [State.GaugeOk, hp] at hgauge
      refine ⟨hprojects, hstore, hown, hfound, nofun, hfits, ?_⟩
      show Metrics.currentConnections _ .server = if s.accepted = [] then none else _
      rw [if_neg (hstarted _ (Or.inl hp)),
        Metrics.currentConnections_set_self _ _ (by rw [hgauge]; exact hfits), hgauge]
  | afterRemove hp =>
      rw [State.GaugeOk, hp] at hgauge
      refine ⟨hprojects, hstore, hown, hfound, nofun, hfits, ?_⟩
      show Metrics.currentConnections _ .server = if s.accepted = [] then none else _
      rw [if_neg (hstarted _ (Or.inr hp)),
        Metrics.currentConnections_set_self _ _ (by rw [hgauge]; exact hfits), hgauge]
  | tick hp =>
      refine ⟨hprojects, hstore, hown, hfound, hstarted, hfits, ?_⟩
      rw [State.GaugeOk, hp] at hgauge
      rw [State.GaugeOk, hp]
      show Metrics.currentConnections _ .server = _
      rw [Metrics.currentConnections_setCurrentAssetsSizeBytes,
        Metrics.currentConnections_set_of_ne _ (by decide)]
      exact hgauge
  | serverChanges => exact ⟨hprojects, hstore, hown, hfound, hstarted, hfits, hgauge⟩
  | task hid ha hstep => exact ⟨hprojects, hstore, hown, hfound, hstarted, hfits, hgauge⟩

theorem inv_of_exec (h : system.exec {} acts = some s) : Inv s :=
  exec_invariant Inv.step Inv.init h

/-- **The store is consistent over all allocations.**  For every run of the loop with
    distinct ids, any order of connections and failed handshakes and any
    interleaving with the spawned tasks, in every state between two iterations: the
    store holds exactly the accepted ids whose event was not processed; every event
    was processed once and found its own entry; the next one that is processed takes
    its own entry out and no other; and the gauge of the servers, which is set with
    the first insertion, is the number of entries. -/
theorem store_consistent (h : system.exec {} acts = some s) (hp : s.phase = .select) :
    (∀ id, id ∈ s.proxies ↔ id ∈ s.accepted ∧ .stopped id ∉ s.processed) ∧
    (s.processed.Nodup ∧ ∀ removal ∈ s.removals, removal.2 = some removal.1) ∧
    (∀ t, system.step s .recvEvent = some t → ∃ id events, s.events = .stopped id :: events ∧
      s.proxies.lookup id = some id ∧ t.proxies = s.proxies.erase id) ∧
    s.metrics.currentConnections .server
      = if s.accepted = [] then none else some s.proxies.keys.length := by
  have hs : Inv s := inv_of_exec h
  refine ⟨hs.store, ⟨(List.nodup_append.mp hs.projects.once).1, hs.found⟩, ?_, ?_⟩
  · intro t ht
    cases step_cases ht with
    | @recvEvent id events _ hev =>
        refine ⟨id, events, hev, hs.lookup_of_event hp ?_, rfl⟩
        rw [hev]
        exact List.mem_cons_self
  · have hgauge := hs.gauge
    rw [State.GaugeOk, hp] at hgauge
    exact hgauge

/-- The loop accepts a connection and takes it through `handle_connection`. -/
def acceptAll (id : Uuid) : List Action :=
  [.accept, .handshakeEnds id, .newProxyServer, .spawnStart]

/-- The task of an allocation runs from its start to its end. -/
def taskAll (id : Uuid) : List Action :=
  [Startup.Action.openControl, .acceptBi, .writeStarted, .readStarted, .close, .startSeesClosed,
    .sendStopped].map (.task id)

/-- A handshake fails; the first allocation stops before it is inserted; a second one
    is inserted before the event of the first is received. -/
def stoppedBeforeInserted : List Action :=
  [.accept, .handshakeFails] ++ acceptAll 1 ++ taskAll 1 ++ [.insert, .writeMetrics] ++
    acceptAll 2 ++ [.insert, .writeMetrics, .recvEvent, .writeMetrics]

theorem store_consistent_stoppedBeforeInserted :
    ∃ s, system.exec {} stoppedBeforeInserted = some s ∧ s.processed = [.stopped 1] ∧
      (2 ∈ s.proxies ↔ 2 ∈ s.accepted ∧ ProxyEvent.stopped 2 ∉ s.processed) ∧
      s.metrics.currentConnections .server = some 1 := by
  have hrun : system.exec {} stoppedBeforeInserted = some _ := rfl
  obtain ⟨hstore, -, -, hgauge⟩ := store_consistent hrun rfl
  exact ⟨_, hrun, rfl, hstore 2, hgauge⟩

end AmbientProxy.ManagementServer
