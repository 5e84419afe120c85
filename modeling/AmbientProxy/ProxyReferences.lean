import AmbientProxy.HttpResponses

/-! # References — who holds a proxy server

    `src/server.rs` keeps a `ProxyServer` in an `Arc`.  The management loop creates it
    and gives it to the store, to the task of `ProxyServer::start` and to the requests;
    upload tasks have a `Weak` that they upgrade.

        loop ──▶ store ─────────────── Stopped: remove
          └────▶ task of start ─────────────── returns
                   get_proxy ──▶ request ── answered
                       upgrade ──▶ upload task ── returns

    Not modelled are the clones that `get_stats`, and `fold_proxies` for the metrics, hold
    while they read: each is dropped before its holder awaits, and only puts the drop of
    the proxy server off until then.

    `Needs` says who uses a proxy server.  `lives_of_exec`: in every run its references
    are held by exactly those, and by tasks that have returned and are about to drop
    theirs.  What follows from this is in `ProxyLifetimes`. -/

namespace AmbientProxy.HttpInterface

open Transition Sharing

variable {config : Config} {s t : State} {a : Action} {acts : List Action} {id : Uuid}

/-- `ProxyServer::start` runs. -/
def taskNeeds : Startup.StartTask → Bool
  | .notSpawned | .finished | .panicked => false
  | _ => true

/-- Who needs the proxy server of an allocation. -/
def Needs (s : State) (id : Uuid) : Holder → Prop
  | .loop => s.server.phase = .spawnStart id ∨ s.server.phase = .insert id
  | .store => id ∈ s.server.proxies
  | .task => taskNeeds (s.server.allocations id).startTask = true
  | .request r => (s.places r).proxy = some id
  | .upload u => ∃ upload, (s.assets id).session.assets.uploads u = some upload ∧
      uploadHolds upload.task = true

/-- The references to a proxy server are right, and there are none before it is
    created. -/
structure Lives (s : State) (id : Uuid) : Prop where
  tracks : Tracks (s.proxyServers id) (Needs s id) fun h => returned s id h = true
  unborn : s.proxyServers id = .unborn ↔ (s.server.allocations id).messageTask = .notSpawned

theorem Lives.init (id : Uuid) : Lives {} id := by
  refine ⟨Tracks.unborn ?_, fun _ => rfl, fun _ => rfl⟩
  intro h hneeds
  cases h with
  | loop => rcases hneeds with hp | hp <;> cases hp
  | store => exact AList.notMem_empty id hneeds
  | task | request r => cases hneeds
  | upload u =>
      obtain ⟨upload, hu, -⟩ := hneeds
      cases hu

/-! ## The tasks of an allocation -/

/-- What the tasks do to the task of `ProxyServer::start`: it goes on while it runs, and
    does nothing before and after. -/
theorem startTask_ofTasks {x y : Startup.Allocation} {b : Startup.Action}
    (hb : b.ofTasks = true) (h : (Startup.system id).step x b = some y) :
    (y.startTask = x.startTask ∨ taskNeeds x.startTask = true ∧ y.startTask ≠ .notSpawned) ∧
      (y.messageTask = .notSpawned ↔ x.messageTask = .notSpawned) := by
  obtain ⟨hg, rfl⟩ := guarded_step_iff.mp h
  cases b with
  | newProxyServer | spawnStart | insert | recvEvent | acceptOther | otherHandled _
  | otherStopped _ => cases hb
  | openControl | close => exact ⟨Or.inl rfl, Iff.rfl⟩
  | acceptBi | acceptBiFails | messageTaskSeesClosed =>
      exact ⟨Or.inl rfl, nofun, fun hm => nomatch hg.1.symm.trans hm⟩
  | writeStarted | notifyWaiters =>
      exact ⟨Or.inl rfl, nofun, fun hm => nomatch Eq.trans (Eq.symm hg) hm⟩
  | pollNotified =>
      refine ⟨?_, by rw [Startup.pollNotified_messageTask]⟩
      cases hx : x.startTask with
      | awaitNotified future =>
          refine Or.inr ⟨rfl, ?_⟩
          cases hready : x.startedNotify.ready () future with
          | true => rw [Startup.pollNotified_of_ready hx hready]; exact nofun
          | false => rw [(Startup.pollNotified_of_not_ready hx hready).1]; exact nofun
      | _ =>
          rw [Startup.guard, hx] at hg
          cases hg
  | readStarted =>
      refine ⟨Or.inr ⟨by rw [hg]; rfl, ?_⟩, Iff.rfl⟩
      rw [Startup.effect]
      split <;> exact nofun
  | headerRead openPlayerStream =>
      refine ⟨Or.inr ⟨by rw [hg]; rfl, ?_⟩, Iff.rfl⟩
      rw [Startup.effect]
      split <;> exact nofun
  | datagram data =>
      refine ⟨Or.inr ⟨by rw [hg]; rfl, ?_⟩, Iff.rfl⟩
      rw [Startup.effect]
      dsimp only
      split <;> exact nofun
  | allocateEndpoint panics =>
      refine ⟨Or.inr ⟨by rw [hg]; rfl, ?_⟩, Iff.rfl⟩
      rw [Startup.effect]
      split <;> exact nofun
  | headerFails | startSeesClosed => exact ⟨Or.inr ⟨by rw [hg.1]; rfl, nofun⟩, Iff.rfl⟩
  | createNotified | acceptPlayer | handshakeEnds | acceptServerStream | playerStreamEnds
  | sendStopped => exact ⟨Or.inr ⟨by rw [hg]; rfl, nofun⟩, Iff.rfl⟩

/-- The task of an allocation that needed the proxy server needs it still, or has
    returned. -/
theorem task_needs_or_returned {x y : Startup.StartTask}
    (h : y = x ∨ taskNeeds x = true ∧ y ≠ .notSpawned) :
    (taskNeeds y = true → taskNeeds x = true) ∧
      (taskNeeds x = true ∨ (x = .finished ∨ x = .panicked) →
        taskNeeds y = true ∨ (y = .finished ∨ y = .panicked)) := by
  rcases h with rfl | ⟨hx, hne⟩
  · exact ⟨fun hy => hy, fun hy => hy⟩
  · refine ⟨fun _ => hx, fun _ => ?_⟩
    cases y with
    | notSpawned => exact absurd rfl hne
    | finished => exact Or.inr (Or.inl rfl)
    | panicked => exact Or.inr (Or.inr rfl)
    | _ => exact Or.inl rfl

theorem returned_task_iff : returned s id .task = true ↔
    (s.server.allocations id).startTask = .finished ∨
      (s.server.allocations id).startTask = .panicked := by
  rw [returned]
  split
  · rename_i heq
    exact ⟨fun _ => Or.inl heq, fun _ => rfl⟩
  · rename_i heq
    exact ⟨fun _ => Or.inr heq, fun _ => rfl⟩
  · rename_i hfinished hpanicked
    refine ⟨nofun, ?_⟩
    rintro (heq | heq)
    · exact absurd heq hfinished
    · exact absurd heq hpanicked

/-- A holder has returned in two states that agree on the tasks. -/
theorem returned_congr
    (hstart : (t.server.allocations id).startTask = (s.server.allocations id).startTask)
    (huploads : (t.assets id).session.assets.uploads = (s.assets id).session.assets.uploads)
    (h : Holder) : returned t id h = returned s id h := by
  cases h with
  | task => rw [returned, returned, hstart]
  | upload u => rw [returned, returned, huploads]
  | _ => rfl

theorem returned_server {server : ManagementServer.State} {proxyServers : Uuid → Shared Holder}
    (hstart : (server.allocations id).startTask = (s.server.allocations id).startTask)
    (h : Holder) : returned { s with server := server, proxyServers := proxyServers } id h
      = returned s id h :=
  returned_congr (s := s) (t := { s with server := server, proxyServers := proxyServers }) hstart
    rfl h

/-- A step that does not concern a proxy server. -/
theorem Lives.frame (hs : Lives s id) (hx : t.proxyServers id = s.proxyServers id)
    (halloc : t.server.allocations id = s.server.allocations id)
    (huploads : (t.assets id).session.assets.uploads = (s.assets id).session.assets.uploads)
    (hneeds : ∀ h, Needs t id h ↔ Needs s id h) : Lives t id := by
  refine ⟨?_, ?_⟩
  · rw [hx]
    refine hs.tracks.mono (fun h => (hneeds h).mp) ?_
    intro h hh
    rw [hneeds, returned_congr (by rw [halloc]) huploads]
    exact hh
  · rw [hx, halloc]
    exact hs.unborn

/-! ## The loop -/

/-- What the loop is about to insert. -/
def inHand (phase : ManagementServer.Phase) (id : Uuid) : Prop :=
  phase = .spawnStart id ∨ phase = .insert id

/-- The loop goes on, and nothing happens to the allocation. -/
theorem Lives.server_frame (hs : Lives s id) {server : ManagementServer.State}
    {proxyServers : Uuid → Shared Holder} (hx : proxyServers id = s.proxyServers id)
    (halloc : server.allocations id = s.server.allocations id)
    (hphase : inHand server.phase id ↔ inHand s.server.phase id)
    (hproxies : id ∈ server.proxies ↔ id ∈ s.server.proxies) :
    Lives { s with server := server, proxyServers := proxyServers } id := by
  refine hs.frame hx halloc rfl ?_
  intro h
  cases h with
  | loop => exact hphase
  | store => exact hproxies
  | task =>
      show taskNeeds (server.allocations id).startTask = true ↔ _
      rw [halloc]
      rfl
  | request r => exact Iff.rfl
  | upload u => exact Iff.rfl

/-- Where the loop has an allocation in hand, it has it nowhere else. -/
theorem inHand_of_ne {phase : ManagementServer.Phase} {id id' : Uuid}
    (hphase : phase = .newProxyServer id ∨ phase = .spawnStart id ∨ phase = .insert id)
    (hne : id' ≠ id) : ¬ inHand phase id' := by
  rintro (hp | hp)
  · rcases hphase with heq | heq | heq
    · cases heq.symm.trans hp
    · cases heq.symm.trans hp
      exact hne rfl
    · cases heq.symm.trans hp
  · rcases hphase with heq | heq | heq
    · cases heq.symm.trans hp
    · cases heq.symm.trans hp
    · cases heq.symm.trans hp
      exact hne rfl

theorem lives_newProxyServer (hs : ∀ id, Lives s id) (hserver : ManagementServer.Inv s.server)
    {id : Uuid} (hp : s.server.phase = .newProxyServer id) (id' : Uuid) :
    Lives { s with
      server := s.server.move id .newProxyServer (.spawnStart id)
      proxyServers := Function.update s.proxyServers id (.create .loop) } id' := by
  by_cases hid : id' = id
  · subst hid
    -- nothing of the allocation was there before
    have hm := hserver.projects.management_current (by rw [hp]; rfl : _ = some id')
    simp only [hp, reduceCtorEq, if_false] at hm
    obtain ⟨bs, hbs⟩ := hserver.projects.run id'
    have hunspawned : (s.server.allocations id').messageTask = .notSpawned := by
      by_contra hne
      exact (Startup.handshakeInv_of_exec hbs).unspawned hne hm
    have hunborn := (hs id').unborn.mpr hunspawned
    have hnone : ∀ h, ¬ Needs s id' h := (hs id').tracks.not_needs (by rw [hunborn]; rfl)
    refine ⟨?_, ?_⟩
    · show Tracks (Function.update s.proxyServers id' (.create .loop) id') _ _
      rw [Function.update_self]
      refine Tracks.create ?_
      intro h
      refine ⟨?_, ?_⟩
      · intro hh
        cases h with
        | loop => rfl
        | store => exact absurd hh (hnone .store)
        | task =>
            refine absurd ?_ (hnone .task)
            change taskNeeds (Function.update s.server.allocations id' _ id').startTask = true at hh
            rw [Function.update_self] at hh
            exact hh
        | request r => exact absurd hh (hnone (.request r))
        | upload u => exact absurd hh (hnone (.upload u))
      · rintro rfl
        exact Or.inl rfl
    · show Function.update s.proxyServers id' (.create .loop) id' = .unborn ↔
        (Function.update s.server.allocations id' _ id').messageTask = .notSpawned
      rw [Function.update_self, Function.update_self]
      exact ⟨nofun, nofun⟩
  · refine (hs id').server_frame (Function.update_of_ne hid ..) (Function.update_of_ne hid ..) ?_
      Iff.rfl
    exact iff_of_false (inHand_of_ne (Or.inr (Or.inl rfl)) hid) (inHand_of_ne (Or.inl hp) hid)

theorem lives_spawnStart (hs : ∀ id, Lives s id) (hserver : ManagementServer.Inv s.server)
    {id : Uuid} (hp : s.server.phase = .spawnStart id) (id' : Uuid) :
    Lives { s with
      server := s.server.move id .spawnStart (.insert id)
      proxyServers := Function.update s.proxyServers id ((s.proxyServers id).clone .task) }
      id' := by
  by_cases hid : id' = id
  · subst hid
    have hm := hserver.projects.management_current (by rw [hp]; rfl : _ = some id')
    simp only [hp, if_true] at hm
    obtain ⟨bs, hbs⟩ := hserver.projects.run id'
    have hunspawned : (s.server.allocations id').startTask = .notSpawned :=
      (Startup.registryInv_of_exec hbs).spawned.mpr (Or.inr hm)
    have halive := (hs id').tracks.isAlive (show Needs s id' .loop from Or.inl hp)
    refine ⟨?_, ?_⟩
    · show Tracks (Function.update s.proxyServers id' ((s.proxyServers id').clone .task) id') _ _
      rw [Function.update_self]
      refine (hs id').tracks.clone halive ?_ ?_ ?_
      · rintro (hneeds | hreturned)
        · rw [Needs, hunspawned] at hneeds
          cases hneeds
        · rw [returned, hunspawned] at hreturned
          cases hreturned
      · intro h hh
        cases h with
        | loop => exact Or.inl (Or.inl hp)
        | task => exact Or.inr rfl
        | store | request r | upload u => exact Or.inl hh
      · rintro h ((hh | hh) | rfl)
        · cases h with
          | loop => exact Or.inl (Or.inr rfl)
          | task =>
              rw [Needs, hunspawned] at hh
              cases hh
          | store | request r | upload u => exact Or.inl hh
        · cases h with
          | task =>
              rw [returned, hunspawned] at hh
              cases hh
          | upload u => exact Or.inr hh
          | loop | store | request r => cases hh
        · refine Or.inl ?_
          show taskNeeds (Function.update s.server.allocations id' _ id').startTask = true
          rw [Function.update_self]
          rfl
    · show Function.update s.proxyServers id' ((s.proxyServers id').clone .task) id' = .unborn ↔
        (Function.update s.server.allocations id' _ id').messageTask = .notSpawned
      rw [Function.update_self, Function.update_self, Shared.clone_eq_unborn_iff]
      exact (hs id').unborn
  · refine (hs id').server_frame (Function.update_of_ne hid ..) (Function.update_of_ne hid ..) ?_
      Iff.rfl
    exact iff_of_false (inHand_of_ne (Or.inr (Or.inr rfl)) hid)
      (inHand_of_ne (Or.inr (Or.inl hp)) hid)

theorem lives_insert (hs : ∀ id, Lives s id) (hserver : ManagementServer.Inv s.server) {id : Uuid}
    {server : ManagementServer.State} (hp : s.server.phase = .insert id)
    (hphase : ∀ id, ¬ inHand server.phase id)
    (halloc : server.allocations = Function.update s.server.allocations id
      (Startup.effect id (s.server.allocations id) .insert))
    (hproxies : server.proxies = AList.insert id id s.server.proxies) (id' : Uuid) :
    Lives { s with
      server := server
      proxyServers := Function.update s.proxyServers id
        ((s.proxyServers id).move .loop .store) } id' := by
  by_cases hid : id' = id
  · subst hid
    have hnew : id' ∉ s.server.proxies := by
      intro hmem
      exact (hserver.projects.current id' (by rw [hp]; rfl)).2 ((hserver.store id').mp hmem).1
    have halive := (hs id').tracks.isAlive (show Needs s id' .loop from Or.inr hp)
    have hself : server.allocations id'
        = Startup.effect id' (s.server.allocations id') .insert := by
      rw [halloc, Function.update_self]
    have hstart : (server.allocations id').startTask = (s.server.allocations id').startTask := by
      rw [hself]
      rfl
    refine ⟨?_, ?_⟩
    · show Tracks (Function.update s.proxyServers id' _ id') _ _
      rw [Function.update_self]
      refine (hs id').tracks.move halive ?_ ?_ ?_
      · rintro (hneeds | hreturned)
        · exact hnew hneeds
        · cases hreturned
      · intro h hh
        cases h with
        | loop => exact absurd hh (hphase id')
        | store => exact ⟨Or.inr rfl, nofun⟩
        | task =>
            change taskNeeds (server.allocations id').startTask = true at hh
            rw [hstart] at hh
            exact ⟨Or.inl hh, nofun⟩
        | request r | upload u => exact ⟨Or.inl hh, nofun⟩
      · intro h hh hne
        rw [returned_server hstart]
        cases h with
        | loop => exact absurd rfl hne
        | store =>
            refine Or.inl ?_
            show id' ∈ server.proxies
            rw [hproxies]
            exact (AList.mem_insert _).mpr (Or.inl rfl)
        | task =>
            show taskNeeds (server.allocations id').startTask = true ∨ _
            rw [hstart]
            exact hh.resolve_right nofun
        | request r | upload u => exact hh.resolve_right nofun
    · show Function.update s.proxyServers id' _ id' = .unborn ↔
        (server.allocations id').messageTask = .notSpawned
      rw [Function.update_self, Shared.move_eq_unborn_iff, hself]
      exact (hs id').unborn
  · have hother : server.allocations id' = s.server.allocations id' := by
      rw [halloc, Function.update_of_ne hid]
    refine (hs id').server_frame (Function.update_of_ne hid ..) hother ?_ ?_
    · exact iff_of_false (hphase id') (inHand_of_ne (Or.inr (Or.inr hp)) hid)
    · rw [hproxies, AList.mem_insert, or_iff_right hid]

theorem lives_recvEvent (hs : ∀ id, Lives s id) {id : Uuid} {server : ManagementServer.State}
    (hp : s.server.phase = .select) (hphase : ∀ id, ¬ inHand server.phase id)
    (halloc : server.allocations = Function.update s.server.allocations id
      (Startup.effect id (s.server.allocations id) .recvEvent))
    (hproxies : server.proxies = s.server.proxies.erase id) (id' : Uuid) :
    Lives { s with
      server := server
      proxyServers := Function.update s.proxyServers id ((s.proxyServers id).release .store) }
        id' := by
  by_cases hid : id' = id
  · subst hid
    have hself : server.allocations id'
        = Startup.effect id' (s.server.allocations id') .recvEvent := by
      rw [halloc, Function.update_self]
    have hstart : (server.allocations id').startTask = (s.server.allocations id').startTask := by
      rw [hself, Startup.recvEvent_startTask]
    refine ⟨?_, ?_⟩
    · show Tracks (Function.update s.proxyServers id' _ id') _ _
      rw [Function.update_self]
      refine (hs id').tracks.release ?_ ?_
      · intro h hh
        cases h with
        | loop => exact absurd hh (hphase id')
        | store =>
            change id' ∈ server.proxies at hh
            rw [hproxies] at hh
            exact absurd rfl (AList.mem_erase.mp hh).1
        | task =>
            change taskNeeds (server.allocations id').startTask = true at hh
            rw [hstart] at hh
            exact ⟨hh, nofun⟩
        | request r | upload u => exact ⟨hh, nofun⟩
      · intro h hh hne
        rw [returned_server hstart]
        cases h with
        | loop =>
            rcases hh with (heq | heq) | hfalse
            · cases hp.symm.trans heq
            · cases hp.symm.trans heq
            · cases hfalse
        | store => exact absurd rfl hne
        | task =>
            show taskNeeds (server.allocations id').startTask = true ∨ _
            rw [hstart]
            exact hh
        | request r | upload u => exact hh
    · show Function.update s.proxyServers id' _ id' = .unborn ↔
        (server.allocations id').messageTask = .notSpawned
      rw [Function.update_self, Shared.release_eq_unborn_iff, hself, Startup.recvEvent_messageTask]
      exact (hs id').unborn
  · have hother : server.allocations id' = s.server.allocations id' := by
      rw [halloc, Function.update_of_ne hid]
    refine (hs id').server_frame (Function.update_of_ne hid ..) hother ?_ ?_
    · refine iff_of_false (hphase id') ?_
      rw [hp]
      rintro (heq | heq) <;> cases heq
    · rw [hproxies, AList.mem_erase, and_iff_right hid]

/-- A step of the tasks of an allocation. -/
theorem lives_task (hs : ∀ id, Lives s id) {id : Uuid} {b : Startup.Action}
    {allocation : Startup.Allocation} (events : List Startup.ProxyEvent) (hb : b.ofTasks = true)
    (h : (Startup.system id).step (s.server.allocations id) b = some allocation) (id' : Uuid) :
    Lives { s with
      server := { s.server with
        allocations := Function.update s.server.allocations id allocation
        events := events } } id' := by
  by_cases hid : id' = id
  · subst hid
    obtain ⟨hstart, hmessage⟩ := startTask_ofTasks hb h
    obtain ⟨hneeds, hmem⟩ := task_needs_or_returned hstart
    have hself : Function.update s.server.allocations id' allocation id' = allocation :=
      Function.update_self ..
    refine ⟨(hs id').tracks.mono ?_ ?_, ?_⟩
    · intro holder hh
      cases holder with
      | task =>
          change taskNeeds (Function.update s.server.allocations id' allocation id').startTask
            = true at hh
          rw [hself] at hh
          exact hneeds hh
      | loop | store | request r | upload u => exact hh
    · intro holder hh
      cases holder with
      | task =>
          rw [returned_task_iff] at hh ⊢
          show taskNeeds
              (Function.update s.server.allocations id' allocation id').startTask = true ∨
            (Function.update s.server.allocations id' allocation id').startTask = .finished ∨
            (Function.update s.server.allocations id' allocation id').startTask = .panicked
          rw [hself]
          exact hmem hh
      | loop | store | request r | upload u => exact hh
    · show _ ↔ (Function.update s.server.allocations id' allocation id').messageTask = .notSpawned
      rw [hself, hmessage]
      exact (hs id').unborn
  · exact (hs id').server_frame rfl (Function.update_of_ne hid ..) Iff.rfl Iff.rfl

/-- A step of the loop and its tasks. -/
theorem lives_server (hs : ∀ id, Lives s id) (hserver : ManagementServer.Inv s.server)
    {b : ManagementServer.Action} {server : ManagementServer.State}
    (h : ManagementServer.system.step s.server b = some server) (id' : Uuid) :
    Lives { s with
      server := server
      proxyServers := loopHolders s.server s.proxyServers b } id' := by
  have hidle : ∀ {phase phase' : ManagementServer.Phase}, s.server.phase = phase →
      (∀ id, ¬ inHand phase id) → (∀ id, ¬ inHand phase' id) → server.phase = phase' →
        (inHand server.phase id' ↔ inHand s.server.phase id') := by
    rintro phase phase' rfl hnone hnone' rfl
    exact iff_of_false (hnone' id') (hnone id')
  cases ManagementServer.step_cases h with
  | accept hp | handshakeFails hp | handshakeEnds hp _ | afterInsert hp | afterRemove hp =>
      refine (hs id').server_frame rfl rfl (hidle hp ?_ ?_ rfl) Iff.rfl
      · rintro id (heq | heq) <;> cases heq
      · rintro id (heq | heq) <;> cases heq
  | tick _ | serverChanges => exact (hs id').server_frame rfl rfl Iff.rfl Iff.rfl
  | newProxyServer hp =>
      rw [loopHolders, hp]
      exact lives_newProxyServer hs hserver hp id'
  | spawnStart hp =>
      rw [loopHolders, hp]
      exact lives_spawnStart hs hserver hp id'
  | insert hp _ =>
      rw [loopHolders, hp]
      refine lives_insert hs hserver hp ?_ rfl rfl id'
      rintro id (heq | heq) <;> cases heq
  | recvEvent hp hev =>
      rw [loopHolders, hev]
      refine lives_recvEvent hs hp ?_ rfl rfl id'
      rintro id (heq | heq) <;> cases heq
  | task _ hb hstep => exact lives_task hs _ hb hstep id'

/-! ## The uploads -/

theorem returned_upload_iff {u : Assets.UploadId} : returned s id (.upload u) = true ↔
    ∃ upload, (s.assets id).session.assets.uploads u = some upload ∧ upload.task = .ended := by
  rw [returned]
  split
  · rename_i heq
    exact ⟨fun _ => ⟨_, heq, rfl⟩, fun _ => rfl⟩
  · rename_i hne
    refine ⟨nofun, ?_⟩
    rintro ⟨⟨key, length, compression, task⟩, hu, rfl⟩
    exact absurd hu (hne key length compression)

/-- A step of the assets of an allocation that leaves its references alone. -/
theorem Lives.assets_frame (hs : Lives s id) {assets : AllocatedAssets.State}
    {proxyServers : Uuid → Shared Holder} (hx : proxyServers id = s.proxyServers id)
    (hneeds : ∀ u, (∃ upload, assets.session.assets.uploads u = some upload ∧
      uploadHolds upload.task = true) → Needs s id (.upload u))
    (hmem : ∀ u upload, (s.assets id).session.assets.uploads u = some upload →
      uploadHolds upload.task = true ∨ upload.task = .ended →
      ∃ upload', assets.session.assets.uploads u = some upload' ∧
        (uploadHolds upload'.task = true ∨ upload'.task = .ended)) :
    Lives { s.setAssets id assets with proxyServers := proxyServers } id := by
  have hself : (s.setAssets id assets).assets id = assets := s.assets_setAssets_self id assets
  refine ⟨?_, ?_⟩
  · show Tracks (proxyServers id) _ _
    rw [hx]
    refine hs.tracks.mono ?_ ?_
    · intro h hh
      cases h with
      | upload u =>
          obtain ⟨upload, hu, hholds⟩ := hh
          change ((s.setAssets id assets).assets id).session.assets.uploads u = some upload at hu
          rw [hself] at hu
          exact hneeds u ⟨upload, hu, hholds⟩
      | loop | store | task | request r => exact hh
    · intro h hh
      cases h with
      | upload u =>
          have hbefore : ∃ upload, (s.assets id).session.assets.uploads u = some upload ∧
              (uploadHolds upload.task = true ∨ upload.task = .ended) := by
            rcases hh with ⟨upload, hu, hholds⟩ | hreturned
            · exact ⟨upload, hu, Or.inl hholds⟩
            · obtain ⟨upload, hu, hended⟩ := returned_upload_iff.mp hreturned
              exact ⟨upload, hu, Or.inr hended⟩
          obtain ⟨upload, hu, hwhich⟩ := hbefore
          obtain ⟨upload', hu', hwhich'⟩ := hmem u upload hu hwhich
          rw [← hself] at hu'
          rcases hwhich' with hholds | hended
          · exact Or.inl ⟨upload', hu', hholds⟩
          · exact Or.inr (returned_upload_iff.mpr ⟨upload', hu', hended⟩)
      | loop | store | task | request r => exact hh
  · show proxyServers id = .unborn ↔ _
    rw [hx]
    exact hs.unborn

/-- One upload task goes on. -/
theorem Lives.upload_moves (hs : Lives s id) {assets : AllocatedAssets.State}
    {proxyServers : Uuid → Shared Holder} (hx : proxyServers id = s.proxyServers id)
    {u : Assets.UploadId} {upload upload' : Assets.Upload}
    (hu : (s.assets id).session.assets.uploads u = some upload)
    (huploads : assets.session.assets.uploads
      = Function.update (s.assets id).session.assets.uploads u (some upload'))
    (hneeds : uploadHolds upload'.task = true → uploadHolds upload.task = true)
    (hmem : uploadHolds upload.task = true ∨ upload.task = .ended →
      uploadHolds upload'.task = true ∨ upload'.task = .ended) :
    Lives { s.setAssets id assets with proxyServers := proxyServers } id := by
  refine hs.assets_frame hx ?_ ?_
  · rintro u' ⟨upload'', hu'', hholds⟩
    rw [huploads] at hu''
    by_cases hne : u' = u
    · subst hne
      rw [Function.update_self] at hu''
      cases hu''
      exact ⟨upload, hu, hneeds hholds⟩
    · rw [Function.update_of_ne hne] at hu''
      exact ⟨upload'', hu'', hholds⟩
  · intro u' upload'' hu'' hwhich
    rw [huploads]
    by_cases hne : u' = u
    · subst hne
      cases hu.symm.trans hu''
      exact ⟨upload', Function.update_self .., hmem hwhich⟩
    · exact ⟨upload'', (Function.update_of_ne hne ..).trans hu'', hwhich⟩

/-- An upload task upgrades its weak reference. -/
theorem Lives.upgrade (hs : Lives s id) (halive : (s.proxyServers id).isAlive = true)
    {assets : AllocatedAssets.State} {u : Assets.UploadId} {upload upload' : Assets.Upload}
    {r : RecvStream} (hu : (s.assets id).session.assets.uploads u = some upload)
    (htask : upload.task = .readToEnd r)
    (huploads : assets.session.assets.uploads
      = Function.update (s.assets id).session.assets.uploads u (some upload'))
    (hholds : uploadHolds upload'.task = true) :
    Lives { s.setAssets id assets with
      proxyServers := Function.update s.proxyServers id
        ((s.proxyServers id).clone (.upload u)) } id := by
  have hself : (s.setAssets id assets).assets id = assets := s.assets_setAssets_self id assets
  have hother : ∀ u', u' ≠ u → ((s.setAssets id assets).assets id).session.assets.uploads u'
      = (s.assets id).session.assets.uploads u' := by
    intro u' hne
    rw [hself, huploads, Function.update_of_ne hne]
  refine ⟨?_, ?_⟩
  · show Tracks (Function.update s.proxyServers id _ id) _ _
    rw [Function.update_self]
    refine hs.tracks.clone halive ?_ ?_ ?_
    · rintro (⟨upload'', hu'', hholds''⟩ | hreturned)
      · cases hu.symm.trans hu''
        rw [htask] at hholds''
        cases hholds''
      · obtain ⟨upload'', hu'', hended⟩ := returned_upload_iff.mp hreturned
        cases hu.symm.trans hu''
        cases htask.symm.trans hended
    · intro h hh
      cases h with
      | upload u' =>
          by_cases hne : u' = u
          · exact Or.inr (congrArg _ hne)
          · obtain ⟨upload'', hu'', hholds''⟩ := hh
            exact Or.inl ⟨upload'', (hother u' hne).symm.trans hu'', hholds''⟩
      | loop | store | task | request r => exact Or.inl hh
    · rintro h (hh | rfl)
      · cases h with
        | upload u' =>
            by_cases hne : u' = u
            · subst hne
              refine Or.inl ⟨upload', ?_, hholds⟩
              show ((s.setAssets id assets).assets id).session.assets.uploads u' = some upload'
              rw [hself, huploads, Function.update_self]
            · rcases hh with ⟨upload'', hu'', hholds''⟩ | hreturned
              · exact Or.inl ⟨upload'', (hother u' hne).trans hu'', hholds''⟩
              · obtain ⟨upload'', hu'', hended⟩ := returned_upload_iff.mp hreturned
                exact Or.inr (returned_upload_iff.mpr
                  ⟨upload'', (hother u' hne).trans hu'', hended⟩)
        | loop | store | task | request r => exact hh
      · refine Or.inl ⟨upload', ?_, hholds⟩
        show ((s.setAssets id assets).assets id).session.assets.uploads u = some upload'
        rw [hself, huploads, Function.update_self]
  · show Function.update s.proxyServers id _ id = .unborn ↔ _
    rw [Function.update_self, Shared.clone_eq_unborn_iff]
    exact hs.unborn

theorem lives_assets (hs : Lives s id) {b : AllocatedAssets.Action}
    {assets : AllocatedAssets.State} (hg : guard s id b)
    (h : (AllocatedAssets.system (config.game id) config.compression).step (s.assets id) b
      = some assets) :
    Lives { s.setAssets id assets with
      proxyServers := Function.update s.proxyServers id
        (uploadHolders (s.proxyServers id) assets b) } id := by
  have hkeep : uploadHolders (s.proxyServers id) assets b = s.proxyServers id →
      Function.update s.proxyServers id (uploadHolders (s.proxyServers id) assets b) id
        = s.proxyServers id := by
    intro heq
    rw [Function.update_self, heq]
  have hsame : uploadHolders (s.proxyServers id) assets b = s.proxyServers id →
      assets.session.assets.uploads = (s.assets id).session.assets.uploads →
      Lives { s.setAssets id assets with
        proxyServers := Function.update s.proxyServers id
          (uploadHolders (s.proxyServers id) assets b) } id := by
    intro heq huploads
    refine hs.assets_frame (hkeep heq) ?_ ?_
    · rintro u ⟨upload, hu, hholds⟩
      exact ⟨upload, huploads ▸ hu, hholds⟩
    · intro u upload hu hwhich
      exact ⟨upload, huploads ▸ hu, hwhich⟩
  cases AllocatedAssets.step_cases h with
  | client _ _ | storeAsset _ | openUni _ _ | openUniFails _ | openPlayerStream =>
      exact hsame rfl rfl
  | assets _ hstep =>
      cases Assets.step_cases hstep with
      | acceptUni _ | getAsset _ | cancel _ | tick => exact hg.elim
      | @received u key length compression recvStream data hu hdata =>
          have hholders : uploadHolders (s.proxyServers id)
              { s.assets id with session := { (s.assets id).session with
                assets := (s.assets id).session.assets.setUpload u
                  ⟨key, length, compression, .fetchAdd data⟩ } } (.assets (.readToEnd u true))
              = (s.proxyServers id).clone (.upload u) := by
            simp only [uploadHolders, Assets.State.uploads_setUpload_self]
            rfl
          rw [hholders]
          exact hs.upgrade (Eq.symm hg) hu rfl rfl rfl
      | @notReceived u key length compression recvStream upgraded hu =>
          refine hs.upload_moves (hkeep ?_) hu rfl nofun ?_
          · simp only [uploadHolders, Assets.State.uploads_setUpload_self]
            rfl
          · exact fun _ => Or.inr rfl
      | fetchAdd hu =>
          exact hs.upload_moves (hkeep rfl) hu rfl (fun _ => rfl) fun _ => Or.inl rfl
      | store hu => exact hs.upload_moves (hkeep rfl) hu rfl nofun fun _ => Or.inr rfl
      | @checkEntry c assetId deadline requested _ =>
          exact hsame rfl
            (Assets.checkEntry_spec _ c ⟨assetId, deadline, requested, .checkEntry⟩).2.1
      | testDeadline _ | createNotified _ | pollNotified _ | deadlinePasses _ _ | dropReceiver =>
          exact hsame rfl rfl

/-- The assets of another allocation change. -/
theorem Lives.assets_other (hs : Lives s id) {id' : Uuid} (hne : id ≠ id')
    {assets : AllocatedAssets.State} {proxyServers : Uuid → Shared Holder}
    (hx : proxyServers id = s.proxyServers id) :
    Lives { s.setAssets id' assets with proxyServers := proxyServers } id := by
  have hother : (s.setAssets id' assets).assets id = s.assets id :=
    s.assets_setAssets_of_ne hne assets
  refine hs.frame hx rfl (congrArg (·.session.assets.uploads) hother) ?_
  intro h
  cases h with
  | upload u =>
      show (∃ upload, ((s.setAssets id' assets).assets id).session.assets.uploads u = some upload ∧
        uploadHolds upload.task = true) ↔ _
      rw [hother]
      exact Iff.rfl
  | loop | store | task | request r => exact Iff.rfl

/-- An upload task starts, without a reference. -/
theorem lives_acceptUni (hs : ∀ id, Lives s id) {u : Assets.UploadId} {recvStream : RecvStream}
    {server : ManagementServer.State} {assets : AllocatedAssets.State}
    (hserver : ManagementServer.system.step s.server (.task id (.headerRead false)) = some server)
    (h : (AllocatedAssets.system (config.game id) config.compression).step (s.assets id)
      (.assets (.acceptUni u recvStream)) = some assets) (id' : Uuid) :
    Lives { s.setAssets id assets with server := server } id' := by
  cases ManagementServer.step_cases hserver with
  | @task _ _ allocation _ hb hstep =>
      have hs' := lives_task hs (s.server.events ++ []) hb hstep
      by_cases hid : id' = id
      · subst hid
        refine (hs' id').assets_frame rfl ?_ ?_
        · rintro u' ⟨upload, hu', hholds⟩
          cases AllocatedAssets.step_cases h with
          | assets _ hassets =>
              cases Assets.step_cases hassets with
              | acceptUni _ =>
                  by_cases hne : u' = u
                  · subst hne
                    change Function.update (s.assets id').session.assets.uploads u' _ u'
                      = some upload at hu'
                    rw [Function.update_self] at hu'
                    obtain ⟨key, length, compression, r', -, -, rfl⟩ :=
                      Assets.spawnUpload_eq_some_iff.mp hu'
                    cases hholds
                  · change Function.update (s.assets id').session.assets.uploads u _ u'
                      = some upload at hu'
                    rw [Function.update_of_ne hne] at hu'
                    exact ⟨upload, hu', hholds⟩
        · intro u' upload hu' hwhich
          refine ⟨upload, ?_, hwhich⟩
          cases AllocatedAssets.step_cases h with
          | assets _ hassets =>
              cases Assets.step_cases hassets with
              | acceptUni hnone =>
                  refine (Function.update_of_ne ?_ ..).trans hu'
                  rintro rfl
                  cases hnone.symm.trans hu'
      · exact (hs' id').assets_other hid rfl

/-! ## The requests -/

/-- A request moves, and needs the proxy server as much as before. -/
theorem Lives.place_moves (hs : Lives s id) {r : RequestId} {old place : Place}
    (hold : s.places r = old) (hplaces : t.places = Function.update s.places r place)
    (hserver : t.server = s.server) (hx : t.proxyServers id = s.proxyServers id)
    (huploads : (t.assets id).session.assets.uploads = (s.assets id).session.assets.uploads)
    (hsame : place.proxy = some id ↔ old.proxy = some id) : Lives t id := by
  refine hs.frame hx (by rw [hserver]) huploads ?_
  intro h
  cases h with
  | loop => rw [Needs, hserver]; rfl
  | store => rw [Needs, hserver]; rfl
  | task => rw [Needs, hserver]; rfl
  | request r' =>
      rw [Needs, Needs, hplaces]
      by_cases hr : r' = r
      · subst hr
        rw [Function.update_self, hold]
        exact hsame
      · rw [Function.update_of_ne hr]
  | upload u => rw [Needs, huploads]; rfl

/-- A request that is answered, or dropped, gives its reference up. -/
theorem Lives.request_releases (hs : Lives s id) {r : RequestId} {old place : Place}
    (hold : s.places r = old) (hplaces : t.places = Function.update s.places r place)
    (hserver : t.server = s.server)
    (hx : t.proxyServers id = if old.proxy = some id then (s.proxyServers id).release (.request r)
      else s.proxyServers id)
    (huploads : (t.assets id).session.assets.uploads = (s.assets id).session.assets.uploads)
    (hnone : place.proxy = none) : Lives t id := by
  by_cases hproxy : old.proxy = some id
  · rw [if_pos hproxy] at hx
    have hret : ∀ h, returned t id h = returned s id h := returned_congr (by rw [hserver]) huploads
    refine ⟨?_, ?_⟩
    · rw [hx]
      refine hs.tracks.release ?_ ?_
      · intro h hh
        cases h with
        | request r' =>
            rw [Needs, hplaces] at hh
            by_cases hr : r' = r
            · subst hr
              rw [Function.update_self, hnone] at hh
              cases hh
            · rw [Function.update_of_ne hr] at hh
              exact ⟨hh, fun heq => hr (Holder.request.inj heq)⟩
        | loop | store | task =>
            rw [Needs, hserver] at hh
            exact ⟨hh, nofun⟩
        | upload u =>
            rw [Needs, huploads] at hh
            exact ⟨hh, nofun⟩
      · intro h hh hne
        rw [hret]
        refine hh.imp_left ?_
        intro hneeds
        cases h with
        | request r' =>
            have hr : r' ≠ r := fun heq => hne (congrArg _ heq)
            rw [Needs, hplaces, Function.update_of_ne hr]
            exact hneeds
        | loop | store | task =>
            rw [Needs, hserver]
            exact hneeds
        | upload u =>
            rw [Needs, huploads]
            exact hneeds
    · rw [hx, Shared.release_eq_unborn_iff, hserver]
      exact hs.unborn
  · rw [if_neg hproxy] at hx
    exact hs.place_moves hold hplaces hserver hx huploads
      (iff_of_false (by rw [hnone]; exact nofun) hproxy)

/-- A request finds a proxy server in the store. -/
theorem Lives.request_finds (hs : Lives s id) (hmem : id ∈ s.server.proxies) {r : RequestId}
    (hold : (s.places r).proxy = none) :
    Lives ((s.setPlace r (.callGetAsset id)).hold r id) id := by
  have halive := hs.tracks.isAlive (show Needs s id .store from hmem)
  refine ⟨?_, ?_⟩
  · show Tracks (Function.update s.proxyServers id _ id) _ _
    rw [Function.update_self]
    refine hs.tracks.clone halive ?_ ?_ ?_
    · rintro (hneeds | hreturned)
      · rw [Needs, hold] at hneeds
        cases hneeds
      · cases hreturned
    · intro h hh
      cases h with
      | request r' =>
          by_cases hr : r' = r
          · exact Or.inr (congrArg _ hr)
          · change ((s.setPlace r (.callGetAsset id)).places r').proxy = some id at hh
            rw [s.places_setPlace_of_ne hr] at hh
            exact Or.inl hh
      | loop | store | task | upload u => exact Or.inl hh
    · rintro h (hh | rfl)
      · refine hh.imp_left ?_
        intro hneeds
        cases h with
        | request r' =>
            show ((s.setPlace r (.callGetAsset id)).places r').proxy = some id
            have hr : r' ≠ r := by
              rintro rfl
              rw [Needs, hold] at hneeds
              cases hneeds
            rw [s.places_setPlace_of_ne hr]
            exact hneeds
        | loop | store | task | upload u => exact hneeds
      · refine Or.inl ?_
        show ((s.setPlace r (.callGetAsset id)).places r).proxy = some id
        rw [State.places_setPlace_self]
        rfl
  · show Function.update s.proxyServers id _ id = .unborn ↔ _
    rw [Function.update_self, Shared.clone_eq_unborn_iff]
    exact hs.unborn

/-- A task that has returned drops its reference. -/
theorem Lives.task_drops (hs : Lives s id) {h : Holder} (hreturned : returned s id h = true) :
    Lives (s.dropProxy id h) id := by
  refine ⟨?_, ?_⟩
  · show Tracks (Function.update s.proxyServers id _ id) _ _
    rw [Function.update_self]
    refine hs.tracks.release ?_ fun h' hh' _ => hh'
    intro h' hh'
    refine ⟨hh', ?_⟩
    rintro rfl
    cases h' with
    | task =>
        rw [Needs] at hh'
        rcases returned_task_iff.mp hreturned with heq | heq
        · change taskNeeds (s.server.allocations id).startTask = true at hh'
          rw [heq] at hh'
          cases hh'
        · change taskNeeds (s.server.allocations id).startTask = true at hh'
          rw [heq] at hh'
          cases hh'
    | upload u =>
        obtain ⟨upload, hu, hholds⟩ := hh'
        obtain ⟨upload', hu', hended⟩ := returned_upload_iff.mp hreturned
        cases hu.symm.trans hu'
        rw [hended] at hholds
        cases hholds
    | loop | store | request r => cases hreturned
  · show Function.update s.proxyServers id _ id = .unborn ↔ _
    rw [Function.update_self, Shared.release_eq_unborn_iff]
    exact hs.unborn

/-! ## All of it, in every run -/

theorem proxyServers_release (s : State) (r : RequestId) (proxy : Option Uuid) (id : Uuid) :
    (s.release r proxy).proxyServers id
      = if proxy = some id then (s.proxyServers id).release (.request r)
        else s.proxyServers id := by
  cases proxy with
  | none => rw [if_neg nofun]; rfl
  | some id' =>
      by_cases hid : id = id'
      · subst hid
        rw [if_pos rfl]
        exact Function.update_self ..
      · rw [if_neg (fun heq => hid (Option.some.inj heq).symm)]
        exact Function.update_of_ne hid ..

theorem uploads_setAssets {b : AllocatedAssets.Action} {assets : AllocatedAssets.State}
    {id id' : Uuid} (h : (AllocatedAssets.system (config.game id) config.compression).step
      (s.assets id) b = some assets)
    (hb : (∃ c key timeout, b = .assets (.getAsset c key timeout)) ∨ ∃ c, b = .assets (.cancel c)) :
    ((s.setAssets id assets).assets id').session.assets.uploads
      = (s.assets id').session.assets.uploads := by
  by_cases hid : id' = id
  · subst hid
    rw [State.assets_setAssets_self]
    rcases hb with ⟨c, key, timeout, rfl⟩ | ⟨c, rfl⟩
    · cases AllocatedAssets.step_cases h with
      | assets _ hstep =>
          cases Assets.step_cases hstep with
          | getAsset _ => rfl
    · cases AllocatedAssets.step_cases h with
      | assets _ hstep =>
          cases Assets.step_cases hstep with
          | cancel _ => rfl
  · rw [s.assets_setAssets_of_ne hid]

theorem lives_step (hs : ∀ id, Lives s id) (hserver : ManagementServer.Inv s.server)
    (h : (system config).step s a = some t) (id : Uuid) : Lives t id := by
  cases step_cases h with
  | server hstep => exact lives_server hs hserver hstep id
  | @assets id' b assets hg hstep =>
      by_cases hid : id = id'
      · subst hid
        exact lives_assets (hs id) hg hstep
      · exact (hs id).assets_other hid (Function.update_of_ne hid ..)
  | acceptUni hstep hassets => exact lives_acceptUni hs hstep hassets id
  | tick => exact (hs id).frame rfl rfl rfl fun h => by cases h <;> exact Iff.rfl
  | @dropProxy id' holder hmem hreturned =>
      by_cases hid : id = id'
      · subst hid
        exact (hs id).task_drops hreturned
      · refine (hs id).frame (Function.update_of_ne hid ..) rfl rfl ?_
        exact fun h => by cases h <;> exact Iff.rfl
  | request hp | parsed hp _ | malformed hp _ | noProxy hp _ | returns hp _ _ =>
      exact (hs id).place_moves hp rfl rfl rfl rfl Iff.rfl
  | @foundProxy r id' proxy hp hproxy =>
      cases hserver.own id' proxy hproxy
      by_cases hid : id = id'
      · subst hid
        exact (hs id).request_finds (AList.lookup_isSome.mp (by rw [hproxy]; rfl)) (by rw [hp]; rfl)
      · refine (hs id).place_moves hp rfl rfl (Function.update_of_ne hid ..) rfl ?_
        exact iff_of_false (fun heq => hid (Option.some.inj heq).symm) nofun
  | getAsset hp hstep =>
      exact (hs id).place_moves hp rfl rfl rfl
        (uploads_setAssets hstep (Or.inl ⟨_, _, _, rfl⟩)) Iff.rfl
  | countSuccess hp _ => exact (hs id).place_moves hp rfl rfl rfl rfl Iff.rfl
  | countFailure hp _ | observe hp _ =>
      exact (hs id).request_releases hp (State.places_release ..) (State.server_release ..)
        (proxyServers_release ..) (by rw [State.assets_release]; rfl) rfl
  | drop hp hstep =>
      refine (hs id).request_releases hp (State.places_release ..) (State.server_release ..)
        (proxyServers_release ..) ?_ rfl
      rw [State.assets_release]
      exact uploads_setAssets hstep (Or.inr ⟨_, rfl⟩)

theorem lives_of_exec (h : (system config).exec {} acts = some s) (id : Uuid) : Lives s id := by
  refine (exec_history (P := fun acts s => (system config).exec {} acts = some s ∧
    ∀ id, Lives s id) ⟨rfl, Lives.init⟩ ?_ h).2 id
  rintro as m a t ⟨hm, hs⟩ hstep
  exact ⟨exec_snoc_iff.mpr ⟨m, hm, hstep⟩, lives_step hs (serverInv_of_exec hm) hstep⟩

end AmbientProxy.HttpInterface
