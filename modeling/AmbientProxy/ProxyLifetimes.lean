import AmbientProxy.ProxyReferences

/-! # Lifetimes — when a proxy server is dropped

    A proxy server is dropped with its last reference (`Drop for ProxyServer`), by
    whichever task holds it.  A use after that would be a use of freed memory, and one
    that never comes is a leak.

    * `alive_while_needed` — whoever uses a proxy server keeps it alive, in every
      interleaving; while it is in the store, a request finds it alive;
    * `untouched_after_drop` — it is dropped once, and from then on no step changes its
      asset store, its messages or its calls;
    * `dropped_after_removal` — once the loop has removed it and nobody uses it, the tasks
      that return drop it;
    * `alive_after_panic` — where its task panics, it is never removed. -/

namespace AmbientProxy.HttpInterface

open Transition Sharing

variable {config : Config} {s t : State} {a : Action} {acts : List Action} {id : Uuid}

/-! ## After the drop -/

/-- A call that has not ended belongs to a request that waits for it. -/
def Waiting (s : State) : Prop :=
  ∀ r id call, s.call id r = some call → Ended call.place ∨ s.places r = .getAsset id

theorem waiting_keep (hs : Waiting s) {r : RequestId} (hleaves : Leaves r s t)
    (hplace : ∀ id, s.places r = .getAsset id → t.places r = .getAsset id ∨
      ∃ call, s.call id r = some call ∧ Ended call.place) {id : Uuid} {call : Assets.Call}
    (hc : t.call id r = some call) : Ended call.place ∨ t.places r = .getAsset id := by
  have hk := hleaves.kept id
  rw [hc] at hk
  generalize hbefore : s.call id r = before at hk
  cases hk with
  | goesOn _ _ hended _ =>
      rcases hs r id _ hbefore with hend | hp
      · rw [hended hend]
        exact Or.inl hend
      · rcases hplace id hp with hp' | ⟨call', hc', hend⟩
        · exact Or.inr hp'
        · cases hbefore.symm.trans hc'
          rw [hended hend]
          exact Or.inl hend

/-- A request that moves on, where it does not leave a call behind. -/
theorem waiting_setPlace (hs : Waiting s) {r : RequestId} {place : Place}
    (hplaces : t.places = Function.update s.places r place)
    (hothers : ∀ r', r' ≠ r → Leaves r' s t)
    (hself : ∀ id call, t.call id r = some call → Ended call.place ∨ place = .getAsset id) :
    Waiting t := by
  intro r' id call hc
  rw [hplaces]
  by_cases hr : r' = r
  · subst hr
    rw [Function.update_self]
    exact hself id call hc
  · rw [Function.update_of_ne hr]
    have hsame : t.places r' = s.places r' := by
      rw [hplaces, Function.update_of_ne hr]
    rw [← hsame]
    exact waiting_keep hs (hothers r' hr) (fun id hp => Or.inl (hsame.trans hp)) hc

/-- A request that is not at its call leaves none behind. -/
theorem waiting_moves (hs : Waiting s) {r : RequestId} {old place : Place}
    (hold : s.places r = old) (hplaces : t.places = Function.update s.places r place)
    (hleaves : ∀ r', Leaves r' s t)
    (hnot : ∀ id, old = .getAsset id → ∃ call, s.call id r = some call ∧ Ended call.place) :
    Waiting t := by
  refine waiting_setPlace hs hplaces (fun r' _ => hleaves r') ?_
  intro id call hc
  have hkept := waiting_keep (t := t) hs (hleaves r)
    (fun id hp => Or.inr (hnot id (hold.symm.trans hp))) hc
  rw [hplaces, Function.update_self] at hkept
  exact hkept

theorem waiting_step (hs : Waiting s) (hrequests : Requests config s)
    (h : (system config).step s a = some t) : Waiting t := by
  cases step_cases h with
  | server _ | assets _ _ | acceptUni _ _ | tick | dropProxy _ _ =>
      intro r id call hc
      exact waiting_keep hs (leaves_step h nofun nofun) (fun _ hp => Or.inl hp) hc
  | request hp | parsed hp _ | malformed hp _ | foundProxy hp _ | noProxy hp _
  | countSuccess hp _ =>
      exact waiting_moves hs hp rfl (fun r => leaves_step h nofun nofun) nofun
  | countFailure hp _ | observe hp _ =>
      exact waiting_moves hs hp (State.places_release ..) (fun r => leaves_step h nofun nofun) nofun
  | @returns r id call result hp hc hresult =>
      refine waiting_moves hs hp rfl (fun r => leaves_step h nofun nofun) ?_
      rintro id' ⟨⟩
      exact ⟨call, hc, by rw [hresult]; trivial⟩
  | @getAsset r id assets hp hstep =>
      have hok := hrequests r
      rw [hp] at hok
      refine waiting_setPlace hs rfl ?_ ?_
      · intro r' hr
        refine leaves_step h ?_ nofun
        intro heq
        cases heq
        exact hr rfl
      · intro id' call hc
        by_cases hid : id' = id
        · exact Or.inr (congrArg _ hid.symm)
        · -- it has no call of another allocation
          change ((s.setAssets id assets).assets id').session.assets.calls r = some call at hc
          rw [s.assets_setAssets_of_ne hid] at hc
          cases (hok.2.2 id').symm.trans hc
  | @drop r id assets hp hstep =>
      refine waiting_setPlace hs (State.places_release ..) ?_ ?_
      · intro r' hr
        refine leaves_step h nofun ?_
        intro heq
        cases heq
        exact hr rfl
      · intro id' call hc
        rw [State.call, State.assets_release] at hc
        change ((s.setAssets id assets).assets id').session.assets.calls r = some call at hc
        by_cases hid : id' = id
        · subst hid
          rw [State.assets_setAssets_self] at hc
          cases AllocatedAssets.step_cases hstep with
          | assets _ hassets =>
              cases Assets.step_cases hassets with
              | cancel _ =>
                  change Function.update (s.assets id').session.assets.calls r _ r = some call at hc
                  rw [Function.update_self] at hc
                  cases hc
                  exact Or.inl trivial
        · rw [s.assets_setAssets_of_ne hid] at hc
          rcases hs r id' call hc with hend | hp'
          · exact Or.inl hend
          · cases hp.symm.trans hp'
            exact absurd rfl hid

theorem waiting_of_exec (h : (system config).exec {} acts = some s) : Waiting s := by
  refine (exec_history (P := fun acts s => (system config).exec {} acts = some s ∧ Waiting s)
    ⟨rfl, nofun⟩ ?_ h).2
  rintro as m a t ⟨hm, hs⟩ hstep
  exact ⟨exec_snoc_iff.mpr ⟨m, hm, hstep⟩, waiting_step hs (responses_of_exec hm).requests hstep⟩

/-- What a proxy server owns is as it was: its assets, what it counted and asked for,
    and the calls that run in it. -/
structure Untouched (before after : AllocatedAssets.State) : Prop where
  assetStore : after.session.assets.assetStore = before.session.assets.assetStore
  totalAssetsSize : after.session.assets.totalAssetsSize = before.session.assets.totalAssetsSize
  requests : after.session.assets.requests = before.session.assets.requests
  calls : after.session.assets.calls = before.session.assets.calls

theorem Untouched.refl (assets : AllocatedAssets.State) : Untouched assets assets :=
  ⟨rfl, rfl, rfl, rfl⟩

theorem Untouched.trans {x y z : AllocatedAssets.State} (h : Untouched x y) (h' : Untouched y z) :
    Untouched x z :=
  ⟨h'.assetStore.trans h.assetStore, h'.totalAssetsSize.trans h.totalAssetsSize,
    h'.requests.trans h.requests, h'.calls.trans h.calls⟩

/-- Only an upload task with a reference and a call of a request change what a proxy
    server owns. -/
theorem untouched_assets {b : AllocatedAssets.Action} {assets : AllocatedAssets.State}
    (hnone : ∀ h, ¬ Needs s id h) (hs : Waiting s) (hb : ∀ c key timeout,
      b ≠ .assets (.getAsset c key timeout))
    (h : (AllocatedAssets.system (config.game id) config.compression).step (s.assets id) b
      = some assets) : Untouched (s.assets id) assets := by
  have hcall : ∀ {c assetId deadline requested place},
      (s.assets id).session.assets.calls c = some ⟨assetId, deadline, requested, place⟩ →
        Ended place := by
    intro c assetId deadline requested place hc
    rcases hs c id _ hc with hend | hp
    · exact hend
    · refine absurd ?_ (hnone (.request c))
      rw [Needs, hp]
      rfl
  cases AllocatedAssets.step_cases h with
  | assets _ hstep =>
      cases Assets.step_cases hstep with
      | acceptUni _ | received _ _ | notReceived _ | dropReceiver | tick =>
          exact ⟨rfl, rfl, rfl, rfl⟩
      | fetchAdd hu | store hu => exact absurd ⟨_, hu, rfl⟩ (hnone (.upload _))
      | getAsset _ => exact absurd rfl (hb _ _ _)
      | testDeadline hc | checkEntry hc | createNotified hc | pollNotified hc
      | deadlinePasses hc _ | cancel hc => exact (hcall hc).elim
  | _ => exact ⟨rfl, rfl, rfl, rfl⟩

theorem untouched_setAssets {id' : Uuid} {b : AllocatedAssets.Action}
    {assets : AllocatedAssets.State} (hnone : ∀ h, ¬ Needs s id h) (hs : Waiting s)
    (hb : id = id' → ∀ c key timeout, b ≠ .assets (.getAsset c key timeout))
    (h : (AllocatedAssets.system (config.game id') config.compression).step (s.assets id') b
      = some assets) : Untouched (s.assets id) ((s.setAssets id' assets).assets id) := by
  by_cases hid : id = id'
  · subst hid
    rw [State.assets_setAssets_self]
    exact untouched_assets hnone hs (hb rfl) h
  · rw [s.assets_setAssets_of_ne hid]
    exact .refl _

theorem untouched_step (hnone : ∀ h, ¬ Needs s id h) (hs : Waiting s)
    (h : (system config).step s a = some t) : Untouched (s.assets id) (t.assets id) := by
  cases step_cases h with
  | assets hg hstep =>
      refine untouched_setAssets hnone hs ?_ hstep
      rintro rfl c key timeout rfl
      exact hg
  | acceptUni _ hstep =>
      refine untouched_setAssets hnone hs ?_ hstep
      rintro - c key timeout ⟨⟩
  | tick => exact ⟨rfl, rfl, rfl, rfl⟩
  | @getAsset r id' _ hp hstep =>
      refine untouched_setAssets hnone hs ?_ hstep
      rintro rfl
      refine absurd ?_ (hnone (.request r))
      rw [Needs, hp]
      rfl
  | drop _ hstep =>
      rw [State.assets_release]
      refine untouched_setAssets hnone hs ?_ hstep
      rintro - c key timeout ⟨⟩
  | countFailure _ _ | observe _ _ =>
      rw [State.assets_release]
      exact .refl _
  | _ => exact .refl _

/-- No step creates a proxy server again. -/
theorem dropped_step (hlives : Lives s id) (hserver : ManagementServer.Inv s.server)
    (hdropped : s.proxyServers id = .dropped) (h : (system config).step s a = some t) :
    t.proxyServers id = .dropped := by
  have hother : ∀ {id' x}, (id = id' → x = .dropped) →
      Function.update s.proxyServers id' x id = .dropped := by
    intro id' x hx
    by_cases hid : id = id'
    · subst hid
      rw [Function.update_self]
      exact hx rfl
    · rw [Function.update_of_ne hid]
      exact hdropped
  have hrelease : ∀ r proxy, (if proxy = some id then (s.proxyServers id).release (.request r)
      else s.proxyServers id) = .dropped := by
    intro r proxy
    rw [hdropped]
    split <;> rfl
  cases step_cases h with
  | server hstep =>
      cases ManagementServer.step_cases hstep with
      | @newProxyServer id' hp =>
          rw [loopHolders, hp]
          refine hother ?_
          rintro rfl
          -- it was not there yet
          have hm := hserver.projects.management_current (by rw [hp]; rfl : _ = some id)
          simp only [hp, reduceCtorEq, if_false] at hm
          obtain ⟨bs, hbs⟩ := hserver.projects.run id
          have hunspawned : (s.server.allocations id).messageTask = .notSpawned := by
            by_contra hne
            exact (Startup.handshakeInv_of_exec hbs).unspawned hne hm
          cases (hlives.unborn.mpr hunspawned).symm.trans hdropped
      | spawnStart hp =>
          rw [loopHolders, hp]
          refine hother ?_
          rintro rfl
          rw [hdropped]
          rfl
      | insert hp _ =>
          rw [loopHolders, hp]
          refine hother ?_
          rintro rfl
          rw [hdropped]
          rfl
      | recvEvent _ hev =>
          rw [loopHolders, hev]
          refine hother ?_
          rintro rfl
          rw [hdropped]
          rfl
      | _ => exact hdropped
  | @assets id' b assets hg hstep =>
      refine hother ?_
      rintro rfl
      rw [hdropped]
      unfold uploadHolders
      split
      · split
        · split <;> rfl
        · rfl
      · rfl
  | dropProxy _ _ =>
      refine hother ?_
      rintro rfl
      rw [hdropped]
      rfl
  | foundProxy _ _ =>
      refine hother ?_
      rintro rfl
      show (s.proxyServers id).clone _ = .dropped
      rw [hdropped]
      rfl
  | countFailure _ _ | observe _ _ | drop _ _ =>
      rw [proxyServers_release]
      exact hrelease _ _
  | _ => exact hdropped

/-! ## The life of a proxy server -/

/-- What was created and is not in the loop's hands has been accepted. -/
theorem accepted_of_created (hserver : ManagementServer.Inv s.server)
    (hcreated : (s.server.allocations id).messageTask ≠ .notSpawned)
    (hphase : ¬ inHand s.server.phase id) : id ∈ s.server.accepted := by
  obtain ⟨bs, hbs⟩ := hserver.projects.run id
  have hnew := (Startup.handshakeInv_of_exec hbs).unspawned hcreated
  by_contra hnot
  rw [hserver.projects.management, ManagementServer.State.managementOf, if_neg hnot,
    if_neg (fun hp => hphase (Or.inl hp)), if_neg (fun hp => hphase (Or.inr hp))] at hnew
  exact hnew rfl

/-- **Whoever uses a proxy server keeps it alive.**  In every run, with any
    interleaving of the loop, its tasks, the uploads and the requests: a proxy server
    that the loop has in its hands, that is in the store, whose task runs, that a
    request or an upgraded upload task uses, is alive; so it is alive while it is
    listed; and where it has been dropped, the loop had processed its `Stopped` event
    and nobody used it any more. -/
theorem alive_while_needed (h : (system config).exec {} acts = some s) (id : Uuid) :
    (∀ h, Needs s id h → (s.proxyServers id).isAlive = true) ∧
    (id ∈ s.server.accepted → .stopped id ∉ s.server.processed →
      (s.proxyServers id).isAlive = true) ∧
    (s.proxyServers id = .dropped →
      id ∈ s.server.accepted ∧ .stopped id ∈ s.server.processed ∧ ∀ h, ¬ Needs s id h) := by
  have hlives := lives_of_exec h id
  have hserver := serverInv_of_exec h
  have halive : ∀ h, Needs s id h → (s.proxyServers id).isAlive = true :=
    fun _ hneeds => hlives.tracks.isAlive hneeds
  refine ⟨halive, fun hacc hnot => halive .store ((hserver.store id).mpr ⟨hacc, hnot⟩), ?_⟩
  intro hdropped
  have hnone : ∀ h, ¬ Needs s id h := hlives.tracks.not_needs (by rw [hdropped]; rfl)
  have hcreated : (s.server.allocations id).messageTask ≠ .notSpawned := by
    intro hunspawned
    cases (hlives.unborn.mpr hunspawned).symm.trans hdropped
  have hacc := accepted_of_created hserver hcreated (hnone .loop)
  refine ⟨hacc, ?_, hnone⟩
  by_contra hnot
  exact hnone .store ((hserver.store id).mpr ⟨hacc, hnot⟩)

/-- The game stores an asset by itself, and its stream is accepted. -/
def stores (id : Uuid) : List Action :=
  [.assets id (.storeAsset Str.b [0x09]),
    .assets id (.openUni ⟨.storeAsset, Str.b.bytes, [0x09]⟩ Str.b),
    .server (.task id .acceptServerStream),
    .acceptUni id 1
      ⟨[(sendStoreAssetMessage (fun data => data) Str.b [0x09]).written], .finished⟩]

/-- A game server comes, answers a request and goes, and all tasks return that hold a
    reference.  One upload task is still to upgrade its own. -/
def comesAndGoes : List Action :=
  connect 1 ++ ask 1 0 ++ upload 1 ++ finish 1 0 ++ stores 1 ++ leave 1 ++
    [.dropProxy 1 .task, .dropProxy 1 (.upload 0)]

theorem alive_while_needed_comesAndGoes :
    ∃ s, (system oneGame).exec {} comesAndGoes = some s ∧ s.proxyServers 1 = .dropped ∧
      1 ∈ s.server.accepted ∧ .stopped 1 ∈ s.server.processed ∧ ¬ Needs s 1 (.request 0) := by
  have hrun : (system oneGame).exec {} comesAndGoes = some _ := rfl
  obtain ⟨-, -, hdropped⟩ := alive_while_needed hrun 1
  obtain ⟨hacc, hstopped, hnone⟩ := hdropped rfl
  exact ⟨_, hrun, rfl, hacc, hstopped, hnone _⟩

/-- **A dropped proxy server is never touched again.**  Once it is dropped, it stays
    dropped in every continuation of the run, and no step of any task changes its asset
    store, its counter, its messages or its calls. -/
theorem untouched_after_drop (h : (system config).exec {} acts = some s) {id : Uuid}
    (hdropped : s.proxyServers id = .dropped) (more : List Action)
    (hmore : (system config).exec s more = some t) :
    t.proxyServers id = .dropped ∧ Untouched (s.assets id) (t.assets id) := by
  refine (exec_history (P := fun more t => (system config).exec s more = some t ∧
    t.proxyServers id = .dropped ∧ Untouched (s.assets id) (t.assets id))
    ⟨rfl, hdropped, .refl _⟩ ?_ hmore).2
  rintro more m a t ⟨hm, hgone, hsame⟩ hstep
  have hrun : (system config).exec {} (acts ++ more) = some m := by
    rw [exec_append, h]
    exact hm
  have hlives := lives_of_exec hrun id
  have hnone : ∀ h, ¬ Needs m id h := hlives.tracks.not_needs (by rw [hgone]; rfl)
  exact ⟨exec_snoc_iff.mpr ⟨m, hm, hstep⟩,
    dropped_step hlives (serverInv_of_exec hrun) hgone hstep,
    hsame.trans (untouched_step hnone (waiting_of_exec hrun) hstep)⟩

/-- The upload task fails to upgrade its reference, and a request comes too late. -/
def afterwards : List Action :=
  [.assets 1 (.assets (.readToEnd 1 false)), .request 2, .parseId 2, .getProxy 2, .count 2, .tick]

theorem untouched_after_drop_comesAndGoes :
    ∃ s t upload, (system oneGame).exec {} comesAndGoes = some s ∧
      (system oneGame).exec s afterwards = some t ∧
      (t.assets 1).session.assets.uploads 1 = some upload ∧ upload.task = .ended ∧
      t.proxyServers 1 = .dropped ∧ Untouched (s.assets 1) (t.assets 1) := by
  have hrun : (system oneGame).exec {} comesAndGoes = some _ := rfl
  exact ⟨_, _, _, hrun, rfl, rfl, rfl, untouched_after_drop hrun rfl afterwards rfl⟩

/-- The tasks that have returned drop their references one after the other. -/
theorem exec_dropProxy {l : List Holder} (hl : (s.proxyServers id).holders = l)
    (hborn : s.proxyServers id ≠ .unborn) (hreturned : ∀ h ∈ l, returned s id h = true) :
    ∃ t, (system config).exec s (l.map (.dropProxy id)) = some t ∧
      t.proxyServers id = .dropped := by
  induction l generalizing s with
  | nil =>
      refine ⟨s, rfl, Shared.eq_dropped_of_not_isAlive hborn ?_⟩
      rw [Bool.eq_false_iff]
      exact fun halive => Shared.isAlive_iff.mp halive hl
  | cons h l ih =>
      have hself : (s.dropProxy id h).proxyServers id = (s.proxyServers id).release h :=
        Function.update_self ..
      have hstep : (system config).step s (.dropProxy id h) = some (s.dropProxy id h) :=
        if_pos ⟨by rw [hl]; exact List.mem_cons_self, hreturned h List.mem_cons_self⟩
      have hrest : ((s.dropProxy id h).proxyServers id).holders = l := by
        rw [hself, Shared.holders_release, hl, List.erase_cons_head]
      obtain ⟨t, ht, hdropped⟩ := ih hrest (by rw [hself]; simpa using hborn) fun h' hh' => by
        rw [returned_congr (s := s) (t := s.dropProxy id h) rfl rfl]
        exact hreturned h' (List.mem_cons_of_mem h hh')
      exact ⟨t, exec_cons_iff.mpr ⟨_, hstep, ht⟩, hdropped⟩

/-- **No proxy server is leaked.**  In every run: once the loop has processed the
    `Stopped` event of an allocation, and no request and no upload task uses its proxy
    server, those that still hold it are tasks that have returned, and as they drop
    their references it is dropped. -/
theorem dropped_after_removal (h : (system config).exec {} acts = some s) {id : Uuid}
    (hstopped : .stopped id ∈ s.server.processed)
    (hrequests : ∀ r, (s.places r).proxy ≠ some id)
    (huploads : ∀ u upload, (s.assets id).session.assets.uploads u = some upload →
      uploadHolds upload.task = false) :
    (∀ h ∈ (s.proxyServers id).holders, returned s id h = true) ∧
    ∃ t, (system config).exec s ((s.proxyServers id).holders.map (.dropProxy id)) = some t ∧
      t.proxyServers id = .dropped := by
  have hlives := lives_of_exec h id
  have hserver := serverInv_of_exec h
  have hacc := hserver.projects.accepted_of_processed hstopped
  have hfinished : (s.server.allocations id).startTask = .finished :=
    (hserver.projects.finished_iff id).mpr (List.mem_append_left _ hstopped)
  have hnone : ∀ h, ¬ Needs s id h := by
    intro h hneeds
    cases h with
    | loop =>
        refine (hserver.projects.current id ?_).2 hacc
        rcases hneeds with hp | hp
        · rw [hp]; rfl
        · rw [hp]; rfl
    | store => exact ((hserver.store id).mp hneeds).2 hstopped
    | task =>
        rw [Needs, hfinished] at hneeds
        cases hneeds
    | request r => exact hrequests r hneeds
    | upload u =>
        obtain ⟨upload, hu, hholds⟩ := hneeds
        cases (huploads u upload hu).symm.trans hholds
  have hreturned : ∀ h ∈ (s.proxyServers id).holders, returned s id h = true :=
    fun h hmem => (hlives.tracks.mem h hmem).resolve_left (hnone h)
  refine ⟨hreturned, exec_dropProxy rfl ?_ hreturned⟩
  intro hunborn
  obtain ⟨bs, hbs⟩ := hserver.projects.run id
  have hmessage := (Startup.registryInv_of_exec hbs).message (hlives.unborn.mp hunborn)
  have hspawned := (Startup.registryInv_of_exec hbs).spawned.mpr (Or.inl hmessage)
  cases hspawned.symm.trans hfinished

/-- A game server comes, answers a request and goes; the request and the upload end before
    that. -/
def leavesBehind : List Action :=
  connect 1 ++ ask 1 0 ++ upload 1 ++ finish 1 0 ++ leave 1

theorem dropped_after_removal_leavesBehind :
    ∃ s t, (system oneGame).exec {} leavesBehind = some s ∧
      s.places 0 = .responded (.returned 1 (.ok (some [0x07]))) ∧
      (s.proxyServers 1).holders = [.task, .upload 0] ∧
      (system oneGame).exec s ((s.proxyServers 1).holders.map (.dropProxy 1)) = some t ∧
      t.proxyServers 1 = .dropped := by
  have hrun : (system oneGame).exec {} leavesBehind = some _ := rfl
  obtain ⟨-, t, ht, hdropped⟩ := dropped_after_removal hrun
    (show Startup.ProxyEvent.stopped 1 ∈ _ from List.mem_cons_self)
    (fun r hr => by cases r <;> cases hr)
    (fun u upload hu => by cases u <;> cases hu; rfl)
  exact ⟨_, t, hrun, rfl, rfl, ht, hdropped⟩

/-- A task that has panicked does nothing any more. -/
theorem panicked_loop {s t : ManagementServer.State} {a : ManagementServer.Action}
    (hs : ManagementServer.Inv s) (h : ManagementServer.system.step s a = some t)
    (hpanicked : (s.allocations id).startTask = .panicked) :
    (t.allocations id).startTask = .panicked := by
  have hmove : ∀ id' x, (id = id' → x.startTask = (s.allocations id').startTask) →
      (Function.update s.allocations id' x id).startTask = .panicked := by
    intro id' x hx
    by_cases hid : id = id'
    · subst hid
      rw [Function.update_self, hx rfl, hpanicked]
    · rw [Function.update_of_ne hid, hpanicked]
  cases ManagementServer.step_cases h with
  | newProxyServer _ | insert _ _ => exact hmove _ _ fun _ => rfl
  | recvEvent _ _ => exact hmove _ _ fun _ => Startup.recvEvent_startTask
  | spawnStart hp =>
      refine hmove _ _ ?_
      rintro rfl
      -- a task that is not spawned has not panicked
      have hm := hs.projects.management_current (by rw [hp]; rfl : _ = some id)
      simp only [hp, if_true] at hm
      obtain ⟨bs, hbs⟩ := hs.projects.run id
      have hunspawned := (Startup.registryInv_of_exec hbs).spawned.mpr (Or.inr hm)
      cases hunspawned.symm.trans hpanicked
  | task _ hb hstep =>
      refine hmove _ _ ?_
      rintro rfl
      rcases (startTask_ofTasks hb hstep).1 with heq | ⟨hneeds, -⟩
      · exact heq
      · rw [hpanicked] at hneeds
        cases hneeds
  | _ => exact hpanicked

/-- **A panic leaks the proxy server.**  Where the task of `ProxyServer::start` panics,
    the loop never hears of it: in every continuation of the run no `Stopped` event of
    the allocation is processed, and its proxy server is alive. -/
theorem alive_after_panic (h : (system config).exec {} acts = some s) {id : Uuid}
    (hpanicked : (s.server.allocations id).startTask = .panicked) (more : List Action)
    (hmore : (system config).exec s more = some t) :
    .stopped id ∉ t.server.processed ∧ (t.proxyServers id).isAlive = true := by
  have hstill : (t.server.allocations id).startTask = .panicked := by
    refine (exec_history (P := fun more t => (system config).exec s more = some t ∧
      (t.server.allocations id).startTask = .panicked) ⟨rfl, hpanicked⟩ ?_ hmore).2
    rintro more m a t ⟨hm, hp⟩ hstep
    refine ⟨exec_snoc_iff.mpr ⟨m, hm, hstep⟩, ?_⟩
    have hrun : (system config).exec {} (acts ++ more) = some m := by
      rw [exec_append, h]
      exact hm
    rcases server_step hstep with heq | ⟨b, hb⟩
    · rw [heq]
      exact hp
    · exact panicked_loop (serverInv_of_exec hrun) hb hp
  have hrun : (system config).exec {} (acts ++ more) = some t := by
    rw [exec_append, h]
    exact hmore
  have hserver := serverInv_of_exec hrun
  have hnot : .stopped id ∉ t.server.processed := by
    intro hstopped
    have hfinished := (hserver.projects.finished_iff id).mpr (List.mem_append_left _ hstopped)
    cases hfinished.symm.trans hstill
  refine ⟨hnot, ?_⟩
  obtain ⟨halive, hlisted, -⟩ := alive_while_needed hrun id
  by_cases hphase : inHand t.server.phase id
  · exact halive .loop hphase
  · refine hlisted (accepted_of_created hserver ?_ hphase) hnot
    intro hunspawned
    obtain ⟨bs, hbs⟩ := hserver.projects.run id
    have hmessage := (Startup.registryInv_of_exec hbs).message hunspawned
    have hspawned := (Startup.registryInv_of_exec hbs).spawned.mpr (Or.inl hmessage)
    cases hspawned.symm.trans hstill

/-- The game server's request for an endpoint makes the task panic. -/
def panics : List Action :=
  connect 1 ++ [.server (.task 1 (.headerRead false)), .server (.task 1 (.allocateEndpoint true))]

theorem alive_after_panic_panics :
    ∃ s t, (system oneGame).exec {} panics = some s ∧
      (system oneGame).exec s [.server (.task 1 .close), .dropProxy 1 .task, .tick] = some t ∧
      .stopped 1 ∉ t.server.processed ∧ (t.proxyServers 1).isAlive = true := by
  have hrun : (system oneGame).exec {} panics = some _ := rfl
  exact ⟨_, _, hrun, rfl,
    alive_after_panic hrun rfl [.server (.task 1 .close), .dropProxy 1 .task, .tick] rfl⟩

end AmbientProxy.HttpInterface
