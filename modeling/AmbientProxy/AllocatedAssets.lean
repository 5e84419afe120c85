import AmbientProxy.AssetIntegrity
import AmbientProxy.AssetPaths
import AmbientProxy.AssetRequests

/-! # The assets of one allocation — from the game server's disk to the proxy's store

    `src/client.rs` at one end, `src/server.rs` at the other, and the two connections
    between them:

        get_asset ── RequestAsset ──FIFO──▶ Client::start: load_asset_data, spawn ──┐
                                            pre-caching task: read_dir, read ───────┤
                                            ClientController::store_asset ──────────┤
        asset_store ◀── upload task ◀── a uni stream ◀── send_store_asset_message ◀─┘

    `PreCaching` has the client's side, `Session` the streams and the store; here both
    run together.  A call of `send_store_asset_message` waits for its stream: the
    pre-caching task and the controller wait with it, the task of a request is one of
    its own.

    * `stored_originates` — what the store holds and what a request returns is a file
      of the assets directory, or data that the game stored itself, each under exactly
      its key;
    * `store_transparent` — where the game stores nothing itself, the store is a cache
      of `load_asset_data` that nobody can tell from the disk. -/

namespace AmbientProxy.AllocatedAssets

open Transition UnixPath

/-- A game server's disk, and the assets path that its client was connected with. -/
structure Game where
  fs : FileSystem
  assetsArg : Option Path
  assetsPath : Option Path
  connected : PreCaching.connectAssetsPath fs assetsArg = some assetsPath

/-- What `load_asset_data` gives the client for a key. -/
def Game.load (game : Game) (key : Bytes) : Option Bytes :=
  game.assetsPath.bind fun assetsPath => (loadAssetData game.fs assetsPath key).toOption

/-- An encoder, and a decoder that undoes it. -/
structure Compression where
  gzip : Bytes → Bytes
  gunzip : Bytes → Option Bytes
  gunzip_gzip : ∀ data, gunzip (gzip data) = some data

/-- Who calls `send_store_asset_message`. -/
inductive Caller where
  /-- `ClientController::store_asset`. -/
  | storeAsset
  | preCaching
  /-- The task that `Client::start` spawns for a `RequestAsset`. -/
  | requestAsset
  deriving DecidableEq

/-- A call of `send_store_asset_message` that waits for its stream. -/
structure StoreCall where
  caller : Caller
  key : Bytes
  data : Bytes
  deriving DecidableEq

/-- Both ends.  The last two fields record what the game stored itself, and the keys
    of the `RequestAsset` messages that the client has read. -/
structure State where
  client : PreCaching.State := {}
  session : Session := {}
  pending : List StoreCall := []
  storeAssets : List (Str × Bytes) := []
  asked : List Str := []

inductive Action where
  -- the game server
  | client (a : PreCaching.Action)
  | storeAsset (key : Str) (data : Bytes)
  | openUni (call : StoreCall) (key : Str)
  | openUniFails (call : StoreCall)
  | openPlayerStream (playerId : Str) (payload : Bytes) (finished : Bool)
  -- the proxy
  | assets (a : Assets.Action)

/-- The steps of the pre-caching task. -/
def ofTask : PreCaching.Action → Bool
  | .taskStarts | .testDeadline | .readAllocated | .createNotified | .pollNotified
  | .deadlinePasses | .pop | .readDir | .readDirFails | .nextEntry | .nextEntryFails | .fileType
  | .fileTypeFails | .readFile | .readFileFails | .sendAsset | .sendReturns | .pushEntry
  | .clear => true
  | _ => false

/-- The steps of the `ClientController`. -/
def ofController : PreCaching.Action → Bool
  | .preCacheAssets _ | .pushDirectory | .testRequested | .allocateEndpoint | .testStack
  | .startTaskIfNeeded => true
  | _ => false

/-- The key of the `RequestAsset` that a step of the client reads. -/
def keyRead : PreCaching.Action → List Str
  | .requestAsset key => [key]
  | _ => []

/-- A call by `caller` waits for its stream. -/
def State.Waits (s : State) (caller : Caller) : Prop :=
  ∃ call ∈ s.pending, call.caller = caller

instance (s : State) (caller : Caller) : Decidable (s.Waits caller) :=
  inferInstanceAs (Decidable (∃ call ∈ s.pending, call.caller = caller))

/-- Who waits for a call takes no step, and the requests arrive in their order. -/
def guard (s : State) : Action → Prop
  | .client a =>
      (ofTask a = true → ¬ s.Waits .preCaching) ∧
        (ofController a = true → ¬ s.Waits .storeAsset) ∧
        (s.asked ++ keyRead a).map .requestAsset <+: s.session.assets.requests
  | .storeAsset _ _ => s.client.controller = .idle ∧ ¬ s.Waits .storeAsset
  | .openUni call key => call ∈ s.pending ∧ key.bytes = call.key
  | .openUniFails call => call ∈ s.pending
  | _ => True

instance (s : State) (a : Action) : Decidable (guard s a) := by
  cases a <;> (dsimp only [guard]; infer_instance)

/-- The calls of `send_store_asset_message` that the client has made since. -/
def callsSince (before after : PreCaching.State) : List StoreCall :=
  (after.preCached.drop before.preCached.length).map
      (fun file => ⟨.preCaching, file.key.bytes, file.data⟩) ++
    (after.requested.drop before.requested.length).map
      fun sent => ⟨.requestAsset, sent.1.bytes, sent.2⟩

/-- What each action does, where it is enabled. -/
def step (game : Game) (c : Compression) (s : State) (a : Action) : Option State :=
  if guard s a then
    match a with
    | .client a =>
        (PreCaching.step game.fs game.assetsPath s.client a).map fun client =>
          { s with
            client := client
            pending := s.pending ++ callsSince s.client client
            asked := s.asked ++ keyRead a }
    | .storeAsset key data =>
        some { s with
          pending := s.pending ++ [⟨.storeAsset, key.bytes, data⟩]
          storeAssets := s.storeAssets ++ [(key, data)] }
    | .openUni call key =>
        (Session.step c.gzip c.gunzip s.session (.opens (.storeAsset key call.data))).map
          fun session => { s with session := session, pending := s.pending.erase call }
    | .openUniFails call => some { s with pending := s.pending.erase call }
    | .openPlayerStream playerId payload finished =>
        (Session.step c.gzip c.gunzip s.session
          (.opens (.playerStream playerId payload finished))).map
            fun session => { s with session := session }
    | .assets a =>
        (Session.step c.gzip c.gunzip s.session (.assets a)).map
          fun session => { s with session := session }
  else none

/-- The assets of one allocation. -/
def system (game : Game) (c : Compression) : System State Action where
  init := {}
  step := step game c

/-! ## What one step can do -/

/-- The steps of the system, each with all that it needs and all that it does. -/
inductive Step (game : Game) (c : Compression) (s : State) : Action → State → Prop where
  | client {a : PreCaching.Action} {client : PreCaching.State} (hg : guard s (.client a))
      (h : (PreCaching.system game.fs game.assetsPath).step s.client a = some client) :
      Step game c s (.client a) { s with
        client := client
        pending := s.pending ++ callsSince s.client client
        asked := s.asked ++ keyRead a }
  | storeAsset {key : Str} {data : Bytes} (hg : guard s (.storeAsset key data)) :
      Step game c s (.storeAsset key data) { s with
        pending := s.pending ++ [⟨.storeAsset, key.bytes, data⟩]
        storeAssets := s.storeAssets ++ [(key, data)] }
  | openUni {call : StoreCall} {key : Str} (hmem : call ∈ s.pending)
      (hkey : key.bytes = call.key) :
      Step game c s (.openUni call key) { s with
        session := { s.session with opened := s.session.opened ++ [.storeAsset key call.data] }
        pending := s.pending.erase call }
  | openUniFails {call : StoreCall} (hmem : call ∈ s.pending) :
      Step game c s (.openUniFails call) { s with pending := s.pending.erase call }
  | openPlayerStream {playerId : Str} {payload : Bytes} {finished : Bool} :
      Step game c s (.openPlayerStream playerId payload finished) { s with
        session := { s.session with
          opened := s.session.opened ++ [.playerStream playerId payload finished] } }
  | assets {a : Assets.Action} {assets : Assets.State}
      (harrives : ∀ u r, a = .acceptUni u r →
        ∃ o ∈ s.session.opened, Arrives (o.stream c.gzip) r)
      (h : (Assets.system c.gunzip).step s.session.assets a = some assets) :
      Step game c s (.assets a) { s with session := { s.session with assets := assets } }

variable {game : Game} {c : Compression} {s t : State} {a : Action} {acts : List Action}

theorem step_cases (h : (system game c).step s a = some t) : Step game c s a t := by
  change step game c s a = some t at h
  unfold step at h
  split at h
  · rename_i hg
    cases a with
    | client a =>
        obtain ⟨client, hstep, rfl⟩ := Option.map_eq_some_iff.mp h
        exact .client hg hstep
    | storeAsset key data =>
        cases Option.some.inj h
        exact .storeAsset hg
    | openUni call key =>
        obtain ⟨session, hstep, rfl⟩ := Option.map_eq_some_iff.mp h
        cases Option.some.inj hstep
        exact .openUni hg.1 hg.2
    | openUniFails call =>
        cases Option.some.inj h
        exact .openUniFails hg
    | openPlayerStream playerId payload finished =>
        obtain ⟨session, hstep, rfl⟩ := Option.map_eq_some_iff.mp h
        cases Option.some.inj hstep
        exact .openPlayerStream
    | assets a =>
        obtain ⟨session, hsession, rfl⟩ := Option.map_eq_some_iff.mp h
        unfold Session.step at hsession
        split at hsession
        · rename_i harrives
          obtain ⟨assets, hstep, rfl⟩ := Option.map_eq_some_iff.mp hsession
          refine .assets ?_ hstep
          rintro u r rfl
          exact harrives
        · cases hsession
  · cases h

theorem Game.load_eq_some_iff {key data : Bytes} :
    game.load key = some data ↔
      ∃ base, game.assetsPath = some base ∧ loadAssetData game.fs base key = .ok data := by
  rw [Game.load, Option.bind_eq_some_iff]
  constructor
  · rintro ⟨base, hbase, hload⟩
    refine ⟨base, hbase, ?_⟩
    cases hresult : loadAssetData game.fs base key with
    | error e =>
        rw [hresult] at hload
        cases hload
    | ok data' =>
        rw [hresult] at hload
        cases hload
        rfl
  · rintro ⟨base, hbase, hload⟩
    exact ⟨base, hbase, by rw [hload]; rfl⟩

/-! ## What is asked for -/

/-- A call under the lock asks for its own key, or for nothing. -/
theorem requests_checkEntry (s : Assets.State) (c : Assets.CallId) (call : Assets.Call) :
    (Assets.checkEntry s c call).requests = s.requests ∨
      (Assets.checkEntry s c call).requests = s.requests ++ [.requestAsset call.assetId] := by
  unfold Assets.checkEntry
  dsimp only
  split
  · exact Or.inl rfl
  · split
    · exact Or.inl rfl
    · split
      · exact Or.inl rfl
      · exact Or.inr rfl

/-- The messages to the game server, and what a step adds to them. -/
theorem requests_step {gunzip : Bytes → Option Bytes} {s t : Assets.State} {a : Assets.Action}
    (h : (Assets.system gunzip).step s a = some t) :
    t.requests = s.requests ∨ ∃ c call, s.calls c = some call ∧
      t.requests = s.requests ++ [.requestAsset call.assetId] := by
  cases Assets.step_cases h with
  | checkEntry hc =>
      rename_i c assetId deadline requested
      rcases requests_checkEntry s c ⟨assetId, deadline, requested, .checkEntry⟩ with hreq | hreq
      · exact Or.inl hreq
      · exact Or.inr ⟨c, _, hc, hreq⟩
  | pollNotified hc =>
      rename_i c assetId deadline requested future
      refine Or.inl ?_
      cases hready : (s.asset assetId).notify.ready c future with
      | true =>
          rw [Assets.pollNotified_of_ready hready]
          rfl
      | false =>
          rw [Assets.pollNotified_of_not_ready hready]
          rfl
  | _ => exact Or.inl rfl

/-- A call keeps its key. -/
theorem assetId_step {gunzip : Bytes → Option Bytes} {s t : Assets.State} {a : Assets.Action}
    (h : (Assets.system gunzip).step s a = some t) {c : Assets.CallId} {call : Assets.Call}
    (hc : s.calls c = some call) : ∃ call', t.calls c = some call' ∧
      call'.assetId = call.assetId := by
  have hupdate : ∀ {c' : Assets.CallId} {call₁ call₂ : Assets.Call}, s.calls c' = some call₁ →
      t.calls = Function.update s.calls c' (some call₂) → call₂.assetId = call₁.assetId →
        ∃ call', t.calls c = some call' ∧ call'.assetId = call.assetId := by
    intro c' call₁ call₂ hc' hcalls hkey
    rw [hcalls]
    by_cases hne : c = c'
    · subst hne
      cases hc.symm.trans hc'
      exact ⟨call₂, Function.update_self .., hkey⟩
    · exact ⟨call, (Function.update_of_ne hne ..).trans hc, rfl⟩
  cases Assets.callStep_of_step h with
  | getAsset hnone hcalls =>
      rw [hcalls]
      refine ⟨call, ?_, rfl⟩
      rw [Function.update_of_ne, hc]
      rintro rfl
      cases hc.symm.trans hnone
  | goes hc' hgoes hcalls =>
      refine hupdate hc' hcalls ?_
      cases hgoes <;> rfl
  | store _ hcalls | tick hcalls | other _ hcalls => exact ⟨call, hcalls ▸ hc, rfl⟩

/-! ## Why a call returns -/

/-- Only the tick moves the clock, and a dropped receiver does not come back. -/
theorem clock_step {gunzip : Bytes → Option Bytes} {s t : Assets.State} {a : Assets.Action}
    (h : (Assets.system gunzip).step s a = some t) :
    (t.now = s.now ∨ a = .tick ∧ t.now = s.now + 1) ∧
      (t.receiverDropped = true ↔ s.receiverDropped = true ∨ a = .dropReceiver) := by
  have hother : a ≠ .dropReceiver → t.receiverDropped = s.receiverDropped →
      (t.receiverDropped = true ↔ s.receiverDropped = true ∨ a = .dropReceiver) := by
    intro ha heq
    rw [heq, or_iff_left ha]
  cases Assets.step_cases h with
  | checkEntry hc =>
      rename_i c assetId deadline requested
      obtain ⟨requests, call', heq, -⟩ :=
        Assets.checkEntry_eq s c ⟨assetId, deadline, requested, .checkEntry⟩
      refine ⟨Or.inl ?_, hother nofun ?_⟩
      · rw [heq]
        rfl
      · rw [heq]
        rfl
  | pollNotified hc =>
      rename_i c assetId deadline requested future
      cases hready : (s.asset assetId).notify.ready c future with
      | true =>
          rw [Assets.pollNotified_of_ready hready] at hother ⊢
          exact ⟨Or.inl rfl, hother nofun rfl⟩
      | false =>
          rw [Assets.pollNotified_of_not_ready hready] at hother ⊢
          exact ⟨Or.inl rfl, hother nofun rfl⟩
  | tick => exact ⟨Or.inr ⟨rfl, rfl⟩, hother nofun rfl⟩
  | dropReceiver => exact ⟨Or.inl rfl, fun _ => Or.inr rfl, fun _ => rfl⟩
  | _ => exact ⟨Or.inl rfl, hother nofun rfl⟩

/-- A call that has returned found data, or its time was up, or nobody was left to
    ask. -/
def Explained (s : Assets.State) (call : Assets.Call) : Prop :=
  ∀ result, call.place = .returned result → (∃ data, result = .ok (some data)) ∨
    (∃ e, result = .error e) ∧ (call.deadline ≤ s.now ∨ s.receiverDropped = true)

theorem Explained.step {gunzip : Bytes → Option Bytes} {s t : Assets.State} {a : Assets.Action}
    {call : Assets.Call} (hc : Explained s call) (h : (Assets.system gunzip).step s a = some t) :
    Explained t call := by
  obtain ⟨hnow, hdropped⟩ := clock_step h
  have hle : s.now ≤ t.now := by
    rcases hnow with heq | ⟨-, heq⟩
    · exact Nat.le_of_eq heq.symm
    · exact heq ▸ Nat.le_succ _
  intro result hp
  rcases hc result hp with hfound | ⟨herror, hwhy⟩
  · exact Or.inl hfound
  · exact Or.inr ⟨herror, hwhy.imp (fun hdeadline => hdeadline.trans hle)
      fun hrd => hdropped.mpr (Or.inl hrd)⟩

theorem explained_of_goes {s : Assets.State} {c : Assets.CallId} {a : Assets.Action}
    {call call' : Assets.Call} (h : Assets.Goes s c a call call') : Explained s call' := by
  intro result hp
  cases h with
  | timedOut _ hle =>
      cases hp
      exact Or.inr ⟨⟨_, rfl⟩, Or.inl hle⟩
  | found _ hdata =>
      cases hp
      exact Or.inl ⟨_, rfl⟩
  | notSent _ _ _ hdropped =>
      cases hp
      exact Or.inr ⟨⟨_, rfl⟩, Or.inr hdropped⟩
  | _ => cases hp

theorem explained_step {gunzip : Bytes → Option Bytes} {s t : Assets.State} {a : Assets.Action}
    (hs : ∀ c call, s.calls c = some call → Explained s call)
    (h : (Assets.system gunzip).step s a = some t) (c : Assets.CallId) (call : Assets.Call)
    (hc : t.calls c = some call) : Explained t call := by
  cases Assets.callStep_of_step h with
  | getAsset _ hcalls =>
      rcases Assets.call_of_update hcalls hc with ⟨-, rfl⟩ | ⟨-, hold⟩
      · exact nofun
      · exact (hs c call hold).step h
  | goes _ hgoes hcalls =>
      rcases Assets.call_of_update hcalls hc with ⟨-, rfl⟩ | ⟨-, hold⟩
      · exact (explained_of_goes hgoes).step h
      · exact (hs c call hold).step h
  | store _ hcalls | tick hcalls | other _ hcalls =>
      rw [hcalls] at hc
      exact (hs c call hc).step h

/-- A call keeps the deadline that it got when it started. -/
theorem deadline_step {gunzip : Bytes → Option Bytes} {s t : Assets.State} {a : Assets.Action}
    (h : (Assets.system gunzip).step s a = some t) {c : Assets.CallId} {call : Assets.Call}
    (hc : t.calls c = some call) :
    (∃ call', s.calls c = some call' ∧ call'.deadline = call.deadline) ∨
      ∃ key timeout, a = .getAsset c key timeout ∧ call.deadline = s.now + timeout := by
  cases Assets.callStep_of_step h with
  | getAsset _ hcalls =>
      rcases Assets.call_of_update hcalls hc with ⟨rfl, rfl⟩ | ⟨-, hold⟩
      · exact Or.inr ⟨_, _, rfl, rfl⟩
      · exact Or.inl ⟨call, hold, rfl⟩
  | goes hold' hgoes hcalls =>
      rcases Assets.call_of_update hcalls hc with ⟨rfl, rfl⟩ | ⟨-, hold⟩
      · refine Or.inl ⟨_, hold', ?_⟩
        cases hgoes <;> rfl
      · exact Or.inl ⟨call, hold, rfl⟩
  | store _ hcalls | tick hcalls | other _ hcalls => exact Or.inl ⟨call, hcalls ▸ hc, rfl⟩

/-- Both ends have the clock of the proxy. -/
theorem now_step (h : (system game c).step s a = some t) (ha : a ≠ .assets .tick) :
    t.session.assets.now = s.session.assets.now := by
  cases step_cases h with
  | assets _ hstep =>
      rcases (clock_step hstep).1 with heq | ⟨rfl, -⟩
      · exact heq
      · exact absurd rfl ha
  | _ => rfl

/-- The receiver is dropped by a step of its own. -/
theorem receiverDropped_step (h : (system game c).step s a = some t)
    (ha : a ≠ .assets .dropReceiver) :
    t.session.assets.receiverDropped = s.session.assets.receiverDropped := by
  cases step_cases h with
  | assets _ hstep =>
      rw [Bool.eq_iff_iff, (clock_step hstep).2, or_iff_left]
      rintro rfl
      exact ha rfl
  | _ => rfl

/-! ## Where data comes from -/

/-- The game stored the data under the key itself, or it is the file of the key. -/
def Originates (game : Game) (s : State) (key data : Bytes) : Prop :=
  (∃ key' : Str, key'.bytes = key ∧ (key', data) ∈ s.storeAssets) ∨ game.load key = some data

theorem Originates.mono {key data : Bytes} (h : Originates game s key data)
    (hstored : s.storeAssets ⊆ t.storeAssets) : Originates game t key data := by
  rcases h with ⟨key', hkey, hmem⟩ | hload
  · exact Or.inl ⟨key', hkey, hstored hmem⟩
  · exact Or.inr hload

/-- All data on its way out of the game server, and into and out of the store. -/
structure Inv (game : Game) (c : Compression) (s : State) : Prop where
  walk : PreCaching.Walk game.fs game.assetsPath s.client
  session : Session.Inv c.gzip s.session.opened s.session.assets
  pending : ∀ call ∈ s.pending, Originates game s call.key call.data
  opened : ∀ key data, .storeAsset key data ∈ s.session.opened → Originates game s key.bytes data
  asked : s.asked.map .requestAsset <+: s.session.assets.requests
  requests : ∀ message ∈ s.session.assets.requests, ∃ c call, s.session.assets.calls c = some call ∧
    message = .requestAsset call.assetId
  requested : ∀ key data, (key, data) ∈ s.client.requested → key ∈ s.asked
  explained : ∀ i call, s.session.assets.calls i = some call → Explained s.session.assets call

theorem Inv.init : Inv game c {} :=
  ⟨PreCaching.Walk.init, Session.Inv.init, nofun, nofun, List.prefix_refl _, nofun, nofun, nofun⟩

/-- A file that the pre-caching task sends is the file of its key. -/
theorem load_of_preCached (hs : PreCaching.Walk game.fs game.assetsPath s.client)
    {file : PreCaching.PreCached} (hfile : file ∈ s.client.preCached) :
    game.load file.key.bytes = some file.data := by
  obtain ⟨assets, rest, hassets, hne, -, hkey, hnode⟩ := hs.preCached file hfile
  refine Game.load_eq_some_iff.mpr ⟨render assets, hassets, ?_⟩
  rw [hkey]
  exact loadAssetData_relative hne hnode

/-- The client's own calls send files. -/
theorem load_of_callsSince {before : PreCaching.State} {call : StoreCall}
    (hs : PreCaching.Walk game.fs game.assetsPath s.client)
    (hcall : call ∈ callsSince before s.client) : game.load call.key = some call.data := by
  rcases List.mem_append.mp hcall with hcall | hcall
  · obtain ⟨file, hfile, rfl⟩ := List.mem_map.mp hcall
    exact load_of_preCached hs (List.mem_of_mem_drop hfile)
  · obtain ⟨⟨key, data⟩, hsent, rfl⟩ := List.mem_map.mp hcall
    exact Game.load_eq_some_iff.mpr (hs.requested key data (List.mem_of_mem_drop hsent))

/-- A step of the client sends for a request only what it read of the stream. -/
theorem requested_step {fs : FileSystem} {assetsPath : Option Path} {s t : PreCaching.State}
    {a : PreCaching.Action} (h : (PreCaching.system fs assetsPath).step s a = some t) {key : Str}
    {data : Bytes} (hmem : (key, data) ∈ t.requested) :
    (key, data) ∈ s.requested ∨ key ∈ keyRead a := by
  cases PreCaching.step_cases h with
  | sent _ _ _ =>
      rcases List.mem_append.mp hmem with hmem | hmem
      · exact Or.inl hmem
      · cases List.mem_singleton.mp hmem
        exact Or.inr List.mem_cons_self
  | _ => exact Or.inl hmem

theorem Inv.step (hs : Inv game c s) (h : (system game c).step s a = some t) : Inv game c t := by
  have ⟨hwalk, hsession, hpending, hopened, hasked, hrequests, hrequested, hexplained⟩ := hs
  cases step_cases h with
  | client hg hstep =>
      rename_i a client
      have hwalk' := hwalk.step game.connected hstep
      refine ⟨hwalk', hsession, ?_, hopened, hg.2.2, hrequests, ?_, hexplained⟩
      · intro call hcall
        rcases List.mem_append.mp hcall with hcall | hcall
        · exact hpending call hcall
        · exact Or.inr (load_of_callsSince (s := { s with client := client }) hwalk' hcall)
      · intro key data hmem
        rcases requested_step hstep hmem with hmem | hread
        · exact List.mem_append_left _ (hrequested key data hmem)
        · exact List.mem_append_right _ hread
  | storeAsset hg =>
      rename_i key data
      have hmono : s.storeAssets ⊆ s.storeAssets ++ [(key, data)] := List.subset_append_left _ _
      refine ⟨hwalk, hsession, ?_, ?_, hasked, hrequests, hrequested, hexplained⟩
      · intro call hcall
        rcases List.mem_append.mp hcall with hcall | hcall
        · exact (hpending call hcall).mono hmono
        · cases List.mem_singleton.mp hcall
          exact Or.inl ⟨key, rfl, List.mem_append_right _ List.mem_cons_self⟩
      · intro key' data' hmem
        exact (hopened key' data' hmem).mono hmono
  | openUni hmem hkey =>
      rename_i call key
      refine ⟨hwalk, hsession.snoc _, ?_, ?_, hasked, hrequests, hrequested, hexplained⟩
      · intro call' hcall'
        exact hpending call' (List.mem_of_mem_erase hcall')
      · intro key' data' hmem'
        rcases List.mem_append.mp hmem' with hmem' | hmem'
        · exact hopened key' data' hmem'
        · cases List.mem_singleton.mp hmem'
          rw [hkey]
          exact hpending call hmem
  | openUniFails hmem =>
      refine ⟨hwalk, hsession, ?_, hopened, hasked, hrequests, hrequested, hexplained⟩
      intro call' hcall'
      exact hpending call' (List.mem_of_mem_erase hcall')
  | openPlayerStream =>
      refine ⟨hwalk, hsession.snoc _, hpending, ?_, hasked, hrequests, hrequested, hexplained⟩
      intro key' data' hmem'
      rcases List.mem_append.mp hmem' with hmem' | hmem'
      · exact hopened key' data' hmem'
      · cases List.mem_singleton.mp hmem'
  | assets harrives hstep =>
      rename_i a assets
      have hkeep : ∀ message, (∃ c call, s.session.assets.calls c = some call ∧
          message = ServerMessage.requestAsset call.assetId) →
          ∃ c call, assets.calls c = some call ∧ message = .requestAsset call.assetId := by
        rintro message ⟨c', call, hc', rfl⟩
        obtain ⟨call', hcall', hkey⟩ := assetId_step hstep hc'
        exact ⟨c', call', hcall', by rw [hkey]⟩
      refine ⟨hwalk, Session.Inv.step c.gunzip_gzip hsession harrives hstep, hpending, hopened,
        ?_, ?_, hrequested, explained_step hexplained hstep⟩
      · show _ <+: assets.requests
        rcases requests_step hstep with heq | ⟨_, _, _, heq⟩
        · rw [heq]
          exact hasked
        · rw [heq]
          exact hasked.trans (List.prefix_append _ _)
      · intro message hmessage
        change message ∈ assets.requests at hmessage
        rcases requests_step hstep with heq | ⟨c', call, hc', heq⟩
        · exact hkeep message (hrequests message (heq ▸ hmessage))
        · rw [heq] at hmessage
          rcases List.mem_append.mp hmessage with hmessage | hmessage
          · exact hkeep message (hrequests message hmessage)
          · exact hkeep message ⟨c', call, hc', List.mem_singleton.mp hmessage⟩

theorem inv_of_exec (h : (system game c).exec {} acts = some s) : Inv game c s :=
  exec_invariant Inv.step Inv.init h

/-- What was sent and accepted has an origin. -/
theorem Inv.originates (hs : Inv game c s) {key : Str} {data : Bytes}
    (h : Session.Sent c.gzip s.session.opened key data) : Originates game s key.bytes data :=
  hs.opened key data h.1

/-- What the client sends for a request was asked for by a call with its key. -/
theorem Inv.asked_by_call (hs : Inv game c s) {key : Str} {data : Bytes}
    (h : (key, data) ∈ s.client.requested) :
    ∃ c call, s.session.assets.calls c = some call ∧ call.assetId = key := by
  have hmem : ServerMessage.requestAsset key ∈ s.asked.map .requestAsset :=
    List.mem_map_of_mem (hs.requested key data h)
  obtain ⟨c', call, hc', hmessage⟩ := hs.requests _ (hs.asked.subset hmem)
  cases hmessage
  exact ⟨c', call, hc', rfl⟩

/-! ## The store and the disk -/

/-- **All data has an origin.**  In every run of both ends: what a request returns,
    and what the store holds, is data that the game stored under exactly this key, or
    what `load_asset_data` gives the client for it; and no file is read for a request
    whose key nobody asked for. -/
theorem stored_originates (h : (system game c).exec {} acts = some s) :
    (∀ i call data, s.session.assets.calls i = some call →
      call.place = .returned (.ok (some data)) → Originates game s call.assetId.bytes data) ∧
    (∀ key data, (s.session.assets.asset key).data = some data →
      Originates game s key.bytes data) ∧
    ∀ key data, (key, data) ∈ s.client.requested →
      ∃ i call, s.session.assets.calls i = some call ∧ call.assetId = key := by
  have hs := inv_of_exec h
  refine ⟨?_, ?_, fun key data hmem => hs.asked_by_call hmem⟩
  · intro i call data hi hplace
    exact hs.originates (hs.session.returned i call data hi hplace)
  · intro key data hdata
    exact hs.originates (hs.session.stored key data hdata)

/-- The disk with the file `a` in its root. -/
def oneFileGame : Game where
  fs := oneFile
  assetsArg := some (render [])
  assetsPath := some (render [])
  connected := rfl

/-- Data travels as it is. -/
def plain : Compression where
  gzip := id
  gunzip := some
  gunzip_gzip _ := rfl

/-- The upload that answers a request for `a`. -/
def uploadOfA : List Action :=
  [.client (.requestAsset Str.a), .openUni ⟨.requestAsset, Str.a.bytes, [0x07]⟩ Str.a,
    .assets (.acceptUni 0 ⟨[(sendStoreAssetMessage id Str.a [0x07]).written], .finished⟩),
    .assets (.readToEnd 0 true), .assets (.fetchAdd 0), .assets (.store 0)]

/-- A request waits for the upload, and a second one finds it. -/
def requestedTwice : List Action :=
  [.assets (.getAsset 0 Str.a 10), .assets (.testDeadline 0), .assets (.checkEntry 0),
      .assets (.createNotified 0)] ++ uploadOfA ++
    [.assets (.pollNotified 0), .assets (.testDeadline 0), .assets (.checkEntry 0),
      .assets (.getAsset 1 Str.a 10), .assets (.testDeadline 1), .assets (.checkEntry 1)]

theorem stored_originates_requestedTwice :
    ∃ s call, (system oneFileGame plain).exec {} requestedTwice = some s ∧
      s.session.assets.calls 0 = some call ∧ call.place = .returned (.ok (some [0x07])) ∧
      Originates oneFileGame s call.assetId.bytes [0x07] := by
  have hrun : (system oneFileGame plain).exec {} requestedTwice = some _ := rfl
  exact ⟨_, _, hrun, rfl, rfl, (stored_originates hrun).1 0 _ _ rfl rfl⟩

/-- Where the game stores nothing itself, all data is on the disk. -/
theorem Originates.load {key data : Bytes} (h : Originates game s key data)
    (hnone : s.storeAssets = []) : game.load key = some data := by
  rcases h with ⟨key', -, hmem⟩ | hload
  · rw [hnone] at hmem
    cases hmem
  · exact hload

/-- **The store is a transparent cache.**  In every run in which the game stores
    nothing itself, over both routes, any number of times and in any order: whatever a
    request returns is what `load_asset_data` gives the client for its key, the store
    holds nothing else, and so any two answers for one key are the same bytes. -/
theorem store_transparent (h : (system game c).exec {} acts = some s)
    (hnone : s.storeAssets = []) :
    (∀ i call data, s.session.assets.calls i = some call →
      call.place = .returned (.ok (some data)) → game.load call.assetId.bytes = some data) ∧
    (∀ key data, (s.session.assets.asset key).data = some data →
      game.load key.bytes = some data) ∧
    ∀ i j call call' data data', s.session.assets.calls i = some call →
      s.session.assets.calls j = some call' → call.place = .returned (.ok (some data)) →
      call'.place = .returned (.ok (some data')) → call.assetId = call'.assetId →
      data = data' := by
  obtain ⟨hreturned, hstored, -⟩ := stored_originates h
  have hload : ∀ i call data, s.session.assets.calls i = some call →
      call.place = .returned (.ok (some data)) → game.load call.assetId.bytes = some data := by
    intro i call data hi hplace
    exact (hreturned i call data hi hplace).load hnone
  refine ⟨hload, fun key data hdata => (hstored key data hdata).load hnone, ?_⟩
  intro i j call call' data data' hi hj hplace hplace' hkey
  have hdata := hload i call data hi hplace
  have hdata' := hload j call' data' hj hplace'
  rw [← hkey, hdata] at hdata'
  exact Option.some.inj hdata'

theorem store_transparent_requestedTwice :
    ∃ s call call', (system oneFileGame plain).exec {} requestedTwice = some s ∧
      s.session.assets.calls 0 = some call ∧ s.session.assets.calls 1 = some call' ∧
      call.place = .returned (.ok (some [0x07])) ∧ call'.place = .returned (.ok (some [0x07])) ∧
      oneFileGame.load call.assetId.bytes = some [0x07] := by
  have hrun : (system oneFileGame plain).exec {} requestedTwice = some _ := rfl
  exact ⟨_, _, _, hrun, rfl, rfl, rfl, rfl, (store_transparent hrun rfl).1 0 _ _ rfl rfl⟩

end AmbientProxy.AllocatedAssets
