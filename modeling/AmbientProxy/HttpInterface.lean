import AmbientProxy.AllocatedAssets
import AmbientProxy.Lib.Sharing
import AmbientProxy.Management

/-! # The HTTP interface — all requests, all allocations

    `src/server.rs`: `GET /content/:id/*path` is served by `get_asset`, which finds the
    proxy server of the id in `ProxyStore` and calls its `get_asset`.  Here everything
    that a request can meet runs at once:

        get_asset                          the management loop and its tasks
        parse the id      400              every allocation's store, streams and client
        proxies.get       404              the clock
        get_asset().await 200, 404, 500    any number of other requests
        count; observe; respond

    Each lock, each metric and each `await` is a step of its own.  A proxy server is
    held by strong references (`Holder`): of the loop until it is inserted, of the
    store, of the task of `ProxyServer::start`, of the requests that found it, and of
    the upload tasks that upgraded their weak one.  A task that is through drops its
    reference in a step of its own.

    The text of a UUID is read by the parameter `parseUuid`.  Request `r` asks for
    `url r`: its id and its path. -/

namespace AmbientProxy.HttpInterface

open Transition Sharing

/-- `telemetry::AssetRequestResult`. -/
inductive AssetRequestResult where
  | success
  | malformed
  | allocationNotFound
  | assetNotFound
  | error
  deriving DecidableEq

/-- The `StatusCode`s that `get_asset` returns beside 200. -/
inductive StatusCode where
  | badRequest
  | notFound
  | internalServerError
  deriving DecidableEq

/-- A request.  It makes at most one call of `ProxyServer::get_asset`, under its own
    number. -/
abbrev RequestId := Assets.CallId

structure Config where
  parseUuid : String → Option Uuid
  url : RequestId → String × Str
  getAssetsDownloadTimeout : Nat
  compression : AllocatedAssets.Compression
  /-- The game server that an allocation belongs to. -/
  game : Uuid → AllocatedAssets.Game

/-- Who may hold a proxy server. -/
inductive Holder where
  /-- `ManagementServer::handle_connection`, and the loop until the insertion. -/
  | loop
  | store
  /-- The task that runs `ProxyServer::start`. -/
  | task
  | request (r : RequestId)
  | upload (u : Assets.UploadId)
  deriving DecidableEq

/-- What `get_asset` has found out. -/
inductive Answer where
  | malformed
  | allocationNotFound
  /-- What `ProxyServer::get_asset` returned. -/
  | returned (id : Uuid) (result : Except Anyhow (Option Bytes))

namespace Answer

/-- How the request is counted. -/
def result : Answer → AssetRequestResult
  | .malformed => .malformed
  | .allocationNotFound => .allocationNotFound
  | .returned _ (.ok none) => .assetNotFound
  | .returned _ (.ok (some _)) => .success
  | .returned _ (.error _) => .error

/-- What is sent back. -/
def response : Answer → Except StatusCode Bytes
  | .malformed => .error .badRequest
  | .allocationNotFound => .error .notFound
  | .returned _ (.ok none) => .error .notFound
  | .returned _ (.ok (some data)) => .ok data
  | .returned _ (.error _) => .error .internalServerError

/-- The proxy server that is held meanwhile. -/
def proxy : Answer → Option Uuid
  | .returned id _ => some id
  | _ => none

end Answer

/-- Where a request is. -/
inductive Place where
  | notArrived
  | parseId
  | getProxy (id : Uuid)
  /-- It holds the proxy server; about to call `ProxyServer::get_asset`. -/
  | callGetAsset (id : Uuid)
  | getAsset (id : Uuid)
  /-- About to call `inc_asset_requests`. -/
  | count (answer : Answer)
  /-- About to call `observe_asset_response_size_bytes`. -/
  | observe (answer : Answer)
  | responded (answer : Answer)
  /-- The connection was lost, and the handler dropped. -/
  | dropped

/-- The proxy server that a request holds. -/
def Place.proxy : Place → Option Uuid
  | .callGetAsset id | .getAsset id => some id
  | .count answer | .observe answer => answer.proxy
  | _ => none

/-- The whole proxy: the loop with its store, the allocations' assets at both ends,
    the requests, the metrics of the interface, and who holds each proxy server. -/
structure State where
  server : ManagementServer.State := {}
  assets : Uuid → AllocatedAssets.State := fun _ => {}
  places : RequestId → Place := fun _ => .notArrived
  assetRequests : AssetRequestResult → Nat := fun _ => 0
  responseSizes : List Nat := []
  proxyServers : Uuid → Shared Holder := fun _ => .unborn

inductive Action where
  | server (a : ManagementServer.Action)
  | assets (id : Uuid) (a : AllocatedAssets.Action)
  /-- `handle_uni` reads the header of a stream. -/
  | acceptUni (id : Uuid) (u : Assets.UploadId) (recvStream : RecvStream)
  | tick
  /-- A task of an allocation returns. -/
  | dropProxy (id : Uuid) (h : Holder)
  -- a request
  | request (r : RequestId)
  | parseId (r : RequestId)
  | getProxy (r : RequestId)
  | getAsset (r : RequestId)
  | returns (r : RequestId)
  | count (r : RequestId)
  | observe (r : RequestId)
  | drop (r : RequestId)

/-- An upload task has upgraded its weak reference. -/
def uploadHolds : Assets.UploadTask → Bool
  | .fetchAdd _ | .store _ => true
  | _ => false

/-- The message-processing task has returned, and dropped its end of the channel. -/
def receiverGone : Startup.MessageTask → Bool
  | .acceptFailed | .finished => true
  | _ => false

/-- What the loop does to the references. -/
def loopHolders (s : ManagementServer.State) (proxyServers : Uuid → Shared Holder) :
    ManagementServer.Action → Uuid → Shared Holder
  | .newProxyServer =>
      match s.phase with
      | .newProxyServer id => Function.update proxyServers id (.create .loop)
      | _ => proxyServers
  | .spawnStart =>
      match s.phase with
      | .spawnStart id => Function.update proxyServers id ((proxyServers id).clone .task)
      | _ => proxyServers
  | .insert =>
      match s.phase with
      | .insert id => Function.update proxyServers id ((proxyServers id).move .loop .store)
      | _ => proxyServers
  | .recvEvent =>
      match s.events with
      | .stopped id :: _ => Function.update proxyServers id ((proxyServers id).release .store)
      | [] => proxyServers
  | _ => proxyServers

/-- What an upload task does to the references of its proxy server. -/
def uploadHolders (proxyServer : Shared Holder) (after : AllocatedAssets.State) :
    AllocatedAssets.Action → Shared Holder
  | .assets (.readToEnd u _) =>
      match after.session.assets.uploads u with
      | some upload =>
          if uploadHolds upload.task then proxyServer.clone (.upload u) else proxyServer
      | none => proxyServer
  | _ => proxyServer

/-- Where an action of an allocation's assets is enabled: some belong to a request, and
    some depend on the tasks of the allocation. -/
def guard (s : State) (id : Uuid) : AllocatedAssets.Action → Prop
  | .assets (.getAsset _ _ _) | .assets (.cancel _) | .assets (.acceptUni _ _)
  | .assets .tick => False
  | .assets (.readToEnd _ upgraded) => upgraded = (s.proxyServers id).isAlive
  | .assets .dropReceiver => receiverGone (s.server.allocations id).messageTask = true
  | _ => True

instance (s : State) (id : Uuid) : ∀ a : AllocatedAssets.Action, Decidable (guard s id a)
  | .assets (.readToEnd _ upgraded) =>
      inferInstanceAs (Decidable (upgraded = (s.proxyServers id).isAlive))
  | .assets .dropReceiver =>
      inferInstanceAs (Decidable (receiverGone (s.server.allocations id).messageTask = true))
  | .assets (.getAsset _ _ _) | .assets (.cancel _) | .assets (.acceptUni _ _)
  | .assets .tick => isFalse fun h => h
  | .client _ | .storeAsset _ _ | .openUni _ _ | .openUniFails _ | .openPlayerStream _ _ _
  | .assets (.fetchAdd _) | .assets (.store _) | .assets (.testDeadline _)
  | .assets (.checkEntry _) | .assets (.createNotified _) | .assets (.pollNotified _)
  | .assets (.deadlinePasses _) => isTrue trivial

/-- A task that has held a proxy server is through with it. -/
def returned (s : State) (id : Uuid) : Holder → Bool
  | .task =>
      match (s.server.allocations id).startTask with
      | .finished | .panicked => true
      | _ => false
  | .upload u =>
      match (s.assets id).session.assets.uploads u with
      | some ⟨_, _, _, .ended⟩ => true
      | _ => false
  | _ => false

namespace State

def setPlace (s : State) (r : RequestId) (place : Place) : State :=
  { s with places := Function.update s.places r place }

def setAssets (s : State) (id : Uuid) (assets : AllocatedAssets.State) : State :=
  { s with assets := Function.update s.assets id assets }

/-- `inc_asset_requests`. -/
def incAssetRequests (s : State) (result : AssetRequestResult) : State :=
  { s with assetRequests := Function.update s.assetRequests result (s.assetRequests result + 1) }

/-- `observe_asset_response_size_bytes`. -/
def observeAssetResponseSizeBytes (s : State) (size : Nat) : State :=
  { s with responseSizes := s.responseSizes ++ [size] }

/-- A request finds a proxy server. -/
def hold (s : State) (r : RequestId) (proxy : Uuid) : State :=
  { s with
    proxyServers := Function.update s.proxyServers proxy
      ((s.proxyServers proxy).clone (.request r)) }

/-- A holder drops its reference. -/
def dropProxy (s : State) (id : Uuid) (h : Holder) : State :=
  { s with proxyServers := Function.update s.proxyServers id ((s.proxyServers id).release h) }

/-- A request gives its proxy server up. -/
def release (s : State) (r : RequestId) (proxy : Option Uuid) : State :=
  match proxy with
  | some id => s.dropProxy id (.request r)
  | none => s

end State

/-- The clock of the proxy goes on. -/
def tickAssets (assets : AllocatedAssets.State) : AllocatedAssets.State :=
  { assets with
    session := { assets.session with
      assets := { assets.session.assets with now := assets.session.assets.now + 1 } } }

/-- A step of an allocation's assets. -/
def stepAssets (config : Config) (s : State) (id : Uuid) (a : AllocatedAssets.Action) :
    Option AllocatedAssets.State :=
  AllocatedAssets.step (config.game id) config.compression (s.assets id) a

/-- What each action does, where it is enabled. -/
def step (config : Config) (s : State) : Action → Option State
  | .server a =>
      (ManagementServer.step s.server a).map fun server =>
        { s with
          server := server
          proxyServers := loopHolders s.server s.proxyServers a }
  | .assets id a =>
      if guard s id a then
        (stepAssets config s id a).map fun assets =>
          { s.setAssets id assets with
            proxyServers := Function.update s.proxyServers id
              (uploadHolders (s.proxyServers id) assets a) }
      else none
  | .acceptUni id u recvStream =>
      (ManagementServer.step s.server (.task id (.headerRead false))).bind fun server =>
        (stepAssets config s id (.assets (.acceptUni u recvStream))).map fun assets =>
          { s.setAssets id assets with server := server }
  | .tick => some { s with assets := fun id => tickAssets (s.assets id) }
  | .dropProxy id h =>
      if h ∈ (s.proxyServers id).holders ∧ returned s id h = true then some (s.dropProxy id h)
      else none
  | .request r =>
      match s.places r with
      | .notArrived => some (s.setPlace r .parseId)
      | _ => none
  | .parseId r =>
      match s.places r with
      | .parseId =>
          match config.parseUuid (config.url r).1 with
          | some id => some (s.setPlace r (.getProxy id))
          | none => some (s.setPlace r (.count .malformed))
      | _ => none
  | .getProxy r =>
      match s.places r with
      | .getProxy id =>
          match s.server.proxies.lookup id with
          | some proxy => some ((s.setPlace r (.callGetAsset proxy)).hold r proxy)
          | none => some (s.setPlace r (.count .allocationNotFound))
      | _ => none
  | .getAsset r =>
      match s.places r with
      | .callGetAsset id =>
          (stepAssets config s id
            (.assets (.getAsset r (config.url r).2 config.getAssetsDownloadTimeout))).map
              fun assets => (s.setAssets id assets).setPlace r (.getAsset id)
      | _ => none
  | .returns r =>
      match s.places r with
      | .getAsset id =>
          match (s.assets id).session.assets.calls r with
          | some ⟨_, _, _, .returned result⟩ => some (s.setPlace r (.count (.returned id result)))
          | _ => none
      | _ => none
  | .count r =>
      match s.places r with
      | .count answer =>
          let s := s.incAssetRequests answer.result
          match answer.response with
          | .ok _ => some (s.setPlace r (.observe answer))
          | .error _ => some ((s.setPlace r (.responded answer)).release r answer.proxy)
      | _ => none
  | .observe r =>
      match s.places r with
      | .observe answer =>
          match answer.response with
          | .ok data =>
              let s := s.observeAssetResponseSizeBytes data.length
              some ((s.setPlace r (.responded answer)).release r answer.proxy)
          | .error _ => none
      | _ => none
  | .drop r =>
      match s.places r with
      | .getAsset id =>
          (stepAssets config s id (.assets (.cancel r))).map fun assets =>
            ((s.setAssets id assets).setPlace r .dropped).release r (some id)
      | _ => none

/-- The whole proxy. -/
def system (config : Config) : System State Action where
  init := {}
  step := step config

/-! ## What one step can do -/

/-- The steps of the system, each with all that it needs and all that it does. -/
inductive Step (config : Config) (s : State) : Action → State → Prop where
  | server {a : ManagementServer.Action} {server : ManagementServer.State}
      (h : ManagementServer.system.step s.server a = some server) :
      Step config s (.server a) { s with
        server := server
        proxyServers := loopHolders s.server s.proxyServers a }
  | assets {id : Uuid} {a : AllocatedAssets.Action} {assets : AllocatedAssets.State}
      (hg : guard s id a)
      (h : (AllocatedAssets.system (config.game id) config.compression).step (s.assets id) a
        = some assets) :
      Step config s (.assets id a) { s.setAssets id assets with
        proxyServers := Function.update s.proxyServers id
          (uploadHolders (s.proxyServers id) assets a) }
  | acceptUni {id : Uuid} {u : Assets.UploadId} {recvStream : RecvStream}
      {server : ManagementServer.State} {assets : AllocatedAssets.State}
      (hserver : ManagementServer.system.step s.server (.task id (.headerRead false)) = some server)
      (h : (AllocatedAssets.system (config.game id) config.compression).step (s.assets id)
        (.assets (.acceptUni u recvStream)) = some assets) :
      Step config s (.acceptUni id u recvStream) { s.setAssets id assets with server := server }
  | tick : Step config s .tick { s with assets := fun id => tickAssets (s.assets id) }
  | dropProxy {id : Uuid} {h : Holder} (hmem : h ∈ (s.proxyServers id).holders)
      (hreturned : returned s id h = true) : Step config s (.dropProxy id h) (s.dropProxy id h)
  | request {r : RequestId} (hp : s.places r = .notArrived) :
      Step config s (.request r) (s.setPlace r .parseId)
  | parsed {r : RequestId} {id : Uuid} (hp : s.places r = .parseId)
      (hid : config.parseUuid (config.url r).1 = some id) :
      Step config s (.parseId r) (s.setPlace r (.getProxy id))
  | malformed {r : RequestId} (hp : s.places r = .parseId)
      (hid : config.parseUuid (config.url r).1 = none) :
      Step config s (.parseId r) (s.setPlace r (.count .malformed))
  | foundProxy {r : RequestId} {id proxy : Uuid} (hp : s.places r = .getProxy id)
      (hproxy : s.server.proxies.lookup id = some proxy) :
      Step config s (.getProxy r) ((s.setPlace r (.callGetAsset proxy)).hold r proxy)
  | noProxy {r : RequestId} {id : Uuid} (hp : s.places r = .getProxy id)
      (hproxy : s.server.proxies.lookup id = none) :
      Step config s (.getProxy r) (s.setPlace r (.count .allocationNotFound))
  | getAsset {r : RequestId} {id : Uuid} {assets : AllocatedAssets.State}
      (hp : s.places r = .callGetAsset id)
      (h : (AllocatedAssets.system (config.game id) config.compression).step (s.assets id)
        (.assets (.getAsset r (config.url r).2 config.getAssetsDownloadTimeout)) = some assets) :
      Step config s (.getAsset r) ((s.setAssets id assets).setPlace r (.getAsset id))
  | returns {r : RequestId} {id : Uuid} {call : Assets.Call}
      {result : Except Anyhow (Option Bytes)} (hp : s.places r = .getAsset id)
      (hc : (s.assets id).session.assets.calls r = some call)
      (hresult : call.place = .returned result) :
      Step config s (.returns r) (s.setPlace r (.count (.returned id result)))
  | countSuccess {r : RequestId} {answer : Answer} {data : Bytes} (hp : s.places r = .count answer)
      (hdata : answer.response = .ok data) :
      Step config s (.count r) ((s.incAssetRequests answer.result).setPlace r (.observe answer))
  | countFailure {r : RequestId} {answer : Answer} {status : StatusCode}
      (hp : s.places r = .count answer) (hstatus : answer.response = .error status) :
      Step config s (.count r)
        (((s.incAssetRequests answer.result).setPlace r (.responded answer)).release r answer.proxy)
  | observe {r : RequestId} {answer : Answer} {data : Bytes} (hp : s.places r = .observe answer)
      (hdata : answer.response = .ok data) :
      Step config s (.observe r)
        (((s.observeAssetResponseSizeBytes data.length).setPlace r (.responded answer)).release r
          answer.proxy)
  | drop {r : RequestId} {id : Uuid} {assets : AllocatedAssets.State}
      (hp : s.places r = .getAsset id)
      (h : (AllocatedAssets.system (config.game id) config.compression).step (s.assets id)
        (.assets (.cancel r)) = some assets) :
      Step config s (.drop r) (((s.setAssets id assets).setPlace r .dropped).release r (some id))

variable {config : Config} {s t : State} {a : Action} {acts : List Action}

theorem step_cases (h : (system config).step s a = some t) : Step config s a t := by
  change HttpInterface.step config s a = some t at h
  cases a with
  | server a =>
      obtain ⟨server, hstep, rfl⟩ := Option.map_eq_some_iff.mp h
      exact .server hstep
  | assets id a =>
      rw [HttpInterface.step] at h
      split at h
      · rename_i hg
        obtain ⟨assets, hstep, rfl⟩ := Option.map_eq_some_iff.mp h
        exact .assets hg hstep
      · cases h
  | acceptUni id u recvStream =>
      obtain ⟨server, hserver, hrest⟩ := Option.bind_eq_some_iff.mp h
      obtain ⟨assets, hstep, rfl⟩ := Option.map_eq_some_iff.mp hrest
      exact .acceptUni hserver hstep
  | tick =>
      cases h
      exact .tick
  | dropProxy id holder =>
      rw [HttpInterface.step] at h
      split at h
      · rename_i hg
        cases h
        exact .dropProxy hg.1 hg.2
      · cases h
  | request r =>
      rw [HttpInterface.step] at h
      split at h
      · rename_i hp
        cases h
        exact .request hp
      · cases h
  | parseId r =>
      rw [HttpInterface.step] at h
      split at h
      · rename_i hp
        split at h
        · rename_i hid
          cases h
          exact .parsed hp hid
        · rename_i hid
          cases h
          exact .malformed hp hid
      · cases h
  | getProxy r =>
      rw [HttpInterface.step] at h
      split at h
      · rename_i hp
        split at h
        · rename_i hproxy
          cases h
          exact .foundProxy hp hproxy
        · rename_i hproxy
          cases h
          exact .noProxy hp hproxy
      · cases h
  | getAsset r =>
      rw [HttpInterface.step] at h
      split at h
      · rename_i hp
        obtain ⟨assets, hstep, rfl⟩ := Option.map_eq_some_iff.mp h
        exact .getAsset hp hstep
      · cases h
  | returns r =>
      rw [HttpInterface.step] at h
      split at h
      · rename_i hp
        split at h
        · rename_i hc
          cases h
          exact .returns hp hc rfl
        · cases h
      · cases h
  | count r =>
      rw [HttpInterface.step] at h
      split at h
      · rename_i hp
        dsimp only at h
        split at h
        · rename_i hdata
          cases h
          exact .countSuccess hp hdata
        · rename_i hstatus
          cases h
          exact .countFailure hp hstatus
      · cases h
  | observe r =>
      rw [HttpInterface.step] at h
      split at h
      · rename_i hp
        split at h
        · rename_i hdata
          cases h
          exact .observe hp hdata
        · cases h
      · cases h
  | drop r =>
      rw [HttpInterface.step] at h
      split at h
      · rename_i hp
        obtain ⟨assets, hstep, rfl⟩ := Option.map_eq_some_iff.mp h
        exact .drop hp hstep
      · cases h

/-! ## Who touches what -/

namespace State

@[simp] theorem server_release (s : State) (r : RequestId) (proxy : Option Uuid) :
    (s.release r proxy).server = s.server := by
  cases proxy <;> rfl

@[simp] theorem assets_release (s : State) (r : RequestId) (proxy : Option Uuid) :
    (s.release r proxy).assets = s.assets := by
  cases proxy <;> rfl

@[simp] theorem places_release (s : State) (r : RequestId) (proxy : Option Uuid) :
    (s.release r proxy).places = s.places := by
  cases proxy <;> rfl

@[simp] theorem assetRequests_release (s : State) (r : RequestId) (proxy : Option Uuid) :
    (s.release r proxy).assetRequests = s.assetRequests := by
  cases proxy <;> rfl

@[simp] theorem responseSizes_release (s : State) (r : RequestId) (proxy : Option Uuid) :
    (s.release r proxy).responseSizes = s.responseSizes := by
  cases proxy <;> rfl

@[simp] theorem places_setPlace_self (s : State) (r : RequestId) (place : Place) :
    (s.setPlace r place).places r = place := Function.update_self ..

theorem places_setPlace_of_ne (s : State) {r r' : RequestId} (h : r' ≠ r) (place : Place) :
    (s.setPlace r place).places r' = s.places r' := Function.update_of_ne h ..

@[simp] theorem assets_setAssets_self (s : State) (id : Uuid) (assets : AllocatedAssets.State) :
    (s.setAssets id assets).assets id = assets := Function.update_self ..

theorem assets_setAssets_of_ne (s : State) {id id' : Uuid} (h : id' ≠ id)
    (assets : AllocatedAssets.State) : (s.setAssets id assets).assets id' = s.assets id' :=
  Function.update_of_ne h ..

/-- A running call of `ProxyServer::get_asset`. -/
def call (s : State) (id : Uuid) (r : RequestId) : Option Assets.Call :=
  (s.assets id).session.assets.calls r

end State

/-! ## The components

    A run of the whole proxy is a run of the management loop, and for each id a run of
    the allocation's assets. -/

/-- A step of the whole proxy is at most one step of the loop. -/
theorem server_step (h : (system config).step s a = some t) :
    t.server = s.server ∨ ∃ b, ManagementServer.system.step s.server b = some t.server := by
  cases step_cases h with
  | server hstep => exact Or.inr ⟨_, hstep⟩
  | acceptUni hserver _ => exact Or.inr ⟨_, hserver⟩
  | countFailure _ _ | observe _ _ | drop _ _ => exact Or.inl (State.server_release ..)
  | _ => exact Or.inl rfl

/-- The tick of an allocation's assets. -/
theorem tickAssets_step (game : AllocatedAssets.Game) (c : AllocatedAssets.Compression)
    (assets : AllocatedAssets.State) :
    (AllocatedAssets.system game c).step assets (.assets .tick) = some (tickAssets assets) := rfl

/-- One of the allocations moves on. -/
theorem setAssets_step {id id' : Uuid} {b : AllocatedAssets.Action}
    {assets : AllocatedAssets.State}
    (h : (AllocatedAssets.system (config.game id) config.compression).step (s.assets id) b
      = some assets) :
    (s.setAssets id assets).assets id' = s.assets id' ∨
      ∃ b, (AllocatedAssets.system (config.game id') config.compression).step (s.assets id') b
        = some ((s.setAssets id assets).assets id') := by
  by_cases hid : id' = id
  · subst hid
    rw [State.assets_setAssets_self]
    exact Or.inr ⟨b, h⟩
  · exact Or.inl (s.assets_setAssets_of_ne hid assets)

/-- A step of the whole proxy is at most one step of each allocation's assets. -/
theorem assets_step (h : (system config).step s a = some t) (id : Uuid) :
    t.assets id = s.assets id ∨
      ∃ b, (AllocatedAssets.system (config.game id) config.compression).step (s.assets id) b
        = some (t.assets id) := by
  cases step_cases h with
  | tick => exact Or.inr ⟨_, tickAssets_step _ _ _⟩
  | assets _ hstep | acceptUni _ hstep | getAsset _ hstep => exact setAssets_step hstep
  | drop _ hstep =>
      rw [State.assets_release]
      exact setAssets_step hstep
  | countFailure _ _ | observe _ _ =>
      rw [State.assets_release]
      exact Or.inl rfl
  | _ => exact Or.inl rfl

theorem server_exec (h : (system config).exec s acts = some t) :
    ∃ bs, ManagementServer.system.exec s.server bs = some t.server :=
  exec_component (f := State.server) server_step h

theorem assets_exec (h : (system config).exec s acts = some t) (id : Uuid) :
    ∃ bs, (AllocatedAssets.system (config.game id) config.compression).exec (s.assets id) bs
      = some (t.assets id) :=
  exec_component (f := fun s => s.assets id) (fun hstep => assets_step hstep id) h

theorem serverInv_of_exec (h : (system config).exec {} acts = some s) :
    ManagementServer.Inv s.server := by
  obtain ⟨bs, hbs⟩ := server_exec h
  exact ManagementServer.inv_of_exec hbs

theorem assetsInv_of_exec (h : (system config).exec {} acts = some s) (id : Uuid) :
    AllocatedAssets.Inv (config.game id) config.compression (s.assets id) := by
  obtain ⟨bs, hbs⟩ := assets_exec h id
  exact AllocatedAssets.inv_of_exec hbs

/-! ## A small proxy

    One UUID, the disk with one file, and two ticks of time. -/

def oneGame : Config where
  parseUuid text := if text = "00000000000000000000000000000001" then some 1 else none
  url r := (if r = 1 then "a" else "00000000000000000000000000000001", Str.a)
  getAssetsDownloadTimeout := 2
  compression := AllocatedAssets.plain
  game _ := AllocatedAssets.oneFileGame

/-- A game server connects, and opens a first stream. -/
def connect (id : Uuid) : List Action :=
  (ManagementServer.acceptAll id).map .server ++ [.server .insert, .server .writeMetrics] ++
    [Startup.Action.openControl, .acceptBi, .writeStarted, .notifyWaiters, .readStarted,
      .acceptServerStream].map fun a => .server (.task id a)

/-- A request arrives, and finds nothing in the asset store. -/
def ask (id : Uuid) (r : RequestId) : List Action :=
  [.request r, .parseId r, .getProxy r, .getAsset r] ++
    [Assets.Action.testDeadline r, .checkEntry r, .createNotified r].map fun a =>
      .assets id (.assets a)

/-- The game server answers it. -/
def upload (id : Uuid) : List Action :=
  [.assets id (.client (.requestAsset Str.a)),
    .assets id (.openUni ⟨.requestAsset, Str.a.bytes, [0x07]⟩ Str.a),
    .acceptUni id 0
      ⟨[(sendStoreAssetMessage (fun data => data) Str.a [0x07]).written], .finished⟩] ++
    [Assets.Action.readToEnd 0 true, .fetchAdd 0, .store 0].map fun a => .assets id (.assets a)

/-- A request that was woken finds the data, and is answered. -/
def finish (id : Uuid) (r : RequestId) : List Action :=
  [Assets.Action.pollNotified r, .testDeadline r, .checkEntry r].map
      (fun a => .assets id (.assets a)) ++ [.returns r, .count r, .observe r]

/-- A game server goes. -/
def leave (id : Uuid) : List Action :=
  [Startup.Action.close, .startSeesClosed, .sendStopped].map (fun a => .server (.task id a)) ++
    [.server .recvEvent, .server .writeMetrics]

end AmbientProxy.HttpInterface
