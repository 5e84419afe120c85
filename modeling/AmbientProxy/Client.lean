import AmbientProxy.Assets
import AmbientProxy.ProxyServer

/-! # The game server's side — `Client::start` and the `ProxiedConnection`s

    `src/client.rs`.  One loop reads the connection to the proxy and queues what
    arrives for a player; the game takes it from the queue on clones of a
    `ProxiedConnection`:

        Client::start          accept_uni / accept_bi / read_datagram
        loop { select! {       loop {
          read the header        lock; pop? return it; clone notify; unlock
          lock; push;            notified().await
            notify_one; unlock }
        } }

    What happens under the lock of one of the three maps is one step.  A handler of
    the loop that awaits, or is about to take a lock, is a state in which the loop
    is (`Phase`).  An `Allocation` is handled in three steps: `endpoint_allocated`,
    its notification, the callback.

    The lists `fromProxy`, `datagrams`, `callbacks`, `uploads`, `written`,
    `received`, `handedOut`, `sendDatagrams` and `toProxy` only record what
    happened. -/

namespace AmbientProxy

open Transition Sync

/-- A `HashMap` with text keys. -/
abbrev HashMap (V : Type) := DashMap V

/-- `AllocatedEndpoint`. -/
structure AllocatedEndpoint where
  id : Uuid
  allocatedEndpoint : String
  externalEndpoint : SocketAddr
  assetsRoot : String
  deriving DecidableEq

/-- `AllocatedEndpoint::try_from`. -/
def AllocatedEndpoint.tryFrom : ServerMessage → Option AllocatedEndpoint
  | .allocation id allocatedEndpoint assetsRoot externalEndpoint =>
      some ⟨id, allocatedEndpoint, externalEndpoint, assetsRoot⟩
  | _ => none

namespace Client

/-- A running call of `accept_uni`, `accept_bi` or `read_datagram`. -/
abbrev CallId := Nat

/-- `QueuedResource`. -/
structure QueuedResource (T : Type) where
  queue : List T := []
  notify : Notify CallId := {}

namespace QueuedResource

variable {T : Type}

instance : Inhabited (QueuedResource T) := ⟨{}⟩

/-- `push`. -/
def push (r : QueuedResource T) (value : T) : QueuedResource T where
  queue := r.queue ++ [value]
  notify := r.notify.notifyOne

/-- `pop`. -/
def pop (r : QueuedResource T) : Option T × QueuedResource T :=
  match r.queue with
  | [] => (none, r)
  | value :: queue => (some value, { r with queue := queue })

end QueuedResource

/-- The three kinds of resources that are queued for a player. -/
inductive Kind where
  | uni
  | bi
  | datagram
  deriving DecidableEq

/-- What is queued of each kind. -/
def Kind.Item : Kind → Type
  | .uni => RecvStream
  | .bi => SendStream × RecvStream
  | .datagram => Bytes

/-- `PendingResources`. -/
structure PendingResources where
  uniStreams : HashMap (QueuedResource RecvStream) := ∅
  biStreams : HashMap (QueuedResource (SendStream × RecvStream)) := ∅
  datagrams : HashMap (QueuedResource Bytes) := ∅

namespace PendingResources

def map (pending : PendingResources) : (k : Kind) → HashMap (QueuedResource k.Item)
  | .uni => pending.uniStreams
  | .bi => pending.biStreams
  | .datagram => pending.datagrams

def setMap (pending : PendingResources) : (k : Kind) → HashMap (QueuedResource k.Item) →
    PendingResources
  | .uni, map => { pending with uniStreams := map }
  | .bi, map => { pending with biStreams := map }
  | .datagram, map => { pending with datagrams := map }

/-- What `entry(player_id).or_default()` finds. -/
def resource (pending : PendingResources) (k : Kind) (playerId : Str) : QueuedResource k.Item :=
  (pending.map k).entry playerId

def setResource (pending : PendingResources) (k : Kind) (playerId : Str)
    (resource : QueuedResource k.Item) : PendingResources :=
  pending.setMap k ((pending.map k).insert playerId resource)

end PendingResources

/-- Where a call of `accept_uni`, `accept_bi` or `read_datagram` is. -/
inductive Place (k : Kind) where
  /-- About to lock the map. -/
  | lock
  /-- The lock is released; about to create the `Notified` future. -/
  | createNotified
  | awaitNotified (future : Notified)
  | returned (item : k.Item)
  /-- Its caller dropped it. -/
  | cancelled

/-- A call of `accept_uni`, `accept_bi` or `read_datagram`. -/
structure Call where
  kind : Kind
  playerId : Str
  place : Place kind

/-- What `Client::start` calls of the game. -/
inductive Callback where
  /-- `on_endpoint_allocated` -/
  | endpointAllocated (message : AllocatedEndpoint)
  /-- `on_player_connected` -/
  | playerConnected (playerId : Str)
  deriving DecidableEq

/-- The parameters of `Client` that its loop reads. -/
structure Config where
  assetsPath : Option String
  assetsRootOverride : Option String

/-- The assets root of the message is overridden where an override is set. -/
def Config.overrideRoot (config : Config) (message : AllocatedEndpoint) : AllocatedEndpoint :=
  { message with assetsRoot := config.assetsRootOverride.getD message.assetsRoot }

/-- Where `Client::start` is. -/
inductive Phase where
  /-- At the `select!`, between two iterations. -/
  | select
  /-- `endpoint_allocated` is set; about to notify. -/
  | notifyAllocated (message : ServerMessage)
  /-- About to call `on_endpoint_allocated`. -/
  | callAllocated (message : ServerMessage)
  /-- At `load_asset_data`. -/
  | loadAsset (key : Str)
  /-- At `tx.send`. -/
  | sendMessage (message : ClientMessage)
  /-- At `read_framed` on a stream, with the other half of a bidirectional one. -/
  | readUni (recvStream : RecvStream)
  | readBi (sendStream : SendStream) (recvStream : RecvStream)
  /-- About to lock the map and push. -/
  | push (k : Kind) (playerId : Str) (item : k.Item)
  | stopped
  | panicked

structure State where
  phase : Phase := .select
  closed : Bool := false
  endpointAllocated : Bool := false
  endpointAllocatedNotify : Notify CallId := {}
  clientMessages : List ClientMessage := []
  pending : PendingResources := {}
  calls : CallId → Option Call := fun _ => none
  -- what happened
  fromProxy : List ServerMessage := []
  datagrams : List Bytes := []
  callbacks : List Callback := []
  uploads : List (Str × Bytes) := []
  written : List ClientMessage := []
  received : (k : Kind) → Str → List k.Item := fun _ _ => []
  handedOut : (k : Kind) → Str → List (CallId × k.Item) := fun _ _ => []
  sendDatagrams : List (Str × Bytes) := []
  toProxy : List Bytes := []

inductive Action where
  | close
  -- `ClientController::allocate_endpoint`
  | allocateEndpoint (projectId : String)
  -- the loop: messages
  | serverMessage (message : ServerMessage)
  | notifyAllocated
  | callAllocated
  | assetLoaded (data : Option Bytes)
  | clientMessage
  | messageSent (sent : Bool)
  -- the loop: streams and datagrams of players
  | uniStream (recvStream : RecvStream)
  | biStream (sendStream : SendStream) (recvStream : RecvStream)
  | headerRead
  | datagram (data : Bytes)
  | push
  | seesClosed
  -- the game
  | acceptUni (c : CallId) (playerId : Str)
  | acceptBi (c : CallId) (playerId : Str)
  | readDatagram (c : CallId) (playerId : Str)
  | lock (c : CallId)
  | createNotified (c : CallId)
  | pollNotified (c : CallId)
  | cancel (c : CallId)
  | sendDatagram (playerId : Str) (data : Bytes) (accepted : Bool)

/-! ## The steps -/

/-- Replace the value of a family at one kind and one player. -/
def update {V : Kind → Type} (f : (k : Kind) → Str → V k) (k : Kind) (playerId : Str)
    (value : V k) : (k : Kind) → Str → V k :=
  Function.update f k (Function.update (f k) playerId value)

namespace State

def resource (s : State) : (k : Kind) → Str → QueuedResource k.Item := s.pending.resource

def setResource (s : State) (k : Kind) (playerId : Str) (resource : QueuedResource k.Item) :
    State :=
  { s with pending := s.pending.setResource k playerId resource }

def setCall (s : State) (c : CallId) (call : Call) : State :=
  { s with calls := Function.update s.calls c (some call) }

/-- The loop has an item for a player in hand. -/
def receive (s : State) (k : Kind) (playerId : Str) (item : k.Item) : State :=
  { s with
    phase := .push k playerId item
    received := update s.received k playerId (s.received k playerId ++ [item]) }

/-- The loop goes on with what it read: an error is only logged. -/
def receiveOutcome (s : State) (k : Kind) : Outcome (Str × k.Item) → State
  | .ok (playerId, item) => s.receive k playerId item
  | .err _ => { s with phase := .select }
  | .panic => { s with phase := .panicked }

/-- A call starts. -/
def call (s : State) (c : CallId) (k : Kind) (playerId : Str) : Option State :=
  match s.calls c with
  | some _ => none
  | none => some (s.setCall c ⟨k, playerId, .lock⟩)

end State

/-- The header of a bidirectional stream, whose other half is queued with it. -/
def readBiStreamInfo (sendStream : SendStream) (recvStream : RecvStream) :
    Outcome (Str × (SendStream × RecvStream)) := do
  let (playerId, recvStream) ← readStreamInfo recvStream
  pure (playerId, (sendStream, recvStream))

/-- `drop_prefix` on a datagram, and its header's player. -/
def readDatagramInfo (data : Bytes) : Outcome (Str × Bytes) := do
  let (⟨playerId⟩, data) ← dropPrefix (deserialize DatagramInfo.codec) data
  pure (playerId, data)

/-- `ProxiedConnection::send_datagram`: what is sent to the proxy. -/
def sendDatagram (playerId : Str) (data : Bytes) : Bytes :=
  addPrefix (serialize DatagramInfo.codec) ⟨playerId⟩ data

/-- What a call does while it holds the lock of the map. -/
def lockResource (s : State) (c : CallId) (k : Kind) (playerId : Str) : State :=
  match (s.resource k playerId).pop with
  | (none, resource) =>
      (s.setResource k playerId resource).setCall c ⟨k, playerId, .createNotified⟩
  | (some item, resource) =>
      { (s.setResource k playerId resource).setCall c ⟨k, playerId, .returned item⟩ with
        handedOut := update s.handedOut k playerId (s.handedOut k playerId ++ [(c, item)]) }

/-- A call polls its future. -/
def pollNotified (s : State) (c : CallId) (k : Kind) (playerId : Str) (future : Notified) :
    State :=
  let resource := s.resource k playerId
  let (notify, future) := resource.notify.poll c future
  (s.setResource k playerId { resource with notify := notify }).setCall c
    ⟨k, playerId, match future with
      | none => .lock
      | some future => .awaitNotified future⟩

/-- What each action does, where it is enabled. -/
def step (config : Config) (s : State) : Action → Option State
  | .close => some { s with closed := true }
  | .allocateEndpoint projectId =>
      some { s with clientMessages := s.clientMessages ++ [.allocateEndpoint projectId] }
  | .serverMessage message =>
      match s.phase with
      | .select =>
          let s := { s with fromProxy := s.fromProxy ++ [message] }
          match message with
          | .allocation _ _ _ _ =>
              some { s with endpointAllocated := true, phase := .notifyAllocated message }
          | .playerConnected playerId =>
              some { s with callbacks := s.callbacks ++ [.playerConnected playerId] }
          | .requestAsset key =>
              if config.assetsPath.isSome then some { s with phase := .loadAsset key } else some s
      | _ => none
  | .notifyAllocated =>
      match s.phase with
      | .notifyAllocated message =>
          some { s with
            endpointAllocatedNotify := s.endpointAllocatedNotify.notifyWaiters
            phase := .callAllocated message }
      | _ => none
  | .callAllocated =>
      match s.phase with
      | .callAllocated message =>
          match AllocatedEndpoint.tryFrom message with
          | none => some { s with phase := .panicked }
          | some message =>
              some { s with
                callbacks := s.callbacks ++ [.endpointAllocated (config.overrideRoot message)]
                phase := .select }
      | _ => none
  | .assetLoaded data =>
      match s.phase with
      | .loadAsset key =>
          match data with
          | none => some { s with phase := .select }
          | some data => some { s with uploads := s.uploads ++ [(key, data)], phase := .select }
      | _ => none
  | .clientMessage =>
      match s.phase, s.clientMessages with
      | .select, message :: clientMessages =>
          some { s with clientMessages := clientMessages, phase := .sendMessage message }
      | _, _ => none
  | .messageSent sent =>
      match s.phase with
      | .sendMessage message =>
          if sent then some { s with written := s.written ++ [message], phase := .select }
          else some { s with phase := .select }
      | _ => none
  | .uniStream recvStream =>
      match s.phase with
      | .select => some { s with phase := .readUni recvStream }
      | _ => none
  | .biStream sendStream recvStream =>
      match s.phase with
      | .select => some { s with phase := .readBi sendStream recvStream }
      | _ => none
  | .headerRead =>
      match s.phase with
      | .readUni recvStream => some (s.receiveOutcome .uni (readStreamInfo recvStream))
      | .readBi sendStream recvStream =>
          some (s.receiveOutcome .bi (readBiStreamInfo sendStream recvStream))
      | _ => none
  | .datagram data =>
      match s.phase with
      | .select =>
          let s := { s with datagrams := s.datagrams ++ [data] }
          some (s.receiveOutcome .datagram (readDatagramInfo data))
      | _ => none
  | .push =>
      match s.phase with
      | .push k playerId item =>
          some { s.setResource k playerId ((s.resource k playerId).push item) with
            phase := .select }
      | _ => none
  | .seesClosed =>
      match s.phase with
      | .select => if s.closed then some { s with phase := .stopped } else none
      | _ => none
  | .acceptUni c playerId => s.call c .uni playerId
  | .acceptBi c playerId => s.call c .bi playerId
  | .readDatagram c playerId => s.call c .datagram playerId
  | .lock c =>
      match s.calls c with
      | some ⟨k, playerId, .lock⟩ => some (lockResource s c k playerId)
      | _ => none
  | .createNotified c =>
      match s.calls c with
      | some ⟨k, playerId, .createNotified⟩ =>
          some (s.setCall c
            ⟨k, playerId, .awaitNotified (s.resource k playerId).notify.notified⟩)
      | _ => none
  | .pollNotified c =>
      match s.calls c with
      | some ⟨k, playerId, .awaitNotified future⟩ =>
          if future = .waiting ∧ (s.resource k playerId).notify.ready c future = false then none
          else some (pollNotified s c k playerId future)
      | _ => none
  | .cancel c =>
      match s.calls c with
      | some ⟨k, playerId, .awaitNotified future⟩ =>
          let resource := s.resource k playerId
          some ((s.setResource k playerId
            { resource with notify := resource.notify.forward c future }).setCall c
            ⟨k, playerId, .cancelled⟩)
      | _ => none
  | .sendDatagram playerId data accepted =>
      let s := { s with sendDatagrams := s.sendDatagrams ++ [(playerId, data)] }
      some (if accepted then { s with toProxy := s.toProxy ++ [sendDatagram playerId data] } else s)

/-- The game server's side of one allocation. -/
def system (config : Config) : System State Action where
  init := {}
  step := step config

/-! ## What one step can do -/

/-- The steps of the system, each with all that it needs and all that it does. -/
inductive Step (config : Config) (s : State) : Action → State → Prop where
  | close : Step config s .close { s with closed := true }
  | allocateEndpoint {projectId : String} :
      Step config s (.allocateEndpoint projectId)
        { s with clientMessages := s.clientMessages ++ [.allocateEndpoint projectId] }
  | allocation {id : Uuid} {allocatedEndpoint assetsRoot : String} {externalEndpoint : SocketAddr}
      (hp : s.phase = .select) :
      Step config s (.serverMessage (.allocation id allocatedEndpoint assetsRoot externalEndpoint))
        { s with
          fromProxy := s.fromProxy ++ [.allocation id allocatedEndpoint assetsRoot externalEndpoint]
          endpointAllocated := true
          phase := .notifyAllocated
            (.allocation id allocatedEndpoint assetsRoot externalEndpoint) }
  | playerConnected {playerId : Str} (hp : s.phase = .select) :
      Step config s (.serverMessage (.playerConnected playerId))
        { s with
          fromProxy := s.fromProxy ++ [.playerConnected playerId]
          callbacks := s.callbacks ++ [.playerConnected playerId] }
  | requestAsset {key : Str} (hp : s.phase = .select) (ha : config.assetsPath.isSome = true) :
      Step config s (.serverMessage (.requestAsset key))
        { s with fromProxy := s.fromProxy ++ [.requestAsset key], phase := .loadAsset key }
  | ignoreAsset {key : Str} (hp : s.phase = .select) (ha : ¬ config.assetsPath.isSome = true) :
      Step config s (.serverMessage (.requestAsset key))
        { s with fromProxy := s.fromProxy ++ [.requestAsset key] }
  | notifyAllocated {message : ServerMessage} (hp : s.phase = .notifyAllocated message) :
      Step config s .notifyAllocated
        { s with
          endpointAllocatedNotify := s.endpointAllocatedNotify.notifyWaiters
          phase := .callAllocated message }
  | callAllocated {message : ServerMessage} {allocated : AllocatedEndpoint}
      (hp : s.phase = .callAllocated message)
      (hm : AllocatedEndpoint.tryFrom message = some allocated) :
      Step config s .callAllocated
        { s with
          callbacks := s.callbacks ++ [.endpointAllocated (config.overrideRoot allocated)]
          phase := .select }
  | callPanics {message : ServerMessage} (hp : s.phase = .callAllocated message)
      (hm : AllocatedEndpoint.tryFrom message = none) :
      Step config s .callAllocated { s with phase := .panicked }
  | assetLoaded {key : Str} {data : Bytes} (hp : s.phase = .loadAsset key) :
      Step config s (.assetLoaded (some data))
        { s with uploads := s.uploads ++ [(key, data)], phase := .select }
  | assetMissing {key : Str} (hp : s.phase = .loadAsset key) :
      Step config s (.assetLoaded none) { s with phase := .select }
  | clientMessage {message : ClientMessage} {rest : List ClientMessage} (hp : s.phase = .select)
      (hm : s.clientMessages = message :: rest) :
      Step config s .clientMessage
        { s with clientMessages := rest, phase := .sendMessage message }
  | messageSent {message : ClientMessage} (hp : s.phase = .sendMessage message) :
      Step config s (.messageSent true)
        { s with written := s.written ++ [message], phase := .select }
  | messageLost {message : ClientMessage} (hp : s.phase = .sendMessage message) :
      Step config s (.messageSent false) { s with phase := .select }
  | uniStream {recvStream : RecvStream} (hp : s.phase = .select) :
      Step config s (.uniStream recvStream) { s with phase := .readUni recvStream }
  | biStream {sendStream : SendStream} {recvStream : RecvStream} (hp : s.phase = .select) :
      Step config s (.biStream sendStream recvStream)
        { s with phase := .readBi sendStream recvStream }
  | uniHeader {recvStream : RecvStream} (hp : s.phase = .readUni recvStream) :
      Step config s .headerRead (s.receiveOutcome .uni (readStreamInfo recvStream))
  | biHeader {sendStream : SendStream} {recvStream : RecvStream}
      (hp : s.phase = .readBi sendStream recvStream) :
      Step config s .headerRead (s.receiveOutcome .bi (readBiStreamInfo sendStream recvStream))
  | datagram {data : Bytes} (hp : s.phase = .select) :
      Step config s (.datagram data)
        ({ s with datagrams := s.datagrams ++ [data] }.receiveOutcome .datagram
          (readDatagramInfo data))
  | push {k : Kind} {playerId : Str} {item : k.Item} (hp : s.phase = .push k playerId item) :
      Step config s .push
        { s.setResource k playerId ((s.resource k playerId).push item) with phase := .select }
  | seesClosed (hp : s.phase = .select) (hc : s.closed = true) :
      Step config s .seesClosed { s with phase := .stopped }
  | acceptUni {c : CallId} {playerId : Str} (hc : s.calls c = none) :
      Step config s (.acceptUni c playerId) (s.setCall c ⟨.uni, playerId, .lock⟩)
  | acceptBi {c : CallId} {playerId : Str} (hc : s.calls c = none) :
      Step config s (.acceptBi c playerId) (s.setCall c ⟨.bi, playerId, .lock⟩)
  | readDatagram {c : CallId} {playerId : Str} (hc : s.calls c = none) :
      Step config s (.readDatagram c playerId) (s.setCall c ⟨.datagram, playerId, .lock⟩)
  | popped {c : CallId} {k : Kind} {playerId : Str} {item : k.Item} {rest : List k.Item}
      (hc : s.calls c = some ⟨k, playerId, .lock⟩)
      (hq : (s.resource k playerId).queue = item :: rest) :
      Step config s (.lock c)
        { (s.setResource k playerId { s.resource k playerId with queue := rest }).setCall c
            ⟨k, playerId, .returned item⟩ with
          handedOut := update s.handedOut k playerId (s.handedOut k playerId ++ [(c, item)]) }
  | empty {c : CallId} {k : Kind} {playerId : Str} (hc : s.calls c = some ⟨k, playerId, .lock⟩)
      (hq : (s.resource k playerId).queue = []) :
      Step config s (.lock c)
        ((s.setResource k playerId (s.resource k playerId)).setCall c
          ⟨k, playerId, .createNotified⟩)
  | createNotified {c : CallId} {k : Kind} {playerId : Str}
      (hc : s.calls c = some ⟨k, playerId, .createNotified⟩) :
      Step config s (.createNotified c)
        (s.setCall c ⟨k, playerId, .awaitNotified (s.resource k playerId).notify.notified⟩)
  | pollNotified {c : CallId} {k : Kind} {playerId : Str} {future : Notified}
      (hc : s.calls c = some ⟨k, playerId, .awaitNotified future⟩)
      (hr : ¬ (future = .waiting ∧ (s.resource k playerId).notify.ready c future = false)) :
      Step config s (.pollNotified c) (pollNotified s c k playerId future)
  | cancel {c : CallId} {k : Kind} {playerId : Str} {future : Notified}
      (hc : s.calls c = some ⟨k, playerId, .awaitNotified future⟩) :
      Step config s (.cancel c)
        ((s.setResource k playerId
          { s.resource k playerId with
            notify := (s.resource k playerId).notify.forward c future }).setCall c
          ⟨k, playerId, .cancelled⟩)
  | sendDatagram {playerId : Str} {data : Bytes} :
      Step config s (.sendDatagram playerId data true)
        { s with
          sendDatagrams := s.sendDatagrams ++ [(playerId, data)]
          toProxy := s.toProxy ++ [sendDatagram playerId data] }
  | datagramLost {playerId : Str} {data : Bytes} :
      Step config s (.sendDatagram playerId data false)
        { s with sendDatagrams := s.sendDatagrams ++ [(playerId, data)] }

variable {config : Config} {s t : State} {a : Action}

theorem lockResource_of_nil {s : State} {c : CallId} {k : Kind} {playerId : Str}
    (h : (s.resource k playerId).queue = []) :
    lockResource s c k playerId =
      (s.setResource k playerId (s.resource k playerId)).setCall c
        ⟨k, playerId, .createNotified⟩ := by
  have hpop : (s.resource k playerId).pop = (none, s.resource k playerId) := by
    rw [QueuedResource.pop, h]
  rw [lockResource, hpop]

theorem lockResource_of_cons {s : State} {c : CallId} {k : Kind} {playerId : Str} {item : k.Item}
    {rest : List k.Item} (h : (s.resource k playerId).queue = item :: rest) :
    lockResource s c k playerId =
      { (s.setResource k playerId { s.resource k playerId with queue := rest }).setCall c
          ⟨k, playerId, .returned item⟩ with
        handedOut := update s.handedOut k playerId (s.handedOut k playerId ++ [(c, item)]) } := by
  have hpop : (s.resource k playerId).pop
      = (some item, { s.resource k playerId with queue := rest }) := by
    rw [QueuedResource.pop, h]
  rw [lockResource, hpop]

/-- Polling changes the waiters and the call's place, and hands nothing out. -/
theorem pollNotified_eq (s : State) (c : CallId) (k : Kind) (playerId : Str) (future : Notified) :
    ∃ (notify : Notify CallId) (place : Place k), (∀ item, place ≠ .returned item) ∧
      pollNotified s c k playerId future =
        (s.setResource k playerId { s.resource k playerId with notify := notify }).setCall c
          ⟨k, playerId, place⟩ := by
  refine ⟨_, _, ?_, rfl⟩
  intro item hitem
  split at hitem
  · cases hitem
  · cases hitem

theorem call_eq_some {c : CallId} {k : Kind} {playerId : Str}
    (h : s.call c k playerId = some t) :
    s.calls c = none ∧ t = s.setCall c ⟨k, playerId, .lock⟩ := by
  rw [State.call] at h
  split at h
  · exact nomatch h
  · rename_i hc
    exact ⟨hc, (Option.some.inj h).symm⟩

theorem step_cases (h : (system config).step s a = some t) : Step config s a t := by
  change step config s a = some t at h
  cases a with
  | close =>
      cases Option.some.inj h
      exact .close
  | allocateEndpoint projectId =>
      cases Option.some.inj h
      exact .allocateEndpoint
  | serverMessage message =>
      rw [step] at h
      split at h
      · rename_i hp
        cases message with
        | allocation id allocatedEndpoint assetsRoot externalEndpoint =>
            cases Option.some.inj h
            exact .allocation hp
        | playerConnected playerId =>
            cases Option.some.inj h
            exact .playerConnected hp
        | requestAsset key =>
            dsimp only at h
            split at h
            · rename_i ha
              cases Option.some.inj h
              exact .requestAsset hp ha
            · rename_i ha
              cases Option.some.inj h
              exact .ignoreAsset hp ha
      · exact nomatch h
  | notifyAllocated =>
      rw [step] at h
      split at h
      · rename_i hp
        cases Option.some.inj h
        exact .notifyAllocated hp
      · exact nomatch h
  | callAllocated =>
      rw [step] at h
      split at h
      · rename_i hp
        split at h
        · rename_i hm
          cases Option.some.inj h
          exact .callPanics hp hm
        · rename_i hm
          cases Option.some.inj h
          exact .callAllocated hp hm
      · exact nomatch h
  | assetLoaded data =>
      rw [step] at h
      split at h
      · rename_i hp
        cases data with
        | none =>
            cases Option.some.inj h
            exact .assetMissing hp
        | some data =>
            cases Option.some.inj h
            exact .assetLoaded hp
      · exact nomatch h
  | clientMessage =>
      rw [step] at h
      split at h
      · rename_i hp hm
        cases Option.some.inj h
        exact .clientMessage hp hm
      · exact nomatch h
  | messageSent sent =>
      rw [step] at h
      split at h
      · rename_i hp
        cases sent with
        | true =>
            cases Option.some.inj h
            exact .messageSent hp
        | false =>
            cases Option.some.inj h
            exact .messageLost hp
      · exact nomatch h
  | uniStream recvStream =>
      rw [step] at h
      split at h
      · rename_i hp
        cases Option.some.inj h
        exact .uniStream hp
      · exact nomatch h
  | biStream sendStream recvStream =>
      rw [step] at h
      split at h
      · rename_i hp
        cases Option.some.inj h
        exact .biStream hp
      · exact nomatch h
  | headerRead =>
      rw [step] at h
      split at h
      · rename_i hp
        cases Option.some.inj h
        exact .uniHeader hp
      · rename_i hp
        cases Option.some.inj h
        exact .biHeader hp
      · exact nomatch h
  | datagram data =>
      rw [step] at h
      split at h
      · rename_i hp
        cases Option.some.inj h
        exact .datagram hp
      · exact nomatch h
  | push =>
      rw [step] at h
      split at h
      · rename_i hp
        cases Option.some.inj h
        exact .push hp
      · exact nomatch h
  | seesClosed =>
      rw [step] at h
      split at h
      · rename_i hp
        split at h
        · rename_i hc
          cases Option.some.inj h
          exact .seesClosed hp hc
        · exact nomatch h
      · exact nomatch h
  | acceptUni c playerId =>
      obtain ⟨hc, rfl⟩ := call_eq_some h
      exact .acceptUni hc
  | acceptBi c playerId =>
      obtain ⟨hc, rfl⟩ := call_eq_some h
      exact .acceptBi hc
  | readDatagram c playerId =>
      obtain ⟨hc, rfl⟩ := call_eq_some h
      exact .readDatagram hc
  | lock c =>
      rw [step] at h
      split at h
      · rename_i k playerId hc
        cases Option.some.inj h
        cases hq : (s.resource k playerId).queue with
        | nil =>
            rw [lockResource_of_nil hq]
            exact .empty hc hq
        | cons item rest =>
            rw [lockResource_of_cons hq]
            exact .popped hc hq
      · exact nomatch h
  | createNotified c =>
      rw [step] at h
      split at h
      · rename_i hc
        cases Option.some.inj h
        exact .createNotified hc
      · exact nomatch h
  | pollNotified c =>
      rw [step] at h
      split at h
      · rename_i hc
        split at h
        · exact nomatch h
        · rename_i hr
          cases Option.some.inj h
          exact .pollNotified hc hr
      · exact nomatch h
  | cancel c =>
      rw [step] at h
      split at h
      · rename_i hc
        cases Option.some.inj h
        exact .cancel hc
      · exact nomatch h
  | sendDatagram playerId data accepted =>
      cases Option.some.inj h
      cases accepted with
      | true => exact .sendDatagram
      | false => exact .datagramLost

end Client

end AmbientProxy
