import AmbientProxy.Assets

/-! # The proxy of one allocation — `ProxyServer::start` and the tasks around it

    `src/server.rs`.  One loop serves an allocation; three kinds of tasks talk to
    it, and all interleave:

        message-processing task    control stream → client_message_receiver
                                   server_message_sender → control stream
        PlayerConnection::start    one for each player: datagrams and streams to
                                   the game server, `Disconnected` to the loop
        ProxyServer::start         loop { select! { … } }

    A handler of the loop that awaits is a state in which the loop is parked
    (`Phase`); the other tasks go on meanwhile.  `ProxyServer::new` and the
    start-up handshake are in `Startup`, what is received into the asset store is
    in `Assets`: here the loop is past the handshake.

    Control messages are taken from and put on the control stream as messages;
    their framing is in `Streams`, and none reaches its limit of 1 GiB.

    Players' connections are numbered in the order in which they are accepted.
    The ids that `friendly_id` draws are assumed to be pairwise distinct.  The
    lists `sent`, `processed`, `fromPlayer`, `toServer`, `fromServer`, `toPlayer`
    and `opened` only record what happened. -/

namespace AmbientProxy.ProxyServer

open Transition

/-- A player's connection. -/
abbrev ConnId := Nat

/-- An endpoint that was bound, and what `local_addr` says of it. -/
structure Endpoint where
  localAddr : Option SocketAddr
  deriving DecidableEq

/-- The parts of `ProxyConfig` that end up in messages, and the address of the game
    server's connection. -/
structure ProxyConfig where
  id : Uuid
  publicHostName : String
  httpPublicAddr : String
  externalEndpoint : SocketAddr

/-- `PlayerEvent`. -/
inductive PlayerEvent where
  | disconnected (playerId : Str)
  deriving DecidableEq

/-- A stream that the game server opens. -/
inductive StreamKind where
  | uni
  | bi
  deriving DecidableEq

/-- Where `ProxyServer::start` is. -/
inductive Phase where
  /-- At the `select!`, between two iterations. -/
  | select
  /-- In `handle_connection`, at `conn.await`. -/
  | handshake (conn : ConnId)
  /-- `PlayerConnected` is sent; about to spawn the player's task. -/
  | spawnPlayer (conn : ConnId) (playerId : Str)
  /-- `handle_connection` returned; about to insert. -/
  | insertPlayer (conn : ConnId) (playerId : Str)
  /-- In `handle_allocate_message`: `proxy_endpoint` is set, `allocated_endpoint` is not. -/
  | setAllocatedEndpoint (endpoint : Endpoint)
  /-- `handle_allocate_message` returned; about to send. -/
  | sendAllocation (message : ServerMessage)
  /-- In `handle_uni` or `handle_bi`, at `read_framed`. -/
  | readHeader (kind : StreamKind)
  /-- There, at `open_uni` or `open_bi` on a player's connection. -/
  | openStream (kind : StreamKind) (playerId : Str) (conn : ConnId)
  /-- The `closed()` branch was taken; about to send `Stopped`. -/
  | sendStopped
  | stopped
  | panicked
  deriving DecidableEq

/-- A spawned `PlayerConnection::start`. -/
structure PlayerTask where
  playerId : Str
  running : Bool
  deriving DecidableEq

structure State where
  phase : Phase := .select
  closed : Bool := false
  proxyEndpoint : Option Endpoint := none
  allocatedEndpoint : String := ""
  -- the message-processing task, its two channels and the control stream
  messageTaskEnded : Bool := false
  clientMessages : List ClientMessage := []
  serverMessages : List ServerMessage := []
  controlFailed : Bool := false
  written : List ServerMessage := []
  -- the players
  accepted : Nat := 0
  playerConns : DashMap ConnId := ∅
  playerTasks : ConnId → Option PlayerTask := fun _ => none
  playerEvents : List PlayerEvent := []
  stoppedSent : Bool := false
  -- what happened
  sent : List ServerMessage := []
  processed : List PlayerEvent := []
  fromPlayer : List (Str × ConnId × Bytes) := []
  toServer : List Bytes := []
  fromServer : List Bytes := []
  toPlayer : List (Str × ConnId × Bytes) := []
  opened : List (StreamKind × Str × ConnId) := []

inductive Action where
  -- the game server
  | close
  -- the message-processing task
  | clientMessage (message : ClientMessage)
  | writeMessage
  | controlFails
  | messageTaskEnds
  -- `get_asset`
  | requestAsset (key : Str)
  -- the loop: players
  | acceptConnection
  | handshakeFails
  | handshakeDone (playerId : Str)
  | spawnPlayer
  | insertPlayer
  | recvPlayerEvent
  -- the loop: messages
  | recvClientMessage (created : Outcome Endpoint)
  | setAllocatedEndpoint
  | sendAllocation
  -- the loop: streams and datagrams of the game server
  | acceptStream (kind : StreamKind)
  | headerRead (header : ClientStreamHeader)
  | headerFails
  | streamOpened
  | openFails
  | datagram (data : Bytes) (accepted : Bool)
  -- the loop: its end
  | seesClosed
  | sendStopped
  -- the tasks of the players
  | playerDatagram (conn : ConnId) (data : Bytes) (accepted : Bool)
  | playerDisconnects (conn : ConnId)
  | playerSeesClosed (conn : ConnId)
  deriving DecidableEq

/-! ## The handlers -/

/-- Display of a `Uuid`: its hexadecimal digits in groups. -/
def hyphenated (id : Uuid) : String :=
  let digits := (List.range 32).map fun i => Nat.digitChar (id.toNat / 16 ^ (31 - i) % 16)
  let group := fun first len => String.ofList ((digits.drop first).take len)
  group 0 8 ++ "-" ++ group 8 4 ++ "-" ++ group 12 4 ++ "-" ++ group 16 4 ++ "-" ++ group 20 12

/-- `handle_allocate_message` up to where it sets `proxy_endpoint`; `created` is what
    `create_proxy_endpoint` returns. -/
def setProxyEndpoint (s : State) (created : Outcome Endpoint) : State × Outcome Endpoint :=
  if s.proxyEndpoint.isSome then (s, .err (.other .endpointAlreadyAllocated))
  else match created with
    | .panic => (s, .panic)
    | .err _ => (s, .err (.other .failedToCreateProxyEndpoint))
    | .ok endpoint => ({ s with proxyEndpoint := some endpoint }, .ok endpoint)

theorem setProxyEndpoint_allocated {s : State} {created : Outcome Endpoint}
    (hsome : s.proxyEndpoint.isSome = true) :
    setProxyEndpoint s created = (s, .err (.other .endpointAlreadyAllocated)) := by
  unfold setProxyEndpoint
  rw [if_pos hsome]

theorem setProxyEndpoint_bound {s : State} (hnone : s.proxyEndpoint = none)
    (endpoint : Endpoint) :
    setProxyEndpoint s (.ok endpoint) =
      ({ s with proxyEndpoint := some endpoint }, .ok endpoint) := by
  rw [setProxyEndpoint, hnone]
  rfl

theorem setProxyEndpoint_unbound {s : State} (hnone : s.proxyEndpoint = none) (e : Error) :
    setProxyEndpoint s (.err e) = (s, .err (.other .failedToCreateProxyEndpoint)) := by
  rw [setProxyEndpoint, hnone]
  rfl

theorem setProxyEndpoint_panic {s : State} (hnone : s.proxyEndpoint = none) :
    setProxyEndpoint s .panic = (s, .panic) := by
  rw [setProxyEndpoint, hnone]
  rfl

/-- How players reach an endpoint. -/
def ProxyConfig.allocatedEndpoint (config : ProxyConfig) (localAddr : SocketAddr) : String :=
  config.publicHostName ++ ":" ++ toString localAddr.port.toNat

/-- The `Allocation` that announces it. -/
def ProxyConfig.allocation (config : ProxyConfig) (localAddr : SocketAddr) : ServerMessage :=
  .allocation config.id (config.allocatedEndpoint localAddr)
    ("http://" ++ config.httpPublicAddr ++ "/content/" ++ hyphenated config.id ++ "/")
    config.externalEndpoint

/-- The rest of it: `local_addr`, `allocated_endpoint`, and the message. -/
def setAllocatedEndpoint (config : ProxyConfig) (s : State) (endpoint : Endpoint) :
    State × Outcome ServerMessage :=
  match endpoint.localAddr with
  | none => (s, .err (.other .failedToGetLocalAddress))
  | some localAddr =>
      ({ s with allocatedEndpoint := config.allocatedEndpoint localAddr },
        .ok (config.allocation localAddr))

/-- `handle_allocate_message`, where nothing happens between its two halves. -/
def handleAllocateMessage (config : ProxyConfig) (s : State) (created : Outcome Endpoint) :
    State × Outcome ServerMessage :=
  match setProxyEndpoint s created with
  | (s, .ok endpoint) => setAllocatedEndpoint config s endpoint
  | (s, .err e) => (s, .err e)
  | (s, .panic) => (s, .panic)

/-- `get_player_connection`. -/
def getPlayerConnection (s : State) (playerId : Str) : Option ConnId :=
  s.playerConns.lookup playerId

/-- The connection of a player, or the error `Unknown player`. -/
def playerConnection (s : State) (playerId : Str) : Outcome ConnId :=
  Outcome.ofOption (.other (.unknownPlayer playerId)) (getPlayerConnection s playerId)

/-- `handle_uni` and `handle_bi` once they have read the header: the player and the
    connection to open a stream on, or `none` where an upload task was spawned. -/
def handleHeader (s : State) (kind : StreamKind) : ClientStreamHeader →
    Outcome (Option (Str × ConnId))
  | .openPlayerStream playerId => do
      let conn ← playerConnection s playerId
      pure (some (playerId, conn))
  | .storeAsset _ length compression =>
      match kind with
      | .uni => do
          Assets.checkStoreAsset length compression
          pure none
      | .bi => .err (.other .unexpectedHeader)

/-- `handle_datagram`: the player, the connection to send on, and the payload. -/
def handleDatagram (s : State) (datagram : Bytes) : Outcome (Str × ConnId × Bytes) := do
  let (⟨playerId⟩, data) ← dropPrefix (deserialize DatagramInfo.codec) datagram
  let conn ← playerConnection s playerId
  pure (playerId, conn, data)

/-- `PlayerConnection::handle_datagram`: what is sent to the game server. -/
def playerHandleDatagram (playerId : Str) (datagram : Bytes) : Bytes :=
  addPrefix (serialize DatagramInfo.codec) ⟨playerId⟩ datagram

/-- `stats`. -/
def stats (s : State) (assets : Assets.State) : ProxyStats where
  allocatedEndpoint := s.allocatedEndpoint
  totalAssetsSize := assets.totalAssetsSize
  totalAssetsCount := assets.assetStore.keys.length
  playersCount := s.playerConns.keys.length

/-! ## The steps -/

/-- `server_message_sender.send`: it fails once the receiver is dropped. -/
def State.send (s : State) (message : ServerMessage) : State :=
  { s with serverMessages := s.serverMessages ++ [message], sent := s.sent ++ [message] }

def State.setTask (s : State) (conn : ConnId) (task : PlayerTask) : State :=
  { s with playerTasks := Function.update s.playerTasks conn (some task) }

/-- `handle.abort()`. -/
def State.abort (s : State) (conn : ConnId) : State :=
  { s with
    playerTasks := Function.update s.playerTasks conn
      ((s.playerTasks conn).map fun task => { task with running := false }) }

/-- What each action does, where it is enabled. -/
def step (config : ProxyConfig) (s : State) : Action → Option State
  | .close => some { s with closed := true }
  | .clientMessage message =>
      if s.messageTaskEnded then none
      else some { s with clientMessages := s.clientMessages ++ [message] }
  | .writeMessage =>
      match s.serverMessages with
      | [] => none
      | message :: serverMessages =>
          if s.messageTaskEnded then none
          else if s.controlFailed then some { s with serverMessages := serverMessages }
          else some { s with serverMessages := serverMessages, written := s.written ++ [message] }
  | .controlFails => some { s with controlFailed := true }
  | .messageTaskEnds => if s.closed then some { s with messageTaskEnded := true } else none
  | .requestAsset key =>
      if s.messageTaskEnded then none else some (s.send (.requestAsset key))
  | .acceptConnection =>
      match s.phase with
      | .select =>
          if s.proxyEndpoint.isSome then
            some { s with phase := .handshake s.accepted, accepted := s.accepted + 1 }
          else none
      | _ => none
  | .handshakeFails =>
      match s.phase with
      | .handshake _ => some { s with phase := .select }
      | _ => none
  | .handshakeDone playerId =>
      match s.phase with
      | .handshake conn =>
          if .playerConnected playerId ∈ s.sent then none
          else if s.messageTaskEnded then some { s with phase := .select }
          else some { s.send (.playerConnected playerId) with phase := .spawnPlayer conn playerId }
      | _ => none
  | .spawnPlayer =>
      match s.phase with
      | .spawnPlayer conn playerId =>
          some { s.setTask conn ⟨playerId, true⟩ with phase := .insertPlayer conn playerId }
      | _ => none
  | .insertPlayer =>
      match s.phase with
      | .insertPlayer conn playerId =>
          some { s with playerConns := s.playerConns.insert playerId conn, phase := .select }
      | _ => none
  | .recvPlayerEvent =>
      match s.phase, s.playerEvents with
      | .select, .disconnected playerId :: playerEvents =>
          let s :=
            { s with
              playerEvents := playerEvents
              processed := s.processed ++ [.disconnected playerId] }
          match s.playerConns.lookup playerId with
          | none => some s
          | some conn => some { s.abort conn with playerConns := s.playerConns.erase playerId }
      | _, _ => none
  | .recvClientMessage created =>
      match s.phase, s.clientMessages with
      | .select, .allocateEndpoint _ :: clientMessages =>
          let s := { s with clientMessages := clientMessages }
          match setProxyEndpoint s created with
          | (s, .ok endpoint) => some { s with phase := .setAllocatedEndpoint endpoint }
          | (s, .err _) => some s
          | (s, .panic) => some { s with phase := .panicked }
      | _, _ => none
  | .setAllocatedEndpoint =>
      match s.phase with
      | .setAllocatedEndpoint endpoint =>
          match setAllocatedEndpoint config s endpoint with
          | (s, .ok message) => some { s with phase := .sendAllocation message }
          | (s, _) => some { s with phase := .select }
      | _ => none
  | .sendAllocation =>
      match s.phase with
      | .sendAllocation message =>
          if s.messageTaskEnded then some { s with phase := .select }
          else some { s.send message with phase := .select }
      | _ => none
  | .acceptStream kind =>
      match s.phase with
      | .select => some { s with phase := .readHeader kind }
      | _ => none
  | .headerRead header =>
      match s.phase with
      | .readHeader kind =>
          match handleHeader s kind header with
          | .ok (some (playerId, conn)) => some { s with phase := .openStream kind playerId conn }
          | _ => some { s with phase := .select }
      | _ => none
  | .headerFails =>
      match s.phase with
      | .readHeader _ => some { s with phase := .select }
      | _ => none
  | .streamOpened =>
      match s.phase with
      | .openStream kind playerId conn =>
          some { s with phase := .select, opened := s.opened ++ [(kind, playerId, conn)] }
      | _ => none
  | .openFails =>
      match s.phase with
      | .openStream _ _ _ => some { s with phase := .select }
      | _ => none
  | .datagram data accepted =>
      match s.phase with
      | .select =>
          let s := { s with fromServer := s.fromServer ++ [data] }
          match handleDatagram s data with
          | .ok out => some (if accepted then { s with toPlayer := s.toPlayer ++ [out] } else s)
          | .err _ => some s
          | .panic => some { s with phase := .panicked }
      | _ => none
  | .seesClosed =>
      match s.phase with
      | .select => if s.closed then some { s with phase := .sendStopped } else none
      | _ => none
  | .sendStopped =>
      match s.phase with
      | .sendStopped => some { s with phase := .stopped, stoppedSent := true }
      | _ => none
  | .playerDatagram conn data accepted =>
      match s.playerTasks conn with
      | some ⟨playerId, true⟩ =>
          let s := { s with fromPlayer := s.fromPlayer ++ [(playerId, conn, data)] }
          some (if accepted then
            { s with toServer := s.toServer ++ [playerHandleDatagram playerId data] } else s)
      | _ => none
  | .playerDisconnects conn =>
      match s.playerTasks conn with
      | some ⟨playerId, true⟩ =>
          some { s.setTask conn ⟨playerId, false⟩ with
            playerEvents := s.playerEvents ++ [.disconnected playerId] }
      | _ => none
  | .playerSeesClosed conn =>
      match s.playerTasks conn with
      | some ⟨playerId, true⟩ => if s.closed then some (s.setTask conn ⟨playerId, false⟩) else none
      | _ => none

/-- The proxy of one allocation, from the end of the start-up handshake on. -/
def system (config : ProxyConfig) : System State Action where
  init := {}
  step := step config

/-! ## What one step can do -/

/-- The steps of the system, each with all that it needs and all that it does. -/
inductive Step (config : ProxyConfig) (s : State) : Action → State → Prop where
  | close : Step config s .close { s with closed := true }
  | clientMessage {message : ClientMessage} (he : s.messageTaskEnded = false) :
      Step config s (.clientMessage message)
        { s with clientMessages := s.clientMessages ++ [message] }
  | writeMessage {message : ServerMessage} {rest : List ServerMessage}
      (hm : s.serverMessages = message :: rest) (he : s.messageTaskEnded = false)
      (hc : s.controlFailed = false) :
      Step config s .writeMessage
        { s with serverMessages := rest, written := s.written ++ [message] }
  | loseMessage {message : ServerMessage} {rest : List ServerMessage}
      (hm : s.serverMessages = message :: rest) (he : s.messageTaskEnded = false)
      (hc : s.controlFailed = true) :
      Step config s .writeMessage { s with serverMessages := rest }
  | controlFails : Step config s .controlFails { s with controlFailed := true }
  | messageTaskEnds (hc : s.closed = true) :
      Step config s .messageTaskEnds { s with messageTaskEnded := true }
  | requestAsset {key : Str} (he : s.messageTaskEnded = false) :
      Step config s (.requestAsset key) (s.send (.requestAsset key))
  | acceptConnection (hp : s.phase = .select) (he : s.proxyEndpoint.isSome = true) :
      Step config s .acceptConnection
        { s with phase := .handshake s.accepted, accepted := s.accepted + 1 }
  | handshakeFails {conn : ConnId} (hp : s.phase = .handshake conn) :
      Step config s .handshakeFails { s with phase := .select }
  | handshakeDone {conn : ConnId} {playerId : Str} (hp : s.phase = .handshake conn)
      (hfresh : .playerConnected playerId ∉ s.sent) (he : s.messageTaskEnded = false) :
      Step config s (.handshakeDone playerId)
        { s.send (.playerConnected playerId) with phase := .spawnPlayer conn playerId }
  | notAnnounced {conn : ConnId} {playerId : Str} (hp : s.phase = .handshake conn)
      (he : s.messageTaskEnded = true) :
      Step config s (.handshakeDone playerId) { s with phase := .select }
  | spawnPlayer {conn : ConnId} {playerId : Str} (hp : s.phase = .spawnPlayer conn playerId) :
      Step config s .spawnPlayer
        { s.setTask conn ⟨playerId, true⟩ with phase := .insertPlayer conn playerId }
  | insertPlayer {conn : ConnId} {playerId : Str} (hp : s.phase = .insertPlayer conn playerId) :
      Step config s .insertPlayer
        { s with playerConns := s.playerConns.insert playerId conn, phase := .select }
  | recvPlayerEvent {playerId : Str} {rest : List PlayerEvent} {conn : ConnId}
      (hp : s.phase = .select) (he : s.playerEvents = .disconnected playerId :: rest)
      (hl : s.playerConns.lookup playerId = some conn) :
      Step config s .recvPlayerEvent
        { s.abort conn with
          playerConns := s.playerConns.erase playerId
          playerEvents := rest
          processed := s.processed ++ [.disconnected playerId] }
  | recvUnknownEvent {playerId : Str} {rest : List PlayerEvent}
      (hp : s.phase = .select) (he : s.playerEvents = .disconnected playerId :: rest)
      (hl : s.playerConns.lookup playerId = none) :
      Step config s .recvPlayerEvent
        { s with playerEvents := rest, processed := s.processed ++ [.disconnected playerId] }
  | bound {endpoint : Endpoint} {message : ClientMessage} {rest : List ClientMessage}
      (hp : s.phase = .select) (hm : s.clientMessages = message :: rest)
      (hnone : s.proxyEndpoint = none) :
      Step config s (.recvClientMessage (.ok endpoint))
        { s with
          clientMessages := rest
          proxyEndpoint := some endpoint
          phase := .setAllocatedEndpoint endpoint }
  | notBound {created : Outcome Endpoint} {message : ClientMessage} {rest : List ClientMessage}
      (hp : s.phase = .select) (hm : s.clientMessages = message :: rest)
      (hfails : s.proxyEndpoint.isSome = true ∨ ∃ e, created = .err e) :
      Step config s (.recvClientMessage created) { s with clientMessages := rest }
  | bindPanics {message : ClientMessage} {rest : List ClientMessage}
      (hp : s.phase = .select) (hm : s.clientMessages = message :: rest)
      (hnone : s.proxyEndpoint = none) :
      Step config s (.recvClientMessage .panic)
        { s with clientMessages := rest, phase := .panicked }
  | named {endpoint : Endpoint} {localAddr : SocketAddr}
      (hp : s.phase = .setAllocatedEndpoint endpoint)
      (haddr : endpoint.localAddr = some localAddr) :
      Step config s .setAllocatedEndpoint
        { s with
          allocatedEndpoint := config.allocatedEndpoint localAddr
          phase := .sendAllocation (config.allocation localAddr) }
  | notNamed {endpoint : Endpoint} (hp : s.phase = .setAllocatedEndpoint endpoint)
      (haddr : endpoint.localAddr = none) :
      Step config s .setAllocatedEndpoint { s with phase := .select }
  | sendAllocation {message : ServerMessage} (hp : s.phase = .sendAllocation message)
      (he : s.messageTaskEnded = false) :
      Step config s .sendAllocation { s.send message with phase := .select }
  | allocationNotSent {message : ServerMessage} (hp : s.phase = .sendAllocation message)
      (he : s.messageTaskEnded = true) :
      Step config s .sendAllocation { s with phase := .select }
  | acceptStream {kind : StreamKind} (hp : s.phase = .select) :
      Step config s (.acceptStream kind) { s with phase := .readHeader kind }
  | headerRead {kind : StreamKind} {header : ClientStreamHeader} {playerId : Str} {conn : ConnId}
      (hp : s.phase = .readHeader kind)
      (h : handleHeader s kind header = .ok (some (playerId, conn))) :
      Step config s (.headerRead header) { s with phase := .openStream kind playerId conn }
  | headerRefused {kind : StreamKind} {header : ClientStreamHeader}
      (hp : s.phase = .readHeader kind) :
      Step config s (.headerRead header) { s with phase := .select }
  | headerFails {kind : StreamKind} (hp : s.phase = .readHeader kind) :
      Step config s .headerFails { s with phase := .select }
  | streamOpened {kind : StreamKind} {playerId : Str} {conn : ConnId}
      (hp : s.phase = .openStream kind playerId conn) :
      Step config s .streamOpened
        { s with phase := .select, opened := s.opened ++ [(kind, playerId, conn)] }
  | openFails {kind : StreamKind} {playerId : Str} {conn : ConnId}
      (hp : s.phase = .openStream kind playerId conn) :
      Step config s .openFails { s with phase := .select }
  | datagram {data : Bytes} {out : Str × ConnId × Bytes} (hp : s.phase = .select)
      (h : handleDatagram s data = .ok out) :
      Step config s (.datagram data true)
        { s with fromServer := s.fromServer ++ [data], toPlayer := s.toPlayer ++ [out] }
  | datagramLost {data : Bytes} {accepted : Bool} (hp : s.phase = .select) :
      Step config s (.datagram data accepted) { s with fromServer := s.fromServer ++ [data] }
  | datagramPanics {data : Bytes} {accepted : Bool} (hp : s.phase = .select)
      (h : handleDatagram s data = .panic) :
      Step config s (.datagram data accepted)
        { s with fromServer := s.fromServer ++ [data], phase := .panicked }
  | seesClosed (hp : s.phase = .select) (hc : s.closed = true) :
      Step config s .seesClosed { s with phase := .sendStopped }
  | sendStopped (hp : s.phase = .sendStopped) :
      Step config s .sendStopped { s with phase := .stopped, stoppedSent := true }
  | playerDatagram {conn : ConnId} {data : Bytes} {playerId : Str}
      (ht : s.playerTasks conn = some ⟨playerId, true⟩) :
      Step config s (.playerDatagram conn data true)
        { s with
          fromPlayer := s.fromPlayer ++ [(playerId, conn, data)]
          toServer := s.toServer ++ [playerHandleDatagram playerId data] }
  | playerDatagramLost {conn : ConnId} {data : Bytes} {playerId : Str}
      (ht : s.playerTasks conn = some ⟨playerId, true⟩) :
      Step config s (.playerDatagram conn data false)
        { s with fromPlayer := s.fromPlayer ++ [(playerId, conn, data)] }
  | playerDisconnects {conn : ConnId} {playerId : Str}
      (ht : s.playerTasks conn = some ⟨playerId, true⟩) :
      Step config s (.playerDisconnects conn)
        { s.setTask conn ⟨playerId, false⟩ with
          playerEvents := s.playerEvents ++ [.disconnected playerId] }
  | playerSeesClosed {conn : ConnId} {playerId : Str}
      (ht : s.playerTasks conn = some ⟨playerId, true⟩) (hc : s.closed = true) :
      Step config s (.playerSeesClosed conn) (s.setTask conn ⟨playerId, false⟩)

variable {config : ProxyConfig} {s t : State} {a : Action}

theorem step_cases (h : (system config).step s a = some t) : Step config s a t := by
  change step config s a = some t at h
  cases a with
  | close =>
      cases Option.some.inj h
      exact .close
  | clientMessage message =>
      rw [step] at h
      split at h
      · exact nomatch h
      · rename_i he
        cases Option.some.inj h
        exact .clientMessage (Bool.of_not_eq_true he)
  | writeMessage =>
      rw [step] at h
      split at h
      · exact nomatch h
      · rename_i message rest hm
        split at h
        · exact nomatch h
        · rename_i he
          split at h
          · rename_i hc
            cases Option.some.inj h
            exact .loseMessage hm (Bool.of_not_eq_true he) hc
          · rename_i hc
            cases Option.some.inj h
            exact .writeMessage hm (Bool.of_not_eq_true he) (Bool.of_not_eq_true hc)
  | controlFails =>
      cases Option.some.inj h
      exact .controlFails
  | messageTaskEnds =>
      rw [step] at h
      split at h
      · rename_i hc
        cases Option.some.inj h
        exact .messageTaskEnds hc
      · exact nomatch h
  | requestAsset key =>
      rw [step] at h
      split at h
      · exact nomatch h
      · rename_i he
        cases Option.some.inj h
        exact .requestAsset (Bool.of_not_eq_true he)
  | acceptConnection =>
      rw [step] at h
      split at h
      · rename_i hp
        split at h
        · rename_i he
          cases Option.some.inj h
          exact .acceptConnection hp he
        · exact nomatch h
      · exact nomatch h
  | handshakeFails =>
      rw [step] at h
      split at h
      · rename_i hp
        cases Option.some.inj h
        exact .handshakeFails hp
      · exact nomatch h
  | handshakeDone playerId =>
      rw [step] at h
      split at h
      · rename_i hp
        split at h
        · exact nomatch h
        · rename_i hfresh
          split at h
          · rename_i he
            cases Option.some.inj h
            exact .notAnnounced hp he
          · rename_i he
            cases Option.some.inj h
            exact .handshakeDone hp hfresh (Bool.of_not_eq_true he)
      · exact nomatch h
  | spawnPlayer =>
      rw [step] at h
      split at h
      · rename_i hp
        cases Option.some.inj h
        exact .spawnPlayer hp
      · exact nomatch h
  | insertPlayer =>
      rw [step] at h
      split at h
      · rename_i hp
        cases Option.some.inj h
        exact .insertPlayer hp
      · exact nomatch h
  | recvPlayerEvent =>
      rw [step] at h
      split at h
      · rename_i playerId rest hp he
        dsimp only at h
        split at h
        · rename_i hl
          cases Option.some.inj h
          exact .recvUnknownEvent hp he hl
        · rename_i conn hl
          cases Option.some.inj h
          exact .recvPlayerEvent hp he hl
      · exact nomatch h
  | recvClientMessage created =>
      rw [step] at h
      split at h
      · rename_i rest hp hm
        dsimp only at h
        by_cases he : s.proxyEndpoint.isSome = true
        · rw [setProxyEndpoint_allocated (s := { s with clientMessages := rest }) he] at h
          cases Option.some.inj h
          exact .notBound hp hm (.inl he)
        · have hnone := Option.not_isSome_iff_eq_none.mp he
          cases created with
          | ok endpoint =>
              rw [setProxyEndpoint_bound (s := { s with clientMessages := rest }) hnone] at h
              cases Option.some.inj h
              exact .bound hp hm hnone
          | err e =>
              rw [setProxyEndpoint_unbound (s := { s with clientMessages := rest }) hnone] at h
              cases Option.some.inj h
              exact .notBound hp hm (.inr ⟨e, rfl⟩)
          | panic =>
              rw [setProxyEndpoint_panic (s := { s with clientMessages := rest }) hnone] at h
              cases Option.some.inj h
              exact .bindPanics hp hm hnone
      · exact nomatch h
  | setAllocatedEndpoint =>
      rw [step] at h
      split at h
      · rename_i endpoint hp
        cases haddr : endpoint.localAddr with
        | none =>
            rw [setAllocatedEndpoint, haddr] at h
            cases Option.some.inj h
            exact .notNamed hp haddr
        | some localAddr =>
            rw [setAllocatedEndpoint, haddr] at h
            cases Option.some.inj h
            exact .named hp haddr
      · exact nomatch h
  | sendAllocation =>
      rw [step] at h
      split at h
      · rename_i hp
        split at h
        · rename_i he
          cases Option.some.inj h
          exact .allocationNotSent hp he
        · rename_i he
          cases Option.some.inj h
          exact .sendAllocation hp (Bool.of_not_eq_true he)
      · exact nomatch h
  | acceptStream kind =>
      rw [step] at h
      split at h
      · rename_i hp
        cases Option.some.inj h
        exact .acceptStream hp
      · exact nomatch h
  | headerRead header =>
      rw [step] at h
      split at h
      · rename_i kind hp
        split at h
        · rename_i hh
          cases Option.some.inj h
          exact .headerRead hp hh
        · cases Option.some.inj h
          exact .headerRefused hp
      · exact nomatch h
  | headerFails =>
      rw [step] at h
      split at h
      · rename_i hp
        cases Option.some.inj h
        exact .headerFails hp
      · exact nomatch h
  | streamOpened =>
      rw [step] at h
      split at h
      · rename_i hp
        cases Option.some.inj h
        exact .streamOpened hp
      · exact nomatch h
  | openFails =>
      rw [step] at h
      split at h
      · rename_i hp
        cases Option.some.inj h
        exact .openFails hp
      · exact nomatch h
  | datagram data accepted =>
      rw [step] at h
      split at h
      · rename_i hp
        dsimp only at h
        split at h
        · rename_i hd
          cases Option.some.inj h
          cases accepted with
          | true => exact .datagram hp hd
          | false => exact .datagramLost hp
        · cases Option.some.inj h
          exact .datagramLost hp
        · rename_i hd
          cases Option.some.inj h
          exact .datagramPanics hp hd
      · exact nomatch h
  | seesClosed =>
      rw [step] at h
      split at h
      · rename_i hp
        split at h
        · rename_i hc
          cases Option.some.inj h
          exact .seesClosed hp hc
        · exact nomatch h
      · exact nomatch h
  | sendStopped =>
      rw [step] at h
      split at h
      · rename_i hp
        cases Option.some.inj h
        exact .sendStopped hp
      · exact nomatch h
  | playerDatagram conn data accepted =>
      rw [step] at h
      split at h
      · rename_i ht
        cases Option.some.inj h
        cases accepted with
        | true => exact .playerDatagram ht
        | false => exact .playerDatagramLost ht
      · exact nomatch h
  | playerDisconnects conn =>
      rw [step] at h
      split at h
      · rename_i ht
        cases Option.some.inj h
        exact .playerDisconnects ht
      · exact nomatch h
  | playerSeesClosed conn =>
      rw [step] at h
      split at h
      · rename_i ht
        split at h
        · rename_i hc
          cases Option.some.inj h
          exact .playerSeesClosed ht hc
        · exact nomatch h
      · exact nomatch h

/-! ## What the handlers do -/

/-- An endpoint that is bound and knows its address is handed out. -/
theorem handleAllocateMessage_bound (config : ProxyConfig) {endpoint : Endpoint}
    {localAddr : SocketAddr} (hnone : s.proxyEndpoint = none)
    (haddr : endpoint.localAddr = some localAddr) :
    handleAllocateMessage config s (.ok endpoint) =
      ({ s with
          proxyEndpoint := some endpoint
          allocatedEndpoint := config.allocatedEndpoint localAddr },
        .ok (config.allocation localAddr)) := by
  rw [handleAllocateMessage, setProxyEndpoint_bound hnone]
  show setAllocatedEndpoint config _ endpoint = _
  rw [setAllocatedEndpoint, haddr]

/-- Without an address it is kept, and the request fails. -/
theorem handleAllocateMessage_lost {endpoint : Endpoint} (hnone : s.proxyEndpoint = none)
    (haddr : endpoint.localAddr = none) :
    handleAllocateMessage config s (.ok endpoint) =
      ({ s with proxyEndpoint := some endpoint }, .err (.other .failedToGetLocalAddress)) := by
  rw [handleAllocateMessage, setProxyEndpoint_bound hnone]
  show setAllocatedEndpoint config _ endpoint = _
  rw [setAllocatedEndpoint, haddr]

/-- No endpoint is bound. -/
theorem handleAllocateMessage_unbound {e : Error} (hnone : s.proxyEndpoint = none) :
    handleAllocateMessage config s (.err e) =
      (s, .err (.other .failedToCreateProxyEndpoint)) := by
  rw [handleAllocateMessage, setProxyEndpoint_unbound hnone]

theorem handleAllocateMessage_unbound_panic (hnone : s.proxyEndpoint = none) :
    handleAllocateMessage config s .panic = (s, .panic) := by
  rw [handleAllocateMessage, setProxyEndpoint_panic hnone]

theorem handleAllocateMessage_allocated {created : Outcome Endpoint}
    (hsome : s.proxyEndpoint.isSome = true) :
    handleAllocateMessage config s created = (s, .err (.other .endpointAlreadyAllocated)) := by
  rw [handleAllocateMessage, setProxyEndpoint_allocated hsome]

/-- Where it fails it changes nothing, unless the endpoint that was bound has no
    local address. -/
theorem handleAllocateMessage_err {s' : State} {created : Outcome Endpoint} {e : Error}
    (h : handleAllocateMessage config s created = (s', .err e)) :
    s' = s ∨ ∃ endpoint, s.proxyEndpoint = none ∧ created = .ok endpoint ∧
      endpoint.localAddr = none ∧ s' = { s with proxyEndpoint := some endpoint } := by
  by_cases hsome : s.proxyEndpoint.isSome = true
  · rw [handleAllocateMessage_allocated hsome] at h
    exact .inl (Prod.mk.inj h).1.symm
  · have hnone := Option.not_isSome_iff_eq_none.mp hsome
    cases created with
    | panic => cases (handleAllocateMessage_unbound_panic hnone).symm.trans h
    | err e' =>
        rw [handleAllocateMessage_unbound hnone] at h
        exact .inl (Prod.mk.inj h).1.symm
    | ok endpoint =>
        cases haddr : endpoint.localAddr with
        | some localAddr => cases (handleAllocateMessage_bound config hnone haddr).symm.trans h
        | none =>
            rw [handleAllocateMessage_lost hnone haddr] at h
            exact .inr ⟨endpoint, hnone, rfl, haddr, (Prod.mk.inj h).1.symm⟩

/-- What the loop is about to send is an `Allocation`. -/
def State.SendsAllocation (s : State) : Prop :=
  ∀ message, s.phase = .sendAllocation message →
    ∃ id allocatedEndpoint assetsRoot externalEndpoint,
      message = .allocation id allocatedEndpoint assetsRoot externalEndpoint

theorem sendsAllocation_step (hs : s.SendsAllocation)
    (h : (system config).step s a = some t) : t.SendsAllocation := by
  cases step_cases h with
  | close | clientMessage _ | writeMessage _ _ _ | loseMessage _ _ _ | controlFails
  | messageTaskEnds _ | requestAsset _ | recvPlayerEvent _ _ _ | recvUnknownEvent _ _ _
  | notBound _ _ _ | datagram _ _ | datagramLost _ | playerDatagram _ | playerDatagramLost _
  | playerDisconnects _ | playerSeesClosed _ _ => exact hs
  | acceptConnection _ _ | handshakeFails _ | handshakeDone _ _ _ | notAnnounced _ _
  | spawnPlayer _ | insertPlayer _ | bound _ _ _ | bindPanics _ _ _ | notNamed _ _
  | sendAllocation _ _ | allocationNotSent _ _ | acceptStream _ | headerRead _ _
  | headerRefused _ | headerFails _ | streamOpened _ | openFails _ | datagramPanics _ _
  | seesClosed _ _ | sendStopped _ =>
      intro message hm
      cases hm
  | named _ _ =>
      intro message hm
      cases hm
      exact ⟨_, _, _, _, rfl⟩

theorem playerConnection_eq_ok_iff {playerId : Str} {conn : ConnId} :
    playerConnection s playerId = .ok conn ↔ s.playerConns.lookup playerId = some conn := by
  unfold playerConnection getPlayerConnection
  cases s.playerConns.lookup playerId with
  | none => exact ⟨nofun, nofun⟩
  | some conn' =>
      constructor
      · intro h
        rw [Outcome.ok.inj h]
      · intro h
        rw [Option.some.inj h]
        rfl

/-- Only a header that names a registered player leads to a player's connection. -/
theorem handleHeader_eq_ok_iff {kind : StreamKind} {header : ClientStreamHeader} {playerId : Str}
    {conn : ConnId} :
    handleHeader s kind header = .ok (some (playerId, conn)) ↔
      header = .openPlayerStream playerId ∧ s.playerConns.lookup playerId = some conn := by
  rw [← playerConnection_eq_ok_iff]
  cases header with
  | openPlayerStream playerId' =>
      show (playerConnection s playerId' >>= fun conn => pure (some (playerId', conn))) = _ ↔ _
      rw [Outcome.bind_eq_ok_iff]
      constructor
      · rintro ⟨conn', hc, hpair⟩
        cases Outcome.ok.inj hpair
        exact ⟨rfl, hc⟩
      · rintro ⟨hheader, hc⟩
        cases hheader
        exact ⟨conn, hc, rfl⟩
  | storeAsset key length compression =>
      constructor
      · intro h
        cases kind with
        | uni =>
            obtain ⟨_, -, hpair⟩ := Outcome.bind_eq_ok_iff.mp h
            cases Outcome.ok.inj hpair
        | bi => cases h
      · rintro ⟨hheader, -⟩
        cases hheader

/-- A datagram goes to the player its header names. -/
theorem handleDatagram_eq_ok_iff {datagram data : Bytes} {playerId : Str} {conn : ConnId} :
    handleDatagram s datagram = .ok (playerId, conn, data) ↔
      dropPrefix (deserialize DatagramInfo.codec) datagram = .ok (⟨playerId⟩, data) ∧
        s.playerConns.lookup playerId = some conn := by
  unfold handleDatagram
  rw [← playerConnection_eq_ok_iff, Outcome.bind_eq_ok_iff]
  constructor
  · rintro ⟨⟨⟨playerId'⟩, data'⟩, hdrop, h⟩
    obtain ⟨conn', hc, hout⟩ := Outcome.bind_eq_ok_iff.mp h
    cases Outcome.ok.inj hout
    exact ⟨hdrop, hc⟩
  · rintro ⟨hdrop, hc⟩
    refine ⟨_, hdrop, ?_⟩
    show (playerConnection s playerId >>= fun conn => _) = _
    rw [hc]
    rfl

end AmbientProxy.ProxyServer
