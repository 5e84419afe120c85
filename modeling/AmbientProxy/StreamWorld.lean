import AmbientProxy.AssetIntegrity
import AmbientProxy.World

/-! # The streams between both machines — who opens them, and who accepts them

    `World` leaves free which streams each side accepts.  Here they are the streams that
    were opened: by players, towards the game server, and by the game, towards players.

        player ──▶ PlayerConnection::start: handle_uni, handle_bi ── header ──▶ Client::start
        game ── open_uni, open_bi: header ──▶ ProxyServer::start: handle_uni, handle_bi ──▶ player

    A stream is named by a number.  Its content is all that is ever written on it; what a
    reader sees of it is any `RecvStream` that `Arrives`.  Of a bidirectional stream of a
    player this is the half from the player; the other half is in `Streams`.  The uni
    streams of uploads are those of `World`: the loop accepts them and reads a `StoreAsset`
    header. -/

namespace AmbientProxy.StreamWorld

open Transition
open ProxyServer (ConnId StreamKind)

abbrev StreamId := Nat

/-- A stream that a player opened. -/
structure PlayerStream where
  conn : ConnId
  kind : StreamKind
  content : SendStream
  /-- The player's task accepted it and opened a stream to the game server: the id in its
      header, and what the copying task reads. -/
  handled : Option (Str × RecvStream) := none
  /-- `Client::start` accepted that stream: what it reads of it. -/
  accepted : Option RecvStream := none

/-- What the copying tasks of `handle_uni` or `handle_bi` write. -/
structure Copy where
  conn : ConnId
  /-- On the stream to the player. -/
  there : SendStream
  /-- On the return half of a bidirectional stream: what comes in from the player, and what
      goes to the game. -/
  back : Option (RecvStream × SendStream) := none

/-- The handlers open a stream on the player's connection, and copy what is left of the
    game's stream. -/
def copies (conn : ConnId) (rest playerRecvStream : RecvStream) : StreamKind → Copy
  | .uni => { conn := conn, there := spawnStreamCopy rest {} }
  | .bi =>
      let (there, back) := ProxyServer.copyBi {} rest {} playerRecvStream
      { conn := conn, there := there, back := some (playerRecvStream, back) }

/-- A stream that the game opened on a `ProxiedConnection`. -/
structure ServerStream where
  playerId : Str
  kind : StreamKind
  /-- What the game writes behind the header. -/
  payload : SendStream
  /-- `ProxyServer::start` accepted it. -/
  accepted : Bool := false
  /-- The header was read: what is left behind it. -/
  rest : Option RecvStream := none
  /-- `handle_uni` or `handle_bi` opened a stream for it. -/
  copied : Option Copy := none
  /-- What the player reads of that. -/
  read : Option RecvStream := none

/-- The header, and the payload. -/
def ServerStream.content (stream : ServerStream) : SendStream :=
  ⟨((ProxiedConnection.openStream stream.playerId).writeAll stream.payload.written).written,
    stream.payload.finished⟩

structure State where
  world : World.State := {}
  playerStreams : StreamId → Option PlayerStream := fun _ => none
  /-- The stream whose header `Client::start` reads. -/
  clientHand : Option StreamId := none
  serverStreams : StreamId → Option ServerStream := fun _ => none
  /-- The stream that `ProxyServer::start` handles. -/
  proxyHand : Option StreamId := none

namespace State

def setPlayerStream (s : State) (i : StreamId) (stream : PlayerStream) : State :=
  { s with playerStreams := Function.update s.playerStreams i (some stream) }

def setServerStream (s : State) (j : StreamId) (stream : ServerStream) : State :=
  { s with serverStreams := Function.update s.serverStreams j (some stream) }

end State

/-- What `accept_uni` and `accept_bi` give to `Client::start`. -/
def accepts (recvStream : RecvStream) : StreamKind → Client.Action
  | .uni => .uniStream recvStream
  | .bi => .biStream {} recvStream

inductive Action where
  /-- A step that has to do with no stream of a player or of the game. -/
  | world (a : World.Action)
  -- streams that players open
  | playerOpens (i : StreamId) (conn : ConnId) (kind : StreamKind) (content : SendStream)
  | playerTaskHandles (i : StreamId) (recvStream : RecvStream)
  | clientAccepts (i : StreamId) (recvStream : RecvStream)
  | clientReads
  -- streams that the game opens
  | gameOpens (j : StreamId) (playerId : Str) (kind : StreamKind) (payload : SendStream)
  | proxyAccepts (j : StreamId)
  | proxyReads (recvStream : RecvStream)
  | proxyReadFails
  | proxyOpens (playerRecvStream : RecvStream)
  | proxyOpenFails
  | playerReads (j : StreamId) (recvStream : RecvStream)

/-- The steps of `World` that the other actions do not make. -/
def apart (s : State) : World.Action → Bool
  | .client (.uniStream _) | .client (.biStream _ _) | .client .headerRead => false
  | .proxy (.acceptStream kind) => kind = .uni
  | .proxy (.headerRead (.openPlayerStream _)) | .proxy .streamOpened | .proxy .openFails => false
  | .proxy (.headerRead (.storeAsset _ _ _)) | .proxy .headerFails => s.proxyHand.isNone
  | _ => true

/-- `ProxyServer::start` goes on with the stream where it found the player. -/
def opens (j : StreamId) : ProxyServer.Phase → Option StreamId
  | .openStream _ _ _ => some j
  | _ => none

/-- What each action does, where it is enabled. -/
def step (config : World.Config) (s : State) : Action → Option State
  | .world a =>
      if apart s a then
        ((World.system config).step s.world a).map fun world => { s with world := world }
      else none
  | .playerOpens i conn kind content =>
      match s.playerStreams i with
      | none => some (s.setPlayerStream i { conn := conn, kind := kind, content := content })
      | some _ => none
  | .playerTaskHandles i recvStream =>
      match s.playerStreams i with
      | none => none
      | some stream =>
          match stream.handled, s.world.proxy.playerTasks stream.conn with
          | none, some ⟨playerId, true⟩ =>
              if Arrives stream.content recvStream then
                some (s.setPlayerStream i { stream with handled := some (playerId, recvStream) })
              else none
          | _, _ => none
  | .clientAccepts i recvStream =>
      match s.playerStreams i with
      | none => none
      | some stream =>
          match stream.handled, stream.accepted with
          | some (playerId, handled), none =>
              -- `handle_bi` writes on its stream to the game server what `handle_uni` does
              if Arrives (PlayerConnection.handleUni playerId handled) recvStream then
                ((World.system config).step s.world (.client (accepts recvStream stream.kind))).map
                  fun world =>
                    { s.setPlayerStream i { stream with accepted := some recvStream } with
                      world := world
                      clientHand := some i }
              else none
          | _, _ => none
  | .clientReads =>
      ((World.system config).step s.world (.client .headerRead)).map fun world =>
        { s with world := world, clientHand := none }
  | .gameOpens j playerId kind payload =>
      match s.serverStreams j with
      | none =>
          some (s.setServerStream j { playerId := playerId, kind := kind, payload := payload })
      | some _ => none
  | .proxyAccepts j =>
      match s.serverStreams j with
      | none => none
      | some stream =>
          if stream.accepted then none
          else
            ((World.system config).step s.world (.proxy (.acceptStream stream.kind))).map
              fun world =>
                { s.setServerStream j { stream with accepted := true } with
                  world := world
                  proxyHand := some j }
  | .proxyReads recvStream =>
      match s.proxyHand with
      | none => none
      | some j =>
          match s.serverStreams j with
          | none => none
          | some stream =>
              match ProxyServer.readHeader recvStream with
              | .ok (header, rest) =>
                  if Arrives stream.content recvStream then
                    ((World.system config).step s.world (.proxy (.headerRead header))).map
                      fun world =>
                        { s.setServerStream j { stream with rest := some rest } with
                          world := world
                          proxyHand := opens j world.proxy.phase }
                  else none
              | .err _ | .panic => none
  | .proxyReadFails =>
      match s.proxyHand with
      | none => none
      | some _ =>
          ((World.system config).step s.world (.proxy .headerFails)).map fun world =>
            { s with world := world, proxyHand := none }
  | .proxyOpens playerRecvStream =>
      match s.proxyHand, s.world.proxy.phase with
      | some j, .openStream kind _ conn =>
          match s.serverStreams j with
          | none => none
          | some stream =>
              match stream.rest with
              | none => none
              | some rest =>
                  ((World.system config).step s.world (.proxy .streamOpened)).map fun world =>
                    { s.setServerStream j
                        { stream with copied := some (copies conn rest playerRecvStream kind) } with
                      world := world
                      proxyHand := none }
      | _, _ => none
  | .proxyOpenFails =>
      ((World.system config).step s.world (.proxy .openFails)).map fun world =>
        { s with world := world, proxyHand := none }
  | .playerReads j recvStream =>
      match s.serverStreams j with
      | none => none
      | some stream =>
          match stream.copied with
          | none => none
          | some copy =>
              if Arrives copy.there recvStream then
                some (s.setServerStream j { stream with read := some recvStream })
              else none

def system (config : World.Config) : System State Action where
  init := {}
  step := step config

/-! ## What one step can do -/

/-- The steps of the system. -/
inductive Step (config : World.Config) (s : State) : Action → State → Prop where
  | world {a : World.Action} {world : World.State} (ha : apart s a = true)
      (hw : (World.system config).step s.world a = some world) :
      Step config s (.world a) { s with world := world }
  | playerOpens {i : StreamId} {conn : ConnId} {kind : StreamKind} {content : SendStream}
      (hs : s.playerStreams i = none) :
      Step config s (.playerOpens i conn kind content)
        (s.setPlayerStream i { conn := conn, kind := kind, content := content })
  | playerTaskHandles {i : StreamId} {stream : PlayerStream} {playerId : Str}
      {recvStream : RecvStream} (hs : s.playerStreams i = some stream)
      (hh : stream.handled = none)
      (ht : s.world.proxy.playerTasks stream.conn = some ⟨playerId, true⟩)
      (hr : Arrives stream.content recvStream) :
      Step config s (.playerTaskHandles i recvStream)
        (s.setPlayerStream i { stream with handled := some (playerId, recvStream) })
  | clientAccepts {i : StreamId} {stream : PlayerStream} {playerId : Str}
      {handled recvStream : RecvStream} {world : World.State}
      (hs : s.playerStreams i = some stream) (hh : stream.handled = some (playerId, handled))
      (ha : stream.accepted = none)
      (hr : Arrives (PlayerConnection.handleUni playerId handled) recvStream)
      (hw : (World.system config).step s.world (.client (accepts recvStream stream.kind))
        = some world) :
      Step config s (.clientAccepts i recvStream)
        { s.setPlayerStream i { stream with accepted := some recvStream } with
          world := world
          clientHand := some i }
  | clientReads {world : World.State}
      (hw : (World.system config).step s.world (.client .headerRead) = some world) :
      Step config s .clientReads { s with world := world, clientHand := none }
  | gameOpens {j : StreamId} {playerId : Str} {kind : StreamKind} {payload : SendStream}
      (hs : s.serverStreams j = none) :
      Step config s (.gameOpens j playerId kind payload)
        (s.setServerStream j { playerId := playerId, kind := kind, payload := payload })
  | proxyAccepts {j : StreamId} {stream : ServerStream} {world : World.State}
      (hs : s.serverStreams j = some stream) (ha : stream.accepted = false)
      (hw : (World.system config).step s.world (.proxy (.acceptStream stream.kind))
        = some world) :
      Step config s (.proxyAccepts j)
        { s.setServerStream j { stream with accepted := true } with
          world := world
          proxyHand := some j }
  | proxyReads {j : StreamId} {stream : ServerStream} {recvStream rest : RecvStream}
      {header : ClientStreamHeader} {world : World.State} (hj : s.proxyHand = some j)
      (hs : s.serverStreams j = some stream) (hr : Arrives stream.content recvStream)
      (hread : ProxyServer.readHeader recvStream = .ok (header, rest))
      (hw : (World.system config).step s.world (.proxy (.headerRead header)) = some world) :
      Step config s (.proxyReads recvStream)
        { s.setServerStream j { stream with rest := some rest } with
          world := world
          proxyHand := opens j world.proxy.phase }
  | proxyReadFails {world : World.State}
      (hw : (World.system config).step s.world (.proxy .headerFails) = some world) :
      Step config s .proxyReadFails { s with world := world, proxyHand := none }
  | proxyOpens {j : StreamId} {stream : ServerStream} {kind : StreamKind} {playerId : Str}
      {conn : ConnId} {rest playerRecvStream : RecvStream} {world : World.State}
      (hj : s.proxyHand = some j) (hp : s.world.proxy.phase = .openStream kind playerId conn)
      (hs : s.serverStreams j = some stream) (hrest : stream.rest = some rest)
      (hw : (World.system config).step s.world (.proxy .streamOpened) = some world) :
      Step config s (.proxyOpens playerRecvStream)
        { s.setServerStream j
            { stream with copied := some (copies conn rest playerRecvStream kind) } with
          world := world
          proxyHand := none }
  | proxyOpenFails {world : World.State}
      (hw : (World.system config).step s.world (.proxy .openFails) = some world) :
      Step config s .proxyOpenFails { s with world := world, proxyHand := none }
  | playerReads {j : StreamId} {stream : ServerStream} {copy : Copy} {recvStream : RecvStream}
      (hs : s.serverStreams j = some stream) (hc : stream.copied = some copy)
      (hr : Arrives copy.there recvStream) :
      Step config s (.playerReads j recvStream)
        (s.setServerStream j { stream with read := some recvStream })

variable {config : World.Config} {s t : State} {a : Action}

theorem step_cases (h : (system config).step s a = some t) : Step config s a t := by
  change step config s a = some t at h
  cases a with
  | world a =>
      rw [step] at h
      split at h
      · rename_i ha
        obtain ⟨world, hw, rfl⟩ := Option.map_eq_some_iff.mp h
        exact .world ha hw
      · cases h
  | playerOpens i conn kind content =>
      rw [step] at h
      split at h
      · rename_i hs
        cases h
        exact .playerOpens hs
      · cases h
  | playerTaskHandles i recvStream =>
      rw [step] at h
      split at h
      · cases h
      · rename_i stream hs
        split at h
        · rename_i playerId hh ht
          split at h
          · rename_i hr
            cases h
            exact .playerTaskHandles hs hh ht hr
          · cases h
        · cases h
  | clientAccepts i recvStream =>
      rw [step] at h
      split at h
      · cases h
      · rename_i stream hs
        split at h
        · rename_i playerId handled hh ha
          split at h
          · rename_i hr
            obtain ⟨world, hw, rfl⟩ := Option.map_eq_some_iff.mp h
            exact .clientAccepts hs hh ha hr hw
          · cases h
        · cases h
  | clientReads =>
      obtain ⟨world, hw, rfl⟩ := Option.map_eq_some_iff.mp h
      exact .clientReads hw
  | gameOpens j playerId kind payload =>
      rw [step] at h
      split at h
      · rename_i hs
        cases h
        exact .gameOpens hs
      · cases h
  | proxyAccepts j =>
      rw [step] at h
      split at h
      · cases h
      · rename_i stream hs
        split at h
        · cases h
        · rename_i ha
          obtain ⟨world, hw, rfl⟩ := Option.map_eq_some_iff.mp h
          exact .proxyAccepts hs (Bool.of_not_eq_true ha) hw
  | proxyReads recvStream =>
      rw [step] at h
      split at h
      · cases h
      · rename_i j hj
        split at h
        · cases h
        · rename_i stream hs
          split at h
          · rename_i header rest hread
            split at h
            · rename_i hr
              obtain ⟨world, hw, rfl⟩ := Option.map_eq_some_iff.mp h
              exact .proxyReads hj hs hr hread hw
            · cases h
          · cases h
          · cases h
  | proxyReadFails =>
      rw [step] at h
      split at h
      · cases h
      · obtain ⟨world, hw, rfl⟩ := Option.map_eq_some_iff.mp h
        exact .proxyReadFails hw
  | proxyOpens playerRecvStream =>
      rw [step] at h
      split at h
      · rename_i j kind playerId conn hj hp
        split at h
        · cases h
        · rename_i stream hs
          split at h
          · cases h
          · rename_i rest hrest
            obtain ⟨world, hw, rfl⟩ := Option.map_eq_some_iff.mp h
            exact .proxyOpens hj hp hs hrest hw
      · cases h
  | proxyOpenFails =>
      obtain ⟨world, hw, rfl⟩ := Option.map_eq_some_iff.mp h
      exact .proxyOpenFails hw
  | playerReads j recvStream =>
      rw [step] at h
      split at h
      · cases h
      · rename_i stream hs
        split at h
        · cases h
        · rename_i copy hc
          split at h
          · rename_i hr
            cases h
            exact .playerReads hs hc hr
          · cases h

/-- A step is one of both machines, or leaves them. -/
theorem step_world (h : (system config).step s a = some t) :
    t.world = s.world ∨ ∃ b, (World.system config).step s.world b = some t.world := by
  cases step_cases h with
  | playerOpens _ | playerTaskHandles _ _ _ _ | gameOpens _ | playerReads _ _ _ =>
      exact .inl rfl
  | world _ hw => exact .inr ⟨_, hw⟩
  | clientAccepts _ _ _ _ hw => exact .inr ⟨_, hw⟩
  | clientReads hw => exact .inr ⟨_, hw⟩
  | proxyAccepts _ _ hw => exact .inr ⟨_, hw⟩
  | proxyReads _ _ _ _ hw => exact .inr ⟨_, hw⟩
  | proxyReadFails hw => exact .inr ⟨_, hw⟩
  | proxyOpens _ _ _ _ hw => exact .inr ⟨_, hw⟩
  | proxyOpenFails hw => exact .inr ⟨_, hw⟩

/-- **A run with its streams is a run of both machines**: all that holds of these holds
    here. -/
theorem exec_world {acts : List Action} (h : (system config).exec s acts = some t) :
    ∃ bs, (World.system config).exec s.world bs = some t.world :=
  exec_component (f := State.world) step_world h

end AmbientProxy.StreamWorld
