import AmbientProxy.Lib.Enumeration
import AmbientProxy.PendingResources
import AmbientProxy.StreamWorld

/-! # Stream attribution — whose stream reaches whom

    Every stream makes two hops, with the player's id in front of it on the hop between the
    two machines; either hop may lose its end.  Over every run of both machines:

    * `streams_to_game` — the streams that `accept_uni` and `accept_bi` return for a player
      are streams that the player opened on its own connection, each once, and what is read
      of them is what the player wrote: no more than a prefix, and all of it where both
      hops end cleanly.  No stream that came in whole is missing;
    * `streams_to_players` — the streams that the proxy opens on a player's connection are
      those that the game opened for that player, each once, with all of its payload that
      came in, and finished; the other half of a bidirectional one carries what the player
      sends back.

    `Client::start` and `ProxyServer::start` handle one stream at a time, so the stream in
    hand says which one a step is about; the proof follows it through both loops. -/

namespace AmbientProxy.StreamWorld

open Transition Enumeration
open ProxyServer (ConnId StreamKind)

/-! ## The streams of the game server's side -/

/-- The stream whose header is read. -/
def held : Client.Phase → Option (StreamKind × RecvStream)
  | .readUni recvStream => some (.uni, recvStream)
  | .readBi _ recvStream => some (.bi, recvStream)
  | _ => none

/-- The queue of the streams of a kind. -/
def queueOf : StreamKind → Client.Kind
  | .uni => .uni
  | .bi => .bi

theorem queueOf_injective : Function.Injective queueOf := by
  intro k k' h
  cases k <;> cases k' <;> first | rfl | cases h

/-- The receiving half of what is in the queue. -/
def recvHalf : (k : StreamKind) → (queueOf k).Item → RecvStream
  | .uni, recvStream => recvStream
  | .bi, (_, recvStream) => recvStream

/-- The streams that the loop received for a player. -/
def received (s : Client.State) (k : StreamKind) (p : Str) : List RecvStream :=
  (s.received (queueOf k) p).map (recvHalf k)

/-- Those that were returned to the game, in the order of the pops. -/
def returned (s : Client.State) (k : StreamKind) (p : Str) : List RecvStream :=
  ((s.handedOut (queueOf k) p).map Prod.snd).map (recvHalf k)

/-- Those that were not: they are queued, or about to be. -/
def waiting (s : Client.State) (k : StreamKind) (p : Str) : List RecvStream :=
  ((s.resource (queueOf k) p).queue ++ s.phase.inHand (queueOf k) p).map (recvHalf k)

theorem returned_append_waiting {s : Client.State} (hs : Client.Inv s) (k : StreamKind)
    (p : Str) : returned s k p ++ waiting s k p = received s k p := by
  rw [received, ← hs.delivered (queueOf k) p, List.append_assoc, List.map_append]
  rfl

/-- What is found in a stream: the id in its header, and what is behind it. -/
def foundIn (k : StreamKind) : Outcome (Str × (queueOf k).Item) → Option (Str × RecvStream)
  | .ok (playerId, item) => some (playerId, recvHalf k item)
  | .err _ | .panic => none

/-- What `Client::start` finds in a stream. -/
def infoOf (recvStream : RecvStream) : Option (Str × RecvStream) :=
  foundIn .uni (Client.readStreamInfo recvStream)

theorem infoOf_eq_some_iff {r r' : RecvStream} {p : Str} :
    infoOf r = some (p, r') ↔ Client.readStreamInfo r = .ok (p, r') := by
  rw [infoOf]
  cases Client.readStreamInfo r with
  | ok out =>
      obtain ⟨q, item⟩ := out
      show some (q, item) = some (p, r') ↔ Outcome.ok (q, item) = .ok (p, r')
      rw [Option.some.injEq, Outcome.ok.injEq]
  | err e => exact ⟨nofun, nofun⟩
  | panic => exact ⟨nofun, nofun⟩

theorem foundIn_readBiStreamInfo (sendStream : SendStream) (recvStream : RecvStream) :
    foundIn .bi (Client.readBiStreamInfo sendStream recvStream) = infoOf recvStream := by
  rw [infoOf, Client.readBiStreamInfo]
  cases Client.readStreamInfo recvStream <;> rfl

/-- What was found in a stream of a kind, if it is for the player. -/
def foundFor (kind : StreamKind) (found : Option (Str × RecvStream)) (k : StreamKind) (p : Str) :
    Option RecvStream :=
  match found with
  | some (playerId, recvStream) => if k = kind ∧ p = playerId then some recvStream else none
  | none => none

section Client

variable {config : Client.Config} {s t : Client.State} {a : Client.Action}

theorem received_receive (kind : StreamKind) (playerId : Str) (item : (queueOf kind).Item)
    (k : StreamKind) (p : Str) :
    received (s.receive (queueOf kind) playerId item) k p
      = received s k p ++ (foundFor kind (some (playerId, recvHalf kind item)) k p).toList := by
  show (Client.update s.received (queueOf kind) playerId _ (queueOf k) p).map (recvHalf k)
    = received s k p ++ (if k = kind ∧ p = playerId then some (recvHalf kind item)
      else none).toList
  by_cases h : k = kind ∧ p = playerId
  · obtain ⟨rfl, rfl⟩ := h
    rw [Client.update_self, if_pos ⟨rfl, rfl⟩, List.map_append]
    rfl
  · have hne : ¬ (queueOf k = queueOf kind ∧ p = playerId) :=
      fun hq => h ⟨queueOf_injective hq.1, hq.2⟩
    rw [Client.update_of_ne hne, if_neg h]
    exact (List.append_nil _).symm

/-- The loop goes on with the header that it read. -/
theorem received_receiveOutcome (kind : StreamKind)
    (outcome : Outcome (Str × (queueOf kind).Item)) :
    held (s.receiveOutcome (queueOf kind) outcome).phase = none ∧
      ∀ k p, received (s.receiveOutcome (queueOf kind) outcome) k p
        = received s k p ++ (foundFor kind (foundIn kind outcome) k p).toList := by
  cases outcome with
  | ok out => exact ⟨rfl, received_receive kind out.1 out.2⟩
  | err e => exact ⟨rfl, fun k p => (List.append_nil _).symm⟩
  | panic => exact ⟨rfl, fun k p => (List.append_nil _).symm⟩

/-- A datagram is no stream. -/
theorem received_datagram (outcome : Outcome (Str × Client.Kind.datagram.Item)) :
    held (s.receiveOutcome .datagram outcome).phase = none ∧
      received (s.receiveOutcome .datagram outcome) = received s := by
  cases outcome with
  | ok out =>
      refine ⟨rfl, ?_⟩
      funext k p
      have hne : ¬ (queueOf k = .datagram ∧ p = out.1) := by
        rintro ⟨hk, -⟩
        cases k <;> cases hk
      show (Client.update s.received .datagram out.1 _ (queueOf k) p).map (recvHalf k) = _
      rw [Client.update_of_ne hne]
      rfl
  | err e => exact ⟨rfl, rfl⟩
  | panic => exact ⟨rfl, rfl⟩

/-- The loop accepts a stream between two iterations. -/
theorem client_accepts {recvStream : RecvStream} {kind : StreamKind}
    (h : (Client.system config).step s (accepts recvStream kind) = some t) :
    held s.phase = none ∧ held t.phase = some (kind, recvStream) ∧ received t = received s := by
  cases kind with
  | uni =>
      cases Client.step_cases h with
      | uniStream hp => exact ⟨by rw [hp]; rfl, rfl, rfl⟩
  | bi =>
      cases Client.step_cases h with
      | biStream hp => exact ⟨by rw [hp]; rfl, rfl, rfl⟩

/-- It reads the header of the stream that it has accepted. -/
theorem client_reads (h : (Client.system config).step s .headerRead = some t) :
    ∃ kind recvStream, held s.phase = some (kind, recvStream) ∧ held t.phase = none ∧
      ∀ k p, received t k p = received s k p ++ (foundFor kind (infoOf recvStream) k p).toList := by
  cases Client.step_cases h with
  | uniHeader hp =>
      rename_i recvStream
      exact ⟨.uni, recvStream, by rw [hp]; rfl, received_receiveOutcome .uni _⟩
  | biHeader hp =>
      rename_i sendStream recvStream
      refine ⟨.bi, recvStream, by rw [hp]; rfl, ?_⟩
      rw [← foundIn_readBiStreamInfo sendStream recvStream]
      exact received_receiveOutcome .bi _

/-- A step of the game server's side that accepts no stream and reads no header. -/
def aside : Client.Action → Bool
  | .uniStream _ | .biStream _ _ | .headerRead => false
  | _ => true

theorem client_aside (ha : aside a = true)
    (h : (Client.system config).step s a = some t) :
    held t.phase = held s.phase ∧ received t = received s := by
  cases Client.step_cases h with
  | close | allocateEndpoint | sendDatagram | datagramLost | playerConnected _
  | ignoreAsset _ _ | acceptUni _ | acceptBi _ | readDatagram _ | popped _ _ | empty _ _
  | createNotified _ | cancel _ => exact ⟨rfl, rfl⟩
  | pollNotified _ _ =>
      obtain ⟨notify, place, -, heq⟩ := Client.pollNotified_eq s _ _ _ _
      rw [heq]
      exact ⟨rfl, rfl⟩
  | allocation hp | requestAsset hp _ | notifyAllocated hp | callAllocated hp _
  | callPanics hp _ | assetLoaded hp | assetMissing hp | clientMessage hp _ | messageSent hp
  | messageLost hp | seesClosed hp _ | push hp => exact ⟨by rw [hp]; rfl, rfl⟩
  | datagram hp =>
      rename_i data
      obtain ⟨hheld, hreceived⟩ := received_datagram
        (s := { s with datagrams := s.datagrams ++ [data] }) (Client.readDatagramInfo data)
      exact ⟨by rw [hheld, hp]; rfl, hreceived⟩
  | uniStream _ | biStream _ | uniHeader _ | biHeader _ => cases ha

end Client

/-! ## The streams of the proxy's side -/

section Proxy

variable {config : ProxyServer.ProxyConfig} {s t : ProxyServer.State} {a : ProxyServer.Action}

/-- `handle_uni` or `handle_bi` awaits. -/
def handling : ProxyServer.Phase → Bool
  | .readHeader _ | .openStream _ _ _ => true
  | _ => false

/-- The steps of the two handlers. -/
def handles : ProxyServer.Action → Bool
  | .headerRead _ | .headerFails | .streamOpened | .openFails => true
  | _ => false

/-- Meanwhile the loop does nothing else. -/
theorem phase_of_handling (hp : handling s.phase = true) (ha : handles a = false)
    (h : (ProxyServer.system config).step s a = some t) : t.phase = s.phase := by
  cases ProxyServer.step_cases h with
  | close | clientMessage _ | writeMessage _ _ _ | loseMessage _ _ _ | controlFails
  | messageTaskEnds _ | requestAsset _ | playerDatagram _ | playerDatagramLost _
  | playerDisconnects _ | playerSeesClosed _ _ | recvPlayerEvent _ _ _ | recvUnknownEvent _ _ _
  | notBound _ _ _ | datagram _ _ | datagramLost _ => rfl
  | acceptConnection hs _ | handshakeFails hs | handshakeDone hs _ _ | notAnnounced hs _
  | spawnPlayer hs | insertPlayer hs | sendAllocation hs _ | allocationNotSent hs _
  | acceptStream hs | datagramPanics hs _ | seesClosed hs _ | sendStopped hs
  | bound hs _ _ | bindPanics hs _ _ | named hs _ | notNamed hs _ =>
      rw [hs] at hp
      cases hp
  | headerRead _ _ | headerRefused _ | headerFails _ | streamOpened _ | openFails _ => cases ha

/-- A stream on a player's connection is opened by one kind of step. -/
theorem opened_of_ne (h : (ProxyServer.system config).step s a = some t)
    (ha : a ≠ .streamOpened) : t.opened = s.opened := by
  cases ProxyServer.step_cases h with
  | streamOpened _ => exact absurd rfl ha
  | _ => rfl

/-- The loop accepts a stream between two iterations. -/
theorem proxy_accepts {kind : StreamKind}
    (h : (ProxyServer.system config).step s (.acceptStream kind) = some t) :
    handling s.phase = false ∧ t.phase = .readHeader kind := by
  cases ProxyServer.step_cases h with
  | acceptStream hp => exact ⟨by rw [hp]; rfl, rfl⟩

/-- It reads the header of the stream that it has accepted, and goes on with a player. -/
theorem proxy_reads {header : ClientStreamHeader}
    (h : (ProxyServer.system config).step s (.headerRead header) = some t) :
    ∃ kind, s.phase = .readHeader kind ∧
      ((∃ playerId conn, header = .openPlayerStream playerId ∧
        t.phase = .openStream kind playerId conn) ∨ t.phase = .select) := by
  cases ProxyServer.step_cases h with
  | headerRead hp hh =>
      exact ⟨_, hp, .inl ⟨_, _, (ProxyServer.handleHeader_eq_ok_iff.mp hh).1, rfl⟩⟩
  | headerRefused hp => exact ⟨_, hp, .inr rfl⟩

/-- It opens a stream on the player's connection. -/
theorem proxy_opens (h : (ProxyServer.system config).step s .streamOpened = some t) :
    ∃ kind playerId conn, s.phase = .openStream kind playerId conn ∧
      t.opened = s.opened ++ [(kind, playerId, conn)] := by
  cases ProxyServer.step_cases h with
  | streamOpened hp => exact ⟨_, _, _, hp, rfl⟩

end Proxy

/-- A connection keeps its player. -/
theorem owner_step {config : World.Config} {s t : World.State} {a : World.Action}
    {conn : ConnId} {p : Str} (hs : ProxyServer.Routed s.proxy)
    (h : (World.system config).step s a = some t) (ho : s.proxy.owner conn = some p) :
    t.proxy.owner conn = some p := by
  cases World.step_cases h with
  | proxy _ hstep =>
      rcases ProxyServer.registry_step hs.sendsAllocation hstep with heq | hmove
      · exact (congrArg (fun r => r.owner conn) heq).trans ho
      · exact hs.registry.owner_step hmove ho
  | client _ _ | playerSends => exact ho

/-! ## From the players to the game -/

namespace PlayerStream

/-- What `Client::start` finds in the stream for a player, if it is one of the kind. -/
def found (stream : PlayerStream) : StreamKind → Str → Option RecvStream :=
  foundFor stream.kind (stream.accepted.bind infoOf)

/-- Both hops of the stream, as far as it came. -/
structure Ok (owner : ConnId → Option Str) (stream : PlayerStream) : Prop where
  handled : ∀ p r, stream.handled = some (p, r) →
    owner stream.conn = some p ∧ Arrives stream.content r
  accepted : ∀ r, stream.accepted = some r →
    ∃ p r', stream.handled = some (p, r') ∧ Arrives (PlayerConnection.handleUni p r') r

variable {owner owner' : ConnId → Option Str} {stream : PlayerStream}

theorem Ok.mono (h : stream.Ok owner)
    (howner : ∀ conn p, owner conn = some p → owner' conn = some p) : stream.Ok owner' where
  handled p r hh := (h.handled p r hh).imp_left (howner _ p)
  accepted := h.accepted

end PlayerStream

/-- The stream that `Client::start` has received for the player. -/
def arrived (s : State) (k : StreamKind) (p : Str) (i : StreamId) : Option RecvStream :=
  if s.clientHand = some i then none else (s.playerStreams i).bind fun stream => stream.found k p

/-- What holds of the streams that players opened. -/
structure ToGame (s : State) : Prop where
  streams : ∀ i stream, s.playerStreams i = some stream → stream.Ok s.world.proxy.owner
  hand : ∀ i, s.clientHand = some i → ∃ stream recvStream, s.playerStreams i = some stream ∧
    stream.accepted = some recvStream ∧
    held s.world.client.phase = some (stream.kind, recvStream)
  free : s.clientHand = none → held s.world.client.phase = none
  arrived : ∀ k p, Enumerates (arrived s k p) (received s.world.client k p)

variable {config : World.Config} {s t : State} {a : Action}

/-- What is known of each stream stays known where one of them changes. -/
theorem forall_setPlayerStream {P : PlayerStream → Prop} {i : StreamId} {stream : PlayerStream}
    (h : ∀ i stream, s.playerStreams i = some stream → P stream) (hi : P stream) :
    ∀ j stream', (s.setPlayerStream i stream).playerStreams j = some stream' → P stream' := by
  intro j stream' hj
  change Function.update s.playerStreams i (some stream) j = some stream' at hj
  by_cases hji : j = i
  · subst hji
    rw [Function.update_self] at hj
    cases hj
    exact hi
  · rw [Function.update_of_ne hji] at hj
    exact h j stream' hj

/-- A stream goes on, up to the point where `Client::start` accepts it. -/
theorem arrived_setPlayerStream {i : StreamId} {stream : PlayerStream}
    (h : ∀ k p, stream.found k p = (s.playerStreams i).bind fun stream => stream.found k p) :
    arrived (s.setPlayerStream i stream) = arrived s := by
  funext k p j
  show (if s.clientHand = some j then none
    else (Function.update s.playerStreams i (some stream) j).bind _) = _
  by_cases hj : j = i
  · subst hj
    rw [Function.update_self, Option.bind_some, h]
    rfl
  · rw [Function.update_of_ne hj]
    rfl

/-- No stream of a player comes in. -/
theorem ToGame.frame (hs : ToGame s)
    (hstreams : ∀ i stream, t.playerStreams i = some stream → stream.Ok t.world.proxy.owner)
    (hplayer : t.playerStreams = s.playerStreams) (hhand : t.clientHand = s.clientHand)
    (hheld : held t.world.client.phase = held s.world.client.phase)
    (hreceived : received t.world.client = received s.world.client) : ToGame t where
  streams := hstreams
  hand i hi := by
    rw [hplayer, hheld]
    exact hs.hand i (hhand ▸ hi)
  free hi := by
    rw [hheld]
    exact hs.free (hhand ▸ hi)
  arrived k p := by
    have heq : StreamWorld.arrived t k p = StreamWorld.arrived s k p := by
      funext i
      rw [StreamWorld.arrived, StreamWorld.arrived, hplayer, hhand]
    rw [heq, hreceived]
    exact hs.arrived k p

/-- A stream goes on up to the game server's side. -/
theorem ToGame.setPlayerStream (hs : ToGame s) {i : StreamId} {stream : PlayerStream}
    (hok : stream.Ok s.world.proxy.owner)
    (hfound : ∀ k p, stream.found k p = (s.playerStreams i).bind fun stream => stream.found k p)
    (hi : s.clientHand ≠ some i) : ToGame (s.setPlayerStream i stream) where
  streams := forall_setPlayerStream hs.streams hok
  hand j hj := by
    have hne : j ≠ i := by
      rintro rfl
      exact hi hj
    obtain ⟨stream', recvStream, hstream', hrest⟩ := hs.hand j hj
    exact ⟨stream', recvStream, (Function.update_of_ne hne _ _).trans hstream', hrest⟩
  free := hs.free
  arrived := by
    rw [arrived_setPlayerStream hfound]
    exact hs.arrived

/-- `Client::start` accepts a stream. -/
theorem ToGame.accept (hs : ToGame s) {i : StreamId} {stream : PlayerStream}
    {recvStream : RecvStream} {world : World.State} (hi : s.playerStreams i = some stream)
    (ha : stream.accepted = none)
    (hok : PlayerStream.Ok s.world.proxy.owner { stream with accepted := some recvStream })
    (hproxy : world.proxy = s.world.proxy) (hfree : held s.world.client.phase = none)
    (hheld : held world.client.phase = some (stream.kind, recvStream))
    (hreceived : received world.client = received s.world.client) :
    ToGame
      { s.setPlayerStream i { stream with accepted := some recvStream } with
        world := world
        clientHand := some i } where
  streams := by
    show ∀ j stream', _ → PlayerStream.Ok world.proxy.owner stream'
    rw [hproxy]
    exact forall_setPlayerStream hs.streams hok
  hand j hj := by
    cases hj
    exact ⟨_, recvStream, Function.update_self _ _ _, rfl, hheld⟩
  free := nofun
  arrived k p := by
    -- the loop had no stream in hand before
    have hnone : s.clientHand = none := by
      cases hhand : s.clientHand with
      | none => rfl
      | some j =>
          obtain ⟨_, _, _, _, hheld'⟩ := hs.hand j hhand
          cases hfree.symm.trans hheld'
    have heq : StreamWorld.arrived
        { s.setPlayerStream i { stream with accepted := some recvStream } with
          world := world
          clientHand := some i } k p = StreamWorld.arrived s k p := by
      funext j
      show (if some i = some j then none else
          (Function.update s.playerStreams i (some _) j).bind _)
        = if s.clientHand = some j then none else (s.playerStreams j).bind _
      rw [hnone, if_neg (nofun : ¬ none = some j)]
      by_cases hj : j = i
      · subst hj
        rw [if_pos rfl, hi, Option.bind_some, PlayerStream.found, ha]
        rfl
      · rw [if_neg fun h => hj (Option.some.inj h).symm, Function.update_of_ne hj]
    show Enumerates _ (received world.client k p)
    rw [heq, hreceived]
    exact hs.arrived k p

/-- It reads the header of the stream that it has in hand. -/
theorem ToGame.read (hs : ToGame s) {world : World.State} {kind : StreamKind}
    {recvStream : RecvStream} (hproxy : world.proxy = s.world.proxy)
    (hheld : held s.world.client.phase = some (kind, recvStream))
    (hfree : held world.client.phase = none)
    (hreceived : ∀ k p, received world.client k p
      = received s.world.client k p ++ (foundFor kind (infoOf recvStream) k p).toList) :
    ToGame { s with world := world, clientHand := none } where
  streams := by
    show ∀ i stream, _ → PlayerStream.Ok world.proxy.owner stream
    rw [hproxy]
    exact hs.streams
  hand := nofun
  free _ := hfree
  arrived k p := by
    obtain ⟨i, hi⟩ : ∃ i, s.clientHand = some i := by
      cases hhand : s.clientHand with
      | some i => exact ⟨i, rfl⟩
      | none => cases (hs.free hhand).symm.trans hheld
    obtain ⟨stream, recvStream', hstream, ha, hheld'⟩ := hs.hand i hi
    cases hheld.symm.trans hheld'
    have hbefore : StreamWorld.arrived s k p i = none := if_pos hi
    have hold : ∀ j, j ≠ i →
        StreamWorld.arrived { s with world := world, clientHand := none } k p j
          = StreamWorld.arrived s k p j := by
      intro j hj
      have hother : ¬ s.clientHand = some j := by
        rw [hi, Option.some.injEq]
        exact fun h => hj h.symm
      exact (if_neg hother).symm
    have hafter : StreamWorld.arrived { s with world := world, clientHand := none } k p i
        = foundFor stream.kind (infoOf recvStream) k p := by
      show (s.playerStreams i).bind (fun stream => stream.found k p) = _
      rw [hstream, Option.bind_some, PlayerStream.found, ha, Option.bind_some]
    show Enumerates _ (received world.client k p)
    rw [hreceived, ← hafter]
    exact (hs.arrived k p).grow hbefore hold

theorem client_of_proxy {world world' : World.State} {b : ProxyServer.Action}
    (h : (World.system config).step world (.proxy b) = some world') :
    world'.client = world.client ∧
      (ProxyServer.system config.proxy).step world.proxy b = some world'.proxy := by
  cases World.step_cases h with
  | proxy _ hstep => exact ⟨rfl, hstep⟩

theorem proxy_of_client {world world' : World.State} {b : Client.Action}
    (h : (World.system config).step world (.client b) = some world') :
    world'.proxy = world.proxy ∧
      (Client.system config.client).step world.client b = some world'.client := by
  cases World.step_cases h with
  | client _ hstep => exact ⟨rfl, hstep⟩

theorem aside_of_apart {b : Client.Action} (ha : apart s (.client b) = true) :
    aside b = true := by
  cases b <;> first | rfl | cases ha

/-- The proxy's side goes on, and no stream of a player comes in. -/
theorem ToGame.onProxy (hs : ToGame s) (hr : ProxyServer.Routed s.world.proxy)
    {b : ProxyServer.Action} {world : World.State}
    (hw : (World.system config).step s.world (.proxy b) = some world)
    (hworld : t.world = world) (hplayer : t.playerStreams = s.playerStreams)
    (hhand : t.clientHand = s.clientHand) : ToGame t := by
  have hclient : t.world.client = s.world.client := by rw [hworld, (client_of_proxy hw).1]
  refine hs.frame ?_ hplayer hhand (by rw [hclient]) (by rw [hclient])
  intro i stream hi
  rw [hplayer] at hi
  rw [hworld]
  exact (hs.streams i stream hi).mono fun conn p => owner_step hr hw

/-- **A step of the streams from the players.** -/
theorem ToGame.step (hs : ToGame s) (hr : ProxyServer.Routed s.world.proxy)
    (h : (system config).step s a = some t) : ToGame t := by
  cases step_cases h with
  | world ha hw =>
      rename_i b world
      cases b with
      | proxy b => exact hs.onProxy hr hw rfl rfl rfl
      | client b =>
          obtain ⟨hproxy, hstep⟩ := proxy_of_client hw
          obtain ⟨hheld, hreceived⟩ := client_aside (aside_of_apart ha) hstep
          refine hs.frame ?_ rfl rfl hheld hreceived
          show ∀ i stream, _ → PlayerStream.Ok world.proxy.owner stream
          rw [hproxy]
          exact hs.streams
      | playerSends conn data =>
          cases World.step_cases hw with
          | playerSends => exact hs.frame hs.streams rfl rfl rfl rfl
  | playerOpens hi =>
      refine hs.setPlayerStream ⟨nofun, nofun⟩ ?_ ?_
      · intro k p
        rw [hi]
        rfl
      · intro hhand
        obtain ⟨stream, _, hstream, _⟩ := hs.hand _ hhand
        cases hi.symm.trans hstream
  | playerTaskHandles hi hh ht hr' =>
      rename_i i stream playerId recvStream
      have hok := hs.streams i stream hi
      have hnone : stream.accepted = none := by
        cases ha : stream.accepted with
        | none => rfl
        | some r =>
            obtain ⟨_, _, hhandled, _⟩ := hok.accepted r ha
            cases hh.symm.trans hhandled
      refine hs.setPlayerStream ⟨?_, ?_⟩ ?_ ?_
      · intro p r hp
        cases hp
        exact ⟨ProxyServer.Registry.owner_eq_some (r := s.world.proxy.registry) ht, hr'⟩
      · intro r ha
        cases hnone.symm.trans ha
      · intro k p
        rw [hi, Option.bind_some]
        rfl
      · intro hhand
        obtain ⟨stream', r, hstream', ha, _⟩ := hs.hand i hhand
        cases hi.symm.trans hstream'
        cases hnone.symm.trans ha
  | clientAccepts hi hh ha hr' hw =>
      rename_i i stream playerId handled recvStream world
      obtain ⟨hproxy, hstep⟩ := proxy_of_client hw
      obtain ⟨hfree, hheld, hreceived⟩ := client_accepts hstep
      refine hs.accept hi ha ⟨(hs.streams i stream hi).handled, ?_⟩ hproxy hfree hheld hreceived
      intro r hr
      cases hr
      exact ⟨playerId, handled, hh, hr'⟩
  | clientReads hw =>
      obtain ⟨hproxy, hstep⟩ := proxy_of_client hw
      obtain ⟨kind, recvStream, hheld, hfree, hreceived⟩ := client_reads hstep
      exact hs.read hproxy hheld hfree hreceived
  | gameOpens _ => exact hs.frame hs.streams rfl rfl rfl rfl
  | proxyAccepts _ _ hw => exact hs.onProxy hr hw rfl rfl rfl
  | proxyReads _ _ _ _ hw => exact hs.onProxy hr hw rfl rfl rfl
  | proxyReadFails hw => exact hs.onProxy hr hw rfl rfl rfl
  | proxyOpens _ _ _ _ hw => exact hs.onProxy hr hw rfl rfl rfl
  | proxyOpenFails hw => exact hs.onProxy hr hw rfl rfl rfl
  | playerReads _ _ _ => exact hs.frame hs.streams rfl rfl rfl rfl

/-! ## From the game to the players -/

/-- All that is left of the game's stream goes to the player, and all that comes in from
    the player goes back. -/
structure Copy.Whole (copy : Copy) (kind : StreamKind) (rest : RecvStream) : Prop where
  there : Carries [] rest copy.there
  back : kind = .bi → ∃ r s, copy.back = some (r, s) ∧ Carries [] r s

theorem copies_whole (conn : ConnId) (rest playerRecvStream : RecvStream) (kind : StreamKind) :
    (copies conn rest playerRecvStream kind).Whole kind rest := by
  cases kind with
  | uni => exact ⟨spawnStreamCopy_carries rest {}, nofun⟩
  | bi =>
      exact ⟨spawnStreamCopy_carries rest {},
        fun _ => ⟨_, _, rfl, spawnStreamCopy_carries playerRecvStream {}⟩⟩

theorem conn_copies (conn : ConnId) (rest playerRecvStream : RecvStream) (kind : StreamKind) :
    (copies conn rest playerRecvStream kind).conn = conn := by
  cases kind <;> rfl

namespace ServerStream

/-- Where a stream for the player was opened. -/
def target (stream : ServerStream) : Option (StreamKind × Str × ConnId) :=
  stream.copied.map fun copy => (stream.kind, stream.playerId, copy.conn)

/-- The stream, as far as it came. -/
structure Ok (stream : ServerStream) : Prop where
  rest : ∀ rest, stream.rest = some rest → ∃ r, Arrives stream.content r ∧
    ProxyServer.readHeader r = .ok (.openPlayerStream stream.playerId, rest)
  copied : ∀ copy, stream.copied = some copy → stream.accepted = true ∧
    ∃ rest, stream.rest = some rest ∧ copy.Whole stream.kind rest
  read : ∀ r, stream.read = some r → ∃ copy, stream.copied = some copy ∧ Arrives copy.there r

/-- A stream for which none was opened. -/
theorem Ok.of_not_copied {stream : ServerStream} (hcopied : stream.copied = none)
    (hread : stream.read = none)
    (hrest : ∀ rest, stream.rest = some rest → ∃ r, Arrives stream.content r ∧
      ProxyServer.readHeader r = .ok (.openPlayerStream stream.playerId, rest)) : stream.Ok where
  rest := hrest
  copied _ h := nomatch hcopied.symm.trans h
  read _ h := nomatch hread.symm.trans h

/-- Nothing is read of a stream that was not opened. -/
theorem Ok.not_read {stream : ServerStream} (hs : stream.Ok) (hcopied : stream.copied = none) :
    stream.read = none := by
  by_contra hread
  obtain ⟨r, hr⟩ := Option.ne_none_iff_exists'.mp hread
  obtain ⟨copy, hc, -⟩ := hs.read r hr
  cases hcopied.symm.trans hc

end ServerStream

/-- The header that is read is the one that the game wrote. -/
theorem header_of_arrives {stream : ServerStream} {r rest : RecvStream}
    {header : ClientStreamHeader} (h : Arrives stream.content r)
    (hread : ProxyServer.readHeader r = .ok (header, rest)) :
    header = .openPlayerStream stream.playerId ∧ Arrives stream.payload rest :=
  Arrives.readFramed h hread

/-- Where `ProxyServer::start` opened a stream for it. -/
def target (s : State) (j : StreamId) : Option (StreamKind × Str × ConnId) :=
  (s.serverStreams j).bind ServerStream.target

/-- What holds of the streams that the game opened. -/
structure ToPlayers (s : State) : Prop where
  streams : ∀ j stream, s.serverStreams j = some stream → stream.Ok
  hand : ∀ j, s.proxyHand = some j → ∃ stream, s.serverStreams j = some stream ∧
    stream.copied = none ∧ stream.accepted = true ∧
    (s.world.proxy.phase = .readHeader stream.kind ∨
      ∃ conn, s.world.proxy.phase = .openStream stream.kind stream.playerId conn)
  opened : Enumerates (target s) s.world.proxy.opened

theorem forall_setServerStream {P : ServerStream → Prop} {j : StreamId} {stream : ServerStream}
    (h : ∀ j stream, s.serverStreams j = some stream → P stream) (hj : P stream) :
    ∀ i stream', (s.setServerStream j stream).serverStreams i = some stream' → P stream' := by
  intro i stream' hi
  change Function.update s.serverStreams j (some stream) i = some stream' at hi
  by_cases hij : i = j
  · subst hij
    rw [Function.update_self] at hi
    cases hi
    exact hj
  · rw [Function.update_of_ne hij] at hi
    exact h i stream' hi

theorem target_eq {j : StreamId} {stream : ServerStream} (h : s.serverStreams j = some stream) :
    target s j = stream.target := by
  rw [target, h]
  rfl

theorem target_setServerStream_of_ne {i j : StreamId} {stream : ServerStream} (h : i ≠ j) :
    target (s.setServerStream j stream) i = target s i := by
  show (Function.update s.serverStreams j (some stream) i).bind _ = _
  rw [Function.update_of_ne h]
  rfl

theorem target_setServerStream_self {j : StreamId} {stream : ServerStream} :
    target (s.setServerStream j stream) j = stream.target := by
  show (Function.update s.serverStreams j (some stream) j).bind _ = _
  rw [Function.update_self, Option.bind_some]

/-- A stream goes on, and none is opened for it. -/
theorem target_setServerStream {j : StreamId} {stream : ServerStream}
    (h : stream.target = target s j) : target (s.setServerStream j stream) = target s := by
  funext i
  by_cases hi : i = j
  · rw [hi, target_setServerStream_self, h]
  · exact target_setServerStream_of_ne hi

/-- No stream of the game goes on. -/
theorem ToPlayers.frame (hs : ToPlayers s) (hserver : t.serverStreams = s.serverStreams)
    (hhand : t.proxyHand = s.proxyHand)
    (hphase : s.proxyHand ≠ none → t.world.proxy.phase = s.world.proxy.phase)
    (hopened : t.world.proxy.opened = s.world.proxy.opened) : ToPlayers t where
  streams := by
    rw [hserver]
    exact hs.streams
  hand j hj := by
    rw [hhand] at hj
    rw [hserver, hphase (by rw [hj]; exact Option.some_ne_none j)]
    exact hs.hand j hj
  opened := by
    have heq : target t = target s := by
      funext j
      rw [target, target, hserver]
    rw [heq, hopened]
    exact hs.opened

/-- A step of a stream that was copied, or is new, leaves the stream in hand. -/
theorem ToPlayers.hand_of_ne (hs : ToPlayers s) {j : StreamId} {stream' : ServerStream}
    (hj : ∀ stream, s.serverStreams j = some stream → stream.copied ≠ none) {i : StreamId}
    (hi : s.proxyHand = some i) :
    ∃ stream, (s.setServerStream j stream').serverStreams i = some stream ∧
      stream.copied = none ∧ stream.accepted = true ∧
      (s.world.proxy.phase = .readHeader stream.kind ∨
        ∃ conn, s.world.proxy.phase = .openStream stream.kind stream.playerId conn) := by
  obtain ⟨stream, hstream, hcopied, hrest⟩ := hs.hand i hi
  have hne : i ≠ j := by
    rintro rfl
    exact hj stream hstream hcopied
  exact ⟨stream, (Function.update_of_ne hne _ _).trans hstream, hcopied, hrest⟩

/-- The loop is done with the stream that it had in hand. -/
theorem ToPlayers.drop (hs : ToPlayers s) {world : World.State}
    (hopened : world.proxy.opened = s.world.proxy.opened) :
    ToPlayers { s with world := world, proxyHand := none } where
  streams := hs.streams
  hand := nofun
  opened := by
    show Enumerates (target s) world.proxy.opened
    rw [hopened]
    exact hs.opened

theorem handling_of_hand (hs : ToPlayers s) (h : s.proxyHand ≠ none) :
    handling s.world.proxy.phase = true := by
  obtain ⟨j, hj⟩ := Option.ne_none_iff_exists'.mp h
  obtain ⟨stream, -, -, -, hp | ⟨conn, hp⟩⟩ := hs.hand j hj
  · rw [hp]
    rfl
  · rw [hp]
    rfl

theorem not_handles_of_apart {b : ProxyServer.Action} (ha : apart s (.proxy b) = true)
    (h : s.proxyHand ≠ none) : handles b = false := by
  obtain ⟨j, hj⟩ := Option.ne_none_iff_exists'.mp h
  cases b with
  | headerRead header =>
      cases header with
      | openPlayerStream playerId => cases ha
      | storeAsset key length compression =>
          rw [apart, hj] at ha
          cases ha
  | headerFails =>
      rw [apart, hj] at ha
      cases ha
  | streamOpened => cases ha
  | openFails => cases ha
  | _ => rfl

/-- `ProxyServer::start` reads the header of the stream that it has in hand. -/
theorem ToPlayers.read (hs : ToPlayers s) {j : StreamId} {stream : ServerStream}
    {r rest : RecvStream} {header : ClientStreamHeader} {world : World.State}
    (hj : s.proxyHand = some j) (hstream : s.serverStreams j = some stream)
    (hr : Arrives stream.content r) (hread : ProxyServer.readHeader r = .ok (header, rest))
    (hw : (World.system config).step s.world (.proxy (.headerRead header)) = some world) :
    ToPlayers
      { s.setServerStream j { stream with rest := some rest } with
        world := world
        proxyHand := opens j world.proxy.phase } := by
  obtain ⟨rfl, -⟩ := header_of_arrives hr hread
  obtain ⟨-, hstep⟩ := client_of_proxy hw
  obtain ⟨stream', hstream', hcopied, haccepted, hphase⟩ := hs.hand j hj
  cases hstream.symm.trans hstream'
  obtain ⟨kind, hp, hnext⟩ := proxy_reads hstep
  -- the header is that of the stream in hand
  have hkind : stream.kind = kind := by
    rcases hphase with hphase | ⟨conn, hphase⟩
    · cases hphase.symm.trans hp
      rfl
    · cases hphase.symm.trans hp
  have hok : ServerStream.Ok { stream with rest := some rest } := by
    refine .of_not_copied hcopied ((hs.streams j stream hstream).not_read hcopied) ?_
    intro rest' hrest
    cases hrest
    exact ⟨r, hr, hread⟩
  have htarget : ServerStream.target { stream with rest := some rest } = target s j :=
    (target_eq hstream).symm
  refine ⟨forall_setServerStream hs.streams hok, ?_, ?_⟩
  · intro i hi
    rcases hnext with ⟨playerId, conn, hheader, hopen⟩ | hselect
    · cases hheader
      change opens j world.proxy.phase = some i at hi
      rw [hopen] at hi
      cases hi
      refine ⟨_, Function.update_self _ _ _, hcopied, haccepted, .inr ⟨conn, ?_⟩⟩
      show world.proxy.phase = .openStream stream.kind _ conn
      rw [hopen, hkind]
    · change opens j world.proxy.phase = some i at hi
      rw [hselect] at hi
      cases hi
  · have hopened := opened_of_ne hstep nofun
    show Enumerates (target (s.setServerStream j _)) world.proxy.opened
    rw [target_setServerStream htarget, hopened]
    exact hs.opened

/-- It opens a stream on the player's connection. -/
theorem ToPlayers.copy (hs : ToPlayers s) {j : StreamId} {stream : ServerStream}
    {kind : StreamKind} {playerId : Str} {conn : ConnId} {rest playerRecvStream : RecvStream}
    {world : World.State} (hj : s.proxyHand = some j)
    (hp : s.world.proxy.phase = .openStream kind playerId conn)
    (hstream : s.serverStreams j = some stream) (hrest : stream.rest = some rest)
    (hw : (World.system config).step s.world (.proxy .streamOpened) = some world) :
    ToPlayers
      { s.setServerStream j
          { stream with copied := some (copies conn rest playerRecvStream kind) } with
        world := world
        proxyHand := none } := by
  obtain ⟨-, hstep⟩ := client_of_proxy hw
  obtain ⟨stream', hstream', hcopied, haccepted, hphase⟩ := hs.hand j hj
  cases hstream.symm.trans hstream'
  obtain ⟨kind', playerId', conn', hp', hopened⟩ := proxy_opens hstep
  cases hp.symm.trans hp'
  obtain ⟨hkind, hplayer⟩ : stream.kind = kind ∧ stream.playerId = playerId := by
    rcases hphase with hphase | ⟨conn', hphase⟩
    · cases hphase.symm.trans hp
    · cases hphase.symm.trans hp
      exact ⟨rfl, rfl⟩
  have hbefore : target s j = none := by
    rw [target, hstream, Option.bind_some, ServerStream.target, hcopied, Option.map_none]
  have hafter : target (s.setServerStream j
      { stream with copied := some (copies conn rest playerRecvStream kind) }) j
      = some (kind, playerId, conn) := by
    rw [target_setServerStream_self, ← hkind, ← hplayer]
    show some (stream.kind, stream.playerId, (copies conn rest playerRecvStream _).conn) = _
    rw [conn_copies]
  have hbefore' := hs.streams j stream hstream
  have hok : ServerStream.Ok
      { stream with copied := some (copies conn rest playerRecvStream kind) } := by
    refine ⟨hbefore'.rest, ?_, ?_⟩
    · rintro _ ⟨⟩
      exact ⟨haccepted, rest, hrest, hkind ▸ copies_whole conn rest playerRecvStream stream.kind⟩
    · intro r hr
      cases (hbefore'.not_read hcopied).symm.trans hr
  refine ⟨forall_setServerStream hs.streams hok, nofun, ?_⟩
  show Enumerates (target (s.setServerStream j _)) world.proxy.opened
  rw [hopened]
  exact hs.opened.snoc hbefore (fun i hi => target_setServerStream_of_ne hi) hafter

/-- **A step of the streams from the game.** -/
theorem ToPlayers.step (hs : ToPlayers s) (h : (system config).step s a = some t) :
    ToPlayers t := by
  cases step_cases h with
  | world ha hw =>
      rename_i b world
      cases b with
      | proxy b =>
          obtain ⟨-, hstep⟩ := client_of_proxy hw
          refine hs.frame rfl rfl ?_ (opened_of_ne hstep ?_)
          · intro hhand
            exact phase_of_handling (handling_of_hand hs hhand) (not_handles_of_apart ha hhand)
              hstep
          · rintro rfl
            cases ha
      | client b =>
          have hproxy := (proxy_of_client hw).1
          exact hs.frame rfl rfl (fun _ => congrArg ProxyServer.State.phase hproxy)
            (congrArg ProxyServer.State.opened hproxy)
      | playerSends conn data =>
          cases World.step_cases hw with
          | playerSends => exact hs.frame rfl rfl (fun _ => rfl) rfl
  | playerOpens _ | playerTaskHandles _ _ _ _ => exact hs.frame rfl rfl (fun _ => rfl) rfl
  | clientAccepts _ _ _ _ hw | clientReads hw =>
      have hproxy := (proxy_of_client hw).1
      exact hs.frame rfl rfl (fun _ => congrArg ProxyServer.State.phase hproxy)
        (congrArg ProxyServer.State.opened hproxy)
  | gameOpens hj =>
      rename_i j playerId kind payload
      refine ⟨forall_setServerStream hs.streams (.of_not_copied rfl rfl nofun), ?_, ?_⟩
      · intro i hi
        refine hs.hand_of_ne ?_ hi
        intro stream hstream
        cases hj.symm.trans hstream
      · have htarget : ServerStream.target ⟨playerId, kind, payload, false, none, none, none⟩
            = target s j := by
          rw [target, hj]
          rfl
        rw [target_setServerStream htarget]
        exact hs.opened
  | proxyAccepts hj ha hw =>
      rename_i j stream world
      obtain ⟨-, hstep⟩ := client_of_proxy hw
      obtain ⟨-, hp⟩ := proxy_accepts hstep
      have hok := hs.streams j stream hj
      have hcopied : stream.copied = none := by
        by_contra hcopied
        obtain ⟨copy, hcopy⟩ := Option.ne_none_iff_exists'.mp hcopied
        cases ha.symm.trans (hok.copied copy hcopy).1
      have hok' : ServerStream.Ok { stream with accepted := true } :=
        .of_not_copied hcopied (hok.not_read hcopied) hok.rest
      refine ⟨forall_setServerStream hs.streams hok', ?_, ?_⟩
      · intro i hi
        cases hi
        exact ⟨_, Function.update_self _ _ _, hcopied, rfl, .inl hp⟩
      · have htarget : ServerStream.target { stream with accepted := true } = target s j :=
          (target_eq hj).symm
        show Enumerates (target (s.setServerStream j _)) world.proxy.opened
        rw [target_setServerStream htarget, opened_of_ne hstep nofun]
        exact hs.opened
  | proxyReads hj hstream hr hread hw => exact hs.read hj hstream hr hread hw
  | proxyReadFails hw | proxyOpenFails hw =>
      exact hs.drop (opened_of_ne (client_of_proxy hw).2 nofun)
  | proxyOpens hj hp hstream hrest hw => exact hs.copy hj hp hstream hrest hw
  | playerReads hj hc hr =>
      rename_i j stream copy recvStream
      have hok := hs.streams j stream hj
      have hok' : ServerStream.Ok { stream with read := some recvStream } := by
        refine ⟨hok.rest, hok.copied, ?_⟩
        rintro _ ⟨⟩
        exact ⟨copy, hc, hr⟩
      have htarget : ServerStream.target { stream with read := some recvStream } = target s j :=
        (target_eq hj).symm
      refine ⟨forall_setServerStream hs.streams hok', ?_, ?_⟩
      · intro i hi
        refine hs.hand_of_ne ?_ hi
        -- nothing was opened yet for the stream in hand
        intro stream' hstream' hcopied
        cases hj.symm.trans hstream'
        cases hc.symm.trans hcopied
      · rw [target_setServerStream htarget]
        exact hs.opened

/-! ## Over every run -/

theorem routed_step {world world' : World.State} {b : World.Action}
    (hr : ProxyServer.Routed world.proxy)
    (h : (World.system config).step world b = some world') :
    ProxyServer.Routed world'.proxy := by
  cases World.step_cases h with
  | proxy _ hstep => exact hr.step hstep
  | client _ _ | playerSends => exact hr

/-- What the proxy knows of its players, and what holds of the streams. -/
structure Inv (s : State) : Prop where
  routed : ProxyServer.Routed s.world.proxy
  toGame : ToGame s
  toPlayers : ToPlayers s

theorem Inv.init : Inv {} := by
  refine ⟨ProxyServer.Routed.init, ⟨nofun, nofun, fun _ => rfl, ?_⟩, nofun, nofun, ?_⟩
  · intro k p
    have hnil : received {} k p = [] := by cases k <;> rfl
    show Enumerates _ (received {} k p)
    rw [hnil]
    exact .nil fun i => rfl
  · exact .nil fun j => rfl

theorem Inv.step (hs : Inv s) (h : (system config).step s a = some t) : Inv t where
  routed := by
    rcases step_world h with heq | ⟨b, hw⟩
    · exact heq ▸ hs.routed
    · exact routed_step hs.routed hw
  toGame := hs.toGame.step hs.routed h
  toPlayers := hs.toPlayers.step h

theorem inv_of_exec {acts : List Action} (h : (system config).exec {} acts = some s) : Inv s :=
  exec_invariant Inv.step Inv.init h

/-- A stream that was received for a player came from a stream of the kind. -/
theorem exists_of_arrived {k : StreamKind} {p : Str} {i : StreamId} {r : RecvStream}
    (h : arrived s k p i = some r) : ∃ stream r2, s.playerStreams i = some stream ∧
      stream.kind = k ∧ stream.accepted = some r2 ∧ Client.readStreamInfo r2 = .ok (p, r) := by
  rw [arrived] at h
  split at h
  · cases h
  · obtain ⟨stream, hstream, hfound⟩ := Option.bind_eq_some_iff.mp h
    unfold PlayerStream.found foundFor at hfound
    split at hfound
    · rename_i playerId recvStream hinfo
      obtain ⟨r2, ha, hinfo⟩ := Option.bind_eq_some_iff.mp hinfo
      split at hfound
      · rename_i hmine
        obtain ⟨rfl, rfl⟩ := hmine
        cases hfound
        exact ⟨stream, r2, hstream, rfl, ha, infoOf_eq_some_iff.mp hinfo⟩
      · cases hfound
    · cases hfound

/-- A header that is read names the player for whom it was written. -/
theorem info_of_arrives {p q : Str} {r1 r2 r : RecvStream}
    (h : Arrives (PlayerConnection.handleUni p r1) r2)
    (hread : Client.readStreamInfo r2 = .ok (q, r)) : q = p ∧ Arrives ⟨r1.bytes, true⟩ r := by
  obtain ⟨⟨⟨q'⟩, r'⟩, hframed, hout⟩ := Outcome.bind_eq_ok_iff.mp hread
  cases Outcome.ok.inj hout
  obtain ⟨hheader, hrest⟩ := Arrives.readFramed h hframed
  cases hheader
  exact ⟨rfl, hrest⟩

/-- **The streams from the players reach the game, each its own player's.**  In every run,
    for both kinds of streams and every player: the streams that the game was given for the
    player, together with those that wait to be given, are streams that came in for it,
    each of them once.  Each of these the player opened on its own connection, and what is
    read of it is what the player wrote: no more than a prefix, and all of it where both
    hops end cleanly.  And a stream on the player's connection that came in whole is among
    them, but for the one whose header is about to be read. -/
theorem streams_to_game {acts : List Action} (h : (system config).exec {} acts = some s)
    (k : StreamKind) (p : Str) :
    Enumerates (arrived s k p) (returned s.world.client k p ++ waiting s.world.client k p) ∧
    (∃ f : StreamId → Option RecvStream, (∀ i r, f i = some r → arrived s k p i = some r) ∧
      Enumerates f (returned s.world.client k p)) ∧
    (∀ i r, arrived s k p i = some r → ∃ stream r1, s.playerStreams i = some stream ∧
      stream.kind = k ∧ s.world.proxy.owner stream.conn = some p ∧
      stream.handled = some (p, r1) ∧
      Reads stream.content.written (r1.ending = .finished ∧ r.ending = .finished) r) ∧
    ∀ i stream r2, s.playerStreams i = some stream → stream.kind = k →
      s.world.proxy.owner stream.conn = some p → stream.accepted = some r2 →
      r2.ending = .finished →
      (serialize ServerStreamHeader.codec (.playerStreamOpened p)).length ≤ 1024 →
      s.clientHand = some i ∨ ∃ r, arrived s k p i = some r := by
  have hs := inv_of_exec h
  obtain ⟨bs, hworld⟩ := exec_world h
  have hclient := Client.inv_of_exec (World.exec_client hworld)
  have hall := hs.toGame.arrived k p
  rw [← returned_append_waiting hclient k p] at hall
  refine ⟨hall, hall.of_prefix (List.prefix_append _ _), ?_, ?_⟩
  · intro i r hi
    obtain ⟨stream, r2, hstream, hkind, ha, hread⟩ := exists_of_arrived hi
    have hok := hs.toGame.streams i stream hstream
    obtain ⟨q, r1, hhandled, hr2⟩ := hok.accepted r2 ha
    obtain ⟨rfl, hr⟩ := info_of_arrives hr2 hread
    obtain ⟨howner, hr1⟩ := hok.handled p r1 hhandled
    refine ⟨stream, r1, hstream, hkind, howner, hhandled, hr.bytes.trans hr1.bytes, ?_⟩
    rintro ⟨hend1, hend⟩
    exact (hr.exact hend).2.trans (hr1.exact hend1).2
  · intro i stream r2 hstream hkind howner ha hend hfits
    have hok := hs.toGame.streams i stream hstream
    obtain ⟨q, r1, hhandled, hr2⟩ := hok.accepted r2 ha
    cases (hok.handled q r1 hhandled).1.symm.trans howner
    have haccepted : Accepted (.playerStreamOpened p) r1.bytes (r2.ending = .finished)
        (readFramed ServerStreamHeader.codec r2 1024) := Arrives.accepted hfits hr2
    obtain ⟨r, hread, -⟩ := haccepted.exact hend
    have hinfo : infoOf r2 = some (p, r) := by
      rw [infoOf_eq_some_iff, Client.readStreamInfo, hread]
      rfl
    by_cases hhand : s.clientHand = some i
    · exact .inl hhand
    · refine .inr ⟨r, ?_⟩
      rw [arrived, if_neg hhand, hstream, Option.bind_some, PlayerStream.found, ha,
        Option.bind_some, hinfo]
      exact if_pos ⟨hkind.symm, rfl⟩

/-- A player joins. -/
def joined : List Action :=
  [World.Action.proxy (.clientMessage (.allocateEndpoint "game")),
    .proxy (.recvClientMessage (.ok ProxyServer.localEndpoint)),
    .proxy .setAllocatedEndpoint, .proxy .sendAllocation,
    .proxy .acceptConnection, .proxy (.handshakeDone Str.a), .proxy .spawnPlayer,
    .proxy .insertPlayer].map .world

/-- It opens a stream, which the game accepts. -/
def playerOpensUni : List Action :=
  joined ++
    [.playerOpens 0 0 .uni ⟨[0x07, 0x08], true⟩,
      .playerTaskHandles 0 ⟨[[0x07], [0x08]], .finished⟩,
      .clientAccepts 0
        ⟨[(PlayerConnection.handleUni Str.a ⟨[[0x07], [0x08]], .finished⟩).written], .finished⟩,
      .clientReads, .world (.client .push), .world (.client (.acceptUni 0 Str.a)),
      .world (.client (.lock 0))]

theorem streams_to_game_playerOpensUni :
    ∃ s, (system ⟨ProxyServer.localConfig, ⟨none, none⟩⟩).exec {} playerOpensUni = some s ∧
      returned s.world.client .uni Str.a = [⟨[[0x07, 0x08]], .finished⟩] ∧
      Enumerates (arrived s .uni Str.a)
        (returned s.world.client .uni Str.a ++ waiting s.world.client .uni Str.a) := by
  have hrun : (system ⟨ProxyServer.localConfig, ⟨none, none⟩⟩).exec {} playerOpensUni
      = some _ := rfl
  exact ⟨_, rfl, rfl, (streams_to_game hrun .uni Str.a).1⟩

end AmbientProxy.StreamWorld
