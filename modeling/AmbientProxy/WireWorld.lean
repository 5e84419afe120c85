import AmbientProxy.Allocation
import AmbientProxy.ControlChannel
import AmbientProxy.World

/-! # Both machines over bytes — the control stream of `World` refined

    `World` gives each machine the other's control messages one by one, and requires of a
    run that what arrives is what was written, in order.  Here the control stream is what
    it is, frames of bytes in both directions, and nothing is required:

        message-processing task      toServer ─bytes─▶      Client::start
          tx.send, rx.next         ◀─bytes─ toProxy           rx.next, tx.send

    A machine takes a message where its `IncomingStream` decodes one from what has come in
    so far, a `send` may fail with a part of its frame written, and a message whose
    encoding is above one GiB is not sent at all.  The codecs are any `Codecs`: among them
    are those of every `Bincode` and every delimiter for frames of that length.

    * `controlStream_exact` — what each machine was given is what the other one sent, up
      to the bytes under way;
    * `refines_world` — where no message is too long, every run is a run of `World`: what
      holds of all runs there holds here;
    * `realizes_world` — and every run of `World` is what some run over bytes comes to. -/

namespace AmbientProxy.WireWorld

open Transition

/-- The codecs of both directions. -/
structure Codecs where
  server : ControlCodec ServerMessage
  client : ControlCodec ClientMessage
  serverCarries : server.Carries ServerMessage.carried
  clientCarries : client.Carries id

/-- Any `Bincode`, with any delimiter for frames of up to one GiB. -/
def Codecs.ofBincode (b : Bincode) (d : Delimiter)
    (hd : ∀ {data}, d.Fits data ↔ data.length ≤ maxFrameLength) : Codecs where
  server := ⟨ServerMessage.wire b, d, hd⟩
  client := ⟨ClientMessage.wire b, d, hd⟩
  serverCarries := ServerMessage.carries rfl
  clientCarries := ClientMessage.carries rfl

structure State where
  world : World.State := {}
  toServer : Direction ServerMessage := {}
  toProxy : Direction ClientMessage := {}

inductive Action where
  /-- A step that takes nothing from the control stream and puts nothing on it. -/
  | world (a : World.Action)
  -- the message-processing task
  | proxySends
  | proxySendFails (n : Nat)
  | proxySendTooLong
  | proxyReads (message : ClientMessage)
  -- `Client::start`
  | clientSends
  | clientSendFails (n : Nat)
  | clientReads (message : ServerMessage)
  -- the streams: bytes come in, or the branch of a reader completes without a message
  | toServer (a : Direction.Action ServerMessage)
  | toProxy (a : Direction.Action ClientMessage)

/-- The steps of `World` that leave the control stream alone: the others are actions of
    their own here.  On a stream that has failed `tx.send` writes nothing. -/
def apart (s : World.State) : World.Action → Bool
  | .proxy .writeMessage => s.proxy.controlFailed
  | .proxy (.clientMessage _) => false
  | .client (.serverMessage _) => false
  | .client (.messageSent sent) => !sent
  | _ => true

/-- The steps of a direction that belong to neither machine. -/
def passes {T : Type} (c : ControlCodec T) (s : Direction T) : Direction.Action T → Bool
  | .arrive _ | .ends _ | .otherBranch => true
  | .poll =>
      match (s.incoming.next c).1 with
      | .err | .pending => true
      | .ok _ => false
  | .send _ | .sendFails _ _ => false

/-- What each action does, where it is enabled. -/
def step (codecs : Codecs) (config : World.Config) (s : State) : Action → Option State
  | .world a =>
      if apart s.world a then
        ((World.system config).step s.world a).map fun world => { s with world := world }
      else none
  | .proxySends =>
      if s.world.proxy.controlFailed then none
      else do
        let message ← s.world.proxy.serverMessages.head?
        let toServer ← s.toServer.step codecs.server (.send message)
        let world ← (World.system config).step s.world (.proxy .writeMessage)
        some { s with world := world, toServer := toServer }
  | .proxySendFails n =>
      if s.world.proxy.controlFailed then none
      else do
        let message ← s.world.proxy.serverMessages.head?
        let toServer ← s.toServer.step codecs.server (.sendFails message n)
        let world ←
          (World.system config).exec s.world [.proxy .controlFails, .proxy .writeMessage]
        some { s with world := world, toServer := toServer }
  | .proxySendTooLong =>
      match s.world.proxy.serverMessages with
      | [] => none
      | message :: rest =>
          if s.world.proxy.messageTaskEnded ∨ s.world.proxy.controlFailed then none
          else
            match OutgoingStream.send codecs.server message with
            | .ok _ | .panic => none
            | .err _ =>
                let proxy := { s.world.proxy with serverMessages := rest }
                some { s with world := { s.world with proxy := proxy } }
  | .proxyReads message =>
      if (s.toProxy.incoming.next codecs.client).1 = .ok message then do
        let toProxy ← s.toProxy.step codecs.client .poll
        let world ← (World.system config).step s.world (.proxy (.clientMessage message))
        some { s with world := world, toProxy := toProxy }
      else none
  | .clientSends =>
      match s.world.client.phase with
      | .sendMessage message => do
          let toProxy ← s.toProxy.step codecs.client (.send message)
          let world ← (World.system config).step s.world (.client (.messageSent true))
          some { s with world := world, toProxy := toProxy }
      | _ => none
  | .clientSendFails n =>
      match s.world.client.phase with
      | .sendMessage message => do
          let toProxy ← s.toProxy.step codecs.client (.sendFails message n)
          let world ← (World.system config).step s.world (.client (.messageSent false))
          some { s with world := world, toProxy := toProxy }
      | _ => none
  | .clientReads message =>
      if (s.toServer.incoming.next codecs.server).1 = .ok message then do
        let toServer ← s.toServer.step codecs.server .poll
        -- the loop takes whatever comes: nothing here says that it was sent
        let client ← Client.step config.client s.world.client (.serverMessage message)
        some { s with world := { s.world with client := client }, toServer := toServer }
      else none
  | .toServer a =>
      if passes codecs.server s.toServer a then
        (s.toServer.step codecs.server a).map fun toServer => { s with toServer := toServer }
      else none
  | .toProxy a =>
      if passes codecs.client s.toProxy a then
        (s.toProxy.step codecs.client a).map fun toProxy => { s with toProxy := toProxy }
      else none

def system (codecs : Codecs) (config : World.Config) : System State Action where
  init := {}
  step := step codecs config

/-- The steps of the system, each with all that it needs and all that it does. -/
inductive Step (codecs : Codecs) (config : World.Config) (s : State) : Action → State → Prop where
  | world {a : World.Action} {world : World.State} (ha : apart s.world a = true)
      (h : (World.system config).step s.world a = some world) :
      Step codecs config s (.world a) { s with world := world }
  | proxySends {message : ServerMessage} {rest : List ServerMessage}
      {toServer : Direction ServerMessage} {world : World.State}
      (hm : s.world.proxy.serverMessages = message :: rest)
      (hc : s.world.proxy.controlFailed = false)
      (hd : (Direction.system codecs.server).step s.toServer (.send message) = some toServer)
      (h : (World.system config).step s.world (.proxy .writeMessage) = some world) :
      Step codecs config s .proxySends { s with world := world, toServer := toServer }
  | proxySendFails {message : ServerMessage} {rest : List ServerMessage} {n : Nat}
      {toServer : Direction ServerMessage} {world : World.State}
      (hm : s.world.proxy.serverMessages = message :: rest)
      (hd : (Direction.system codecs.server).step s.toServer (.sendFails message n)
        = some toServer)
      (h : (World.system config).exec s.world [.proxy .controlFails, .proxy .writeMessage]
        = some world) :
      Step codecs config s (.proxySendFails n) { s with world := world, toServer := toServer }
  | proxySendTooLong {message : ServerMessage} {rest : List ServerMessage}
      (hm : s.world.proxy.serverMessages = message :: rest)
      (hc : s.world.proxy.controlFailed = false)
      (hlen : maxFrameLength < (codecs.server.wire.encode message).length) :
      Step codecs config s .proxySendTooLong { s with
        world := { s.world with proxy := { s.world.proxy with serverMessages := rest } } }
  | proxyReads {message : ClientMessage} {toProxy : Direction ClientMessage} {world : World.State}
      (hn : (s.toProxy.incoming.next codecs.client).1 = .ok message)
      (hd : (Direction.system codecs.client).step s.toProxy .poll = some toProxy)
      (h : (World.system config).step s.world (.proxy (.clientMessage message)) = some world) :
      Step codecs config s (.proxyReads message) { s with world := world, toProxy := toProxy }
  | clientSends {message : ClientMessage} {toProxy : Direction ClientMessage} {world : World.State}
      (hp : s.world.client.phase = .sendMessage message)
      (hd : (Direction.system codecs.client).step s.toProxy (.send message) = some toProxy)
      (h : (World.system config).step s.world (.client (.messageSent true)) = some world) :
      Step codecs config s .clientSends { s with world := world, toProxy := toProxy }
  | clientSendFails {message : ClientMessage} {n : Nat} {toProxy : Direction ClientMessage}
      {world : World.State} (hp : s.world.client.phase = .sendMessage message)
      (hd : (Direction.system codecs.client).step s.toProxy (.sendFails message n)
        = some toProxy)
      (h : (World.system config).step s.world (.client (.messageSent false)) = some world) :
      Step codecs config s (.clientSendFails n) { s with world := world, toProxy := toProxy }
  | clientReads {message : ServerMessage} {toServer : Direction ServerMessage}
      {client : Client.State}
      (hn : (s.toServer.incoming.next codecs.server).1 = .ok message)
      (hd : (Direction.system codecs.server).step s.toServer .poll = some toServer)
      (h : (Client.system config.client).step s.world.client (.serverMessage message)
        = some client) :
      Step codecs config s (.clientReads message)
        { s with world := { s.world with client := client }, toServer := toServer }
  | toServer {a : Direction.Action ServerMessage} {toServer : Direction ServerMessage}
      (ha : passes codecs.server s.toServer a = true)
      (hd : (Direction.system codecs.server).step s.toServer a = some toServer) :
      Step codecs config s (.toServer a) { s with toServer := toServer }
  | toProxy {a : Direction.Action ClientMessage} {toProxy : Direction ClientMessage}
      (ha : passes codecs.client s.toProxy a = true)
      (hd : (Direction.system codecs.client).step s.toProxy a = some toProxy) :
      Step codecs config s (.toProxy a) { s with toProxy := toProxy }

variable {codecs : Codecs} {config : World.Config} {s t : State} {a : Action} {acts : List Action}

theorem step_cases (h : (system codecs config).step s a = some t) : Step codecs config s a t := by
  change step codecs config s a = some t at h
  cases a with
  | world a =>
      rw [step] at h
      split at h
      · rename_i ha
        obtain ⟨world, hstep, rfl⟩ := Option.map_eq_some_iff.mp h
        exact .world ha hstep
      · cases h
  | proxySends =>
      rw [step] at h
      split at h
      · cases h
      · rename_i hc
        obtain ⟨message, hm, h⟩ := Option.bind_eq_some_iff.mp h
        obtain ⟨toServer, hd, h⟩ := Option.bind_eq_some_iff.mp h
        obtain ⟨world, hw, h⟩ := Option.bind_eq_some_iff.mp h
        cases h
        obtain ⟨rest, hrest⟩ := List.head?_eq_some_iff.mp hm
        exact .proxySends hrest (Bool.of_not_eq_true hc) hd hw
  | proxySendFails n =>
      rw [step] at h
      split at h
      · cases h
      · rename_i hc
        obtain ⟨message, hm, h⟩ := Option.bind_eq_some_iff.mp h
        obtain ⟨toServer, hd, h⟩ := Option.bind_eq_some_iff.mp h
        obtain ⟨world, hw, h⟩ := Option.bind_eq_some_iff.mp h
        cases h
        obtain ⟨rest, hrest⟩ := List.head?_eq_some_iff.mp hm
        exact .proxySendFails hrest hd hw
  | proxySendTooLong =>
      rw [step] at h
      split at h
      · cases h
      · rename_i message rest hm
        split at h
        · cases h
        · rename_i hc
          obtain ⟨-, hc⟩ := not_or.mp hc
          split at h
          · cases h
          · cases h
          · rename_i hsend
            cases h
            refine .proxySendTooLong hm (Bool.of_not_eq_true hc) (Nat.not_le.mp ?_)
            intro hle
            cases hsend.symm.trans (Direction.send_eq_ok_iff.mpr ⟨hle, rfl⟩)
  | proxyReads message =>
      rw [step] at h
      split at h
      · rename_i hn
        obtain ⟨toProxy, hd, h⟩ := Option.bind_eq_some_iff.mp h
        obtain ⟨world, hw, h⟩ := Option.bind_eq_some_iff.mp h
        cases h
        exact .proxyReads hn hd hw
      · cases h
  | clientSends =>
      rw [step] at h
      split at h
      · rename_i message hp
        obtain ⟨toProxy, hd, h⟩ := Option.bind_eq_some_iff.mp h
        obtain ⟨world, hw, h⟩ := Option.bind_eq_some_iff.mp h
        cases h
        exact .clientSends hp hd hw
      · cases h
  | clientSendFails n =>
      rw [step] at h
      split at h
      · rename_i message hp
        obtain ⟨toProxy, hd, h⟩ := Option.bind_eq_some_iff.mp h
        obtain ⟨world, hw, h⟩ := Option.bind_eq_some_iff.mp h
        cases h
        exact .clientSendFails hp hd hw
      · cases h
  | clientReads message =>
      rw [step] at h
      split at h
      · rename_i hn
        obtain ⟨toServer, hd, h⟩ := Option.bind_eq_some_iff.mp h
        obtain ⟨client, hw, h⟩ := Option.bind_eq_some_iff.mp h
        cases h
        exact .clientReads hn hd hw
      · cases h
  | toServer a =>
      rw [step] at h
      split at h
      · rename_i ha
        obtain ⟨toServer, hd, rfl⟩ := Option.map_eq_some_iff.mp h
        exact .toServer ha hd
      · cases h
  | toProxy a =>
      rw [step] at h
      split at h
      · rename_i ha
        obtain ⟨toProxy, hd, rfl⟩ := Option.map_eq_some_iff.mp h
        exact .toProxy ha hd
      · cases h

/-! ## Both ends of both directions -/

theorem receiveOutcome_written (s : Client.State) (k : Client.Kind)
    (outcome : Outcome (Str × k.Item)) : (s.receiveOutcome k outcome).written = s.written := by
  cases outcome <;> rfl

/-- What a step that leaves the control stream alone leaves of `World`. -/
theorem apart_frame {s t : World.State} {a : World.Action} (ha : apart s a = true)
    (h : (World.system config).step s a = some t) :
    t.proxy.written = s.proxy.written ∧ t.client.fromProxy = s.client.fromProxy ∧
      t.client.written = s.client.written := by
  cases World.step_cases h with
  | proxy hg hstep =>
      refine ⟨?_, rfl, rfl⟩
      cases ProxyServer.step_cases hstep with
      | writeMessage hm he hc => cases hc.symm.trans ha
      | _ => rfl
  | client hg hstep =>
      refine ⟨rfl, ?_, ?_⟩
      · rename_i a client
        rw [(World.clientEnds hstep).fromProxy]
        cases a with
        | serverMessage message => cases ha
        | _ => exact List.append_nil _
      · cases Client.step_cases hstep with
        | messageSent _ => cases ha
        | uniHeader _ | biHeader _ | datagram _ => exact receiveOutcome_written _ _ _
        | _ => rfl
  | playerSends => exact ⟨rfl, rfl, rfl⟩

/-- A step of a direction that belongs to neither machine. -/
theorem passes_frame {T : Type} {c : ControlCodec T} {s t : Direction T} {a : Direction.Action T}
    (ha : passes c s a = true) (h : (Direction.system c).step s a = some t) :
    t.sent = s.sent ∧ t.incoming.messages = s.incoming.messages := by
  cases a with
  | send message | sendFails message n => cases ha
  | poll =>
      refine Direction.poll_of_not_ok ?_ h
      intro message hok
      rw [passes, hok] at ha
      cases ha
  | arrive n =>
      cases Direction.step_cases h with
      | arrive hstep =>
          cases IncomingStream.step_cases hstep with
          | receive _ _ => exact ⟨rfl, rfl⟩
      | reader hb _ => cases hb
  | ends _ | otherBranch =>
      cases Direction.step_cases h with
      | reader hb hstep =>
          cases hb
          cases IncomingStream.step_cases hstep with
          | _ => exact ⟨rfl, rfl⟩

theorem sent_of_send {T : Type} {c : ControlCodec T} {s t : Direction T} {message : T}
    (h : (Direction.system c).step s (.send message) = some t) :
    t.sent = s.sent ++ [message] ∧ t.incoming = s.incoming := by
  cases Direction.step_cases h with
  | send _ _ => exact ⟨rfl, rfl⟩
  | reader hb _ => cases hb

theorem sent_of_sendFails {T : Type} {c : ControlCodec T} {s t : Direction T} {message : T}
    {n : Nat} (h : (Direction.system c).step s (.sendFails message n) = some t) :
    t.sent = s.sent ∧ t.incoming = s.incoming := by
  cases Direction.step_cases h with
  | sendFails _ _ _ => exact ⟨rfl, rfl⟩
  | reader hb _ => cases hb

/-- A `tx.send` of the proxy that fails. -/
theorem frame_of_sendFails {s t : World.State}
    (h : (World.system config).exec s [.proxy .controlFails, .proxy .writeMessage] = some t) :
    t.proxy.written = s.proxy.written ∧ t.proxy.sent = s.proxy.sent ∧ t.client = s.client := by
  obtain ⟨m, hm, h⟩ := exec_cons_iff.mp h
  obtain ⟨u, hu, h⟩ := exec_cons_iff.mp h
  cases h
  cases World.step_cases hm with
  | proxy _ hfails =>
      cases ProxyServer.step_cases hfails with
      | controlFails =>
          cases World.step_cases hu with
          | proxy _ hwrite =>
              cases ProxyServer.step_cases hwrite with
              | writeMessage _ _ hc => cases hc
              | loseMessage _ _ _ => exact ⟨rfl, rfl, rfl⟩

/-! ## The control stream and `World` -/

/-- What `World` records of the control stream is what is on the streams. -/
structure Linked (codecs : Codecs) (s : State) : Prop where
  toServer : Direction.Inv codecs.server s.toServer
  toProxy : Direction.Inv codecs.client s.toProxy
  written : s.toServer.sent = s.world.proxy.written
  fromProxy : s.toServer.incoming.messages = s.world.client.fromProxy
  clientWritten : s.toProxy.sent = s.world.client.written

theorem Linked.init : Linked codecs {} := ⟨Direction.Inv.init, Direction.Inv.init, rfl, rfl, rfl⟩

/-- The message that the proxy takes from the control stream in a step. -/
def Action.proxyTakes : Action → Option ClientMessage
  | .proxyReads message => some message
  | _ => none

/-- What the proxy has taken from the control stream. -/
def takenByProxy (acts : List Action) : List ClientMessage := acts.filterMap Action.proxyTakes

/-- Nothing is taken from the stream to the proxy but by a `proxyReads`. -/
theorem takenByProxy_step (h : (system codecs config).step s a = some t) :
    t.toProxy.incoming.messages = s.toProxy.incoming.messages ++ takenByProxy [a] := by
  cases step_cases h with
  | proxyReads hn hd _ => exact (Direction.poll_of_ok hn hd).2
  | clientSends _ hd _ =>
      rw [(sent_of_send hd).2]
      exact (List.append_nil _).symm
  | clientSendFails _ hd _ =>
      rw [(sent_of_sendFails hd).2]
      exact (List.append_nil _).symm
  | toProxy ha hd =>
      rw [(passes_frame ha hd).2]
      exact (List.append_nil _).symm
  | _ => exact (List.append_nil _).symm

theorem Linked.step (hs : Linked codecs s) (h : (system codecs config).step s a = some t) :
    Linked codecs t := by
  have ⟨htoServer, htoProxy, hwritten, hfromProxy, hclientWritten⟩ := hs
  cases step_cases h with
  | world ha hw =>
      obtain ⟨hw', hf', hc'⟩ := apart_frame ha hw
      exact ⟨htoServer, htoProxy, hwritten.trans hw'.symm, hfromProxy.trans hf'.symm,
        hclientWritten.trans hc'.symm⟩
  | proxySends hm hc hd hw =>
      rename_i message rest toServer world
      obtain ⟨hsent, hincoming⟩ := sent_of_send hd
      cases World.step_cases hw with
      | proxy hg hstep =>
          cases ProxyServer.step_cases hstep with
          | writeMessage hm' _ _ =>
              cases hm.symm.trans hm'
              refine ⟨htoServer.step codecs.serverCarries hd, htoProxy, ?_, ?_, hclientWritten⟩
              · show toServer.sent = s.world.proxy.written ++ [message]
                rw [hsent, hwritten]
              · show toServer.incoming.messages = _
                rw [hincoming]
                exact hfromProxy
          | loseMessage _ _ hc' => cases hc.symm.trans hc'
  | proxySendFails hm hd hw =>
      rename_i message rest n toServer world
      obtain ⟨hsent, hincoming⟩ := sent_of_sendFails hd
      obtain ⟨hwritten', -, hclient⟩ := frame_of_sendFails hw
      refine ⟨htoServer.step codecs.serverCarries hd, htoProxy, ?_, ?_, ?_⟩
      · exact hsent.trans (hwritten.trans hwritten'.symm)
      · show toServer.incoming.messages = world.client.fromProxy
        rw [hincoming, hclient, hfromProxy]
      · show s.toProxy.sent = world.client.written
        rw [hclient, hclientWritten]
  | proxySendTooLong hm hc hlen => exact ⟨htoServer, htoProxy, hwritten, hfromProxy, hclientWritten⟩
  | proxyReads hn hd hw =>
      obtain ⟨hsent, -⟩ := Direction.poll_of_ok hn hd
      cases World.step_cases hw with
      | proxy hg hstep =>
          cases ProxyServer.step_cases hstep with
          | clientMessage _ =>
              exact ⟨htoServer, htoProxy.step codecs.clientCarries hd, hwritten, hfromProxy,
                hsent.trans hclientWritten⟩
  | clientSends hp hd hw =>
      obtain ⟨hsent, -⟩ := sent_of_send hd
      cases World.step_cases hw with
      | client hg hstep =>
          cases Client.step_cases hstep with
          | messageSent hp' =>
              cases hp.symm.trans hp'
              exact ⟨htoServer, htoProxy.step codecs.clientCarries hd, hwritten, hfromProxy,
                hsent.trans (congrArg (· ++ _) hclientWritten)⟩
  | clientSendFails hp hd hw =>
      obtain ⟨hsent, -⟩ := sent_of_sendFails hd
      cases World.step_cases hw with
      | client hg hstep =>
          cases Client.step_cases hstep with
          | messageLost _ =>
              exact ⟨htoServer, htoProxy.step codecs.clientCarries hd, hwritten, hfromProxy,
                hsent.trans hclientWritten⟩
  | clientReads hn hd hstep =>
      rename_i message toServer client
      obtain ⟨hsent, hmessages⟩ := Direction.poll_of_ok hn hd
      refine ⟨htoServer.step codecs.serverCarries hd, htoProxy, hsent.trans hwritten, ?_, ?_⟩
      · show toServer.incoming.messages = client.fromProxy
        rw [(World.clientEnds hstep).fromProxy, hmessages, hfromProxy]
        rfl
      · refine hclientWritten.trans ?_
        cases Client.step_cases hstep with
        | _ => rfl
  | toServer ha hd =>
      obtain ⟨hsent, hmessages⟩ := passes_frame ha hd
      exact ⟨htoServer.step codecs.serverCarries hd, htoProxy, hsent.trans hwritten,
        hmessages.trans hfromProxy, hclientWritten⟩
  | toProxy ha hd =>
      obtain ⟨hsent, -⟩ := passes_frame ha hd
      exact ⟨htoServer, htoProxy.step codecs.clientCarries hd, hwritten, hfromProxy,
        hsent.trans hclientWritten⟩

theorem linked_of_exec (h : (system codecs config).exec {} acts = some s) :
    Linked codecs s ∧ takenByProxy acts = s.toProxy.incoming.messages := by
  refine exec_history (P := fun acts s => Linked codecs s ∧ takenByProxy acts
    = s.toProxy.incoming.messages) ⟨Linked.init, rfl⟩ ?_ h
  rintro acts m a t ⟨hm, htaken⟩ hstep
  refine ⟨hm.step hstep, ?_⟩
  rw [takenByProxy_step hstep, ← htaken]
  exact List.filterMap_append

/-- **Each machine is given what the other one sent**, byte by byte, in every run of both:
    the messages that `Client::start` took from the control stream are what is carried of
    the first of those that the proxy wrote, those that the proxy took are the first of
    those that the client wrote, and what the streams hold between them are the frames of
    the others. -/
theorem controlStream_exact (h : (system codecs config).exec {} acts = some s) :
    (∃ taken underway, s.world.proxy.written = taken ++ underway ∧
      s.world.client.fromProxy = taken.map ServerMessage.carried ∧
      s.toServer.incoming.stream.buffer
          ++ (s.toServer.incoming.source.arrived.flatten ++ s.toServer.inFlight)
        = codecs.server.delimiter.stream (underway.map codecs.server.wire.encode)
          ++ s.toServer.part) ∧
    ∃ underway, s.world.client.written = takenByProxy acts ++ underway ∧
      s.toProxy.incoming.stream.buffer
          ++ (s.toProxy.incoming.source.arrived.flatten ++ s.toProxy.inFlight)
        = codecs.client.delimiter.stream (underway.map codecs.client.wire.encode)
          ++ s.toProxy.part := by
  obtain ⟨hs, htaken⟩ := linked_of_exec h
  obtain ⟨taken, toServer, hserver, hread, hserverBytes⟩ :=
    hs.toServer.underway codecs.serverCarries
  obtain ⟨taken', toProxy, hproxy, hread', hproxyBytes⟩ := hs.toProxy.underway codecs.clientCarries
  refine ⟨⟨taken, toServer, ?_, ?_, hserverBytes⟩, toProxy, ?_, hproxyBytes⟩
  · rw [← hs.written, hserver]
  · rw [← hs.fromProxy, hread]
  · rw [← hs.clientWritten, htaken, hread', List.map_id, hproxy]

/-- A proxy and a game server with their defaults. -/
def localWorld : World.Config := ⟨ProxyServer.localConfig, ⟨none, none⟩⟩

/-- With `bincode` and `LengthDelimitedCodec`. -/
def localCodecs : Codecs := .ofBincode bincode controlCodec controlCodec_fits_iff

/-- An asset is requested twice; the first message comes in in two pieces, and the second
    breaks off. -/
def secondBreaksOff : List Action :=
  [.world (.proxy (.requestAsset Str.a)), .proxySends, .toServer (.arrive 5),
    .world (.proxy (.requestAsset Str.a)), .proxySendFails 9, .toServer (.arrive 20),
    .clientReads (.requestAsset Str.a)]

theorem controlStream_exact_secondBreaksOff :
    ∃ s taken underway, (system localCodecs localWorld).exec {} secondBreaksOff = some s ∧
      s.world.client.fromProxy = [.requestAsset Str.a] ∧
      s.world.proxy.sent = [.requestAsset Str.a, .requestAsset Str.a] ∧
      s.world.proxy.written = taken ++ underway ∧
      s.world.client.fromProxy = taken.map ServerMessage.carried := by
  have hrun : (system localCodecs localWorld).exec {} secondBreaksOff = some _ := rfl
  obtain ⟨⟨taken, underway, hwritten, hread, -⟩, -⟩ := controlStream_exact hrun
  exact ⟨_, taken, underway, hrun, rfl, rfl, hwritten, hread⟩

/-! ## Refinement -/

/-- The steps of `World` that an action is. -/
def Action.onWorld : Action → List World.Action
  | .world a => [a]
  | .proxySends => [.proxy .writeMessage]
  | .proxySendFails _ => [.proxy .controlFails, .proxy .writeMessage]
  | .proxyReads message => [.proxy (.clientMessage message)]
  | .clientSends => [.client (.messageSent true)]
  | .clientSendFails _ => [.client (.messageSent false)]
  | .clientReads message => [.client (.serverMessage message)]
  | .proxySendTooLong | .toServer _ | .toProxy _ => []

/-- A step of `World`'s client where its guard is met. -/
theorem client_step {s : World.State} {a : Client.Action} {client : Client.State}
    (hg : World.guard s (.client a))
    (h : (Client.system config.client).step s.client a = some client) :
    (World.system config).step s (.client a) = some { s with client := client } := by
  show World.step config s (.client a) = _
  rw [World.step, if_pos hg]
  show (Client.step config.client s.client a).map _ = _
  rw [show Client.step config.client s.client a = some client from h]
  rfl

/-- Every step but a `send` of a message that is too long is a step of `World`: that the
    message was next is what the bytes say. -/
theorem Linked.onWorld (hs : Linked codecs s) (ha : a ≠ .proxySendTooLong)
    (h : (system codecs config).step s a = some t) :
    (World.system config).exec s.world a.onWorld = some t.world := by
  cases step_cases h with
  | world _ hw | proxySends _ _ _ hw | proxyReads _ _ hw | clientSends _ _ hw
  | clientSendFails _ _ hw => exact exec_cons_iff.mpr ⟨_, hw, rfl⟩
  | proxySendFails _ _ hw => exact hw
  | proxySendTooLong _ _ _ => exact absurd rfl ha
  | clientReads hn hd hstep =>
      rename_i message toServer client
      have ht := hs.toServer.step codecs.serverCarries hd
      obtain ⟨hsent, hmessages⟩ := Direction.poll_of_ok hn hd
      obtain ⟨taken, underway, hunderway, hread, -⟩ := ht.underway codecs.serverCarries
      have hnext : World.guard s.world (.client (.serverMessage message)) := by
        show s.world.client.fromProxy ++ [message] <+:
          s.world.proxy.written.map ServerMessage.carried
        rw [← hs.fromProxy, ← hs.written, ← hmessages, ← hsent, hunderway, hread, List.map_append]
        exact List.prefix_append _ _
      exact exec_cons_iff.mpr ⟨_, client_step hnext hstep, rfl⟩
  | toServer _ _ | toProxy _ _ => rfl

/-- Messages that were handed to the control stream stay so. -/
theorem sent_step {config : ProxyServer.ProxyConfig} {s t : ProxyServer.State}
    {a : ProxyServer.Action} (h : (ProxyServer.system config).step s a = some t) :
    s.sent ⊆ t.sent := by
  cases ProxyServer.step_cases h with
  | requestAsset _ | handshakeDone _ _ _ | sendAllocation _ _ =>
      exact List.subset_append_left _ _
  | _ => exact List.Subset.refl _

theorem world_sent_step {s t : World.State} {a : World.Action}
    (h : (World.system config).step s a = some t) : s.proxy.sent ⊆ t.proxy.sent := by
  cases World.step_cases h with
  | proxy _ hstep => exact sent_step hstep
  | client _ _ | playerSends => exact List.Subset.refl _

theorem sent_grows (h : (system codecs config).step s a = some t) :
    s.world.proxy.sent ⊆ t.world.proxy.sent := by
  cases step_cases h with
  | world _ hw | proxySends _ _ _ hw | proxyReads _ _ hw | clientSends _ _ hw
  | clientSendFails _ _ hw => exact world_sent_step hw
  | proxySendFails _ _ hw => rw [(frame_of_sendFails hw).2.1]; exact List.Subset.refl _
  | proxySendTooLong _ _ _ | clientReads _ _ _ | toServer _ _ | toProxy _ _ =>
      exact List.Subset.refl _

/-- **The control stream of `World` is refined by bytes.**  Where no message that is handed
    to it has more than one GiB, every run over bytes is a run of `World`: how the frames
    were cut, when they came in and which of them broke off makes no difference, and that
    messages arrive as they were written need not be assumed. -/
theorem refines_world (h : (system codecs config).exec {} acts = some s)
    (hlen : ∀ message ∈ s.world.proxy.sent,
      (codecs.server.wire.encode message).length ≤ maxFrameLength) :
    (World.system config).exec {} (acts.flatMap Action.onWorld) = some s.world := by
  refine (exec_history (P := fun acts s => Linked codecs s ∧ ((∀ message ∈ s.world.proxy.sent,
      (codecs.server.wire.encode message).length ≤ maxFrameLength) →
    (World.system config).exec {} (acts.flatMap Action.onWorld) = some s.world))
    ⟨Linked.init, fun _ => rfl⟩ ?_ h).2 hlen
  rintro acts m a t ⟨hm, hrun⟩ hstep
  refine ⟨hm.step hstep, ?_⟩
  intro hlen
  have hmrun := hrun fun message hmem => hlen message (sent_grows hstep hmem)
  rw [List.flatMap_append, List.flatMap_singleton, exec_append, hmrun, Option.bind_some]
  refine hm.onWorld ?_ hstep
  rintro rfl
  cases step_cases hstep with
  | proxySendTooLong hq hc hlong =>
      -- what is queued was handed over, so it is not too long
      have hwritten := exec_invariant ProxyServer.Written.step ProxyServer.Written.init
        (World.exec_proxy hmrun)
      have hsent := hwritten.queued hc
      rw [hq] at hsent
      have hmem := hsent ▸ List.mem_append_right _ List.mem_cons_self
      exact absurd (hlen _ hmem) (Nat.not_le.mpr hlong)

theorem refines_world_secondBreaksOff :
    ∃ s, (system localCodecs localWorld).exec {} secondBreaksOff = some s ∧
      (World.system localWorld).exec {} (secondBreaksOff.flatMap Action.onWorld)
        = some s.world := by
  have hrun : (system localCodecs localWorld).exec {} secondBreaksOff = some _ := rfl
  exact ⟨_, hrun, refines_world hrun (by decide)⟩

/-! ## All of `World` -/

/-- Both streams are open and unharmed. -/
structure Ready (codecs : Codecs) (s : State) : Prop where
  linked : Linked codecs s
  toServer : s.toServer.failed = false ∧ s.toServer.incoming.source.ended = none
  toProxy : s.toProxy.failed = false ∧ s.toProxy.incoming.source.ended = none

theorem Ready.init : Ready codecs {} := ⟨Linked.init, ⟨rfl, rfl⟩, rfl, rfl⟩

/-- The message that a step of `World` takes from the stream to the proxy. -/
def readOfClient : World.Action → List ClientMessage
  | .proxy (.clientMessage message) => [message]
  | _ => []

theorem proxySends_step {message : ServerMessage} {toServer : Direction ServerMessage}
    {world : World.State} (hc : s.world.proxy.controlFailed = false)
    (hm : s.world.proxy.serverMessages.head? = some message)
    (hd : (Direction.system codecs.server).step s.toServer (.send message) = some toServer)
    (h : (World.system config).step s.world (.proxy .writeMessage) = some world) :
    (system codecs config).step s .proxySends
      = some { s with world := world, toServer := toServer } := by
  change s.toServer.step codecs.server (.send message) = some toServer at hd
  show step codecs config s .proxySends = _
  rw [step, if_neg (by simp [hc]), hm]
  simp [hd, h]

theorem clientSends_step {message : ClientMessage} {toProxy : Direction ClientMessage}
    {world : World.State} (hp : s.world.client.phase = .sendMessage message)
    (hd : (Direction.system codecs.client).step s.toProxy (.send message) = some toProxy)
    (h : (World.system config).step s.world (.client (.messageSent true)) = some world) :
    (system codecs config).step s .clientSends =
      some { s with world := world, toProxy := toProxy } := by
  change s.toProxy.step codecs.client (.send message) = some toProxy at hd
  show step codecs config s .clientSends = _
  rw [step, hp]
  simp [hd, h]

/-- Bytes come in that are on their way to the proxy. -/
theorem toProxy_exec {bs : List (Direction.Action ClientMessage)} {m : Direction ClientMessage}
    (hbs : ∀ b ∈ bs, ∃ n, b = .arrive n)
    (h : (Direction.system codecs.client).exec s.toProxy bs = some m) :
    (system codecs config).exec s (bs.map .toProxy) = some { s with toProxy := m } := by
  refine exec_embed (f := fun toProxy => { s with toProxy := toProxy }) ?_ hbs h
  rintro u _ v ⟨n, rfl⟩ hstep
  change u.step codecs.client (.arrive n) = some v at hstep
  show step codecs config _ (.toProxy (.arrive n)) = _
  rw [step, if_pos (show passes _ _ _ = true from rfl), hstep, Option.map_some]

/-- The same for the other direction. -/
theorem toServer_exec {bs : List (Direction.Action ServerMessage)} {m : Direction ServerMessage}
    (hbs : ∀ b ∈ bs, ∃ n, b = .arrive n)
    (h : (Direction.system codecs.server).exec s.toServer bs = some m) :
    (system codecs config).exec s (bs.map .toServer) = some { s with toServer := m } := by
  refine exec_embed (f := fun toServer => { s with toServer := toServer }) ?_ hbs h
  rintro u _ v ⟨n, rfl⟩ hstep
  change u.step codecs.server (.arrive n) = some v at hstep
  show step codecs config _ (.toServer (.arrive n)) = _
  rw [step, if_pos (show passes _ _ _ = true from rfl), hstep, Option.map_some]

theorem onWorld_toProxy (bs : List (Direction.Action ClientMessage)) :
    (bs.map .toProxy).flatMap Action.onWorld = [] := by
  rw [List.flatMap_map]
  exact List.flatMap_eq_nil_iff.mpr fun _ _ => rfl

theorem onWorld_toServer (bs : List (Direction.Action ServerMessage)) :
    (bs.map .toServer).flatMap Action.onWorld = [] := by
  rw [List.flatMap_map]
  exact List.flatMap_eq_nil_iff.mpr fun _ _ => rfl

theorem takenByProxy_toProxy (bs : List (Direction.Action ClientMessage)) :
    takenByProxy (bs.map .toProxy) = [] := by
  rw [takenByProxy, List.filterMap_map]
  exact List.filterMap_eq_nil_iff.mpr fun _ _ => rfl

theorem takenByProxy_toServer (bs : List (Direction.Action ServerMessage)) :
    takenByProxy (bs.map .toServer) = [] := by
  rw [takenByProxy, List.filterMap_map]
  exact List.filterMap_eq_nil_iff.mpr fun _ _ => rfl

/-- The message-processing task takes the message that is next. -/
theorem proxyReads_step {message : ClientMessage} {toProxy : Direction ClientMessage}
    {world : World.State} (hn : (s.toProxy.incoming.next codecs.client).1 = .ok message)
    (hd : (Direction.system codecs.client).step s.toProxy .poll = some toProxy)
    (h : (World.system config).step s.world (.proxy (.clientMessage message)) = some world) :
    (system codecs config).step s (.proxyReads message)
      = some { s with world := world, toProxy := toProxy } := by
  change s.toProxy.step codecs.client .poll = some toProxy at hd
  show step codecs config s (.proxyReads message) = _
  rw [step, if_pos hn]
  simp [hd, h]

/-- The same for `Client::start`. -/
theorem clientReads_step {message : ServerMessage} {toServer : Direction ServerMessage}
    {client : Client.State} (hn : (s.toServer.incoming.next codecs.server).1 = .ok message)
    (hd : (Direction.system codecs.server).step s.toServer .poll = some toServer)
    (h : (Client.system config.client).step s.world.client (.serverMessage message)
      = some client) :
    (system codecs config).step s (.clientReads message)
      = some { s with world := { s.world with client := client }, toServer := toServer } := by
  change s.toServer.step codecs.server .poll = some toServer at hd
  change Client.step config.client s.world.client (.serverMessage message) = some client at h
  show step codecs config s (.clientReads message) = _
  rw [step, if_pos hn]
  simp [hd, h]

theorem Linked.exec (hs : Linked codecs s) (h : (system codecs config).exec s acts = some t) :
    Linked codecs t :=
  exec_invariant Linked.step hs h

/-- The four steps of `World` that use the control stream. -/
theorem not_apart {s : World.State} {b : World.Action} (h : ¬ apart s b = true) :
    (b = .proxy .writeMessage ∧ s.proxy.controlFailed = false) ∨
      (∃ message, b = .proxy (.clientMessage message)) ∨
      (∃ message, b = .client (.serverMessage message)) ∨ b = .client (.messageSent true) := by
  rcases b with a | a | _
  · cases a with
    | writeMessage => exact Or.inl ⟨rfl, Bool.of_not_eq_true h⟩
    | clientMessage message => exact Or.inr (Or.inl ⟨message, rfl⟩)
    | _ => exact absurd rfl h
  · cases a with
    | serverMessage message => exact Or.inr (Or.inr (Or.inl ⟨message, rfl⟩))
    | messageSent sent =>
        cases sent with
        | true => exact Or.inr (Or.inr (Or.inr rfl))
        | false => exact absurd rfl h
    | _ => exact absurd rfl h
  · exact absurd rfl h

/-- Every step of `World` is made over bytes, if what it takes is next and what it writes
    is not too long. -/
theorem Ready.simulates {b : World.Action} {world : World.State} (hs : Ready codecs s)
    (h : (World.system config).step s.world b = some world)
    (hserver : ∀ message ∈ world.proxy.written,
      (codecs.server.wire.encode message).length ≤ maxFrameLength)
    (hclient : ∀ message ∈ world.client.written,
      (codecs.client.wire.encode message).length ≤ maxFrameLength)
    (hfifo : s.toProxy.incoming.messages ++ readOfClient b <+: s.world.client.written) :
    ∃ acts t, (system codecs config).exec s acts = some t ∧ t.world = world ∧ Ready codecs t ∧
      acts.flatMap Action.onWorld = [b] ∧ takenByProxy acts = readOfClient b := by
  have ⟨hlinked, ⟨hsf, hse⟩, hpf, hpe⟩ := hs
  by_cases hapart : apart s.world b = true
  · have hstep : (system codecs config).step s (.world b) = some { s with world := world } := by
      show step codecs config s (.world b) = _
      rw [step, if_pos hapart, h, Option.map_some]
    refine ⟨[.world b], _, exec_cons_iff.mpr ⟨_, hstep, rfl⟩, rfl,
      ⟨hlinked.step hstep, ⟨hsf, hse⟩, hpf, hpe⟩, rfl, ?_⟩
    rcases b with a | a | _
    · cases a with
      | clientMessage message => cases hapart
      | _ => rfl
    · rfl
    · rfl
  · rcases not_apart hapart with ⟨rfl, hc⟩ | ⟨message, rfl⟩ | ⟨message, rfl⟩ | rfl
    · -- `writeMessage`
      cases World.step_cases h with
      | proxy hg hstep =>
          cases ProxyServer.step_cases hstep with
          | loseMessage _ _ hc' => cases hc.symm.trans hc'
          | writeMessage hm he hc' =>
              rename_i message rest
              have hsend := Direction.send_step
                (hserver message (List.mem_append_right _ List.mem_cons_self)) hsf
              have hstep := proxySends_step hc (by rw [hm]; rfl) hsend h
              exact ⟨[.proxySends], _, exec_cons_iff.mpr ⟨_, hstep, rfl⟩, rfl,
                ⟨hlinked.step hstep, ⟨hsf, hse⟩, hpf, hpe⟩, rfl, rfl⟩
    · -- `clientMessage`
      have hnext : s.toProxy.incoming.messages ++ [message] <+: s.toProxy.sent.map id := by
        rw [hlinked.clientWritten, List.map_id]
        exact hfifo
      obtain ⟨bs, m, toProxy, hbs, harrive, hn, hpoll, htf, hte⟩ :=
        hlinked.toProxy.takes codecs.clientCarries hpe hnext
      have hstep := proxyReads_step (s := { s with toProxy := m }) hn hpoll h
      have hrun := exec_snoc_iff.mpr ⟨_, toProxy_exec hbs harrive, hstep⟩
      refine ⟨_, _, hrun, rfl, ⟨hlinked.exec hrun, ⟨hsf, hse⟩, htf.trans hpf, hte⟩, ?_, ?_⟩
      · rw [List.flatMap_append, onWorld_toProxy]
        rfl
      · rw [takenByProxy, List.filterMap_append, ← takenByProxy, takenByProxy_toProxy]
        rfl
    · -- `serverMessage`
      cases World.step_cases h with
      | client hg hstep =>
          have hnext : s.toServer.incoming.messages ++ [message] <+:
              s.toServer.sent.map ServerMessage.carried := by
            rw [hlinked.fromProxy, hlinked.written]
            exact hg
          obtain ⟨bs, m, toServer, hbs, harrive, hn, hpoll, htf, hte⟩ :=
            hlinked.toServer.takes codecs.serverCarries hse hnext
          have hstep := clientReads_step (s := { s with toServer := m }) hn hpoll hstep
          have hrun := exec_snoc_iff.mpr ⟨_, toServer_exec hbs harrive, hstep⟩
          refine ⟨_, _, hrun, rfl, ⟨hlinked.exec hrun, ⟨htf.trans hsf, hte⟩, hpf, hpe⟩, ?_, ?_⟩
          · rw [List.flatMap_append, onWorld_toServer]
            rfl
          · rw [takenByProxy, List.filterMap_append, ← takenByProxy, takenByProxy_toServer]
            rfl
    · -- `messageSent true`
      cases World.step_cases h with
      | client hg hstep =>
          cases Client.step_cases hstep with
          | messageSent hp =>
              rename_i message
              have hsend := Direction.send_step
                (hclient message (List.mem_append_right _ List.mem_cons_self)) hpf
              have hstep := clientSends_step hp hsend h
              exact ⟨[.clientSends], _, exec_cons_iff.mpr ⟨_, hstep, rfl⟩, rfl,
                ⟨hlinked.step hstep, ⟨hsf, hse⟩, hpf, hpe⟩, rfl, rfl⟩

/-- What has been written stays so. -/
theorem written_grows {s t : World.State} {b : World.Action}
    (h : (World.system config).step s b = some t) :
    s.proxy.written ⊆ t.proxy.written ∧ s.client.written ⊆ t.client.written := by
  by_cases hapart : apart s b = true
  · obtain ⟨hproxy, -, hclient⟩ := apart_frame hapart h
    rw [hproxy, hclient]
    exact ⟨List.Subset.refl _, List.Subset.refl _⟩
  · cases World.step_cases h with
    | proxy _ hstep => exact ⟨(World.proxyEnds hstep).written.subset, List.Subset.refl _⟩
    | client _ hstep =>
        refine ⟨List.Subset.refl _, ?_⟩
        cases Client.step_cases hstep with
        | messageSent _ => exact List.subset_append_left _ _
        | uniHeader _ | biHeader _ | datagram _ => exact absurd rfl hapart
        | _ => exact List.Subset.refl _
    | playerSends => exact ⟨List.Subset.refl _, List.Subset.refl _⟩

/-- What the proxy has read of the client when it reads once more was written before. -/
theorem read_before {s t : World.State} {b : World.Action} {taken : List ClientMessage}
    (h : (World.system config).step s b = some t) (hs : taken <+: s.client.written)
    (ht : taken ++ readOfClient b <+: t.client.written) :
    taken ++ readOfClient b <+: s.client.written := by
  cases World.step_cases h with
  | proxy _ _ => exact ht
  | client _ _ | playerSends => exact (List.append_nil taken).symm ▸ hs

/-- **Bytes allow all that `World` does**: every run of `World` in which the proxy reads
    what the client wrote, in order, and nothing that is written has more than one GiB, is
    what a run over bytes comes to. -/
theorem realizes_world {bs : List World.Action} {world : World.State}
    (h : (World.system config).exec {} bs = some world)
    (hserver : ∀ message ∈ world.proxy.written,
      (codecs.server.wire.encode message).length ≤ maxFrameLength)
    (hclient : ∀ message ∈ world.client.written,
      (codecs.client.wire.encode message).length ≤ maxFrameLength)
    (hfifo : ∀ pre m, pre <+: bs → (World.system config).exec {} pre = some m →
      pre.flatMap readOfClient <+: m.client.written) :
    ∃ acts s, (system codecs config).exec {} acts = some s ∧ s.world = world ∧
      acts.flatMap Action.onWorld = bs := by
  suffices hall : ∃ acts s, (system codecs config).exec {} acts = some s ∧ s.world = world ∧
      Ready codecs s ∧ acts.flatMap Action.onWorld = bs ∧
      takenByProxy acts = bs.flatMap readOfClient by
    obtain ⟨acts, s, hrun, hworld, -, hacts, -⟩ := hall
    exact ⟨acts, s, hrun, hworld, hacts⟩
  induction bs using List.reverseRecOn generalizing world with
  | nil =>
      cases h
      exact ⟨[], {}, rfl, rfl, Ready.init, rfl, rfl⟩
  | append_singleton bs b ih =>
      obtain ⟨m, hm, hstep⟩ := exec_snoc_iff.mp h
      obtain ⟨hproxy, hwritten⟩ := written_grows hstep
      obtain ⟨acts, s, hrun, rfl, hready, hacts, htaken⟩ := ih hm
        (fun message hmem => hserver message (hproxy hmem))
        (fun message hmem => hclient message (hwritten hmem))
        (fun pre k hpre => hfifo pre k (hpre.trans (List.prefix_append bs [b])))
      have hnext : s.toProxy.incoming.messages ++ readOfClient b <+: s.world.client.written := by
        rw [← (linked_of_exec hrun).2, htaken]
        refine read_before hstep (hfifo bs s.world (List.prefix_append bs [b]) hm) ?_
        have hread := hfifo (bs ++ [b]) world (List.prefix_refl _) h
        rwa [List.flatMap_append, List.flatMap_singleton] at hread
      obtain ⟨more, t, ht, hworld, htready, hmore, hmoreTaken⟩ :=
        hready.simulates hstep hserver hclient hnext
      refine ⟨acts ++ more, t, ?_, hworld, htready, ?_, ?_⟩
      · rw [exec_append, hrun, Option.bind_some, ht]
      · rw [List.flatMap_append, hacts, hmore]
      · rw [List.flatMap_append, List.flatMap_singleton, ← htaken, ← hmoreTaken]
        exact List.filterMap_append

/-- One request, from the proxy to the game server. -/
def oneRequest : List World.Action :=
  [.proxy (.requestAsset Str.a), .proxy .writeMessage,
    .client (.serverMessage (.requestAsset Str.a))]

theorem realizes_world_oneRequest :
    ∃ acts s, (system localCodecs localWorld).exec {} acts = some s ∧
      s.world.client.fromProxy = [.requestAsset Str.a] ∧
      acts.flatMap Action.onWorld = oneRequest := by
  have hrun : (World.system localWorld).exec {} oneRequest = some _ := rfl
  have hfifo : ∀ pre m, pre <+: oneRequest → (World.system localWorld).exec {} pre = some m →
      pre.flatMap readOfClient <+: m.client.written := by
    intro pre m hpre _
    have hnone : ∀ b ∈ pre, readOfClient b = [] := by
      intro b hb
      have hmem := hpre.subset hb
      simp only [oneRequest, List.mem_cons, List.not_mem_nil, or_false] at hmem
      rcases hmem with rfl | rfl | rfl <;> rfl
    rw [List.flatMap_eq_nil_iff.mpr hnone]
    exact List.nil_prefix
  obtain ⟨acts, s, hexec, hworld, hacts⟩ :=
    @realizes_world localCodecs _ _ _ hrun (by decide) (by decide) hfifo
  exact ⟨acts, s, hexec, by rw [hworld]; rfl, hacts⟩

end AmbientProxy.WireWorld
