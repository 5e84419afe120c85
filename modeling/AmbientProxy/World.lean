import AmbientProxy.Allocation
import AmbientProxy.Client
import AmbientProxy.Lib.Network
import AmbientProxy.PlayerRegistry

/-! # Both machines — the proxy, the game server, and what travels between them

    The proxy's side of an allocation and the game server's side, every step of
    both in any order, over two kinds of channels:

        control stream    proxy.written      ──FIFO───▶  client.fromProxy
                          (of each message what `serde` carries of it)
        datagrams         proxy.toServer     ──lossy──▶  client.datagrams
                          client.toProxy     ──lossy──▶  proxy.fromServer
                          players            ──lossy──▶  proxy.fromPlayer

    A lossy channel may lose and reorder datagrams; it does not duplicate or alter
    them.  Everything else that one side receives of the other is left free. -/

namespace AmbientProxy.World

open Transition Network
open scoped List

structure Config where
  proxy : ProxyServer.ProxyConfig
  client : Client.Config

structure State where
  proxy : ProxyServer.State := {}
  client : Client.State := {}
  /-- What the players sent, each on its own connection. -/
  playerSent : List (ProxyServer.ConnId × Bytes) := []

inductive Action where
  | proxy (a : ProxyServer.Action)
  | client (a : Client.Action)
  | playerSends (conn : ProxyServer.ConnId) (data : Bytes)

/-- The connection and the payload of what went over it. -/
def byConn (x : Str × ProxyServer.ConnId × Bytes) : ProxyServer.ConnId × Bytes := x.2

/-- The datagrams that the proxy received of the players, and on which connection. -/
def receivedOfPlayers (s : ProxyServer.State) : List (ProxyServer.ConnId × Bytes) :=
  s.fromPlayer.map byConn

/-- What arrives was sent. -/
def guard (s : State) : Action → Prop
  | .proxy (.datagram data _) => s.proxy.fromServer.count data < s.client.toProxy.count data
  | .proxy (.playerDatagram conn data _) =>
      (receivedOfPlayers s.proxy).count (conn, data) < s.playerSent.count (conn, data)
  | .client (.serverMessage message) =>
      s.client.fromProxy ++ [message] <+: s.proxy.written.map ServerMessage.carried
  | .client (.datagram data) => s.client.datagrams.count data < s.proxy.toServer.count data
  | _ => True

instance (s : State) (a : Action) : Decidable (guard s a) := by
  rcases a with a | a | ⟨conn, data⟩
  · cases a <;> (dsimp only [guard]; infer_instance)
  · cases a <;> (dsimp only [guard]; infer_instance)
  · exact isTrue trivial

def step (config : Config) (s : State) (a : Action) : Option State :=
  if guard s a then
    match a with
    | .proxy a =>
        (ProxyServer.step config.proxy s.proxy a).map fun proxy => { s with proxy := proxy }
    | .client a =>
        (Client.step config.client s.client a).map fun client => { s with client := client }
    | .playerSends conn data => some { s with playerSent := s.playerSent ++ [(conn, data)] }
  else none

def system (config : Config) : System State Action where
  init := {}
  step := step config

/-- The steps of the system. -/
inductive Step (config : Config) (s : State) : Action → State → Prop where
  | proxy {a : ProxyServer.Action} {proxy : ProxyServer.State} (hg : guard s (.proxy a))
      (h : (ProxyServer.system config.proxy).step s.proxy a = some proxy) :
      Step config s (.proxy a) { s with proxy := proxy }
  | client {a : Client.Action} {client : Client.State} (hg : guard s (.client a))
      (h : (Client.system config.client).step s.client a = some client) :
      Step config s (.client a) { s with client := client }
  | playerSends {conn : ProxyServer.ConnId} {data : Bytes} :
      Step config s (.playerSends conn data)
        { s with playerSent := s.playerSent ++ [(conn, data)] }

variable {config : Config} {s t : State} {a : Action}

theorem step_cases (h : (system config).step s a = some t) : Step config s a t := by
  change step config s a = some t at h
  unfold step at h
  split at h
  · rename_i hg
    cases a with
    | proxy a =>
        obtain ⟨proxy, hstep, rfl⟩ := Option.map_eq_some_iff.mp h
        exact .proxy hg hstep
    | client a =>
        obtain ⟨client, hstep, rfl⟩ := Option.map_eq_some_iff.mp h
        exact .client hg hstep
    | playerSends conn data =>
        cases Option.some.inj h
        exact .playerSends
  · exact nomatch h

/-! ## The two machines on their own -/

/-- The steps of the proxy's side. -/
def Action.onProxy : Action → List ProxyServer.Action
  | .proxy a => [a]
  | _ => []

/-- The steps of the game server's side. -/
def Action.onClient : Action → List Client.Action
  | .client a => [a]
  | _ => []

/-- A run of both is a run of the proxy's side. -/
theorem exec_proxy {acts : List Action} (h : (system config).exec s acts = some t) :
    (ProxyServer.system config.proxy).exec s.proxy (acts.flatMap Action.onProxy)
      = some t.proxy := by
  refine exec_project (f := State.proxy) ?_ h
  intro s a t hstep
  cases step_cases hstep with
  | proxy _ h => exact exec_cons_iff.mpr ⟨_, h, rfl⟩
  | client _ _ | playerSends => rfl

/-- A run of both is a run of the game server's side. -/
theorem exec_client {acts : List Action} (h : (system config).exec s acts = some t) :
    (Client.system config.client).exec s.client (acts.flatMap Action.onClient)
      = some t.client := by
  refine exec_project (f := State.client) ?_ h
  intro s a t hstep
  cases step_cases hstep with
  | client _ h => exact exec_cons_iff.mpr ⟨_, h, rfl⟩
  | proxy _ _ | playerSends => rfl

/-! ## The channels -/

/-- The datagram of the game server that a step of the proxy's side reads. -/
def readOfServer : ProxyServer.Action → List Bytes
  | .datagram data _ => [data]
  | _ => []

/-- The datagram of a player that it reads. -/
def readOfPlayer : ProxyServer.Action → List (ProxyServer.ConnId × Bytes)
  | .playerDatagram conn data _ => [(conn, data)]
  | _ => []

/-- What a step of the proxy's side does to its ends of the channels. -/
structure ProxyEnds (s : ProxyServer.State) (a : ProxyServer.Action) (t : ProxyServer.State) :
    Prop where
  written : s.written <+: t.written
  toServer : s.toServer <+: t.toServer
  fromServer : t.fromServer = s.fromServer ++ readOfServer a
  fromPlayer : receivedOfPlayers t = receivedOfPlayers s ++ readOfPlayer a

theorem proxyEnds {config : ProxyServer.ProxyConfig} {s t : ProxyServer.State}
    {a : ProxyServer.Action} (h : (ProxyServer.system config).step s a = some t) :
    ProxyEnds s a t := by
  have hw := List.prefix_refl s.written
  have hto := List.prefix_refl s.toServer
  have hfs := (List.append_nil s.fromServer).symm
  have hfp := (List.append_nil (receivedOfPlayers s)).symm
  cases ProxyServer.step_cases h with
  | writeMessage _ _ _ => exact ⟨List.prefix_append _ _, hto, hfs, hfp⟩
  | datagram _ _ | datagramLost _ | datagramPanics _ _ => exact ⟨hw, hto, rfl, hfp⟩
  | playerDatagram _ => exact ⟨hw, List.prefix_append _ _, hfs, List.map_append⟩
  | playerDatagramLost _ => exact ⟨hw, hto, hfs, List.map_append⟩
  | _ => exact ⟨hw, hto, hfs, hfp⟩

/-- The message that a step of the game server's side reads. -/
def readOfControl : Client.Action → List ServerMessage
  | .serverMessage message => [message]
  | _ => []

/-- The datagram that it reads. -/
def readOfProxy : Client.Action → List Bytes
  | .datagram data => [data]
  | _ => []

/-- What a step of the game server's side does to its ends of the channels. -/
structure ClientEnds (s : Client.State) (a : Client.Action) (t : Client.State) : Prop where
  fromProxy : t.fromProxy = s.fromProxy ++ readOfControl a
  datagrams : t.datagrams = s.datagrams ++ readOfProxy a
  toProxy : s.toProxy <+: t.toProxy

theorem clientEnds {config : Client.Config} {s t : Client.State} {a : Client.Action}
    (h : (Client.system config).step s a = some t) : ClientEnds s a t := by
  have hfp := (List.append_nil s.fromProxy).symm
  have hd := (List.append_nil s.datagrams).symm
  have hto := List.prefix_refl s.toProxy
  cases Client.step_cases h with
  | allocation _ | playerConnected _ | requestAsset _ _ | ignoreAsset _ _ => exact ⟨rfl, hd, hto⟩
  | uniHeader _ =>
      rename_i recvStream _
      cases Client.readStreamInfo recvStream <;> exact ⟨hfp, hd, hto⟩
  | biHeader _ =>
      rename_i sendStream recvStream _
      cases Client.readBiStreamInfo sendStream recvStream <;> exact ⟨hfp, hd, hto⟩
  | datagram _ =>
      rename_i data _
      cases Client.readDatagramInfo data <;> exact ⟨hfp, rfl, hto⟩
  | sendDatagram => exact ⟨hfp, hd, List.prefix_append _ _⟩
  | _ => exact ⟨hfp, hd, hto⟩

/-- Both ends of every channel. -/
structure Channels (s : State) : Prop where
  control : s.client.fromProxy <+: s.proxy.written.map ServerMessage.carried
  toServer : s.client.datagrams <+~ s.proxy.toServer
  toProxy : s.proxy.fromServer <+~ s.client.toProxy
  fromPlayers : receivedOfPlayers s.proxy <+~ s.playerSent

theorem Channels.init : Channels {} :=
  ⟨List.prefix_refl [], List.Subperm.refl [], List.Subperm.refl [], List.Subperm.refl []⟩

theorem Channels.step (hs : Channels s) (h : (system config).step s a = some t) :
    Channels t := by
  cases step_cases h with
  | proxy hg hstep =>
      rename_i a proxy
      have hends := proxyEnds hstep
      refine ⟨hs.control.trans (hends.written.map ServerMessage.carried),
        hs.toServer.trans hends.toServer.sublist.subperm, ?_, ?_⟩
      · show proxy.fromServer <+~ _
        rw [hends.fromServer]
        cases a with
        | datagram data accepted => exact subperm_snoc hs.toProxy hg
        | _ => exact (List.append_nil _).symm ▸ hs.toProxy
      · show receivedOfPlayers proxy <+~ _
        rw [hends.fromPlayer]
        cases a with
        | playerDatagram conn data accepted => exact subperm_snoc hs.fromPlayers hg
        | _ => exact (List.append_nil _).symm ▸ hs.fromPlayers
  | client hg hstep =>
      rename_i a client
      have hends := clientEnds hstep
      refine ⟨?_, ?_, hs.toProxy.trans hends.toProxy.sublist.subperm, hs.fromPlayers⟩
      · show client.fromProxy <+: _
        rw [hends.fromProxy]
        cases a with
        | serverMessage message => exact hg
        | _ => exact (List.append_nil _).symm ▸ hs.control
      · show client.datagrams <+~ _
        rw [hends.datagrams]
        cases a with
        | datagram data => exact subperm_snoc hs.toServer hg
        | _ => exact (List.append_nil _).symm ▸ hs.toServer
  | playerSends =>
      exact ⟨hs.control, hs.toServer, hs.toProxy, subperm_append hs.fromPlayers _⟩

theorem channels_of_exec {acts : List Action} (h : (system config).exec {} acts = some s) :
    Channels s :=
  exec_invariant Channels.step Channels.init h

end AmbientProxy.World
