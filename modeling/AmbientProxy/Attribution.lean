import AmbientProxy.PendingResources
import AmbientProxy.World

/-! # Datagram attribution — whose payload reaches whom

    A payload makes two hops in each direction, with the player's id in front of it
    on the hop between the two machines:

        player ──▶ proxy ── prefix ──▶ game server: drop_prefix, queue, read_datagram
        player ◀── proxy: drop_prefix ◀── prefix ── game server: send_datagram

    * `Forwarded`, `Delivered` — what each machine passes on is what it was given,
      one by one;
    * `datagrams_attributed` — over every run of both machines: the payloads that
      `read_datagram` returns for a player are, as a multiset, part of those that
      the player sent on its own connection, and the payloads sent to a player's
      connection are part of those passed to its `send_datagram`. -/

namespace AmbientProxy.World

open Transition Network
open scoped List

/-! ## One datagram -/

/-- The payload, if it is the player's. -/
def ofPlayer (p : Str) (x : Str × Bytes) : Option Bytes := if x.1 = p then some x.2 else none

/-- The payload, if it went over a connection of the player. -/
def onConn (owner : ProxyServer.ConnId → Option Str) (p : Str) (x : ProxyServer.ConnId × Bytes) :
    Option Bytes :=
  if owner x.1 = some p then some x.2 else none

/-- The payload of a datagram, if it names the player. -/
def payloadFor (p : Str) (b : Bytes) : Option Bytes :=
  match dropPrefix (deserialize DatagramInfo.codec) b with
  | .ok (⟨q⟩, data) => ofPlayer p (q, data)
  | _ => none

theorem payloadFor_of_ok {p q : Str} {b data : Bytes}
    (h : dropPrefix (deserialize DatagramInfo.codec) b = .ok (⟨q⟩, data)) :
    payloadFor p b = ofPlayer p (q, data) := by
  rw [payloadFor, h]

theorem payloadFor_of_not_ok {p : Str} {b : Bytes}
    (h : ∀ out, dropPrefix (deserialize DatagramInfo.codec) b ≠ .ok out) :
    payloadFor p b = none := by
  rw [payloadFor]
  split
  · rename_i hd
    exact absurd hd (h _)
  · rfl

/-- A payload comes out for the player it went in for, if it comes out at all. -/
theorem payloadFor_addPrefix {p q : Str} {data data' : Bytes}
    (h : payloadFor p (addPrefix (serialize DatagramInfo.codec) ⟨q⟩ data) = some data') :
    ofPlayer p (q, data) = some data' := by
  by_cases hlen : (serialize DatagramInfo.codec ⟨q⟩).length < 2 ^ 32
  · rw [payloadFor_of_ok (dropPrefix_addPrefix DatagramInfo.codec ⟨q⟩ data hlen)] at h
    exact h
  · have herr := dropPrefix_addPrefix_of_le DatagramInfo.codec ⟨q⟩ data (Nat.le_of_not_lt hlen)
    rw [payloadFor_of_not_ok fun out hok => by cases herr.symm.trans hok] at h
    cases h

/-! ## One machine -/

/-- The player's id and the payload of what went over a connection. -/
def byPlayer (x : Str × ProxyServer.ConnId × Bytes) : Str × Bytes := (x.1, x.2.2)

/-- Where each payload went over its player's own connection, it makes no difference
    whether they are counted by the player or by the connection. -/
theorem filterMap_ofPlayer_eq {owner : ProxyServer.ConnId → Option Str} (p : Str)
    {l : List (Str × ProxyServer.ConnId × Bytes)}
    (hl : ∀ q conn data, (q, conn, data) ∈ l → owner conn = some q) :
    (l.map byPlayer).filterMap (ofPlayer p)
      = (l.map byConn).filterMap (onConn owner p) := by
  rw [List.filterMap_map, List.filterMap_map]
  refine List.filterMap_congr ?_
  rintro ⟨q, conn, data⟩ hmem
  have hiff : owner conn = some p ↔ q = p := by
    rw [hl q conn data hmem, Option.some.injEq]
  exact (if_congr hiff rfl rfl).symm

/-- The proxy's side passes on what it was given. -/
structure Forwarded (s : ProxyServer.State) : Prop where
  toServer : s.toServer <+
    (s.fromPlayer.map byPlayer).map fun x => ProxyServer.playerHandleDatagram x.1 x.2
  toPlayer : ∀ p, (s.toPlayer.map byPlayer).filterMap (ofPlayer p) <+
    s.fromServer.filterMap (payloadFor p)

theorem Forwarded.init : Forwarded {} :=
  ⟨List.Sublist.refl [], fun _ => List.Sublist.refl []⟩

theorem Forwarded.step {config : ProxyServer.ProxyConfig} {s t : ProxyServer.State}
    {a : ProxyServer.Action} (hs : Forwarded s)
    (h : (ProxyServer.system config).step s a = some t) : Forwarded t := by
  cases ProxyServer.step_cases h with
  | datagram _ hd =>
      rename_i data out _
      obtain ⟨q, conn, payload⟩ := out
      have hdrop := (ProxyServer.handleDatagram_eq_ok_iff.mp hd).1
      refine ⟨hs.toServer, ?_⟩
      intro p
      show ((s.toPlayer ++ [_]).map byPlayer).filterMap _ <+ (s.fromServer ++ [data]).filterMap _
      rw [List.map_append, List.filterMap_append, List.filterMap_append]
      refine (hs.toPlayer p).append ?_
      have hsame : [(q, payload)].filterMap (ofPlayer p) = [data].filterMap (payloadFor p) := by
        rw [List.filterMap_cons, List.filterMap_cons, payloadFor_of_ok hdrop]
        rfl
      exact hsame ▸ List.Sublist.refl _
  | datagramLost _ | datagramPanics _ _ =>
      refine ⟨hs.toServer, ?_⟩
      intro p
      refine (hs.toPlayer p).trans ?_
      exact (List.sublist_append_left s.fromServer _).filterMap (payloadFor p)
  | playerDatagram _ =>
      refine ⟨?_, hs.toPlayer⟩
      show s.toServer ++ _ <+ ((s.fromPlayer ++ _).map byPlayer).map _
      rw [List.map_append, List.map_append]
      exact hs.toServer.append (List.Sublist.refl _)
  | playerDatagramLost _ =>
      refine ⟨?_, hs.toPlayer⟩
      show s.toServer <+ ((s.fromPlayer ++ _).map byPlayer).map _
      rw [List.map_append, List.map_append]
      exact hs.toServer.trans (List.sublist_append_left _ _)
  | _ => exact ⟨hs.toServer, hs.toPlayer⟩

/-- The game server's side passes on what it was given. -/
structure Delivered (s : Client.State) : Prop where
  toProxy : s.toProxy <+ s.sendDatagrams.map fun x => Client.sendDatagram x.1 x.2
  received : ∀ p, s.received .datagram p = s.datagrams.filterMap (payloadFor p)

theorem Delivered.init : Delivered {} :=
  ⟨List.Sublist.refl [], fun _ => rfl⟩

theorem readDatagramInfo_eq_ok_iff {q : Str} {b data : Bytes} :
    Client.readDatagramInfo b = .ok (q, data) ↔
      dropPrefix (deserialize DatagramInfo.codec) b = .ok (⟨q⟩, data) := by
  rw [Client.readDatagramInfo, Outcome.bind_eq_ok_iff]
  constructor
  · rintro ⟨⟨⟨q'⟩, data'⟩, hdrop, hout⟩
    cases Outcome.ok.inj hout
    exact hdrop
  · intro hdrop
    exact ⟨_, hdrop, rfl⟩

/-- A datagram that is not read names nobody. -/
theorem payloadFor_of_not_read {p : Str} {b : Bytes}
    (h : ∀ out, Client.readDatagramInfo b ≠ .ok out) : payloadFor p b = none := by
  refine payloadFor_of_not_ok ?_
  rintro ⟨⟨q⟩, data⟩ hdrop
  exact h (q, data) (readDatagramInfo_eq_ok_iff.mpr hdrop)

/-- The loop reads a stream: no datagram is received. -/
theorem Delivered.receiveOutcome {k : Client.Kind} {s : Client.State} (hs : Delivered s)
    (hk : k ≠ .datagram) (outcome : Outcome (Str × k.Item)) :
    Delivered (s.receiveOutcome k outcome) := by
  cases outcome with
  | err e => exact ⟨hs.toProxy, hs.received⟩
  | panic => exact ⟨hs.toProxy, hs.received⟩
  | ok out =>
      refine ⟨hs.toProxy, ?_⟩
      intro p
      have hne : ¬ (Client.Kind.datagram = k ∧ p = out.1) := fun h => hk h.1.symm
      exact (Client.update_of_ne hne).trans (hs.received p)

/-- The loop reads a datagram. -/
theorem Delivered.read {s : Client.State} (hs : Delivered s) (data : Bytes) :
    Delivered ({ s with datagrams := s.datagrams ++ [data] }.receiveOutcome .datagram
      (Client.readDatagramInfo data)) := by
  have hnone : (∀ out, Client.readDatagramInfo data ≠ .ok out) →
      ∀ p, s.received .datagram p = (s.datagrams ++ [data]).filterMap (payloadFor p) := by
    intro hread p
    rw [hs.received p, List.filterMap_append,
      List.filterMap_cons_none (payloadFor_of_not_read hread), List.filterMap_nil,
      List.append_nil]
  cases hread : Client.readDatagramInfo data with
  | err e => exact ⟨hs.toProxy, hnone (by rw [hread]; exact nofun)⟩
  | panic => exact ⟨hs.toProxy, hnone (by rw [hread]; exact nofun)⟩
  | ok out =>
      obtain ⟨q, payload⟩ := out
      refine ⟨hs.toProxy, ?_⟩
      intro p
      have hpayload : payloadFor p data = ofPlayer p (q, payload) :=
        payloadFor_of_ok (readDatagramInfo_eq_ok_iff.mp hread)
      show Client.update s.received .datagram q _ .datagram p
        = (s.datagrams ++ [data]).filterMap (payloadFor p)
      rw [List.filterMap_append, ← hs.received p]
      by_cases hp : q = p
      · subst hp
        rw [Client.update_self, List.filterMap_cons_some (hpayload.trans (if_pos rfl))]
        rfl
      · have hne : ¬ (Client.Kind.datagram = .datagram ∧ p = q) := fun h => hp h.2.symm
        rw [Client.update_of_ne hne, List.filterMap_cons_none (hpayload.trans (if_neg hp)),
          List.filterMap_nil]
        exact (List.append_nil _).symm

theorem Delivered.step {config : Client.Config} {s t : Client.State} {a : Client.Action}
    (hs : Delivered s) (h : (Client.system config).step s a = some t) : Delivered t := by
  cases Client.step_cases h with
  | uniHeader _ => exact hs.receiveOutcome (k := .uni) nofun _
  | biHeader _ => exact hs.receiveOutcome (k := .bi) nofun _
  | datagram _ => exact hs.read _
  | sendDatagram =>
      refine ⟨?_, hs.received⟩
      show s.toProxy ++ _ <+ (s.sendDatagrams ++ _).map _
      rw [List.map_append]
      exact hs.toProxy.append (List.Sublist.refl _)
  | datagramLost =>
      refine ⟨?_, hs.received⟩
      show s.toProxy <+ (s.sendDatagrams ++ _).map _
      rw [List.map_append]
      exact hs.toProxy.trans (List.sublist_append_left _ _)
  | _ => exact ⟨hs.toProxy, hs.received⟩

/-! ## Both machines -/

/-- What `read_datagram` returned for the player, in the order of the pops. -/
def returnedTo (s : State) (p : Str) : List Bytes := (s.client.handedOut .datagram p).map Prod.snd

/-- What the player sent on its own connection. -/
def sentBy (s : State) (p : Str) : List Bytes :=
  s.playerSent.filterMap (onConn s.proxy.owner p)

/-- What the proxy sent to the player's connection. -/
def sentTo (s : State) (p : Str) : List Bytes :=
  (s.proxy.toPlayer.map byConn).filterMap (onConn s.proxy.owner p)

/-- What the game passed to `send_datagram` of the player. -/
def passedFor (s : State) (p : Str) : List Bytes :=
  s.client.sendDatagrams.filterMap (ofPlayer p)

variable {config : Config} {s : State}

theorem forwarded_of_exec {acts : List Action} (h : (system config).exec {} acts = some s) :
    Forwarded s.proxy :=
  exec_invariant Forwarded.step Forwarded.init (exec_proxy h)

theorem delivered_of_exec {acts : List Action} (h : (system config).exec {} acts = some s) :
    Delivered s.client :=
  exec_invariant Delivered.step Delivered.init (exec_client h)

/-- **From the players to the game.** -/
theorem returnedTo_subperm_sentBy {acts : List Action}
    (h : (system config).exec {} acts = some s) (p : Str) : returnedTo s p <+~ sentBy s p := by
  have hchannels := channels_of_exec h
  have hrouted := ProxyServer.routed_of_exec (exec_proxy h)
  have hforwarded := forwarded_of_exec h
  have hdelivered := delivered_of_exec h
  -- the game takes from the queue what was read off the wire for the player
  have hqueue : returnedTo s p <+ s.client.datagrams.filterMap (payloadFor p) := by
    rw [← hdelivered.received p, ← (Client.inv_of_exec (exec_client h)).delivered .datagram p,
      List.append_assoc]
    exact List.sublist_append_left _ _
  have hwire : s.client.datagrams.filterMap (payloadFor p)
      <+~ s.proxy.toServer.filterMap (payloadFor p) :=
    subperm_filterMap _ hchannels.toServer
  -- what the proxy put on the wire for the player it had read on the player's connection
  have hproxy : s.proxy.toServer.filterMap (payloadFor p)
      <+ (s.proxy.fromPlayer.map byPlayer).filterMap (ofPlayer p) :=
    (hforwarded.toServer.filterMap _).trans
      (filterMap_map_sublist (fun _ _ hx => payloadFor_addPrefix hx) _)
  have hplayer : (s.proxy.fromPlayer.map byConn).filterMap (onConn s.proxy.owner p)
      <+~ sentBy s p :=
    subperm_filterMap _ hchannels.fromPlayers
  rw [filterMap_ofPlayer_eq p hrouted.fromPlayer] at hproxy
  exact hqueue.subperm.trans (hwire.trans (hproxy.subperm.trans hplayer))

/-- **From the game to the players.** -/
theorem sentTo_subperm_passedFor {acts : List Action}
    (h : (system config).exec {} acts = some s) (p : Str) : sentTo s p <+~ passedFor s p := by
  have hchannels := channels_of_exec h
  have hrouted := ProxyServer.routed_of_exec (exec_proxy h)
  have hforwarded := forwarded_of_exec h
  have hdelivered := delivered_of_exec h
  have hproxy : sentTo s p <+ s.proxy.fromServer.filterMap (payloadFor p) := by
    rw [sentTo, ← filterMap_ofPlayer_eq p hrouted.toPlayer]
    exact hforwarded.toPlayer p
  have hwire : s.proxy.fromServer.filterMap (payloadFor p)
      <+~ s.client.toProxy.filterMap (payloadFor p) :=
    subperm_filterMap _ hchannels.toProxy
  have hgame : s.client.toProxy.filterMap (payloadFor p) <+ passedFor s p :=
    (hdelivered.toProxy.filterMap _).trans
      (filterMap_map_sublist (fun _ _ hx => payloadFor_addPrefix hx) _)
  exact hproxy.subperm.trans (hwire.trans hgame.subperm)

/-- **Datagrams are attributed to their player.**  In every run of both machines, for
    every player: the payloads that its `read_datagram` calls returned, each to one
    call, are among those the player sent on its own connection, and none more often
    than it was sent; the payloads sent to its connection are, in the same way, among
    those passed to its `send_datagram`.  And `drop_prefix` undoes `prefix`, for
    every payload. -/
theorem datagrams_attributed {acts : List Action} (h : (system config).exec {} acts = some s)
    (p : Str) :
    (returnedTo s p <+~ sentBy s p ∧
      (∀ c data, (c, data) ∈ s.client.handedOut .datagram p ↔
        s.client.calls c = some ⟨.datagram, p, .returned data⟩) ∧
      ((s.client.handedOut .datagram p).map Prod.fst).Nodup) ∧
    sentTo s p <+~ passedFor s p ∧
    ∀ data, (serialize DatagramInfo.codec ⟨p⟩).length < 2 ^ 32 →
      dropPrefix (deserialize DatagramInfo.codec)
        (addPrefix (serialize DatagramInfo.codec) ⟨p⟩ data) = .ok (⟨p⟩, data) := by
  have hqueues := Client.inv_of_exec (exec_client h)
  refine ⟨⟨returnedTo_subperm_sentBy h p, hqueues.returned .datagram p,
    hqueues.nodup .datagram p⟩,
    sentTo_subperm_passedFor h p, ?_⟩
  intro data hlen
  exact dropPrefix_addPrefix DatagramInfo.codec ⟨p⟩ data hlen

/-- A player joins. -/
def joins (playerId : Str) : List Action :=
  [.proxy .acceptConnection, .proxy (.handshakeDone playerId), .proxy .spawnPlayer,
    .proxy .insertPlayer]

/-- Two players, and a datagram in each direction for each; those of the second player come
    in first. -/
def bothWays : List Action :=
  [.proxy (.clientMessage (.allocateEndpoint "game")),
      .proxy (.recvClientMessage (.ok ProxyServer.localEndpoint)),
      .proxy .setAllocatedEndpoint, .proxy .sendAllocation] ++ joins Str.a ++ joins Str.b ++
    [.playerSends 0 [0x07], .playerSends 1 [0x08],
      .proxy (.playerDatagram 1 [0x08] true), .proxy (.playerDatagram 0 [0x07] true),
      .client (.datagram (ProxyServer.playerHandleDatagram Str.b [0x08])), .client .push,
      .client (.datagram (ProxyServer.playerHandleDatagram Str.a [0x07])), .client .push,
      .client (.readDatagram 0 Str.a), .client (.lock 0),
      .client (.readDatagram 1 Str.b), .client (.lock 1),
      .client (.sendDatagram Str.a [0x09] true), .client (.sendDatagram Str.b [0x0a] true),
      .proxy (.datagram (Client.sendDatagram Str.b [0x0a]) true),
      .proxy (.datagram (Client.sendDatagram Str.a [0x09]) true)]

theorem datagrams_attributed_bothWays :
    ∃ s, (system ⟨ProxyServer.localConfig, ⟨none, none⟩⟩).exec {} bothWays = some s ∧
      returnedTo s Str.a = [[0x07]] ∧ sentTo s Str.a = [[0x09]] ∧
      returnedTo s Str.b = [[0x08]] ∧ sentTo s Str.b = [[0x0a]] ∧
      (returnedTo s Str.a <+~ sentBy s Str.a ∧ sentTo s Str.a <+~ passedFor s Str.a) ∧
      returnedTo s Str.b <+~ sentBy s Str.b ∧ sentTo s Str.b <+~ passedFor s Str.b := by
  have hrun : (system ⟨ProxyServer.localConfig, ⟨none, none⟩⟩).exec {} bothWays = some _ := rfl
  have ha := datagrams_attributed hrun Str.a
  have hb := datagrams_attributed hrun Str.b
  exact ⟨_, rfl, rfl, rfl, rfl, rfl, ⟨ha.1.1, ha.2.1⟩, hb.1.1, hb.2.1⟩

end AmbientProxy.World
