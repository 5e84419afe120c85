import AmbientProxy.PlayerRegistry

/-! # The loop and its players — who holds up whom

    `ProxyServer::start` handles one event at a time, and a handler that opens a
    stream to a player waits until the player grants one:

        player p                  ProxyServer::start           player q, game server
        connects
                                  a stream for p arrives:
                                  open_uni().await
        grants no stream                                       a datagram for q,
        stays connected                                        q connects, q is gone,
                                                               the connection closes
                                  -- takes none of it

    Here whatever arrives for the loop waits until the loop takes it (`Loop`).  A player
    whose `Credit` is bounded stays connected, and grants that many streams of the kind
    in all.

    * `answered_iff_never_blocked` — no player holds up another, or the end, in exactly
      the runs in which the loop reads no header that names a player who has no credit
      left for such a stream;
    * `blocked_mutePlayer` — and it happens;
    * `parked_forever` — what waits then waits for good. -/

namespace AmbientProxy.ProxyServer

open Transition

/-- The proxy, with what has arrived at the branches of the `select!`. -/
structure Loop where
  server : State := {}
  datagrams : List Bytes := []
  /-- Streams of the game server, each with the header that it begins with. -/
  streams : StreamKind → List ClientStreamHeader := fun _ => []
  /-- The header of the stream that is being handled. -/
  reading : Option ClientStreamHeader := none
  /-- Connection attempts at the proxy endpoint. -/
  attempts : Nat := 0

inductive Event where
  -- what arrives
  | datagram (data : Bytes)
  | stream (kind : StreamKind) (header : ClientStreamHeader)
  | attempt
  -- what the proxy does, and what else happens to it
  | act (a : Action)
  deriving DecidableEq

/-- What an action of the loop takes of what has arrived. -/
def Loop.take (s : Loop) : Action → Option Loop
  | .datagram data _ =>
      match s.datagrams with
      | [] => none
      | next :: datagrams => if next = data then some { s with datagrams := datagrams } else none
  | .acceptStream kind =>
      match s.streams kind with
      | [] => none
      | header :: streams =>
          some { s with
            streams := Function.update s.streams kind streams
            reading := some header }
  | .headerRead header => if s.reading = some header then some { s with reading := none } else none
  | .headerFails => some { s with reading := none }
  | .acceptConnection =>
      match s.attempts with
      | 0 => none
      | attempts + 1 => some { s with attempts := attempts }
  | _ => some s

/-- How many streams of a kind a connection grants in all, where it stays alive; `none`
    where nothing is known of it. -/
abbrev Credit := StreamKind → ConnId → Option Nat

/-- How many streams of a kind were opened on a connection. -/
def streamsOpened (s : State) (kind : StreamKind) (conn : ConnId) : Nat :=
  s.opened.countP fun stream => stream.1 = kind ∧ stream.2.2 = conn

/-- The connection grants no more streams of the kind. -/
def Exhausted (credit : Credit) (s : State) (kind : StreamKind) (conn : ConnId) : Prop :=
  ∃ n, credit kind conn = some n ∧ n ≤ streamsOpened s kind conn

instance (credit : Credit) (s : State) (kind : StreamKind) (conn : ConnId) :
    Decidable (Exhausted credit s kind conn) :=
  match h : credit kind conn with
  | none => isFalse fun ⟨_, hn, _⟩ => nomatch h.symm.trans hn
  | some n =>
      decidable_of_iff (n ≤ streamsOpened s kind conn)
        ⟨fun hle => ⟨n, h, hle⟩, fun ⟨_, hm, hle⟩ => Option.some.inj (h.symm.trans hm) ▸ hle⟩

theorem exhausted_congr {credit : Credit} {s t : State} (h : t.opened = s.opened)
    (kind : StreamKind) (conn : ConnId) :
    Exhausted credit t kind conn ↔ Exhausted credit s kind conn := by
  unfold Exhausted streamsOpened
  rw [h]

/-- A connection with bounded credit stays alive; once it has none, `open_uni` or
    `open_bi` on it stays pending. -/
def Granted (credit : Credit) (s : State) : Action → Prop
  | .streamOpened | .openFails =>
      match s.phase with
      | .openStream kind _ conn => ¬ Exhausted credit s kind conn
      | _ => True
  | .playerDisconnects conn => ∀ kind, credit kind conn = none
  | _ => True

instance (credit : Credit) (s : State) (a : Action) : Decidable (Granted credit s a) := by
  apply a.casesOn (motive := fun a => Decidable (Granted credit s a))
  case streamOpened | openFails =>
    unfold Granted
    cases s.phase <;> infer_instance
  case playerDisconnects =>
    intro conn
    exact decidable_of_iff (credit .uni conn = none ∧ credit .bi conn = none)
      ⟨fun h kind => by cases kind; exacts [h.1, h.2], fun h => ⟨h .uni, h .bi⟩⟩
  all_goals
    intros
    exact isTrue trivial

/-- What each event does, where it is enabled. -/
def loopStep (config : ProxyConfig) (credit : Credit) (s : Loop) : Event → Option Loop
  | .datagram data => some { s with datagrams := s.datagrams ++ [data] }
  | .stream kind header =>
      some { s with streams := Function.update s.streams kind (s.streams kind ++ [header]) }
  | .attempt => some { s with attempts := s.attempts + 1 }
  | .act a =>
      if Granted credit s.server a then
        (s.take a).bind fun s' =>
          (step config s.server a).map fun server => { s' with server := server }
      else none

/-- The loop, and players with so much credit. -/
def loopSystem (config : ProxyConfig) (credit : Credit) : System Loop Event where
  init := {}
  step := loopStep config credit

variable {config : ProxyConfig} {credit : Credit} {s t : Loop} {e : Event} {p : Str}

/-- The loop waits at `open_uni` or `open_bi` for a player that grants no stream. -/
def ParkedFor (credit : Credit) (s : Loop) (p : Str) : Prop :=
  ∃ kind conn, s.server.phase = .openStream kind p conn ∧ Exhausted credit s.server kind conn

/-- An event waits that concerns another player, or the end of the allocation. -/
inductive Waits (s : Loop) (p : Str) : Prop where
  | datagram {data payload : Bytes} {q : Str} (h : data ∈ s.datagrams)
      (hq : dropPrefix (deserialize DatagramInfo.codec) data = .ok (⟨q⟩, payload)) (hne : q ≠ p)
  | stream {kind : StreamKind} {q : Str} (h : .openPlayerStream q ∈ s.streams kind) (hne : q ≠ p)
  | attempt (h : 0 < s.attempts)
  | disconnected {q : Str} (h : .disconnected q ∈ s.server.playerEvents) (hne : q ≠ p)
  | closed (h : s.server.closed = true)

/-- A player that grants no stream holds up another, or the end. -/
def Blocked (credit : Credit) (s : Loop) : Prop :=
  ∃ p, ParkedFor credit s p ∧ Waits s p

/-- The loop does not read a header that names a player on a connection without credit. -/
def Answered (credit : Credit) (s : Loop) (e : Event) : Prop :=
  ∀ header kind p conn, e = .act (.headerRead header) → s.server.phase = .readHeader kind →
    handleHeader s.server kind header = .ok (some (p, conn)) →
    ¬ Exhausted credit s.server kind conn

/-! ## How the loop comes to wait -/

/-- An action of the proxy is a step of it, unless a player withholds it. -/
theorem step_of_act {a : Action} (h : (loopSystem config credit).step s (.act a) = some t) :
    Granted credit s.server a ∧ (system config).step s.server a = some t.server := by
  change (if Granted credit s.server a then (s.take a).bind fun s' =>
    (step config s.server a).map fun server => { s' with server := server } else none) = some t at h
  split at h
  · rename_i hgranted
    obtain ⟨s', -, h⟩ := Option.bind_eq_some_iff.mp h
    obtain ⟨server, hserver, rfl⟩ := Option.map_eq_some_iff.mp h
    exact ⟨hgranted, hserver⟩
  · cases h

/-- What arrives does not change the proxy. -/
theorem server_of_arrival (h : (loopSystem config credit).step s e = some t)
    (he : ∀ a, e ≠ .act a) : t.server = s.server := by
  cases e with
  | act a => exact absurd rfl (he a)
  | datagram _ | stream _ _ | attempt =>
      cases Option.some.inj h
      rfl

/-- The loop comes to open a stream by reading a header, and opens none on the way. -/
theorem openStream_of_step {s t : State} {a : Action} {kind : StreamKind} {conn : ConnId}
    (h : (system config).step s a = some t) (hphase : t.phase = .openStream kind p conn) :
    t.opened = s.opened ∧ (s.phase = .openStream kind p conn ∨
      ∃ header, a = .headerRead header ∧ s.phase = .readHeader kind ∧
        handleHeader s kind header = .ok (some (p, conn))) := by
  cases step_cases h with
  | headerRead hp hheader =>
      cases hphase
      exact ⟨rfl, Or.inr ⟨_, rfl, hp, hheader⟩⟩
  | close | clientMessage _ | writeMessage _ _ _ | loseMessage _ _ _ | controlFails
  | messageTaskEnds _ | requestAsset _ | recvPlayerEvent _ _ _ | recvUnknownEvent _ _ _
  | notBound _ _ _ | datagram _ _ | datagramLost _ | playerDatagram _ | playerDatagramLost _
  | playerDisconnects _ | playerSeesClosed _ _ => exact ⟨rfl, Or.inl hphase⟩
  | _ => cases hphase

/-- The loop is not parked for a player that grants no stream. -/
def Free (credit : Credit) (s : Loop) : Prop :=
  ∀ kind p conn, s.server.phase = .openStream kind p conn → ¬ Exhausted credit s.server kind conn

theorem Free.init : Free credit {} :=
  fun _ _ _ hp => nomatch hp

theorem Free.step (hs : Free credit s) (he : Answered credit s e)
    (h : (loopSystem config credit).step s e = some t) : Free credit t := by
  intro kind p conn hphase
  cases e with
  | act a =>
      obtain ⟨-, hstep⟩ := step_of_act h
      obtain ⟨hopened, hfrom⟩ := openStream_of_step hstep hphase
      rw [exhausted_congr hopened]
      rcases hfrom with hp | ⟨header, rfl, hp, hheader⟩
      · exact hs kind p conn hp
      · exact he header kind p conn rfl hp hheader
  | datagram _ | stream _ _ | attempt =>
      rw [server_of_arrival h nofun] at hphase ⊢
      exact hs kind p conn hphase

theorem Free.not_blocked (hs : Free credit s) : ¬ Blocked credit s := by
  rintro ⟨p, ⟨kind, conn, hp, hexhausted⟩, -⟩
  exact hs kind p conn hp hexhausted

/-- What reaches the loop from outside. -/
def Event.arrives : Event → Prop
  | .datagram _ | .stream _ _ | .attempt => True
  | .act .close | .act (.playerDisconnects _) => True
  | _ => False

theorem answered_of_arrives (he : e.arrives) (s : Loop) : Answered credit s e := by
  rintro header kind p conn rfl
  exact he.elim

/-- The loop reads such a header: the connection to the game server closes, and the loop
    does not see it. -/
theorem blocked_of_header (he : ¬ Answered credit s e)
    (h : (loopSystem config credit).step s e = some t) :
    ∃ bs u, (∀ b ∈ bs, Event.arrives b) ∧ (loopSystem config credit).exec t bs = some u ∧
      Blocked credit u := by
  obtain ⟨header, kind, p, conn, rfl, hp, hheader, hexhausted⟩ :
      ∃ header kind p conn, e = .act (.headerRead header) ∧ s.server.phase = .readHeader kind ∧
        handleHeader s.server kind header = .ok (some (p, conn)) ∧
        Exhausted credit s.server kind conn := by
    by_contra hno
    refine he fun header kind p conn hact hp hheader hexhausted => ?_
    exact hno ⟨header, kind, p, conn, hact, hp, hheader, hexhausted⟩
  have hphase : t.server.phase = .openStream kind p conn ∧ t.server.opened = s.server.opened := by
    obtain ⟨-, hstep⟩ := step_of_act h
    change step config s.server (.headerRead header) = some t.server at hstep
    simp only [step, hp, hheader] at hstep
    rw [← Option.some.inj hstep]
    exact ⟨rfl, rfl⟩
  refine ⟨[.act .close], { t with server := { t.server with closed := true } }, ?_, rfl, p, ?_, ?_⟩
  · intro b hb
    rw [List.mem_singleton.mp hb]
    trivial
  · exact ⟨kind, conn, hphase.1, (exhausted_congr hphase.2 kind conn).mpr hexhausted⟩
  · exact .closed rfl

/-- **No player holds up another, or the end, in exactly the runs in which the loop reads
    no header that names a player without credit.**  The states meant are all that the
    run passes through, and those that further arrivals lead to. -/
theorem answered_iff_never_blocked {events : List Event}
    (h : (loopSystem config credit).exec {} events = some s) :
    Along (loopSystem config credit) (Answered credit) {} events ↔
      ∀ pre m, pre <+: events → (loopSystem config credit).exec {} pre = some m →
        ∀ bs u, (∀ b ∈ bs, Event.arrives b) → (loopSystem config credit).exec m bs = some u →
          ¬ Blocked credit u :=
  along_iff_never_bad Free.step Free.not_blocked answered_of_arrives
    (fun _ he hstep => blocked_of_header he hstep) Free.init h

/-- The loop stays where it waits for a player, until the stream is opened or fails. -/
theorem parked_of_step {s t : State} {a : Action} {kind : StreamKind} {conn : ConnId}
    (hp : s.phase = .openStream kind p conn) (h : (system config).step s a = some t)
    (hopened : a ≠ .streamOpened) (hfails : a ≠ .openFails) :
    t.phase = .openStream kind p conn ∧ t.opened = s.opened := by
  cases step_cases h with
  | streamOpened _ => exact absurd rfl hopened
  | openFails _ => exact absurd rfl hfails
  | close | clientMessage _ | writeMessage _ _ _ | loseMessage _ _ _ | controlFails
  | messageTaskEnds _ | requestAsset _ | playerDatagram _ | playerDatagramLost _
  | playerDisconnects _ | playerSeesClosed _ _ => exact ⟨hp, rfl⟩
  | acceptConnection hp' _ | handshakeFails hp' | handshakeDone hp' _ _ | notAnnounced hp' _
  | spawnPlayer hp' | insertPlayer hp' | recvPlayerEvent hp' _ _ | recvUnknownEvent hp' _ _
  | bound hp' _ _ | notBound hp' _ _ | bindPanics hp' _ _ | named hp' _ | notNamed hp' _
  | sendAllocation hp' _ | allocationNotSent hp' _ | acceptStream hp' | headerRead hp' _
  | headerRefused hp' | headerFails hp' | datagram hp' _ | datagramLost hp' | datagramPanics hp' _
  | seesClosed hp' _ | sendStopped hp' => cases hp.symm.trans hp'

/-- **What waits then waits for good**: the loop stays parked, whatever happens. -/
theorem parked_forever {events : List Event} (hparked : ParkedFor credit s p)
    (h : (loopSystem config credit).exec s events = some t) : ParkedFor credit t p := by
  obtain ⟨kind, conn, hparked⟩ := hparked
  refine ⟨kind, conn, exec_invariant (P := fun u : Loop =>
    u.server.phase = .openStream kind p conn ∧ Exhausted credit u.server kind conn)
    ?_ hparked h⟩
  rintro s e t ⟨hp, hexhausted⟩ hstep
  cases e with
  | datagram _ | stream _ _ | attempt =>
      rw [server_of_arrival hstep nofun]
      exact ⟨hp, hexhausted⟩
  | act a =>
      obtain ⟨hgranted, hstep⟩ := step_of_act hstep
      -- the player grants no stream, and its connection does not close
      have hpending : a ≠ .streamOpened ∧ a ≠ .openFails := by
        constructor
        · rintro rfl
          rw [Granted, hp] at hgranted
          exact hgranted hexhausted
        · rintro rfl
          rw [Granted, hp] at hgranted
          exact hgranted hexhausted
      obtain ⟨hp', hopened⟩ := parked_of_step hp hstep hpending.1 hpending.2
      exact ⟨hp', (exhausted_congr hopened kind conn).mpr hexhausted⟩

/-- The player of the first connection grants one unidirectional stream. -/
def oneStream : Credit
  | .uni, 0 => some 1
  | _, _ => none

/-- The game server opens two streams for that player, and then another player connects. -/
def mutePlayer : List Event :=
  [.act (.clientMessage (.allocateEndpoint "game")),
    .act (.recvClientMessage (.ok localEndpoint)), .act .setAllocatedEndpoint,
    .act .sendAllocation,
    .attempt, .act .acceptConnection, .act (.handshakeDone Str.a), .act .spawnPlayer,
    .act .insertPlayer,
    .stream .uni (.openPlayerStream Str.a), .act (.acceptStream .uni),
    .act (.headerRead (.openPlayerStream Str.a)), .act .streamOpened,
    .stream .uni (.openPlayerStream Str.a), .act (.acceptStream .uni),
    .act (.headerRead (.openPlayerStream Str.a)), .attempt]

theorem answered_iff_never_blocked_mutePlayer :
    ∃ s, (loopSystem localConfig oneStream).exec {} mutePlayer = some s ∧
      (Along (loopSystem localConfig oneStream) (Answered oneStream) {} mutePlayer ↔
        ∀ pre m, pre <+: mutePlayer → (loopSystem localConfig oneStream).exec {} pre = some m →
          ∀ bs u, (∀ b ∈ bs, Event.arrives b) →
            (loopSystem localConfig oneStream).exec m bs = some u → ¬ Blocked oneStream u) :=
  ⟨_, rfl, answered_iff_never_blocked rfl⟩

/-- **A player can hold up another.** -/
theorem blocked_mutePlayer :
    ∃ s, (loopSystem localConfig oneStream).exec {} mutePlayer = some s ∧ Blocked oneStream s :=
  ⟨_, rfl, Str.a, ⟨.uni, 0, rfl, 1, rfl, Nat.le_refl 1⟩, .attempt Nat.one_pos⟩

end AmbientProxy.ProxyServer
