import AmbientProxy.Startup

/-! # The control stream — two tasks that accept from one connection

    `src/server.rs`: the message-processing task and `ProxyServer::start` both call
    `accept_bi` on the connection of the game server, and no stream says what it
    is for:

        client                            proxy
        Client::connect: open_bi          message-processing task: accept_bi, once
        ProxiedConnection::open_bi, …     ProxyServer::start: accept_bi, handle_bi, …

    Assumed of the connection: it hands out the streams of the peer in the order in
    which they were opened, each to one acceptor; a stream is known to the proxy
    once data has come in on it or on a later one.

    `control_stream_first`: the message-processing task gets the stream of
    `Client::connect` and no other, and `handle_bi` gets all others, in their order
    and each once, whatever the client writes first. -/

namespace AmbientProxy.ControlStream

open Transition Startup

/-- Who opened a bi stream. -/
inductive Opener where
  /-- `Client::connect`. -/
  | connect
  /-- `ProxiedConnection::open_bi`. -/
  | proxiedConnection (playerId : Str)
  deriving DecidableEq

/-- The bi streams of the client and the allocation they belong to.  A stream is
    named by the number of streams opened before it; the last two fields record
    which streams `accept_bi` returned to which task. -/
structure State where
  allocation : Allocation := {}
  opened : List Opener := []
  /-- How many streams the proxy knows of. -/
  known : Nat := 0
  /-- How many streams `accept_bi` has returned. -/
  accepted : Nat := 0
  toMessageTask : List Nat := []
  toHandleBi : List Nat := []

inductive Action where
  -- the client
  | connect
  | openBi (playerId : Str)
  /-- The first data of a stream comes in. -/
  | write (stream : Nat)
  -- the proxy
  | messageTaskAccepts
  | loopAccepts
  | allocation (a : Startup.Action)

/-- What each action does, where it is enabled. -/
def step (id : Uuid) (s : State) : Action → Option State
  | .connect => if s.opened = [] then some { s with opened := [.connect] } else none
  | .openBi playerId =>
      if s.opened = [] then none
      else some { s with opened := s.opened ++ [.proxiedConnection playerId] }
  | .write stream =>
      if stream < s.opened.length ∧ s.allocation.closed = false then
        some { s with
          allocation := { s.allocation with controlOpened := true }
          known := max s.known (stream + 1) }
      else none
  | .messageTaskAccepts =>
      if s.accepted < s.known then
        ((Startup.system id).step s.allocation .acceptBi).map fun allocation =>
          { s with
            allocation := allocation
            accepted := s.accepted + 1
            toMessageTask := s.toMessageTask ++ [s.accepted] }
      else none
  | .loopAccepts =>
      if s.accepted < s.known then
        ((Startup.system id).step s.allocation .acceptServerStream).map fun allocation =>
          { s with
            allocation := allocation
            accepted := s.accepted + 1
            toHandleBi := s.toHandleBi ++ [s.accepted] }
      else none
  | .allocation a =>
      -- these two are the actions above
      if a = .openControl ∨ a = .acceptBi then none
      else ((Startup.system id).step s.allocation a).map fun allocation =>
        { s with allocation := allocation }

/-- One allocation and the bi streams of its client. -/
def system (id : Uuid) : System State Action where
  init := {}
  step := step id

/-! ## Who gets which stream -/

/-- What has been handed out, at every point of the two tasks. -/
structure Inv (s : State) : Prop where
  handshake : HandshakeInv s.allocation
  opened : s.opened = [] ∨
    ∃ players : List Str, s.opened = .connect :: players.map .proxiedConnection
  known : s.known ≤ s.opened.length
  accepted : s.accepted ≤ s.known
  before : s.allocation.messageTask.waiting = true →
    s.accepted = 0 ∧ s.toMessageTask = [] ∧ s.toHandleBi = []
  after : s.allocation.messageTask.waiting = false →
    s.accepted = s.toHandleBi.length + 1 ∧ s.toMessageTask = [0] ∧
      s.toHandleBi = List.range' 1 s.toHandleBi.length

variable {id : Uuid} {s t : State} {a : Action} {acts : List Action}

theorem Inv.init : Inv {} :=
  ⟨HandshakeInv.init, Or.inl rfl, Nat.le_refl 0, Nat.le_refl 0, fun _ => ⟨rfl, rfl, rfl⟩, nofun⟩

/-- Only `accept_bi` takes the message-processing task past the waiting. -/
theorem waiting_step {s t : Allocation} {a : Startup.Action} (hs : HandshakeInv s)
    (ha : a ≠ .acceptBi) (h : (Startup.system id).step s a = some t) :
    t.messageTask.waiting = s.messageTask.waiting := by
  obtain ⟨hg, rfl⟩ := guarded_step_iff.mp h
  cases a with
  | acceptBi => exact absurd rfl ha
  | newProxyServer =>
      have hm : s.messageTask = .notSpawned := by
        by_contra hne
        exact hs.unspawned hne hg
      rw [hm]
      rfl
  | acceptBiFails =>
      rw [show s.messageTask = .acceptBi from hg.1]
      rfl
  | writeStarted | notifyWaiters =>
      rw [show s.messageTask = _ from hg]
      rfl
  | messageTaskSeesClosed =>
      rw [show s.messageTask = .processing from hg.1]
      rfl
  | recvEvent => rw [recvEvent_messageTask]
  | pollNotified => rw [pollNotified_messageTask]
  | otherHandled other => cases other <;> rfl
  | openControl | close | spawnStart | insert | acceptOther | otherStopped _ | readStarted
  | createNotified | acceptPlayer | handshakeEnds | acceptServerStream | headerRead _
  | headerFails | playerStreamEnds | datagram _ | allocateEndpoint _ | startSeesClosed
  | sendStopped => rfl

/-- The `select!` loop runs only after the message-processing task has its stream. -/
theorem not_waiting_of_past {s : Allocation} (hs : HandshakeInv s)
    (hpast : s.startTask.past = true) : s.messageTask.waiting = false := by
  have hannounced : s.messageTask.announced = true := hs.started.symm.trans (hs.past hpast)
  cases hm : s.messageTask with
  | notSpawned | acceptBi | acceptFailed | writeStarted =>
      rw [hm] at hannounced
      exact nomatch hannounced
  | notifyWaiters | processing | finished => rfl

theorem Inv.step (hs : Inv s) (h : (system id).step s a = some t) : Inv t := by
  change ControlStream.step id s a = some t at h
  have ⟨hhandshake, hopened, hknown, haccepted, hbefore, hafter⟩ := hs
  cases a with
  | connect =>
      rw [ControlStream.step] at h
      split at h
      · rename_i hnone
        cases Option.some.inj h
        rw [hnone] at hknown
        exact ⟨hhandshake, Or.inr ⟨[], rfl⟩, Nat.le_succ_of_le hknown, haccepted, hbefore, hafter⟩
      · cases h
  | openBi playerId =>
      rw [ControlStream.step] at h
      split at h
      · cases h
      · rename_i hne
        cases Option.some.inj h
        obtain hnone | ⟨players, hplayers⟩ := hopened
        · exact absurd hnone hne
        · refine ⟨hhandshake, Or.inr ⟨players ++ [playerId], ?_⟩, ?_, haccepted, hbefore, hafter⟩
          · rw [hplayers, List.map_append]
            rfl
          · rw [List.length_append]
            exact Nat.le_succ_of_le hknown
  | write stream =>
      rw [ControlStream.step] at h
      split at h
      · rename_i hwrite
        cases Option.some.inj h
        exact ⟨⟨hhandshake.unspawned, hhandshake.started, hhandshake.permit, hhandshake.future,
          hhandshake.past⟩, hopened, Nat.max_le.mpr ⟨hknown, hwrite.1⟩,
          le_trans haccepted (Nat.le_max_left _ _), hbefore, hafter⟩
      · cases h
  | messageTaskAccepts =>
      rw [ControlStream.step] at h
      split at h
      · rename_i hlt
        obtain ⟨allocation, hstep, rfl⟩ := Option.map_eq_some_iff.mp h
        have hhandshake' := hhandshake.step hstep
        obtain ⟨hg, rfl⟩ := guarded_step_iff.mp hstep
        have hwaiting : s.allocation.messageTask.waiting = true := by
          rw [show s.allocation.messageTask = .acceptBi from hg.1]
          rfl
        obtain ⟨hzero, htask, hloop⟩ := hbefore hwaiting
        refine ⟨hhandshake', hopened, hknown, hlt, nofun, fun _ => ?_⟩
        rw [hzero, htask, hloop]
        exact ⟨rfl, rfl, rfl⟩
      · cases h
  | loopAccepts =>
      rw [ControlStream.step] at h
      split at h
      · rename_i hlt
        obtain ⟨allocation, hstep, rfl⟩ := Option.map_eq_some_iff.mp h
        have hhandshake' := hhandshake.step hstep
        have hsame := waiting_step (a := .acceptServerStream) hhandshake nofun hstep
        obtain ⟨hg, -⟩ := guarded_step_iff.mp hstep
        have hdone : s.allocation.messageTask.waiting = false := by
          refine not_waiting_of_past hhandshake ?_
          rw [show s.allocation.startTask = .select from hg]
          rfl
        obtain ⟨hcount, htask, hloop⟩ := hafter hdone
        refine ⟨hhandshake', hopened, hknown, hlt, ?_, fun _ => ?_⟩
        · intro hwaiting
          exact nomatch (hsame.symm.trans hwaiting).symm.trans hdone
        · refine ⟨?_, htask, ?_⟩
          · rw [List.length_append, hcount]
            rfl
          · have hnext : s.toHandleBi.length + 1 = 1 + 1 * s.toHandleBi.length := by omega
            rw [List.length_append, List.length_singleton, List.range'_concat, ← hloop, hcount,
              ← hnext]
      · cases h
  | allocation a =>
      rw [ControlStream.step] at h
      split at h
      · cases h
      · rename_i ha
        obtain ⟨allocation, hstep, rfl⟩ := Option.map_eq_some_iff.mp h
        have hsame := waiting_step hhandshake (fun heq => ha (Or.inr heq)) hstep
        refine ⟨hhandshake.step hstep, hopened, hknown, haccepted, ?_, ?_⟩
        · intro hwaiting
          exact hbefore (hsame.symm.trans hwaiting)
        · intro hdone
          exact hafter (hsame.symm.trans hdone)

theorem inv_of_exec (h : (system id).exec {} acts = some s) : Inv s :=
  exec_invariant Inv.step Inv.init h

/-- The loop has been given the streams from the second on, in their order. -/
theorem Inv.toHandleBi_eq (hs : Inv s) : s.toHandleBi = List.range' 1 (s.accepted - 1) := by
  cases hw : s.allocation.messageTask.waiting with
  | true =>
      obtain ⟨hzero, -, hloop⟩ := hs.before hw
      rw [hloop, hzero]
      rfl
  | false =>
      obtain ⟨hcount, -, hloop⟩ := hs.after hw
      rw [hcount, Nat.add_sub_cancel]
      exact hloop

/-- The message-processing task has been given the first stream, or none. -/
theorem Inv.toMessageTask_eq (hs : Inv s) : s.toMessageTask = List.range (min s.accepted 1) := by
  cases hw : s.allocation.messageTask.waiting with
  | true =>
      obtain ⟨hzero, htask, -⟩ := hs.before hw
      rw [htask, hzero]
      rfl
  | false =>
      obtain ⟨hcount, htask, -⟩ := hs.after hw
      rw [htask, hcount, Nat.min_eq_right (Nat.le_add_left 1 _)]
      rfl

/-- The first stream is the one of `Client::connect`, and no other is. -/
theorem Inv.opened_getElem? (hs : Inv s) {i : Nat} {opener : Opener}
    (h : s.opened[i]? = some opener) : opener = .connect ↔ i = 0 := by
  obtain hnone | ⟨players, hplayers⟩ := hs.opened
  · rw [hnone] at h
    cases h
  · rw [hplayers] at h
    cases i with
    | zero =>
        cases h
        exact ⟨fun _ => rfl, fun _ => rfl⟩
    | succ i =>
        rw [List.getElem?_cons_succ, List.getElem?_map] at h
        obtain ⟨playerId, -, rfl⟩ := Option.map_eq_some_iff.mp h
        exact ⟨nofun, nofun⟩

/-- **The control stream is never confused with the stream of a player.**  For every
    run, whatever the client writes first and however the two tasks interleave: the
    message-processing task is given at most one stream, and that is the one of
    `Client::connect`; a stream of `ProxiedConnection::open_bi` is given to
    `handle_bi` exactly once by the time `accept_bi` has returned it, and never to
    the message-processing task; `handle_bi` is given no other stream; and wherever
    the loop is at its `select!`, the next stream that is known is given to it. -/
theorem control_stream_first (h : (system id).exec {} acts = some s) :
    (s.toMessageTask.length ≤ 1 ∧ ∀ i ∈ s.toMessageTask, s.opened[i]? = some .connect) ∧
    (∀ i playerId, s.opened[i]? = some (.proxiedConnection playerId) →
      s.toHandleBi.count i = (if i < s.accepted then 1 else 0) ∧ i ∉ s.toMessageTask) ∧
    (s.toHandleBi.Pairwise (· < ·) ∧
      ∀ i ∈ s.toHandleBi, ∃ playerId, s.opened[i]? = some (.proxiedConnection playerId)) ∧
    (s.allocation.startTask = .select → s.accepted < s.known →
      ∃ t, (system id).step s .loopAccepts = some t ∧
        t.toHandleBi = s.toHandleBi ++ [s.accepted]) := by
  have hs : Inv s := inv_of_exec h
  have hlength : s.accepted ≤ s.opened.length := le_trans hs.accepted hs.known
  refine ⟨⟨?_, ?_⟩, ?_, ⟨?_, ?_⟩, ?_⟩
  · rw [hs.toMessageTask_eq, List.length_range]
    exact Nat.min_le_right _ _
  · intro i hi
    rw [hs.toMessageTask_eq, List.mem_range] at hi
    have hzero : i = 0 := by omega
    have hlt : i < s.opened.length := by omega
    rw [List.getElem?_eq_getElem hlt, (hs.opened_getElem? (List.getElem?_eq_getElem hlt)).mpr hzero]
  · intro i playerId hi
    have hpos : i ≠ 0 := by
      intro hzero
      exact nomatch (hs.opened_getElem? hi).mpr hzero
    constructor
    · have hmem : i ∈ s.toHandleBi ↔ i < s.accepted := by
        rw [hs.toHandleBi_eq, List.mem_range'_1]
        omega
      have hnodup : s.toHandleBi.Nodup := by
        rw [hs.toHandleBi_eq]
        exact List.nodup_range'
      rw [hnodup.count]
      by_cases hlt : i < s.accepted
      · rw [if_pos (hmem.mpr hlt), if_pos hlt]
      · rw [if_neg (fun h => hlt (hmem.mp h)), if_neg hlt]
    · rw [hs.toMessageTask_eq, List.mem_range]
      omega
  · rw [hs.toHandleBi_eq]
    exact List.pairwise_lt_range'
  · intro i hi
    rw [hs.toHandleBi_eq, List.mem_range'_1] at hi
    have hlt : i < s.opened.length := by omega
    cases hopener : s.opened[i] with
    | connect =>
        have hzero := (hs.opened_getElem? (List.getElem?_eq_getElem hlt)).mp hopener
        omega
    | proxiedConnection playerId =>
        exact ⟨playerId, by rw [List.getElem?_eq_getElem hlt, hopener]⟩
  · intro hselect hlt
    have hstep : (Startup.system id).step s.allocation .acceptServerStream
        = some { s.allocation with startTask := .handler .serverStream } :=
      guarded_step_of_guard hselect
    refine ⟨{ s with
      allocation := { s.allocation with startTask := .handler .serverStream }
      accepted := s.accepted + 1
      toHandleBi := s.toHandleBi ++ [s.accepted] }, ?_, rfl⟩
    show ControlStream.step id s .loopAccepts = _
    rw [ControlStream.step, if_pos hlt, hstep]
    rfl

/-- A player's stream carries data before the control stream does. -/
def playerStreamFirst : List Action :=
  [.connect, .openBi Str.a, .write 1, .allocation .newProxyServer, .messageTaskAccepts,
    .allocation .writeStarted, .allocation .spawnStart, .allocation .readStarted, .loopAccepts]

theorem control_stream_first_playerStreamFirst :
    ∃ s, (system 7).exec {} playerStreamFirst = some s ∧
      s.toMessageTask = [0] ∧ s.opened[0]? = some .connect ∧
      s.toHandleBi = [1] ∧ s.toHandleBi.count 1 = 1 ∧ 1 ∉ s.toMessageTask := by
  have hrun : (system 7).exec {} playerStreamFirst = some _ := rfl
  obtain ⟨⟨-, hcontrol⟩, hplayers, -⟩ := control_stream_first hrun
  obtain ⟨hcount, hnot⟩ := hplayers 1 Str.a rfl
  exact ⟨_, hrun, rfl, hcontrol 0 List.mem_cons_self, rfl, hcount, hnot⟩

end AmbientProxy.ControlStream
