import AmbientProxy.Lib.Network
import AmbientProxy.ProxyServer

/-! # Allocation — once, and before any player

    `handle_allocate_message` sets the endpoint, then the text that `stats` reports,
    then the loop sends `Allocation`, and only then it accepts players.  The
    message-processing task writes what was sent to the control stream, in order,
    until the stream fails.

    * `Allocating.step` — where an allocation can stand, with what was sent so far;
    * `Written.step` — what is written is a prefix of what was sent;
    * `proxyEndpoint_stays` — an endpoint that is set is never replaced. -/

namespace AmbientProxy.ProxyServer

open Transition Network

def isAllocation : ServerMessage → Bool
  | .allocation _ _ _ _ => true
  | _ => false

def isPlayerConnected : ServerMessage → Bool
  | .playerConnected _ => true
  | _ => false

@[simp] theorem isAllocation_carried (message : ServerMessage) :
    isAllocation message.carried = isAllocation message := by
  cases message with
  | _ => rfl

@[simp] theorem isPlayerConnected_carried (message : ServerMessage) :
    isPlayerConnected message.carried = isPlayerConnected message := by
  cases message with
  | _ => rfl

/-- Only requests for assets. -/
def Quiet (messages : List ServerMessage) : Prop :=
  ∀ m ∈ messages, isAllocation m = false ∧ isPlayerConnected m = false

theorem Quiet.nil : Quiet [] := nofun

theorem Quiet.request {messages : List ServerMessage} (h : Quiet messages) (key : Str) :
    Quiet (messages ++ [.requestAsset key]) :=
  List.forall_mem_append.mpr ⟨h, List.forall_mem_singleton.mpr ⟨rfl, rfl⟩⟩

/-- The loop is not in the middle of an allocation. -/
def Phase.notSending : Phase → Prop
  | .setAllocatedEndpoint _ | .sendAllocation _ => False
  | _ => True

/-- How far the allocation is. -/
inductive Allocating (config : ProxyConfig) (s : State) : Prop where
  | before (he : s.proxyEndpoint = none) (hp : s.phase.notSending)
      (hh : ∀ conn, s.phase ≠ .handshake conn) (hq : Quiet s.sent)
  | binding (endpoint : Endpoint) (hp : s.phase = .setAllocatedEndpoint endpoint)
      (he : s.proxyEndpoint.isSome = true) (haddr : endpoint.localAddr.isSome = true)
      (hq : Quiet s.sent)
  | sending (assetsRoot : String) (he : s.proxyEndpoint.isSome = true)
      (ha : s.allocatedEndpoint ≠ "")
      (hp : s.phase = .sendAllocation
        (.allocation config.id s.allocatedEndpoint assetsRoot config.externalEndpoint))
      (hq : Quiet s.sent)
  | sent (earlier later : List ServerMessage) (assetsRoot : String)
      (he : s.proxyEndpoint.isSome = true) (ha : s.allocatedEndpoint ≠ "")
      (hp : s.phase.notSending)
      (hs : s.sent = earlier ++
        .allocation config.id s.allocatedEndpoint assetsRoot config.externalEndpoint :: later)
      (hq : Quiet earlier) (hl : ∀ m ∈ later, isAllocation m = false)
  /-- The message-processing task had ended. -/
  | notSent (he : s.proxyEndpoint.isSome = true) (ha : s.allocatedEndpoint ≠ "")
      (hp : s.phase.notSending) (hm : s.messageTaskEnded = true) (hq : Quiet s.sent)

variable {config : ProxyConfig} {s t : State} {a : Action}

theorem Allocating.init : Allocating config {} :=
  .before rfl trivial nofun Quiet.nil

/-- The loop moves on, and nothing is sent. -/
theorem Allocating.move (hs : Allocating config s) (hnow : s.phase.notSending)
    (hp : t.phase.notSending) (he : t.proxyEndpoint = s.proxyEndpoint)
    (ha : t.allocatedEndpoint = s.allocatedEndpoint)
    (hh : ∀ conn, t.phase = .handshake conn → s.phase = .handshake conn ∨
      s.proxyEndpoint.isSome = true)
    (hm : s.messageTaskEnded = true → t.messageTaskEnded = true) (hsent : t.sent = s.sent) :
    Allocating config t := by
  cases hs with
  | before he' hp' hh' hq =>
      refine .before (he.trans he') hp ?_ (hsent ▸ hq)
      intro conn hconn
      rcases hh conn hconn with h | h
      · exact hh' conn h
      · rw [he'] at h
        exact nomatch h
  | binding _ hp' _ _ _ | sending _ _ _ hp' _ =>
      rw [hp'] at hnow
      exact hnow.elim
  | sent earlier later assetsRoot he' ha' hp' hs' hq hl =>
      refine .sent earlier later assetsRoot (he ▸ he') (ha ▸ ha') hp ?_ hq hl
      rw [hsent, ha]
      exact hs'
  | notSent he' ha' hp' hm' hq => exact .notSent (he ▸ he') (ha ▸ ha') hp (hm hm') (hsent ▸ hq)

/-- Another task moves. -/
theorem Allocating.other (hs : Allocating config s) (hp : t.phase = s.phase)
    (he : t.proxyEndpoint = s.proxyEndpoint) (ha : t.allocatedEndpoint = s.allocatedEndpoint)
    (hm : s.messageTaskEnded = true → t.messageTaskEnded = true) (hsent : t.sent = s.sent) :
    Allocating config t := by
  cases hs with
  | before he' hp' hh' hq =>
      exact .before (he.trans he') (hp ▸ hp') (hp ▸ hh') (hsent ▸ hq)
  | binding endpoint hp' he' haddr hq =>
      exact .binding endpoint (hp.trans hp') (he ▸ he') haddr (hsent ▸ hq)
  | sending assetsRoot he' ha' hp' hq =>
      refine .sending assetsRoot (he ▸ he') (ha ▸ ha') ?_ (hsent ▸ hq)
      rw [hp, ha]
      exact hp'
  | sent earlier later assetsRoot he' ha' hp' hs' hq hl =>
      refine .sent earlier later assetsRoot (he ▸ he') (ha ▸ ha') (hp ▸ hp') ?_ hq hl
      rw [hsent, ha]
      exact hs'
  | notSent he' ha' hp' hm' hq =>
      exact .notSent (he ▸ he') (ha ▸ ha') (hp ▸ hp') (hm hm') (hsent ▸ hq)

/-- After the `Allocation`, another message is sent. -/
theorem Allocating.sendLater {phase : Phase} {earlier later : List ServerMessage}
    {assetsRoot : String} {m : ServerMessage} (he : s.proxyEndpoint.isSome = true)
    (ha : s.allocatedEndpoint ≠ "") (hp : phase.notSending)
    (hs : s.sent = earlier ++
      .allocation config.id s.allocatedEndpoint assetsRoot config.externalEndpoint :: later)
    (hq : Quiet earlier) (hl : ∀ m ∈ later, isAllocation m = false)
    (hm : isAllocation m = false) : Allocating config { s.send m with phase := phase } := by
  refine .sent earlier (later ++ [m]) assetsRoot he ha hp ?_ hq
    (List.forall_mem_append.mpr ⟨hl, List.forall_mem_singleton.mpr hm⟩)
  show s.sent ++ [m] = _
  rw [hs, List.append_assoc, List.cons_append]
  rfl

/-- A request for an asset is sent. -/
theorem Allocating.request (hs : Allocating config s) (key : Str) :
    Allocating config (s.send (.requestAsset key)) := by
  cases hs with
  | before he hp hh hq => exact .before he hp hh (hq.request key)
  | binding endpoint hp he haddr hq => exact .binding endpoint hp he haddr (hq.request key)
  | sending assetsRoot he ha hp hq => exact .sending assetsRoot he ha hp (hq.request key)
  | sent earlier later assetsRoot he ha hp hs hq hl => exact sendLater he ha hp hs hq hl rfl
  | notSent he ha hp hm hq => exact .notSent he ha hp hm (hq.request key)

/-- A player is announced: the `Allocation` was sent. -/
theorem Allocating.announce {conn : ConnId} {p : Str} (hs : Allocating config s)
    (hp : s.phase = .handshake conn) (hm : s.messageTaskEnded = false) :
    Allocating config { s.send (.playerConnected p) with phase := .spawnPlayer conn p } := by
  cases hs with
  | before _ _ hh _ => exact absurd hp (hh conn)
  | binding _ hp' _ _ _ | sending _ _ _ hp' _ => exact nomatch hp.symm.trans hp'
  | sent earlier later assetsRoot he ha _ hs hq hl => exact sendLater he ha trivial hs hq hl rfl
  | notSent _ _ _ hm' _ => exact nomatch hm.symm.trans hm'

/-- An endpoint that was just bound has a local address. -/
def HasLocalAddr (a : Action) : Prop :=
  ∀ endpoint, a = .recvClientMessage (.ok endpoint) → endpoint.localAddr.isSome = true

theorem notSending_of_phase {phase phase' : Phase} (hp : phase = phase')
    (h : phase'.notSending) : phase.notSending :=
  hp ▸ h

/-- A text with a colon in it is not the empty one. -/
theorem host_port_ne_empty (host : String) (port : UInt16) :
    host ++ ":" ++ toString port.toNat ≠ "" := by
  intro hempty
  have hlen := congrArg String.length hempty
  rw [String.length_append, String.length_append] at hlen
  have hcolon : (":" : String).length = 1 := rfl
  have hnil : ("" : String).length = 0 := rfl
  omega

theorem Allocating.step (hs : Allocating config s) (ha : HasLocalAddr a)
    (h : (system config).step s a = some t) : Allocating config t := by
  cases step_cases h with
  | close | clientMessage _ | writeMessage _ _ _ | loseMessage _ _ _ | controlFails
  | notBound _ _ _ | datagramLost _ | datagram _ _ | playerDatagram _ | playerDatagramLost _
  | playerDisconnects _ | playerSeesClosed _ _ | recvPlayerEvent _ _ _ | recvUnknownEvent _ _ _ =>
      exact hs.other rfl rfl rfl id rfl
  | messageTaskEnds _ => exact hs.other rfl rfl rfl (fun _ => rfl) rfl
  | requestAsset _ => exact hs.request _
  | acceptConnection hp he =>
      exact hs.move (notSending_of_phase hp trivial) trivial rfl rfl (fun _ _ => .inr he) id rfl
  | handshakeFails hp | notAnnounced hp _ | spawnPlayer hp | insertPlayer hp | bindPanics hp _ _
  | acceptStream hp | headerRead hp _ | headerRefused hp | headerFails hp | streamOpened hp
  | openFails hp | datagramPanics hp _ | seesClosed hp _ | sendStopped hp =>
      exact hs.move (notSending_of_phase hp trivial) trivial rfl rfl nofun id rfl
  | handshakeDone hp _ hm => exact hs.announce hp hm
  | @bound endpoint _ _ hp _ hnone =>
      cases hs with
      | before _ _ _ hq => exact .binding endpoint rfl rfl (ha endpoint rfl) hq
      | binding _ _ he _ _ | sending _ he _ _ _ | sent _ _ _ he _ _ _ _ _ | notSent he _ _ _ _ =>
          rw [hnone] at he
          cases he
  | named hp _ =>
      cases hs with
      | before _ hp' _ _ | sent _ _ _ _ _ hp' _ _ _ | notSent _ _ hp' _ _ =>
          rw [hp] at hp'
          exact hp'.elim
      | sending _ _ _ hp' _ => cases hp.symm.trans hp'
      | binding _ _ he _ hq => exact .sending _ he (host_port_ne_empty _ _) rfl hq
  | notNamed hp hnone =>
      cases hs with
      | before _ hp' _ _ | sent _ _ _ _ _ hp' _ _ _ | notSent _ _ hp' _ _ =>
          rw [hp] at hp'
          exact hp'.elim
      | sending _ _ _ hp' _ => cases hp.symm.trans hp'
      | binding _ hp' _ haddr _ =>
          cases hp.symm.trans hp'
          rw [hnone] at haddr
          cases haddr
  | sendAllocation hp _ =>
      cases hs with
      | before _ hp' _ _ | sent _ _ _ _ _ hp' _ _ _ | notSent _ _ hp' _ _ =>
          rw [hp] at hp'
          exact hp'.elim
      | binding _ hp' _ _ _ => cases hp.symm.trans hp'
      | sending assetsRoot he ha hp' hq =>
          cases hp.symm.trans hp'
          exact .sent s.sent [] assetsRoot he ha trivial rfl hq nofun
  | allocationNotSent hp hm =>
      cases hs with
      | before _ hp' _ _ | sent _ _ _ _ _ hp' _ _ _ | notSent _ _ hp' _ _ =>
          rw [hp] at hp'
          exact hp'.elim
      | binding _ hp' _ _ _ => cases hp.symm.trans hp'
      | sending assetsRoot he ha _ hq => exact .notSent he ha trivial hm hq

/-- What was sent holds at most one `Allocation`, and no player before it. -/
theorem Allocating.onceFirst (hs : Allocating config s) :
    OnceFirst isAllocation isPlayerConnected s.sent := by
  cases hs with
  | before _ _ _ hq | binding _ _ _ _ hq | sending _ _ _ _ hq | notSent _ _ _ _ hq =>
      exact .of_forall hq
  | sent earlier later assetsRoot _ _ _ hs hq hl =>
      rw [hs]
      exact .of_cons rfl rfl hq hl

/-- The `Allocation` names the endpoint that `stats` reports. -/
theorem Allocating.endpoint_of_mem {id : Uuid} {allocatedEndpoint assetsRoot : String}
    {externalEndpoint : SocketAddr} (hs : Allocating config s)
    (hm : .allocation id allocatedEndpoint assetsRoot externalEndpoint ∈ s.sent) :
    s.allocatedEndpoint = allocatedEndpoint ∧ allocatedEndpoint ≠ "" := by
  cases hs with
  | before _ _ _ hq | binding _ _ _ _ hq | sending _ _ _ _ hq | notSent _ _ _ _ hq =>
      exact nomatch (hq _ hm).1
  | sent earlier later root _ ha _ hs hq hl =>
      rw [hs] at hm
      rcases List.mem_append.mp hm with hm | hm
      · exact nomatch (hq _ hm).1
      · rcases List.mem_cons.mp hm with hm | hm
        · cases hm
          exact ⟨rfl, ha⟩
        · exact nomatch hl _ hm

/-- Where the proxy is done with the endpoint, `stats` reports it. -/
theorem Allocating.reported (hs : Allocating config s) (he : s.proxyEndpoint.isSome = true)
    (hp : ∀ endpoint, s.phase ≠ .setAllocatedEndpoint endpoint) : s.allocatedEndpoint ≠ "" := by
  cases hs with
  | before hnone _ _ _ =>
      rw [hnone] at he
      cases he
  | binding endpoint hp' _ _ _ => exact absurd hp' (hp endpoint)
  | sending _ _ ha _ _ | sent _ _ _ _ ha _ _ _ _ | notSent _ ha _ _ _ => exact ha

/-! ## The control stream -/

/-- What is written is what was sent, up to where the stream failed. -/
structure Written (s : State) : Prop where
  written : s.written <+: s.sent
  queued : s.controlFailed = false → s.written ++ s.serverMessages = s.sent

theorem Written.init : Written {} := ⟨List.prefix_refl [], fun _ => rfl⟩

theorem Written.send (hs : Written s) (message : ServerMessage) : Written (s.send message) where
  written := hs.written.trans (List.prefix_append s.sent [message])
  queued hc := by
    show s.written ++ (s.serverMessages ++ [message]) = s.sent ++ [message]
    rw [← List.append_assoc, hs.queued hc]

theorem Written.step (hs : Written s) (h : (system config).step s a = some t) : Written t := by
  cases step_cases h with
  | close | clientMessage _ | messageTaskEnds _ | acceptConnection _ _ | handshakeFails _
  | notAnnounced _ _ | spawnPlayer _ | insertPlayer _ | recvPlayerEvent _ _ _
  | recvUnknownEvent _ _ _ | bound _ _ _ | notBound _ _ _ | bindPanics _ _ _ | named _ _
  | notNamed _ _ | allocationNotSent _ _ | acceptStream _ | headerRead _ _
  | headerRefused _ | headerFails _ | streamOpened _ | openFails _ | datagram _ _
  | datagramLost _ | datagramPanics _ _ | seesClosed _ _ | sendStopped _ | playerDatagram _
  | playerDatagramLost _ | playerDisconnects _ | playerSeesClosed _ _ =>
      exact ⟨hs.written, hs.queued⟩
  | writeMessage hm he hc =>
      rename_i message rest
      have hq := hs.queued hc
      rw [hm] at hq
      have hq' : s.written ++ [message] ++ rest = s.sent := by
        rw [List.append_assoc]
        exact hq
      exact ⟨⟨rest, hq'⟩, fun _ => hq'⟩
  | loseMessage _ _ hc => exact ⟨hs.written, fun hc' => nomatch hc.symm.trans hc'⟩
  | controlFails => exact ⟨hs.written, nofun⟩
  | requestAsset _ | handshakeDone _ _ _ | sendAllocation _ _ =>
      have hsend := hs.send
      exact ⟨(hsend _).written, (hsend _).queued⟩

/-! ## The endpoint -/

/-- Nothing is reported until the endpoint is set, and what `handle_allocate_message` is
    about to report is the endpoint that it has set. -/
structure Unreported (s : State) : Prop where
  unset : s.proxyEndpoint = none → s.allocatedEndpoint = ""
  setting : ∀ endpoint, s.phase = .setAllocatedEndpoint endpoint →
    s.proxyEndpoint.isSome = true ∧ s.allocatedEndpoint = ""

theorem Unreported.init : Unreported {} := ⟨fun _ => rfl, nofun⟩

theorem Unreported.step (hs : Unreported s) (h : (system config).step s a = some t) :
    Unreported t := by
  cases step_cases h with
  | bound _ _ hnone => exact ⟨nofun, fun _ _ => ⟨rfl, hs.unset hnone⟩⟩
  | named hp _ =>
      refine ⟨fun hnone => ?_, nofun⟩
      have hsome := (hs.setting _ hp).1
      rw [show s.proxyEndpoint = none from hnone] at hsome
      cases hsome
  | close | clientMessage _ | writeMessage _ _ _ | loseMessage _ _ _ | controlFails
  | messageTaskEnds _ | requestAsset _ | recvPlayerEvent _ _ _ | recvUnknownEvent _ _ _
  | notBound _ _ _ | datagram _ _ | datagramLost _ | playerDatagram _ | playerDatagramLost _
  | playerDisconnects _ | playerSeesClosed _ _ => exact ⟨hs.unset, hs.setting⟩
  | _ => exact ⟨hs.unset, nofun⟩

theorem unreported_of_exec {acts : List Action} (h : (system config).exec {} acts = some s) :
    Unreported s :=
  exec_invariant Unreported.step Unreported.init h

/-- **An endpoint that is set is never replaced.** -/
theorem proxyEndpoint_stays {endpoint : Endpoint} {acts : List Action}
    (he : s.proxyEndpoint = some endpoint) (h : (system config).exec s acts = some t) :
    t.proxyEndpoint = some endpoint := by
  refine exec_invariant (P := fun u => u.proxyEndpoint = some endpoint) ?_ he h
  intro u a v hu hstep
  cases step_cases hstep with
  | bound _ _ hnone => cases hnone.symm.trans hu
  | _ => exact hu

/-- **Neither is what is reported of it.** -/
theorem allocatedEndpoint_stays {acts : List Action} (hs : Unreported s)
    (hne : s.allocatedEndpoint ≠ "") (h : (system config).exec s acts = some t) :
    t.allocatedEndpoint = s.allocatedEndpoint := by
  refine (exec_invariant
    (P := fun u => Unreported u ∧ u.allocatedEndpoint = s.allocatedEndpoint) ?_ ⟨hs, rfl⟩ h).2
  rintro u a v ⟨hu, hsame⟩ hstep
  refine ⟨hu.step hstep, ?_⟩
  cases step_cases hstep with
  | named hp _ => exact absurd (hsame.symm.trans (hu.setting _ hp).2) hne
  | _ => exact hsame

end AmbientProxy.ProxyServer
