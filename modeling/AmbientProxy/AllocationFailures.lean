import AmbientProxy.Allocation
import AmbientProxy.PlayerRegistry

/-! # Failed allocations — what they leave behind

    `handle_allocate_message` writes two fields and can fail before the first, between
    the two, but not after the second:

        already allocated?       give up
        bind an endpoint         fails: give up
        proxy_endpoint           set
        local_addr               fails: give up
        allocated_endpoint       set

    Here are its calls one after the other, as the loop makes them.

    * `exec_requests` — the endpoint of a run of the proxy is that of its requests;
    * `nothingLeftBehind_iff` — failed requests leave nothing behind, exactly when the
      first endpoint that is bound has a local address;
    * `never_allocates_of_lost` — after one that has none, every request fails. -/

namespace AmbientProxy.ProxyServer

open Transition

/-- The requests handled so far: where they left the proxy, and what each returned. -/
structure Requests where
  proxy : State := {}
  returned : List (Outcome ServerMessage) := []

/-- One more request; there is none after a panic, which ends the loop. -/
def Requests.step (config : ProxyConfig) (r : Requests) (created : Outcome Endpoint) :
    Option Requests :=
  if .panic ∈ r.returned then none
  else
    let (proxy, response) := handleAllocateMessage config r.proxy created
    some ⟨proxy, r.returned ++ [response]⟩

/-- Requests, one after the other; an action is what `create_proxy_endpoint` returns. -/
def requests (config : ProxyConfig) : System Requests (Outcome Endpoint) where
  init := {}
  step := Requests.step config

def returnsAllocation : Outcome ServerMessage → Bool
  | .ok message => isAllocation message
  | _ => false

/-- How many `Allocation` messages were produced. -/
def Requests.produced (r : Requests) : Nat := r.returned.countP returnsAllocation

variable {config : ProxyConfig} {s t : State} {r r' : Requests} {created : Outcome Endpoint}
  {createds : List (Outcome Endpoint)} {response : Outcome ServerMessage} {acts : List Action}

theorem requests_step_eq_some_iff :
    (requests config).step r created = some r' ↔
      .panic ∉ r.returned ∧ ∃ proxy response,
        handleAllocateMessage config r.proxy created = (proxy, response) ∧
        r' = ⟨proxy, r.returned ++ [response]⟩ := by
  show Requests.step config r created = some r' ↔ _
  rw [Requests.step]
  split
  · rename_i hpanic
    exact ⟨nofun, fun h => absurd hpanic h.1⟩
  · rename_i hpanic
    constructor
    · intro h
      exact ⟨hpanic, _, _, rfl, (Option.some.inj h).symm⟩
    · rintro ⟨-, proxy, response, hr, rfl⟩
      rw [hr]

/-- A request fails where an endpoint is set already, or none is bound. -/
theorem handleAllocateMessage_fails (config : ProxyConfig)
    (hfails : s.proxyEndpoint.isSome = true ∨ ∃ e, created = .err e) :
    ∃ e, handleAllocateMessage config s created = (s, .err e) := by
  by_cases hsome : s.proxyEndpoint.isSome = true
  · exact ⟨_, handleAllocateMessage_allocated hsome⟩
  · obtain ⟨e, rfl⟩ := hfails.resolve_left hsome
    exact ⟨_, handleAllocateMessage_unbound (Option.not_isSome_iff_eq_none.mp hsome)⟩

/-! ## All requests so far -/

/-- No endpoint was bound. -/
def Unbound (createds : List (Outcome Endpoint)) : Prop :=
  ∀ created ∈ createds, ∃ e, created = .err e

def Failed (r : Requests) : Prop := ∀ response ∈ r.returned, ∃ e, response = .err e

/-- The first endpoint that is bound has a local address. -/
def HasAddress (createds : List (Outcome Endpoint)) : Prop :=
  ∀ earlier endpoint later, createds = earlier ++ .ok endpoint :: later → Unbound earlier →
    endpoint.localAddr.isSome = true

theorem HasAddress.of_append {earlier later : List (Outcome Endpoint)}
    (h : HasAddress (earlier ++ later)) : HasAddress earlier := by
  intro first endpoint rest heq
  refine h first endpoint (rest ++ later) ?_
  rw [heq, List.append_assoc, List.cons_append]

theorem Failed.produced (hr : Failed r) : r.produced = 0 := by
  refine List.countP_eq_zero.mpr ?_
  intro response hmem
  obtain ⟨e, rfl⟩ := hr response hmem
  exact nofun

theorem Failed.snoc {proxy : State} {e : Error} (hr : Failed r) :
    Failed ⟨proxy, r.returned ++ [.err e]⟩ :=
  List.forall_mem_append.mpr ⟨hr, List.forall_mem_singleton.mpr ⟨e, rfl⟩⟩

theorem produced_snoc {proxy : State} :
    Requests.produced ⟨proxy, r.returned ++ [response]⟩ =
      r.produced + if returnsAllocation response then 1 else 0 := by
  show (r.returned ++ [response]).countP returnsAllocation = _
  rw [List.countP_append, List.countP_singleton]
  rfl

/-- Where the requests stand, while no endpoint was bound without an address. -/
inductive Standing (createds : List (Outcome Endpoint)) (r : Requests) : Prop where
  | unbound (he : r.proxy.proxyEndpoint = none) (ha : r.proxy.allocatedEndpoint = "")
      (hc : Unbound createds) (hr : Failed r)
  | panicked (he : r.proxy.proxyEndpoint = none) (ha : r.proxy.allocatedEndpoint = "")
      (hpanic : .panic ∈ r.returned) (hp : r.produced = 0)
  | bound (he : r.proxy.proxyEndpoint.isSome = true) (ha : r.proxy.allocatedEndpoint ≠ "")
      (hp : r.produced = 1)

theorem Standing.step (hs : Standing createds r) (haddr : HasAddress (createds ++ [created]))
    (h : (requests config).step r created = some r') : Standing (createds ++ [created]) r' := by
  obtain ⟨hnopanic, proxy, response, hresponse, rfl⟩ := requests_step_eq_some_iff.mp h
  cases hs with
  | panicked he ha hpanic hp => exact absurd hpanic hnopanic
  | bound he ha hp =>
      rw [handleAllocateMessage_allocated he] at hresponse
      cases hresponse
      exact .bound he ha (produced_snoc.trans hp)
  | unbound he ha hc hr =>
      cases created with
      | panic =>
          cases (handleAllocateMessage_unbound_panic he).symm.trans hresponse
          exact .panicked he ha (List.mem_append_right _ (List.mem_singleton.mpr rfl))
            (produced_snoc.trans hr.produced)
      | err e =>
          cases (handleAllocateMessage_unbound he).symm.trans hresponse
          exact .unbound he ha
            (List.forall_mem_append.mpr ⟨hc, List.forall_mem_singleton.mpr ⟨e, rfl⟩⟩) hr.snoc
      | ok endpoint =>
          obtain ⟨localAddr, hlocal⟩ :=
            Option.isSome_iff_exists.mp (haddr createds endpoint [] rfl hc)
          cases (handleAllocateMessage_bound config he hlocal).symm.trans hresponse
          refine .bound rfl (host_port_ne_empty _ _) ?_
          rw [produced_snoc, hr.produced]
          rfl

/-- **Every sequence of requests**, with every pattern of outcomes. -/
theorem standing_of_exec (haddr : HasAddress createds)
    (h : (requests config).exec {} createds = some r) : Standing createds r := by
  refine exec_history (P := fun createds r => HasAddress createds → Standing createds r)
    ?_ ?_ h haddr
  · intro _
    exact .unbound rfl rfl nofun nofun
  · intro earlier m created t ih hstep haddr
    exact (ih haddr.of_append).step haddr hstep

/-! ## What is left behind -/

/-- What failed requests leave alone, what is produced, and what can still succeed. -/
structure NothingLeftBehind (config : ProxyConfig) (createds : List (Outcome Endpoint)) :
    Prop where
  failed : ∀ earlier created r proxy e, earlier ++ [created] <+: createds →
    (requests config).exec {} earlier = some r → .panic ∉ r.returned →
    handleAllocateMessage config r.proxy created = (proxy, .err e) →
    proxy.proxyEndpoint = r.proxy.proxyEndpoint ∧
      proxy.allocatedEndpoint = r.proxy.allocatedEndpoint
  endpoint : ∀ earlier r, earlier <+: createds → (requests config).exec {} earlier = some r →
    (r.proxy.proxyEndpoint.isSome = true ↔ r.produced = 1)
  name : ∀ earlier r, earlier <+: createds → (requests config).exec {} earlier = some r →
    (r.proxy.allocatedEndpoint ≠ "" ↔ r.produced = 1)
  retry : ∀ earlier r endpoint, earlier <+: createds →
    (requests config).exec {} earlier = some r → Failed r → endpoint.localAddr.isSome = true →
    ∃ proxy message, handleAllocateMessage config r.proxy (.ok endpoint) = (proxy, .ok message)

theorem Standing.endpoint_iff (hs : Standing createds r) :
    r.proxy.proxyEndpoint.isSome = true ↔ r.produced = 1 := by
  cases hs with
  | unbound he _ _ hr => simp [he, hr.produced]
  | panicked he _ _ hp => simp [he, hp]
  | bound he _ hp => simp [he, hp]

theorem Standing.name_iff (hs : Standing createds r) :
    r.proxy.allocatedEndpoint ≠ "" ↔ r.produced = 1 := by
  cases hs with
  | unbound _ ha _ hr => simp [ha, hr.produced]
  | panicked _ ha _ hp => simp [ha, hp]
  | bound _ ha hp => simp [ha, hp]

/-- Where all requests failed, the next can succeed. -/
theorem Standing.retry {endpoint : Endpoint} (hs : Standing createds r) (hr : Failed r)
    (haddr : endpoint.localAddr.isSome = true) :
    ∃ proxy message,
      handleAllocateMessage config r.proxy (.ok endpoint) = (proxy, .ok message) := by
  have hnone : r.proxy.proxyEndpoint = none := by
    cases hs with
    | unbound he _ _ _ => exact he
    | panicked he _ _ _ => exact he
    | bound _ _ hp => exact absurd (hr.produced.symm.trans hp) nofun
  obtain ⟨localAddr, hlocal⟩ := Option.isSome_iff_exists.mp haddr
  exact ⟨_, _, handleAllocateMessage_bound config hnone hlocal⟩

/-- While no endpoint is bound, the proxy is as it was at the start. -/
theorem exec_unbound (config : ProxyConfig) (hc : Unbound createds) :
    (requests config).exec {} createds =
      some ⟨{}, createds.map fun _ => .err (.other .failedToCreateProxyEndpoint)⟩ := by
  induction createds using List.reverseRecOn with
  | nil => rfl
  | append_singleton createds created ih =>
      obtain ⟨hinit, hlast⟩ := List.forall_mem_append.mp hc
      obtain ⟨e, rfl⟩ := hlast created (List.mem_singleton.mpr rfl)
      refine exec_snoc_iff.mpr ⟨_, ih hinit, requests_step_eq_some_iff.mpr ⟨?_, _, _,
        handleAllocateMessage_unbound rfl, ?_⟩⟩
      · intro hmem
        obtain ⟨_, -, heq⟩ := List.mem_map.mp hmem
        exact nomatch heq
      · rw [List.map_append]
        rfl

/-- **FAILED ALLOCATIONS LEAVE NOTHING BEHIND**, exactly when the first endpoint that
    is bound has a local address. -/
theorem nothingLeftBehind_iff : NothingLeftBehind config createds ↔ HasAddress createds := by
  constructor
  · rintro hnothing earlier endpoint later rfl hc
    cases haddr : endpoint.localAddr with
    | some localAddr => rfl
    | none =>
        have hrun := exec_unbound config hc
        have hkept := (hnothing.failed earlier (.ok endpoint) _ _ _ ⟨later, by simp⟩ hrun
          (by simp) (handleAllocateMessage_lost rfl haddr)).1
        exact nomatch hkept
  · intro haddr
    have hstanding : ∀ {earlier r}, earlier <+: createds →
        (requests config).exec {} earlier = some r → Standing earlier r := by
      rintro earlier r ⟨later, rfl⟩ hrun
      exact standing_of_exec haddr.of_append hrun
    refine ⟨?_, ?_, ?_, ?_⟩
    · rintro earlier created r proxy e ⟨later, rfl⟩ hrun hnopanic hresponse
      rcases handleAllocateMessage_err hresponse with rfl | ⟨endpoint, hnone, rfl, hlocal, -⟩
      · exact ⟨rfl, rfl⟩
      · cases standing_of_exec haddr.of_append.of_append hrun with
        | unbound _ _ hc _ =>
            have hsome := haddr.of_append earlier endpoint [] rfl hc
            rw [hlocal] at hsome
            exact nomatch hsome
        | panicked _ _ hpanic _ => exact absurd hpanic hnopanic
        | bound he _ _ =>
            rw [hnone] at he
            exact nomatch he
    · intro earlier r hpre hrun
      exact (hstanding hpre hrun).endpoint_iff
    · intro earlier r hpre hrun
      exact (hstanding hpre hrun).name_iff
    · intro earlier r endpoint hpre hrun hr hlocal
      exact (hstanding hpre hrun).retry hr hlocal

/-- An endpoint is bound, and its local address cannot be read. -/
theorem not_nothingLeftBehind_noAddress :
    ¬ NothingLeftBehind localConfig [.ok ⟨none⟩] := by
  intro hnothing
  have hkept := hnothing.endpoint [.ok ⟨none⟩] _ (List.prefix_refl _) rfl
  exact absurd (hkept.mp rfl) (by decide)

/-- The endpoint is open, and nothing was reported. -/
def Lost (s : State) : Prop :=
  s.proxyEndpoint.isSome = true ∧ s.allocatedEndpoint = ""

/-- **After a bound endpoint without an address, no request ever succeeds.** -/
theorem never_allocates_of_lost (hlost : Lost r.proxy)
    (h : (requests config).exec r createds = some r') :
    Lost r'.proxy ∧ r'.produced = r.produced := by
  refine exec_invariant (P := fun r' => Lost r'.proxy ∧ r'.produced = r.produced)
    ?_ ⟨hlost, rfl⟩ h
  rintro m created n ⟨hm, hp⟩ hstep
  obtain ⟨-, proxy, response, hresponse, rfl⟩ := requests_step_eq_some_iff.mp hstep
  rw [handleAllocateMessage_allocated hm.1] at hresponse
  cases hresponse
  exact ⟨hm, produced_snoc.trans hp⟩

/-! ## The requests of a run of the proxy -/

/-- What `create_proxy_endpoint` returned, where the action is a request. -/
def Action.requested : Action → Option (Outcome Endpoint)
  | .recvClientMessage created => some created
  | _ => none

/-- The loop is in the middle of a request. -/
def Phase.isSetting : Phase → Bool
  | .setAllocatedEndpoint _ => true
  | _ => false

theorem Phase.ne_of_not_isSetting {phase : Phase} (h : phase.isSetting = false)
    (endpoint : Endpoint) : phase ≠ .setAllocatedEndpoint endpoint := by
  rintro rfl
  cases h

/-- The proxy `s` stands where its requests `r` left it, or is in the middle of the last
    of them. -/
structure Follows (config : ProxyConfig) (s : State) (r : Requests) : Prop where
  endpoint : s.proxyEndpoint = r.proxy.proxyEndpoint
  name : (∀ endpoint, s.phase ≠ .setAllocatedEndpoint endpoint) →
    s.allocatedEndpoint = r.proxy.allocatedEndpoint
  setting : ∀ endpoint, s.phase = .setAllocatedEndpoint endpoint →
    (setAllocatedEndpoint config s endpoint).1.allocatedEndpoint = r.proxy.allocatedEndpoint
  panicked : .panic ∈ r.returned → s.phase = .panicked

theorem Follows.init : Follows config {} {} := ⟨rfl, fun _ => rfl, nofun, nofun⟩

/-- A step that is no request, and after which the loop is not in the middle of one. -/
theorem Follows.move {phase : Phase} (hf : Follows config s r) (hp : s.phase = phase)
    (hphase : phase.isSetting = false) (hphase' : t.phase.isSetting = false)
    (hpanicked : phase = .panicked → t.phase = .panicked)
    (he : t.proxyEndpoint = s.proxyEndpoint) (ha : t.allocatedEndpoint = s.allocatedEndpoint) :
    Follows config t r where
  endpoint := he.trans hf.endpoint
  name _ := ha.trans (hf.name (hp ▸ Phase.ne_of_not_isSetting hphase))
  setting endpoint hp := absurd hp (Phase.ne_of_not_isSetting hphase' endpoint)
  panicked hpanic := hpanicked (hp.symm.trans (hf.panicked hpanic))

/-- Another task moves. -/
theorem Follows.other (hf : Follows config s r) (hp : t.phase = s.phase)
    (he : t.proxyEndpoint = s.proxyEndpoint) (ha : t.allocatedEndpoint = s.allocatedEndpoint) :
    Follows config t r where
  endpoint := he.trans hf.endpoint
  name hphase := ha.trans (hf.name (hp ▸ hphase))
  setting endpoint hphase := by
    rw [← hf.setting endpoint (hp ▸ hphase)]
    unfold setAllocatedEndpoint
    split
    · exact ha
    · rfl
  panicked hpanic := hp.trans (hf.panicked hpanic)

/-- A request to which the loop comes from the `select!`. -/
theorem Follows.request {proxy : State} (hf : Follows config s r) (hp : s.phase = .select)
    (h : handleAllocateMessage config r.proxy created = (proxy, response)) :
    (requests config).step r created = some ⟨proxy, r.returned ++ [response]⟩ :=
  requests_step_eq_some_iff.mpr
    ⟨fun hpanic => (nomatch hp.symm.trans (hf.panicked hpanic)), _, _, h, rfl⟩

/-- A request that does not panic. -/
theorem Follows.returned (hf : Follows config s r) (hp : s.phase = .select)
    (hresponse : response ≠ .panic) : .panic ∉ r.returned ++ [response] := by
  intro hpanic
  rcases List.mem_append.mp hpanic with hpanic | hpanic
  · exact nomatch hp.symm.trans (hf.panicked hpanic)
  · exact hresponse (List.mem_singleton.mp hpanic).symm

/-- In the `select!` the name is the one that the requests left. -/
theorem Follows.name_of_select (hf : Follows config s r) (hp : s.phase = .select) :
    s.allocatedEndpoint = r.proxy.allocatedEndpoint :=
  hf.name (hp ▸ Phase.ne_of_not_isSetting rfl)

/-- The second half of a request. -/
theorem Follows.named {phase : Phase} {endpoint : Endpoint} {allocatedEndpoint : String}
    (hf : Follows config s r) (hp : s.phase = .setAllocatedEndpoint endpoint)
    (hname : (setAllocatedEndpoint config s endpoint).1.allocatedEndpoint = allocatedEndpoint)
    (hphase : phase.isSetting = false) :
    Follows config { s with allocatedEndpoint := allocatedEndpoint, phase := phase } r where
  endpoint := hf.endpoint
  name _ := hname.symm.trans (hf.setting endpoint hp)
  setting endpoint hp := absurd hp (Phase.ne_of_not_isSetting hphase endpoint)
  panicked hpanic := nomatch hp.symm.trans (hf.panicked hpanic)

theorem Follows.step {a : Action} (hf : Follows config s r)
    (h : (system config).step s a = some t) :
    ∃ r', (requests config).exec r a.requested.toList = some r' ∧ Follows config t r' := by
  cases step_cases h with
  | @bound endpoint _ _ hp _ hnone =>
      have hnone' := hf.endpoint.symm.trans hnone
      cases haddr : endpoint.localAddr with
      | some localAddr =>
          have hstep := hf.request hp (handleAllocateMessage_bound config hnone' haddr)
          refine ⟨_, exec_cons_iff.mpr ⟨_, hstep, rfl⟩, rfl, ?_, ?_, ?_⟩
          · intro hphase
            exact absurd rfl (hphase endpoint)
          · rintro _ ⟨⟩
            rw [setAllocatedEndpoint, haddr]
          · intro hpanic
            exact absurd hpanic (hf.returned hp (by rintro ⟨⟩))
      | none =>
          have hstep := hf.request hp (handleAllocateMessage_lost hnone' haddr)
          refine ⟨_, exec_cons_iff.mpr ⟨_, hstep, rfl⟩, rfl, ?_, ?_, ?_⟩
          · intro hphase
            exact absurd rfl (hphase endpoint)
          · rintro _ ⟨⟩
            rw [setAllocatedEndpoint, haddr]
            exact hf.name_of_select hp
          · intro hpanic
            exact absurd hpanic (hf.returned hp (by rintro ⟨⟩))
  | notBound hp _ hfails =>
      obtain ⟨e, hresponse⟩ := handleAllocateMessage_fails config (hf.endpoint ▸ hfails)
      refine ⟨_, exec_cons_iff.mpr ⟨_, hf.request hp hresponse, rfl⟩, hf.endpoint,
        fun _ => hf.name_of_select hp, ?_, ?_⟩
      · intro endpoint hphase
        cases hp.symm.trans hphase
      · intro hpanic
        exact absurd hpanic (hf.returned hp (by rintro ⟨⟩))
  | bindPanics hp _ hnone =>
      have hnone' := hf.endpoint.symm.trans hnone
      have hstep := hf.request hp (handleAllocateMessage_unbound_panic hnone')
      refine ⟨_, exec_cons_iff.mpr ⟨_, hstep, rfl⟩, hf.endpoint,
        fun _ => hf.name_of_select hp, ?_, fun _ => rfl⟩
      intro endpoint hphase
      cases hphase
  | named hp haddr =>
      exact ⟨r, rfl, hf.named hp (by rw [setAllocatedEndpoint, haddr]) rfl⟩
  | notNamed hp haddr =>
      exact ⟨r, rfl, hf.named hp (by rw [setAllocatedEndpoint, haddr]) rfl⟩
  | close | clientMessage _ | messageTaskEnds _ | recvPlayerEvent _ _ _ | recvUnknownEvent _ _ _
  | datagram _ _ | datagramLost _ | playerDatagram _ | playerDatagramLost _ | playerDisconnects _
  | playerSeesClosed _ _ | writeMessage _ _ _ | loseMessage _ _ _ | controlFails
  | requestAsset _ => exact ⟨r, rfl, hf.other rfl rfl rfl⟩
  | datagramPanics hp _ => exact ⟨r, rfl, hf.move hp rfl rfl (fun _ => rfl) rfl rfl⟩
  | acceptConnection hp _ | handshakeFails hp | notAnnounced hp _ | handshakeDone hp _ _
  | spawnPlayer hp | insertPlayer hp | sendAllocation hp _ | allocationNotSent hp _
  | acceptStream hp | headerRead hp _ | headerRefused hp | headerFails hp | streamOpened hp
  | openFails hp | seesClosed hp _ | sendStopped hp =>
      exact ⟨r, rfl, hf.move hp rfl rfl (fun hp' => by cases hp') rfl rfl⟩

/-- **A run of the proxy is a run of its requests.** -/
theorem exec_requests (h : (system config).exec {} acts = some s) :
    ∃ r, (requests config).exec {} (acts.filterMap Action.requested) = some r ∧
      Follows config s r := by
  refine exec_history (P := fun acts s => ∃ r,
    (requests config).exec {} (acts.filterMap Action.requested) = some r ∧ Follows config s r)
    ?_ ?_ h
  · exact ⟨{}, rfl, .init⟩
  · rintro acts m a t ⟨r, hr, hf⟩ hstep
    obtain ⟨r', hr', hf'⟩ := hf.step hstep
    refine ⟨r', ?_, hf'⟩
    have hsnoc : [a].filterMap Action.requested = a.requested.toList := by
      rw [List.filterMap_cons]
      cases a.requested <;> rfl
    rw [List.filterMap_append, hsnoc, exec_append, hr]
    exact hr'

/-- In a run of the proxy whose first bound endpoint has an address, the endpoint is
    open exactly when `stats` names it, but for the moment between the two. -/
theorem endpoint_iff_named (haddr : HasAddress (acts.filterMap Action.requested))
    (h : (system config).exec {} acts = some s)
    (hphase : ∀ endpoint, s.phase ≠ .setAllocatedEndpoint endpoint) :
    s.proxyEndpoint.isSome = true ↔ s.allocatedEndpoint ≠ "" := by
  obtain ⟨r, hr, hf⟩ := exec_requests h
  have hs := standing_of_exec haddr hr
  rw [hf.endpoint, hf.name hphase, hs.endpoint_iff, hs.name_iff]

end AmbientProxy.ProxyServer
