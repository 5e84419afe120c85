import AmbientProxy.World

/-! # Allocation order — from the loop of the proxy to the callbacks of the game

    The order in which the proxy's loop sends is the order in which the game's
    callbacks run:

        proxy.sent ──▶ proxy.written ──FIFO──▶ client.fromProxy ──▶ client.callbacks

    * `Callbacks.step` — the callbacks so far, and the one that is due, are those
      that the messages read so far ask for;
    * `allocated_once_and_first` — over every run of both machines. -/

namespace AmbientProxy.World

open Transition Network

/-! ## The callbacks -/

/-- The callback that a message asks for. -/
def callbackFor (config : Client.Config) : ServerMessage → Option Client.Callback
  | .allocation id allocatedEndpoint assetsRoot externalEndpoint =>
      some (.endpointAllocated
        (config.overrideRoot ⟨id, allocatedEndpoint, externalEndpoint, assetsRoot⟩))
  | .playerConnected playerId => some (.playerConnected playerId)
  | .requestAsset _ => none

def isEndpointAllocated : Client.Callback → Bool
  | .endpointAllocated _ => true
  | .playerConnected _ => false

def isPlayerCallback : Client.Callback → Bool
  | .endpointAllocated _ => false
  | .playerConnected _ => true

/-- The callback that the loop is about to make. -/
def due (config : Client.Config) : Client.Phase → List Client.Callback
  | .notifyAllocated message | .callAllocated message =>
      (AllocatedEndpoint.tryFrom message).toList.map fun allocated =>
        .endpointAllocated (config.overrideRoot allocated)
  | _ => []

/-- The callbacks are those that the messages ask for, in order; where the proxy has
    announced the endpoint, `endpoint_allocated` is set. -/
structure Callbacks (config : Client.Config) (s : Client.State) : Prop where
  callbacks : s.callbacks ++ due config s.phase = s.fromProxy.filterMap (callbackFor config)
  allocated : ∀ m ∈ s.fromProxy, ProxyServer.isAllocation m = true → s.endpointAllocated = true

variable {config : Client.Config} {s t : Client.State} {a : Client.Action}

theorem Callbacks.init : Callbacks config {} := ⟨rfl, nofun⟩

/-- The loop moves on, with no callback due before or after. -/
theorem Callbacks.move (hs : Callbacks config s) (hd : due config s.phase = [])
    (hd' : due config t.phase = []) (hcallbacks : t.callbacks = s.callbacks)
    (hfrom : t.fromProxy = s.fromProxy) (hallocated : t.endpointAllocated = s.endpointAllocated) :
    Callbacks config t where
  callbacks := by
    have h := hs.callbacks
    rw [hd] at h
    rw [hd', hcallbacks, hfrom]
    exact h
  allocated := by
    rw [hfrom, hallocated]
    exact hs.allocated

/-- The loop reads a message that does not allocate. -/
theorem Callbacks.read {m : ServerMessage} (hs : Callbacks config s)
    (hm : ProxyServer.isAllocation m = false) :
    ∀ m' ∈ s.fromProxy ++ [m], ProxyServer.isAllocation m' = true →
      s.endpointAllocated = true := by
  refine List.forall_mem_append.mpr ⟨hs.allocated, List.forall_mem_singleton.mpr ?_⟩
  intro ha
  exact absurd (hm.symm.trans ha) Bool.false_ne_true

theorem due_of_phase {phase phase' : Client.Phase} (hp : phase = phase')
    (h : due config phase' = []) : due config phase = [] :=
  hp ▸ h

theorem Callbacks.receiveOutcome {k : Client.Kind} (hs : Callbacks config s)
    (hd : due config s.phase = []) (outcome : Outcome (Str × k.Item)) :
    Callbacks config (s.receiveOutcome k outcome) := by
  cases outcome with
  | ok out => exact hs.move hd rfl rfl rfl rfl
  | err e => exact hs.move hd rfl rfl rfl rfl
  | panic => exact hs.move hd rfl rfl rfl rfl

theorem Callbacks.step (hs : Callbacks config s)
    (h : (Client.system config).step s a = some t) : Callbacks config t := by
  have hcallbacks := hs.callbacks
  cases Client.step_cases h with
  | allocation hp =>
      rw [due_of_phase hp rfl, List.append_nil] at hcallbacks
      refine ⟨?_, fun _ _ _ => rfl⟩
      show s.callbacks ++ _ = (s.fromProxy ++ [_]).filterMap _
      rw [List.filterMap_append, hcallbacks]
      rfl
  | playerConnected hp =>
      rw [due_of_phase hp rfl, List.append_nil] at hcallbacks
      refine ⟨?_, hs.read rfl⟩
      show s.callbacks ++ [_] ++ due config s.phase = (s.fromProxy ++ [_]).filterMap _
      rw [due_of_phase hp rfl, List.append_nil, List.filterMap_append, hcallbacks]
      rfl
  | requestAsset hp _ =>
      rw [due_of_phase hp rfl] at hcallbacks
      refine ⟨?_, hs.read rfl⟩
      show s.callbacks ++ [] = (s.fromProxy ++ [_]).filterMap _
      rw [List.filterMap_append, hcallbacks]
      exact (List.append_nil _).symm
  | ignoreAsset hp _ =>
      refine ⟨?_, hs.read rfl⟩
      show s.callbacks ++ due config s.phase = (s.fromProxy ++ [_]).filterMap _
      rw [List.filterMap_append, hcallbacks]
      exact (List.append_nil _).symm
  | notifyAllocated hp =>
      rw [hp] at hcallbacks
      exact ⟨hcallbacks, hs.allocated⟩
  | callAllocated hp hm =>
      rw [hp, due, hm] at hcallbacks
      refine ⟨?_, hs.allocated⟩
      show s.callbacks ++ [_] ++ [] = _
      rw [List.append_nil]
      exact hcallbacks
  | callPanics hp hm =>
      rw [hp, due, hm] at hcallbacks
      exact ⟨hcallbacks, hs.allocated⟩
  | assetLoaded hp | assetMissing hp | clientMessage hp _ | messageSent hp | messageLost hp
  | uniStream hp | biStream hp | push hp | seesClosed hp _ =>
      exact hs.move (due_of_phase hp rfl) rfl rfl rfl rfl
  | uniHeader hp | biHeader hp => exact hs.receiveOutcome (due_of_phase hp rfl) _
  | datagram hp =>
      rename_i data
      have hread : Callbacks config { s with datagrams := s.datagrams ++ [data] } :=
        ⟨hs.callbacks, hs.allocated⟩
      exact hread.receiveOutcome (due_of_phase hp rfl) _
  | close | allocateEndpoint | acceptUni _ | acceptBi _ | readDatagram _ | popped _ _ | empty _ _
  | createNotified _ | pollNotified _ _ | cancel _ | sendDatagram | datagramLost =>
      exact ⟨hs.callbacks, hs.allocated⟩

/-- Where the messages read hold one `Allocation` at most, and no player before it,
    so do the callbacks. -/
theorem Callbacks.onceFirst (hs : Callbacks config s)
    (h : OnceFirst ProxyServer.isAllocation ProxyServer.isPlayerConnected s.fromProxy) :
    OnceFirst isEndpointAllocated isPlayerCallback s.callbacks := by
  have hall : OnceFirst isEndpointAllocated isPlayerCallback
      (s.fromProxy.filterMap (callbackFor config)) := by
    refine h.filterMap ?_ ?_ ?_
    · intro m hm
      cases m with
      | allocation id allocatedEndpoint assetsRoot externalEndpoint => exact ⟨_, rfl, rfl⟩
      | playerConnected p => cases hm
      | requestAsset key => cases hm
    · intro m callback hc hm
      cases m with
      | allocation id allocatedEndpoint assetsRoot externalEndpoint => rfl
      | playerConnected p =>
          cases Option.some.inj hc
          cases hm
      | requestAsset key => cases hc
    · intro m callback hc hm
      cases m with
      | allocation id allocatedEndpoint assetsRoot externalEndpoint =>
          cases Option.some.inj hc
          cases hm
      | playerConnected p => rfl
      | requestAsset key => cases hc
  exact hall.of_prefix ⟨due config s.phase, hs.callbacks⟩

/-- A player is announced to the game only after `endpoint_allocated` was set. -/
theorem Callbacks.allocated_of_player {p : Str} (hs : Callbacks config s)
    (h : OnceFirst ProxyServer.isAllocation ProxyServer.isPlayerConnected s.fromProxy)
    (hp : .playerConnected p ∈ s.callbacks) : s.endpointAllocated = true := by
  have hmem : .playerConnected p ∈ s.fromProxy.filterMap (callbackFor config) := by
    rw [← hs.callbacks]
    exact List.mem_append_left _ hp
  obtain ⟨m, hm, hc⟩ := List.mem_filterMap.mp hmem
  have hplayer : ProxyServer.isPlayerConnected m = true := by
    cases m with
    | allocation id allocatedEndpoint assetsRoot externalEndpoint => cases Option.some.inj hc
    | playerConnected q => rfl
    | requestAsset key => cases hc
  obtain ⟨before, after, hsplit⟩ := List.append_of_mem hm
  obtain ⟨m', hm', ha⟩ := h.first before m after hsplit hplayer
  exact hs.allocated m' (hsplit ▸ List.mem_append_left _ hm') ha

/-! ## Both machines -/

/-- What is carried of the messages is in the same order. -/
theorem onceFirst_carried {messages : List ServerMessage}
    (h : OnceFirst ProxyServer.isAllocation ProxyServer.isPlayerConnected messages) :
    OnceFirst ProxyServer.isAllocation ProxyServer.isPlayerConnected
      (messages.map ServerMessage.carried) := by
  rw [← List.filterMap_eq_map]
  refine h.filterMap ?_ ?_ ?_
  · intro m hm
    exact ⟨m.carried, rfl, (ProxyServer.isAllocation_carried m).trans hm⟩
  · rintro m _ ⟨⟩ hm
    exact (ProxyServer.isAllocation_carried m).symm.trans hm
  · rintro m _ ⟨⟩ hm
    exact (ProxyServer.isPlayerConnected_carried m).symm.trans hm

/-- **An allocation comes once, and before any player.**  Where every endpoint that
    is bound has a local address, in every run of both machines: the control stream
    carries at most one `Allocation`, and every `PlayerConnected` after it; it names
    the endpoint that `stats` reports from then on; `stats` reports none exactly until
    `handle_allocate_message` has stored it, which is after the endpoint is set, and
    the same one from then on, as the endpoint is never replaced.  The game sees at
    most one `on_endpoint_allocated`, and every `on_player_connected` after it and
    after `endpoint_allocated` was set. -/
theorem allocated_once_and_first {config : Config} {s : State} {acts : List Action}
    (h : (system config).exec {} acts = some s)
    (hlocal : ∀ a, .proxy a ∈ acts → ProxyServer.HasLocalAddr a) :
    OnceFirst ProxyServer.isAllocation ProxyServer.isPlayerConnected s.proxy.written ∧
    (∀ id allocatedEndpoint assetsRoot externalEndpoint,
      .allocation id allocatedEndpoint assetsRoot externalEndpoint ∈ s.proxy.written →
      ∀ later t assets, (system config).exec s later = some t →
        (ProxyServer.stats t.proxy assets).allocatedEndpoint = allocatedEndpoint) ∧
    (∀ assets, (ProxyServer.stats s.proxy assets).allocatedEndpoint = "" ↔
      s.proxy.proxyEndpoint = none ∨
        ∃ endpoint, s.proxy.phase = .setAllocatedEndpoint endpoint) ∧
    (∀ later t, (system config).exec s later = some t →
      (∀ endpoint, s.proxy.proxyEndpoint = some endpoint →
        t.proxy.proxyEndpoint = some endpoint) ∧
      ∀ assets assets', (ProxyServer.stats s.proxy assets).allocatedEndpoint ≠ "" →
        (ProxyServer.stats t.proxy assets').allocatedEndpoint
          = (ProxyServer.stats s.proxy assets).allocatedEndpoint) ∧
    OnceFirst isEndpointAllocated isPlayerCallback s.client.callbacks ∧
    ∀ p, .playerConnected p ∈ s.client.callbacks → s.client.endpointAllocated = true := by
  have hrun := exec_proxy h
  have hbound : ∀ a ∈ acts.flatMap Action.onProxy, ProxyServer.HasLocalAddr a := by
    intro a ha
    obtain ⟨b, hb, hab⟩ := List.mem_flatMap.mp ha
    cases b with
    | proxy b =>
        cases List.mem_singleton.mp hab
        exact hlocal _ hb
    | client b => exact absurd hab List.not_mem_nil
    | playerSends conn data => exact absurd hab List.not_mem_nil
  have hallocating : ProxyServer.Allocating config.proxy s.proxy :=
    exec_invariant_along ProxyServer.Allocating.step ProxyServer.Allocating.init
      (along_of_forall_mem fun a ha _ => hbound a ha) hrun
  have hwritten : ProxyServer.Written s.proxy :=
    exec_invariant ProxyServer.Written.step ProxyServer.Written.init hrun
  have hcallbacks : Callbacks config.client s.client :=
    exec_invariant Callbacks.step Callbacks.init (exec_client h)
  have horder := hallocating.onceFirst.of_prefix hwritten.written
  have hread := OnceFirst.of_prefix (onceFirst_carried horder) (channels_of_exec h).control
  have hunreported := ProxyServer.unreported_of_exec hrun
  refine ⟨horder, ?_, ?_, ?_, hcallbacks.onceFirst hread, ?_⟩
  · intro id allocatedEndpoint assetsRoot externalEndpoint hm later t assets hlater
    obtain ⟨hname, hne⟩ := hallocating.endpoint_of_mem (hwritten.written.subset hm)
    have hstays := ProxyServer.allocatedEndpoint_stays hunreported (hname ▸ hne)
      (exec_proxy hlater)
    exact hstays.trans hname
  · intro assets
    constructor
    · intro hempty
      by_contra hno
      obtain ⟨hset, hphase⟩ := not_or.mp hno
      exact hallocating.reported (Option.isSome_iff_ne_none.mpr hset)
        (fun endpoint hp => hphase ⟨endpoint, hp⟩) hempty
    · rintro (hnone | ⟨endpoint, hp⟩)
      · exact hunreported.unset hnone
      · exact (hunreported.setting endpoint hp).2
  · intro later t hlater
    refine ⟨fun endpoint he => ProxyServer.proxyEndpoint_stays he (exec_proxy hlater), ?_⟩
    intro assets assets' hne
    exact ProxyServer.allocatedEndpoint_stays hunreported hne (exec_proxy hlater)
  · intro p hp
    exact hcallbacks.allocated_of_player hread hp

/-- One allocation and one player, up to the callbacks of the game. -/
def oneAllocation : List Action :=
  [.proxy (.clientMessage (.allocateEndpoint "game")),
    .proxy (.recvClientMessage (.ok ProxyServer.localEndpoint)),
    .proxy .setAllocatedEndpoint, .proxy .sendAllocation, .proxy .writeMessage,
    .proxy .acceptConnection, .proxy (.handshakeDone Str.a), .proxy .writeMessage,
    .client (.serverMessage (.allocation 0 "localhost:9000"
      "http://localhost:80/content/00000000-0000-0000-0000-000000000000/"
      (.v4 0x7F000001 7000))),
    .client .notifyAllocated, .client .callAllocated,
    .client (.serverMessage (.playerConnected Str.a))]

theorem hasLocalAddr_oneAllocation {a : ProxyServer.Action} (ha : .proxy a ∈ oneAllocation) :
    ProxyServer.HasLocalAddr a := by
  intro endpoint he
  cases he
  cases ha with
  | tail _ ha =>
      cases ha with
      | head => rfl
      | tail _ ha => exact nomatch ha

theorem allocated_once_and_first_oneAllocation :
    ∃ s, (system ⟨ProxyServer.localConfig, ⟨none, none⟩⟩).exec {} oneAllocation = some s ∧
      OnceFirst ProxyServer.isAllocation ProxyServer.isPlayerConnected s.proxy.written ∧
      s.proxy.written.map ProxyServer.isAllocation = [true, false] ∧
      OnceFirst isEndpointAllocated isPlayerCallback s.client.callbacks ∧
      s.client.callbacks.map isEndpointAllocated = [true, false] ∧
      (ProxyServer.stats s.proxy {}).allocatedEndpoint = "localhost:9000" := by
  have hrun : (system ⟨ProxyServer.localConfig, ⟨none, none⟩⟩).exec {} oneAllocation
      = some _ := rfl
  have h := allocated_once_and_first hrun fun _ ha => hasLocalAddr_oneAllocation ha
  exact ⟨_, rfl, h.1, rfl, h.2.2.2.2.1, rfl, h.2.1 _ _ _ _ List.mem_cons_self [] _ _ rfl⟩

/-- Before its `Allocation` is written, and even sent, `stats` reports the endpoint. -/
theorem stats_before_written :
    ∃ s, (system ⟨ProxyServer.localConfig, ⟨none, none⟩⟩).exec {} (oneAllocation.take 3)
        = some s ∧
      (∀ a, .proxy a ∈ oneAllocation.take 3 → ProxyServer.HasLocalAddr a) ∧
      s.proxy.written = [] ∧ (ProxyServer.stats s.proxy {}).allocatedEndpoint ≠ "" := by
  refine ⟨_, rfl, ?_, rfl, by decide⟩
  intro a ha
  exact hasLocalAddr_oneAllocation (List.mem_of_mem_take ha)

end AmbientProxy.World
