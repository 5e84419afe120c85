import AmbientProxy.HttpInterface

/-! # Responses — what each answer to a request means

    Every request that is answered was answered for a reason that lies in the run:

        200   the game server of the id in the URL sent exactly these bytes under
              exactly the path in the URL
        400   the id is no UUID
        500   the request's time was up, or the game server's connection was closed

    (404 is in `HttpLookups`.)

    * `served_by_own_game` — no request is ever answered with another allocation's data;
    * `failures_explained` — a request that fails waited its full time, or its game
      server is gone, and no request is ever counted as `AssetNotFound`. -/

namespace AmbientProxy.HttpInterface

open Transition

variable {config : Config} {s t : State} {a : Action} {acts : List Action}

/-! ## What the loop keeps -/

/-- The loop forgets neither whom it accepted nor whom it removed. -/
theorem loop_grows {s t : ManagementServer.State} {a : ManagementServer.Action}
    (h : ManagementServer.system.step s a = some t) :
    s.accepted ⊆ t.accepted ∧ s.processed ⊆ t.processed := by
  cases ManagementServer.step_cases h with
  | insert _ _ => exact ⟨List.subset_append_left _ _, List.Subset.refl _⟩
  | recvEvent _ _ =>
      refine ⟨List.Subset.refl _, ?_⟩
      rw [ManagementServer.State.processed, ManagementServer.State.processed]
      exact List.map_subset _ (List.subset_append_left _ _)
  | _ => exact ⟨List.Subset.refl _, List.Subset.refl _⟩

theorem server_grows (h : (system config).step s a = some t) :
    s.server.accepted ⊆ t.server.accepted ∧ s.server.processed ⊆ t.server.processed := by
  rcases server_step h with heq | ⟨b, hstep⟩
  · rw [heq]
    exact ⟨List.Subset.refl _, List.Subset.refl _⟩
  · exact loop_grows hstep

/-! ## A call, seen from its request -/

/-- A call that has returned, or was dropped by its caller. -/
def Ended : Assets.Place → Prop
  | .returned _ | .cancelled => True
  | _ => False

/-- A call keeps its key, its deadline and how it ended, and nobody cancels it. -/
inductive Kept : Option Assets.Call → Option Assets.Call → Prop where
  | absent : Kept none none
  | goesOn {call call' : Assets.Call} (hkey : call'.assetId = call.assetId)
      (hdeadline : call'.deadline = call.deadline) (hended : Ended call.place → call' = call)
      (hcancelled : call'.place = .cancelled → call.place = .cancelled) :
      Kept (some call) (some call')

theorem Kept.refl (call : Option Assets.Call) : Kept call call := by
  cases call with
  | none => exact .absent
  | some call => exact .goesOn rfl rfl (fun _ => rfl) fun h => h

/-- A call goes on by itself. -/
theorem kept_of_goes {s : Assets.State} {c : Assets.CallId} {a : Assets.Action}
    {call call' : Assets.Call} (h : Assets.Goes s c a call call') (hcancel : a ≠ .cancel c) :
    Kept (some call) (some call') := by
  have hgoing : ∀ {place : Assets.Place}, call.place = place → ¬ Ended place →
      Ended call.place → call' = call := by
    intro place hp hnot hended
    exact absurd (hp ▸ hended) hnot
  cases h with
  | inTime hp _ | timedOut hp _ | found hp _ | missing hp _ _ | notSent hp _ _ _ | created hp
  | woken hp | pending hp | overdue hp _ =>
      exact .goesOn rfl rfl (hgoing hp fun hended => hended) nofun
  | cancelled _ => exact absurd rfl hcancel

theorem kept_step {gunzip : Bytes → Option Bytes} {s t : Assets.State} {a : Assets.Action}
    (h : (Assets.system gunzip).step s a = some t) {c : Assets.CallId}
    (hnew : ∀ key timeout, a ≠ .getAsset c key timeout) (hcancel : a ≠ .cancel c) :
    Kept (s.calls c) (t.calls c) := by
  cases Assets.callStep_of_step h with
  | @getAsset c' assetId timeout _ _ hcalls =>
      rw [hcalls, Function.update_of_ne]
      · exact .refl _
      · rintro rfl
        exact hnew assetId timeout rfl
  | @goes _ c' call call' _ hc hgoes hcalls =>
      rw [hcalls]
      by_cases hne : c = c'
      · subst hne
        rw [hc, Function.update_self]
        exact kept_of_goes hgoes hcancel
      · rw [Function.update_of_ne hne]
        exact .refl _
  | store _ hcalls | tick hcalls | other _ hcalls =>
      rw [hcalls]
      exact .refl _

/-- The same for a step of both ends. -/
theorem kept_assets {game : AllocatedAssets.Game} {c : AllocatedAssets.Compression}
    {s t : AllocatedAssets.State} {a : AllocatedAssets.Action}
    (h : (AllocatedAssets.system game c).step s a = some t) {r : RequestId}
    (hnew : ∀ key timeout, a ≠ .assets (.getAsset r key timeout))
    (hcancel : a ≠ .assets (.cancel r)) :
    Kept (s.session.assets.calls r) (t.session.assets.calls r) := by
  cases AllocatedAssets.step_cases h with
  | assets _ hstep =>
      refine kept_step hstep ?_ ?_
      · rintro key timeout rfl
        exact hnew key timeout rfl
      · rintro rfl
        exact hcancel rfl
  | _ => exact .refl _

/-- The call of a request, where one allocation moves on. -/
theorem kept_setAssets {id id' : Uuid} {b : AllocatedAssets.Action}
    {assets : AllocatedAssets.State} {r : RequestId}
    (h : (AllocatedAssets.system (config.game id) config.compression).step (s.assets id) b
      = some assets) (hnew : ∀ key timeout, b ≠ .assets (.getAsset r key timeout))
    (hcancel : b ≠ .assets (.cancel r)) :
    Kept (s.call id' r) ((s.setAssets id assets).call id' r) := by
  rw [State.call, State.call]
  by_cases hid : id' = id
  · subst hid
    rw [State.assets_setAssets_self]
    exact kept_assets h hnew hcancel
  · rw [s.assets_setAssets_of_ne hid]
    exact .refl _

/-- **Only a request itself starts or cancels its call.** -/
theorem call_step (h : (system config).step s a = some t) {r : RequestId}
    (hnew : a ≠ .getAsset r) (hdrop : a ≠ .drop r) (id : Uuid) :
    Kept (s.call id r) (t.call id r) := by
  cases step_cases h with
  | tick =>
      exact kept_assets (tickAssets_step (config.game id) config.compression _) nofun nofun
  | assets hg hstep =>
      refine kept_setAssets hstep ?_ ?_
      · rintro key timeout rfl
        exact hg
      · rintro rfl
        exact hg
  | acceptUni _ hstep => exact kept_setAssets hstep nofun nofun
  | @getAsset r' _ _ _ hstep =>
      refine kept_setAssets hstep ?_ nofun
      rintro key timeout heq
      cases heq
      exact hnew rfl
  | @drop r' _ _ _ hstep =>
      rw [State.call, State.call, State.assets_release]
      refine kept_setAssets hstep nofun ?_
      intro heq
      cases heq
      exact hdrop rfl
  | countFailure _ _ | observe _ _ =>
      rw [State.call, State.call, State.assets_release]
      exact .refl _
  | _ => exact .refl _

/-! ## What is known of a request -/

/-- What an answer rests on. -/
def AnswerOk (config : Config) (s : State) (r : RequestId) : Answer → Prop
  | .malformed => config.parseUuid (config.url r).1 = none
  | .allocationNotFound => ∃ id, config.parseUuid (config.url r).1 = some id
  | .returned id result => config.parseUuid (config.url r).1 = some id ∧
      id ∈ s.server.accepted ∧
      ∃ call, s.call id r = some call ∧ call.assetId = (config.url r).2 ∧
        call.place = .returned result

/-- What is known of a request at each of its places. -/
def PlaceOk (config : Config) (s : State) (r : RequestId) : Place → Prop
  | .notArrived | .parseId => ∀ id, s.call id r = none
  | .getProxy id => config.parseUuid (config.url r).1 = some id ∧ ∀ id', s.call id' r = none
  | .callGetAsset id => config.parseUuid (config.url r).1 = some id ∧ id ∈ s.server.accepted ∧
      ∀ id', s.call id' r = none
  | .getAsset id => config.parseUuid (config.url r).1 = some id ∧ id ∈ s.server.accepted ∧
      ∃ call, s.call id r = some call ∧ call.assetId = (config.url r).2 ∧ call.place ≠ .cancelled
  | .count answer | .responded answer => AnswerOk config s r answer
  | .observe answer => AnswerOk config s r answer ∧ ∃ data, answer.response = .ok data
  | .dropped => True

/-- Every request is where its calls say. -/
def Requests (config : Config) (s : State) : Prop := ∀ r, PlaceOk config s r (s.places r)

theorem Requests.init : Requests config {} := by
  intro r id
  rfl

/-- A step that leaves the call of a request to itself. -/
structure Leaves (r : RequestId) (s t : State) : Prop where
  kept : ∀ id, Kept (s.call id r) (t.call id r)
  accepted : s.server.accepted ⊆ t.server.accepted

theorem leaves_step (h : (system config).step s a = some t) {r : RequestId}
    (hnew : a ≠ .getAsset r) (hdrop : a ≠ .drop r) : Leaves r s t :=
  ⟨call_step h hnew hdrop, (server_grows h).1⟩

theorem Leaves.call_eq_none {r : RequestId} (h : Leaves r s t) {id : Uuid}
    (hc : s.call id r = none) : t.call id r = none := by
  have hk := h.kept id
  rw [hc] at hk
  generalize t.call id r = now at hk ⊢
  cases hk with
  | absent => rfl

theorem AnswerOk.mono {r : RequestId} {answer : Answer} (hok : AnswerOk config s r answer)
    (h : Leaves r s t) : AnswerOk config t r answer := by
  cases answer with
  | malformed | allocationNotFound => exact hok
  | returned id result =>
      obtain ⟨hid, hacc, call, hc, hkey, hplace⟩ := hok
      have hk := h.kept id
      rw [hc] at hk
      generalize hnow : t.call id r = now at hk
      cases hk with
      | goesOn _ _ hended _ =>
          cases hended (by rw [hplace]; trivial)
          exact ⟨hid, h.accepted hacc, call, hnow, hkey, hplace⟩

theorem PlaceOk.mono {r : RequestId} {place : Place} (hok : PlaceOk config s r place)
    (h : Leaves r s t) : PlaceOk config t r place := by
  cases place with
  | notArrived | parseId => exact fun id => h.call_eq_none (hok id)
  | getProxy id => exact ⟨hok.1, fun id' => h.call_eq_none (hok.2 id')⟩
  | callGetAsset id => exact ⟨hok.1, h.accepted hok.2.1, fun id' => h.call_eq_none (hok.2.2 id')⟩
  | getAsset id =>
      obtain ⟨hid, hacc, call, hc, hkey, hplace⟩ := hok
      have hk := h.kept id
      rw [hc] at hk
      generalize hnow : t.call id r = now at hk
      cases hk with
      | @goesOn _ call' hkey' _ _ hcancelled =>
          exact ⟨hid, h.accepted hacc, call', hnow, hkey'.trans hkey,
            fun hp => hplace (hcancelled hp)⟩
  | count answer | responded answer => exact AnswerOk.mono hok h
  | observe answer => exact ⟨AnswerOk.mono hok.1 h, hok.2⟩
  | dropped => trivial

/-- A step that moves no request. -/
theorem Requests.keep (hs : Requests config s) (hplaces : t.places = s.places)
    (h : ∀ r, Leaves r s t) : Requests config t := by
  intro r
  rw [hplaces]
  exact (hs r).mono (h r)

/-- One request moves to a place that is right for it. -/
theorem Requests.move {r : RequestId} {place : Place} (hs : Requests config s)
    (hplaces : t.places = Function.update s.places r place) (h : ∀ r', r' ≠ r → Leaves r' s t)
    (hok : PlaceOk config t r place) : Requests config t := by
  intro r'
  rw [hplaces]
  by_cases hr : r' = r
  · subst hr
    rw [Function.update_self]
    exact hok
  · rw [Function.update_of_ne hr]
    exact (hs r').mono (h r' hr)

/-- The call that a request starts. -/
theorem call_getAsset {r : RequestId} {id : Uuid} {assets : AllocatedAssets.State} {key : Str}
    {timeout : Nat} (h : (AllocatedAssets.system (config.game id) config.compression).step
      (s.assets id) (.assets (.getAsset r key timeout)) = some assets) :
    (s.setAssets id assets).call id r
      = some ⟨key, (s.assets id).session.assets.now + timeout, false, .testDeadline⟩ := by
  rw [State.call, State.assets_setAssets_self]
  cases AllocatedAssets.step_cases h with
  | assets _ hassets =>
      cases Assets.step_cases hassets with
      | getAsset _ => exact Assets.State.calls_setCall_self ..

theorem Requests.step (hs : Requests config s) (hserver : ManagementServer.Inv s.server)
    (h : (system config).step s a = some t) : Requests config t := by
  cases step_cases h with
  | server _ | assets _ _ | acceptUni _ _ | tick | dropProxy _ _ =>
      exact hs.keep rfl fun r => leaves_step h nofun nofun
  | @request r hp =>
      have hok := hs r
      rw [hp] at hok
      exact hs.move rfl (fun _ _ => leaves_step h nofun nofun) hok
  | @parsed r id hp hid =>
      have hok := hs r
      rw [hp] at hok
      exact hs.move rfl (fun _ _ => leaves_step h nofun nofun) ⟨hid, hok⟩
  | @malformed r hp hid => exact hs.move rfl (fun _ _ => leaves_step h nofun nofun) hid
  | @foundProxy r id proxy hp hproxy =>
      -- the store has each proxy server under its own id
      cases hserver.own id proxy hproxy
      have hok := hs r
      rw [hp] at hok
      have hmem : id ∈ s.server.proxies := AList.lookup_isSome.mp (by rw [hproxy]; rfl)
      exact hs.move rfl (fun _ _ => leaves_step h nofun nofun)
        ⟨hok.1, ((hserver.store id).mp hmem).1, hok.2⟩
  | @noProxy r id hp _ =>
      have hok := hs r
      rw [hp] at hok
      exact hs.move rfl (fun _ _ => leaves_step h nofun nofun) ⟨id, hok.1⟩
  | @getAsset r id assets hp hstep =>
      have hok := hs r
      rw [hp] at hok
      refine hs.move rfl ?_ ⟨hok.1, hok.2.1, _, call_getAsset hstep, rfl, nofun⟩
      intro r' hr
      refine leaves_step h ?_ nofun
      intro heq
      cases heq
      exact hr rfl
  | @returns r id call result hp hc hresult =>
      have hok := hs r
      rw [hp] at hok
      obtain ⟨hid, hacc, call', hc', hkey, -⟩ := hok
      cases hc.symm.trans hc'
      exact hs.move rfl (fun _ _ => leaves_step h nofun nofun)
        ⟨hid, hacc, call, hc', hkey, hresult⟩
  | @countSuccess r answer data hp hdata =>
      have hok := hs r
      rw [hp] at hok
      exact hs.move rfl (fun _ _ => leaves_step h nofun nofun)
        ⟨AnswerOk.mono hok (leaves_step h nofun nofun), data, hdata⟩
  | @countFailure r answer status hp hstatus =>
      have hok := hs r
      rw [hp] at hok
      exact hs.move (State.places_release ..) (fun _ _ => leaves_step h nofun nofun)
        (AnswerOk.mono hok (leaves_step h nofun nofun))
  | @observe r answer data hp hdata =>
      have hok := hs r
      rw [hp] at hok
      exact hs.move (State.places_release ..) (fun _ _ => leaves_step h nofun nofun)
        (AnswerOk.mono hok.1 (leaves_step h nofun nofun))
  | @drop r id assets hp hstep =>
      refine hs.move (State.places_release ..) ?_ trivial
      intro r' hr
      refine leaves_step h nofun ?_
      intro heq
      cases heq
      exact hr rfl

/-! ## A closed connection -/

/-- A connection that is closed stays closed. -/
theorem closed_effect {id : Uuid} {x : Startup.Allocation} {b : Startup.Action}
    (h : x.closed = true) : (Startup.effect id x b).closed = true := by
  cases b with
  | close => rfl
  | recvEvent => rw [Startup.recvEvent_closed, h]
  | pollNotified => rw [Startup.pollNotified_closed, h]
  | otherHandled other => cases other <;> exact h
  | _ => exact h

theorem closed_loop {s t : ManagementServer.State} {a : ManagementServer.Action}
    (h : ManagementServer.system.step s a = some t) {id : Uuid}
    (hclosed : (s.allocations id).closed = true) : (t.allocations id).closed = true := by
  have hmove : ∀ id' x, ((s.allocations id').closed = true → x.closed = true) →
      (Function.update s.allocations id' x id).closed = true := by
    intro id' x hx
    by_cases hid : id = id'
    · subst hid
      rw [Function.update_self]
      exact hx hclosed
    · rw [Function.update_of_ne hid]
      exact hclosed
  cases ManagementServer.step_cases h with
  | newProxyServer _ | spawnStart _ | insert _ _ | recvEvent _ _ =>
      exact hmove _ _ closed_effect
  | task _ _ hstep =>
      obtain ⟨-, rfl⟩ := guarded_step_iff.mp hstep
      exact hmove _ _ closed_effect
  | _ => exact hclosed

/-- The message-processing task returns only where the connection is closed. -/
theorem closed_of_receiverGone {id : Uuid} {x : Startup.Allocation} {bs : List Startup.Action}
    (h : (Startup.system id).exec {} bs = some x) :
    receiverGone x.messageTask = true → x.closed = true := by
  refine exec_invariant (P := fun x : Startup.Allocation =>
    receiverGone x.messageTask = true → x.closed = true) ?_ (fun hgone => by cases hgone) h
  intro x b y hx hstep hgone
  obtain ⟨hg, rfl⟩ := guarded_step_iff.mp hstep
  cases b with
  | close => rfl
  | newProxyServer | acceptBi | writeStarted | notifyWaiters => cases hgone
  | acceptBiFails | messageTaskSeesClosed => exact hg.2
  | recvEvent =>
      rw [Startup.recvEvent_messageTask] at hgone
      rw [Startup.recvEvent_closed]
      exact hx hgone
  | pollNotified =>
      rw [Startup.pollNotified_messageTask] at hgone
      rw [Startup.pollNotified_closed]
      exact hx hgone
  | otherHandled other => cases other <;> exact hx hgone
  | _ => exact hx hgone

/-- Where an allocation's channel has lost its receiver, its connection is closed. -/
def Disconnected (s : State) : Prop :=
  ∀ id, (s.assets id).session.assets.receiverDropped = true →
    (s.server.allocations id).closed = true

theorem closed_step (h : (system config).step s a = some t) {id : Uuid}
    (hclosed : (s.server.allocations id).closed = true) :
    (t.server.allocations id).closed = true := by
  rcases server_step h with heq | ⟨b, hstep⟩
  · rw [heq]
    exact hclosed
  · exact closed_loop hstep hclosed

theorem receiverDropped_setAssets {id id' : Uuid} {b : AllocatedAssets.Action}
    {assets : AllocatedAssets.State}
    (h : (AllocatedAssets.system (config.game id) config.compression).step (s.assets id) b
      = some assets) (hb : b ≠ .assets .dropReceiver) :
    ((s.setAssets id assets).assets id').session.assets.receiverDropped
      = (s.assets id').session.assets.receiverDropped := by
  by_cases hid : id' = id
  · subst hid
    rw [State.assets_setAssets_self]
    exact AllocatedAssets.receiverDropped_step h hb
  · rw [s.assets_setAssets_of_ne hid]

theorem Disconnected.step (hs : Disconnected s) (hserver : ManagementServer.Inv s.server)
    (h : (system config).step s a = some t) : Disconnected t := by
  -- only a task that has returned drops the receiver
  have hkeep : (∀ id, (t.assets id).session.assets.receiverDropped
      = (s.assets id).session.assets.receiverDropped) → Disconnected t := by
    intro hsame id hdropped
    exact closed_step h (hs id (hsame id ▸ hdropped))
  cases step_cases h with
  | @assets id b assets hg hstep =>
      by_cases hb : b = .assets .dropReceiver
      · subst hb
        intro id' hdropped
        by_cases hid : id' = id
        · subst hid
          obtain ⟨bs, hbs⟩ := hserver.projects.run id'
          exact closed_of_receiverGone hbs hg
        · refine hs id' ?_
          rw [← hdropped]
          exact (congrArg (·.session.assets.receiverDropped)
            (s.assets_setAssets_of_ne hid assets)).symm
      · exact hkeep fun id' => receiverDropped_setAssets hstep hb
  | acceptUni _ hstep | getAsset _ hstep =>
      exact hkeep fun id' => receiverDropped_setAssets hstep nofun
  | drop _ hstep =>
      refine hkeep fun id' => ?_
      rw [State.assets_release]
      exact receiverDropped_setAssets hstep nofun
  | countFailure _ _ | observe _ _ =>
      refine hkeep fun id' => ?_
      rw [State.assets_release]
      rfl
  | _ => exact hkeep fun _ => rfl

/-! ## The time that a request waits -/

/-- The clock ticks. -/
def Action.isTick : Action → Bool
  | .tick => true
  | _ => false

/-- How often the clock ticks in a run. -/
def ticks (acts : List Action) : Nat := acts.countP Action.isTick

theorem ticks_append (acts acts' : List Action) :
    ticks (acts ++ acts') = ticks acts + ticks acts' :=
  List.countP_append

/-- All clocks are the clock of the run, and a call's time runs from its start. -/
structure Timed (config : Config) (acts : List Action) (s : State) : Prop where
  now : ∀ id, (s.assets id).session.assets.now = ticks acts
  deadline : ∀ r id call, s.call id r = some call → ∃ pre post, acts = pre ++ .getAsset r :: post ∧
    call.deadline = ticks pre + config.getAssetsDownloadTimeout

theorem Timed.init : Timed config [] {} := ⟨fun _ => rfl, nofun⟩

theorem now_setAssets {id id' : Uuid} {b : AllocatedAssets.Action} {assets : AllocatedAssets.State}
    (h : (AllocatedAssets.system (config.game id) config.compression).step (s.assets id) b
      = some assets) (hb : b ≠ .assets .tick) :
    ((s.setAssets id assets).assets id').session.assets.now
      = (s.assets id').session.assets.now := by
  by_cases hid : id' = id
  · subst hid
    rw [State.assets_setAssets_self]
    exact AllocatedAssets.now_step h hb
  · rw [s.assets_setAssets_of_ne hid]

theorem now_system (h : (system config).step s a = some t) (id : Uuid) :
    (t.assets id).session.assets.now
      = (s.assets id).session.assets.now + if a.isTick then 1 else 0 := by
  cases step_cases h with
  | tick => rfl
  | assets hg hstep =>
      refine now_setAssets hstep ?_
      rintro rfl
      exact hg
  | acceptUni _ hstep | getAsset _ hstep => exact now_setAssets hstep nofun
  | drop _ hstep =>
      rw [State.assets_release]
      exact now_setAssets hstep nofun
  | countFailure _ _ | observe _ _ =>
      rw [State.assets_release]
      rfl
  | _ => rfl

/-- The deadline of a call, where one allocation moves on. -/
theorem deadline_setAssets {id id' : Uuid} {b : AllocatedAssets.Action}
    {assets : AllocatedAssets.State} {r : RequestId} {call : Assets.Call}
    (h : (AllocatedAssets.system (config.game id) config.compression).step (s.assets id) b
      = some assets) (hc : (s.setAssets id assets).call id' r = some call) :
    (∃ call', s.call id' r = some call' ∧ call'.deadline = call.deadline) ∨
      ∃ key timeout, b = .assets (.getAsset r key timeout) ∧
        call.deadline = (s.assets id).session.assets.now + timeout := by
  rw [State.call] at hc
  by_cases hid : id' = id
  · subst hid
    rw [State.assets_setAssets_self] at hc
    cases AllocatedAssets.step_cases h with
    | assets _ hstep =>
        rcases AllocatedAssets.deadline_step hstep hc with hold | ⟨key, timeout, rfl, heq⟩
        · exact Or.inl hold
        · exact Or.inr ⟨key, timeout, rfl, heq⟩
    | _ => exact Or.inl ⟨call, hc, rfl⟩
  · rw [s.assets_setAssets_of_ne hid] at hc
    exact Or.inl ⟨call, hc, rfl⟩

theorem deadline_system (h : (system config).step s a = some t) {r : RequestId} {id : Uuid}
    {call : Assets.Call} (hc : t.call id r = some call) :
    (∃ call', s.call id r = some call' ∧ call'.deadline = call.deadline) ∨
      a = .getAsset r ∧ ∃ id', call.deadline
        = (s.assets id').session.assets.now + config.getAssetsDownloadTimeout := by
  cases step_cases h with
  | assets hg hstep =>
      rcases deadline_setAssets hstep hc with hold | ⟨key, timeout, rfl, -⟩
      · exact Or.inl hold
      · exact hg.elim
  | acceptUni _ hstep =>
      rcases deadline_setAssets hstep hc with hold | ⟨_, _, heq, -⟩
      · exact Or.inl hold
      · cases heq
  | getAsset _ hstep =>
      rcases deadline_setAssets hstep hc with hold | ⟨_, _, heq, hdeadline⟩
      · exact Or.inl hold
      · cases heq
        exact Or.inr ⟨rfl, _, hdeadline⟩
  | drop _ hstep =>
      rw [State.call, State.assets_release] at hc
      rcases deadline_setAssets hstep hc with hold | ⟨_, _, heq, -⟩
      · exact Or.inl hold
      · cases heq
  | countFailure _ _ | observe _ _ =>
      rw [State.call, State.assets_release] at hc
      exact Or.inl ⟨call, hc, rfl⟩
  | _ => exact Or.inl ⟨call, hc, rfl⟩

theorem Timed.step (hs : Timed config acts s) (h : (system config).step s a = some t) :
    Timed config (acts ++ [a]) t := by
  refine ⟨?_, ?_⟩
  · intro id
    rw [now_system h, hs.now, ticks_append]
    cases a <;> rfl
  · intro r id call hc
    rcases deadline_system h hc with ⟨call', hc', heq⟩ | ⟨rfl, id', heq⟩
    · obtain ⟨pre, post, rfl, hdeadline⟩ := hs.deadline r id call' hc'
      refine ⟨pre, post ++ [a], ?_, heq.symm.trans hdeadline⟩
      rw [List.append_assoc, List.cons_append]
    · rw [hs.now] at heq
      exact ⟨acts, [], rfl, heq⟩

/-! ## The answers, in every run -/

/-- What holds of the requests in every run. -/
structure Responses (config : Config) (acts : List Action) (s : State) : Prop where
  run : (system config).exec {} acts = some s
  requests : Requests config s
  disconnected : Disconnected s
  timed : Timed config acts s
  assetNotFound : s.assetRequests .assetNotFound = 0

theorem Responses.init : Responses config [] {} :=
  ⟨rfl, Requests.init, nofun, Timed.init, rfl⟩

/-- What `ProxyServer::get_asset` has returned to a request has its reason. -/
theorem explained_of_answerOk (h : (system config).exec {} acts = some s) {r : RequestId}
    {id : Uuid} {result : Except Anyhow (Option Bytes)}
    (hok : AnswerOk config s r (.returned id result)) :
    (∃ data, result = .ok (some data)) ∨ (∃ e, result = .error e) ∧
      ∃ call, s.call id r = some call ∧ (call.deadline ≤ (s.assets id).session.assets.now ∨
        (s.assets id).session.assets.receiverDropped = true) := by
  obtain ⟨-, -, call, hc, -, hplace⟩ := hok
  rcases (assetsInv_of_exec h id).explained r call hc result hplace with hfound | ⟨herror, hwhy⟩
  · exact Or.inl hfound
  · exact Or.inr ⟨herror, call, hc, hwhy⟩

/-- No request is counted as `AssetNotFound`. -/
theorem result_ne_assetNotFound (h : (system config).exec {} acts = some s) {r : RequestId}
    {answer : Answer} (hok : AnswerOk config s r answer) : answer.result ≠ .assetNotFound := by
  cases answer with
  | malformed | allocationNotFound => exact nofun
  | returned id result =>
      rcases explained_of_answerOk h hok with ⟨data, rfl⟩ | ⟨⟨e, rfl⟩, -⟩
      · exact nofun
      · exact nofun

theorem assetRequests_inc_of_ne {answer : Answer} (hne : answer.result ≠ .assetNotFound) :
    (s.incAssetRequests answer.result).assetRequests .assetNotFound
      = s.assetRequests .assetNotFound := Function.update_of_ne hne.symm ..

theorem Responses.step (hs : Responses config acts s) (h : (system config).step s a = some t) :
    Responses config (acts ++ [a]) t := by
  have hserver := serverInv_of_exec hs.run
  refine ⟨exec_snoc_iff.mpr ⟨s, hs.run, h⟩, hs.requests.step hserver h,
    hs.disconnected.step hserver h, hs.timed.step h, ?_⟩
  have hzero := hs.assetNotFound
  cases step_cases h with
  | @countSuccess r answer _ hp _ =>
      have hok := hs.requests r
      rw [hp] at hok
      exact (assetRequests_inc_of_ne (result_ne_assetNotFound hs.run hok)).trans hzero
  | @countFailure r answer _ hp _ =>
      have hok := hs.requests r
      rw [hp] at hok
      rw [State.assetRequests_release]
      exact (assetRequests_inc_of_ne (result_ne_assetNotFound hs.run hok)).trans hzero
  | observe _ _ | drop _ _ =>
      rw [State.assetRequests_release]
      exact hzero
  | _ => exact hzero

theorem responses_of_exec (h : (system config).exec {} acts = some s) :
    Responses config acts s :=
  exec_history (P := Responses config) Responses.init Responses.step h

/-- What was answered was known. -/
theorem Responses.answerOk (hs : Responses config acts s) {r : RequestId} {answer : Answer}
    (hp : s.places r = .responded answer) : AnswerOk config s r answer := by
  have hok := hs.requests r
  rw [hp] at hok
  exact hok

/-- Data is sent back where a call has returned it. -/
theorem Answer.response_eq_ok_iff {answer : Answer} {data : Bytes} :
    answer.response = .ok data ↔ ∃ id, answer = .returned id (.ok (some data)) := by
  constructor
  · intro h
    match answer with
    | .malformed | .allocationNotFound | .returned _ (.ok none) | .returned _ (.error _) => cases h
    | .returned id (.ok (some _)) =>
        cases h
        exact ⟨id, rfl⟩
  · rintro ⟨id, rfl⟩
    rfl

/-- **Each request is served by its own game.**  In every run of the whole proxy, with
    any number of allocations, uploads and requests at once: a request that is answered
    with data asked for an allocation that was accepted; the game server of this
    allocation sent this data under the path of the request, and has it from its game
    or its own disk. -/
theorem served_by_own_game (h : (system config).exec {} acts = some s) {r : RequestId}
    {answer : Answer} {data : Bytes} (hp : s.places r = .responded answer)
    (hdata : answer.response = .ok data) :
    ∃ id, config.parseUuid (config.url r).1 = some id ∧ id ∈ s.server.accepted ∧
      .storeAsset (config.url r).2 data ∈ (s.assets id).session.opened ∧
      AllocatedAssets.Originates (config.game id) (s.assets id) (config.url r).2.bytes data := by
  have hok := (responses_of_exec h).answerOk hp
  obtain ⟨id, rfl⟩ := Answer.response_eq_ok_iff.mp hdata
  obtain ⟨hid, hacc, call, hc, hkey, hplace⟩ := hok
  have hassets := assetsInv_of_exec h id
  have hsent := hassets.session.returned r call data hc hplace
  rw [hkey] at hsent
  exact ⟨id, hid, hacc, hsent.1, hassets.originates hsent⟩

theorem served_by_own_game_upload :
    ∃ s, (system oneGame).exec {} (connect 1 ++ ask 1 0 ++ upload 1 ++ finish 1 0) = some s ∧
      s.places 0 = .responded (.returned 1 (.ok (some [0x07]))) ∧
      ∃ id, oneGame.parseUuid (oneGame.url 0).1 = some id ∧ id ∈ s.server.accepted ∧
        .storeAsset (oneGame.url 0).2 [0x07] ∈ (s.assets id).session.opened ∧
        AllocatedAssets.Originates (oneGame.game id) (s.assets id) (oneGame.url 0).2.bytes
          [0x07] := by
  have hrun : (system oneGame).exec {} (connect 1 ++ ask 1 0 ++ upload 1 ++ finish 1 0)
    = some _ := rfl
  exact ⟨_, hrun, rfl, served_by_own_game hrun rfl rfl⟩

/-- **Every failure has its reason.**  In every run: 400 goes to the requests whose id
    is no UUID and to no other; a request that is answered with 500 asked for an
    accepted allocation, and waited for its full time or lost the game server's
    connection; and no request is counted as `AssetNotFound`. -/
theorem failures_explained (h : (system config).exec {} acts = some s) :
    (∀ r answer, s.places r = .responded answer →
      (answer.response = .error .badRequest ↔ config.parseUuid (config.url r).1 = none) ∧
      (answer.response = .error .internalServerError →
        ∃ id, config.parseUuid (config.url r).1 = some id ∧ id ∈ s.server.accepted ∧
          ((s.server.allocations id).closed = true ∨
            ∃ pre post, acts = pre ++ .getAsset r :: post ∧
              config.getAssetsDownloadTimeout ≤ ticks post))) ∧
    s.assetRequests .assetNotFound = 0 := by
  have hs := responses_of_exec h
  refine ⟨?_, hs.assetNotFound⟩
  intro r answer hp
  have hok := hs.answerOk hp
  cases answer with
  | malformed => exact ⟨⟨fun _ => hok, fun _ => rfl⟩, nofun⟩
  | allocationNotFound =>
      obtain ⟨id, hid⟩ := hok
      refine ⟨⟨nofun, fun hnone => ?_⟩, nofun⟩
      cases hid.symm.trans hnone
  | returned id result =>
      rcases explained_of_answerOk h hok with ⟨data, rfl⟩ | ⟨⟨e, rfl⟩, call, hc, hwhy⟩
      · refine ⟨⟨nofun, fun hnone => ?_⟩, nofun⟩
        cases hok.1.symm.trans hnone
      · refine ⟨⟨nofun, fun hnone => ?_⟩, fun _ => ⟨id, hok.1, hok.2.1, ?_⟩⟩
        · cases hok.1.symm.trans hnone
        · rcases hwhy with hle | hdropped
          · obtain ⟨pre, post, rfl, hdeadline⟩ := hs.timed.deadline r id call hc
            refine Or.inr ⟨pre, post, rfl, ?_⟩
            rw [hs.timed.now, hdeadline, ticks_append] at hle
            exact Nat.le_of_add_le_add_left hle
          · exact Or.inl (hs.disconnected id hdropped)

/-- One request waits until its time is up, and one asks for no UUID. -/
def twoFailures : List Action :=
  connect 1 ++ ask 1 0 ++
    [.tick, .tick, .assets 1 (.assets (.deadlinePasses 0)), .assets 1 (.assets (.testDeadline 0)),
      .returns 0, .count 0, .request 1, .parseId 1, .count 1]

theorem failures_explained_twoFailures :
    ∃ s, (system oneGame).exec {} twoFailures = some s ∧
      s.places 0 = .responded (.returned 1 (.error (.timedOutGettingAsset Str.a))) ∧
      s.places 1 = .responded .malformed ∧
      oneGame.parseUuid (oneGame.url 1).1 = none ∧ s.assetRequests .assetNotFound = 0 ∧
      ∃ id, oneGame.parseUuid (oneGame.url 0).1 = some id ∧ id ∈ s.server.accepted ∧
        ((s.server.allocations id).closed = true ∨
          ∃ pre post, twoFailures = pre ++ .getAsset 0 :: post ∧
            oneGame.getAssetsDownloadTimeout ≤ ticks post) := by
  have hrun : (system oneGame).exec {} twoFailures = some _ := rfl
  obtain ⟨hwhy, hzero⟩ := failures_explained hrun
  exact ⟨_, hrun, rfl, rfl, (hwhy 1 _ rfl).1.mp rfl, hzero, (hwhy 0 _ rfl).2 rfl⟩

end AmbientProxy.HttpInterface
