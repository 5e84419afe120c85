import AmbientProxy.Assets

/-! # Requests for assets — who asks the game server

    `ProxyServer::get_asset` of `src/server.rs`, seen from its calls: each of them has
    its own flag `requested_from_server`, and none looks at those of the others.

        call 0                           call 1
        lock; no data; ask; unlock
                                         lock; no data; ask; unlock
        select! { … }                    select! { … }

    * `alone_iff_coalesced` — one call at most has asked for a key in exactly the runs
      in which no call goes on to wait for a key that another call waits for;
    * `requests_burst` — a burst of calls for a missing key asks as many times. -/

namespace AmbientProxy.Assets

open Transition Sync

variable {gunzip : Bytes → Option Bytes} {s t : State} {a : Action} {acts : List Action}

/-! ## What one step does to the calls -/

/-- What an action of the call `c` makes of it. -/
inductive Goes (s : State) (c : CallId) : Action → Call → Call → Prop where
  | inTime {call : Call} (hp : call.place = .testDeadline) (h : s.now < call.deadline) :
      Goes s c (.testDeadline c) call { call with place := .checkEntry }
  | timedOut {call : Call} (hp : call.place = .testDeadline) (h : call.deadline ≤ s.now) :
      Goes s c (.testDeadline c) call
        { call with place := .returned (.error (.timedOutGettingAsset call.assetId)) }
  | found {call : Call} {data : Bytes} (hp : call.place = .checkEntry)
      (h : (s.asset call.assetId).data = some data) :
      Goes s c (.checkEntry c) call { call with place := .returned (.ok (some data)) }
  | missing {call : Call} (hp : call.place = .checkEntry)
      (h : (s.asset call.assetId).data = none)
      (hsent : call.requestedFromServer = true ∨ s.receiverDropped = false) :
      Goes s c (.checkEntry c) call
        { call with requestedFromServer := true, place := .createNotified }
  | notSent {call : Call} (hp : call.place = .checkEntry)
      (h : (s.asset call.assetId).data = none) (hfresh : call.requestedFromServer = false)
      (hdropped : s.receiverDropped = true) :
      Goes s c (.checkEntry c) call
        { call with
          requestedFromServer := true
          place := .returned (.error (.failedToRequestAsset call.assetId)) }
  | created {call : Call} {future : Notified} (hp : call.place = .createNotified) :
      Goes s c (.createNotified c) call { call with place := .awaitNotified future }
  | woken {call : Call} {future : Notified} (hp : call.place = .awaitNotified future) :
      Goes s c (.pollNotified c) call { call with place := .testDeadline }
  | pending {call : Call} {future : Notified} (hp : call.place = .awaitNotified future) :
      Goes s c (.pollNotified c) call { call with place := .awaitNotified .waiting }
  | overdue {call : Call} {future : Notified} (hp : call.place = .awaitNotified future)
      (h : call.deadline ≤ s.now) :
      Goes s c (.deadlinePasses c) call { call with place := .testDeadline }
  | cancelled {call : Call} {future : Notified} (hp : call.place = .awaitNotified future) :
      Goes s c (.cancel c) call { call with place := .cancelled }

/-- The steps that no call notices. -/
def Action.elsewhere : Action → Prop
  | .acceptUni _ _ | .readToEnd _ _ | .fetchAdd _ | .dropReceiver => True
  | _ => False

/-- A step as the calls see it: which of them moves, what the entries hold, and what
    the clock says. -/
inductive CallStep (s : State) : Action → State → Prop where
  | getAsset {c : CallId} {assetId : Str} {timeout : Nat} {t : State} (hc : s.calls c = none)
      (hcalls : t.calls
        = Function.update s.calls c (some ⟨assetId, s.now + timeout, false, .testDeadline⟩))
      (hdata : ∀ key, (t.asset key).data = (s.asset key).data) (hnow : t.now = s.now) :
      CallStep s (.getAsset c assetId timeout) t
  | goes {a : Action} {c : CallId} {call call' : Call} {t : State} (hc : s.calls c = some call)
      (hgoes : Goes s c a call call') (hcalls : t.calls = Function.update s.calls c (some call'))
      (hdata : ∀ key, (t.asset key).data = (s.asset key).data) (hnow : t.now = s.now) :
      CallStep s a t
  | store {u : UploadId} {upload : Upload} {data : Bytes} {t : State}
      (hu : s.uploads u = some upload) (hcalls : t.calls = s.calls)
      (hdata : ∀ key, (t.asset key).data
        = if key = upload.key then some data else (s.asset key).data) (hnow : t.now = s.now) :
      CallStep s (.store u) t
  | tick {t : State} (hcalls : t.calls = s.calls)
      (hdata : ∀ key, (t.asset key).data = (s.asset key).data) (hnow : t.now = s.now + 1) :
      CallStep s .tick t
  | other {a : Action} {t : State} (ha : a.elsewhere) (hcalls : t.calls = s.calls)
      (hdata : ∀ key, (t.asset key).data = (s.asset key).data) (hnow : t.now = s.now) :
      CallStep s a t

/-- What a call does under the lock. -/
theorem goes_checkEntry (s : State) (c : CallId) (call : Call) (hp : call.place = .checkEntry) :
    ∃ call', (checkEntry s c call).calls = Function.update s.calls c (some call') ∧
      (checkEntry s c call).now = s.now ∧ Goes s c (.checkEntry c) call call' := by
  obtain ⟨requests, call', heq, hcases⟩ := checkEntry_eq s c call
  rw [heq]
  refine ⟨call', rfl, rfl, ?_⟩
  rcases hcases with ⟨data, hdata, rfl⟩ | ⟨hnone, hsent, rfl⟩ | ⟨hnone, hfresh, hdropped, rfl⟩
  · exact .found hp hdata
  · exact .missing hp hnone hsent
  · exact .notSent hp hnone hfresh hdropped

theorem callStep_of_step (h : (system gunzip).step s a = some t) : CallStep s a t := by
  cases step_cases h with
  | acceptUni _ | received _ _ | notReceived _ | fetchAdd _ | dropReceiver =>
      exact .other trivial rfl (fun _ => rfl) rfl
  | store hu =>
      rename_i u key length compression data
      have hdata : ∀ key', ((s.setAsset key ((s.asset key).store data)).asset key').data
          = if key' = key then some data else (s.asset key').data := by
        intro key'
        rw [State.asset_setAsset]
        split <;> rfl
      exact .store hu rfl hdata rfl
  | getAsset hc => exact .getAsset hc rfl (fun _ => rfl) rfl
  | testDeadline hc =>
      rename_i c assetId deadline requested
      by_cases hnow : s.now < deadline
      · rw [if_pos hnow]
        exact .goes hc (.inTime rfl hnow) rfl (fun _ => rfl) rfl
      · rw [if_neg hnow]
        exact .goes hc (.timedOut rfl (Nat.le_of_not_lt hnow)) rfl (fun _ => rfl) rfl
  | checkEntry hc =>
      rename_i c assetId deadline requested
      obtain ⟨hasset, -, -⟩ := checkEntry_spec s c ⟨assetId, deadline, requested, .checkEntry⟩
      obtain ⟨call', hcalls, hnow, hgoes⟩ :=
        goes_checkEntry s c ⟨assetId, deadline, requested, .checkEntry⟩ rfl
      exact .goes hc hgoes hcalls (fun key => by rw [hasset]) hnow
  | createNotified hc => exact .goes hc (.created rfl) rfl (fun _ => rfl) rfl
  | pollNotified hc =>
      rename_i c assetId deadline requested future
      cases hready : (s.asset assetId).notify.ready c future with
      | true =>
          rw [pollNotified_of_ready hready]
          exact .goes hc (.woken rfl) rfl (s.data_setAsset_of_data rfl) rfl
      | false =>
          rw [pollNotified_of_not_ready hready]
          exact .goes hc (.pending rfl) rfl (s.data_setAsset_of_data rfl) rfl
  | deadlinePasses hc hnow =>
      exact .goes hc (.overdue rfl hnow) rfl (s.data_setAsset_of_data rfl) rfl
  | cancel hc => exact .goes hc (.cancelled rfl) rfl (s.data_setAsset_of_data rfl) rfl
  | tick => exact .tick rfl (fun _ => rfl) rfl

/-! ## Who asks -/

/-- At the `select!`, or on the way to it. -/
def Place.Waits : Place → Prop
  | .createNotified | .awaitNotified _ => True
  | _ => False

/-- The call waits for the key, and has sent a `RequestAsset` for it. -/
def Asked (s : State) (key : Str) (c : CallId) : Prop :=
  ∃ call, s.calls c = some call ∧ call.assetId = key ∧ call.place.Waits ∧
    call.requestedFromServer = true

/-- The call is at the entry of the key, finds no data there, and goes on to wait. -/
def FindsMissing (s : State) (key : Str) (c : CallId) : Prop :=
  ∃ call, s.calls c = some call ∧ call.assetId = key ∧ call.place = .checkEntry ∧
    (s.asset key).data = none ∧ (call.requestedFromServer = true ∨ s.receiverDropped = false)

/-- One call at most waits for the key and has asked for it. -/
def Coalesced (s : State) : Prop := ∀ key c c', Asked s key c → Asked s key c' → c = c'

/-- No call goes on to wait for a key that another call waits for. -/
def Alone (s : State) (a : Action) : Prop :=
  ∀ c c' key, a = .checkEntry c → FindsMissing s key c → ¬ Asked s key c'

/-- A call is the one that moves, or stays as it was. -/
theorem call_of_update {c c' : CallId} {call call' : Call}
    (hcalls : t.calls = Function.update s.calls c' (some call')) (h : t.calls c = some call) :
    c = c' ∧ call = call' ∨ c ≠ c' ∧ s.calls c = some call := by
  rw [hcalls] at h
  by_cases hne : c = c'
  · subst hne
    rw [Function.update_self] at h
    cases h
    exact Or.inl ⟨rfl, rfl⟩
  · rw [Function.update_of_ne hne] at h
    exact Or.inr ⟨hne, h⟩

/-- A call that waits waited before, or finds nothing in this step. -/
theorem asked_of_step {key : Str} {c : CallId} (hc : Asked t key c)
    (h : (system gunzip).step s a = some t) :
    Asked s key c ∨ a = .checkEntry c ∧ FindsMissing s key c := by
  obtain ⟨call, hcall, hkey, hwaits, hasked⟩ := hc
  cases callStep_of_step h with
  | getAsset hnone hcalls hdata hnow =>
      rcases call_of_update hcalls hcall with ⟨-, rfl⟩ | ⟨-, hold⟩
      · exact hwaits.elim
      · exact Or.inl ⟨call, hold, hkey, hwaits, hasked⟩
  | goes hc hgoes hcalls hdata hnow =>
      rename_i c' call₁ call₂
      rcases call_of_update hcalls hcall with ⟨rfl, rfl⟩ | ⟨-, hold⟩
      · cases hgoes with
        | missing hp hnone hsent =>
            exact Or.inr ⟨rfl, call₁, hc, hkey, hp, hkey ▸ hnone, hsent⟩
        | created hp | pending hp =>
            have hwaits₁ : call₁.place.Waits := by
              rw [hp]
              trivial
            exact Or.inl ⟨call₁, hc, hkey, hwaits₁, hasked⟩
        | _ => exact hwaits.elim
      · exact Or.inl ⟨call, hold, hkey, hwaits, hasked⟩
  | store _ hcalls _ _ | tick hcalls _ _ | other _ hcalls _ _ =>
      rw [hcalls] at hcall
      exact Or.inl ⟨call, hcall, hkey, hwaits, hasked⟩

/-- A call that finds nothing has asked afterwards, and so have those that had. -/
theorem asked_of_findsMissing {key : Str} {c c' : CallId} (hc : FindsMissing s key c)
    (hc' : Asked s key c') (h : (system gunzip).step s (.checkEntry c) = some t) :
    c ≠ c' ∧ Asked t key c ∧ Asked t key c' := by
  obtain ⟨call, hcall, rfl, hp, hnone, hsent⟩ := hc
  obtain ⟨call', hcall', hkey, hwaits, hasked⟩ := hc'
  have hne : c ≠ c' := by
    rintro rfl
    cases hcall.symm.trans hcall'
    rw [hp] at hwaits
    exact hwaits.elim
  cases callStep_of_step h with
  | other hother _ _ _ => exact hother.elim
  | goes hc hgoes hcalls _ _ =>
      cases hgoes with
      | found _ hdata =>
          cases hcall.symm.trans hc
          cases hnone.symm.trans hdata
      | notSent _ _ hfresh hdropped =>
          cases hcall.symm.trans hc
          rw [hfresh, hdropped] at hsent
          rcases hsent with h | h <;> cases h
      | missing _ _ _ =>
          cases hcall.symm.trans hc
          refine ⟨hne, ⟨{ call with requestedFromServer := true, place := .createNotified }, ?_,
            rfl, trivial, rfl⟩, call', ?_, hkey, hwaits, hasked⟩
          · rw [hcalls, Function.update_self]
          · rw [hcalls, Function.update_of_ne hne.symm]
            exact hcall'

theorem Coalesced.init : Coalesced {} := by
  rintro key c c' ⟨call, hcall, -⟩
  cases hcall

theorem Coalesced.step (hs : Coalesced s) (ha : Alone s a)
    (h : (system gunzip).step s a = some t) : Coalesced t := by
  intro key c c' hc hc'
  rcases asked_of_step hc h with hold | ⟨rfl, hnew⟩
  · rcases asked_of_step hc' h with hold' | ⟨rfl, hnew'⟩
    · exact hs key c c' hold hold'
    · exact absurd hold (ha c' c key rfl hnew')
  · rcases asked_of_step hc' h with hold' | ⟨heq, -⟩
    · exact absurd hold' (ha c c' key rfl hnew)
    · cases heq
      rfl

/-- **One call at most has asked for a key, in exactly the runs in which no call goes
    on to wait for a key that another call waits for already.**  The states meant are
    all that the run passes through. -/
theorem alone_iff_coalesced (h : (system gunzip).exec {} acts = some s) :
    Along (system gunzip) Alone {} acts ↔
      ∀ pre m, pre <+: acts → (system gunzip).exec {} pre = some m → Coalesced m := by
  refine along_iff_forall_prefix (I := Coalesced) Coalesced.step id ?_ Coalesced.init h
  intro s a t _ ha hstep hcoalesced
  refine ha ?_
  rintro c c' key rfl hmissing hasked
  obtain ⟨hne, hc, hc'⟩ := asked_of_findsMissing hmissing hasked hstep
  exact hne (hcoalesced key c c' hc hc')

/-- A call for the key `a`, up to where it waits. -/
def askFor (c : CallId) : List Action := [.getAsset c Str.a 10, .testDeadline c, .checkEntry c]

/-- So many calls, one after the other. -/
def burst (n : Nat) : List Action := (List.range n).flatMap askFor

/-- A call for a key without data asks, and waits. -/
theorem exec_askFor {c : CallId} (hc : s.calls c = none) (hnone : (s.asset Str.a).data = none)
    (halive : s.receiverDropped = false) :
    ∃ t, (system gunzip).exec s (askFor c) = some t ∧
      t.requests = s.requests ++ [.requestAsset Str.a] ∧ Asked t Str.a c ∧
      (∀ c', c' ≠ c → t.calls c' = s.calls c') ∧ (t.asset Str.a).data = none ∧
      t.receiverDropped = false := by
  have hget : (system gunzip).step s (.getAsset c Str.a 10)
      = some (s.setCall c ⟨Str.a, s.now + 10, false, .testDeadline⟩) := by
    show step gunzip s (.getAsset c Str.a 10) = _
    rw [step, hc]
  have htest : (system gunzip).step (s.setCall c ⟨Str.a, s.now + 10, false, .testDeadline⟩)
        (.testDeadline c)
      = some (s.setCall c ⟨Str.a, s.now + 10, false, .checkEntry⟩) := by
    show step gunzip (s.setCall c ⟨Str.a, s.now + 10, false, .testDeadline⟩) (.testDeadline c) = _
    have hnow : s.now < s.now + 10 := by omega
    rw [step, State.calls_setCall_self]
    simp [State.setCall, hnow]
  obtain ⟨m, hm⟩ : ∃ m, m = s.setCall c ⟨Str.a, s.now + 10, false, .checkEntry⟩ := ⟨_, rfl⟩
  have hcheck : (system gunzip).step m (.checkEntry c)
      = some (checkEntry m c ⟨Str.a, s.now + 10, false, .checkEntry⟩) := by
    show step gunzip m (.checkEntry c) = _
    rw [step, hm, State.calls_setCall_self]
  have hchecked : checkEntry m c ⟨Str.a, s.now + 10, false, .checkEntry⟩
      = { m.setAsset Str.a (m.asset Str.a) with
            requests := m.requests ++ [ServerMessage.requestAsset Str.a] }.setCall c
          ⟨Str.a, s.now + 10, true, .createNotified⟩ := by
    have hnone' : (m.asset Str.a).data = none := hm ▸ hnone
    have halive' : m.receiverDropped = false := hm ▸ halive
    simp only [checkEntry, hnone', State.receiverDropped_setAsset, halive', Bool.false_eq_true,
      if_false]
    rfl
  refine ⟨_, exec_cons_iff.mpr ⟨_, hget, exec_cons_iff.mpr ⟨_, htest, exec_cons_iff.mpr
    ⟨_, hm ▸ hcheck, rfl⟩⟩⟩, ?_⟩
  rw [← hm, hchecked]
  refine ⟨by rw [hm]; rfl, ⟨_, State.calls_setCall_self .., rfl, trivial, rfl⟩, ?_, ?_, ?_⟩
  · intro c' hne
    rw [State.calls_setCall_of_ne _ hne, hm]
    exact State.calls_setCall_of_ne s hne _
  · show ((m.setAsset Str.a (m.asset Str.a)).asset Str.a).data = none
    rw [State.asset_setAsset, if_pos rfl, hm]
    exact hnone
  · rw [hm]
    exact halive

/-- **A burst of calls for a missing key asks as many times**, and all of them wait. -/
theorem requests_burst (n : Nat) :
    ∃ s, (system gunzip).exec {} (burst n) = some s ∧
      s.requests = List.replicate n (.requestAsset Str.a) ∧ ∀ c, c < n → Asked s Str.a c := by
  suffices hburst : ∃ s, (system gunzip).exec {} (burst n) = some s ∧
      s.requests = List.replicate n (.requestAsset Str.a) ∧ (∀ c, c < n → Asked s Str.a c) ∧
      (∀ c, n ≤ c → s.calls c = none) ∧ (s.asset Str.a).data = none ∧
      s.receiverDropped = false by
    obtain ⟨s, hrun, hrequests, hasked, -⟩ := hburst
    exact ⟨s, hrun, hrequests, hasked⟩
  induction n with
  | zero => exact ⟨{}, rfl, rfl, nofun, fun _ _ => rfl, rfl, rfl⟩
  | succ n ih =>
      obtain ⟨s, hrun, hrequests, hasked, hfresh, hnone, halive⟩ := ih
      obtain ⟨t, hcall, hrequests', hasked', hothers, hnone', halive'⟩ :
          ∃ t, (system gunzip).exec s (askFor n) = some t ∧ _ :=
        exec_askFor (hfresh n (le_refl n)) hnone halive
      refine ⟨t, ?_, ?_, ?_, ?_, hnone', halive'⟩
      · rw [burst, List.range_succ, List.flatMap_append, List.flatMap_singleton, exec_append]
        show ((system gunzip).exec {} (burst n)).bind _ = _
        rw [hrun]
        exact hcall
      · rw [hrequests', hrequests, List.replicate_succ']
      · intro c hc
        by_cases hn : c = n
        · subst hn
          exact hasked'
        · obtain ⟨call, hcall, hrest⟩ := hasked c (Nat.lt_of_le_of_ne (Nat.le_of_lt_succ hc) hn)
          exact ⟨call, (hothers c hn).trans hcall, hrest⟩
      · intro c hc
        rw [hothers c (Nat.ne_of_gt hc)]
        exact hfresh c (Nat.le_of_succ_le hc)

theorem alone_iff_coalesced_burst :
    ∃ s, (system some).exec {} (burst 2) = some s ∧
      (Along (system some) Alone {} (burst 2) ↔
        ∀ pre m, pre <+: burst 2 → (system some).exec {} pre = some m → Coalesced m) :=
  ⟨_, rfl, alone_iff_coalesced rfl⟩

/-- **Two calls for one missing key both ask for it.** -/
theorem not_coalesced_burst :
    ∃ s, (system some).exec {} (burst 2) = some s ∧ Asked s Str.a 0 ∧ Asked s Str.a 1 ∧
      ¬ Coalesced s ∧ s.requests = [.requestAsset Str.a, .requestAsset Str.a] := by
  refine ⟨_, rfl, ⟨_, rfl, rfl, trivial, rfl⟩, ⟨_, rfl, rfl, trivial, rfl⟩, ?_, rfl⟩
  intro hcoalesced
  have heq := hcoalesced Str.a 0 1 ⟨_, rfl, rfl, trivial, rfl⟩ ⟨_, rfl, rfl, trivial, rfl⟩
  cases heq

end AmbientProxy.Assets
