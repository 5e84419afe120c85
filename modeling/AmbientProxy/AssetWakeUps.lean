import AmbientProxy.Assets

/-! # Requests that wait — no request sleeps next to its data

    A call of `get_asset` that finds no data releases the lock of the entry before
    it creates the future that `Asset::store` would wake:

        get_asset                    Asset::store
        lock; data is None; unlock
                                     lock; data = Some; notify_waiters; unlock
        notify.notified()
        select! { deadline, … }      -- nobody will wake it

    * `notInWindow_iff_never_asleep` — that is the only way: the calls never
      sleep next to their data in exactly the runs in which no store on a key falls
      between the release and the creation of a call on the same key;
    * `asleep_storedInWindow` — and it happens. -/

namespace AmbientProxy.Assets

open Transition Sync

variable {gunzip : Bytes → Option Bytes} {s t : State} {a : Action}

/-- A call is parked, nothing has woken it, and the entry holds its data. -/
def Asleep (s : State) (c : CallId) : Prop :=
  ∃ call future, s.calls c = some call ∧ call.place = .awaitNotified future ∧
    (s.asset call.assetId).notify.ready c future = false ∧
    (s.asset call.assetId).data.isSome = true

/-- No upload is stored while a call on the same key is between the release of the
    lock and the creation of its future. -/
def NotInWindow (s : State) (a : Action) : Prop :=
  ∀ u upload c call, a = .store u → s.uploads u = some upload → s.calls c = some call →
    call.place = .createNotified → call.assetId ≠ upload.key

/-- What a call knows of its entry at each place. -/
def Place.Ok (asset : Asset) (c : CallId) : Place → Prop
  | .createNotified => asset.data = none
  | .awaitNotified future =>
      asset.notify.Created future ∧ (asset.notify.ready c future = false → asset.data = none)
  | _ => True

/-- Every call that waits, or is about to, will be woken by the next store. -/
structure Attentive (s : State) : Prop where
  permit : ∀ key, (s.asset key).notify.permit = false
  calls : ∀ c call, s.calls c = some call → call.place.Ok (s.asset call.assetId) c

theorem Attentive.init : Attentive {} :=
  ⟨fun _ => rfl, nofun⟩

/-- A call moves, and no entry changes. -/
theorem Attentive.setCall (hs : Attentive s) {c : CallId} {call : Call}
    (hok : call.place.Ok (s.asset call.assetId) c) : Attentive (s.setCall c call) := by
  refine ⟨hs.permit, ?_⟩
  intro c' call' hc'
  by_cases hne : c' = c
  · subst hne
    rw [State.calls_setCall_self] at hc'
    cases hc'
    exact hok
  · rw [State.calls_setCall_of_ne s hne] at hc'
    exact hs.calls c' call' hc'

/-- One entry changes, and all calls on its key stay fit for it. -/
theorem Attentive.setAsset (hs : Attentive s) {key : Str} {asset : Asset}
    (hpermit : asset.notify.permit = false)
    (hcalls : ∀ c call, s.calls c = some call → call.assetId = key → call.place.Ok asset c) :
    Attentive (s.setAsset key asset) := by
  constructor
  · intro key'
    rw [State.asset_setAsset]
    split
    · exact hpermit
    · exact hs.permit key'
  · intro c call hc
    rw [State.asset_setAsset]
    split
    · rename_i hkey
      exact hcalls c call hc hkey
    · exact hs.calls c call hc

/-- Neither the entries nor the calls change. -/
theorem Attentive.frame (hs : Attentive s) (hasset : ∀ key, t.asset key = s.asset key)
    (hcalls : t.calls = s.calls) : Attentive t := by
  constructor
  · intro key
    rw [hasset]
    exact hs.permit key
  · intro c call hc
    rw [hasset]
    exact hs.calls c call (hcalls ▸ hc)

/-- The notification cell of an entry changes, and every call on the key sees its
    future as before, except one call that moves to a place of its own. -/
theorem Attentive.setNotify (hs : Attentive s) {c : CallId} {key : Str}
    {notify : Notify CallId} (hpermit : notify.permit = false)
    (hcreated : ∀ f, (s.asset key).notify.Created f → notify.Created f)
    (hready : ∀ c' f, c' ≠ c → notify.ready c' f = (s.asset key).notify.ready c' f)
    (call : Call) (hid : call.assetId = key)
    (hok : call.place.Ok { s.asset key with notify := notify } c) :
    Attentive ((s.setAsset key { s.asset key with notify := notify }).setCall c call) := by
  constructor
  · intro key
    rw [State.asset_setCall, State.asset_setAsset]
    split
    · exact hpermit
    · exact hs.permit key
  · intro c' call' hc'
    by_cases hne : c' = c
    · subst hne
      rw [State.calls_setCall_self] at hc'
      cases hc'
      rw [State.asset_setCall, State.asset_setAsset, if_pos hid]
      exact hok
    · rw [State.calls_setCall_of_ne _ hne, State.calls_setAsset] at hc'
      have hold := hs.calls c' call' hc'
      rw [State.asset_setCall, State.asset_setAsset]
      split
      · rename_i hkey
        rw [hkey] at hold
        cases hplace : call'.place with
        | createNotified =>
            rw [hplace] at hold
            exact hold
        | awaitNotified f =>
            rw [hplace] at hold
            refine ⟨hcreated f hold.1, ?_⟩
            rw [hready c' f hne]
            exact hold.2
        | _ => trivial
      · exact hold

/-- A call drops its future. -/
theorem Attentive.dropNotified (hs : Attentive s) {c : CallId} {call : Call} {place : Place}
    (hplace : ∀ asset, place.Ok asset c) : Attentive (dropNotified s c call place) := by
  have hpermit : ((s.asset call.assetId).notify.remove c).permit = false := hs.permit call.assetId
  exact hs.setNotify hpermit (fun _ hf => hf.remove c)
    (fun _ f hne => Notify.ready_remove_of_ne hne f) _ rfl (hplace _)

theorem Attentive.step (hs : Attentive s) (ha : NotInWindow s a)
    (h : (system gunzip).step s a = some t) : Attentive t := by
  cases step_cases h with
  | acceptUni _ | received _ _ | notReceived _ | fetchAdd _ | dropReceiver | tick =>
      exact hs.frame (fun _ => rfl) rfl
  | store hu =>
      rename_i u key length compression data
      suffices hstored : Attentive (s.setAsset key ((s.asset key).store data)) from
        hstored.frame (fun _ => rfl) rfl
      refine hs.setAsset (hs.permit key) ?_
      rintro c call hc rfl
      have hok := hs.calls c call hc
      cases hplace : call.place with
      | createNotified => exact absurd rfl (ha u _ c call rfl hu hc hplace)
      | awaitNotified f =>
          rw [hplace] at hok
          refine ⟨hok.1.notifyWaiters, ?_⟩
          intro hnr
          -- the call to `notify_waiters` completed the future
          exact nomatch (Notify.ready_notifyWaiters hok.1 c).symm.trans hnr
      | _ => trivial
  | getAsset _ => exact hs.setCall trivial
  | testDeadline _ =>
      refine hs.setCall ?_
      split <;> trivial
  | checkEntry hc =>
      rename_i c assetId deadline requested
      obtain ⟨hasset, -, requested', place, hcalls, hplace⟩ :=
        checkEntry_spec s c ⟨assetId, deadline, requested, .checkEntry⟩
      have hmoved : Attentive (s.setCall c ⟨assetId, deadline, requested', place⟩) := by
        refine hs.setCall ?_
        rcases hplace with ⟨data, -, rfl⟩ | ⟨hnone, rfl | rfl⟩
        · trivial
        · exact hnone
        · trivial
      exact hmoved.frame hasset hcalls
  | createNotified hc =>
      rename_i c assetId deadline requested
      exact hs.setCall ⟨Notify.created_notified _, fun _ => hs.calls _ _ hc⟩
  | pollNotified hc =>
      rename_i c assetId deadline requested f
      have hok := hs.calls c _ hc
      have hp := hs.permit assetId
      have hmoved := fun call' => hs.setNotify (Notify.poll_permit hp c f)
        (fun g hg => hg.poll c f) (fun c' g hne => Notify.ready_poll_of_ne hp hne g f) call'
      cases hready : (s.asset assetId).notify.ready c f with
      | true =>
          rw [pollNotified_of_ready hready]
          exact hmoved _ rfl trivial
      | false =>
          rw [pollNotified_of_not_ready hready]
          exact hmoved _ rfl ⟨trivial, fun _ => hok.2 hready⟩
  | deadlinePasses _ _ | cancel _ => exact hs.dropNotified fun _ => trivial

theorem Attentive.not_asleep (hs : Attentive s) (c : CallId) : ¬ Asleep s c := by
  rintro ⟨call, future, hc, hplace, hnr, hdata⟩
  have hok := hs.calls c call hc
  rw [hplace] at hok
  rw [hok.2 hnr] at hdata
  exact nomatch hdata

/-! ## The window -/

/-- The steps that a call takes on its way into its sleep. -/
def Action.fallsAsleep (a : Action) : Prop :=
  ∃ c, a = .createNotified c ∨ a = .pollNotified c

theorem notInWindow_of_fallsAsleep (ha : a.fallsAsleep) (s : State) : NotInWindow s a := by
  rintro u upload c call rfl
  obtain ⟨c, h | h⟩ := ha
  · exact nomatch h
  · exact nomatch h

/-- A store in the window: the call that is in it creates its future next, and
    sleeps. -/
theorem asleep_of_store_in_window (hs : Attentive s) (ha : ¬ NotInWindow s a)
    (h : (system gunzip).step s a = some t) :
    ∃ bs u, (∀ b ∈ bs, Action.fallsAsleep b) ∧ (system gunzip).exec t bs = some u ∧
      ∃ c, Asleep u c := by
  obtain ⟨u, upload, c, call, rfl, hu, hc, hplace, hkey⟩ :
      ∃ u upload c call, a = .store u ∧ s.uploads u = some upload ∧ s.calls c = some call ∧
        call.place = .createNotified ∧ call.assetId = upload.key := by
    by_contra hno
    refine ha fun u upload c call ha' hu hc hplace hkey => ?_
    exact hno ⟨u, upload, c, call, ha', hu, hc, hplace, hkey⟩
  cases step_cases h with
  | store hu' =>
      rename_i key length compression data
      cases Option.some.inj (hu.symm.trans hu')
      obtain ⟨assetId, deadline, requested, place⟩ := call
      cases hplace
      cases hkey
      -- the call's next step, in the state after the store
      obtain ⟨t, ht⟩ : ∃ t, t = (s.setAsset key ((s.asset key).store data)).setUpload u
          ⟨key, length, compression, .ended⟩ := ⟨_, rfl⟩
      rw [← ht]
      have hcalls : t.calls c = some ⟨key, deadline, requested, .createNotified⟩ := by
        rw [ht]
        exact hc
      have hasset : t.asset key = (s.asset key).store data := by
        rw [ht, State.asset_setUpload, State.asset_setAsset, if_pos rfl]
      have hpermit : (t.asset key).notify.permit = false := by
        rw [hasset]
        exact hs.permit key
      have hstep : (system gunzip).step t (.createNotified c)
          = some (t.setCall c ⟨key, deadline, requested,
              .awaitNotified (t.asset key).notify.notified⟩) := by
        show step gunzip t (.createNotified c) = _
        rw [step, hcalls]
      refine ⟨[.createNotified c], _, ?_, exec_cons_iff.mpr ⟨_, hstep, rfl⟩, c, ?_⟩
      · intro b hb
        exact ⟨c, Or.inl (List.mem_singleton.mp hb)⟩
      · refine ⟨_, _, State.calls_setCall_self .., rfl, ?_, ?_⟩
        · exact Notify.ready_notified hpermit c
        · show (t.asset key).data.isSome = true
          rw [hasset]
          rfl

/-- **No request sleeps next to its data in exactly the runs in which no store falls
    into the window of a call on its key.**  The states meant are all that the run
    passes through, and those that calls reach from there on their way into the
    sleep. -/
theorem notInWindow_iff_never_asleep {acts : List Action}
    (h : (system gunzip).exec {} acts = some s) :
    Along (system gunzip) NotInWindow {} acts ↔
      ∀ pre m, pre <+: acts → (system gunzip).exec {} pre = some m →
        ∀ bs u, (∀ b ∈ bs, Action.fallsAsleep b) → (system gunzip).exec m bs = some u →
          ∀ c, ¬ Asleep u c := by
  have hiff : Along (system gunzip) NotInWindow {} acts ↔
      ∀ pre m, pre <+: acts → (system gunzip).exec {} pre = some m →
        ∀ bs u, (∀ b ∈ bs, Action.fallsAsleep b) → (system gunzip).exec m bs = some u →
          ¬ ∃ c, Asleep u c :=
    along_iff_never_bad (I := Attentive) Attentive.step (fun hs ⟨c, hc⟩ => hs.not_asleep c hc)
      notInWindow_of_fallsAsleep asleep_of_store_in_window Attentive.init h
  rw [hiff]
  constructor
  · intro hnever pre m hpre hm bs u hbs hu c hc
    exact hnever pre m hpre hm bs u hbs hu ⟨c, hc⟩
  · rintro hnever pre m hpre hm bs u hbs hu ⟨c, hc⟩
    exact hnever pre m hpre hm bs u hbs hu c hc

/-- An upload of one byte under the key `a`, as its stream arrives. -/
def oneByteUpload : RecvStream :=
  let header := ClientStreamHeader.storeAsset Str.a 1 NO_COMPRESSION
  ⟨[framed ClientStreamHeader.codec header, [0x07]], .finished⟩

/-- The upload is stored between the release of the lock and the creation of the
    future. -/
def storedInWindow : List Action :=
  [.acceptUni 0 oneByteUpload, .readToEnd 0 true, .fetchAdd 0,
    .getAsset 0 Str.a 10, .testDeadline 0, .checkEntry 0, .store 0,
    .createNotified 0, .pollNotified 0]

theorem notInWindow_iff_never_asleep_storedInWindow :
    ∃ s, (system some).exec {} storedInWindow = some s ∧
      (Along (system some) NotInWindow {} storedInWindow ↔
        ∀ pre m, pre <+: storedInWindow → (system some).exec {} pre = some m →
          ∀ bs u, (∀ b ∈ bs, Action.fallsAsleep b) → (system some).exec m bs = some u →
            ∀ c, ¬ Asleep u c) :=
  ⟨_, rfl, notInWindow_iff_never_asleep rfl⟩

/-- **A request can sleep next to its data.** -/
theorem asleep_storedInWindow :
    ∃ s, (system some).exec {} storedInWindow = some s ∧ Asleep s 0 :=
  ⟨_, rfl, _, _, rfl, rfl, rfl, rfl⟩

end AmbientProxy.Assets
