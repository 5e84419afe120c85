import AmbientProxy.AssetRequests
import AmbientProxy.AssetWakeUps

/-! # Timeouts of requests — who is told that time is up

    `ProxyServer::get_asset` of `src/server.rs` looks at the clock before it looks at the
    entry, each time round:

        while now < deadline {           -- late: do not look any more
          lock; data? return it; …; unlock
          select! { deadline, notified }
        }
        Timed out

    * `inGoodTime_iff_never_refused` — data that is in the store at the deadline is
      returned in exactly the runs in which the deadline catches no call away from the
      entry;
    * `refused_zeroTimeout_scheduledLate` — it can: a call with the timeout 0 never looks,
      and a call that is woken for its data can be late. -/

namespace AmbientProxy.Assets

open Transition Sync

variable {gunzip : Bytes → Option Bytes} {s t : State} {a : Action} {acts : List Action}

/-- On the way to the test of the deadline: the call sees the clock before it sees the
    entry again. -/
def Place.Away : Place → Prop
  | .testDeadline | .createNotified | .awaitNotified _ => True
  | _ => False

/-- The deadline is now, the data is there, and the call is away from the entry. -/
def Caught (s : State) (c : CallId) : Prop :=
  ∃ call, s.calls c = some call ∧ call.place.Away ∧
    (s.asset call.assetId).data.isSome = true ∧ s.now = call.deadline

/-- No call is caught by its deadline: none is made with the timeout 0 for data that is
    there, the clock does not reach the deadline of a call that is away from its data,
    and no data is stored at the deadline of a call that is away. -/
def InGoodTime (s : State) : Action → Prop
  | .getAsset _ assetId timeout => (s.asset assetId).data.isSome = true → timeout ≠ 0
  | .tick => ∀ c call, s.calls c = some call → call.place.Away →
      (s.asset call.assetId).data.isSome = true → s.now + 1 ≠ call.deadline
  | .store u => ∀ upload c call, s.uploads u = some upload → s.calls c = some call →
      call.assetId = upload.key → call.place.Away → s.now ≠ call.deadline
  | _ => True

theorem not_caught_step (hs : ∀ c, ¬ Caught s c) (ha : InGoodTime s a)
    (h : (system gunzip).step s a = some t) (c : CallId) : ¬ Caught t c := by
  rintro ⟨call, hcall, haway, hdata', hnow'⟩
  cases callStep_of_step h with
  | getAsset hfresh hcalls hdata hnow =>
      rename_i c' assetId timeout
      rw [hdata] at hdata'
      rw [hnow] at hnow'
      rcases call_of_update hcalls hcall with ⟨-, rfl⟩ | ⟨-, hold⟩
      · have hzero : timeout ≠ 0 := ha hdata'
        have hdeadline : s.now = s.now + timeout := hnow'
        omega
      · exact hs c ⟨call, hold, haway, hdata', hnow'⟩
  | goes hc hgoes hcalls hdata hnow =>
      rename_i c' call₁ call₂
      rw [hdata] at hdata'
      rw [hnow] at hnow'
      rcases call_of_update hcalls hcall with ⟨rfl, rfl⟩ | ⟨-, hold⟩
      · cases hgoes with
        | missing hp hnone _ =>
            rw [hnone] at hdata'
            cases hdata'
        | created hp | woken hp | pending hp | overdue hp _ =>
            have haway₁ : call₁.place.Away := by
              rw [hp]
              trivial
            exact hs c ⟨call₁, hc, haway₁, hdata', hnow'⟩
        | _ => exact haway.elim
      · exact hs c ⟨call, hold, haway, hdata', hnow'⟩
  | store hu hcalls hdata hnow =>
      rename_i u upload data
      rw [hcalls] at hcall
      rw [hnow] at hnow'
      rw [hdata] at hdata'
      split at hdata'
      · rename_i hkey
        exact ha upload c call hu hcall hkey haway hnow'
      · exact hs c ⟨call, hcall, haway, hdata', hnow'⟩
  | tick hcalls hdata hnow =>
      rw [hcalls] at hcall
      rw [hdata] at hdata'
      exact ha c call hcall haway hdata' (hnow ▸ hnow')
  | other _ hcalls hdata hnow =>
      rw [hcalls] at hcall
      rw [hdata] at hdata'
      exact hs c ⟨call, hcall, haway, hdata', hnow ▸ hnow'⟩

/-- The call has its data before it, and time to look at it, or has got it. -/
def Call.Safe (s : State) (call : Call) : Prop :=
  match call.place with
  | .checkEntry => (s.asset call.assetId).data.isSome = true
  | .returned result => ∃ data, result = .ok (some data)
  | .cancelled => True
  | .testDeadline | .createNotified | .awaitNotified _ =>
      (s.asset call.assetId).data.isSome = true ∧ s.now < call.deadline

theorem Call.Safe.of_away {call : Call} (haway : call.place.Away)
    (hdata : (s.asset call.assetId).data.isSome = true) (hnow : s.now < call.deadline) :
    call.Safe s := by
  rw [Call.Safe]
  split
  · exact hdata
  · rename_i hp
    rw [hp] at haway
    exact haway.elim
  · trivial
  · exact ⟨hdata, hnow⟩
  · exact ⟨hdata, hnow⟩
  · exact ⟨hdata, hnow⟩

/-- A call that is away has its data, and time. -/
theorem Call.Safe.away {call : Call} (hs : call.Safe s) (haway : call.place.Away) :
    (s.asset call.assetId).data.isSome = true ∧ s.now < call.deadline := by
  rw [Call.Safe] at hs
  cases hp : call.place with
  | testDeadline | createNotified | awaitNotified _ =>
      rw [hp] at hs
      exact hs
  | checkEntry | returned _ | cancelled =>
      rw [hp] at haway
      exact haway.elim

/-- The call stays where it is, and its data stays. -/
theorem Call.Safe.mono {call : Call} (hs : call.Safe s)
    (hdata : (s.asset call.assetId).data.isSome = true →
      (t.asset call.assetId).data.isSome = true)
    (hnow : call.place.Away → s.now < call.deadline → t.now < call.deadline) : call.Safe t := by
  rw [Call.Safe] at hs ⊢
  cases hp : call.place with
  | testDeadline | createNotified | awaitNotified _ =>
      rw [hp] at hs hnow
      exact ⟨hdata hs.1, hnow trivial hs.2⟩
  | checkEntry =>
      rw [hp] at hs
      exact hdata hs
  | returned _ | cancelled =>
      rw [hp] at hs
      exact hs

/-- The call, its data and the clock stay. -/
theorem Call.Safe.frame {call : Call} (hs : call.Safe s)
    (hdata : ∀ key, (t.asset key).data = (s.asset key).data) (hnow : t.now = s.now) :
    call.Safe t := by
  refine hs.mono ?_ ?_
  · rw [hdata]
    exact id
  · intro _
    rw [hnow]
    exact id

/-- What a safe call does next is safe. -/
theorem Call.Safe.goes {c : CallId} {call call' : Call} (hs : call.Safe s)
    (hgoes : Goes s c a call call') (hdata : ∀ key, (t.asset key).data = (s.asset key).data)
    (hnow : t.now = s.now) : call'.Safe t := by
  cases hgoes with
  | inTime hp _ =>
      have haway := hs.away (hp ▸ trivial)
      show (t.asset call.assetId).data.isSome = true
      rw [hdata]
      exact haway.1
  | timedOut hp hlate =>
      have haway := hs.away (hp ▸ trivial)
      omega
  | found _ _ => exact ⟨_, rfl⟩
  | missing hp hnone _ | notSent hp hnone _ _ =>
      rw [Call.Safe, hp, hnone] at hs
      cases hs
  | created hp | woken hp | pending hp =>
      have haway := hs.away (hp ▸ trivial)
      refine ⟨?_, ?_⟩
      · show (t.asset call.assetId).data.isSome = true
        rw [hdata]
        exact haway.1
      · show t.now < call.deadline
        rw [hnow]
        exact haway.2
  | overdue hp hlate =>
      have haway := hs.away (hp ▸ trivial)
      omega
  | cancelled _ => trivial

theorem safe_step {c : CallId} (hs : ∃ call, s.calls c = some call ∧ call.Safe s)
    (ha : InGoodTime s a) (h : (system gunzip).step s a = some t) :
    ∃ call, t.calls c = some call ∧ call.Safe t := by
  obtain ⟨call, hcall, hsafe⟩ := hs
  cases callStep_of_step h with
  | getAsset hfresh hcalls hdata hnow =>
      rename_i c' assetId timeout
      have hne : c ≠ c' := by
        rintro rfl
        cases hcall.symm.trans hfresh
      refine ⟨call, ?_, hsafe.frame hdata hnow⟩
      rw [hcalls, Function.update_of_ne hne]
      exact hcall
  | goes hc hgoes hcalls hdata hnow =>
      rename_i c' call₁ call₂
      by_cases hne : c = c'
      · subst hne
        cases hcall.symm.trans hc
        refine ⟨call₂, ?_, hsafe.goes hgoes hdata hnow⟩
        rw [hcalls, Function.update_self]
      · refine ⟨call, ?_, hsafe.frame hdata hnow⟩
        rw [hcalls, Function.update_of_ne hne]
        exact hcall
  | store hu hcalls hdata hnow =>
      refine ⟨call, hcalls ▸ hcall, hsafe.mono ?_ fun _ => by rw [hnow]; exact id⟩
      intro hsome
      rw [hdata]
      split
      · rfl
      · exact hsome
  | tick hcalls hdata hnow =>
      refine ⟨call, hcalls ▸ hcall, hsafe.mono (by rw [hdata]; exact id) ?_⟩
      intro haway hlt
      have hne := ha c call hcall haway (hsafe.away haway).1
      omega
  | other _ hcalls hdata hnow =>
      exact ⟨call, hcalls ▸ hcall, hsafe.frame hdata hnow⟩

/-- The steps that a call takes by itself. -/
def Action.ofCall : Action → Prop
  | .testDeadline _ | .checkEntry _ | .createNotified _ | .pollNotified _
  | .deadlinePasses _ => True
  | _ => False

theorem inGoodTime_of_ofCall (ha : a.ofCall) (s : State) : InGoodTime s a := by
  cases a with
  | testDeadline _ | checkEntry _ | createNotified _ | pollNotified _ | deadlinePasses _ => trivial
  | _ => exact ha.elim

/-- The call reads the clock once more, and is late. -/
theorem timesOut_of_testDeadline {c : CallId} {key : Str} {deadline : Nat} {requested : Bool}
    (hc : s.calls c = some ⟨key, deadline, requested, .testDeadline⟩) (hlate : deadline ≤ s.now) :
    ∃ u, (system gunzip).exec s [.testDeadline c] = some u ∧
      u.calls c = some ⟨key, deadline, requested,
        .returned (.error (.timedOutGettingAsset key))⟩ := by
  have hstep : (system gunzip).step s (.testDeadline c)
      = some (s.setCall c
          ⟨key, deadline, requested, .returned (.error (.timedOutGettingAsset key))⟩) := by
    show step gunzip s (.testDeadline c) = _
    rw [step, hc]
    simp only [if_neg (Nat.not_lt.mpr hlate)]
  exact ⟨_, exec_cons_iff.mpr ⟨_, hstep, rfl⟩, State.calls_setCall_self ..⟩

theorem timesOut_of_awaitNotified {c : CallId} {key : Str} {deadline : Nat} {requested : Bool}
    {future : Notified}
    (hc : s.calls c = some ⟨key, deadline, requested, .awaitNotified future⟩)
    (hlate : deadline ≤ s.now) :
    ∃ u, (system gunzip).exec s [.deadlinePasses c, .testDeadline c] = some u ∧
      u.calls c = some ⟨key, deadline, requested,
        .returned (.error (.timedOutGettingAsset key))⟩ := by
  have hstep : (system gunzip).step s (.deadlinePasses c)
      = some (dropNotified s c ⟨key, deadline, requested, .awaitNotified future⟩
          .testDeadline) := by
    show step gunzip s (.deadlinePasses c) = _
    rw [step, hc]
    simp only [if_neg (Nat.not_lt.mpr hlate)]
  have hdropped : (dropNotified s c ⟨key, deadline, requested, .awaitNotified future⟩
      .testDeadline).calls c = some ⟨key, deadline, requested, .testDeadline⟩ :=
    State.calls_setCall_self ..
  obtain ⟨u, hu, hcall⟩ : ∃ u, (system gunzip).exec (dropNotified s c
      ⟨key, deadline, requested, .awaitNotified future⟩ .testDeadline) [.testDeadline c] = some u ∧
        _ := timesOut_of_testDeadline hdropped hlate
  exact ⟨u, exec_cons_iff.mpr ⟨_, hstep, hu⟩, hcall⟩

/-- A call that is caught by its deadline is told that time is up. -/
theorem timesOut_of_caught {c : CallId} (hs : Caught s c) :
    ∃ bs u call, (∀ b ∈ bs, Action.ofCall b) ∧ (system gunzip).exec s bs = some u ∧
      u.calls c = some call ∧
      call.place = .returned (.error (.timedOutGettingAsset call.assetId)) := by
  obtain ⟨⟨key, deadline, requested, place⟩, hc, haway, -, hnow⟩ := hs
  have hlate : deadline ≤ s.now := Nat.le_of_eq hnow.symm
  cases place with
  | testDeadline =>
      obtain ⟨u, hu, hcall⟩ : ∃ u, (system gunzip).exec s [.testDeadline c] = some u ∧ _ :=
        timesOut_of_testDeadline hc hlate
      exact ⟨[.testDeadline c], u, _, List.forall_mem_singleton.mpr trivial, hu, hcall, rfl⟩
  | awaitNotified future =>
      obtain ⟨u, hu, hcall⟩ :
          ∃ u, (system gunzip).exec s [.deadlinePasses c, .testDeadline c] = some u ∧ _ :=
        timesOut_of_awaitNotified hc hlate
      refine ⟨_, u, _, ?_, hu, hcall, rfl⟩
      simp [Action.ofCall]
  | createNotified =>
      have hstep : (system gunzip).step s (.createNotified c)
          = some (s.setCall c ⟨key, deadline, requested,
              .awaitNotified (s.asset key).notify.notified⟩) := by
        show step gunzip s (.createNotified c) = _
        rw [step, hc]
      obtain ⟨m, hm⟩ : ∃ m, m = s.setCall c ⟨key, deadline, requested,
          .awaitNotified (s.asset key).notify.notified⟩ := ⟨_, rfl⟩
      have hcm : m.calls c = some ⟨key, deadline, requested,
          .awaitNotified (s.asset key).notify.notified⟩ := by
        rw [hm, State.calls_setCall_self]
      have hlatem : deadline ≤ m.now := by
        rw [hm]
        exact hlate
      obtain ⟨u, hu, hcall⟩ :
          ∃ u, (system gunzip).exec m [.deadlinePasses c, .testDeadline c] = some u ∧ _ :=
        timesOut_of_awaitNotified hcm hlatem
      refine ⟨_, u, _, ?_, exec_cons_iff.mpr ⟨m, hm ▸ hstep, hu⟩, hcall, rfl⟩
      simp [Action.ofCall]
  | checkEntry | returned _ | cancelled => exact haway.elim

/-- A step that is not in good time catches a call. -/
theorem caught_of_not_inGoodTime (ha : ¬ InGoodTime s a)
    (h : (system gunzip).step s a = some t) : ∃ c, Caught t c := by
  cases callStep_of_step h with
  | getAsset hfresh hcalls hdata hnow =>
      rename_i c assetId timeout
      rw [InGoodTime] at ha
      push Not at ha
      obtain ⟨hsome, rfl⟩ := ha
      refine ⟨c, ⟨assetId, s.now + 0, false, .testDeadline⟩, ?_, trivial, ?_, hnow⟩
      · rw [hcalls, Function.update_self]
      · rw [hdata]
        exact hsome
  | store hu hcalls hdata hnow =>
      rename_i u upload data
      rw [InGoodTime] at ha
      push Not at ha
      obtain ⟨upload', c, call, hu', hcall, hkey, haway, hdeadline⟩ := ha
      cases hu.symm.trans hu'
      refine ⟨c, call, hcalls ▸ hcall, haway, ?_, hnow.trans hdeadline⟩
      rw [hdata, if_pos hkey]
      rfl
  | tick hcalls hdata hnow =>
      rw [InGoodTime] at ha
      push Not at ha
      obtain ⟨c, call, hcall, haway, hsome, hdeadline⟩ := ha
      refine ⟨c, call, hcalls ▸ hcall, haway, ?_, hnow.trans hdeadline⟩
      rw [hdata]
      exact hsome
  | goes hc hgoes hcalls hdata hnow =>
      cases hgoes <;> exact absurd trivial ha
  | other hother hcalls hdata hnow =>
      cases a with
      | acceptUni _ _ | readToEnd _ _ | fetchAdd _ | dropReceiver => exact absurd trivial ha
      | _ => exact hother.elim

/-- **Data that is in the store at the deadline is returned, in exactly the runs in
    which the deadline catches no call away from the entry.**  A call that still runs
    when its key has data, at a time that is not after its deadline, returns that there
    is data and nothing else.  The states meant are all that the run passes through, and
    those that the calls reach from there by themselves. -/
theorem inGoodTime_iff_never_refused (h : (system gunzip).exec {} acts = some s) :
    Along (system gunzip) InGoodTime {} acts ↔
      ∀ pre post m u c call, pre ++ post <+: acts → (system gunzip).exec {} pre = some m →
        m.calls c = some call → call.place.Away ∨ call.place = .checkEntry →
        (m.asset call.assetId).data.isSome = true → m.now ≤ call.deadline →
        (system gunzip).exec m post = some u →
        ∀ bs v, (∀ b ∈ bs, Action.ofCall b) → (system gunzip).exec u bs = some v →
          ∀ call' result, v.calls c = some call' → call'.place = .returned result →
            ∃ data, result = .ok (some data) := by
  constructor
  · rintro hal pre post m u c call ⟨rest, rfl⟩ hpre hcall hruns hdata hnow hpost bs v hbs hv
      call' result hcall' hplace'
    have hm : ∀ c, ¬ Caught m c :=
      exec_invariant_along (P := fun s => ∀ c, ¬ Caught s c) not_caught_step
        (fun _ ⟨_, hnone, _⟩ => nomatch hnone) hal.of_append.of_append hpre
    have hsafe : ∃ call, m.calls c = some call ∧ call.Safe m := by
      refine ⟨call, hcall, ?_⟩
      rcases hruns with haway | hcheck
      · refine .of_away haway hdata (Nat.lt_of_le_of_ne hnow ?_)
        exact fun heq => hm c ⟨call, hcall, haway, hdata, heq⟩
      · rw [Call.Safe, hcheck]
        exact hdata
    have hu := exec_invariant_along (P := fun s => ∃ call, s.calls c = some call ∧ call.Safe s)
      safe_step hsafe (hal.of_append.after hpre) hpost
    obtain ⟨call₁, hcall₁, hsafe₁⟩ :=
      exec_invariant_along (P := fun s => ∃ call, s.calls c = some call ∧ call.Safe s)
        safe_step hu (along_of_forall_mem fun b hb => inGoodTime_of_ofCall (hbs b hb)) hv
    cases hcall₁.symm.trans hcall'
    rw [Call.Safe, hplace'] at hsafe₁
    exact hsafe₁
  · intro hreturned
    refine along_of_first h ?_
    intro pre a m n hpre hm _ hstep
    by_contra ha
    obtain ⟨c, hcaught⟩ := caught_of_not_inGoodTime ha hstep
    obtain ⟨call, hcall, haway, hdata, hnow⟩ := hcaught
    obtain ⟨bs, u, call', hbs, hu, hcall', hplace'⟩ :
        ∃ bs u call, (∀ b ∈ bs, Action.ofCall b) ∧ (system gunzip).exec n bs = some u ∧ _ :=
      timesOut_of_caught ⟨call, hcall, haway, hdata, hnow⟩
    have hn : (system gunzip).exec {} (pre ++ [a]) = some n := exec_snoc_iff.mpr ⟨m, hm, hstep⟩
    obtain ⟨data, heq⟩ := hreturned (pre ++ [a]) [] n n c call (by rwa [List.append_nil]) hn hcall
      (Or.inl haway) hdata (Nat.le_of_eq hnow) rfl bs u hbs hu call' _ hcall' hplace'
    cases heq

/-- One byte is uploaded under the key `a`. -/
def cached : List Action :=
  [.acceptUni 0 oneByteUpload, .readToEnd 0 true, .fetchAdd 0, .store 0]

/-- It is then requested with the timeout 0. -/
def zeroTimeout : List Action := cached ++ [.getAsset 0 Str.a 0, .testDeadline 0]

/-- A call waits for at most 1 s; the byte is stored at once, and the call is scheduled
    when the second has passed. -/
def scheduledLate : List Action :=
  [.getAsset 0 Str.a 1, .testDeadline 0, .checkEntry 0, .createNotified 0] ++ cached ++
    [.tick, .pollNotified 0, .testDeadline 0]

theorem inGoodTime_iff_never_refused_zeroTimeout :
    ∃ s, (system some).exec {} zeroTimeout = some s ∧
      (Along (system some) InGoodTime {} zeroTimeout ↔
        ∀ pre post m u c call, pre ++ post <+: zeroTimeout → (system some).exec {} pre = some m →
          m.calls c = some call → call.place.Away ∨ call.place = .checkEntry →
          (m.asset call.assetId).data.isSome = true → m.now ≤ call.deadline →
          (system some).exec m post = some u →
          ∀ bs v, (∀ b ∈ bs, Action.ofCall b) → (system some).exec u bs = some v →
            ∀ call' result, v.calls c = some call' → call'.place = .returned result →
              ∃ data, result = .ok (some data)) :=
  ⟨_, rfl, inGoodTime_iff_never_refused rfl⟩

/-- **Time can be up for an asset that is there**: a cached asset is refused to a call
    with the timeout 0, and an asset that is stored a second before the deadline to a
    call that is woken for it. -/
theorem refused_zeroTimeout_scheduledLate :
    (∃ m s call, (system some).exec {} cached = some m ∧
      (m.asset Str.a).data = some [0x07] ∧
      (system some).exec {} zeroTimeout = some s ∧ s.calls 0 = some call ∧
      call.place = .returned (.error (.timedOutGettingAsset Str.a))) ∧
    ∃ m s call, (system some).exec {} (scheduledLate.take 8) = some m ∧
      m.calls 0 = some ⟨Str.a, 1, true, .awaitNotified (.init 0)⟩ ∧ m.now = 0 ∧
      (m.asset Str.a).data = some [0x07] ∧
      (system some).exec {} scheduledLate = some s ∧ s.calls 0 = some call ∧
      call.place = .returned (.error (.timedOutGettingAsset Str.a)) :=
  ⟨⟨_, _, _, rfl, rfl, rfl, rfl, rfl⟩, _, _, _, rfl, rfl, rfl, rfl, rfl, rfl, rfl⟩

end AmbientProxy.Assets
