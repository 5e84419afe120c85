import AmbientProxy.HttpResponses

/-! # Lookups — for whom an allocation is there

    `get_asset` looks its allocation up in `ProxyStore` once, while the management loop
    inserts and removes.  A request that comes in between

        … insert(id) ──────────────── the id is listed ──────────────── remove(id) …
              404                  200, 500, never 404                    404

    * `notFound_exact` — a request with a UUID is answered with 404 exactly where the id
      was not listed when it looked;  so it never is where the id was listed from the
      request's arrival to its answer, and it always is where the id was accepted after
      the answer or removed before the arrival. -/

namespace AmbientProxy.HttpInterface

open Transition

variable {config : Config} {s t : State} {a : Action} {acts : List Action}

/-- The loop has accepted the allocation, and has not removed it. -/
def Listed (s : State) (id : Uuid) : Prop :=
  id ∈ s.server.accepted ∧ .stopped id ∉ s.server.processed

/-- What the lookup of an answered request found. -/
def Answer.lookup : Answer → Option Bool
  | .malformed => none
  | .allocationNotFound => some false
  | .returned _ _ => some true

/-- What the lookup of a request found, where it is still to be seen. -/
def Place.lookup : Place → Option Bool
  | .callGetAsset _ | .getAsset _ => some true
  | .count answer | .observe answer | .responded answer => answer.lookup
  | _ => none

/-- In the run `acts` from `n`, the request looks its id up, and finds it where it is
    listed. -/
def LooksUp (config : Config) (n : State) (acts : List Action) (r : RequestId) (found : Bool) :
    Prop :=
  ∃ pre m id, pre ++ [.getProxy r] <+: acts ∧ (system config).exec n pre = some m ∧
    config.parseUuid (config.url r).1 = some id ∧ (found = true ↔ Listed m id)

theorem LooksUp.snoc {n : State} {r : RequestId} {found : Bool} (h : LooksUp config n acts r found)
    (a : Action) : LooksUp config n (acts ++ [a]) r found := by
  obtain ⟨pre, m, id, hpre, hrest⟩ := h
  exact ⟨pre, m, id, hpre.trans (List.prefix_append _ _), hrest⟩

/-- The store has what is listed. -/
theorem lookup_isSome_iff (hserver : ManagementServer.Inv s.server) (id : Uuid) :
    (s.server.proxies.lookup id).isSome = true ↔ Listed s id := by
  rw [AList.lookup_isSome]
  exact hserver.store id

/-- A request that moves on, or another one. -/
theorem lookup_setPlace {r r' : RequestId} {old place : Place} {found : Bool}
    (hold : s.places r' = old) (h : ((s.setPlace r' place).places r).lookup = some found)
    (hkeep : place.lookup = old.lookup) :
    (s.places r).lookup = some found := by
  by_cases hr : r = r'
  · subst hr
    rw [State.places_setPlace_self] at h
    rw [hold, ← hkeep]
    exact h
  · rw [s.places_setPlace_of_ne hr] at h
    exact h

/-- What is seen of a lookup was seen before, or the request is just looking. -/
theorem lookup_step (h : (system config).step s a = some t) {r : RequestId} {found : Bool}
    (hfound : (t.places r).lookup = some found) :
    (s.places r).lookup = some found ∨ a = .getProxy r ∧
      ∃ id, s.places r = .getProxy id ∧ (s.server.proxies.lookup id).isSome = found := by
  cases step_cases h with
  | request hp | parsed hp _ | malformed hp _ => exact Or.inl (lookup_setPlace hp hfound rfl)
  | @foundProxy r' id proxy hp hproxy =>
      by_cases hr : r = r'
      · subst hr
        refine Or.inr ⟨rfl, id, hp, ?_⟩
        rw [hproxy]
        change ((s.setPlace r (.callGetAsset proxy)).places r).lookup = some found at hfound
        rw [State.places_setPlace_self] at hfound
        exact Option.some.inj hfound
      · exact Or.inl ((congrArg Place.lookup (s.places_setPlace_of_ne hr _)).symm.trans hfound)
  | @noProxy r' id hp hproxy =>
      by_cases hr : r = r'
      · subst hr
        refine Or.inr ⟨rfl, id, hp, ?_⟩
        rw [hproxy]
        rw [State.places_setPlace_self] at hfound
        exact Option.some.inj hfound
      · exact Or.inl ((congrArg Place.lookup (s.places_setPlace_of_ne hr _)).symm.trans hfound)
  | @getAsset _ id assets hp _ =>
      exact Or.inl (lookup_setPlace (s := s.setAssets id assets) hp hfound rfl)
  | returns hp _ _ => exact Or.inl (lookup_setPlace hp hfound rfl)
  | @countSuccess _ answer _ hp _ =>
      exact Or.inl (lookup_setPlace (s := s.incAssetRequests answer.result) hp hfound rfl)
  | @countFailure _ answer _ hp _ =>
      rw [State.places_release] at hfound
      exact Or.inl (lookup_setPlace (s := s.incAssetRequests answer.result) hp hfound rfl)
  | @observe _ _ data hp _ =>
      rw [State.places_release] at hfound
      exact Or.inl (lookup_setPlace (s := s.observeAssetResponseSizeBytes data.length) hp
        hfound rfl)
  | @drop r' id assets hp _ =>
      rw [State.places_release] at hfound
      by_cases hr : r = r'
      · subst hr
        rw [State.places_setPlace_self] at hfound
        cases hfound
      · exact Or.inl ((congrArg Place.lookup
          ((s.setAssets id assets).places_setPlace_of_ne hr _)).symm.trans hfound)
  | _ => exact Or.inl hfound

/-- In every run, what is seen of a lookup is what it found. -/
theorem looksUp_of_exec {n : State} {before : List Action}
    (hn : (system config).exec {} before = some n) {r : RequestId}
    (hnew : n.places r = .notArrived) (h : (system config).exec n acts = some s) {found : Bool}
    (hfound : (s.places r).lookup = some found) : LooksUp config n acts r found := by
  refine (exec_history (P := fun acts s => (system config).exec n acts = some s ∧
    ∀ found, (s.places r).lookup = some found → LooksUp config n acts r found) ⟨rfl, ?_⟩ ?_ h).2
    found hfound
  · intro found hfound
    rw [hnew] at hfound
    cases hfound
  · rintro acts m a t ⟨hm, hs⟩ hstep
    refine ⟨exec_snoc_iff.mpr ⟨m, hm, hstep⟩, ?_⟩
    intro found hfound
    rcases lookup_step hstep hfound with hold | ⟨rfl, id, hp, hlookup⟩
    · exact (hs found hold).snoc a
    · have hrun : (system config).exec {} (before ++ acts) = some m := by
        rw [exec_append, hn]
        exact hm
      have hok := (responses_of_exec hrun).requests r
      rw [hp] at hok
      refine ⟨acts, m, id, List.prefix_refl _, hm, hok.1, ?_⟩
      rw [← lookup_isSome_iff (serverInv_of_exec hrun), hlookup]

/-- 404 says that the lookup found nothing. -/
theorem notFound_iff_lookup (h : (system config).exec {} acts = some s) {r : RequestId}
    {answer : Answer} (hp : s.places r = .responded answer) :
    answer.response = .error .notFound ↔ answer.lookup = some false := by
  have hok := (responses_of_exec h).answerOk hp
  cases answer with
  | malformed => exact ⟨nofun, nofun⟩
  | allocationNotFound => exact ⟨fun _ => rfl, fun _ => rfl⟩
  | returned id result =>
      rcases explained_of_answerOk h hok with ⟨data, rfl⟩ | ⟨⟨e, rfl⟩, -⟩
      · exact ⟨nofun, nofun⟩
      · exact ⟨nofun, nofun⟩

/-- A request that asks for a UUID has looked it up when it is answered. -/
theorem lookup_of_parsed (h : (system config).exec {} acts = some s) {r : RequestId}
    {answer : Answer} {id : Uuid} (hp : s.places r = .responded answer)
    (hid : config.parseUuid (config.url r).1 = some id) : ∃ found, answer.lookup = some found := by
  have hok := (responses_of_exec h).answerOk hp
  cases answer with
  | malformed => cases hid.symm.trans hok
  | allocationNotFound => exact ⟨_, rfl⟩
  | returned id result => exact ⟨_, rfl⟩

theorem server_grows_exec (h : (system config).exec s acts = some t) :
    s.server.accepted ⊆ t.server.accepted ∧ s.server.processed ⊆ t.server.processed := by
  refine exec_invariant (P := fun t : State => s.server.accepted ⊆ t.server.accepted ∧
    s.server.processed ⊆ t.server.processed) ?_ ⟨List.Subset.refl _, List.Subset.refl _⟩ h
  intro m a t hm hstep
  obtain ⟨haccepted, hprocessed⟩ := server_grows hstep
  exact ⟨List.Subset.trans hm.1 haccepted, List.Subset.trans hm.2 hprocessed⟩

/-- **404 tells whether the allocation was there.**  For every run and every request
    that arrives after its part `before` and is answered in its part `acts`: 404 is the
    answer exactly where the id was not listed when the request looked; it is not where
    the id was listed at both ends of `acts`; and it is where the id was not accepted
    yet at the end, or its `Stopped` event processed already at the start. -/
theorem notFound_exact {n : State} {before : List Action}
    (hn : (system config).exec {} before = some n) {r : RequestId}
    (hnew : n.places r = .notArrived) (h : (system config).exec n acts = some s) {answer : Answer}
    (hp : s.places r = .responded answer) {id : Uuid}
    (hid : config.parseUuid (config.url r).1 = some id) :
    (∃ pre m, pre ++ [.getProxy r] <+: acts ∧ (system config).exec n pre = some m ∧
      (answer.response = .error .notFound ↔ ¬ Listed m id)) ∧
    (Listed n id → Listed s id → answer.response ≠ .error .notFound) ∧
    (id ∉ s.server.accepted ∨ .stopped id ∈ n.server.processed →
      answer.response = .error .notFound) := by
  have hrun : (system config).exec {} (before ++ acts) = some s := by
    rw [exec_append, hn]
    exact h
  obtain ⟨found, hfound⟩ := lookup_of_parsed hrun hp hid
  have hseen : (s.places r).lookup = some found := by
    rw [hp]
    exact hfound
  obtain ⟨pre, m, id', hpre, hm, hid', hlisted⟩ := looksUp_of_exec hn hnew h hseen
  cases hid.symm.trans hid'
  have hexact : answer.response = .error .notFound ↔ ¬ Listed m id := by
    rw [notFound_iff_lookup hrun hp, hfound, ← hlisted, Option.some.injEq, Bool.not_eq_true]
  -- the state of the lookup lies between the two ends
  have hbefore := server_grows_exec hm
  have hafter : m.server.accepted ⊆ s.server.accepted ∧
      m.server.processed ⊆ s.server.processed := by
    obtain ⟨rest, rfl⟩ := (List.prefix_append pre _).trans hpre
    rw [exec_append, hm] at h
    exact server_grows_exec h
  refine ⟨⟨pre, m, hpre, hm, hexact⟩, ?_, ?_⟩
  · intro hstart hend hnot
    exact hexact.mp hnot ⟨hbefore.1 hstart.1, fun hmem => hend.2 (hafter.2 hmem)⟩
  · intro hgone
    refine hexact.mpr ?_
    rintro ⟨hacc, hnot⟩
    rcases hgone with hlate | hearly
    · exact hlate (hafter.1 hacc)
    · exact hnot (hbefore.2 hearly)

/-- One request comes in time, and one too late. -/
def inTimeAndTooLate : List Action :=
  connect 1 ++ ask 1 0 ++ upload 1 ++ finish 1 0 ++ leave 1 ++
    [.request 2, .parseId 2, .getProxy 2, .count 2]

theorem notFound_exact_inTimeAndTooLate :
    ∃ s, (system oneGame).exec {} inTimeAndTooLate = some s ∧
      s.places 0 = .responded (.returned 1 (.ok (some [0x07]))) ∧
      s.places 2 = .responded .allocationNotFound ∧
      ∃ pre m, pre ++ [.getProxy 2] <+: inTimeAndTooLate ∧
        (system oneGame).exec {} pre = some m ∧ ¬ Listed m 1 := by
  have hn : (system oneGame).exec {} [] = some {} := rfl
  have hrun : (system oneGame).exec {} inTimeAndTooLate = some _ := rfl
  obtain ⟨⟨pre, m, hpre, hm, hexact⟩, -⟩ := notFound_exact (r := 2) hn rfl hrun rfl rfl
  exact ⟨_, hrun, rfl, rfl, pre, m, hpre, hm, hexact.mp rfl⟩

end AmbientProxy.HttpInterface
