import AmbientProxy.HttpResponses
import AmbientProxy.Lib.Totals

/-! # Metrics of the HTTP interface — the requests, counted

    `get_asset` calls `inc_asset_requests` once for each request that it answers, and
    `observe_asset_response_size_bytes` once for each that it answers with data.  Both
    are steps of their own, of any number of requests at once:

        count    assetRequests result += 1
        observe  responseSizes ++ [data.length]

    `requests_accounted`: at every moment the counters are the numbers of the requests
    that got so far with each result, and the sizes observed are those of the data that
    was sent.  A request that was dropped is not counted. -/

namespace AmbientProxy.HttpInterface

open Transition Totals

variable {config : Config} {s t : State} {a : Action} {acts : List Action}

/-- How a request is counted, once it is. -/
def Place.counted : Place → Option AssetRequestResult
  | .observe answer | .responded answer => some answer.result
  | _ => none

/-- The size of the data that is sent back. -/
def Answer.size (answer : Answer) : Option Nat :=
  match answer.response with
  | .ok data => some data.length
  | .error _ => none

theorem Answer.size_of_ok {answer : Answer} {data : Bytes} (h : answer.response = .ok data) :
    answer.size = some data.length := by
  rw [size, h]

theorem Answer.size_of_error {answer : Answer} {status : StatusCode}
    (h : answer.response = .error status) : answer.size = none := by
  rw [size, h]

/-- The size that was observed of a request, once it was answered. -/
def Place.observed : Place → Option Nat
  | .responded answer => answer.size
  | _ => none

/-- The weight of a place that shows `x`. -/
def shows {β : Type} [DecidableEq β] (seen : Place → Option β) (x : β) (place : Place) : Nat :=
  if seen place = some x then 1 else 0

/-- What a step does to the places and to the metrics. -/
inductive Books (s t : State) : Prop where
  | idle (hplaces : t.places = s.places) (hrequests : t.assetRequests = s.assetRequests)
      (hsizes : t.responseSizes = s.responseSizes)
  | moves {r : RequestId} {old place : Place} (hold : s.places r = old)
      (hplaces : t.places = Function.update s.places r place) (hnew : place ≠ .notArrived)
      (hrequests : ∀ result, t.assetRequests result + shows Place.counted result old
        = s.assetRequests result + shows Place.counted result place)
      (hsizes : ∀ size, t.responseSizes.count size + shows Place.observed size old
        = s.responseSizes.count size + shows Place.observed size place)

/-- A request moves on without being counted. -/
theorem Books.quiet {r : RequestId} {old place : Place} (hold : s.places r = old)
    (hplaces : t.places = Function.update s.places r place) (hnew : place ≠ .notArrived)
    (hrequests : t.assetRequests = s.assetRequests) (hsizes : t.responseSizes = s.responseSizes)
    (hcounted : place.counted = old.counted) (hobserved : place.observed = old.observed) :
    Books s t := by
  refine .moves hold hplaces hnew ?_ ?_
  · intro result
    rw [hrequests, shows, shows, hcounted]
  · intro size
    rw [hsizes, shows, shows, hobserved]

/-- The counter of a result goes up where the request shows this result. -/
theorem assetRequests_inc (s : State) (answer : Answer) (result : AssetRequestResult) :
    (s.incAssetRequests answer.result).assetRequests result
      = s.assetRequests result + if some answer.result = some result then 1 else 0 := by
  by_cases heq : result = answer.result
  · subst heq
    rw [if_pos rfl]
    exact Function.update_self ..
  · rw [if_neg (by rintro ⟨⟩; exact heq rfl)]
    exact Function.update_of_ne heq ..

theorem books_of_step (h : (system config).step s a = some t) : Books s t := by
  cases step_cases h with
  | server _ | assets _ _ | acceptUni _ _ | tick | dropProxy _ _ => exact .idle rfl rfl rfl
  | request hp | parsed hp _ | malformed hp _ | foundProxy hp _ | noProxy hp _ | getAsset hp _
  | returns hp _ _ => exact .quiet hp rfl nofun rfl rfl rfl rfl
  | drop hp _ =>
      exact .quiet hp (State.places_release ..) nofun (State.assetRequests_release ..)
        (State.responseSizes_release ..) rfl rfl
  | @countSuccess r answer data hp hdata =>
      refine .moves hp rfl nofun ?_ fun _ => rfl
      intro result
      exact assetRequests_inc s answer result
  | @countFailure r answer status hp hstatus =>
      refine .moves hp (State.places_release ..) nofun ?_ ?_
      · intro result
        rw [State.assetRequests_release]
        exact assetRequests_inc s answer result
      · intro size
        rw [State.responseSizes_release]
        show s.responseSizes.count size + 0
          = s.responseSizes.count size + if answer.size = some size then 1 else 0
        rw [Answer.size_of_error hstatus, if_neg nofun]
  | @observe r answer data hp hdata =>
      refine .moves hp (State.places_release ..) nofun ?_ ?_
      · intro result
        rw [State.assetRequests_release]
        rfl
      · intro size
        rw [State.responseSizes_release]
        show (s.responseSizes ++ [data.length]).count size + 0
          = s.responseSizes.count size + if answer.size = some size then 1 else 0
        rw [Answer.size_of_ok hdata, List.count_append, List.count_singleton]
        simp

/-- The metrics are the places, over all the requests that have arrived. -/
structure Accounted (ids : Finset RequestId) (s : State) : Prop where
  arrived : ∀ r, r ∈ ids ↔ s.places r ≠ .notArrived
  requests : ∀ result, s.assetRequests result = ∑ r ∈ ids, shows Place.counted result (s.places r)
  sizes : ∀ size, s.responseSizes.count size = ∑ r ∈ ids, shows Place.observed size (s.places r)

theorem Accounted.init : Accounted ∅ {} :=
  ⟨fun _ => ⟨nofun, fun h => absurd rfl h⟩, fun _ => rfl, fun _ => rfl⟩

/-- A request that arrives weighs nothing before. -/
theorem sum_insert_arrived {ids : Finset RequestId} {g : Place → Nat} {r : RequestId}
    (hids : ∀ r, r ∈ ids ↔ s.places r ≠ .notArrived) (hg : g .notArrived = 0) :
    ∑ r' ∈ insert r ids, g (s.places r') = ∑ r' ∈ ids, g (s.places r') := by
  refine sum_of_subset (Finset.subset_insert r ids) ?_
  intro r' hr'
  have hplace : s.places r' = .notArrived := by
    by_contra hne
    exact hr' ((hids r').mpr hne)
  rw [hplace, hg]

/-- A book that is kept with every move of a request. -/
theorem sum_moves {ids : Finset RequestId} {g : Place → Nat} {r : RequestId} {old place : Place}
    {before after : Nat} (hids : ∀ r, r ∈ ids ↔ s.places r ≠ .notArrived)
    (hg : g .notArrived = 0) (hold : s.places r = old)
    (hplaces : t.places = Function.update s.places r place)
    (hbefore : before = ∑ r' ∈ ids, g (s.places r')) (hmove : after + g old = before + g place) :
    after = ∑ r' ∈ insert r ids, g (t.places r') := by
  have hsum := sum_update (Finset.mem_insert_self r ids) g s.places place
  rw [← hplaces, hold, sum_insert_arrived hids hg, ← hbefore, ← hmove] at hsum
  exact (Nat.add_right_cancel hsum).symm

theorem Accounted.step {ids : Finset RequestId} (hs : Accounted ids s)
    (h : (system config).step s a = some t) : ∃ ids, Accounted ids t := by
  cases books_of_step h with
  | idle hplaces hrequests hsizes =>
      refine ⟨ids, ?_, ?_, ?_⟩
      · rw [hplaces]
        exact hs.arrived
      · rw [hplaces, hrequests]
        exact hs.requests
      · rw [hplaces, hsizes]
        exact hs.sizes
  | @moves r old place hold hplaces hnew hrequests hsizes =>
      refine ⟨insert r ids, ?_, ?_, ?_⟩
      · intro r'
        rw [Finset.mem_insert, hs.arrived, hplaces]
        by_cases hr : r' = r
        · subst hr
          rw [Function.update_self]
          exact ⟨fun _ => hnew, fun _ => Or.inl rfl⟩
        · rw [Function.update_of_ne hr, or_iff_right hr]
      · intro result
        exact sum_moves hs.arrived rfl hold hplaces (hs.requests result) (hrequests result)
      · intro size
        exact sum_moves hs.arrived rfl hold hplaces (hs.sizes size) (hsizes size)

theorem accounted_of_exec (h : (system config).exec {} acts = some s) : ∃ ids, Accounted ids s :=
  exec_invariant (P := fun s => ∃ ids, Accounted ids s) (fun ⟨_, hs⟩ hstep => hs.step hstep)
    ⟨∅, Accounted.init⟩ h

/-- **The metrics are the requests.**  In every run, with any number of requests at
    once: finitely many requests have arrived; each counter is the number of those
    that were counted with its result; and each size was observed as often as data of
    this size was sent. -/
theorem requests_accounted (h : (system config).exec {} acts = some s) :
    ∃ ids : Finset RequestId, (∀ r, r ∈ ids ↔ s.places r ≠ .notArrived) ∧
      (∀ result, s.assetRequests result
        = (ids.filter fun r => (s.places r).counted = some result).card) ∧
      ∀ size, s.responseSizes.count size
        = (ids.filter fun r => (s.places r).observed = some size).card := by
  obtain ⟨ids, hs⟩ := accounted_of_exec h
  refine ⟨ids, hs.arrived, ?_, ?_⟩
  · intro result
    rw [hs.requests, Finset.card_filter]
    rfl
  · intro size
    rw [hs.sizes, Finset.card_filter]
    rfl

/-- One request is answered with a byte, and one with 400. -/
def oneServedOneMalformed : List Action :=
  connect 1 ++ ask 1 0 ++ upload 1 ++ finish 1 0 ++ [.request 1, .parseId 1, .count 1]

theorem requests_accounted_oneServedOneMalformed :
    ∃ s, (system oneGame).exec {} oneServedOneMalformed = some s ∧
      s.responseSizes = [1] ∧ s.assetRequests .malformed = 1 ∧
      ∃ ids : Finset RequestId, (∀ r, r ∈ ids ↔ s.places r ≠ .notArrived) ∧
        s.assetRequests .success
          = (ids.filter fun r => (s.places r).counted = some .success).card := by
  have hrun : (system oneGame).exec {} oneServedOneMalformed = some _ := rfl
  obtain ⟨ids, harrived, hcounted, -⟩ := requests_accounted hrun
  exact ⟨_, hrun, rfl, rfl, ids, harrived, hcounted .success⟩

end AmbientProxy.HttpInterface
