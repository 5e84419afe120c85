import AmbientProxy.AssetAccounting
import AmbientProxy.AssetRequests

/-! # The number of assets — what the entries of the map are

    `ProxyServer::stats` of `src/server.rs` reports the number of entries of the map as
    the number of assets.  A request for an asset that is not there makes an entry too:

        get_asset                        stats
        asset_store.entry(id)
          .or_default()                  -- an entry without data
                                         total_assets_count: asset_store.len()

    * `found_iff_count` — the number is that of the keys that hold data, and of those
      that were stored, in exactly the runs in which every request that looks finds
      data;
    * `count_neverStored` — one request for a key that nobody ever stores, and it is 1. -/

namespace AmbientProxy.Assets

open Transition

variable {gunzip : Bytes → Option Bytes} {s t : State} {a : Action} {acts : List Action}

/-! ## The keys that hold data -/

/-- The keys under which the store holds data. -/
def State.heldKeys (s : State) : Finset Str :=
  s.assetStore.keys.toFinset.filter fun key => (s.asset key).data.isSome = true

/-- What `stats` reports. -/
def State.count (s : State) : Nat := (ProxyServer.stats {} s).totalAssetsCount

theorem State.mem_heldKeys {key : Str} :
    key ∈ s.heldKeys ↔ (s.asset key).data.isSome = true := by
  rw [heldKeys, Finset.mem_filter, List.mem_toFinset]
  refine and_iff_right_of_imp fun hsome => ?_
  rw [← AList.mem_keys, ← AList.lookup_isSome]
  cases hlookup : s.assetStore.lookup key with
  | some _ => rfl
  | none =>
      have hdefault : s.asset key = default := by
        show (s.assetStore.lookup key).getD default = default
        rw [hlookup]
        rfl
      rw [hdefault] at hsome
      cases hsome

/-- The number of entries is that of the keys with data where every entry has data. -/
theorem State.count_eq_iff :
    s.count = s.heldKeys.card ↔ ∀ key ∈ s.assetStore.keys, (s.asset key).data.isSome = true := by
  have hcount : s.count = s.assetStore.keys.toFinset.card :=
    (List.toFinset_card_of_nodup s.assetStore.keys_nodup).symm
  rw [hcount, heldKeys, eq_comm, Finset.card_filter_eq_iff]
  simp only [List.mem_toFinset]

/-! ## The keys that were stored -/

/-- The key under which a step stores data. -/
def storedBy (s : State) : Action → Finset Str
  | .store u => (s.uploads u).elim ∅ fun upload => {upload.key}
  | _ => ∅

/-- The keys under which a run stores data. -/
def storedKeys (gunzip : Bytes → Option Bytes) : State → List Action → Finset Str
  | _, [] => ∅
  | s, a :: acts =>
      storedBy s a ∪ (step gunzip s a).elim ∅ fun t => storedKeys gunzip t acts

theorem heldKeys_step (h : (system gunzip).step s a = some t) :
    t.heldKeys = s.heldKeys ∪ storedBy s a := by
  ext key
  rw [Finset.mem_union, State.mem_heldKeys, State.mem_heldKeys]
  cases uploadStep_of_step h with
  | acceptUni _ | received _ _ _ | notReceived _ _ | fetchAdd _ _ =>
      exact (or_iff_left (Finset.notMem_empty key)).symm
  | store hu _ =>
      rename_i u upload data
      rw [State.asset_setUpload, State.asset_setAsset, storedBy, hu, Option.elim_some,
        Finset.mem_singleton]
      split
      · rename_i hkey
        exact ⟨fun _ => Or.inr hkey, fun _ => rfl⟩
      · rename_i hkey
        exact (or_iff_left hkey).symm
  | request _ _ hstore _ _ _ hdata =>
      rw [hdata]
      have hnone : storedBy s a = ∅ := by
        cases a with
        | store u => exact absurd rfl (hstore u)
        | _ => rfl
      rw [hnone]
      exact (or_iff_left (Finset.notMem_empty key)).symm

/-- **A key holds data where it did, or where the run stored some.** -/
theorem heldKeys_exec (h : (system gunzip).exec s acts = some t) :
    t.heldKeys = s.heldKeys ∪ storedKeys gunzip s acts := by
  induction acts generalizing s with
  | nil =>
      cases Option.some.inj h
      exact (Finset.union_empty _).symm
  | cons a acts ih =>
      obtain ⟨m, hm, hrest⟩ := exec_cons_iff.mp h
      have hstep : step gunzip s a = some m := hm
      rw [ih hrest, heldKeys_step hm, storedKeys, hstep, Finset.union_assoc]
      rfl

/-! ## Requests -/

/-- A request that looks at its entry finds data. -/
def Found (s : State) (a : Action) : Prop :=
  ∀ c call, a = .checkEntry c → s.calls c = some call →
    (s.asset call.assetId).data.isSome = true

/-- The steps of requests. -/
def Action.ofRequest : Action → Prop
  | .getAsset _ _ _ | .testDeadline _ | .checkEntry _ | .createNotified _ | .pollNotified _
  | .deadlinePasses _ | .cancel _ => True
  | _ => False

/-- Every entry has data, and no request waits for any. -/
structure Full (s : State) : Prop where
  keys : ∀ key ∈ s.assetStore.keys, (s.asset key).data.isSome = true
  calls : ∀ c call, s.calls c = some call → ¬ call.place.Waits

theorem Full.init : Full {} := ⟨nofun, nofun⟩

theorem checkEntry_assetStore (s : State) (c : CallId) (call : Call) :
    (checkEntry s c call).assetStore
      = s.assetStore.insert call.assetId (s.asset call.assetId) := by
  obtain ⟨requests, call', heq, -⟩ := checkEntry_eq s c call
  rw [heq]
  rfl

/-- An entry that has data is written. -/
theorem Full.keys_insert (hs : Full s) {key : Str} {asset : Asset}
    (hsome : asset.data.isSome = true) :
    ∀ key' ∈ (s.setAsset key asset).assetStore.keys,
      ((s.setAsset key asset).asset key').data.isSome = true := by
  intro key' hmem
  rw [State.asset_setAsset]
  split
  · exact hsome
  · rename_i hne
    rw [← AList.mem_keys] at hmem
    rcases (AList.mem_insert s.assetStore).mp hmem with heq | hold
    · exact absurd heq hne
    · exact hs.keys key' (AList.mem_keys.mp hold)

/-- A call moves to a place at which it does not wait. -/
theorem Full.move (hs : Full s) {c : CallId} {call : Call} (hcall : ¬ call.place.Waits)
    (hcalls : t.calls = Function.update s.calls c (some call))
    (hkeys : ∀ key ∈ t.assetStore.keys, (t.asset key).data.isSome = true) : Full t := by
  refine ⟨hkeys, ?_⟩
  intro c' call' hc'
  rcases call_of_update hcalls hc' with ⟨-, rfl⟩ | ⟨-, hold⟩
  · exact hcall
  · exact hs.calls c' call' hold

theorem Full.step (hs : Full s) (ha : Found s a) (h : (system gunzip).step s a = some t) :
    Full t := by
  cases step_cases h with
  | acceptUni _ | received _ _ | notReceived _ | fetchAdd _ | dropReceiver | tick =>
      exact ⟨hs.keys, hs.calls⟩
  | store _ => exact ⟨hs.keys_insert rfl, hs.calls⟩
  | getAsset _ => exact hs.move id rfl hs.keys
  | testDeadline _ =>
      refine hs.move ?_ rfl hs.keys
      split <;> exact id
  | checkEntry hc =>
      rename_i c assetId deadline requested
      have hsome : (s.asset assetId).data.isSome = true := ha c _ rfl hc
      obtain ⟨hasset, -, -⟩ := checkEntry_spec s c ⟨assetId, deadline, requested, .checkEntry⟩
      obtain ⟨call', hcalls, -, hgoes⟩ :=
        goes_checkEntry s c ⟨assetId, deadline, requested, .checkEntry⟩ rfl
      cases hgoes with
      | found _ _ =>
          refine hs.move id hcalls ?_
          intro key hmem
          rw [checkEntry_assetStore, ← AList.mem_keys] at hmem
          rw [hasset]
          rcases (AList.mem_insert s.assetStore).mp hmem with rfl | hold
          · exact hsome
          · exact hs.keys key (AList.mem_keys.mp hold)
      | missing _ hnone _ | notSent _ hnone _ _ =>
          rw [hnone] at hsome
          cases hsome
  | createNotified hc | pollNotified hc | deadlinePasses hc _ | cancel hc =>
      exact absurd trivial (hs.calls _ _ hc)

/-- A request that looks and finds nothing leaves an entry without data. -/
theorem count_ne_of_not_found (ha : ¬ Found s a) (h : (system gunzip).step s a = some t) :
    t.count ≠ t.heldKeys.card := by
  rw [Found] at ha
  push Not at ha
  obtain ⟨c, call, rfl, hcall, hnone⟩ := ha
  rw [Ne, State.count_eq_iff]
  intro hall
  cases step_cases h with
  | checkEntry hc =>
      rename_i assetId deadline requested
      cases hcall.symm.trans hc
      obtain ⟨hasset, -, -⟩ := checkEntry_spec s c ⟨assetId, deadline, requested, .checkEntry⟩
      have hmem : assetId
          ∈ (checkEntry s c ⟨assetId, deadline, requested, .checkEntry⟩).assetStore.keys := by
        rw [checkEntry_assetStore, ← AList.mem_keys]
        exact (AList.mem_insert s.assetStore).mpr (Or.inl rfl)
      have hsome := hall assetId hmem
      rw [hasset] at hsome
      exact hnone hsome

/-- A step of a request stores nothing. -/
theorem storedBy_ofRequest (ha : a.ofRequest) : storedBy s a = ∅ := by
  cases a with
  | store u => exact ha.elim
  | _ => rfl

/-- **The number of assets is that of the keys with data in exactly the runs in which
    every request that looks finds data.**  For every run: in all states on its way
    `total_assets_count` is the number of keys that hold data, these are the keys that
    were stored so far, and the steps of requests leave the number as it is, if and only
    if no step of the run is that of a request which looks at an entry without data. -/
theorem found_iff_count (h : (system gunzip).exec {} acts = some s) :
    Along (system gunzip) Found {} acts ↔
      (∀ pre m, pre <+: acts → (system gunzip).exec {} pre = some m →
        m.count = m.heldKeys.card ∧ m.count = (storedKeys gunzip {} pre).card) ∧
      ∀ pre a m n, pre ++ [a] <+: acts → (system gunzip).exec {} pre = some m →
        (system gunzip).step m a = some n → a.ofRequest → n.count = m.count := by
  have hheld : ∀ {pre m}, (system gunzip).exec {} pre = some m →
      m.heldKeys = storedKeys gunzip {} pre := by
    intro pre m hm
    rw [heldKeys_exec hm]
    exact Finset.empty_union _
  have hiff : Along (system gunzip) Found {} acts ↔
      ∀ pre m, pre <+: acts → (system gunzip).exec {} pre = some m →
        m.count = m.heldKeys.card :=
    along_iff_forall_prefix Full.step (fun hs => State.count_eq_iff.mpr hs.keys)
      (fun _ ha hstep => count_ne_of_not_found ha hstep) Full.init h
  rw [hiff]
  constructor
  · intro hcount
    refine ⟨fun pre m hpre hm => ?_, ?_⟩
    · have hm' := hcount pre m hpre hm
      exact ⟨hm', by rw [hm', hheld hm]⟩
    · intro pre a m n hpre hm hstep ha
      have hn := exec_snoc_iff.mpr ⟨m, hm, hstep⟩
      rw [hcount (pre ++ [a]) n hpre hn, hcount pre m ((List.prefix_append pre [a]).trans hpre) hm,
        heldKeys_step hstep, storedBy_ofRequest ha, Finset.union_empty]
  · intro hcount pre m hpre hm
    exact (hcount.1 pre m hpre hm).1

/-- One call for a key that is never stored. -/
def neverStored : List Action := [.getAsset 0 Str.a 10, .testDeadline 0, .checkEntry 0]

theorem found_iff_count_neverStored :
    ∃ s, (system some).exec {} neverStored = some s ∧
      (Along (system some) Found {} neverStored ↔
        (∀ pre m, pre <+: neverStored → (system some).exec {} pre = some m →
          m.count = m.heldKeys.card ∧ m.count = (storedKeys some {} pre).card) ∧
        ∀ pre a m n, pre ++ [a] <+: neverStored → (system some).exec {} pre = some m →
          (system some).step m a = some n → a.ofRequest → n.count = m.count) :=
  ⟨_, rfl, found_iff_count rfl⟩

/-- **A request for a key that is never stored counts as an asset.** -/
theorem count_neverStored :
    ∃ m s, (system some).exec {} (neverStored.take 2) = some m ∧
      (ProxyServer.stats {} m).totalAssetsCount = 0 ∧
      (system some).step m (.checkEntry 0) = some s ∧
      (ProxyServer.stats {} s).totalAssetsCount = 1 ∧
      s.heldKeys = ∅ ∧ storedKeys some {} neverStored = ∅ :=
  ⟨_, _, rfl, rfl, rfl, rfl, rfl, rfl⟩

end AmbientProxy.Assets
