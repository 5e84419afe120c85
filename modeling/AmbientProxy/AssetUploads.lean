import AmbientProxy.AssetAccounting

/-! # Uploads — what it takes to change the store

    The upload task of `ProxyServer::handle_uni` in `src/server.rs` reads its stream to
    the end, with the announced length as the limit:

        length > ASSET_SIZE_LIMIT?       give up
        read_to_end(length)              longer, reset or lost: give up
        decompress                       fails: give up
        fetch_add, store

    A stream that finishes with fewer bytes than announced passes.

    * `allOrNothing_iff` — an upload changes the store for a complete stream only, and
      then by exactly its data, for exactly the streams that are not cut short;
    * `not_allOrNothing_shortUpload` — what a cut stream brings is stored as the asset. -/

namespace AmbientProxy.Assets

open Transition

variable {gunzip : Bytes → Option Bytes} {s t m n : State} {a : Action} {acts : List Action}
  {r r' : RecvStream} {u : UploadId} {key : Str} {length : UInt32} {compression : Str}
  {upload : Upload} {data : Bytes}

/-! ## Complete streams and cut ones -/

/-- The stream announces an asset that the proxy accepts, and finishes with exactly as
    many bytes as announced; `data` is what they decode to. -/
def Complete (gunzip : Bytes → Option Bytes) (r : RecvStream) (key : Str) (data : Bytes) : Prop :=
  ∃ length compression r',
    ProxyServer.readHeader r = .ok (.storeAsset key length compression, r') ∧
      (compression = NO_COMPRESSION ∨ compression = GZIP_COMPRESSION) ∧
      length ≤ ASSET_SIZE_LIMIT ∧ r'.ending = .finished ∧ r'.bytes.length = length.toNat ∧
      decoded gunzip compression r'.bytes = some data

/-- The stream announces an asset that the proxy accepts, and finishes with fewer bytes
    than announced, which can be decoded all the same. -/
def CutShort (gunzip : Bytes → Option Bytes) (r : RecvStream) : Prop :=
  ∃ key length compression r',
    ProxyServer.readHeader r = .ok (.storeAsset key length compression, r') ∧
      (compression = NO_COMPRESSION ∨ compression = GZIP_COMPRESSION) ∧
      length ≤ ASSET_SIZE_LIMIT ∧ r'.ending = .finished ∧ r'.bytes.length < length.toNat ∧
      (decoded gunzip compression r'.bytes).isSome = true

/-- What has arrived for a task is what its stream brought. -/
def Upload.From (gunzip : Bytes → Option Bytes) (r : RecvStream) (upload : Upload) : Prop :=
  ∃ r', ProxyServer.readHeader r
      = .ok (.storeAsset upload.key upload.length upload.compression, r') ∧
    checkStoreAsset upload.length upload.compression = .ok () ∧
    match upload.task with
    | .readToEnd rest => rest = r'
    | .fetchAdd data | .store data =>
        receive gunzip upload.length upload.compression r' = some data
    | .ended => True

/-- The task that `u` names, if there is one, is that of the stream. -/
def Follows (gunzip : Bytes → Option Bytes) (r : RecvStream) (u : UploadId) (s : State) : Prop :=
  ∀ upload, s.uploads u = some upload → upload.From gunzip r

/-- Data that was received from a stream that is not cut short is all that it brings. -/
theorem complete_of_receive {r' : RecvStream}
    (hread : ProxyServer.readHeader r = .ok (.storeAsset key length compression, r'))
    (hcheck : checkStoreAsset length compression = .ok ()) (hcut : ¬ CutShort gunzip r)
    (hreceive : receive gunzip length compression r' = some data) : Complete gunzip r key data := by
  obtain ⟨hcompression, hlimit⟩ := checkStoreAsset_eq_ok_iff.mp hcheck
  obtain ⟨hfinished, hle, hdecoded⟩ := receive_eq_some_iff.mp hreceive
  refine ⟨length, compression, r', hread, hcompression, hlimit, hfinished, ?_, hdecoded⟩
  by_contra hne
  refine hcut ⟨key, length, compression, r', hread, hcompression, hlimit, hfinished,
    Nat.lt_of_le_of_ne hle hne, ?_⟩
  rw [hdecoded]
  rfl

/-- Only the tasks' own steps move them on. -/
theorem Follows.step (hs : Follows gunzip r u s) (hnew : ∀ r', a ≠ .acceptUni u r')
    (h : (system gunzip).step s a = some t) : Follows gunzip r u t := by
  intro upload hupload
  have hmoved : ∀ {v : UploadId} {old new : Upload}, s.uploads v = some old →
      t.uploads = Function.update s.uploads v (some new) →
      (old.From gunzip r → new.From gunzip r) → upload.From gunzip r := by
    intro v old new hold huploads hgoes
    rw [huploads] at hupload
    by_cases hne : u = v
    · subst hne
      rw [Function.update_self] at hupload
      cases hupload
      exact hgoes (hs old hold)
    · rw [Function.update_of_ne hne] at hupload
      exact hs upload hupload
  cases uploadStep_of_step h with
  | @acceptUni v r' _ =>
      have hne : u ≠ v := by
        rintro rfl
        exact hnew r' rfl
      have hold : s.uploads u = some upload := (Function.update_of_ne hne ..).symm.trans hupload
      exact hs upload hold
  | received hu htask hdata =>
      refine hmoved hu rfl ?_
      rintro ⟨r', hread, hcheck, hrest⟩
      rw [htask] at hrest
      exact ⟨r', hread, hcheck, hrest ▸ hdata⟩
  | notReceived hu _ =>
      refine hmoved hu rfl ?_
      rintro ⟨r', hread, hcheck, -⟩
      exact ⟨r', hread, hcheck, trivial⟩
  | fetchAdd hu htask =>
      refine hmoved hu rfl ?_
      rintro ⟨r', hread, hcheck, hrest⟩
      rw [htask] at hrest
      exact ⟨r', hread, hcheck, hrest⟩
  | store hu _ =>
      refine hmoved hu rfl ?_
      rintro ⟨r', hread, hcheck, -⟩
      exact ⟨r', hread, hcheck, trivial⟩
  | request _ _ _ huploads _ _ _ => exact hs upload (huploads ▸ hupload)

theorem follows_of_exec (hnew : ∀ r', .acceptUni u r' ∉ acts)
    (h : (system gunzip).exec s (.acceptUni u r :: acts) = some t) : Follows gunzip r u t := by
  obtain ⟨m, hm, hrest⟩ := exec_cons_iff.mp h
  have hm' : Follows gunzip r u m := by
    intro upload hupload
    cases step_cases hm with
    | acceptUni _ =>
        change Function.update s.uploads u (spawnUpload r) u = some upload at hupload
        rw [Function.update_self] at hupload
        obtain ⟨key, length, compression, r', hread, hcheck, rfl⟩ :=
          spawnUpload_eq_some_iff.mp hupload
        exact ⟨r', hread, hcheck, rfl⟩
  refine exec_invariant_along (P := Follows gunzip r u) (C := fun _ a => ∀ r', a ≠ .acceptUni u r')
    Follows.step hm' (along_of_forall_mem ?_) hrest
  rintro a ha _ r' rfl
  exact hnew r' ha

/-! ## All or nothing -/

/-- The steps of the task that `u` names. -/
def Action.ofTask (u : UploadId) (a : Action) : Prop :=
  (∃ upgraded, a = .readToEnd u upgraded) ∨ a = .fetchAdd u ∨ a = .store u

theorem ofTask_fetchAdd {v : UploadId} : (Action.fetchAdd v).ofTask u ↔ v = u := by
  simp [Action.ofTask]

theorem ofTask_store {v : UploadId} : (Action.store v).ofTask u ↔ v = u := by
  simp [Action.ofTask]

/-- The step counts the data, or stores it, and does nothing else to the store. -/
def Stores (key : Str) (data : Bytes) (m n : State) : Prop :=
  n.totalAssetsSize = (m.totalAssetsSize + data.length) % 2 ^ 64 ∧ n.assetStore = m.assetStore ∨
    n.totalAssetsSize = m.totalAssetsSize ∧
      n.assetStore = m.assetStore.insert key ((m.asset key).store data)

/-- Handling the stream changes the store for a complete stream only, and then by its
    data: whatever runs in between, each step of its task changes nothing, or counts or
    stores the data of a complete stream under its key; and the task of a complete stream
    counts its data and stores it. -/
structure AllOrNothing (gunzip : Bytes → Option Bytes) (r : RecvStream) : Prop where
  accepted : ∀ s u t, (system gunzip).step s (.acceptUni u r) = some t →
    t.totalAssetsSize = s.totalAssetsSize ∧ t.assetStore = s.assetStore
  only : ∀ s u acts m a n, (∀ r', .acceptUni u r' ∉ acts) →
    (system gunzip).exec s (.acceptUni u r :: acts) = some m →
    (system gunzip).step m a = some n → a.ofTask u →
    n.totalAssetsSize = m.totalAssetsSize ∧ n.assetStore = m.assetStore ∨
      ∃ key data, Complete gunzip r key data ∧ Stores key data m n
  stored : ∀ s u key data, s.uploads u = none → Complete gunzip r key data →
    ∃ t, (system gunzip).exec s (uploadAll u r) = some t ∧
      t.totalAssetsSize = (s.totalAssetsSize + data.length) % 2 ^ 64 ∧
      t.assetStore = s.assetStore.insert key ((s.asset key).store data)

/-- A step of the task of a stream that is not cut short. -/
theorem stores_of_follows (hs : Follows gunzip r u m) (hcut : ¬ CutShort gunzip r)
    (h : (system gunzip).step m a = some n) (ha : a.ofTask u) :
    n.totalAssetsSize = m.totalAssetsSize ∧ n.assetStore = m.assetStore ∨
      ∃ key data, Complete gunzip r key data ∧ Stores key data m n := by
  cases step_cases h with
  | received _ _ | notReceived _ => exact Or.inl ⟨rfl, rfl⟩
  | fetchAdd hu =>
      rename_i v key length compression data
      cases ofTask_fetchAdd.mp ha
      obtain ⟨r', hread, hcheck, hreceive⟩ := hs _ hu
      exact Or.inr ⟨key, data, complete_of_receive hread hcheck hcut hreceive, Or.inl ⟨rfl, rfl⟩⟩
  | store hu =>
      rename_i v key length compression data
      cases ofTask_store.mp ha
      obtain ⟨r', hread, hcheck, hreceive⟩ := hs _ hu
      exact Or.inr ⟨key, data, complete_of_receive hread hcheck hcut hreceive, Or.inr ⟨rfl, rfl⟩⟩
  | _ => rcases ha with ⟨_, h⟩ | h | h <;> cases h

/-- A stream that the checks let through, and whose bytes are received, is counted and
    stored. -/
theorem exec_uploadAll {r' : RecvStream} (hu : s.uploads u = none)
    (hread : ProxyServer.readHeader r = .ok (.storeAsset key length compression, r'))
    (hcheck : checkStoreAsset length compression = .ok ())
    (hreceive : receive gunzip length compression r' = some data) :
    ∃ m t, (system gunzip).exec s [.acceptUni u r, .readToEnd u true, .fetchAdd u] = some m ∧
      (system gunzip).step m (.store u) = some t ∧ m.assetStore = s.assetStore ∧
      t.totalAssetsSize = (s.totalAssetsSize + data.length) % 2 ^ 64 ∧
      t.assetStore = s.assetStore.insert key ((s.asset key).store data) := by
  have hspawn : spawnUpload r = some ⟨key, length, compression, .readToEnd r'⟩ :=
    spawnUpload_eq_some_iff.mpr ⟨key, length, compression, r', hread, hcheck, rfl⟩
  have haccept : (system gunzip).step s (.acceptUni u r)
      = some (s.setUpload u ⟨key, length, compression, .readToEnd r'⟩) := by
    show step gunzip s (.acceptUni u r) = _
    rw [step, hu, hspawn]
    rfl
  obtain ⟨m, t, hm, hrest⟩ := exec_upload (State.uploads_setUpload_self s u _) hreceive
  exact ⟨m, t, exec_cons_iff.mpr ⟨_, haccept, hm⟩, hrest⟩

/-- **An upload is all or nothing exactly where its stream is not cut short.**  For every
    stream and every decoder: in every run, the task of the stream changes the store only
    where the compression is known, the length within the limit, the stream finished with
    exactly as many bytes and the decoding successful, and then by exactly the data, if
    and only if the stream does not finish with fewer bytes than announced that can be
    decoded all the same. -/
theorem allOrNothing_iff (gunzip : Bytes → Option Bytes) (r : RecvStream) :
    AllOrNothing gunzip r ↔ ¬ CutShort gunzip r := by
  constructor
  · rintro hall ⟨key, length, compression, r', hread, hcompression, hlimit, hfinished, hshort,
      hdecoded⟩
    obtain ⟨data, hdata⟩ := Option.isSome_iff_exists.mp hdecoded
    have hreceive : receive gunzip length compression r' = some data :=
      receive_eq_some_iff.mpr ⟨hfinished, Nat.le_of_lt hshort, hdata⟩
    obtain ⟨m, t, hm, ht, hstore, -, hstored⟩ := exec_uploadAll (s := {}) (u := 0) rfl hread
      (checkStoreAsset_eq_ok_iff.mpr ⟨hcompression, hlimit⟩) hreceive
    rcases hall.only {} 0 _ m (.store 0) t (by simp) hm ht (Or.inr (Or.inr rfl)) with
      ⟨-, hsame⟩ | ⟨_, _, hcomplete, -⟩
    · -- nothing was stored before, and now something is
      have hempty : m.assetStore.keys = [] := by
        rw [hstore]
        rfl
      rw [← hsame, hstored, AList.keys_insert] at hempty
      cases hempty
    · obtain ⟨_, _, _, hread', -, -, -, hexact, -⟩ := hcomplete
      cases hread.symm.trans hread'
      omega
  · intro hcut
    constructor
    · intro s u t h
      cases step_cases h with
      | acceptUni _ => exact ⟨rfl, rfl⟩
    · intro s u acts m a n hnew hm h ha
      exact stores_of_follows (follows_of_exec hnew hm) hcut h ha
    · rintro s u key data hu ⟨length, compression, r', hread, hcompression, hlimit, hfinished,
        hexact, hdecoded⟩
      obtain ⟨m, t, hm, ht, -, htotal, hstored⟩ := exec_uploadAll hu hread
        (checkStoreAsset_eq_ok_iff.mpr ⟨hcompression, hlimit⟩)
        (receive_eq_some_iff.mpr ⟨hfinished, Nat.le_of_eq hexact, hdecoded⟩)
      exact ⟨t, exec_snoc_iff.mpr ⟨m, hm, ht⟩, htotal, hstored⟩

/-- A stream that announces two bytes under the key `a` and finishes after one. -/
def shortUpload : RecvStream :=
  let header := ClientStreamHeader.storeAsset Str.a 2 NO_COMPRESSION
  ⟨[framed ClientStreamHeader.codec header, [0x07]], .finished⟩

/-- **One byte of two is stored as the asset.** -/
theorem not_allOrNothing_shortUpload :
    (∃ s, (system some).exec {} (uploadAll 0 shortUpload) = some s ∧
      (s.asset Str.a).data = some [0x07] ∧ s.totalAssetsSize = 1) ∧
    ProxyServer.readHeader shortUpload
      = .ok (.storeAsset Str.a 2 NO_COMPRESSION, ⟨[[0x07]], .finished⟩) ∧
    ¬ AllOrNothing some shortUpload := by
  refine ⟨⟨_, rfl, rfl, rfl⟩, rfl, ?_⟩
  intro hall
  have hrun : (system some).exec {} [.acceptUni 0 shortUpload, .readToEnd 0 true] = some _ := rfl
  rcases hall.only {} 0 _ _ (.fetchAdd 0) _ (by simp) hrun rfl (Or.inr (Or.inl rfl)) with
    ⟨htotal, -⟩ | ⟨key, data, hcomplete, -⟩
  · cases htotal
  · obtain ⟨length, compression, r', hread, -, -, -, hexact, -⟩ := hcomplete
    have hread' : ProxyServer.readHeader shortUpload
        = .ok (.storeAsset Str.a 2 NO_COMPRESSION, ⟨[[0x07]], .finished⟩) := rfl
    cases hread.symm.trans hread'
    cases hexact

end AmbientProxy.Assets
