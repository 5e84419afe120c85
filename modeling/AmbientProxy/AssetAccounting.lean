import AmbientProxy.Lib.Totals
import AmbientProxy.ProxyServer

/-! # The size of the asset store — what the counter counts, and what the limit limits

    `src/server.rs`: an upload task adds the length of its data to
    `total_assets_size` and then puts the data into the map; the limit on the size
    of an asset is checked against the length field of the header, before the data
    is received and decompressed.

        total_assets_size.fetch_add(data.len())
        asset_store.entry(key).or_default().store(data)

    * `total_eq_held_iff` — between uploads the counter is the size of what the store
      holds in exactly the runs that never replace data: nothing is ever subtracted;
    * `decompressesWithinLimit_iff` — the store holds no data over the limit in exactly the runs
      in which no upload decompresses to more than it. -/

namespace AmbientProxy.Assets

open Transition Totals

variable {gunzip : Bytes → Option Bytes} {s t : State} {a : Action} {acts : List Action}

/-! ## What the store holds -/

/-- The length of the data of an entry. -/
def Asset.size (asset : Asset) : Nat := asset.data.elim 0 List.length

/-- The lengths of the data of all entries. -/
def State.heldSize (s : State) : Nat := total Asset.size s.assetStore

/-- The length of the data that a task has counted and not yet stored. -/
def UploadTask.countedSize : UploadTask → Nat
  | .store data => data.length
  | _ => 0

/-- The same of a name that may stand for a task. -/
def countedSize (upload : Option Upload) : Nat :=
  upload.elim 0 fun upload => upload.task.countedSize

/-- No upload task is between its `fetch_add` and its `store`. -/
def Quiet (s : State) : Prop :=
  ∀ u upload data, s.uploads u = some upload → upload.task ≠ .store data

theorem State.size_asset (s : State) (key : Str) :
    (s.asset key).size = (s.assetStore.lookup key).elim 0 Asset.size := by
  show (((s.assetStore.lookup key).getD default : Asset)).size = _
  cases s.assetStore.lookup key with
  | none => rfl
  | some asset => rfl

/-- A write to an entry. -/
theorem State.heldSize_setAsset (s : State) (key : Str) (asset : Asset) :
    (s.setAsset key asset).heldSize + (s.asset key).size = s.heldSize + asset.size := by
  rw [s.size_asset]
  exact total_insert Asset.size s.assetStore key asset

/-- A write that leaves the data of the entry as it is. -/
theorem State.heldSize_setAsset_of_data (s : State) {key : Str} {asset : Asset}
    (h : asset.data = (s.asset key).data) : (s.setAsset key asset).heldSize = s.heldSize := by
  have hwrite := s.heldSize_setAsset key asset
  have hsize : asset.size = (s.asset key).size := by rw [Asset.size, h, ← Asset.size]
  omega

/-! ## The steps of the upload tasks -/

/-- A step as the upload tasks see it: it is one of theirs, or it leaves the tasks,
    the counter and all data as they are. -/
inductive UploadStep (gunzip : Bytes → Option Bytes) (s : State) : Action → State → Prop where
  | acceptUni {u : UploadId} {r : RecvStream} (h : s.uploads u = none) :
      UploadStep gunzip s (.acceptUni u r)
        { s with uploads := Function.update s.uploads u (spawnUpload r) }
  | received {u : UploadId} {upload : Upload} {r : RecvStream} {data : Bytes}
      (h : s.uploads u = some upload) (htask : upload.task = .readToEnd r)
      (hdata : receive gunzip upload.length upload.compression r = some data) :
      UploadStep gunzip s (.readToEnd u true) (s.setUpload u { upload with task := .fetchAdd data })
  | notReceived {u : UploadId} {upload : Upload} {r : RecvStream} {upgraded : Bool}
      (h : s.uploads u = some upload) (htask : upload.task = .readToEnd r) :
      UploadStep gunzip s (.readToEnd u upgraded) (s.setUpload u { upload with task := .ended })
  | fetchAdd {u : UploadId} {upload : Upload} {data : Bytes}
      (h : s.uploads u = some upload) (htask : upload.task = .fetchAdd data) :
      UploadStep gunzip s (.fetchAdd u)
        ({ s with totalAssetsSize := (s.totalAssetsSize + data.length) % 2 ^ 64 }.setUpload u
          { upload with task := .store data })
  | store {u : UploadId} {upload : Upload} {data : Bytes}
      (h : s.uploads u = some upload) (htask : upload.task = .store data) :
      UploadStep gunzip s (.store u)
        ((s.setAsset upload.key ((s.asset upload.key).store data)).setUpload u
          { upload with task := .ended })
  | request {a : Action} {t : State} (hown : ∀ u r, a ≠ .acceptUni u r)
      (hadd : ∀ u, a ≠ .fetchAdd u)
      (hstore : ∀ u, a ≠ .store u) (huploads : t.uploads = s.uploads)
      (htotal : t.totalAssetsSize = s.totalAssetsSize) (hheld : t.heldSize = s.heldSize)
      (hdata : ∀ key, (t.asset key).data = (s.asset key).data) : UploadStep gunzip s a t

/-- What a call does under the lock changes neither the counter nor what is held. -/
theorem checkEntry_sizes (s : State) (c : CallId) (call : Call) :
    (checkEntry s c call).totalAssetsSize = s.totalAssetsSize ∧
      (checkEntry s c call).heldSize = s.heldSize := by
  obtain ⟨requests, call', heq, -⟩ := checkEntry_eq s c call
  rw [heq]
  exact ⟨rfl, s.heldSize_setAsset_of_data rfl⟩

theorem uploadStep_of_step (h : (system gunzip).step s a = some t) : UploadStep gunzip s a t := by
  cases step_cases h with
  | acceptUni hu => exact .acceptUni hu
  | received hu hdata => exact .received hu rfl hdata
  | notReceived hu => exact .notReceived hu rfl
  | fetchAdd hu => exact .fetchAdd hu rfl
  | store hu => exact .store hu rfl
  | getAsset _ | testDeadline _ | createNotified _ | dropReceiver | tick =>
      exact .request nofun nofun nofun rfl rfl rfl fun _ => rfl
  | checkEntry hc =>
      rename_i c assetId deadline requested
      obtain ⟨hasset, huploads, -⟩ :=
        checkEntry_spec s c ⟨assetId, deadline, requested, .checkEntry⟩
      obtain ⟨htotal, hheld⟩ := checkEntry_sizes s c ⟨assetId, deadline, requested, .checkEntry⟩
      exact .request nofun nofun nofun huploads htotal hheld fun key => by rw [hasset]
  | pollNotified hc =>
      rename_i c assetId deadline requested f
      refine .request nofun nofun nofun rfl rfl ?_ ?_
      · exact s.heldSize_setAsset_of_data rfl
      · exact s.data_setAsset_of_data rfl
  | deadlinePasses hc _ | cancel hc =>
      refine .request nofun nofun nofun rfl rfl ?_ ?_
      · exact s.heldSize_setAsset_of_data rfl
      · exact s.data_setAsset_of_data rfl

/-- Only the stream that starts an upload task makes one. -/
theorem uploads_eq_none (h : (system gunzip).exec s acts = some t) {u : UploadId}
    (hu : s.uploads u = none) (hnew : ∀ r, .acceptUni u r ∉ acts) : t.uploads u = none := by
  induction acts generalizing s with
  | nil =>
      cases Option.some.inj h
      exact hu
  | cons a acts ih =>
      obtain ⟨m, hm, hrest⟩ := exec_cons_iff.mp h
      refine ih hrest ?_ fun r hr => hnew r (List.mem_cons_of_mem a hr)
      have hmove : ∀ {v upload upload'}, s.uploads v = some upload →
          Function.update s.uploads v (some upload') u = none := by
        intro v upload upload' hv
        have hne : u ≠ v := by
          rintro rfl
          exact nomatch hu.symm.trans hv
        rw [Function.update_of_ne hne]
        exact hu
      cases uploadStep_of_step hm with
      | @acceptUni v r _ =>
          have hne : u ≠ v := fun heq => hnew r (heq ▸ List.mem_cons_self)
          show Function.update s.uploads v (spawnUpload r) u = none
          rw [Function.update_of_ne hne]
          exact hu
      | received hv _ _ | notReceived hv _ | fetchAdd hv _ | store hv _ => exact hmove hv
      | request _ _ _ huploads _ _ _ =>
          rw [huploads]
          exact hu

/-! ## What the counter counts -/

/-- No addition takes the counter over its 64 bits. -/
def NoOverflow (s : State) (a : Action) : Prop :=
  ∀ u upload data, a = .fetchAdd u → s.uploads u = some upload →
    upload.task = .fetchAdd data → s.totalAssetsSize + data.length < 2 ^ 64

/-- No data that is longer than nothing is replaced. -/
def ReplacesNothing (s : State) (a : Action) : Prop :=
  ∀ u upload, a = .store u → s.uploads u = some upload → (s.asset upload.key).size = 0

/-- The counter is ahead of the store by what is counted and not yet stored, and by
    `n` bytes more. -/
def Ahead (n : Nat) (s : State) : Prop :=
  ∃ ids : Finset UploadId, (∀ u, u ∉ ids → s.uploads u = none) ∧
    s.totalAssetsSize = s.heldSize + ∑ u ∈ ids, countedSize (s.uploads u) + n

theorem Ahead.init : Ahead 0 {} := ⟨∅, fun _ _ => rfl, rfl⟩

/-- One upload task moves on, and the books stay balanced. -/
theorem Ahead.move {n n' : Nat} {u : UploadId} {upload upload' : Upload} (hs : Ahead n s)
    (hu : s.uploads u = some upload)
    (huploads : t.uploads = Function.update s.uploads u (some upload'))
    (hbalance : t.totalAssetsSize + s.heldSize + upload.task.countedSize + n
      = s.totalAssetsSize + t.heldSize + upload'.task.countedSize + n') : Ahead n' t := by
  obtain ⟨ids, hknown, hcounter⟩ := hs
  have hmem : u ∈ ids := by
    by_contra hu'
    exact nomatch (hknown u hu').symm.trans hu
  have hsum : ∑ v ∈ ids, countedSize (t.uploads v) + upload.task.countedSize
      = ∑ v ∈ ids, countedSize (s.uploads v) + upload'.task.countedSize := by
    have hupdate := sum_update hmem countedSize s.uploads (some upload')
    rw [hu, ← huploads] at hupdate
    exact hupdate
  refine ⟨ids, ?_, by omega⟩
  intro v hv
  have hne : v ≠ u := fun heq => hv (heq ▸ hmem)
  rw [huploads, Function.update_of_ne hne]
  exact hknown v hv

/-- The task of a stream that was just accepted has counted nothing. -/
theorem countedSize_spawnUpload (r : RecvStream) : countedSize (spawnUpload r) = 0 := by
  rw [spawnUpload]
  split
  · split <;> rfl
  · rfl

/-- **What one step does to the books**: a store that replaces data puts the counter
    further ahead, by the length of that data, and no other step does. -/
theorem Ahead.step {n : Nat} (hs : Ahead n s) (hfit : NoOverflow s a)
    (h : (system gunzip).step s a = some t) :
    ∃ n', Ahead n' t ∧ n ≤ n' ∧ (n' = n ↔ ReplacesNothing s a) := by
  cases uploadStep_of_step h with
  | acceptUni hu =>
      rename_i u r
      obtain ⟨ids, hknown, hcounter⟩ := hs
      refine ⟨n, ⟨insert u ids, ?_, ?_⟩, le_refl n, ⟨fun _ => nofun, fun _ => rfl⟩⟩
      · intro v hv
        have hne : v ≠ u := fun heq => hv (heq ▸ Finset.mem_insert_self u ids)
        show Function.update s.uploads u (spawnUpload r) v = none
        rw [Function.update_of_ne hne]
        exact hknown v fun hmem => hv (Finset.mem_insert_of_mem hmem)
      · have hupdate := sum_update (Finset.mem_insert_self u ids) countedSize s.uploads
          (spawnUpload r)
        have hsame : ∑ v ∈ insert u ids, countedSize (s.uploads v)
            = ∑ v ∈ ids, countedSize (s.uploads v) :=
          sum_of_subset (Finset.subset_insert u ids) fun v hv => by rw [hknown v hv]; rfl
        have hnone : countedSize none = 0 := rfl
        rw [hu, countedSize_spawnUpload, hsame, hnone] at hupdate
        show s.totalAssetsSize = s.heldSize
          + ∑ v ∈ insert u ids, countedSize (Function.update s.uploads u (spawnUpload r) v) + n
        omega
  | received hu htask hdata =>
      refine ⟨n, hs.move hu rfl ?_, le_refl n, ⟨fun _ => nofun, fun _ => rfl⟩⟩
      rw [htask]
      rfl
  | notReceived hu htask =>
      refine ⟨n, hs.move hu rfl ?_, le_refl n, ⟨fun _ => nofun, fun _ => rfl⟩⟩
      rw [htask]
      rfl
  | fetchAdd hu htask =>
      rename_i u upload data
      refine ⟨n, hs.move hu rfl ?_, le_refl n, ⟨fun _ => nofun, fun _ => rfl⟩⟩
      show (s.totalAssetsSize + data.length) % 2 ^ 64 + s.heldSize + upload.task.countedSize + n
        = s.totalAssetsSize + s.heldSize + data.length + n
      rw [Nat.mod_eq_of_lt (hfit u upload data rfl hu htask), htask]
      show s.totalAssetsSize + data.length + s.heldSize + 0 + n
        = s.totalAssetsSize + s.heldSize + data.length + n
      omega
  | store hu htask =>
      rename_i u upload data
      have hwrite := s.heldSize_setAsset upload.key ((s.asset upload.key).store data)
      have hnew : ((s.asset upload.key).store data).size = data.length := rfl
      refine ⟨n + (s.asset upload.key).size, hs.move hu rfl ?_, Nat.le_add_right _ _, ?_⟩
      · show s.totalAssetsSize + s.heldSize + upload.task.countedSize + n
          = s.totalAssetsSize + (s.setAsset upload.key ((s.asset upload.key).store data)).heldSize
            + 0 + (n + (s.asset upload.key).size)
        rw [htask, UploadTask.countedSize]
        omega
      · constructor
        · rintro hzero u' upload' heq hu'
          cases heq
          cases hu.symm.trans hu'
          omega
        · intro hnothing
          rw [hnothing u upload rfl hu, Nat.add_zero]
  | request hown hadd hstore huploads htotal hheld hdata =>
      obtain ⟨ids, hknown, hcounter⟩ := hs
      refine ⟨n, ⟨ids, ?_, ?_⟩, le_refl n, fun _ u upload heq => absurd heq (hstore u),
        fun _ => rfl⟩
      · rw [huploads]
        exact hknown
      · rw [huploads, htotal, hheld]
        exact hcounter

/-- What a run does to the books. -/
theorem Ahead.exec {n : Nat} (hs : Ahead n s) (hfit : Along (system gunzip) NoOverflow s acts)
    (h : (system gunzip).exec s acts = some t) :
    ∃ n', Ahead n' t ∧ n ≤ n' ∧ (n' = n ↔ Along (system gunzip) ReplacesNothing s acts) := by
  induction acts generalizing s n with
  | nil =>
      cases Option.some.inj h
      exact ⟨n, hs, le_refl n, ⟨fun _ => trivial, fun _ => rfl⟩⟩
  | cons a acts ih =>
      obtain ⟨m, hm, hrest⟩ := exec_cons_iff.mp h
      obtain ⟨n₁, hs₁, hle₁, hiff₁⟩ := hs.step hfit.1 hm
      obtain ⟨n₂, hs₂, hle₂, hiff₂⟩ := ih hs₁ (hfit.2 m hm) hrest
      refine ⟨n₂, hs₂, le_trans hle₁ hle₂, ?_⟩
      constructor
      · intro heq
        refine ⟨hiff₁.mp (by omega), fun m' hm' => ?_⟩
        cases Option.some.inj (hm.symm.trans hm')
        exact hiff₂.mp (by omega)
      · rintro ⟨hnothing, halong⟩
        rw [hiff₂.mpr (halong m hm), hiff₁.mpr hnothing]

/-- Where no task is between `fetch_add` and `store`, nothing is counted that is not
    stored. -/
theorem Quiet.sum_countedSize (hs : Quiet s) (ids : Finset UploadId) :
    ∑ u ∈ ids, countedSize (s.uploads u) = 0 := by
  refine Finset.sum_eq_zero fun u _ => ?_
  cases hu : s.uploads u with
  | none => rfl
  | some upload =>
      show upload.task.countedSize = 0
      cases htask : upload.task with
      | store data => exact absurd htask (hs u upload data hu)
      | readToEnd _ | fetchAdd _ | ended => rfl

/-- **The counter is the size of the store in exactly the runs that replace no data.**
    For every run that ends with no upload between its `fetch_add` and its `store`:
    the counter did not overflow and is the sum, over all keys, of the lengths of
    the data held, if and only if no step overflowed it and no store replaced data.
    The counter is what `stats` reports. -/
theorem total_eq_held_iff (p : ProxyServer.State) (h : (system gunzip).exec {} acts = some s)
    (hquiet : Quiet s) :
    Along (system gunzip) (fun s a => NoOverflow s a ∧ ReplacesNothing s a) {} acts ↔
      Along (system gunzip) NoOverflow {} acts ∧
        (ProxyServer.stats p s).totalAssetsSize = s.heldSize := by
  rw [along_and_iff]
  refine and_congr_right fun hfit => ?_
  obtain ⟨n, ⟨ids, -, hcounter⟩, -, hiff⟩ := Ahead.init.exec hfit h
  rw [hquiet.sum_countedSize] at hcounter
  rw [← hiff]
  show n = 0 ↔ s.totalAssetsSize = s.heldSize
  omega

/-- The stream of an upload of one byte under the key `a`. -/
def uploadOfByte (byte : UInt8) : RecvStream :=
  let header := ClientStreamHeader.storeAsset Str.a 1 NO_COMPRESSION
  ⟨[framed ClientStreamHeader.codec header, [byte]], .finished⟩

/-- One upload, from its stream to its end. -/
def uploadAll (u : UploadId) (r : RecvStream) : List Action :=
  [.acceptUni u r, .readToEnd u true, .fetchAdd u, .store u]

/-- The key is uploaded once. -/
theorem total_eq_held_iff_oneUpload :
    ∃ s, (system some).exec {} (uploadAll 0 (uploadOfByte 0x07)) = some s ∧
      (Along (system some) (fun s a => NoOverflow s a ∧ ReplacesNothing s a) {}
          (uploadAll 0 (uploadOfByte 0x07)) ↔
        Along (system some) NoOverflow {} (uploadAll 0 (uploadOfByte 0x07)) ∧
          (ProxyServer.stats {} s).totalAssetsSize = s.heldSize) := by
  have hrun : (system some).exec {} (uploadAll 0 (uploadOfByte 0x07)) = some _ := rfl
  refine ⟨_, hrun, total_eq_held_iff {} hrun ?_⟩
  intro u upload data hu
  by_cases h0 : u = 0
  · subst h0
    cases hu
    show UploadTask.ended ≠ .store data
    exact nofun
  · have hnone := uploads_eq_none hrun (u := u) rfl (by simp [uploadAll, h0])
    exact nomatch hnone.symm.trans hu

/-- **A key uploaded twice is counted twice**: the store holds one byte, and `stats`
    reports two. -/
theorem total_ne_held_twoUploads :
    ∃ s, (system some).exec {}
        (uploadAll 0 (uploadOfByte 0x07) ++ uploadAll 1 (uploadOfByte 0x08)) = some s ∧
      Quiet s ∧ (ProxyServer.stats {} s).totalAssetsSize = 2 ∧ s.heldSize = 1 := by
  have hrun : (system some).exec {}
      (uploadAll 0 (uploadOfByte 0x07) ++ uploadAll 1 (uploadOfByte 0x08)) = some _ := rfl
  refine ⟨_, hrun, ?_, rfl, rfl⟩
  intro u upload data hu
  by_cases h0 : u = 0
  · subst h0
    cases hu
    show UploadTask.ended ≠ .store data
    exact nofun
  · by_cases h1 : u = 1
    · subst h1
      cases hu
      show UploadTask.ended ≠ .store data
      exact nofun
    · have hnone := uploads_eq_none hrun (u := u) rfl (by simp [uploadAll, h0, h1])
      exact nomatch hnone.symm.trans hu

/-! ## What the limit limits -/

/-- No upload that the checks let through, and that arrives in full, decompresses to
    more than the limit. -/
def DecompressesWithinLimit (gunzip : Bytes → Option Bytes) (_ : State) (a : Action) : Prop :=
  ∀ u r key length r' wire data, a = .acceptUni u r →
    ProxyServer.readHeader r = .ok (.storeAsset key length GZIP_COMPRESSION, r') →
    length ≤ ASSET_SIZE_LIMIT → r'.readToEnd length.toNat = .ok wire →
    gunzip wire = some data → data.length ≤ ASSET_SIZE_LIMIT.toNat

/-- The steps of an upload task. -/
def Action.ofUpload : Action → Bool
  | .readToEnd .. | .fetchAdd _ | .store _ => true
  | _ => false

/-- The data that a task will receive, or has received, is within the limit. -/
def Upload.Limited (gunzip : Bytes → Option Bytes) (upload : Upload) : Prop :=
  match upload.task with
  | .readToEnd r => ∀ data, receive gunzip upload.length upload.compression r = some data →
      data.length ≤ ASSET_SIZE_LIMIT.toNat
  | .fetchAdd data | .store data => data.length ≤ ASSET_SIZE_LIMIT.toNat
  | .ended => True

/-- All data on its way into the store and in it is within the limit. -/
structure Limited (gunzip : Bytes → Option Bytes) (s : State) : Prop where
  uploads : ∀ u upload, s.uploads u = some upload → upload.Limited gunzip
  stored : ∀ key, (s.asset key).size ≤ ASSET_SIZE_LIMIT.toNat

theorem Limited.init : Limited gunzip {} := ⟨nofun, fun _ => Nat.zero_le _⟩

/-- One name stands for another task, or for none any more. -/
theorem Limited.update (hs : Limited gunzip s) {u : UploadId} {upload : Option Upload}
    (huploads : t.uploads = Function.update s.uploads u upload)
    (hupload : ∀ upload', upload = some upload' → upload'.Limited gunzip)
    (hstored : ∀ key, (t.asset key).size ≤ ASSET_SIZE_LIMIT.toNat) : Limited gunzip t := by
  refine ⟨?_, hstored⟩
  intro v upload' hv
  rw [huploads] at hv
  by_cases hne : v = u
  · subst hne
    rw [Function.update_self] at hv
    exact hupload upload' hv
  · rw [Function.update_of_ne hne] at hv
    exact hs.uploads v upload' hv

/-- A stream that decompresses within the limit starts a task that does. -/
theorem limited_spawnUpload {u : UploadId} {r : RecvStream} {upload : Upload}
    (hwithin : DecompressesWithinLimit gunzip s (.acceptUni u r))
    (h : spawnUpload r = some upload) : upload.Limited gunzip := by
  obtain ⟨key, length, compression, r', hread, hcheck, rfl⟩ := spawnUpload_eq_some_iff.mp h
  have hle := (checkStoreAsset_eq_ok_iff.mp hcheck).2
  intro data hdata
  obtain ⟨hfinished, hlength, hdecoded⟩ := receive_eq_some_iff.mp hdata
  have hwire : r'.readToEnd length.toNat = .ok r'.bytes := if_pos ⟨hlength, hfinished⟩
  by_cases hgzip : compression = GZIP_COMPRESSION
  · cases hgzip
    exact hwithin u r key length r' r'.bytes data rfl hread hle hwire hdecoded
  · rw [decoded, if_neg hgzip] at hdecoded
    cases hdecoded
    exact le_trans hlength (UInt32.le_iff_toNat_le.mp hle)

theorem Limited.step (hs : Limited gunzip s) (hwithin : DecompressesWithinLimit gunzip s a)
    (h : (system gunzip).step s a = some t) : Limited gunzip t := by
  cases uploadStep_of_step h with
  | acceptUni hu =>
      exact hs.update rfl (fun _ hspawn => limited_spawnUpload hwithin hspawn) hs.stored
  | received hu htask hdata =>
      refine hs.update rfl ?_ hs.stored
      rintro _ ⟨⟩
      have hok := hs.uploads _ _ hu
      rw [Upload.Limited, htask] at hok
      exact hok _ hdata
  | notReceived hu htask =>
      refine hs.update rfl ?_ hs.stored
      rintro _ ⟨⟩
      trivial
  | fetchAdd hu htask =>
      refine hs.update rfl ?_ hs.stored
      rintro _ ⟨⟩
      have hok := hs.uploads _ _ hu
      rw [Upload.Limited, htask] at hok
      exact hok
  | store hu htask =>
      refine hs.update rfl ?_ ?_
      · rintro _ ⟨⟩
        trivial
      · intro key
        have hok := hs.uploads _ _ hu
        rw [Upload.Limited, htask] at hok
        rw [State.asset_setUpload, State.asset_setAsset]
        split
        · exact hok
        · exact hs.stored key
  | request _ _ _ huploads _ _ hdata =>
      refine ⟨huploads ▸ hs.uploads, ?_⟩
      intro key
      rw [Asset.size, hdata, ← Asset.size]
      exact hs.stored key

/-- The steps by which a task that receives its data counts it and stores it. -/
theorem exec_upload {u : UploadId} {key : Str} {length : UInt32} {compression : Str}
    {r : RecvStream} {data : Bytes}
    (hu : s.uploads u = some ⟨key, length, compression, .readToEnd r⟩)
    (hdata : receive gunzip length compression r = some data) :
    ∃ m t, (system gunzip).exec s [.readToEnd u true, .fetchAdd u] = some m ∧
      (system gunzip).step m (.store u) = some t ∧ m.assetStore = s.assetStore ∧
      t.totalAssetsSize = (s.totalAssetsSize + data.length) % 2 ^ 64 ∧
      t.assetStore = s.assetStore.insert key ((s.asset key).store data) := by
  have hread : (system gunzip).step s (.readToEnd u true)
      = some (s.setUpload u ⟨key, length, compression, .fetchAdd data⟩) := by
    show step gunzip s (.readToEnd u true) = _
    rw [step, hu]
    simp only [hdata, if_true]
  have hadd : ∀ m : State, m.uploads u = some ⟨key, length, compression, .fetchAdd data⟩ →
      (system gunzip).step m (.fetchAdd u)
        = some ({ m with totalAssetsSize := (m.totalAssetsSize + data.length) % 2 ^ 64 }.setUpload u
            ⟨key, length, compression, .store data⟩) := by
    intro m hm
    show step gunzip m (.fetchAdd u) = _
    rw [step, hm]
  have hstore : ∀ m : State, m.uploads u = some ⟨key, length, compression, .store data⟩ →
      (system gunzip).step m (.store u)
        = some ((m.setAsset key ((m.asset key).store data)).setUpload u
            ⟨key, length, compression, .ended⟩) := by
    intro m hm
    show step gunzip m (.store u) = _
    rw [step, hm]
  refine ⟨_, _, exec_cons_iff.mpr ⟨_, hread, exec_cons_iff.mpr ⟨_, hadd _ (by simp), rfl⟩⟩,
    hstore _ (by simp), rfl, rfl, rfl⟩

/-- Data over the limit is stored once its task has run. -/
theorem exceeds_of_not_decompressesWithinLimit (hn : ¬ DecompressesWithinLimit gunzip s a)
    (h : (system gunzip).step s a = some t) :
    ∃ bs u, (∀ b ∈ bs, Action.ofUpload b) ∧ (system gunzip).exec t bs = some u ∧
      ∃ key data, (u.asset key).data = some data ∧ ASSET_SIZE_LIMIT.toNat < data.length := by
  rw [DecompressesWithinLimit] at hn
  push Not at hn
  obtain ⟨u, r, key, length, r', wire, data, rfl, hread, hle, hwire, hgunzip, hlong⟩ := hn
  have hu : t.uploads u = some ⟨key, length, GZIP_COMPRESSION, .readToEnd r'⟩ := by
    cases step_cases h with
    | acceptUni _ =>
        show Function.update s.uploads u (spawnUpload r) u = _
        rw [Function.update_self, spawnUpload_gzip hread hle]
  have hdata : receive gunzip length GZIP_COMPRESSION r' = some data := by
    rw [receive, hwire]
    exact (if_pos rfl).trans hgunzip
  obtain ⟨m, n, hm, hn, -, -, hstored⟩ := exec_upload hu hdata
  refine ⟨_, n, ?_, exec_snoc_iff.mpr ⟨m, hm, hn⟩, key, data, ?_, hlong⟩
  · simp [Action.ofUpload]
  · show (n.assetStore.entry key).data = some data
    rw [hstored, DashMap.entry_insert, if_pos rfl]
    rfl

/-- **The store holds no data over the limit in exactly the runs in which no upload
    decompresses to more than it.**  The states meant are all that the run passes
    through, and those that the upload tasks reach from there. -/
theorem decompressesWithinLimit_iff (h : (system gunzip).exec {} acts = some s) :
    Along (system gunzip) (DecompressesWithinLimit gunzip) {} acts ↔
      ∀ pre m, pre <+: acts → (system gunzip).exec {} pre = some m →
        ∀ bs u, (∀ b ∈ bs, Action.ofUpload b) → (system gunzip).exec m bs = some u →
          ∀ key data, (u.asset key).data = some data →
            data.length ≤ ASSET_SIZE_LIMIT.toNat := by
  have hgood : ∀ {s}, Limited gunzip s →
      ¬ ∃ key data, (s.asset key).data = some data ∧ ASSET_SIZE_LIMIT.toNat < data.length := by
    rintro s hs ⟨key, data, hdata, hlong⟩
    have hsize : (s.asset key).size = data.length := by rw [Asset.size, hdata]; rfl
    exact absurd (hsize ▸ hs.stored key) (Nat.not_le.mpr hlong)
  have hown : ∀ {a}, Action.ofUpload a → ∀ s, DecompressesWithinLimit gunzip s a := by
    rintro a ha s u r key length r' wire data rfl
    exact nomatch ha
  have hiff := along_iff_never_bad (I := Limited gunzip) Limited.step hgood hown
    (fun _ => exceeds_of_not_decompressesWithinLimit) Limited.init h
  rw [hiff]
  constructor
  · intro hnever pre m hpre hm bs u hbs hu key data hdata
    by_contra hlong
    exact hnever pre m hpre hm bs u hbs hu ⟨key, data, hdata, Nat.not_le.mp hlong⟩
  · rintro hnever pre m hpre hm bs u hbs hu ⟨key, data, hdata, hlong⟩
    exact absurd (hnever pre m hpre hm bs u hbs hu key data hdata) (Nat.not_le.mpr hlong)

/-- The stream of an upload of one byte that is announced as compressed. -/
def compressedUpload : RecvStream :=
  let header := ClientStreamHeader.storeAsset Str.a 1 GZIP_COMPRESSION
  ⟨[framed ClientStreamHeader.codec header, [0x1f]], .finished⟩

theorem decompressesWithinLimit_iff_compressedUpload :
    ∃ s, (system some).exec {} (uploadAll 0 compressedUpload) = some s ∧
      (Along (system some) (DecompressesWithinLimit some) {} (uploadAll 0 compressedUpload) ↔
        ∀ pre m, pre <+: uploadAll 0 compressedUpload → (system some).exec {} pre = some m →
          ∀ bs u, (∀ b ∈ bs, Action.ofUpload b) → (system some).exec m bs = some u →
            ∀ key data, (u.asset key).data = some data →
              data.length ≤ ASSET_SIZE_LIMIT.toNat) :=
  ⟨_, rfl, decompressesWithinLimit_iff rfl⟩

/-- What an upload that decompresses to `data` leaves in the store. -/
theorem stored_compressedUpload (data : Bytes) :
    ∃ s, (system fun _ => some data).exec {} (uploadAll 0 compressedUpload) = some s ∧
      (s.asset Str.a).data = some data := ⟨_, rfl, rfl⟩

/-- **A small upload can put more than the limit into the store**: here, one byte more. -/
theorem exceeds_compressedUpload :
    ∃ s data, (system fun _ => some (List.replicate (ASSET_SIZE_LIMIT.toNat + 1) 0)).exec {}
        (uploadAll 0 compressedUpload) = some s ∧
      (s.asset Str.a).data = some data ∧ ASSET_SIZE_LIMIT.toNat < data.length := by
  obtain ⟨s, hrun, hdata⟩ := stored_compressedUpload (List.replicate (ASSET_SIZE_LIMIT.toNat + 1) 0)
  refine ⟨s, _, hrun, hdata, ?_⟩
  rw [List.length_replicate]
  exact Nat.lt_succ_self _

end AmbientProxy.Assets
