import AmbientProxy.Assets

/-! # Asset integrity — what a request returns is what was uploaded

    `send_store_asset_message` of `src/client.rs` at one end of a stream, the
    upload tasks and `get_asset` of `src/server.rs` at the other:

        client   compress if large; header { key, length as u32, compression }; data
        proxy    header; check compression and length; read_to_end(length);
                 decompress; store under key

    Compression is the parameter `gzip`, its inverse `gunzip`.

    * `receive_of_arrives` — a task that receives anything receives the data of the
      call, and the wire form was within the limit: a length field that wrapped
      announces fewer bytes than follow, so `read_to_end` fails;
    * `header_read_iff` — the proxy reads the header of exactly the calls whose key
      fits: `send_store_asset_message` bounds no header, `handle_uni` bounds each;
    * `returned_data_was_sent` — over every run with any number of calls. -/

namespace AmbientProxy

open Transition Assets

/-- `MINIMUM_COMPRESSION_SIZE`. -/
def MINIMUM_COMPRESSION_SIZE : Nat := 1024

/-- The bytes that travel for `data`, and the compression they are marked with. -/
def wireForm (gzip : Bytes → Bytes) (data : Bytes) : Bytes × Str :=
  if data.length < MINIMUM_COMPRESSION_SIZE then (data, NO_COMPRESSION)
  else (gzip data, GZIP_COMPRESSION)

/-- The header that announces `data`: its length is cast to 32 bits. -/
def storeAssetHeader (gzip : Bytes → Bytes) (key : Str) (data : Bytes) : ClientStreamHeader :=
  let (data, compression) := wireForm gzip data
  .storeAsset key (UInt32.ofNat data.length) compression

/-- `send_store_asset_message`. -/
def sendStoreAssetMessage (gzip : Bytes → Bytes) (key : Str) (data : Bytes) : SendStream :=
  let sendStream := writeFramed ClientStreamHeader.codec {} (storeAssetHeader gzip key data)
  (sendStream.writeAll (wireForm gzip data).1).finish

/-- A unidirectional stream that the game server opens. -/
inductive Opened where
  /-- By `send_store_asset_message`. -/
  | storeAsset (key : Str) (data : Bytes)
  /-- By `ProxiedConnection::open_uni`, with what the game writes on it. -/
  | playerStream (playerId : Str) (payload : Bytes) (finished : Bool)
  deriving DecidableEq

/-- What is written on it. -/
def Opened.stream (gzip : Bytes → Bytes) : Opened → SendStream
  | .storeAsset key data => sendStoreAssetMessage gzip key data
  | .playerStream playerId payload finished =>
      ⟨((ProxiedConnection.openStream playerId).writeAll payload).written, finished⟩

/-- The connection of one allocation: the streams the game server opened, and the
    asset store at the other end. -/
structure Session where
  opened : List Opened := []
  assets : Assets.State := {}

namespace Session

inductive Action where
  | opens (stream : Opened)
  | assets (a : Assets.Action)

instance (s : SendStream) (r : RecvStream) : Decidable (Arrives s r) :=
  decidable_of_iff (r.bytes <+: s.written ∧
      (r.ending = .finished → s.finished = true ∧ r.bytes = s.written))
    ⟨fun h => ⟨h.1, h.2⟩, fun h => ⟨h.1, h.2⟩⟩

/-- The proxy accepts only what arrives of a stream that was opened: all of it up to
    its finish, or a part and then an error. -/
def guard (gzip : Bytes → Bytes) (s : Session) : Action → Prop
  | .assets (.acceptUni _ recvStream) => ∃ o ∈ s.opened, Arrives (o.stream gzip) recvStream
  | _ => True

instance (gzip : Bytes → Bytes) (s : Session) (a : Action) : Decidable (guard gzip s a) := by
  rcases a with o | a
  · exact isTrue trivial
  · cases a <;> (dsimp only [guard]; infer_instance)

def step (gzip : Bytes → Bytes) (gunzip : Bytes → Option Bytes) (s : Session) (a : Action) :
    Option Session :=
  if guard gzip s a then
    match a with
    | .opens o => some { s with opened := s.opened ++ [o] }
    | .assets a => (Assets.step gunzip s.assets a).map fun assets => { s with assets := assets }
  else none

/-- Both ends of the connection of one allocation. -/
def system (gzip : Bytes → Bytes) (gunzip : Bytes → Option Bytes) : System Session Action where
  init := {}
  step := step gzip gunzip

end Session

/-! ## One upload -/

/-- Uncompressed data is never taken for compressed data. -/
theorem noCompression_ne_gzip : NO_COMPRESSION ≠ GZIP_COMPRESSION := by decide

/-- **An upload task that receives anything receives the data of the call**, and
    then the wire form was within the limit. -/
theorem receive_of_arrives {gzip : Bytes → Bytes} {gunzip : Bytes → Option Bytes}
    (hgzip : ∀ data, gunzip (gzip data) = some data) {data data' : Bytes} {r : RecvStream}
    (hr : Arrives ⟨(wireForm gzip data).1, true⟩ r)
    (hlimit : UInt32.ofNat (wireForm gzip data).1.length ≤ ASSET_SIZE_LIMIT)
    (h : receive gunzip (UInt32.ofNat (wireForm gzip data).1.length) (wireForm gzip data).2 r
      = some data') :
    data' = data ∧ (wireForm gzip data).1.length ≤ ASSET_SIZE_LIMIT.toNat := by
  obtain ⟨wire, hwire⟩ : ∃ wire, wire = (wireForm gzip data).1 := ⟨_, rfl⟩
  rw [← hwire] at hr hlimit h ⊢
  rw [receive, RecvStream.readToEnd] at h
  split at h
  · rename_i received hread
    split at hread
    · rename_i hend
      obtain ⟨hlen, hfin⟩ := hend
      cases Outcome.ok.inj hread
      have hbytes : r.bytes = wire := (hr.exact hfin).2
      -- more bytes follow than a wrapped length field announces
      rw [hbytes, UInt32.toNat_ofNat'] at hlen
      have hle : wire.length ≤ ASSET_SIZE_LIMIT.toNat := by
        rw [UInt32.le_iff_toNat_le, UInt32.toNat_ofNat'] at hlimit
        exact le_trans hlen hlimit
      refine ⟨?_, hle⟩
      rw [hbytes, hwire] at h
      by_cases hsmall : data.length < MINIMUM_COMPRESSION_SIZE
      · simp only [wireForm, if_pos hsmall, if_neg noCompression_ne_gzip] at h
        exact (Option.some.inj h).symm
      · simp only [wireForm, if_neg hsmall, if_true, hgzip] at h
        exact (Option.some.inj h).symm
    · cases hread
  · cases h

/-- A stream of an upload spawns at most the task that the call asks for. -/
theorem spawnUpload_of_arrives {gzip : Bytes → Bytes} {key : Str} {data : Bytes} {r : RecvStream}
    {upload : Upload} (hr : Arrives (sendStoreAssetMessage gzip key data) r)
    (h : spawnUpload r = some upload) :
    ∃ r', upload = ⟨key, UInt32.ofNat (wireForm gzip data).1.length, (wireForm gzip data).2,
        .readToEnd r'⟩ ∧
      Arrives ⟨(wireForm gzip data).1, true⟩ r' ∧
      UInt32.ofNat (wireForm gzip data).1.length ≤ ASSET_SIZE_LIMIT := by
  rw [spawnUpload] at h
  split at h
  · rename_i key' length compression r' hread
    obtain ⟨hheader, hr'⟩ := Arrives.readFramed hr hread
    cases hheader
    split at h
    · rename_i hcheck
      cases Option.some.inj h
      exact ⟨r', rfl, hr', (checkStoreAsset_eq_ok_iff.mp hcheck).2⟩
    · cases h
  · cases h

/-- A stream to a player spawns no upload task. -/
theorem spawnUpload_of_playerStream {p : Str} {payload : Bytes} {finished : Bool} {r : RecvStream}
    (hr : Arrives ⟨((ProxiedConnection.openStream p).writeAll payload).written, finished⟩ r) :
    spawnUpload r = none := by
  rw [spawnUpload]
  split
  · rename_i key length compression r' hread
    cases (Arrives.readFramed hr hread).1
  · rfl

/-! ## The header of an upload

    `write_framed` writes a header of any length; `read_framed` is called with a
    limit of 1024 bytes, which the key shares with 24 bytes of numbers and with the
    compression's name. -/

/-- The proxy reads the header as it was written, and its length field is the number
    of the bytes that follow. -/
def HeaderRead (gzip : Bytes → Bytes) (key : Str) (data : Bytes) (r : RecvStream) : Prop :=
  ∃ length r', ProxyServer.readHeader r = .ok (.storeAsset key length (wireForm gzip data).2, r') ∧
    length.toNat = (wireForm gzip data).1.length

/-- The longest key that fits the limit. -/
def keyLimit (data : Bytes) : Nat := if data.length < MINIMUM_COMPRESSION_SIZE then 1000 else 996

theorem length_serialize_storeAssetHeader (gzip : Bytes → Bytes) (key : Str) (data : Bytes) :
    (serialize ClientStreamHeader.codec (storeAssetHeader gzip key data)).length
      = 24 + key.bytes.length + (wireForm gzip data).2.bytes.length :=
  ClientStreamHeader.length_encode_storeAsset _ _ _

/-- The header fits the limit exactly where its key does. -/
theorem length_serialize_le_iff (gzip : Bytes → Bytes) (key : Str) (data : Bytes) :
    (serialize ClientStreamHeader.codec (storeAssetHeader gzip key data)).length ≤ 1024 ↔
      key.bytes.length ≤ keyLimit data := by
  rw [length_serialize_storeAssetHeader, keyLimit, wireForm]
  split
  · rw [show NO_COMPRESSION.bytes.length = 0 from rfl]
    omega
  · rw [show GZIP_COMPRESSION.bytes.length = 4 from rfl]
    omega

/-- **The proxy reads the header of an upload exactly where the key fits.**  For every
    key and all data whose wire form is within the limit: however much of the data
    has arrived behind the header, and however it is cut, the proxy reads the key,
    the length and the compression that the client wrote if and only if the key has
    at most 1000 bytes, or 996 where the data is compressed. -/
theorem header_read_iff (gzip : Bytes → Bytes) (key : Str) (data : Bytes)
    (hwire : (wireForm gzip data).1.length ≤ ASSET_SIZE_LIMIT.toNat) :
    (∀ r : RecvStream,
      framed ClientStreamHeader.codec (storeAssetHeader gzip key data) <+: r.bytes →
      r.bytes <+: (sendStoreAssetMessage gzip key data).written → HeaderRead gzip key data r) ↔
    key.bytes.length ≤ keyLimit data := by
  rw [← length_serialize_le_iff gzip]
  constructor
  · intro hall
    have hbytes : RecvStream.bytes ⟨[(sendStoreAssetMessage gzip key data).written], .finished⟩
        = framed ClientStreamHeader.codec (storeAssetHeader gzip key data)
          ++ (wireForm gzip data).1 := List.flatten_singleton
    obtain ⟨length, r', hread, -⟩ :=
      hall ⟨[(sendStoreAssetMessage gzip key data).written], .finished⟩
        (by rw [hbytes]; exact List.prefix_append _ _)
        ⟨[], (List.append_nil _).trans hbytes⟩
    exact length_le_of_readFramed ⟨[], (List.append_nil _).trans hbytes⟩ hread
  · rintro hle r ⟨w, hw⟩ -
    obtain ⟨r', hread, -, -⟩ := readFramed_framed ClientStreamHeader.codec
      (storeAssetHeader gzip key data) 1024 hle hw.symm
    refine ⟨UInt32.ofNat (wireForm gzip data).1.length, r', hread, ?_⟩
    exact UInt32.toNat_ofNat_of_lt' (lt_of_le_of_lt hwire ASSET_SIZE_LIMIT.toNat_lt)

/-- A key of `n` letters `a`. -/
def keyOfLength (n : Nat) (h : n < 2 ^ 64) : Str where
  bytes := List.replicate n 0x61
  valid := by
    induction n with
    | zero => rfl
    | succ n ih =>
        rw [List.replicate_succ, validUtf8.eq_def]
        exact ih (Nat.lt_of_succ_lt h)
  bound := by rw [List.length_replicate]; exact h

theorem header_read_iff_small :
    HeaderRead id (keyOfLength 1000 (by decide)) [0x07]
      ⟨[(sendStoreAssetMessage id (keyOfLength 1000 (by decide)) [0x07]).written], .finished⟩ :=
  (header_read_iff id (keyOfLength 1000 (by decide)) [0x07] (by decide)).mpr
    (by rw [keyOfLength, List.length_replicate]; decide) _
    ⟨(wireForm id [0x07]).1, List.flatten_singleton.symm⟩
    ⟨[], (List.append_nil _).trans List.flatten_singleton⟩

/-- **One byte more is too many**: the upload is sent in full, and the proxy rejects
    its header. -/
theorem header_not_read_longKey :
    ProxyServer.readHeader
        ⟨[(sendStoreAssetMessage id (keyOfLength 1001 (by decide)) [0x07]).written], .finished⟩
      = .err (.messageTooLong 1025) ∧
    ¬ HeaderRead id (keyOfLength 1001 (by decide)) [0x07]
        ⟨[(sendStoreAssetMessage id (keyOfLength 1001 (by decide)) [0x07]).written],
          .finished⟩ := by
  have hlen : (serialize ClientStreamHeader.codec
      (storeAssetHeader id (keyOfLength 1001 (by decide)) [0x07])).length = 1025 := by
    rw [length_serialize_storeAssetHeader, keyOfLength, List.length_replicate]
    rfl
  have hbytes : RecvStream.bytes
      ⟨[(sendStoreAssetMessage id (keyOfLength 1001 (by decide)) [0x07]).written], .finished⟩
      = framed ClientStreamHeader.codec (storeAssetHeader id (keyOfLength 1001 (by decide)) [0x07])
        ++ (wireForm id [0x07]).1 := List.flatten_singleton
  have herr : ProxyServer.readHeader
      ⟨[(sendStoreAssetMessage id (keyOfLength 1001 (by decide)) [0x07]).written], .finished⟩
      = .err (.messageTooLong (UInt32.ofNat (serialize ClientStreamHeader.codec
          (storeAssetHeader id (keyOfLength 1001 (by decide)) [0x07])).length)) :=
    readFramed_of_gt _ _ hbytes (by rw [hlen]; decide) (by rw [hlen]; decide)
  rw [hlen] at herr
  refine ⟨herr, ?_⟩
  rintro ⟨length, r', hread, -⟩
  cases herr.symm.trans hread

/-! ## Any number of uploads -/

namespace Session

variable {gzip : Bytes → Bytes} {gunzip : Bytes → Option Bytes} {s t : Session} {a : Action}
  {opened : List Opened} {key : Str} {data : Bytes}

/-- A call was made with exactly this key and this data, and its wire form is one
    that the proxy accepts. -/
def Sent (gzip : Bytes → Bytes) (opened : List Opened) (key : Str) (data : Bytes) : Prop :=
  .storeAsset key data ∈ opened ∧ (wireForm gzip data).1.length ≤ ASSET_SIZE_LIMIT.toNat

/-- An upload task receives, or holds, the data of a call with its key. -/
def TaskOk (gzip : Bytes → Bytes) (opened : List Opened) (upload : Upload) : Prop :=
  match upload.task with
  | .readToEnd r =>
      ∃ data, .storeAsset upload.key data ∈ opened ∧
        upload.length = UInt32.ofNat (wireForm gzip data).1.length ∧
        upload.compression = (wireForm gzip data).2 ∧ upload.length ≤ ASSET_SIZE_LIMIT ∧
        Arrives ⟨(wireForm gzip data).1, true⟩ r
  | .fetchAdd data | .store data => Sent gzip opened upload.key data
  | .ended => True

theorem Sent.snoc (h : Sent gzip opened key data) (o : Opened) :
    Sent gzip (opened ++ [o]) key data :=
  ⟨List.mem_append_left _ h.1, h.2⟩

theorem TaskOk.snoc {upload : Upload} (h : TaskOk gzip opened upload) (o : Opened) :
    TaskOk gzip (opened ++ [o]) upload := by
  obtain ⟨key, length, compression, task⟩ := upload
  cases task with
  | readToEnd r =>
      obtain ⟨data, hmem, hrest⟩ := h
      exact ⟨data, List.mem_append_left _ hmem, hrest⟩
  | fetchAdd data | store data => exact Sent.snoc h o
  | ended => trivial

/-- All data on its way into the store, in it and out of it was sent. -/
structure Inv (gzip : Bytes → Bytes) (opened : List Opened) (s : Assets.State) : Prop where
  uploads : ∀ u upload, s.uploads u = some upload → TaskOk gzip opened upload
  stored : ∀ key data, (s.asset key).data = some data → Sent gzip opened key data
  returned : ∀ c call data, s.calls c = some call → call.place = .returned (.ok (some data)) →
    Sent gzip opened call.assetId data

theorem Inv.init : Inv gzip [] {} := ⟨nofun, nofun, nofun⟩

theorem Inv.snoc {s : Assets.State} (hs : Inv gzip opened s) (o : Opened) :
    Inv gzip (opened ++ [o]) s :=
  ⟨fun u upload hu => (hs.uploads u upload hu).snoc o,
    fun key data hd => (hs.stored key data hd).snoc o,
    fun c call data hc hp => (hs.returned c call data hc hp).snoc o⟩

theorem Inv.setUpload {s : Assets.State} (hs : Inv gzip opened s) (u : UploadId) {upload : Upload}
    (hok : TaskOk gzip opened upload) : Inv gzip opened (s.setUpload u upload) := by
  refine ⟨?_, hs.stored, hs.returned⟩
  intro u' upload' hu'
  by_cases hne : u' = u
  · subst hne
    rw [State.uploads_setUpload_self] at hu'
    cases hu'
    exact hok
  · rw [State.uploads_setUpload_of_ne s hne] at hu'
    exact hs.uploads u' upload' hu'

theorem Inv.setCall {s : Assets.State} (hs : Inv gzip opened s) (c : CallId) {call : Call}
    (hok : ∀ data, call.place = .returned (.ok (some data)) →
      Sent gzip opened call.assetId data) :
    Inv gzip opened (s.setCall c call) := by
  refine ⟨hs.uploads, hs.stored, ?_⟩
  intro c' call' data hc' hplace
  by_cases hne : c' = c
  · subst hne
    rw [State.calls_setCall_self] at hc'
    cases hc'
    exact hok data hplace
  · rw [State.calls_setCall_of_ne s hne] at hc'
    exact hs.returned c' call' data hc' hplace

theorem Inv.setAsset {s : Assets.State} (hs : Inv gzip opened s) {key : Str} {asset : Asset}
    (hok : ∀ data, asset.data = some data → Sent gzip opened key data) :
    Inv gzip opened (s.setAsset key asset) := by
  refine ⟨hs.uploads, ?_, hs.returned⟩
  intro key' data hdata
  rw [State.asset_setAsset] at hdata
  split at hdata
  · rename_i hkey
    rw [hkey]
    exact hok data hdata
  · exact hs.stored key' data hdata

/-- The parts that the invariant speaks of do not change. -/
theorem Inv.frame {s t : Assets.State} (hs : Inv gzip opened s)
    (hasset : ∀ key, t.asset key = s.asset key) (huploads : t.uploads = s.uploads)
    (hcalls : t.calls = s.calls) : Inv gzip opened t := by
  refine ⟨huploads ▸ hs.uploads, ?_, hcalls ▸ hs.returned⟩
  intro key data hdata
  rw [hasset] at hdata
  exact hs.stored key data hdata

/-- A call polls or drops its future: the entry keeps its data. -/
theorem Inv.setNotify {s : Assets.State} (hs : Inv gzip opened s) {key : Str}
    {notify : Sync.Notify CallId} (c : CallId) {call : Call}
    (hplace : ∀ data, call.place ≠ .returned (.ok (some data))) :
    Inv gzip opened
      ((s.setAsset key { s.asset key with notify := notify }).setCall c call) := by
  have hset : Inv gzip opened (s.setAsset key { s.asset key with notify := notify }) :=
    hs.setAsset fun data hdata => hs.stored key data hdata
  exact hset.setCall c fun data hd => absurd hd (hplace data)

theorem Inv.step (hgzip : ∀ data, gunzip (gzip data) = some data) {s t : Assets.State}
    {a : Assets.Action} (hs : Inv gzip opened s)
    (ha : ∀ u r, a = .acceptUni u r → ∃ o ∈ opened, Arrives (o.stream gzip) r)
    (h : (Assets.system gunzip).step s a = some t) : Inv gzip opened t := by
  cases step_cases h with
  | acceptUni hu =>
      rename_i u r
      obtain ⟨o, ho, hr⟩ := ha u r rfl
      cases hspawn : spawnUpload r with
      | none =>
          rw [← hu, Function.update_eq_self]
          exact hs
      | some upload =>
          refine Inv.setUpload hs u ?_
          cases o with
          | playerStream p payload finished =>
              exact nomatch (spawnUpload_of_playerStream hr).symm.trans hspawn
          | storeAsset key data =>
              obtain ⟨r', rfl, hr', hlimit⟩ := spawnUpload_of_arrives hr hspawn
              exact ⟨data, ho, rfl, rfl, hlimit, hr'⟩
  | received hu hdata =>
      rename_i u key length compression r data'
      obtain ⟨data, hmem, hlen, hcomp, hlimit, hr⟩ := hs.uploads _ _ hu
      cases hlen
      cases hcomp
      obtain ⟨rfl, hle⟩ := receive_of_arrives hgzip hr hlimit hdata
      exact hs.setUpload u ⟨hmem, hle⟩
  | notReceived _ => exact hs.setUpload _ trivial
  | fetchAdd hu =>
      rename_i u key length compression data
      have hsent : Sent gzip opened key data := hs.uploads _ _ hu
      have hmoved : Inv gzip opened (s.setUpload u ⟨key, length, compression, .store data⟩) :=
        hs.setUpload u hsent
      exact hmoved.frame (fun _ => rfl) rfl rfl
  | store hu =>
      rename_i u key length compression data
      have hsent : Sent gzip opened key data := hs.uploads _ _ hu
      refine (hs.setAsset ?_).setUpload u trivial
      intro data' hdata'
      cases hdata'
      exact hsent
  | getAsset _ => exact hs.setCall _ nofun
  | testDeadline _ =>
      refine hs.setCall _ ?_
      split <;> exact nofun
  | checkEntry hc =>
      rename_i c assetId deadline requested
      obtain ⟨hasset, huploads, requested', place, hcalls, hplace⟩ :=
        checkEntry_spec s c ⟨assetId, deadline, requested, .checkEntry⟩
      have hmoved : Inv gzip opened (s.setCall c ⟨assetId, deadline, requested', place⟩) := by
        refine hs.setCall c ?_
        intro data hd
        rcases hplace with ⟨data', hdata', rfl⟩ | ⟨-, rfl | rfl⟩
        · cases hd
          exact hs.stored assetId data hdata'
        · exact nomatch hd
        · exact nomatch hd
      exact hmoved.frame hasset huploads hcalls
  | createNotified _ => exact hs.setCall _ nofun
  | pollNotified hc =>
      rename_i c assetId deadline requested f
      cases hready : (s.asset assetId).notify.ready c f with
      | true =>
          rw [pollNotified_of_ready hready]
          exact hs.setNotify c nofun
      | false =>
          rw [pollNotified_of_not_ready hready]
          exact hs.setNotify c nofun
  | deadlinePasses _ _ | cancel _ => exact hs.setNotify _ nofun
  | dropReceiver | tick => exact hs.frame (fun _ => rfl) rfl rfl

/-- The invariant of the session. -/
theorem inv_step (hgzip : ∀ data, gunzip (gzip data) = some data)
    (hs : Inv gzip s.opened s.assets) (h : (system gzip gunzip).step s a = some t) :
    Inv gzip t.opened t.assets := by
  change Session.step gzip gunzip s a = some t at h
  unfold Session.step at h
  split at h
  · rename_i hg
    cases a with
    | opens o =>
        cases Option.some.inj h
        exact hs.snoc o
    | assets a =>
        obtain ⟨assets, hstep, rfl⟩ := Option.map_eq_some_iff.mp h
        refine Inv.step hgzip hs ?_ hstep
        rintro u r rfl
        exact hg
  · exact nomatch h

/-- **What a request returns is, byte for byte, the data of one of the calls made
    with exactly its key.**  And nothing is ever stored but such data, where its
    wire form is within the limit: of any other call not even a part. -/
theorem returned_data_was_sent (hgzip : ∀ data, gunzip (gzip data) = some data)
    {acts : List Action} (h : (system gzip gunzip).exec {} acts = some s) :
    (∀ c call data, s.assets.calls c = some call →
      call.place = .returned (.ok (some data)) → .storeAsset call.assetId data ∈ s.opened) ∧
    ∀ key data, (s.assets.asset key).data = some data →
      .storeAsset key data ∈ s.opened ∧
        (wireForm gzip data).1.length ≤ ASSET_SIZE_LIMIT.toNat := by
  have hinv : Inv gzip s.opened s.assets :=
    exec_invariant (P := fun s => Inv gzip s.opened s.assets)
      (fun hs hstep => inv_step hgzip hs hstep) Inv.init h
  exact ⟨fun c call data hc hp => (hinv.returned c call data hc hp).1, hinv.stored⟩

/-- A kilobyte of zeros. -/
def zeros : Bytes := List.replicate 1024 0

/-- A compression that saves a kilobyte of zeros at the start; the first byte says whether
    it did. -/
def gzipZeros (data : Bytes) : Bytes :=
  if data.take 1024 = zeros then 1 :: data.drop 1024 else 0 :: data

def gunzipZeros : Bytes → Option Bytes
  | 1 :: data => some (zeros ++ data)
  | 0 :: data => some data
  | _ => none

theorem gunzipZeros_gzipZeros (data : Bytes) : gunzipZeros (gzipZeros data) = some data := by
  rw [gzipZeros]
  split
  · rename_i hzeros
    show some (zeros ++ data.drop 1024) = some data
    rw [← hzeros, List.take_append_drop]
  · rfl

/-- What travels of a byte under the key `a`, and of a kilobyte and one byte under `b`. -/
def uploadOfA : SendStream := sendStoreAssetMessage gzipZeros Str.a [0x07]

def uploadOfB : SendStream := sendStoreAssetMessage gzipZeros Str.b (zeros ++ [0x08])

/-- Both are uploaded, the second one compressed; then each is requested. -/
def twoUploads : List Action :=
  [.opens (.storeAsset Str.a [0x07]), .opens (.storeAsset Str.b (zeros ++ [0x08])),
    .assets (.acceptUni 1 ⟨[uploadOfB.written], .finished⟩),
    .assets (.acceptUni 0 ⟨[uploadOfA.written], .finished⟩),
    .assets (.readToEnd 0 true), .assets (.readToEnd 1 true), .assets (.fetchAdd 0),
    .assets (.fetchAdd 1), .assets (.store 1), .assets (.store 0),
    .assets (.getAsset 0 Str.a 10), .assets (.testDeadline 0), .assets (.checkEntry 0),
    .assets (.getAsset 1 Str.b 10), .assets (.testDeadline 1), .assets (.checkEntry 1)]

set_option maxRecDepth 20000 in
theorem returned_data_was_sent_twoUploads :
    wireForm gzipZeros (zeros ++ [0x08]) = ([1, 0x08], GZIP_COMPRESSION) ∧
    ∃ s call call', (system gzipZeros gunzipZeros).exec {} twoUploads = some s ∧
      s.assets.calls 0 = some call ∧ s.assets.calls 1 = some call' ∧
      call.place = .returned (.ok (some [0x07])) ∧
      call'.place = .returned (.ok (some (zeros ++ [0x08]))) ∧
      Opened.storeAsset call.assetId [0x07] ∈ s.opened ∧
      Opened.storeAsset call'.assetId (zeros ++ [0x08]) ∈ s.opened := by
  have hrun : (system gzipZeros gunzipZeros).exec {} twoUploads = some _ := rfl
  have hsent := (returned_data_was_sent gunzipZeros_gzipZeros hrun).1
  exact ⟨by decide +kernel, _, _, _, rfl, rfl, rfl, rfl, rfl, hsent 0 _ _ rfl rfl,
    hsent 1 _ _ rfl rfl⟩

end Session

end AmbientProxy
