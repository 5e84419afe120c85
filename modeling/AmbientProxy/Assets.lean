import AmbientProxy.Lib.Notify
import AmbientProxy.Lib.Transition
import AmbientProxy.Streams
import Mathlib.Data.List.AList

/-! # The asset store — uploads, requests, and those who wait

    `src/server.rs`: the game server uploads an asset on a stream of its own
    (`ProxyServer::handle_uni` spawns a task that receives it and stores it), and
    an HTTP request that misses waits for it (`ProxyServer::get_asset`):

        upload task                       get_asset
        read_to_end, decompress           while now < deadline {
        total_assets_size.fetch_add         lock; data? return it
        lock; data = Some; notify_waiters   (RequestAsset, once); unlock
                                            select! { deadline, notified() } }

    Any number of both run at once.  What happens under the lock of the map's
    entry is one step; every other line is a step of its own.

    The gzip decoder is the parameter `gunzip`, a partial function of bytes. -/

namespace AmbientProxy

open Transition Sync

/-- `ASSET_SIZE_LIMIT`. -/
def ASSET_SIZE_LIMIT : UInt32 := 128 * 1024 * 1024

/-- A `DashMap` with text keys. -/
abbrev DashMap (V : Type) := AList fun _ : Str => V

/-- What `entry(key).or_default()` finds. -/
def DashMap.entry {V : Type} [Inhabited V] (m : DashMap V) (key : Str) : V :=
  (m.lookup key).getD default

theorem DashMap.entry_insert {V : Type} [Inhabited V] (m : DashMap V) (key key' : Str) (v : V) :
    DashMap.entry (m.insert key v) key' = if key' = key then v else m.entry key' := by
  by_cases h : key' = key
  · rw [if_pos h, h, entry, AList.lookup_insert, Option.getD_some]
  · rw [if_neg h, entry, AList.lookup_insert_ne h, entry]

namespace Assets

/-- A running call of `get_asset`. -/
abbrev CallId := Nat

/-- A spawned upload task. -/
abbrev UploadId := Nat

structure Asset where
  data : Option Bytes := none
  notify : Notify CallId := {}
  deriving Inhabited, DecidableEq

/-- `Asset::store`. -/
def Asset.store (asset : Asset) (data : Bytes) : Asset :=
  { data := some data, notify := asset.notify.notifyWaiters }

/-- Where an upload task is. -/
inductive UploadTask where
  | readToEnd (recvStream : RecvStream)
  | fetchAdd (data : Bytes)
  | store (data : Bytes)
  | ended
  deriving DecidableEq

/-- An upload task and the header it was spawned for. -/
structure Upload where
  key : Str
  length : UInt32
  compression : Str
  task : UploadTask
  deriving DecidableEq

/-- Where a call of `get_asset` is. -/
inductive Place where
  | testDeadline
  /-- About to lock the entry. -/
  | checkEntry
  /-- The lock is released; about to create the `Notified` future. -/
  | createNotified
  /-- At the `select!`. -/
  | awaitNotified (future : Notified)
  | returned (result : Except Anyhow (Option Bytes))
  /-- Its caller dropped it. -/
  | cancelled

/-- A call of `get_asset`. -/
structure Call where
  assetId : Str
  deadline : Nat
  requestedFromServer : Bool
  place : Place

/-- The asset store, its upload tasks and the running requests.  `requests` records
    the messages given to `server_message_sender`. -/
structure State where
  assetStore : DashMap Asset := ∅
  totalAssetsSize : Nat := 0
  requests : List ServerMessage := []
  receiverDropped : Bool := false
  uploads : UploadId → Option Upload := fun _ => none
  calls : CallId → Option Call := fun _ => none
  now : Nat := 0

inductive Action where
  | acceptUni (u : UploadId) (recvStream : RecvStream)
  | readToEnd (u : UploadId) (upgraded : Bool)
  | fetchAdd (u : UploadId)
  | store (u : UploadId)
  | getAsset (c : CallId) (assetId : Str) (timeout : Nat)
  | testDeadline (c : CallId)
  | checkEntry (c : CallId)
  | createNotified (c : CallId)
  | pollNotified (c : CallId)
  | deadlinePasses (c : CallId)
  | cancel (c : CallId)
  | dropReceiver
  | tick

namespace State

/-- The entry of a key. -/
def asset (s : State) (key : Str) : Asset := s.assetStore.entry key

def setAsset (s : State) (key : Str) (asset : Asset) : State :=
  { s with assetStore := s.assetStore.insert key asset }

def setUpload (s : State) (u : UploadId) (upload : Upload) : State :=
  { s with uploads := Function.update s.uploads u (some upload) }

def setCall (s : State) (c : CallId) (call : Call) : State :=
  { s with calls := Function.update s.calls c (some call) }

end State

/-- The checks of `handle_uni` on a `StoreAsset` header. -/
def checkStoreAsset (length : UInt32) (compression : Str) : Outcome Unit :=
  if ¬ compression.isEmpty ∧ compression ≠ GZIP_COMPRESSION then
    .err (.other (.unsupportedAssetCompression compression))
  else if length > ASSET_SIZE_LIMIT then .err (.other (.assetTooLarge length ASSET_SIZE_LIMIT))
  else .ok ()

/-- The task that `handle_uni` spawns for a stream, if it spawns one. -/
def spawnUpload (recvStream : RecvStream) : Option Upload :=
  match ProxyServer.readHeader recvStream with
  | .ok (.storeAsset key length compression, recvStream) =>
      match checkStoreAsset length compression with
      | .ok () => some ⟨key, length, compression, .readToEnd recvStream⟩
      | _ => none
  | _ => none

/-- The data that an upload task receives, if it does. -/
def receive (gunzip : Bytes → Option Bytes) (length : UInt32) (compression : Str)
    (recvStream : RecvStream) : Option Bytes :=
  match recvStream.readToEnd length.toNat with
  | .ok data => if compression = GZIP_COMPRESSION then gunzip data else some data
  | _ => none

/-- What a call of `get_asset` does while it holds the lock of its entry. -/
def checkEntry (s : State) (c : CallId) (call : Call) : State :=
  let asset := s.asset call.assetId
  let s := s.setAsset call.assetId asset
  match asset.data with
  | some data => s.setCall c { call with place := .returned (.ok (some data)) }
  | none =>
      if call.requestedFromServer then s.setCall c { call with place := .createNotified }
      else if s.receiverDropped then
        s.setCall c
          { call with
            requestedFromServer := true
            place := .returned (.error (.failedToRequestAsset call.assetId)) }
      else
        let s := { s with requests := s.requests ++ [ServerMessage.requestAsset call.assetId] }
        s.setCall c { call with requestedFromServer := true, place := .createNotified }

/-- A call polls its future. -/
def pollNotified (s : State) (c : CallId) (call : Call) (future : Notified) : State :=
  let asset := s.asset call.assetId
  let (notify, future) := asset.notify.poll c future
  (s.setAsset call.assetId { asset with notify := notify }).setCall c
    { call with
      place := match future with
        | none => .testDeadline
        | some future => .awaitNotified future }

/-- A call drops its future and goes on at `place`. -/
def dropNotified (s : State) (c : CallId) (call : Call) (place : Place) : State :=
  let asset := s.asset call.assetId
  (s.setAsset call.assetId { asset with notify := asset.notify.remove c }).setCall c
    { call with place := place }

/-- What each action does, where it is enabled. -/
def step (gunzip : Bytes → Option Bytes) (s : State) : Action → Option State
  | .acceptUni u recvStream =>
      match s.uploads u with
      | some _ => none
      | none => some { s with uploads := Function.update s.uploads u (spawnUpload recvStream) }
  | .readToEnd u upgraded =>
      match s.uploads u with
      | some ⟨key, length, compression, .readToEnd recvStream⟩ =>
          some (s.setUpload u ⟨key, length, compression,
            match receive gunzip length compression recvStream with
            | some data => if upgraded then .fetchAdd data else .ended
            | none => .ended⟩)
      | _ => none
  | .fetchAdd u =>
      match s.uploads u with
      | some ⟨key, length, compression, .fetchAdd data⟩ =>
          some ({ s with totalAssetsSize := (s.totalAssetsSize + data.length) % 2 ^ 64 }.setUpload u
            ⟨key, length, compression, .store data⟩)
      | _ => none
  | .store u =>
      match s.uploads u with
      | some ⟨key, length, compression, .store data⟩ =>
          some ((s.setAsset key ((s.asset key).store data)).setUpload u
            ⟨key, length, compression, .ended⟩)
      | _ => none
  | .getAsset c assetId timeout =>
      match s.calls c with
      | some _ => none
      | none => some (s.setCall c ⟨assetId, s.now + timeout, false, .testDeadline⟩)
  | .testDeadline c =>
      match s.calls c with
      | some ⟨assetId, deadline, requested, .testDeadline⟩ =>
          some (s.setCall c ⟨assetId, deadline, requested,
            if s.now < deadline then .checkEntry
            else .returned (.error (.timedOutGettingAsset assetId))⟩)
      | _ => none
  | .checkEntry c =>
      match s.calls c with
      | some ⟨assetId, deadline, requested, .checkEntry⟩ =>
          some (checkEntry s c ⟨assetId, deadline, requested, .checkEntry⟩)
      | _ => none
  | .createNotified c =>
      match s.calls c with
      | some ⟨assetId, deadline, requested, .createNotified⟩ =>
          some (s.setCall c ⟨assetId, deadline, requested,
            .awaitNotified (s.asset assetId).notify.notified⟩)
      | _ => none
  | .pollNotified c =>
      match s.calls c with
      | some ⟨assetId, deadline, requested, .awaitNotified future⟩ =>
          if future = .waiting ∧ (s.asset assetId).notify.ready c future = false then none
          else some (pollNotified s c ⟨assetId, deadline, requested, .awaitNotified future⟩ future)
      | _ => none
  | .deadlinePasses c =>
      match s.calls c with
      | some ⟨assetId, deadline, requested, .awaitNotified future⟩ =>
          if s.now < deadline then none
          else some (dropNotified s c ⟨assetId, deadline, requested, .awaitNotified future⟩
            .testDeadline)
      | _ => none
  | .cancel c =>
      match s.calls c with
      | some ⟨assetId, deadline, requested, .awaitNotified future⟩ =>
          some (dropNotified s c ⟨assetId, deadline, requested, .awaitNotified future⟩ .cancelled)
      | _ => none
  | .dropReceiver => some { s with receiverDropped := true }
  | .tick => some { s with now := s.now + 1 }

/-- The asset store of one allocation. -/
def system (gunzip : Bytes → Option Bytes) : System State Action where
  init := {}
  step := step gunzip

/-! ## What is accepted -/

section

variable {gunzip : Bytes → Option Bytes} {r : RecvStream} {length : UInt32} {compression : Str}
  {upload : Upload} {data : Bytes}

theorem isEmpty_iff_noCompression : compression.isEmpty = true ↔ compression = NO_COMPRESSION := by
  rw [Str.isEmpty, List.isEmpty_iff]
  constructor
  · obtain ⟨bytes, hvalid, hbound⟩ := compression
    rintro rfl
    rfl
  · rintro rfl
    rfl

theorem checkStoreAsset_eq_ok_iff :
    checkStoreAsset length compression = .ok () ↔
      (compression = NO_COMPRESSION ∨ compression = GZIP_COMPRESSION) ∧
        length ≤ ASSET_SIZE_LIMIT := by
  rw [checkStoreAsset]
  by_cases hcompression : compression = NO_COMPRESSION ∨ compression = GZIP_COMPRESSION
  · have hknown : ¬ (¬ compression.isEmpty = true ∧ compression ≠ GZIP_COMPRESSION) := by
      rw [isEmpty_iff_noCompression]
      exact fun h => hcompression.elim h.1 h.2
    rw [if_neg hknown, and_iff_right hcompression]
    split
    · rename_i hgt
      refine ⟨?_, fun hle => absurd hle (UInt32.not_le.mpr hgt)⟩
      intro h
      cases h
    · rename_i hle
      exact ⟨fun _ => UInt32.not_lt.mp hle, fun _ => rfl⟩
  · have hunknown : ¬ compression.isEmpty = true ∧ compression ≠ GZIP_COMPRESSION := by
      rw [isEmpty_iff_noCompression]
      exact not_or.mp hcompression
    rw [if_pos hunknown]
    refine ⟨?_, fun h => absurd h.1 hcompression⟩
    intro h
    cases h

theorem spawnUpload_eq_some_iff :
    spawnUpload r = some upload ↔ ∃ key length compression r',
      ProxyServer.readHeader r = .ok (.storeAsset key length compression, r') ∧
        checkStoreAsset length compression = .ok () ∧
        upload = ⟨key, length, compression, .readToEnd r'⟩ := by
  rw [spawnUpload]
  split
  · rename_i key length compression r' hread
    constructor
    · intro h
      split at h
      · rename_i hcheck
        cases h
        exact ⟨key, length, compression, r', hread, hcheck, rfl⟩
      · cases h
    · rintro ⟨_, _, _, _, hread', hcheck, rfl⟩
      cases hread.symm.trans hread'
      rw [hcheck]
  · rename_i hother
    constructor
    · intro h
      cases h
    · rintro ⟨key, length, compression, r', hread, -, -⟩
      exact absurd hread (hother key length compression r')

/-- A header of compressed data passes the checks where its length does. -/
theorem spawnUpload_gzip {r r' : RecvStream} {key : Str} {length : UInt32}
    (hread : ProxyServer.readHeader r = .ok (.storeAsset key length GZIP_COMPRESSION, r'))
    (hle : length ≤ ASSET_SIZE_LIMIT) :
    spawnUpload r = some ⟨key, length, GZIP_COMPRESSION, .readToEnd r'⟩ := by
  have hcheck : checkStoreAsset length GZIP_COMPRESSION = .ok () :=
    checkStoreAsset_eq_ok_iff.mpr ⟨Or.inr rfl, hle⟩
  exact spawnUpload_eq_some_iff.mpr ⟨key, length, GZIP_COMPRESSION, r', hread, hcheck, rfl⟩

/-- The decoded form of the bytes that arrive. -/
def decoded (gunzip : Bytes → Option Bytes) (compression : Str) (wire : Bytes) : Option Bytes :=
  if compression = GZIP_COMPRESSION then gunzip wire else some wire

/-- A task receives what finishes within the limit and can be decoded. -/
theorem receive_eq_some_iff :
    receive gunzip length compression r = some data ↔
      r.ending = .finished ∧ r.bytes.length ≤ length.toNat ∧
        decoded gunzip compression r.bytes = some data := by
  rw [receive, RecvStream.readToEnd]
  by_cases hfits : r.bytes.length ≤ length.toNat ∧ r.ending = .finished
  · rw [if_pos hfits]
    exact ⟨fun h => ⟨hfits.2, hfits.1, h⟩, fun h => h.2.2⟩
  · rw [if_neg hfits]
    refine ⟨?_, fun h => absurd ⟨h.2.1, h.1⟩ hfits⟩
    intro h
    cases h

end

/-! ## What one step can do -/

/-- The steps of the system, each with all that it needs and all that it does. -/
inductive Step (gunzip : Bytes → Option Bytes) (s : State) : Action → State → Prop where
  | acceptUni {u : UploadId} {recvStream : RecvStream} (h : s.uploads u = none) :
      Step gunzip s (.acceptUni u recvStream)
        { s with uploads := Function.update s.uploads u (spawnUpload recvStream) }
  | received {u : UploadId} {key : Str} {length : UInt32} {compression : Str}
      {recvStream : RecvStream} {data : Bytes}
      (h : s.uploads u = some ⟨key, length, compression, .readToEnd recvStream⟩)
      (hdata : receive gunzip length compression recvStream = some data) :
      Step gunzip s (.readToEnd u true) (s.setUpload u ⟨key, length, compression, .fetchAdd data⟩)
  | notReceived {u : UploadId} {key : Str} {length : UInt32} {compression : Str}
      {recvStream : RecvStream} {upgraded : Bool}
      (h : s.uploads u = some ⟨key, length, compression, .readToEnd recvStream⟩) :
      Step gunzip s (.readToEnd u upgraded) (s.setUpload u ⟨key, length, compression, .ended⟩)
  | fetchAdd {u : UploadId} {key : Str} {length : UInt32} {compression : Str} {data : Bytes}
      (h : s.uploads u = some ⟨key, length, compression, .fetchAdd data⟩) :
      Step gunzip s (.fetchAdd u)
        ({ s with totalAssetsSize := (s.totalAssetsSize + data.length) % 2 ^ 64 }.setUpload u
          ⟨key, length, compression, .store data⟩)
  | store {u : UploadId} {key : Str} {length : UInt32} {compression : Str} {data : Bytes}
      (h : s.uploads u = some ⟨key, length, compression, .store data⟩) :
      Step gunzip s (.store u)
        ((s.setAsset key ((s.asset key).store data)).setUpload u ⟨key, length, compression, .ended⟩)
  | getAsset {c : CallId} {assetId : Str} {timeout : Nat} (h : s.calls c = none) :
      Step gunzip s (.getAsset c assetId timeout)
        (s.setCall c ⟨assetId, s.now + timeout, false, .testDeadline⟩)
  | testDeadline {c : CallId} {assetId : Str} {deadline : Nat} {requested : Bool}
      (h : s.calls c = some ⟨assetId, deadline, requested, .testDeadline⟩) :
      Step gunzip s (.testDeadline c) (s.setCall c ⟨assetId, deadline, requested,
        if s.now < deadline then .checkEntry
        else .returned (.error (.timedOutGettingAsset assetId))⟩)
  | checkEntry {c : CallId} {assetId : Str} {deadline : Nat} {requested : Bool}
      (h : s.calls c = some ⟨assetId, deadline, requested, .checkEntry⟩) :
      Step gunzip s (.checkEntry c) (checkEntry s c ⟨assetId, deadline, requested, .checkEntry⟩)
  | createNotified {c : CallId} {assetId : Str} {deadline : Nat} {requested : Bool}
      (h : s.calls c = some ⟨assetId, deadline, requested, .createNotified⟩) :
      Step gunzip s (.createNotified c) (s.setCall c ⟨assetId, deadline, requested,
        .awaitNotified (s.asset assetId).notify.notified⟩)
  | pollNotified {c : CallId} {assetId : Str} {deadline : Nat} {requested : Bool}
      {future : Notified}
      (h : s.calls c = some ⟨assetId, deadline, requested, .awaitNotified future⟩) :
      Step gunzip s (.pollNotified c)
        (pollNotified s c ⟨assetId, deadline, requested, .awaitNotified future⟩ future)
  | deadlinePasses {c : CallId} {assetId : Str} {deadline : Nat} {requested : Bool}
      {future : Notified}
      (h : s.calls c = some ⟨assetId, deadline, requested, .awaitNotified future⟩)
      (hnow : deadline ≤ s.now) :
      Step gunzip s (.deadlinePasses c)
        (dropNotified s c ⟨assetId, deadline, requested, .awaitNotified future⟩ .testDeadline)
  | cancel {c : CallId} {assetId : Str} {deadline : Nat} {requested : Bool} {future : Notified}
      (h : s.calls c = some ⟨assetId, deadline, requested, .awaitNotified future⟩) :
      Step gunzip s (.cancel c)
        (dropNotified s c ⟨assetId, deadline, requested, .awaitNotified future⟩ .cancelled)
  | dropReceiver : Step gunzip s .dropReceiver { s with receiverDropped := true }
  | tick : Step gunzip s .tick { s with now := s.now + 1 }

variable {gunzip : Bytes → Option Bytes} {s t : State} {a : Action}

theorem step_cases (h : (system gunzip).step s a = some t) : Step gunzip s a t := by
  change step gunzip s a = some t at h
  cases a with
  | acceptUni u recvStream =>
      rw [step] at h
      split at h
      · exact nomatch h
      · rename_i hu
        cases Option.some.inj h
        exact .acceptUni hu
  | readToEnd u upgraded =>
      rw [step] at h
      split at h
      · rename_i key length compression recvStream hu
        cases Option.some.inj h
        cases hdata : receive gunzip length compression recvStream with
        | none => exact .notReceived hu
        | some data =>
            cases upgraded with
            | true => exact .received hu hdata
            | false => exact .notReceived hu
      · exact nomatch h
  | fetchAdd u =>
      rw [step] at h
      split at h
      · rename_i hu
        cases Option.some.inj h
        exact .fetchAdd hu
      · exact nomatch h
  | store u =>
      rw [step] at h
      split at h
      · rename_i hu
        cases Option.some.inj h
        exact .store hu
      · exact nomatch h
  | getAsset c assetId timeout =>
      rw [step] at h
      split at h
      · exact nomatch h
      · rename_i hc
        cases Option.some.inj h
        exact .getAsset hc
  | testDeadline c =>
      rw [step] at h
      split at h
      · rename_i hc
        cases Option.some.inj h
        exact .testDeadline hc
      · exact nomatch h
  | checkEntry c =>
      rw [step] at h
      split at h
      · rename_i hc
        cases Option.some.inj h
        exact .checkEntry hc
      · exact nomatch h
  | createNotified c =>
      rw [step] at h
      split at h
      · rename_i hc
        cases Option.some.inj h
        exact .createNotified hc
      · exact nomatch h
  | pollNotified c =>
      rw [step] at h
      split at h
      · rename_i hc
        split at h
        · exact nomatch h
        · cases Option.some.inj h
          exact .pollNotified hc
      · exact nomatch h
  | deadlinePasses c =>
      rw [step] at h
      split at h
      · rename_i hc
        split at h
        · exact nomatch h
        · rename_i hnow
          cases Option.some.inj h
          exact .deadlinePasses hc (Nat.le_of_not_lt hnow)
      · exact nomatch h
  | cancel c =>
      rw [step] at h
      split at h
      · rename_i hc
        cases Option.some.inj h
        exact .cancel hc
      · exact nomatch h
  | dropReceiver =>
      cases Option.some.inj h
      exact .dropReceiver
  | tick =>
      cases Option.some.inj h
      exact .tick

/-! ## Who touches what -/

namespace State

@[simp] theorem asset_setCall (s : State) (c : CallId) (call : Call) (key : Str) :
    (s.setCall c call).asset key = s.asset key := rfl

@[simp] theorem asset_setUpload (s : State) (u : UploadId) (upload : Upload) (key : Str) :
    (s.setUpload u upload).asset key = s.asset key := rfl

@[simp] theorem calls_setAsset (s : State) (key : Str) (asset : Asset) :
    (s.setAsset key asset).calls = s.calls := rfl

@[simp] theorem calls_setUpload (s : State) (u : UploadId) (upload : Upload) :
    (s.setUpload u upload).calls = s.calls := rfl

@[simp] theorem uploads_setAsset (s : State) (key : Str) (asset : Asset) :
    (s.setAsset key asset).uploads = s.uploads := rfl

@[simp] theorem uploads_setCall (s : State) (c : CallId) (call : Call) :
    (s.setCall c call).uploads = s.uploads := rfl

@[simp] theorem receiverDropped_setAsset (s : State) (key : Str) (asset : Asset) :
    (s.setAsset key asset).receiverDropped = s.receiverDropped := rfl

theorem asset_setAsset (s : State) (key key' : Str) (asset : Asset) :
    (s.setAsset key asset).asset key' = if key' = key then asset else s.asset key' :=
  DashMap.entry_insert s.assetStore key key' asset

/-- A write that leaves the data of the entry as it is. -/
theorem data_setAsset_of_data (s : State) {key : Str} {asset : Asset}
    (h : asset.data = (s.asset key).data) (key' : Str) :
    ((s.setAsset key asset).asset key').data = (s.asset key').data := by
  rw [asset_setAsset]
  by_cases hkey : key' = key
  · rw [if_pos hkey, h, hkey]
  · rw [if_neg hkey]

@[simp] theorem calls_setCall_self (s : State) (c : CallId) (call : Call) :
    (s.setCall c call).calls c = some call := Function.update_self ..

theorem calls_setCall_of_ne (s : State) {c c' : CallId} (h : c' ≠ c) (call : Call) :
    (s.setCall c call).calls c' = s.calls c' := Function.update_of_ne h ..

@[simp] theorem uploads_setUpload_self (s : State) (u : UploadId) (upload : Upload) :
    (s.setUpload u upload).uploads u = some upload := Function.update_self ..

theorem uploads_setUpload_of_ne (s : State) {u u' : UploadId} (h : u' ≠ u) (upload : Upload) :
    (s.setUpload u upload).uploads u' = s.uploads u' := Function.update_of_ne h ..

end State

/-- What a call does under the lock: the entry is there as it was found, and the call
    goes on according to what it holds. -/
theorem checkEntry_eq (s : State) (c : CallId) (call : Call) :
    ∃ requests call', checkEntry s c call
        = State.setCall { s.setAsset call.assetId (s.asset call.assetId) with
            requests := requests } c call' ∧
      ((∃ data, (s.asset call.assetId).data = some data ∧
          call' = { call with place := .returned (.ok (some data)) }) ∨
        (s.asset call.assetId).data = none ∧
            (call.requestedFromServer = true ∨ s.receiverDropped = false) ∧
            call' = { call with requestedFromServer := true, place := .createNotified } ∨
        (s.asset call.assetId).data = none ∧ call.requestedFromServer = false ∧
            s.receiverDropped = true ∧
            call' = { call with
              requestedFromServer := true
              place := .returned (.error (.failedToRequestAsset call.assetId)) }) := by
  obtain ⟨assetId, deadline, requested, place⟩ := call
  cases hdata : (s.asset assetId).data with
  | some data =>
      simp only [checkEntry, hdata]
      exact ⟨s.requests, _, rfl, Or.inl ⟨data, rfl, rfl⟩⟩
  | none =>
      cases requested with
      | true =>
          simp only [checkEntry, hdata, if_true]
          exact ⟨s.requests, _, rfl, Or.inr (Or.inl ⟨trivial, Or.inl trivial, rfl⟩)⟩
      | false =>
          by_cases hdropped : s.receiverDropped = true
          · have heq : checkEntry s c ⟨assetId, deadline, false, place⟩
                = (s.setAsset assetId (s.asset assetId)).setCall c ⟨assetId, deadline, true,
                    .returned (.error (.failedToRequestAsset assetId))⟩ := by
              simp only [checkEntry, hdata, State.receiverDropped_setAsset, hdropped,
                Bool.false_eq_true, if_false, if_true]
            exact ⟨s.requests, _, heq, Or.inr (Or.inr ⟨rfl, rfl, hdropped, rfl⟩)⟩
          · simp only [checkEntry, hdata, State.receiverDropped_setAsset, hdropped,
              Bool.false_eq_true, if_false]
            exact ⟨_, _, rfl, Or.inr (Or.inl ⟨trivial, Or.inr trivial, rfl⟩)⟩

/-- It leaves every entry as it finds it, and the upload tasks alone. -/
theorem checkEntry_spec (s : State) (c : CallId) (call : Call) :
    (∀ key, (checkEntry s c call).asset key = s.asset key) ∧
      (checkEntry s c call).uploads = s.uploads ∧
      ∃ requested place,
        (checkEntry s c call).calls
          = Function.update s.calls c (some ⟨call.assetId, call.deadline, requested, place⟩) ∧
        ((∃ data, (s.asset call.assetId).data = some data ∧ place = .returned (.ok (some data))) ∨
          (s.asset call.assetId).data = none ∧
            (place = .createNotified ∨
              place = .returned (.error (.failedToRequestAsset call.assetId)))) := by
  obtain ⟨requests, call', heq, hcases⟩ := checkEntry_eq s c call
  rw [heq]
  refine ⟨?_, rfl, ?_⟩
  · intro key
    show (s.setAsset call.assetId (s.asset call.assetId)).asset key = s.asset key
    rw [State.asset_setAsset]
    by_cases hkey : key = call.assetId
    · rw [if_pos hkey, hkey]
    · rw [if_neg hkey]
  · rcases hcases with ⟨data, hdata, rfl⟩ | ⟨hnone, -, rfl⟩ | ⟨hnone, -, -, rfl⟩
    · exact ⟨_, _, rfl, Or.inl ⟨data, hdata, rfl⟩⟩
    · exact ⟨_, _, rfl, Or.inr ⟨hnone, Or.inl rfl⟩⟩
    · exact ⟨_, _, rfl, Or.inr ⟨hnone, Or.inr rfl⟩⟩

/-- A poll of a completed future sends the call back to the deadline. -/
theorem pollNotified_of_ready {s : State} {c : CallId} {call : Call} {future : Notified}
    (h : (s.asset call.assetId).notify.ready c future = true) :
    pollNotified s c call future
      = (s.setAsset call.assetId { s.asset call.assetId with
          notify := ((s.asset call.assetId).notify.poll c future).1 }).setCall c
        { call with place := .testDeadline } := by
  simp only [pollNotified, (Notify.poll_snd_eq_none_iff _ c future).mpr h]

/-- A poll of a pending future leaves it pending, as a registered waiter. -/
theorem pollNotified_of_not_ready {s : State} {c : CallId} {call : Call} {future : Notified}
    (h : (s.asset call.assetId).notify.ready c future = false) :
    pollNotified s c call future
      = (s.setAsset call.assetId { s.asset call.assetId with
          notify := ((s.asset call.assetId).notify.poll c future).1 }).setCall c
        { call with place := .awaitNotified .waiting } := by
  simp only [pollNotified, (Notify.poll_of_not_ready h).1]

end Assets

end AmbientProxy
