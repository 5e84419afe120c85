import AmbientProxy.Lib.Wire
import AmbientProxy.Protocol

/-! # The messages of the control stream, in bytes

    `serde` derives the wire form of `ServerMessage` and `ClientMessage` of
    `src/protocol.rs`: a variant index, then the fields in their order.  How `bincode`
    writes the parts is a `Bincode`, and what is said of the messages holds for any:

        texts          those of fewer than `2 ^ 64` bytes can be read back
        SocketAddr     its IP address and its port are written; the `flowinfo` and the
                       `scope_id` of an IPv6 address are not, and are read back as 0

    So what the other machine reads is not the message that was sent, but what is
    `carried` of it. -/

namespace AmbientProxy

/-- The number of bytes of a text. -/
def textLength (s : String) : Nat := s.toByteArray.data.toList.length

/-- The wire forms that those of the messages are put together from. -/
structure Bincode where
  index : Codec UInt32
  uuid : Codec Uuid
  str : Codec Str
  text : Wire String
  socketAddr : Wire SocketAddr
  text_fits_iff : ∀ {s}, text.Fits s ↔ textLength s < 2 ^ 64
  textLength_le : ∀ s, textLength s ≤ (text.encode s).length
  carried_fits : ∀ addr, socketAddr.Fits (SocketAddr.carried addr)
  encode_carried : ∀ addr, socketAddr.encode (SocketAddr.carried addr) = socketAddr.encode addr

/-- An address fits where nothing of it is left out. -/
theorem Bincode.socketAddr_fits_iff (c : Bincode) {addr : SocketAddr} :
    c.socketAddr.Fits addr ↔ addr.carried = addr := by
  constructor
  · intro hfits
    have hsame : c.socketAddr.encode addr.carried ++ [] = c.socketAddr.encode addr ++ [] := by
      rw [c.encode_carried]
    exact (c.socketAddr.encode_inj (c.carried_fits addr) hfits hsame).1
  · intro hcarried
    rw [← hcarried]
    exact c.carried_fits addr

namespace ServerMessage

/-- `Allocation`: its fields in their order. -/
def wireAllocation (c : Bincode) : Wire ServerMessage :=
  ((Wire.ofCodec c.uuid).pair (c.text.pair (c.text.pair c.socketAddr))).embed
    (fun (id, allocatedEndpoint, assetsRoot, externalEndpoint) =>
      .allocation id allocatedEndpoint assetsRoot externalEndpoint)
    (fun
      | .allocation id allocatedEndpoint assetsRoot externalEndpoint =>
          some (id, allocatedEndpoint, assetsRoot, externalEndpoint)
      | _ => none)
    (fun _ => rfl)
    (fun {message _} h => by
      cases message <;> cases h
      rfl)

/-- `PlayerConnected`. -/
def wirePlayerConnected (c : Bincode) : Wire ServerMessage :=
  (Wire.ofCodec c.str).embed .playerConnected
    (fun
      | .playerConnected playerId => some playerId
      | _ => none)
    (fun _ => rfl)
    (fun {message _} h => by
      cases message <;> cases h
      rfl)

/-- `RequestAsset`. -/
def wireRequestAsset (c : Bincode) : Wire ServerMessage :=
  (Wire.ofCodec c.str).embed .requestAsset
    (fun
      | .requestAsset key => some key
      | _ => none)
    (fun _ => rfl)
    (fun {message _} h => by
      cases message <;> cases h
      rfl)

/-- The variant index. -/
def index : ServerMessage → UInt32
  | .allocation _ _ _ _ => 0
  | .playerConnected _ => 1
  | .requestAsset _ => 2

/-- The wire form of each variant. -/
def variant (c : Bincode) (k : UInt32) : Option (Wire ServerMessage) :=
  if k = 0 then some (wireAllocation c)
  else if k = 1 then some (wirePlayerConnected c)
  else if k = 2 then some (wireRequestAsset c)
  else none

theorem index_of_variant {c : Bincode} {k : UInt32} {w : Wire ServerMessage}
    {message : ServerMessage} (hw : variant c k = some w) (hfits : w.Fits message) :
    message.index = k := by
  unfold variant at hw
  split at hw
  · rename_i hk
    cases hw
    obtain ⟨a, ha, -⟩ := hfits
    cases message <;> cases ha
    exact hk.symm
  · split at hw
    · rename_i hk
      cases hw
      obtain ⟨a, ha, -⟩ := hfits
      cases message <;> cases ha
      exact hk.symm
    · split at hw
      · rename_i hk
        cases hw
        obtain ⟨a, ha, -⟩ := hfits
        cases message <;> cases ha
        exact hk.symm
      · cases hw

/-- The wire form of `ServerMessage`. -/
def wire (c : Bincode) : Wire ServerMessage :=
  Wire.choice c.index index (variant c) index_of_variant

/-- The texts of the message have fewer than `2 ^ 64` bytes. -/
def TextsFit : ServerMessage → Prop
  | .allocation _ allocatedEndpoint assetsRoot _ =>
      textLength allocatedEndpoint < 2 ^ 64 ∧ textLength assetsRoot < 2 ^ 64
  | .playerConnected _ | .requestAsset _ => True

variable {c : Bincode} {message : ServerMessage}

/-- A message fits where its texts do, and nothing of it is left out. -/
theorem fits_iff : (wire c).Fits message ↔ message.TextsFit ∧ message.carried = message := by
  cases message with
  | allocation id allocatedEndpoint assetsRoot externalEndpoint =>
      constructor
      · rintro ⟨w, hw, hfits⟩
        cases hw
        obtain ⟨a, ha, -, hendpoint, hroot, haddr⟩ := hfits
        cases ha
        refine ⟨⟨c.text_fits_iff.mp hendpoint, c.text_fits_iff.mp hroot⟩, ?_⟩
        rw [carried, c.socketAddr_fits_iff.mp haddr]
      · rintro ⟨⟨hendpoint, hroot⟩, hcarried⟩
        rw [carried, allocation.injEq] at hcarried
        exact ⟨wireAllocation c, rfl, _, rfl, trivial, c.text_fits_iff.mpr hendpoint,
          c.text_fits_iff.mpr hroot, c.socketAddr_fits_iff.mpr hcarried.2.2.2⟩
  | playerConnected playerId =>
      exact ⟨fun _ => ⟨trivial, rfl⟩, fun _ => ⟨_, rfl, _, rfl, trivial⟩⟩
  | requestAsset key => exact ⟨fun _ => ⟨trivial, rfl⟩, fun _ => ⟨_, rfl, _, rfl, trivial⟩⟩

/-- What is left out is not written. -/
theorem encode_carried (c : Bincode) (message : ServerMessage) :
    (wire c).encode message.carried = (wire c).encode message := by
  cases message with
  | allocation id allocatedEndpoint assetsRoot externalEndpoint =>
      show c.index.encode 0 ++ (c.uuid.encode id ++ (c.text.encode allocatedEndpoint ++
        (c.text.encode assetsRoot ++ c.socketAddr.encode externalEndpoint.carried))) = _
      rw [c.encode_carried]
      rfl
  | playerConnected playerId => rfl
  | requestAsset key => rfl

theorem textsFit_carried : message.carried.TextsFit ↔ message.TextsFit := by
  cases message with
  | _ => exact Iff.rfl

theorem carried_carried : message.carried.carried = message.carried := by
  cases message with
  | allocation id allocatedEndpoint assetsRoot externalEndpoint =>
      rw [carried, carried, externalEndpoint.carried_carried]
  | playerConnected playerId => rfl
  | requestAsset key => rfl

/-- What is carried of a message whose texts fit, fits. -/
theorem carried_fits (h : message.TextsFit) : (wire c).Fits message.carried :=
  fits_iff.mpr ⟨textsFit_carried.mpr h, carried_carried⟩

/-- An encoding of fewer than `2 ^ 64` bytes has such texts only. -/
theorem textsFit_of_length (h : ((wire c).encode message).length < 2 ^ 64) : message.TextsFit := by
  cases message with
  | allocation id allocatedEndpoint assetsRoot externalEndpoint =>
      change (c.index.encode 0 ++ (c.uuid.encode id ++ (c.text.encode allocatedEndpoint ++
        (c.text.encode assetsRoot ++ c.socketAddr.encode externalEndpoint)))).length < _ at h
      simp only [List.length_append] at h
      have hendpoint := c.textLength_le allocatedEndpoint
      have hroot := c.textLength_le assetsRoot
      exact ⟨by omega, by omega⟩
  | playerConnected playerId => trivial
  | requestAsset key => trivial

end ServerMessage

namespace ClientMessage

/-- `AllocateEndpoint`. -/
def wireAllocateEndpoint (c : Bincode) : Wire ClientMessage :=
  c.text.embed .allocateEndpoint (fun (.allocateEndpoint projectId) => some projectId)
    (fun _ => rfl)
    (fun {message _} h => by
      cases message
      cases h
      rfl)

/-- The wire form of `ClientMessage`: one variant, index 0. -/
def wire (c : Bincode) : Wire ClientMessage :=
  Wire.after (c.index.encode 0) (wireAllocateEndpoint c)

/-- The project id has fewer than `2 ^ 64` bytes. -/
def TextsFit : ClientMessage → Prop
  | .allocateEndpoint projectId => textLength projectId < 2 ^ 64

variable {c : Bincode} {message : ClientMessage}

theorem fits_iff : (wire c).Fits message ↔ message.TextsFit := by
  obtain ⟨projectId⟩ := message
  constructor
  · rintro ⟨a, ha, hfits⟩
    cases ha
    exact c.text_fits_iff.mp hfits
  · intro hfits
    exact ⟨projectId, rfl, c.text_fits_iff.mpr hfits⟩

theorem textsFit_of_length (h : ((wire c).encode message).length < 2 ^ 64) : message.TextsFit := by
  obtain ⟨projectId⟩ := message
  change (c.index.encode 0 ++ c.text.encode projectId).length < _ at h
  rw [List.length_append] at h
  have hle := c.textLength_le projectId
  show textLength projectId < 2 ^ 64
  omega

end ClientMessage

/-- **The control messages have one wire form each**, up to what is not written of an
    address.  Bytes are deserialized to a message exactly where they begin with its
    encoding, its texts fit and nothing of it is left out; every message whose texts fit
    comes back as what is carried of it; and the encodings of two messages, whatever
    follows them, are the same only where what is carried of them is. -/
theorem controlMessages_roundTrip (c : Bincode) :
    (∀ message b rest, (ServerMessage.wire c).decode b = some (message, rest) ↔
      b = (ServerMessage.wire c).encode message ++ rest ∧ message.TextsFit ∧
        message.carried = message) ∧
    (∀ message b rest, (ClientMessage.wire c).decode b = some (message, rest) ↔
      b = (ClientMessage.wire c).encode message ++ rest ∧ message.TextsFit) ∧
    (∀ (message : ServerMessage) rest, message.TextsFit →
      (ServerMessage.wire c).decode ((ServerMessage.wire c).encode message ++ rest)
        = some (message.carried, rest)) ∧
    (∀ m m' : ServerMessage, m.TextsFit → m'.TextsFit → ∀ a b,
      (ServerMessage.wire c).encode m ++ a = (ServerMessage.wire c).encode m' ++ b ↔
        m.carried = m'.carried ∧ a = b) ∧
    ∀ m m' : ClientMessage, m.TextsFit → m'.TextsFit → ∀ a b,
      (ClientMessage.wire c).encode m ++ a = (ClientMessage.wire c).encode m' ++ b ↔
        m = m' ∧ a = b := by
  refine ⟨?_, ?_, ?_, ?_, ?_⟩
  · intro message b rest
    rw [Wire.decode_eq_some_iff, ServerMessage.fits_iff]
  · intro message b rest
    rw [Wire.decode_eq_some_iff, ClientMessage.fits_iff]
  · intro message rest hfits
    rw [← ServerMessage.encode_carried]
    exact (ServerMessage.wire c).decode_encode rest (ServerMessage.carried_fits hfits)
  · intro m m' hm hm' a b
    rw [← ServerMessage.encode_carried c m, ← ServerMessage.encode_carried c m']
    constructor
    · exact Wire.encode_inj _ (ServerMessage.carried_fits hm) (ServerMessage.carried_fits hm')
    · rintro ⟨hsame, rfl⟩
      rw [hsame]
  · intro m m' hm hm' a b
    constructor
    · exact Wire.encode_inj _ (ClientMessage.fits_iff.mpr hm) (ClientMessage.fits_iff.mpr hm')
    · rintro ⟨rfl, rfl⟩
      rfl

/-! ## `bincode` with its defaults

    Numbers have a fixed width and are little-endian, the bytes of addresses and ids are in
    their own order.  An enumeration has a 32-bit variant index; a `Uuid` is its 16 bytes,
    and a text its UTF-8 bytes, after their 64-bit number. -/

/-- `Uuid`: a byte string of 16 bytes. -/
def Uuid.wire : Wire Uuid :=
  Wire.after (leBytes 8 16) (Wire.word (n := 128) (k := 16) (Wire.be 16) (fun _ => Iff.rfl) rfl)

/-- `Ipv4Addr` and `Ipv6Addr`: their octets. -/
def IpAddr.wireV4 : Wire (BitVec 32) := Wire.word (k := 4) (Wire.be 4) (fun _ => Iff.rfl) rfl

def IpAddr.wireV6 : Wire (BitVec 128) := Wire.word (k := 16) (Wire.be 16) (fun _ => Iff.rfl) rfl

namespace SocketAddr

/-- A port. -/
def wirePort : Wire UInt16 :=
  (Wire.word (n := 16) (k := 2) (Wire.le 2) (fun _ => Iff.rfl) rfl).embed UInt16.ofBitVec
    (fun port => some port.toBitVec) (fun _ => rfl) (fun h => by cases h; rfl)

/-- `SocketAddr::V4`. -/
def wireV4 : Wire SocketAddr :=
  (IpAddr.wireV4.pair wirePort).embed (fun (octets, port) => .v4 octets port)
    (fun
      | .v4 octets port => some (octets, port)
      | .v6 _ _ _ _ => none)
    (fun _ => rfl)
    (fun {addr _} h => by
      cases addr <;> cases h
      rfl)

/-- `SocketAddr::V6`, with nothing that is not written. -/
def wireV6 : Wire SocketAddr :=
  (IpAddr.wireV6.pair wirePort).embed (fun (octets, port) => .v6 octets port 0 0)
    (fun
      | .v6 octets port flowinfo scopeId =>
          if flowinfo = 0 ∧ scopeId = 0 then some (octets, port) else none
      | .v4 _ _ => none)
    (fun _ => rfl)
    (fun {addr _} h => by
      cases addr with
      | v4 octets port => cases h
      | v6 octets port flowinfo scopeId =>
          dsimp only at h
          split at h
          · rename_i hzero
            obtain ⟨rfl, rfl⟩ := hzero
            cases h
            rfl
          · cases h)

/-- The variant index. -/
def index : SocketAddr → UInt32
  | .v4 _ _ => 0
  | .v6 _ _ _ _ => 1

/-- The wire form of each variant. -/
def variant (k : UInt32) : Option (Wire SocketAddr) :=
  if k = 0 then some wireV4 else if k = 1 then some wireV6 else none

theorem index_of_variant {k : UInt32} {w : Wire SocketAddr} {addr : SocketAddr}
    (hw : variant k = some w) (hfits : w.Fits addr) : addr.index = k := by
  unfold variant at hw
  split at hw
  · rename_i hk
    cases hw
    obtain ⟨a, ha, -⟩ := hfits
    cases addr <;> cases ha
    exact hk.symm
  · split at hw
    · rename_i hk
      cases hw
      obtain ⟨a, ha, -⟩ := hfits
      cases addr with
      | v4 octets port => cases ha
      | v6 octets port flowinfo scopeId => exact hk.symm
    · cases hw

/-- An address that was read, and nothing else. -/
def wireCarried : Wire SocketAddr := Wire.choice Codec.u32 index variant index_of_variant

theorem carried_of_fits {addr : SocketAddr} (h : wireCarried.Fits addr) : addr.carried = addr := by
  obtain ⟨w, hw, hfits⟩ := h
  cases addr with
  | v4 octets port => rfl
  | v6 octets port flowinfo scopeId =>
      cases hw
      obtain ⟨a, ha, -⟩ := hfits
      dsimp only at ha
      split at ha
      · rename_i hzero
        obtain ⟨rfl, rfl⟩ := hzero
        rfl
      · cases ha

/-- The wire form of `SocketAddr`. -/
def wire : Wire SocketAddr := wireCarried.forget carried carried_of_fits

theorem wire_fits (addr : SocketAddr) : wire.Fits addr.carried := by
  have hport : ∀ port, wirePort.Fits port := fun port =>
    ⟨_, rfl, Wire.word_fits (k := 2) (Wire.le 2) (fun _ => Iff.rfl) rfl port.toBitVec⟩
  cases addr with
  | v4 octets port =>
      have hip := Wire.word_fits (k := 4) (Wire.be 4) (fun _ => Iff.rfl) rfl octets
      exact ⟨wireV4, rfl, _, rfl, hip, hport port⟩
  | v6 octets port flowinfo scopeId =>
      have hip := Wire.word_fits (k := 16) (Wire.be 16) (fun _ => Iff.rfl) rfl octets
      exact ⟨wireV6, rfl, _, rfl, hip, hport port⟩

end SocketAddr

/-- `bincode::serialize` and `bincode::deserialize`. -/
def bincode : Bincode where
  index := Codec.u32
  uuid := Uuid.wire.toCodec fun id =>
    Wire.word_fits (k := 16) (Wire.be 16) (fun _ => Iff.rfl) rfl id
  str := Str.codec
  text := Wire.text
  socketAddr := SocketAddr.wire
  text_fits_iff := Iff.rfl
  textLength_le s := by
    rw [Wire.length_encode_text]
    exact Nat.le_add_left _ _
  carried_fits := SocketAddr.wire_fits
  encode_carried addr := by
    show SocketAddr.wireCarried.encode addr.carried.carried = SocketAddr.wireCarried.encode _
    rw [addr.carried_carried]

/-- An endpoint with a scope, and one byte more: the scope is not read back. -/
theorem controlMessages_roundTrip_scoped :
    let endpoint := fun scopeId => ServerMessage.allocation 0 "localhost:9000" "/"
      (.v6 0xFE800000000000000000000000000001 7000 0 scopeId)
    (ServerMessage.wire bincode).decode
        ((ServerMessage.wire bincode).encode (endpoint 2) ++ [0x07])
      = some (endpoint 0, [0x07]) ∧
    (ServerMessage.wire bincode).encode (endpoint 2)
      = (ServerMessage.wire bincode).encode (endpoint 3) := by
  obtain ⟨-, -, hread, hsame, -⟩ := controlMessages_roundTrip bincode
  have hfits : ∀ scopeId, ServerMessage.TextsFit (.allocation 0 "localhost:9000" "/"
      (.v6 0xFE800000000000000000000000000001 7000 0 scopeId)) :=
    fun _ => ⟨by decide, by decide⟩
  refine ⟨hread _ _ (hfits 2), ?_⟩
  have h := (hsame _ _ (hfits 2) (hfits 3) [] []).mpr ⟨rfl, rfl⟩
  rwa [List.append_nil, List.append_nil] at h

end AmbientProxy
