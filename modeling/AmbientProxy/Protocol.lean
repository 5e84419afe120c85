import AmbientProxy.Lib.Codec

/-! # The protocol's messages and their wire form

    `src/protocol.rs`: the messages of the control stream, the headers of
    proxied streams, and the header of datagrams.  `serde` and `bincode` derive
    the wire form of the headers: an enumeration is a 32-bit variant index
    followed by its fields, a structure is its fields, a string is its 64-bit
    length followed by its bytes, all numbers little-endian.

    The texts that travel in a header (`player_id`, `key`, `compression`) are
    `Str`; the texts that the proxy only formats and passes on are `String`. -/

namespace AmbientProxy

/-- `uuid::Uuid`. -/
abbrev Uuid := BitVec 128

/-- `std::net::IpAddr`. -/
inductive IpAddr where
  | v4 (octets : BitVec 32)
  | v6 (octets : BitVec 128)
  deriving DecidableEq, Repr

/-- `std::net::SocketAddr`. -/
inductive SocketAddr where
  | v4 (octets : BitVec 32) (port : UInt16)
  | v6 (octets : BitVec 128) (port : UInt16) (flowinfo scopeId : UInt32)
  deriving DecidableEq, Repr

namespace SocketAddr

/-- `SocketAddr::from((ip, port))`. -/
def new : IpAddr → UInt16 → SocketAddr
  | .v4 octets, port => .v4 octets port
  | .v6 octets, port => .v6 octets port 0 0

def ip : SocketAddr → IpAddr
  | .v4 octets _ => .v4 octets
  | .v6 octets _ _ _ => .v6 octets

def port : SocketAddr → UInt16
  | .v4 _ port => port
  | .v6 _ port _ _ => port

/-- What `serde` carries of an address: its IP address and its port. -/
def carried (addr : SocketAddr) : SocketAddr := new addr.ip addr.port

@[simp] theorem carried_carried (addr : SocketAddr) : addr.carried.carried = addr.carried := by
  cases addr with
  | v4 _ _ => rfl
  | v6 _ _ _ _ => rfl

end SocketAddr

/-- `NO_COMPRESSION`: the empty string. -/
def NO_COMPRESSION : Str := Str.empty

/-- `GZIP_COMPRESSION`: the string `gzip`. -/
def GZIP_COMPRESSION : Str := ⟨[0x67, 0x7A, 0x69, 0x70], rfl, by decide⟩

/-- Messages sent from the proxy to the Ambient server. -/
inductive ServerMessage where
  | allocation (id : Uuid) (allocatedEndpoint : String) (assetsRoot : String)
      (externalEndpoint : SocketAddr)
  | playerConnected (playerId : Str)
  | requestAsset (key : Str)
  deriving DecidableEq

/-- What `serde` carries of a message. -/
def ServerMessage.carried : ServerMessage → ServerMessage
  | .allocation id allocatedEndpoint assetsRoot externalEndpoint =>
      .allocation id allocatedEndpoint assetsRoot externalEndpoint.carried
  | .playerConnected playerId => .playerConnected playerId
  | .requestAsset key => .requestAsset key

/-- Headers for streams sent from the proxy to the Ambient server. -/
inductive ServerStreamHeader where
  | playerStreamOpened (playerId : Str)
  deriving DecidableEq

/-- Messages sent from the Ambient server to the proxy. -/
inductive ClientMessage where
  | allocateEndpoint (projectId : String)
  deriving DecidableEq

/-- Headers for streams sent from the Ambient server to the proxy. -/
inductive ClientStreamHeader where
  | openPlayerStream (playerId : Str)
  | storeAsset (key : Str) (length : UInt32) (compression : Str)
  deriving DecidableEq

/-- Header for datagrams, both ways. -/
structure DatagramInfo where
  playerId : Str
  deriving DecidableEq

/-- What `/stats/ALLOCATION_ID` reports. -/
structure ProxyStats where
  allocatedEndpoint : String
  totalAssetsSize : Nat
  totalAssetsCount : Nat
  playersCount : Nat
  deriving DecidableEq

/-! ## Wire forms -/

/-- The wire form of `DatagramInfo`. -/
def DatagramInfo.codec : Codec DatagramInfo where
  encode h := Str.codec.encode h.playerId
  decode b := do
    let (id, rest) ← Str.codec.decode b
    some (⟨id⟩, rest)
  decode_encode h rest := by
    rw [Codec.decode_encode]; rfl
  encode_decode {b h rest} hd := by
    obtain ⟨⟨id, r⟩, hid, hr⟩ := Option.bind_eq_some_iff.mp hd
    obtain ⟨rfl, rfl⟩ := Prod.mk.inj (Option.some.inj hr)
    exact Str.codec.encode_decode hid

/-- The wire form of `ServerStreamHeader`: one variant, index 0. -/
def ServerStreamHeader.codec : Codec ServerStreamHeader where
  encode
    | .playerStreamOpened id => Codec.u32.encode 0 ++ Str.codec.encode id
  decode b := do
    let (variant, b) ← Codec.u32.decode b
    if variant = 0 then
      let (id, rest) ← Str.codec.decode b
      some (.playerStreamOpened id, rest)
    else none
  decode_encode h rest := by
    obtain ⟨id⟩ := h
    simp [Codec.decode_encode]
  encode_decode {b h rest} hd := by
    obtain ⟨⟨variant, b'⟩, hv, hd⟩ := Option.bind_eq_some_iff.mp hd
    have hb := Codec.u32.encode_decode hv
    simp only at hd
    split at hd
    · rename_i h0
      obtain ⟨⟨id, r⟩, hid, hr⟩ := Option.bind_eq_some_iff.mp hd
      obtain ⟨rfl, rfl⟩ := Prod.mk.inj (Option.some.inj hr)
      show b = Codec.u32.encode 0 ++ Str.codec.encode id ++ r
      rw [hb, h0, Str.codec.encode_decode hid, List.append_assoc]
    · exact nomatch hd

/-- The wire form of `ClientStreamHeader`: `OpenPlayerStream` has index 0 and
    `StoreAsset` index 1. -/
def ClientStreamHeader.codec : Codec ClientStreamHeader where
  encode
    | .openPlayerStream id => Codec.u32.encode 0 ++ Str.codec.encode id
    | .storeAsset key length compression =>
        Codec.u32.encode 1 ++ Str.codec.encode key ++ Codec.u32.encode length
          ++ Str.codec.encode compression
  decode b := do
    let (variant, b) ← Codec.u32.decode b
    if variant = 0 then
      let (id, rest) ← Str.codec.decode b
      some (.openPlayerStream id, rest)
    else if variant = 1 then
      let (key, b) ← Str.codec.decode b
      let (length, b) ← Codec.u32.decode b
      let (compression, rest) ← Str.codec.decode b
      some (.storeAsset key length compression, rest)
    else none
  decode_encode h rest := by
    cases h with
    | openPlayerStream id => simp [Codec.decode_encode]
    | storeAsset key length compression => simp [Codec.decode_encode]
  encode_decode {b h rest} hd := by
    obtain ⟨⟨variant, b'⟩, hv, hd⟩ := Option.bind_eq_some_iff.mp hd
    have hb := Codec.u32.encode_decode hv
    simp only at hd
    split at hd
    · rename_i h0
      obtain ⟨⟨id, r⟩, hid, hr⟩ := Option.bind_eq_some_iff.mp hd
      obtain ⟨rfl, rfl⟩ := Prod.mk.inj (Option.some.inj hr)
      show b = Codec.u32.encode 0 ++ Str.codec.encode id ++ r
      rw [hb, h0, Str.codec.encode_decode hid, List.append_assoc]
    · split at hd
      · rename_i h1
        obtain ⟨⟨key, b1⟩, hkey, hd⟩ := Option.bind_eq_some_iff.mp hd
        obtain ⟨⟨length, b2⟩, hlen, hd⟩ := Option.bind_eq_some_iff.mp hd
        obtain ⟨⟨compression, r⟩, hcomp, hr⟩ := Option.bind_eq_some_iff.mp hd
        obtain ⟨rfl, rfl⟩ := Prod.mk.inj (Option.some.inj hr)
        show b = Codec.u32.encode 1 ++ Str.codec.encode key ++ Codec.u32.encode length
          ++ Str.codec.encode compression ++ r
        have hb' : b' = Str.codec.encode key ++ b1 := Str.codec.encode_decode hkey
        have hb1 : b1 = Codec.u32.encode length ++ b2 := Codec.u32.encode_decode hlen
        have hb2 : b2 = Str.codec.encode compression ++ r := Str.codec.encode_decode hcomp
        rw [hb, h1, hb', hb1, hb2]
        simp only [List.append_assoc]
      · exact nomatch hd

@[simp] theorem DatagramInfo.length_encode (h : DatagramInfo) :
    (DatagramInfo.codec.encode h).length = 8 + h.playerId.bytes.length :=
  Str.length_encode h.playerId

@[simp] theorem ServerStreamHeader.length_encode (id : Str) :
    (ServerStreamHeader.codec.encode (.playerStreamOpened id)).length = 12 + id.bytes.length := by
  show (Codec.u32.encode 0 ++ Str.codec.encode id).length = 12 + id.bytes.length
  rw [List.length_append, Codec.length_encode_u32, Str.length_encode]
  omega

@[simp] theorem ClientStreamHeader.length_encode_openPlayerStream (id : Str) :
    (ClientStreamHeader.codec.encode (.openPlayerStream id)).length = 12 + id.bytes.length := by
  show (Codec.u32.encode 0 ++ Str.codec.encode id).length = 12 + id.bytes.length
  rw [List.length_append, Codec.length_encode_u32, Str.length_encode]
  omega

@[simp] theorem ClientStreamHeader.length_encode_storeAsset (key : Str) (length : UInt32)
    (compression : Str) :
    (ClientStreamHeader.codec.encode (.storeAsset key length compression)).length
      = 24 + key.bytes.length + compression.bytes.length := by
  show (Codec.u32.encode 1 ++ Str.codec.encode key ++ Codec.u32.encode length
    ++ Str.codec.encode compression).length = _
  simp only [List.length_append, Codec.length_encode_u32, Str.length_encode]
  omega

end AmbientProxy
