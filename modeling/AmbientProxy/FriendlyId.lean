import AmbientProxy.Lib.Loops
import AmbientProxy.Lib.Numerals
import AmbientProxy.Streams

/-! # Ids of players — random numbers in base 62

    `src/friendly_id.rs`: a player's id is a random 128-bit number, written in base
    62.  The loop takes the digits off from the end and pushes their letters; at the
    end the letters are turned round:

        num        255 ──▶ 4    ──▶ 0
        bytes      ""  ──▶ "7"  ──▶ "74"   ──▶  "47"

    * `friendlyId_of_le` — the loop ends within 22 turns, with the number's numeral;
    * `friendlyId_fits` — different numbers have different ids, and each of the two
      headers that carry an id is read by the other side. -/

namespace AmbientProxy

namespace FriendlyId

/-- `BASE`. -/
def base : BitVec 128 := 62

/-- `ALPHABET`: the ten digits, the capital letters and the small ones. -/
def alphabet : List UInt8 :=
  [0x30, 0x31, 0x32, 0x33, 0x34, 0x35, 0x36, 0x37, 0x38, 0x39,
   0x41, 0x42, 0x43, 0x44, 0x45, 0x46, 0x47, 0x48, 0x49, 0x4a, 0x4b, 0x4c, 0x4d,
   0x4e, 0x4f, 0x50, 0x51, 0x52, 0x53, 0x54, 0x55, 0x56, 0x57, 0x58, 0x59, 0x5a,
   0x61, 0x62, 0x63, 0x64, 0x65, 0x66, 0x67, 0x68, 0x69, 0x6a, 0x6b, 0x6c, 0x6d,
   0x6e, 0x6f, 0x70, 0x71, 0x72, 0x73, 0x74, 0x75, 0x76, 0x77, 0x78, 0x79, 0x7a]

/-- The digit that is taken off, as a `usize`. -/
def index (num : BitVec 128) : Nat := ((num % base).setWidth 64).toNat

theorem index_eq (num : BitVec 128) : index num = num.toNat % 62 := by
  rw [index, BitVec.toNat_setWidth, BitVec.toNat_umod]
  exact Nat.mod_eq_of_lt (Nat.lt_trans (Nat.mod_lt _ (by decide)) (by decide))

theorem index_lt (num : BitVec 128) : index num < alphabet.length := by
  rw [index_eq]
  exact Nat.mod_lt _ (by decide)

/-- A turn of the loop on `num` and `bytes`. -/
def pushDigit : BitVec 128 × Bytes → Option (BitVec 128 × Bytes)
  | (num, bytes) =>
      if num > 0 then some (num / base, bytes ++ [alphabet.get ⟨index num, index_lt num⟩])
      else none

/-- `String::from_utf8(bytes).unwrap()`: no vector has more than 2^64 elements. -/
def fromUtf8 (bytes : Bytes) : Outcome Str :=
  if h : validUtf8 bytes = true ∧ bytes.length < 2 ^ 64 then .ok ⟨bytes, h.1, h.2⟩ else .panic

end FriendlyId

open FriendlyId

/-- `friendly_id` on the random number `num`: `none` where the loop goes on after
    `fuel` turns. -/
def friendlyId (fuel : Nat) (num : BitVec 128) : Option (Outcome Str) :=
  (Loops.run pushDigit fuel (num, [])).map fun s => fromUtf8 s.2.reverse

-- the second one is the empty text: 0 has no digits
example : friendlyId 2 255 = some (.ok ⟨[0x34, 0x37], rfl, by decide⟩) := by decide
example : friendlyId 0 0 = some (.ok .empty) := rfl

/-! ## The numeral of a number -/

namespace FriendlyId

variable {num n : BitVec 128} {bytes : Bytes} {s s' : BitVec 128 × Bytes} {fuel : Nat}

/-- The notation with the letters of `ALPHABET`. -/
def base62 : Numerals.Alphabet UInt8 where
  letters := alphabet
  nodup := by decide
  two_le := by decide

theorem letter_index (num : BitVec 128) :
    alphabet.get ⟨index num, index_lt num⟩ = base62.letter num.toNat := by
  have hindex : (⟨index num, index_lt num⟩ : Fin alphabet.length)
      = ⟨num.toNat % base62.base, Nat.mod_lt _ base62.base_pos⟩ := Fin.ext (index_eq num)
  rw [hindex]
  rfl

theorem pushDigit_eq_some (h : pushDigit (num, bytes) = some s') :
    0 < num.toNat ∧ s'.1.toNat = num.toNat / 62 ∧
      s'.2 = bytes ++ [base62.letter num.toNat] := by
  rw [pushDigit] at h
  split at h
  · rename_i hpos
    cases h
    refine ⟨hpos, ?_, ?_⟩
    · exact BitVec.toNat_udiv
    · show bytes ++ [_] = bytes ++ [_]
      rw [letter_index]
  · cases h

theorem pushDigit_eq_none (h : pushDigit s = none) : s.1.toNat = 0 := by
  obtain ⟨num, bytes⟩ := s
  rw [pushDigit] at h
  split at h
  · cases h
  · rename_i hzero
    exact Nat.eq_zero_of_not_pos hzero

/-- The letters that were pushed and those that are still to be pushed are the
    numeral of `n`, from its end. -/
def Pushing (n : BitVec 128) (s : BitVec 128 × Bytes) : Prop :=
  s.2 ++ (base62.write s.1.toNat).reverse = (base62.write n.toNat).reverse

/-- A turn pushes one of the letters that are still to be pushed. -/
theorem Pushing.turn (hs : Pushing n s) (h : pushDigit s = some s') :
    Pushing n s' ∧ (base62.write s'.1.toNat).length < (base62.write s.1.toNat).length := by
  obtain ⟨num, bytes⟩ := s
  obtain ⟨hpos, hnum, hbytes⟩ := pushDigit_eq_some h
  have hwrite : base62.write num.toNat
      = base62.write s'.1.toNat ++ [base62.letter num.toNat] := by
    rw [hnum]
    exact base62.write_of_pos hpos
  constructor
  · rw [Pushing, hwrite, List.reverse_append] at hs
    rw [Pushing, hbytes, List.append_assoc]
    exact hs
  · show _ < (base62.write num.toNat).length
    rw [hwrite, List.length_append]
    exact Nat.lt_succ_self _

/-- A 128-bit number has at most 22 digits. -/
theorem length_write_le (n : BitVec 128) : (base62.write n.toNat).length ≤ 22 := by
  rw [base62.length_write_le_iff]
  exact Nat.lt_of_lt_of_le n.isLt (by decide)

/-- **The loop ends within 22 turns**, with the letters of all digits. -/
theorem run_pushDigit (n : BitVec 128) (hfuel : 22 ≤ fuel) :
    ∃ t, Loops.run pushDigit fuel (n, []) = some t ∧ t.2.reverse = base62.write n.toNat := by
  have hstart : Pushing n (n, []) := List.nil_append _
  obtain ⟨t, hrun, ht, hend⟩ := Loops.run_total (fun hs h => Pushing.turn hs h) hstart
    (Nat.le_trans (length_write_le n) hfuel)
  refine ⟨t, hrun, ?_⟩
  rw [Pushing, pushDigit_eq_none hend, base62.write_zero, List.reverse_nil, List.append_nil] at ht
  rw [ht, List.reverse_reverse]

theorem ascii_of_mem_alphabet : ∀ b ∈ alphabet, b < 0x80 := by
  have hall : alphabet.all (fun b => decide (b < 0x80)) = true := by decide
  intro b hb
  exact of_decide_eq_true (List.all_eq_true.mp hall b hb)

/-- The id that is made from a number. -/
def idOf (n : BitVec 128) : Str where
  bytes := base62.write n.toNat
  valid := validUtf8_of_ascii fun b hb => ascii_of_mem_alphabet b (base62.mem_of_mem_write hb)
  bound := Nat.lt_of_le_of_lt (length_write_le n) (by decide)

theorem fromUtf8_bytes (s : Str) : fromUtf8 s.bytes = .ok s := dif_pos ⟨s.valid, s.bound⟩

theorem idOf_injective : Function.Injective idOf := by
  intro m n h
  exact BitVec.eq_of_toNat_eq (base62.write_injective (congrArg Str.bytes h))

end FriendlyId

variable {n : BitVec 128} {fuel : Nat}

theorem friendlyId_of_le (hfuel : 22 ≤ fuel) : friendlyId fuel n = some (.ok (idOf n)) := by
  obtain ⟨t, hrun, ht⟩ := run_pushDigit n hfuel
  rw [friendlyId, hrun, Option.map_some, ht]
  exact congrArg some (fromUtf8_bytes (idOf n))

/-- Where the loop ended, the bound did not matter. -/
theorem friendlyId_eq_some {id : Outcome Str} (h : friendlyId fuel n = some id) :
    id = .ok (idOf n) := by
  obtain ⟨t, hrun, ht⟩ := Option.map_eq_some_iff.mp h
  have hmore : Loops.run pushDigit (fuel + 22) (n, []) = some t :=
    Loops.run_of_le (Nat.le_add_right _ _) hrun
  have hall : friendlyId (fuel + 22) n = some id := by
    rw [friendlyId, hmore, Option.map_some, ht]
  exact Option.some.inj (hall.symm.trans (friendlyId_of_le (Nat.le_add_left _ _)))

/-! ## Ids in headers -/

/-- A header fits: whatever is written behind it and however the bytes arrive, a read
    with the limit 1024 gives it back and leaves what is behind it. -/
def Fits {T : Type} (c : Codec T) (header : T) : Prop :=
  ∀ (r : RecvStream) (w : Bytes), r.bytes = ((writeFramed c {} header).writeAll w).written →
    ∃ r', readFramed c r 1024 = .ok (header, r') ∧ r'.bytes = w ∧ r'.ending = r.ending

theorem fits_of_length_le {T : Type} {c : Codec T} {header : T}
    (h : (c.encode header).length ≤ 1024) : Fits c header := by
  intro r w hr
  exact readFramed_framed c header 1024 h hr

theorem fits_playerStreamOpened (n : BitVec 128) :
    Fits ServerStreamHeader.codec (.playerStreamOpened (idOf n)) := by
  refine fits_of_length_le ?_
  rw [ServerStreamHeader.length_encode]
  exact Nat.le_trans (Nat.add_le_add_left (length_write_le n) 12) (by decide)

theorem fits_openPlayerStream (n : BitVec 128) :
    Fits ClientStreamHeader.codec (.openPlayerStream (idOf n)) := by
  refine fits_of_length_le ?_
  rw [ClientStreamHeader.length_encode_openPlayerStream]
  exact Nat.le_trans (Nat.add_le_add_left (length_write_le n) 12) (by decide)

/-- A stream that a player opens is accepted by the game server under the player's id. -/
theorem Fits.readStreamInfo {id : Str} {r playerStream : RecvStream}
    (h : Fits ServerStreamHeader.codec (.playerStreamOpened id))
    (hr : r.bytes = (PlayerConnection.handleUni id playerStream).written) :
    ∃ r', Client.readStreamInfo r = .ok (id, r') ∧ r'.bytes = playerStream.bytes := by
  obtain ⟨r', hread, hbytes, -⟩ := h r playerStream.bytes hr
  refine ⟨r', ?_, hbytes⟩
  rw [Client.readStreamInfo, hread]
  rfl

/-- A stream that the game server opens is taken by the proxy for the player with the
    id, by either handler. -/
theorem Fits.readHeader {id : Str} {r : RecvStream} {w : Bytes}
    (h : Fits ClientStreamHeader.codec (.openPlayerStream id))
    (hr : r.bytes = ((ProxiedConnection.openStream id).writeAll w).written) :
    ∃ r', ProxyServer.readHeader r = .ok (.openPlayerStream id, r') ∧
      ProxyServer.readBiHeader r = .ok (id, r') ∧ r'.bytes = w := by
  obtain ⟨r', hread, hbytes, -⟩ := h r w hr
  refine ⟨r', hread, ?_, hbytes⟩
  rw [ProxyServer.readBiHeader, hread]
  rfl

/-- **Ids of players are unique names that fit a header.**  For every number the loop
    ends, with a text of at most 22 letters; the number is recovered from it, so no
    other number gives the same id; and both headers that carry the id are read by
    the other side's `read_framed`, and so by its handlers. -/
theorem friendlyId_fits (n : BitVec 128) :
    ∃ id : Str,
      (∀ fuel, 22 ≤ fuel → friendlyId fuel n = some (.ok id)) ∧
      (∀ b ∈ id.bytes, b ∈ alphabet) ∧ id.bytes.length ≤ 22 ∧
      base62.value id.bytes = n.toNat ∧
      (∀ fuel m, friendlyId fuel m = some (.ok id) → m = n) ∧
      Fits ServerStreamHeader.codec (.playerStreamOpened id) ∧
      Fits ClientStreamHeader.codec (.openPlayerStream id) ∧
      (∀ r playerStream, r.bytes = (PlayerConnection.handleUni id playerStream).written →
        ∃ r', Client.readStreamInfo r = .ok (id, r') ∧ r'.bytes = playerStream.bytes) ∧
      ∀ r w, r.bytes = ((ProxiedConnection.openStream id).writeAll w).written →
        ∃ r', ProxyServer.readHeader r = .ok (.openPlayerStream id, r') ∧
          ProxyServer.readBiHeader r = .ok (id, r') ∧ r'.bytes = w := by
  have hserver := fits_playerStreamOpened n
  have hclient := fits_openPlayerStream n
  refine ⟨idOf n, fun fuel => friendlyId_of_le, fun b => base62.mem_of_mem_write,
    length_write_le n, base62.value_write n.toNat, ?_, hserver, hclient, ?_, ?_⟩
  · intro fuel m h
    exact idOf_injective (Outcome.ok.inj (friendlyId_eq_some h)).symm
  · intro r playerStream hr
    exact hserver.readStreamInfo hr
  · intro r w hr
    exact hclient.readHeader hr

/-- The id of 255 is not that of 254; a header with it is read where it arrives in one
    piece, and where two bytes follow in a second one. -/
theorem friendlyId_fits_255 :
    ∃ id : Str, friendlyId 22 255 = some (.ok id) ∧ friendlyId 22 254 ≠ some (.ok id) ∧
      (∃ r', readFramed ServerStreamHeader.codec
        ⟨[(writeFramed ServerStreamHeader.codec {} (.playerStreamOpened id)).written], .finished⟩
        1024 = .ok (.playerStreamOpened id, r')) ∧
      ∃ r', ProxyServer.readBiHeader
        ⟨[(ProxiedConnection.openStream id).written, [1, 2]], .finished⟩ = .ok (id, r') := by
  obtain ⟨id, hid, -, -, -, hunique, hserver, -, -, hclient⟩ := friendlyId_fits 255
  refine ⟨id, hid 22 (Nat.le_refl 22), ?_, ?_, ?_⟩
  · intro h
    cases hunique 22 254 h
  · obtain ⟨r', hread, -⟩ := hserver
      ⟨[(writeFramed ServerStreamHeader.codec {} (.playerStreamOpened id)).written], .finished⟩
      [] rfl
    exact ⟨r', hread⟩
  · obtain ⟨r', -, hread, -⟩ := hclient ⟨[_, [1, 2]], .finished⟩ [1, 2] rfl
    exact ⟨r', hread⟩

end AmbientProxy
