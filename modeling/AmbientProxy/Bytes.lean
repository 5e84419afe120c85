import AmbientProxy.Error

/-! # Length-prefixed headers on datagrams

    `src/bytes.rs`: `prefix` puts a header in front of a datagram, after the
    header's length as a big-endian 32-bit word, and `drop_prefix` takes it off.

    * `dropPrefix_addPrefix` — the two are inverse for every header whose
      encoding is shorter than `2 ^ 32` bytes, whatever the payload is;
    * `dropPrefix_addPrefix_of_le` — for a longer header the length field wraps
      and `drop_prefix` rejects the datagram: it never gives it another header;
    * `dropPrefix_eq_claimed_iff` — the source does NOT check the datagram's
      length before it reads the length field or slices: on exactly the
      datagrams that are not `WellFramed` it panics, where its return type
      promises an error. -/

namespace AmbientProxy

variable {T : Type}

/-- `bincode::serialize`. -/
def serialize (c : Codec T) (value : T) : Bytes := c.encode value

/-- `bincode::deserialize`: bytes after the value are allowed. -/
def deserialize (c : Codec T) (data : Bytes) : Option T := (c.decode data).map Prod.fst

/-- The number a byte string denotes, most significant byte first. -/
def ofBe (bs : Bytes) : Nat := ofLe bs.reverse

/-- `BufMut::put_u32`: a 32-bit word, big-endian. -/
def putU32 (n : UInt32) : Bytes := (leBytes 4 n.toNat).reverse

/-- `Buf::get_u32`: it panics when fewer than four bytes remain. -/
def getU32 (data : Bytes) : Outcome (UInt32 × Bytes) :=
  if data.length < 4 then .panic
  else .ok (UInt32.ofNat (ofBe (data.take 4)), data.drop 4)

/-- `&data[..n]`: slicing past the end panics. -/
def sliceTo (data : Bytes) (n : Nat) : Outcome Bytes :=
  if data.length < n then .panic else .ok (data.take n)

/-- `prefix`: the header's length is cast to 32 bits. -/
def addPrefix (serialize : T → Bytes) (header : T) (data : Bytes) : Bytes :=
  let header := serialize header
  putU32 (UInt32.ofNat header.length) ++ header ++ data

/-- `drop_prefix`. -/
def dropPrefix (deserialize : Bytes → Option T) (data : Bytes) : Outcome (T × Bytes) := do
  let (headerLen, data) ← getU32 data
  let header ← sliceTo data headerLen.toNat
  let header ← Outcome.ofOption .badMsgFormat (deserialize header)
  pure (header, data.drop headerLen.toNat)

/-! ## The length field -/

@[simp] theorem length_putU32 (n : UInt32) : (putU32 n).length = 4 := by
  rw [putU32, List.length_reverse, length_leBytes]

theorem ofBe_putU32 (n : UInt32) : ofBe (putU32 n) = n.toNat := by
  have hlt : n.toNat < 256 ^ 4 := n.toNat_lt
  rw [ofBe, putU32, List.reverse_reverse, ofLe_leBytes, Nat.mod_eq_of_lt hlt]

/-- Four bytes denote a number that fits a 32-bit word. -/
theorem ofBe_lt {b : Bytes} (hb : b.length ≤ 4) : ofBe b < 2 ^ 32 := by
  have h := ofLe_lt b.reverse
  rw [List.length_reverse] at h
  calc ofBe b < 256 ^ b.length := h
    _ ≤ 256 ^ 4 := Nat.pow_le_pow_right (by decide) hb

/-- The header length that a datagram announces in its first four bytes. -/
def announcedLength (b : Bytes) : Nat := ofBe (b.take 4)

/-- The length field is there, and the header it announces is too. -/
def WellFramed (b : Bytes) : Prop := 4 ≤ b.length ∧ announcedLength b ≤ b.length - 4

instance (b : Bytes) : Decidable (WellFramed b) := inferInstanceAs (Decidable (_ ∧ _))

/-- `drop_prefix` on a well-framed datagram: it decodes or it is an error. -/
theorem dropPrefix_of_wellFramed (deserialize : Bytes → Option T) {b : Bytes}
    (hb : WellFramed b) :
    dropPrefix deserialize b
      = (Outcome.ofOption .badMsgFormat (deserialize ((b.drop 4).take (announcedLength b)))
          >>= fun header => .ok (header, b.drop (4 + announcedLength b))) := by
  obtain ⟨h4, hn⟩ := hb
  have hlt : announcedLength b < 2 ^ 32 := ofBe_lt (by rw [List.length_take]; omega)
  have hn32 : (UInt32.ofNat (announcedLength b)).toNat = announcedLength b :=
    UInt32.toNat_ofNat_of_lt' hlt
  have hget : getU32 b = .ok (UInt32.ofNat (announcedLength b), b.drop 4) := if_neg (by omega)
  have hslice : sliceTo (b.drop 4) (announcedLength b)
      = .ok ((b.drop 4).take (announcedLength b)) := if_neg (by rw [List.length_drop]; omega)
  rw [dropPrefix, hget, Outcome.ok_bind]
  simp only [hn32]
  rw [hslice, Outcome.ok_bind]
  simp only [Outcome.pure_eq, List.drop_drop]

/-- `drop_prefix` on any other datagram panics. -/
theorem dropPrefix_of_not_wellFramed (deserialize : Bytes → Option T) {b : Bytes}
    (hb : ¬ WellFramed b) : dropPrefix deserialize b = .panic := by
  by_cases h4 : b.length < 4
  · have hget : getU32 b = .panic := if_pos h4
    rw [dropPrefix, hget, Outcome.panic_bind]
  · have hn : ¬ announcedLength b ≤ b.length - 4 := fun hle => hb ⟨by omega, hle⟩
    have hlt : announcedLength b < 2 ^ 32 := ofBe_lt (by rw [List.length_take]; omega)
    have hn32 : (UInt32.ofNat (announcedLength b)).toNat = announcedLength b :=
      UInt32.toNat_ofNat_of_lt' hlt
    have hget : getU32 b = .ok (UInt32.ofNat (announcedLength b), b.drop 4) := if_neg h4
    have hslice : sliceTo (b.drop 4) (announcedLength b) = .panic :=
      if_pos (by rw [List.length_drop]; omega)
    rw [dropPrefix, hget, Outcome.ok_bind]
    simp only [hn32]
    rw [hslice, Outcome.panic_bind]

/-- What the return type of `drop_prefix` promises: the header and the rest
    where the datagram has them, an error everywhere else. -/
def claimedDropPrefix (deserialize : Bytes → Option T) (b : Bytes) : Outcome (T × Bytes) :=
  if 4 ≤ b.length ∧ announcedLength b ≤ b.length - 4 then
    match deserialize ((b.drop 4).take (announcedLength b)) with
    | some header => .ok (header, b.drop (4 + announcedLength b))
    | none => .err .badMsgFormat
  else .err .badMsgFormat

/-- **`drop_prefix` keeps its promise on exactly the well-framed datagrams.** -/
theorem dropPrefix_eq_claimed_iff (deserialize : Bytes → Option T) (b : Bytes) :
    dropPrefix deserialize b = claimedDropPrefix deserialize b ↔ WellFramed b := by
  constructor
  · intro h
    by_contra hb
    have herr : claimedDropPrefix deserialize b = .err .badMsgFormat := if_neg hb
    rw [dropPrefix_of_not_wellFramed deserialize hb, herr] at h
    exact nomatch h
  · intro hb
    rw [dropPrefix_of_wellFramed deserialize hb, claimedDropPrefix]
    obtain ⟨h4, hn⟩ := hb
    rw [if_pos ⟨h4, hn⟩]
    cases deserialize ((b.drop 4).take (announcedLength b)) with
    | some header => rfl
    | none => rfl

/-! ## Round trips -/

/-- What `prefix` writes is well framed: the wrapped length is never too long. -/
theorem wellFramed_addPrefix (serialize : T → Bytes) (h : T) (d : Bytes) :
    WellFramed (addPrefix serialize h d) ∧
      announcedLength (addPrefix serialize h d) = (serialize h).length % 2 ^ 32 := by
  have hlen : (putU32 (UInt32.ofNat (serialize h).length)).length = 4 := length_putU32 _
  have hann : announcedLength (addPrefix serialize h d) = (serialize h).length % 2 ^ 32 := by
    rw [announcedLength, addPrefix, List.append_assoc, List.take_left' hlen, ofBe_putU32,
      UInt32.toNat_ofNat']
  have htotal : (addPrefix serialize h d).length = 4 + (serialize h).length + d.length := by
    rw [addPrefix, List.length_append, List.length_append, hlen]
  have hle : (serialize h).length % 2 ^ 32 ≤ (serialize h).length := Nat.mod_le _ _
  refine ⟨⟨by omega, ?_⟩, hann⟩
  rw [hann]
  omega

theorem drop_four_addPrefix (serialize : T → Bytes) (h : T) (d : Bytes) :
    (addPrefix serialize h d).drop 4 = serialize h ++ d := by
  rw [addPrefix, List.append_assoc, List.drop_left' (length_putU32 _)]

/-- **Round trip**: the header and the payload come back, byte for byte. -/
theorem dropPrefix_addPrefix (c : Codec T) (h : T) (d : Bytes)
    (hlen : (serialize c h).length < 2 ^ 32) :
    dropPrefix (deserialize c) (addPrefix (serialize c) h d) = .ok (h, d) := by
  obtain ⟨hframed, hann⟩ := wellFramed_addPrefix (serialize c) h d
  rw [Nat.mod_eq_of_lt hlen] at hann
  have hdec : deserialize c (serialize c h) = some h := by
    rw [deserialize, serialize, c.decode_encode_nil, Option.map_some]
  rw [dropPrefix_of_wellFramed _ hframed, ← List.drop_drop, drop_four_addPrefix, hann,
    List.take_left, List.drop_left, hdec]
  rfl

/-- A header of `2 ^ 32` bytes or more: the datagram is rejected. -/
theorem dropPrefix_addPrefix_of_le (c : Codec T) (h : T) (d : Bytes)
    (hlen : 2 ^ 32 ≤ (serialize c h).length) :
    dropPrefix (deserialize c) (addPrefix (serialize c) h d) = .err .badMsgFormat := by
  obtain ⟨hframed, hann⟩ := wellFramed_addPrefix (serialize c) h d
  have hlt : (serialize c h).length % 2 ^ 32 < (serialize c h).length :=
    lt_of_lt_of_le (Nat.mod_lt _ (by decide)) hlen
  have hdec : deserialize c ((serialize c h).take ((serialize c h).length % 2 ^ 32)) = none :=
    congrArg (Option.map Prod.fst) (c.decode_take_encode h hlt)
  rw [dropPrefix_of_wellFramed _ hframed, drop_four_addPrefix, hann,
    List.take_append_of_le_length (le_of_lt hlt), hdec]
  rfl

end AmbientProxy
