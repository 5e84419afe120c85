import AmbientProxy.Lib.Codec

/-! # Wire forms — codecs of values that fit

    A `Codec` encodes every value of its type.  Most types of a program are larger than
    what a format can carry: a text has any length, its length field has 64 bits.  A
    `Wire T` says which values fit, and its two laws are those of a codec for these:

        decode (encode x ++ rest) = (x, rest)     where x fits
        decode b = (x, rest)                      only where b = encode x ++ rest and x fits

    The laws are fields, so that a wire form that breaks one cannot be built.  Wire forms
    of records and enumerations are put together from those of their parts: `pair`,
    `embed`, `after`, and `choice` for a variant index; `forget` is for a part that is not
    written at all.

    `decode_eq_some_iff` — decoding is the inverse of encoding on what fits, and
    `encode_inj` — two values that fit have different encodings, none of which continues
    the other. -/

/-- A self-delimiting encoding of those values of `T` that fit. -/
structure Wire (T : Type) where
  Fits : T → Prop
  encode : T → Bytes
  decode : Bytes → Option (T × Bytes)
  decode_encode : ∀ {x} rest, Fits x → decode (encode x ++ rest) = some (x, rest)
  encode_decode : ∀ {b x rest}, decode b = some (x, rest) → b = encode x ++ rest ∧ Fits x

namespace Wire

variable {T A B : Type}

theorem decode_encode_nil (w : Wire T) {x : T} (hx : w.Fits x) :
    w.decode (w.encode x) = some (x, []) := by
  have h := w.decode_encode [] hx
  rwa [List.append_nil] at h

/-- **Decoding inverts encoding, and nothing else decodes.** -/
theorem decode_eq_some_iff (w : Wire T) {b rest : Bytes} {x : T} :
    w.decode b = some (x, rest) ↔ b = w.encode x ++ rest ∧ w.Fits x := by
  constructor
  · exact w.encode_decode
  · rintro ⟨rfl, hx⟩
    exact w.decode_encode rest hx

/-- **Encodings are never confused**, whatever follows them. -/
theorem encode_inj (w : Wire T) {x y : T} {a b : Bytes} (hx : w.Fits x) (hy : w.Fits y)
    (h : w.encode x ++ a = w.encode y ++ b) : x = y ∧ a = b := by
  have hdecode := w.decode_encode a hx
  rw [h, w.decode_encode b hy] at hdecode
  cases hdecode
  exact ⟨rfl, rfl⟩

/-- What bytes stand for that may go on after it. -/
def read (w : Wire T) (b : Bytes) : Option T := (w.decode b).map Prod.fst

theorem read_encode (w : Wire T) {x : T} (hx : w.Fits x) : w.read (w.encode x) = some x := by
  rw [read, w.decode_encode_nil hx, Option.map_some]

/-- A codec: everything fits. -/
def ofCodec (c : Codec T) : Wire T where
  Fits _ := True
  encode := c.encode
  decode := c.decode
  decode_encode rest _ := c.decode_encode _ rest
  encode_decode h := ⟨c.encode_decode h, trivial⟩

/-- Where everything fits there is a codec. -/
def toCodec (w : Wire T) (hfits : ∀ x, w.Fits x) : Codec T where
  encode := w.encode
  decode := w.decode
  decode_encode x rest := w.decode_encode rest (hfits x)
  encode_decode h := (w.encode_decode h).1

/-- One value after the other. -/
def pair (v : Wire A) (w : Wire B) : Wire (A × B) where
  Fits x := v.Fits x.1 ∧ w.Fits x.2
  encode x := v.encode x.1 ++ w.encode x.2
  decode b := do
    let (x, b) ← v.decode b
    let (y, rest) ← w.decode b
    some ((x, y), rest)
  decode_encode {x} rest h := by
    rw [List.append_assoc, v.decode_encode _ h.1, Option.bind_eq_bind, Option.bind_some]
    dsimp only
    rw [w.decode_encode _ h.2, Option.bind_eq_bind, Option.bind_some]
  encode_decode {b x rest} h := by
    obtain ⟨⟨y, b'⟩, hy, h⟩ := Option.bind_eq_some_iff.mp h
    obtain ⟨⟨z, b''⟩, hz, h⟩ := Option.bind_eq_some_iff.mp h
    cases h
    obtain ⟨hb, hfy⟩ := v.encode_decode hy
    obtain ⟨hb', hfz⟩ := w.encode_decode hz
    change b' = w.encode z ++ rest at hb'
    exact ⟨by rw [hb, hb', List.append_assoc], hfy, hfz⟩

/-- The same values under another type: `g` undoes `f` on what fits, and `f` undoes `g`
    where `g` is defined. -/
def embed (w : Wire A) (f : A → T) (g : T → Option A) (hgf : ∀ {a}, w.Fits a → g (f a) = some a)
    (hfg : ∀ {x a}, g x = some a → f a = x) : Wire T where
  Fits x := ∃ a, g x = some a ∧ w.Fits a
  encode x := (g x).elim [] w.encode
  decode b := (w.decode b).map fun (a, rest) => (f a, rest)
  decode_encode {x} rest h := by
    obtain ⟨a, ha, hfits⟩ := h
    rw [ha, Option.elim_some, w.decode_encode rest hfits, Option.map_some]
    dsimp only
    rw [hfg ha]
  encode_decode {b x rest} h := by
    obtain ⟨⟨a, rest'⟩, ha, h⟩ := Option.map_eq_some_iff.mp h
    cases h
    obtain ⟨hb, hfits⟩ := w.encode_decode ha
    exact ⟨by rw [hgf hfits, Option.elim_some, hb], a, hgf hfits, hfits⟩

/-- A constant header, which must be there. -/
def after (header : Bytes) (w : Wire T) : Wire T where
  Fits := w.Fits
  encode x := header ++ w.encode x
  decode b := if header <+: b then w.decode (b.drop header.length) else none
  decode_encode {x} rest h := by
    rw [List.append_assoc, if_pos (List.prefix_append _ _), List.drop_left' rfl,
      w.decode_encode rest h]
  encode_decode {b x rest} h := by
    split at h
    · rename_i hheader
      obtain ⟨tail, rfl⟩ := hheader
      rw [List.drop_left' rfl] at h
      obtain ⟨htail, hfits⟩ := w.encode_decode h
      exact ⟨by rw [htail, List.append_assoc], hfits⟩
    · cases h

/-- A value of which only a part is written, and what is written fits. -/
def forget (w : Wire T) (carried : T → T) (hcarried : ∀ {x}, w.Fits x → carried x = x) :
    Wire T where
  Fits := w.Fits
  encode x := w.encode (carried x)
  decode := w.decode
  decode_encode {x} rest h := by
    rw [hcarried h]
    exact w.decode_encode rest h
  encode_decode {b x rest} h := by
    obtain ⟨hb, hfits⟩ := w.encode_decode h
    rw [hcarried hfits]
    exact ⟨hb, hfits⟩

/-- An enumeration: a variant index, then the wire form of the variant. -/
def choice {K : Type} (c : Codec K) (index : T → K) (variant : K → Option (Wire T))
    (hindex : ∀ {k w x}, variant k = some w → w.Fits x → index x = k) : Wire T where
  Fits x := ∃ w, variant (index x) = some w ∧ w.Fits x
  encode x := c.encode (index x) ++ (variant (index x)).elim [] fun w => w.encode x
  decode b := do
    let (k, b) ← c.decode b
    let w ← variant k
    w.decode b
  decode_encode {x} rest h := by
    obtain ⟨w, hw, hfits⟩ := h
    rw [List.append_assoc, Codec.decode_encode, Option.bind_eq_bind, Option.bind_some]
    dsimp only
    rw [hw, Option.bind_eq_bind, Option.bind_some, Option.elim_some]
    exact w.decode_encode rest hfits
  encode_decode {b x rest} h := by
    obtain ⟨⟨k, b'⟩, hk, h⟩ := Option.bind_eq_some_iff.mp h
    obtain ⟨w, hw, h⟩ := Option.bind_eq_some_iff.mp h
    obtain ⟨hb', hfits⟩ := w.encode_decode h
    have hb := c.encode_decode hk
    cases hindex hw hfits
    refine ⟨?_, w, hw, hfits⟩
    rw [hb, hw, Option.elim_some, hb', List.append_assoc]

/-! ## Numbers -/

/-- The `k` bytes of a number below `256 ^ k`, in an order that `turn` makes of the
    little-endian one and undoes. -/
def number (k : Nat) (turn : Bytes → Bytes) (hturn : ∀ b, turn (turn b) = b)
    (hlength : ∀ b, (turn b).length = b.length) : Wire Nat where
  Fits n := n < 256 ^ k
  encode n := turn (leBytes k n)
  decode b := if b.length < k then none else some (ofLe (turn (b.take k)), b.drop k)
  decode_encode {n} rest h := by
    have hlen : (turn (leBytes k n)).length = k := by
      rw [hlength, length_leBytes]
    rw [if_neg (by rw [List.length_append, hlen]; omega), List.take_left' hlen,
      List.drop_left' hlen, hturn, ofLe_leBytes, Nat.mod_eq_of_lt h]
  encode_decode {b n rest} h := by
    split at h
    · cases h
    · rename_i hlen
      cases h
      have htake : (turn (b.take k)).length = k := by
        rw [hlength, List.length_take]
        omega
      have hbytes : leBytes k (ofLe (turn (b.take k))) = turn (b.take k) := by
        have h := leBytes_ofLe (turn (b.take k))
        rwa [htake] at h
      refine ⟨?_, ?_⟩
      · rw [hbytes, hturn, List.take_append_drop]
      · have h := ofLe_lt (turn (b.take k))
        rwa [htake] at h

/-- Most significant byte first. -/
def be (k : Nat) : Wire Nat :=
  number k List.reverse List.reverse_reverse fun _ => List.length_reverse

/-- Least significant byte first. -/
def le (k : Nat) : Wire Nat := number k id (fun _ => rfl) fun _ => rfl

/-- A word of `n` bits. -/
def word {n k : Nat} (w : Wire Nat) (hfits : ∀ x, w.Fits x ↔ x < 256 ^ k) (hn : 256 ^ k = 2 ^ n) :
    Wire (BitVec n) :=
  w.embed (BitVec.ofNat n) (fun x => some x.toNat)
    (fun {a} ha => by
      rw [BitVec.toNat_ofNat, Nat.mod_eq_of_lt]
      rw [← hn]
      exact (hfits a).mp ha)
    (fun {x a} h => by
      cases h
      simp)

/-- Every word fits. -/
theorem word_fits {n k : Nat} (w : Wire Nat) (hfits : ∀ x, w.Fits x ↔ x < 256 ^ k)
    (hn : 256 ^ k = 2 ^ n) (x : BitVec n) : (word w hfits hn).Fits x := by
  refine ⟨x.toNat, rfl, (hfits _).mpr ?_⟩
  rw [hn]
  exact x.isLt

/-! ## Texts -/

/-- A text of any length, as the UTF-8 bytes after their 64-bit number. -/
def text : Wire String where
  Fits s := s.toByteArray.data.toList.length < 2 ^ 64
  encode s := encodeBytes s.toByteArray.data.toList
  decode b := do
    let (bytes, rest) ← decodeBytes b
    let s ← String.fromUTF8? ⟨bytes.toArray⟩
    some (s, rest)
  decode_encode {s} rest h := by
    rw [decodeBytes_encodeBytes h, Option.bind_eq_bind, Option.bind_some]
    dsimp only
    rw [Array.toArray_toList]
    have hs : String.fromUTF8? ⟨s.toByteArray.data⟩ = some s := dif_pos s.isValidUTF8
    rw [hs, Option.bind_eq_bind, Option.bind_some]
  encode_decode {b s rest} h := by
    obtain ⟨⟨bytes, b'⟩, hbytes, h⟩ := Option.bind_eq_some_iff.mp h
    obtain ⟨s', hs, h⟩ := Option.bind_eq_some_iff.mp h
    cases h
    obtain ⟨hb, hlen⟩ := decodeBytes_eq_some hbytes
    have hself : s.toByteArray.data.toList = bytes := by
      unfold String.fromUTF8? at hs
      split at hs
      · cases hs
        rfl
      · cases hs
    rw [hself]
    exact ⟨hb, hlen⟩

@[simp] theorem length_encode_text (s : String) :
    (text.encode s).length = 8 + s.toByteArray.data.toList.length := length_encodeBytes _

end Wire
