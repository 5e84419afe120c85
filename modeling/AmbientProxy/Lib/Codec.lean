import Mathlib.Data.List.Basic
import Mathlib.Tactic.Ring

/-! # Self-delimiting binary codecs — fixed-width numbers, byte strings, text

    A `Codec T` is an encoder and a decoder that are inverse to each other ON
    BOTH SIDES: decoding an encoding followed by anything gives the value back
    and leaves the rest (`decode_encode`), and what decodes at all is an
    encoding followed by the rest (`encode_decode`).  The two laws are fields, so
    a codec that breaks one cannot be built, and together they give that no
    proper prefix of an encoding decodes (`decode_take_encode`).

    Numbers are fixed-width little-endian (`u32`), byte strings and texts carry a
    64-bit length.  `Str` is a text: a byte string that is valid UTF-8 and whose
    length fits a 64-bit word, both carried as a field. -/

/-- A byte string. -/
abbrev Bytes := List UInt8

/-! ## Fixed-width numbers -/

/-- The `k` low bytes of `n`, least significant first. -/
def leBytes : Nat → Nat → Bytes
  | 0, _ => []
  | k + 1, n => UInt8.ofNat n :: leBytes k (n / 256)

/-- The number a byte string denotes, least significant byte first. -/
def ofLe : Bytes → Nat
  | [] => 0
  | b :: bs => b.toNat + 256 * ofLe bs

@[simp] theorem length_leBytes (k n : Nat) : (leBytes k n).length = k := by
  induction k generalizing n with
  | zero => rfl
  | succ k ih => simp [leBytes, ih]

theorem ofLe_leBytes (k n : Nat) : ofLe (leBytes k n) = n % 256 ^ k := by
  induction k generalizing n with
  | zero => simp [leBytes, ofLe, Nat.mod_one]
  | succ k ih =>
      have hb : (UInt8.ofNat n).toNat = n % 256 := by simp
      rw [leBytes, ofLe, ih, hb, Nat.pow_succ', Nat.mod_mul]

theorem leBytes_ofLe (bs : Bytes) : leBytes bs.length (ofLe bs) = bs := by
  induction bs with
  | nil => rfl
  | cons b bs ih =>
      have hlt : b.toNat < 256 := b.toNat_lt
      have hmod : UInt8.ofNat (b.toNat + 256 * ofLe bs) = b := by
        apply UInt8.toNat_inj.mp
        rw [UInt8.toNat_ofNat']
        omega
      have hdiv : (b.toNat + 256 * ofLe bs) / 256 = ofLe bs := by omega
      rw [List.length_cons, leBytes, ofLe, hmod, hdiv, ih]

theorem ofLe_lt (bs : Bytes) : ofLe bs < 256 ^ bs.length := by
  induction bs with
  | nil => simp [ofLe]
  | cons b bs ih =>
      have hlt : b.toNat < 256 := b.toNat_lt
      rw [ofLe, List.length_cons, Nat.pow_succ']
      omega

/-! ## Codecs -/

/-- A self-delimiting encoding of `T` in bytes. -/
structure Codec (T : Type) where
  encode : T → Bytes
  decode : Bytes → Option (T × Bytes)
  decode_encode : ∀ x rest, decode (encode x ++ rest) = some (x, rest)
  encode_decode : ∀ {b x rest}, decode b = some (x, rest) → b = encode x ++ rest

namespace Codec

variable {T : Type}

theorem decode_encode_nil (c : Codec T) (x : T) : c.decode (c.encode x) = some (x, []) := by
  simpa using c.decode_encode x []

/-- **No proper prefix of an encoding decodes.** -/
theorem decode_take_encode (c : Codec T) (x : T) {m : Nat} (hm : m < (c.encode x).length) :
    c.decode ((c.encode x).take m) = none := by
  cases hd : c.decode ((c.encode x).take m) with
  | none => rfl
  | some p =>
      obtain ⟨y, rest⟩ := p
      -- the prefix is an encoding of `y`, so decoding the whole leaves a rest
      have hx : c.encode x = c.encode y ++ (rest ++ (c.encode x).drop m) := by
        rw [← List.append_assoc, ← c.encode_decode hd, List.take_append_drop]
      have hy : c.decode (c.encode x) = some (y, rest ++ (c.encode x).drop m) := by
        have h := c.decode_encode y (rest ++ (c.encode x).drop m)
        rwa [← hx] at h
      have hrest : [] = rest ++ (c.encode x).drop m :=
        congrArg Prod.snd (Option.some.inj ((c.decode_encode_nil x).symm.trans hy))
      have hdrop : (c.encode x).drop m = [] := (List.append_eq_nil_iff.mp hrest.symm).2
      exact absurd (List.drop_eq_nil_iff.mp hdrop) (by omega)

/-- A 32-bit word, little-endian. -/
def u32 : Codec UInt32 where
  encode x := leBytes 4 x.toNat
  decode b := if b.length < 4 then none else some (UInt32.ofNat (ofLe (b.take 4)), b.drop 4)
  decode_encode x rest := by
    have hlen : (leBytes 4 x.toNat).length = 4 := length_leBytes 4 _
    have hlt : x.toNat < 256 ^ 4 := x.toNat_lt
    rw [if_neg (by simp), List.take_left' hlen, List.drop_left' hlen, ofLe_leBytes,
      Nat.mod_eq_of_lt hlt, UInt32.ofNat_toNat]
  encode_decode {b x rest} h := by
    by_cases hb : b.length < 4
    · simp [hb] at h
    · rw [if_neg hb] at h
      obtain ⟨rfl, rfl⟩ := Prod.mk.inj (Option.some.inj h)
      have hlen : (b.take 4).length = 4 := by rw [List.length_take]; omega
      have hlt : ofLe (b.take 4) < 2 ^ 32 := by
        have h4 := ofLe_lt (b.take 4)
        rw [hlen] at h4
        exact h4
      have hval : (UInt32.ofNat (ofLe (b.take 4))).toNat = ofLe (b.take 4) :=
        UInt32.toNat_ofNat_of_lt' hlt
      have hbytes : leBytes 4 (ofLe (b.take 4)) = b.take 4 := by
        have h4 := leBytes_ofLe (b.take 4)
        rwa [hlen] at h4
      rw [hval, hbytes, List.take_append_drop]

@[simp] theorem length_encode_u32 (x : UInt32) : (u32.encode x).length = 4 :=
  length_leBytes 4 _

end Codec

/-! ## Byte strings after their length -/

/-- A byte string after its 64-bit length, little-endian. -/
def encodeBytes (x : Bytes) : Bytes := leBytes 8 x.length ++ x

/-- Read a 64-bit length and then that many bytes. -/
def decodeBytes (b : Bytes) : Option (Bytes × Bytes) :=
  if b.length < 8 then none
  else if (b.drop 8).length < ofLe (b.take 8) then none
  else some ((b.drop 8).take (ofLe (b.take 8)), (b.drop 8).drop (ofLe (b.take 8)))

@[simp] theorem length_encodeBytes (x : Bytes) : (encodeBytes x).length = 8 + x.length := by
  rw [encodeBytes, List.length_append, length_leBytes]

theorem decodeBytes_encodeBytes {x : Bytes} (hx : x.length < 2 ^ 64) (rest : Bytes) :
    decodeBytes (encodeBytes x ++ rest) = some (x, rest) := by
  have hlen : (leBytes 8 x.length).length = 8 := length_leBytes 8 _
  have hn : ofLe (leBytes 8 x.length) = x.length := by
    rw [ofLe_leBytes]; exact Nat.mod_eq_of_lt hx
  have hnlt : ¬ (x ++ rest).length < x.length := by rw [List.length_append]; omega
  rw [encodeBytes, List.append_assoc, decodeBytes, if_neg (by simp), List.take_left' hlen,
    List.drop_left' hlen, hn, if_neg hnlt, List.take_left, List.drop_left]

theorem decodeBytes_eq_some {b x rest : Bytes} (h : decodeBytes b = some (x, rest)) :
    b = encodeBytes x ++ rest ∧ x.length < 2 ^ 64 := by
  rw [decodeBytes] at h
  by_cases hb : b.length < 8
  · simp [hb] at h
  · rw [if_neg hb] at h
    by_cases hle : (b.drop 8).length < ofLe (b.take 8)
    · rw [if_pos hle] at h
      exact nomatch h
    · rw [if_neg hle] at h
      obtain ⟨rfl, rfl⟩ := Prod.mk.inj (Option.some.inj h)
      have hlen8 : (b.take 8).length = 8 := by rw [List.length_take]; omega
      have hlenn : ((b.drop 8).take (ofLe (b.take 8))).length = ofLe (b.take 8) := by
        rw [List.length_take]; omega
      have hbytes : leBytes 8 (ofLe (b.take 8)) = b.take 8 := by
        have h8 := leBytes_ofLe (b.take 8)
        rwa [hlen8] at h8
      have hbound : ofLe (b.take 8) < 2 ^ 64 := by
        have h8 := ofLe_lt (b.take 8)
        rwa [hlen8] at h8
      constructor
      · rw [encodeBytes, hlenn, hbytes, List.append_assoc, List.take_append_drop,
          List.take_append_drop]
      · rw [hlenn]; exact hbound

/-! ## Text -/

/-- A UTF-8 continuation byte. -/
def isCont (b : UInt8) : Bool := 0x80 ≤ b && b ≤ 0xBF

/-- The second byte `c` may follow the lead byte `b` of a two-byte sequence. -/
def leads2 (b c : UInt8) : Bool := 0xC2 ≤ b && b ≤ 0xDF && isCont c

/-- The second byte `c` may follow the lead byte `b` of a three-byte sequence:
    no overlong forms, no surrogates. -/
def leads3 (b c : UInt8) : Bool :=
  (b == 0xE0 && 0xA0 ≤ c && c ≤ 0xBF)
    || (0xE1 ≤ b && b ≤ 0xEC && isCont c)
    || (b == 0xED && 0x80 ≤ c && c ≤ 0x9F)
    || (0xEE ≤ b && b ≤ 0xEF && isCont c)

/-- The second byte `c` may follow the lead byte `b` of a four-byte sequence:
    no overlong forms, nothing above the last code point. -/
def leads4 (b c : UInt8) : Bool :=
  (b == 0xF0 && 0x90 ≤ c && c ≤ 0xBF)
    || (0xF1 ≤ b && b ≤ 0xF3 && isCont c)
    || (b == 0xF4 && 0x80 ≤ c && c ≤ 0x8F)

/-- The byte string is valid UTF-8. -/
def validUtf8 : Bytes → Bool
  | [] => true
  | b :: rest =>
      if b < 0x80 then validUtf8 rest
      else match rest with
        | [] => false
        | c :: rest =>
            if leads2 b c then validUtf8 rest
            else match rest with
              | [] => false
              | d :: rest =>
                  if leads3 b c && isCont d then validUtf8 rest
                  else match rest with
                    | [] => false
                    | e :: rest => leads4 b c && isCont d && isCont e && validUtf8 rest

/-- **Valid texts one after the other are a valid text.** -/
theorem validUtf8_append {a b : Bytes} (ha : validUtf8 a = true) (hb : validUtf8 b = true) :
    validUtf8 (a ++ b) = true := by
  fun_induction validUtf8 a with
  | case1 => exact hb
  | case2 x rest hx ih =>
      rw [List.cons_append, validUtf8.eq_def]
      simp only [hx, if_true]
      exact ih ha
  | case3 x hx => cases ha
  | case4 x hx c rest hc ih =>
      rw [List.cons_append, List.cons_append, validUtf8.eq_def]
      simp only [hx, hc, if_true, if_false]
      exact ih ha
  | case5 x hx c hc => cases ha
  | case6 x hx c hc d rest hd ih =>
      rw [List.cons_append, List.cons_append, List.cons_append, validUtf8.eq_def]
      simp only [hx, hc, hd, if_true, if_false]
      exact ih ha
  | case7 x hx c hc d hd => cases ha
  | case8 x hx c hc d hd e rest ih =>
      rw [List.cons_append, List.cons_append, List.cons_append, List.cons_append,
        validUtf8.eq_def]
      simp only [hx, hc, hd, Bool.false_eq_true, if_false]
      rw [Bool.and_eq_true] at ha ⊢
      exact ⟨ha.1, ih ha.2⟩

/-- ASCII is a valid text. -/
theorem validUtf8_of_ascii {b : Bytes} (h : ∀ x ∈ b, x < 0x80) : validUtf8 b = true := by
  induction b with
  | nil => rfl
  | cons x b ih =>
      obtain ⟨hx, hb⟩ := List.forall_mem_cons.mp h
      rw [validUtf8.eq_def]
      simp only [hx, if_true]
      exact ih hb

/-- An ASCII byte is not part of a longer sequence. -/
theorem leads_ascii {x : UInt8} (hx : x < 0x80) (b : UInt8) :
    isCont x = false ∧ leads2 b x = false ∧ leads3 b x = false ∧ leads4 b x = false := by
  have hlow : ∀ low : UInt8, 0x80 ≤ low → decide (low ≤ x) = false := by
    intro low hle
    refine decide_eq_false fun hx' => ?_
    exact UInt8.lt_irrefl x (UInt8.lt_of_lt_of_le hx (UInt8.le_trans hle hx'))
  have hcont : isCont x = false := by
    rw [isCont, hlow 0x80 (by decide), Bool.false_and]
  refine ⟨hcont, ?_, ?_, ?_⟩
  · rw [leads2, hcont, Bool.and_false]
  · simp [leads3, hcont, hlow 0xA0 (by decide), hlow 0x80 (by decide)]
  · simp [leads4, hcont, hlow 0x90 (by decide), hlow 0x80 (by decide)]

/-- **What stands before an ASCII byte, and behind it, is a valid text.** -/
theorem validUtf8_of_append_ascii {a b : Bytes} {x : UInt8} (hx : x < 0x80)
    (h : validUtf8 (a ++ x :: b) = true) : validUtf8 a = true ∧ validUtf8 b = true := by
  fun_induction validUtf8 a with
  | case1 =>
      rw [List.nil_append, validUtf8.eq_def] at h
      simp only [hx, if_true] at h
      exact ⟨rfl, h⟩
  | case2 y rest hy ih =>
      rw [List.cons_append, validUtf8.eq_def] at h
      simp only [hy, if_true] at h
      exact ih h
  | case3 y hy =>
      obtain ⟨hcont, h2, h3, h4⟩ := leads_ascii hx y
      rw [List.singleton_append, validUtf8.eq_def] at h
      simp only [hy, h2, if_false] at h
      cases b with
      | nil => cases h
      | cons c b =>
          simp only [h3, Bool.false_and, Bool.false_eq_true, if_false] at h
          cases b with
          | nil => cases h
          | cons d b =>
              simp only [h4, Bool.false_and] at h
              cases h
  | case4 y hy c rest hc ih =>
      rw [List.cons_append, List.cons_append, validUtf8.eq_def] at h
      simp only [hy, hc, if_true, if_false] at h
      exact ih h
  | case5 y hy c hc =>
      obtain ⟨hcont, -, -, -⟩ := leads_ascii hx y
      rw [List.cons_append, List.singleton_append, validUtf8.eq_def] at h
      simp only [hy, hc, hcont, Bool.and_false, Bool.false_eq_true, if_false] at h
      cases b with
      | nil => cases h
      | cons d b =>
          simp only [Bool.false_and] at h
          cases h
  | case6 y hy c hc d rest hd ih =>
      rw [List.cons_append, List.cons_append, List.cons_append, validUtf8.eq_def] at h
      simp only [hy, hc, hd, if_true, if_false] at h
      exact ih h
  | case7 y hy c hc d hd =>
      obtain ⟨hcont, -, -, -⟩ := leads_ascii hx y
      rw [List.cons_append, List.cons_append, List.singleton_append, validUtf8.eq_def] at h
      simp only [hy, hc, hd, hcont, Bool.and_false, Bool.false_and, Bool.false_eq_true,
        if_false] at h
  | case8 y hy c hc d hd e rest ih =>
      rw [List.cons_append, List.cons_append, List.cons_append, List.cons_append,
        validUtf8.eq_def] at h
      simp only [hy, hc, hd, Bool.false_eq_true, if_false] at h
      rw [Bool.and_eq_true] at h ⊢
      obtain ⟨hrest, hb⟩ := ih h.2
      exact ⟨⟨h.1, hrest⟩, hb⟩

/-- A text: valid UTF-8 whose length fits a 64-bit word. -/
structure Str where
  bytes : Bytes
  valid : validUtf8 bytes = true
  bound : bytes.length < 2 ^ 64
  deriving DecidableEq

namespace Str

/-- The empty text. -/
def empty : Str := ⟨[], rfl, by decide⟩

/-- The text `a`. -/
def a : Str := ⟨[0x61], rfl, by decide⟩

/-- The text `b`. -/
def b : Str := ⟨[0x62], rfl, by decide⟩

def isEmpty (s : Str) : Bool := s.bytes.isEmpty

/-- Read a text after its 64-bit length: the bytes must be valid UTF-8. -/
def decode (b : Bytes) : Option (Str × Bytes) :=
  match h : decodeBytes b with
  | none => none
  | some (x, rest) =>
      if hv : validUtf8 x = true then some (⟨x, hv, (decodeBytes_eq_some h).2⟩, rest) else none

/-- A text after its 64-bit length. -/
def codec : Codec Str where
  encode s := encodeBytes s.bytes
  decode := decode
  decode_encode s rest := by
    rw [decode]
    split
    · rename_i h
      rw [decodeBytes_encodeBytes s.bound] at h
      exact nomatch h
    · rename_i x r h
      rw [decodeBytes_encodeBytes s.bound] at h
      obtain ⟨rfl, rfl⟩ := Prod.mk.inj (Option.some.inj h)
      rw [dif_pos s.valid]
  encode_decode {b s rest} h := by
    rw [decode] at h
    split at h
    · exact nomatch h
    · rename_i x r hd
      by_cases hv : validUtf8 x = true
      · rw [dif_pos hv] at h
        obtain ⟨rfl, rfl⟩ := Prod.mk.inj (Option.some.inj h)
        exact (decodeBytes_eq_some hd).1
      · rw [dif_neg hv] at h
        exact nomatch h

@[simp] theorem length_encode (s : Str) : (codec.encode s).length = 8 + s.bytes.length :=
  length_encodeBytes _

end Str
