import AmbientProxy.Lib.Wire

/-! # Framing — messages on a byte stream

    A byte stream keeps the order of its bytes and nothing else: the reader gets them in
    pieces that the writer did not choose.  A `Delimiter` puts each message in a frame,
    and a reader that keeps the bytes it has (`parse` of its buffer) gets

        frame data rest    the first message, and the bytes after its frame
        more               no message yet
        failed             bytes that no message begins with

    The laws are fields.  They are local (one frame, at the front of a buffer); what
    follows from them is about whole streams, also of a writer that broke off inside a
    frame (`Part`), and about every way of cutting a stream into pieces:

    * `stream_split` — a stream can be cut into frames in one way only;
    * `parse_of_stream` — at every point of an honest stream the reader has the next
      message or waits for more, and it waits only where the message is not there yet;
    * `Reads` — what a reader has taken off a stream, and `Reads.frames_prefix`: whoever has read
      more of the same stream, and has no frame left, has taken the same frames first.

    `lengthDelimited` is the delimiter of a 32-bit length before each message. -/

/-- What a reader finds at the front of its buffer. -/
inductive Parsed where
  | more
  | frame (data rest : Bytes)
  | failed
  deriving DecidableEq

/-- A way to put messages in frames, for those messages that fit. -/
structure Delimiter where
  Fits : Bytes → Prop
  frame : Bytes → Bytes
  parse : Bytes → Parsed
  /-- What a reader that waits for more keeps: it may have decoded the head of a frame, and
      dropped it. -/
  undecoded : Bytes → Bytes
  parse_nil : parse [] = .more
  parse_frame : ∀ {data} rest, Fits data → parse (frame data ++ rest) = .frame data rest
  frame_parse : ∀ {b data rest}, parse b = .frame data rest → b = frame data ++ rest ∧ Fits data
  parse_part : ∀ {data part}, Fits data → part <+: frame data → part ≠ frame data →
    parse part = .more
  parse_failed : ∀ {b} rest, parse b = .failed → parse (b ++ rest) = .failed

namespace Delimiter

variable {d : Delimiter} {data part b rest : Bytes} {xs ys : List Bytes}

/-- The bytes of a list of messages. -/
def stream (d : Delimiter) (xs : List Bytes) : Bytes := xs.flatMap d.frame

@[simp] theorem stream_nil : d.stream [] = [] := rfl

@[simp] theorem stream_cons (x : Bytes) (xs : List Bytes) :
    d.stream (x :: xs) = d.frame x ++ d.stream xs := List.flatMap_cons

@[simp] theorem stream_append (xs ys : List Bytes) :
    d.stream (xs ++ ys) = d.stream xs ++ d.stream ys := List.flatMap_append

/-- A frame that is there stays there, whatever comes behind it. -/
theorem parse_append {c : Bytes} (h : d.parse b = .frame data rest) :
    d.parse (b ++ c) = .frame data (rest ++ c) := by
  obtain ⟨rfl, hfits⟩ := d.frame_parse h
  rw [List.append_assoc]
  exact d.parse_frame (rest ++ c) hfits

/-- Two streams that begin with a frame begin with the same one. -/
theorem frame_inj {data' b' : Bytes} (hfits : d.Fits data) (hfits' : d.Fits data')
    (h : d.frame data ++ b = d.frame data' ++ b') : data = data' ∧ b = b' := by
  have hparse := d.parse_frame b hfits
  rw [h, d.parse_frame b' hfits'] at hparse
  cases hparse
  exact ⟨rfl, rfl⟩

/-- Two streams that are continued to the same bytes: the frames of one are the first
    frames of the other. -/
theorem stream_append_eq {c : Bytes} (hxs : ∀ x ∈ xs, d.Fits x) (hys : ∀ y ∈ ys, d.Fits y)
    (h : d.stream xs ++ b = d.stream ys ++ c) :
    (∃ zs, ys = xs ++ zs ∧ b = d.stream zs ++ c) ∨ ∃ zs, xs = ys ++ zs ∧ c = d.stream zs ++ b := by
  induction xs generalizing ys with
  | nil => exact Or.inl ⟨ys, rfl, h⟩
  | cons x xs ih =>
      cases ys with
      | nil => exact Or.inr ⟨x :: xs, rfl, h.symm⟩
      | cons y ys =>
          obtain ⟨hx, hxs'⟩ := List.forall_mem_cons.mp hxs
          obtain ⟨hy, hys'⟩ := List.forall_mem_cons.mp hys
          rw [stream_cons, stream_cons, List.append_assoc, List.append_assoc] at h
          obtain ⟨rfl, hrest⟩ := frame_inj hx hy h
          rcases ih hxs' hys' hrest with ⟨zs, rfl, hzs⟩ | ⟨zs, rfl, hzs⟩
          · exact Or.inl ⟨zs, rfl, hzs⟩
          · exact Or.inr ⟨zs, rfl, hzs⟩

/-- **A stream is cut in one way**: messages that were read off the front of a stream are
    its first messages, if no whole frame comes after it. -/
theorem stream_split (hxs : ∀ x ∈ xs, d.Fits x) (hys : ∀ y ∈ ys, d.Fits y)
    (hpart : ∀ x rest, d.parse part ≠ .frame x rest)
    (h : d.stream xs ++ b = d.stream ys ++ part) :
    ∃ zs, ys = xs ++ zs ∧ b = d.stream zs ++ part := by
  rcases stream_append_eq hxs hys h with hzs | ⟨zs, rfl, hzs⟩
  · exact hzs
  · cases zs with
    | nil => exact ⟨[], by simp, hzs.symm⟩
    | cons z zs =>
        have hz := hxs z (List.mem_append_right _ List.mem_cons_self)
        rw [stream_cons, List.append_assoc] at hzs
        exact absurd (hzs ▸ d.parse_frame _ hz) (hpart _ _)

/-! ## Streams that break off -/

/-- What a writer that breaks off leaves: the first bytes of a frame. -/
def Part (d : Delimiter) (part : Bytes) : Prop :=
  part = [] ∨ ∃ data, d.Fits data ∧ part <+: d.frame data ∧ part ≠ d.frame data

theorem Part.parse (h : d.Part part) : d.parse part = .more := by
  rcases h with rfl | ⟨data, hfits, hpart, hne⟩
  · exact d.parse_nil
  · exact d.parse_part hfits hpart hne

theorem Part.of_append (h : d.Part (b ++ rest)) : d.Part b := by
  rcases h with hnil | ⟨data, hfits, hpart, hne⟩
  · exact Or.inl (List.append_eq_nil_iff.mp hnil).1
  · refine Or.inr ⟨data, hfits, (List.prefix_append b rest).trans hpart, ?_⟩
    rintro rfl
    have hle := hpart.length_le
    rw [List.length_append] at hle
    have hrest : rest = [] := List.length_eq_zero_iff.mp (by omega)
    rw [hrest, List.append_nil] at hne
    exact hne rfl

/-- **A reader of an honest stream never fails**: it has the next message, with the
    bytes after it, or a part of its frame. -/
theorem parse_of_stream (hxs : ∀ x ∈ xs, d.Fits x) (hpart : d.Part part)
    (h : b ++ rest = d.stream xs ++ part) :
    (∃ x ys b', xs = x :: ys ∧ d.parse b = .frame x b' ∧ b' ++ rest = d.stream ys ++ part) ∨
      d.parse b = .more ∧ ∀ x ys, xs = x :: ys → b.length < (d.frame x).length := by
  cases xs with
  | nil =>
      rw [stream_nil, List.nil_append] at h
      rw [← h] at hpart
      exact Or.inr ⟨hpart.of_append.parse, nofun⟩
  | cons x ys =>
      have hx := (List.forall_mem_cons.mp hxs).1
      rw [stream_cons, List.append_assoc] at h
      rcases List.append_eq_append_iff.mp h with ⟨missing, hframe, hrest⟩ | ⟨b', hb, hrest⟩
      · -- the buffer ends inside the frame, or with it
        by_cases hmissing : missing = []
        · subst hmissing
          rw [List.append_nil] at hframe
          have hparse := d.parse_frame [] hx
          rw [List.append_nil, hframe] at hparse
          exact Or.inl ⟨x, ys, [], rfl, hparse, hrest⟩
        · have hlt : b.length < (d.frame x).length := by
            rw [hframe, List.length_append]
            have := List.length_pos_iff.mpr hmissing
            omega
          refine Or.inr ⟨d.parse_part hx ⟨missing, hframe.symm⟩ ?_, ?_⟩
          · intro heq
            rw [heq] at hlt
            exact lt_irrefl _ hlt
          · rintro _ _ ⟨⟩
            exact hlt
      · refine Or.inl ⟨x, ys, b', rfl, ?_, hrest.symm⟩
        rw [hb]
        exact d.parse_frame b' hx

/-! ## Readers -/

/-- A reader of `bytes` has taken `frames` off them, and has the rest in its buffer. -/
structure Reads (d : Delimiter) (bytes : Bytes) (frames : List Bytes) (buffer : Bytes) : Prop where
  fits : ∀ x ∈ frames, d.Fits x
  bytes : bytes = d.stream frames ++ buffer

namespace Reads

variable {bytes more buffer buffer' : Bytes} {frames frames' : List Bytes}

theorem nil : d.Reads [] [] [] := ⟨nofun, rfl⟩

/-- Bytes come in. -/
theorem receive (h : d.Reads bytes frames buffer) (chunk : Bytes) :
    d.Reads (bytes ++ chunk) frames (buffer ++ chunk) :=
  ⟨h.fits, by rw [h.bytes, List.append_assoc]⟩

/-- The reader takes a frame. -/
theorem take (h : d.Reads bytes frames buffer) (hparse : d.parse buffer = .frame data rest) :
    d.Reads bytes (frames ++ [data]) rest := by
  obtain ⟨hbuffer, hfits⟩ := d.frame_parse hparse
  refine ⟨?_, ?_⟩
  · intro x hx
    rcases List.mem_append.mp hx with hx | hx
    · exact h.fits x hx
    · rw [List.mem_singleton.mp hx]
      exact hfits
  · rw [h.bytes, hbuffer, stream_append, stream_cons, stream_nil, List.append_nil,
      List.append_assoc]

/-- **Readers agree**: one that has read more, and has no frame left, has taken all the
    frames of the other, and first. -/
theorem frames_prefix (h : d.Reads bytes frames buffer)
    (h' : d.Reads (bytes ++ more) frames' buffer')
    (hdone : ∀ x rest, d.parse buffer' ≠ .frame x rest) : frames <+: frames' := by
  have hbytes := h'.bytes
  rw [h.bytes, List.append_assoc] at hbytes
  obtain ⟨zs, rfl, -⟩ := stream_split h.fits h'.fits hdone hbytes
  exact List.prefix_append frames zs

end Reads

/-! ## A 32-bit length before each message -/

/-- `LengthDelimitedCodec`, as it is where only the largest length is set: four bytes of
    length, most significant first. -/
def lengthDelimited (maxFrameLength : Nat) (hmax : maxFrameLength < 2 ^ 32) : Delimiter where
  Fits data := data.length ≤ maxFrameLength
  frame data := (Wire.be 4).encode data.length ++ data
  parse b :=
    match (Wire.be 4).decode b with
    | none => .more
    | some (n, b) =>
        if maxFrameLength < n then .failed
        else if b.length < n then .more
        else .frame (b.take n) (b.drop n)
  undecoded b :=
    match (Wire.be 4).decode b with
    | none => b
    | some (_, b) => b
  parse_nil := rfl
  parse_frame {data} rest hfits := by
    rw [List.append_assoc, (Wire.be 4).decode_encode _ (lt_of_le_of_lt hfits hmax)]
    dsimp only
    rw [if_neg (Nat.not_lt.mpr hfits), if_neg (by rw [List.length_append]; omega),
      List.take_left' rfl, List.drop_left' rfl]
  frame_parse {b data rest} h := by
    split at h
    · cases h
    · rename_i n b' hn
      split at h
      · cases h
      · rename_i hle
        split at h
        · cases h
        · rename_i hlen
          cases h
          have hdata : (b'.take n).length = n := by
            rw [List.length_take]
            omega
          rw [hdata, List.append_assoc, List.take_append_drop]
          exact ⟨((Wire.be 4).encode_decode hn).1, Nat.not_lt.mp hle⟩
  parse_part {data part} hfits hpart hne := by
    obtain ⟨more, hmore⟩ := hpart
    split
    · rfl
    · rename_i n b' hn
      -- the length is there, and it is that of the message
      obtain ⟨rfl, hn'⟩ := (Wire.be 4).encode_decode hn
      rw [List.append_assoc] at hmore
      obtain ⟨rfl, hdata⟩ := (Wire.be 4).encode_inj hn' (lt_of_le_of_lt hfits hmax) hmore
      rw [if_neg (Nat.not_lt.mpr hfits), if_pos]
      by_contra hnot
      have hmore' : more = [] := by
        have hlen := congrArg List.length hdata
        rw [List.length_append] at hlen
        exact List.length_eq_zero_iff.mp (by omega)
      rw [hmore', List.append_nil] at hdata
      exact hne (by rw [hdata])
  parse_failed {b} rest h := by
    split at h
    · cases h
    · rename_i n b' hn
      split at h
      · rename_i hgt
        obtain ⟨rfl, hn'⟩ := (Wire.be 4).encode_decode hn
        rw [List.append_assoc, (Wire.be 4).decode_encode _ hn']
        exact if_pos hgt
      · split at h <;> cases h

end Delimiter
