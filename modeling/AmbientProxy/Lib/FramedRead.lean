import AmbientProxy.Lib.Framing

/-! # Framed reads — frames off a stream, poll by poll

    A reader of an asynchronous stream keeps the bytes of a frame that is not whole yet,
    and is polled for the next frame.  It decodes its buffer while that may hold a frame
    (`isReadable`), and reads on where it does not:

        decode a frame     Some(Ok(frame))
        nothing to read    Pending
        decode fails       Some(Err), and None at the next poll; then it reads on
        a read fails       the same
        end of the stream  Some(Err) if bytes are left over, and None from then on

    A decoder that fails does not fail at every poll: after an error there is one `None`,
    and the decoder is asked again when more bytes have come in, and not before.

    * `pollNext_reads` — what a poll reads and what it takes, byte by byte;
    * `Ok` — what holds of a reader after any polls, and `Ok.poll`;
    * `Ok.frame` — a whole frame that has come in is taken by the next poll;
    * `Ok.pending` — and while the stream goes on, a poll that finds the beginning of a
      frame is pending. -/

/-- How a stream has ended for its reader. -/
inductive StreamEnd where
  | finished
  /-- The connection is lost: what came in is read, and then reads fail. -/
  | lost
  /-- What came in and was not read is gone, and the next read fails. -/
  | reset
  /-- That read has been: those after it find the end of the stream. -/
  | resetRead
  deriving DecidableEq

/-- The stream under a reader: the pieces in which it will read what has come in. -/
structure Source where
  arrived : List Bytes := []
  ended : Option StreamEnd := none
  deriving DecidableEq

/-- What can still be read of it. -/
def Source.readable (source : Source) : List Bytes :=
  match source.ended with
  | some .reset | some .resetRead => []
  | none | some .finished | some .lost => source.arrived

/-- What a poll comes to. -/
inductive Polled where
  | pending
  | frame (data : Bytes)
  | err
  | none
  deriving DecidableEq

/-- `FramedRead`, and all that it has read. -/
structure FramedRead where
  buffer : Bytes := []
  isReadable : Bool := false
  /-- The last read found the end of the stream. -/
  eof : Bool := false
  hasErrored : Bool := false
  received : Bytes := []
  deriving DecidableEq

namespace FramedRead

variable (d : Delimiter)

/-- `Decoder::decode_eof`, where it is not overridden. -/
def decodeEof (s : FramedRead) : Polled × FramedRead :=
  match d.parse s.buffer with
  | .frame data rest => (.frame data, { s with buffer := rest })
  | .failed => (.err, { s with hasErrored := true })
  | .more =>
      -- a length that no byte of its frame follows is not left over
      if d.undecoded s.buffer = [] then (.none, { s with isReadable := false })
      else (.err, { s with hasErrored := true })

/-- A read that finds bytes. -/
def receive (s : FramedRead) (chunk : Bytes) : FramedRead :=
  { s with
    buffer := s.buffer ++ chunk
    received := s.received ++ chunk
    isReadable := true
    eof := false }

/-- Read on, piece by piece, until there is a frame. -/
def readOn (ended : Option StreamEnd) :
    List Bytes → FramedRead → Polled × FramedRead × List Bytes
  | [], s =>
      match ended with
      | none => (.pending, s, [])
      | some .finished | some .resetRead =>
          if s.eof then (.none, s, [])
          else
            let (polled, s) := decodeEof d { s with eof := true, isReadable := true }
            (polled, s, [])
      | some .lost | some .reset => (.err, { s with hasErrored := true }, [])
  | chunk :: arrived, s =>
      let s := s.receive chunk
      match d.parse s.buffer with
      | .frame data rest => (.frame data, { s with buffer := rest }, arrived)
      | .failed => (.err, { s with hasErrored := true }, arrived)
      | .more => readOn ended arrived { s with isReadable := false }

/-- Read from the stream. -/
def read (source : Source) (s : FramedRead) : Polled × FramedRead × Source :=
  let (polled, s, arrived) := readOn d source.ended source.readable s
  match source.ended with
  | some .reset | some .resetRead => (polled, s, { source with ended := some .resetRead })
  | none | some .finished | some .lost => (polled, s, { source with arrived := arrived })

/-- `FramedRead::poll_next`. -/
def pollNext (source : Source) (s : FramedRead) : Polled × FramedRead × Source :=
  if s.hasErrored then (.none, { s with isReadable := false, hasErrored := false }, source)
  else if s.isReadable then
    if s.eof then
      let (polled, s) := decodeEof d s
      (polled, s, source)
    else
      match d.parse s.buffer with
      | .frame data rest => (.frame data, { s with buffer := rest }, source)
      | .failed => (.err, { s with hasErrored := true }, source)
      | .more => read d source { s with isReadable := false }
  else read d source s

variable {d} {s t u : FramedRead} {source later : Source} {polled : Polled}
  {ended : Option StreamEnd} {arrived left : List Bytes} {data rest bytes : Bytes}

/-! ## What a poll reads and takes -/

/-- Between `s` and `t` the reader has read `bytes`, and come to `polled`. -/
structure Reads (d : Delimiter) (s : FramedRead) (bytes : Bytes) (polled : Polled)
    (t : FramedRead) : Prop where
  received : t.received = s.received ++ bytes
  taken : ∀ data, polled = .frame data → d.parse (s.buffer ++ bytes) = .frame data t.buffer
  kept : (∀ data, polled ≠ .frame data) → t.buffer = s.buffer ++ bytes

/-- Nothing is read or taken. -/
theorem Reads.nothing (hpolled : ∀ data, polled ≠ .frame data) (hbuffer : t.buffer = s.buffer)
    (hreceived : t.received = s.received) : Reads d s [] polled t where
  received := by rw [hreceived, List.append_nil]
  taken := fun data hp => absurd hp (hpolled data)
  kept := fun _ => by rw [hbuffer, List.append_nil]

/-- A frame is taken off what is in the buffer. -/
theorem Reads.frame (hparse : d.parse s.buffer = .frame data t.buffer)
    (hreceived : t.received = s.received) : Reads d s [] (.frame data) t where
  received := by rw [hreceived, List.append_nil]
  taken := by
    rintro _ ⟨⟩
    rw [List.append_nil]
    exact hparse
  kept := fun hno => absurd rfl (hno data)

/-- What was read before. -/
theorem Reads.after {chunk : Bytes} (h : Reads d t bytes polled u)
    (hbuffer : t.buffer = s.buffer ++ chunk) (hreceived : t.received = s.received ++ chunk) :
    Reads d s (chunk ++ bytes) polled u where
  received := by rw [h.received, hreceived, List.append_assoc]
  taken := by
    intro data hp
    have hparse := h.taken data hp
    rwa [hbuffer, List.append_assoc] at hparse
  kept := by
    intro hno
    rw [h.kept hno, hbuffer, List.append_assoc]

theorem decodeEof_reads (h : decodeEof d s = (polled, t)) : Reads d s [] polled t := by
  rw [decodeEof] at h
  split at h
  · rename_i data rest hparse
    cases h
    exact .frame hparse rfl
  · cases h
    exact .nothing nofun rfl rfl
  · split at h
    · cases h
      exact .nothing nofun rfl rfl
    · cases h
      exact .nothing nofun rfl rfl

theorem readOn_reads (h : readOn d ended arrived s = (polled, t, left)) :
    ∃ chunks, arrived = chunks ++ left ∧ Reads d s chunks.flatten polled t := by
  induction arrived generalizing s with
  | nil =>
      cases ended with
      | none =>
          cases h
          exact ⟨[], rfl, .nothing nofun rfl rfl⟩
      | some ending =>
          cases ending with
          | finished | resetRead =>
              rw [readOn] at h
              split at h
              · cases h
                exact ⟨[], rfl, .nothing nofun rfl rfl⟩
              · cases h
                have hreads := decodeEof_reads (d := d)
                  (s := { s with eof := true, isReadable := true }) rfl
                exact ⟨[], rfl, hreads.received, hreads.taken, hreads.kept⟩
          | lost | reset =>
              cases h
              exact ⟨[], rfl, .nothing nofun rfl rfl⟩
  | cons chunk arrived ih =>
      rw [readOn] at h
      split at h
      · rename_i data rest hparse
        cases h
        refine ⟨[chunk], rfl, ?_⟩
        rw [List.flatten_cons]
        exact Reads.after (t := s.receive chunk) (.frame hparse rfl) rfl rfl
      · cases h
        refine ⟨[chunk], rfl, ?_⟩
        rw [List.flatten_cons]
        exact Reads.after (t := s.receive chunk) (.nothing nofun rfl rfl) rfl rfl
      · obtain ⟨chunks, hchunks, hreads⟩ := ih h
        refine ⟨chunk :: chunks, ?_, ?_⟩
        · rw [hchunks, List.cons_append]
        · rw [List.flatten_cons]
          exact hreads.after rfl rfl

theorem read_reads (h : read d source s = (polled, t, later)) :
    ∃ chunks, source.arrived = chunks ++ later.arrived ∧
      source.readable = chunks ++ later.readable ∧
      (later.ended = none ↔ source.ended = none) ∧ Reads d s chunks.flatten polled t := by
  obtain ⟨chunks, hchunks, hreads⟩ :=
    readOn_reads (show readOn d source.ended source.readable s = (_, _, _) from rfl)
  rw [read] at h
  cases hended : source.ended with
  | none =>
      simp only [hended, Source.readable] at h hchunks hreads ⊢
      cases h
      exact ⟨chunks, hchunks, hchunks, ⟨fun _ => trivial, fun _ => rfl⟩, hreads⟩
  | some ending =>
      cases ending with
      | finished | lost =>
          simp only [hended, Source.readable] at h hchunks hreads ⊢
          cases h
          exact ⟨chunks, hchunks, hchunks, ⟨nofun, nofun⟩, hreads⟩
      | reset | resetRead =>
          simp only [hended, Source.readable] at h hchunks hreads ⊢
          cases h
          obtain ⟨rfl, -⟩ := List.append_eq_nil_iff.mp hchunks.symm
          exact ⟨[], rfl, rfl, ⟨nofun, nofun⟩, hreads⟩

/-- **What a poll reads and takes**: the first of the pieces that have come in, and the
    frame that these bytes and the buffer begin with, or nothing. -/
theorem pollNext_reads (h : pollNext d source s = (polled, t, later)) :
    ∃ chunks, source.arrived = chunks ++ later.arrived ∧
      source.readable = chunks ++ later.readable ∧
      (later.ended = none ↔ source.ended = none) ∧ Reads d s chunks.flatten polled t := by
  rw [pollNext] at h
  split at h
  · cases h
    exact ⟨[], rfl, rfl, Iff.rfl, .nothing nofun rfl rfl⟩
  · split at h
    · split at h
      · cases h
        exact ⟨[], rfl, rfl, Iff.rfl, decodeEof_reads rfl⟩
      · split at h
        · rename_i data rest hparse
          cases h
          exact ⟨[], rfl, rfl, Iff.rfl, .frame hparse rfl⟩
        · cases h
          exact ⟨[], rfl, rfl, Iff.rfl, .nothing nofun rfl rfl⟩
        · obtain ⟨chunks, harrived, hreadable, hended, hreads⟩ := read_reads h
          exact ⟨chunks, harrived, hreadable, hended, hreads.received, hreads.taken, hreads.kept⟩
    · exact read_reads h

/-- What a poll takes of all that can be read, and what it leaves of it. -/
theorem pollNext_unread (h : pollNext d source s = (polled, t, later)) :
    (∀ data, polled = .frame data → d.parse (s.buffer ++ source.readable.flatten)
      = .frame data (t.buffer ++ later.readable.flatten)) ∧
    ((∀ data, polled ≠ .frame data) →
      t.buffer ++ later.readable.flatten = s.buffer ++ source.readable.flatten) := by
  obtain ⟨chunks, -, hreadable, -, hreads⟩ := pollNext_reads h
  constructor
  · intro data hp
    rw [hreadable, List.flatten_append, ← List.append_assoc]
    exact d.parse_append (hreads.taken data hp)
  · intro hno
    rw [hreads.kept hno, hreadable, List.flatten_append, List.append_assoc]

/-- With what has been taken off the stream before. -/
theorem Reads.frames {frames : List Bytes} (h : Reads d s bytes polled t)
    (hs : d.Reads s.received frames s.buffer) :
    (∀ data, polled = .frame data → d.Reads t.received (frames ++ [data]) t.buffer) ∧
    ((∀ data, polled ≠ .frame data) → d.Reads t.received frames t.buffer) := by
  rw [h.received]
  constructor
  · intro data hp
    exact (hs.receive bytes).take (h.taken data hp)
  · intro hno
    rw [h.kept hno]
    exact hs.receive bytes

/-! ## Readers after any polls -/

/-- What holds of a reader of a stream that has ended like `ended`, `left` being what can
    still be read of it. -/
structure Ok (d : Delimiter) (ended : Option StreamEnd) (left : List Bytes) (s : FramedRead) :
    Prop where
  waiting : s.isReadable = false → ∀ data rest, d.parse s.buffer ≠ .frame data rest
  eof : s.eof = true → ended ≠ none ∧ left = []
  errored : s.hasErrored = true → d.parse s.buffer = .failed ∨
    ended ≠ none ∧ left = [] ∧ ∀ data rest, d.parse s.buffer ≠ .frame data rest

theorem Ok.init : Ok d none [] {} where
  waiting _ data rest := by
    rw [d.parse_nil]
    exact nofun
  eof := nofun
  errored := nofun

/-- More comes in. -/
theorem Ok.more (hs : Ok d none arrived s) (more : List Bytes) : Ok d none (arrived ++ more) s where
  waiting := hs.waiting
  eof heof := absurd rfl (hs.eof heof).1
  errored herr := by
    rcases hs.errored herr with hfailed | ⟨hno, -⟩
    · exact Or.inl hfailed
    · exact absurd rfl hno

/-- The stream ends. -/
theorem Ok.ends (hs : Ok d none arrived s) (ending : StreamEnd) : Ok d (some ending) left s where
  waiting := hs.waiting
  eof heof := absurd rfl (hs.eof heof).1
  errored herr := by
    rcases hs.errored herr with hfailed | ⟨hno, -⟩
    · exact Or.inl hfailed
    · exact absurd rfl hno

/-- How it has ended makes no difference. -/
theorem Ok.ending {ending : StreamEnd} (hs : Ok d (some ending) left s) (other : StreamEnd) :
    Ok d (some other) left s where
  waiting := hs.waiting
  eof heof := ⟨nofun, (hs.eof heof).2⟩
  errored herr := by
    rcases hs.errored herr with hfailed | ⟨-, hleft, hno⟩
    · exact Or.inl hfailed
    · exact Or.inr ⟨nofun, hleft, hno⟩

theorem decodeEof_ok (hended : ended ≠ none) (he : s.hasErrored = false)
    (hr : s.isReadable = true) (h : decodeEof d s = (polled, t)) : Ok d ended [] t := by
  rw [decodeEof] at h
  split at h
  · cases h
    exact ⟨fun hno => absurd hr (Bool.eq_false_iff.mp hno), fun _ => ⟨hended, rfl⟩,
      fun herr => absurd herr (Bool.eq_false_iff.mp he)⟩
  · rename_i hparse
    cases h
    exact ⟨fun hno => absurd hr (Bool.eq_false_iff.mp hno), fun _ => ⟨hended, rfl⟩,
      fun _ => Or.inl hparse⟩
  · rename_i hparse
    have hno : ∀ data rest, d.parse s.buffer ≠ .frame data rest := by
      rw [hparse]
      exact nofun
    split at h
    · cases h
      exact ⟨fun _ => hno, fun _ => ⟨hended, rfl⟩,
        fun herr => absurd herr (Bool.eq_false_iff.mp he)⟩
    · cases h
      exact ⟨fun _ => hno, fun _ => ⟨hended, rfl⟩, fun _ => Or.inr ⟨hended, rfl, hno⟩⟩

theorem readOn_ok (hs : Ok d ended arrived s) (he : s.hasErrored = false)
    (hr : s.isReadable = false) (h : readOn d ended arrived s = (polled, t, left)) :
    Ok d ended left t := by
  induction arrived generalizing s with
  | nil =>
      cases ended with
      | none =>
          cases h
          exact hs
      | some ending =>
          cases ending with
          | finished | resetRead =>
              rw [readOn] at h
              split at h
              · cases h
                exact hs
              · cases h
                exact decodeEof_ok (s := { s with eof := true, isReadable := true })
                  nofun he rfl rfl
          | lost | reset =>
              cases h
              exact ⟨hs.waiting, hs.eof, fun _ => Or.inr ⟨nofun, rfl, hs.waiting hr⟩⟩
  | cons chunk arrived ih =>
      rw [readOn] at h
      split at h
      · cases h
        exact ⟨nofun, nofun, fun herr => absurd herr (Bool.eq_false_iff.mp he)⟩
      · rename_i hparse
        cases h
        exact ⟨nofun, nofun, fun _ => Or.inl hparse⟩
      · rename_i hparse
        refine ih (s := { s.receive chunk with isReadable := false })
          ⟨?_, nofun, fun herr => absurd herr (Bool.eq_false_iff.mp he)⟩ he rfl h
        intro _ data rest
        rw [show d.parse _ = .more from hparse]
        exact nofun

theorem read_ok (hs : Ok d source.ended source.readable s) (he : s.hasErrored = false)
    (hr : s.isReadable = false) (h : read d source s = (polled, t, later)) :
    Ok d later.ended later.readable t := by
  have hok := readOn_ok hs he hr rfl
  rw [read] at h
  cases hended : source.ended with
  | none =>
      simp only [hended, Source.readable] at h hok
      cases h
      exact hok
  | some ending =>
      cases ending with
      | finished | lost =>
          simp only [hended, Source.readable] at h hok
          cases h
          exact hok
      | reset | resetRead =>
          -- nothing was left to read
          obtain ⟨chunks, hchunks, -⟩ :=
            readOn_reads (show readOn d source.ended source.readable s = (_, _, _) from rfl)
          simp only [hended, Source.readable] at h hok hchunks
          cases h
          rw [(List.append_eq_nil_iff.mp hchunks.symm).2] at hok
          exact hok.ending .resetRead

/-- **A reader stays one**, whatever a poll comes to. -/
theorem Ok.poll (hs : Ok d source.ended source.readable s)
    (h : pollNext d source s = (polled, t, later)) : Ok d later.ended later.readable t := by
  rw [pollNext] at h
  split at h
  · rename_i herr
    cases h
    refine ⟨?_, hs.eof, nofun⟩
    intro _ data rest hparse
    rcases hs.errored herr with hfailed | ⟨-, -, hno⟩
    · cases hfailed.symm.trans hparse
    · exact hno data rest hparse
  · rename_i herr
    have he := Bool.of_not_eq_true herr
    split at h
    · rename_i hr
      split at h
      · rename_i heof
        cases h
        obtain ⟨hended, hleft⟩ := hs.eof heof
        show Ok d source.ended source.readable _
        rw [hleft]
        exact decodeEof_ok hended he hr rfl
      · rename_i heof
        have hnoeof := Bool.of_not_eq_true heof
        split at h
        · cases h
          exact ⟨fun hno => absurd hr (Bool.eq_false_iff.mp hno),
            fun heof => absurd heof (Bool.eq_false_iff.mp hnoeof),
            fun herr => absurd herr (Bool.eq_false_iff.mp he)⟩
        · rename_i hparse
          cases h
          exact ⟨fun hno => absurd hr (Bool.eq_false_iff.mp hno),
            fun heof => absurd heof (Bool.eq_false_iff.mp hnoeof), fun _ => Or.inl hparse⟩
        · rename_i hparse
          refine read_ok (s := { s with isReadable := false }) ⟨?_, hs.eof, hs.errored⟩ he rfl h
          intro _ data rest
          rw [hparse]
          exact nofun
    · rename_i hr
      exact read_ok hs he (Bool.of_not_eq_true hr) h

/-! ## What the next poll comes to -/

theorem readOn_frame (ended : Option StreamEnd)
    (hwait : ∀ data rest, d.parse s.buffer ≠ .frame data rest)
    (h : d.parse (s.buffer ++ arrived.flatten) = .frame data rest) :
    ∃ t left, readOn d ended arrived s = (.frame data, t, left) ∧
      t.buffer ++ left.flatten = rest ∧ t.hasErrored = s.hasErrored := by
  induction arrived generalizing s with
  | nil =>
      rw [List.flatten_nil, List.append_nil] at h
      exact absurd h (hwait data rest)
  | cons chunk arrived ih =>
      rw [List.flatten_cons, ← List.append_assoc] at h
      rw [readOn]
      split
      · rename_i data' rest' hparse
        have hparse' : d.parse (s.buffer ++ chunk) = .frame data' rest' := hparse
        cases (d.parse_append hparse').symm.trans h
        exact ⟨_, _, rfl, rfl, rfl⟩
      · rename_i hparse
        have hparse' : d.parse (s.buffer ++ chunk) = .failed := hparse
        cases (d.parse_failed _ hparse').symm.trans h
      · rename_i hparse
        have hparse' : d.parse (s.buffer ++ chunk) = .more := hparse
        refine ih (s := { s.receive chunk with isReadable := false }) ?_ h
        intro data rest
        show d.parse (s.buffer ++ chunk) ≠ _
        rw [hparse']
        exact nofun

theorem read_frame (hwait : ∀ data rest, d.parse s.buffer ≠ .frame data rest)
    (h : d.parse (s.buffer ++ source.readable.flatten) = .frame data rest) :
    ∃ t later, read d source s = (.frame data, t, later) ∧
      t.buffer ++ later.readable.flatten = rest ∧ t.hasErrored = s.hasErrored := by
  cases hended : source.ended with
  | none =>
      simp only [Source.readable, hended] at h
      obtain ⟨t, left, hread, hrest, herr⟩ := readOn_frame none hwait h
      refine ⟨t, { source with arrived := left }, ?_, ?_, herr⟩
      · simp only [read, Source.readable, hended, hread]
      · simp only [Source.readable, hended]
        exact hrest
  | some ending =>
      cases ending with
      | finished | lost =>
          simp only [Source.readable, hended] at h
          obtain ⟨t, left, hread, hrest, herr⟩ := readOn_frame source.ended hwait h
          rw [hended] at hread
          refine ⟨t, { source with arrived := left }, ?_, ?_, herr⟩
          · simp only [read, Source.readable, hended, hread]
          · simp only [Source.readable, hended]
            exact hrest
      | reset | resetRead =>
          simp only [Source.readable, hended, List.flatten_nil, List.append_nil] at h
          exact absurd h (hwait data rest)

/-- **A whole frame that has come in is taken by the next poll.** -/
theorem Ok.frame (hs : Ok d source.ended source.readable s)
    (h : d.parse (s.buffer ++ source.readable.flatten) = .frame data rest) :
    ∃ t later, pollNext d source s = (.frame data, t, later) ∧
      t.buffer ++ later.readable.flatten = rest ∧ t.hasErrored = false := by
  have he : s.hasErrored = false := by
    by_contra hne
    rcases hs.errored (Bool.of_not_eq_false hne) with hfailed | ⟨-, hleft, hno⟩
    · cases (d.parse_failed _ hfailed).symm.trans h
    · rw [hleft, List.flatten_nil, List.append_nil] at h
      exact hno data rest h
  rw [pollNext, if_neg (Bool.eq_false_iff.mp he)]
  cases hr : s.isReadable with
  | false =>
      rw [if_neg Bool.false_ne_true]
      obtain ⟨t, later, hread, hrest, herr⟩ := read_frame (hs.waiting hr) h
      exact ⟨t, later, hread, hrest, herr.trans he⟩
  | true =>
      rw [if_pos rfl]
      cases heof : s.eof with
      | true =>
          rw [(hs.eof heof).2, List.flatten_nil, List.append_nil] at h
          refine ⟨{ s with buffer := rest }, source, ?_, ?_, he⟩
          · rw [if_pos rfl, decodeEof, h]
          · rw [(hs.eof heof).2, List.flatten_nil, List.append_nil]
      | false =>
          rw [if_neg Bool.false_ne_true]
          cases hparse : d.parse s.buffer with
          | frame data' rest' =>
              cases (d.parse_append hparse).symm.trans h
              exact ⟨_, _, rfl, rfl, he⟩
          | failed => cases (d.parse_failed _ hparse).symm.trans h
          | more =>
              have hwait : ∀ data rest, d.parse s.buffer ≠ .frame data rest := by
                rw [hparse]
                exact nofun
              obtain ⟨t, later, hread, hrest, herr⟩ :=
                read_frame (s := { s with isReadable := false, eof := false }) hwait h
              exact ⟨t, later, hread, hrest, herr.trans he⟩

/-- The beginning of a whole that is not a frame yet is not a frame. -/
theorem parse_more_of_append (h : d.parse (rest ++ bytes) = .more) : d.parse rest = .more := by
  cases hparse : d.parse rest with
  | more => rfl
  | frame data rest' => cases (d.parse_append hparse).symm.trans h
  | failed => cases (d.parse_failed _ hparse).symm.trans h

theorem readOn_pending (h : d.parse (s.buffer ++ arrived.flatten) = .more) :
    ∃ t, readOn d none arrived s = (.pending, t, []) ∧ t.hasErrored = s.hasErrored := by
  induction arrived generalizing s with
  | nil => exact ⟨s, rfl, rfl⟩
  | cons chunk arrived ih =>
      rw [List.flatten_cons, ← List.append_assoc] at h
      have hparse : d.parse (s.receive chunk).buffer = .more := parse_more_of_append h
      obtain ⟨t, hread, herr⟩ := ih (s := { s.receive chunk with isReadable := false }) h
      refine ⟨t, ?_, herr⟩
      rw [readOn, hparse]
      exact hread

/-- **While the stream goes on, the beginning of a frame is waited for.** -/
theorem Ok.pending (hs : Ok d source.ended source.readable s) (hended : source.ended = none)
    (he : s.hasErrored = false) (h : d.parse (s.buffer ++ source.arrived.flatten) = .more) :
    ∃ t later, pollNext d source s = (.pending, t, later) ∧ t.hasErrored = false := by
  have hnoeof : s.eof = false := by
    by_contra hne
    exact absurd hended (hs.eof (Bool.of_not_eq_false hne)).1
  have hread : ∀ s' : FramedRead, s'.buffer = s.buffer → s'.hasErrored = false →
      ∃ t later, read d source s' = (.pending, t, later) ∧ t.hasErrored = false := by
    intro s' hbuffer herr
    rw [← hbuffer] at h
    obtain ⟨t, hreadOn, ht⟩ := readOn_pending h
    refine ⟨t, { source with arrived := [] }, ?_, ht.trans herr⟩
    simp only [read, Source.readable, hended, hreadOn]
  rw [pollNext, if_neg (Bool.eq_false_iff.mp he)]
  split
  · rw [if_neg (Bool.eq_false_iff.mp hnoeof), parse_more_of_append h]
    exact hread _ rfl he
  · exact hread _ rfl he

end FramedRead
