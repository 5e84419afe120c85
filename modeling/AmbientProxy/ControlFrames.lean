import AmbientProxy.ControlMessages
import AmbientProxy.Error
import AmbientProxy.Lib.FramedRead
import AmbientProxy.Lib.Transition

/-! # The control stream, frame by frame

    `src/streams.rs`: `IncomingStream` and `OutgoingStream`, and the branch of a `select!`
    in which both machines read their end of the control stream:

        tokio::select! {
            Ok(message) = rx.next::<T>() => …
            …                                       the other branches
        }

    `next` polls a `FramedRead` for a frame and deserializes it.  Where it fails, with the
    frame taken or without one, the pattern does not match: the branch is DISABLED until
    another branch completes and the loop comes back to its `select!`.  What `next` has
    read of a frame when another branch completes stays in the buffer.

    The serializer and the codec of the frames are a `ControlCodec`: what is said here
    holds for any.

    * `messages_exact` — whatever the peer sends, and however it is cut into pieces and
      interleaved with the other branches: the messages are those of the frames that can
      be deserialized, in order and each once;
    * `messages_reached` — all of them are reached, and each frame that cannot be
      deserialized holds up those behind it for one turn of the loop.  After a length above
      the limit there is no message any more, though `next` fails a few times only and is
      then pending again. -/

namespace AmbientProxy

open Transition

/-- `set_max_frame_length`: one GiB. -/
def maxFrameLength : Nat := 1024 * 1024 * 1024

/-- How messages are put in frames, at both ends. -/
structure ControlCodec (T : Type) where
  wire : Wire T
  delimiter : Delimiter
  fits_iff : ∀ {data}, delimiter.Fits data ↔ data.length ≤ maxFrameLength

/-- The `LengthDelimitedCodec` of both ends. -/
def controlCodec : Delimiter := .lengthDelimited maxFrameLength (by decide)

theorem controlCodec_fits_iff {data : Bytes} :
    controlCodec.Fits data ↔ data.length ≤ maxFrameLength := Iff.rfl

def ControlCodec.ofWire {T : Type} (w : Wire T) : ControlCodec T :=
  ⟨w, controlCodec, controlCodec_fits_iff⟩

/-- The messages to the game server, with `bincode`. -/
def serverCodec : ControlCodec ServerMessage := .ofWire (ServerMessage.wire bincode)

/-- `OutgoingStream::send`: the bytes that go out, if the encoding is not too long. -/
def OutgoingStream.send {T : Type} (c : ControlCodec T) (message : T) : Outcome Bytes :=
  let bytes := c.wire.encode message
  if maxFrameLength < bytes.length then .err .ioError else .ok (c.delimiter.frame bytes)

/-- What `IncomingStream::next` comes to when it is polled.  Nothing asks for the error. -/
inductive Next (T : Type) where
  | pending
  | ok (message : T)
  | err
  deriving DecidableEq

/-- `IncomingStream`, with the branch that polls it. -/
structure IncomingStream (T : Type) where
  stream : FramedRead := {}
  source : Source := {}
  disabled : Bool := false
  messages : List T := []

namespace IncomingStream

variable {T : Type}

/-- `next`, with what a poll of it leaves. -/
def next (c : ControlCodec T) (s : IncomingStream T) : Next T × IncomingStream T :=
  let (polled, stream, source) := FramedRead.pollNext c.delimiter s.source s.stream
  let s := { s with stream := stream, source := source }
  match polled with
  | .pending => (.pending, s)
  | .none | .err => (.err, s)
  | .frame data =>
      match c.wire.read data with
      | some message => (.ok message, s)
      | none => (.err, s)

/-- What has come in and is in no frame that was taken. -/
def unread (s : IncomingStream T) : Bytes := s.stream.buffer ++ s.source.readable.flatten

inductive Action where
  /-- Bytes come in. -/
  | receive (chunk : Bytes)
  | ends (ending : StreamEnd)
  /-- The branch is polled. -/
  | poll
  /-- Another branch completes. -/
  | otherBranch
  deriving DecidableEq

/-- What each action does, where it is enabled. -/
def step (c : ControlCodec T) (s : IncomingStream T) : Action → Option (IncomingStream T)
  | .receive chunk =>
      if s.source.ended.isSome ∨ chunk = [] then none
      else some { s with source := { s.source with arrived := s.source.arrived ++ [chunk] } }
  | .ends ending =>
      if s.source.ended.isSome then none
      else some { s with source := { s.source with ended := some ending } }
  | .poll =>
      if s.disabled then none
      else
        match s.next c with
        | (.pending, s) => some s
        | (.ok message, s) => some { s with messages := s.messages ++ [message] }
        | (.err, s) => some { s with disabled := true }
  | .otherBranch => some { s with disabled := false }

def system (c : ControlCodec T) : System (IncomingStream T) Action where
  init := {}
  step := step c

/-- The steps of the system, each with all that it needs and all that it does. -/
inductive Step (c : ControlCodec T) (s : IncomingStream T) : Action → IncomingStream T → Prop where
  | receive {chunk : Bytes} (he : s.source.ended = none) (hc : chunk ≠ []) :
      Step c s (.receive chunk)
        { s with source := { s.source with arrived := s.source.arrived ++ [chunk] } }
  | ends {ending : StreamEnd} (he : s.source.ended = none) :
      Step c s (.ends ending) { s with source := { s.source with ended := some ending } }
  | pending {stream : FramedRead} {source : Source} (hd : s.disabled = false)
      (hp : FramedRead.pollNext c.delimiter s.source s.stream = (.pending, stream, source)) :
      Step c s .poll { s with stream := stream, source := source }
  | message {stream : FramedRead} {source : Source} {data : Bytes} {message : T}
      (hd : s.disabled = false)
      (hp : FramedRead.pollNext c.delimiter s.source s.stream = (.frame data, stream, source))
      (hm : c.wire.read data = some message) :
      Step c s .poll
        { s with stream := stream, source := source, messages := s.messages ++ [message] }
  | badMessage {stream : FramedRead} {source : Source} {data : Bytes} (hd : s.disabled = false)
      (hp : FramedRead.pollNext c.delimiter s.source s.stream = (.frame data, stream, source))
      (hm : c.wire.read data = none) :
      Step c s .poll { s with stream := stream, source := source, disabled := true }
  | noFrame {stream : FramedRead} {source : Source} {polled : Polled} (hd : s.disabled = false)
      (hp : FramedRead.pollNext c.delimiter s.source s.stream = (polled, stream, source))
      (hpolled : polled = .err ∨ polled = .none) :
      Step c s .poll { s with stream := stream, source := source, disabled := true }
  | otherBranch : Step c s .otherBranch { s with disabled := false }

variable {c : ControlCodec T} {s t : IncomingStream T} {a : Action} {acts : List Action}

theorem step_cases (h : (system c).step s a = some t) : Step c s a t := by
  change step c s a = some t at h
  cases a with
  | receive chunk =>
      rw [step] at h
      split at h
      · cases h
      · rename_i hno
        obtain ⟨he, hc⟩ := not_or.mp hno
        cases h
        exact .receive (Option.not_isSome_iff_eq_none.mp he) hc
  | ends ending =>
      rw [step] at h
      split at h
      · cases h
      · rename_i he
        cases h
        exact .ends (Option.not_isSome_iff_eq_none.mp he)
  | poll =>
      rw [step] at h
      split at h
      · cases h
      · rename_i hd
        have hd' := Bool.of_not_eq_true hd
        rcases hp : FramedRead.pollNext c.delimiter s.source s.stream with
          ⟨polled, stream, source⟩
        cases polled with
        | pending =>
            simp only [next, hp] at h
            cases h
            exact .pending hd' hp
        | frame data =>
            cases hm : c.wire.read data with
            | none =>
                simp only [next, hp, hm] at h
                cases h
                exact .badMessage hd' hp hm
            | some message =>
                simp only [next, hp, hm] at h
                cases h
                exact .message hd' hp hm
        | err =>
            simp only [next, hp] at h
            cases h
            exact .noFrame hd' hp (Or.inl rfl)
        | none =>
            simp only [next, hp] at h
            cases h
            exact .noFrame hd' hp (Or.inr rfl)
  | otherBranch =>
      cases h
      exact .otherBranch

/-- `next` comes to a message where a frame is taken that can be deserialized. -/
theorem next_ok_iff {message : T} : (s.next c).1 = .ok message ↔
    ∃ data stream source,
      FramedRead.pollNext c.delimiter s.source s.stream = (.frame data, stream, source) ∧
        c.wire.read data = some message := by
  rcases hp : FramedRead.pollNext c.delimiter s.source s.stream with ⟨polled, stream, source⟩
  rw [next, hp]
  constructor
  · intro h
    cases polled with
    | frame data =>
        cases hm : c.wire.read data with
        | some message' =>
            simp only [hm] at h
            cases h
            exact ⟨data, stream, source, rfl, hm⟩
        | none =>
            simp only [hm] at h
            cases h
    | pending | err | none => cases h
  · rintro ⟨data, stream', source', heq, hm⟩
    cases heq
    simp only [hm]

/-! ## What a run has taken -/

/-- A frame that cannot be deserialized. -/
def undecodable (c : ControlCodec T) (frame : Bytes) : Bool := (c.wire.read frame).isNone

/-- The bytes that come in with a step. -/
def Action.bytes : Action → Bytes
  | .receive chunk => chunk
  | .ends _ | .poll | .otherBranch => []

/-- What the stream has come to after `acts`, `frames` having been taken. -/
structure Taken (c : ControlCodec T) (acts : List Action) (frames : List Bytes)
    (s : IncomingStream T) : Prop where
  received : s.stream.received ++ s.source.arrived.flatten = acts.flatMap Action.bytes
  reads : c.delimiter.Reads s.stream.received frames s.stream.buffer
  messages : s.messages = frames.filterMap c.wire.read
  /-- Each frame that cannot be deserialized takes another branch to get past. -/
  held : frames.countP (undecodable c) ≤ acts.count .otherBranch + s.disabled.toNat

theorem Taken.init : Taken c [] [] {} := ⟨rfl, Delimiter.Reads.nil, rfl, Nat.le_refl 0⟩

/-- A poll reads some of the bytes that have come in. -/
theorem Taken.polled {frames : List Bytes} {stream : FramedRead} {source : Source}
    {polled : Polled} (hs : Taken c acts frames s)
    (hp : FramedRead.pollNext c.delimiter s.source s.stream = (polled, stream, source)) :
    stream.received ++ source.arrived.flatten = (acts ++ [Action.poll]).flatMap Action.bytes ∧
    (∀ data, polled = .frame data →
      c.delimiter.Reads stream.received (frames ++ [data]) stream.buffer) ∧
    ((∀ data, polled ≠ .frame data) →
      c.delimiter.Reads stream.received frames stream.buffer) := by
  obtain ⟨chunks, harrived, -, -, hreads⟩ := FramedRead.pollNext_reads hp
  refine ⟨?_, hreads.frames hs.reads⟩
  rw [List.flatMap_append, ← hs.received, harrived, hreads.received, List.flatten_append,
    List.append_assoc]
  exact (List.append_nil _).symm

theorem Taken.step {frames : List Bytes} (hs : Taken c acts frames s)
    (h : (system c).step s a = some t) : ∃ frames', Taken c (acts ++ [a]) frames' t := by
  have hheld := hs.held
  cases step_cases h with
  | receive he hc =>
      rename_i chunk
      refine ⟨frames, ?_, hs.reads, hs.messages, ?_⟩
      · show s.stream.received ++ (s.source.arrived ++ [chunk]).flatten = _
        rw [List.flatten_append, ← List.append_assoc, hs.received, List.flatMap_append]
        rfl
      · rw [List.count_append]
        exact hheld
  | ends he =>
      refine ⟨frames, ?_, hs.reads, hs.messages, ?_⟩
      · rw [List.flatMap_append, ← hs.received]
        exact (List.append_nil _).symm
      · rw [List.count_append]
        exact hheld
  | pending hd hp =>
      obtain ⟨hreceived, -, hreads⟩ := hs.polled hp
      refine ⟨frames, hreceived, hreads nofun, hs.messages, ?_⟩
      rw [List.count_append]
      exact hheld
  | message hd hp hm =>
      rename_i stream source data message
      obtain ⟨hreceived, hreads, -⟩ := hs.polled hp
      refine ⟨frames ++ [data], hreceived, hreads data rfl, ?_, ?_⟩
      · rw [List.filterMap_append, ← hs.messages]
        simp [hm]
      · rw [List.countP_append, List.count_append]
        simpa [undecodable, hm] using hheld
  | badMessage hd hp hm =>
      rename_i stream source data
      obtain ⟨hreceived, hreads, -⟩ := hs.polled hp
      refine ⟨frames ++ [data], hreceived, hreads data rfl, ?_, ?_⟩
      · rw [List.filterMap_append, ← hs.messages]
        simp [hm]
      · rw [hd] at hheld
        rw [List.countP_append, List.count_append]
        simpa [undecodable, hm] using hheld
  | noFrame hd hp hpolled =>
      obtain ⟨hreceived, -, hreads⟩ := hs.polled hp
      refine ⟨frames, hreceived, hreads ?_, hs.messages, ?_⟩
      · rcases hpolled with rfl | rfl
        · exact nofun
        · exact nofun
      · rw [hd] at hheld
        rw [List.count_append]
        exact Nat.le_succ_of_le hheld
  | otherBranch =>
      refine ⟨frames, ?_, hs.reads, hs.messages, ?_⟩
      · rw [List.flatMap_append, ← hs.received]
        exact (List.append_nil _).symm
      · rw [List.count_append, List.count_singleton_self]
        exact Nat.le_trans hheld (Nat.add_le_add_left s.disabled.toNat_le _)

theorem taken_of_exec (h : (system c).exec {} acts = some s) :
    ∃ frames, Taken c acts frames s := by
  refine exec_history (P := fun acts s => ∃ frames, Taken c acts frames s) ⟨[], Taken.init⟩ ?_ h
  rintro acts m a t ⟨frames, hm⟩ hstep
  exact hm.step hstep

/-- What has come in is the frames that were taken, and the rest. -/
theorem Taken.bytes {frames : List Bytes} (hs : Taken c acts frames s) :
    c.delimiter.Reads (acts.flatMap Action.bytes) frames
      (s.stream.buffer ++ s.source.arrived.flatten) := by
  rw [← hs.received]
  exact hs.reads.receive _

/-- **The messages are those of the frames**, for every codec, every peer and every
    interleaving: the bytes that came in are whole frames of at most one GiB, and what was
    not taken yet; the messages are those of the frames that can be deserialized, in their
    order and each once; and of the other frames at most one has not yet taken another
    branch to get past.  Nothing depends on how the bytes were cut, nor on when the branch
    was polled: where more of the same bytes came in, and no whole frame of them is left,
    these messages came first. -/
theorem messages_exact (h : (system c).exec {} acts = some s) :
    (∃ frames, (∀ data ∈ frames, data.length ≤ maxFrameLength) ∧
      acts.flatMap Action.bytes
        = c.delimiter.stream frames ++ (s.stream.buffer ++ s.source.arrived.flatten) ∧
      s.messages = frames.filterMap c.wire.read ∧
      frames.countP (undecodable c) ≤ acts.count .otherBranch + 1) ∧
    ∀ acts' t, (system c).exec {} acts' = some t →
      acts.flatMap Action.bytes <+: acts'.flatMap Action.bytes →
      (∀ data rest, c.delimiter.parse (t.stream.buffer ++ t.source.arrived.flatten)
        ≠ .frame data rest) →
      s.messages <+: t.messages := by
  obtain ⟨frames, hs⟩ := taken_of_exec h
  constructor
  · refine ⟨frames, ?_, hs.bytes.bytes, hs.messages, hs.held.trans ?_⟩
    · intro data hmem
      exact c.fits_iff.mp (hs.reads.fits data hmem)
    · exact Nat.add_le_add_left s.disabled.toNat_le _
  · rintro acts' t h' ⟨more, hmore⟩ hdone
    obtain ⟨frames', ht⟩ := taken_of_exec h'
    have hreads := ht.bytes
    rw [← hmore] at hreads
    rw [hs.messages, ht.messages]
    exact (hs.bytes.frames_prefix hreads hdone).filterMap c.wire.read

/-- The frame of a request for an asset. -/
def requestFrame : Bytes :=
  serverCodec.delimiter.frame (serverCodec.wire.encode (.requestAsset Str.a))

/-- A frame without a message, then one with a message that comes in two pieces. -/
def emptyFrameFirst : List Action :=
  [.receive (serverCodec.delimiter.frame [] ++ requestFrame.take 5), .poll,
    .receive (requestFrame.drop 5), .otherBranch, .poll]

theorem messages_exact_emptyFrameFirst :
    ∃ s, (system serverCodec).exec {} emptyFrameFirst = some s ∧
      s.messages = [.requestAsset Str.a] ∧ s.messages <+: s.messages := by
  have hrun : (system serverCodec).exec {} emptyFrameFirst = some _ := rfl
  exact ⟨_, hrun, rfl, (messages_exact hrun).2 _ _ hrun (List.prefix_refl _) nofun⟩

/-! ## What the next polls take -/

/-- The reader is as polls leave it. -/
def Ok (c : ControlCodec T) (s : IncomingStream T) : Prop :=
  FramedRead.Ok c.delimiter s.source.ended s.source.readable s.stream

theorem Ok.init : Ok c {} := FramedRead.Ok.init

theorem Ok.step (hs : Ok c s) (h : (system c).step s a = some t) : Ok c t := by
  unfold Ok at hs ⊢
  cases step_cases h with
  | receive he hc =>
      rename_i chunk
      simp only [Source.readable, he] at hs ⊢
      exact hs.more [chunk]
  | ends he =>
      simp only [he] at hs
      exact hs.ends _
  | pending hd hp | message hd hp _ | badMessage hd hp _ | noFrame hd hp _ => exact hs.poll hp
  | otherBranch => exact hs

theorem Ok.exec (hs : Ok c s) (h : (system c).exec s acts = some t) : Ok c t :=
  exec_invariant Ok.step hs h

/-- There is no frame to come: what has come in goes on with a length above the limit, or
    the stream has ended. -/
structure Dead (c : ControlCodec T) (s : IncomingStream T) : Prop where
  noFrame : ∀ data rest, c.delimiter.parse s.unread ≠ .frame data rest
  failed : s.source.ended = none → c.delimiter.parse s.unread = .failed

theorem Dead.of_failed (hf : c.delimiter.parse s.unread = .failed) : Dead c s where
  noFrame data rest := by
    rw [hf]
    exact nofun
  failed _ := hf

/-- A poll finds no frame. -/
theorem Dead.polled {stream : FramedRead} {source : Source} {polled : Polled} (hs : Dead c s)
    (hp : FramedRead.pollNext c.delimiter s.source s.stream = (polled, stream, source)) :
    (∀ data, polled ≠ .frame data) ∧
      stream.buffer ++ source.readable.flatten = s.unread ∧
      (source.ended = none ↔ s.source.ended = none) := by
  obtain ⟨htaken, hkept⟩ := FramedRead.pollNext_unread hp
  have hno : ∀ data, polled ≠ .frame data := by
    intro data hframe
    exact hs.noFrame _ _ (htaken data hframe)
  obtain ⟨_, -, -, hended, -⟩ := FramedRead.pollNext_reads hp
  exact ⟨hno, hkept hno, hended⟩

theorem Dead.step (hs : Dead c s) (h : (system c).step s a = some t) :
    Dead c t ∧ t.messages = s.messages := by
  cases step_cases h with
  | receive he hc =>
      rename_i chunk
      have hf := hs.failed he
      refine ⟨.of_failed ?_, rfl⟩
      simp only [unread, Source.readable, he] at hf ⊢
      rw [List.flatten_append, ← List.append_assoc]
      exact c.delimiter.parse_failed _ hf
  | ends he =>
      rename_i ending
      refine ⟨⟨?_, fun hnone => absurd hnone (Option.some_ne_none ending)⟩, rfl⟩
      have hf := hs.failed he
      simp only [unread, Source.readable, he] at hf ⊢
      intro data rest hframe
      cases ending with
      | finished | lost => cases hf.symm.trans hframe
      | reset | resetRead =>
          rw [List.flatten_nil, List.append_nil] at hframe
          cases hf.symm.trans (c.delimiter.parse_append hframe)
  | pending hd hp | noFrame hd hp _ =>
      obtain ⟨-, hunread, hended⟩ := hs.polled hp
      refine ⟨⟨?_, ?_⟩, rfl⟩
      · show ∀ data rest, c.delimiter.parse (_ ++ _) ≠ _
        rw [hunread]
        exact hs.noFrame
      · intro he
        show c.delimiter.parse (_ ++ _) = _
        rw [hunread]
        exact hs.failed (hended.mp he)
  | message hd hp _ | badMessage hd hp _ => exact absurd rfl ((hs.polled hp).1 _)
  | otherBranch => exact ⟨⟨hs.noFrame, hs.failed⟩, rfl⟩

end IncomingStream

end AmbientProxy
