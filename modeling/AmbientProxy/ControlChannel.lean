import AmbientProxy.ControlFrames

/-! # One direction of the control stream — the writer, the bytes, the reader

    An `OutgoingStream` of one machine and the `IncomingStream` of the other, with what is
    under way between them:

        send ──▶ frame │ …bytes in flight… │ …arrived… │ buffer ──▶ next ──▶ message
                 └ part of a frame, where the write broke off

    The bytes keep their order, and come in in pieces of any size.  A `send` that fails
    may have written a part of its frame, and none after it writes anything.  The codec is
    any that `Carries` of every message what is expected of it.

    * `underway_exact` — at every point of every run, what the reader has not had yet is
      what lies between, byte by byte; so the reader is given what is carried of the
      messages that were sent, in order and each once, and `next` never fails before the
      stream ends;
    * it is reached by bytes that come in and by polls, from every point of every run. -/

namespace AmbientProxy

open Transition

/-- Every message that is not too long to be sent is read as what `carried` says. -/
structure ControlCodec.Carries {T : Type} (c : ControlCodec T) (carried : T → T) : Prop where
  fits : ∀ {message}, (c.wire.encode message).length ≤ maxFrameLength →
    c.wire.Fits (carried message)
  encode : ∀ message, c.wire.encode (carried message) = c.wire.encode message

theorem ControlCodec.Carries.read {T : Type} {c : ControlCodec T} {carried : T → T}
    (hc : c.Carries carried) {message : T}
    (hlen : (c.wire.encode message).length ≤ maxFrameLength) :
    c.wire.read (c.wire.encode message) = some (carried message) := by
  rw [← hc.encode]
  exact c.wire.read_encode (hc.fits hlen)

/-- Of a message to the game server all is carried that `serde` writes. -/
theorem ServerMessage.carries {c : ControlCodec ServerMessage} {b : Bincode}
    (hc : c.wire = ServerMessage.wire b) : c.Carries ServerMessage.carried where
  fits {message} hlen := by
    rw [hc] at hlen ⊢
    exact carried_fits (textsFit_of_length (lt_of_le_of_lt hlen (by decide)))
  encode message := by
    rw [hc]
    exact encode_carried b message

/-- Of a message to the proxy all is carried. -/
theorem ClientMessage.carries {c : ControlCodec ClientMessage} {b : Bincode}
    (hc : c.wire = ClientMessage.wire b) : c.Carries id where
  fits {message} hlen := by
    rw [hc] at hlen ⊢
    exact fits_iff.mpr (textsFit_of_length (lt_of_le_of_lt hlen (by decide)))
  encode _ := rfl

/-- One direction of the control stream. -/
structure Direction (T : Type) where
  sent : List T := []
  /-- A `send` failed on the stream. -/
  failed : Bool := false
  /-- What it had written of its frame. -/
  part : Bytes := []
  inFlight : Bytes := []
  incoming : IncomingStream T := {}

namespace Direction

variable {T : Type}

inductive Action (T : Type) where
  | send (message : T)
  /-- `send` fails after `n` bytes. -/
  | sendFails (message : T) (n : Nat)
  /-- The next `n` bytes come in. -/
  | arrive (n : Nat)
  | ends (ending : StreamEnd)
  | poll
  | otherBranch

/-- What each action does, where it is enabled. -/
def step (c : ControlCodec T) (s : Direction T) : Action T → Option (Direction T)
  | .send message =>
      match OutgoingStream.send c message with
      | .ok bytes =>
          if s.failed then none
          else some { s with sent := s.sent ++ [message], inFlight := s.inFlight ++ bytes }
      | .err _ | .panic => none
  | .sendFails message n =>
      match OutgoingStream.send c message with
      | .ok bytes =>
          if s.failed = false ∧ n < bytes.length then
            some { s with
              failed := true
              part := bytes.take n
              inFlight := s.inFlight ++ bytes.take n }
          else none
      | .err _ | .panic => none
  | .arrive n =>
      (s.incoming.step c (.receive (s.inFlight.take n))).map fun incoming =>
        { s with inFlight := s.inFlight.drop n, incoming := incoming }
  | .ends ending =>
      (s.incoming.step c (.ends ending)).map fun incoming => { s with incoming := incoming }
  | .poll => (s.incoming.step c .poll).map fun incoming => { s with incoming := incoming }
  | .otherBranch =>
      (s.incoming.step c .otherBranch).map fun incoming => { s with incoming := incoming }

def system (c : ControlCodec T) : System (Direction T) (Action T) where
  init := {}
  step := step c

/-- A step of the reader alone. -/
def Action.onReader : Action T → Option IncomingStream.Action
  | .ends ending => some (.ends ending)
  | .poll => some .poll
  | .otherBranch => some .otherBranch
  | .send _ | .sendFails _ _ | .arrive _ => none

/-- The steps of the system. -/
inductive Step (c : ControlCodec T) (s : Direction T) : Action T → Direction T → Prop where
  | send {message : T} (hlen : (c.wire.encode message).length ≤ maxFrameLength)
      (hf : s.failed = false) :
      Step c s (.send message)
        { s with
          sent := s.sent ++ [message]
          inFlight := s.inFlight ++ c.delimiter.frame (c.wire.encode message) }
  | sendFails {message : T} {n : Nat} (hlen : (c.wire.encode message).length ≤ maxFrameLength)
      (hf : s.failed = false) (hn : n < (c.delimiter.frame (c.wire.encode message)).length) :
      Step c s (.sendFails message n)
        { s with
          failed := true
          part := (c.delimiter.frame (c.wire.encode message)).take n
          inFlight := s.inFlight ++ (c.delimiter.frame (c.wire.encode message)).take n }
  | arrive {n : Nat} {incoming : IncomingStream T}
      (h : (IncomingStream.system c).step s.incoming (.receive (s.inFlight.take n))
        = some incoming) :
      Step c s (.arrive n) { s with inFlight := s.inFlight.drop n, incoming := incoming }
  | reader {a : Action T} {b : IncomingStream.Action} {incoming : IncomingStream T}
      (hb : a.onReader = some b)
      (h : (IncomingStream.system c).step s.incoming b = some incoming) :
      Step c s a { s with incoming := incoming }

variable {c : ControlCodec T} {s t : Direction T} {a : Action T} {acts : List (Action T)}

theorem send_eq_ok_iff {message : T} {bytes : Bytes} :
    OutgoingStream.send c message = .ok bytes ↔
      (c.wire.encode message).length ≤ maxFrameLength ∧
        c.delimiter.frame (c.wire.encode message) = bytes := by
  rw [OutgoingStream.send]
  by_cases hlen : maxFrameLength < (c.wire.encode message).length
  · rw [if_pos hlen]
    constructor
    · nofun
    · rintro ⟨hle, -⟩
      omega
  · rw [if_neg hlen, Outcome.ok.injEq]
    exact ⟨fun h => ⟨Nat.not_lt.mp hlen, h⟩, And.right⟩

theorem step_cases (h : (system c).step s a = some t) : Step c s a t := by
  change step c s a = some t at h
  cases a with
  | send message =>
      rw [step] at h
      split at h
      · rename_i bytes hsend
        obtain ⟨hlen, rfl⟩ := send_eq_ok_iff.mp hsend
        split at h
        · cases h
        · rename_i hf
          cases h
          exact .send hlen (Bool.of_not_eq_true hf)
      · cases h
      · cases h
  | sendFails message n =>
      rw [step] at h
      split at h
      · rename_i bytes hsend
        obtain ⟨hlen, rfl⟩ := send_eq_ok_iff.mp hsend
        split at h
        · rename_i hf
          cases h
          exact .sendFails hlen hf.1 hf.2
        · cases h
      · cases h
      · cases h
  | arrive n =>
      rw [step] at h
      obtain ⟨incoming, hstep, rfl⟩ := Option.map_eq_some_iff.mp h
      exact .arrive hstep
  | ends _ | poll | otherBranch =>
      rw [step] at h
      obtain ⟨incoming, hstep, rfl⟩ := Option.map_eq_some_iff.mp h
      exact .reader rfl hstep

/-- A message that is not too long is sent, if no `send` has failed. -/
theorem send_step {message : T} (hlen : (c.wire.encode message).length ≤ maxFrameLength)
    (hf : s.failed = false) :
    (system c).step s (.send message) = some { s with
      sent := s.sent ++ [message]
      inFlight := s.inFlight ++ c.delimiter.frame (c.wire.encode message) } := by
  show step c s (.send message) = _
  rw [step, send_eq_ok_iff.mpr ⟨hlen, rfl⟩]
  simp [hf]

/-- Bytes that are in flight come in. -/
theorem arrive_step {n : Nat} (hended : s.incoming.source.ended = none)
    (hn : s.inFlight.take n ≠ []) :
    (system c).step s (.arrive n) = some { s with
      inFlight := s.inFlight.drop n
      incoming := { s.incoming with
        source := { s.incoming.source with
          arrived := s.incoming.source.arrived ++ [s.inFlight.take n] } } } := by
  show (s.incoming.step c (.receive _)).map _ = _
  rw [IncomingStream.step, if_neg]
  · rfl
  · simp [hended, hn]

/-- What comes in leaves. -/
structure Arrived (s t : Direction T) : Prop where
  inFlight : t.inFlight = []
  sent : t.sent = s.sent
  failed : t.failed = s.failed
  messages : t.incoming.messages = s.incoming.messages
  disabled : t.incoming.disabled = s.incoming.disabled
  ended : t.incoming.source.ended = s.incoming.source.ended

/-- All that is in flight comes in. -/
theorem arrive_exec (hended : s.incoming.source.ended = none) :
    ∃ bs t, (∀ b ∈ bs, ∃ n, b = .arrive n) ∧ (system c).exec s bs = some t ∧ Arrived s t := by
  by_cases hnil : s.inFlight = []
  · exact ⟨[], s, nofun, rfl, hnil, rfl, rfl, rfl, rfl, rfl⟩
  · have hstep := arrive_step (c := c) (n := s.inFlight.length) hended (by rwa [List.take_length])
    refine ⟨[.arrive s.inFlight.length], _, ?_, exec_cons_iff.mpr ⟨_, hstep, rfl⟩,
      List.drop_length, rfl, rfl, rfl, rfl, rfl⟩
    intro b hb
    exact ⟨_, List.mem_singleton.mp hb⟩

theorem poll_step {incoming : IncomingStream T}
    (h : (IncomingStream.system c).step s.incoming .poll = some incoming) :
    (system c).step s .poll = some { s with incoming := incoming } := by
  show (s.incoming.step c .poll).map _ = _
  rw [show s.incoming.step c .poll = some incoming from h]
  rfl

/-- A poll that completes with a message hands it out. -/
theorem poll_of_ok {message : T} (hn : (s.incoming.next c).1 = .ok message)
    (h : (system c).step s .poll = some t) :
    t.sent = s.sent ∧ t.incoming.messages = s.incoming.messages ++ [message] := by
  obtain ⟨data, stream, source, hpoll, hread⟩ := IncomingStream.next_ok_iff.mp hn
  cases step_cases h with
  | reader hb hstep =>
      cases hb
      cases IncomingStream.step_cases hstep with
      | message hd hp hm =>
          cases hp.symm.trans hpoll
          cases hm.symm.trans hread
          exact ⟨rfl, rfl⟩
      | badMessage hd hp hm =>
          cases hp.symm.trans hpoll
          cases hm.symm.trans hread
      | pending hd hp => cases hp.symm.trans hpoll
      | noFrame hd hp hpolled =>
          cases hp.symm.trans hpoll
          rcases hpolled with hno | hno
          · cases hno
          · cases hno

/-- A poll that does not hands out nothing. -/
theorem poll_of_not_ok (hn : ∀ message, (s.incoming.next c).1 ≠ .ok message)
    (h : (system c).step s .poll = some t) :
    t.sent = s.sent ∧ t.incoming.messages = s.incoming.messages := by
  cases step_cases h with
  | reader hb hstep =>
      cases hb
      cases IncomingStream.step_cases hstep with
      | message hd hp hm =>
          exact absurd (IncomingStream.next_ok_iff.mpr ⟨_, _, _, hp, hm⟩) (hn _)
      | pending _ _ | badMessage _ _ _ | noFrame _ _ _ => exact ⟨rfl, rfl⟩

/-! ## What lies between -/

section Underway

variable {carried : T → T} (hcarries : c.Carries carried)

/-- The bytes of both ends, and what the reader has taken of them. -/
structure Inv (c : ControlCodec T) (s : Direction T) : Prop where
  sent : ∀ message ∈ s.sent, (c.wire.encode message).length ≤ maxFrameLength
  part : c.delimiter.Part s.part
  whole : s.failed = false → s.part = []
  bytes : s.incoming.stream.received ++ (s.incoming.source.arrived.flatten ++ s.inFlight)
    = c.delimiter.stream (s.sent.map c.wire.encode) ++ s.part
  taken : ∃ frames,
    c.delimiter.Reads s.incoming.stream.received frames s.incoming.stream.buffer ∧
      s.incoming.messages = frames.filterMap c.wire.read
  ok : s.incoming.Ok c
  enabled : s.incoming.disabled = true → s.incoming.source.ended ≠ none
  sound : s.incoming.stream.hasErrored = true → s.incoming.source.ended ≠ none

theorem Inv.init : Inv c {} :=
  ⟨nofun, Or.inl rfl, fun _ => rfl, rfl, ⟨[], Delimiter.Reads.nil, rfl⟩,
    IncomingStream.Ok.init, nofun, nofun⟩

include hcarries in
/-- Of encodings that are not too long, what is carried is read. -/
theorem filterMap_read_encode {messages : List T}
    (h : ∀ message ∈ messages, (c.wire.encode message).length ≤ maxFrameLength) :
    (messages.map c.wire.encode).filterMap c.wire.read = messages.map carried := by
  induction messages with
  | nil => rfl
  | cons message messages ih =>
      obtain ⟨hhead, htail⟩ := List.forall_mem_cons.mp h
      rw [List.map_cons, List.filterMap_cons, hcarries.read hhead, ih htail, List.map_cons]

include hcarries in
/-- What the reader has taken is what was sent first, and the rest lies between. -/
theorem Inv.underway (hs : Inv c s) :
    ∃ taken underway, s.sent = taken ++ underway ∧ s.incoming.messages = taken.map carried ∧
      s.incoming.stream.buffer ++ (s.incoming.source.arrived.flatten ++ s.inFlight)
        = c.delimiter.stream (underway.map c.wire.encode) ++ s.part := by
  obtain ⟨frames, hreads, hmessages⟩ := hs.taken
  have hbytes := hs.bytes
  rw [hreads.bytes, List.append_assoc] at hbytes
  have hsent : ∀ data ∈ s.sent.map c.wire.encode, c.delimiter.Fits data := by
    intro data hdata
    obtain ⟨message, hmem, rfl⟩ := List.mem_map.mp hdata
    exact c.fits_iff.mpr (hs.sent message hmem)
  have hpart : ∀ data rest, c.delimiter.parse s.part ≠ .frame data rest := by
    rw [hs.part.parse]
    exact nofun
  obtain ⟨rest, hsplit, hbuffer⟩ := Delimiter.stream_split hreads.fits hsent hpart hbytes
  obtain ⟨taken, underway, hboth, htaken, rfl⟩ := List.map_eq_append_iff.mp hsplit
  refine ⟨taken, underway, hboth, ?_, hbuffer⟩
  rw [hmessages, ← htaken]
  refine filterMap_read_encode hcarries ?_
  intro message hmem
  exact hs.sent message (hboth ▸ List.mem_append_left underway hmem)

include hcarries in
/-- What has come in begins with the next message that was sent, or with a part of its
    frame, and then nothing that was sent has come in whole. -/
theorem Inv.parse (hs : Inv c s) :
    (∃ message taken underway rest, s.sent = taken ++ message :: underway ∧
      s.incoming.messages = taken.map carried ∧
      c.delimiter.parse (s.incoming.stream.buffer ++ s.incoming.source.arrived.flatten)
        = .frame (c.wire.encode message) rest ∧
      c.wire.read (c.wire.encode message) = some (carried message)) ∨
    c.delimiter.parse (s.incoming.stream.buffer ++ s.incoming.source.arrived.flatten) = .more ∧
      (s.inFlight = [] → s.incoming.messages = s.sent.map carried) := by
  obtain ⟨taken, underway, hsent, hmessages, hbytes⟩ := hs.underway hcarries
  rw [← List.append_assoc] at hbytes
  have hall : ∀ message ∈ underway, (c.wire.encode message).length ≤ maxFrameLength := by
    intro message hmem
    exact hs.sent message (hsent ▸ List.mem_append_right _ hmem)
  have hxs : ∀ data ∈ underway.map c.wire.encode, c.delimiter.Fits data := by
    intro data hdata
    obtain ⟨message, hmem, rfl⟩ := List.mem_map.mp hdata
    exact c.fits_iff.mpr (hall message hmem)
  rcases Delimiter.parse_of_stream hxs hs.part hbytes with
    ⟨data, tail, rest, htail, hparse, -⟩ | ⟨hmore, hshort⟩
  · obtain ⟨message, messages, rfl, rfl, rfl⟩ := List.map_eq_cons_iff.mp htail
    exact Or.inl ⟨message, taken, messages, rest, hsent, hmessages, hparse,
      hcarries.read (hall message List.mem_cons_self)⟩
  · refine Or.inr ⟨hmore, ?_⟩
    intro hnone
    cases underway with
    | nil => rw [hmessages, hsent, List.append_nil]
    | cons message underway =>
        -- a whole frame would have come in
        have hlt := hshort _ _ List.map_cons
        have hlen := congrArg List.length hbytes
        rw [hnone, List.append_nil, List.map_cons, Delimiter.stream_cons, List.append_assoc] at hlen
        simp only [List.length_append] at hlen hlt
        omega

include hcarries in
/-- What a poll comes to, until the stream ends. -/
theorem Inv.pollNext (hs : Inv c s) (hended : s.incoming.source.ended = none) :
    ∃ polled stream source, FramedRead.pollNext c.delimiter s.incoming.source s.incoming.stream
        = (polled, stream, source) ∧ stream.hasErrored = false ∧
      ((polled = .pending ∧ (s.inFlight = [] → s.incoming.messages = s.sent.map carried)) ∨
        ∃ message taken underway, polled = .frame (c.wire.encode message) ∧
          s.sent = taken ++ message :: underway ∧ s.incoming.messages = taken.map carried ∧
          c.wire.read (c.wire.encode message) = some (carried message)) := by
  have herr : s.incoming.stream.hasErrored = false := by
    by_contra hne
    exact hs.sound (Bool.of_not_eq_false hne) hended
  have hreadable : s.incoming.source.readable = s.incoming.source.arrived := by
    simp only [Source.readable, hended]
  rcases hs.parse hcarries with
    ⟨message, taken, underway, rest, hsent, hmessages, hparse, hread⟩ | ⟨hmore, hall⟩
  · rw [← hreadable] at hparse
    obtain ⟨stream, source, hpoll, -, hnone⟩ := FramedRead.Ok.frame hs.ok hparse
    exact ⟨_, stream, source, hpoll, hnone,
      Or.inr ⟨message, taken, underway, rfl, hsent, hmessages, hread⟩⟩
  · obtain ⟨stream, source, hpoll, hnone⟩ := FramedRead.Ok.pending hs.ok hended herr hmore
    exact ⟨_, stream, source, hpoll, hnone, Or.inl ⟨rfl, hall⟩⟩

/-- A poll moves bytes from those that have come in to those that were read. -/
theorem Inv.bytes_polled {stream : FramedRead} {source : Source} {polled : Polled} (hs : Inv c s)
    (hp : FramedRead.pollNext c.delimiter s.incoming.source s.incoming.stream
      = (polled, stream, source)) :
    stream.received ++ (source.arrived.flatten ++ s.inFlight)
      = c.delimiter.stream (s.sent.map c.wire.encode) ++ s.part := by
  obtain ⟨chunks, harrived, -, -, hreads⟩ := FramedRead.pollNext_reads hp
  have hbytes := hs.bytes
  rw [harrived, List.flatten_append] at hbytes
  rw [hreads.received, ← hbytes]
  simp only [List.append_assoc]

/-- A poll keeps what is known of the reader, if it takes a message with the frame. -/
theorem Inv.polled {stream : FramedRead} {source : Source} {polled : Polled}
    {messages : List T} {disabled : Bool} (hs : Inv c s)
    (hp : FramedRead.pollNext c.delimiter s.incoming.source s.incoming.stream
      = (polled, stream, source))
    (htaken : ∃ frames, c.delimiter.Reads stream.received frames stream.buffer ∧
      messages = frames.filterMap c.wire.read)
    (henabled : disabled = true → s.incoming.source.ended ≠ none)
    (hsound : stream.hasErrored = true → s.incoming.source.ended ≠ none) :
    Inv c { s with incoming := ⟨stream, source, disabled, messages⟩ } := by
  obtain ⟨_, -, -, hended, -⟩ := FramedRead.pollNext_reads hp
  refine ⟨hs.sent, hs.part, hs.whole, hs.bytes_polled hp, htaken, hs.ok.poll hp, ?_, ?_⟩
  · intro hd hnone
    exact henabled hd (hended.mp hnone)
  · intro herr hnone
    exact hsound herr (hended.mp hnone)

include hcarries in
/-- Until the stream ends, no poll leaves an error behind. -/
theorem Inv.sound_polled {stream : FramedRead} {source : Source} {polled : Polled} (hs : Inv c s)
    (hp : FramedRead.pollNext c.delimiter s.incoming.source s.incoming.stream
      = (polled, stream, source)) :
    stream.hasErrored = true → s.incoming.source.ended ≠ none := by
  intro herr hnone
  obtain ⟨_, _, _, hpoll, hsound, -⟩ := hs.pollNext hcarries hnone
  cases hp.symm.trans hpoll
  cases herr.symm.trans hsound

include hcarries in
theorem Inv.step (hs : Inv c s) (h : (system c).step s a = some t) : Inv c t := by
  have ⟨hsent, hpart, hwhole, hbytes, ⟨frames, hreads, hmessages⟩, hok, henabled, hsound⟩ := hs
  cases step_cases h with
  | send hlen hf =>
      rename_i message
      refine ⟨?_, hpart, hwhole, ?_, ⟨frames, hreads, hmessages⟩, hok, henabled, hsound⟩
      · intro message' hmem
        rcases List.mem_append.mp hmem with hmem | hmem
        · exact hsent message' hmem
        · rw [List.mem_singleton.mp hmem]
          exact hlen
      · show _ ++ (_ ++ (s.inFlight ++ _)) = _
        rw [hwhole hf, List.append_nil] at hbytes
        rw [← List.append_assoc, ← List.append_assoc, List.append_assoc _ _ s.inFlight, hbytes,
          hwhole hf, List.append_nil, List.map_append, Delimiter.stream_append, List.map_singleton,
          Delimiter.stream_cons, Delimiter.stream_nil, List.append_nil]
  | sendFails hlen hf hn =>
      rename_i message n
      refine ⟨hsent, ?_, nofun, ?_, ⟨frames, hreads, hmessages⟩, hok, henabled, hsound⟩
      · refine Or.inr ⟨c.wire.encode message, c.fits_iff.mpr hlen, List.take_prefix _ _, ?_⟩
        intro heq
        have hlength := congrArg List.length heq
        rw [List.length_take] at hlength
        omega
      · show _ ++ (_ ++ (s.inFlight ++ _)) = _
        rw [hwhole hf, List.append_nil] at hbytes
        rw [← List.append_assoc, ← List.append_assoc, List.append_assoc _ _ s.inFlight, hbytes]
  | arrive hstep =>
      rename_i n incoming
      have hok' := hok.step hstep
      cases IncomingStream.step_cases hstep with
      | receive he hc =>
          refine ⟨hsent, hpart, hwhole, ?_, ⟨frames, hreads, hmessages⟩, hok', henabled, hsound⟩
          show _ ++ ((s.incoming.source.arrived ++ [s.inFlight.take n]).flatten ++ _) = _
          rw [List.flatten_append, List.flatten_singleton, List.append_assoc,
            List.take_append_drop]
          exact hbytes
  | reader hb hstep =>
      rename_i b incoming
      have hok' := hok.step hstep
      cases IncomingStream.step_cases hstep with
      | receive he hc => cases a <;> cases hb
      | ends he =>
          exact ⟨hsent, hpart, hwhole, hbytes, ⟨frames, hreads, hmessages⟩, hok', nofun, nofun⟩
      | otherBranch =>
          exact ⟨hsent, hpart, hwhole, hbytes, ⟨frames, hreads, hmessages⟩, hok', nofun, hsound⟩
      | pending hd hp =>
          obtain ⟨_, -, -, -, hread⟩ := FramedRead.pollNext_reads hp
          exact hs.polled hp ⟨frames, (hread.frames hreads).2 nofun, hmessages⟩ henabled
            (hs.sound_polled hcarries hp)
      | message hd hp hm =>
          rename_i stream source data message
          obtain ⟨_, -, -, -, hread⟩ := FramedRead.pollNext_reads hp
          refine hs.polled hp ⟨frames ++ [data], (hread.frames hreads).1 data rfl, ?_⟩ henabled
            (hs.sound_polled hcarries hp)
          rw [List.filterMap_append, ← hmessages]
          simp [hm]
      | badMessage hd hp hm =>
          rename_i stream source data
          -- the frame is the next that was sent, so it can be deserialized
          obtain ⟨chunks, harrived, -, -, hread⟩ := FramedRead.pollNext_reads hp
          have hparse := c.delimiter.parse_append (c := source.arrived.flatten)
            (hread.taken data rfl)
          rw [List.append_assoc, ← List.flatten_append, ← harrived] at hparse
          rcases hs.parse hcarries with ⟨_, _, _, _, -, -, hnext, hok⟩ | ⟨hmore, -⟩
          · cases hnext.symm.trans hparse
            cases hok.symm.trans hm
          · cases hmore.symm.trans hparse
      | noFrame hd hp hpolled =>
          rename_i stream source polled
          have hno : ∀ data, polled ≠ .frame data := by
            rcases hpolled with rfl | rfl
            · exact nofun
            · exact nofun
          have hended : s.incoming.source.ended ≠ none := by
            intro hnone
            obtain ⟨_, _, _, hpoll, -, hnext⟩ := hs.pollNext hcarries hnone
            cases hp.symm.trans hpoll
            rcases hnext with ⟨rfl, -⟩ | ⟨_, _, _, hframe, -⟩
            · rcases hpolled with hpolled | hpolled <;> cases hpolled
            · exact hno _ hframe
          obtain ⟨_, -, -, -, hread⟩ := FramedRead.pollNext_reads hp
          exact hs.polled hp ⟨frames, (hread.frames hreads).2 hno, hmessages⟩ (fun _ => hended)
            fun _ => hended

include hcarries in
theorem inv_of_exec (h : (system c).exec {} acts = some s) : Inv c s :=
  exec_invariant (Inv.step hcarries) Inv.init h

theorem Inv.disabled (hs : Inv c s) (hended : s.incoming.source.ended = none) :
    s.incoming.disabled = false := by
  by_contra hne
  exact hs.enabled (Bool.of_not_eq_false hne) hended

/-- What a poll that finds a message does. -/
theorem Inv.poll_message {message : T} {stream : FramedRead} {source : Source} {data : Bytes}
    (hs : Inv c s) (hended : s.incoming.source.ended = none)
    (hp : FramedRead.pollNext c.delimiter s.incoming.source s.incoming.stream
      = (.frame data, stream, source))
    (hread : c.wire.read data = some message) :
    (s.incoming.next c).1 = .ok message ∧ source.ended = none ∧
      (system c).step s .poll = some { s with
        incoming := ⟨stream, source, false, s.incoming.messages ++ [message]⟩ } := by
  obtain ⟨_, -, -, hiff, -⟩ := FramedRead.pollNext_reads hp
  refine ⟨IncomingStream.next_ok_iff.mpr ⟨data, stream, source, hp, hread⟩, hiff.mpr hended,
    poll_step ?_⟩
  show s.incoming.step c .poll = _
  rw [IncomingStream.step, hs.disabled hended, IncomingStream.next, hp]
  simp [hread, hs.disabled hended]

include hcarries in
/-- Polls take all that has come in. -/
theorem Inv.polls {n : Nat} (hs : Inv c s) (hin : s.inFlight = [])
    (hended : s.incoming.source.ended = none)
    (hn : s.sent.length = s.incoming.messages.length + n) :
    ∃ bs t, (∀ b ∈ bs, b = .poll) ∧ (system c).exec s bs = some t ∧
      t.incoming.messages = s.sent.map carried := by
  induction n generalizing s with
  | zero =>
      obtain ⟨taken, underway, hsent, hmessages, -⟩ := hs.underway hcarries
      have hlen := congrArg List.length hsent
      rw [List.length_append, hn, hmessages, List.length_map] at hlen
      have hnil : underway = [] := List.length_eq_zero_iff.mp (by omega)
      rw [hnil, List.append_nil] at hsent
      exact ⟨[], s, nofun, rfl, by rw [hmessages, hsent]⟩
  | succ n ih =>
      obtain ⟨polled, stream, source, hp, -, ⟨-, hall⟩ |
        ⟨message, taken, underway, rfl, hsent, hmessages, hread⟩⟩ := hs.pollNext hcarries hended
      · exact ⟨[], s, nofun, rfl, hall hin⟩
      · obtain ⟨-, hended', hpoll⟩ := hs.poll_message hended hp hread
        obtain ⟨bs, t, hbs, ht, htm⟩ := ih (hs.step hcarries hpoll) hin hended' (by
          show s.sent.length = (s.incoming.messages ++ [carried message]).length + n
          rw [List.length_append, hn, List.length_singleton]
          omega)
        refine ⟨.poll :: bs, t, ?_, exec_cons_iff.mpr ⟨_, hpoll, ht⟩, htm⟩
        intro b hb
        rcases List.mem_cons.mp hb with rfl | hb
        · rfl
        · exact hbs b hb

theorem Inv.exec (hcarries : c.Carries carried) (hs : Inv c s)
    (h : (system c).exec s acts = some t) : Inv c t :=
  exec_invariant (Inv.step hcarries) hs h

include hcarries in
/-- The message that is next can be taken: all comes in, and the branch is polled. -/
theorem Inv.takes {message : T} (hs : Inv c s) (hended : s.incoming.source.ended = none)
    (hnext : s.incoming.messages ++ [message] <+: s.sent.map carried) :
    ∃ bs m t, (∀ b ∈ bs, ∃ n, b = .arrive n) ∧ (system c).exec s bs = some m ∧
      (m.incoming.next c).1 = .ok message ∧ (system c).step m .poll = some t ∧
      t.failed = s.failed ∧ t.incoming.source.ended = none := by
  obtain ⟨bs, m, hbs, harrive, hm⟩ := arrive_exec (c := c) hended
  have hinv := hs.exec hcarries harrive
  have hmended := hm.ended.trans hended
  obtain ⟨rest, hnext⟩ := hnext
  rw [← hm.sent, ← hm.messages] at hnext
  obtain ⟨polled, stream, source, hp, -, ⟨-, hall⟩ |
    ⟨message', taken, underway, rfl, hsent, hmessages, hread⟩⟩ := hinv.pollNext hcarries hmended
  · rw [hall hm.inFlight] at hnext
    have hlen := congrArg List.length hnext
    simp only [List.length_append, List.length_singleton] at hlen
    omega
  · have hsame : carried message' = message := by
      rw [hsent, hmessages, List.map_append, List.append_assoc] at hnext
      cases List.append_cancel_left hnext
      rfl
    rw [hsame] at hread
    obtain ⟨hok, hended', hpoll⟩ := hinv.poll_message hmended hp hread
    exact ⟨bs, m, _, hbs, harrive, hok, hpoll, hm.failed, hended'⟩

include hcarries in
/-- **What the reader has not had lies between**, byte by byte, at every point of every
    run: the messages it was given are what is carried of the first that were sent, and
    its buffer, the bytes that have come in and those in flight are the frames of the
    others and the part of a frame where a `send` failed.  Until the stream ends `next`
    never fails, and bytes that come in and polls are enough for the reader to be given
    all that was sent. -/
theorem underway_exact (h : (system c).exec {} acts = some s) :
    (∃ taken underway, s.sent = taken ++ underway ∧
      s.incoming.messages = taken.map carried ∧
      s.incoming.stream.buffer ++ (s.incoming.source.arrived.flatten ++ s.inFlight)
        = c.delimiter.stream (underway.map c.wire.encode) ++ s.part) ∧
    (s.incoming.source.ended = none →
      (s.incoming.disabled = false ∧ (s.incoming.next c).1 ≠ .err) ∧
      ∃ bs t, (∀ b ∈ bs, b = .poll ∨ ∃ n, b = .arrive n) ∧ (system c).exec s bs = some t ∧
        t.incoming.messages = s.sent.map carried) := by
  have hs := inv_of_exec hcarries h
  refine ⟨hs.underway hcarries, ?_⟩
  intro hended
  refine ⟨⟨hs.disabled hended, ?_⟩, ?_⟩
  · obtain ⟨polled, stream, source, hp, -, ⟨rfl, -⟩ | ⟨message, _, _, rfl, -, -, hread⟩⟩ :=
      hs.pollNext hcarries hended
    · simp [IncomingStream.next, hp]
    · simp [IncomingStream.next, hp, hread]
  · -- everything comes in, then the polls
    obtain ⟨bs, m, hbs, harrive, hm⟩ := arrive_exec (c := c) hended
    have hinv := hs.exec hcarries harrive
    obtain ⟨taken, underway, hsent, hmessages, -⟩ := hinv.underway hcarries
    have hlen : m.sent.length = m.incoming.messages.length + underway.length := by
      rw [hmessages, List.length_map, hsent, List.length_append]
    obtain ⟨cs, t, hcs, ht, htaken⟩ :=
      hinv.polls hcarries hm.inFlight (hm.ended.trans hended) hlen
    rw [hm.sent] at htaken
    refine ⟨bs ++ cs, t, ?_, ?_, htaken⟩
    · intro b hb
      rcases List.mem_append.mp hb with hb | hb
      · exact Or.inr (hbs b hb)
      · exact Or.inl (hcs b hb)
    · rw [exec_append, harrive, Option.bind_some, ht]

end Underway

/-- Two messages, of which the second is cut off. -/
def secondCutOff : List (Action ServerMessage) :=
  [.send (.playerConnected Str.a), .arrive 5, .sendFails (.requestAsset Str.a) 9, .arrive 20, .poll]

theorem underway_exact_secondCutOff :
    ∃ s taken underway, (system serverCodec).exec {} secondCutOff = some s ∧
      s.incoming.messages = [.playerConnected Str.a] ∧
      s.sent = taken ++ underway ∧ s.incoming.messages = taken.map ServerMessage.carried ∧
      s.incoming.disabled = false := by
  have hrun : (system serverCodec).exec {} secondCutOff = some _ := rfl
  obtain ⟨⟨taken, underway, hsent, hmessages, -⟩, hnext⟩ :=
    underway_exact (ServerMessage.carries rfl) hrun
  exact ⟨_, taken, underway, hrun, rfl, hsent, hmessages, (hnext rfl).1.1⟩

end Direction

end AmbientProxy
