import AmbientProxy.Bytes
import AmbientProxy.Lib.Fragments

/-! # Proxied streams — framed headers and the copying between two streams

    `src/streams.rs` and its callers in `src/server.rs` and `src/client.rs`.  A
    proxied stream is two QUIC streams and a copying task between them; the side
    that opens the stream towards the other machine writes a header first, and
    the side that accepts it takes the header off:

        player  ──────────▶  proxy  ── header ──▶  game server     (opened by the player)
        player  ◀──────────  proxy  ◀── header ──  game server     (opened by the server)

    The return half of a bidirectional stream carries no header.

    * `readFramed_framed` — reading a header leaves the stream at the first byte
      of the payload, for every payload and every fragmentation;
    * `streams_transparent` — on all four ways to open a stream, and on both return
      halves, the proxy passes on every byte, behind one header or none, and the far
      end reads exactly the near end's payload. -/

namespace AmbientProxy

variable {T : Type}

/-- How a stream ends for its reader. -/
inductive Ending where
  | finished
  | reset
  /-- The connection was lost. -/
  | lost
  deriving DecidableEq

/-- `quinn::RecvStream`: the fragments still to be read, and what follows them. -/
structure RecvStream where
  chunks : List Bytes
  ending : Ending
  deriving DecidableEq

/-- `quinn::SendStream`: what was written, and whether it was finished. -/
structure SendStream where
  written : Bytes := []
  finished : Bool := false
  deriving DecidableEq

namespace RecvStream

/-- All bytes that are still to be read. -/
def bytes (r : RecvStream) : Bytes := r.chunks.flatten

/-- `read_exact`. -/
def readExact (r : RecvStream) (n : Nat) : Outcome (Bytes × RecvStream) :=
  match Fragments.readExact n r.chunks with
  | none => .err .readExactError
  | some (data, chunks) => .ok (data, { r with chunks := chunks })

/-- `read_u32`, of `AsyncReadExt`: the stream's end is an `io::Error`. -/
def readU32 (r : RecvStream) : Outcome (UInt32 × RecvStream) :=
  match Fragments.readExact 4 r.chunks with
  | none => .err .ioError
  | some (data, chunks) => .ok (UInt32.ofNat (ofBe data), { r with chunks := chunks })

/-- `read_to_end`: it fails on a stream that is longer than `n`, or that does not
    finish. -/
def readToEnd (r : RecvStream) (n : Nat) : Outcome Bytes :=
  if r.bytes.length ≤ n ∧ r.ending = .finished then .ok r.bytes else .err .readToEndError

end RecvStream

namespace SendStream

/-- `write_all`. -/
def writeAll (s : SendStream) (data : Bytes) : SendStream := { s with written := s.written ++ data }

/-- `finish`. -/
def finish (s : SendStream) : SendStream := { s with finished := true }

end SendStream

/-- `read_framed`. -/
def readFramed (c : Codec T) (recvStream : RecvStream) (maxSize : UInt32) :
    Outcome (T × RecvStream) := do
  let (messageLen, recvStream) ← recvStream.readU32
  if messageLen > maxSize then .err (.messageTooLong messageLen)
  else
    let (buffer, recvStream) ← recvStream.readExact messageLen.toNat
    let value ← Outcome.ofOption .badMsgFormat (deserialize c buffer)
    pure (value, recvStream)

/-- The bytes that `write_framed` writes. -/
def framed (c : Codec T) (value : T) : Bytes :=
  let bytes := serialize c value
  putU32 (UInt32.ofNat bytes.length) ++ bytes

/-- `write_framed`. -/
def writeFramed (c : Codec T) (sendStream : SendStream) (value : T) : SendStream :=
  sendStream.writeAll (framed c value)

/-- `spawn_stream_copy`: everything the source delivers is written.  The task then
    drops both streams, whether the source ended well or not, and dropping a
    stream that is neither finished nor reset finishes it. -/
def spawnStreamCopy (recvStream : RecvStream) (sendStream : SendStream) : SendStream :=
  (sendStream.writeAll recvStream.bytes).finish

/-! ## The four ways to open a proxied stream -/

/-- `PlayerConnection::handle_uni`: a player opened `recvStream`; the result is the
    stream to the game server. -/
def PlayerConnection.handleUni (playerId : Str) (recvStream : RecvStream) : SendStream :=
  let sendStream := writeFramed ServerStreamHeader.codec {} (.playerStreamOpened playerId)
  spawnStreamCopy recvStream sendStream

/-- `PlayerConnection::handle_bi`: the streams to the game server and to the player. -/
def PlayerConnection.handleBi (playerId : Str) (sendStream : SendStream)
    (recvStream serverRecvStream : RecvStream) : SendStream × SendStream :=
  let serverSendStream := writeFramed ServerStreamHeader.codec {} (.playerStreamOpened playerId)
  (spawnStreamCopy recvStream serverSendStream, spawnStreamCopy serverRecvStream sendStream)

/-- How `Client::start` accepts a stream, of either kind: the player's id, and the
    stream that it queues. -/
def Client.readStreamInfo (recvStream : RecvStream) : Outcome (Str × RecvStream) := do
  let (.playerStreamOpened playerId, recvStream) ←
    readFramed ServerStreamHeader.codec recvStream 1024
  pure (playerId, recvStream)

/-- `ProxiedConnection::open_uni`, and the sending half of `open_bi`. -/
def ProxiedConnection.openStream (playerId : Str) : SendStream :=
  writeFramed ClientStreamHeader.codec {} (.openPlayerStream playerId)

/-- The start of `ProxyServer::handle_uni`: the header, and the stream after it. -/
def ProxyServer.readHeader (recvStream : RecvStream) : Outcome (ClientStreamHeader × RecvStream) :=
  readFramed ClientStreamHeader.codec recvStream 1024

/-- The start of `ProxyServer::handle_bi`: only one kind of header is expected. -/
def ProxyServer.readBiHeader (recvStream : RecvStream) : Outcome (Str × RecvStream) := do
  match ← readFramed ClientStreamHeader.codec recvStream 1024 with
  | (.openPlayerStream playerId, recvStream) => pure (playerId, recvStream)
  | (.storeAsset _ _ _, _) => .err (.other .unexpectedHeader)

/-- The end of `ProxyServer::handle_bi`: the streams to the player and to the game
    server. -/
def ProxyServer.copyBi (sendStream : SendStream) (recvStream : RecvStream)
    (playerSendStream : SendStream) (playerRecvStream : RecvStream) : SendStream × SendStream :=
  (spawnStreamCopy recvStream playerSendStream, spawnStreamCopy playerRecvStream sendStream)

/-! ## Reading a framed header -/

theorem RecvStream.readU32_of_le {r : RecvStream} (h : 4 ≤ r.bytes.length) :
    ∃ r' : RecvStream, r.readU32 = .ok (UInt32.ofNat (ofBe (r.bytes.take 4)), r') ∧
      r'.bytes = r.bytes.drop 4 ∧ r'.ending = r.ending := by
  obtain ⟨chunks, hread, hflat⟩ := Fragments.readExact_of_le h
  refine ⟨{ r with chunks := chunks }, ?_, hflat, rfl⟩
  rw [readU32, hread]
  rfl

theorem RecvStream.readExact_of_le {r : RecvStream} {n : Nat} (h : n ≤ r.bytes.length) :
    ∃ r' : RecvStream, r.readExact n = .ok (r.bytes.take n, r') ∧
      r'.bytes = r.bytes.drop n ∧ r'.ending = r.ending := by
  obtain ⟨chunks, hread, hflat⟩ := Fragments.readExact_of_le h
  refine ⟨{ r with chunks := chunks }, ?_, hflat, rfl⟩
  rw [readExact, hread]
  rfl

/-- Where the stream holds the length field and the bytes it announces, the read
    decodes them and leaves exactly the others. -/
theorem readFramed_of_le (c : Codec T) {r : RecvStream} {maxSize n : UInt32}
    (h4 : 4 ≤ r.bytes.length) (hn : UInt32.ofNat (ofBe (r.bytes.take 4)) = n)
    (hmax : n ≤ maxSize) (hle : n.toNat ≤ (r.bytes.drop 4).length) :
    ∃ r' : RecvStream, r'.bytes = (r.bytes.drop 4).drop n.toNat ∧ r'.ending = r.ending ∧
      readFramed c r maxSize
        = (Outcome.ofOption .badMsgFormat (deserialize c ((r.bytes.drop 4).take n.toNat))
            >>= fun value => .ok (value, r')) := by
  obtain ⟨r1, hread1, hbytes1, hend1⟩ := RecvStream.readU32_of_le h4
  rw [← hbytes1] at hle ⊢
  obtain ⟨r2, hread2, hbytes2, hend2⟩ := RecvStream.readExact_of_le hle
  refine ⟨r2, hbytes2, hend2.trans hend1, ?_⟩
  rw [readFramed, hread1, hn, Outcome.ok_bind]
  simp only [if_neg (UInt32.not_lt.mpr hmax)]
  rw [hread2, Outcome.ok_bind]
  rfl

/-- A read that succeeds found the length field and the bytes it announces. -/
theorem le_of_readFramed_eq_ok {c : Codec T} {r : RecvStream} {maxSize : UInt32}
    {out : T × RecvStream} (h : readFramed c r maxSize = .ok out) :
    4 ≤ r.bytes.length ∧ UInt32.ofNat (ofBe (r.bytes.take 4)) ≤ maxSize ∧
      (UInt32.ofNat (ofBe (r.bytes.take 4))).toNat ≤ (r.bytes.drop 4).length := by
  by_cases h4 : r.bytes.length < 4
  · rw [readFramed, RecvStream.readU32, Fragments.readExact_of_lt h4, Outcome.err_bind] at h
    exact nomatch h
  · obtain ⟨r1, hread1, hbytes1, -⟩ := RecvStream.readU32_of_le (Nat.le_of_not_lt h4)
    rw [readFramed, hread1, Outcome.ok_bind] at h
    by_cases hmax : UInt32.ofNat (ofBe (r.bytes.take 4)) > maxSize
    · simp only [if_pos hmax] at h
      exact nomatch h
    · simp only [if_neg hmax] at h
      refine ⟨Nat.le_of_not_lt h4, UInt32.not_lt.mp hmax, ?_⟩
      by_contra hshort
      have hlt : r1.bytes.length < (UInt32.ofNat (ofBe (r.bytes.take 4))).toNat := by
        rw [hbytes1]
        exact Nat.lt_of_not_le hshort
      rw [RecvStream.readExact, Fragments.readExact_of_lt hlt, Outcome.err_bind] at h
      exact nomatch h

/-- **Reading a header leaves the stream at the first byte of the payload**,
    however the bytes arrive. -/
theorem readFramed_framed (c : Codec T) (h : T) (maxSize : UInt32)
    (hmax : (serialize c h).length ≤ maxSize.toNat) {r : RecvStream} {w : Bytes}
    (hr : r.bytes = framed c h ++ w) :
    ∃ r', readFramed c r maxSize = .ok (h, r') ∧ r'.bytes = w ∧ r'.ending = r.ending := by
  have hlen : (putU32 (UInt32.ofNat (serialize c h).length)).length = 4 := length_putU32 _
  have hnat : (UInt32.ofNat (serialize c h).length).toNat = (serialize c h).length :=
    UInt32.toNat_ofNat_of_lt' (lt_of_le_of_lt hmax maxSize.toNat_lt)
  rw [framed, List.append_assoc] at hr
  have hfield : UInt32.ofNat (ofBe (r.bytes.take 4)) = UInt32.ofNat (serialize c h).length := by
    rw [hr, List.take_left' hlen, ofBe_putU32, UInt32.ofNat_toNat]
  have hrest : r.bytes.drop 4 = serialize c h ++ w := by rw [hr, List.drop_left' hlen]
  have h4 : 4 ≤ r.bytes.length := by rw [hr, List.length_append, hlen]; omega
  have hle : UInt32.ofNat (serialize c h).length ≤ maxSize := by
    rw [UInt32.le_iff_toNat_le, hnat]
    exact hmax
  obtain ⟨r', hbytes, hend, hread⟩ := readFramed_of_le c h4 hfield hle
    (by rw [hrest, List.length_append, hnat]; exact Nat.le_add_right _ _)
  have hdec : deserialize c (serialize c h) = some h := by
    rw [deserialize, serialize, c.decode_encode_nil, Option.map_some]
  rw [hrest, hnat, List.take_left, hdec] at hread
  rw [hrest, hnat, List.drop_left] at hbytes
  exact ⟨r', hread, hbytes, hend⟩

/-- **No other header is ever read.**  Where the bytes that arrive are a prefix of
    what was written, a read that succeeds gives the header that was written and
    leaves a prefix of the payload: a cut header is not read, and neither is one
    whose length field wrapped. -/
theorem readFramed_of_prefix {c : Codec T} {h : T} {maxSize : UInt32} {r r' : RecvStream}
    {h' : T} {w : Bytes} (hr : r.bytes <+: framed c h ++ w)
    (hread : readFramed c r maxSize = .ok (h', r')) :
    h' = h ∧ r.bytes = framed c h ++ r'.bytes ∧ r'.ending = r.ending := by
  have hlen : (putU32 (UInt32.ofNat (serialize c h).length)).length = 4 := length_putU32 _
  obtain ⟨h4, hmax, hle⟩ := le_of_readFramed_eq_ok hread
  obtain ⟨rest, hrest⟩ := hr
  rw [framed, List.append_assoc] at hrest
  -- the length field is the one that was written
  have htake : r.bytes.take 4 = putU32 (UInt32.ofNat (serialize c h).length) := by
    have happ : (r.bytes ++ rest).take 4 = r.bytes.take 4 := List.take_append_of_le_length h4
    rw [← happ, hrest, List.take_left' hlen]
  have hfield : UInt32.ofNat (ofBe (r.bytes.take 4)) = UInt32.ofNat (serialize c h).length := by
    rw [htake, ofBe_putU32, UInt32.ofNat_toNat]
  have hdrop : r.bytes.drop 4 ++ rest = serialize c h ++ w := by
    rw [← List.drop_append_of_le_length h4, hrest, List.drop_left' hlen]
  obtain ⟨r2, hbytes, hend, hread2⟩ := readFramed_of_le c h4 rfl hmax hle
  rw [hread2] at hread
  obtain ⟨value, hvalue, hpair⟩ := Outcome.bind_eq_ok_iff.mp hread
  obtain ⟨rfl, rfl⟩ := Prod.mk.inj (Outcome.ok.inj hpair)
  rw [hfield, UInt32.toNat_ofNat'] at hvalue hbytes hle
  by_cases hlt : (serialize c h).length < 2 ^ 32
  · rw [Nat.mod_eq_of_lt hlt] at hvalue hbytes hle
    have hhead : (r.bytes.drop 4).take (serialize c h).length = serialize c h := by
      have happ := congrArg (List.take (serialize c h).length) hdrop
      rw [List.take_append_of_le_length hle, List.take_left] at happ
      exact happ
    have hdec : deserialize c (serialize c h) = some h := by
      rw [deserialize, serialize, c.decode_encode_nil, Option.map_some]
    rw [hhead, hdec] at hvalue
    refine ⟨(Outcome.ok.inj hvalue).symm, ?_, hend⟩
    rw [hbytes, framed, ← htake]
    have hsplit := List.take_append_drop (serialize c h).length (r.bytes.drop 4)
    rw [hhead] at hsplit
    rw [List.append_assoc, hsplit, List.take_append_drop]
  · -- a proper prefix of the header does not decode
    have hcut : (serialize c h).length % 2 ^ 32 < (serialize c h).length :=
      lt_of_lt_of_le (Nat.mod_lt _ (by decide)) (Nat.le_of_not_lt hlt)
    have hhead : (r.bytes.drop 4).take ((serialize c h).length % 2 ^ 32)
        = (serialize c h).take ((serialize c h).length % 2 ^ 32) := by
      have happ := congrArg (List.take ((serialize c h).length % 2 ^ 32)) hdrop
      rw [List.take_append_of_le_length hle,
        List.take_append_of_le_length (Nat.le_of_lt hcut)] at happ
      exact happ
    have hdec : deserialize c ((serialize c h).take ((serialize c h).length % 2 ^ 32)) = none :=
      congrArg (Option.map Prod.fst) (c.decode_take_encode h hcut)
    rw [hhead, hdec] at hvalue
    cases hvalue

/-- A header that is read is within the limit: its length field did not wrap. -/
theorem length_le_of_readFramed {c : Codec T} {h : T} {maxSize : UInt32} {r : RecvStream}
    {out : T × RecvStream} {w : Bytes} (hr : r.bytes <+: framed c h ++ w)
    (hread : readFramed c r maxSize = .ok out) : (serialize c h).length ≤ maxSize.toNat := by
  obtain ⟨h', r'⟩ := out
  obtain ⟨h4, hmax, hle⟩ := le_of_readFramed_eq_ok hread
  obtain ⟨r2, hbytes, -, hread2⟩ := readFramed_of_le c h4 rfl hmax hle
  rw [hread2] at hread
  obtain ⟨value, hvalue, hpair⟩ := Outcome.bind_eq_ok_iff.mp hread
  obtain ⟨rfl, rfl⟩ := Prod.mk.inj (Outcome.ok.inj hpair)
  have hrest := readFramed_of_prefix hr (hread2.trans hread)
  have hall := congrArg List.length hrest.2.1
  -- the read took as many bytes as the field announces, and left as many as were written
  rw [hbytes, framed, List.length_append, List.length_append, length_putU32, List.length_drop,
    List.length_drop] at hall
  rw [List.length_drop] at hle
  have hfield := UInt32.le_iff_toNat_le.mp hmax
  omega

/-- A header above the limit is an error. -/
theorem readFramed_of_gt (c : Codec T) (h : T) {maxSize : UInt32} {r : RecvStream} {w : Bytes}
    (hr : r.bytes = framed c h ++ w) (hlt : (serialize c h).length < 2 ^ 32)
    (hmax : maxSize.toNat < (serialize c h).length) :
    readFramed c r maxSize = .err (.messageTooLong (UInt32.ofNat (serialize c h).length)) := by
  have hlen : (putU32 (UInt32.ofNat (serialize c h).length)).length = 4 := length_putU32 _
  rw [framed, List.append_assoc] at hr
  have h4 : 4 ≤ r.bytes.length := by rw [hr, List.length_append, hlen]; omega
  obtain ⟨r1, hread1, -, -⟩ := RecvStream.readU32_of_le h4
  rw [hr, List.take_left' hlen, ofBe_putU32, UInt32.ofNat_toNat] at hread1
  have hgt : UInt32.ofNat (serialize c h).length > maxSize := by
    rw [gt_iff_lt, UInt32.lt_iff_toNat_lt, UInt32.toNat_ofNat_of_lt' hlt]
    exact hmax
  rw [readFramed, hread1, Outcome.ok_bind]
  exact if_pos hgt

/-! ## Transparency

    What arrives of a stream is a prefix of what was written on it, cut into
    fragments as it pleases, and all of it where the reader sees the finish. -/

/-- `r` is what a reader sees of the stream `s`. -/
structure Arrives (s : SendStream) (r : RecvStream) : Prop where
  bytes : r.bytes <+: s.written
  exact : r.ending = .finished → s.finished = true ∧ r.bytes = s.written

/-- Behind its header, the stream is what a reader sees of the payload. -/
theorem Arrives.readFramed {c : Codec T} {h h' : T} {w : Bytes} {finished : Bool}
    {r r' : RecvStream} {maxSize : UInt32} (h1 : Arrives ⟨framed c h ++ w, finished⟩ r)
    (hread : readFramed c r maxSize = .ok (h', r')) : h' = h ∧ Arrives ⟨w, finished⟩ r' := by
  obtain ⟨hh, hbytes, hend⟩ := readFramed_of_prefix h1.bytes hread
  have hprefix := h1.bytes
  rw [hbytes, List.prefix_append_right_inj] at hprefix
  refine ⟨hh, hprefix, ?_⟩
  intro hfin
  obtain ⟨hf, hall⟩ := h1.exact (hend.symm.trans hfin)
  exact ⟨hf, List.append_cancel_left (hbytes.symm.trans hall)⟩

/-- What was accepted is a stream with header `x` on which the payload `w`
    arrives: never anything else, and exactly that where the stream is `clean`. -/
structure Accepted (x : T) (w : Bytes) (clean : Prop) (accepted : Outcome (T × RecvStream)) :
    Prop where
  bytes : ∀ y r, accepted = .ok (y, r) → y = x ∧ r.bytes <+: w
  exact : clean → ∃ r, accepted = .ok (x, r) ∧ r.bytes = w ∧ r.ending = .finished

/-- The reader of a header is left with the payload that was written after it. -/
theorem Arrives.accepted {c : Codec T} {h : T} {maxSize : UInt32}
    (hmax : (serialize c h).length ≤ maxSize.toNat) {w : Bytes} {finished : Bool}
    {r : RecvStream} (h1 : Arrives ⟨framed c h ++ w, finished⟩ r) :
    Accepted h w (r.ending = .finished) (AmbientProxy.readFramed c r maxSize) := by
  constructor
  · intro h' r' hread
    obtain ⟨hh, hr'⟩ := h1.readFramed hread
    exact ⟨hh, hr'.bytes⟩
  · intro hend
    obtain ⟨r', hread, hbytes', hend'⟩ := readFramed_framed c h maxSize hmax (h1.exact hend).2
    exact ⟨r', hread, hbytes', hend'.trans hend⟩

/-- A handler that goes on with what it accepted. -/
theorem Accepted.bind {T' : Type} {x : T} {y : T'} {w : Bytes} {clean : Prop}
    {accepted : Outcome (T × RecvStream)} (ha : Accepted x w clean accepted)
    {f : T × RecvStream → Outcome (T' × RecvStream)} (hf : ∀ r, f (x, r) = .ok (y, r)) :
    Accepted y w clean (accepted >>= f) := by
  constructor
  · intro y' r' hr'
    obtain ⟨⟨x', r⟩, hacc, hfr⟩ := Outcome.bind_eq_ok_iff.mp hr'
    obtain ⟨rfl, hbytes⟩ := ha.bytes _ _ hacc
    obtain ⟨rfl, rfl⟩ := Prod.mk.inj (Outcome.ok.inj ((hf r).symm.trans hfr))
    exact ⟨rfl, hbytes⟩
  · intro hclean
    obtain ⟨r, hacc, hbytes, hend⟩ := ha.exact hclean
    exact ⟨r, by rw [hacc, Outcome.ok_bind, hf], hbytes, hend⟩

/-- A payload that arrives up to the first hop's header reader arrives whole, or
    cut, from the stream that was copied into. -/
theorem Accepted.of_copied {x : T} {s : SendStream} {r1 : RecvStream} {clean : Prop}
    {accepted : Outcome (T × RecvStream)} (h1 : Arrives s r1)
    (ha : Accepted x r1.bytes clean accepted) :
    Accepted x s.written (r1.ending = .finished ∧ clean) accepted := by
  constructor
  · intro y r hacc
    exact ⟨(ha.bytes y r hacc).1, (ha.bytes y r hacc).2.trans h1.bytes⟩
  · rintro ⟨hend, hclean⟩
    obtain ⟨r, hacc, hbytes, hend'⟩ := ha.exact hclean
    exact ⟨r, hacc, hbytes.trans (h1.exact hend).2, hend'⟩

/-- What `r` reads is the payload `w`: a prefix of it whatever happens on the way,
    and all of it where the way is `clean`. -/
def Reads (w : Bytes) (clean : Prop) (r : RecvStream) : Prop :=
  r.bytes <+: w ∧ (clean → r.bytes = w)

/-- Copying without a header adds nothing and loses nothing. -/
theorem Arrives.copied {s : SendStream} {r1 r2 : RecvStream} (h1 : Arrives s r1)
    (h2 : Arrives (spawnStreamCopy r1 {}) r2) :
    Reads s.written (r1.ending = .finished ∧ r2.ending = .finished) r2 := by
  refine ⟨h2.bytes.trans h1.bytes, ?_⟩
  rintro ⟨he1, he2⟩
  exact (h2.exact he2).2.trans (h1.exact he1).2

/-- The same where the proxy took a header off first. -/
theorem Accepted.copied {x : T} {w : Bytes} {r1 r2 r : RecvStream}
    {accepted : Outcome (T × RecvStream)} (ha : Accepted x w (r1.ending = .finished) accepted)
    (hr : accepted = .ok (x, r)) (h2 : Arrives (spawnStreamCopy r {}) r2) :
    Reads w (r1.ending = .finished ∧ r2.ending = .finished) r2 := by
  refine ⟨h2.bytes.trans (ha.bytes x r hr).2, ?_⟩
  rintro ⟨he1, he2⟩
  obtain ⟨r', hr', hbytes, -⟩ := ha.exact he1
  obtain ⟨-, rfl⟩ := Prod.mk.inj (Outcome.ok.inj (hr'.symm.trans hr))
  exact (h2.exact he2).2.trans hbytes

/-- The stream `s` carries a header, then all that came in on `r`, and is finished. -/
structure Carries (header : Bytes) (r : RecvStream) (s : SendStream) : Prop where
  written : s.written = header ++ r.bytes
  finished : s.finished = true

/-- A copy passes on every byte. -/
theorem spawnStreamCopy_carries (r : RecvStream) (s : SendStream) :
    Carries s.written r (spawnStreamCopy r s) := ⟨rfl, rfl⟩

/-- A stream that a player opened, up to where the game server accepts it. -/
theorem playerStream_accepted {p : Str} {s : SendStream} {r1 r2 : RecvStream}
    (hp : (serialize ServerStreamHeader.codec (.playerStreamOpened p)).length ≤ 1024)
    (h1 : Arrives s r1) (h2 : Arrives (PlayerConnection.handleUni p r1) r2) :
    Accepted p s.written (r1.ending = .finished ∧ r2.ending = .finished)
      (Client.readStreamInfo r2) := by
  have ha : Accepted (.playerStreamOpened p) r1.bytes (r2.ending = .finished)
      (readFramed ServerStreamHeader.codec r2 1024) := Arrives.accepted hp h2
  have haccept : Accepted p r1.bytes (r2.ending = .finished) (Client.readStreamInfo r2) :=
    ha.bind fun _ => rfl
  exact haccept.of_copied h1

/-- A stream that the game server opened, up to where either handler of the proxy
    looks the player up. -/
theorem serverStream_accepted {p : Str} {w : Bytes} {finished : Bool} {r1 : RecvStream}
    (hp : (serialize ClientStreamHeader.codec (.openPlayerStream p)).length ≤ 1024)
    (h1 : Arrives ⟨((ProxiedConnection.openStream p).writeAll w).written, finished⟩ r1) :
    Accepted (.openPlayerStream p) w (r1.ending = .finished) (ProxyServer.readHeader r1) ∧
      Accepted p w (r1.ending = .finished) (ProxyServer.readBiHeader r1) := by
  have ha : Accepted (.openPlayerStream p) w (r1.ending = .finished)
      (readFramed ClientStreamHeader.codec r1 1024) := Arrives.accepted hp h1
  exact ⟨ha, ha.bind fun _ => rfl⟩

/-- **Proxied streams are transparent.**  Reading a header leaves the stream at the
    first byte of the payload.  On all four ways to open a stream, and on the return
    half of both bidirectional ones, the proxy writes every byte that came in, behind
    one header towards the game server and behind none towards a player or back, and
    finishes the stream.  So what the far end reads is the payload that the near end
    wrote: a prefix of it whatever happens on the way, and all of it where both hops
    end cleanly. -/
theorem streams_transparent :
    (∀ (h : ClientStreamHeader) (maxSize : UInt32) (r : RecvStream) (w : Bytes),
      (serialize ClientStreamHeader.codec h).length ≤ maxSize.toNat →
      r.bytes = framed ClientStreamHeader.codec h ++ w →
      ∃ r', readFramed ClientStreamHeader.codec r maxSize = .ok (h, r') ∧
        r'.bytes = w ∧ r'.ending = r.ending) ∧
    (∀ (h : ServerStreamHeader) (maxSize : UInt32) (r : RecvStream) (w : Bytes),
      (serialize ServerStreamHeader.codec h).length ≤ maxSize.toNat →
      r.bytes = framed ServerStreamHeader.codec h ++ w →
      ∃ r', readFramed ServerStreamHeader.codec r maxSize = .ok (h, r') ∧
        r'.bytes = w ∧ r'.ending = r.ending) ∧
    -- what the proxy writes
    (∀ p r1, Carries (framed ServerStreamHeader.codec (.playerStreamOpened p)) r1
      (PlayerConnection.handleUni p r1)) ∧
    (∀ p r1 r1',
      Carries (framed ServerStreamHeader.codec (.playerStreamOpened p)) r1
        (PlayerConnection.handleBi p {} r1 r1').1 ∧
      Carries [] r1' (PlayerConnection.handleBi p {} r1 r1').2) ∧
    (∀ r, Carries [] r (spawnStreamCopy r {})) ∧
    (∀ r r1', Carries [] r (ProxyServer.copyBi {} r {} r1').1 ∧
      Carries [] r1' (ProxyServer.copyBi {} r {} r1').2) ∧
    ∀ p : Str,
      (serialize ServerStreamHeader.codec (.playerStreamOpened p)).length ≤ 1024 →
      (serialize ClientStreamHeader.codec (.openPlayerStream p)).length ≤ 1024 →
      -- opened by the player: unidirectional, bidirectional, and the return half
      (∀ s r1 r2, Arrives s r1 → Arrives (PlayerConnection.handleUni p r1) r2 →
        Accepted p s.written (r1.ending = .finished ∧ r2.ending = .finished)
          (Client.readStreamInfo r2)) ∧
      (∀ s s' r1 r1' r2 r2', Arrives s r1 → Arrives s' r1' →
        Arrives (PlayerConnection.handleBi p {} r1 r1').1 r2 →
        Arrives (PlayerConnection.handleBi p {} r1 r1').2 r2' →
        Accepted p s.written (r1.ending = .finished ∧ r2.ending = .finished)
          (Client.readStreamInfo r2) ∧
        Reads s'.written (r1'.ending = .finished ∧ r2'.ending = .finished) r2') ∧
      -- opened by the game server: unidirectional
      (∀ w finished r1,
        Arrives ⟨((ProxiedConnection.openStream p).writeAll w).written, finished⟩ r1 →
        Accepted (.openPlayerStream p) w (r1.ending = .finished) (ProxyServer.readHeader r1) ∧
        ∀ r r2, ProxyServer.readHeader r1 = .ok (.openPlayerStream p, r) →
          Arrives (spawnStreamCopy r {}) r2 →
          Reads w (r1.ending = .finished ∧ r2.ending = .finished) r2) ∧
      -- bidirectional, and the return half
      (∀ w finished s' r1 r1',
        Arrives ⟨((ProxiedConnection.openStream p).writeAll w).written, finished⟩ r1 →
        Arrives s' r1' →
        Accepted p w (r1.ending = .finished) (ProxyServer.readBiHeader r1) ∧
        ∀ r r2 r2', ProxyServer.readBiHeader r1 = .ok (p, r) →
          Arrives (ProxyServer.copyBi {} r {} r1').1 r2 →
          Arrives (ProxyServer.copyBi {} r {} r1').2 r2' →
          Reads w (r1.ending = .finished ∧ r2.ending = .finished) r2 ∧
          Reads s'.written (r1'.ending = .finished ∧ r2'.ending = .finished) r2') := by
  have hcopy : ∀ r, Carries [] r (spawnStreamCopy r {}) :=
    fun r => spawnStreamCopy_carries r {}
  have hheader : ∀ p r, Carries (framed ServerStreamHeader.codec (.playerStreamOpened p)) r
      (PlayerConnection.handleUni p r) := fun p r =>
    spawnStreamCopy_carries r
      (writeFramed ServerStreamHeader.codec {} (.playerStreamOpened p))
  refine ⟨?_, ?_, hheader, fun p r1 r1' => ⟨hheader p r1, hcopy r1'⟩, hcopy,
    fun r r1' => ⟨hcopy r, hcopy r1'⟩, ?_⟩
  · intro h maxSize r w hmax hr
    exact readFramed_framed _ h maxSize hmax hr
  · intro h maxSize r w hmax hr
    exact readFramed_framed _ h maxSize hmax hr
  intro p hserver hclient
  refine ⟨fun s r1 r2 => playerStream_accepted hserver, ?_, ?_, ?_⟩
  · intro s s' r1 r1' r2 r2' h1 h1' h2 h2'
    exact ⟨playerStream_accepted hserver h1 h2, h1'.copied h2'⟩
  · intro w finished r1 h1
    obtain ⟨ha, -⟩ := serverStream_accepted hclient h1
    exact ⟨ha, fun r r2 hr h2 => ha.copied hr h2⟩
  · intro w finished s' r1 r1' h1 h1'
    obtain ⟨-, ha⟩ := serverStream_accepted hclient h1
    refine ⟨ha, ?_⟩
    intro r r2 r2' hr h2 h2'
    exact ⟨ha.copied hr h2, h1'.copied h2'⟩

/-- A reader gets the bytes of a stream one by one, up to its finish. -/
def SendStream.bytewise (s : SendStream) : RecvStream := ⟨s.written.map ([·]), .finished⟩

/-- What is read byte by byte of a finished stream is what arrives of it. -/
theorem SendStream.arrives_bytewise {s : SendStream} (h : s.finished = true) :
    Arrives s s.bytewise := by
  have hbytes : s.bytewise.bytes = s.written := by
    show (s.written.map ([·])).flatten = s.written
    rw [← List.flatMap_def]
    exact List.flatMap_singleton' _
  exact ⟨hbytes ▸ List.prefix_refl _, fun _ => ⟨h, hbytes⟩⟩

/-- A player with a one-letter id opens a bidirectional stream, writes two bytes and gets
    one back; then the game server opens one for it and does the same.  Every hop cuts
    everything into single bytes. -/
theorem streams_transparent_bytewise :
    let p : Str := ⟨[0x70], rfl, by decide⟩
    let there : RecvStream := ⟨[[1], [], [2]], .finished⟩
    let back : RecvStream := ⟨[[3]], .finished⟩
    let opened := PlayerConnection.handleBi p {} there back
    let r1 := ((ProxiedConnection.openStream p).writeAll [4, 5]).finish.bytewise
    (∃ r, Client.readStreamInfo opened.1.bytewise = .ok (p, r) ∧ r.bytes = [1, 2]) ∧
    opened.2.bytewise.bytes = [3] ∧
    ∃ r, ProxyServer.readBiHeader r1 = .ok (p, r) ∧
      (ProxyServer.copyBi {} r {} back).1.bytewise.bytes = [4, 5] ∧
      (ProxyServer.copyBi {} r {} back).2.bytewise.bytes = [3] := by
  intro p there back opened r1
  obtain ⟨-, -, -, hbi, -, hcopy, hp⟩ := streams_transparent
  obtain ⟨-, hplayer, -, hserver⟩ := hp p (by decide) (by decide)
  have harrives : ∀ r : RecvStream, r.ending = .finished → Arrives ⟨r.bytes, true⟩ r :=
    fun r _ => ⟨List.prefix_refl _, fun _ => ⟨rfl, rfl⟩⟩
  obtain ⟨haccepted, hback⟩ := hplayer _ _ there back _ _ (harrives there rfl)
    (harrives back rfl) (SendStream.arrives_bytewise (hbi p there back).1.finished)
    (SendStream.arrives_bytewise (hbi p there back).2.finished)
  obtain ⟨r, hr, hbytes, -⟩ := haccepted.exact ⟨rfl, rfl⟩
  obtain ⟨haccepted', hcopied⟩ := hserver [4, 5] true _ r1 back
    (SendStream.arrives_bytewise rfl) (harrives back rfl)
  obtain ⟨r', hr', -, -⟩ := haccepted'.exact rfl
  obtain ⟨hthere', hback'⟩ := hcopied r' _ _ hr'
    (SendStream.arrives_bytewise (hcopy r' back).1.finished)
    (SendStream.arrives_bytewise (hcopy r' back).2.finished)
  exact ⟨⟨r, hr, hbytes⟩, hback.2 ⟨rfl, rfl⟩, r', hr', hthere'.2 ⟨rfl, rfl⟩,
    hback'.2 ⟨rfl, rfl⟩⟩

end AmbientProxy
