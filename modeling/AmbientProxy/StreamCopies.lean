import AmbientProxy.Streams
import AmbientProxy.Lib.Transition

/-! # Stream copies — how the end of a stream is passed on

    `spawn_stream_copy` in `src/streams.rs` moves both streams into a task that runs
    `copy`, logs its error, and drops the streams:

        copying ── read: 0 bytes ──▶ readDone ── buffer empty ──▶ returned ok ─────┐
           │                            │                                          │
           ├── read fails ──────────────┼──────────────────▶ returned readError ───┤ drop
           └── write fails ─────────────┴──────────────────▶ returned writeError ──┘

    Nothing but the drop ends the destination, and it finishes every stream that its
    reader did not stop, as long as the connection is alive.

    * `honest_iff` — the destination never shows more than the source sent, nor a clean
      finish of something else, exactly where no broken source is dropped while the
      destination is open;
    * `not_honest_reset` — a reset after one byte arrives as a one-byte message;
    * `sendStream_of_dropped` — a clean source that nothing disturbs leaves what
      `spawnStreamCopy` says. -/

namespace AmbientProxy.StreamCopy

open Transition

/-- How `copy` returned. -/
inductive CopyResult where
  | ok
  | readError
  | writeError
  deriving DecidableEq

/-- Where the spawned task is. -/
inductive Task where
  | copying
  /-- A read returned no bytes; what is buffered is still to be written. -/
  | readDone
  | returned (result : CopyResult)
  /-- The task is over, and both streams are dropped. -/
  | dropped
  deriving DecidableEq

/-- One `spawn_stream_copy`: the source and the destination, and the task between. -/
structure State where
  unread : Bytes
  ending : Ending
  /-- What `copy` has read and not yet written. -/
  buffer : Bytes := []
  sendStream : SendStream
  /-- The reader of the destination has stopped it. -/
  stopped : Bool := false
  /-- The destination's connection is lost. -/
  lost : Bool := false
  task : Task := .copying
  deriving DecidableEq

/-- The destination accepts bytes. -/
def State.Open (s : State) : Prop := s.stopped = false ∧ s.lost = false

instance (s : State) : Decidable s.Open := inferInstanceAs (Decidable (_ ∧ _))

/-- `spawn_stream_copy`: the task starts.  The destination was just opened, or accepted,
    and may hold a header. -/
def start (recvStream : RecvStream) (sendStream : SendStream) : State where
  unread := recvStream.bytes
  ending := recvStream.ending
  sendStream := sendStream

/-- Dropping a `quinn::SendStream` that is neither finished nor reset: it is finished, but
    for one that its reader stopped, which is reset. -/
def State.dropSendStream (s : State) : SendStream :=
  if s.Open then s.sendStream.finish else s.sendStream

inductive Action where
  /-- A read delivers the next `n` bytes. -/
  | read (n : Nat)
  | readEnd
  | readFails
  /-- A write takes `n` bytes from the buffer. -/
  | write (n : Nat)
  | writeFails
  | returnOk
  | drop
  /-- The reader of the destination calls `stop`. -/
  | stop
  | lose
  deriving DecidableEq

/-- Where an action is enabled. -/
def guard (s : State) : Action → Prop
  | .read n => s.task = .copying ∧ 0 < n ∧ n ≤ s.unread.length
  | .readEnd => s.task = .copying ∧ s.unread = [] ∧ s.ending = .finished
  | .readFails => s.task = .copying ∧ s.unread = [] ∧ s.ending ≠ .finished
  | .write n =>
      (s.task = .copying ∨ s.task = .readDone) ∧ 0 < n ∧ n ≤ s.buffer.length ∧ s.Open
  | .writeFails => (s.task = .copying ∨ s.task = .readDone) ∧ s.buffer ≠ [] ∧ ¬ s.Open
  | .returnOk => s.task = .readDone ∧ s.buffer = []
  | .drop =>
      s.task = .returned .ok ∨ s.task = .returned .readError ∨ s.task = .returned .writeError
  | .stop => True
  | .lose => True

instance (s : State) (a : Action) : Decidable (guard s a) := by
  cases a <;> (dsimp only [guard]; infer_instance)

/-- What an action does. -/
def effect (s : State) : Action → State
  | .read n => { s with buffer := s.buffer ++ s.unread.take n, unread := s.unread.drop n }
  | .readEnd => { s with task := .readDone }
  | .readFails => { s with task := .returned .readError }
  | .write n =>
      { s with sendStream := s.sendStream.writeAll (s.buffer.take n), buffer := s.buffer.drop n }
  | .writeFails => { s with task := .returned .writeError }
  | .returnOk => { s with task := .returned .ok }
  | .drop => { s with sendStream := s.dropSendStream, task := .dropped }
  | .stop => { s with stopped := true }
  | .lose => { s with lost := true }

/-- One copied stream, and what its two ends do. -/
def system (recvStream : RecvStream) (sendStream : SendStream) : System State Action :=
  guarded (start recvStream sendStream) guard effect

variable {r : RecvStream} {d : SendStream} {s t : State} {a : Action} {acts : List Action}

@[simp] theorem written_dropSendStream (s : State) :
    s.dropSendStream.written = s.sendStream.written := by
  rw [State.dropSendStream]
  split <;> rfl

theorem finished_dropSendStream (h : s.Open) : s.dropSendStream.finished = true := by
  rw [State.dropSendStream, if_pos h]
  rfl

theorem dropSendStream_of_closed (h : ¬ s.Open) : s.dropSendStream = s.sendStream :=
  if_neg h

/-! ## What a copy keeps -/

/-- All that the source sent has been passed on. -/
def Forwarded (s : State) : Prop := s.ending = .finished ∧ s.unread = [] ∧ s.buffer = []

/-- What holds whatever happens: no byte is lost or added, and each return of `copy`
    has its reason. -/
structure Tracks (r : RecvStream) (d : SendStream) (s : State) : Prop where
  bytes : s.sendStream.written ++ s.buffer ++ s.unread = d.written ++ r.bytes
  ending : s.ending = r.ending
  readDone : s.task = .readDone → s.ending = .finished ∧ s.unread = []
  returnedOk : s.task = .returned .ok → Forwarded s
  readError : s.task = .returned .readError → s.ending ≠ .finished
  writeError : s.task = .returned .writeError → ¬ s.Open
  unfinished : s.task ≠ .dropped → s.sendStream.finished = false
  dropped : s.task = .dropped → s.Open →
    s.sendStream.finished = true ∧ (s.ending = .finished → Forwarded s)

theorem tracks_start (hd : d.finished = false) : Tracks r d (start r d) := by
  refine ⟨?_, rfl, nofun, nofun, nofun, nofun, fun _ => hd, nofun⟩
  show d.written ++ [] ++ r.bytes = d.written ++ r.bytes
  rw [List.append_nil]

/-- Before `copy` returns, nothing else is claimed. -/
theorem Tracks.running
    (hbytes : s.sendStream.written ++ s.buffer ++ s.unread = d.written ++ r.bytes)
    (hending : s.ending = r.ending) (htask : s.task = .copying ∨ s.task = .readDone)
    (hdone : s.task = .readDone → s.ending = .finished ∧ s.unread = [])
    (hunfinished : s.sendStream.finished = false) : Tracks r d s := by
  have hne : ∀ {task : Task}, task ≠ .copying → task ≠ .readDone → s.task ≠ task := by
    rintro task hcopying hdone rfl
    exact htask.elim hcopying hdone
  exact ⟨hbytes, hending, hdone, fun h => absurd h (hne nofun nofun),
    fun h => absurd h (hne nofun nofun), fun h => absurd h (hne nofun nofun),
    fun _ => hunfinished, fun h => absurd h (hne nofun nofun)⟩

/-- Before `copy` returns, the destination is not finished. -/
theorem Tracks.not_finished (hs : Tracks r d s) (htask : s.task = .copying ∨ s.task = .readDone) :
    s.sendStream.finished = false := by
  refine hs.unfinished ?_
  intro hdropped
  rcases htask with htask | htask
  · cases htask.symm.trans hdropped
  · cases htask.symm.trans hdropped

/-- The reader of the destination, or its connection, gives it up. -/
theorem Tracks.close (hs : Tracks r d s) (stopped lost : Bool)
    (hopen : State.Open { s with stopped := stopped, lost := lost } → s.Open) :
    Tracks r d { s with stopped := stopped, lost := lost } :=
  ⟨hs.bytes, hs.ending, hs.readDone, hs.returnedOk, hs.readError,
    fun h ho => hs.writeError h (hopen ho), hs.unfinished, fun h ho => hs.dropped h (hopen ho)⟩

theorem tracks_step (hs : Tracks r d s) (h : (system r d).step s a = some t) :
    Tracks r d t := by
  obtain ⟨hg, rfl⟩ := guarded_step_iff.mp h
  cases a with
  | read n =>
      obtain ⟨htask, -, -⟩ := hg
      refine .running ?_ hs.ending (Or.inl htask) (fun h => nomatch htask.symm.trans h)
        (hs.not_finished (Or.inl htask))
      show s.sendStream.written ++ (s.buffer ++ s.unread.take n) ++ s.unread.drop n = _
      rw [← hs.bytes, List.append_assoc, List.append_assoc, List.append_assoc,
        List.take_append_drop]
  | readEnd =>
      obtain ⟨htask, hunread, hending⟩ := hg
      exact .running hs.bytes hs.ending (Or.inr rfl) (fun _ => ⟨hending, hunread⟩)
        (hs.not_finished (Or.inl htask))
  | readFails =>
      obtain ⟨htask, -, hending⟩ := hg
      exact ⟨hs.bytes, hs.ending, nofun, nofun, fun _ => hending, nofun,
        fun _ => hs.not_finished (Or.inl htask), nofun⟩
  | write n =>
      obtain ⟨htask, -, -, -⟩ := hg
      refine .running ?_ hs.ending htask hs.readDone (hs.not_finished htask)
      show s.sendStream.written ++ s.buffer.take n ++ s.buffer.drop n ++ s.unread = _
      rw [List.append_assoc s.sendStream.written, List.take_append_drop]
      exact hs.bytes
  | writeFails =>
      obtain ⟨htask, -, hclosed⟩ := hg
      exact ⟨hs.bytes, hs.ending, nofun, nofun, nofun, fun _ => hclosed,
        fun _ => hs.not_finished htask, nofun⟩
  | returnOk =>
      obtain ⟨htask, hbuffer⟩ := hg
      obtain ⟨hending, hunread⟩ := hs.readDone htask
      exact ⟨hs.bytes, hs.ending, nofun, fun _ => ⟨hending, hunread, hbuffer⟩, nofun, nofun,
        fun _ => hs.not_finished (Or.inr htask), nofun⟩
  | drop =>
      refine ⟨?_, hs.ending, nofun, nofun, nofun, nofun, fun h => absurd rfl h, ?_⟩
      · show s.dropSendStream.written ++ s.buffer ++ s.unread = _
        rw [written_dropSendStream]
        exact hs.bytes
      · intro _ (hopen : s.Open)
        refine ⟨finished_dropSendStream hopen, ?_⟩
        intro hending
        rcases hg with htask | htask | htask
        · exact hs.returnedOk htask
        · exact absurd hending (hs.readError htask)
        · exact absurd hopen (hs.writeError htask)
  | stop => exact hs.close true s.lost fun h => absurd h.1 Bool.noConfusion
  | lose => exact hs.close s.stopped true fun h => absurd h.2 Bool.noConfusion

theorem tracks (hd : d.finished = false) (h : (system r d).exec (start r d) acts = some t) :
    Tracks r d t :=
  exec_invariant tracks_step (tracks_start hd) h

/-- Whatever happens, what is written is a part of what `spawnStreamCopy` writes. -/
theorem written_prefix (hd : d.finished = false)
    (h : (system r d).exec (start r d) acts = some t) :
    t.sendStream.written <+: (spawnStreamCopy r d).written := by
  refine ⟨t.buffer ++ t.unread, ?_⟩
  rw [← List.append_assoc]
  exact (tracks hd h).bytes

/-- **A clean source that nothing disturbs is copied whole**: once the streams are
    dropped, the destination is the one that `spawnStreamCopy` returns. -/
theorem sendStream_of_dropped (hd : d.finished = false)
    (h : (system r d).exec (start r d) acts = some t) (hclean : r.ending = .finished)
    (hdropped : t.task = .dropped) (hopen : t.Open) : t.sendStream = spawnStreamCopy r d := by
  have ht := tracks hd h
  obtain ⟨hfinished, hforwarded⟩ := ht.dropped hdropped hopen
  obtain ⟨-, hunread, hbuffer⟩ := hforwarded (ht.ending.trans hclean)
  have hwritten := ht.bytes
  rw [hunread, hbuffer, List.append_nil, List.append_nil] at hwritten
  cases hd' : t.sendStream with
  | mk written finished =>
      rw [hd'] at hwritten hfinished
      cases hfinished
      rw [spawnStreamCopy, SendStream.writeAll, SendStream.finish, ← hwritten]

/-- The copy in which all that the source delivers has been written. -/
def copied (r : RecvStream) (d : SendStream) (task : Task) : State where
  unread := []
  ending := r.ending
  sendStream := d.writeAll r.bytes
  task := task

theorem exists_exec_copied (r : RecvStream) (d : SendStream) :
    ∃ acts, (system r d).exec (start r d) acts = some (copied r d .copying) := by
  by_cases hbytes : r.bytes = []
  · refine ⟨[], ?_⟩
    show some (start r d) = _
    rw [start, copied, hbytes, SendStream.writeAll, List.append_nil]
  · have hpos : 0 < r.bytes.length := List.length_pos_of_ne_nil hbytes
    refine ⟨[.read r.bytes.length, .write r.bytes.length], exec_cons_iff.mpr
      ⟨_, guarded_step_of_guard ⟨rfl, hpos, Nat.le_refl _⟩, exec_cons_iff.mpr
        ⟨_, guarded_step_of_guard ⟨Or.inl rfl, hpos, ?_, rfl, rfl⟩, ?_⟩⟩⟩
    · show r.bytes.length ≤ ([] ++ r.bytes.take r.bytes.length).length
      rw [List.nil_append, List.take_length]
    · show some (_ : State) = some _
      simp only [effect, start, copied, List.nil_append, List.take_length, List.drop_length]

/-- Some run ends as `spawnStreamCopy` says, however the source ends. -/
theorem exists_spawnStreamCopy (r : RecvStream) (d : SendStream) :
    ∃ acts t, (system r d).exec (start r d) acts = some t ∧ t.task = .dropped ∧
      t.sendStream = spawnStreamCopy r d := by
  obtain ⟨acts, hacts⟩ := exists_exec_copied r d
  -- how `copy` returns is up to the source
  obtain ⟨result, hresult, last, hlast⟩ : ∃ result, (result = .ok ∨ result = .readError) ∧
      ∃ last, (system r d).exec (copied r d .copying) last =
        some (copied r d (.returned result)) := by
    by_cases hending : r.ending = .finished
    · refine ⟨.ok, Or.inl rfl, [.readEnd, .returnOk], ?_⟩
      exact exec_cons_iff.mpr ⟨_, guarded_step_of_guard ⟨rfl, rfl, hending⟩,
        exec_cons_iff.mpr ⟨_, guarded_step_of_guard ⟨rfl, rfl⟩, rfl⟩⟩
    · refine ⟨.readError, Or.inr rfl, [.readFails], ?_⟩
      exact exec_cons_iff.mpr ⟨_, guarded_step_of_guard ⟨rfl, rfl, hending⟩, rfl⟩
  have hguard : guard (copied r d (.returned result)) .drop := by
    rcases hresult with rfl | rfl
    · exact Or.inl rfl
    · exact Or.inr (Or.inl rfl)
  refine ⟨acts ++ last ++ [.drop], _,
    exec_snoc_iff.mpr ⟨_, ?_, guarded_step_of_guard hguard⟩, rfl, rfl⟩
  rw [exec_append, hacts, Option.bind_some, hlast]

/-! ## What the destination sees -/

/-- What the reader of the destination sees is a part of what the source sent, behind the
    header, and where it sees the stream finish, the source finished and this is all. -/
def Honest (r : RecvStream) (d : SendStream) (s : State) : Prop :=
  ∀ seen, Arrives s.sendStream seen →
    seen.bytes <+: d.written ++ r.bytes ∧
      (seen.ending = .finished → r.ending = .finished ∧ seen.bytes = d.written ++ r.bytes)

/-- No broken source is dropped while the destination is open. -/
def DropsWhole (s : State) (a : Action) : Prop :=
  a = .drop → s.Open → s.ending = .finished

instance (s : State) (a : Action) : Decidable (DropsWhole s a) :=
  inferInstanceAs (Decidable (_ → _ → _))

/-- The destination was finished for a complete copy only. -/
def FinishedWhole (s : State) : Prop := s.sendStream.finished = true → Forwarded s

theorem honest_of_finishedWhole (hs : Tracks r d s) (hwhole : FinishedWhole s) :
    Honest r d s := by
  intro seen harrives
  have hprefix : s.sendStream.written <+: d.written ++ r.bytes := by
    refine ⟨s.buffer ++ s.unread, ?_⟩
    rw [← List.append_assoc]
    exact hs.bytes
  refine ⟨harrives.bytes.trans hprefix, ?_⟩
  intro hseen
  obtain ⟨hfinished, hbytes⟩ := harrives.exact hseen
  obtain ⟨hending, hunread, hbuffer⟩ := hwhole hfinished
  refine ⟨hs.ending.symm.trans hending, ?_⟩
  rw [hbytes, ← hs.bytes, hunread, hbuffer, List.append_nil, List.append_nil]

/-- Once all is forwarded, there is nothing more to copy. -/
theorem forwarded_step (hs : Forwarded s) (h : (system r d).step s a = some t) :
    Forwarded t := by
  obtain ⟨hending, hunread, hbuffer⟩ := hs
  obtain ⟨hg, rfl⟩ := guarded_step_iff.mp h
  cases a with
  | read n =>
      obtain ⟨-, hpos, hle⟩ := hg
      rw [hunread] at hle
      exact absurd hpos (Nat.not_lt.mpr hle)
  | write n =>
      obtain ⟨-, hpos, hle, -⟩ := hg
      rw [hbuffer] at hle
      exact absurd hpos (Nat.not_lt.mpr hle)
  | _ => exact ⟨hending, hunread, hbuffer⟩

/-- Only the drop of an open destination finishes it. -/
theorem finished_of_step (h : (system r d).step s a = some t)
    (hfinished : t.sendStream.finished = true) :
    s.sendStream.finished = true ∨ (a = .drop ∧ s.Open) := by
  obtain ⟨-, rfl⟩ := guarded_step_iff.mp h
  cases a with
  | drop =>
      by_cases hopen : s.Open
      · exact Or.inr ⟨rfl, hopen⟩
      · have hkept : s.dropSendStream.finished = true := hfinished
        rw [dropSendStream_of_closed hopen] at hkept
        exact Or.inl hkept
  | _ => exact Or.inl hfinished

theorem finishedWhole_step (hs : Tracks r d s) (hwhole : FinishedWhole s) (ha : DropsWhole s a)
    (h : (system r d).step s a = some t) : FinishedWhole t := by
  intro hfinished
  rcases finished_of_step h hfinished with hbefore | ⟨rfl, hopen⟩
  · exact forwarded_step (hwhole hbefore) h
  · have ht := tracks_step hs h
    obtain ⟨-, rfl⟩ := guarded_step_iff.mp h
    exact (ht.dropped rfl hopen).2 (ha rfl hopen)

/-- A broken source whose destination is open ends as a message that is complete. -/
theorem not_honest_of_step (hs : Tracks r d s) (ha : ¬ DropsWhole s a)
    (h : (system r d).step s a = some t) : ¬ Honest r d t := by
  obtain ⟨rfl, hrest⟩ := Classical.not_imp.mp ha
  obtain ⟨hopen, hbroken⟩ := Classical.not_imp.mp hrest
  obtain ⟨-, rfl⟩ := guarded_step_iff.mp h
  intro hhonest
  have hfinished : s.dropSendStream.finished = true := finished_dropSendStream hopen
  -- a reader that sees all of it takes it for a complete message
  have harrives : Arrives s.dropSendStream ⟨[s.dropSendStream.written], .finished⟩ := by
    have hbytes : (⟨[s.dropSendStream.written], .finished⟩ : RecvStream).bytes
        = s.dropSendStream.written := List.flatten_singleton
    exact ⟨⟨[], (List.append_nil _).trans hbytes⟩, fun _ => ⟨hfinished, hbytes⟩⟩
  obtain ⟨-, hclean⟩ := hhonest _ harrives
  exact hbroken (hs.ending.trans (hclean rfl).1)

/-- **The proxy never turns a broken stream into a finished one, exactly where it never
    drops the source of an open destination before the source has finished**: at every
    point of a run, what the reader of the destination sees is a prefix of what the source
    sent, and it sees a clean finish of nothing else than all of it. -/
theorem honest_iff (hd : d.finished = false) (h : (system r d).exec (start r d) acts = some t) :
    Along (system r d) DropsWhole (start r d) acts ↔
      ∀ pre s, pre <+: acts → (system r d).exec (start r d) pre = some s → Honest r d s := by
  refine along_iff_forall_prefix (I := fun s => Tracks r d s ∧ FinishedWhole s)
    (fun ⟨hs, hwhole⟩ ha hstep => ⟨tracks_step hs hstep, finishedWhole_step hs hwhole ha hstep⟩)
    (fun ⟨hs, hwhole⟩ => honest_of_finishedWhole hs hwhole)
    (fun ⟨hs, _⟩ ha hstep => not_honest_of_step hs ha hstep)
    ⟨tracks_start hd, fun hfinished => ?_⟩ h
  exact absurd (hd.symm.trans hfinished) Bool.noConfusion

/-- A source that sends one byte and finishes. -/
theorem honest_iff_oneByte :
    Along (system ⟨[[], [7]], .finished⟩ {}) DropsWhole (start ⟨[[], [7]], .finished⟩ {})
        [.read 1, .write 1, .readEnd, .returnOk, .drop] ↔
      ∀ pre s, pre <+: [.read 1, .write 1, .readEnd, .returnOk, .drop] →
        (system ⟨[[], [7]], .finished⟩ {}).exec (start ⟨[[], [7]], .finished⟩ {}) pre = some s →
        Honest ⟨[[], [7]], .finished⟩ {} s :=
  honest_iff (t := ⟨[], .finished, [], ⟨[7], true⟩, false, false, .dropped⟩) rfl (by decide)

/-- A source that sends one byte and is reset, whose destination stays open. -/
theorem not_honest_reset :
    ¬ ∀ acts s, (system ⟨[[7]], .reset⟩ {}).exec (start ⟨[[7]], .reset⟩ {}) acts = some s →
      Honest ⟨[[7]], .reset⟩ {} s := by
  intro hhonest
  have hend := hhonest [.read 1, .write 1, .readFails, .drop]
    ⟨[], .reset, [], ⟨[7], true⟩, false, false, .dropped⟩ (by decide)
  obtain ⟨-, hclean⟩ := hend ⟨[[7]], .finished⟩ ⟨List.prefix_refl _, fun _ => ⟨rfl, rfl⟩⟩
  exact absurd (hclean rfl).1 (by decide)

end AmbientProxy.StreamCopy
