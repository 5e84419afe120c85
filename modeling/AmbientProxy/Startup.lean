import AmbientProxy.Bytes
import AmbientProxy.Lib.Notify
import AmbientProxy.Lib.Transition

/-! # The life of one allocation — start-up handshake, closing, removal

    `src/server.rs`: `ProxyServer::new` spawns the message-processing task,
    `ManagementServer::handle_connection` spawns `ProxyServer::start`, and the
    management loop inserts the pair into `ProxyStore` and removes it when it
    receives `ProxyEvent::Stopped`.  The two tasks meet at a flag and a `Notify`:

        message-processing task          ProxyServer::start
        accept_bi (or return)            loop { if flag { break }
        flag = true                             notified().await }
        notify_waiters()                 select! loop … closed() → Stopped

    Every line is a step of its own and the connection may close between any two.
    The `select!` loop is modelled with its awaits: a handler may be waiting for
    the game server's header bytes, for a player's handshake, or for a stream of
    a player's connection, and it may panic.  Handlers that neither wait nor
    panic leave the state as it is and are not actions.

    Assumed of the libraries: `accept_bi` and a read of the game server's streams
    fail once its connection is closed, `closed()` completes then, a handshake
    ends (the idle timeout bounds it), a player may never grant a stream. -/

namespace AmbientProxy.Startup

open Transition Sync

/-- `ProxyEvent`. -/
inductive ProxyEvent where
  | stopped (id : Uuid)
  deriving DecidableEq

/-- Where the message-processing task is. -/
inductive MessageTask where
  | notSpawned
  /-- At `accept_bi`. -/
  | acceptBi
  /-- It has the control stream; about to write the flag. -/
  | writeStarted
  /-- About to call `notify_waiters`. -/
  | notifyWaiters
  | processing
  /-- `accept_bi` failed and the task returned. -/
  | acceptFailed
  /-- It saw the connection close. -/
  | finished
  deriving DecidableEq

/-- What a handler of the `select!` loop is waiting for. -/
inductive Awaited where
  /-- `conn.await` of a player. -/
  | handshake
  /-- `read_framed` on a stream of the game server. -/
  | serverStream
  /-- `open_uni` or `open_bi` on a player's connection. -/
  | playerStream
  deriving DecidableEq

/-- Where `ProxyServer::start` is. -/
inductive StartTask where
  | notSpawned
  /-- About to read the flag. -/
  | readStarted
  /-- The flag was false; about to create the `Notified` future. -/
  | createNotified
  /-- Waiting on the future. -/
  | awaitNotified (future : Notified)
  /-- At the `select!`, between two iterations. -/
  | select
  | handler (on : Awaited)
  /-- The `closed()` branch was taken; about to send `Stopped`. -/
  | sendStopped
  | finished
  | panicked
  deriving DecidableEq

/-- Where the management loop is with this connection. -/
inductive Management where
  /-- `handle_connection`, before `ProxyServer::new`. -/
  | newProxyServer
  /-- `handle_connection`, before it spawns `ProxyServer::start`. -/
  | spawnStart
  /-- `handle_connection` returned; about to insert. -/
  | insert
  | select
  /-- In `handle_connection` of another connection. -/
  | otherConnection
  deriving DecidableEq

/-- One allocation: its connection, its two tasks, the management loop, the event
    channel (head first) and the ids in `ProxyStore`.  `processed` records the
    events the loop has received. -/
structure Allocation where
  closed : Bool := false
  controlOpened : Bool := false
  messageTask : MessageTask := .notSpawned
  started : Bool := false
  startedNotify : Notify Unit := {}
  startTask : StartTask := .notSpawned
  management : Management := .newProxyServer
  events : List ProxyEvent := []
  processed : List ProxyEvent := []
  proxies : List Uuid := []
  deriving DecidableEq

inductive Action where
  -- the game server and its connection
  | openControl
  | close
  -- the management loop
  | newProxyServer
  | spawnStart
  | insert
  | recvEvent
  | acceptOther
  | otherHandled (other : Option Uuid)
  | otherStopped (other : Uuid)
  -- the message-processing task
  | acceptBi
  | acceptBiFails
  | writeStarted
  | notifyWaiters
  | messageTaskSeesClosed
  -- `ProxyServer::start`
  | readStarted
  | createNotified
  | pollNotified
  | acceptPlayer
  | handshakeEnds
  | acceptServerStream
  | headerRead (openPlayerStream : Bool)
  | headerFails
  | playerStreamEnds
  | datagram (data : Bytes)
  | allocateEndpoint (panics : Bool)
  | startSeesClosed
  | sendStopped
  deriving DecidableEq

/-- The remote ends and the other allocations decide whether and when these
    happen; all other actions are steps a task takes as soon as it can. -/
def Action.external : Action → Bool
  | .openControl | .close | .acceptOther | .otherStopped _ | .acceptPlayer | .acceptServerStream
  | .headerRead _ | .playerStreamEnds | .datagram _ | .allocateEndpoint _ => true
  | _ => false

/-- The task has a future to poll: one it never polled, or one that was woken. -/
def StartTask.pollable (notify : Notify Unit) : StartTask → Bool
  | .awaitNotified future => future != .waiting || notify.ready () future
  | _ => false

/-- Where an action is enabled. -/
def guard (id : Uuid) (s : Allocation) : Action → Prop
  | .openControl => s.closed = false ∧ s.controlOpened = false
  | .close => s.closed = false
  | .newProxyServer => s.management = .newProxyServer
  | .spawnStart => s.management = .spawnStart
  | .insert => s.management = .insert
  | .recvEvent => s.management = .select ∧ s.events ≠ []
  | .acceptOther => s.management = .select
  | .otherHandled other => s.management = .otherConnection ∧ other ≠ some id
  | .otherStopped other => other ≠ id
  | .acceptBi => s.messageTask = .acceptBi ∧ s.controlOpened = true ∧ s.closed = false
  | .acceptBiFails => s.messageTask = .acceptBi ∧ s.closed = true
  | .writeStarted => s.messageTask = .writeStarted
  | .notifyWaiters => s.messageTask = .notifyWaiters
  | .messageTaskSeesClosed => s.messageTask = .processing ∧ s.closed = true
  | .readStarted => s.startTask = .readStarted
  | .createNotified => s.startTask = .createNotified
  | .pollNotified => s.startTask.pollable s.startedNotify = true
  | .acceptPlayer => s.startTask = .select
  | .handshakeEnds => s.startTask = .handler .handshake
  | .acceptServerStream => s.startTask = .select
  | .headerRead _ => s.startTask = .handler .serverStream
  | .headerFails => s.startTask = .handler .serverStream ∧ s.closed = true
  | .playerStreamEnds => s.startTask = .handler .playerStream
  | .datagram _ => s.startTask = .select
  | .allocateEndpoint _ => s.startTask = .select
  | .startSeesClosed => s.startTask = .select ∧ s.closed = true
  | .sendStopped => s.startTask = .sendStopped

instance (id : Uuid) (s : Allocation) (a : Action) : Decidable (guard id s a) := by
  cases a <;> (dsimp only [guard]; infer_instance)

/-- What an action does. -/
def effect (id : Uuid) (s : Allocation) : Action → Allocation
  | .openControl => { s with controlOpened := true }
  | .close => { s with closed := true }
  | .newProxyServer => { s with messageTask := .acceptBi, management := .spawnStart }
  | .spawnStart => { s with startTask := .readStarted, management := .insert }
  | .insert => { s with proxies := s.proxies.insert id, management := .select }
  | .recvEvent =>
      match s.events with
      | [] => s
      | .stopped stoppedId :: events =>
          { s with
            proxies := s.proxies.filter (· ≠ stoppedId)
            events := events
            processed := s.processed ++ [.stopped stoppedId] }
  | .acceptOther => { s with management := .otherConnection }
  | .otherHandled none => { s with management := .select }
  | .otherHandled (some other) =>
      { s with proxies := s.proxies.insert other, management := .select }
  | .otherStopped other => { s with events := s.events ++ [.stopped other] }
  | .acceptBi => { s with messageTask := .writeStarted }
  | .acceptBiFails => { s with messageTask := .acceptFailed }
  | .writeStarted => { s with started := true, messageTask := .notifyWaiters }
  | .notifyWaiters =>
      { s with startedNotify := s.startedNotify.notifyWaiters, messageTask := .processing }
  | .messageTaskSeesClosed => { s with messageTask := .finished }
  | .readStarted => { s with startTask := if s.started then .select else .createNotified }
  | .createNotified => { s with startTask := .awaitNotified s.startedNotify.notified }
  | .pollNotified =>
      match s.startTask with
      | .awaitNotified future =>
          { s with
            startedNotify := (s.startedNotify.poll () future).1
            startTask :=
              match (s.startedNotify.poll () future).2 with
              | none => .readStarted
              | some future => .awaitNotified future }
      | _ => s
  | .acceptPlayer => { s with startTask := .handler .handshake }
  | .handshakeEnds => { s with startTask := .select }
  | .acceptServerStream => { s with startTask := .handler .serverStream }
  | .headerRead openPlayerStream =>
      { s with startTask := if openPlayerStream then .handler .playerStream else .select }
  | .headerFails => { s with startTask := .select }
  | .playerStreamEnds => { s with startTask := .select }
  | .datagram data =>
      { s with
        startTask :=
          match dropPrefix (deserialize DatagramInfo.codec) data with
          | .panic => .panicked
          | _ => .select }
  | .allocateEndpoint panics => { s with startTask := if panics then .panicked else .select }
  | .startSeesClosed => { s with startTask := .sendStopped }
  | .sendStopped => { s with events := s.events ++ [.stopped id], startTask := .finished }

/-- One allocation with id `id`, from the accepted connection on. -/
def system (id : Uuid) : System Allocation Action := guarded {} (guard id) (effect id)

/-! ## What holds in every reachable state -/

/-- The flag has been written. -/
def MessageTask.announced : MessageTask → Bool
  | .notifyWaiters | .processing | .finished => true
  | _ => false

/-- `notify_waiters` has been called, for the only time. -/
def MessageTask.notified : MessageTask → Bool
  | .processing | .finished => true
  | _ => false

/-- The control stream was not accepted yet, or never will be. -/
def MessageTask.waiting : MessageTask → Bool
  | .notSpawned | .acceptBi | .acceptFailed => true
  | _ => false

/-- `ProxyServer::start` has read the flag as true. -/
def StartTask.past : StartTask → Bool
  | .select | .handler _ | .sendStopped | .finished | .panicked => true
  | _ => false

/-- `ProxyServer::start` runs. -/
def StartTask.running : StartTask → Bool
  | .notSpawned | .finished => false
  | _ => true

/-- The management loop has inserted the allocation. -/
def Management.inserted : Management → Bool
  | .select | .otherConnection => true
  | _ => false

/-- The handshake between the two tasks, at every point of both. -/
structure HandshakeInv (s : Allocation) : Prop where
  unspawned : s.messageTask ≠ .notSpawned → s.management ≠ .newProxyServer
  started : s.started = s.messageTask.announced
  permit : s.startedNotify.permit = false
  future : ∀ f, s.startTask = .awaitNotified f → s.startedNotify.Created f
  past : s.startTask.past = true → s.started = true

/-- The store, the event channel and the two places that use them. -/
structure RegistryInv (id : Uuid) (s : Allocation) : Prop where
  message : s.messageTask = .notSpawned → s.management = .newProxyServer
  spawned : s.startTask = .notSpawned ↔
    s.management = .newProxyServer ∨ s.management = .spawnStart
  stopped : s.startTask = .finished ↔ .stopped id ∈ s.processed ++ s.events
  removed : .stopped id ∈ s.processed → s.management.inserted = true ∧ id ∉ s.proxies

variable {id : Uuid} {s t : Allocation} {a : Action}

theorem HandshakeInv.init : HandshakeInv {} :=
  ⟨fun hne => absurd rfl hne, rfl, rfl, nofun, nofun⟩

theorem RegistryInv.init : RegistryInv id {} :=
  ⟨fun _ => rfl, ⟨fun _ => Or.inl rfl, fun _ => rfl⟩, ⟨nofun, nofun⟩, nofun⟩

/-! Receiving an event touches the store and the channel only, and polling the
    future touches the task and its `Notify` only. -/

section Frame

-- the equations of `effect` are made here, and not by each of the proofs that wait for them
attribute [local simp] effect

@[simp] theorem recvEvent_closed : (effect id s .recvEvent).closed = s.closed := by
  rw [effect]; split <;> rfl

@[simp] theorem pollNotified_closed : (effect id s .pollNotified).closed = s.closed := by
  rw [effect]; split <;> rfl

@[simp] theorem pollNotified_messageTask :
    (effect id s .pollNotified).messageTask = s.messageTask := by
  rw [effect]; split <;> rfl

@[simp] theorem recvEvent_messageTask : (effect id s .recvEvent).messageTask = s.messageTask := by
  rw [effect]; split <;> rfl

@[simp] theorem recvEvent_startTask : (effect id s .recvEvent).startTask = s.startTask := by
  rw [effect]; split <;> rfl

@[simp] theorem recvEvent_startedNotify :
    (effect id s .recvEvent).startedNotify = s.startedNotify := by
  rw [effect]; split <;> rfl

end Frame

/-- A poll of a completed future sends the task back to the flag. -/
theorem pollNotified_of_ready {f : Notified} (hf : s.startTask = .awaitNotified f)
    (hready : s.startedNotify.ready () f = true) :
    (effect id s .pollNotified).startTask = .readStarted := by
  rw [effect, hf]
  simp only [(Notify.poll_snd_eq_none_iff _ () f).mpr hready]

/-- A poll of a pending future leaves it pending, as a registered waiter. -/
theorem pollNotified_of_not_ready {f : Notified} (hf : s.startTask = .awaitNotified f)
    (hnr : s.startedNotify.ready () f = false) :
    (effect id s .pollNotified).startTask = .awaitNotified .waiting ∧
      (effect id s .pollNotified).startedNotify.ready () .waiting = false := by
  obtain ⟨hsome, hmem⟩ := Notify.poll_of_not_ready hnr
  rw [effect, hf]
  simp only [hsome]
  exact ⟨trivial, by simp [Notify.ready, hmem]⟩

/-- The `select!` loop moves: nothing the handshake depends on changes. -/
theorem HandshakeInv.loop_move (hs : HandshakeInv s) {place task : StartTask}
    (hst : s.startTask = place) (hpast : place.past = true)
    (htask : ∀ f, task ≠ .awaitNotified f) : HandshakeInv { s with startTask := task } :=
  ⟨hs.unspawned, hs.started, hs.permit, fun f hf => absurd hf (htask f),
    fun _ => hs.past (hst ▸ hpast)⟩

/-- The message-processing task moves without writing the flag or notifying. -/
theorem HandshakeInv.message_move (hs : HandshakeInv s) {place task : MessageTask}
    (hm : s.messageTask = place) (hn : place ≠ .notSpawned)
    (ha : place.announced = task.announced) : HandshakeInv { s with messageTask := task } := by
  subst hm
  exact ⟨fun _ => hs.unspawned hn, hs.started.trans ha, hs.permit, hs.future, hs.past⟩

theorem HandshakeInv.step (hs : HandshakeInv s) (h : (system id).step s a = some t) :
    HandshakeInv t := by
  obtain ⟨hg, rfl⟩ := guarded_step_iff.mp h
  have ⟨hfresh, hstarted, hpermit, hfuture, hpast⟩ := hs
  cases a with
  | openControl | close | otherStopped _ => exact ⟨hfresh, hstarted, hpermit, hfuture, hpast⟩
  | newProxyServer =>
      -- the task was not spawned before, so nothing was announced
      have hm : s.messageTask = .notSpawned := by
        by_contra hne
        exact hfresh hne hg
      refine ⟨nofun, ?_, hpermit, hfuture, hpast⟩
      rw [effect, hstarted, hm]
      rfl
  | spawnStart => exact ⟨nofun, hstarted, hpermit, nofun, nofun⟩
  | insert => exact ⟨nofun, hstarted, hpermit, hfuture, hpast⟩
  | recvEvent =>
      rw [effect]
      split
      · exact hs
      · exact ⟨hfresh, hstarted, hpermit, hfuture, hpast⟩
  | acceptOther => exact ⟨nofun, hstarted, hpermit, hfuture, hpast⟩
  | otherHandled other =>
      cases other with
      | none => exact ⟨nofun, hstarted, hpermit, hfuture, hpast⟩
      | some other => exact ⟨nofun, hstarted, hpermit, hfuture, hpast⟩
  | acceptBi | acceptBiFails | messageTaskSeesClosed => exact hs.message_move hg.1 nofun rfl
  | writeStarted =>
      have hm : s.messageTask = .writeStarted := hg
      exact ⟨fun _ => hfresh (by rw [hm]; exact nofun), rfl, hpermit, hfuture, fun _ => rfl⟩
  | notifyWaiters =>
      have hmove : HandshakeInv { s with messageTask := .processing } :=
        hs.message_move hg nofun rfl
      exact ⟨hmove.unspawned, hmove.started, hpermit, fun f hf => (hfuture f hf).notifyWaiters,
        hpast⟩
  | readStarted =>
      cases hflag : s.started with
      | true =>
          rw [effect, hflag]
          exact ⟨hfresh, hflag ▸ hstarted, hpermit, nofun, fun _ => rfl⟩
      | false =>
          rw [effect, hflag]
          exact ⟨hfresh, hflag ▸ hstarted, hpermit, nofun, nofun⟩
  | createNotified =>
      refine ⟨hfresh, hstarted, hpermit, ?_, nofun⟩
      intro f hf
      cases hf
      exact s.startedNotify.created_notified
  | pollNotified =>
      rw [effect]
      split
      · rename_i future hf
        cases hpoll : (s.startedNotify.poll () future).2 with
        | none => exact ⟨hfresh, hstarted, Notify.poll_permit hpermit () future, nofun, nofun⟩
        | some g =>
            refine ⟨hfresh, hstarted, Notify.poll_permit hpermit () future, ?_, nofun⟩
            intro f hf'
            cases hf'
            rw [Notify.poll_snd_eq_some hpoll]
            trivial
      · exact hs
  | acceptPlayer | acceptServerStream | handshakeEnds | playerStreamEnds =>
      exact hs.loop_move hg rfl nofun
  | sendStopped =>
      have hmove : HandshakeInv { s with startTask := .finished } :=
        hs.loop_move hg rfl nofun
      exact ⟨hfresh, hstarted, hpermit, hmove.future, hmove.past⟩
  | headerFails | startSeesClosed =>
      exact hs.loop_move hg.1 rfl nofun
  | headerRead openPlayerStream =>
      refine hs.loop_move hg rfl ?_
      cases openPlayerStream <;> exact nofun
  | datagram data =>
      refine hs.loop_move hg rfl ?_
      cases dropPrefix (deserialize DatagramInfo.codec) data <;> exact nofun
  | allocateEndpoint panics =>
      refine hs.loop_move hg rfl ?_
      cases panics <;> exact nofun

theorem StartTask.running_iff {task : StartTask} :
    task.running = true ↔ task ≠ .notSpawned ∧ task ≠ .finished := by
  cases task <;> simp [running]

/-- `ProxyServer::start` moves between two places at which it runs. -/
theorem RegistryInv.start_move (hs : RegistryInv id s) {place task : StartTask}
    (hst : s.startTask = place) (hplace : place.running = true) (htask : task.running = true) :
    RegistryInv id { s with startTask := task } := by
  obtain ⟨hn, hf⟩ := StartTask.running_iff.mp (hst ▸ hplace)
  obtain ⟨hn', hf'⟩ := StartTask.running_iff.mp htask
  exact ⟨hs.message, ⟨fun h => absurd h hn', fun h => absurd (hs.spawned.mpr h) hn⟩,
    ⟨fun h => absurd h hf', fun h => absurd (hs.stopped.mpr h) hf⟩, hs.removed⟩

/-- Once the management loop is past the spawning, both tasks are spawned. -/
theorem RegistryInv.both_spawned (hs : RegistryInv id s) {place : Management}
    (hm : s.management = place) (hn : place ≠ .newProxyServer) (hsp : place ≠ .spawnStart) :
    s.messageTask ≠ .notSpawned ∧ s.startTask ≠ .notSpawned := by
  subst hm
  refine ⟨fun hmt => hn (hs.message hmt), ?_⟩
  intro hst
  rcases hs.spawned.mp hst with h | h
  · exact hn h
  · exact hsp h

/-- The management loop goes on, once it is past the spawning. -/
theorem RegistryInv.management_move (hs : RegistryInv id s) {place next : Management}
    {proxies : List Uuid} (hm : s.management = place) (hn : place ≠ .newProxyServer)
    (hsp : place ≠ .spawnStart) (hn' : next ≠ .newProxyServer) (hsp' : next ≠ .spawnStart)
    (hremoved : ProxyEvent.stopped id ∈ s.processed → next.inserted = true ∧ id ∉ proxies) :
    RegistryInv id { s with management := next, proxies := proxies } := by
  obtain ⟨hmt, hst⟩ := hs.both_spawned hm hn hsp
  refine ⟨fun h => absurd h hmt, ⟨fun h => absurd h hst, ?_⟩, hs.stopped, hremoved⟩
  rintro (h | h)
  · exact absurd h hn'
  · exact absurd h hsp'

theorem RegistryInv.step (hs : RegistryInv id s) (h : (system id).step s a = some t) :
    RegistryInv id t := by
  obtain ⟨hg, rfl⟩ := guarded_step_iff.mp h
  have ⟨hmessage, hspawned, hstopped, hremoved⟩ := hs
  have hearly : s.management.inserted = false → ProxyEvent.stopped id ∉ s.processed := by
    intro hi hp
    rw [(hremoved hp).1] at hi
    exact nomatch hi
  cases a with
  | openControl | close => exact ⟨hmessage, hspawned, hstopped, hremoved⟩
  | newProxyServer =>
      have hm : s.management = .newProxyServer := hg
      exact ⟨nofun, ⟨fun _ => Or.inr rfl, fun _ => hspawned.mpr (Or.inl hm)⟩, hstopped,
        fun hp => absurd hp (hearly (by rw [hm]; rfl))⟩
  | spawnStart =>
      have hm : s.management = .spawnStart := hg
      have hns : s.startTask = .notSpawned := hspawned.mpr (Or.inr hm)
      refine ⟨fun hmt => (nomatch hm.symm.trans (hmessage hmt)), ⟨nofun, nofun⟩, ⟨nofun, ?_⟩,
        fun hp => absurd hp (hearly (by rw [hm]; rfl))⟩
      intro hp
      exact nomatch hns.symm.trans (hstopped.mpr hp)
  | insert =>
      have hm : s.management = .insert := hg
      exact hs.management_move hm nofun nofun nofun nofun
        fun hp => absurd hp (hearly (by rw [hm]; rfl))
  | recvEvent =>
      obtain ⟨hm, hne⟩ := hg
      rw [effect]
      split
      · exact hs
      · rename_i stoppedId events hev
        refine ⟨hmessage, hspawned, ?_, ?_⟩
        · rw [hstopped, hev]
          simp
        · intro hp
          refine ⟨by rw [hm]; rfl, ?_⟩
          rcases List.mem_append.mp hp with hold | hnew
          · exact fun hmem => (hremoved hold).2 (List.mem_filter.mp hmem).1
          · cases List.mem_singleton.mp hnew
            simp
  | acceptOther =>
      exact hs.management_move hg nofun nofun nofun nofun fun hp => ⟨rfl, (hremoved hp).2⟩
  | otherHandled other =>
      obtain ⟨hm, hother⟩ := hg
      cases other with
      | none => exact hs.management_move hm nofun nofun nofun nofun fun hp => ⟨rfl, (hremoved hp).2⟩
      | some other =>
          refine hs.management_move hm nofun nofun nofun nofun fun hp => ⟨rfl, ?_⟩
          intro hmem
          rcases List.mem_insert_iff.mp hmem with heq | hold
          · exact hother (congrArg some heq.symm)
          · exact (hremoved hp).2 hold
  | otherStopped other =>
      have hne : other ≠ id := hg
      refine ⟨hmessage, hspawned, ?_, hremoved⟩
      show s.startTask = .finished ↔ .stopped id ∈ s.processed ++ (s.events ++ [.stopped other])
      rw [hstopped]
      simp [Ne.symm hne]
  | acceptBi | acceptBiFails | writeStarted | notifyWaiters | messageTaskSeesClosed =>
      exact ⟨nofun, hspawned, hstopped, hremoved⟩
  | readStarted =>
      refine hs.start_move hg rfl ?_
      cases s.started <;> rfl
  | createNotified => exact hs.start_move hg rfl rfl
  | pollNotified =>
      rw [effect]
      split
      · rename_i future hst
        cases hpoll : (s.startedNotify.poll () future).2 with
        | none =>
            have h : RegistryInv id { s with startTask := .readStarted } :=
              hs.start_move hst rfl rfl
            exact ⟨h.message, h.spawned, h.stopped, h.removed⟩
        | some g =>
            have h : RegistryInv id { s with startTask := .awaitNotified g } :=
              hs.start_move hst rfl rfl
            exact ⟨h.message, h.spawned, h.stopped, h.removed⟩
      · exact hs
  | acceptPlayer | acceptServerStream | handshakeEnds | playerStreamEnds =>
      exact hs.start_move hg rfl rfl
  | headerFails | startSeesClosed => exact hs.start_move hg.1 rfl rfl
  | headerRead openPlayerStream =>
      refine hs.start_move hg rfl ?_
      cases openPlayerStream <;> rfl
  | datagram data =>
      refine hs.start_move hg rfl ?_
      cases dropPrefix (deserialize DatagramInfo.codec) data <;> rfl
  | allocateEndpoint panics =>
      refine hs.start_move hg rfl ?_
      cases panics <;> rfl
  | sendStopped =>
      have hst : s.startTask = .sendStopped := hg
      refine ⟨hmessage, ⟨nofun, ?_⟩, ⟨fun _ => ?_, fun _ => rfl⟩, hremoved⟩
      · intro hor
        exact nomatch hst.symm.trans (hspawned.mpr hor)
      · exact List.mem_append_right _ (List.mem_append_right _ List.mem_cons_self)

theorem handshakeInv_of_exec {acts : List Action} (h : (system id).exec {} acts = some s) :
    HandshakeInv s :=
  exec_invariant HandshakeInv.step HandshakeInv.init h

theorem registryInv_of_exec {acts : List Action} (h : (system id).exec {} acts = some s) :
    RegistryInv id s :=
  exec_invariant RegistryInv.step RegistryInv.init h

/-! ## The two tasks and the loop

    The management loop moves an allocation by actions of its own; all others are
    steps of the connection and of the two tasks. -/

/-- The steps of the connection and of the two tasks of an allocation. -/
def Action.ofTasks : Action → Bool
  | .newProxyServer | .spawnStart | .insert | .recvEvent | .acceptOther | .otherHandled _
  | .otherStopped _ => false
  | _ => true

/-- What a step of the tasks leaves alone, and the one event they send. -/
theorem step_ofTasks (ha : a.ofTasks = true) (h : (system id).step s a = some t) :
    t.management = s.management ∧ t.processed = s.processed ∧
      t.events = s.events ++ if a = .sendStopped then [.stopped id] else [] := by
  obtain ⟨-, rfl⟩ := guarded_step_iff.mp h
  cases a with
  | newProxyServer | spawnStart | insert | recvEvent | acceptOther | otherHandled _
  | otherStopped _ => exact nomatch ha
  | sendStopped => exact ⟨rfl, rfl, rfl⟩
  | pollNotified =>
      rw [effect]
      split <;> exact ⟨rfl, rfl, (List.append_nil _).symm⟩
  | openControl | close | acceptBi | acceptBiFails | writeStarted | notifyWaiters
  | messageTaskSeesClosed | readStarted | createNotified | acceptPlayer | handshakeEnds
  | acceptServerStream | headerRead _ | headerFails | playerStreamEnds | datagram _
  | allocateEndpoint _ | startSeesClosed => exact ⟨rfl, rfl, (List.append_nil _).symm⟩

/-! ## The wake-up

    `notify_waiters` runs once.  It is lost exactly when it runs between the read
    of the flag and the creation of the future. -/

/-- `ProxyServer::start` waits, or is about to wait, for a call that was made. -/
def WakeUpLost (s : Allocation) : Prop :=
  s.messageTask.notified = true ∧
    (s.startTask = .createNotified ∨
      ∃ f, s.startTask = .awaitNotified f ∧ s.startedNotify.ready () f = false)

/-- `notify_waiters` does not run in the window between read and creation. -/
def Prompt (s : Allocation) (a : Action) : Prop :=
  a = .notifyWaiters → s.startTask ≠ .createNotified

instance (s : Allocation) (a : Action) : Decidable (Prompt s a) :=
  inferInstanceAs (Decidable (_ → _))

/-- `ProxyServer::start` is then at one of two places. -/
theorem WakeUpLost.not_elsewhere (hs : WakeUpLost s) {place : StartTask}
    (hst : s.startTask = place) (hc : place ≠ .createNotified)
    (ha : ∀ f, place ≠ .awaitNotified f) : False := by
  rcases hs.2 with h | ⟨f, h, -⟩
  · exact hc (hst.symm.trans h)
  · exact ha f (hst.symm.trans h)

/-- A lost wake-up stays lost: the task is still about to wait, or it waits. -/
theorem lost_step (hi : HandshakeInv s) (hr : RegistryInv id s) (hs : WakeUpLost s)
    (h : (system id).step s a = some t) :
    t.messageTask.notified = true ∧
      (s.startTask = .createNotified ∧ t.startTask = .createNotified ∨
        ∃ f, t.startTask = .awaitNotified f ∧ t.startedNotify.ready () f = false) := by
  obtain ⟨hg, rfl⟩ := guarded_step_iff.mp h
  have ⟨hn, hw⟩ := hs
  have hkeep : s.startTask = .createNotified ∧ s.startTask = .createNotified ∨
      ∃ f, s.startTask = .awaitNotified f ∧ s.startedNotify.ready () f = false :=
    hw.imp_left fun hc => ⟨hc, hc⟩
  -- most actions are not enabled at the two places
  cases a with
  | openControl | close | insert | acceptOther | otherStopped _ => exact ⟨hn, hkeep⟩
  | otherHandled other => cases other <;> exact ⟨hn, hkeep⟩
  | recvEvent =>
      rw [recvEvent_messageTask, recvEvent_startTask, recvEvent_startedNotify]
      exact ⟨hn, hkeep⟩
  | newProxyServer =>
      refine absurd hg (hi.unspawned ?_)
      intro hm
      rw [hm] at hn
      exact nomatch hn
  | spawnStart => exact (hs.not_elsewhere (hr.spawned.mpr (Or.inr hg)) nofun nofun).elim
  | acceptBi | acceptBiFails =>
      rw [show s.messageTask = _ from hg.1] at hn
      exact nomatch hn
  | writeStarted | notifyWaiters =>
      rw [show s.messageTask = _ from hg] at hn
      exact nomatch hn
  | messageTaskSeesClosed => exact ⟨rfl, hkeep⟩
  | createNotified =>
      exact ⟨hn, Or.inr ⟨_, rfl, Notify.ready_notified hi.permit ()⟩⟩
  | pollNotified =>
      rcases hw with hc | ⟨f, hf, hnr⟩
      · have hp : s.startTask.pollable s.startedNotify = true := hg
        rw [hc] at hp
        exact nomatch hp
      · rw [pollNotified_messageTask]
        exact ⟨hn, Or.inr ⟨.waiting, pollNotified_of_not_ready hf hnr⟩⟩
  | readStarted | acceptPlayer | acceptServerStream | datagram _ | allocateEndpoint _
  | handshakeEnds | headerRead _ | playerStreamEnds | sendStopped =>
      exact (hs.not_elsewhere hg nofun nofun).elim
  | startSeesClosed | headerFails => exact (hs.not_elsewhere hg.1 nofun nofun).elim

theorem WakeUpLost.step (hi : HandshakeInv s) (hr : RegistryInv id s) (hs : WakeUpLost s)
    (h : (system id).step s a = some t) : WakeUpLost t :=
  have ⟨hn, hw⟩ := lost_step hi hr hs h
  ⟨hn, hw.imp_left And.right⟩

/-- Only `notify_waiters` in the window loses the wake-up. -/
theorem not_wakeUpLost_step (hi : HandshakeInv s) (hs : ¬ WakeUpLost s) (hp : Prompt s a)
    (h : (system id).step s a = some t) : ¬ WakeUpLost t := by
  obtain ⟨hg, rfl⟩ := guarded_step_iff.mp h
  intro hlost
  have ⟨hn, hw⟩ := hlost
  cases a with
  | openControl | close | insert | acceptOther | otherStopped _ => exact hs ⟨hn, hw⟩
  | otherHandled other => cases other <;> exact hs ⟨hn, hw⟩
  | recvEvent =>
      rw [recvEvent_messageTask] at hn
      rw [recvEvent_startTask, recvEvent_startedNotify] at hw
      exact hs ⟨hn, hw⟩
  | newProxyServer | acceptBi | acceptBiFails | writeStarted => exact nomatch hn
  | spawnStart => exact hlost.not_elsewhere rfl nofun nofun
  | notifyWaiters =>
      rcases hw with hc | ⟨f, hf, hnr⟩
      · exact hp rfl hc
      · have hready := Notify.ready_notifyWaiters (hi.future f hf) ()
        rw [show (s.startedNotify.notifyWaiters.ready () f) = false from hnr] at hready
        exact nomatch hready
  | messageTaskSeesClosed =>
      obtain ⟨hm, -⟩ := hg
      exact hs ⟨by rw [hm]; rfl, hw⟩
  | readStarted =>
      -- the flag is read as false only before the task announced it
      have hflag : s.started = true := by
        rw [hi.started]
        cases hm : s.messageTask <;> rw [effect, hm] at hn <;> first | rfl | exact nomatch hn
      rw [effect, hflag] at hw
      rcases hw with hc | ⟨f, hf, -⟩
      · exact nomatch hc
      · exact nomatch hf
  | createNotified => exact hs ⟨hn, Or.inl hg⟩
  | pollNotified =>
      cases hst : s.startTask with
      | awaitNotified f =>
          rw [pollNotified_messageTask] at hn
          have hready : s.startedNotify.ready () f = true :=
            Bool.of_not_eq_false fun hnr => hs ⟨hn, Or.inr ⟨f, hst, hnr⟩⟩
          rw [pollNotified_of_ready hst hready] at hw
          rcases hw with hc | ⟨f, hf, -⟩
          · exact nomatch hc
          · exact nomatch hf
      | _ =>
          have hpoll : s.startTask.pollable s.startedNotify = true := hg
          rw [hst] at hpoll
          exact nomatch hpoll
  | acceptPlayer | acceptServerStream | handshakeEnds | playerStreamEnds | sendStopped
  | headerFails | startSeesClosed => exact hlost.not_elsewhere rfl nofun nofun
  | headerRead openPlayerStream =>
      cases openPlayerStream <;> exact hlost.not_elsewhere rfl nofun nofun
  | datagram data =>
      refine hlost.not_elsewhere rfl ?_ ?_ <;> rw [effect] <;>
        cases dropPrefix (deserialize DatagramInfo.codec) data <;> exact nofun
  | allocateEndpoint panics => cases panics <;> exact hlost.not_elsewhere rfl nofun nofun

/-- Both invariants together. -/
def Inv (id : Uuid) (s : Allocation) : Prop := HandshakeInv s ∧ RegistryInv id s

theorem Inv.step (hs : Inv id s) (h : (system id).step s a = some t) : Inv id t :=
  ⟨hs.1.step h, hs.2.step h⟩

/-- A run loses the wake-up exactly when `notify_waiters` ran in the window. -/
theorem along_prompt_iff {acts : List Action} (h : (system id).exec {} acts = some s) :
    Along (system id) Prompt {} acts ↔ ¬ WakeUpLost s := by
  refine along_iff_not_bad (I := Inv id) Inv.step (fun hi hl hs => hl.step hi.1 hi.2 hs)
    (fun hi hl hp hs => not_wakeUpLost_step hi.1 hl hp hs) ?_
    ⟨HandshakeInv.init, RegistryInv.init⟩ (fun hl => nomatch hl.1) h
  -- the call falls into the window
  intro r a m hp hm
  obtain ⟨rfl, hwin⟩ : a = .notifyWaiters ∧ r.startTask = .createNotified := by
    by_contra hno
    exact hp fun ha hst => hno ⟨ha, hst⟩
  obtain ⟨-, rfl⟩ := guarded_step_iff.mp hm
  exact ⟨rfl, Or.inl hwin⟩

/-- The flag is true and `notify_waiters` was called, and `ProxyServer::start` is
    parked on a future that no later step completes. -/
def ParkedForever (id : Uuid) (s : Allocation) : Prop :=
  s.started = true ∧ s.messageTask.notified = true ∧
    ∀ bs t, (system id).exec s bs = some t → ∃ f, t.startTask = .awaitNotified f

/-- A future that a lost wake-up left pending is never completed. -/
theorem parkedForever_of_lost (hi : HandshakeInv s) (hr : RegistryInv id s)
    (hn : s.messageTask.notified = true) {f : Notified} (hf : s.startTask = .awaitNotified f)
    (hnr : s.startedNotify.ready () f = false) : ParkedForever id s := by
  refine ⟨?_, hn, ?_⟩
  · rw [hi.started]
    cases hm : s.messageTask <;> rw [hm] at hn <;> first | rfl | exact nomatch hn
  · intro bs t h
    have hinv := exec_invariant
      (P := fun u => HandshakeInv u ∧ RegistryInv id u ∧ WakeUpLost u ∧
        ∃ f, u.startTask = .awaitNotified f)
      (fun ⟨h1, h2, h3, g, hg⟩ hs => by
        have ⟨hn', hw⟩ := lost_step h1 h2 h3 hs
        refine ⟨h1.step hs, h2.step hs, h3.step h1 h2 hs, ?_⟩
        rcases hw with ⟨hc, -⟩ | ⟨f, hf, -⟩
        · exact nomatch hg.symm.trans hc
        · exact ⟨f, hf⟩)
      ⟨hi, hr, ⟨hn, Or.inr ⟨f, hf, hnr⟩⟩, f, hf⟩ h
    exact hinv.2.2.2

/-- **The start-up handshake loses its wake-up in exactly the runs in which
    `notify_waiters` falls between the read of the flag and the creation of the
    `Notified` future**: in all other runs `ProxyServer::start` is parked forever
    in no state reached, nor after any steps of its own. -/
theorem prompt_iff_never_parkedForever {acts : List Action}
    (h : (system id).exec {} acts = some s) :
    Along (system id) Prompt {} acts ↔
      ∀ bs t, (∀ b ∈ bs, b = .createNotified ∨ b = .pollNotified) →
        (system id).exec s bs = some t → ¬ ParkedForever id t := by
  have hi := handshakeInv_of_exec h
  have hr := registryInv_of_exec h
  rw [along_prompt_iff h]
  constructor
  · rintro hl bs t hbs ht ⟨-, hn, hforever⟩
    -- the task's own steps are no calls, so the wake-up is not lost in `t`
    have hown : Along (system id) Prompt s bs := by
      refine along_of_forall_mem fun b hb m hcall => ?_
      rcases hbs b hb with rfl | rfl <;> exact nomatch hcall
    obtain ⟨hit, hlt⟩ := exec_invariant_along
      (P := fun u => HandshakeInv u ∧ ¬ WakeUpLost u)
      (fun ⟨h1, h2⟩ hp hs => ⟨h1.step hs, not_wakeUpLost_step h1 h2 hp hs⟩) ⟨hi, hl⟩ hown ht
    obtain ⟨f, hf⟩ := hforever [] t rfl
    have hready : t.startedNotify.ready () f = true :=
      Bool.of_not_eq_false fun hnr => hlt ⟨hn, Or.inr ⟨f, hf, hnr⟩⟩
    -- so the future can be polled, and the poll completes it
    have hpoll : guard id t .pollNotified := by
      show t.startTask.pollable t.startedNotify = true
      rw [hf, StartTask.pollable, hready, Bool.or_true]
    obtain ⟨g, hg⟩ := hforever [.pollNotified] _
      (exec_cons_iff.mpr ⟨_, guarded_step_of_guard hpoll, rfl⟩)
    exact nomatch (pollNotified_of_ready hf hready).symm.trans hg
  · rintro hall ⟨hn, hw⟩
    rcases hw with hc | ⟨f, hf, hnr⟩
    · have hstep : (system id).step s .createNotified = some (effect id s .createNotified) :=
        guarded_step_of_guard hc
      refine hall [.createNotified] _ (fun b hb => Or.inl (List.mem_singleton.mp hb))
        (exec_cons_iff.mpr ⟨_, hstep, rfl⟩) ?_
      have ⟨hn', hw'⟩ := lost_step hi hr ⟨hn, Or.inl hc⟩ hstep
      rcases hw' with ⟨-, hc'⟩ | ⟨g, hg, hnr⟩
      · exact nomatch hc'
      · exact parkedForever_of_lost (hi.step hstep) (hr.step hstep) hn' hg hnr
    · exact hall [] s nofun rfl (parkedForever_of_lost hi hr hn hf hnr)

/-- The future is created before the flag is written, and the call wakes it. -/
def wokenRun : List Action :=
  [.newProxyServer, .spawnStart, .insert, .openControl, .readStarted, .createNotified, .acceptBi,
    .writeStarted, .notifyWaiters]

/-- The flag is read, then it is written and the call made, then the future is created. -/
def missedRun : List Action :=
  [.newProxyServer, .spawnStart, .insert, .openControl, .acceptBi, .readStarted, .writeStarted,
    .notifyWaiters, .createNotified]

theorem never_parkedForever_woken :
    ∃ s, (system 0).exec {} wokenRun = some s ∧
      ∀ bs t, (∀ b ∈ bs, b = .createNotified ∨ b = .pollNotified) →
        (system 0).exec s bs = some t → ¬ ParkedForever 0 t := by
  have hprompt : Along (system 0) Prompt {} wokenRun := by decide
  exact ⟨_, rfl, (prompt_iff_never_parkedForever rfl).mp hprompt⟩

/-- **The window is real**: in `missedRun` the task is parked forever, with the
    flag true and the call made. -/
theorem parkedForever_missed :
    ∃ s, (system 0).exec {} missedRun = some s ∧ ParkedForever 0 s := by
  obtain ⟨s, hs⟩ : ∃ s, (system 0).exec {} missedRun = some s := ⟨_, rfl⟩
  refine ⟨s, hs, ?_⟩
  have hi := handshakeInv_of_exec hs
  have hr := registryInv_of_exec hs
  cases Option.some.inj hs
  exact parkedForever_of_lost hi hr rfl rfl rfl

/-! ## The closing

    Three things strand an allocation for good: the connection closes before the
    control stream is accepted, the wake-up is lost, or a handler panics. -/

/-- The connection is closed, and the control stream was not and will not be
    accepted. -/
def Unaccepted (s : Allocation) : Prop := s.closed = true ∧ s.messageTask.waiting = true

/-- `ProxyServer::start` will not come back to its `select!` loop. -/
def Stranded (s : Allocation) : Prop :=
  Unaccepted s ∨ WakeUpLost s ∨ s.startTask = .panicked

/-- The step takes none of the branches that strand the allocation: the
    connection closes only once the control stream was accepted, `notify_waiters`
    does not run in the window, datagrams are well framed, and the port
    arithmetic for an `AllocateEndpoint` message does not overflow. -/
def Benign (s : Allocation) : Action → Prop
  | .close => s.messageTask.waiting = false
  | .notifyWaiters => s.startTask ≠ .createNotified
  | .datagram data => WellFramed data
  | .allocateEndpoint panics => panics = false
  | _ => True

theorem Benign.prompt (h : Benign s a) : Prompt s a := by
  rintro rfl
  exact h

theorem Unaccepted.step (hs : Unaccepted s) (h : (system id).step s a = some t) :
    Unaccepted t := by
  obtain ⟨hg, rfl⟩ := guarded_step_iff.mp h
  have ⟨hclosed, hwait⟩ := hs
  cases a with
  | openControl | close =>
      rw [show s.closed = false by first | exact hg | exact hg.1] at hclosed
      exact nomatch hclosed
  | newProxyServer | acceptBiFails => exact ⟨hclosed, rfl⟩
  | acceptBi =>
      rw [hg.2.2] at hclosed
      exact nomatch hclosed
  | writeStarted | notifyWaiters =>
      rw [show s.messageTask = _ from hg] at hwait
      exact nomatch hwait
  | messageTaskSeesClosed =>
      rw [hg.1] at hwait
      exact nomatch hwait
  | recvEvent | pollNotified => simpa [Unaccepted] using hs
  | otherHandled other => cases other <;> exact hs
  | _ => exact hs

theorem not_unaccepted_step (hi : HandshakeInv s) (hs : ¬ Unaccepted s) (hb : Benign s a)
    (h : (system id).step s a = some t) : ¬ Unaccepted t := by
  obtain ⟨hg, rfl⟩ := guarded_step_iff.mp h
  rintro ⟨hclosed, hwait⟩
  cases a with
  | openControl => exact hs ⟨hclosed, hwait⟩
  | close =>
      have hacc : s.messageTask.waiting = false := hb
      exact nomatch hacc.symm.trans hwait
  | newProxyServer =>
      refine hs ⟨hclosed, ?_⟩
      have hm : s.messageTask = .notSpawned := by
        by_contra hne
        exact hi.unspawned hne hg
      rw [hm]
      rfl
  | acceptBi | writeStarted | notifyWaiters | messageTaskSeesClosed => exact nomatch hwait
  | acceptBiFails => exact hs ⟨hg.2, by rw [hg.1]; rfl⟩
  | recvEvent | pollNotified => exact hs ⟨by simpa using hclosed, by simpa using hwait⟩
  | otherHandled other => cases other <;> exact hs ⟨hclosed, hwait⟩
  | _ => exact hs ⟨hclosed, hwait⟩

theorem panicked_step (hr : RegistryInv id s) (hs : s.startTask = .panicked)
    (h : (system id).step s a = some t) : t.startTask = .panicked := by
  obtain ⟨hg, rfl⟩ := guarded_step_iff.mp h
  have hat : ∀ task, s.startTask = task → task = .panicked := fun task hst => hst.symm.trans hs
  cases a with
  | spawnStart => exact nomatch hat _ (hr.spawned.mpr (Or.inr hg))
  | readStarted | createNotified | acceptPlayer | acceptServerStream | datagram _
  | allocateEndpoint _ | handshakeEnds | headerRead _ | playerStreamEnds | sendStopped =>
      exact nomatch hat _ hg
  | startSeesClosed | headerFails => exact nomatch hat _ hg.1
  | pollNotified =>
      have hp : s.startTask.pollable s.startedNotify = true := hg
      rw [hs] at hp
      exact nomatch hp
  | recvEvent => simpa using hs
  | otherHandled other => cases other <;> exact hs
  | _ => exact hs

theorem not_panicked_step (hs : s.startTask ≠ .panicked) (hb : Benign s a)
    (h : (system id).step s a = some t) : t.startTask ≠ .panicked := by
  obtain ⟨hg, rfl⟩ := guarded_step_iff.mp h
  cases a with
  | datagram data =>
      rw [effect, dropPrefix_of_wellFramed _ hb]
      cases deserialize DatagramInfo.codec ((data.drop 4).take (announcedLength data)) <;>
        exact nofun
  | allocateEndpoint panics =>
      cases hb
      exact nofun
  | readStarted =>
      rw [effect]
      cases s.started <;> exact nofun
  | pollNotified =>
      rw [effect]
      split
      · rename_i f _
        cases (s.startedNotify.poll () f).2 <;> exact nofun
      · exact hs
  | headerRead openPlayerStream => cases openPlayerStream <;> exact nofun
  | spawnStart | createNotified | acceptPlayer | acceptServerStream | handshakeEnds
  | playerStreamEnds | sendStopped | startSeesClosed | headerFails => exact nofun
  | recvEvent => simpa using hs
  | otherHandled other => cases other <;> exact hs
  | _ => exact hs

theorem Stranded.step (hi : HandshakeInv s) (hr : RegistryInv id s) (hs : Stranded s)
    (h : (system id).step s a = some t) : Stranded t := by
  rcases hs with hu | hl | hp
  · exact Or.inl (hu.step h)
  · exact Or.inr (Or.inl (hl.step hi hr h))
  · exact Or.inr (Or.inr (panicked_step hr hp h))

/-- A benign step strands nothing. -/
theorem not_stranded_step (hi : HandshakeInv s) (hs : ¬ Stranded s) (hb : Benign s a)
    (h : (system id).step s a = some t) : ¬ Stranded t := by
  rintro (hu | hl | hp)
  · exact not_unaccepted_step hi (fun hu => hs (Or.inl hu)) hb h hu
  · exact not_wakeUpLost_step hi (fun hl => hs (Or.inr (Or.inl hl))) hb.prompt h hl
  · exact not_panicked_step (fun hp => hs (Or.inr (Or.inr hp))) hb h hp

/-- Any other step strands the allocation. -/
theorem stranded_of_not_benign (hb : ¬ Benign s a) (h : (system id).step s a = some t) :
    Stranded t := by
  obtain ⟨hg, rfl⟩ := guarded_step_iff.mp h
  cases a with
  | close =>
      have hwait : s.messageTask.waiting = true := by simpa [Benign] using hb
      exact Or.inl ⟨rfl, hwait⟩
  | notifyWaiters =>
      have hwin : s.startTask = .createNotified := by simpa [Benign] using hb
      exact Or.inr (Or.inl ⟨rfl, Or.inl hwin⟩)
  | datagram data =>
      refine Or.inr (Or.inr ?_)
      rw [effect, dropPrefix_of_not_wellFramed _ hb]
  | allocateEndpoint panics =>
      cases panics with
      | true => exact Or.inr (Or.inr rfl)
      | false => exact absurd rfl hb
  | _ => exact absurd trivial hb

/-- A run strands the allocation exactly when one of its steps is not benign. -/
theorem along_benign_iff {acts : List Action} (h : (system id).exec {} acts = some s) :
    Along (system id) Benign {} acts ↔ ¬ Stranded s := by
  refine along_iff_not_bad (I := Inv id) Inv.step (fun hi hb hs => hb.step hi.1 hi.2 hs)
    (fun hi hs hb h => not_stranded_step hi.1 hs hb h) stranded_of_not_benign
    ⟨HandshakeInv.init, RegistryInv.init⟩ ?_ h
  rintro (⟨hc, -⟩ | ⟨hn, -⟩ | hp)
  · exact nomatch hc
  · exact nomatch hn
  · exact nomatch hp

/-! ### Streams of players

    A handler that asks a player for a stream waits until the player grants one
    or its connection closes, whatever happens to the game server meanwhile. -/

/-- Every stream the loop asked a player for was granted, or the player left. -/
def Granted (acts : List Action) : Prop :=
  ∀ before after, acts = before ++ .headerRead true :: after → .playerStreamEnds ∈ after

theorem Granted.nil : Granted [] := by
  intro before after h
  exact absurd h.symm (List.append_ne_nil_of_right_ne_nil _ (List.cons_ne_nil _ _))

theorem not_granted_snoc_headerRead (acts : List Action) :
    ¬ Granted (acts ++ [.headerRead true]) :=
  fun h => nomatch h acts [] rfl

theorem granted_snoc_playerStreamEnds (acts : List Action) :
    Granted (acts ++ [.playerStreamEnds]) := by
  intro before after h
  rcases List.eq_nil_or_concat' after with rfl | ⟨after, b, rfl⟩
  · have hlast := List.append_inj_right' h rfl
    exact nomatch hlast
  · rw [← List.cons_append, ← List.append_assoc] at h
    have hlast := List.append_inj_right' h rfl
    cases hlast
    exact List.mem_append_right _ List.mem_cons_self

theorem granted_snoc_iff {acts : List Action} (h1 : a ≠ .headerRead true)
    (h2 : a ≠ .playerStreamEnds) : Granted (acts ++ [a]) ↔ Granted acts := by
  constructor
  · rintro h before after rfl
    have hmem := h before (after ++ [a]) (by simp)
    rcases List.mem_append.mp hmem with hold | hnew
    · exact hold
    · exact absurd (List.mem_singleton.mp hnew).symm h2
  · intro h before after heq
    rcases List.eq_nil_or_concat' after with rfl | ⟨after, b, rfl⟩
    · have hlast := List.append_inj_right' heq rfl
      exact absurd (List.cons.inj hlast).1 h1
    · rw [← List.cons_append, ← List.append_assoc] at heq
      exact List.mem_append_left _ (h before after (List.append_inj_left' heq rfl))

/-- No other step brings the loop to wait for a player's stream, or away from it. -/
theorem playerStream_step_iff (h1 : a ≠ .headerRead true) (h2 : a ≠ .playerStreamEnds)
    (hr : RegistryInv id s) (h : (system id).step s a = some t) :
    t.startTask = .handler .playerStream ↔ s.startTask = .handler .playerStream := by
  obtain ⟨hg, rfl⟩ := guarded_step_iff.mp h
  have hmove : ∀ task, s.startTask = task → task ≠ .handler .playerStream →
      (effect id s a).startTask ≠ .handler .playerStream →
      ((effect id s a).startTask = .handler .playerStream ↔
        s.startTask = .handler .playerStream) := by
    intro task hst hne hne'
    exact ⟨fun h => absurd h hne', fun h => absurd (hst.symm.trans h) hne⟩
  cases a with
  | spawnStart => exact hmove .notSpawned (hr.spawned.mpr (Or.inr hg)) nofun nofun
  | recvEvent => simp
  | otherHandled other => cases other <;> exact Iff.rfl
  | readStarted =>
      refine hmove _ hg nofun ?_
      rw [effect]
      cases s.started <;> exact nofun
  | createNotified => exact hmove _ hg nofun nofun
  | pollNotified =>
      rw [effect]
      split
      · rename_i future hst
        rw [hst]
        cases (s.startedNotify.poll () future).2 <;> exact ⟨nofun, nofun⟩
      · exact Iff.rfl
  | headerRead openPlayerStream =>
      cases openPlayerStream with
      | true => exact absurd rfl h1
      | false => exact hmove _ hg nofun nofun
  | playerStreamEnds => exact absurd rfl h2
  | datagram data =>
      refine hmove _ hg nofun ?_
      rw [effect]
      cases dropPrefix (deserialize DatagramInfo.codec) data <;> exact nofun
  | allocateEndpoint panics =>
      refine hmove _ hg nofun ?_
      rw [effect]
      cases panics <;> exact nofun
  | acceptPlayer | acceptServerStream | handshakeEnds | sendStopped => exact hmove _ hg nofun nofun
  | startSeesClosed | headerFails => exact hmove _ hg.1 nofun nofun
  | _ => exact Iff.rfl

/-- The loop waits for a player's stream exactly where one was not granted. -/
theorem playerStream_iff {acts : List Action} (h : (system id).exec {} acts = some s) :
    s.startTask = .handler .playerStream ↔ ¬ Granted acts := by
  refine (exec_history (P := fun acts s => RegistryInv id s ∧
    (s.startTask = .handler .playerStream ↔ ¬ Granted acts)) ?_ ?_ h).2
  · exact ⟨RegistryInv.init, nofun, fun hn => absurd Granted.nil hn⟩
  · rintro acts m a t ⟨hr, ih⟩ hstep
    refine ⟨hr.step hstep, ?_⟩
    by_cases h1 : a = .headerRead true
    · subst h1
      obtain ⟨-, rfl⟩ := guarded_step_iff.mp hstep
      exact ⟨fun _ => not_granted_snoc_headerRead acts, fun _ => rfl⟩
    · by_cases h2 : a = .playerStreamEnds
      · subst h2
        obtain ⟨-, rfl⟩ := guarded_step_iff.mp hstep
        exact ⟨nofun, fun hn => absurd (granted_snoc_playerStreamEnds acts) hn⟩
      · rw [playerStream_step_iff h1 h2 hr hstep, ih, granted_snoc_iff h1 h2]

/-! ### Quiescence -/

/-- No task can take a step by itself. -/
def Quiescent (id : Uuid) (s : Allocation) : Prop :=
  ∀ a : Action, a.external = false → (system id).step s a = none

/-- In a quiescent state no internal action's guard holds. -/
theorem Quiescent.not_guard (hq : Quiescent id s) (ha : a.external = false) : ¬ guard id s a :=
  not_guard_of_step_eq_none (hq a ha)

/-- Where nothing can move and the connection is closed, the management loop is
    at its `select!` with an empty channel, the message-processing task is done,
    and `ProxyServer::start` has finished, has panicked, or waits for a player or
    for a wake-up. -/
theorem Quiescent.idle (hq : Quiescent id s) (hclosed : s.closed = true)
    (hr : RegistryInv id s) :
    s.management = .select ∧ s.events = [] ∧
      (s.messageTask = .acceptFailed ∨ s.messageTask = .finished) ∧
      (s.startTask = .finished ∨ s.startTask = .panicked ∨
        s.startTask = .handler .playerStream ∨
        ∃ f, s.startTask = .awaitNotified f ∧ s.startedNotify.ready () f = false) := by
  have hm : s.management = .select := by
    cases hm : s.management with
    | newProxyServer => exact absurd hm (hq.not_guard (a := .newProxyServer) rfl)
    | spawnStart => exact absurd hm (hq.not_guard (a := .spawnStart) rfl)
    | insert => exact absurd hm (hq.not_guard (a := .insert) rfl)
    | select => rfl
    | otherConnection => exact absurd ⟨hm, nofun⟩ (hq.not_guard (a := .otherHandled none) rfl)
  refine ⟨hm, ?_, ?_, ?_⟩
  · by_contra hne
    exact hq.not_guard (a := .recvEvent) rfl ⟨hm, hne⟩
  · cases hmt : s.messageTask with
    | notSpawned => exact nomatch hm.symm.trans (hr.message hmt)
    | acceptBi => exact absurd ⟨hmt, hclosed⟩ (hq.not_guard (a := .acceptBiFails) rfl)
    | writeStarted => exact absurd hmt (hq.not_guard (a := .writeStarted) rfl)
    | notifyWaiters => exact absurd hmt (hq.not_guard (a := .notifyWaiters) rfl)
    | processing =>
        exact absurd ⟨hmt, hclosed⟩ (hq.not_guard (a := .messageTaskSeesClosed) rfl)
    | acceptFailed => exact Or.inl rfl
    | finished => exact Or.inr rfl
  · cases hst : s.startTask with
    | notSpawned =>
        have hor := hr.spawned.mp hst
        rw [hm] at hor
        exact nomatch hor
    | readStarted => exact absurd hst (hq.not_guard (a := .readStarted) rfl)
    | createNotified => exact absurd hst (hq.not_guard (a := .createNotified) rfl)
    | awaitNotified f =>
        refine Or.inr (Or.inr (Or.inr ⟨f, rfl, ?_⟩))
        refine Bool.of_not_eq_true fun hready => hq.not_guard (a := .pollNotified) rfl ?_
        show s.startTask.pollable s.startedNotify = true
        rw [hst, StartTask.pollable, hready, Bool.or_true]
    | select => exact absurd ⟨hst, hclosed⟩ (hq.not_guard (a := .startSeesClosed) rfl)
    | handler on =>
        cases on with
        | handshake => exact absurd hst (hq.not_guard (a := .handshakeEnds) rfl)
        | serverStream => exact absurd ⟨hst, hclosed⟩ (hq.not_guard (a := .headerFails) rfl)
        | playerStream => exact Or.inr (Or.inr (Or.inl rfl))
    | sendStopped => exact absurd hst (hq.not_guard (a := .sendStopped) rfl)
    | finished => exact Or.inl rfl
    | panicked => exact Or.inr (Or.inl rfl)

/-- A stranded allocation never sends `Stopped`. -/
theorem Stranded.not_finished (hi : HandshakeInv s) (hs : Stranded s) :
    s.startTask ≠ .finished := by
  intro hfin
  rcases hs with ⟨-, hwait⟩ | ⟨-, hc | ⟨f, hf, -⟩⟩ | hp
  · -- the control stream was never accepted, so the flag was never written
    have hstarted := hi.past (by rw [hfin]; rfl)
    rw [hi.started] at hstarted
    cases hm : s.messageTask <;> simp [hm, MessageTask.announced, MessageTask.waiting] at *
  · exact nomatch hfin.symm.trans hc
  · exact nomatch hfin.symm.trans hf
  · exact nomatch hfin.symm.trans hp

/-- **An allocation is stopped and removed after its game server's connection
    closed in exactly these runs**: every step was benign and every stream asked
    of a player was granted. -/
theorem stopped_and_removed_iff {acts : List Action} (h : (system id).exec {} acts = some s)
    (hclosed : s.closed = true) (hq : Quiescent id s) :
    (.stopped id ∈ s.processed ∧ id ∉ s.proxies) ↔
      Along (system id) Benign {} acts ∧ Granted acts := by
  have hi := handshakeInv_of_exec h
  have hr := registryInv_of_exec h
  have ⟨_, hevents, hmt, hst⟩ := hq.idle hclosed hr
  have hstopped := hr.stopped
  rw [hevents, List.append_nil] at hstopped
  rw [along_benign_iff h, ← hstopped]
  have hplayer := playerStream_iff h
  constructor
  · rintro ⟨hfin, -⟩
    refine ⟨fun hs => hs.not_finished hi hfin, ?_⟩
    by_contra hn
    exact nomatch hfin.symm.trans (hplayer.mpr hn)
  · rintro ⟨hns, hgranted⟩
    rcases hst with hfin | hp | hplayerStream | ⟨f, hf, hnr⟩
    · exact ⟨hfin, (hr.removed (hstopped.mp hfin)).2⟩
    · exact absurd (Or.inr (Or.inr hp)) hns
    · exact absurd hgranted (hplayer.mp hplayerStream)
    · -- waiting for good: the call was missed, or will never be made
      rcases hmt with hfailed | hfinished
      · exact absurd (Or.inl ⟨hclosed, by rw [hfailed]; rfl⟩) hns
      · exact absurd (Or.inr (Or.inl ⟨by rw [hfinished]; rfl, Or.inr ⟨f, hf, hnr⟩⟩)) hns

/-- A run in which the game server opens its control stream, and closes later. -/
def orderlyRun : List Action :=
  [.newProxyServer, .spawnStart, .insert, .openControl, .acceptBi, .writeStarted, .notifyWaiters,
    .readStarted, .close, .startSeesClosed, .sendStopped, .recvEvent, .messageTaskSeesClosed]

/-- A run in which the game server closes before it opens its control stream. -/
def earlyCloseRun : List Action :=
  [.newProxyServer, .spawnStart, .insert, .close, .acceptBiFails, .readStarted, .createNotified,
    .pollNotified]

theorem stopped_and_removed_orderly :
    ∃ s, (system 0).exec {} orderlyRun = some s ∧
      ((.stopped 0 ∈ s.processed ∧ (0 : Uuid) ∉ s.proxies) ↔
        Along (system 0) Benign {} orderlyRun ∧ Granted orderlyRun) := by
  obtain ⟨s, hs⟩ : ∃ s, (system 0).exec {} orderlyRun = some s := ⟨_, rfl⟩
  refine ⟨s, hs, stopped_and_removed_iff hs ?_ ?_⟩ <;> cases Option.some.inj hs
  · rfl
  intro a ha
  cases a <;> first | rfl | exact nomatch ha

/-- **An allocation can outlive its game server**: the connection closes before the
    control stream is opened, nothing can move any more, and nothing was sent. -/
theorem not_stopped_early_close :
    ∃ s, (system 0).exec {} earlyCloseRun = some s ∧ s.closed = true ∧ Quiescent 0 s ∧
      ProxyEvent.stopped 0 ∉ s.processed ∧ (0 : Uuid) ∈ s.proxies := by
  refine ⟨_, rfl, rfl, ?_, by decide, by decide⟩
  intro a ha
  cases a <;> first | rfl | exact nomatch ha

end AmbientProxy.Startup
