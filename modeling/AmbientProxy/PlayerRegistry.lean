import AmbientProxy.ProxyServer

/-! # The player registry — who is registered, and under which connection

    `player_conns` is changed by two tasks' events: the loop announces a player,
    spawns its task and inserts it; the task may already have sent `Disconnected`
    before the insertion; the loop processes the event later.

    `Registry` is the part of the loop's state that this race is about, with nine
    moves; `registry_step` says that every step of the loop and of the tasks around
    it is one of them or leaves the registry as it is.  The invariant is proved of
    the moves:

    * `Registry.Inv.step` — an event in the channel, and a running task, belong to a
      player who is registered, or about to be, under the task's own connection;
    * `registry_exact` — between two iterations the registered players are exactly
      the announced ones whose `Disconnected` was not processed, and whatever the
      game server sends for one of these goes to the player's own connection. -/

namespace AmbientProxy.ProxyServer

open Transition

/-! ## The registry and its moves -/

/-- How far the registration of a new player is. -/
inductive Stage where
  | idle
  | handshake (conn : ConnId)
  | spawnPlayer (conn : ConnId) (playerId : Str)
  | insertPlayer (conn : ConnId) (playerId : Str)
  deriving DecidableEq

def Phase.stage : Phase → Stage
  | .handshake conn => .handshake conn
  | .spawnPlayer conn playerId => .spawnPlayer conn playerId
  | .insertPlayer conn playerId => .insertPlayer conn playerId
  | _ => .idle

namespace Stage

/-- The player that is announced and not inserted yet. -/
def newPlayer : Stage → Option Str
  | .spawnPlayer _ p | .insertPlayer _ p => some p
  | _ => none

/-- The connection for which no task is spawned yet. -/
def newConn : Stage → Option ConnId
  | .handshake conn | .spawnPlayer conn _ => some conn
  | _ => none

theorem ne_insertPlayer {stage : Stage} (h : stage.newPlayer = none) (conn : ConnId) (p : Str) :
    stage ≠ .insertPlayer conn p := by
  rintro rfl
  exact nomatch h

end Stage

structure Registry where
  stage : Stage
  accepted : Nat
  announced : List Str
  playerConns : DashMap ConnId
  playerTasks : ConnId → Option PlayerTask
  playerEvents : List PlayerEvent
  processed : List PlayerEvent

/-- The player that a message announces. -/
def announcement : ServerMessage → Option Str
  | .playerConnected playerId => some playerId
  | _ => none

/-- The part of the state that the registration of players is about. -/
def State.registry (s : State) : Registry where
  stage := s.phase.stage
  accepted := s.accepted
  announced := s.sent.filterMap announcement
  playerConns := s.playerConns
  playerTasks := s.playerTasks
  playerEvents := s.playerEvents
  processed := s.processed

namespace Registry

inductive Step (r : Registry) : Registry → Prop where
  | accept (hi : r.stage = .idle) :
      Step r { r with stage := .handshake r.accepted, accepted := r.accepted + 1 }
  | giveUp {conn : ConnId} (hi : r.stage = .handshake conn) : Step r { r with stage := .idle }
  | announce {conn : ConnId} {p : Str} (hi : r.stage = .handshake conn) (hp : p ∉ r.announced) :
      Step r { r with stage := .spawnPlayer conn p, announced := r.announced ++ [p] }
  | spawn {conn : ConnId} {p : Str} (hi : r.stage = .spawnPlayer conn p) :
      Step r
        { r with
          stage := .insertPlayer conn p
          playerTasks := Function.update r.playerTasks conn (some ⟨p, true⟩) }
  | insert {conn : ConnId} {p : Str} (hi : r.stage = .insertPlayer conn p) :
      Step r { r with stage := .idle, playerConns := r.playerConns.insert p conn }
  | process {conn : ConnId} {p : Str} {rest : List PlayerEvent} (hi : r.stage = .idle)
      (he : r.playerEvents = .disconnected p :: rest) (hl : r.playerConns.lookup p = some conn) :
      Step r
        { r with
          playerConns := r.playerConns.erase p
          playerTasks := Function.update r.playerTasks conn
            ((r.playerTasks conn).map fun task => { task with running := false })
          playerEvents := rest
          processed := r.processed ++ [.disconnected p] }
  | processUnknown {p : Str} {rest : List PlayerEvent} (hi : r.stage = .idle)
      (he : r.playerEvents = .disconnected p :: rest) (hl : r.playerConns.lookup p = none) :
      Step r { r with playerEvents := rest, processed := r.processed ++ [.disconnected p] }
  | disconnect {conn : ConnId} {p : Str} (ht : r.playerTasks conn = some ⟨p, true⟩) :
      Step r
        { r with
          playerTasks := Function.update r.playerTasks conn (some ⟨p, false⟩)
          playerEvents := r.playerEvents ++ [.disconnected p] }
  | finish {conn : ConnId} {p : Str} (ht : r.playerTasks conn = some ⟨p, true⟩) :
      Step r { r with playerTasks := Function.update r.playerTasks conn (some ⟨p, false⟩) }

/-- The player for whom the task on a connection was made. -/
def owner (r : Registry) (conn : ConnId) : Option Str := (r.playerTasks conn).map (·.playerId)

/-- The connection is registered for the player, or the next to be. -/
def Home (r : Registry) (p : Str) (conn : ConnId) : Prop :=
  r.playerConns.lookup p = some conn ∨ r.stage = .insertPlayer conn p

/-- What holds of the registry in every state. -/
structure Inv (r : Registry) : Prop where
  registered : ∀ p, p ∈ r.announced ∧ .disconnected p ∉ r.processed ↔
    p ∈ r.playerConns ∨ r.stage.newPlayer = some p
  processed : ∀ p, .disconnected p ∈ r.processed → p ∈ r.announced
  newPlayer : ∀ p, r.stage.newPlayer = some p → p ∉ r.playerConns
  home : ∀ p conn, r.Home p conn → r.owner conn = some p
  running : ∀ p conn, r.playerTasks conn = some ⟨p, true⟩ → r.Home p conn
  events : ∀ p, .disconnected p ∈ r.playerEvents →
    ∃ conn, r.Home p conn ∧ r.playerTasks conn = some ⟨p, false⟩
  nodup : r.playerEvents.Nodup
  fresh : ∀ conn, r.playerTasks conn ≠ none → conn < r.accepted
  newConn : ∀ conn, r.stage.newConn = some conn → conn < r.accepted ∧ r.playerTasks conn = none

theorem Inv.init : Inv (State.registry {}) where
  registered p := by
    constructor
    · rintro ⟨hp, -⟩
      exact absurd hp List.not_mem_nil
    · rintro (hp | hp)
      · exact absurd hp (AList.notMem_empty p)
      · exact nomatch hp
  processed p hp := absurd hp List.not_mem_nil
  newPlayer p _ := AList.notMem_empty p
  home p conn := by
    rintro (hl | hi)
    · exact nomatch hl
    · exact nomatch hi
  running p conn ht := nomatch ht
  events p he := absurd he List.not_mem_nil
  nodup := List.nodup_nil
  fresh conn ht := absurd rfl ht
  newConn conn h := nomatch h

variable {r r' : Registry} {p q : Str} {conn conn' : ConnId} {stage : Stage}

theorem owner_eq_some {running : Bool} (ht : r.playerTasks conn = some ⟨p, running⟩) :
    r.owner conn = some p := by
  rw [owner, ht, Option.map_some]

/-- A task that ends keeps its player, and so do the others. -/
theorem owner_stop {running : Bool} (ht : r.playerTasks conn = some ⟨p, running⟩)
    (ho : r.owner conn' = some q) :
    owner { r with playerTasks := Function.update r.playerTasks conn (some ⟨p, false⟩) } conn'
      = some q := by
  by_cases hne : conn' = conn
  · subst hne
    cases (owner_eq_some ht).symm.trans ho
    exact owner_eq_some (Function.update_self _ _ _)
  · obtain ⟨task, ht', rfl⟩ := Option.map_eq_some_iff.mp ho
    exact owner_eq_some ((Function.update_of_ne hne _ _).trans ht')

theorem mem_of_lookup (hl : r.playerConns.lookup p = some conn) : p ∈ r.playerConns :=
  AList.lookup_isSome.mp (Option.isSome_of_eq_some hl)

/-- A player has one connection. -/
theorem Inv.home_unique (hr : r.Inv) (h : r.Home p conn) (h' : r.Home p conn') :
    conn = conn' := by
  rcases h with hl | hi <;> rcases h' with hl' | hi'
  · exact Option.some.inj (hl.symm.trans hl')
  · exact absurd (mem_of_lookup hl) (hr.newPlayer p (hi' ▸ rfl))
  · exact absurd (mem_of_lookup hl') (hr.newPlayer p (hi ▸ rfl))
  · cases hi.symm.trans hi'
    rfl

/-! ## The moves keep the invariant -/

theorem home_iff (hs : r.stage.newPlayer = none) :
    r.Home p conn ↔ r.playerConns.lookup p = some conn :=
  or_iff_left (Stage.ne_insertPlayer hs conn p)

/-- The loop goes on to a stage at which no player is new. -/
theorem Inv.withStage (hr : r.Inv) (hs : r.stage.newPlayer = none)
    (hn : stage.newPlayer = none)
    (hc : ∀ conn, stage.newConn = some conn → conn < r.accepted ∧ r.playerTasks conn = none) :
    Inv { r with stage := stage } := by
  have hhome : ∀ p conn, Registry.Home { r with stage := stage } p conn ↔ r.Home p conn := by
    intro p conn
    rw [home_iff hs]
    exact home_iff hn
  refine ⟨?_, hr.processed, ?_, ?_, ?_, ?_, hr.nodup, hr.fresh, hc⟩
  · intro p
    have h := hr.registered p
    rw [hs] at h
    show _ ↔ _ ∨ stage.newPlayer = some p
    rw [hn]
    exact h
  · intro p h
    exact nomatch hn.symm.trans h
  · intro p conn h
    exact hr.home p conn ((hhome p conn).mp h)
  · intro p conn ht
    exact (hhome p conn).mpr (hr.running p conn ht)
  · intro p he
    obtain ⟨conn, h, ht⟩ := hr.events p he
    exact ⟨conn, (hhome p conn).mpr h, ht⟩

/-- The next connection is accepted. -/
theorem Inv.accept (hr : r.Inv) (hi : r.stage = .idle) :
    Inv { r with stage := .handshake r.accepted, accepted := r.accepted + 1 } := by
  have hnext : Inv { r with accepted := r.accepted + 1 } :=
    ⟨hr.registered, hr.processed, hr.newPlayer, hr.home, hr.running, hr.events, hr.nodup,
      fun conn ht => Nat.lt_succ_of_lt (hr.fresh conn ht),
      fun conn h => (hr.newConn conn h).imp_left Nat.lt_succ_of_lt⟩
  refine hnext.withStage (hi ▸ rfl) rfl ?_
  intro conn h
  cases Option.some.inj h
  refine ⟨Nat.lt_succ_self _, ?_⟩
  by_contra ht
  exact Nat.lt_irrefl _ (hr.fresh _ ht)

/-- The player is announced. -/
theorem Inv.announce (hr : r.Inv) (hi : r.stage = .handshake conn) (hp : p ∉ r.announced) :
    Inv { r with stage := .spawnPlayer conn p, announced := r.announced ++ [p] } := by
  have hnone : r.stage.newPlayer = none := hi ▸ rfl
  have hgone : .disconnected p ∉ r.processed := fun hmem => hp (hr.processed p hmem)
  refine ⟨?_, ?_, ?_, ?_, ?_, ?_, hr.nodup, hr.fresh, ?_⟩
  · intro q
    have h := hr.registered q
    rw [hnone, or_iff_left (nofun : ¬ none = some q)] at h
    show q ∈ r.announced ++ [p] ∧ _ ↔ q ∈ r.playerConns ∨ some p = some q
    rw [List.mem_append, List.mem_singleton, ← h, Option.some.injEq]
    constructor
    · rintro ⟨hq | rfl, hgone⟩
      · exact .inl ⟨hq, hgone⟩
      · exact .inr rfl
    · rintro (⟨hq, hgone⟩ | rfl)
      · exact ⟨.inl hq, hgone⟩
      · exact ⟨.inr rfl, hgone⟩
  · intro q hq
    exact List.mem_append_left _ (hr.processed q hq)
  · intro q hq hmem
    cases Option.some.inj hq
    exact hp ((hr.registered p).mpr (.inl hmem)).1
  · rintro q conn' (hl | h)
    · exact hr.home q conn' (.inl hl)
    · exact nomatch h
  · intro q conn' ht
    exact .inl ((home_iff hnone).mp (hr.running q conn' ht))
  · intro q he
    obtain ⟨conn', h, ht⟩ := hr.events q he
    exact ⟨conn', .inl ((home_iff hnone).mp h), ht⟩
  · intro conn' h
    cases Option.some.inj h
    exact hr.newConn conn (hi ▸ rfl)

/-- The new player's task is spawned. -/
theorem Inv.spawn (hr : r.Inv) (hi : r.stage = .spawnPlayer conn p) :
    Inv { r with
      stage := .insertPlayer conn p
      playerTasks := Function.update r.playerTasks conn (some ⟨p, true⟩) } := by
  obtain ⟨hlt, hnone⟩ := hr.newConn conn (hi ▸ rfl)
  have hnew : r.stage.newPlayer = some p := hi ▸ rfl
  have hlook : ∀ {q conn'}, r.Home q conn' → r.playerConns.lookup q = some conn' := by
    rintro q conn' (hl | h)
    · exact hl
    · cases hi.symm.trans h
  -- the task is new, so nothing that was said of a task is said of this one
  have hkept : ∀ {conn' task}, r.playerTasks conn' = some task →
      Function.update r.playerTasks conn (some ⟨p, true⟩) conn' = some task := by
    intro conn' task ht
    rw [Function.update_of_ne, ht]
    rintro rfl
    exact nomatch hnone.symm.trans ht
  refine ⟨?_, hr.processed, ?_, ?_, ?_, ?_, hr.nodup, ?_, nofun⟩
  · intro q
    have h := hr.registered q
    rw [hnew] at h
    exact h
  · intro q h
    exact hr.newPlayer q (hnew.trans h)
  · rintro q conn' (hl | h)
    · obtain ⟨task, ht, rfl⟩ := Option.map_eq_some_iff.mp (hr.home q conn' (.inl hl))
      exact owner_eq_some (hkept ht)
    · cases h
      exact owner_eq_some (Function.update_self _ _ _)
  · intro q conn' ht
    change Function.update r.playerTasks conn _ conn' = _ at ht
    by_cases hne : conn' = conn
    · subst hne
      rw [Function.update_self] at ht
      cases ht
      exact .inr rfl
    · rw [Function.update_of_ne hne] at ht
      exact .inl (hlook (hr.running q conn' ht))
  · intro q he
    obtain ⟨conn', h, ht⟩ := hr.events q he
    exact ⟨conn', .inl (hlook h), hkept ht⟩
  · intro conn' ht
    change Function.update r.playerTasks conn _ conn' ≠ _ at ht
    by_cases hne : conn' = conn
    · exact hne ▸ hlt
    · rw [Function.update_of_ne hne] at ht
      exact hr.fresh conn' ht

/-- The new player is inserted. -/
theorem Inv.insert (hr : r.Inv) (hi : r.stage = .insertPlayer conn p) :
    Inv { r with stage := .idle, playerConns := r.playerConns.insert p conn } := by
  have hnew : r.stage.newPlayer = some p := hi ▸ rfl
  have hlook : ∀ q conn', (r.playerConns.insert p conn).lookup q = some conn' ↔
      r.Home q conn' := by
    intro q conn'
    by_cases hq : q = p
    · subst hq
      rw [AList.lookup_insert, Option.some.injEq]
      constructor
      · rintro rfl
        exact .inr hi
      · exact hr.home_unique (.inr hi)
    · rw [AList.lookup_insert_ne hq, Home, or_iff_left]
      intro h
      cases hi.symm.trans h
      exact hq rfl
  refine ⟨?_, hr.processed, nofun, ?_, ?_, ?_, hr.nodup, hr.fresh, nofun⟩
  · intro q
    have h := hr.registered q
    rw [hnew, Option.some.injEq] at h
    rw [h, AList.mem_insert, or_iff_left (nofun : ¬ Stage.newPlayer .idle = some q), or_comm,
      eq_comm]
  · rintro q conn' (hl | h)
    · exact hr.home q conn' ((hlook q conn').mp hl)
    · exact nomatch h
  · intro q conn' ht
    exact .inl ((hlook q conn').mpr (hr.running q conn' ht))
  · intro q he
    obtain ⟨conn', h, ht⟩ := hr.events q he
    exact ⟨conn', .inl ((hlook q conn').mpr h), ht⟩

/-- A task ends, or is told to. -/
theorem Inv.stop {running : Bool} (hr : r.Inv) (ht : r.playerTasks conn = some ⟨p, running⟩) :
    Inv { r with playerTasks := Function.update r.playerTasks conn (some ⟨p, false⟩) } := by
  refine ⟨hr.registered, hr.processed, hr.newPlayer, ?_, ?_, ?_, hr.nodup, ?_, ?_⟩
  · intro q conn' h
    exact owner_stop ht (hr.home q conn' h)
  · intro q conn' ht'
    change Function.update r.playerTasks conn _ conn' = _ at ht'
    by_cases hne : conn' = conn
    · subst hne
      rw [Function.update_self] at ht'
      cases ht'
    · rw [Function.update_of_ne hne] at ht'
      exact hr.running q conn' ht'
  · intro q he
    obtain ⟨conn', h, ht'⟩ := hr.events q he
    refine ⟨conn', h, ?_⟩
    by_cases hne : conn' = conn
    · subst hne
      cases ht.symm.trans ht'
      exact Function.update_self _ _ _
    · exact (Function.update_of_ne hne _ _).trans ht'
  · intro conn' ht'
    change Function.update r.playerTasks conn _ conn' ≠ _ at ht'
    by_cases hne : conn' = conn
    · subst hne
      exact hr.fresh conn' (by rw [ht]; exact nofun)
    · rw [Function.update_of_ne hne] at ht'
      exact hr.fresh conn' ht'
  · intro conn' h
    obtain ⟨hlt, hnone⟩ := hr.newConn conn' h
    refine ⟨hlt, ?_⟩
    have hne : conn' ≠ conn := by
      rintro rfl
      cases hnone.symm.trans ht
    exact (Function.update_of_ne hne _ _).trans hnone

/-- The task of a player sends `Disconnected` and ends. -/
theorem Inv.disconnect (hr : r.Inv) (ht : r.playerTasks conn = some ⟨p, true⟩) :
    Inv { r with
      playerTasks := Function.update r.playerTasks conn (some ⟨p, false⟩)
      playerEvents := r.playerEvents ++ [.disconnected p] } := by
  have hhome : r.Home p conn := hr.running p conn ht
  have hnew : .disconnected p ∉ r.playerEvents := by
    intro he
    obtain ⟨conn', h, ht'⟩ := hr.events p he
    cases hr.home_unique hhome h
    cases ht.symm.trans ht'
  have hs := hr.stop ht
  refine ⟨hs.registered, hs.processed, hs.newPlayer, hs.home, hs.running, ?_, ?_, hs.fresh,
    hs.newConn⟩
  · intro q he
    rcases List.mem_append.mp he with he | he
    · exact hs.events q he
    · cases List.mem_singleton.mp he
      exact ⟨conn, hhome, Function.update_self _ _ _⟩
  · rw [List.nodup_append]
    refine ⟨hr.nodup, List.nodup_singleton _, ?_⟩
    rintro e he _ hlast rfl
    exact hnew (List.mem_singleton.mp hlast ▸ he)

/-- The event of a registered player is processed. -/
theorem Inv.remove {rest : List PlayerEvent} (hr : r.Inv) (hi : r.stage = .idle)
    (he : r.playerEvents = .disconnected p :: rest) (hl : r.playerConns.lookup p = some conn)
    (ht : r.playerTasks conn = some ⟨p, false⟩) :
    Inv { r with
      playerConns := r.playerConns.erase p
      playerEvents := rest
      processed := r.processed ++ [.disconnected p] } := by
  have hnone : r.stage.newPlayer = none := hi ▸ rfl
  have hnodup := hr.nodup
  rw [he, List.nodup_cons] at hnodup
  refine ⟨?_, ?_, ?_, ?_, ?_, ?_, hnodup.2, hr.fresh, hr.newConn⟩
  · intro q
    have h := hr.registered q
    show q ∈ r.announced ∧ _ ∉ r.processed ++ [.disconnected p] ↔ _ ∨ r.stage.newPlayer = some q
    rw [hnone, or_iff_left (nofun : ¬ none = some q)] at h ⊢
    rw [AList.mem_erase, ← h, List.mem_append, List.mem_singleton, PlayerEvent.disconnected.injEq,
      not_or]
    constructor
    · rintro ⟨hq, hgone, hne⟩
      exact ⟨hne, hq, hgone⟩
    · rintro ⟨hne, hq, hgone⟩
      exact ⟨hq, hgone, hne⟩
  · intro q hq
    rcases List.mem_append.mp hq with hq | hq
    · exact hr.processed q hq
    · cases List.mem_singleton.mp hq
      exact ((hr.registered p).mpr (.inl (mem_of_lookup hl))).1
  · intro q h
    exact nomatch hnone.symm.trans h
  · rintro q conn' (hl' | h)
    · have hne : q ≠ p := by
        rintro rfl
        rw [AList.lookup_erase] at hl'
        exact nomatch hl'
      rw [AList.lookup_erase_ne hne] at hl'
      exact hr.home q conn' (.inl hl')
    · exact hr.home q conn' (.inr h)
  · intro q conn' ht'
    have hl' := (home_iff hnone).mp (hr.running q conn' ht')
    have hne : q ≠ p := by
      rintro rfl
      cases hl.symm.trans hl'
      cases ht.symm.trans ht'
    exact .inl ((AList.lookup_erase_ne hne).trans hl')
  · intro q hq
    have hne : q ≠ p := by
      rintro rfl
      exact hnodup.1 hq
    obtain ⟨conn', h, ht'⟩ := hr.events q (he ▸ List.mem_cons_of_mem _ hq)
    exact ⟨conn', .inl ((AList.lookup_erase_ne hne).trans ((home_iff hnone).mp h)), ht'⟩

/-- The first event of the channel is that of a registered player. -/
theorem Inv.lookup_of_event {rest : List PlayerEvent} (hr : r.Inv)
    (hn : r.stage.newPlayer = none) (he : r.playerEvents = .disconnected p :: rest) :
    ∃ conn, r.playerConns.lookup p = some conn ∧ r.playerTasks conn = some ⟨p, false⟩ := by
  obtain ⟨conn, h, ht⟩ := hr.events p (he ▸ List.mem_cons_self)
  exact ⟨conn, (home_iff hn).mp h, ht⟩

/-- **Every move keeps the invariant.** -/
theorem Inv.step (hr : r.Inv) (h : Step r r') : r'.Inv := by
  cases h with
  | accept hi => exact hr.accept hi
  | giveUp hi => exact hr.withStage (hi ▸ rfl) rfl nofun
  | announce hi hp => exact hr.announce hi hp
  | spawn hi => exact hr.spawn hi
  | insert hi => exact hr.insert hi
  | process hi he hl =>
      obtain ⟨conn', hl', ht⟩ := hr.lookup_of_event (hi ▸ rfl) he
      cases hl.symm.trans hl'
      rw [ht, Option.map_some]
      exact (hr.stop ht).remove hi he hl (Function.update_self _ _ _)
  | processUnknown hi he hl =>
      obtain ⟨conn', hl', -⟩ := hr.lookup_of_event (hi ▸ rfl) he
      cases hl.symm.trans hl'
  | disconnect ht => exact hr.disconnect ht
  | finish ht => exact hr.stop ht

/-- A connection keeps its player. -/
theorem Inv.owner_step (hr : r.Inv) (h : Step r r') (ho : r.owner conn = some p) :
    r'.owner conn = some p := by
  cases h with
  | accept _ | giveUp _ | announce _ _ | insert _ | processUnknown _ _ _ => exact ho
  | spawn hi =>
      obtain ⟨task, ht, rfl⟩ := Option.map_eq_some_iff.mp ho
      refine owner_eq_some ((Function.update_of_ne ?_ _ _).trans ht)
      rintro rfl
      cases (hr.newConn _ (hi ▸ rfl)).2.symm.trans ht
  | process hi he hl =>
      obtain ⟨conn', hl', ht⟩ := hr.lookup_of_event (hi ▸ rfl) he
      cases hl.symm.trans hl'
      rw [ht, Option.map_some]
      exact owner_stop ht ho
  | disconnect ht | finish ht => exact owner_stop ht ho

end Registry

/-! ## The loop moves the registry -/

variable {config : ProxyConfig} {s t : State} {a : Action} {p : Str} {conn : ConnId}

theorem registry_withPhase {phase : Phase} (h : phase.stage = s.phase.stage) :
    State.registry { s with phase := phase } = s.registry := by
  unfold State.registry
  rw [← h]

/-- A message that announces nobody. -/
theorem registry_send {message : ServerMessage} (h : announcement message = none) :
    (s.send message).registry = s.registry := by
  unfold State.registry
  rw [show (s.send message).sent = s.sent ++ [message] from rfl, List.filterMap_append,
    List.filterMap_cons_none h, List.filterMap_nil, List.append_nil]
  rfl

/-- The message that announces a player. -/
theorem registry_announce :
    State.registry { s.send (.playerConnected p) with phase := .spawnPlayer conn p } =
      { s.registry with
        stage := .spawnPlayer conn p
        announced := s.registry.announced ++ [p] } := by
  show Registry.mk _ _ ((s.sent ++ [_]).filterMap announcement) _ _ _ _ = _
  rw [List.filterMap_append]
  rfl

theorem mem_announced_iff : p ∈ s.registry.announced ↔ .playerConnected p ∈ s.sent := by
  show p ∈ s.sent.filterMap announcement ↔ _
  rw [List.mem_filterMap]
  constructor
  · rintro ⟨message, hm, h⟩
    cases message with
    | playerConnected q =>
        cases Option.some.inj h
        exact hm
    | allocation _ _ _ _ => exact nomatch h
    | requestAsset _ => exact nomatch h
  · intro hm
    exact ⟨_, hm, rfl⟩

/-- **Every step is a move of the registry, or leaves it as it is.** -/
theorem registry_step (hs : s.SendsAllocation) (h : (system config).step s a = some t) :
    t.registry = s.registry ∨ Registry.Step s.registry t.registry := by
  cases step_cases h with
  | close | clientMessage _ | writeMessage _ _ _ | loseMessage _ _ _ | controlFails
  | messageTaskEnds _ | notBound _ _ _ | playerDatagram _ | playerDatagramLost _ | datagram _ _
  | datagramLost _ => exact .inl rfl
  | requestAsset _ => exact .inl (registry_send rfl)
  | acceptConnection hp _ => exact .inr (.accept (congrArg Phase.stage hp))
  | handshakeFails hp | notAnnounced hp _ => exact .inr (.giveUp (congrArg Phase.stage hp))
  | handshakeDone hp hfresh _ =>
      rw [registry_announce]
      exact .inr (.announce (congrArg Phase.stage hp) (mem_announced_iff.not.mpr hfresh))
  | spawnPlayer hp => exact .inr (.spawn (congrArg Phase.stage hp))
  | insertPlayer hp => exact .inr (.insert (congrArg Phase.stage hp))
  | recvPlayerEvent hp he hl => exact .inr (.process (congrArg Phase.stage hp) he hl)
  | recvUnknownEvent hp he hl => exact .inr (.processUnknown (congrArg Phase.stage hp) he hl)
  | sendAllocation hp _ =>
      obtain ⟨id, allocatedEndpoint, assetsRoot, externalEndpoint, rfl⟩ := hs _ hp
      have hphase : State.registry { s with phase := .select } = s.registry :=
        registry_withPhase (congrArg Phase.stage hp).symm
      have hannounce : announcement
          (.allocation id allocatedEndpoint assetsRoot externalEndpoint) = none := rfl
      have hsend := registry_send (s := { s with phase := .select }) hannounce
      exact .inl (hsend.trans hphase)
  | bound hp _ _ | bindPanics hp _ _ | named hp _ | notNamed hp _ | allocationNotSent hp _
  | acceptStream hp | headerRead hp _ | headerRefused hp | headerFails hp | openFails hp
  | seesClosed hp _ | sendStopped hp | streamOpened hp | datagramPanics hp _ =>
      exact .inl (registry_withPhase (congrArg Phase.stage hp).symm)
  | playerDisconnects ht => exact .inr (.disconnect ht)
  | playerSeesClosed ht _ => exact .inr (.finish ht)

/-! ## Over every run -/

/-- The player for whom the task on a connection was made. -/
def State.owner (s : State) (conn : ConnId) : Option Str :=
  (s.playerTasks conn).map (·.playerId)

/-- The registry is in order, and all that went to a player went to its own
    connection. -/
structure Routed (s : State) : Prop where
  sendsAllocation : s.SendsAllocation
  registry : s.registry.Inv
  openStream : ∀ kind p conn, s.phase = .openStream kind p conn → s.owner conn = some p
  opened : ∀ kind p conn, (kind, p, conn) ∈ s.opened → s.owner conn = some p
  toPlayer : ∀ p conn data, (p, conn, data) ∈ s.toPlayer → s.owner conn = some p
  fromPlayer : ∀ p conn data, (p, conn, data) ∈ s.fromPlayer → s.owner conn = some p

theorem Routed.init : Routed {} where
  sendsAllocation _ hm := nomatch hm
  registry := Registry.Inv.init
  openStream _ _ _ hp := nomatch hp
  opened _ _ _ hmem := absurd hmem List.not_mem_nil
  toPlayer _ _ _ hmem := absurd hmem List.not_mem_nil
  fromPlayer _ _ _ hmem := absurd hmem List.not_mem_nil

/-- A connection that is registered for a player was made for it. -/
theorem Routed.owner_of_lookup (hs : Routed s) (hl : s.playerConns.lookup p = some conn) :
    s.owner conn = some p :=
  hs.registry.home p conn (.inl hl)

/-- What was said of the players' connections before a step holds after it, where the
    step adds nothing to the histories. -/
theorem Routed.frame (hs : Routed s) (hsends : t.SendsAllocation) (hregistry : t.registry.Inv)
    (howner : ∀ {conn p}, s.owner conn = some p → t.owner conn = some p)
    (hphase : ∀ kind p conn, t.phase = .openStream kind p conn → s.phase = t.phase)
    (hopened : t.opened = s.opened) (htoPlayer : t.toPlayer = s.toPlayer)
    (hfromPlayer : t.fromPlayer = s.fromPlayer) : Routed t where
  sendsAllocation := hsends
  registry := hregistry
  openStream kind p conn hp := howner (hs.openStream kind p conn ((hphase kind p conn hp).trans hp))
  opened kind p conn hmem := howner (hs.opened kind p conn (hopened ▸ hmem))
  toPlayer p conn data hmem := howner (hs.toPlayer p conn data (htoPlayer ▸ hmem))
  fromPlayer p conn data hmem := howner (hs.fromPlayer p conn data (hfromPlayer ▸ hmem))

theorem Routed.step (hs : Routed s) (h : (system config).step s a = some t) : Routed t := by
  have hsends := sendsAllocation_step hs.sendsAllocation h
  have hmove := registry_step hs.sendsAllocation h
  have hregistry : t.registry.Inv := by
    rcases hmove with heq | hmove
    · exact heq ▸ hs.registry
    · exact hs.registry.step hmove
  have howner : ∀ {conn p}, s.owner conn = some p → t.owner conn = some p := by
    intro conn p ho
    rcases hmove with heq | hmove
    · exact (congrArg (fun r => r.owner conn) heq).trans ho
    · exact hs.registry.owner_step hmove ho
  have hkept := hs.frame hsends hregistry howner
  cases step_cases h with
  | close | clientMessage _ | writeMessage _ _ _ | loseMessage _ _ _ | controlFails
  | messageTaskEnds _ | requestAsset _ | recvPlayerEvent _ _ _ | recvUnknownEvent _ _ _
  | notBound _ _ _ | datagramLost _ | playerDisconnects _ | playerSeesClosed _ _ =>
      exact hkept (fun _ _ _ _ => rfl) rfl rfl rfl
  | acceptConnection _ _ | handshakeFails _ | handshakeDone _ _ _ | notAnnounced _ _
  | spawnPlayer _ | insertPlayer _ | bound _ _ _ | bindPanics _ _ _ | named _ _ | notNamed _ _
  | sendAllocation _ _ | allocationNotSent _ _ | acceptStream _ | headerRefused _ | headerFails _
  | openFails _ | datagramPanics _ _ | seesClosed _ _ | sendStopped _ =>
      exact hkept nofun rfl rfl rfl
  | headerRead hp hh =>
      rename_i kind header p conn
      have hl := (handleHeader_eq_ok_iff.mp hh).2
      refine ⟨hsends, hregistry, ?_, hs.opened, hs.toPlayer, hs.fromPlayer⟩
      intro kind' p' conn' hp'
      cases hp'
      exact hs.owner_of_lookup hl
  | streamOpened hp =>
      rename_i kind p conn
      refine ⟨hsends, hregistry, nofun, ?_, hs.toPlayer, hs.fromPlayer⟩
      intro kind' p' conn' hmem
      rcases List.mem_append.mp hmem with hmem | hmem
      · exact hs.opened kind' p' conn' hmem
      · cases List.mem_singleton.mp hmem
        exact hs.openStream kind p conn hp
  | datagram hp hd =>
      rename_i data out
      refine ⟨hsends, hregistry, hs.openStream, hs.opened, ?_, hs.fromPlayer⟩
      intro p' conn' data' hmem
      rcases List.mem_append.mp hmem with hmem | hmem
      · exact hs.toPlayer p' conn' data' hmem
      · cases List.mem_singleton.mp hmem
        exact hs.owner_of_lookup (handleDatagram_eq_ok_iff.mp hd).2
  | playerDatagram ht | playerDatagramLost ht =>
      rename_i conn data p
      refine ⟨hsends, hregistry, hs.openStream, hs.opened, hs.toPlayer, ?_⟩
      intro p' conn' data' hmem
      rcases List.mem_append.mp hmem with hmem | hmem
      · exact hs.fromPlayer p' conn' data' hmem
      · cases List.mem_singleton.mp hmem
        exact Registry.owner_eq_some (r := s.registry) ht

theorem routed_of_exec {acts : List Action} (h : (system config).exec {} acts = some s) :
    Routed s :=
  exec_invariant Routed.step Routed.init h

/-- A player is served: it is announced, and its `Disconnected` is not processed. -/
def Served (s : State) (p : Str) : Prop :=
  .playerConnected p ∈ s.sent ∧ .disconnected p ∉ s.processed

theorem Routed.mem_playerConns_iff (hs : Routed s) (hn : s.phase.stage.newPlayer = none) :
    p ∈ s.playerConns ↔ Served s p := by
  have h : p ∈ s.registry.announced ∧ .disconnected p ∉ s.processed ↔
      p ∈ s.playerConns ∨ s.phase.stage.newPlayer = some p := hs.registry.registered p
  rw [mem_announced_iff, hn, or_iff_left (nofun : ¬ none = some p)] at h
  exact h.symm

/-- A player who is served is found, under its own connection. -/
theorem Routed.lookup_of_served (hs : Routed s) (hn : s.phase.stage.newPlayer = none)
    (hp : Served s p) : ∃ conn, s.playerConns.lookup p = some conn ∧ s.owner conn = some p := by
  obtain ⟨conn, hl⟩ := Option.isSome_iff_exists.mp
    (AList.lookup_isSome.mpr ((hs.mem_playerConns_iff hn).mpr hp))
  exact ⟨conn, hl, hs.owner_of_lookup hl⟩

/-- **The registry is exact, and routes to a player's own connection.**  Between two
    iterations the registered players are those who were announced and whose
    `Disconnected` was not processed; the next event to be processed is that of a
    registered player, and no player whose event was processed is registered.  A
    stream or a datagram for a player who is served is never refused: it goes to the
    connection whose task was made for that player, and so did all before it. -/
theorem registry_exact {acts : List Action} (h : (system config).exec {} acts = some s) :
    (s.phase = .select →
      ∀ p, p ∈ s.playerConns ↔ .playerConnected p ∈ s.sent ∧ .disconnected p ∉ s.processed) ∧
    (s.phase = .select → ∀ p rest, s.playerEvents = .disconnected p :: rest →
      p ∈ s.playerConns ∧ .disconnected p ∉ s.processed) ∧
    (∀ p, .disconnected p ∈ s.processed → p ∉ s.playerConns) ∧
    (∀ p, .playerConnected p ∈ s.sent → .disconnected p ∉ s.processed →
      (∀ kind, s.phase = .readHeader kind → ∃ conn, s.owner conn = some p ∧
        handleHeader s kind (.openPlayerStream p) = .ok (some (p, conn))) ∧
      (s.phase = .select → ∀ datagram data,
        dropPrefix (deserialize DatagramInfo.codec) datagram = .ok (⟨p⟩, data) →
        ∃ conn, s.owner conn = some p ∧ handleDatagram s datagram = .ok (p, conn, data))) ∧
    (∀ kind p conn, (kind, p, conn) ∈ s.opened → s.owner conn = some p) ∧
    ∀ p conn data, (p, conn, data) ∈ s.toPlayer → s.owner conn = some p := by
  have hs : Routed s := routed_of_exec h
  have hidle : s.phase = .select → s.phase.stage.newPlayer = none := by
    intro hp
    rw [hp]
    rfl
  have hgone : ∀ p, p ∈ s.playerConns → .disconnected p ∉ s.processed :=
    fun p hmem => ((hs.registry.registered p).mpr (.inl hmem)).2
  refine ⟨?_, ?_, ?_, ?_, hs.opened, hs.toPlayer⟩
  · intro hp p
    exact hs.mem_playerConns_iff (hidle hp)
  · intro hp p rest he
    obtain ⟨conn, hl, -⟩ := hs.registry.lookup_of_event (hidle hp) he
    have hmem : p ∈ s.playerConns := Registry.mem_of_lookup (r := s.registry) hl
    exact ⟨hmem, hgone p hmem⟩
  · intro p hprocessed hmem
    exact hgone p hmem hprocessed
  · intro p hsent hserved
    constructor
    · intro kind hp
      obtain ⟨conn, hl, ho⟩ := hs.lookup_of_served (by rw [hp]; rfl) ⟨hsent, hserved⟩
      exact ⟨conn, ho, handleHeader_eq_ok_iff.mpr ⟨rfl, hl⟩⟩
    · intro hp datagram data hdrop
      obtain ⟨conn, hl, ho⟩ := hs.lookup_of_served (hidle hp) ⟨hsent, hserved⟩
      exact ⟨conn, ho, handleDatagram_eq_ok_iff.mpr ⟨hdrop, hl⟩⟩

/-- A configuration, and an endpoint that is bound under it. -/
def localConfig : ProxyConfig :=
  ⟨0, "localhost", "localhost:80", .v4 0x7F000001 7000⟩

def localEndpoint : Endpoint := ⟨some (.v4 0x7F000001 9000)⟩

/-- A player who is gone before the loop has inserted it. -/
def goneEarly : List Action :=
  [.clientMessage (.allocateEndpoint "game"), .recvClientMessage (.ok localEndpoint),
    .setAllocatedEndpoint, .sendAllocation, .acceptConnection, .handshakeDone Str.a, .spawnPlayer,
    .playerDisconnects 0, .insertPlayer]

theorem registry_exact_goneEarly :
    ∃ s, (system localConfig).exec {} goneEarly = some s ∧
      s.playerEvents = [.disconnected Str.a] ∧ Str.a ∈ s.playerConns := by
  have hrun : (system localConfig).exec {} goneEarly = some _ := rfl
  exact ⟨_, rfl, rfl, ((registry_exact hrun).2.1 rfl Str.a [] rfl).1⟩

end AmbientProxy.ProxyServer
