import AmbientProxy.AllocationFailures

/-! # Port selection — the arithmetic of a range of ports

    `ProxyServer::create_proxy_endpoint` in `src/server.rs` picks its ports with three
    operations on `u16`, before the loop and in it:

        ports_len = end - start + 1
        port      = start + hash % ports_len

    An operation that does not fit PANICS in a debug build; in a release build the
    sum and the difference wrap around, and only a remainder by zero panics.  `Trace`
    keeps the operations, so that one that wrapped is seen.

    * `selects_iff` — every operation fits, every port is in the range, and the first
      that binds is returned, exactly for ranges that are neither empty nor full;
    * `allocate_panics_of_fullRange` — for the full range an allocation panics. -/

namespace AmbientProxy.ProxyServer

/-! ## `u16`, in two builds -/

inductive Build where
  | debug
  | release
  deriving DecidableEq

/-- An operation on two `u16` values. -/
inductive Operation where
  | sub (a b : UInt16)
  | add (a b : UInt16)
  | rem (a b : UInt16)
  deriving DecidableEq

/-- Its exact result is a `u16`. -/
def Operation.Fits : Operation → Prop
  | .sub a b => b ≤ a
  | .add a b => a.toNat + b.toNat < UInt16.size
  | .rem _ b => b ≠ 0

instance : DecidablePred Operation.Fits
  | .sub a b => inferInstanceAs (Decidable (b ≤ a))
  | .add a b => inferInstanceAs (Decidable (a.toNat + b.toNat < UInt16.size))
  | .rem _ b => inferInstanceAs (Decidable (b ≠ 0))

/-- Its result, modulo `2 ^ 16`. -/
def Operation.value : Operation → UInt16
  | .sub a b => a - b
  | .add a b => a + b
  | .rem a b => a % b

/-- What the operation gives, or `none` where it panics. -/
def Operation.eval (build : Build) (op : Operation) : Option UInt16 :=
  if op.Fits then some op.value
  else match build, op with
    | .release, .sub _ _ => some op.value
    | .release, .add _ _ => some op.value
    | _, _ => none

theorem Operation.eval_of_fits {build : Build} {op : Operation} (h : op.Fits) :
    op.eval build = some op.value := by
  unfold Operation.eval
  rw [if_pos h]

/-! ## The selection of a port -/

/-- `RangeInclusive<u16>`. -/
structure RangeInclusive where
  first : UInt16
  last : UInt16
  deriving DecidableEq

/-- `contains`. -/
def RangeInclusive.Contains (ports : RangeInclusive) (port : UInt16) : Prop :=
  ports.first ≤ port ∧ port ≤ ports.last

instance (ports : RangeInclusive) (port : UInt16) : Decidable (ports.Contains port) :=
  inferInstanceAs (Decidable (_ ∧ _))

/-- The two settings; nothing relates them. -/
structure Settings where
  proxyPortFirst : UInt16
  proxyPortLast : UInt16

/-- `proxy_port_range`. -/
def Settings.proxyPortRange (settings : Settings) : RangeInclusive :=
  ⟨settings.proxyPortFirst, settings.proxyPortLast⟩

/-- What `create_proxy_endpoint` reads of the configuration, and whether rustls accepts
    the certificate and its key. -/
structure EndpointConfig where
  bindAddr : IpAddr
  ports : RangeInclusive
  certified : Bool

/-- A `Hasher`, after the address and the project id went into it. -/
structure Hasher (H : Type) where
  seed : IpAddr → String → H
  /-- `attempt.hash(&mut allocation_seed)` -/
  hash : H → Int32 → H
  finish : H → UInt64

/-- Why `create_proxy_endpoint` returns `Err`. -/
inductive CreateError where
  | certificate
  /-- `Failed to bind` -/
  | failedToBind
  deriving DecidableEq

/-- How `create_proxy_endpoint` ends. -/
inductive Creation where
  | created (endpoint : Endpoint)
  | failed (error : CreateError)
  | panicked
  deriving DecidableEq

/-- What it did. -/
structure Trace where
  operations : List Operation := []
  tried : List UInt16 := []
  deriving DecidableEq

/-- One operation, then `next` with its result. -/
def perform (build : Build) (op : Operation) (trace : Trace)
    (next : UInt16 → Trace → Trace × Creation) : Trace × Creation :=
  let trace := { trace with operations := trace.operations ++ [op] }
  match op.eval build with
  | none => (trace, .panicked)
  | some value => next value trace

/-- `BIND_ATTEMPTS`. -/
def BIND_ATTEMPTS : Nat := 10

/-- The attempts that are left, from `attempt` on.  `bind` says which of them
    succeed. -/
def tryPorts {H : Type} (build : Build) (hasher : Hasher H) (config : EndpointConfig)
    (bind : Nat → SocketAddr → Option Endpoint) (portsLen : UInt16) :
    Nat → Nat → H → Trace → Trace × Creation
  | 0, _, _, trace => (trace, .failed .failedToBind)
  | left + 1, attempt, seed, trace =>
      let seed := hasher.hash seed (Int32.ofNat attempt)
      perform build (.rem (hasher.finish seed).toUInt16 portsLen) trace fun offset trace =>
        perform build (.add config.ports.first offset) trace fun port trace =>
          -- `debug_assert!`
          if build = .debug ∧ ¬ config.ports.Contains port then (trace, .panicked)
          else
            let trace := { trace with tried := trace.tried ++ [port] }
            match bind attempt (.new config.bindAddr port) with
            | some endpoint => (trace, .created endpoint)
            | none =>
                tryPorts build hasher config bind portsLen left (attempt + 1) seed trace

/-- `create_proxy_endpoint`. -/
def createProxyEndpoint {H : Type} (build : Build) (hasher : Hasher H) (config : EndpointConfig)
    (bind : Nat → SocketAddr → Option Endpoint) (seed : H) : Trace × Creation :=
  if config.certified = false then ({}, .failed .certificate)
  else
    perform build (.sub config.ports.last config.ports.first) {} fun difference trace =>
      perform build (.add difference 1) trace fun portsLen trace =>
        tryPorts build hasher config bind portsLen BIND_ATTEMPTS 0 seed trace

/-- What `handle_allocate_message` sees of it. -/
def Creation.outcome : Creation → Outcome Endpoint
  | .created endpoint => .ok endpoint
  | .failed _ => .err (.other .failedToCreateProxyEndpoint)
  | .panicked => .panic

/-- `handle_allocate_message`, with the selection of the port. -/
def allocate {H : Type} (build : Build) (hasher : Hasher H) (endpointConfig : EndpointConfig)
    (bind : Nat → SocketAddr → Option Endpoint) (config : ProxyConfig) (projectId : String)
    (s : State) : State × Outcome ServerMessage :=
  let seed := hasher.seed config.externalEndpoint.ip projectId
  handleAllocateMessage config s
    (createProxyEndpoint build hasher endpointConfig bind seed).2.outcome

/-! ## Ranges that work -/

/-- Neither empty nor all of `u16`: the number of its ports is a `u16` other than 0. -/
def RangeInclusive.Usable (ports : RangeInclusive) : Prop :=
  ports.first ≤ ports.last ∧ ¬ (ports.first = 0 ∧ ports.last = 65535)

/-- `ports_len`, modulo `2 ^ 16`. -/
def RangeInclusive.len (ports : RangeInclusive) : UInt16 := ports.last - ports.first + 1

variable {build : Build} {H : Type} {hasher : Hasher H} {config : EndpointConfig}
  {bind : Nat → SocketAddr → Option Endpoint} {ports : RangeInclusive} {portsLen : UInt16}
  {seed : H} {trace : Trace} {r : Trace × Creation} {op : Operation}

theorem RangeInclusive.usable_iff :
    ports.Usable ↔ ports.first ≤ ports.last ∧
      (Operation.add (ports.last - ports.first) 1).Fits := by
  refine and_congr_right fun hle => ?_
  show _ ↔ (ports.last - ports.first).toNat + (1 : UInt16).toNat < UInt16.size
  rw [UInt16.toNat_sub_of_le _ _ hle, ← UInt16.toNat_inj, ← UInt16.toNat_inj]
  have hone : (1 : UInt16).toNat = 1 := rfl
  have hzero : (0 : UInt16).toNat = 0 := rfl
  have hmax : (65535 : UInt16).toNat = 65535 := rfl
  have hsize : UInt16.size = 65536 := rfl
  have hlast := ports.last.toNat_lt
  have hfirst := UInt16.le_iff_toNat_le.mp hle
  omega

/-- The number of ports. -/
theorem RangeInclusive.Usable.toNat_len (h : ports.Usable) :
    ports.len.toNat = ports.last.toNat - ports.first.toNat + 1 := by
  obtain ⟨hle, hfits⟩ := usable_iff.mp h
  have hfits' : (ports.last - ports.first).toNat + (1 : UInt16).toNat < 2 ^ 16 := hfits
  rw [len, UInt16.toNat_add, Nat.mod_eq_of_lt hfits', UInt16.toNat_sub_of_le _ _ hle]
  rfl

theorem RangeInclusive.Usable.rem_fits (h : ports.Usable) (hash : UInt16) :
    (Operation.rem hash ports.len).Fits := by
  intro hzero
  have hlen := h.toNat_len
  rw [hzero] at hlen
  exact nomatch hlen

/-- Every hash picks a port of the range. -/
theorem RangeInclusive.Usable.pick (h : ports.Usable) (hash : UInt16) :
    (Operation.add ports.first (hash % ports.len)).Fits ∧
      ports.Contains (ports.first + hash % ports.len) := by
  have hle := UInt16.le_iff_toNat_le.mp h.1
  have hlast := ports.last.toNat_lt
  have hsize : UInt16.size = 2 ^ 16 := rfl
  have hoffset : (hash % ports.len).toNat ≤
      ports.last.toNat - ports.first.toNat := by
    rw [UInt16.toNat_mod, h.toNat_len]
    exact Nat.le_of_lt_succ (Nat.mod_lt _ (Nat.succ_pos _))
  have hfits : ports.first.toNat + (hash % ports.len).toNat < 2 ^ 16 := by
    omega
  refine ⟨hfits, ?_, ?_⟩
  · rw [UInt16.le_iff_toNat_le, UInt16.toNat_add, Nat.mod_eq_of_lt hfits]
    exact Nat.le_add_right _ _
  · rw [UInt16.le_iff_toNat_le, UInt16.toNat_add, Nat.mod_eq_of_lt hfits]
    omega

/-! ## What a selection does -/

theorem perform_of_eval {next : UInt16 → Trace → Trace × Creation} {value : UInt16}
    (h : op.eval build = some value) :
    perform build op trace next =
      next value { trace with operations := trace.operations ++ [op] } := by
  rw [perform, h]

theorem perform_of_fits {next : UInt16 → Trace → Trace × Creation} (h : op.Fits) :
    perform build op trace next =
      next op.value { trace with operations := trace.operations ++ [op] } :=
  perform_of_eval (Operation.eval_of_fits h)

theorem perform_panics {next : UInt16 → Trace → Trace × Creation} (h : op.eval build = none) :
    (perform build op trace next).2 = .panicked := by
  rw [perform, h]

/-- The two operations of an attempt. -/
theorem perform_pick {next : UInt16 → Trace → Trace × Creation} (h : ports.Usable)
    (hash : UInt16) :
    (perform build (.rem hash ports.len) trace fun offset trace =>
        perform build (.add ports.first offset) trace next) =
      next (ports.first + hash % ports.len)
        { trace with
          operations := trace.operations ++ [.rem hash ports.len] ++
            [.add ports.first (hash % ports.len)] } := by
  rw [perform_of_fits (h.rem_fits hash)]
  exact perform_of_fits (h.pick hash).1

/-- What is performed stays in the trace. -/
theorem operations_perform {next : UInt16 → Trace → Trace × Creation}
    (hnext : ∀ value trace, trace.operations ⊆ (next value trace).1.operations) :
    trace.operations ++ [op] ⊆ (perform build op trace next).1.operations := by
  rw [perform]
  cases op.eval build with
  | none => exact List.Subset.refl _
  | some value => exact hnext value { trace with operations := trace.operations ++ [op] }

theorem operations_tryPorts (left : Nat) : ∀ (attempt : Nat) (seed : H) (trace : Trace),
    trace.operations ⊆
      (tryPorts build hasher config bind portsLen left attempt seed trace).1.operations := by
  induction left with
  | zero => exact fun _ _ _ => List.Subset.refl _
  | succ left ih =>
      intro attempt seed trace
      refine List.Subset.trans (List.subset_append_left _ _) (operations_perform ?_)
      intro offset trace
      refine List.Subset.trans (List.subset_append_left _ _) (operations_perform ?_)
      intro port trace
      dsimp only
      split
      · exact List.Subset.refl _
      · split
        · exact List.Subset.refl _
        · exact ih _ _ { trace with tried := trace.tried ++ [port] }

/-- No attempt at the ports `tried` succeeds. -/
def NoneBinds (config : EndpointConfig) (bind : Nat → SocketAddr → Option Endpoint)
    (tried : List UInt16) : Prop :=
  ∀ i port, tried[i]? = some port → bind i (.new config.bindAddr port) = none

theorem NoneBinds.snoc {tried : List UInt16} {port : UInt16} (h : NoneBinds config bind tried)
    (hport : bind tried.length (.new config.bindAddr port) = none) :
    NoneBinds config bind (tried ++ [port]) := by
  intro i port' hi
  rw [List.getElem?_append] at hi
  split at hi
  · exact h i port' hi
  · rename_i hge
    obtain ⟨hlt, hport'⟩ := List.getElem?_eq_some_iff.mp hi
    rw [List.length_singleton] at hlt
    have hlen : i = tried.length := by omega
    rw [hlen]
    rw [List.getElem_singleton] at hport'
    exact hport' ▸ hport

/-- What a selection should be, from its trace and its end. -/
structure Selects (config : EndpointConfig) (bind : Nat → SocketAddr → Option Endpoint)
    (r : Trace × Creation) : Prop where
  fits : ∀ op ∈ r.1.operations, op.Fits
  noPanic : r.2 ≠ .panicked
  inRange : ∀ port ∈ r.1.tried, config.ports.Contains port
  atMost : r.1.tried.length ≤ BIND_ATTEMPTS
  /-- The first port that binds is returned. -/
  created : ∀ endpoint, r.2 = .created endpoint →
    ∃ earlier port, r.1.tried = earlier ++ [port] ∧ NoneBinds config bind earlier ∧
      bind earlier.length (.new config.bindAddr port) = some endpoint
  failed : ∀ error, r.2 = .failed error → NoneBinds config bind r.1.tried ∧
    (config.certified = true → config.ports.first ≤ config.ports.last →
      r.1.tried.length = BIND_ATTEMPTS)
  empty : config.ports.last < config.ports.first →
    (∃ error, r.2 = .failed error) ∧ r.1.tried = []

/-- The attempts before `attempt`. -/
structure Attempted (config : EndpointConfig) (bind : Nat → SocketAddr → Option Endpoint)
    (attempt : Nat) (trace : Trace) : Prop where
  fits : ∀ op ∈ trace.operations, op.Fits
  inRange : ∀ port ∈ trace.tried, config.ports.Contains port
  noneBinds : NoneBinds config bind trace.tried
  length : trace.tried.length = attempt

/-- One attempt at a port of a usable range. -/
theorem exists_tryPorts_succ (build : Build) (hasher : Hasher H)
    (bind : Nat → SocketAddr → Option Endpoint) (left attempt : Nat) (seed : H) (trace : Trace)
    (husable : config.ports.Usable) :
    ∃ port trace', config.ports.Contains port ∧ trace'.tried = trace.tried ++ [port] ∧
      (∀ op ∈ trace'.operations, op ∈ trace.operations ∨ op.Fits) ∧
      (∀ endpoint, bind attempt (.new config.bindAddr port) = some endpoint →
        tryPorts build hasher config bind config.ports.len (left + 1) attempt seed trace =
          (trace', .created endpoint)) ∧
      (bind attempt (.new config.bindAddr port) = none →
        tryPorts build hasher config bind config.ports.len (left + 1) attempt seed trace =
          tryPorts build hasher config bind config.ports.len left (attempt + 1)
            (hasher.hash seed (Int32.ofNat attempt)) trace') := by
  obtain ⟨hash, hhash⟩ : ∃ hash : UInt16,
    hash = (hasher.finish (hasher.hash seed (Int32.ofNat attempt))).toUInt16 := ⟨_, rfl⟩
  have hrem := husable.rem_fits hash
  obtain ⟨hadd, hin⟩ := husable.pick hash
  refine ⟨_, ⟨trace.operations ++ [.rem hash config.ports.len] ++
    [.add config.ports.first (hash % config.ports.len)], _⟩, hin, rfl, ?_, ?_, ?_⟩
  · intro op hop
    rcases List.mem_append.mp hop with hop | hop
    · rcases List.mem_append.mp hop with hop | hop
      · exact .inl hop
      · cases List.mem_singleton.mp hop
        exact .inr hrem
    · cases List.mem_singleton.mp hop
      exact .inr hadd
  · intro endpoint hbind
    rw [tryPorts, ← hhash, perform_pick husable]
    dsimp only
    rw [if_neg fun h => h.2 hin, hbind]
  · intro hbind
    rw [tryPorts, ← hhash, perform_pick husable]
    dsimp only
    rw [if_neg fun h => h.2 hin, hbind]

/-- **The loop**: what the attempts so far keep, its end has. -/
theorem selects_tryPorts (husable : config.ports.Usable) (left : Nat) :
    ∀ {attempt : Nat} {seed : H} {trace : Trace}, Attempted config bind attempt trace →
      attempt + left = BIND_ATTEMPTS →
      Selects config bind (tryPorts build hasher config bind
        config.ports.len left attempt seed trace) := by
  have hnonempty : ¬ config.ports.last < config.ports.first := UInt16.not_lt.mpr husable.1
  induction left with
  | zero =>
      intro attempt seed trace hs hleft
      have hlength : trace.tried.length = BIND_ATTEMPTS := hs.length.trans hleft
      exact ⟨hs.fits, nofun, hs.inRange, Nat.le_of_eq hlength, nofun,
        fun _ _ => ⟨hs.noneBinds, fun _ _ => hlength⟩, fun h => absurd h hnonempty⟩
  | succ left ih =>
      intro attempt seed trace hs hleft
      obtain ⟨port, trace', hin, htried, hops, hbound, hnext⟩ :=
        exists_tryPorts_succ build hasher bind left attempt seed trace husable
      have hfits : ∀ op ∈ trace'.operations, op.Fits := fun op hop =>
        (hops op hop).elim (hs.fits op) id
      have hinRange : ∀ port ∈ trace'.tried, config.ports.Contains port := by
        rw [htried]
        exact List.forall_mem_append.mpr ⟨hs.inRange, List.forall_mem_singleton.mpr hin⟩
      have hlength : trace'.tried.length = attempt + 1 := by
        rw [htried, List.length_append, hs.length]
        rfl
      cases hbind : bind attempt (.new config.bindAddr port) with
      | none =>
          rw [hnext hbind]
          refine ih ⟨hfits, hinRange, ?_, hlength⟩ (by omega)
          rw [htried]
          exact hs.noneBinds.snoc (hs.length ▸ hbind)
      | some endpoint =>
          rw [hbound endpoint hbind]
          refine ⟨hfits, nofun, hinRange, ?_, ?_, nofun, fun h => absurd h hnonempty⟩
          · show trace'.tried.length ≤ BIND_ATTEMPTS
            omega
          · intro endpoint' hcreated
            cases hcreated
            exact ⟨trace.tried, port, htried, hs.noneBinds, hs.length ▸ hbind⟩

/-- **All of it**, for a usable range. -/
theorem selects_createProxyEndpoint (build : Build) (hasher : Hasher H)
    (bind : Nat → SocketAddr → Option Endpoint) (seed : H) (husable : config.ports.Usable)
    (hcertified : config.certified = true) :
    Selects config bind (createProxyEndpoint build hasher config bind seed) := by
  obtain ⟨hle, hadd⟩ := RangeInclusive.usable_iff.mp husable
  have hsub : (Operation.sub config.ports.last config.ports.first).Fits := hle
  rw [createProxyEndpoint, if_neg (ne_false_of_eq_true hcertified), perform_of_fits hsub]
  have hops : ∀ op ∈ [Operation.sub config.ports.last config.ports.first,
      .add (config.ports.last - config.ports.first) 1], op.Fits :=
    List.forall_mem_cons.mpr ⟨hsub, List.forall_mem_singleton.mpr hadd⟩
  exact (congrArg _ (perform_of_fits hadd)).mpr
    (selects_tryPorts husable BIND_ATTEMPTS ⟨hops, nofun, nofun, rfl⟩ rfl)

/-- Outside usable ranges, the length of the range does not fit. -/
theorem exists_not_fits (config : EndpointConfig) (build : Build) (hasher : Hasher H)
    (bind : Nat → SocketAddr → Option Endpoint) (seed : H)
    (hcertified : config.certified = true) (h : ¬ config.ports.Usable) :
    ∃ op ∈ (createProxyEndpoint build hasher config bind seed).1.operations, ¬ op.Fits := by
  have hnext : ∀ portsLen trace, trace.operations ⊆
      (tryPorts build hasher config bind portsLen BIND_ATTEMPTS 0 seed trace).1.operations :=
    fun _ trace => operations_tryPorts BIND_ATTEMPTS 0 seed trace
  rw [createProxyEndpoint, if_neg (ne_false_of_eq_true hcertified)]
  by_cases hle : config.ports.first ≤ config.ports.last
  · have hsub : (Operation.sub config.ports.last config.ports.first).Fits := hle
    refine ⟨.add (config.ports.last - config.ports.first) 1, ?_, ?_⟩
    · rw [perform_of_fits hsub]
      exact operations_perform hnext (List.mem_append_right _ (List.mem_singleton.mpr rfl))
    · intro hfits
      exact h (RangeInclusive.usable_iff.mpr ⟨hle, hfits⟩)
  · refine ⟨.sub config.ports.last config.ports.first, ?_, hle⟩
    refine operations_perform ?_ (List.mem_append_right _ (List.mem_singleton.mpr rfl))
    intro difference trace
    exact List.Subset.trans (List.subset_append_left _ _) (operations_perform hnext)

/-- **PORT SELECTION STAYS IN RANGE**, in either build, with every hash and every
    pattern of failures: exactly where rustls refuses the certificate, or the range is
    neither empty nor full. -/
theorem selects_iff (build : Build) (hasher : Hasher H) (settings : Settings)
    (bindAddr : IpAddr) (certified : Bool) (bind : Nat → SocketAddr → Option Endpoint)
    (ip : IpAddr) (projectId : String) :
    Selects ⟨bindAddr, settings.proxyPortRange, certified⟩ bind
        (createProxyEndpoint build hasher ⟨bindAddr, settings.proxyPortRange, certified⟩ bind
          (hasher.seed ip projectId)) ↔
      certified = false ∨
        (settings.proxyPortFirst ≤ settings.proxyPortLast ∧
          ¬ (settings.proxyPortFirst = 0 ∧ settings.proxyPortLast = 65535)) := by
  cases certified with
  | false =>
      refine iff_of_true ?_ (.inl rfl)
      exact ⟨nofun, nofun, nofun, Nat.zero_le _, nofun, fun _ _ => ⟨nofun, nofun⟩,
        fun _ => ⟨⟨.certificate, rfl⟩, rfl⟩⟩
  | true =>
      constructor
      · intro hselects
        by_contra hnot
        obtain ⟨op, hop, hfits⟩ :=
          exists_not_fits ⟨bindAddr, settings.proxyPortRange, true⟩ build hasher bind
            (hasher.seed ip projectId) rfl fun h => hnot (.inr h)
        exact hfits (hselects.fits op hop)
      · rintro (hfalse | husable)
        · exact nomatch hfalse
        · exact selects_createProxyEndpoint build hasher bind (hasher.seed ip projectId) husable rfl

/-! ## Ranges that do not work -/

/-- The full range has no length in `u16`: a debug build panics at the sum, a release
    build at the remainder. -/
theorem createProxyEndpoint_fullRange (build : Build) (hasher : Hasher H) (bindAddr : IpAddr)
    (bind : Nat → SocketAddr → Option Endpoint) (seed : H) :
    (createProxyEndpoint build hasher ⟨bindAddr, ⟨0, 65535⟩, true⟩ bind seed).2 = .panicked := by
  have hsub : (Operation.sub 65535 0).eval build = some 65535 :=
    Operation.eval_of_fits (by decide)
  rw [createProxyEndpoint, if_neg (ne_false_of_eq_true rfl), perform_of_eval hsub]
  cases build with
  | debug => exact perform_panics (by decide)
  | release =>
      have hlen : (Operation.add 65535 1).eval .release = some 0 := by decide
      have hrem : ∀ hash, (Operation.rem hash 0).eval .release = none := fun _ => rfl
      exact (congrArg Prod.snd (perform_of_eval hlen)).trans (perform_panics (hrem _))

/-- **With the full range every allocation panics**, whatever the hash. -/
theorem allocate_panics_of_fullRange {config : ProxyConfig} {s : State} (build : Build)
    (hasher : Hasher H) (bindAddr : IpAddr) (bind : Nat → SocketAddr → Option Endpoint)
    (projectId : String) (hnone : s.proxyEndpoint = none) :
    allocate build hasher ⟨bindAddr, ⟨0, 65535⟩, true⟩ bind config projectId s = (s, .panic) := by
  rw [allocate, createProxyEndpoint_fullRange]
  exact handleAllocateMessage_unbound_panic hnone

/-- A hasher that gives `value` whatever goes into it. -/
def constant (value : UInt64) : Hasher Unit := ⟨fun _ _ => (), fun _ _ => (), fun _ => value⟩

/-- Every port can be bound. -/
def everyPort : Nat → SocketAddr → Option Endpoint := fun _ addr => some ⟨some addr⟩

/-- The ports from 9000 to 9999, with the two settings exchanged. -/
def reversed : Settings := ⟨9999, 9000⟩

/-- **The full range panics in both builds**; a reversed range panics in a debug build,
    and in a release build a port outside is tried, and returned. -/
theorem not_selects_fullRange_reversed :
    (createProxyEndpoint .debug (constant 0) ⟨.v4 0, Settings.proxyPortRange ⟨0, 65535⟩, true⟩
      everyPort ()).2 = .panicked ∧
    (createProxyEndpoint .release (constant 0) ⟨.v4 0, Settings.proxyPortRange ⟨0, 65535⟩, true⟩
      everyPort ()).2 = .panicked ∧
    (createProxyEndpoint .debug (constant 2000) ⟨.v4 0, reversed.proxyPortRange, true⟩
      everyPort ()).2 = .panicked ∧
    (createProxyEndpoint .release (constant 2000) ⟨.v4 0, reversed.proxyPortRange, true⟩
      everyPort ()).1.tried = [11999] ∧
    ¬ Selects ⟨.v4 0, reversed.proxyPortRange, true⟩ everyPort
      (createProxyEndpoint .release (constant 2000) ⟨.v4 0, reversed.proxyPortRange, true⟩
        everyPort ()) := by
  refine ⟨rfl, rfl, rfl, rfl, ?_⟩
  intro hselects
  exact nomatch (hselects.empty (by decide)).2

end AmbientProxy.ProxyServer
