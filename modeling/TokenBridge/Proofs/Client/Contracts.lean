import TokenBridge.Proofs.Client.Sound

/-!
# Looking contracts up

The contracts of a domain can be asked for in two ways, as ones that may be missing and as ones that have to be
there. Both find the same (`toOption_core`, `toOption_bridge`, `toOption_replica`), and in a sound client what
they find is the entry that the configuration asks for.
-/

namespace TokenBridge.Client

theorem bridge_id_eq_ok_iff {c : Client} {id : DomainId} {bridge : Bridge} :
    c.bridge (.id id) = .ok bridge ↔ c.directory.bridges.get? id = some bridge := by
  rw [Client.bridge, entryId, Outcome.ok_bind]
  cases c.directory.bridges.get? id <;> simp [throw, throwThe, MonadExceptOf.throw, pure, Except.pure]

theorem core_id_eq_ok_iff {c : Client} {id : DomainId} {core : Core} :
    c.core (.id id) = .ok core ↔ c.directory.cores.get? id = some core := by
  rw [Client.core, entryId, Outcome.ok_bind]
  cases c.directory.cores.get? id <;> simp [throw, throwThe, MonadExceptOf.throw, pure, Except.pure]

/-- A replica is found among those of the core contracts of its domain, or it is missing. -/
theorem replica_id_eq (c : Client) (home remote : DomainId) :
    c.replica (.id home) (.id remote) =
      match (c.directory.cores.get? remote).bind (·.replicas.get? home) with
      | some replica => .ok replica
      | none => .error (.missingReplica home remote) := by
  rw [Client.replica, entryId, Outcome.ok_bind, entryId, Outcome.ok_bind]
  cases (c.directory.cores.get? remote).bind (·.replicas.get? home) <;> rfl

/-! ### Two kinds of look-up -/

/-- Core contracts that have to be there are found exactly where core contracts that may be missing are. -/
theorem toOption_core (c : Client) (ref : DomainRef) : (c.core ref).toOption = c.core? ref := by
  rw [core, core?]
  cases c.entryId ref with
  | error e => rfl
  | ok id =>
    show _ = c.directory.cores.get? id
    rw [Outcome.ok_bind]
    cases c.directory.cores.get? id <;> rfl

theorem toOption_bridge (c : Client) (ref : DomainRef) : (c.bridge ref).toOption = c.bridge? ref := by
  rw [bridge, bridge?]
  cases c.entryId ref with
  | error e => rfl
  | ok id =>
    show _ = c.directory.bridges.get? id
    rw [Outcome.ok_bind]
    cases c.directory.bridges.get? id <;> rfl

theorem toOption_replica (c : Client) (home remote : DomainRef) :
    (c.replica home remote).toOption = c.replica? home remote := by
  rw [replica, replica?, core?]
  cases c.entryId home with
  | error e => rfl
  | ok home =>
    cases c.entryId remote with
    | error e => rfl
    | ok remote =>
      show _ = (c.directory.cores.get? remote).bind (·.replicas.get? home)
      rw [Outcome.ok_bind, Outcome.ok_bind]
      cases (c.directory.cores.get? remote).bind (·.replicas.get? home) <;> rfl

/-! ### What a sound client finds -/

/-- The bridge entry of a sound client is that of a configured domain with bridge contracts. -/
theorem Sound.bridge_eq_some {c : Client} (h : c.Sound) {id : DomainId} {bridge : Bridge}
    (hbridge : c.directory.bridges.get? id = some bridge) :
    ∃ d b connection, c.config.domain? id = some d ∧ d.bridge = some b ∧
      bridge = .ofConfig id b connection := by
  obtain ⟨connections, hD⟩ := h.bound
  rw [hD, Directory.get?_bridges_boundTo h.valid] at hbridge
  obtain ⟨d, hd, hbridge⟩ := Option.bind_eq_some_iff.1 hbridge
  obtain ⟨b, hb, rfl⟩ := Option.map_eq_some_iff.1 hbridge
  obtain ⟨-, hid⟩ := (Config.domain?_eq_some_iff h.valid).1 hd
  exact ⟨d, b, connections d.id, hd, hb, by rw [hid]⟩

/-- A domain with a bridge entry is registered. -/
theorem Sound.mem_domainIds_of_bridge {c : Client} (h : c.Sound) {id : DomainId} {bridge : Bridge}
    (hbridge : c.directory.bridges.get? id = some bridge) : id ∈ c.registry.domainIds := by
  obtain ⟨d, b, connection, hd, -, -⟩ := h.bridge_eq_some hbridge
  obtain ⟨hmem, rfl⟩ := (Config.domain?_eq_some_iff h.valid).1 hd
  exact h.mem_domainIds hmem

/-- The core entry of a configured domain is at the home of the configuration. -/
theorem Sound.core_of_domain? {c : Client} (h : c.Sound) {id : DomainId} {d : DomainConfig}
    (hd : c.config.domain? id = some d) :
    ∃ connection, c.core (.id id) = .ok (.ofConfig d connection) := by
  obtain ⟨connections, hD⟩ := h.bound
  refine ⟨connections d.id, ?_⟩
  rw [core, entryId, Outcome.ok_bind, hD, Directory.get?_cores_boundTo h.valid, hd]
  rfl

/-- A replica in the core entry of a sound client is on the domain of the entry, is bound as the entry is, and
replicates the home under whose domain it is found. -/
theorem Sound.replica_of_core {c : Client} (h : c.Sound) {id home : DomainId} {core : Core}
    {replica : ReplicaHandle} (hcore : c.directory.cores.get? id = some core)
    (hreplica : core.replicas.get? home = some replica) :
    replica.domain = id ∧ replica.remote = home ∧ replica.connection = core.connection := by
  obtain ⟨connections, hD⟩ := h.bound
  rw [hD, Directory.get?_cores_boundTo h.valid] at hcore
  obtain ⟨d, hd, rfl⟩ := Option.map_eq_some_iff.1 hcore
  obtain ⟨-, hid⟩ := (Config.domain?_eq_some_iff h.valid).1 hd
  rw [Core.ofConfig, Core.replicaHandles, Table.get?_map] at hreplica
  obtain ⟨address, -, rfl⟩ := Option.map_eq_some_iff.1 hreplica
  exact ⟨hid, rfl, rfl⟩

end TokenBridge.Client
