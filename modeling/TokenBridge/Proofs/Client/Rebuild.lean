import TokenBridge.Proofs.Client.Contracts
import TokenBridge.Proofs.Session.Registry

/-!
# Rebuilding and rebinding

A directory has no other entries and no other handles than the configuration asks for, each entry keeps the
addresses that it was built from, and its handles share one connection, whatever was done to the client and
behind its back (`Directory.Complete`, `complete_boundTo`). So two directories of one configuration differ in
connections alone, and once all domains are rebound there is no difference left to a directory that is built
anew: building over the same registry finds every domain registered, registers nothing, and gives the rebound
client back (`build_eq_rebindAll`).
-/

namespace TokenBridge

namespace Directory

/-- The core entry of a domain is the one that its configuration asks for, bound to a connection. -/
structure CoreOf (d : DomainConfig) (k : Option Connection) (core : Core) : Prop where
  /-- It is that of the domain. -/
  domain : core.domain = d.id
  /-- It keeps the configured address of the home. -/
  homeAddress : core.homeAddress = d.home
  /-- It keeps the configured addresses of the replicas. -/
  replicaAddresses : core.replicaAddresses.entries = d.replicas.map fun r => (r.domain, r.address)
  /-- The home is the configured one. -/
  home : core.home = ⟨⟨d.id, d.home, k⟩⟩
  /-- There is one replica for each configured line, and no other. -/
  replicas : core.replicas.entries =
    d.replicas.map fun r => (r.domain, ⟨⟨d.id, r.address, k⟩, r.domain⟩)

/-- The bridge entry of a domain is the one that its configuration asks for, bound to a connection. -/
structure BridgeOf (d : DomainConfig) (b : BridgeConfig) (k : Option Connection) (bridge : Bridge) :
    Prop where
  /-- It is that of the domain. -/
  domain : bridge.domain = d.id
  /-- It keeps the configured addresses. -/
  addresses : bridge.addresses = b
  /-- The router is the configured one. -/
  router : bridge.router = ⟨⟨d.id, b.router, k⟩⟩
  /-- The helper is the configured one, if there is one. -/
  nativeHelper : bridge.nativeHelper = b.nativeHelper.map fun address => ⟨⟨d.id, address, k⟩⟩

/-- A directory has the entries that a configuration asks for, and no other. -/
structure Complete (c : Config) (D : Directory) : Prop where
  /-- There is one core entry for each configured domain, and no other. -/
  cores : D.cores.keys = c.domains.map DomainConfig.id
  /-- There is one bridge entry for each configured domain with bridge contracts, and no other. -/
  bridges : D.bridges.keys = (c.domains.filter (·.bridge.isSome)).map DomainConfig.id
  /-- The handles of a domain are the configured ones and share a connection. -/
  entries : ∀ d ∈ c.domains, ∃ k,
    (∃ core, D.cores.get? d.id = some core ∧ CoreOf d k core) ∧
      ∀ b, d.bridge = some b → ∃ bridge, D.bridges.get? d.id = some bridge ∧ BridgeOf d b k bridge

theorem coreOf_ofConfig {d : DomainConfig} (h : (d.replicas.map ReplicaConfig.domain).Nodup)
    (k : Option Connection) : CoreOf d k (.ofConfig d k) where
  domain := rfl
  homeAddress := rfl
  replicaAddresses := Core.addresses_ofConfig h k
  home := rfl
  replicas := Core.replicas_ofConfig h k

/-- A directory that is bound to connections has just the entries of its configuration. -/
theorem complete_boundTo {c : Config} (h : c.validate = .ok ()) (connections : DomainId → Option Connection) :
    Complete c (boundTo c connections) where
  cores := keys_cores_boundTo h
  bridges := keys_bridges_boundTo h
  entries d hd := by
    have hdomain : c.domain? d.id = some d := (Config.domain?_eq_some_iff h).2 ⟨hd, rfl⟩
    refine ⟨connections d.id, ⟨.ofConfig d (connections d.id), ?_, ?_⟩, fun b hb => ?_⟩
    · rw [get?_cores_boundTo h, hdomain]
      rfl
    · exact coreOf_ofConfig (Config.nodup_replicas h hd) (connections d.id)
    · refine ⟨.ofConfig d.id b (connections d.id), ?_, rfl, rfl, rfl, rfl⟩
      rw [get?_bridges_boundTo h, hdomain, Option.bind_some, Bridge.ofDomain?, hb]
      rfl

/-- Where all domains of a list are registered, none is left to register. -/
theorem unregistered_of_registered {r : Registry} (h : r.Distinct) {domains : List Domain}
    (hdomains : ∀ d ∈ domains, d ∈ r.domains) : unregistered r domains = .ok [] := by
  induction domains with
  | nil => rfl
  | cons d rest ih =>
    have hd : r.domain? d.id = some d := h.domain?_of_mem (hdomains d List.mem_cons_self)
    rw [unregistered, hd]
    exact (if_pos rfl).trans (ih fun d' hd' => hdomains d' (List.mem_cons_of_mem _ hd'))

end Directory

namespace Client

/-- Rebinding all domains of a sound client binds its directory to the connections that the registry has. -/
theorem Sound.rebindAll_eq {c : Client} (h : c.Sound) :
    c.rebindAll = ⟨c.registry, .boundTo c.config c.registry.connection?⟩ := by
  obtain ⟨connections, hD⟩ := h.bound
  rw [Client.rebindAll_eq hD]
  refine congrArg (Client.mk c.registry) (Directory.boundTo_congr fun d hd => ?_)
  exact if_pos (h.mem_domainIds hd)

/-- Building over a registry that knows all domains registers nothing. -/
theorem build_of_registered {cfg : Config} {r : Registry} (hvalid : cfg.validate = .ok ()) (hr : r.Distinct)
    (hdomains : ∀ d ∈ cfg.domainList, d ∈ r.domains) :
    build cfg r = .ok ⟨r, .boundTo cfg r.connection?⟩ := by
  have hbuild : Directory.build cfg r = .ok (.boundTo cfg r.connection?, r) := by
    rw [Directory.build, hvalid, Directory.unregistered_of_registered hr hdomains,
      ← Directory.ofConfig_eq_boundTo]
    rfl
  rw [build, hbuild]
  rfl

/-- **Rebuilding equals rebinding**: in every reachable session the client has just the entries and the handles
that its configuration asks for, both kinds of look-up find the same, and building a client for the same
configuration over the same registry gives the client in which all domains are rebound. -/
theorem build_eq_rebindAll {L : Ledger} {steps : List Step} {c : Client}
    (h : (Session.after L steps).client? = some c) :
    c.directory.Complete c.config ∧
      (∀ ref, (c.core ref).toOption = c.core? ref) ∧ (∀ ref, (c.bridge ref).toOption = c.bridge? ref) ∧
      (∀ home remote, (c.replica home remote).toOption = c.replica? home remote) ∧
      build c.config c.registry = .ok c.rebindAll := by
  have hc := Session.sound_after h
  have hdistinct : c.registry.Distinct := by
    obtain ⟨D, -, rfl⟩ := Option.map_eq_some_iff.1 h
    exact Session.distinct_after L steps
  refine ⟨?_, c.toOption_core, c.toOption_bridge, c.toOption_replica, ?_⟩
  · obtain ⟨connections, hD⟩ := hc.bound
    rw [hD]
    exact Directory.complete_boundTo hc.valid connections
  · rw [hc.rebindAll_eq]
    exact build_of_registered hc.valid hdistinct hc.registered

/-- A client whose first domain got a provider behind its back: its directory is stale, and both ways bring it
up to date. -/
theorem build_eq_rebindAll_stale :
    let steps : List Step :=
      [.provider "p" "http://alpha" .plain 0, .build .testing, .registry (.registerProvider 1 "p")]
    ∃ c, (Session.after (.ofConfig .testing) steps).client? = some c ∧ c.isCurrent (.id 1) = .ok false ∧
      build c.config c.registry = .ok c.rebindAll ∧ c.rebindAll.isCurrent (.id 1) = .ok true := by
  intro steps
  have h : (Session.after (.ofConfig .testing) steps).client? =
      some ⟨(Session.after (.ofConfig .testing) steps).registry, .boundTo .testing fun _ => none⟩ := rfl
  refine ⟨_, h, by decide +kernel, (build_eq_rebindAll h).2.2.2.2, by decide +kernel⟩

end Client

end TokenBridge
