import TokenBridge.Proofs.Client.Binding
import TokenBridge.Proofs.Session.Registry

/-!
# Current bindings

Whether the entries of a domain are current is told from two handles, the one on the home and the one on the
router. That decides for all handles on the domain, because the handles of an entry never part: whatever is done to
a client, and to its registry behind its back, they are bound to one connection (`connection_of_mem_handles`).

`isCurrent_iff_handles` says so for every reachable session: the answer is yes exactly where every handle on the
domain has the binding that the registry has now, and it is yes after the domain is rebound.
-/

namespace TokenBridge

namespace Connection

/-- A binding is the same as itself. -/
theorem sameBinding_self (k : Option Connection) : sameBinding k k = true := by
  cases k with
  | none => rfl
  | some connection => exact decide_eq_true ⟨rfl, rfl⟩

/-- Only a handle without a connection is bound like a domain without a provider. -/
theorem sameBinding_none_iff {k : Option Connection} : sameBinding k none = true ↔ k = none := by
  cases k with
  | none => exact ⟨fun _ => rfl, fun _ => rfl⟩
  | some connection => exact ⟨fun h => absurd h Bool.false_ne_true, fun h => by cases h⟩

end Connection

/-- The handles that a configuration asks for are bound to the connection that they are made with. -/
theorem DomainConfig.connection_of_mem_handles {d : DomainConfig} {k : Option Connection} {x : Handle}
    (hx : x ∈ d.handles k) : x.connection = k := by
  rw [handles, List.cons_append, List.mem_cons, List.mem_append, List.mem_map] at hx
  rcases hx with rfl | ⟨r, -, rfl⟩ | hx
  · rfl
  · rfl
  · obtain ⟨b, -, hx⟩ := List.mem_flatMap.1 hx
    rw [List.mem_cons, List.mem_map] at hx
    rcases hx with rfl | ⟨address, -, rfl⟩
    · rfl
    · rfl

namespace Directory

variable {c : Config} {connections : DomainId → Option Connection} {domain : DomainId}

/-- There is no handle on a domain that is not configured. -/
theorem handles_of_domain?_eq_none (h : c.validate = .ok ()) (hdomain : c.domain? domain = none) :
    (boundTo c connections).handles domain = [] := by
  rw [handles, get?_cores_boundTo h, get?_bridges_boundTo h, hdomain]
  rfl

/-- The handles on a domain are bound to the connection of the domain. -/
theorem connection_of_mem_handles (h : c.validate = .ok ()) {x : Handle}
    (hx : x ∈ (boundTo c connections).handles domain) : x.connection = connections domain := by
  cases hdomain : c.domain? domain with
  | none =>
    rw [handles_of_domain?_eq_none h hdomain] at hx
    exact absurd hx List.not_mem_nil
  | some d =>
    obtain ⟨hd, rfl⟩ := (Config.domain?_eq_some_iff h).1 hdomain
    rw [handles_boundTo h connections hd] at hx
    exact DomainConfig.connection_of_mem_handles hx

end Directory

namespace Client

/-- In a sound client, whether a domain is current is told by all handles on it. -/
theorem Sound.isCurrent_of_resolve {c : Client} (h : c.Sound) {ref : DomainRef} {id : DomainId}
    (hid : c.resolve ref = .ok id) :
    ∃ current, c.isCurrent ref = .ok current ∧
      (current = true ↔ ∀ x ∈ c.directory.handles id,
        Connection.sameBinding x.connection (c.registry.connection? id) = true) := by
  obtain ⟨connections, hD⟩ := h.bound
  rw [isCurrent, hid, Outcome.ok_bind, hD, Directory.get?_cores_boundTo h.valid,
    Directory.get?_bridges_boundTo h.valid]
  refine ⟨_, rfl, ?_⟩
  cases hdomain : c.config.domain? id with
  | none =>
    rw [Directory.handles_of_domain?_eq_none h.valid hdomain]
    exact ⟨fun _ _ hx => absurd hx List.not_mem_nil, fun _ => rfl⟩
  | some d =>
    obtain ⟨hd, rfl⟩ := (Config.domain?_eq_some_iff h.valid).1 hdomain
    -- The home is a handle on every configured domain, so what holds of all handles holds of the shared binding.
    have hhome : (⟨d.id, d.home, connections d.id⟩ : Handle) ∈
        (Directory.boundTo c.config connections).handles d.id := by
      rw [Directory.handles_boundTo h.valid connections hd]
      exact List.mem_append_left _ List.mem_cons_self
    have hall : (∀ x ∈ (Directory.boundTo c.config connections).handles d.id,
        Connection.sameBinding x.connection (c.registry.connection? d.id) = true) ↔
          Connection.sameBinding (connections d.id) (c.registry.connection? d.id) = true := by
      constructor
      · intro hx
        exact hx _ hhome
      · intro hsame x hx
        rw [Directory.connection_of_mem_handles h.valid hx]
        exact hsame
    rw [hall]
    cases hb : d.bridge with
    | none => simp [Bridge.ofDomain?, hb, Core.connection, Core.ofConfig]
    | some b =>
      simp [Bridge.ofDomain?, hb, Core.connection, Core.ofConfig, Bridge.connection, Bridge.ofConfig]

/-- A domain whose handles are bound to the connection that the registry has is current. -/
theorem Sound.isCurrent_of_bound {c : Client} (h : c.Sound) {connections : DomainId → Option Connection}
    (hD : c.directory = .boundTo c.config connections) {ref : DomainRef} {id : DomainId}
    (hid : c.resolve ref = .ok id) (hconnection : connections id = c.registry.connection? id) :
    c.isCurrent ref = .ok true := by
  obtain ⟨current, hcurrent, hiff⟩ := h.isCurrent_of_resolve hid
  rw [hcurrent, hiff.2]
  intro x hx
  rw [hD] at hx
  rw [Directory.connection_of_mem_handles h.valid hx, hconnection]
  exact Connection.sameBinding_self _

/-- Rebinding a domain makes it current. -/
theorem Sound.isCurrent_of_rebind {c : Client} (h : c.Sound) {ref : DomainRef} {id : DomainId}
    (hid : c.resolve ref = .ok id) : ∃ c', c.rebind ref = .ok c' ∧ c'.isCurrent ref = .ok true := by
  have hrebind : c.rebind ref = .ok (c.rebindId id) := change_eq_ok.2 ⟨id, hid, rfl⟩
  obtain ⟨connections, hD⟩ := h.bound
  have hid' : (c.rebindId id).resolve ref = .ok id := hid
  exact ⟨_, hrebind, (h.rebindId id).isCurrent_of_bound (directory_rebindId hD id) hid' (Function.update_self ..)⟩

/-- **Staleness is decided exactly**: in every reachable session, whatever was done to the registry behind the
client's back, asking whether a registered domain is current, by its number or by its name, gives an answer. It is
yes exactly where every handle on the domain joins the same provider and the same signer as the connection that the
registry has now, or is bound to nothing as the registry has none. After the domain is rebound the answer is yes. -/
theorem isCurrent_iff_handles {L : Ledger} {steps : List Step} {c : Client}
    (h : (Session.after L steps).client? = some c) {d : Domain} (hd : d ∈ c.registry.domains)
    {ref : DomainRef} (href : ref = .id d.id ∨ ref = .name d.name) :
    (∃ current, c.isCurrent ref = .ok current ∧
        (current = true ↔ ∀ x ∈ c.directory.handles d.id,
          Connection.sameBinding x.connection (c.registry.connection? d.id) = true)) ∧
      ∃ c', c.rebind ref = .ok c' ∧ c'.isCurrent ref = .ok true := by
  have hsound := Session.sound_after h
  have hdistinct : c.registry.Distinct := by
    obtain ⟨D, -, rfl⟩ := Option.map_eq_some_iff.1 h
    exact Session.distinct_after L steps
  have hresolve : c.resolve ref = .ok d.id := by
    obtain ⟨hid, hname⟩ := hdistinct.resolve_of_mem hd
    rcases href with rfl | rfl
    · exact hid
    · exact hname
  exact ⟨hsound.isCurrent_of_resolve hresolve, hsound.isCurrent_of_rebind hresolve⟩

/-- A client whose first domain got another provider behind its back, found at the same endpoint: a handle on the
domain still has the provider before, so the domain is stale until it is rebound. -/
theorem isCurrent_iff_handles_replaced :
    let steps : List Step :=
      [.provider "p" "http://alpha" .plain 0, .provider "q" "http://alpha" .plain 0, .build .testing,
        .client (.registerProvider (.id 1) "p"), .registry (.registerProvider 1 "q")]
    ∃ c, (Session.after (.ofConfig .testing) steps).client? = some c ∧
      c.isCurrent (.name "alpha") = .ok false ∧
      (∃ x ∈ c.directory.handles 1, Connection.sameBinding x.connection (c.registry.connection? 1) = false) ∧
      ∃ c', c.rebind (.name "alpha") = .ok c' ∧ c'.isCurrent (.name "alpha") = .ok true := by
  intro steps
  have h : (Session.after (.ofConfig .testing) steps).client? =
      some ⟨(Session.after (.ofConfig .testing) steps).registry, .boundTo .testing fun domain =>
        if domain = 1 then some ⟨⟨0, "http://alpha", .plain, 0⟩, none⟩ else none⟩ := rfl
  have hd : (⟨1, "alpha"⟩ : Domain) ∈ (Session.after (.ofConfig .testing) steps).registry.domains := by
    decide +kernel
  obtain ⟨⟨current, hcurrent, hiff⟩, hrebind⟩ := isCurrent_iff_handles h hd (.inr rfl)
  refine ⟨_, h, by decide +kernel, ?_, hrebind⟩
  have hstale : current ≠ true := by
    rintro rfl
    revert hcurrent
    decide +kernel
  simpa using fun hall => hstale (hiff.2 hall)

end Client

end TokenBridge
