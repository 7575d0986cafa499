import TokenBridge.Client
import TokenBridge.Proofs.Directory.Binding
import TokenBridge.Proofs.Registry

/-!
# Sound clients

A client is sound if its configuration is valid, its directory is the one of that configuration under some
connections, and the registry knows every configured domain. Building a client gives a sound one
(`build_eq_ok`, `sound_of_build`), and no change of bindings or of the registry's domains takes that away.
-/

namespace TokenBridge

namespace Directory

/-- The domains that are registered one after the other come last, in their order. -/
theorem registerAll_eq_ok {r r' : Registry} {domains : List Domain} (h : registerAll r domains = .ok r') :
    r' = { r with domains := r.domains ++ domains } := by
  induction domains generalizing r with
  | nil =>
    cases h
    rw [List.append_nil]
  | cons d rest ih =>
    rw [registerAll, List.foldlM_cons] at h
    obtain ⟨r₁, h₁, hrest⟩ := Outcome.bind_eq_ok.1 h
    rw [ih hrest, Registry.registerDomain_eq_ok h₁, List.append_assoc, List.singleton_append]

/-- A domain of the list is known already or is among those to be registered. -/
theorem mem_of_unregistered {r : Registry} {domains pending : List Domain}
    (h : unregistered r domains = .ok pending) : ∀ d ∈ domains, d ∈ r.domains ∨ d ∈ pending := by
  induction domains generalizing pending with
  | nil => exact fun _ hd => absurd hd List.not_mem_nil
  | cons e rest ih =>
    rw [unregistered] at h
    intro d hd
    rw [List.mem_cons] at hd
    split at h
    · next known hknown =>
      split at h
      · next heq =>
        rcases hd with rfl | hd
        · exact .inl (heq ▸ List.mem_of_find?_eq_some hknown)
        · exact ih h d hd
      · cases h
    · split at h
      · cases h
      · obtain ⟨others, hothers, rfl⟩ := Outcome.map_eq_ok.1 h
        rw [List.mem_cons]
        rcases hd with rfl | hd
        · exact .inr (.inl rfl)
        · exact (ih hothers d hd).imp_right .inr

end Directory

namespace Client

/-- What every client keeps that was built by `Client.build`. -/
structure Sound (c : Client) : Prop where
  /-- The configuration is valid. -/
  valid : c.config.validate = .ok ()
  /-- The directory is that of the configuration, under some connections. -/
  bound : ∃ connections, c.directory = .boundTo c.config connections
  /-- Every configured domain is registered. -/
  registered : ∀ d ∈ c.config.domainList, d ∈ c.registry.domains

/-- Building a client registers the domains that are missing and binds every entry to the connection that
the registry has. -/
theorem build_eq_ok {cfg : Config} {r : Registry} {c : Client} (h : build cfg r = .ok c) :
    cfg.validate = .ok () ∧
      ∃ pending, Directory.unregistered r cfg.domainList = .ok pending ∧
        c.registry = { r with domains := r.domains ++ pending } ∧
        c.directory = .boundTo cfg r.connection? := by
  obtain ⟨⟨D, r'⟩, hbuild, hc⟩ := Outcome.bind_eq_ok.1 h
  cases hc
  obtain ⟨_, hvalid, hrest⟩ := Outcome.bind_eq_ok.1 hbuild
  obtain ⟨pending, hpending, hrest⟩ := Outcome.bind_eq_ok.1 hrest
  obtain ⟨r₁, hr₁, heq⟩ := Outcome.bind_eq_ok.1 hrest
  cases heq
  have hr := Directory.registerAll_eq_ok hr₁
  refine ⟨hvalid, pending, hpending, hr, ?_⟩
  rw [Directory.ofConfig_eq_boundTo, hr]
  rfl

theorem config_of_build {cfg : Config} {r : Registry} {c : Client} (h : build cfg r = .ok c) :
    c.config = cfg := by
  obtain ⟨-, _, -, -, hD⟩ := build_eq_ok h
  rw [config, hD]
  rfl

theorem sound_of_build {cfg : Config} {r : Registry} {c : Client} (h : build cfg r = .ok c) : c.Sound := by
  have hconfig := config_of_build h
  obtain ⟨hvalid, pending, hpending, hr, hD⟩ := build_eq_ok h
  refine ⟨hconfig ▸ hvalid, ⟨r.connection?, hconfig ▸ hD⟩, ?_⟩
  intro d hd
  rw [hr, List.mem_append]
  exact Directory.mem_of_unregistered hpending d (hconfig ▸ hd)

/-! ### Changes -/

/-- A change resolves its reference, changes the registry and rebinds the domain. -/
theorem change_eq_ok {c c' : Client} {ref : DomainRef} {f : Registry → DomainId → Registry} :
    c.change ref f = .ok c' ↔
      ∃ id, c.resolve ref = .ok id ∧
        c' = ({ c with registry := f c.registry id } : Client).rebindId id := by
  rw [change, Outcome.bind_eq_ok]
  simp [pure, Except.pure, eq_comm]

/-- Rebinding a domain gives it the connection that the registry has. -/
theorem directory_rebindId {c : Client} {cfg : Config} {connections : DomainId → Option Connection}
    (h : c.directory = .boundTo cfg connections) (id : DomainId) :
    (c.rebindId id).directory =
      .boundTo cfg (Function.update connections id (c.registry.connection? id)) := by
  rw [rebindId, h, Directory.rebind_boundTo]

/-- Rebinding domains one after the other gives each of them the connection that the registry has. -/
theorem foldl_rebindId {c : Client} {cfg : Config} {connections : DomainId → Option Connection}
    (h : c.directory = .boundTo cfg connections) (ids : List DomainId) :
    ids.foldl rebindId c =
      ⟨c.registry, .boundTo cfg fun d => if d ∈ ids then c.registry.connection? d else connections d⟩ := by
  induction ids generalizing c connections with
  | nil => simp [← h]
  | cons id rest ih =>
    rw [List.foldl_cons, ih (directory_rebindId h id)]
    show (⟨c.registry, _⟩ : Client) = _
    congr 2
    funext d
    by_cases hrest : d ∈ rest
    · simp [hrest, rebindId]
    · by_cases hd : d = id
      · subst hd; simp [hrest]
      · simp [hrest, hd]

theorem rebindAll_eq {c : Client} {cfg : Config} {connections : DomainId → Option Connection}
    (h : c.directory = .boundTo cfg connections) :
    c.rebindAll = ⟨c.registry, .boundTo cfg fun d =>
      if d ∈ c.registry.domainIds then c.registry.connection? d else connections d⟩ :=
  foldl_rebindId h c.registry.domainIds

/-- Rebinding leaves the registry alone. -/
theorem registry_rebindAll (c : Client) : c.rebindAll.registry = c.registry := by
  unfold rebindAll
  generalize c.registry.domainIds = ids
  induction ids generalizing c with
  | nil => rfl
  | cons id rest ih => exact ih (c.rebindId id)

/-- Soundness only asks that no registered domain is lost. -/
theorem Sound.withRegistry {c : Client} (h : c.Sound) {r : Registry}
    (hr : ∀ d ∈ c.registry.domains, d ∈ r.domains) : ({ c with registry := r } : Client).Sound :=
  ⟨h.valid, h.bound, fun d hd => hr d (h.registered d hd)⟩

theorem Sound.rebindId {c : Client} (h : c.Sound) (id : DomainId) : (c.rebindId id).Sound := by
  obtain ⟨connections, hD⟩ := h.bound
  exact ⟨h.valid, ⟨_, directory_rebindId hD id⟩, h.registered⟩

theorem Sound.change {c c' : Client} (h : c.Sound) {ref : DomainRef} {f : Registry → DomainId → Registry}
    (hf : ∀ r id, (f r id).domains = r.domains) (hc : c.change ref f = .ok c') : c'.Sound := by
  obtain ⟨id, -, rfl⟩ := change_eq_ok.1 hc
  exact (h.withRegistry (by simp [hf])).rebindId id

theorem Sound.registerProvider {c c' : Client} (h : c.Sound) {ref : DomainRef} {provider : Provider}
    (hc : c.registerProvider ref provider = .ok c') : c'.Sound :=
  h.change (f := fun r id => r.registerProvider id provider) (fun _ _ => rfl) hc

theorem Sound.registerSigner {c c' : Client} (h : c.Sound) {ref : DomainRef} {signer : Signer}
    (hc : c.registerSigner ref signer = .ok c') : c'.Sound :=
  h.change (f := fun r id => r.registerSigner id signer) (fun _ _ => rfl) hc

theorem Sound.unregisterSigner {c c' : Client} (h : c.Sound) {ref : DomainRef}
    (hc : c.unregisterSigner ref = .ok c') : c'.Sound :=
  h.change (f := Registry.unregisterSigner) (fun _ _ => rfl) hc

theorem Sound.rebind {c c' : Client} (h : c.Sound) {ref : DomainRef} (hc : c.rebind ref = .ok c') :
    c'.Sound :=
  h.change (f := fun r _ => r) (fun _ _ => rfl) hc

theorem Sound.rebindAll {c : Client} (h : c.Sound) : c.rebindAll.Sound := by
  unfold Client.rebindAll
  generalize c.registry.domainIds = ids
  induction ids generalizing c with
  | nil => exact h
  | cons id rest ih => exact ih (h.rebindId id)

theorem Sound.clearSigners {c : Client} (h : c.Sound) : c.clearSigners.Sound := by
  have hcleared : ({ c with registry := c.registry.clearSigners } : Client).Sound :=
    h.withRegistry fun _ hd => hd
  exact hcleared.rebindAll

/-- Every configured domain has a registered number. -/
theorem Sound.mem_domainIds {c : Client} (h : c.Sound) {d : DomainConfig} (hd : d ∈ c.config.domains) :
    d.id ∈ c.registry.domainIds :=
  List.mem_map.2 ⟨d.domain, h.registered _ (List.mem_map_of_mem hd), rfl⟩

end Client

end TokenBridge
