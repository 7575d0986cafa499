import TokenBridge.Proofs.Session.Reachable

/-!
# The registry of a reachable session

Registering refuses a number or a name that is taken, and no step on a client changes the domains
(`domains_clientStep`). So no session ever has a registry in which a number or a name stands twice
(`distinct_after`). In such a registry a number finds every domain that is registered with it
(`Registry.Distinct.domain?_of_mem`).
-/

namespace TokenBridge

namespace Registry

/-- No number and no name is registered twice. -/
structure Distinct (r : Registry) : Prop where
  /-- The numbers differ. -/
  ids : r.domainIds.Nodup
  /-- The names differ. -/
  names : (r.domains.map Domain.name).Nodup

/-- Only the domains decide whether they are distinct. -/
theorem Distinct.of_domains {r r' : Registry} (h : r.Distinct) (hdomains : r'.domains = r.domains) :
    r'.Distinct where
  ids := by rw [domainIds, hdomains]; exact h.ids
  names := by rw [hdomains]; exact h.names

theorem distinct_empty : Registry.empty.Distinct := ⟨List.nodup_nil, List.nodup_nil⟩

theorem named?_isSome_iff {r : Registry} {name : String} :
    (r.named? name).isSome ↔ name ∈ r.domains.map Domain.name := by
  simp [named?]

/-- A domain that is accepted has a new number and a new name. -/
theorem Distinct.registerDomain {r r' : Registry} (h : r.Distinct) {d : Domain}
    (hr : r.registerDomain d = .ok r') : r'.Distinct := by
  have heq := registerDomain_eq_ok hr
  unfold Registry.registerDomain at hr
  split at hr
  · cases hr
  next hid =>
    split at hr
    · cases hr
    next hname =>
      rw [domain?_isSome_iff] at hid
      rw [named?_isSome_iff] at hname
      subst heq
      constructor
      · rw [domainIds, List.map_append, List.map_singleton]
        exact h.ids.append (List.nodup_singleton _) (List.disjoint_singleton.2 hid)
      · rw [List.map_append, List.map_singleton]
        exact h.names.append (List.nodup_singleton _) (List.disjoint_singleton.2 hname)

theorem Distinct.registerAll {r r' : Registry} (h : r.Distinct) {domains : List Domain}
    (hr : Directory.registerAll r domains = .ok r') : r'.Distinct := by
  induction domains generalizing r with
  | nil =>
    cases hr
    exact h
  | cons d rest ih =>
    rw [Directory.registerAll, List.foldlM_cons] at hr
    obtain ⟨r₁, h₁, hrest⟩ := Outcome.bind_eq_ok.1 hr
    exact ih (h.registerDomain h₁) hrest

/-- A registered domain is the one that its number finds. -/
theorem Distinct.domain?_of_mem {r : Registry} (h : r.Distinct) {d : Domain} (hd : d ∈ r.domains) :
    r.domain? d.id = some d :=
  Table.find?_key_of_mem h.ids hd

/-- A registered domain is the one that its name finds. -/
theorem Distinct.named?_of_mem {r : Registry} (h : r.Distinct) {d : Domain} (hd : d ∈ r.domains) :
    r.named? d.name = some d :=
  Table.find?_key_of_mem h.names hd

/-- A registered domain is referred to by its number and by its name. -/
theorem Distinct.resolve_of_mem {r : Registry} (h : r.Distinct) {d : Domain} (hd : d ∈ r.domains) :
    r.resolve (.id d.id) = .ok d.id ∧ r.resolve (.name d.name) = .ok d.id := by
  constructor
  · exact resolve_eq_ok_iff.2 ⟨d, h.domain?_of_mem hd, rfl⟩
  · exact resolve_eq_ok_iff.2 ⟨d, h.named?_of_mem hd, rfl⟩

end Registry

namespace Client

/-- Building a client keeps the registry distinct. -/
theorem distinct_of_build {cfg : Config} {r : Registry} {c : Client} (h : r.Distinct)
    (hc : build cfg r = .ok c) : c.registry.Distinct := by
  obtain ⟨⟨D, r'⟩, hbuild, hc⟩ := Outcome.bind_eq_ok.1 hc
  cases hc
  obtain ⟨_, -, hrest⟩ := Outcome.bind_eq_ok.1 hbuild
  obtain ⟨pending, -, hrest⟩ := Outcome.bind_eq_ok.1 hrest
  obtain ⟨r₁, hr₁, heq⟩ := Outcome.bind_eq_ok.1 hrest
  cases heq
  exact h.registerAll hr₁

end Client

namespace Session

theorem registry_ledgerStep (s : Session) (st : LedgerStep) :
    (s.ledgerStep st).2.registry = s.registry := by
  cases st with
  | setStatus domain remote status source =>
    cases source with
    | leaf leaf => rfl
    | transfer name => rw [ledgerStep]; split <;> rfl
  | _ => rfl

theorem registry_handleStep (s : Session) (domain : DomainId) (address : Address)
    (connection : Option ConnectionName) (call : HandleCall) :
    (s.handleStep domain address connection call).2.registry = s.registry := by
  unfold handleStep
  split
  · cases call <;> rfl
  · split
    · cases call <;> rfl
    · rfl

theorem registry_sendStep (s : Session) (action : Action Transfer) (keep : Option String) :
    (s.sendStep action keep).2.registry = s.registry := by
  rw [sendStep]
  rcases action.on s.network with ⟨_ | _, n⟩ <;> rfl

/-- A change of a client leaves the domains alone. -/
theorem domains_changeStep {s : Session} {c : Client} (hc : s.client? = some c) (ref : DomainRef)
    {k : Registry → DomainId → Registry} (hk : ∀ r id, (k r id).domains = r.domains) :
    (s.changeStep (c.change ref k)).2.registry.domains = s.registry.domains := by
  obtain ⟨D, -, rfl⟩ := Option.map_eq_some_iff.1 hc
  cases hchange : Client.change ⟨s.registry, D⟩ ref k with
  | error e => rfl
  | ok c' =>
    obtain ⟨id, -, rfl⟩ := Client.change_eq_ok.1 hchange
    exact hk s.registry id

/-- No step on a client registers a domain. -/
theorem domains_clientStep {s : Session} {c : Client} (hc : s.client? = some c) (st : ClientStep) :
    (s.clientStep c st).2.registry.domains = s.registry.domains := by
  cases st with
  | registerProvider ref name =>
    rw [clientStep]
    split
    · next p _ => exact domains_changeStep hc ref (k := fun r id => r.registerProvider id p) fun _ _ => rfl
    · rfl
  | registerSigner ref name =>
    rw [clientStep]
    split
    · next signer _ =>
      exact domains_changeStep hc ref (k := fun r id => r.registerSigner id signer) fun _ _ => rfl
    · rfl
  | unregisterSigner ref => exact domains_changeStep hc ref (k := Registry.unregisterSigner) fun _ _ => rfl
  | rebind ref => exact domains_changeStep hc ref (k := fun r _ => r) fun _ _ => rfl
  | clearSigners =>
    obtain ⟨D, -, rfl⟩ := Option.map_eq_some_iff.1 hc
    show (Client.rebindAll _).registry.domains = _
    rw [Client.registry_rebindAll]
    rfl
  | rebindAll =>
    obtain ⟨D, -, rfl⟩ := Option.map_eq_some_iff.1 hc
    show (Client.rebindAll _).registry.domains = _
    rw [Client.registry_rebindAll]
  | send request keep => rw [clientStep, registry_sendStep]
  | sendNative request keep => rw [clientStep, registry_sendStep]
  | messageStatus name => rw [clientStep, transferStep_snd]
  | delivered name => rw [clientStep, transferStep_snd]
  | document name => rw [clientStep, transferStep_snd]
  | _ => rfl

/-- A step on the registry registers a domain, or leaves the domains alone. -/
theorem registryStep_cases (s : Session) (st : RegistryStep) :
    (∃ d, s.registry.registerDomain d = .ok (s.registryStep st).2.registry) ∨
      (s.registryStep st).2.registry.domains = s.registry.domains := by
  cases st with
  | registerDomain d =>
    rw [registryStep]
    split
    · next r hr => exact .inl ⟨d, hr⟩
    · exact .inr rfl
  | registerProvider domain name =>
    rw [registryStep]
    split <;> exact .inr rfl
  | registerSigner domain name =>
    rw [registryStep]
    split <;> exact .inr rfl
  | _ => exact .inr rfl

/-- Every step keeps the registered domains distinct. -/
theorem distinct_step (s : Session) (st : Step) (h : s.registry.Distinct) :
    (s.step st).2.registry.Distinct := by
  cases st with
  | provider => exact h
  | signer => exact h
  | waits name => rw [step]; split <;> exact h
  | wait name transaction confirmations => rw [step]; split <;> exact h
  | registry st =>
    rcases s.registryStep_cases st with ⟨d, hd⟩ | heq
    · exact h.registerDomain hd
    · exact h.of_domains heq
  | ledger st => rw [step, registry_ledgerStep]; exact h
  | handle domain address connection call => rw [step, registry_handleStep]; exact h
  | build config =>
    rw [step, buildStep_eq]
    cases hbuild : Client.build config s.registry with
    | error e => exact h
    | ok c => exact Client.distinct_of_build h hbuild
  | client st =>
    rw [step]
    split
    · next c hc => exact h.of_domains (domains_clientStep hc st)
    · exact h

/-- **The registered domains of a reachable session are distinct.** -/
theorem distinct_after (L : Ledger) (steps : List Step) : (after L steps).registry.Distinct :=
  run_induction (P := fun s => s.registry.Distinct) distinct_step Registry.distinct_empty steps

/-- So are those that its client knows. -/
theorem distinct_client {L : Ledger} {steps : List Step} {c : Client} (hc : (after L steps).client? = some c) :
    c.registry.Distinct := by
  obtain ⟨D, -, rfl⟩ := Option.map_eq_some_iff.1 hc
  exact distinct_after L steps

end Session

end TokenBridge
