import TokenBridge.Proofs.Session.Registry

/-!
# Numbers and names of domains

A caller refers to a domain by its number or by its name. Most operations look a reference up in the registry; the
look-ups in the directory take a number as it is and only ask the registry about a name (`Client.entryId`). That both
ways come to the same is a matter of the registry: it lists no number and no name twice, and it never loses or
changes a domain, so a number and a name that meant one domain always do (`domains_run`).

`Step.exchange` puts other references in the place of those in a step. `run_exchange` says that a run does not tell
the difference, as long as each reference is left alone or exchanged with the other one to its registered domain:
all answers are the same, failures included, and so is the session after them. A name is never taken for a number,
even where it is written in digits (`run_exchange_digits`).
-/

namespace TokenBridge

namespace Registry

/-- A reference names a registered domain, by its number or by its name. -/
inductive RefersTo (r : Registry) (d : Domain) : DomainRef → Prop where
  /-- By its number. -/
  | id (h : d ∈ r.domains) : RefersTo r d (.id d.id)
  /-- By its name. -/
  | name (h : d ∈ r.domains) : RefersTo r d (.name d.name)

/-- Two references are the same, or name the same registered domain. -/
def Alike (r : Registry) (a b : DomainRef) : Prop := a = b ∨ ∃ d, r.RefersTo d a ∧ r.RefersTo d b

variable {r r' : Registry} {d : Domain} {a b ref : DomainRef}

theorem RefersTo.mem (h : r.RefersTo d ref) : d ∈ r.domains := by
  cases h <;> assumption

theorem RefersTo.mono (h : r.RefersTo d ref) (hr : r.domains ⊆ r'.domains) : r'.RefersTo d ref := by
  cases h with
  | id h => exact .id (hr h)
  | name h => exact .name (hr h)

theorem Alike.mono (h : r.Alike a b) (hr : r.domains ⊆ r'.domains) : r'.Alike a b :=
  h.imp_right fun ⟨d, ha, hb⟩ => ⟨d, ha.mono hr, hb.mono hr⟩

theorem Distinct.resolve_of_refersTo (hr : r.Distinct) (h : r.RefersTo d ref) : r.resolve ref = .ok d.id := by
  cases h with
  | id h => exact (hr.resolve_of_mem h).1
  | name h => exact (hr.resolve_of_mem h).2

end Registry

namespace Client

variable {c : Client} {d : Domain} {a b ref : DomainRef}

theorem entryId_of_refersTo (hc : c.registry.Distinct) (h : c.registry.RefersTo d ref) :
    c.entryId ref = .ok d.id := by
  cases h with
  | id _ => rfl
  | name h => exact (hc.resolve_of_mem h).2

theorem domain_of_refersTo (hc : c.registry.Distinct) (h : c.registry.RefersTo d ref) : c.domain ref = .ok d := by
  rw [Client.domain, resolve, hc.resolve_of_refersTo h, Outcome.ok_bind, hc.domain?_of_mem h.mem]
  rfl

/-- Exchanging references makes no difference to a client where it looks one up. -/
structure Blind (c : Client) (f : DomainRef → DomainRef) : Prop where
  /-- Neither where the registry resolves it, -/
  resolve : ∀ ref, c.resolve (f ref) = c.resolve ref
  /-- nor where the directory keeps entries under it, -/
  entryId : ∀ ref, c.entryId (f ref) = c.entryId ref
  /-- nor where the domain itself is asked for. -/
  domain : ∀ ref, c.domain (f ref) = c.domain ref

/-- A client is blind to which of the two references to a registered domain is used. -/
theorem blind_of_alike (hc : c.registry.Distinct) {f : DomainRef → DomainRef}
    (hf : ∀ ref, c.registry.Alike ref (f ref)) : c.Blind f := by
  constructor <;> intro ref <;> rcases hf ref with heq | ⟨d, hold, hnew⟩
  · rw [← heq]
  · exact (hc.resolve_of_refersTo hnew).trans (hc.resolve_of_refersTo hold).symm
  · rw [← heq]
  · rw [entryId_of_refersTo hc hnew, entryId_of_refersTo hc hold]
  · rw [← heq]
  · rw [domain_of_refersTo hc hnew, domain_of_refersTo hc hold]

section Blind

variable {f g : DomainRef → DomainRef}

theorem Blind.change (hf : c.Blind f) (ref : DomainRef) (k : Registry → DomainId → Registry) :
    c.change (f ref) k = c.change ref k := by
  rw [Client.change, Client.change, hf.resolve]

theorem Blind.core? (hf : c.Blind f) (ref : DomainRef) : c.core? (f ref) = c.core? ref := by
  rw [Client.core?, Client.core?, hf.entryId]

theorem Blind.plan (hf : c.Blind f) (hg : c.Blind g) (L : Ledger) (request : TransferRequest) :
    c.plan L { request with origin := f request.origin, destination := g request.destination } =
      c.plan L request := by
  rw [Client.plan, Client.plan, hf.resolve, hg.resolve]

theorem Blind.planNative (hf : c.Blind f) (hg : c.Blind g) (request : NativeRequest) :
    c.planNative { request with origin := f request.origin, destination := g request.destination } =
      c.planNative request := by
  rw [Client.planNative, Client.planNative, hf.resolve, hg.resolve]

end Blind

end Client

/-! ### Exchanging the references of a step -/

/-- A step on a client with other references: `f` gives the first one, and `g` the second one where there are two. -/
def ClientStep.exchange (f g : DomainRef → DomainRef) : ClientStep → ClientStep
  | .domain ref => .domain (f ref)
  | .resolve ref => .resolve (f ref)
  | .isCurrent ref => .isCurrent (f ref)
  | .registerProvider ref provider => .registerProvider (f ref) provider
  | .registerSigner ref signer => .registerSigner (f ref) signer
  | .unregisterSigner ref => .unregisterSigner (f ref)
  | .rebind ref => .rebind (f ref)
  | .core? ref => .core? (f ref)
  | .core ref => .core (f ref)
  | .bridge? ref => .bridge? (f ref)
  | .bridge ref => .bridge (f ref)
  | .replica? home remote => .replica? (f home) (g remote)
  | .replica home remote => .replica (f home) (g remote)
  | .home? ref => .home? (f ref)
  | .nonce ref destination => .nonce (f ref) destination
  | .representation ref token => .representation (f ref) token
  | .canonicalIdentity ref address => .canonicalIdentity (f ref) address
  | .canonicalContract ref address => .canonicalContract (f ref) address
  | .send request keep =>
    .send { request with origin := f request.origin, destination := g request.destination } keep
  | .sendNative request keep =>
    .sendNative { request with origin := f request.origin, destination := g request.destination } keep
  | st => st

/-- A step with other references. -/
def Step.exchange (f g : DomainRef → DomainRef) : Step → Step
  | .registry (.resolve ref) => .registry (.resolve (f ref))
  | .client st => .client (st.exchange f g)
  | st => st

namespace Session

variable {f g : DomainRef → DomainRef}

/-- **The step on a client**: where the client is blind to an exchange, so is every step on it. -/
theorem clientStep_exchange (s : Session) {c : Client} (hf : c.Blind f) (hg : c.Blind g) (st : ClientStep) :
    s.clientStep c (st.exchange f g) = s.clientStep c st := by
  cases st with
  | domain ref => rw [ClientStep.exchange, clientStep, clientStep, hf.domain]
  | resolve ref => rw [ClientStep.exchange, clientStep, clientStep, hf.resolve]
  | isCurrent ref =>
    rw [ClientStep.exchange, clientStep, clientStep, Client.isCurrent, Client.isCurrent, hf.resolve]
  | registerProvider ref provider =>
    simp only [ClientStep.exchange, clientStep, Client.registerProvider, hf.change]
  | registerSigner ref signer => simp only [ClientStep.exchange, clientStep, Client.registerSigner, hf.change]
  | unregisterSigner ref => simp only [ClientStep.exchange, clientStep, Client.unregisterSigner, hf.change]
  | rebind ref => simp only [ClientStep.exchange, clientStep, Client.rebind, hf.change]
  | core? ref => rw [ClientStep.exchange, clientStep, clientStep, hf.core?]
  | core ref => rw [ClientStep.exchange, clientStep, clientStep, Client.core, Client.core, hf.entryId]
  | bridge? ref => rw [ClientStep.exchange, clientStep, clientStep, Client.bridge?, Client.bridge?, hf.entryId]
  | bridge ref => rw [ClientStep.exchange, clientStep, clientStep, Client.bridge, Client.bridge, hf.entryId]
  | replica? home remote =>
    rw [ClientStep.exchange, clientStep, clientStep, Client.replica?, Client.replica?, hf.entryId, hg.core?]
  | replica home remote =>
    rw [ClientStep.exchange, clientStep, clientStep, Client.replica, Client.replica, hf.entryId, hg.entryId]
  | home? ref => rw [ClientStep.exchange, clientStep, clientStep, Client.home?, Client.home?, hf.core?]
  | nonce ref destination =>
    rw [ClientStep.exchange, clientStep, clientStep, Client.home?, Client.home?, hf.core?]
  | representation ref token =>
    rw [ClientStep.exchange, clientStep, clientStep, Client.representation, Client.representation, hf.resolve]
  | canonicalIdentity ref address =>
    rw [ClientStep.exchange, clientStep, clientStep, Client.canonicalIdentity, Client.canonicalIdentity,
      hf.resolve]
  | canonicalContract ref address =>
    rw [ClientStep.exchange, clientStep, clientStep, Client.canonicalContract, Client.canonicalContract,
      hf.resolve]
  | send request keep => simp only [ClientStep.exchange, clientStep, Client.send, hf.plan hg]
  | sendNative request keep => simp only [ClientStep.exchange, clientStep, Client.sendNative, hf.planNative hg]
  | _ => rfl

/-- **The step**: in a registry without repetitions, exchanging references to registered domains changes neither the
answer to a step nor the session after it. -/
theorem step_exchange {s : Session} (hs : s.registry.Distinct) (hf : ∀ ref, s.registry.Alike ref (f ref))
    (hg : ∀ ref, s.registry.Alike ref (g ref)) (st : Step) : s.step (st.exchange f g) = s.step st := by
  have hblind : ∀ c, s.client? = some c → c.Blind f ∧ c.Blind g := by
    intro c hc
    obtain ⟨D, -, rfl⟩ := Option.map_eq_some_iff.1 hc
    exact ⟨Client.blind_of_alike hs hf, Client.blind_of_alike hs hg⟩
  cases st with
  | registry st =>
    cases st with
    | resolve ref =>
      have hresolve : s.registry.resolve (f ref) = s.registry.resolve ref := by
        rcases hf ref with heq | ⟨d, hold, hnew⟩
        · rw [← heq]
        · rw [hs.resolve_of_refersTo hnew, hs.resolve_of_refersTo hold]
      rw [Step.exchange, step, step, registryStep, registryStep, hresolve]
    | _ => rfl
  | client st =>
    rw [Step.exchange, step, step]
    cases hc : s.client? with
    | none => rfl
    | some c => exact s.clientStep_exchange (hblind c hc).1 (hblind c hc).2 st
  | _ => rfl

/-! ### Domains last -/

/-- **The step**: domains only come behind those that are there. -/
theorem domains_step (s : Session) (st : Step) : s.registry.domains <+: (s.step st).2.registry.domains := by
  cases st with
  | provider | signer => exact List.prefix_refl _
  | waits name => rw [step]; split <;> exact List.prefix_refl _
  | wait name transaction confirmations => rw [step]; split <;> exact List.prefix_refl _
  | registry st =>
    rw [step]
    rcases s.registryStep_cases st with ⟨d, hd⟩ | heq
    · rw [Registry.registerDomain_eq_ok hd]
      exact List.prefix_append _ _
    · simp only [heq, List.prefix_refl]
  | ledger st => simp only [step, registry_ledgerStep, List.prefix_refl]
  | handle domain address connection call => simp only [step, registry_handleStep, List.prefix_refl]
  | build config =>
    rw [step, buildStep_eq]
    cases hbuild : Client.build config s.registry with
    | error e => exact List.prefix_refl _
    | ok c =>
      obtain ⟨-, pending, -, hr, -⟩ := Client.build_eq_ok hbuild
      show s.registry.domains <+: c.registry.domains
      rw [hr]
      exact List.prefix_append _ _
  | client st =>
    rw [step]
    split
    · next c hc => simp only [domains_clientStep hc st, List.prefix_refl]
    · exact List.prefix_refl _

/-- **The run**: a domain that is registered stays registered, in its place. -/
theorem domains_run (s : Session) (steps : List Step) : s.registry.domains <+: (s.run steps).2.registry.domains :=
  run_induction (P := fun s' => s.registry.domains <+: s'.registry.domains)
    (fun s' st h => h.trans (s'.domains_step st)) (List.prefix_refl _) steps

/-! ### Runs -/

/-- A registration that fails changes nothing, whether it is one of a domain or that of a whole configuration. -/
theorem step_of_refused {s : Session} {st : Step} (hst : (∃ d, st = .registry (.registerDomain d)) ∨ ∃ c, st = .build c)
    {e : BridgeError} (h : (s.step st).1 = .failure e) : (s.step st).2 = s := by
  rcases hst with ⟨d, rfl⟩ | ⟨c, rfl⟩
  · rw [step, registryStep] at h ⊢
    split at h
    · cases h
    · rfl
  · rw [step, buildStep_eq] at h ⊢
    cases hbuild : Client.build c s.registry with
    | error e => rfl
    | ok c' =>
      rw [hbuild] at h
      cases h

/-- A run does not tell the two references to a domain apart that is registered when it begins. -/
theorem run_map_exchange {s : Session} (hs : s.registry.Distinct) (hf : ∀ ref, s.registry.Alike ref (f ref))
    (hg : ∀ ref, s.registry.Alike ref (g ref)) (steps : List Step) :
    s.run (steps.map (Step.exchange f g)) = s.run steps := by
  induction steps generalizing s with
  | nil => rfl
  | cons st rest ih =>
    -- The domains that are registered last, so the references mean the same after the step.
    have hlast := (s.domains_step st).subset
    have hrest := ih (distinct_step s st hs) (fun ref => (hf ref).mono hlast) (fun ref => (hg ref).mono hlast)
    simp only [List.map_cons, run, step_exchange hs hf hg st, hrest]

/-- **Numbers and names are interchangeable**: in every reachable session the registry lists no number and no name
twice, whatever is done later leaves its domains as they are, and a registration that fails changes nothing. So
whatever steps follow, giving the name of a registered domain in the place of its number, or its number in the place
of its name, in the first reference of a step or in the second one, changes no answer and nothing in the session. -/
theorem run_exchange (L : Ledger) (first rest : List Step) :
    (after L first).registry.Distinct ∧
      (after L first).registry.domains <+: (after L (first ++ rest)).registry.domains ∧
      (∀ st e, ((∃ d, st = .registry (.registerDomain d)) ∨ ∃ c, st = .build c) →
        ((after L first).step st).1 = .failure e → ((after L first).step st).2 = after L first) ∧
      ∀ f g, (∀ ref, (after L first).registry.Alike ref (f ref)) →
        (∀ ref, (after L first).registry.Alike ref (g ref)) →
          (after L first).run (rest.map (Step.exchange f g)) = (after L first).run rest := by
  have hdistinct := distinct_after L first
  refine ⟨hdistinct, ?_, fun st e hst he => step_of_refused hst he,
    fun f g hf hg => run_map_exchange hdistinct hf hg rest⟩
  rw [after_append]
  exact (after L first).domains_run rest

/-- A domain has the number of another one in digits as its name: 3 is called "1". -/
def digitSteps : List Step := testingSteps .plain 0 ++ [.registry (.registerDomain ⟨3, "1"⟩)]

/-- The name in the place of the number. -/
def digitsForNumber (ref : DomainRef) : DomainRef := if ref = .id 3 then .name "1" else ref

/-- The provider goes to the domain that is called so, not to the one with that number. -/
theorem run_exchange_digits :
    let s := after (.ofConfig .testing) digitSteps
    (∀ ref, s.registry.Alike ref (digitsForNumber ref)) ∧
      (s.run [.client (.registerProvider (.name "1") "p")]) = s.run [.client (.registerProvider (.id 3) "p")] ∧
      (s.registry.resolve (.name "1") = .ok 3 ∧ s.registry.resolve (.id 1) = .ok 1) ∧
      ∃ e, (s.step (.registry (.registerDomain ⟨4, "1"⟩))).1 = .failure e ∧
        (s.step (.registry (.registerDomain ⟨4, "1"⟩))).2 = s := by
  intro s
  have hmem : ⟨3, "1"⟩ ∈ s.registry.domains := by decide +kernel
  have halike : ∀ ref, s.registry.Alike ref (digitsForNumber ref) := by
    intro ref
    by_cases href : ref = .id 3
    · subst href
      exact .inr ⟨⟨3, "1"⟩, .id hmem, .name hmem⟩
    · exact .inl (if_neg href).symm
  obtain ⟨-, -, hrefused, hrun⟩ :=
    run_exchange (.ofConfig .testing) digitSteps [.client (.registerProvider (.id 3) "p")]
  have htaken : (s.step (.registry (.registerDomain ⟨4, "1"⟩))).1 = .failure (.duplicateDomain (.name "1")) := rfl
  exact ⟨halike, hrun _ _ halike halike, by decide +kernel, _, htaken, hrefused _ _ (.inl ⟨_, rfl⟩) htaken⟩

end Session

end TokenBridge
