import TokenBridge.Proofs.Client.Current
import TokenBridge.Proofs.Client.Rebuild
import TokenBridge.Proofs.Session.References

/-!
# Local changes

A client is asked to adjust one domain: to give it a provider or a signer, to take its signer away, or to rebind it.
What that does to the registry and to the directory is confined to the domain, whatever state the other domains are
in: the registry changes for it as it was asked to (`Registry.Adjusted`), its handles are bound to the connection that
the registry then has, and the handles of all other domains, those that are stale included, stay as they are
(`Directory.Rebound`). The domain is current then. A reference that names no registered domain is refused, and
nothing changes. `adjusts_locally` says so for every reachable session; for the signers of all domains at once
`clearSigners_current` says that afterwards every configured domain is current.
-/

namespace TokenBridge

/-- What a client is asked to do for one domain. -/
inductive Adjustment where
  /-- To give it a provider. -/
  | provide (provider : Provider)
  /-- To give it a signer. -/
  | sign (signer : Signer)
  /-- To take its signer away. -/
  | unsign
  /-- To rebind it. -/
  | rebind

namespace Adjustment

/-- The registry with the adjustment made for a domain. -/
def on (r : Registry) (domain : DomainId) : Adjustment → Registry
  | .provide provider => r.registerProvider domain provider
  | .sign signer => r.registerSigner domain signer
  | .unsign => r.unregisterSigner domain
  | .rebind => r

/-- The provider that a domain has after an adjustment, by the one before. -/
def provider? (before : Option Provider) : Adjustment → Option Provider
  | .provide provider => some provider
  | .sign _ | .unsign | .rebind => before

/-- The signer that a domain has after an adjustment, by the one before. -/
def signer? (before : Option Signer) : Adjustment → Option Signer
  | .sign signer => some signer
  | .unsign => none
  | .provide _ | .rebind => before

end Adjustment

namespace Registry

/-- One registry is another one with an adjustment made for a domain, and with nothing else changed. -/
structure Adjusted (r : Registry) (domain : DomainId) (a : Adjustment) (r' : Registry) : Prop where
  /-- The domains are the same. -/
  domains : r'.domains = r.domains
  /-- The domain has the provider that is asked for, or the one before. -/
  provider : r'.provider? domain = a.provider? (r.provider? domain)
  /-- The domain has the signer that is asked for, or the one before. -/
  signer : r'.signer? domain = a.signer? (r.signer? domain)
  /-- Every other domain keeps its provider and its signer. -/
  others : ∀ other, other ≠ domain → r'.provider? other = r.provider? other ∧ r'.signer? other = r.signer? other

/-- **The registry**: an adjustment is made for its domain alone. -/
theorem adjusted_on (r : Registry) (domain : DomainId) (a : Adjustment) : r.Adjusted domain a (a.on r domain) := by
  cases a with
  | provide provider =>
    refine ⟨rfl, ?_, rfl, fun other hother => ⟨?_, rfl⟩⟩
    · exact (r.provider?_registerProvider domain provider domain).trans (if_pos rfl)
    · exact (r.provider?_registerProvider domain provider other).trans (if_neg hother.symm)
  | sign signer =>
    refine ⟨rfl, rfl, ?_, fun other hother => ⟨rfl, ?_⟩⟩
    · exact (r.signer?_registerSigner domain signer domain).trans (if_pos rfl)
    · exact (r.signer?_registerSigner domain signer other).trans (if_neg hother.symm)
  | unsign =>
    refine ⟨rfl, rfl, ?_, fun other hother => ⟨rfl, ?_⟩⟩
    · exact (r.signer?_unregisterSigner domain domain).trans (if_pos rfl)
    · exact (r.signer?_unregisterSigner domain other).trans (if_neg hother.symm)
  | rebind => exact ⟨rfl, rfl, rfl, fun _ _ => ⟨rfl, rfl⟩⟩

/-- Only the domains decide what a reference resolves to. -/
theorem resolve_congr {r r' : Registry} (h : r'.domains = r.domains) (ref : DomainRef) :
    r'.resolve ref = r.resolve ref := by
  cases ref <;> simp only [resolve, find?, domain?, named?, h]

/-- A reference that names no registered domain is unknown. -/
theorem resolve_of_not_refersTo {r : Registry} {ref : DomainRef} (h : ∀ d, ¬ r.RefersTo d ref) :
    r.resolve ref = .error (.unknownDomain ref) := by
  have hnone : r.find? ref = none := by
    cases hfind : r.find? ref with
    | none => rfl
    | some d =>
      cases ref with
      | id number =>
        have hnumber : d.id = number := by simpa using List.find?_some hfind
        exact absurd (hnumber ▸ .id (List.mem_of_find?_eq_some hfind)) (h d)
      | name text =>
        have hname : d.name = text := by simpa using List.find?_some hfind
        exact absurd (hname ▸ .name (List.mem_of_find?_eq_some hfind)) (h d)
  rw [resolve, hnone]

end Registry

/-- The handles that are built anew are those on the same contracts. -/
theorem Core.handles_bind (d : DomainConfig) (k k' : Option Connection) :
    ((Core.ofConfig d k).bind k').handles = (Core.ofConfig d k).handles.map (·.bind k') := by
  simp [handles, ofConfig, bind, replicaHandles, Table.values, Table.map, Function.comp_def, Handle.bind]

theorem Bridge.handles_bind (domain : DomainId) (b : BridgeConfig) (k k' : Option Connection) :
    ((Bridge.ofConfig domain b k).bind k').handles = (Bridge.ofConfig domain b k).handles.map (·.bind k') := by
  cases h : b.nativeHelper <;> simp [handles, ofConfig, bind, Handle.bind, h]

namespace Directory

/-- One directory is another one with the handles on one domain bound to a connection, and with nothing else
changed. -/
structure Rebound (D : Directory) (domain : DomainId) (k : Option Connection) (D' : Directory) : Prop where
  /-- The configuration is the same. -/
  config : D'.config = D.config
  /-- There are entries for the same domains. -/
  keys : D'.cores.keys = D.cores.keys ∧ D'.bridges.keys = D.bridges.keys
  /-- The entries of the domain are bound to the connection. -/
  entries : D'.cores.get? domain = (D.cores.get? domain).map (·.bind k) ∧
    D'.bridges.get? domain = (D.bridges.get? domain).map (·.bind k)
  /-- The handles on the domain are those on the same contracts, bound to the connection. -/
  handles : D'.handles domain = (D.handles domain).map (·.bind k)
  /-- The entries of every other domain are the same, -/
  others : ∀ other, other ≠ domain →
    D'.cores.get? other = D.cores.get? other ∧ D'.bridges.get? other = D.bridges.get? other
  /-- and so are the handles on it. -/
  otherHandles : ∀ other, other ≠ domain → D'.handles other = D.handles other

/-- **The directory**: rebinding a domain binds its handles and leaves all others alone. -/
theorem rebound_rebind {c : Config} (h : c.validate = .ok ()) {connections : DomainId → Option Connection}
    {D : Directory} (hD : D = boundTo c connections) (domain : DomainId) (k : Option Connection) :
    D.Rebound domain k (D.rebind domain k) := by
  have hentries : (D.rebind domain k).cores.get? domain = (D.cores.get? domain).map (·.bind k) ∧
      (D.rebind domain k).bridges.get? domain = (D.bridges.get? domain).map (·.bind k) :=
    ⟨(Table.get?_modify ..).trans (if_pos rfl), (Table.get?_modify ..).trans (if_pos rfl)⟩
  have hothers : ∀ other, other ≠ domain → (D.rebind domain k).cores.get? other = D.cores.get? other ∧
      (D.rebind domain k).bridges.get? other = D.bridges.get? other := fun other hother =>
    ⟨(Table.get?_modify ..).trans (if_neg hother.symm), (Table.get?_modify ..).trans (if_neg hother.symm)⟩
  refine ⟨rfl, ⟨Table.keys_modify .., Table.keys_modify ..⟩, hentries, ?_, hothers, fun other hother => ?_⟩
  · rw [Directory.handles, Directory.handles, hentries.1, hentries.2, List.map_append]
    rw [hD, get?_cores_boundTo h, get?_bridges_boundTo h]
    cases c.domain? domain with
    | none => rfl
    | some d => cases hb : d.bridge <;> simp [Core.handles_bind, Bridge.ofDomain?, Bridge.handles_bind, hb]
  · rw [Directory.handles, Directory.handles, (hothers other hother).1, (hothers other hother).2]

end Directory

namespace Client

/-- Makes an adjustment for a domain. -/
def adjust (c : Client) (ref : DomainRef) (a : Adjustment) : Except BridgeError Client :=
  c.change ref fun r domain => a.on r domain

/-- **The step**: on a client with a sound directory an adjustment is made for the domain that is named, and for no
other, and leaves the domain current. -/
theorem Sound.adjust {c : Client} (h : c.Sound) {ref : DomainRef} {domain : DomainId}
    (hdomain : c.resolve ref = .ok domain) (a : Adjustment) :
    ∃ c', c.adjust ref a = .ok c' ∧ c.registry.Adjusted domain a c'.registry ∧
      c.directory.Rebound domain (c'.registry.connection? domain) c'.directory ∧ c'.isCurrent ref = .ok true := by
  have hadjusted := c.registry.adjusted_on domain a
  have hsound : ({ c with registry := a.on c.registry domain } : Client).Sound := h.withRegistry fun d hd => by
    rw [hadjusted.domains]
    exact hd
  have hresolve : (a.on c.registry domain).resolve ref = .ok domain := by
    rw [Registry.resolve_congr hadjusted.domains]
    exact hdomain
  obtain ⟨c', hrebind, hcurrent⟩ := hsound.isCurrent_of_rebind hresolve
  obtain ⟨id, hid, rfl⟩ := change_eq_ok.1 hrebind
  cases hid.symm.trans hresolve
  obtain ⟨connections, hD⟩ := h.bound
  exact ⟨_, change_eq_ok.2 ⟨domain, hdomain, rfl⟩, hadjusted, Directory.rebound_rebind h.valid hD domain _, hcurrent⟩

/-- Taking all signers away takes nothing else from the registry, and leaves every configured domain current. -/
theorem Sound.clearSigners_current {c : Client} (h : c.Sound) :
    c.clearSigners.registry = { c.registry with signers := .empty } ∧ c.clearSigners.config = c.config ∧
      ∀ d ∈ c.config.domains, c.clearSigners.isCurrent (.id d.id) = .ok true := by
  have hcleared : ({ c with registry := c.registry.clearSigners } : Client).Sound :=
    h.withRegistry fun _ hd => hd
  have heq : c.clearSigners = _ := hcleared.rebindAll_eq
  refine ⟨by rw [heq]; rfl, by rw [heq]; rfl, fun d hd => ?_⟩
  have hresolve : c.clearSigners.resolve (.id d.id) = .ok d.id := by
    rw [heq]
    exact Registry.resolve_id_iff.2 ⟨h.mem_domainIds hd, rfl⟩
  have hbound : c.clearSigners.directory = .boundTo c.clearSigners.config c.registry.clearSigners.connection? := by
    rw [heq]
    rfl
  exact h.clearSigners.isCurrent_of_bound hbound hresolve (by rw [heq])

end Client

namespace Session

/-- What a step on a client asks for, and for which domain, if it asks for an adjustment. A provider or a signer is
asked for by its name. -/
def asks (s : Session) : ClientStep → Option (DomainRef × Adjustment)
  | .registerProvider ref name => (s.providers.get? name).map fun provider => (ref, .provide provider)
  | .registerSigner ref name => (s.signers.get? name).map fun signer => (ref, .sign signer)
  | .unregisterSigner ref => some (ref, .unsign)
  | .rebind ref => some (ref, .rebind)
  | _ => none

theorem clientStep_of_asks {s : Session} {st : ClientStep} {ref : DomainRef} {a : Adjustment}
    (h : s.asks st = some (ref, a)) (c : Client) : s.clientStep c st = s.changeStep (c.adjust ref a) := by
  cases st with
  | registerProvider ref' name =>
    obtain ⟨provider, hprovider, heq⟩ := Option.map_eq_some_iff.1 h
    cases heq
    rw [clientStep, hprovider]
    rfl
  | registerSigner ref' name =>
    obtain ⟨signer, hsigner, heq⟩ := Option.map_eq_some_iff.1 h
    cases heq
    rw [clientStep, hsigner]
    rfl
  | unregisterSigner ref' =>
    cases h
    rfl
  | rebind ref' =>
    cases h
    rfl
  | _ => cases h

/-- **Adjustments are local and fail cleanly**: in every reachable session, whatever was done to the registry behind
the client's back, a step that asks for an adjustment by a reference that names no registered domain is refused and
changes nothing. By a reference to a registered domain it changes the registry for that domain alone, as it was asked
to, and binds the handles on that domain and no other to the connection that the registry then has, so that the domain
is current. Taking all signers away takes no provider away, and leaves every configured domain current. Nothing else
in the session changes. -/
theorem adjusts_locally {L : Ledger} {steps : List Step} {c : Client} (hc : (after L steps).client? = some c) :
    (∀ st ref a, (after L steps).asks st = some (ref, a) →
      ((∀ d, ¬ c.registry.RefersTo d ref) →
        (after L steps).step (.client st) = (.failure (.unknownDomain ref), after L steps)) ∧
      ∀ d, c.registry.RefersTo d ref →
        ∃ c', (after L steps).step (.client st) = (.none, (after L steps).withClient c') ∧
          c.registry.Adjusted d.id a c'.registry ∧
          c.directory.Rebound d.id (c'.registry.connection? d.id) c'.directory ∧ c'.isCurrent ref = .ok true) ∧
    ∃ c', (after L steps).step (.client .clearSigners) = (.none, (after L steps).withClient c') ∧
      (c'.registry.domains = c.registry.domains ∧
        ∀ domain, c'.registry.signer? domain = none ∧ c'.registry.provider? domain = c.registry.provider? domain) ∧
      c'.config = c.config ∧ ∀ d ∈ c.config.domains, c'.isCurrent (.id d.id) = .ok true := by
  have hsound := sound_after hc
  have hdistinct := distinct_client hc
  refine ⟨fun st ref a hst => ⟨fun hunknown => ?_, fun d hd => ?_⟩, ?_⟩
  · have hrefused : c.adjust ref a = .error (.unknownDomain ref) := by
      rw [Client.adjust, Client.change, Client.resolve, Registry.resolve_of_not_refersTo hunknown]
      rfl
    rw [step, hc]
    exact (clientStep_of_asks hst c).trans (by rw [hrefused]; rfl)
  · obtain ⟨c', hc', hadjusted, hrebound, hcurrent⟩ := hsound.adjust (hdistinct.resolve_of_refersTo hd) a
    refine ⟨c', ?_, hadjusted, hrebound, hcurrent⟩
    rw [step, hc]
    exact (clientStep_of_asks hst c).trans (by rw [hc']; rfl)
  · obtain ⟨hregistry, hconfig, hcurrent⟩ := hsound.clearSigners_current
    refine ⟨c.clearSigners, by rw [step, hc]; rfl, ⟨?_, fun domain => ⟨?_, ?_⟩⟩, hconfig, hcurrent⟩
    · rw [hregistry]
    · rw [hregistry]
      rfl
    · rw [hregistry]
      rfl

/-- The second domain got a provider behind the client's back. -/
def staleSteps : List Step := testingSteps .plain 0 ++ [.registry (.registerProvider 2 "p")]

/-- Taking the signer of the first domain away leaves the second one stale; taking all away leaves neither stale. -/
theorem adjusts_locally_stale :
    let s := after (.ofConfig .testing) staleSteps
    ∃ c, s.client? = some c ∧ c.isCurrent (.id 2) = .ok false ∧
      (∃ c', s.step (.client (.unregisterSigner (.name "alpha"))) = (.none, s.withClient c') ∧
        c'.registry.signer? 1 = none ∧ c'.directory.handles 2 = c.directory.handles 2 ∧
        c'.isCurrent (.name "alpha") = .ok true) ∧
      s.step (.client (.unregisterSigner (.name "gamma"))) = (.failure (.unknownDomain (.name "gamma")), s) ∧
      ∃ c', s.step (.client .clearSigners) = (.none, s.withClient c') ∧ c'.isCurrent (.id 2) = .ok true := by
  intro s
  have hc : s.client? = some ⟨s.registry, .boundTo .testing fun domain =>
      if domain = 1 then some ⟨⟨0, "http://alpha", .plain, 0⟩, some ⟨1, .ofNat 0xa⟩⟩ else none⟩ := rfl
  have halpha : (⟨1, "alpha"⟩ : Domain) ∈ s.registry.domains := by decide +kernel
  have hgamma : ∀ d, ¬ s.registry.RefersTo d (.name "gamma") := by
    intro d hd
    have hresolve := (distinct_after _ _).resolve_of_refersTo hd
    have hunknown : s.registry.resolve (.name "gamma") = .error (.unknownDomain (.name "gamma")) := by decide +kernel
    cases hunknown.symm.trans hresolve
  obtain ⟨hadjust, c₂, hclear, -, -, hcurrent⟩ := adjusts_locally hc
  obtain ⟨c₁, hstep, hadjusted, hrebound, hcurrent₁⟩ :=
    (hadjust (.unregisterSigner (.name "alpha")) _ _ rfl).2 _ (.name halpha)
  exact ⟨_, hc, by decide +kernel, ⟨c₁, hstep, hadjusted.signer, hrebound.otherHandles 2 (by decide), hcurrent₁⟩,
    (hadjust (.unregisterSigner (.name "gamma")) _ _ rfl).1 hgamma, c₂, hclear, hcurrent _ (.tail _ (.head _))⟩

end Session

end TokenBridge
