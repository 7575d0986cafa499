import TokenBridge.Proofs.Client.Contracts
import TokenBridge.Proofs.Handle
import TokenBridge.Proofs.Session.Orderly

/-!
# Tracing representations

After orderly deployments the token of a representation is traced back from the address, as the router knows it
there. It is so for every token but those of domain zero (`canonicalIdentity_representation`): the router tells
by domain zero that an address represents nothing, and the second look-up then finds the contract of the
representation itself and takes its address for a token of the domain that it is on. The answer names that other
token, it does not fail (`not_canonicalIdentity_of_representation`).
-/

namespace TokenBridge

/-- The token that an address stands for, by what the router of its domain knows. -/
def Ledger.identityOf (L : Ledger) (domain : DomainId) (router : Router) (address : Address) :
    Option TokenId :=
  let canonical := router.canonicals.getD address ⟨0, .zero⟩
  if canonical.domain ≠ 0 then some canonical
  else if L.addressOf domain router (.ofAddress domain address) = .zero then none
  else some (.ofAddress domain address)

namespace Client

/-- A client that reaches the router of a domain answers by what the router knows. -/
theorem canonicalIdentity_eq {c : Client} (hc : c.Sound) {L : Ledger} {domain : DomainId} {bridge : Bridge}
    {router : Router} (hbridge : c.directory.bridges.get? domain = some bridge)
    (hconnected : bridge.connection.isSome) (hreach : domain ∉ L.failing)
    (hrouter : L.routers.get? domain = some router) (address : Address) :
    c.canonicalIdentity L (.id domain) address = .ok (L.identityOf domain router address) := by
  have hresolve : c.resolve (.id domain) = .ok domain :=
    Registry.resolve_id_iff.2 ⟨hc.mem_domainIds_of_bridge hbridge, rfl⟩
  obtain ⟨d, b, connection, -, -, rfl⟩ := hc.bridge_eq_some hbridge
  have hread := Handle.checkConnected_eq_ok_iff (u := ()).2 hconnected
  have hcanonical := (RouterHandle.canonicalToken_of_connected hread L address).trans
    (Ledger.canonicalToken_eq_ok_iff.2 ⟨hreach, router, hrouter, rfl⟩)
  have hlocal := (RouterHandle.localAddress_of_connected hread L (.ofAddress domain address)).trans
    (Ledger.localAddress_eq_ok_iff.2 ⟨hreach, router, hrouter, rfl⟩)
  rw [canonicalIdentity, hresolve, Outcome.ok_bind, bridge_id_eq_ok_iff.2 hbridge, Outcome.ok_bind, hcanonical,
    Ledger.identityOf]
  simp only [Outcome.mapError_ok, Outcome.ok_bind, hlocal]
  by_cases hzero : (router.canonicals.getD address ⟨0, .zero⟩).domain ≠ 0
  · rw [if_pos hzero, if_pos hzero]
    rfl
  · rw [if_neg hzero, if_neg hzero]
    show (if L.addressOf domain router (.ofAddress domain address) = .zero then
        (.ok none : Except BridgeError (Option TokenId)) else .ok (some (.ofAddress domain address))) = _
    rw [apply_ite Except.ok]

/-- **Representations are traced back** to their tokens, after orderly deployments, except to tokens of domain
zero: a representation of one of those is taken for a token of the domain that it is on. -/
theorem canonicalIdentity_representation {cfg : Config} {steps : List Step} {c : Client} {domain : DomainId}
    {token : TokenId} {address : Address} {bridge : Bridge}
    (hclient : (Session.after (.ofConfig cfg) steps).client? = some c) (hconfig : c.config = cfg)
    (horderly : Session.Orderly steps)
    (hdeployed : .ledger (.deployRepresentation domain token address) ∈ steps)
    (hbridge : c.directory.bridges.get? domain = some bridge) (hconnected : bridge.connection.isSome)
    (hreach : domain ∉ (Session.after (.ofConfig cfg) steps).ledger.failing) :
    c.canonicalIdentity (Session.after (.ofConfig cfg) steps).ledger (.id domain) address =
        .ok (some (if token.domain = 0 then .ofAddress domain address else token)) ∧
      (c.canonicalIdentity (Session.after (.ofConfig cfg) steps).ledger (.id domain) address =
        .ok (some token) ↔ token.domain ≠ 0) := by
  have hc := Session.sound_after hclient
  have hvalid : cfg.validate = .ok () := hconfig ▸ hc.valid
  have hL : (Session.after (.ofConfig cfg) steps).ledger.Coherent c.config :=
    hconfig ▸ Session.coherent_after hvalid steps
  obtain ⟨d, b, _, hd, hb, -⟩ := hc.bridge_eq_some hbridge
  obtain ⟨router, hrouter, -⟩ := hL.router_of_config hd hb
  have hcanonical : router.canonicals.get? address = some token :=
    (Session.canonicals_after hvalid hrouter address).trans (horderly.represented_eq hdeployed)
  have hanswer : c.canonicalIdentity (Session.after (.ofConfig cfg) steps).ledger (.id domain) address =
      .ok (some (if token.domain = 0 then .ofAddress domain address else token)) := by
    rw [canonicalIdentity_eq hc hbridge hconnected hreach hrouter, Ledger.identityOf, Table.getD, hcanonical,
      Option.getD_some]
    by_cases hzero : token.domain = 0
    · -- The router keeps no address for the other token, but there is a contract where that token would be.
      have hown : router.locals.get? (.ofAddress domain address) = none :=
        (Session.locals_after hvalid hrouter _).trans (horderly.kept_own hdeployed)
      have hcontract := (hL.locals domain router hrouter token address
        ((Session.locals_after hvalid hrouter token).trans (horderly.kept_eq hdeployed))).1
      have haddress : (Session.after (.ofConfig cfg) steps).ledger.addressOf domain router
          (.ofAddress domain address) = address := by
        rw [Ledger.addressOf, hown]
        dsimp only [TokenId.ofAddress]
        rw [Word.narrow?_widen]
        exact if_pos ⟨rfl, hcontract⟩
      rw [if_neg (not_not_intro hzero), haddress, if_neg (horderly.ne_zero hdeployed), if_pos hzero]
    · rw [if_pos hzero, if_neg hzero]
  refine ⟨hanswer, ?_⟩
  rw [hanswer]
  by_cases hzero : token.domain = 0
  · have hother : TokenId.ofAddress domain address ≠ token := fun h =>
      horderly.domain_ne hdeployed (congrArg TokenId.domain h).symm
    simp [hzero, hother]
  · simp [hzero]

/-- A bridge between the domains zero and one. -/
def zeroConfig : Config :=
  .ofDomains "test" [⟨0, "zero", .ofNat 0x1001, [], some ⟨.ofNat 0x1100, none⟩, 1⟩,
    ⟨1, "one", .ofNat 0x2001, [], some ⟨.ofNat 0x2100, none⟩, 1⟩]

/-- Both domains get a provider and a token of their own, and each token gets a representation on the other
domain. -/
def zeroSteps : List Step :=
  [.provider "p" "http://alpha" .plain 0, .build zeroConfig, .client (.registerProvider (.id 0) "p"),
    .client (.registerProvider (.id 1) "p"), .ledger (.deployToken 0 (.ofNat 0x3001)),
    .ledger (.deployToken 1 (.ofNat 0x4001)),
    .ledger (.deployRepresentation 1 (.ofAddress 0 (.ofNat 0x3001)) (.ofNat 0x5001)),
    .ledger (.deployRepresentation 0 (.ofAddress 1 (.ofNat 0x4001)) (.ofNat 0x6001))]

/-- The client of that session: both domains are bound to the one provider. -/
def zeroClient : Client :=
  ⟨(Session.after (.ofConfig zeroConfig) zeroSteps).registry,
    .boundTo zeroConfig fun _ => some ⟨⟨0, "http://alpha", .plain, 0⟩, none⟩⟩

theorem client?_zeroSteps :
    (Session.after (.ofConfig zeroConfig) zeroSteps).client? = some zeroClient := rfl

theorem orderly_zeroSteps : Session.Orderly zeroSteps where
  nonzero := by decide +kernel
  places := by decide +kernel
  representations := by decide +kernel
  foreign := by decide +kernel

/-- The representation of the token of domain one is traced back to it, that of the token of domain zero is
not. -/
theorem canonicalIdentity_representation_zero :
    zeroClient.canonicalIdentity (Session.after (.ofConfig zeroConfig) zeroSteps).ledger (.id 0)
        (.ofNat 0x6001) = .ok (some (.ofAddress 1 (.ofNat 0x4001))) ∧
      zeroClient.canonicalIdentity (Session.after (.ofConfig zeroConfig) zeroSteps).ledger (.id 1)
        (.ofNat 0x5001) = .ok (some (.ofAddress 1 (.ofNat 0x5001))) := by
  have hdeployed : Step.ledger (.deployRepresentation 1 (.ofAddress 0 (.ofNat 0x3001)) (.ofNat 0x5001)) ∈
      zeroSteps := by simp [zeroSteps]
  have hdeployed' : Step.ledger (.deployRepresentation 0 (.ofAddress 1 (.ofNat 0x4001)) (.ofNat 0x6001)) ∈
      zeroSteps := by simp [zeroSteps]
  constructor
  · exact (canonicalIdentity_representation client?_zeroSteps rfl orderly_zeroSteps hdeployed' rfl rfl
      (by decide +kernel)).1
  · exact (canonicalIdentity_representation client?_zeroSteps rfl orderly_zeroSteps hdeployed rfl rfl
      (by decide +kernel)).1

/-- **Not every representation is traced back**, even where all deployments were orderly and all bridged domains
are bound and work. -/
theorem not_canonicalIdentity_of_representation : ¬ ∀ (cfg : Config) (steps : List Step) (c : Client)
    (domain : DomainId) (token : TokenId) (address : Address),
    (Session.after (.ofConfig cfg) steps).client? = some c → c.config = cfg → Session.Orderly steps →
    (∀ bridge ∈ c.directory.bridges.values, bridge.connection.isSome) →
    (∀ id ∈ c.directory.bridges.keys, id ∉ (Session.after (.ofConfig cfg) steps).ledger.failing) →
    .ledger (.deployRepresentation domain token address) ∈ steps → c.directory.bridges.contains domain →
    c.canonicalIdentity (Session.after (.ofConfig cfg) steps).ledger (.id domain) address =
      .ok (some token) := by
  intro hall
  have hfailing : (Session.after (.ofConfig zeroConfig) zeroSteps).ledger.failing = [] := by decide +kernel
  have htraced := hall zeroConfig zeroSteps zeroClient 1 (.ofAddress 0 (.ofNat 0x3001)) (.ofNat 0x5001)
    client?_zeroSteps rfl orderly_zeroSteps (by decide +kernel) (fun _ _ => hfailing ▸ List.not_mem_nil)
    (by simp [zeroSteps]) rfl
  have hother : zeroClient.canonicalIdentity (Session.after (.ofConfig zeroConfig) zeroSteps).ledger (.id 1)
      (.ofNat 0x5001) ≠ .ok (some (.ofAddress 0 (.ofNat 0x3001))) := by decide +kernel
  exact hother htraced

end Client

end TokenBridge
