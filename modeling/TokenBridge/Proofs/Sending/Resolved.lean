import TokenBridge.Proofs.Sending.Precondition
import TokenBridge.Proofs.Sending.Total
import TokenBridge.Proofs.Session.Orderly

/-!
# Resolved tokens

A client that resolves a token on a domain gets the contract at the address that the router gives. Whether the
router will also send from there is another look-up. The address that is given may be one that the router does not
know at all: a contract stands there, because somebody was given an amount or an allowance of it, and it is given for
the token of its own address. When it comes to sending, the router asks only what it was told by deployments.

So everything else being in order, what was resolved is sent exactly where a contract was deployed at the address
(`send_of_resolved`). Otherwise the router refuses, and it does so after the approval: that one is mined and stays.
-/

namespace TokenBridge

namespace Step

variable {st : Step} {domain : DomainId} {token : TokenId} {address : Address}

theorem place?_of_represents (h : st.represents? domain address = some token) :
    st.place? = some (domain, address) := by
  cases st with
  | ledger change =>
    cases change with
    | deployRepresentation d t a =>
      obtain ⟨⟨rfl, rfl⟩, -⟩ := Option.ite_none_right_eq_some.1 h
      rfl
    | _ => cases h
  | _ => cases h

theorem place?_of_keeps (h : st.keeps? domain token = some address) : st.place? = some (domain, address) := by
  cases st with
  | ledger change =>
    cases change with
    | deployToken d a | deployNativeToken d a | deployRepresentation d t a =>
      obtain ⟨⟨rfl, -⟩, heq⟩ := Option.ite_none_right_eq_some.1 h
      cases heq
      rfl
    | _ => cases h
  | _ => cases h

/-- A contract is put in place as the token of its own address or as a representation. -/
theorem keeps_or_represents (h : st.place? = some (domain, address)) :
    st.keeps? domain (.ofAddress domain address) = some address ∨
      ∃ token, st.represents? domain address = some token := by
  cases st with
  | ledger change =>
    cases change with
    | deployToken d a | deployNativeToken d a =>
      cases h
      exact .inl (if_pos ⟨rfl, rfl⟩)
    | deployRepresentation d t a =>
      cases h
      exact .inr ⟨t, if_pos ⟨rfl, rfl⟩⟩
    | _ => cases h
  | _ => cases h

end Step

namespace Session

variable {steps : List Step} {domain : DomainId} {token : TokenId} {address : Address}

/-- Some step put a contract in place at an address of a domain. -/
def Deployed (steps : List Step) (domain : DomainId) (address : Address) : Prop :=
  ∃ st ∈ steps, st.place? = some (domain, address)

instance (steps : List Step) (domain : DomainId) (address : Address) : Decidable (Deployed steps domain address) :=
  inferInstanceAs (Decidable (∃ st ∈ steps, _))

theorem deployed_of_represented (h : represented steps domain address = some token) :
    Deployed steps domain address := by
  obtain ⟨st, hst, hrepresents⟩ := exists_of_last h
  exact ⟨st, hst, Step.place?_of_represents hrepresents⟩

theorem deployed_of_kept (h : kept steps domain token = some address) : Deployed steps domain address := by
  obtain ⟨st, hst, hkeeps⟩ := exists_of_last h
  exact ⟨st, hst, Step.place?_of_keeps hkeeps⟩

/-- A deployment at an address leaves the address to represent a token, or the router to keep some address for the
token of the address itself. -/
theorem Deployed.known (h : Deployed steps domain address) :
    represented steps domain address ≠ none ∨ kept steps domain (.ofAddress domain address) ≠ none := by
  obtain ⟨st, hst, hplace⟩ := h
  rcases Step.keeps_or_represents hplace with hkeeps | ⟨token, hrepresents⟩
  · exact .inr (last_ne_none hst hkeeps)
  · exact .inl (last_ne_none hst hrepresents)

/-- **The two look-ups**: where a router gives an address for a token, it takes that address for a token exactly
where a contract was deployed there. -/
theorem canonicalOf_iff_deployed {c : Config} (hvalid : c.validate = .ok ())
    (haddress : (after (.ofConfig c) steps).ledger.localAddress domain token = .ok address)
    (hne : address ≠ .zero) :
    (∃ canonical, (after (.ofConfig c) steps).ledger.canonicalOf domain address = .ok canonical) ↔
      Deployed steps domain address := by
  obtain ⟨-, router, hrouter, hgiven⟩ := Ledger.localAddress_eq_ok_iff.1 haddress
  have hcanonicals := canonicals_after hvalid hrouter address
  have hlocals := locals_after hvalid hrouter
  constructor
  · rintro ⟨canonical, hcanonical⟩
    obtain ⟨router', hrouter', hknown⟩ := Ledger.canonicalOf_eq_ok_iff.1 hcanonical
    cases hrouter.symm.trans hrouter'
    rcases hknown with hrepresented | ⟨-, -, hkept⟩
    · exact deployed_of_represented (hcanonicals.symm.trans hrepresented)
    · exact deployed_of_kept ((hlocals canonical).symm.trans hkept)
  · intro hdeployed
    cases hrepresented : router.canonicals.get? address with
    | some canonical => exact ⟨canonical, Ledger.canonicalOf_eq_ok_iff.2 ⟨router, hrouter, .inl hrepresented⟩⟩
    | none =>
      -- The address represents nothing, so the router keeps some address for its token, and gives that one.
      have hown : token = .ofAddress domain address := by
        have hL := coherent_after hvalid steps
        rcases (hL.of_localAddress haddress hne).2 with hown | ⟨router', hrouter', hcontains⟩
        · exact hown
        · cases hrouter.symm.trans hrouter'
          rw [Table.contains, hrepresented] at hcontains
          cases hcontains
      have hkept : router.locals.get? token = some address := by
        rcases hdeployed.known with hrepresents | hkeeps
        · exact absurd (hcanonicals.symm.trans hrepresented) hrepresents
        · obtain ⟨given, hkept⟩ := Option.ne_none_iff_exists'.1 hkeeps
          rw [← hlocals, ← hown] at hkept
          rw [Ledger.addressOf, hkept] at hgiven
          rwa [← hgiven]
      exact ⟨token, Ledger.canonicalOf_eq_ok_iff.2 ⟨router, hrouter, .inr ⟨hrepresented, hown, hkept⟩⟩⟩

end Session

/-- A router that takes an address for no token refuses it as unknown. -/
theorem Ledger.canonicalOf_eq_unknown {L : Ledger} {domain : DomainId} {address : Address} {router : Router}
    (hrouter : L.routers.get? domain = some router)
    (h : ¬ ∃ canonical, L.canonicalOf domain address = .ok canonical) :
    L.canonicalOf domain address = .error (.refusal .unknownToken) := by
  rw [canonicalOf, router_eq_ok_iff.2 hrouter, Outcome.ok_bind] at h ⊢
  cases hcanonical : router.canonicals.get? address with
  | some canonical => exact absurd ⟨canonical, by rw [hcanonical]; rfl⟩ h
  | none =>
    rw [hcanonical] at h
    dsimp only at h ⊢
    split
    · next hown => exact absurd ⟨_, if_pos hown⟩ h
    · rfl

/-- What a router cannot take for a token it does not send. -/
theorem Ledger.checkSend_of_unknown {L : Ledger} {domain destination : DomainId} {address : Address} {e : ChainError}
    (hreach : domain ∉ L.failing) (hremote : destination ≠ domain ∧ L.routers.contains destination)
    (hunknown : L.canonicalOf domain address = .error e) (sender : Address) (amount : Quantity) :
    L.checkSend domain sender address amount destination = .error e := by
  have hchecked := checkReachable_eq_ok_iff (u := ()).2 hreach
  have hother := checkRemote_eq_ok_iff (u := ()).2 hremote
  rw [checkSend, hchecked, Outcome.ok_bind, hother, Outcome.ok_bind, hunknown]
  rfl

namespace Client

/-- What has to hold of a client and a ledger so that nothing but the token can be in the way of a request: the token
resolves to a contract on the origin, and everything around it is in order. -/
structure Resolves (c : Client) (L : Ledger) (request : TransferRequest) (origin destination : DomainId)
    (owner : Address) (contract : TokenHandle) : Prop where
  /-- The domain to send from is registered. -/
  origin_registered : c.resolve request.origin = .ok origin
  /-- The domain to send to is registered. -/
  destination_registered : c.resolve request.destination = .ok destination
  /-- The ends are two domains. -/
  distinct : origin ≠ destination
  /-- The origin has bridge contracts that are bound to a signer. -/
  signed : ∃ bridge, c.directory.bridges.get? origin = some bridge ∧ bridge.signerAddress? = some owner
  /-- The entries of the origin are current. -/
  current : c.isCurrent request.origin = .ok true
  /-- The destination has bridge contracts. -/
  remote : c.directory.bridges.contains destination
  /-- The origin does not fail. -/
  reachable : origin ∉ L.failing
  /-- Transactions on the origin succeed. -/
  succeeds : origin ∉ L.reverting
  /-- The token resolves to the contract. -/
  resolved : c.representation L request.origin request.token = .ok (some contract)
  /-- The amount is not zero. -/
  amount_ne_zero : request.amount ≠ .zero
  /-- The account owns the amount. -/
  balance : ¬ L.balance origin contract.address owner < request.amount

variable {c : Client} {L : Ledger} {request : TransferRequest} {origin destination : DomainId} {owner : Address}
  {contract : TokenHandle}

/-- The router of the origin gives the address of the contract. -/
theorem Resolves.address (hc : c.Sound) (h : c.Resolves L request origin destination owner contract) :
    request.token.domain ∈ c.registry.domainIds ∧
      L.localAddress origin request.token = .ok contract.address ∧ contract.address ≠ .zero := by
  have hresolved := h.resolved
  rw [representation, h.origin_registered, Outcome.ok_bind] at hresolved
  obtain ⟨domain, hdomain, hon⟩ := Outcome.bind_eq_ok.1 hresolved
  obtain ⟨bridge, hbridge, address, haddress, hne, rfl⟩ := representationOn_eq_some_iff.1 hon
  obtain ⟨bridge', hbridge', howner⟩ := h.signed
  cases hbridge.symm.trans hbridge'
  obtain ⟨d, b, connection, -, -, hofConfig⟩ := hc.bridge_eq_some hbridge
  have hsender : bridge.router.sender = .ok owner := Handle.sender_eq_ok_iff.2 howner
  rw [RouterHandle.localAddress_of_sender hsender, hofConfig] at haddress
  exact ⟨(Registry.resolve_id_iff.1 hdomain).1, haddress, hne⟩

/-- The registry has a provider for the origin. -/
theorem Resolves.connected (h : c.Resolves L request origin destination owner contract) :
    ∃ provider, c.registry.provider? origin = some provider := by
  obtain ⟨bridge, hbridge, howner⟩ := h.signed
  exact Option.ne_none_iff_exists'.1 (provider?_of_isCurrent h.current h.origin_registered hbridge howner)

/-- The destination is configured with bridge contracts. -/
theorem Resolves.remote_configured (hc : c.Sound) (h : c.Resolves L request origin destination owner contract) :
    ∃ d, c.config.domain? destination = some d ∧ d.bridge.isSome := by
  obtain ⟨remote, hremote⟩ := Option.isSome_iff_exists.1 h.remote
  obtain ⟨d, b, -, hd, hb, -⟩ := hc.bridge_eq_some hremote
  exact ⟨d, hd, by rw [hb]; rfl⟩

/-- Where the router takes the address for a token, all conditions of a sending hold. -/
theorem Resolves.sendable (hc : c.Sound) (h : c.Resolves L request origin destination owner contract)
    {canonical : TokenId} (hcanonical : L.canonicalOf origin contract.address = .ok canonical) :
    c.Sendable L request origin destination owner contract.address canonical := by
  obtain ⟨htoken, haddress, hne⟩ := h.address hc
  exact {
    origin_registered := h.origin_registered
    destination_registered := h.destination_registered
    token_registered := htoken
    amount_ne_zero := h.amount_ne_zero
    signed := h.signed
    connected := h.connected
    reachable := h.reachable
    succeeds := h.succeeds
    address := haddress
    address_ne_zero := hne
    distinct := h.distinct
    remote := h.remote_configured hc
    canonical := hcanonical
    balance := h.balance }

/-- Where the router takes the address for no token, the sending fails for that once the allowance is seen to. -/
theorem Resolves.send_on_of_unknown {n : Network} (hc : c.Sound) (hn : n.ledger.Coherent c.config)
    (h : c.Resolves n.ledger request origin destination owner contract)
    (hplain : ∀ domain provider, c.registry.provider? domain = some provider → provider.conduct = .plain)
    (hunknown : n.ledger.canonicalOf origin contract.address = .error (.refusal .unknownToken)) :
    ∃ d b n', c.config.domain? origin = some d ∧ d.bridge = some b ∧
      (c.send request).on n = (.error (.chain origin .send (.refusal .unknownToken)), n') ∧
      n'.ledger = n.ledger.readied origin contract.address owner b.router request.amount := by
  obtain ⟨htoken, haddress, hne⟩ := h.address hc
  obtain ⟨p, hplan, rfl, rfl, rfl, hcontract⟩ := hc.exists_plan h.origin_registered h.destination_registered htoken
    h.amount_ne_zero h.signed haddress hne
  obtain ⟨d, b, m, hd, hb, hallowance, hm, -⟩ :=
    ensureAllowance_of_plan hc hn hplain hplan h.connected h.succeeds
  rw [hcontract] at hm
  have hp := hc.bound_of_plan hplan
  have hrefused : m.ledger.checkSend p.origin p.owner p.representation.address request.amount p.destination =
      .error (.refusal .unknownToken) := by
    refine Ledger.checkSend_of_unknown ?_ ⟨h.distinct.symm, ?_⟩ ?_ _ _
    · rw [hm, Ledger.failing_readied]
      exact h.reachable
    · rw [hm, Ledger.routers_readied]
      exact (hn.contains_routers_iff p.destination).2 (h.remote_configured hc)
    · rw [hm, hcontract, Ledger.canonicalOf_congr (Ledger.routers_readied ..), hunknown]
  refine ⟨d, b, m, hd, hb, ?_, hm⟩
  rw [send_on_of_allowed hplan hallowance]
  refine transfer_on_of_refused ?_
  rw [RouterHandle.send_of_sender hp.router_sender, hp.router_domain, Ledger.send_of_refused hrefused]

/-- **What resolves is sent where it was deployed**: in every reachable session over plain providers whose client and
ledger were made from one configuration, and where nothing but the token can be in the way, the sending gives a
transfer back exactly where a contract was deployed at the address that the token resolves to. Where none was, the
router refuses the token as unknown, after the approval, which is all that the sending leaves behind. -/
theorem send_of_resolved {cfg : Config} {steps : List Step}
    (hclient : (Session.after (.ofConfig cfg) steps).client? = some c) (hconfig : c.config = cfg)
    (hplain : ∀ domain provider, c.registry.provider? domain = some provider → provider.conduct = .plain)
    (h : c.Resolves (Session.after (.ofConfig cfg) steps).ledger request origin destination owner contract) :
    ((∃ t n', (c.send request).on (Session.after (.ofConfig cfg) steps).network = (.ok t, n')) ↔
      Session.Deployed steps origin contract.address) ∧
    (¬ Session.Deployed steps origin contract.address →
      ∃ d b n', cfg.domain? origin = some d ∧ d.bridge = some b ∧
        (c.send request).on (Session.after (.ofConfig cfg) steps).network =
          (.error (.chain origin .send (.refusal .unknownToken)), n') ∧
        n'.ledger = (Session.after (.ofConfig cfg) steps).ledger.readied origin contract.address owner b.router
          request.amount) := by
  have hc := Session.sound_after hclient
  have hvalid : cfg.validate = .ok () := hconfig ▸ hc.valid
  have hn : (Session.after (.ofConfig cfg) steps).network.ledger.Coherent c.config :=
    hconfig ▸ Session.coherent_after hvalid steps
  obtain ⟨-, haddress, hne⟩ := h.address hc
  have hdeployed := Session.canonicalOf_iff_deployed hvalid haddress hne
  have hunknown : ¬ Session.Deployed steps origin contract.address →
      ∃ d b n', c.config.domain? origin = some d ∧ d.bridge = some b ∧
        (c.send request).on (Session.after (.ofConfig cfg) steps).network =
          (.error (.chain origin .send (.refusal .unknownToken)), n') ∧
        n'.ledger = (Session.after (.ofConfig cfg) steps).ledger.readied origin contract.address owner b.router
          request.amount := by
    intro hnot
    obtain ⟨-, router, hrouter, -⟩ := Ledger.localAddress_eq_ok_iff.1 haddress
    exact h.send_on_of_unknown hc hn hplain (Ledger.canonicalOf_eq_unknown hrouter (mt hdeployed.1 hnot))
  refine ⟨⟨?_, ?_⟩, hconfig ▸ hunknown⟩
  · rintro ⟨t, n', hsend⟩
    by_contra hnot
    obtain ⟨d, b, m, -, -, hon, -⟩ := hunknown hnot
    cases hon.symm.trans hsend
  · intro hyes
    obtain ⟨canonical, hcanonical⟩ := hdeployed.2 hyes
    obtain ⟨_, _, _, _, t, n', -, -, -, -, -, -, -, hon, -⟩ :=
      send_on_of_sendable hc hn (h.sendable hc hcanonical) hplain
    exact ⟨t, n', hon⟩

/-- The steps of the small session without the deployment of the token: the account that signs is given 100 of it all
the same. -/
def mintedSteps : List Step :=
  [.provider "p" "http://alpha" .plain 0, .signer "o" (.ofNat 0xa), .build .testing,
    .client (.registerProvider (.id 1) "p"), .client (.registerSigner (.id 1) "o"),
    .ledger (.mint 1 (.ofNat 0x3001) (.ofNat 0xa) (.ofNat 100))]

theorem client?_mintedSteps : (Session.after (.ofConfig .testing) mintedSteps).client? =
    some (Session.testingClient .plain 0) := rfl

/-- The token resolves with and without the deployment. -/
theorem resolves_minted : ∀ steps ∈ [mintedSteps, Session.testingSteps .plain 0],
    (Session.testingClient .plain 0).Resolves (Session.after (.ofConfig .testing) steps).ledger
      Session.testingRequest 1 2 (.ofNat 0xa)
      ⟨⟨1, .ofNat 0x3001, some ⟨⟨0, "http://alpha", .plain, 0⟩, some ⟨1, .ofNat 0xa⟩⟩⟩⟩ := by
  intro steps hsteps
  have hboth : steps = mintedSteps ∨ steps = Session.testingSteps .plain 0 := by simpa using hsteps
  rcases hboth with rfl | rfl <;> exact {
    origin_registered := by decide +kernel
    destination_registered := by decide +kernel
    distinct := by decide
    signed := ⟨_, rfl, by decide +kernel⟩
    current := by decide +kernel
    remote := by decide +kernel
    reachable := by decide +kernel
    succeeds := by decide +kernel
    resolved := by decide +kernel
    amount_ne_zero := by decide +kernel
    balance := by decide +kernel }

/-- With the deployment the request is fulfilled, and without it the router refuses, with the approval left behind. -/
theorem send_of_resolved_minted :
    (∃ t n', ((Session.testingClient .plain 0).send Session.testingRequest).on
      (Session.testing .plain 0).network = (.ok t, n')) ∧
    ∃ n', ((Session.testingClient .plain 0).send Session.testingRequest).on
        (Session.after (.ofConfig .testing) mintedSteps).network =
          (.error (.chain 1 .send (.refusal .unknownToken)), n') ∧
      n'.ledger.submitted.map Submission.request = [.approve (.ofNat 0x3001) (.ofNat 0x1100) (.ofNat 60)] := by
  have hplain : ∀ domain provider, (Session.testingClient .plain 0).registry.provider? domain = some provider →
      provider.conduct = .plain := fun _ _ => Session.conduct_of_testingClient
  constructor
  · exact (send_of_resolved (Session.client?_testing .plain 0) rfl hplain
      (resolves_minted _ (.tail _ (.head _)))).1.2 (by decide +kernel)
  · obtain ⟨d, b, n', hd, hb, hon, hledger⟩ := (send_of_resolved client?_mintedSteps rfl hplain
      (resolves_minted _ (.head _))).2 (by decide +kernel)
    refine ⟨n', hon, ?_⟩
    have hrouter : ∀ d ∈ Config.testing.domain? 1, ∀ b ∈ d.bridge, b.router = .ofNat 0x1100 := by decide +kernel
    rw [hledger, hrouter d hd b hb]
    decide +kernel

/-- **Not everything that resolves is sent**, even over plain providers, with everything around it in order and
counters that have room. -/
theorem not_sent_of_resolved : ¬ ∀ (cfg : Config) (steps : List Step) (c : Client) (request : TransferRequest)
    (origin destination : DomainId) (owner : Address) (contract : TokenHandle),
    (Session.after (.ofConfig cfg) steps).client? = some c → c.config = cfg →
    (∀ domain provider, c.registry.provider? domain = some provider → provider.conduct = .plain) →
    ((Session.after (.ofConfig cfg) steps).ledger.nextNonce origin destination).toNat < 2 ^ 32 - 1 →
    (Session.after (.ofConfig cfg) steps).ledger.submitted.length < 2 ^ 64 - 2 →
    c.Resolves (Session.after (.ofConfig cfg) steps).ledger request origin destination owner contract →
    ∃ t n', (c.send request).on (Session.after (.ofConfig cfg) steps).network = (.ok t, n') := by
  intro hall
  obtain ⟨t, n', hon⟩ := hall .testing mintedSteps _ Session.testingRequest 1 2 _ _ client?_mintedSteps rfl
    (fun _ _ => Session.conduct_of_testingClient) (by decide +kernel) (by decide +kernel)
    (resolves_minted _ (.head _))
  have hfails : (((Session.testingClient .plain 0).send Session.testingRequest).on
      (Session.after (.ofConfig .testing) mintedSteps).network).1.toOption = none := by decide +kernel
  rw [hon] at hfails
  cases hfails

end Client

end TokenBridge
