import TokenBridge.Proofs.Sending.Launch
import TokenBridge.Proofs.Session.Reachable

/-!
# When a token is sent

Over plain providers, a sending gives a transfer back exactly where the conditions of `Sendable` hold, and then
the transfer is the requested one and the ledger is changed by just that transfer (`send_ok_iff`).

One direction runs the stages: the conditions let a plan come about (`Sendable.plan_eq`), the first stage readies
the ledger (`ledger_ensureAllowance`), the router finds everything in order there (`Sendable.checkSend_readied`),
and what is sent is confirmed (`send_on_of_sendable`). The other direction reads the conditions off the stages
of a sending that gave a transfer back (`sendable_of_send`).
-/

namespace TokenBridge.Client

/-- What has to hold of a client and a ledger so that a request is fulfilled. The names say what the request
comes to: its two ends, the account that signs, the address of the token on the origin, and the token that the
router takes that address for. -/
structure Sendable (c : Client) (L : Ledger) (request : TransferRequest) (origin destination : DomainId)
    (owner token : Address) (canonical : TokenId) : Prop where
  /-- The domain to send from is registered. -/
  origin_registered : c.resolve request.origin = .ok origin
  /-- The domain to send to is registered. -/
  destination_registered : c.resolve request.destination = .ok destination
  /-- The domain of the token is registered. -/
  token_registered : request.token.domain ∈ c.registry.domainIds
  /-- The amount is not zero. -/
  amount_ne_zero : request.amount ≠ .zero
  /-- The origin has bridge contracts that are bound to a signer. -/
  signed : ∃ bridge, c.directory.bridges.get? origin = some bridge ∧ bridge.signerAddress? = some owner
  /-- The registry has a provider for the origin. -/
  connected : ∃ provider, c.registry.provider? origin = some provider
  /-- The origin does not fail. -/
  reachable : origin ∉ L.failing
  /-- Transactions on the origin succeed. -/
  succeeds : origin ∉ L.reverting
  /-- The router of the origin gives an address for the token. -/
  address : L.localAddress origin request.token = .ok token
  /-- That address is not zero. -/
  address_ne_zero : token ≠ .zero
  /-- The ends are two domains. -/
  distinct : origin ≠ destination
  /-- The destination is configured with bridge contracts. -/
  remote : ∃ d, c.config.domain? destination = some d ∧ d.bridge.isSome
  /-- The router takes the address for a token. -/
  canonical : L.canonicalOf origin token = .ok canonical
  /-- The account owns the amount. -/
  balance : ¬ L.balance origin token owner < request.amount

/-- What a fulfilled request gives back, and what becomes of the ledger. -/
structure Fulfilled (L L' : Ledger) (request : TransferRequest) (origin destination : DomainId)
    (owner token router : Address) (canonical : TokenId) (t : Transfer) : Prop where
  /-- The transfer comes from the origin. -/
  origin_eq : t.origin = origin
  /-- It goes to the destination. -/
  destination_eq : t.destination = destination
  /-- It moves the requested amount. -/
  amount_eq : t.amount = request.amount
  /-- It moves it to the recipient. -/
  beneficiary_eq : t.action.beneficiary = request.recipient.widen
  /-- It moves the token that the router takes the address for. -/
  token_eq : t.token = canonical
  /-- Its nonce is the next one that the home of the origin had for the destination. -/
  nonce_eq : t.nonce = L.nextNonce origin destination
  /-- Its receipt is the one that the ledger has of its transaction. -/
  recorded : L'.receipt t.transaction = .ok t.receipt
  /-- The ledger is changed by just the transfer. -/
  effect : L.Sent L' origin token owner router request.amount destination

variable {c : Client} {n : Network} {request : TransferRequest} {origin destination : DomainId}
  {owner token : Address} {canonical : TokenId}

/-- A plain provider answers at once with what the ledger knows. -/
theorem confirms_of_plain {provider : Provider} (hplain : provider.conduct = .plain) {transaction : Word}
    {receipt : Receipt} (hreceipt : n.ledger.receipt transaction = .ok receipt)
    (hsucceeded : receipt.succeeded) : c.Confirms (answer provider n transaction) receipt := by
  refine ⟨0, ?_, Nat.zero_le _, hsucceeded⟩
  rw [answer_of_plain hplain, hreceipt]

section Readying

variable {p : Plan} {provider : Provider} {d : DomainConfig} {amount : Quantity}

/-- Where the token has a contract on a domain that works, the allowance is seen to one way or the other. -/
theorem ensureAllowance_on_of_contract (hp : p.Bound)
    (hprovider : c.registry.provider? p.origin = some provider) (hd : c.config.domain? p.origin = some d)
    (hreach : p.origin ∉ n.ledger.failing)
    (hcontract : n.ledger.tokens.contains (p.origin, p.representation.address)) (amount : Quantity) :
    ¬ n.ledger.allowed p.origin p.representation.address p.owner p.router.address < amount ∧
        (c.ensureAllowance p amount).on n = (.ok (), n) ∨
      n.ledger.allowed p.origin p.representation.address p.owner p.router.address < amount ∧
        ∃ m, m = waited
            ⟨n.ledger.approved p.origin p.representation.address p.owner p.router.address amount, n.waits⟩
            provider (n.ledger.nextHash p.origin) d.confirmations ∧
          (c.ensureAllowance p amount).on n =
            ((settle p.origin .approve (n.ledger.nextHash p.origin) c.config.receiptTimeout
              (answer provider m (n.ledger.nextHash p.origin))).map fun _ => (), m) := by
  have hread : p.representation.allowance n.ledger p.owner p.router.address =
      .ok (n.ledger.allowed p.origin p.representation.address p.owner p.router.address) := by
    rw [TokenHandle.allowance_of_sender hp.representation_sender, hp.representation_domain]
    exact Ledger.allowance_eq_ok_iff.2 ⟨hreach, hcontract, rfl⟩
  by_cases hless : n.ledger.allowed p.origin p.representation.address p.owner p.router.address < amount
  · have happrove : p.representation.approve n.ledger p.router.address amount =
        (.ok (n.ledger.nextHash p.origin),
          n.ledger.approved p.origin p.representation.address p.owner p.router.address amount) := by
      rw [TokenHandle.approve_of_sender hp.representation_sender, hp.representation_domain]
      exact Ledger.approve_of_contract hreach hcontract p.owner p.router.address amount
    exact .inr ⟨hless, _, rfl, ensureAllowance_on_of_approved hprovider hd hread hless happrove⟩
  · exact .inl ⟨hless, ensureAllowance_on_of_enough hread hless⟩

/-- The first stage readies the ledger, whether the approval is confirmed or not. -/
theorem ledger_ensureAllowance (hp : p.Bound) (hprovider : c.registry.provider? p.origin = some provider)
    (hd : c.config.domain? p.origin = some d) (hreach : p.origin ∉ n.ledger.failing)
    (hcontract : n.ledger.tokens.contains (p.origin, p.representation.address)) (amount : Quantity) :
    ((c.ensureAllowance p amount).on n).2.ledger =
      n.ledger.readied p.origin p.representation.address p.owner p.router.address amount := by
  rw [Ledger.readied]
  rcases ensureAllowance_on_of_contract hp hprovider hd hreach hcontract amount with
    ⟨henough, hon⟩ | ⟨hless, m, rfl, hon⟩
  · rw [if_neg henough, hon]
  · rw [if_pos hless, hon]
    rfl

/-- Where transactions succeed and the provider is a plain one, the first stage does not fail. -/
theorem ensureAllowance_ok (hp : p.Bound) (hprovider : c.registry.provider? p.origin = some provider)
    (hplain : provider.conduct = .plain) (hd : c.config.domain? p.origin = some d)
    (hreach : p.origin ∉ n.ledger.failing) (hsucceeds : p.origin ∉ n.ledger.reverting)
    (hcontract : n.ledger.tokens.contains (p.origin, p.representation.address)) (amount : Quantity) :
    ((c.ensureAllowance p amount).on n).1 = .ok () := by
  rcases ensureAllowance_on_of_contract hp hprovider hd hreach hcontract amount with
    ⟨-, hon⟩ | ⟨-, m, rfl, hon⟩
  · rw [hon]
  · rw [hon, settle_eq_ok_iff.2 (confirms_of_plain hplain (Ledger.receipt_approved ..)
      (Ledger.succeeded_nextReceipt hsucceeds _))]
    rfl

end Readying

/-- A plan comes about where the router of a bound origin gives an address for the token. -/
theorem Sound.exists_plan (hc : c.Sound) {L : Ledger} (horigin : c.resolve request.origin = .ok origin)
    (hdestination : c.resolve request.destination = .ok destination)
    (htoken : request.token.domain ∈ c.registry.domainIds) (hamount : request.amount ≠ .zero)
    (hsigned : ∃ bridge, c.directory.bridges.get? origin = some bridge ∧ bridge.signerAddress? = some owner)
    (haddress : L.localAddress origin request.token = .ok token) (hne : token ≠ .zero) :
    ∃ p, c.plan L request = .ok p ∧ p.origin = origin ∧ p.destination = destination ∧ p.owner = owner ∧
      p.representation.address = token := by
  obtain ⟨bridge, hbridge, howner⟩ := hsigned
  obtain ⟨d, b, connection, -, -, hofConfig⟩ := hc.bridge_eq_some hbridge
  refine ⟨⟨origin, destination, bridge.router, ⟨⟨origin, token, bridge.connection⟩⟩, owner⟩,
    plan_eq_ok_iff.2 ⟨horigin, hdestination, htoken, hamount, bridge, hbridge, howner, rfl, ?_, hne, rfl⟩,
    rfl, rfl, rfl, rfl⟩
  have hsender : bridge.router.sender = .ok owner := Handle.sender_eq_ok_iff.2 howner
  rw [RouterHandle.localAddress_of_sender hsender, hofConfig]
  exact haddress

/-- Where the conditions hold, a plan comes about. -/
theorem Sendable.plan_eq (hc : c.Sound) {L : Ledger}
    (hs : c.Sendable L request origin destination owner token canonical) :
    ∃ p, c.plan L request = .ok p ∧ p.origin = origin ∧ p.destination = destination ∧ p.owner = owner ∧
      p.representation.address = token :=
  hc.exists_plan hs.origin_registered hs.destination_registered hs.token_registered hs.amount_ne_zero hs.signed
    hs.address hs.address_ne_zero

/-- **The first stage of a plan**, over plain providers and where transactions on the origin succeed, does not fail
and readies the ledger. -/
theorem ensureAllowance_of_plan (hc : c.Sound) (hn : n.ledger.Coherent c.config)
    (hplain : ∀ domain provider, c.registry.provider? domain = some provider → provider.conduct = .plain)
    {p : Plan} (hplan : c.plan n.ledger request = .ok p)
    (hprovider : ∃ provider, c.registry.provider? p.origin = some provider)
    (hsucceeds : p.origin ∉ n.ledger.reverting) :
    ∃ d b m, c.config.domain? p.origin = some d ∧ d.bridge = some b ∧
      (c.ensureAllowance p request.amount).on n = (.ok (), m) ∧
      m.ledger = n.ledger.readied p.origin p.representation.address p.owner b.router request.amount ∧
      m.ledger.Coherent c.config := by
  obtain ⟨provider, hprovider⟩ := hprovider
  obtain ⟨d, b, hd, hb, hrouter⟩ := hc.config_of_plan hplan
  have hp := hc.bound_of_plan hplan
  obtain ⟨-, -, -, -, bridge, -, -, hbridge, haddress, hne, -⟩ := plan_eq_ok_iff.1 hplan
  rw [← hbridge, RouterHandle.localAddress_of_sender hp.router_sender, hp.router_domain] at haddress
  have hreach := (Ledger.localAddress_eq_ok_iff.1 haddress).1
  have hcontract := (hn.of_localAddress haddress hne).1
  obtain ⟨m, hallowance⟩ : ∃ m, (c.ensureAllowance p request.amount).on n = (.ok (), m) :=
    ⟨_, Prod.ext (ensureAllowance_ok hp hprovider (hplain _ _ hprovider) hd hreach hsucceeds hcontract
      request.amount) rfl⟩
  have hledger := ledger_ensureAllowance hp hprovider hd hreach hcontract request.amount
  rw [hallowance, hrouter] at hledger
  exact ⟨d, b, m, hd, hb, hallowance, hledger,
    hn.transacted ((c.transacts_ensureAllowance p request.amount).of_on hallowance)⟩

/-- Where the conditions hold, the router finds everything in order on the readied ledger. -/
theorem Sendable.checkSend_readied {L : Ledger} (hL : L.Coherent c.config)
    (hs : c.Sendable L request origin destination owner token canonical) {d : DomainConfig}
    {b : BridgeConfig} (hd : c.config.domain? origin = some d) (hb : d.bridge = some b) :
    (L.readied origin token owner b.router request.amount).checkSend origin owner token request.amount
      destination = .ok (canonical, b.router) := by
  have hcontract := (hL.of_localAddress hs.address hs.address_ne_zero).1
  obtain ⟨router, hget, haddress⟩ := hL.router_of_config hd hb
  refine Ledger.checkSend_eq_ok_iff.2 ⟨?_, ⟨hs.distinct.symm, ?_⟩, ?_, ⟨router, ?_, haddress⟩, ?_, ?_, ?_⟩
  · rw [Ledger.failing_readied]
    exact hs.reachable
  · rw [Ledger.routers_readied]
    exact (hL.contains_routers_iff destination).2 hs.remote
  · rw [Ledger.canonicalOf_congr (Ledger.routers_readied ..)]
    exact hs.canonical
  · rw [Ledger.routers_readied]
    exact hget
  · exact (Ledger.contains_readied _ _ _ _ _ _ hcontract _).2 hcontract
  · exact Ledger.not_allowed_readied_lt L origin token owner b.router request.amount
  · rw [Ledger.balance_readied]
    exact hs.balance

/-- **What becomes of a request** whose conditions hold: the first stage readies the ledger, and the second
sends on it. -/
theorem send_on_of_sendable (hc : c.Sound) (hn : n.ledger.Coherent c.config)
    (hs : c.Sendable n.ledger request origin destination owner token canonical)
    (hplain : ∀ domain provider, c.registry.provider? domain = some provider → provider.conduct = .plain) :
    ∃ d b home message t n', c.config.domain? origin = some d ∧ d.bridge = some b ∧
      n.ledger.homes.get? origin = some home ∧
      t = (n.ledger.readied origin token owner b.router request.amount).launched origin home message
        ⟨canonical, request.recipient.widen, request.amount⟩ ∧
      message.origin = origin ∧ message.destination = destination ∧
      message.nonce = n.ledger.nextNonce origin destination ∧
      (c.send request).on n = (.ok t, n') ∧ n'.ledger.receipt t.transaction = .ok t.receipt ∧
      n'.ledger = (n.ledger.readied origin token owner b.router request.amount).sent origin token owner
        b.router request.amount destination home (Ledger.logOf home message) := by
  obtain ⟨p, hplan, rfl, rfl, rfl, rfl⟩ := hs.plan_eq hc
  obtain ⟨d, b, m, hd, hb, hallowance, hm, hmcoherent⟩ :=
    ensureAllowance_of_plan hc hn hplain hplan hs.connected hs.succeeds
  obtain ⟨provider, hprovider⟩ := hs.connected
  have hp := hc.bound_of_plan hplan
  have hcheck := hs.checkSend_readied hn hd hb
  rw [← hm] at hcheck
  obtain ⟨router, remote, home, message, t, n', hhome, hmessage, ht, hn', hreceipt, hread, hon⟩ :=
    transfer_on_of_checked hc hmcoherent hp hprovider hd hb hcheck
  have hsucceeded : t.receipt.succeeded := by
    rw [ht]
    refine Ledger.succeeded_nextReceipt ?_ _
    rw [hm, Ledger.reverting_readied]
    exact hs.succeeds
  rw [settle_eq_ok_iff.2 (confirms_of_plain (hplain _ _ hprovider) hreceipt hsucceeded), Outcome.ok_bind,
    hread] at hon
  have hrecorded : n'.ledger.receipt t.transaction = .ok t.receipt := by
    rw [ht] at hreceipt ⊢
    exact hreceipt
  rw [hm] at ht hn' hhome
  rw [Ledger.homes_readied] at hhome
  refine ⟨d, b, home, message, t, n', hd, hb, hhome, ht, ?_, ?_, ?_, ?_, hrecorded, ?_⟩
  · rw [hmessage]
    rfl
  · rw [hmessage]
    rfl
  · rw [hmessage, Ledger.nextNonce_of_home hhome]
    rfl
  · exact (send_on_of_allowed hplan hallowance).trans hon
  · rw [hn']
    rfl

/-- **The conditions hold of a request that was fulfilled**, with the token that is sent. -/
theorem sendable_of_send (hc : c.Sound) (hn : n.ledger.Coherent c.config) {t : Transfer} {n' : Network}
    (hsend : (c.send request).on n = (.ok t, n')) :
    ∃ origin destination owner token,
      c.Sendable n.ledger request origin destination owner token t.token := by
  obtain ⟨p, m, hplan, hallowance, htransfer⟩ := send_eq_ok hsend
  obtain ⟨d, b, hd, hb, -⟩ := hc.config_of_plan hplan
  have hp := hc.bound_of_plan hplan
  have hm := hn.transacted ((c.transacts_ensureAllowance p request.amount).of_on hallowance)
  obtain ⟨provider, canonical, address, hprovider, hcheck, hsucceeds, rfl⟩ :=
    transfer_eq_ok hc hm hp hd hb htransfer
  obtain ⟨horigin, hdestination, htoken, hamount, bridge, hbridge, howner, hrouter, haddress, hne, -⟩ :=
    plan_eq_ok_iff.1 hplan
  rw [← hrouter, RouterHandle.localAddress_of_sender hp.router_sender, hp.router_domain] at haddress
  have hreach := (Ledger.localAddress_eq_ok_iff.1 haddress).1
  -- What the router checked, it checked on the readied ledger.
  have hledger := ledger_ensureAllowance hp hprovider hd hreach (hn.of_localAddress haddress hne).1
    request.amount
  rw [hallowance] at hledger
  rw [hledger, Ledger.reverting_readied] at hsucceeds
  rw [hledger] at hcheck
  obtain ⟨-, ⟨hdistinct, hremote⟩, hcanonical, -, -, -, hbalance⟩ := Ledger.checkSend_eq_ok_iff.1 hcheck
  rw [Ledger.routers_readied] at hremote
  rw [Ledger.canonicalOf_congr (Ledger.routers_readied ..)] at hcanonical
  rw [Ledger.balance_readied] at hbalance
  exact ⟨p.origin, p.destination, p.owner, p.representation.address,
    { origin_registered := horigin
      destination_registered := hdestination
      token_registered := htoken
      amount_ne_zero := hamount
      signed := ⟨bridge, hbridge, howner⟩
      connected := ⟨provider, hprovider⟩
      reachable := hreach
      succeeds := hsucceeds
      address := haddress
      address_ne_zero := hne
      distinct := hdistinct.symm
      remote := (hn.contains_routers_iff p.destination).1 hremote
      canonical := hcanonical
      balance := hbalance }⟩

/-- **When a token is sent**: in every reachable session over plain providers whose client and ledger were made
from one configuration, as long as the nonces for the destination and the transactions do not run out, a
sending gives a transfer back exactly where the conditions hold. Then the transfer is the requested one, and
the ledger is changed by just that transfer. -/
theorem send_ok_iff {cfg : Config} {steps : List Step}
    (hclient : (Session.after (.ofConfig cfg) steps).client? = some c) (hconfig : c.config = cfg)
    (hplain : ∀ domain provider, c.registry.provider? domain = some provider → provider.conduct = .plain)
    (hnonce : ∀ origin destination, c.resolve request.origin = .ok origin →
      c.resolve request.destination = .ok destination →
      ((Session.after (.ofConfig cfg) steps).ledger.nextNonce origin destination).toNat < 2 ^ 32 - 1)
    (hcount : (Session.after (.ofConfig cfg) steps).ledger.submitted.length < 2 ^ 64 - 2) :
    ((∃ t n', (c.send request).on (Session.after (.ofConfig cfg) steps).network = (.ok t, n')) ↔
        ∃ origin destination owner token canonical, c.Sendable
          (Session.after (.ofConfig cfg) steps).ledger request origin destination owner token canonical) ∧
      ∀ origin destination owner token canonical, c.Sendable
        (Session.after (.ofConfig cfg) steps).ledger request origin destination owner token canonical →
        ∀ t n', (c.send request).on (Session.after (.ofConfig cfg) steps).network = (.ok t, n') →
          ∃ d b, cfg.domain? origin = some d ∧ d.bridge = some b ∧
            Fulfilled (Session.after (.ofConfig cfg) steps).ledger n'.ledger request origin destination owner
              token b.router canonical t := by
  have hc := Session.sound_after hclient
  have hvalid : cfg.validate = .ok () := hconfig ▸ hc.valid
  have hn : (Session.after (.ofConfig cfg) steps).network.ledger.Coherent c.config :=
    hconfig ▸ Session.coherent_after hvalid steps
  refine ⟨⟨?_, ?_⟩, ?_⟩
  · rintro ⟨t, n', hsend⟩
    obtain ⟨origin, destination, owner, token, hs⟩ := sendable_of_send hc hn hsend
    exact ⟨origin, destination, owner, token, t.token, hs⟩
  · rintro ⟨origin, destination, owner, token, canonical, hs⟩
    obtain ⟨d, b, home, message, t, n', -, -, -, -, -, -, -, hsend, -⟩ :=
      send_on_of_sendable hc hn hs hplain
    exact ⟨t, n', hsend⟩
  · intro origin destination owner token canonical hs t n' hsend
    obtain ⟨d, b, home, message, t', m, hd, hb, hhome, ht, horigin, hdestination, hmessage, hon, hrecorded,
      hledger⟩ := send_on_of_sendable hc hn hs hplain
    cases hsend.symm.trans hon
    subst ht
    refine ⟨d, b, hconfig ▸ hd, hb, ?_⟩
    exact
    { origin_eq := horigin
      destination_eq := hdestination
      amount_eq := rfl
      beneficiary_eq := rfl
      token_eq := rfl
      nonce_eq := hmessage
      recorded := hrecorded
      effect := by
        rw [hledger]
        exact Ledger.sent_effect hn hhome (hn.of_localAddress hs.address hs.address_ne_zero).1 hs.balance
          (hnonce origin destination hs.origin_registered hs.destination_registered) hcount _ }

/-- The conditions hold of the request of the small session. -/
theorem sendable_testing : (Session.testingClient .plain 0).Sendable (Session.testing .plain 0).ledger
    Session.testingRequest 1 2 (.ofNat 0xa) (.ofNat 0x3001) (.ofAddress 1 (.ofNat 0x3001)) where
  origin_registered := by decide +kernel
  destination_registered := by decide +kernel
  token_registered := by decide +kernel
  amount_ne_zero := by decide +kernel
  signed := ⟨_, rfl, by decide +kernel⟩
  connected := ⟨_, rfl⟩
  reachable := by decide +kernel
  succeeds := by decide +kernel
  address := by decide +kernel
  address_ne_zero := by decide +kernel
  distinct := by decide +kernel
  remote := ⟨_, rfl, by decide +kernel⟩
  canonical := by decide +kernel
  balance := by decide +kernel

/-- The request of the small session is fulfilled, and 40 of 100 are left. -/
theorem send_ok_iff_testing : ∃ t n', ((Session.testingClient .plain 0).send Session.testingRequest).on
      (Session.testing .plain 0).network = (.ok t, n') ∧
    t.token = Session.testingRequest.token ∧ t.nonce = 0 ∧
    (n'.ledger.balance 1 (.ofNat 0x3001) (.ofNat 0xa)).toNat = 40 := by
  have hnonce : ∀ origin destination,
      (Session.testingClient .plain 0).resolve Session.testingRequest.origin = .ok origin →
      (Session.testingClient .plain 0).resolve Session.testingRequest.destination = .ok destination →
      ((Session.testing .plain 0).ledger.nextNonce origin destination).toNat < 2 ^ 32 - 1 := by
    intro origin destination horigin hdestination
    cases horigin.symm.trans sendable_testing.origin_registered
    cases hdestination.symm.trans sendable_testing.destination_registered
    decide +kernel
  have hcount : (Session.testing .plain 0).ledger.submitted.length < 2 ^ 64 - 2 := by decide +kernel
  obtain ⟨⟨-, hsend⟩, heffect⟩ := send_ok_iff (Session.client?_testing .plain 0) rfl
    (fun _ _ => Session.conduct_of_testingClient) hnonce hcount
  obtain ⟨t, n', hon⟩ := hsend ⟨_, _, _, _, _, sendable_testing⟩
  obtain ⟨d, b, -, -, hfulfilled⟩ := heffect _ _ _ _ _ sendable_testing t n' hon
  have hbefore : (Session.testing .plain 0).ledger.nextNonce 1 2 = 0 ∧
      ((Session.testing .plain 0).ledger.balance 1 (.ofNat 0x3001) (.ofNat 0xa)).toNat = 100 := by
    decide +kernel
  have hbalance := hfulfilled.effect.balance 1 (.ofNat 0x3001) (.ofNat 0xa)
  refine ⟨t, n', hon, hfulfilled.token_eq, hfulfilled.nonce_eq.trans hbefore.1, ?_⟩
  have hamount : Session.testingRequest.amount.toNat = 60 := rfl
  have hafter := hbalance.trans hbefore.2
  rw [if_pos ⟨rfl, rfl, rfl⟩, hamount] at hafter
  omega

end TokenBridge.Client
