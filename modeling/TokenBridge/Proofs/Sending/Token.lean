import TokenBridge.Proofs.Sending.Total
import TokenBridge.Proofs.Session.Routers

/-!
# Which token is sent

A request names a token, the router of the origin gives an address for it, and the message names the token that
the router takes that address for. The two look-ups go through different tables, and nothing compares what they
give. `send_token` says what comes out of that in every reachable session: the message names the token whose
representation was put in place last at the address, and the requested token only where none was. So another
token is sent than was asked for exactly where the address represents another one.

That happens: a representation may be put in place where another one is, and the address of a representation
may be asked for as if it were a token of its own domain (`not_token_of_request`).
-/

namespace TokenBridge

namespace Session

/-- The routers of a ledger take addresses for the tokens that a function tells. -/
def RoutersKnow (L : Ledger) (found : DomainId → Address → Option TokenId) : Prop :=
  ∀ domain router, L.routers.get? domain = some router → ∀ address,
    router.canonicals.get? address = found domain address

theorem routersKnow_after {c : Config} (h : c.validate = .ok ()) (steps : List Step) :
    RoutersKnow (after (.ofConfig c) steps).ledger (represented steps) :=
  fun _ _ hrouter address => canonicals_after h hrouter address

end Session

namespace Client

/-- **Which token is sent**: in every reachable session whose client and ledger were made from one
configuration, a transfer names the token that the requested one's address on the origin was last made to
represent, or the requested token if it was made to represent none. So it is the requested token exactly where
that address represents no other one. -/
theorem send_token {cfg : Config} {steps : List Step} {c : Client} {request : TransferRequest} {t : Transfer}
    {n' : Network} (hclient : (Session.after (.ofConfig cfg) steps).client? = some c)
    (hconfig : c.config = cfg)
    (hsend : (c.send request).on (Session.after (.ofConfig cfg) steps).network = (.ok t, n')) :
    ∃ origin address, c.resolve request.origin = .ok origin ∧
      (Session.after (.ofConfig cfg) steps).ledger.localAddress origin request.token = .ok address ∧
      t.token = (Session.represented steps origin address).getD request.token ∧
      (t.token = request.token ↔
        ∀ token, Session.represented steps origin address = some token → token = request.token) := by
  have hc := Session.sound_after hclient
  have hvalid : cfg.validate = .ok () := hconfig ▸ hc.valid
  have hL : (Session.after (.ofConfig cfg) steps).ledger.Coherent c.config :=
    hconfig ▸ Session.coherent_after hvalid steps
  have hknow := Session.routersKnow_after hvalid steps
  obtain ⟨origin, destination, owner, address, hs⟩ := sendable_of_send hc hL hsend
  refine ⟨origin, address, hs.origin_registered, hs.address, ?_⟩
  have hsent : t.token = (Session.represented steps origin address).getD request.token := by
    obtain ⟨router, hrouter, hrepresents | ⟨hnone, hown, -⟩⟩ :=
      Ledger.canonicalOf_eq_ok_iff.1 hs.canonical
    · rw [← hknow origin router hrouter, hrepresents]
      rfl
    · -- The address represents nothing, so the requested token is the one of the address itself.
      rw [← hknow origin router hrouter, hnone, hown]
      rcases (hL.of_localAddress hs.address hs.address_ne_zero).2 with hrequest | ⟨router', hrouter', hcontains⟩
      · exact hrequest.symm
      · cases hrouter.symm.trans hrouter'
        rw [Table.contains, hnone] at hcontains
        cases hcontains
  refine ⟨hsent, ?_⟩
  rw [hsent]
  cases Session.represented steps origin address with
  | none => simp
  | some token => simp

/-- The steps of the small session, after which a representation of a token of the other domain is put in
place and the account that signs gets 100 of it. -/
def representationSteps : List Step :=
  Session.testingSteps .plain 0 ++
    [.ledger (.deployRepresentation 1 (.ofAddress 2 (.ofNat 0x4001)) (.ofNat 0x5001)),
      .ledger (.mint 1 (.ofNat 0x5001) (.ofNat 0xa) (.ofNat 100))]

/-- A request for the address of the representation as if it were a token of its own domain. -/
def representationRequest : TransferRequest :=
  ⟨.id 1, .id 2, .ofAddress 1 (.ofNat 0x5001), .ofNat 60, .ofNat 0xb⟩

theorem client?_representationSteps :
    (Session.after (.ofConfig .testing) representationSteps).client? =
      some (Session.testingClient .plain 0) := rfl

/-- The conditions hold of the request, and the router takes the address for the other token. -/
theorem sendable_representation : (Session.testingClient .plain 0).Sendable
    (Session.after (.ofConfig .testing) representationSteps).ledger representationRequest 1 2 (.ofNat 0xa)
    (.ofNat 0x5001) (.ofAddress 2 (.ofNat 0x4001)) where
  origin_registered := by decide +kernel
  destination_registered := by decide +kernel
  token_registered := by decide +kernel
  amount_ne_zero := by decide +kernel
  signed := ⟨_, rfl, by decide +kernel⟩
  connected := ⟨_, rfl⟩
  reachable := by decide +kernel
  succeeds := by decide +kernel
  address := by decide +kernel
  address_ne_zero := by decide +kernel
  distinct := by decide +kernel
  remote := ⟨_, rfl, by decide +kernel⟩
  canonical := by decide +kernel
  balance := by decide +kernel

/-- The request for the address of the representation is fulfilled with the token that is represented. -/
theorem send_representation : ∃ t n', ((Session.testingClient .plain 0).send representationRequest).on
      (Session.after (.ofConfig .testing) representationSteps).network = (.ok t, n') ∧
    t.token = .ofAddress 2 (.ofNat 0x4001) := by
  have hc := Session.sound_after client?_representationSteps
  have hn := Session.coherent_after hc.valid representationSteps
  obtain ⟨d, b, home, message, t, n', -, -, -, ht, -, -, -, hon, -⟩ :=
    send_on_of_sendable hc hn sendable_representation fun _ _ => Session.conduct_of_testingClient
  refine ⟨t, n', hon, ?_⟩
  rw [ht]
  rfl

/-- The address is where the token of the other domain was put in place last, so that one is sent. -/
theorem send_token_representation : ∃ t n',
    ((Session.testingClient .plain 0).send representationRequest).on
      (Session.after (.ofConfig .testing) representationSteps).network = (.ok t, n') ∧
    Session.represented representationSteps 1 (.ofNat 0x5001) = some t.token := by
  obtain ⟨t, n', hon, -⟩ := send_representation
  obtain ⟨origin, address, horigin, haddress, htoken, -⟩ :=
    send_token client?_representationSteps rfl hon
  cases horigin.symm.trans sendable_representation.origin_registered
  cases haddress.symm.trans sendable_representation.address
  have hrepresented : Session.represented representationSteps 1 (.ofNat 0x5001) =
      some (.ofAddress 2 (.ofNat 0x4001)) := by decide +kernel
  refine ⟨t, n', hon, ?_⟩
  rw [htoken, hrepresented]
  rfl

/-- **Another token than the requested one** can be sent. -/
theorem not_token_of_request : ¬ ∀ (cfg : Config) (steps : List Step) (c : Client)
    (request : TransferRequest) (t : Transfer) (n' : Network),
    (Session.after (.ofConfig cfg) steps).client? = some c → c.config = cfg →
    (c.send request).on (Session.after (.ofConfig cfg) steps).network = (.ok t, n') →
    t.token = request.token := by
  intro hall
  obtain ⟨t, n', hon, htoken⟩ := send_representation
  have hrequest := hall _ _ _ _ t n' client?_representationSteps rfl hon
  have hne : TokenId.ofAddress 2 (.ofNat 0x4001) ≠ representationRequest.token := by decide +kernel
  exact hne (htoken.symm.trans hrequest)

end Client

end TokenBridge
