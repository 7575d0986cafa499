import TokenBridge.Client.Send
import TokenBridge.Proofs.Client.Contracts
import TokenBridge.Proofs.Handle

/-!
# The stages of sending

Sending a token goes through four stages: it is planned, the allowance is seen to, the transfer is submitted
and confirmed, and its receipt is read. The lemmas here tell when a plan comes about (`plan_eq_ok_iff`), when a
wait confirms a transaction (`settle_eq_ok_iff`), and how the stages run on a network. The last two stages are
those of every sending, also of the native asset (`conclude`).
-/

namespace TokenBridge.Client

/-! ### Planning -/

theorem checkAmount_eq_ok_iff {amount : Quantity} {u : Unit} :
    checkAmount amount = .ok u ↔ amount ≠ .zero := by
  rw [checkAmount]
  by_cases h : amount = .zero <;> simp [h]

theorem boundSigner_eq_ok_iff {bridge : Bridge} {domain : DomainId} {owner : Address} :
    boundSigner bridge domain = .ok owner ↔ bridge.signerAddress? = some owner := by
  rw [boundSigner]
  cases bridge.signerAddress? <;> simp

/-- A domain has a representation of a token where its router gives an address for it. -/
theorem representationOn_eq_some_iff {c : Client} {L : Ledger} {domain : DomainId} {token : TokenId}
    {contract : TokenHandle} :
    c.representationOn L domain token = .ok (some contract) ↔
      ∃ bridge, c.directory.bridges.get? domain = some bridge ∧
        ∃ address, bridge.router.localAddress L token = .ok address ∧ address ≠ .zero ∧
          contract = ⟨⟨domain, address, bridge.connection⟩⟩ := by
  rw [representationOn]
  cases c.directory.bridges.get? domain with
  | none => simp
  | some bridge =>
    simp only [Outcome.bind_eq_ok, Outcome.mapError_eq_ok, Option.some.injEq, exists_eq_left']
    refine exists_congr fun address => and_congr_right fun _ => ?_
    by_cases h : address = .zero <;> simp [h, pure, Except.pure, eq_comm]

theorem representation_eq_some_iff {c : Client} {L : Ledger} {domain : DomainId} {token : TokenId}
    {contract : TokenHandle} :
    c.representation L (.id domain) token = .ok (some contract) ↔
      domain ∈ c.registry.domainIds ∧ token.domain ∈ c.registry.domainIds ∧
        c.representationOn L domain token = .ok (some contract) := by
  rw [representation, Outcome.bind_eq_ok]
  simp only [resolve, Registry.resolve_id_iff, Outcome.bind_eq_ok]
  constructor
  · rintro ⟨_, ⟨hdomain, rfl⟩, _, ⟨htoken, -⟩, h⟩
    exact ⟨hdomain, htoken, h⟩
  · rintro ⟨hdomain, htoken, h⟩
    exact ⟨domain, ⟨hdomain, rfl⟩, token.domain, ⟨htoken, rfl⟩, h⟩

/-- A plan comes about exactly where both ends and the domain of the token are registered, the amount is not
zero, and the origin has bridge contracts that are bound to a signer and whose router gives an address for the
token. -/
theorem plan_eq_ok_iff {c : Client} {L : Ledger} {request : TransferRequest} {p : Plan} :
    c.plan L request = .ok p ↔
      c.resolve request.origin = .ok p.origin ∧ c.resolve request.destination = .ok p.destination ∧
        request.token.domain ∈ c.registry.domainIds ∧ request.amount ≠ .zero ∧
        ∃ bridge, c.directory.bridges.get? p.origin = some bridge ∧
          bridge.signerAddress? = some p.owner ∧ p.router = bridge.router ∧
          bridge.router.localAddress L request.token = .ok p.representation.address ∧
          p.representation.address ≠ .zero ∧
          p.representation = ⟨⟨p.origin, p.representation.address, bridge.connection⟩⟩ := by
  rw [plan, Outcome.bind_eq_ok]
  simp only [Outcome.bind_eq_ok, checkAmount_eq_ok_iff, bridge_id_eq_ok_iff, exists_const]
  constructor
  · rintro ⟨origin, horigin, destination, hdestination, hamount, bridge, hbridge, found, hfound, h⟩
    cases found with
    | none => cases h
    | some contract =>
      obtain ⟨owner, howner, h⟩ := Outcome.bind_eq_ok.1 h
      cases h
      obtain ⟨-, htoken, hon⟩ := representation_eq_some_iff.1 hfound
      obtain ⟨bridge', hbridge', address, haddress, hne, rfl⟩ := representationOn_eq_some_iff.1 hon
      cases hbridge.symm.trans hbridge'
      exact ⟨horigin, hdestination, htoken, hamount, bridge, hbridge, boundSigner_eq_ok_iff.1 howner, rfl,
        haddress, hne, rfl⟩
  · rintro ⟨horigin, hdestination, htoken, hamount, bridge, hbridge, howner, hrouter, haddress, hne, heq⟩
    refine ⟨p.origin, horigin, p.destination, hdestination, hamount, bridge, hbridge,
      some p.representation, ?_, ?_⟩
    · refine representation_eq_some_iff.2 ⟨Registry.mem_domainIds_of_resolve horigin, htoken, ?_⟩
      exact representationOn_eq_some_iff.2 ⟨bridge, hbridge, _, haddress, hne, heq⟩
    · refine Outcome.bind_eq_ok.2 ⟨p.owner, boundSigner_eq_ok_iff.2 howner, ?_⟩
      rw [← hrouter]
      rfl

/-- The handles of a plan are on the origin, and what is submitted through them is signed by its owner. -/
structure Plan.Bound (p : Plan) : Prop where
  /-- The router is on the origin. -/
  router_domain : p.router.domain = p.origin
  /-- The representation is on the origin. -/
  representation_domain : p.representation.domain = p.origin
  /-- The owner signs for the router. -/
  router_sender : p.router.sender = .ok p.owner
  /-- The owner signs for the representation. -/
  representation_sender : p.representation.sender = .ok p.owner

theorem Sound.bound_of_plan {c : Client} (h : c.Sound) {L : Ledger} {request : TransferRequest} {p : Plan}
    (hp : c.plan L request = .ok p) : p.Bound := by
  obtain ⟨-, -, -, -, bridge, hbridge, howner, hrouter, -, -, hrepresentation⟩ := plan_eq_ok_iff.1 hp
  obtain ⟨d, b, connection, -, -, rfl⟩ := h.bridge_eq_some hbridge
  refine ⟨?_, ?_, ?_, ?_⟩
  · rw [hrouter]
    rfl
  · rw [hrepresentation]
  · rw [hrouter]
    exact Handle.sender_eq_ok_iff.2 howner
  · rw [hrepresentation]
    exact Handle.sender_eq_ok_iff.2 howner

/-- The router of a plan is that of the configuration. -/
theorem Sound.config_of_plan {c : Client} (h : c.Sound) {L : Ledger} {request : TransferRequest} {p : Plan}
    (hp : c.plan L request = .ok p) :
    ∃ d b, c.config.domain? p.origin = some d ∧ d.bridge = some b ∧ p.router.address = b.router := by
  obtain ⟨-, -, -, -, bridge, hbridge, -, hrouter, -⟩ := plan_eq_ok_iff.1 hp
  obtain ⟨d, b, connection, hd, hb, rfl⟩ := h.bridge_eq_some hbridge
  refine ⟨d, b, hd, hb, ?_⟩
  rw [hrouter]
  rfl

/-- A sound client reads a transfer off the announcements of the configured home. -/
theorem Sound.transferOf_eq {c : Client} (h : c.Sound) {origin : DomainId} {d : DomainConfig}
    (hd : c.config.domain? origin = some d) (receipt : Receipt) :
    c.transferOf origin receipt = Transfer.ofReceipt origin d.home receipt := by
  obtain ⟨connection, hcore⟩ := h.core_of_domain? hd
  rw [transferOf, hcore]
  rfl

/-! ### Waiting -/

/-- Whether a reply confirms a transaction: it is a receipt that comes in time and tells of a success. -/
def Confirms (c : Client) (reply : Reply) (receipt : Receipt) : Prop :=
  ∃ seconds, reply = .after seconds (.ok receipt) ∧ seconds ≤ c.config.receiptTimeout.toNat ∧
    receipt.succeeded

theorem settle_eq_ok_iff {c : Client} {domain : DomainId} {operation : Operation} {transaction : Word}
    {reply : Reply} {receipt : Receipt} :
    settle domain operation transaction c.config.receiptTimeout reply = .ok receipt ↔
      c.Confirms reply receipt := by
  cases reply with
  | never => simp [settle, Confirms]
  | after seconds answer =>
    simp only [settle]
    by_cases hlate : c.config.receiptTimeout.toNat < seconds
    · rw [if_pos hlate]
      simp [Confirms]
      omega
    · rw [if_neg hlate]
      cases answer with
      | error e => simp [Confirms]
      | ok known =>
        by_cases hs : known.succeeded
        · simp only [hs, if_true, Except.ok.injEq, Confirms, Reply.after.injEq]
          constructor
          · rintro rfl
            exact ⟨seconds, ⟨rfl, rfl⟩, Nat.le_of_not_lt hlate, hs⟩
          · rintro ⟨_, ⟨rfl, rfl⟩, -⟩
            rfl
        · simp only [hs, Confirms, Reply.after.injEq, Except.ok.injEq]
          constructor
          · intro h
            cases h
          · rintro ⟨_, ⟨rfl, rfl⟩, -, hs'⟩
            exact absurd hs' hs

/-- A reply that confirms a transaction is about the receipt that the ledger has, which may have lost its logs
or have them twice. -/
theorem Confirms.receipt {c : Client} {conduct : Conduct} {known receipt : Receipt}
    (h : c.Confirms (conduct.reply (.ok known)) receipt) :
    known.succeeded ∧ (receipt = known ∨ receipt = { known with logs := [] } ∨
      receipt = { known with logs := known.logs ++ known.logs }) := by
  obtain ⟨seconds, hreply, -, hsucceeded⟩ := h
  cases conduct with
  | plain =>
    cases hreply
    exact ⟨hsucceeded, .inl rfl⟩
  | stalls => cases hreply
  | delays _ =>
    cases hreply
    exact ⟨hsucceeded, .inl rfl⟩
  | fails e => cases hreply
  | clearsLogs =>
    cases hreply
    exact ⟨hsucceeded, .inr (.inl rfl)⟩
  | doublesLogs =>
    cases hreply
    exact ⟨hsucceeded, .inr (.inr rfl)⟩
  | deniesSuccess =>
    cases hreply
    cases hsucceeded

/-- What a provider answers in its last call, about a transaction. -/
def answer (provider : Provider) (n : Network) (transaction : Word) : Reply :=
  (provider.conductAt (n.callsTo provider.serial).length).reply (n.ledger.receipt transaction)

/-- The network after a provider was asked to wait for a transaction. -/
def waited (n : Network) (provider : Provider) (transaction : Word) (confirmations : UInt64) : Network :=
  { n with waits := n.waits ++ [⟨provider.serial, transaction, confirmations⟩] }

/-- A plain provider answers at once with what the ledger knows. -/
theorem answer_of_plain {provider : Provider} (hplain : provider.conduct = .plain) (n : Network) (transaction : Word) :
    answer provider n transaction = .after 0 (n.ledger.receipt transaction) := by
  rw [answer, Provider.conductAt_of_plain hplain]
  rfl

theorem settle_plain (domain : DomainId) (operation : Operation) (transaction : Word) (timeout : UInt64)
    (receipt : Receipt) :
    settle domain operation transaction timeout (.after 0 (.ok receipt)) =
      if receipt.succeeded then .ok receipt else .error (.chain domain operation (.reverted transaction)) := by
  rw [settle, if_neg (Nat.not_lt_zero _)]

/-- Confirming asks the provider of the domain once, and settles on its answer. -/
theorem confirm_on {c : Client} {domain : DomainId} {provider : Provider} {d : DomainConfig}
    (hprovider : c.registry.provider? domain = some provider) (hd : c.config.domain? domain = some d)
    (operation : Operation) (transaction : Word) (n : Network) :
    (c.confirm domain operation transaction).on n =
      (settle domain operation transaction c.config.receiptTimeout
        (answer provider (waited n provider transaction d.confirmations) transaction),
        waited n provider transaction d.confirmations) := by
  rw [confirm, hprovider, hd]
  rfl

/-! ### Running -/

/-- The end of every sending: a transaction is submitted and confirmed, and the transfer is read off its receipt. -/
def conclude (c : Client) (origin : DomainId) (operation : Operation)
    (f : Ledger → Except ChainError Word × Ledger) : Action Transfer := do
  let transaction ← .submit origin operation f
  let receipt ← c.confirm origin operation transaction
  .ofExcept (c.transferOf origin receipt)

section Conclude

variable {c : Client} {origin : DomainId} {operation : Operation} {f : Ledger → Except ChainError Word × Ledger}
  {n : Network} {L : Ledger}

/-- Where what is submitted is refused, sending ends; what the ledger did before it refused stays done. -/
theorem conclude_on_of_refused {e : ChainError} (hf : f n.ledger = (.error e, L)) :
    (c.conclude origin operation f).on n = (.error (.chain origin operation e), { n with ledger := L }) := by
  rw [conclude, Action.on_bind, Action.on_submit, hf]
  rfl

variable {transaction : Word}

/-- Without a provider nothing that is mined is confirmed. -/
theorem conclude_on_of_disconnected (hprovider : c.registry.provider? origin = none)
    (hf : f n.ledger = (.ok transaction, L)) :
    (c.conclude origin operation f).on n = (.error (.notConnected origin), { n with ledger := L }) := by
  rw [conclude, Action.on_bind, Action.on_submit, hf]
  dsimp only [Outcome.mapError_ok]
  rw [Action.on_bind, confirm, hprovider]
  rfl

/-- Where the transaction is mined, the transfer is read off the receipt if it is confirmed. -/
theorem conclude_on_of_mined {provider : Provider} {d : DomainConfig}
    (hprovider : c.registry.provider? origin = some provider) (hd : c.config.domain? origin = some d)
    (hf : f n.ledger = (.ok transaction, L)) :
    (c.conclude origin operation f).on n =
      (settle origin operation transaction c.config.receiptTimeout
          (answer provider (waited { n with ledger := L } provider transaction d.confirmations)
            transaction) >>= c.transferOf origin,
        waited { n with ledger := L } provider transaction d.confirmations) := by
  rw [conclude, Action.on_bind, Action.on_submit, hf]
  dsimp only [Outcome.mapError_ok]
  rw [Action.on_bind, confirm_on hprovider hd]
  cases settle origin operation transaction c.config.receiptTimeout
    (answer provider (waited { n with ledger := L } provider transaction d.confirmations) transaction) <;> rfl

end Conclude

/-- The last stages of sending: the transfer is submitted and confirmed, and its receipt is read. -/
def transfer (c : Client) (p : Plan) (request : TransferRequest) : Action Transfer := do
  let transaction ← .submit p.origin .send fun L =>
    p.router.send L p.representation.address request.amount p.destination request.recipient.widen
  let receipt ← c.confirm p.origin .send transaction
  .ofExcept (c.transferOf p.origin receipt)

section Stages

variable {c : Client} {p : Plan} {n : Network} {allowed amount : Quantity}

/-- Where the allowance cannot be read, sending ends. -/
theorem ensureAllowance_on_of_unread {e : ChainError}
    (hread : p.representation.allowance n.ledger p.owner p.router.address = .error e) :
    (c.ensureAllowance p amount).on n = (.error (.chain p.origin .allowance e), n) := by
  rw [ensureAllowance, Action.on_bind, Action.on_read, hread]
  rfl

/-- Where enough is allowed, nothing is done. -/
theorem ensureAllowance_on_of_enough
    (hread : p.representation.allowance n.ledger p.owner p.router.address = .ok allowed)
    (henough : ¬ allowed < amount) : (c.ensureAllowance p amount).on n = (.ok (), n) := by
  rw [ensureAllowance, Action.on_bind, Action.on_read, hread]
  dsimp only [Outcome.mapError_ok]
  rw [if_neg henough, Action.on_pure]

/-- Where the approval is refused, sending ends. -/
theorem ensureAllowance_on_of_refused
    (hread : p.representation.allowance n.ledger p.owner p.router.address = .ok allowed)
    (hless : allowed < amount) {e : ChainError} {L : Ledger}
    (happrove : p.representation.approve n.ledger p.router.address amount = (.error e, L)) :
    (c.ensureAllowance p amount).on n = (.error (.chain p.origin .approve e), { n with ledger := L }) := by
  rw [ensureAllowance, Action.on_bind, Action.on_read, hread]
  dsimp only [Outcome.mapError_ok]
  rw [if_pos hless, Action.on_bind, Action.on_submit, happrove]
  rfl

variable {provider : Provider} {d : DomainConfig}

/-- Where the approval is mined, sending goes on if it is confirmed. -/
theorem ensureAllowance_on_of_approved (hprovider : c.registry.provider? p.origin = some provider)
    (hd : c.config.domain? p.origin = some d)
    (hread : p.representation.allowance n.ledger p.owner p.router.address = .ok allowed)
    (hless : allowed < amount) {transaction : Word} {L : Ledger}
    (happrove : p.representation.approve n.ledger p.router.address amount = (.ok transaction, L)) :
    (c.ensureAllowance p amount).on n =
      ((settle p.origin .approve transaction c.config.receiptTimeout
          (answer provider (waited { n with ledger := L } provider transaction d.confirmations)
            transaction)).map fun _ => (),
        waited { n with ledger := L } provider transaction d.confirmations) := by
  rw [ensureAllowance, Action.on_bind, Action.on_read, hread]
  dsimp only [Outcome.mapError_ok]
  rw [if_pos hless, Action.on_bind, Action.on_submit, happrove]
  dsimp only [Outcome.mapError_ok]
  rw [Action.on_bind, confirm_on hprovider hd]
  cases settle p.origin .approve transaction c.config.receiptTimeout
    (answer provider (waited { n with ledger := L } provider transaction d.confirmations) transaction) <;> rfl

variable {request : TransferRequest}

/-- Where the transfer is refused, sending ends; what the ledger did before it refused stays done. -/
theorem transfer_on_of_refused {e : ChainError} {L : Ledger}
    (hsend : p.router.send n.ledger p.representation.address request.amount p.destination
      request.recipient.widen = (.error e, L)) :
    (c.transfer p request).on n = (.error (.chain p.origin .send e), { n with ledger := L }) :=
  conclude_on_of_refused hsend

/-- Where the transfer is mined, it is read off the receipt if it is confirmed. -/
theorem transfer_on_of_sent (hprovider : c.registry.provider? p.origin = some provider)
    (hd : c.config.domain? p.origin = some d) {transaction : Word} {L : Ledger}
    (hsend : p.router.send n.ledger p.representation.address request.amount p.destination
      request.recipient.widen = (.ok transaction, L)) :
    (c.transfer p request).on n =
      (settle p.origin .send transaction c.config.receiptTimeout
          (answer provider (waited { n with ledger := L } provider transaction d.confirmations)
            transaction) >>= c.transferOf p.origin,
        waited { n with ledger := L } provider transaction d.confirmations) :=
  conclude_on_of_mined hprovider hd hsend

end Stages

theorem send_on_of_unplanned {c : Client} {request : TransferRequest} {n : Network} {e : BridgeError}
    (h : c.plan n.ledger request = .error e) : (c.send request).on n = (.error e, n) := by
  rw [send, Action.on_bind, Action.on_read, h]

/-- Sending the native asset ends where it cannot be planned. -/
theorem sendNative_of_unplanned {c : Client} {request : NativeRequest} {e : BridgeError}
    (h : c.planNative request = .error e) : c.sendNative request = .ofExcept (.error e) := by
  rw [sendNative, h]
  rfl

/-- Once it is planned, the helper is asked to send. -/
theorem sendNative_of_planned {c : Client} {request : NativeRequest} {origin destination : DomainId}
    {helper : HelperHandle} (h : c.planNative request = .ok (origin, destination, helper)) :
    c.sendNative request = c.conclude origin .sendNative fun L =>
      helper.send L destination request.recipient.widen request.amount := by
  rw [sendNative, h]
  rfl

/-- A sending that is planned ends where its allowance cannot be seen to. -/
theorem send_on_of_unallowed {c : Client} {request : TransferRequest} {n n' : Network} {p : Plan}
    {e : BridgeError} (h : c.plan n.ledger request = .ok p)
    (hallowance : (c.ensureAllowance p request.amount).on n = (.error e, n')) :
    (c.send request).on n = (.error e, n') := by
  rw [send, Action.on_bind, Action.on_read, h]
  dsimp only
  rw [Action.on_bind, hallowance]

/-- A sending that is planned goes on with the transfer where its allowance was seen to. -/
theorem send_on_of_allowed {c : Client} {request : TransferRequest} {n n' : Network} {p : Plan}
    (h : c.plan n.ledger request = .ok p)
    (hallowance : (c.ensureAllowance p request.amount).on n = (.ok (), n')) :
    (c.send request).on n = (c.transfer p request).on n' := by
  rw [send, Action.on_bind, Action.on_read, h]
  dsimp only
  rw [Action.on_bind, hallowance]
  rfl

/-- A sending that gives a transfer back went through all its stages. -/
theorem send_eq_ok {c : Client} {request : TransferRequest} {n n' : Network} {t : Transfer}
    (h : (c.send request).on n = (.ok t, n')) :
    ∃ p m, c.plan n.ledger request = .ok p ∧ (c.ensureAllowance p request.amount).on n = (.ok (), m) ∧
      (c.transfer p request).on m = (.ok t, n') := by
  cases hplan : c.plan n.ledger request with
  | error e => cases (send_on_of_unplanned hplan).symm.trans h
  | ok p =>
    cases hallowance : (c.ensureAllowance p request.amount).on n with
    | mk result m =>
      cases result with
      | error e => cases (send_on_of_unallowed hplan hallowance).symm.trans h
      | ok u => exact ⟨p, m, rfl, hallowance, (send_on_of_allowed hplan hallowance).symm.trans h⟩

end TokenBridge.Client
