import TokenBridge.Client.Resolve
import TokenBridge.Network
import TokenBridge.Transfer

/-!
# Sending

A client sends a token by its representation on the origin: it lets the router take the amount, if it may
not yet, waits for that to be confirmed, has the router send, waits again, and reads the transfer off the
receipt. The native asset is sent by the helper of the origin in one transaction.

A step that fails ends the sending and undoes nothing: a transaction that was handed in stays handed in,
and what the ledger did before it refused stays done. So sending is a function on networks, and it gives a
network back with the transfer or with the failure.
-/

namespace TokenBridge

/-- A computation that changes the network and may fail; a failure keeps the changes made before it. -/
abbrev Action (α : Type) := ExceptT BridgeError (StateM Network) α

namespace Action

/-- Runs a computation on a network. -/
def on {α : Type} (a : Action α) (n : Network) : Except BridgeError α × Network := a n

/-- A read of the ledger. -/
def read {α : Type} (f : Ledger → Except BridgeError α) : Action α := fun n => (f n.ledger, n)

/-- A call of an operation on a domain, which may hand in a transaction. -/
def submit (domain : DomainId) (operation : Operation)
    (f : Ledger → Except ChainError Word × Ledger) : Action Word := fun n =>
  let (result, ledger) := f n.ledger
  (result.mapError (.chain domain operation), { n with ledger })

/-- A value that may be a failure. -/
def ofExcept {α : Type} (result : Except BridgeError α) : Action α := fun n => (result, n)

/-! ### Running -/

variable {α β : Type}

@[simp] theorem on_pure (value : α) (n : Network) : (pure value : Action α).on n = (.ok value, n) := rfl

theorem on_bind (a : Action α) (f : α → Action β) (n : Network) :
    (a >>= f).on n =
      match a.on n with
      | (.ok value, n') => (f value).on n'
      | (.error e, n') => (.error e, n') := by
  show ExceptT.bind a f n = _
  unfold ExceptT.bind ExceptT.mk Action.on
  show (match a n with | (result, n') => ExceptT.bindCont f result n') = _
  rcases a n with ⟨_ | _, n'⟩ <;> rfl

@[simp] theorem on_read (f : Ledger → Except BridgeError α) (n : Network) :
    (read f).on n = (f n.ledger, n) := rfl

@[simp] theorem on_submit (domain : DomainId) (operation : Operation)
    (f : Ledger → Except ChainError Word × Ledger) (n : Network) :
    (submit domain operation f).on n =
      ((f n.ledger).1.mapError (.chain domain operation), { n with ledger := (f n.ledger).2 }) := rfl

@[simp] theorem on_ofExcept (result : Except BridgeError α) (n : Network) :
    (ofExcept result).on n = (result, n) := rfl

end Action

/-- What is asked of a client that sends a token. -/
structure TransferRequest where
  /-- The domain to send from. -/
  origin : DomainRef
  /-- The domain to send to. -/
  destination : DomainRef
  /-- The token. -/
  token : TokenId
  /-- How much of it. -/
  amount : Quantity
  /-- Who gets it. -/
  recipient : Address
deriving DecidableEq

/-- What is asked of a client that sends the native asset. -/
structure NativeRequest where
  /-- The domain to send from. -/
  origin : DomainRef
  /-- The domain to send to. -/
  destination : DomainRef
  /-- How much is sent. -/
  amount : Quantity
  /-- Who gets it. -/
  recipient : Address
deriving DecidableEq

namespace Client

/-- What an answered call makes of a wait: the answer has to come in time, be a receipt, and tell of a
success. -/
def settle (domain : DomainId) (operation : Operation) (transaction : Word) (timeout : UInt64)
    (reply : Reply) : Except BridgeError Receipt :=
  match reply with
  | .never => .error (.chain domain operation (.timedOut transaction))
  | .after seconds answer =>
    if timeout.toNat < seconds then .error (.chain domain operation (.timedOut transaction))
    else
      match answer with
      | .error e => .error (.chain domain operation e)
      | .ok receipt =>
        if receipt.succeeded then .ok receipt
        else .error (.chain domain operation (.reverted transaction))

/-- Waits until a transaction is confirmed. The provider is the one that the registry has, whatever the
contracts are bound to. -/
def confirm (c : Client) (domain : DomainId) (operation : Operation) (transaction : Word) :
    Action Receipt :=
  match c.registry.provider? domain with
  | none => .ofExcept (.error (.notConnected domain))
  | some provider =>
    match c.config.domain? domain with
    | none => .ofExcept (.error (.missingContracts domain))
    | some d => fun n =>
      let (reply, n') := n.wait provider transaction d.confirmations
      (settle domain operation transaction c.config.receiptTimeout reply, n')

/-- Whether an amount can be sent. -/
def checkAmount (amount : Quantity) : Except BridgeError Unit :=
  if amount = .zero then .error (.invalidAmount .zero) else .ok ()

/-- The account that signs for the bridge contracts of a domain. -/
def boundSigner (bridge : Bridge) (domain : DomainId) : Except BridgeError Address :=
  match bridge.signerAddress? with
  | some address => .ok address
  | none => .error (.noSigner domain)

/-- The transfer that a receipt of a domain tells of. -/
def transferOf (c : Client) (origin : DomainId) (receipt : Receipt) : Except BridgeError Transfer := do
  let core ← c.core (.id origin)
  Transfer.ofReceipt origin core.home.address receipt

/-- What has to be settled before a token is sent. -/
structure Plan where
  /-- The domain to send from. -/
  origin : DomainId
  /-- The domain to send to. -/
  destination : DomainId
  /-- The router of the origin. -/
  router : RouterHandle
  /-- The representation of the token on the origin. -/
  representation : TokenHandle
  /-- The account that signs. -/
  owner : Address

/-- Settles what has to be settled before a token is sent. -/
def plan (c : Client) (L : Ledger) (request : TransferRequest) : Except BridgeError Plan := do
  let origin ← c.resolve request.origin
  let destination ← c.resolve request.destination
  checkAmount request.amount
  let bridge ← c.bridge (.id origin)
  match ← c.representation L (.id origin) request.token with
  | none => throw (.tokenUnavailable origin (.identity request.token))
  | some representation =>
    let owner ← boundSigner bridge origin
    return { origin, destination, router := bridge.router, representation, owner }

/-- Lets the router take an amount, if it may not take so much yet, and waits until that is confirmed. -/
def ensureAllowance (c : Client) (p : Plan) (amount : Quantity) : Action Unit := do
  let allowed ← .read fun L =>
    (p.representation.allowance L p.owner p.router.address).mapError (.chain p.origin .allowance)
  if allowed < amount then
    let approval ← .submit p.origin .approve fun L =>
      p.representation.approve L p.router.address amount
    let _ ← c.confirm p.origin .approve approval

/-- Sends an amount of a token to a recipient on another domain. -/
def send (c : Client) (request : TransferRequest) : Action Transfer := do
  let p ← .read fun L => c.plan L request
  c.ensureAllowance p request.amount
  let transaction ← .submit p.origin .send fun L =>
    p.router.send L p.representation.address request.amount p.destination request.recipient.widen
  let receipt ← c.confirm p.origin .send transaction
  .ofExcept (c.transferOf p.origin receipt)

/-- What has to be settled before the native asset is sent: the origin, the destination and the helper. -/
def planNative (c : Client) (request : NativeRequest) :
    Except BridgeError (DomainId × DomainId × HelperHandle) := do
  let origin ← c.resolve request.origin
  let destination ← c.resolve request.destination
  checkAmount request.amount
  let bridge ← c.bridge (.id origin)
  match bridge.nativeHelper with
  | none => throw (.noNativeHelper origin)
  | some helper =>
    let _ ← boundSigner bridge origin
    return (origin, destination, helper)

/-- Sends an amount of the native asset to a recipient on another domain. -/
def sendNative (c : Client) (request : NativeRequest) : Action Transfer := do
  let (origin, destination, helper) ← .ofExcept (c.planNative request)
  let transaction ← .submit origin .sendNative fun L =>
    helper.send L destination request.recipient.widen request.amount
  let receipt ← c.confirm origin .sendNative transaction
  .ofExcept (c.transferOf origin receipt)

/-- The status of a transfer on the domain that it goes to. -/
def messageStatus (c : Client) (L : Ledger) (t : Transfer) : Except BridgeError Status := do
  let replica ← c.replica (.id t.origin) (.id t.destination)
  (replica.messageStatus L t.leaf).mapError (.chain t.destination .messageStatus)

/-- Whether a transfer is processed on the domain that it goes to. -/
def delivered (c : Client) (L : Ledger) (t : Transfer) : Except BridgeError Bool := do
  return (← c.messageStatus L t) = .processed

end Client

end TokenBridge
