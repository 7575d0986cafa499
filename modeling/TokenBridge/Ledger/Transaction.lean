import TokenBridge.Ledger.Query

/-!
# Transactions

A transaction is checked first, which changes nothing, and then carried out and mined at once. Its hash is
that of the domain and of its place among all transactions, so it does not depend on what it asks for.
Mining on a reverting domain marks the receipt as failed and undoes nothing.

Sending takes the token or the native value before the message is announced. For the native asset the
announcement can still be refused, where a domain has a native token and no router: what was taken is gone
then, although no transaction was mined.
-/

namespace TokenBridge.Ledger

/-- The hash of a transaction, by its domain and its place among all transactions. -/
def transactionHash (domain : DomainId) (count : UInt64) : Word :=
  Keccak.hash (bytes32 domain ++ BigEndian.encode 8 count.toNat)

/-- Mines a transaction in a block of its own. -/
def mine (L : Ledger) (domain : DomainId) (sender : Address) (request : Request) (logs : List Log) :
    Word × Ledger :=
  let count := L.transactionCount + 1
  let block := L.block + 1
  let transaction := transactionHash domain count
  let receipt : Receipt := ⟨transaction, block, domain ∉ L.reverting, logs⟩
  (transaction,
    { L with
      transactionCount := count
      block := block
      receipts := L.receipts.insert transaction receipt
      submitted := L.submitted ++ [⟨domain, transaction, sender, request⟩] })

/-- The home of a domain announces a transfer to a destination: it uses up a nonce and a leaf. -/
def dispatch (L : Ledger) (origin destination : DomainId) (action : TransferAction) :
    Except ChainError (Log × Ledger) := do
  let router ← L.router origin
  let remote ← match L.routers.get? destination with
    | some remote => pure remote
    | none => throw (.refusal .noRemote)
  let home ← L.home origin
  let nonce := home.nonces.getD destination 0
  let message := Message.encode {
    origin
    sender := router.address.widen
    nonce
    destination
    recipient := remote.address.widen
    body := action.encode }
  let announced : Dispatch := {
    messageHash := Message.leaf message
    leafIndex := .ofNat home.leafCount.toNat
    packedRoute := Route.pack ⟨destination, nonce⟩
    committedRoot := .zero
    message }
  let home' : Home := {
    home with
    nonces := home.nonces.insert destination (nonce + 1)
    leafCount := home.leafCount + 1 }
  return (⟨home.address, .dispatch announced⟩, { L with homes := L.homes.insert origin home' })

/-- Announces a transfer and mines its transaction. -/
def launch (L : Ledger) (domain : DomainId) (sender : Address) (destination : DomainId)
    (action : TransferAction) (request : Request) : Except ChainError Word × Ledger :=
  match L.dispatch domain destination action with
  | .error e => (.error e, L)
  | .ok (log, L') =>
    let (transaction, L'') := L'.mine domain sender request [log]
    (.ok transaction, L'')

/-- The token that a router takes an address for: what the address represents; else the token of the domain
itself, if the router keeps the address for it. -/
def canonicalOf (L : Ledger) (domain : DomainId) (token : Address) : Except ChainError TokenId := do
  let router ← L.router domain
  match router.canonicals.get? token with
  | some canonical => return canonical
  | none =>
    let own := TokenId.ofAddress domain token
    if router.locals.get? own = some token then return own else throw (.refusal .unknownToken)

/-- Whether a domain can send to a destination. -/
def checkRemote (L : Ledger) (domain destination : DomainId) : Except ChainError Unit :=
  if destination = domain ∨ ¬ L.routers.contains destination then .error (.refusal .noRemote) else .ok ()

/-- An owner lets a spender take an amount of a token. -/
def approve (L : Ledger) (domain : DomainId) (token owner spender : Address) (amount : Quantity) :
    Except ChainError Word × Ledger :=
  match L.checkReachable domain *> L.contract domain token with
  | .error e => (.error e, L)
  | .ok _ =>
    let L' := L.updateToken domain token (·.allow owner spender amount)
    let (transaction, L'') := L'.mine domain owner (.approve token spender amount)
      [⟨token, .approval owner spender amount⟩]
    (.ok transaction, L'')

/-- What a router checks before it takes an amount of a token from a sender: it gives the token that it
takes the address for, and its own address. -/
def checkSend (L : Ledger) (domain : DomainId) (sender token : Address) (amount : Quantity)
    (destination : DomainId) : Except ChainError (TokenId × Address) := do
  L.checkReachable domain
  L.checkRemote domain destination
  let canonical ← L.canonicalOf domain token
  let router ← L.router domain
  let contract ← L.contract domain token
  if contract.allowance sender router.address < amount then
    throw (.refusal .insufficientAllowance)
  else if contract.balance sender < amount then
    throw (.refusal .insufficientBalance)
  else return (canonical, router.address)

/-- The router of a domain takes an amount of a token and sends it to a destination. -/
def send (L : Ledger) (domain : DomainId) (sender token : Address) (amount : Quantity)
    (destination : DomainId) (recipient : Word) : Except ChainError Word × Ledger :=
  match L.checkSend domain sender token amount destination with
  | .error e => (.error e, L)
  | .ok (canonical, router) =>
    (L.updateToken domain token (·.take sender router amount)).launch domain sender destination
      ⟨canonical, recipient, amount⟩ (.send token amount destination)

/-- What is checked before native value is taken from a sender: it gives the token that stands for it. -/
def checkSendNative (L : Ledger) (domain : DomainId) (sender : Address) (destination : DomainId)
    (value : Quantity) : Except ChainError Address := do
  L.checkReachable domain
  L.checkRemote domain destination
  match L.nativeTokens.get? domain with
  | none => throw (.refusal .noNativeToken)
  | some token =>
    if L.nativeBalance domain sender < value then throw (.refusal .insufficientFunds)
    else return token

/-- Takes native value from an account. -/
def takeNative (L : Ledger) (domain : DomainId) (sender : Address) (value : Quantity) : Ledger :=
  { L with
    nativeBalances :=
      L.nativeBalances.insert (domain, sender) ((L.nativeBalance domain sender).sub value) }

/-- Native value of a domain is taken and sent to a destination. -/
def sendNative (L : Ledger) (domain : DomainId) (sender : Address) (destination : DomainId)
    (recipient : Word) (value : Quantity) : Except ChainError Word × Ledger :=
  match L.checkSendNative domain sender destination value with
  | .error e => (.error e, L)
  | .ok token =>
    (L.takeNative domain sender value).launch domain sender destination
      ⟨.ofAddress domain token, recipient, value⟩ (.sendNative value destination)

end TokenBridge.Ledger
