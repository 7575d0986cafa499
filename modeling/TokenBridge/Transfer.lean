import TokenBridge.Receipt

/-!
# Transfers

A transfer is read off the receipt of the transaction that sent it: the one message that the home of the
origin announced there, and the transfer that the message carries. Nothing is taken on trust: the hash and
the route in the announcement have to be those of the message itself, and the message has to come from the
origin.
-/

namespace TokenBridge

/-- A transfer on its way, with the receipt that it was read from. -/
structure Transfer where
  /-- The home's announcement. -/
  dispatch : Dispatch
  /-- The announced message. -/
  message : Message
  /-- The transfer that the message carries. -/
  action : TransferAction
  /-- The receipt of the transaction that sent it. -/
  receipt : Receipt
deriving DecidableEq

namespace Transfer

/-- The only announcement of a home in a receipt. -/
def onlyDispatch (home : Address) (receipt : Receipt) : Except Inconsistency Dispatch :=
  match receipt.dispatchesOf home with
  | [] => .error (.noDispatch home receipt.transaction)
  | [dispatch] => .ok dispatch
  | _ :: _ :: _ => .error (.repeatedDispatch receipt.transaction)

/-- The transfer that a receipt tells of, sent from the home at `home` on the domain `origin`. -/
def ofReceipt (origin : DomainId) (home : Address) (receipt : Receipt) : Except BridgeError Transfer := do
  let dispatch ← (onlyDispatch home receipt).mapError .inconsistent
  if Message.leaf dispatch.message ≠ dispatch.messageHash then
    throw (.inconsistent (.wrongHash receipt.transaction))
  let message ← (Message.decode dispatch.message).mapError .invalidMessage
  if message.origin ≠ origin ∨ message.route ≠ Route.unpack dispatch.packedRoute then
    throw (.inconsistent (.wrongRoute receipt.transaction))
  let action ← (TransferAction.decode message.body).mapError .invalidMessage
  return { dispatch, message, action, receipt }

/-- The domain that it comes from. -/
def origin (t : Transfer) : DomainId := t.message.origin

/-- The domain that it goes to. -/
def destination (t : Transfer) : DomainId := t.message.destination

/-- The nonce of its message. -/
def nonce (t : Transfer) : UInt32 := t.message.nonce

/-- The leaf of its message. -/
def leaf (t : Transfer) : Word := t.dispatch.messageHash

/-- The transaction that sent it. -/
def transaction (t : Transfer) : Word := t.receipt.transaction

/-- How much is moved. -/
def amount (t : Transfer) : Quantity := t.action.amount

/-- The token that is moved. -/
def token (t : Transfer) : TokenId := t.action.token

end Transfer

end TokenBridge
