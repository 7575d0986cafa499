import TokenBridge.Connection
import TokenBridge.Ledger.Transaction

/-!
# Contract handles

A handle stands for a contract at an address of a domain and is bound to a connection, or to none. Reading
needs a connection, and submitting a transaction needs one that signs; only then is the ledger asked.
-/

namespace TokenBridge

/-- A contract at an address of a domain, bound to a connection. -/
structure Handle where
  /-- The domain. -/
  domain : DomainId
  /-- The address of the contract. -/
  address : Address
  /-- What the handle is bound to. -/
  connection : Option Connection
deriving DecidableEq

/-- A handle on a home. -/
structure HomeHandle extends Handle
deriving DecidableEq

/-- A handle on a replica. -/
structure ReplicaHandle extends Handle where
  /-- The domain of the home that is replicated. -/
  remote : DomainId
deriving DecidableEq

/-- A handle on a router. -/
structure RouterHandle extends Handle
deriving DecidableEq

/-- A handle on a helper for the native asset. -/
structure HelperHandle extends Handle
deriving DecidableEq

/-- A handle on a token. -/
structure TokenHandle extends Handle
deriving DecidableEq

namespace Handle

/-- The same contract, bound to another connection. -/
def bind (h : Handle) (connection : Option Connection) : Handle := { h with connection }

/-- Whether the handle can read. -/
def checkConnected (h : Handle) : Except ChainError Unit :=
  if h.connection.isSome then .ok () else .error .notConnected

/-- The account that signs what the handle submits. -/
def sender (h : Handle) : Except ChainError Address :=
  match h.connection with
  | none => .error .notConnected
  | some connection =>
    match connection.signerAddress? with
    | some address => .ok address
    | none => .error .noSigner

/-- Submits a transaction in the name of the account that signs. -/
def submit (h : Handle) (L : Ledger) (transact : Address → Except ChainError Word × Ledger) :
    Except ChainError Word × Ledger :=
  match h.sender with
  | .error e => (.error e, L)
  | .ok sender => transact sender

end Handle

namespace HomeHandle

/-- The nonce of the next message to a destination. -/
def nonce (h : HomeHandle) (L : Ledger) (destination : DomainId) : Except ChainError UInt32 := do
  h.checkConnected
  L.nonce h.domain destination

end HomeHandle

namespace ReplicaHandle

/-- The status of a leaf. -/
def messageStatus (h : ReplicaHandle) (L : Ledger) (leaf : Word) : Except ChainError Status := do
  h.checkConnected
  L.messageStatus h.domain h.remote leaf

end ReplicaHandle

namespace RouterHandle

/-- The address of a token on the domain, zero for none. -/
def localAddress (h : RouterHandle) (L : Ledger) (token : TokenId) : Except ChainError Address := do
  h.checkConnected
  L.localAddress h.domain token

/-- The token that an address represents; one of domain zero for none. -/
def canonicalToken (h : RouterHandle) (L : Ledger) (representation : Address) :
    Except ChainError TokenId := do
  h.checkConnected
  L.canonicalToken h.domain representation

/-- Sends an amount of a token to a destination. -/
def send (h : RouterHandle) (L : Ledger) (token : Address) (amount : Quantity)
    (destination : DomainId) (recipient : Word) : Except ChainError Word × Ledger :=
  h.submit L fun sender => L.send h.domain sender token amount destination recipient

end RouterHandle

namespace HelperHandle

/-- Sends native value to a destination. -/
def send (h : HelperHandle) (L : Ledger) (destination : DomainId) (recipient : Word)
    (value : Quantity) : Except ChainError Word × Ledger :=
  h.submit L fun sender => L.sendNative h.domain sender destination recipient value

end HelperHandle

namespace TokenHandle

/-- What an owner lets a spender take. -/
def allowance (h : TokenHandle) (L : Ledger) (owner spender : Address) : Except ChainError Quantity := do
  h.checkConnected
  L.allowance h.domain h.address owner spender

/-- What an owner owns. -/
def balance (h : TokenHandle) (L : Ledger) (owner : Address) : Except ChainError Quantity := do
  h.checkConnected
  L.tokenBalance h.domain h.address owner

/-- Lets a spender take an amount from the account that signs. -/
def approve (h : TokenHandle) (L : Ledger) (spender : Address) (amount : Quantity) :
    Except ChainError Word × Ledger :=
  h.submit L fun sender => L.approve h.domain h.address sender spender amount

end TokenHandle

end TokenBridge
