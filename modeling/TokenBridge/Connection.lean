import TokenBridge.Error

/-!
# Connections

A provider is an endpoint through which a domain is reached; a signer is an account that signs for a
domain. Providers and signers are instances: each has a serial number of its own, and two connections are
the same if they join the same instances, whatever their endpoints and addresses are.
-/

namespace TokenBridge

/-- How a provider answers when a transaction is waited for. -/
inductive Conduct where
  /-- At once, with what the ledger knows. -/
  | plain
  /-- Never. -/
  | stalls
  /-- After a number of seconds, with what the ledger knows. -/
  | delays (seconds : Nat)
  /-- At once, with a failure of its own. -/
  | fails (error : ChainError)
  /-- At once, with a receipt that has lost its logs. -/
  | clearsLogs
  /-- At once, with a receipt that has its logs twice. -/
  | doublesLogs
  /-- At once, with a receipt that says the transaction failed. -/
  | deniesSuccess
deriving DecidableEq

/-- An endpoint through which a domain is reached. -/
structure Provider where
  /-- Which instance it is. -/
  serial : Nat
  /-- Where it is found. -/
  endpoint : String
  /-- How it answers after the first calls. -/
  conduct : Conduct
  /-- How many first calls it answers plainly. -/
  skip : Nat
deriving DecidableEq

/-- An account that signs for a domain. -/
structure Signer where
  /-- Which instance it is. -/
  serial : Nat
  /-- The address of the account. -/
  address : Address
deriving DecidableEq

/-- A provider, and the signer for what is sent through it. -/
structure Connection where
  /-- The provider. -/
  provider : Provider
  /-- The signer; without one the connection only reads. -/
  signer : Option Signer
deriving DecidableEq

namespace Connection

/-- The address that signs. -/
def signerAddress? (c : Connection) : Option Address := c.signer.map Signer.address

/-- Whether two connections join the same instances. -/
def sameAs (a b : Connection) : Bool :=
  a.provider.serial = b.provider.serial ∧ a.signer.map Signer.serial = b.signer.map Signer.serial

/-- Whether two bindings are the same: both absent, or joining the same instances. -/
def sameBinding : Option Connection → Option Connection → Bool
  | some a, some b => a.sameAs b
  | none, none => true
  | _, _ => false

end Connection

end TokenBridge
