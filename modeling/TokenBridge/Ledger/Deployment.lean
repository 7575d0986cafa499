import TokenBridge.Ledger

/-!
# Deployments

What happens to the ledger from outside: tokens and representations are put in place, accounts are given
something, statuses of messages are recorded, and domains are made to fail or to revert.
-/

namespace TokenBridge.Ledger

/-- Changes the router of a domain, if it has one. -/
def updateRouter (L : Ledger) (domain : DomainId) (f : Router → Router) : Ledger :=
  { L with routers := L.routers.modify domain f }

/-- Puts a token in place on the domain that it comes from. -/
def deployToken (L : Ledger) (domain : DomainId) (address : Address) : Ledger :=
  (L.updateRouter domain fun router =>
    { router with locals := router.locals.insert (.ofAddress domain address) address }).updateToken
      domain address id

/-- Puts a representation of a token in place on a domain. -/
def deployRepresentation (L : Ledger) (domain : DomainId) (token : TokenId) (address : Address) :
    Ledger :=
  (L.updateRouter domain fun router =>
    { router with
      locals := router.locals.insert token address
      canonicals := router.canonicals.insert address token }).updateToken domain address id

/-- Puts a token in place that stands for the native asset of its domain. -/
def deployNativeToken (L : Ledger) (domain : DomainId) (address : Address) : Ledger :=
  let L := L.deployToken domain address
  { L with nativeTokens := L.nativeTokens.insert domain address }

/-- Gives an owner an amount of a token. -/
def mint (L : Ledger) (domain : DomainId) (token owner : Address) (amount : Quantity) : Ledger :=
  L.updateToken domain token (·.credit owner amount)

/-- Gives an account native value. -/
def fundNative (L : Ledger) (domain : DomainId) (owner : Address) (amount : Quantity) : Ledger :=
  { L with
    nativeBalances :=
      L.nativeBalances.insert (domain, owner) ((L.nativeBalance domain owner).add amount) }

/-- Sets what a spender may take of a token, without a transaction. -/
def setAllowance (L : Ledger) (domain : DomainId) (token owner spender : Address)
    (amount : Quantity) : Ledger :=
  L.updateToken domain token (·.allow owner spender amount)

/-- Makes a domain fail, or work again. -/
def setFailing (L : Ledger) (domain : DomainId) (on : Bool) : Ledger :=
  { L with failing := setMember L.failing domain on }

/-- Makes the transactions of a domain fail, or succeed again. -/
def setReverting (L : Ledger) (domain : DomainId) (on : Bool) : Ledger :=
  { L with reverting := setMember L.reverting domain on }

/-- Records the status of a leaf from a remote domain. -/
def setStatus (L : Ledger) (domain remote : DomainId) (leaf : Word) (status : Status) : Ledger :=
  { L with statuses := L.statuses.insert (domain, remote, leaf) status }

end TokenBridge.Ledger
