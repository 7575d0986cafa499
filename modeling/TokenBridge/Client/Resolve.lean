import TokenBridge.Client

/-!
# Resolving tokens

A token has at most one representation on each domain with bridge contracts: the contract at the address
that the router gives for it, unless that is zero. Backwards, an address on a domain stands for the token
that it represents; an address that represents none stands for the token of its own domain, if the router
gives an address for that.

A router tells by domain zero that an address represents nothing, so a token of domain zero is never found
through its representations.
-/

namespace TokenBridge

/-- The representations of a token on all domains that have one. -/
structure Representations where
  /-- The token. -/
  token : TokenId
  /-- Its contract on each domain. -/
  contracts : Table DomainId TokenHandle
deriving DecidableEq

namespace Representations

/-- The representation on a domain. -/
def get? (r : Representations) (domain : DomainId) : Option TokenHandle := r.contracts.get? domain

/-- The domains with a representation, ascending. -/
def domains (r : Representations) : List DomainId := r.contracts.keys.mergeSort fun a b => a ≤ b

/-- How many domains have a representation. -/
def size (r : Representations) : Nat := r.contracts.size

end Representations

namespace Client

/-- The representation of a token on a domain that the directory may have bridge contracts for. -/
def representationOn (c : Client) (L : Ledger) (domain : DomainId) (token : TokenId) :
    Except BridgeError (Option TokenHandle) :=
  match c.directory.bridges.get? domain with
  | none => .ok none
  | some bridge => do
    let address ← (bridge.router.localAddress L token).mapError (.chain domain .localAddress)
    if address = .zero then return none
    else return some ⟨⟨domain, address, bridge.connection⟩⟩

/-- The representation of a token on a domain. The domain and that of the token have to be registered. -/
def representation (c : Client) (L : Ledger) (ref : DomainRef) (token : TokenId) :
    Except BridgeError (Option TokenHandle) := do
  let domain ← c.resolve ref
  let _ ← c.resolve (.id token.domain)
  c.representationOn L domain token

/-- The representations of a token on the given domains. The first domain that fails is reported. -/
def representationsOn (c : Client) (L : Ledger) (token : TokenId) :
    List DomainId → Except BridgeError (List (DomainId × TokenHandle))
  | [] => .ok []
  | domain :: rest => do
    let found ← (c.representationOn L domain token).mapError (.queryFailed domain)
    let others ← c.representationsOn L token rest
    match found with
    | some contract => return (domain, contract) :: others
    | none => return others

/-- The representations of a token on all registered domains. -/
def representations (c : Client) (L : Ledger) (token : TokenId) :
    Except BridgeError Representations := do
  let _ ← c.resolve (.id token.domain)
  let found ← c.representationsOn L token c.registry.domainIds
  return ⟨token, .ofList found⟩

/-- The token that an address on a domain stands for, if it stands for one. -/
def canonicalIdentity (c : Client) (L : Ledger) (ref : DomainRef) (address : Address) :
    Except BridgeError (Option TokenId) := do
  let domain ← c.resolve ref
  let bridge ← c.bridge (.id domain)
  let canonical ← (bridge.router.canonicalToken L address).mapError (.chain domain .canonicalToken)
  if canonical.domain ≠ 0 then return some canonical
  else
    let own := TokenId.ofAddress domain address
    let known ← (bridge.router.localAddress L own).mapError (.chain domain .localAddress)
    if known = .zero then return none else return some own

/-- The contract of the token that an address on a domain stands for, on the domain that the token comes
from. -/
def canonicalContract (c : Client) (L : Ledger) (ref : DomainRef) (address : Address) :
    Except BridgeError TokenHandle := do
  let domain ← c.resolve ref
  match ← c.canonicalIdentity L (.id domain) address with
  | none => throw (.tokenNotFound domain address)
  | some token =>
    match ← c.representation L (.id token.domain) token with
    | some contract => return contract
    | none => throw (.inconsistent (.homeless token))

end Client

end TokenBridge
