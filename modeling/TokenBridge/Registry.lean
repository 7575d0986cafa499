import TokenBridge.Connection
import TokenBridge.Table

/-!
# The registry

The registry knows the domains, in the order in which they were registered, and the current provider and
signer of each. Numbers and names of registered domains are unique: a domain whose number or name is taken
is refused and nothing changes. The connection of a domain is its provider together with its signer, if
there is one; without a provider there is none.
-/

namespace TokenBridge

/-- The known domains with their providers and signers. -/
structure Registry where
  /-- The domains, in the order in which they were registered. -/
  domains : List Domain
  /-- The provider of each domain. -/
  providers : Table DomainId Provider
  /-- The signer of each domain. -/
  signers : Table DomainId Signer
deriving DecidableEq

namespace Registry

/-- The registry that knows nothing. -/
def empty : Registry := ⟨[], .empty, .empty⟩

instance : Inhabited Registry := ⟨empty⟩

/-- The domain of a number. -/
def domain? (r : Registry) (id : DomainId) : Option Domain := r.domains.find? (·.id = id)

/-- The domain of a name. -/
def named? (r : Registry) (name : String) : Option Domain := r.domains.find? (·.name = name)

/-- The numbers of the domains, in the order in which they were registered. -/
def domainIds (r : Registry) : List DomainId := r.domains.map Domain.id

/-- Registers a domain at the end. Its number is looked up before its name. -/
def registerDomain (r : Registry) (d : Domain) : Except BridgeError Registry :=
  if (r.domain? d.id).isSome then .error (.duplicateDomain (.number d.id))
  else if (r.named? d.name).isSome then .error (.duplicateDomain (.name d.name))
  else .ok { r with domains := r.domains ++ [d] }

/-- The domain that a reference names. -/
def find? (r : Registry) : DomainRef → Option Domain
  | .id number => r.domain? number
  | .name text => r.named? text

/-- The number of the domain that a reference names. -/
def resolve (r : Registry) (ref : DomainRef) : Except BridgeError DomainId :=
  match r.find? ref with
  | some d => .ok d.id
  | none => .error (.unknownDomain ref)

/-- The provider of a domain. -/
def provider? (r : Registry) (domain : DomainId) : Option Provider := r.providers.get? domain

/-- The signer of a domain. -/
def signer? (r : Registry) (domain : DomainId) : Option Signer := r.signers.get? domain

/-- The current connection of a domain. -/
def connection? (r : Registry) (domain : DomainId) : Option Connection :=
  (r.provider? domain).map fun provider => ⟨provider, r.signer? domain⟩

/-- Gives a domain a provider in place of the one before. -/
def registerProvider (r : Registry) (domain : DomainId) (provider : Provider) : Registry :=
  { r with providers := r.providers.insert domain provider }

/-- Takes the provider of a domain away. No operation of the registry itself does this: a provider that is
registered stays until it is replaced. It stands for what a registry of another make can do, which may come to
have no provider for a domain, and it is a knob for bringing that state about. -/
def hideProvider (r : Registry) (domain : DomainId) : Registry :=
  { r with providers := r.providers.erase domain }

/-- Gives a domain a signer in place of the one before. -/
def registerSigner (r : Registry) (domain : DomainId) (signer : Signer) : Registry :=
  { r with signers := r.signers.insert domain signer }

/-- Takes the signer of a domain away. -/
def unregisterSigner (r : Registry) (domain : DomainId) : Registry :=
  { r with signers := r.signers.erase domain }

/-- Takes the signers of all domains away. -/
def clearSigners (r : Registry) : Registry := { r with signers := .empty }

end Registry

end TokenBridge
