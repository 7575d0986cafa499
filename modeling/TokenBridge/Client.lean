import TokenBridge.Directory

/-!
# Clients

A client works on a bridge with a directory over a registry. It looks up contracts by a reference to their
domain, and it changes the providers and signers of the registry so that the directory follows: whatever it
changes for a domain, it rebinds the domain afterwards. The registry may also be changed behind its back;
`isCurrent` tells whether the entries of a domain are still bound to the connection that the registry has.

A look-up takes a number as it is and only looks a name up in the registry; a change looks up either.
-/

namespace TokenBridge

/-- A directory over a registry. -/
structure Client where
  /-- The registry. -/
  registry : Registry
  /-- The directory. -/
  directory : Directory
deriving DecidableEq

namespace Client

/-- Builds a client for a configuration over a registry. -/
def build (c : Config) (r : Registry) : Except BridgeError Client := do
  let (directory, registry) ← Directory.build c r
  return { registry, directory }

/-- The configuration. -/
def config (c : Client) : Config := c.directory.config

/-- The number of the domain that a reference names in the registry. -/
def resolve (c : Client) (ref : DomainRef) : Except BridgeError DomainId := c.registry.resolve ref

/-- The domain that a reference names in the registry. -/
def domain (c : Client) (ref : DomainRef) : Except BridgeError Domain := do
  let number ← c.resolve ref
  match c.registry.domain? number with
  | some d => return d
  | none => throw (.unknownDomain ref)

/-- The numbers of the configured domains. -/
def domainIds (c : Client) : List DomainId := c.config.domains.map DomainConfig.id

/-! ### Contracts -/

/-- The number under which the directory keeps a domain. -/
def entryId (c : Client) : DomainRef → Except BridgeError DomainId
  | .id number => .ok number
  | .name text => c.registry.resolve (.name text)

/-- The core contracts of a domain. -/
def core (c : Client) (ref : DomainRef) : Except BridgeError Core := do
  let number ← c.entryId ref
  match c.directory.cores.get? number with
  | some core => return core
  | none => throw (.missingContracts number)

/-- The core contracts of a domain, if there are any. -/
def core? (c : Client) (ref : DomainRef) : Option Core := do
  let number ← (c.entryId ref).toOption
  c.directory.cores.get? number

/-- The bridge contracts of a domain. -/
def bridge (c : Client) (ref : DomainRef) : Except BridgeError Bridge := do
  let number ← c.entryId ref
  match c.directory.bridges.get? number with
  | some bridge => return bridge
  | none => throw (.missingContracts number)

/-- The bridge contracts of a domain, if there are any. -/
def bridge? (c : Client) (ref : DomainRef) : Option Bridge := do
  let number ← (c.entryId ref).toOption
  c.directory.bridges.get? number

/-- The replica on a remote domain of the home of another one. -/
def replica (c : Client) (home remote : DomainRef) : Except BridgeError ReplicaHandle := do
  let home ← c.entryId home
  let remote ← c.entryId remote
  match (c.directory.cores.get? remote).bind (·.replicas.get? home) with
  | some replica => return replica
  | none => throw (.missingReplica home remote)

/-- The replica on a remote domain of the home of another one, if there is one. -/
def replica? (c : Client) (home remote : DomainRef) : Option ReplicaHandle := do
  let home ← (c.entryId home).toOption
  let core ← c.core? remote
  core.replicas.get? home

/-- The home of a domain, if there is one. -/
def home? (c : Client) (ref : DomainRef) : Option HomeHandle := (c.core? ref).map Core.home

/-! ### Bindings -/

/-- Whether the entries of a domain are bound to the connection that the registry has. -/
def isCurrent (c : Client) (ref : DomainRef) : Except BridgeError Bool := do
  let number ← c.resolve ref
  let current := c.registry.connection? number
  let coreCurrent := match c.directory.cores.get? number with
    | some core => Connection.sameBinding core.connection current
    | none => true
  let bridgeCurrent := match c.directory.bridges.get? number with
    | some bridge => Connection.sameBinding bridge.connection current
    | none => true
  return coreCurrent && bridgeCurrent

/-- Binds the entries of a domain to the connection that the registry has. -/
def rebindId (c : Client) (number : DomainId) : Client :=
  { c with directory := c.directory.rebind number (c.registry.connection? number) }

/-- Changes the registry for a domain, then rebinds the domain. -/
def change (c : Client) (ref : DomainRef) (f : Registry → DomainId → Registry) :
    Except BridgeError Client := do
  let number ← c.resolve ref
  return ({ c with registry := f c.registry number } : Client).rebindId number

/-- Gives a domain a provider. -/
def registerProvider (c : Client) (ref : DomainRef) (provider : Provider) : Except BridgeError Client :=
  c.change ref fun r number => r.registerProvider number provider

/-- Gives a domain a signer. -/
def registerSigner (c : Client) (ref : DomainRef) (signer : Signer) : Except BridgeError Client :=
  c.change ref fun r number => r.registerSigner number signer

/-- Takes the signer of a domain away. -/
def unregisterSigner (c : Client) (ref : DomainRef) : Except BridgeError Client :=
  c.change ref Registry.unregisterSigner

/-- Binds the entries of a domain to the connection that the registry has. -/
def rebind (c : Client) (ref : DomainRef) : Except BridgeError Client :=
  c.change ref fun r _ => r

/-- Binds the entries of all registered domains to the connections that the registry has. -/
def rebindAll (c : Client) : Client := c.registry.domainIds.foldl rebindId c

/-- Takes all signers away. -/
def clearSigners (c : Client) : Client :=
  ({ c with registry := c.registry.clearSigners } : Client).rebindAll

end Client

end TokenBridge
