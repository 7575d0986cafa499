import TokenBridge.Config
import TokenBridge.Handle
import TokenBridge.Registry

/-!
# The directory

The directory has handles on the contracts of the domains in a configuration: for each domain a core entry
with its home and its replicas, and a bridge entry where the domain has bridge contracts. All handles of an
entry are bound to one connection. An entry keeps the addresses that it was built from; rebinding a domain
builds the handles anew from them, bound to another connection.

Building a directory registers the configured domains that the registry does not know. It fails if the
configuration is not valid or disagrees with the registry, and then registers nothing. `build` gives the new
registry only where all of that succeeds; `buildOn` registers one domain after the other in a registry that
comes back as it then is, also after a failure.
-/

namespace TokenBridge

/-- The core contracts of a domain, with the addresses that the handles are built from. -/
structure Core where
  /-- The domain. -/
  domain : DomainId
  /-- The address of its home. -/
  homeAddress : Address
  /-- The addresses of its replicas, by the domain of the home that is replicated. -/
  replicaAddresses : Table DomainId Address
  /-- Its home. -/
  home : HomeHandle
  /-- Its replicas, by the domain of the home that is replicated. -/
  replicas : Table DomainId ReplicaHandle
deriving DecidableEq

namespace Core

/-- Handles on the replicas that a domain has at some addresses, bound to a connection. -/
def replicaHandles (domain : DomainId) (addresses : Table DomainId Address) (connection : Option Connection) :
    Table DomainId ReplicaHandle :=
  addresses.map fun remote address => ⟨⟨domain, address, connection⟩, remote⟩

/-- The core contracts of a configured domain, bound to a connection. -/
def ofConfig (d : DomainConfig) (connection : Option Connection) : Core :=
  let addresses := .ofList (d.replicas.map fun r => (r.domain, r.address))
  { domain := d.id
    homeAddress := d.home
    replicaAddresses := addresses
    home := ⟨⟨d.id, d.home, connection⟩⟩
    replicas := replicaHandles d.id addresses connection }

/-- The same contracts, bound to another connection: the handles are built anew. -/
def bind (c : Core) (connection : Option Connection) : Core :=
  { c with
    home := ⟨⟨c.domain, c.homeAddress, connection⟩⟩
    replicas := replicaHandles c.domain c.replicaAddresses connection }

/-- The connection that the contracts are bound to. -/
def connection (c : Core) : Option Connection := c.home.connection

/-- The replicas, by ascending domain of their homes. -/
def sortedReplicas (c : Core) : List ReplicaHandle :=
  c.replicas.values.mergeSort fun a b => a.remote ≤ b.remote

end Core

/-- The bridge contracts of a domain, with the addresses that the handles are built from. -/
structure Bridge where
  /-- The domain. -/
  domain : DomainId
  /-- The addresses of the contracts. -/
  addresses : BridgeConfig
  /-- Its router. -/
  router : RouterHandle
  /-- Its helper for the native asset. -/
  nativeHelper : Option HelperHandle
deriving DecidableEq

namespace Bridge

/-- The bridge contracts of a configured domain, bound to a connection. -/
def ofConfig (domain : DomainId) (b : BridgeConfig) (connection : Option Connection) : Bridge where
  domain := domain
  addresses := b
  router := ⟨⟨domain, b.router, connection⟩⟩
  nativeHelper := b.nativeHelper.map fun address => ⟨⟨domain, address, connection⟩⟩

/-- The same contracts, bound to another connection: the entry is built anew. -/
def bind (b : Bridge) (connection : Option Connection) : Bridge := .ofConfig b.domain b.addresses connection

/-- The connection that the contracts are bound to. -/
def connection (b : Bridge) : Option Connection := b.router.connection

/-- The account that signs for the contracts. -/
def signerAddress? (b : Bridge) : Option Address := b.connection.bind Connection.signerAddress?

end Bridge

/-- Handles on the contracts of the domains in a configuration. -/
structure Directory where
  /-- The configuration. -/
  config : Config
  /-- The core entries. -/
  cores : Table DomainId Core
  /-- The bridge entries. -/
  bridges : Table DomainId Bridge
deriving DecidableEq

namespace Directory

/-- Handles on the contracts of a domain, put into a directory. -/
def addDomain (r : Registry) (D : Directory) (d : DomainConfig) : Directory :=
  { D with
    cores := D.cores.insert d.id (.ofConfig d (r.connection? d.id))
    bridges := match d.bridge with
      | some bridge => D.bridges.insert d.id (.ofConfig d.id bridge (r.connection? d.id))
      | none => D.bridges }

/-- The directory of a configuration, bound to the connections that a registry has. -/
def ofConfig (c : Config) (r : Registry) : Directory :=
  c.domains.foldl (addDomain r) ⟨c, .empty, .empty⟩

/-- The domains of a list that a registry does not know. A domain that the registry knows differently is
refused: one whose number it has with another name, or whose name it has with another number. -/
def unregistered (r : Registry) : List Domain → Except BridgeError (List Domain)
  | [] => .ok []
  | d :: rest =>
    match r.domain? d.id with
    | some known =>
      if known = d then unregistered r rest else .error (.duplicateDomain (.number d.id))
    | none =>
      match r.named? d.name with
      | some holder => .error (.duplicateDomain (.registered d.name holder.id))
      | none => (unregistered r rest).map (d :: ·)

/-- Registers domains one after the other. -/
def registerAll (r : Registry) (domains : List Domain) : Except BridgeError Registry :=
  domains.foldlM Registry.registerDomain r

/-- Builds the directory of a configuration over a registry, which comes back with the domains that it did
not know. -/
def build (c : Config) (r : Registry) : Except BridgeError (Directory × Registry) := do
  c.validate
  let pending ← unregistered r c.domainList
  let r' ← registerAll r pending
  return (ofConfig c r', r')

/-- Registers domains one after the other, up to the first that is refused. Those before it stay registered. -/
def registerEach (r : Registry) : List Domain → Except BridgeError Unit × Registry
  | [] => (.ok (), r)
  | d :: rest =>
    match r.registerDomain d with
    | .ok r' => registerEach r' rest
    | .error e => (.error e, r)

/-- Builds the directory of a configuration in a registry that others see, step by step: whatever was registered
before a failure stays. -/
def buildOn (c : Config) (r : Registry) : Except BridgeError Directory × Registry :=
  match c.validate with
  | .error e => (.error e, r)
  | .ok () =>
    match unregistered r c.domainList with
    | .error e => (.error e, r)
    | .ok pending =>
      match registerEach r pending with
      | (.error e, r') => (.error e, r')
      | (.ok (), r') => (.ok (ofConfig c r'), r')

/-- Binds the entries of a domain to a connection. -/
def rebind (D : Directory) (domain : DomainId) (connection : Option Connection) : Directory :=
  { D with
    cores := D.cores.modify domain (·.bind connection)
    bridges := D.bridges.modify domain (·.bind connection) }

end Directory

end TokenBridge
