import TokenBridge.Error

/-!
# Configurations

A configuration lists the domains of a bridge with the addresses of their contracts. `validate` accepts one
in which numbers and names are distinct, a time for confirmation is given, every domain asks for at least
one confirmation, and no domain lists a replica of its own home or two replicas of one home. Otherwise it
reports the first thing wrong: repeated numbers and names come first, then the time, then domain by domain
the confirmations and the replicas in their order.
-/

namespace TokenBridge

/-- The replica of a home on another domain. -/
structure ReplicaConfig where
  /-- The domain of the home. -/
  domain : DomainId
  /-- The address of the replica. -/
  address : Address
deriving DecidableEq

/-- The bridge contracts of a domain. -/
structure BridgeConfig where
  /-- The address of the router. -/
  router : Address
  /-- The address of the helper for the native asset. -/
  nativeHelper : Option Address
deriving DecidableEq

/-- A domain with its contracts. -/
structure DomainConfig where
  /-- The number of the domain. -/
  id : DomainId
  /-- Its name. -/
  name : String
  /-- The address of its home. -/
  home : Address
  /-- Its replicas of the homes of other domains. -/
  replicas : List ReplicaConfig
  /-- Its bridge contracts. -/
  bridge : Option BridgeConfig
  /-- How many confirmations a transaction on it needs. -/
  confirmations : UInt64
deriving DecidableEq

/-- The domain that a configuration is for. -/
def DomainConfig.domain (c : DomainConfig) : Domain := ⟨c.id, c.name⟩

/-- A bridge between domains. -/
structure Config where
  /-- What the bridge is for. -/
  environment : String
  /-- How many seconds to wait for a transaction to be confirmed. -/
  receiptTimeout : UInt64
  /-- The domains. -/
  domains : List DomainConfig
deriving DecidableEq

namespace Config

/-- How many confirmations a transaction needs where nothing else is said. -/
def defaultConfirmations : UInt64 := 1

/-- How many seconds to wait for a transaction where nothing else is said. -/
def defaultReceiptTimeout : UInt64 := 300

/-- A configuration with the usual time for confirmation. -/
def ofDomains (environment : String) (domains : List DomainConfig) : Config :=
  ⟨environment, defaultReceiptTimeout, domains⟩

/-- The domains, without their contracts. -/
def domainList (c : Config) : List Domain := c.domains.map DomainConfig.domain

/-- The entry of a domain: the first with its number. -/
def domain? (c : Config) (id : DomainId) : Option DomainConfig := c.domains.find? (·.id = id)

/-- Whether numbers and names in a list are distinct, and differ from those seen before it. The first domain
that repeats one is reported, by its number before its name. -/
def checkFresh (ids : List DomainId) (names : List String) : List Domain → Except BridgeError Unit
  | [] => .ok ()
  | d :: rest =>
    if d.id ∈ ids then .error (.duplicateDomain (.number d.id))
    else if d.name ∈ names then .error (.duplicateDomain (.name d.name))
    else checkFresh (d.id :: ids) (d.name :: names) rest

/-- Whether the numbers and the names of domains are distinct. -/
def checkDistinct (domains : List Domain) : Except BridgeError Unit := checkFresh [] [] domains

/-- Whether a domain may list a replica of the home of another one. -/
def checkReplica (domain remote : DomainId) : Except BridgeError Unit :=
  if domain = remote then .error (.invalidConfig (.ownReplica domain)) else .ok ()

/-- Whether the replicas of a domain are those of other domains, each listed once and not seen before. -/
def checkReplicas (d : DomainConfig) (remotes : List DomainId) :
    List ReplicaConfig → Except BridgeError Unit
  | [] => .ok ()
  | replica :: rest => do
    checkReplica d.id replica.domain
    if replica.domain ∈ remotes then
      .error (.invalidConfig (.repeatedReplica d.name replica.domain))
    else checkReplicas d (replica.domain :: remotes) rest

/-- Whether a domain asks for a confirmation and its replicas are in order. -/
def checkDomain (d : DomainConfig) : Except BridgeError Unit :=
  if d.confirmations = 0 then .error (.invalidConfig (.noConfirmations d.name))
  else checkReplicas d [] d.replicas

/-- Whether each of the domains is in order. -/
def checkDomains : List DomainConfig → Except BridgeError Unit
  | [] => .ok ()
  | d :: rest => do
    checkDomain d
    checkDomains rest

/-- Whether a configuration can be worked with, or the first thing that is wrong with it. -/
def validate (c : Config) : Except BridgeError Unit := do
  checkDistinct c.domainList
  if c.receiptTimeout = 0 then .error (.invalidConfig .zeroTimeout)
  else checkDomains c.domains

/-- A small bridge between two domains; only the first has a helper for its native asset. -/
def testing : Config where
  environment := "test"
  receiptTimeout := 5
  domains := [
    { id := 1
      name := "alpha"
      home := .ofNat 0x1001
      replicas := [⟨2, .ofNat 0x1002⟩]
      bridge := some ⟨.ofNat 0x1100, some (.ofNat 0x1200)⟩
      confirmations := 1 },
    { id := 2
      name := "beta"
      home := .ofNat 0x2001
      replicas := [⟨1, .ofNat 0x2002⟩]
      bridge := some ⟨.ofNat 0x2100, none⟩
      confirmations := 1 }]

end Config

end TokenBridge
