import TokenBridge.Document
import TokenBridge.Config

/-!
# Configurations as documents

How a domain and a configuration are kept. Replicas, bridge contracts, the native helper, confirmations and
the time for confirmation may be missing; a missing one means none, or the usual number. Only the bridge
contracts and the native helper may be `null`.
-/

namespace TokenBridge

namespace Domain

/-- A domain as a document. -/
def toDocument (d : Domain) : Document :=
  .object [("id", .ofNat d.id.toNat), ("name", .text d.name)]

/-- Reads a domain. -/
def ofDocument? (document : Document) : Option Domain := do
  let fields ← document.record? ["id", "name"]
  return {
    id := ← Document.required Document.uint32? "id" fields
    name := ← Document.required Document.string? "name" fields }

end Domain

namespace ReplicaConfig

/-- A replica as a document. -/
def toDocument (c : ReplicaConfig) : Document :=
  .object [("domain", .ofNat c.domain.toNat), ("address", .ofAddress c.address)]

/-- Reads a replica. -/
def ofDocument? (document : Document) : Option ReplicaConfig := do
  let fields ← document.record? ["domain", "address"]
  return {
    domain := ← Document.required Document.uint32? "domain" fields
    address := ← Document.required Document.address? "address" fields }

end ReplicaConfig

namespace BridgeConfig

/-- Bridge contracts as a document. -/
def toDocument (c : BridgeConfig) : Document :=
  .object [("router", .ofAddress c.router),
    ("native_helper", .ofOption Document.ofAddress c.nativeHelper)]

/-- Reads bridge contracts. -/
def ofDocument? (document : Document) : Option BridgeConfig := do
  let fields ← document.record? ["router", "native_helper"]
  return {
    router := ← Document.required Document.address? "router" fields
    nativeHelper :=
      ← Document.optional (Document.nullable? Document.address?) none "native_helper" fields }

end BridgeConfig

namespace DomainConfig

/-- A domain with its contracts as a document. -/
def toDocument (c : DomainConfig) : Document :=
  .object [("id", .ofNat c.id.toNat), ("name", .text c.name), ("home", .ofAddress c.home),
    ("replicas", .list (c.replicas.map ReplicaConfig.toDocument)),
    ("bridge", .ofOption BridgeConfig.toDocument c.bridge),
    ("confirmations", .ofNat c.confirmations.toNat)]

/-- Reads a domain with its contracts. -/
def ofDocument? (document : Document) : Option DomainConfig := do
  let fields ← document.record? ["id", "name", "home", "replicas", "bridge", "confirmations"]
  return {
    id := ← Document.required Document.uint32? "id" fields
    name := ← Document.required Document.string? "name" fields
    home := ← Document.required Document.address? "home" fields
    replicas :=
      ← Document.optional (Document.list? ReplicaConfig.ofDocument?) [] "replicas" fields
    bridge :=
      ← Document.optional (Document.nullable? BridgeConfig.ofDocument?) none "bridge" fields
    confirmations :=
      ← Document.optional Document.uint64? Config.defaultConfirmations "confirmations" fields }

end DomainConfig

namespace Config

/-- A configuration as a document. -/
def toDocument (c : Config) : Document :=
  .object [("environment", .text c.environment),
    ("receipt_timeout_secs", .ofNat c.receiptTimeout.toNat),
    ("domains", .list (c.domains.map DomainConfig.toDocument))]

/-- Reads a configuration. It need not be one that can be worked with. -/
def ofDocument? (document : Document) : Option Config := do
  let fields ← document.record? ["environment", "receipt_timeout_secs", "domains"]
  return {
    environment := ← Document.required Document.string? "environment" fields
    receiptTimeout :=
      ← Document.optional Document.uint64? defaultReceiptTimeout "receipt_timeout_secs" fields
    domains := ← Document.required (Document.list? DomainConfig.ofDocument?) "domains" fields }

end Config

end TokenBridge
