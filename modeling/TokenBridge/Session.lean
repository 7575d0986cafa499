import TokenBridge.Description
import TokenBridge.Document.Config
import TokenBridge.Document.Transfer
import TokenBridge.Ledger.Deployment
import TokenBridge.Session.Step

/-!
# Sessions

A session takes steps one after the other, each from the state that the one before left. Every instance of
a provider or a signer gets the next serial number, so that a name that is used again stands for a new
instance while the old one stays wherever it was registered.
-/

namespace TokenBridge

/-- The state of a session. -/
structure Session where
  /-- The registry. -/
  registry : Registry
  /-- The network. -/
  network : Network
  /-- The directory of the client, if there is a client. -/
  directory : Option Directory
  /-- The providers by their names. -/
  providers : Table String Provider
  /-- The signers by their names. -/
  signers : Table String Signer
  /-- The transfers that were kept. -/
  transfers : Table String Transfer
  /-- The serial number of the next instance. -/
  nextSerial : Nat
deriving DecidableEq

namespace Answer

/-- An answer that may be missing. -/
def ofOption {α : Type} (f : α → Answer) : Option α → Answer
  | some value => f value
  | .none => .none

/-- The answer to something that may fail. -/
def ofResult {α : Type} (f : α → Answer) : Except BridgeError α → Answer
  | .ok value => f value
  | .error e => .failure e

/-- The answer to something that may fail on one domain. -/
def ofChainResult {α : Type} (f : α → Answer) : Except ChainError α → Answer
  | .ok value => f value
  | .error e => .chainFailure e

end Answer

namespace Session

/-- A session that starts with a ledger and knows nothing else. -/
def start (L : Ledger) : Session where
  registry := .empty
  network := .ofLedger L
  directory := none
  providers := .empty
  signers := .empty
  transfers := .empty
  nextSerial := 0

/-- The ledger. -/
def ledger (s : Session) : Ledger := s.network.ledger

/-- The same session with another ledger. -/
def withLedger (s : Session) (L : Ledger) : Session :=
  { s with network := { s.network with ledger := L } }

/-- The same session with the registry and the directory of a client. -/
def withClient (s : Session) (c : Client) : Session :=
  { s with registry := c.registry, directory := some c.directory }

/-- The client of the session. -/
def client? (s : Session) : Option Client := s.directory.map fun directory => ⟨s.registry, directory⟩

/-- A step on the registry. -/
def registryStep (s : Session) : RegistryStep → Answer × Session
  | .registerDomain domain =>
    match s.registry.registerDomain domain with
    | .ok registry => (.none, { s with registry })
    | .error e => (.failure e, s)
  | .resolve ref => (.ofResult .number (s.registry.resolve ref), s)
  | .domain id => (.ofOption .domain (s.registry.domain? id), s)
  | .domainIds => (.domainIds s.registry.domainIds, s)
  | .registerProvider domain name =>
    match s.providers.get? name with
    | some provider => (.none, { s with registry := s.registry.registerProvider domain provider })
    | none => (.noInstance, s)
  | .hideProvider domain => (.none, { s with registry := s.registry.hideProvider domain })
  | .registerSigner domain name =>
    match s.signers.get? name with
    | some signer => (.none, { s with registry := s.registry.registerSigner domain signer })
    | none => (.noInstance, s)
  | .unregisterSigner domain => (.none, { s with registry := s.registry.unregisterSigner domain })
  | .clearSigners => (.none, { s with registry := s.registry.clearSigners })
  | .signer domain => (.ofOption (fun signer => .address signer.address) (s.registry.signer? domain), s)
  | .connection domain => (.ofOption .connection (s.registry.connection? domain), s)
  | .sameBinding a b =>
    (.flag (Connection.sameBinding (s.registry.connection? a) (s.registry.connection? b)), s)
  | .describeConnection domain =>
    (.ofOption (fun connection => .text connection.describe) (s.registry.connection? domain), s)

/-- A step on the ledger. -/
def ledgerStep (s : Session) : LedgerStep → Answer × Session
  | .deployToken domain address =>
    (.token (.ofAddress domain address), s.withLedger (s.ledger.deployToken domain address))
  | .deployNativeToken domain address =>
    (.token (.ofAddress domain address), s.withLedger (s.ledger.deployNativeToken domain address))
  | .deployRepresentation domain token address =>
    (.none, s.withLedger (s.ledger.deployRepresentation domain token address))
  | .mint domain token owner amount => (.none, s.withLedger (s.ledger.mint domain token owner amount))
  | .fundNative domain owner amount => (.none, s.withLedger (s.ledger.fundNative domain owner amount))
  | .setAllowance domain token owner spender amount =>
    (.none, s.withLedger (s.ledger.setAllowance domain token owner spender amount))
  | .setFailing domain on => (.none, s.withLedger (s.ledger.setFailing domain on))
  | .setReverting domain on => (.none, s.withLedger (s.ledger.setReverting domain on))
  | .setStatus domain remote status (.leaf leaf) =>
    (.none, s.withLedger (s.ledger.setStatus domain remote leaf status))
  | .setStatus domain remote status (.transfer name) =>
    match s.transfers.get? name with
    | some t => (.none, s.withLedger (s.ledger.setStatus domain remote t.leaf status))
    | none => (.noTransfer, s)
  | .balance domain token owner => (.quantity (s.ledger.balance domain token owner), s)
  | .submitted => (.submissions s.ledger.submitted, s)

/-- A call that may hand in a transaction. -/
def submitStep (s : Session) (result : Except ChainError Word × Ledger) : Answer × Session :=
  (.ofChainResult .transaction result.1, s.withLedger result.2)

/-- A call through a handle. -/
def handleCall (s : Session) (h : Handle) : HandleCall → Answer × Session
  | .nonce destination => (.ofChainResult .number ((⟨h⟩ : HomeHandle).nonce s.ledger destination), s)
  | .messageStatus remote leaf =>
    (.ofChainResult .status ((⟨h, remote⟩ : ReplicaHandle).messageStatus s.ledger leaf), s)
  | .localAddress token =>
    (.ofChainResult .address ((⟨h⟩ : RouterHandle).localAddress s.ledger token), s)
  | .canonicalToken representation =>
    (.ofChainResult .token ((⟨h⟩ : RouterHandle).canonicalToken s.ledger representation), s)
  | .send token amount destination recipient =>
    s.submitStep ((⟨h⟩ : RouterHandle).send s.ledger token amount destination recipient)
  | .sendNative destination recipient value =>
    s.submitStep ((⟨h⟩ : HelperHandle).send s.ledger destination recipient value)
  | .allowance owner spender =>
    (.ofChainResult .quantity ((⟨h⟩ : TokenHandle).allowance s.ledger owner spender), s)
  | .balance owner => (.ofChainResult .quantity ((⟨h⟩ : TokenHandle).balance s.ledger owner), s)
  | .approve spender amount => s.submitStep ((⟨h⟩ : TokenHandle).approve s.ledger spender amount)
  | .view => (.handle h, s)
  | .viewReplica remote => (.replica ⟨h, remote⟩, s)
  | .describeHome => (.text (⟨h⟩ : HomeHandle).describe, s)
  | .describeReplica remote => (.text (⟨h, remote⟩ : ReplicaHandle).describe, s)
  | .describeRouter => (.text (⟨h⟩ : RouterHandle).describe, s)
  | .describeHelper => (.text (⟨h⟩ : HelperHandle).describe, s)
  | .describeToken => (.text (⟨h⟩ : TokenHandle).describe, s)

/-- The connection of the providers and signers that are kept under the given names. -/
def connect? (s : Session) (name : ConnectionName) : Option Connection := do
  let provider ← s.providers.get? name.provider
  match name.signer with
  | none => return ⟨provider, none⟩
  | some signer => return ⟨provider, some (← s.signers.get? signer)⟩

/-- A call through a handle made for it. -/
def handleStep (s : Session) (domain : DomainId) (address : Address)
    (connection : Option ConnectionName) (call : HandleCall) : Answer × Session :=
  match connection with
  | none => s.handleCall ⟨domain, address, none⟩ call
  | some name =>
    match s.connect? name with
    | some connection => s.handleCall ⟨domain, address, some connection⟩ call
    | none => (.noInstance, s)

/-- A change of the client that may fail. -/
def changeStep (s : Session) (result : Except BridgeError Client) : Answer × Session :=
  match result with
  | .ok c => (.none, s.withClient c)
  | .error e => (.failure e, s)

/-- Builds a client in the registry, which stays as the building leaves it. -/
def buildStep (s : Session) (config : Config) : Answer × Session :=
  match Directory.buildOn config s.registry with
  | (.ok directory, registry) => (.none, s.withClient ⟨registry, directory⟩)
  | (.error e, registry) => (.failure e, { s with registry })

/-- A sending, with the transfer kept where a name is given. -/
def sendStep (s : Session) (action : Action Transfer) (keep : Option String) : Answer × Session :=
  match action.on s.network with
  | (.error e, network) => (.failure e, { s with network })
  | (.ok transfer, network) =>
    (.transfer transfer,
      { s with
        network
        transfers := match keep with
          | some name => s.transfers.insert name transfer
          | none => s.transfers })

/-- A question about a transfer that was kept. -/
def transferStep (s : Session) (name : String) (f : Transfer → Answer) : Answer × Session :=
  match s.transfers.get? name with
  | some transfer => (f transfer, s)
  | none => (.noTransfer, s)

/-- A step on a client. -/
def clientStep (s : Session) (c : Client) : ClientStep → Answer × Session
  | .config => (.document c.config.toDocument, s)
  | .domainIds => (.domainIds c.domainIds, s)
  | .domain ref => (.ofResult .domain (c.domain ref), s)
  | .resolve ref => (.ofResult .number (c.resolve ref), s)
  | .isCurrent ref => (.ofResult .flag (c.isCurrent ref), s)
  | .registerProvider ref name =>
    match s.providers.get? name with
    | some provider => s.changeStep (c.registerProvider ref provider)
    | none => (.noInstance, s)
  | .registerSigner ref name =>
    match s.signers.get? name with
    | some signer => s.changeStep (c.registerSigner ref signer)
    | none => (.noInstance, s)
  | .unregisterSigner ref => s.changeStep (c.unregisterSigner ref)
  | .clearSigners => (.none, s.withClient c.clearSigners)
  | .rebind ref => s.changeStep (c.rebind ref)
  | .rebindAll => (.none, s.withClient c.rebindAll)
  | .core? ref => (.ofOption .core (c.core? ref), s)
  | .core ref => (.ofResult .core (c.core ref), s)
  | .bridge? ref => (.ofOption .bridge (c.bridge? ref), s)
  | .bridge ref => (.ofResult .bridge (c.bridge ref), s)
  | .replica? home remote => (.ofOption .replica (c.replica? home remote), s)
  | .replica home remote => (.ofResult .replica (c.replica home remote), s)
  | .home? ref => (.ofOption (fun home => .handle home.toHandle) (c.home? ref), s)
  | .nonce ref destination =>
    (.ofOption (fun home => .ofChainResult .number (home.nonce s.ledger destination)) (c.home? ref), s)
  | .representation ref token =>
    (.ofResult (.ofOption fun contract => .handle contract.toHandle)
      (c.representation s.ledger ref token), s)
  | .representations token => (.ofResult .representations (c.representations s.ledger token), s)
  | .canonicalIdentity ref address =>
    (.ofResult (.ofOption .token) (c.canonicalIdentity s.ledger ref address), s)
  | .canonicalContract ref address =>
    (.ofResult (fun contract => .handle contract.toHandle)
      (c.canonicalContract s.ledger ref address), s)
  | .send request keep => s.sendStep (c.send request) keep
  | .sendNative request keep => s.sendStep (c.sendNative request) keep
  | .messageStatus name =>
    s.transferStep name fun t => .ofResult .status (c.messageStatus s.ledger t)
  | .delivered name => s.transferStep name fun t => .ofResult .flag (c.delivered s.ledger t)
  | .document name => s.transferStep name fun t => .document t.toDocument

/-- A step of a session, with the answer to it. -/
def step (s : Session) : Step → Answer × Session
  | .provider name endpoint conduct skip =>
    (.none,
      { s with
        providers := s.providers.insert name ⟨s.nextSerial, endpoint, conduct, skip⟩
        nextSerial := s.nextSerial + 1 })
  | .signer name address =>
    (.none,
      { s with
        signers := s.signers.insert name ⟨s.nextSerial, address⟩
        nextSerial := s.nextSerial + 1 })
  | .waits name =>
    match s.providers.get? name with
    | some provider => (.waits (s.network.callsTo provider.serial), s)
    | none => (.noInstance, s)
  | .wait name transaction confirmations =>
    match s.providers.get? name with
    | some provider =>
      let (reply, network) := s.network.wait provider transaction confirmations
      (match reply with
        | .after _ answer => .ofChainResult .receipt answer
        | .never => .noReply,
        { s with network })
    | none => (.noInstance, s)
  | .registry step => s.registryStep step
  | .ledger step => s.ledgerStep step
  | .handle domain address connection call => s.handleStep domain address connection call
  | .build config => s.buildStep config
  | .client step =>
    match s.client? with
    | some c => s.clientStep c step
    | none => (.noClient, s)

/-- Takes steps one after the other. -/
def run (s : Session) : List Step → List Answer × Session
  | [] => ([], s)
  | st :: rest =>
    let (answer, s') := s.step st
    let (answers, s'') := s'.run rest
    (answer :: answers, s'')

end Session

end TokenBridge
