import TokenBridge.Client.Send
import TokenBridge.Document

/-!
# Steps and answers

A session works on one registry and one network, and on at most one client over them. This module lists
the steps that a session can take and the answers that it can give. Providers, signers and transfers are
kept under names, and a step refers to them by these.
-/

namespace TokenBridge

/-- A leaf, given as such or by a transfer that was kept. -/
inductive LeafSource where
  /-- The leaf. -/
  | leaf (leaf : Word)
  /-- The leaf of the transfer that was kept under a name. -/
  | transfer (name : String)

/-- A connection by the names of a provider and of a signer. -/
structure ConnectionName where
  /-- The name of the provider. -/
  provider : String
  /-- The name of the signer, if the connection signs. -/
  signer : Option String

/-- A step on the registry alone. -/
inductive RegistryStep where
  /-- Registers a domain. -/
  | registerDomain (domain : Domain)
  /-- Asks for the number that a reference names. -/
  | resolve (ref : DomainRef)
  /-- Asks for the domain of a number. -/
  | domain (id : DomainId)
  /-- Asks for all numbers. -/
  | domainIds
  /-- Gives a domain a provider. -/
  | registerProvider (domain : DomainId) (provider : String)
  /-- Takes the provider of a domain away. This is not an operation of a registry but a knob that makes it look
  like one without that provider. -/
  | hideProvider (domain : DomainId)
  /-- Gives a domain a signer. -/
  | registerSigner (domain : DomainId) (signer : String)
  /-- Takes the signer of a domain away. -/
  | unregisterSigner (domain : DomainId)
  /-- Takes all signers away. -/
  | clearSigners
  /-- Asks for the address of the signer of a domain. -/
  | signer (domain : DomainId)
  /-- Asks for the connection of a domain. -/
  | connection (domain : DomainId)
  /-- Asks whether two domains have the same connection. -/
  | sameBinding (a b : DomainId)
  /-- Asks for a description of the connection of a domain. -/
  | describeConnection (domain : DomainId)

/-- A step on the ledger alone. -/
inductive LedgerStep where
  /-- Puts a token in place on its own domain. -/
  | deployToken (domain : DomainId) (address : Address)
  /-- Puts a token in place that stands for the native asset of its domain. -/
  | deployNativeToken (domain : DomainId) (address : Address)
  /-- Puts a representation of a token in place. -/
  | deployRepresentation (domain : DomainId) (token : TokenId) (address : Address)
  /-- Gives an owner an amount of a token. -/
  | mint (domain : DomainId) (token owner : Address) (amount : Quantity)
  /-- Gives an account native value. -/
  | fundNative (domain : DomainId) (owner : Address) (amount : Quantity)
  /-- Sets what a spender may take of a token. -/
  | setAllowance (domain : DomainId) (token owner spender : Address) (amount : Quantity)
  /-- Makes a domain fail, or work again. -/
  | setFailing (domain : DomainId) (on : Bool)
  /-- Makes the transactions of a domain fail, or succeed again. -/
  | setReverting (domain : DomainId) (on : Bool)
  /-- Records the status of a leaf. -/
  | setStatus (domain remote : DomainId) (status : Status) (source : LeafSource)
  /-- Asks what an owner owns of a token. -/
  | balance (domain : DomainId) (token owner : Address)
  /-- Asks for all transactions. -/
  | submitted

/-- A call of a contract through a handle made for it. -/
inductive HandleCall where
  /-- Asks a home for a nonce. -/
  | nonce (destination : DomainId)
  /-- Asks a replica for the status of a leaf. -/
  | messageStatus (remote : DomainId) (leaf : Word)
  /-- Asks a router for the address of a token. -/
  | localAddress (token : TokenId)
  /-- Asks a router for the token that an address represents. -/
  | canonicalToken (representation : Address)
  /-- Has a router send a token. -/
  | send (token : Address) (amount : Quantity) (destination : DomainId) (recipient : Word)
  /-- Has a helper send native value. -/
  | sendNative (destination : DomainId) (recipient : Word) (value : Quantity)
  /-- Asks a token for an allowance. -/
  | allowance (owner spender : Address)
  /-- Asks a token for a balance. -/
  | balance (owner : Address)
  /-- Lets a spender take an amount of a token. -/
  | approve (spender : Address) (amount : Quantity)
  /-- Looks at the handle itself. -/
  | view
  /-- Looks at the handle of a replica itself. -/
  | viewReplica (remote : DomainId)
  /-- Asks for a description of a home's handle. -/
  | describeHome
  /-- Asks for a description of a replica's handle. -/
  | describeReplica (remote : DomainId)
  /-- Asks for a description of a router's handle. -/
  | describeRouter
  /-- Asks for a description of a helper's handle. -/
  | describeHelper
  /-- Asks for a description of a token's handle. -/
  | describeToken

/-- A step on the client. -/
inductive ClientStep where
  /-- Asks for the configuration. -/
  | config
  /-- Asks for the numbers of the configured domains. -/
  | domainIds
  /-- Asks for a registered domain. -/
  | domain (ref : DomainRef)
  /-- Asks for the number that a reference names. -/
  | resolve (ref : DomainRef)
  /-- Asks whether the entries of a domain are bound to its connection. -/
  | isCurrent (ref : DomainRef)
  /-- Gives a domain a provider. -/
  | registerProvider (ref : DomainRef) (provider : String)
  /-- Gives a domain a signer. -/
  | registerSigner (ref : DomainRef) (signer : String)
  /-- Takes the signer of a domain away. -/
  | unregisterSigner (ref : DomainRef)
  /-- Takes all signers away. -/
  | clearSigners
  /-- Rebinds a domain. -/
  | rebind (ref : DomainRef)
  /-- Rebinds all domains. -/
  | rebindAll
  /-- Asks for core contracts that may be missing. -/
  | core? (ref : DomainRef)
  /-- Asks for core contracts that have to be there. -/
  | core (ref : DomainRef)
  /-- Asks for bridge contracts that may be missing. -/
  | bridge? (ref : DomainRef)
  /-- Asks for bridge contracts that have to be there. -/
  | bridge (ref : DomainRef)
  /-- Asks for a replica that may be missing. -/
  | replica? (home remote : DomainRef)
  /-- Asks for a replica that has to be there. -/
  | replica (home remote : DomainRef)
  /-- Asks for a home that may be missing. -/
  | home? (ref : DomainRef)
  /-- Asks the home of a domain for a nonce. -/
  | nonce (ref : DomainRef) (destination : DomainId)
  /-- Asks for the representation of a token on a domain. -/
  | representation (ref : DomainRef) (token : TokenId)
  /-- Asks for the representations of a token on all domains. -/
  | representations (token : TokenId)
  /-- Asks for the token that an address stands for. -/
  | canonicalIdentity (ref : DomainRef) (address : Address)
  /-- Asks for the contract of the token that an address stands for. -/
  | canonicalContract (ref : DomainRef) (address : Address)
  /-- Sends a token, and keeps the transfer if a name is given. -/
  | send (request : TransferRequest) (keep : Option String)
  /-- Sends the native asset, and keeps the transfer if a name is given. -/
  | sendNative (request : NativeRequest) (keep : Option String)
  /-- Asks for the status of a kept transfer. -/
  | messageStatus (transfer : String)
  /-- Asks whether a kept transfer is processed. -/
  | delivered (transfer : String)
  /-- Asks for a kept transfer as a document. -/
  | document (transfer : String)

/-- A step of a session. -/
inductive Step where
  /-- Makes an instance of a provider and keeps it under a name. -/
  | provider (name endpoint : String) (conduct : Conduct) (skip : Nat)
  /-- Makes an instance of a signer and keeps it under a name. -/
  | signer (name : String) (address : Address)
  /-- Asks for the calls to a provider. -/
  | waits (provider : String)
  /-- Asks a provider to wait for a transaction. -/
  | wait (provider : String) (transaction : Word) (confirmations : UInt64)
  /-- A step on the registry. -/
  | registry (step : RegistryStep)
  /-- A step on the ledger. -/
  | ledger (step : LedgerStep)
  /-- A call through a handle made for it. -/
  | handle (domain : DomainId) (address : Address) (connection : Option ConnectionName)
      (call : HandleCall)
  /-- Builds a client and puts it in the place of the one before. -/
  | build (config : Config)
  /-- A step on the client. -/
  | client (step : ClientStep)

/-- An answer of a session. -/
inductive Answer where
  /-- It is done, and there is nothing to tell; or there is nothing. -/
  | none
  /-- A truth value. -/
  | flag (value : Bool)
  /-- A text. -/
  | text (text : String)
  /-- A quantity. -/
  | quantity (quantity : Quantity)
  /-- A number of 32 bits. -/
  | number (number : UInt32)
  /-- Numbers of domains. -/
  | domainIds (ids : List DomainId)
  /-- A domain. -/
  | domain (domain : Domain)
  /-- An address. -/
  | address (address : Address)
  /-- The hash of a transaction. -/
  | transaction (transaction : Word)
  /-- A token. -/
  | token (token : TokenId)
  /-- The status of a message. -/
  | status (status : Status)
  /-- A connection. -/
  | connection (connection : Connection)
  /-- A handle. -/
  | handle (handle : Handle)
  /-- A handle on a replica. -/
  | replica (replica : ReplicaHandle)
  /-- Core contracts. -/
  | core (core : Core)
  /-- Bridge contracts. -/
  | bridge (bridge : Bridge)
  /-- Representations of a token. -/
  | representations (representations : Representations)
  /-- A receipt. -/
  | receipt (receipt : Receipt)
  /-- A transfer. -/
  | transfer (transfer : Transfer)
  /-- A document. -/
  | document (document : Document)
  /-- Transactions. -/
  | submissions (submissions : List Submission)
  /-- Calls to a provider. -/
  | waits (waits : List Wait)
  /-- A failure of the bridge. -/
  | failure (error : BridgeError)
  /-- A failure on one domain. -/
  | chainFailure (error : ChainError)
  /-- There is no client. -/
  | noClient
  /-- No transfer is kept under the name. -/
  | noTransfer
  /-- No provider or signer is kept under the name. -/
  | noInstance
  /-- The provider does not answer. -/
  | noReply

end TokenBridge
