import TokenBridge.Domain
import TokenBridge.Text.Quoted

/-!
# Failures

Every failure is a value that names its cause; `message` gives its one wording. A failure of a chain
(`ChainError`) happens on one domain; a failure of the bridge (`BridgeError`) may wrap one. Each kind of
cause also has a `described` form for a failure that is reported from outside with a text of its own.
-/

namespace TokenBridge

/-- Why a contract refuses a call. -/
inductive Refusal where
  /-- The domain has no home. -/
  | noHome
  /-- The domain has no router. -/
  | noRouter
  /-- The destination cannot be reached from the domain. -/
  | noRemote
  /-- There is no token contract at the address. -/
  | noContract
  /-- The router does not know the token. -/
  | unknownToken
  /-- The domain has no token for its native asset. -/
  | noNativeToken
  /-- The router may not take so much of the token. -/
  | insufficientAllowance
  /-- The sender does not own so much of the token. -/
  | insufficientBalance
  /-- The sender does not own so much of the native asset. -/
  | insufficientFunds
deriving DecidableEq

/-- The reason that a contract gives with a refusal. -/
def Refusal.reason : Refusal → String
  | .noHome => "!home"
  | .noRouter => "!router"
  | .noRemote => "!remote"
  | .noContract => "!contract"
  | .unknownToken => "!token"
  | .noNativeToken => "!weth"
  | .insufficientAllowance => "ERC20: insufficient allowance"
  | .insufficientBalance => "ERC20: transfer amount exceeds balance"
  | .insufficientFunds => "insufficient funds"

/-- Why a call to a domain did not go through. -/
inductive CallFault where
  /-- The domain does not answer. -/
  | unreachable (domain : DomainId)
  /-- The contract refuses. -/
  | refused (refusal : Refusal)
  /-- Reported with a text of its own. -/
  | described (text : String)
deriving DecidableEq

/-- The wording of a call fault. -/
def CallFault.message : CallFault → String
  | .unreachable domain => s!"domain {domain} unreachable"
  | .refused refusal => "execution reverted: " ++ refusal.reason
  | .described text => text

/-- A failure on one domain. -/
inductive ChainError where
  /-- The contract handle has no connection. -/
  | notConnected
  /-- The connection cannot sign. -/
  | noSigner
  /-- The call did not go through. -/
  | call (fault : CallFault)
  /-- The transaction was mined and failed. -/
  | reverted (transaction : Word)
  /-- The transaction is not known. -/
  | dropped (transaction : Word)
  /-- The transaction was not confirmed in time. -/
  | timedOut (transaction : Word)
deriving DecidableEq

namespace ChainError

/-- A contract's refusal as a failure. -/
def refusal (refusal : Refusal) : ChainError := .call (.refused refusal)

/-- The wording of a failure on one domain. -/
def message : ChainError → String
  | .notConnected => "Contract is not connected"
  | .noSigner => "Connection has no signer"
  | .call fault => "RPC error: " ++ fault.message
  | .reverted transaction => "Transaction reverted: " ++ transaction.text
  | .dropped transaction => "Transaction dropped: " ++ transaction.text
  | .timedOut transaction => "Timed out waiting for " ++ transaction.text

end ChainError

/-- Which part of a domain is taken already. -/
inductive Taken where
  /-- Its number. -/
  | number (id : DomainId)
  /-- Its name. -/
  | name (name : String)
  /-- Its name, by a registered domain with another number. -/
  | registered (name : String) (holder : DomainId)
deriving DecidableEq

/-- The wording of what is taken. -/
def Taken.message : Taken → String
  | .number taken => toString taken
  | .name taken => taken
  | .registered taken holder => s!"{taken} (registered as {holder})"

/-- Why a text, a byte string or a word is no address or identity. -/
inductive AddressFault where
  /-- The text has a character that is no hex digit. The position counts bytes, after the mark and with the
  zero that evens out the digits; the character is that of the first byte there. -/
  | badDigit (input : String) (char : Char) (position : Nat)
  /-- The byte string is longer than a word. -/
  | tooLong (length : Nat)
  /-- The word is no wide form of an address. -/
  | notNarrow (word : Word)
  /-- Reported with a text of its own. -/
  | described (text : String)
deriving DecidableEq

/-- The wording of an address fault. -/
def AddressFault.message : AddressFault → String
  | .badDigit input char position =>
    s!"{input}: Invalid character {Text.quotedChar char} at position {position}"
  | .tooLong length => s!"{length} bytes does not fit a canonical id"
  | .notNarrow word => word.text ++ " has non-zero high bytes"
  | .described text => text

/-- Why an amount cannot be sent. -/
inductive AmountFault where
  /-- Nothing is to be sent. -/
  | zero
  /-- Reported with a text of its own. -/
  | described (text : String)
deriving DecidableEq

/-- The wording of an amount fault. -/
def AmountFault.message : AmountFault → String
  | .zero => "transfer amount must be non-zero"
  | .described text => text

/-- Why a byte string is no message or no transfer body. -/
inductive MessageFault where
  /-- The message is shorter than its header. -/
  | shortHeader (length : Nat)
  /-- The body has the wrong length. -/
  | bodyLength (length : Nat)
  /-- The body's tag is not that of a transfer. -/
  | badTag (tag : UInt8)
  /-- Reported with a text of its own. -/
  | described (text : String)
deriving DecidableEq

/-- The wording of a message fault. -/
def MessageFault.message : MessageFault → String
  | .shortHeader length => s!"message of {length} bytes is shorter than its header"
  | .bodyLength length => s!"transfer body must be 101 bytes, got {length}"
  | .badTag tag => "unexpected action tag " ++ Hex.text 2 tag.toNat
  | .described text => text

/-- Why a configuration is refused. -/
inductive ConfigFault where
  /-- No time is given for a transaction to be confirmed. -/
  | zeroTimeout
  /-- A domain asks for no confirmation. -/
  | noConfirmations (domain : String)
  /-- A domain lists a replica of its own home. -/
  | ownReplica (domain : DomainId)
  /-- A domain lists two replicas of one home. -/
  | repeatedReplica (domain : String) (remote : DomainId)
  /-- Reported with a text of its own. -/
  | described (text : String)
deriving DecidableEq

/-- The wording of a configuration fault. -/
def ConfigFault.message : ConfigFault → String
  | .zeroTimeout => "receipt_timeout_secs must be non-zero"
  | .noConfirmations domain => s!"domain {domain} requires at least one confirmation"
  | .ownReplica domain => s!"domain {domain} lists a replica of itself"
  | .repeatedReplica domain remote => s!"domain {domain} lists two replicas of {remote}"
  | .described text => text

/-- What in a receipt or on a domain contradicts itself. -/
inductive Inconsistency where
  /-- The receipt has no dispatch of the home. -/
  | noDispatch (home : Address) (transaction : Word)
  /-- The receipt has more than one dispatch of the home. -/
  | repeatedDispatch (transaction : Word)
  /-- The dispatched hash is not that of the message. -/
  | wrongHash (transaction : Word)
  /-- The dispatched route is not that of the message. -/
  | wrongRoute (transaction : Word)
  /-- A token is not to be found on the domain that it comes from. -/
  | homeless (token : TokenId)
  /-- Reported with a text of its own. -/
  | described (text : String)
deriving DecidableEq

/-- The wording of an inconsistency. -/
def Inconsistency.message : Inconsistency → String
  | .noDispatch home transaction => s!"no dispatch from home {home.text} in {transaction.text}"
  | .repeatedDispatch transaction => s!"multiple dispatches in {transaction.text}"
  | .wrongHash transaction => s!"message hash mismatch in {transaction.text}"
  | .wrongRoute transaction => s!"dispatch header disagrees with message in {transaction.text}"
  | .homeless token => s!"canonical token {token.text} has no address on its own domain"
  | .described text => text

/-- A token as a failure names it. -/
inductive TokenName where
  /-- By its identity. -/
  | identity (token : TokenId)
  /-- Reported with a text of its own. -/
  | described (text : String)
deriving DecidableEq

/-- The wording of a token's name. -/
def TokenName.message : TokenName → String
  | .identity token => token.text
  | .described text => text

/-- The calls whose failures are told apart. -/
inductive Operation where
  /-- Reading an allowance. -/
  | allowance
  /-- Approving, and waiting for the approval. -/
  | approve
  /-- Sending a token, and waiting for the transfer. -/
  | send
  /-- Sending the native asset, and waiting for the transfer. -/
  | sendNative
  /-- Reading the status of a message. -/
  | messageStatus
  /-- Asking a router for the local address of a token. -/
  | localAddress
  /-- Asking a router for the token that an address represents. -/
  | canonicalToken
  /-- Reported with a label of its own. -/
  | labelled (label : String)
deriving DecidableEq

/-- The label of an operation. -/
def Operation.label : Operation → String
  | .allowance => "allowance"
  | .approve => "approve"
  | .send => "send"
  | .sendNative => "send_native"
  | .messageStatus => "message_status"
  | .localAddress => "get_local_address"
  | .canonicalToken => "representation_to_canonical"
  | .labelled label => label

/-- A failure of the bridge. -/
inductive BridgeError where
  /-- Nothing is registered under the reference. -/
  | unknownDomain (ref : DomainRef)
  /-- The number or the name of a domain is taken. -/
  | duplicateDomain (taken : Taken)
  /-- The directory has no contracts for the domain. -/
  | missingContracts (domain : DomainId)
  /-- The remote domain has no replica of the home. -/
  | missingReplica (home remote : DomainId)
  /-- The domain has no representation of the token. -/
  | tokenUnavailable (domain : DomainId) (token : TokenName)
  /-- The contracts of the domain are bound to no signer. -/
  | noSigner (domain : DomainId)
  /-- The domain has no provider. -/
  | notConnected (domain : DomainId)
  /-- The domain has no helper for its native asset. -/
  | noNativeHelper (domain : DomainId)
  /-- The address is not that of a token. -/
  | tokenNotFound (domain : DomainId) (address : Address)
  /-- What was found contradicts itself. -/
  | inconsistent (inconsistency : Inconsistency)
  /-- No address or identity. -/
  | invalidAddress (fault : AddressFault)
  /-- Not to be sent. -/
  | invalidAmount (fault : AmountFault)
  /-- No message. -/
  | invalidMessage (fault : MessageFault)
  /-- No configuration to work with. -/
  | invalidConfig (fault : ConfigFault)
  /-- One of several domains failed. -/
  | queryFailed (domain : DomainId) (source : BridgeError)
  /-- A call on a domain failed. -/
  | chain (domain : DomainId) (operation : Operation) (source : ChainError)
deriving DecidableEq

namespace BridgeError

/-- The wording of a failure. -/
def message : BridgeError → String
  | .unknownDomain ref => "Unknown domain: " ++ ref.text
  | .duplicateDomain taken => "Duplicate domain: " ++ taken.message
  | .missingContracts domain => s!"Missing contracts for domain {domain}"
  | .missingReplica home remote => s!"Missing replica of home {home} on domain {remote}"
  | .tokenUnavailable domain token => s!"Token {token.message} unavailable on domain {domain}"
  | .noSigner domain => s!"No signer registered for domain {domain}"
  | .notConnected domain => s!"No connection registered for domain {domain}"
  | .noNativeHelper domain => s!"No native asset helper on domain {domain}"
  | .tokenNotFound domain address => s!"Token not found: {address.text} on domain {domain}"
  | .inconsistent inconsistency => "Internal consistency error: " ++ inconsistency.message
  | .invalidAddress fault => "Invalid address: " ++ fault.message
  | .invalidAmount fault => "Invalid amount: " ++ fault.message
  | .invalidMessage fault => "Invalid message: " ++ fault.message
  | .invalidConfig fault => "Invalid config: " ++ fault.message
  | .queryFailed domain source => s!"Query on domain {domain} failed: {message source}"
  | .chain domain operation source => s!"{operation.label} on domain {domain} failed: {source.message}"

/-- The domain that a failure is about, where it is about one. -/
def domain? : BridgeError → Option DomainId
  | .missingContracts domain => some domain
  | .missingReplica _ remote => some remote
  | .tokenUnavailable domain _ => some domain
  | .noSigner domain => some domain
  | .notConnected domain => some domain
  | .noNativeHelper domain => some domain
  | .tokenNotFound domain _ => some domain
  | .queryFailed domain _ => some domain
  | .chain domain _ _ => some domain
  | _ => none

end BridgeError

end TokenBridge
