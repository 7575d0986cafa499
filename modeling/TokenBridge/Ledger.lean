import TokenBridge.Config
import TokenBridge.Receipt
import TokenBridge.Table

/-!
# The ledger

The state of the contracts on all domains: homes with their counters, routers with what they know about
tokens, token contracts with balances and allowances, native balances, the statuses of messages, and every
transaction with its receipt. A domain can be made to fail, so that no call reaches it, or to revert, so
that its transactions are mined as failed.
-/

namespace TokenBridge

/-- The home of a domain: it announces the messages that leave the domain. -/
structure Home where
  /-- Its address. -/
  address : Address
  /-- The next nonce to each destination; `0` where none is kept. -/
  nonces : Table DomainId UInt32
  /-- How many messages it has announced. -/
  leafCount : UInt64
deriving DecidableEq

/-- The router of a domain: it knows which tokens have which addresses there. -/
structure Router where
  /-- Its address. -/
  address : Address
  /-- The address of each token on the domain. -/
  locals : Table TokenId Address
  /-- The token that each representation stands for. -/
  canonicals : Table Address TokenId
deriving DecidableEq

/-- A token contract. -/
structure TokenContract where
  /-- What an owner lets a spender take. -/
  allowances : Table (Address × Address) Quantity
  /-- What each owner owns. -/
  balances : Table Address Quantity
deriving DecidableEq

/-- What a transaction asks for. -/
inductive Request where
  /-- To let a spender take an amount of a token. -/
  | approve (token spender : Address) (amount : Quantity)
  /-- To send an amount of a token to another domain. -/
  | send (token : Address) (amount : Quantity) (destination : DomainId)
  /-- To send native value to another domain. -/
  | sendNative (value : Quantity) (destination : DomainId)
deriving DecidableEq

/-- A transaction that was handed in. -/
structure Submission where
  /-- The domain that it was handed in on. -/
  domain : DomainId
  /-- Its hash. -/
  transaction : Word
  /-- Who signed it. -/
  sender : Address
  /-- What it asks for. -/
  request : Request
deriving DecidableEq

/-- The state of the contracts on all domains. -/
structure Ledger where
  /-- The homes. -/
  homes : Table DomainId Home
  /-- The routers. -/
  routers : Table DomainId Router
  /-- The token that stands for the native asset of a domain. -/
  nativeTokens : Table DomainId Address
  /-- What each account owns of the native asset of a domain. -/
  nativeBalances : Table (DomainId × Address) Quantity
  /-- The token contracts. -/
  tokens : Table (DomainId × Address) TokenContract
  /-- The status of a leaf, by the domain that keeps it and the domain that it comes from. -/
  statuses : Table (DomainId × DomainId × Word) Status
  /-- The receipts, by the hash of the transaction. -/
  receipts : Table Word Receipt
  /-- The transactions, in the order in which they were handed in. -/
  submitted : List Submission
  /-- The domains that no call reaches. -/
  failing : List DomainId
  /-- The domains whose transactions fail. -/
  reverting : List DomainId
  /-- How many transactions were mined. -/
  transactionCount : UInt64
  /-- The number of the last block. -/
  block : UInt64
deriving DecidableEq

/-- A token contract in which nobody owns anything. -/
def TokenContract.empty : TokenContract := ⟨.empty, .empty⟩

namespace TokenContract

/-- What an owner lets a spender take. -/
def allowance (t : TokenContract) (owner spender : Address) : Quantity :=
  t.allowances.getD (owner, spender) .zero

/-- What an owner owns. -/
def balance (t : TokenContract) (owner : Address) : Quantity := t.balances.getD owner .zero

/-- Lets a spender take an amount from an owner, in place of what was allowed before. -/
def allow (t : TokenContract) (owner spender : Address) (amount : Quantity) : TokenContract :=
  { t with allowances := t.allowances.insert (owner, spender) amount }

/-- Gives an owner an amount more. -/
def credit (t : TokenContract) (owner : Address) (amount : Quantity) : TokenContract :=
  { t with balances := t.balances.insert owner ((t.balance owner).add amount) }

/-- A spender takes an amount from an owner, which uses up the allowance. -/
def take (t : TokenContract) (owner spender : Address) (amount : Quantity) : TokenContract where
  allowances := t.allowances.insert (owner, spender) ((t.allowance owner spender).sub amount)
  balances := t.balances.insert owner ((t.balance owner).sub amount)

end TokenContract

namespace Ledger

/-- The ledger without any contract. -/
def empty : Ledger where
  homes := .empty
  routers := .empty
  nativeTokens := .empty
  nativeBalances := .empty
  tokens := .empty
  statuses := .empty
  receipts := .empty
  submitted := []
  failing := []
  reverting := []
  transactionCount := 0
  block := 0

instance : Inhabited Ledger := ⟨empty⟩

/-- Puts the home of a configured domain in place, and its router if it has one. -/
def deployDomain (L : Ledger) (d : DomainConfig) : Ledger :=
  { L with
    homes := L.homes.insert d.id ⟨d.home, .empty, 0⟩
    routers := match d.bridge with
      | some bridge => L.routers.insert d.id ⟨bridge.router, .empty, .empty⟩
      | none => L.routers }

/-- The ledger with the contracts of a configuration. -/
def ofConfig (c : Config) : Ledger := c.domains.foldl deployDomain empty

/-- The token contract at an address, or an empty one where there is none yet. -/
def contractOrEmpty (L : Ledger) (domain : DomainId) (token : Address) : TokenContract :=
  L.tokens.getD (domain, token) .empty

/-- Changes a token contract; one that is not there yet starts out empty. -/
def updateToken (L : Ledger) (domain : DomainId) (token : Address)
    (f : TokenContract → TokenContract) : Ledger :=
  { L with tokens := L.tokens.insert (domain, token) (f (L.contractOrEmpty domain token)) }

/-- What an account owns of the native asset of a domain. -/
def nativeBalance (L : Ledger) (domain : DomainId) (owner : Address) : Quantity :=
  L.nativeBalances.getD (domain, owner) .zero

/-- What an owner owns of a token, nothing where there is no such token. -/
def balance (L : Ledger) (domain : DomainId) (token owner : Address) : Quantity :=
  (L.contractOrEmpty domain token).balance owner

/-- A set of domains with one domain put in or taken out. -/
def setMember (domains : List DomainId) (domain : DomainId) (on : Bool) : List DomainId :=
  if on then domains.insert domain else domains.filter (· ≠ domain)

end Ledger

end TokenBridge
