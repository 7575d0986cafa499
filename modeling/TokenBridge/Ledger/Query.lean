import TokenBridge.Ledger

/-!
# Queries

What contracts answer without a transaction. No query reaches a failing domain; after that each contract
refuses what it does not have.
-/

namespace TokenBridge.Ledger

/-- Whether calls reach a domain. -/
def checkReachable (L : Ledger) (domain : DomainId) : Except ChainError Unit :=
  if domain ∈ L.failing then .error (.call (.unreachable domain)) else .ok ()

/-- The home of a domain. -/
def home (L : Ledger) (domain : DomainId) : Except ChainError Home :=
  match L.homes.get? domain with
  | some home => .ok home
  | none => .error (.refusal .noHome)

/-- The router of a domain. -/
def router (L : Ledger) (domain : DomainId) : Except ChainError Router :=
  match L.routers.get? domain with
  | some router => .ok router
  | none => .error (.refusal .noRouter)

/-- The token contract at an address. -/
def contract (L : Ledger) (domain : DomainId) (token : Address) : Except ChainError TokenContract :=
  match L.tokens.get? (domain, token) with
  | some contract => .ok contract
  | none => .error (.refusal .noContract)

/-- The nonce of the next message from a domain to a destination. -/
def nonce (L : Ledger) (domain destination : DomainId) : Except ChainError UInt32 := do
  L.checkReachable domain
  let home ← L.home domain
  return home.nonces.getD destination 0

/-- The status that a domain keeps of a leaf from a remote domain. -/
def messageStatus (L : Ledger) (domain remote : DomainId) (leaf : Word) : Except ChainError Status := do
  L.checkReachable domain
  return L.statuses.getD (domain, remote, leaf) .unknown

/-- The address that a router gives for a token: the one that it keeps; else, for a token of its own
domain, the narrow form of the token's word if there is a token contract; else none, which is zero. -/
def addressOf (L : Ledger) (domain : DomainId) (router : Router) (token : TokenId) : Address :=
  match router.locals.get? token with
  | some address => address
  | none =>
    match token.id.narrow? with
    | some address =>
      if token.domain = domain ∧ L.tokens.contains (domain, address) then address else .zero
    | none => .zero

/-- The address of a token on a domain, zero for none. -/
def localAddress (L : Ledger) (domain : DomainId) (token : TokenId) : Except ChainError Address := do
  L.checkReachable domain
  let router ← L.router domain
  return L.addressOf domain router token

/-- The token that an address on a domain represents; one of domain zero for none. -/
def canonicalToken (L : Ledger) (domain : DomainId) (representation : Address) :
    Except ChainError TokenId := do
  L.checkReachable domain
  let router ← L.router domain
  return router.canonicals.getD representation ⟨0, .zero⟩

/-- What an owner lets a spender take of a token. -/
def allowance (L : Ledger) (domain : DomainId) (token owner spender : Address) :
    Except ChainError Quantity := do
  L.checkReachable domain
  let contract ← L.contract domain token
  return contract.allowance owner spender

/-- What an owner owns of a token. -/
def tokenBalance (L : Ledger) (domain : DomainId) (token owner : Address) :
    Except ChainError Quantity := do
  L.checkReachable domain
  let contract ← L.contract domain token
  return contract.balance owner

/-- The receipt of a transaction. -/
def receipt (L : Ledger) (transaction : Word) : Except ChainError Receipt :=
  match L.receipts.get? transaction with
  | some receipt => .ok receipt
  | none => .error (.dropped transaction)

end TokenBridge.Ledger
