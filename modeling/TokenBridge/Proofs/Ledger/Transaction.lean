import TokenBridge.Ledger.Transaction
import TokenBridge.Proofs.Outcome

/-!
# What transactions do

A transaction is refused and changes nothing, or it passes its checks, changes the contracts and is mined.
The lemmas here say which of the two happens and what the ledger is afterwards, once for each transaction
(`approve_cases`, `launch_cases`, `checkSend_eq_ok_iff`), so that no later proof opens one.

Sending has a third way out: what is taken before the announcement stays taken if the announcement is
refused. On a ledger whose routers all have a home (`launch_of_home`) that does not happen to a token.
-/

namespace TokenBridge

/-- A home after it announced a message to a destination. -/
def Home.announced (home : Home) (destination : DomainId) : Home where
  address := home.address
  nonces := home.nonces.insert destination (home.nonces.getD destination 0 + 1)
  leafCount := home.leafCount + 1

namespace Ledger

/-! ### Reading -/

theorem checkReachable_eq_ok_iff {L : Ledger} {domain : DomainId} {u : Unit} :
    L.checkReachable domain = .ok u ↔ domain ∉ L.failing := by
  rw [checkReachable]
  by_cases h : domain ∈ L.failing <;> simp [h]

theorem router_eq_ok_iff {L : Ledger} {domain : DomainId} {router : Router} :
    L.router domain = .ok router ↔ L.routers.get? domain = some router := by
  rw [Ledger.router]
  cases L.routers.get? domain <;> simp

theorem home_eq_ok_iff {L : Ledger} {domain : DomainId} {home : Home} :
    L.home domain = .ok home ↔ L.homes.get? domain = some home := by
  rw [Ledger.home]
  cases L.homes.get? domain <;> simp

theorem contract_eq_ok_iff {L : Ledger} {domain : DomainId} {token : Address} {contract : TokenContract} :
    L.contract domain token = .ok contract ↔ L.tokens.get? (domain, token) = some contract := by
  rw [Ledger.contract]
  cases L.tokens.get? (domain, token) <;> simp

theorem receipt_eq_ok_iff {L : Ledger} {transaction : Word} {receipt : Receipt} :
    L.receipt transaction = .ok receipt ↔ L.receipts.get? transaction = some receipt := by
  rw [Ledger.receipt]
  cases L.receipts.get? transaction <;> simp

/-- What an owner lets a spender take of a token, nothing where there is no such token. -/
def allowed (L : Ledger) (domain : DomainId) (token owner spender : Address) : Quantity :=
  (L.contractOrEmpty domain token).allowance owner spender

theorem contractOrEmpty_of_get? {L : Ledger} {domain : DomainId} {token : Address}
    {contract : TokenContract} (h : L.tokens.get? (domain, token) = some contract) :
    L.contractOrEmpty domain token = contract := by
  rw [contractOrEmpty, Table.getD, h]
  rfl

/-- A router gives the address that it keeps for a token, on a domain that calls reach. -/
theorem localAddress_eq_ok_iff {L : Ledger} {domain : DomainId} {token : TokenId} {address : Address} :
    L.localAddress domain token = .ok address ↔
      domain ∉ L.failing ∧ ∃ router, L.routers.get? domain = some router ∧
        L.addressOf domain router token = address := by
  rw [localAddress, Outcome.bind_eq_ok]
  simp only [Outcome.bind_eq_ok, checkReachable_eq_ok_iff, router_eq_ok_iff, pure, Except.pure,
    Except.ok.injEq, exists_const]

/-- Where a router gives an address for a token, it keeps it, or there is a contract and the token is that of the
address itself. -/
theorem localAddress_cases {L : Ledger} {domain : DomainId} {token : TokenId} {address : Address}
    (h : L.localAddress domain token = .ok address) (hne : address ≠ .zero) :
    ∃ router, L.routers.get? domain = some router ∧ (router.locals.get? token = some address ∨
      token = .ofAddress domain address ∧ L.tokens.contains (domain, address)) := by
  obtain ⟨-, router, hrouter, haddress⟩ := localAddress_eq_ok_iff.1 h
  refine ⟨router, hrouter, ?_⟩
  rw [addressOf] at haddress
  split at haddress
  · next kept hkept => exact .inl (haddress ▸ hkept)
  · -- The router does not keep an address: what it gives is the narrow form of the token's own word.
    split at haddress
    · next narrow hnarrow =>
      split at haddress
      · next hown =>
        subst haddress
        refine .inr ⟨?_, hown.2⟩
        rw [TokenId.ofAddress, Word.narrow?_eq_some_iff.1 hnarrow, ← hown.1]
      · exact absurd haddress.symm hne
    · exact absurd haddress.symm hne

/-- A router tells the token that an address represents, on a domain that calls reach. -/
theorem canonicalToken_eq_ok_iff {L : Ledger} {domain : DomainId} {address : Address} {token : TokenId} :
    L.canonicalToken domain address = .ok token ↔
      domain ∉ L.failing ∧ ∃ router, L.routers.get? domain = some router ∧
        router.canonicals.getD address ⟨0, .zero⟩ = token := by
  rw [canonicalToken, Outcome.bind_eq_ok]
  simp only [Outcome.bind_eq_ok, checkReachable_eq_ok_iff, router_eq_ok_iff, pure, Except.pure,
    Except.ok.injEq, exists_const]

theorem allowance_eq_ok_iff {L : Ledger} {domain : DomainId} {token owner spender : Address}
    {amount : Quantity} :
    L.allowance domain token owner spender = .ok amount ↔
      domain ∉ L.failing ∧ L.tokens.contains (domain, token) ∧
        L.allowed domain token owner spender = amount := by
  rw [allowance, Outcome.bind_eq_ok]
  simp only [Outcome.bind_eq_ok, checkReachable_eq_ok_iff, contract_eq_ok_iff, pure, Except.pure,
    Except.ok.injEq, exists_const, Table.contains, Option.isSome_iff_exists, allowed]
  constructor
  · rintro ⟨hreach, contract, hcontract, rfl⟩
    exact ⟨hreach, ⟨contract, hcontract⟩, by rw [contractOrEmpty_of_get? hcontract]⟩
  · rintro ⟨hreach, ⟨contract, hcontract⟩, rfl⟩
    exact ⟨hreach, contract, hcontract, by rw [contractOrEmpty_of_get? hcontract]⟩

/-! ### Mining -/

/-- The hash of the next transaction on a domain. -/
def nextHash (L : Ledger) (domain : DomainId) : Word := transactionHash domain (L.transactionCount + 1)

/-- The receipt of the next transaction on a domain. -/
def nextReceipt (L : Ledger) (domain : DomainId) (logs : List Log) : Receipt :=
  ⟨L.nextHash domain, L.block + 1, domain ∉ L.reverting, logs⟩

theorem succeeded_nextReceipt {L : Ledger} {domain : DomainId} (h : domain ∉ L.reverting)
    (logs : List Log) : (L.nextReceipt domain logs).succeeded :=
  decide_eq_true h

/-- The ledger after the next transaction is mined. -/
def mined (L : Ledger) (domain : DomainId) (sender : Address) (request : Request) (logs : List Log) :
    Ledger :=
  { L with
    transactionCount := L.transactionCount + 1
    block := L.block + 1
    receipts := L.receipts.insert (L.nextHash domain) (L.nextReceipt domain logs)
    submitted := L.submitted ++ [⟨domain, L.nextHash domain, sender, request⟩] }

/-- A transaction that was just mined has its receipt. -/
theorem receipt_mined (L : Ledger) (domain : DomainId) (sender : Address) (request : Request)
    (logs : List Log) :
    (L.mined domain sender request logs).receipt (L.nextHash domain) =
      .ok (L.nextReceipt domain logs) :=
  receipt_eq_ok_iff.2 (Table.get?_insert_self ..)

/-! ### Approving -/

/-- The ledger after an owner let a spender take an amount. -/
def approved (L : Ledger) (domain : DomainId) (token owner spender : Address) (amount : Quantity) :
    Ledger :=
  (L.updateToken domain token (·.allow owner spender amount)).mined domain owner
    (.approve token spender amount) [⟨token, .approval owner spender amount⟩]

theorem approve_of_contract {L : Ledger} {domain : DomainId} {token : Address}
    (hreach : domain ∉ L.failing) (hcontract : L.tokens.contains (domain, token))
    (owner spender : Address) (amount : Quantity) :
    L.approve domain token owner spender amount =
      (.ok (L.nextHash domain), L.approved domain token owner spender amount) := by
  obtain ⟨contract, hcontract⟩ := Option.isSome_iff_exists.1 hcontract
  have hcheck : (L.checkReachable domain *> L.contract domain token) = .ok contract := by
    rw [checkReachable_eq_ok_iff.2 hreach, contract_eq_ok_iff.2 hcontract]
    · rfl
    · exact ()
  rw [approve, hcheck]
  rfl

theorem receipt_approved (L : Ledger) (domain : DomainId) (token owner spender : Address)
    (amount : Quantity) :
    (L.approved domain token owner spender amount).receipt (L.nextHash domain) =
      .ok (L.nextReceipt domain [⟨token, .approval owner spender amount⟩]) :=
  receipt_eq_ok_iff.2 (Table.get?_insert_self ..)

/-- An approval is refused and changes nothing, or it is mined. -/
theorem approve_cases (L : Ledger) (domain : DomainId) (token owner spender : Address)
    (amount : Quantity) :
    (∃ e, L.approve domain token owner spender amount = (.error e, L)) ∨
      L.approve domain token owner spender amount =
        (.ok (L.nextHash domain), L.approved domain token owner spender amount) := by
  rw [approve]
  split
  · next e _ => exact .inl ⟨e, rfl⟩
  · exact .inr rfl

/-! ### Announcing -/

/-- The message that carries a transfer from a router to a remote one. -/
def messageOf (origin : DomainId) (router : Router) (home : Home) (destination : DomainId)
    (remote : Router) (action : TransferAction) : Message where
  origin := origin
  sender := router.address.widen
  nonce := home.nonces.getD destination 0
  destination := destination
  recipient := remote.address.widen
  body := action.encode

/-- How a home announces a message. -/
def announcementOf (home : Home) (message : Message) : Dispatch where
  messageHash := Message.leaf message.encode
  leafIndex := .ofNat home.leafCount.toNat
  packedRoute := message.route.pack
  committedRoot := .zero
  message := message.encode

/-- What a home logs when it announces a message. -/
def logOf (home : Home) (message : Message) : Log :=
  ⟨home.address, .dispatch (announcementOf home message)⟩

/-- The ledger after the home of a domain announced a message to a destination. -/
def announced (L : Ledger) (origin : DomainId) (home : Home) (destination : DomainId) : Ledger :=
  { L with homes := L.homes.insert origin (home.announced destination) }

theorem dispatch_eq_ok_iff {L L' : Ledger} {origin destination : DomainId} {action : TransferAction}
    {log : Log} :
    L.dispatch origin destination action = .ok (log, L') ↔
      ∃ router remote home, L.routers.get? origin = some router ∧
        L.routers.get? destination = some remote ∧ L.homes.get? origin = some home ∧
        log = logOf home (messageOf origin router home destination remote action) ∧
        L' = L.announced origin home destination := by
  rw [dispatch, Outcome.bind_eq_ok]
  simp only [router_eq_ok_iff]
  refine exists_congr fun router => ?_
  cases hremote : L.routers.get? destination with
  | none => simp [throw, throwThe, MonadExceptOf.throw]
  | some remote =>
    simp only [pure, Except.pure, Outcome.ok_bind, Outcome.bind_eq_ok, home_eq_ok_iff, Except.ok.injEq,
      Prod.mk.injEq, Option.some.injEq]
    constructor
    · rintro ⟨hrouter, home, hhome, rfl, rfl⟩
      exact ⟨remote, home, hrouter, rfl, hhome, rfl, rfl⟩
    · rintro ⟨_, home, hrouter, rfl, hhome, rfl, rfl⟩
      exact ⟨hrouter, home, hhome, rfl, rfl⟩

/-- A launch is refused and changes nothing, or a message is announced and its transaction is mined. -/
theorem launch_cases (L : Ledger) (domain : DomainId) (sender : Address) (destination : DomainId)
    (action : TransferAction) (request : Request) :
    (∃ e, L.launch domain sender destination action request = (.error e, L)) ∨
      ∃ router remote home, L.routers.get? domain = some router ∧
        L.routers.get? destination = some remote ∧ L.homes.get? domain = some home ∧
        L.launch domain sender destination action request =
          (.ok (L.nextHash domain),
            (L.announced domain home destination).mined domain sender request
              [logOf home (messageOf domain router home destination remote action)]) := by
  rw [launch]
  split
  · next e _ => exact .inl ⟨e, rfl⟩
  · next log L' hdispatch =>
    obtain ⟨router, remote, home, hrouter, hremote, hhome, rfl, rfl⟩ := dispatch_eq_ok_iff.1 hdispatch
    exact .inr ⟨router, remote, home, hrouter, hremote, hhome, rfl⟩

/-- Where the domain has a router and a home, and the destination has a router, a launch is mined. -/
theorem launch_of_home {L : Ledger} {domain destination : DomainId} {router remote : Router} {home : Home}
    (hrouter : L.routers.get? domain = some router) (hremote : L.routers.get? destination = some remote)
    (hhome : L.homes.get? domain = some home) (sender : Address) (action : TransferAction)
    (request : Request) :
    L.launch domain sender destination action request =
      (.ok (L.nextHash domain),
        (L.announced domain home destination).mined domain sender request
          [logOf home (messageOf domain router home destination remote action)]) := by
  rw [launch, dispatch_eq_ok_iff.2 ⟨router, remote, home, hrouter, hremote, hhome, rfl, rfl⟩]
  rfl

/-! ### Sending -/

/-- The token that a router takes an address for: what the address represents, or else the token of the address
itself, if the router keeps the address for it. -/
theorem canonicalOf_eq_ok_iff {L : Ledger} {domain : DomainId} {address : Address} {token : TokenId} :
    L.canonicalOf domain address = .ok token ↔
      ∃ router, L.routers.get? domain = some router ∧
        (router.canonicals.get? address = some token ∨
          router.canonicals.get? address = none ∧ token = .ofAddress domain address ∧
            router.locals.get? token = some address) := by
  rw [canonicalOf, Outcome.bind_eq_ok]
  simp only [router_eq_ok_iff]
  refine exists_congr fun router => and_congr_right fun _ => ?_
  cases hcanonical : router.canonicals.get? address with
  | some canonical => simp [pure, Except.pure]
  | none =>
    by_cases hown : router.locals.get? (.ofAddress domain address) = some address
    · simp only [hown, if_true, pure, Except.pure, Except.ok.injEq, reduceCtorEq, false_or, true_and]
      constructor
      · rintro rfl
        exact ⟨rfl, hown⟩
      · rintro ⟨rfl, -⟩
        rfl
    · simp only [hown, if_false, throw, throwThe, MonadExceptOf.throw, reduceCtorEq, false_or, true_and,
        false_iff, not_and]
      rintro rfl
      exact hown

/-- Only what the routers know decides which token an address is taken for. -/
theorem canonicalOf_congr {L L' : Ledger} (h : L'.routers = L.routers) (domain : DomainId)
    (address : Address) : L'.canonicalOf domain address = L.canonicalOf domain address := by
  rw [canonicalOf, canonicalOf, Ledger.router, Ledger.router, h]

theorem checkRemote_eq_ok_iff {L : Ledger} {domain destination : DomainId} {u : Unit} :
    L.checkRemote domain destination = .ok u ↔
      destination ≠ domain ∧ L.routers.contains destination := by
  rw [checkRemote]
  by_cases h : destination = domain <;> by_cases hr : L.routers.contains destination <;> simp [h, hr]

/-- What a router checks before it takes an amount: the domain is reached, the destination is another domain
with a router, the address stands for a token, and both what is allowed and what is owned suffice. -/
theorem checkSend_eq_ok_iff {L : Ledger} {domain : DomainId} {sender token : Address} {amount : Quantity}
    {destination : DomainId} {canonical : TokenId} {address : Address} :
    L.checkSend domain sender token amount destination = .ok (canonical, address) ↔
      domain ∉ L.failing ∧ (destination ≠ domain ∧ L.routers.contains destination) ∧
        L.canonicalOf domain token = .ok canonical ∧
        (∃ router, L.routers.get? domain = some router ∧ router.address = address) ∧
        L.tokens.contains (domain, token) ∧ ¬ L.allowed domain token sender address < amount ∧
        ¬ L.balance domain token sender < amount := by
  rw [checkSend, Outcome.bind_eq_ok]
  simp only [Outcome.bind_eq_ok, checkReachable_eq_ok_iff, checkRemote_eq_ok_iff, router_eq_ok_iff,
    contract_eq_ok_iff, exists_const]
  refine and_congr_right fun _ => and_congr_right fun _ => ?_
  constructor
  · rintro ⟨canonical', hcanonical, router, hrouter, contract, hcontract, h⟩
    have hempty := contractOrEmpty_of_get? hcontract
    split at h
    · cases h
    · next hallowed =>
      split at h
      · cases h
      · next hbalance =>
        cases h
        refine ⟨hcanonical, ⟨router, hrouter, rfl⟩, Option.isSome_iff_exists.2 ⟨contract, hcontract⟩, ?_, ?_⟩
        · rwa [allowed, hempty]
        · rwa [balance, hempty]
  · rintro ⟨hcanonical, ⟨router, hrouter, rfl⟩, hcontract, hallowed, hbalance⟩
    obtain ⟨contract, hcontract⟩ := Option.isSome_iff_exists.1 hcontract
    rw [allowed, contractOrEmpty_of_get? hcontract] at hallowed
    rw [balance, contractOrEmpty_of_get? hcontract] at hbalance
    refine ⟨canonical, hcanonical, router, hrouter, contract, hcontract, ?_⟩
    rw [if_neg hallowed, if_neg hbalance]
    rfl

theorem send_of_refused {L : Ledger} {domain : DomainId} {sender token : Address} {amount : Quantity}
    {destination : DomainId} {e : ChainError}
    (h : L.checkSend domain sender token amount destination = .error e) (recipient : Word) :
    L.send domain sender token amount destination recipient = (.error e, L) := by
  rw [send, h]

theorem send_of_checked {L : Ledger} {domain : DomainId} {sender token : Address} {amount : Quantity}
    {destination : DomainId} {canonical : TokenId} {address : Address}
    (h : L.checkSend domain sender token amount destination = .ok (canonical, address))
    (recipient : Word) :
    L.send domain sender token amount destination recipient =
      (L.updateToken domain token (·.take sender address amount)).launch domain sender destination
        ⟨canonical, recipient, amount⟩ (.send token amount destination) := by
  rw [send, h]

end Ledger

end TokenBridge
