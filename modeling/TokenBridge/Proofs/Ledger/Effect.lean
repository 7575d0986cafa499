import TokenBridge.Proofs.Ledger.Coherent
import Mathlib.Algebra.Group.Nat.Defs

/-!
# The effect of a transfer

A transfer of a token is prepared by an approval, if the router may not take enough yet (`readied`), and then
the amount is taken, announced and mined (`sent`). `Sent` says what that does to a ledger, look-up by look-up:
one balance and one allowance go down, one nonce and one count of leaves go up, the transactions are handed in,
and every other entry stays as it is. `sent_effect` proves it of every coherent ledger.
-/

namespace TokenBridge.Ledger

/-- The nonce of the next message from a domain to a destination; `0` where there is no home. -/
def nextNonce (L : Ledger) (domain destination : DomainId) : UInt32 :=
  match L.homes.get? domain with
  | some home => home.nonces.getD destination 0
  | none => 0

/-- How many messages the home of a domain has announced. -/
def leafCount (L : Ledger) (domain : DomainId) : UInt64 :=
  match L.homes.get? domain with
  | some home => home.leafCount
  | none => 0

/-! ### Balances and allowances -/

theorem contractOrEmpty_updateToken (L : Ledger) (domain : DomainId) (token : Address)
    (f : TokenContract → TokenContract) (d : DomainId) (t : Address) :
    (L.updateToken domain token f).contractOrEmpty d t =
      if domain = d ∧ token = t then f (L.contractOrEmpty d t) else L.contractOrEmpty d t := by
  rw [contractOrEmpty, updateToken, Table.getD, Table.get?_insert]
  by_cases h : domain = d ∧ token = t
  · obtain ⟨rfl, rfl⟩ := h
    simp
  · rw [if_neg h, if_neg fun heq => h (Prod.mk.injEq .. ▸ heq)]
    rfl

/-- Allowing something changes no balance. -/
theorem balance_allow (L : Ledger) (domain : DomainId) (token owner spender : Address) (amount : Quantity)
    (d : DomainId) (t o : Address) :
    (L.updateToken domain token (·.allow owner spender amount)).balance d t o = L.balance d t o := by
  rw [balance, balance, contractOrEmpty_updateToken]
  split <;> rfl

/-- Allowing an amount sets that allowance and no other. -/
theorem allowed_allow (L : Ledger) (domain : DomainId) (token owner spender : Address) (amount : Quantity)
    (d : DomainId) (t o s : Address) :
    (L.updateToken domain token (·.allow owner spender amount)).allowed d t o s =
      if domain = d ∧ token = t ∧ owner = o ∧ spender = s then amount else L.allowed d t o s := by
  rw [allowed, allowed, contractOrEmpty_updateToken]
  by_cases h : domain = d ∧ token = t
  · rw [if_pos h, TokenContract.allowance, TokenContract.allow, Table.getD, Table.get?_insert]
    by_cases hkey : owner = o ∧ spender = s
    · simp [h, hkey]
    · rw [if_neg fun heq => hkey (Prod.mk.injEq .. ▸ heq), if_neg fun hall => hkey hall.2.2]
      rfl
  · rw [if_neg h, if_neg fun hall => h ⟨hall.1, hall.2.1⟩]

/-- Taking an amount lowers that balance and no other. -/
theorem balance_take (L : Ledger) (domain : DomainId) (token owner spender : Address) (amount : Quantity)
    (d : DomainId) (t o : Address) :
    (L.updateToken domain token (·.take owner spender amount)).balance d t o =
      if domain = d ∧ token = t ∧ owner = o then (L.balance d t o).sub amount else L.balance d t o := by
  rw [balance, balance, contractOrEmpty_updateToken]
  by_cases h : domain = d ∧ token = t
  · rw [if_pos h, TokenContract.balance, TokenContract.take, Table.getD, Table.get?_insert]
    by_cases hkey : owner = o
    · simp [h, hkey]
    · rw [if_neg hkey, if_neg fun hall => hkey hall.2.2]
      rfl
  · rw [if_neg h, if_neg fun hall => h ⟨hall.1, hall.2.1⟩]

/-- Taking an amount uses up that allowance and no other. -/
theorem allowed_take (L : Ledger) (domain : DomainId) (token owner spender : Address) (amount : Quantity)
    (d : DomainId) (t o s : Address) :
    (L.updateToken domain token (·.take owner spender amount)).allowed d t o s =
      if domain = d ∧ token = t ∧ owner = o ∧ spender = s then (L.allowed d t o s).sub amount
      else L.allowed d t o s := by
  rw [allowed, allowed, contractOrEmpty_updateToken]
  by_cases h : domain = d ∧ token = t
  · rw [if_pos h, TokenContract.allowance, TokenContract.take, Table.getD, Table.get?_insert]
    by_cases hkey : owner = o ∧ spender = s
    · obtain ⟨rfl, rfl⟩ := hkey
      simp [h]
    · rw [if_neg fun heq => hkey (Prod.mk.injEq .. ▸ heq), if_neg fun hall => hkey hall.2.2]
      rfl
  · rw [if_neg h, if_neg fun hall => h ⟨hall.1, hall.2.1⟩]

/-! ### Counters -/

variable {L : Ledger} {domain : DomainId} {home : Home}

theorem nextNonce_of_home (h : L.homes.get? domain = some home) (destination : DomainId) :
    L.nextNonce domain destination = home.nonces.getD destination 0 := by
  rw [nextNonce, h]

/-- Announcing a message uses up one nonce, and no other. -/
theorem nextNonce_announced (h : L.homes.get? domain = some home) (destination d e : DomainId) :
    (L.announced domain home destination).nextNonce d e =
      if domain = d ∧ destination = e then L.nextNonce d e + 1 else L.nextNonce d e := by
  rw [nextNonce, announced, Table.get?_insert]
  by_cases hd : domain = d
  · subst hd
    rw [if_pos rfl, nextNonce_of_home h]
    show (home.announced destination).nonces.getD e 0 = _
    rw [Home.announced, Table.getD, Table.get?_insert]
    by_cases he : destination = e
    · subst he
      simp
    · rw [if_neg he, if_neg fun hall => he hall.2]
      rfl
  · rw [if_neg hd, if_neg fun hall => hd hall.1]
    rfl

/-- Announcing a message uses up one leaf of that home, and none of another. -/
theorem leafCount_announced (h : L.homes.get? domain = some home) (destination d : DomainId) :
    (L.announced domain home destination).leafCount d =
      if domain = d then L.leafCount d + 1 else L.leafCount d := by
  rw [leafCount, announced, Table.get?_insert]
  by_cases hd : domain = d
  · subst hd
    rw [if_pos rfl, if_pos rfl, leafCount, h]
    rfl
  · rw [if_neg hd, if_neg hd]
    rfl

theorem Coherent.leafCount_le {c : Config} (h : L.Coherent c) (d : DomainId) :
    (L.leafCount d).toNat ≤ L.submitted.length := by
  rw [leafCount]
  split
  · next home hhome => exact h.leaves d home hhome
  · exact Nat.zero_le _

/-- As long as nonces are left, announcing counts that of the destination up. -/
theorem toNat_nextNonce_announced (h : L.homes.get? domain = some home) {destination : DomainId}
    (hroom : (L.nextNonce domain destination).toNat < 2 ^ 32 - 1) (d e : DomainId) :
    ((L.announced domain home destination).nextNonce d e).toNat =
      (L.nextNonce d e).toNat + if domain = d ∧ destination = e then 1 else 0 := by
  rw [nextNonce_announced h]
  by_cases hkey : domain = d ∧ destination = e
  · obtain ⟨rfl, rfl⟩ := hkey
    rw [if_pos ⟨rfl, rfl⟩, if_pos ⟨rfl, rfl⟩, UInt32.toNat_add]
    exact Nat.mod_eq_of_lt (by rw [UInt32.toNat_one]; omega)
  · rw [if_neg hkey, if_neg hkey]
    rfl

/-- As long as leaves are left, announcing counts them up. -/
theorem toNat_leafCount_announced (h : L.homes.get? domain = some home)
    (hroom : (L.leafCount domain).toNat < 2 ^ 64 - 1) (destination d : DomainId) :
    ((L.announced domain home destination).leafCount d).toNat =
      (L.leafCount d).toNat + if domain = d then 1 else 0 := by
  rw [leafCount_announced h]
  by_cases hd : domain = d
  · subst hd
    rw [if_pos rfl, if_pos rfl, UInt64.toNat_add]
    exact Nat.mod_eq_of_lt (by rw [UInt64.toNat_one]; omega)
  · rw [if_neg hd, if_neg hd]
    rfl

/-! ### The transfer -/

/-- The transactions that a transfer hands in: an approval if too little is allowed, and the transfer. -/
def transferSubmissions (L : Ledger) (origin : DomainId) (token owner router : Address) (amount : Quantity)
    (destination : DomainId) : List Submission :=
  if L.allowed origin token owner router < amount then
    [⟨origin, transactionHash origin (L.transactionCount + 1), owner, .approve token router amount⟩,
      ⟨origin, transactionHash origin (L.transactionCount + 2), owner, .send token amount destination⟩]
  else [⟨origin, transactionHash origin (L.transactionCount + 1), owner, .send token amount destination⟩]

/-- What a transfer does to a ledger. -/
structure Sent (L L' : Ledger) (origin : DomainId) (token owner router : Address) (amount : Quantity)
    (destination : DomainId) : Prop where
  /-- The owner has the amount less, and nothing else is taken from anybody. -/
  balance : ∀ d t o, (L'.balance d t o).toNat +
    (if origin = d ∧ token = t ∧ owner = o then amount.toNat else 0) = (L.balance d t o).toNat
  /-- What the router may take is used up by the amount, which an approval raised it to if it was less. -/
  allowed : ∀ d t o s, L'.allowed d t o s =
    if origin = d ∧ token = t ∧ owner = o ∧ router = s then
      if L.allowed d t o s < amount then .zero else (L.allowed d t o s).sub amount
    else L.allowed d t o s
  /-- The home of the origin uses up one nonce for the destination, and no other. -/
  nonce : ∀ d e, (L'.nextNonce d e).toNat =
    (L.nextNonce d e).toNat + if origin = d ∧ destination = e then 1 else 0
  /-- The home of the origin has one more leaf. -/
  leaves : ∀ d, (L'.leafCount d).toNat = (L.leafCount d).toNat + if origin = d then 1 else 0
  /-- The homes are where they were. -/
  homes : ∀ d, (L'.homes.get? d).map Home.address = (L.homes.get? d).map Home.address
  /-- The transactions are handed in. -/
  submitted : L'.submitted =
    L.submitted ++ L.transferSubmissions origin token owner router amount destination
  /-- Other transactions keep their receipts. -/
  receipts : ∀ hash, (∀ x ∈ L.transferSubmissions origin token owner router amount destination,
    x.transaction ≠ hash) → L'.receipts.get? hash = L.receipts.get? hash
  /-- No token contract is put in place. -/
  contracts : ∀ key, L'.tokens.contains key ↔ L.tokens.contains key
  /-- All transactions are counted. -/
  count : L'.transactionCount.toNat = L'.submitted.length
  /-- Each has a block of its own. -/
  block : L'.block = L'.transactionCount
  /-- The routers know what they knew. -/
  routers : L'.routers = L.routers
  /-- The native tokens are the same. -/
  nativeTokens : L'.nativeTokens = L.nativeTokens
  /-- The native balances are the same. -/
  nativeBalances : L'.nativeBalances = L.nativeBalances
  /-- The statuses of messages are the same. -/
  statuses : L'.statuses = L.statuses
  /-- The same domains fail. -/
  failing : L'.failing = L.failing
  /-- The transactions of the same domains fail. -/
  reverting : L'.reverting = L.reverting

/-- The ledger in which the router may take an amount: the one before, or the one with an approval. -/
def readied (L : Ledger) (origin : DomainId) (token owner router : Address) (amount : Quantity) : Ledger :=
  if L.allowed origin token owner router < amount then L.approved origin token owner router amount else L

/-- The ledger after an amount was taken, announced and mined. -/
def sent (L : Ledger) (origin : DomainId) (token owner router : Address) (amount : Quantity)
    (destination : DomainId) (home : Home) (log : Log) : Ledger :=
  ((L.updateToken origin token (·.take owner router amount)).announced origin home destination).mined origin
    owner (.send token amount destination) [log]

/-- What a router has checked is sent, where there is a home next to the router to announce it. -/
theorem send_of_home {L : Ledger} {origin destination : DomainId} {owner token address : Address}
    {amount : Quantity} {canonical : TokenId} {home : Home}
    (hcheck : L.checkSend origin owner token amount destination = .ok (canonical, address))
    (hhome : L.homes.get? origin = some home) (recipient : Word) :
    ∃ router remote, L.routers.get? origin = some router ∧ router.address = address ∧
      L.routers.get? destination = some remote ∧
      L.send origin owner token amount destination recipient =
        (.ok (L.nextHash origin), L.sent origin token owner address amount destination home
          (logOf home (messageOf origin router home destination remote ⟨canonical, recipient, amount⟩))) := by
  obtain ⟨-, ⟨-, hremote⟩, -, ⟨router, hrouter, rfl⟩, -⟩ := checkSend_eq_ok_iff.1 hcheck
  obtain ⟨remote, hremote⟩ := Option.isSome_iff_exists.1 hremote
  refine ⟨router, remote, hrouter, rfl, hremote, ?_⟩
  rw [send_of_checked hcheck]
  exact launch_of_home (L := L.updateToken origin token (·.take owner router.address amount))
    hrouter hremote hhome owner _ _

section

variable (L : Ledger) (origin : DomainId) (token owner router : Address) (amount : Quantity)

theorem homes_readied : (L.readied origin token owner router amount).homes = L.homes := by
  rw [readied]
  split <;> rfl

theorem routers_readied : (L.readied origin token owner router amount).routers = L.routers := by
  rw [readied]
  split <;> rfl

theorem failing_readied : (L.readied origin token owner router amount).failing = L.failing := by
  rw [readied]
  split <;> rfl

theorem reverting_readied : (L.readied origin token owner router amount).reverting = L.reverting := by
  rw [readied]
  split <;> rfl

theorem balance_readied (d : DomainId) (t o : Address) :
    (L.readied origin token owner router amount).balance d t o = L.balance d t o := by
  rw [readied]
  split
  · exact balance_allow L origin token owner router amount d t o
  · rfl

theorem allowed_readied (d : DomainId) (t o s : Address) :
    (L.readied origin token owner router amount).allowed d t o s =
      if (origin = d ∧ token = t ∧ owner = o ∧ router = s) ∧ L.allowed d t o s < amount then amount
      else L.allowed d t o s := by
  rw [readied]
  by_cases hless : L.allowed origin token owner router < amount
  · rw [if_pos hless]
    refine (allowed_allow L origin token owner router amount d t o s).trans ?_
    by_cases hkey : origin = d ∧ token = t ∧ owner = o ∧ router = s
    · obtain ⟨rfl, rfl, rfl, rfl⟩ := hkey
      rw [if_pos ⟨rfl, rfl, rfl, rfl⟩, if_pos ⟨⟨rfl, rfl, rfl, rfl⟩, hless⟩]
    · rw [if_neg hkey, if_neg fun hall => hkey hall.1]
  · rw [if_neg hless]
    split
    · next hall =>
      obtain ⟨⟨rfl, rfl, rfl, rfl⟩, hless'⟩ := hall
      exact absurd hless' hless
    · rfl

/-- Once the amount may be taken, enough is allowed. -/
theorem not_allowed_readied_lt :
    ¬ (L.readied origin token owner router amount).allowed origin token owner router < amount := by
  rw [allowed_readied]
  by_cases hless : L.allowed origin token owner router < amount
  · rw [if_pos ⟨⟨rfl, rfl, rfl, rfl⟩, hless⟩]
    exact Nat.lt_irrefl _
  · rw [if_neg fun hall => hless hall.2]
    exact hless

theorem Coherent.readied {c : Config} (h : L.Coherent c) :
    (L.readied origin token owner router amount).Coherent c := by
  rw [Ledger.readied]
  split
  · exact (h.updateToken origin token _).mined origin owner _ _
  · exact h

theorem contains_readied (hcontract : L.tokens.contains (origin, token)) (key : DomainId × Address) :
    (L.readied origin token owner router amount).tokens.contains key ↔ L.tokens.contains key := by
  rw [readied]
  split
  · exact contains_updateToken_of_contains hcontract (·.allow owner router amount) key
  · rfl

theorem submitted_sent (destination : DomainId) (home : Home) (log : Log) :
    ((L.readied origin token owner router amount).sent origin token owner router amount destination home
      log).submitted = L.submitted ++ L.transferSubmissions origin token owner router amount destination := by
  rw [readied, transferSubmissions]
  split
  · have htwo : L.transactionCount + 2 = L.transactionCount + 1 + 1 := by
      rw [UInt64.add_assoc]
      rfl
    rw [htwo]
    exact List.append_assoc ..
  · rfl

theorem receipts_sent (destination : DomainId) (home : Home) (log : Log) {hash : Word}
    (hhash : ∀ x ∈ L.transferSubmissions origin token owner router amount destination,
      x.transaction ≠ hash) :
    ((L.readied origin token owner router amount).sent origin token owner router amount destination home
      log).receipts.get? hash = L.receipts.get? hash := by
  rw [transferSubmissions] at hhash
  rw [readied]
  split at hhash
  · next hless =>
    have hfirst := hhash _ (.head _)
    have hsecond := hhash _ (.tail _ (.head _))
    have htwo : L.transactionCount + 2 = L.transactionCount + 1 + 1 := by
      rw [UInt64.add_assoc]
      rfl
    rw [htwo] at hsecond
    rw [if_pos hless]
    exact (Table.get?_insert_of_ne _ _ hsecond).trans (Table.get?_insert_of_ne _ _ hfirst)
  · next hless =>
    rw [if_neg hless]
    exact Table.get?_insert_of_ne _ _ (hhash _ (.head _))

end

/-- **The effect of a transfer** on a coherent ledger whose counters have room. -/
theorem sent_effect {c : Config} {L : Ledger} (h : L.Coherent c) {origin destination : DomainId}
    {token owner router : Address} {amount : Quantity} {home : Home}
    (hhome : L.homes.get? origin = some home) (hcontract : L.tokens.contains (origin, token))
    (hbalance : ¬ L.balance origin token owner < amount)
    (hnonce : (L.nextNonce origin destination).toNat < 2 ^ 32 - 1)
    (hcount : L.submitted.length < 2 ^ 64 - 2) (log : Log) :
    L.Sent ((L.readied origin token owner router amount).sent origin token owner router amount destination
      home log) origin token owner router amount destination := by
  have hhome' : (L.readied origin token owner router amount).homes.get? origin = some home := by
    rw [homes_readied, hhome]
  have hcoherent := h.readied L origin token owner router amount
  have hsubmitted := submitted_sent L origin token owner router amount destination home log
  have hsent : ((L.readied origin token owner router amount).sent origin token owner router amount
      destination home log).Coherent c :=
    (hcoherent.updateToken origin token _).announced hhome' destination owner _ _
  have hlength : (L.transferSubmissions origin token owner router amount destination).length ≤ 2 := by
    rw [transferSubmissions]
    split <;> simp
  constructor
  case balance =>
    intro d t o
    show ((((L.readied origin token owner router amount).updateToken origin token
      (·.take owner router amount)).balance d t o).toNat + _) = _
    rw [balance_take, balance_readied]
    split
    · next hkey =>
      obtain ⟨rfl, rfl, rfl⟩ := hkey
      rw [Quantity.lt_iff] at hbalance
      rw [Quantity.toNat_sub]
      omega
    · rfl
  case allowed =>
    intro d t o s
    show ((L.readied origin token owner router amount).updateToken origin token
      (·.take owner router amount)).allowed d t o s = _
    rw [allowed_take, allowed_readied]
    by_cases hkey : origin = d ∧ token = t ∧ owner = o ∧ router = s
    · by_cases hless : L.allowed d t o s < amount
      · rw [if_pos hkey, if_pos hkey, if_pos ⟨hkey, hless⟩, if_pos hless]
        exact Quantity.ext (Nat.sub_self _)
      · rw [if_pos hkey, if_pos hkey, if_neg fun hall => hless hall.2, if_neg hless]
    · rw [if_neg hkey, if_neg hkey, if_neg fun hall => hkey hall.1]
  case nonce =>
    intro d e
    have hsame : ∀ d e, (L.readied origin token owner router amount).nextNonce d e = L.nextNonce d e := by
      intro d e
      rw [nextNonce, nextNonce, homes_readied]
    rw [← hsame] at hnonce
    rw [← hsame]
    exact toNat_nextNonce_announced hhome' hnonce d e
  case leaves =>
    intro d
    have hsame : ∀ d, (L.readied origin token owner router amount).leafCount d = L.leafCount d := by
      intro d
      rw [leafCount, leafCount, homes_readied]
    have hle := h.leafCount_le origin
    rw [← hsame] at hle
    rw [← hsame]
    exact toNat_leafCount_announced hhome' (by omega) destination d
  case homes => exact fun d => (hsent.home d).trans (h.home d).symm
  case submitted => exact hsubmitted
  case receipts => exact fun hash => receipts_sent L origin token owner router amount destination home log
  case contracts =>
    intro key
    have hthere := (contains_readied L origin token owner router amount hcontract _).2 hcontract
    rw [← contains_readied L origin token owner router amount hcontract key]
    exact contains_updateToken_of_contains hthere (·.take owner router amount) key
  case count =>
    rw [hsent.count, UInt64.toNat_ofNat']
    refine Nat.mod_eq_of_lt ?_
    rw [hsubmitted, List.length_append]
    omega
  case block => exact hsent.block
  case routers => exact routers_readied L origin token owner router amount
  all_goals
    unfold sent readied
    split <;> rfl

end TokenBridge.Ledger
