import TokenBridge.Proofs.Ledger.Refusal

/-!
# The effect of sending native value

Native value is sent in one transaction: the value is taken, announced by the home of the domain and mined
(`sentNative`). `SentNative` says what that does to a ledger, look-up by look-up: one native balance goes down, one
nonce and one count of leaves go up, one transaction is handed in, and every other entry stays as it is. No token
contract takes part. `sentNative_effect` proves it of every coherent ledger, and `sendNative_of_home` that what is
checked is sent so where the domain has a router and a home.
-/

namespace TokenBridge.Ledger

/-- What sending native value does to a ledger. -/
structure SentNative (L L' : Ledger) (origin : DomainId) (owner : Address) (value : Quantity)
    (destination : DomainId) : Prop where
  /-- The owner has the value less, and nothing else is taken from anybody. -/
  nativeBalance : ∀ d o, (L'.nativeBalance d o).toNat + (if origin = d ∧ owner = o then value.toNat else 0) =
    (L.nativeBalance d o).toNat
  /-- The home of the origin uses up one nonce for the destination, and no other. -/
  nonce : ∀ d e, (L'.nextNonce d e).toNat = (L.nextNonce d e).toNat + if origin = d ∧ destination = e then 1 else 0
  /-- The home of the origin has one more leaf. -/
  leaves : ∀ d, (L'.leafCount d).toNat = (L.leafCount d).toNat + if origin = d then 1 else 0
  /-- The homes are where they were. -/
  homes : ∀ d, (L'.homes.get? d).map Home.address = (L.homes.get? d).map Home.address
  /-- The home of any other domain is the same, with all counters. -/
  others : ∀ d, d ≠ origin → L'.homes.get? d = L.homes.get? d
  /-- One transaction is handed in. -/
  submitted : L'.submitted = L.submitted ++ [⟨origin, L.nextHash origin, owner, .sendNative value destination⟩]
  /-- Other transactions keep their receipts. -/
  receipts : ∀ hash, hash ≠ L.nextHash origin → L'.receipts.get? hash = L.receipts.get? hash
  /-- All transactions are counted. -/
  count : L'.transactionCount.toNat = L'.submitted.length
  /-- Each has a block of its own. -/
  block : L'.block = L'.transactionCount
  /-- The token contracts are the same, with all balances and allowances. -/
  tokens : L'.tokens = L.tokens
  /-- The routers know what they knew. -/
  routers : L'.routers = L.routers
  /-- The native tokens are the same. -/
  nativeTokens : L'.nativeTokens = L.nativeTokens
  /-- The statuses of messages are the same. -/
  statuses : L'.statuses = L.statuses
  /-- The same domains fail. -/
  failing : L'.failing = L.failing
  /-- The transactions of the same domains fail. -/
  reverting : L'.reverting = L.reverting

/-- The ledger after native value was taken, announced and mined. -/
def sentNative (L : Ledger) (origin : DomainId) (owner : Address) (value : Quantity) (destination : DomainId)
    (home : Home) (log : Log) : Ledger :=
  ((L.takeNative origin owner value).announced origin home destination).mined origin owner
    (.sendNative value destination) [log]

section

variable {L : Ledger} {origin destination : DomainId} {owner wrapped : Address} {value : Quantity} {home : Home}

/-- Native value that was checked is sent, where there are a router and a home to announce it. -/
theorem sendNative_of_home {router : Router}
    (hcheck : L.checkSendNative origin owner destination value = .ok wrapped)
    (hrouter : L.routers.get? origin = some router) (hhome : L.homes.get? origin = some home) (recipient : Word) :
    ∃ remote, L.routers.get? destination = some remote ∧
      L.sendNative origin owner destination recipient value =
        (.ok (L.nextHash origin), L.sentNative origin owner value destination home
          (logOf home (messageOf origin router home destination remote
            ⟨.ofAddress origin wrapped, recipient, value⟩))) := by
  obtain ⟨-, ⟨-, hremote⟩, -, -⟩ := checkSendNative_eq_ok_iff.1 hcheck
  obtain ⟨remote, hremote⟩ := Option.isSome_iff_exists.1 hremote
  refine ⟨remote, hremote, ?_⟩
  rw [sendNative, hcheck]
  exact launch_of_home (L := L.takeNative origin owner value) hrouter hremote hhome owner _ _

/-- Taking native value lowers that balance and no other. -/
theorem nativeBalance_takeNative (L : Ledger) (origin : DomainId) (owner : Address) (value : Quantity)
    (d : DomainId) (o : Address) :
    (L.takeNative origin owner value).nativeBalance d o =
      if origin = d ∧ owner = o then (L.nativeBalance d o).sub value else L.nativeBalance d o := by
  rw [nativeBalance, takeNative, Table.getD, Table.get?_insert]
  by_cases hkey : origin = d ∧ owner = o
  · obtain ⟨rfl, rfl⟩ := hkey
    simp
  · rw [if_neg fun heq => hkey (Prod.mk.injEq .. ▸ heq), if_neg hkey]
    rfl

/-- **The effect of sending native value** on a coherent ledger whose counters have room. -/
theorem sentNative_effect {c : Config} (h : L.Coherent c) (hhome : L.homes.get? origin = some home)
    (hfunds : ¬ L.nativeBalance origin owner < value)
    (hnonce : (L.nextNonce origin destination).toNat < 2 ^ 32 - 1) (hcount : L.submitted.length < 2 ^ 64 - 1)
    (log : Log) :
    L.SentNative (L.sentNative origin owner value destination home log) origin owner value destination := by
  have hsent : (L.sentNative origin owner value destination home log).Coherent c :=
    (h.takeNative origin owner value).announced hhome destination owner _ _
  constructor
  case nativeBalance =>
    intro d o
    show ((L.takeNative origin owner value).nativeBalance d o).toNat + _ = _
    rw [nativeBalance_takeNative]
    split
    · next hkey =>
      obtain ⟨rfl, rfl⟩ := hkey
      rw [Quantity.lt_iff] at hfunds
      rw [Quantity.toNat_sub]
      omega
    · rfl
  case nonce => exact toNat_nextNonce_announced (L := L.takeNative origin owner value) hhome hnonce
  case leaves =>
    have hroom : (L.leafCount origin).toNat < 2 ^ 64 - 1 := Nat.lt_of_le_of_lt (h.leafCount_le origin) hcount
    exact toNat_leafCount_announced (L := L.takeNative origin owner value) hhome hroom destination
  case homes => exact fun d => (hsent.home d).trans (h.home d).symm
  case others => exact fun d hd => Table.get?_insert_of_ne _ _ hd.symm
  case submitted => rfl
  case receipts => exact fun hash hhash => Table.get?_insert_of_ne _ _ hhash.symm
  case count =>
    have hlength : (L.sentNative origin owner value destination home log).submitted.length =
        L.submitted.length + 1 := List.length_append
    rw [hsent.count, UInt64.toNat_ofNat', hlength]
    exact Nat.mod_eq_of_lt (by omega)
  case block => exact hsent.block
  all_goals rfl

end

end TokenBridge.Ledger
