import TokenBridge.Proofs.Handle
import TokenBridge.Proofs.Ledger.Effect

/-!
# Ledgers that agree on a domain

Two ledgers agree on a domain (`AgreeOn`) if they have the same home there, the same token contracts and native
balances, and the same routers and switches everywhere. The counters of transactions and blocks, the receipts and the
list of what was handed in may differ, and so may all contracts on other domains.

What is submitted on a domain is confined to it (`Confined`): it leaves the contracts of every other domain as they
are, and from ledgers that agree on its own domain it is refused alike, or mined with receipts that differ in nothing
but the hash and the block, and leaves ledgers that agree again. Approving, sending a token and sending the native
asset are confined (`confined_approve`, `confined_send`, `confined_sendNative`).
-/

namespace TokenBridge

/-- Two receipts differ in nothing but the hash and the block. -/
structure Receipt.Alike (r r' : Receipt) : Prop where
  /-- Both tell of a success or neither. -/
  succeeded : r'.succeeded = r.succeeded
  /-- The logs are the same. -/
  logs : r'.logs = r.logs

namespace Ledger

/-- Two ledgers agree on a domain. -/
structure AgreeOn (domain : DomainId) (L M : Ledger) : Prop where
  /-- All routers are the same. -/
  routers : M.routers = L.routers
  /-- The same domains fail. -/
  failing : M.failing = L.failing
  /-- The same domains revert. -/
  reverting : M.reverting = L.reverting
  /-- The tokens that stand for native assets are the same. -/
  nativeTokens : M.nativeTokens = L.nativeTokens
  /-- The home of the domain is the same, with all counters. -/
  home : M.homes.get? domain = L.homes.get? domain
  /-- The token contracts of the domain are the same, with all balances and allowances. -/
  tokens : ∀ token, M.tokens.get? (domain, token) = L.tokens.get? (domain, token)
  /-- The native balances of the domain are the same. -/
  natives : ∀ owner, M.nativeBalances.get? (domain, owner) = L.nativeBalances.get? (domain, owner)

theorem AgreeOn.refl (domain : DomainId) (L : Ledger) : AgreeOn domain L L :=
  ⟨rfl, rfl, rfl, rfl, rfl, fun _ => rfl, fun _ => rfl⟩

section Agree

variable {domain : DomainId} {L M N : Ledger}

theorem AgreeOn.symm (h : AgreeOn domain L M) : AgreeOn domain M L :=
  ⟨h.routers.symm, h.failing.symm, h.reverting.symm, h.nativeTokens.symm, h.home.symm,
    fun token => (h.tokens token).symm, fun owner => (h.natives owner).symm⟩

theorem AgreeOn.trans (h : AgreeOn domain L M) (h' : AgreeOn domain M N) : AgreeOn domain L N :=
  ⟨h'.routers.trans h.routers, h'.failing.trans h.failing, h'.reverting.trans h.reverting,
    h'.nativeTokens.trans h.nativeTokens, h'.home.trans h.home, fun token => (h'.tokens token).trans (h.tokens token),
    fun owner => (h'.natives owner).trans (h.natives owner)⟩

/-! ### Queries -/

theorem AgreeOn.checkReachable (h : AgreeOn domain L M) (d : DomainId) : M.checkReachable d = L.checkReachable d := by
  rw [Ledger.checkReachable, Ledger.checkReachable, h.failing]

theorem AgreeOn.router (h : AgreeOn domain L M) (d : DomainId) : M.router d = L.router d := by
  rw [Ledger.router, Ledger.router, h.routers]

theorem AgreeOn.contract (h : AgreeOn domain L M) (token : Address) :
    M.contract domain token = L.contract domain token := by
  rw [Ledger.contract, Ledger.contract, h.tokens]

theorem AgreeOn.contractOrEmpty (h : AgreeOn domain L M) (token : Address) :
    M.contractOrEmpty domain token = L.contractOrEmpty domain token := by
  rw [Ledger.contractOrEmpty, Ledger.contractOrEmpty, Table.getD, Table.getD, h.tokens]

theorem AgreeOn.nativeBalance (h : AgreeOn domain L M) (owner : Address) :
    M.nativeBalance domain owner = L.nativeBalance domain owner := by
  rw [Ledger.nativeBalance, Ledger.nativeBalance, Table.getD, Table.getD, h.natives]

theorem AgreeOn.localAddress (h : AgreeOn domain L M) (token : TokenId) :
    M.localAddress domain token = L.localAddress domain token := by
  have haddress : ∀ router, M.addressOf domain router token = L.addressOf domain router token := by
    intro router
    rw [addressOf, addressOf]
    cases router.locals.get? token with
    | some address => rfl
    | none =>
      cases token.id.narrow? with
      | none => rfl
      | some address =>
        have hcontains : M.tokens.contains (domain, address) = L.tokens.contains (domain, address) := by
          rw [Table.contains, Table.contains, h.tokens]
        simp only [hcontains]
  simp only [Ledger.localAddress, h.checkReachable, h.router, haddress]

theorem AgreeOn.allowance (h : AgreeOn domain L M) (token owner spender : Address) :
    M.allowance domain token owner spender = L.allowance domain token owner spender := by
  simp only [Ledger.allowance, h.checkReachable, h.contract]

theorem AgreeOn.checkRemote (h : AgreeOn domain L M) (d destination : DomainId) :
    M.checkRemote d destination = L.checkRemote d destination := by
  rw [Ledger.checkRemote, Ledger.checkRemote, h.routers]

theorem AgreeOn.checkSend (h : AgreeOn domain L M) (sender token : Address) (amount : Quantity)
    (destination : DomainId) :
    M.checkSend domain sender token amount destination = L.checkSend domain sender token amount destination := by
  simp only [Ledger.checkSend, h.checkReachable, h.checkRemote, canonicalOf_congr h.routers, h.router, h.contract]

theorem AgreeOn.checkSendNative (h : AgreeOn domain L M) (sender : Address) (destination : DomainId)
    (value : Quantity) :
    M.checkSendNative domain sender destination value = L.checkSendNative domain sender destination value := by
  simp only [Ledger.checkSendNative, h.checkReachable, h.checkRemote, h.nativeTokens, h.nativeBalance]

/-! ### Changes of the contracts -/

theorem AgreeOn.updateToken (h : AgreeOn domain L M) (token : Address) (f : TokenContract → TokenContract) :
    AgreeOn domain (L.updateToken domain token f) (M.updateToken domain token f) := by
  refine { h with tokens := fun other => ?_ }
  show (M.tokens.insert _ _).get? _ = (L.tokens.insert _ _).get? _
  rw [Table.get?_insert, Table.get?_insert, h.contractOrEmpty, h.tokens]

theorem AgreeOn.takeNative (h : AgreeOn domain L M) (sender : Address) (value : Quantity) :
    AgreeOn domain (L.takeNative domain sender value) (M.takeNative domain sender value) := by
  refine { h with natives := fun other => ?_ }
  show (M.nativeBalances.insert _ _).get? _ = (L.nativeBalances.insert _ _).get? _
  rw [Table.get?_insert, Table.get?_insert, h.nativeBalance, h.natives]

theorem AgreeOn.announced (h : AgreeOn domain L M) (home : Home) (destination : DomainId) :
    AgreeOn domain (L.announced domain home destination) (M.announced domain home destination) :=
  { h with home := (Table.get?_insert_self ..).trans (Table.get?_insert_self ..).symm }

/-- Mining changes nothing that ledgers agree on. -/
theorem agreeOn_mined (domain : DomainId) (L : Ledger) (d : DomainId) (sender : Address) (request : Request)
    (logs : List Log) : AgreeOn domain L (L.mined d sender request logs) :=
  ⟨rfl, rfl, rfl, rfl, rfl, fun _ => rfl, fun _ => rfl⟩

variable {other : DomainId}

theorem agreeOn_updateToken (hne : other ≠ domain) (L : Ledger) (token : Address) (f : TokenContract → TokenContract) :
    AgreeOn other L (L.updateToken domain token f) := by
  refine { AgreeOn.refl other L with tokens := fun t => Table.get?_insert_of_ne _ _ fun heq => hne ?_ }
  exact (Prod.mk.inj heq).1.symm

theorem agreeOn_takeNative (hne : other ≠ domain) (L : Ledger) (sender : Address) (value : Quantity) :
    AgreeOn other L (L.takeNative domain sender value) := by
  refine { AgreeOn.refl other L with natives := fun owner => Table.get?_insert_of_ne _ _ fun heq => hne ?_ }
  exact (Prod.mk.inj heq).1.symm

theorem agreeOn_announced (hne : other ≠ domain) (L : Ledger) (home : Home) (destination : DomainId) :
    AgreeOn other L (L.announced domain home destination) :=
  { AgreeOn.refl other L with home := Table.get?_insert_of_ne _ _ hne.symm }

end Agree

/-- Two ledgers have the same books: all balances, allowances and counters are the same, on all domains. -/
structure SameBooks (L M : Ledger) : Prop where
  /-- Everyone owns the same of every token. -/
  balance : ∀ domain token owner, M.balance domain token owner = L.balance domain token owner
  /-- Everyone may take the same of every token. -/
  allowed : ∀ domain token owner spender, M.allowed domain token owner spender = L.allowed domain token owner spender
  /-- Everyone owns the same of every native asset. -/
  nativeBalance : ∀ domain owner, M.nativeBalance domain owner = L.nativeBalance domain owner
  /-- The next nonces are the same. -/
  nextNonce : ∀ domain destination, M.nextNonce domain destination = L.nextNonce domain destination
  /-- The homes have announced as many messages. -/
  leafCount : ∀ domain, M.leafCount domain = L.leafCount domain

/-- Ledgers that agree on every domain have the same books. -/
theorem sameBooks_of_agreeOn {L M : Ledger} (h : ∀ domain, AgreeOn domain L M) : SameBooks L M where
  balance domain token owner := by rw [balance, balance, (h domain).contractOrEmpty]
  allowed domain token owner spender := by rw [allowed, allowed, (h domain).contractOrEmpty]
  nativeBalance domain owner := (h domain).nativeBalance owner
  nextNonce domain destination := by rw [nextNonce, nextNonce, (h domain).home]
  leafCount domain := by rw [leafCount, leafCount, (h domain).home]

/-! ### What is submitted on a domain -/

/-- Two submissions on a domain end alike: both are refused for the same reason, or both are mined, with receipts
that differ in nothing but the hash and the block. The ledgers after them agree on the domain. -/
inductive EndsAlike (domain : DomainId) :
    Except ChainError Word × Ledger → Except ChainError Word × Ledger → Prop where
  /-- Both are refused. -/
  | refused (e : ChainError) {L' M' : Ledger} (h : AgreeOn domain L' M') :
      EndsAlike domain (.error e, L') (.error e, M')
  /-- Both are mined. -/
  | mined {L' M' : Ledger} (h : AgreeOn domain L' M') {transaction transaction' : Word} {receipt receipt' : Receipt}
      (hreceipt : L'.receipt transaction = .ok receipt) (hreceipt' : M'.receipt transaction' = .ok receipt')
      (halike : receipt.Alike receipt') : EndsAlike domain (.ok transaction, L') (.ok transaction', M')

/-- What is submitted on a domain concerns that domain alone. -/
structure Confined (domain : DomainId) (f : Ledger → Except ChainError Word × Ledger) : Prop where
  /-- The contracts of every other domain stay as they are. -/
  frame : ∀ L other, other ≠ domain → AgreeOn other L (f L).2
  /-- It ends alike on ledgers that agree on the domain. -/
  alike : ∀ L M, AgreeOn domain L M → EndsAlike domain (f L) (f M)

/-- Where two ledgers agree, a transaction with the same logs is mined alike. -/
theorem AgreeOn.endsAlike_mined {domain : DomainId} {L M : Ledger} (h : AgreeOn domain L M) (sender : Address)
    (request : Request) (logs : List Log) :
    EndsAlike domain (.ok (L.nextHash domain), L.mined domain sender request logs)
      (.ok (M.nextHash domain), M.mined domain sender request logs) := by
  have hagree := ((agreeOn_mined domain L domain sender request logs).symm.trans h).trans
    (agreeOn_mined domain M domain sender request logs)
  refine .mined hagree (L.receipt_mined domain sender request logs)
    (M.receipt_mined domain sender request logs) ⟨?_, rfl⟩
  show decide (domain ∉ M.reverting) = decide (domain ∉ L.reverting)
  rw [h.reverting]

theorem confined_approve (domain : DomainId) (token owner spender : Address) (amount : Quantity) :
    Confined domain fun L => L.approve domain token owner spender amount where
  frame L other hother := by
    rcases L.approve_cases domain token owner spender amount with ⟨e, heq⟩ | heq
    · rw [heq]
      exact .refl other L
    · rw [heq]
      exact (agreeOn_updateToken hother L token _).trans (agreeOn_mined ..)
  alike L M h := by
    have hcheck : (M.checkReachable domain *> M.contract domain token) =
        (L.checkReachable domain *> L.contract domain token) := by
      rw [h.checkReachable, h.contract]
    rw [approve, approve, hcheck]
    split
    · next e _ => exact .refused e h
    · exact (h.updateToken token _).endsAlike_mined owner _ _

/-- The same message is announced, or it is refused for the same reason. -/
theorem AgreeOn.dispatch {domain : DomainId} {L M : Ledger} (h : AgreeOn domain L M) (destination : DomainId)
    (action : TransferAction) :
    (M.dispatch domain destination action).map Prod.fst = (L.dispatch domain destination action).map Prod.fst := by
  have hhome : M.home domain = L.home domain := by rw [Ledger.home, Ledger.home, h.home]
  rw [Ledger.dispatch, Ledger.dispatch, h.router, h.routers, hhome]
  cases L.router domain with
  | error e => rfl
  | ok router =>
    cases L.routers.get? destination with
    | none => rfl
    | some remote => cases L.home domain <;> rfl

/-- A launch is refused alike or mined alike, with the same message. -/
theorem AgreeOn.endsAlike_launch {domain : DomainId} {L M : Ledger} (h : AgreeOn domain L M) (sender : Address)
    (destination : DomainId) (action : TransferAction) (request : Request) :
    EndsAlike domain (L.launch domain sender destination action request)
      (M.launch domain sender destination action request) := by
  have hsame := h.dispatch destination action
  rw [launch, launch]
  cases hL : L.dispatch domain destination action with
  | error e =>
    cases hM : M.dispatch domain destination action with
    | error e' =>
      rw [hL, hM] at hsame
      cases hsame
      exact .refused e h
    | ok announced =>
      rw [hL, hM] at hsame
      cases hsame
  | ok announced =>
    cases hM : M.dispatch domain destination action with
    | error e =>
      rw [hL, hM] at hsame
      cases hsame
    | ok announced' =>
      obtain ⟨log, L'⟩ := announced
      obtain ⟨log', M'⟩ := announced'
      obtain ⟨_, _, home, -, -, hhome, -, rfl⟩ := dispatch_eq_ok_iff.1 hL
      obtain ⟨_, _, home', -, -, hhome', -, rfl⟩ := dispatch_eq_ok_iff.1 hM
      rw [hL, hM] at hsame
      cases hsame
      cases (hhome'.symm.trans h.home).trans hhome
      exact (h.announced home destination).endsAlike_mined sender request [log]

/-- Launching changes the contracts of its own domain alone. -/
theorem agreeOn_launch {domain other : DomainId} (hother : other ≠ domain) (L : Ledger) (sender : Address)
    (destination : DomainId) (action : TransferAction) (request : Request) :
    AgreeOn other L (L.launch domain sender destination action request).2 := by
  rcases L.launch_cases domain sender destination action request with
    ⟨e, heq⟩ | ⟨router, remote, home, -, -, -, heq⟩
  · rw [heq]
    exact .refl other L
  · rw [heq]
    exact (agreeOn_announced hother L home destination).trans (agreeOn_mined ..)

theorem confined_send (domain : DomainId) (sender token : Address) (amount : Quantity) (destination : DomainId)
    (recipient : Word) : Confined domain fun L => L.send domain sender token amount destination recipient where
  frame L other hother := by
    rw [send]
    split
    · exact .refl other L
    · exact (agreeOn_updateToken hother L token _).trans (agreeOn_launch hother ..)
  alike L M h := by
    rw [send, send, h.checkSend]
    split
    · next e _ => exact .refused e h
    · exact (h.updateToken token _).endsAlike_launch sender destination _ _

theorem confined_sendNative (domain : DomainId) (sender : Address) (destination : DomainId) (recipient : Word)
    (value : Quantity) : Confined domain fun L => L.sendNative domain sender destination recipient value where
  frame L other hother := by
    rw [sendNative]
    split
    · exact .refl other L
    · exact (agreeOn_takeNative hother L sender value).trans (agreeOn_launch hother ..)
  alike L M h := by
    rw [sendNative, sendNative, h.checkSendNative]
    split
    · next e _ => exact .refused e h
    · exact (h.takeNative sender value).endsAlike_launch sender destination _ _

/-- Who signs is a matter of the handle, not of the ledger. -/
theorem Confined.submit {domain : DomainId} {f : Address → Ledger → Except ChainError Word × Ledger}
    (hf : ∀ sender, Confined domain (f sender)) (h : Handle) :
    Confined domain fun L => h.submit L fun sender => f sender L where
  frame L other hother := by
    rw [Handle.submit]
    split
    · exact .refl other L
    · next sender _ => exact (hf sender).frame L other hother
  alike L M hagree := by
    rw [Handle.submit, Handle.submit]
    split
    · next e _ => exact .refused e hagree
    · next sender _ => exact (hf sender).alike L M hagree

end Ledger

end TokenBridge
