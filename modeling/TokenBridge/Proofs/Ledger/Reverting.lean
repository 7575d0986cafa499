import TokenBridge.Proofs.Ledger.Agreement
import TokenBridge.Proofs.Ledger.Journal

/-!
# Transactions that revert

Where a domain reverts, mining marks the receipt of a transaction as failed. Which domains revert is looked at there
and nowhere else, after the contracts were changed: no check of a transaction and no change of a contract depends on
it, so a request takes the same course on ledgers that differ in nothing but the domains that revert
(`sameCourse_handIn`). Nothing is undone. A reverted transaction therefore leaves the ledger that it leaves where it
succeeds, with a mark on its receipt (`handIn_reverted`), and the only one without an effect on the books is an
approval of what is allowed already.
-/

namespace TokenBridge.Ledger

/-- What comes of a request that an account hands in on a domain; where it sends, to a recipient. -/
def handIn (L : Ledger) (domain : DomainId) (sender : Address) (recipient : Word) :
    Request → Except ChainError Word × Ledger
  | .approve token spender amount => L.approve domain token sender spender amount
  | .send token amount destination => L.send domain sender token amount destination recipient
  | .sendNative value destination => L.sendNative domain sender destination recipient value

/-- The ledger with other domains whose transactions fail. -/
def switched (L : Ledger) (reverting : List DomainId) : Ledger := { L with reverting := reverting }

/-- Two requests on a domain take the same course: both are refused, or both are mined, and the ledgers differ in
nothing but the domains that revert, and what follows from it for the receipt. -/
inductive SameCourse (domain : DomainId) (before reverting : List DomainId) :
    Except ChainError Word × Ledger → Except ChainError Word × Ledger → Prop where
  /-- Both are refused. -/
  | refused (e : ChainError) (L : Ledger) :
      SameCourse domain before reverting (.error e, L) (.error e, L.switched reverting)
  /-- Both are mined. -/
  | mined (taken : Ledger) (hbefore : taken.reverting = before) (sender : Address) (request : Request)
    (logs : List Log) : SameCourse domain before reverting
      (.ok (taken.nextHash domain), taken.mined domain sender request logs)
      (.ok (taken.nextHash domain), (taken.switched reverting).mined domain sender request logs)

/-- What is announced does not depend on the domains that revert. -/
theorem dispatch_switched (L : Ledger) (reverting : List DomainId) (origin destination : DomainId)
    (action : TransferAction) :
    (L.switched reverting).dispatch origin destination action =
      (L.dispatch origin destination action).map fun announced => (announced.1, announced.2.switched reverting) := by
  have hrouter : (L.switched reverting).router origin = L.router origin := rfl
  have hremote : (L.switched reverting).routers.get? destination = L.routers.get? destination := rfl
  have hhome : (L.switched reverting).home origin = L.home origin := rfl
  rw [dispatch, dispatch, hrouter, hremote, hhome]
  cases L.router origin with
  | error e => rfl
  | ok router =>
    cases L.routers.get? destination with
    | none => rfl
    | some remote => cases L.home origin <;> rfl

theorem sameCourse_launch (L : Ledger) (reverting : List DomainId) (domain : DomainId) (sender : Address)
    (destination : DomainId) (action : TransferAction) (request : Request) :
    SameCourse domain L.reverting reverting (L.launch domain sender destination action request)
      ((L.switched reverting).launch domain sender destination action request) := by
  rw [launch, launch, dispatch_switched]
  cases hdispatch : L.dispatch domain destination action with
  | error e => exact .refused e L
  | ok announced =>
    obtain ⟨log, L'⟩ := announced
    obtain ⟨_, _, home, -, -, -, -, rfl⟩ := dispatch_eq_ok_iff.1 hdispatch
    exact .mined (L.announced domain home destination) rfl sender request [log]

/-- **The course of a request** does not depend on the domains that revert. -/
theorem sameCourse_handIn (L : Ledger) (reverting : List DomainId) (domain : DomainId) (sender : Address)
    (recipient : Word) (request : Request) :
    SameCourse domain L.reverting reverting (L.handIn domain sender recipient request)
      ((L.switched reverting).handIn domain sender recipient request) := by
  cases request with
  | approve token spender amount =>
    have hcheck : ((L.switched reverting).checkReachable domain *> (L.switched reverting).contract domain token) =
        (L.checkReachable domain *> L.contract domain token) := rfl
    rw [handIn, handIn, approve, approve, hcheck]
    split
    · next e _ => exact .refused e L
    · exact .mined (L.updateToken domain token (·.allow sender spender amount)) rfl sender _ _
  | send token amount destination =>
    have hcheck : (L.switched reverting).checkSend domain sender token amount destination =
        L.checkSend domain sender token amount destination := rfl
    rw [handIn, handIn, send, send, hcheck]
    split
    · next e _ => exact .refused e L
    · next canonical router _ =>
      exact sameCourse_launch (L.updateToken domain token (·.take sender router amount)) reverting domain sender
        destination _ _
  | sendNative value destination =>
    have hcheck : (L.switched reverting).checkSendNative domain sender destination value =
        L.checkSendNative domain sender destination value := rfl
    rw [handIn, handIn, sendNative, sendNative, hcheck]
    split
    · next e _ => exact .refused e L
    · exact sameCourse_launch (L.takeNative domain sender value) reverting domain sender destination _ _

/-- A ledger is another one but for a mark on the receipt of one transaction: it says that the transaction failed,
where the other ledger says that it succeeded. -/
structure Marked (transaction : Word) (L M : Ledger) : Prop where
  /-- The receipts of the transaction differ in the mark. -/
  receipt : ∃ receipt, L.receipt transaction = .ok receipt ∧ receipt.succeeded ∧
    M.receipt transaction = .ok { receipt with succeeded := false }
  /-- The other receipts are the same. -/
  others : ∀ hash, hash ≠ transaction → M.receipts.get? hash = L.receipts.get? hash
  /-- So is everything else, but for the domains that revert. -/
  rest : M = { L with receipts := M.receipts, reverting := M.reverting }

/-- A mark is nothing that the books tell of. -/
theorem Marked.sameBooks {transaction : Word} {L M : Ledger} (h : Marked transaction L M) : SameBooks L M := by
  rw [h.rest]
  exact ⟨fun _ _ _ => rfl, fun _ _ _ _ => rfl, fun _ _ => rfl, fun _ _ => rfl, fun _ => rfl⟩

/-- What is mined is marked where the domain reverts, and not marked where it does not. -/
theorem marked_mined {taken : Ledger} {domain : DomainId} {reverting : List DomainId}
    (hreverting : domain ∈ taken.reverting) (hswitched : domain ∉ reverting) (sender : Address) (request : Request)
    (logs : List Log) :
    Marked (taken.nextHash domain) ((taken.switched reverting).mined domain sender request logs)
      (taken.mined domain sender request logs) where
  receipt := by
    refine ⟨_, receipt_mined (taken.switched reverting) domain sender request logs, decide_eq_true hswitched, ?_⟩
    have hfailed : decide (domain ∉ taken.reverting) = false := decide_eq_false (not_not_intro hreverting)
    rw [receipt_mined, nextReceipt, hfailed]
    rfl
  others hash hhash := (Table.get?_insert_of_ne _ _ hhash.symm).trans (Table.get?_insert_of_ne _ _ hhash.symm).symm
  rest := rfl

/-- What takes the same course where the domain does not revert is mined there as well, without the mark. -/
theorem SameCourse.marked {domain : DomainId} {before reverting : List DomainId}
    {result steady : Except ChainError Word × Ledger} (h : SameCourse domain before reverting result steady)
    (hbefore : domain ∈ before) (hafter : domain ∉ reverting) {transaction : Word}
    (hmined : result.1 = .ok transaction) : steady.1 = .ok transaction ∧ Marked transaction steady.2 result.2 := by
  cases h with
  | refused e L => cases hmined
  | mined taken htaken sender request logs =>
    cases hmined
    exact ⟨rfl, marked_mined (htaken ▸ hbefore) hafter sender request logs⟩

/-- Announcing changes the books. -/
theorem not_sameBooks_of_announced (L taken : Ledger) {domain destination : DomainId} {home : Home}
    (hhomes : taken.homes = L.homes) (hhome : taken.homes.get? domain = some home) (sender : Address)
    (request : Request) (logs : List Log) :
    ¬ SameBooks L ((taken.announced domain home destination).mined domain sender request logs) := by
  intro hsame
  have hnonce : (taken.announced domain home destination).nextNonce domain destination =
      L.nextNonce domain destination := hsame.nextNonce domain destination
  have hbefore : taken.nextNonce domain destination = L.nextNonce domain destination := by
    rw [nextNonce, nextNonce, hhomes]
  rw [nextNonce_announced hhome, if_pos ⟨rfl, rfl⟩, hbefore] at hnonce
  exact absurd hnonce (by simp)

/-- What is mined leaves the books as they are exactly if it is an approval of what is allowed already. -/
theorem sameBooks_handIn_iff {L : Ledger} {domain : DomainId} {sender : Address} {recipient : Word}
    {request : Request} {transaction : Word} (hmined : (L.handIn domain sender recipient request).1 = .ok transaction) :
    SameBooks L (L.handIn domain sender recipient request).2 ↔
      ∃ token spender amount, request = .approve token spender amount ∧
        L.allowed domain token sender spender = amount := by
  cases request with
  | approve token spender amount =>
    rw [handIn] at hmined ⊢
    rcases approve_cases L domain token sender spender amount with ⟨e, heq⟩ | heq
    · rw [heq] at hmined
      cases hmined
    · rw [heq]
      have hallowed := allowed_allow L domain token sender spender amount
      constructor
      · intro hsame
        refine ⟨token, spender, amount, rfl, ?_⟩
        have hkey := hsame.allowed domain token sender spender
        rw [← hkey]
        exact (hallowed domain token sender spender).trans (if_pos ⟨rfl, rfl, rfl, rfl⟩)
      · rintro ⟨_, _, _, hrequest, hsame⟩
        cases hrequest
        refine ⟨balance_allow L domain token sender spender amount, fun d t o s => ?_, fun _ _ => rfl,
          fun _ _ => rfl, fun _ => rfl⟩
        refine (hallowed d t o s).trans ?_
        split
        · next hkey =>
          obtain ⟨rfl, rfl, rfl, rfl⟩ := hkey
          exact hsame.symm
        · rfl
  | send token amount destination =>
    rw [handIn] at hmined ⊢
    rcases send_cases L domain sender token amount destination recipient with
      ⟨e, heq⟩ | ⟨address, taken, rfl, ⟨e, heq⟩ | ⟨canonical, router, remote, home, -, -, hhome, heq⟩⟩
    · rw [heq] at hmined
      cases hmined
    · rw [heq] at hmined
      cases hmined
    · rw [heq]
      exact ⟨fun hsame => absurd hsame (not_sameBooks_of_announced L
        (L.updateToken domain token (·.take sender address amount)) rfl hhome _ _ _), nofun⟩
  | sendNative value destination =>
    rw [handIn] at hmined ⊢
    rcases sendNative_cases L domain sender destination recipient value with
      ⟨e, heq⟩ | ⟨e, heq⟩ | ⟨token, router, remote, home, -, -, hhome, heq⟩
    · rw [heq] at hmined
      cases hmined
    · rw [heq] at hmined
      cases hmined
    · rw [heq]
      exact ⟨fun hsame => absurd hsame
        (not_sameBooks_of_announced L (L.takeNative domain sender value) rfl hhome _ _ _), nofun⟩

/-- **Nothing of a reverted transaction is undone**: it is mined as failed, and the ledger after it is the one after
the same request where the domain does not revert, but for the mark. So its effect on the books is that of a
transaction that succeeds, and there is none only where an approval says what is allowed already. -/
theorem handIn_reverted {L : Ledger} {domain : DomainId} {sender : Address} {recipient : Word} {request : Request}
    {transaction : Word} (hreverting : domain ∈ L.reverting)
    (hmined : (L.handIn domain sender recipient request).1 = .ok transaction) :
    let after := (L.handIn domain sender recipient request).2
    let steady := (L.setReverting domain false).handIn domain sender recipient request
    (∃ receipt, after.receipt transaction = .ok receipt ∧ receipt.succeeded = false) ∧
      steady.1 = .ok transaction ∧ Marked transaction steady.2 after ∧ SameBooks steady.2 after ∧
      (SameBooks L after ↔ ∃ token spender amount, request = .approve token spender amount ∧
        L.allowed domain token sender spender = amount) := by
  intro after steady
  have hout : domain ∉ setMember L.reverting domain false := by simp [setMember]
  obtain ⟨hresult, hmarked⟩ : steady.1 = .ok transaction ∧ Marked transaction steady.2 after :=
    (sameCourse_handIn L _ domain sender recipient request).marked hreverting hout hmined
  obtain ⟨receipt, -, -, hreceipt⟩ := hmarked.receipt
  exact ⟨⟨_, hreceipt, rfl⟩, hresult, hmarked, hmarked.sameBooks, sameBooks_handIn_iff hmined⟩

/-- Moves on the small bridge: an account is given 100 of a token and lets the router take 60, and its domain
reverts. -/
def revertingMoves : List Move :=
  [.occurs (.deployToken 1 (.ofNat 0x3001)), .occurs (.mint 1 (.ofNat 0x3001) (.ofNat 0xa) (.ofNat 100)),
    .occurs (.setAllowance 1 (.ofNat 0x3001) (.ofNat 0xa) (.ofNat 0x1100) (.ofNat 60)),
    .occurs (.setReverting 1 true)]

/-- To send what it lets the router take. -/
def revertingRequest : Request := .send (.ofNat 0x3001) (.ofNat 60) 2

theorem exists_mined_revertingRequest : ∃ transaction,
    (((ofConfig .testing).moved revertingMoves).handIn 1 (.ofNat 0xa) (.ofNat 0xb) revertingRequest).1 =
      .ok transaction := by
  have hok : (((ofConfig .testing).moved revertingMoves).handIn 1 (.ofNat 0xa) (.ofNat 0xb)
      revertingRequest).1.isOk := by decide +kernel
  cases hresult : (((ofConfig .testing).moved revertingMoves).handIn 1 (.ofNat 0xa) (.ofNat 0xb)
      revertingRequest).1 with
  | error e =>
    rw [hresult] at hok
    cases hok
  | ok transaction => exact ⟨transaction, rfl⟩

/-- A sending of 60 fails there, and leaves what it leaves where it succeeds: 40. -/
theorem handIn_reverted_sent :
    let L := (ofConfig .testing).moved revertingMoves
    let after := (L.handIn 1 (.ofNat 0xa) (.ofNat 0xb) revertingRequest).2
    let steady := ((L.setReverting 1 false).handIn 1 (.ofNat 0xa) (.ofNat 0xb) revertingRequest).2
    (∃ transaction receipt, after.receipt transaction = .ok receipt ∧ receipt.succeeded = false) ∧
      SameBooks steady after ∧ ¬ SameBooks L after ∧
      after.balance 1 (.ofNat 0x3001) (.ofNat 0xa) = .ofNat 40 := by
  obtain ⟨transaction, hmined⟩ := exists_mined_revertingRequest
  obtain ⟨⟨receipt, hreceipt⟩, -, -, hsteady, hsame⟩ := handIn_reverted (by decide +kernel) hmined
  exact ⟨⟨transaction, receipt, hreceipt⟩, hsteady, fun h => absurd (hsame.1 h) nofun, by decide +kernel⟩

/-- So a reverted transaction can have an effect: 60 are gone that were not sent. -/
theorem not_sameBooks_of_reverted :
    ¬ ∀ (c : Config) (moves : List Move) (domain : DomainId) (sender : Address) (recipient : Word) (request : Request)
      (transaction : Word), domain ∈ ((ofConfig c).moved moves).reverting →
        (((ofConfig c).moved moves).handIn domain sender recipient request).1 = .ok transaction →
          SameBooks ((ofConfig c).moved moves)
            (((ofConfig c).moved moves).handIn domain sender recipient request).2 := by
  intro h
  obtain ⟨transaction, hmined⟩ := exists_mined_revertingRequest
  have hsame := h .testing revertingMoves 1 (.ofNat 0xa) (.ofNat 0xb) revertingRequest transaction
    (by decide +kernel) hmined
  exact absurd (hsame.balance 1 (.ofNat 0x3001) (.ofNat 0xa)) (by decide +kernel)

end TokenBridge.Ledger
