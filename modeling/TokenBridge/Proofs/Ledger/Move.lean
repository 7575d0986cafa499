import TokenBridge.Proofs.Handle

/-!
# Moves

A run of the ledger consists of moves: something that happens to it, or a call through a handle that may hand in
a transaction. A call is the transaction that it asks for, signed by the account that its handle is bound to, or it
does nothing; so a run over moves is one over changes (`moved_eq_applyAll`).

Whatever a move is, it does one of three things (`Move.steps`): it hands in nothing and leaves the homes and all
receipts alone (`Quiet`), which is what every call does that fails; or it mines an approval; or the home of a domain
launches a transfer, whose message is the only thing that the receipt tells of (`Launch`).
-/

namespace TokenBridge

/-- Where a request sends something, if it sends. -/
def Request.destination? : Request → Option DomainId
  | .approve .. => none
  | .send _ _ destination | .sendNative _ destination => some destination

/-- How much a request is about. -/
def Request.amount : Request → Quantity
  | .approve _ _ amount | .send _ amount _ | .sendNative amount _ => amount

namespace Ledger

/-- The address of the home of a domain, if there is one. -/
def homeAddress? (L : Ledger) (domain : DomainId) : Option Address := (L.homes.get? domain).map Home.address

/-- The address of the router of a domain, if there is one. -/
def routerAddress? (L : Ledger) (domain : DomainId) : Option Address :=
  (L.routers.get? domain).map Router.address

/-! ### What does not hand anything in -/

/-- Nothing was handed in, no home announced anything, and the contracts are where they were. -/
structure Quiet (L L' : Ledger) : Prop where
  /-- The homes are the same, with all counters. -/
  homes : L'.homes = L.homes
  /-- The routers are where they were. -/
  routers : ∀ domain, L'.routerAddress? domain = L.routerAddress? domain
  /-- No receipt came. -/
  receipts : L'.receipts = L.receipts
  /-- No transaction was handed in. -/
  submitted : L'.submitted = L.submitted
  /-- No transaction was counted. -/
  count : L'.transactionCount = L.transactionCount
  /-- There is no new block. -/
  block : L'.block = L.block

theorem Quiet.refl (L : Ledger) : Quiet L L := ⟨rfl, fun _ => rfl, rfl, rfl, rfl, rfl⟩

theorem quiet_updateToken (L : Ledger) (domain : DomainId) (token : Address)
    (f : TokenContract → TokenContract) : Quiet L (L.updateToken domain token f) :=
  ⟨rfl, fun _ => rfl, rfl, rfl, rfl, rfl⟩

theorem quiet_takeNative (L : Ledger) (domain : DomainId) (sender : Address) (value : Quantity) :
    Quiet L (L.takeNative domain sender value) :=
  ⟨rfl, fun _ => rfl, rfl, rfl, rfl, rfl⟩

/-- What a router learns does not move it. -/
theorem quiet_updateRouter (L : Ledger) (domain : DomainId) {f : Router → Router}
    (hf : ∀ router, (f router).address = router.address) : Quiet L (L.updateRouter domain f) where
  homes := rfl
  routers d := L.address_updateRouter domain d hf
  receipts := rfl
  submitted := rfl
  count := rfl
  block := rfl

/-- What is no transaction hands nothing in. -/
theorem quiet_apply (L : Ledger) {change : Change} (h : change.isTransaction = false) :
    Quiet L (L.apply change) := by
  cases change with
  | deployToken domain address =>
    exact { L.quiet_updateRouter domain (f := fun router =>
      { router with locals := router.locals.insert (.ofAddress domain address) address })
      (fun _ => rfl) with }
  | deployNativeToken domain address =>
    exact { L.quiet_updateRouter domain (f := fun router =>
      { router with locals := router.locals.insert (.ofAddress domain address) address })
      (fun _ => rfl) with }
  | deployRepresentation domain token address =>
    exact { L.quiet_updateRouter domain (f := fun router =>
      { router with
        locals := router.locals.insert token address
        canonicals := router.canonicals.insert address token }) (fun _ => rfl) with }
  | mint | fundNative | setAllowance | setFailing | setReverting | setStatus =>
    exact ⟨rfl, fun _ => rfl, rfl, rfl, rfl, rfl⟩
  | approve | send | sendNative => cases h

/-! ### What hands a transaction in -/

/-- A transfer that a home launches, with the contracts that take part. -/
structure Launch where
  /-- The domain that it leaves. -/
  origin : DomainId
  /-- The account that sends it. -/
  sender : Address
  /-- What the account asks for. -/
  request : Request
  /-- The domain that it goes to. -/
  destination : DomainId
  /-- What is moved. -/
  action : TransferAction
  /-- The router of the domain that it leaves. -/
  router : Router
  /-- The router of the domain that it goes to. -/
  remote : Router
  /-- The home that announces it, as it is before. -/
  home : Home
  /-- It goes where the account asks for. -/
  destination_eq : request.destination? = some destination
  /-- As much is moved as the account asks for. -/
  amount_eq : request.amount = action.amount

namespace Launch

/-- The message that is announced. -/
def message (l : Launch) : Message := messageOf l.origin l.router l.home l.destination l.remote l.action

/-- The contracts that take part are those of a ledger. -/
structure On (l : Launch) (L : Ledger) : Prop where
  /-- The router of the domain that it leaves. -/
  router : L.routers.get? l.origin = some l.router
  /-- The router of the domain that it goes to. -/
  remote : L.routers.get? l.destination = some l.remote
  /-- The home that announces it. -/
  home : L.homes.get? l.origin = some l.home

/-- The ledger after the transfer was announced and mined. -/
def after (l : Launch) (L : Ledger) : Ledger :=
  (L.announced l.origin l.home l.destination).mined l.origin l.sender l.request [logOf l.home l.message]

end Launch

/-- How what may hand in a transaction ends, with a result and a ledger: it is refused, an approval is mined, or
a transfer to the given recipient is launched. -/
inductive Ends (L : Ledger) (recipient : Option Word) : Except ChainError Word × Ledger → Prop where
  /-- It is refused. -/
  | refused (e : ChainError) {L' : Ledger} (h : Quiet L L') : Ends L recipient (.error e, L')
  /-- An approval is mined. -/
  | approved {taken : Ledger} (h : Quiet L taken) (domain : DomainId) (token owner spender : Address)
      (amount : Quantity) :
      Ends L recipient (.ok (taken.nextHash domain),
        taken.mined domain owner (.approve token spender amount) [⟨token, .approval owner spender amount⟩])
  /-- A transfer is launched. -/
  | launched {taken : Ledger} (h : Quiet L taken) (l : Launch) (hl : l.On taken)
      (hrecipient : recipient = some l.action.beneficiary) :
      Ends L recipient (.ok (taken.nextHash l.origin), l.after taken)

theorem ends_approve (L : Ledger) (domain : DomainId) (token owner spender : Address) (amount : Quantity) :
    Ends L none (L.approve domain token owner spender amount) := by
  rcases approve_cases L domain token owner spender amount with ⟨e, h⟩ | h
  · rw [h]
    exact .refused e (.refl L)
  · rw [h]
    exact .approved (L.quiet_updateToken domain token (·.allow owner spender amount)) domain token owner
      spender amount

theorem ends_send (L : Ledger) (domain : DomainId) (sender token : Address) (amount : Quantity)
    (destination : DomainId) (recipient : Word) :
    Ends L (some recipient) (L.send domain sender token amount destination recipient) := by
  rcases send_cases L domain sender token amount destination recipient with
    ⟨e, h⟩ | ⟨address, taken, rfl, ⟨e, h⟩ | ⟨canonical, router, remote, home, hrouter, hremote, hhome, h⟩⟩
  · rw [h]
    exact .refused e (.refl L)
  · rw [h]
    exact .refused e (L.quiet_updateToken domain token _)
  · rw [h]
    exact .launched (L.quiet_updateToken domain token _)
      ⟨domain, sender, .send token amount destination, destination, ⟨canonical, recipient, amount⟩, router,
        remote, home, rfl, rfl⟩ ⟨hrouter, hremote, hhome⟩ rfl

theorem ends_sendNative (L : Ledger) (domain : DomainId) (sender : Address) (destination : DomainId)
    (recipient : Word) (value : Quantity) :
    Ends L (some recipient) (L.sendNative domain sender destination recipient value) := by
  rcases sendNative_cases L domain sender destination recipient value with
    ⟨e, h⟩ | ⟨e, h⟩ | ⟨token, router, remote, home, hrouter, hremote, hhome, h⟩
  · rw [h]
    exact .refused e (.refl L)
  · rw [h]
    exact .refused e (L.quiet_takeNative domain sender value)
  · rw [h]
    exact .launched (L.quiet_takeNative domain sender value)
      ⟨domain, sender, .sendNative value destination, destination, ⟨.ofAddress domain token, recipient, value⟩,
        router, remote, home, rfl, rfl⟩ ⟨hrouter, hremote, hhome⟩ rfl

theorem Ends.submit {L : Ledger} {recipient : Option Word} (h : Handle)
    {transact : Address → Except ChainError Word × Ledger}
    (htransact : ∀ sender, Ends L recipient (transact sender)) : Ends L recipient (h.submit L transact) := by
  cases hs : h.sender with
  | error e =>
    rw [Handle.submit, hs]
    exact .refused e (.refl L)
  | ok sender =>
    rw [Handle.submit_of_sender hs]
    exact htransact sender

/-- What fails hands in nothing. -/
theorem Ends.quiet_of_error {L : Ledger} {recipient : Option Word} {result : Except ChainError Word × Ledger}
    (h : Ends L recipient result) {e : ChainError} (he : result.1 = .error e) : Quiet L result.2 := by
  cases h with
  | refused e h => exact h
  | approved => cases he
  | launched => cases he

/-! ### Calls and moves -/

/-- A call through a handle that may hand in a transaction. -/
inductive Call where
  /-- A token is asked to let a spender take an amount. -/
  | approve (h : TokenHandle) (spender : Address) (amount : Quantity)
  /-- A router is asked to send a token. -/
  | send (h : RouterHandle) (token : Address) (amount : Quantity) (destination : DomainId) (recipient : Word)
  /-- A helper is asked to send native value. -/
  | sendNative (h : HelperHandle) (destination : DomainId) (recipient : Word) (value : Quantity)

namespace Call

/-- What a call gives back, and the ledger after it. -/
def on (L : Ledger) : Call → Except ChainError Word × Ledger
  | .approve h spender amount => h.approve L spender amount
  | .send h token amount destination recipient => h.send L token amount destination recipient
  | .sendNative h destination recipient value => h.send L destination recipient value

/-- The recipient that a call names. -/
def recipient? : Call → Option Word
  | .approve .. => none
  | .send _ _ _ _ recipient | .sendNative _ _ recipient _ => some recipient

theorem ends_on (call : Call) (L : Ledger) : Ends L call.recipient? (call.on L) := by
  cases call with
  | approve h spender amount =>
    exact Ends.submit h.toHandle fun sender => L.ends_approve h.domain h.address sender spender amount
  | send h token amount destination recipient =>
    exact Ends.submit h.toHandle fun sender => L.ends_send h.domain sender token amount destination recipient
  | sendNative h destination recipient value =>
    exact Ends.submit h.toHandle fun sender => L.ends_sendNative h.domain sender destination recipient value

/-- The transaction that a call asks for, if its handle is bound to an account that signs. -/
def change? : Call → Option Change
  | .approve h spender amount =>
    h.sender.toOption.map fun sender => .approve h.domain h.address sender spender amount
  | .send h token amount destination recipient =>
    h.sender.toOption.map fun sender => .send h.domain sender token amount destination recipient
  | .sendNative h destination recipient value =>
    h.sender.toOption.map fun sender => .sendNative h.domain sender destination recipient value

/-- A call does what its transaction does, or nothing. -/
theorem on_eq_applyAll (call : Call) (L : Ledger) : (call.on L).2 = L.applyAll call.change?.toList := by
  cases call with
  | approve h =>
    rw [on, TokenHandle.approve, Handle.submit, change?]
    cases h.sender <;> rfl
  | send h =>
    rw [on, RouterHandle.send, Handle.submit, change?]
    cases h.sender <;> rfl
  | sendNative h =>
    rw [on, HelperHandle.send, Handle.submit, change?]
    cases h.sender <;> rfl

theorem isTransaction_of_change? {call : Call} {change : Change} (h : call.change? = some change) :
    change.isTransaction := by
  cases call <;> obtain ⟨sender, -, rfl⟩ := Option.map_eq_some_iff.1 h <;> rfl

/-- A call does nothing but transactions. -/
theorem transacted (call : Call) (L : Ledger) : Transacted L (call.on L).2 :=
  ⟨call.change?.toList, fun _ h => isTransaction_of_change? (Option.mem_toList.1 h), call.on_eq_applyAll L⟩

end Call

/-- The recipient that a change names. -/
def Change.recipient? : Change → Option Word
  | .send _ _ _ _ _ recipient | .sendNative _ _ _ recipient _ => some recipient
  | _ => none

/-- One move in a run of the ledger. -/
inductive Move where
  /-- Something happens to the ledger. -/
  | occurs (change : Change)
  /-- A contract is called through a handle. -/
  | calls (call : Call)

namespace Move

/-- The ledger after a move. -/
def on (L : Ledger) : Move → Ledger
  | .occurs change => L.apply change
  | .calls call => (call.on L).2

/-- The recipient that a move names. -/
def recipient? : Move → Option Word
  | .occurs change => change.recipient?
  | .calls call => call.recipient?

/-- The change that a move makes, if it makes one. -/
def change? : Move → Option Change
  | .occurs change => some change
  | .calls call => call.change?

theorem on_eq_applyAll (m : Move) (L : Ledger) : m.on L = L.applyAll m.change?.toList := by
  cases m with
  | occurs change => rfl
  | calls call => exact call.on_eq_applyAll L

end Move

/-- The ledger after moves. -/
def moved (L : Ledger) (moves : List Move) : Ledger := moves.foldl Move.on L

/-- **A run over moves is one over the changes that they make.** -/
theorem moved_eq_applyAll (L : Ledger) (moves : List Move) :
    L.moved moves = L.applyAll (moves.filterMap Move.change?) := by
  induction moves generalizing L with
  | nil => rfl
  | cons m rest ih =>
    have hsplit : (m :: rest).filterMap Move.change? = m.change?.toList ++ rest.filterMap Move.change? := by
      rw [List.filterMap_cons]
      cases m.change? <;> rfl
    rw [hsplit, applyAll_append, ← m.on_eq_applyAll, ← ih]
    rfl

/-- Every run over changes is one over moves, in which nothing is called. -/
theorem moved_occurs (L : Ledger) (changes : List Change) : L.moved (changes.map .occurs) = L.applyAll changes := by
  rw [moved_eq_applyAll, List.filterMap_map]
  exact congrArg L.applyAll List.filterMap_some

theorem moved_append (L : Ledger) (first rest : List Move) :
    L.moved (first ++ rest) = (L.moved first).moved rest := by
  simp only [moved_eq_applyAll, List.filterMap_append, applyAll_append]

/-- What every change keeps of a ledger holds after any moves. -/
theorem moved_of_apply {P : Ledger → Prop} (hstep : ∀ {L : Ledger} (change : Change), P L → P (L.apply change))
    {L : Ledger} (h : P L) (moves : List Move) : P (L.moved moves) := by
  rw [moved_eq_applyAll]
  exact applyAll_of_apply hstep h _

/-- A transaction of a run, with what was seen of it when it was handed in. -/
structure Record where
  /-- The move that handed it in. -/
  move : Move
  /-- The transaction. -/
  submission : Submission
  /-- The receipt that the ledger had of it then. -/
  receipt : Option Receipt

/-- The records of the transactions that a move hands in. -/
def records (L : Ledger) (m : Move) : List Record :=
  ((m.on L).submitted.drop L.submitted.length).map fun s => ⟨m, s, (m.on L).receipts.get? s.transaction⟩

/-- What a move does to a ledger: the ledger after it, and the records of what it hands in. -/
inductive Steps (L : Ledger) (m : Move) : Ledger → List Record → Prop where
  /-- Nothing is handed in. -/
  | quiet {L' : Ledger} (h : Quiet L L') : Steps L m L' []
  /-- An approval is mined. -/
  | approved {taken : Ledger} (h : Quiet L taken) (domain : DomainId) (token owner spender : Address)
      (amount : Quantity) :
      Steps L m (taken.mined domain owner (.approve token spender amount) [⟨token, .approval owner spender amount⟩])
        [⟨m, ⟨domain, taken.nextHash domain, owner, .approve token spender amount⟩,
          some (taken.nextReceipt domain [⟨token, .approval owner spender amount⟩])⟩]
  /-- A transfer is launched. -/
  | launched {taken : Ledger} (h : Quiet L taken) (l : Launch) (hl : l.On taken)
      (hrecipient : m.recipient? = some l.action.beneficiary) :
      Steps L m (l.after taken)
        [⟨m, ⟨l.origin, taken.nextHash l.origin, l.sender, l.request⟩,
          some (taken.nextReceipt l.origin [logOf l.home l.message])⟩]

section Records

variable {L taken : Ledger} {m : Move}

theorem records_of_quiet (h : Quiet L (m.on L)) : L.records m = [] := by
  rw [records, h.submitted, List.drop_length, List.map_nil]

theorem Quiet.steps (h : Quiet L (m.on L)) : Steps L m (m.on L) (L.records m) := by
  rw [records_of_quiet h]
  exact .quiet h

/-- What is mined is recorded, with its receipt. -/
theorem records_of_mined (h : taken.submitted = L.submitted) {domain : DomainId} {sender : Address}
    {request : Request} {logs : List Log} (hmined : m.on L = taken.mined domain sender request logs) :
    L.records m =
      [⟨m, ⟨domain, taken.nextHash domain, sender, request⟩, some (taken.nextReceipt domain logs)⟩] := by
  have hsubmitted : (taken.mined domain sender request logs).submitted.drop L.submitted.length =
      [⟨domain, taken.nextHash domain, sender, request⟩] := by
    rw [← h]
    exact List.drop_left
  have hreceipt := receipt_eq_ok_iff.1 (receipt_mined taken domain sender request logs)
  rw [records, hmined, hsubmitted, List.map_singleton, hreceipt]

theorem Ends.steps {result : Except ChainError Word × Ledger} (h : Ends L m.recipient? result)
    (hon : m.on L = result.2) : Steps L m (m.on L) (L.records m) := by
  cases h with
  | refused e h =>
    exact Quiet.steps (hon ▸ h)
  | approved h domain token owner spender amount =>
    rw [records_of_mined h.submitted hon, hon]
    exact .approved h domain token owner spender amount
  | @launched taken h l hl hrecipient =>
    have hsubmitted : (taken.announced l.origin l.home l.destination).submitted = L.submitted := h.submitted
    rw [records_of_mined hsubmitted hon, hon]
    exact .launched h l hl hrecipient

/-- **The step**: every move hands in nothing, or an approval, or a launched transfer. -/
theorem Move.steps (m : Move) (L : Ledger) : Steps L m (m.on L) (L.records m) := by
  cases m with
  | calls call => exact Ends.steps (m := .calls call) (call.ends_on L) rfl
  | occurs change =>
    cases hchange : change.isTransaction with
    | false => exact Quiet.steps (m := .occurs change) (L.quiet_apply hchange)
    | true =>
      cases change with
      | approve domain token owner spender amount =>
        exact Ends.steps (m := .occurs _) (L.ends_approve domain token owner spender amount) rfl
      | send domain sender token amount destination recipient =>
        exact Ends.steps (m := .occurs _) (L.ends_send domain sender token amount destination recipient) rfl
      | sendNative domain sender destination recipient value =>
        exact Ends.steps (m := .occurs _) (L.ends_sendNative domain sender destination recipient value) rfl
      | _ => cases hchange

end Records

end Ledger

end TokenBridge
