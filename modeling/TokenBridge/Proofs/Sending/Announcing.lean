import TokenBridge.Proofs.Ledger.Numbering
import TokenBridge.Proofs.Ledger.Transaction
import TokenBridge.Proofs.Sending.Stages
import TokenBridge.Proofs.Transfer

/-!
# What sending announces

What is announced between two states of the ledger are the messages in the receipts of the transactions that were
handed in between them to send something (`announcedSince`). What sending does to the ledger is made up of moves, and
it announces what they announce (`leads_send`, `leads_sendNative`). An approval announces nothing (`Silent`).

A sending that gives a transfer back announced just its message, which goes to another domain (`sends_of_send`,
`sends_of_sendNative`), whatever the provider does to the receipt.
-/

namespace TokenBridge

/-- The messages that a receipt tells of. -/
def Receipt.messages (receipt : Receipt) : List Message :=
  (receipt.logs.filterMap Log.dispatch?).filterMap fun dispatch => (Message.decode dispatch.message).toOption

namespace Ledger

/-- The messages in the receipt that is kept under the hash of a transaction. -/
def messagesOf (L : Ledger) (transaction : Word) : List Message :=
  match L.receipts.get? transaction with
  | some receipt => receipt.messages
  | none => []

/-- The messages that were announced since an earlier state of the ledger: those of the transactions that were handed
in since and send something. -/
def announcedSince (L L' : Ledger) : List Message :=
  (L'.submitted.drop L.submitted.length).flatMap fun s =>
    if s.request.destination?.isSome then L'.messagesOf s.transaction else []

theorem messages_logOf (home : Home) (message : Message) (transaction : Word) (block : UInt64) (succeeded : Bool) :
    Receipt.messages ⟨transaction, block, succeeded, [logOf home message]⟩ = [message] := by
  have hdecode : Message.decode (announcementOf home message).message = .ok message := message.decode_encode
  show [announcementOf home message].filterMap _ = [message]
  rw [List.filterMap_cons_some (b := message) (by rw [hdecode]; rfl), List.filterMap_nil]

theorem messagesOf_of_get? {L : Ledger} {transaction : Word} {receipt : Receipt}
    (h : L.receipts.get? transaction = some receipt) : L.messagesOf transaction = receipt.messages := by
  rw [messagesOf, h]

theorem announcedSince_singleton {L L' : Ledger} {s : Submission} (h : L'.submitted = L.submitted ++ [s])
    (hsends : s.request.destination?.isSome) : L.announcedSince L' = L'.messagesOf s.transaction := by
  rw [announcedSince, h, List.drop_left, List.flatMap_singleton, if_pos hsends]

theorem announcedSince_of_submitted {L L' : Ledger} (h : L'.submitted = L.submitted) :
    L.announcedSince L' = [] := by
  rw [announcedSince, h, List.drop_length, List.flatMap_nil]

/-! ### Announcements of moves -/

/-- A record that is not about sending has no message. -/
theorem Told.messages_eq_nil {L : Ledger} {r : Record} (h : Told L r)
    (hnone : r.submission.request.destination? = none) : r.messages = [] := by
  rcases h.dispatches with ⟨_, _, -, -, hsome⟩ | ⟨hdispatches, -⟩
  · cases hnone.symm.trans hsome
  · rw [Record.messages, hdispatches, List.filterMap_nil]

/-- A move announces what is in its record. -/
theorem announcedSince_on (L : Ledger) (m : Move) :
    L.announcedSince (m.on L) = (L.records m).flatMap Record.messages := by
  rw [records, List.flatMap_map, announcedSince]
  refine List.flatMap_congr fun s hs => ?_
  have htold : Told L ⟨m, s, (m.on L).receipts.get? s.transaction⟩ :=
    (m.steps L).told _ (List.mem_map_of_mem hs)
  cases hdestination : s.request.destination? with
  | none =>
    rw [htold.messages_eq_nil hdestination]
    rfl
  | some destination =>
    rw [Option.isSome_some, if_pos rfl, messagesOf, Record.messages, Record.dispatches]
    cases (m.on L).receipts.get? s.transaction <;> rfl

/-- Moves lead from one state of the ledger to another, and announce what was announced in between. -/
def Leads (L L' : Ledger) : Prop :=
  ∃ moves, L' = L.moved moves ∧ L.announcedSince L' = (L.journal moves).flatMap Record.messages

theorem Leads.refl (L : Ledger) : Leads L L := ⟨[], rfl, announcedSince_of_submitted rfl⟩

theorem Leads.move (L : Ledger) (m : Move) : Leads L (m.on L) :=
  ⟨[m], rfl, by rw [L.announcedSince_on m, journal, journal, List.append_nil]⟩

/-- Moves lead from one state of the ledger to another, and send nothing. -/
def Silent (L M : Ledger) : Prop :=
  ∃ moves, M = L.moved moves ∧ ∀ r ∈ L.journal moves, r.submission.request.destination? = none

theorem Silent.refl (L : Ledger) : Silent L L := ⟨[], rfl, fun _ hr => absurd hr List.not_mem_nil⟩

/-- A call that asks for an approval sends nothing. -/
theorem silent_approve (L : Ledger) (h : TokenHandle) (spender : Address) (amount : Quantity) :
    Silent L ((Call.approve h spender amount).on L).2 := by
  have hsteps := Move.steps (.calls (.approve h spender amount)) L
  refine ⟨[.calls (.approve h spender amount)], rfl, ?_⟩
  rw [journal, journal, List.append_nil]
  generalize Move.on L _ = L', L.records _ = R at hsteps
  intro r hr
  cases hsteps with
  | quiet => cases hr
  | approved =>
    rw [List.mem_singleton.1 hr]
    rfl
  | launched _ _ _ hrecipient => cases hrecipient

/-- What is announced does not change if moves come before that send nothing. -/
theorem Silent.announcedSince_eq {L M L' : Ledger} (h : Silent L M) {S : List Submission}
    (hL' : L'.submitted = M.submitted ++ S) : L.announcedSince L' = M.announcedSince L' := by
  obtain ⟨moves, rfl, hnone⟩ := h
  rw [announcedSince, announcedSince, hL', List.drop_left, submitted_moved, List.append_assoc, List.drop_left,
    List.flatMap_append, List.flatMap_map, List.flatMap_eq_nil_iff.2 fun r hr => ?_, List.nil_append]
  rw [hnone r hr]
  rfl

theorem Silent.leads {L M L' : Ledger} (h : Silent L M) (h' : Leads M L') : Leads L L' := by
  obtain ⟨moves, rfl, hannounced⟩ := h'
  have hsame := h.announcedSince_eq (M.submitted_moved moves)
  obtain ⟨before, rfl, hnone⟩ := h
  refine ⟨before ++ moves, (L.moved_append before moves).symm, ?_⟩
  have hbefore : (L.journal before).flatMap Record.messages = [] :=
    List.flatMap_eq_nil_iff.2 fun r hr => (L.told_journal before r hr).messages_eq_nil (hnone r hr)
  rw [hsame, hannounced, journal_append, List.flatMap_append, hbefore, List.nil_append]

/-! ### Announcements of sending -/

/-- One message is announced between two states of the ledger, by the transaction with the given hash, and it goes to
another domain. -/
structure Announces (L L' : Ledger) (transaction : Word) (message : Message) : Prop where
  /-- Nothing else is announced. -/
  announced : L.announcedSince L' = [message]
  /-- Nothing else is in the receipt. -/
  receipt : ∃ home receipt, L'.receipts.get? transaction = some receipt ∧ receipt.logs = [logOf home message]
  /-- It goes to another domain. -/
  foreign : message.origin ≠ message.destination

/-- Mining a transaction that sends something announces the message in its log. -/
theorem mined_announces {L posted : Ledger} (hposted : posted.submitted = L.submitted) (domain : DomainId)
    (sender : Address) {request : Request} (hsends : request.destination?.isSome) (home : Home) {message : Message}
    (hforeign : message.origin ≠ message.destination) :
    Announces L (posted.mined domain sender request [logOf home message]) (posted.nextHash domain) message := by
  have hreceipt := receipt_eq_ok_iff.1 (posted.receipt_mined domain sender request [logOf home message])
  have hsubmitted : (posted.mined domain sender request [logOf home message]).submitted =
      L.submitted ++ [⟨domain, posted.nextHash domain, sender, request⟩] := congrArg (· ++ _) hposted
  refine ⟨(announcedSince_singleton hsubmitted hsends).trans ?_, ⟨home, _, hreceipt, rfl⟩, hforeign⟩
  exact (messagesOf_of_get? hreceipt).trans (messages_logOf ..)

theorem launch_announces {L taken L' : Ledger} {domain destination : DomainId} {sender : Address}
    {action : TransferAction} {request : Request} {transaction : Word} (htaken : taken.submitted = L.submitted)
    (hne : destination ≠ domain) (hrequest : request.destination? = some destination)
    (h : taken.launch domain sender destination action request = (.ok transaction, L')) :
    ∃ message, Announces L L' transaction message := by
  rcases taken.launch_cases domain sender destination action request with
    ⟨e, heq⟩ | ⟨router, remote, home, -, -, -, heq⟩
  · cases heq.symm.trans h
  · cases heq.symm.trans h
    have hposted : (taken.announced domain home destination).submitted = L.submitted := htaken
    exact ⟨messageOf domain router home destination remote action,
      mined_announces hposted domain sender (Option.isSome_of_eq_some hrequest) home hne.symm⟩

theorem send_announces {L L' : Ledger} {domain destination : DomainId} {sender token : Address}
    {amount : Quantity} {recipient transaction : Word}
    (h : L.send domain sender token amount destination recipient = (.ok transaction, L')) :
    ∃ message, Announces L L' transaction message := by
  cases hcheck : L.checkSend domain sender token amount destination with
  | error e => cases (send_of_refused hcheck recipient).symm.trans h
  | ok checked =>
    obtain ⟨-, ⟨hne, -⟩, -⟩ := checkSend_eq_ok_iff.1 hcheck
    rw [send_of_checked hcheck] at h
    exact launch_announces (L.quiet_updateToken domain token _).submitted hne rfl h

theorem sendNative_announces {L L' : Ledger} {domain destination : DomainId} {sender : Address}
    {value : Quantity} {recipient transaction : Word}
    (h : L.sendNative domain sender destination recipient value = (.ok transaction, L')) :
    ∃ message, Announces L L' transaction message := by
  rw [sendNative] at h
  split at h
  · cases h
  · next token hcheck =>
    obtain ⟨_, -, hcheck⟩ := Outcome.bind_eq_ok.1 hcheck
    obtain ⟨_, hremote, -⟩ := Outcome.bind_eq_ok.1 hcheck
    have hne := (checkRemote_eq_ok_iff.1 hremote).1
    exact launch_announces (L.quiet_takeNative domain sender value).submitted hne rfl h

/-- What is announced by what is submitted does not depend on who signs. -/
theorem submit_announces {L L' : Ledger} {h : Handle} {transact : Address → Except ChainError Word × Ledger}
    {transaction : Word}
    (htransact : ∀ sender, transact sender = (.ok transaction, L') →
      ∃ message, Announces L L' transaction message)
    (hsubmit : h.submit L transact = (.ok transaction, L')) : ∃ message, Announces L L' transaction message := by
  cases hs : h.sender with
  | error e =>
    rw [Handle.submit, hs] at hsubmit
    cases hsubmit
  | ok sender =>
    rw [Handle.submit_of_sender hs] at hsubmit
    exact htransact sender hsubmit

end Ledger

namespace Client

/-! ### Announcements of a client -/

variable {c : Client} {origin : DomainId} {operation : Operation} {n n' : Network} {t : Transfer}
  {f : Ledger → Except ChainError Word × Ledger}

theorem ledger_confirm (c : Client) (domain : DomainId) (operation : Operation) (transaction : Word) (n : Network) :
    ((c.confirm domain operation transaction).on n).2.ledger = n.ledger := by
  rw [confirm]
  split
  · rfl
  · split <;> rfl

/-- What the end of a sending does to the ledger is what submitting does. -/
theorem ledger_conclude (c : Client) (origin : DomainId) (operation : Operation)
    (f : Ledger → Except ChainError Word × Ledger) (n : Network) :
    ((c.conclude origin operation f).on n).2.ledger = (f n.ledger).2 := by
  rw [conclude, Action.on_bind, Action.on_submit]
  cases (f n.ledger).1 with
  | error e => rfl
  | ok transaction =>
    dsimp only [Outcome.mapError_ok]
    have hledger := c.ledger_confirm origin operation transaction { n with ledger := (f n.ledger).2 }
    rw [Action.on_bind]
    revert hledger
    rcases (c.confirm origin operation transaction).on _ with ⟨_ | _, m⟩ <;> exact fun hledger => hledger

/-- A transfer that is given back was submitted, and confirmed by a receipt off which it was read. -/
theorem conclude_eq_ok (h : (c.conclude origin operation f).on n = (.ok t, n')) :
    ∃ transaction provider receipt, f n.ledger = (.ok transaction, n'.ledger) ∧
      c.Confirms (answer provider n' transaction) receipt ∧ c.transferOf origin receipt = .ok t := by
  have hledger := c.ledger_conclude origin operation f n
  rw [h] at hledger
  rw [conclude, Action.on_bind, Action.on_submit] at h
  cases hresult : (f n.ledger).1 with
  | error e =>
    rw [hresult] at h
    cases h
  | ok transaction =>
    rw [hresult] at h
    dsimp only [Outcome.mapError_ok] at h
    cases hprovider : c.registry.provider? origin with
    | none =>
      rw [Action.on_bind, confirm, hprovider] at h
      cases h
    | some provider =>
      cases hd : c.config.domain? origin with
      | none =>
        rw [Action.on_bind, confirm, hprovider, hd] at h
        cases h
      | some d =>
        rw [Action.on_bind, confirm_on hprovider hd] at h
        cases hsettle : settle origin operation transaction c.config.receiptTimeout (answer provider (waited
            { n with ledger := (f n.ledger).2 } provider transaction d.confirmations) transaction) with
        | error e =>
          rw [hsettle] at h
          cases h
        | ok receipt =>
          rw [hsettle] at h
          obtain ⟨hread, rfl⟩ := Prod.mk.inj h
          exact ⟨transaction, provider, receipt, Prod.ext hresult rfl, settle_eq_ok_iff.1 hsettle, hread⟩

/-- One message is announced between two networks, that of a transfer, and it goes to another domain. -/
structure Sends (n n' : Network) (t : Transfer) : Prop where
  /-- The message is announced, and no other. -/
  announced : n.ledger.announcedSince n'.ledger = [t.message]
  /-- The leaf of the transfer is that of the message. -/
  leaf : t.leaf = Message.leaf t.message.encode
  /-- It goes to another domain. -/
  foreign : t.origin ≠ t.destination

/-- A transfer that is given back is the one that was announced. -/
theorem sends_of_conclude
    (hf : ∀ {L transaction L'}, f L = (.ok transaction, L') → ∃ message, L.Announces L' transaction message)
    (h : (c.conclude origin operation f).on n = (.ok t, n')) : Sends n n' t := by
  obtain ⟨transaction, provider, receipt, hsubmit, hconfirms, hread⟩ := conclude_eq_ok h
  obtain ⟨message, hannounced, ⟨home, known, hknown, hlogs⟩, hforeign⟩ := hf hsubmit
  rw [answer, Ledger.receipt_eq_ok_iff.2 hknown] at hconfirms
  obtain ⟨core, -, hread⟩ := Outcome.bind_eq_ok.1 hread
  obtain ⟨rfl, hleaf⟩ := Transfer.message_of_ofReceipt hlogs hconfirms.receipt.2 hread
  exact ⟨hannounced, hleaf, hforeign⟩

theorem sends_of_transfer {p : Plan} {request : TransferRequest}
    (h : (c.transfer p request).on n = (.ok t, n')) : Sends n n' t :=
  sends_of_conclude (fun hsend => Ledger.submit_announces (fun _ => Ledger.send_announces) hsend) h

/-- Seeing to the allowance sends nothing: it leaves the ledger as it is, or calls for an approval. -/
theorem silent_ensureAllowance (c : Client) (p : Plan) (amount : Quantity) (n : Network) :
    Ledger.Silent n.ledger ((c.ensureAllowance p amount).on n).2.ledger := by
  cases hread : p.representation.allowance n.ledger p.owner p.router.address with
  | error e =>
    rw [ensureAllowance_on_of_unread hread]
    exact .refl n.ledger
  | ok allowed =>
    by_cases hless : allowed < amount
    · have happrove : Ledger.Silent n.ledger (p.representation.approve n.ledger p.router.address amount).2 :=
        n.ledger.silent_approve p.representation p.router.address amount
      rw [ensureAllowance, Action.on_bind, Action.on_read, hread]
      dsimp only [Outcome.mapError_ok]
      rw [if_pos hless, Action.on_bind, Action.on_submit]
      rcases hsubmit : p.representation.approve n.ledger p.router.address amount with ⟨e | approval, L⟩
      · rw [hsubmit] at happrove
        exact happrove
      · rw [hsubmit] at happrove
        have hledger := c.ledger_confirm p.origin .approve approval { n with ledger := L }
        dsimp only [Outcome.mapError_ok]
        rw [Action.on_bind]
        rcases hconfirm : (c.confirm p.origin .approve approval).on { n with ledger := L } with ⟨_ | _, m⟩
        · rw [hconfirm] at hledger
          exact hledger ▸ happrove
        · rw [hconfirm] at hledger
          exact hledger ▸ happrove
    · rw [ensureAllowance_on_of_enough hread hless]
      exact .refl n.ledger

theorem ledger_transfer (c : Client) (p : Plan) (request : TransferRequest) (n : Network) :
    ((c.transfer p request).on n).2.ledger =
      (Ledger.Move.calls (.send p.router p.representation.address request.amount p.destination
        request.recipient.widen)).on n.ledger :=
  c.ledger_conclude p.origin .send _ n

/-- **Sending a token** makes an approval at most and then one call. -/
theorem leads_send (c : Client) (request : TransferRequest) (n : Network) :
    Ledger.Leads n.ledger ((c.send request).on n).2.ledger := by
  cases hplan : c.plan n.ledger request with
  | error e =>
    rw [send_on_of_unplanned hplan]
    exact .refl n.ledger
  | ok p =>
    have hsilent := c.silent_ensureAllowance p request.amount n
    rcases hallowance : (c.ensureAllowance p request.amount).on n with ⟨e | _, m⟩
    · rw [hallowance] at hsilent
      rw [send_on_of_unallowed hplan hallowance]
      exact hsilent.leads (.refl m.ledger)
    · rw [hallowance] at hsilent
      rw [send_on_of_allowed hplan hallowance, ledger_transfer]
      exact hsilent.leads (.move m.ledger _)

/-- A transfer that a client gives back is the one that it announced. -/
theorem sends_of_send {request : TransferRequest} (h : (c.send request).on n = (.ok t, n')) : Sends n n' t := by
  obtain ⟨p, m, -, hallowance, htransfer⟩ := send_eq_ok h
  have hsilent := c.silent_ensureAllowance p request.amount n
  have hledger := c.ledger_transfer p request m
  obtain ⟨hannounced, hleaf, hforeign⟩ := sends_of_transfer htransfer
  rw [hallowance] at hsilent
  rw [htransfer] at hledger
  refine ⟨?_, hleaf, hforeign⟩
  rw [hsilent.announcedSince_eq ((congrArg Ledger.submitted hledger).trans (Ledger.Move.steps _ _).submitted),
    hannounced]

/-- **Sending the native asset** is one call at most. -/
theorem leads_sendNative (c : Client) (request : NativeRequest) (n : Network) :
    Ledger.Leads n.ledger ((c.sendNative request).on n).2.ledger := by
  rcases hplan : c.planNative request with e | ⟨origin, destination, helper⟩
  · rw [sendNative_of_unplanned hplan]
    exact .refl n.ledger
  · rw [sendNative_of_planned hplan, ledger_conclude]
    exact .move n.ledger (.calls (.sendNative helper destination request.recipient.widen request.amount))

theorem sends_of_sendNative {request : NativeRequest} (h : (c.sendNative request).on n = (.ok t, n')) :
    Sends n n' t := by
  rcases hplan : c.planNative request with e | ⟨origin, destination, helper⟩
  · rw [sendNative_of_unplanned hplan] at h
    cases h
  · rw [sendNative_of_planned hplan] at h
    exact sends_of_conclude (fun hsend => Ledger.submit_announces (fun _ => Ledger.sendNative_announces) hsend) h

end Client

end TokenBridge
