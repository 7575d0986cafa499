import TokenBridge.Proofs.Sending.Stages
import TokenBridge.Proofs.Session.Reachable

/-!
# Approve before send

Whatever a provider does, a sending that is planned submits an approval at most, and then a transfer at most.
`Approves` says what holds of the first stage and `Transfers` of the second, both for every end that the stage
can have. The approval is only submitted where too little is allowed, and the transfer only where enough is
allowed or the approval was confirmed. For each transaction the provider is asked once to wait, in the same
order, also where a wait fails and the transaction stays behind.

`send_approves_first` puts the stages together for every reachable session.
-/

namespace TokenBridge.Client

/-- The call in which a provider is asked to wait for a submitted transaction. -/
def waitFor (provider : Provider) (confirmations : UInt64) (x : Submission) : Wait :=
  ⟨provider.serial, x.transaction, confirmations⟩

/-- What holds of the stage that sees to the allowance, from the network `n` to the network `m`. -/
structure Approves (c : Client) (p : Plan) (provider : Provider) (confirmations : UInt64)
    (amount : Quantity) (n : Network) (approval : Option Submission) (m : Network) : Prop where
  /-- The stage ends in the network `m`. -/
  ends : ((c.ensureAllowance p amount).on n).2 = m
  /-- At most the approval is submitted. -/
  submitted : m.ledger.submitted = n.ledger.submitted ++ approval.toList
  /-- The provider is asked to wait for just what was submitted. -/
  waits : m.waits = n.waits ++ approval.toList.map (waitFor provider confirmations)
  /-- The approval is on the origin, is signed by the owner, and lets the router take the amount. -/
  form : ∀ x ∈ approval, x = ⟨p.origin, x.transaction, p.owner,
    .approve p.representation.address p.router.address amount⟩
  /-- The approval is only submitted where less than the amount is allowed. -/
  needed : approval.isSome → ∃ allowed, n.ledger.allowance p.origin p.representation.address p.owner
    p.router.address = .ok allowed ∧ allowed < amount
  /-- Without an approval nothing changes. -/
  unchanged : approval = none → m = n
  /-- Nothing but the approval changes the ledger. -/
  mined : ∀ x ∈ approval, n.ledger.approve p.origin p.representation.address p.owner p.router.address
    amount = (.ok x.transaction, m.ledger)

/-- The amount may be taken: enough was allowed before, or the approval was confirmed. -/
structure Allows (c : Client) (p : Plan) (provider : Provider) (amount : Quantity) (n : Network)
    (approval : Option Submission) (m : Network) : Prop where
  /-- The stage lets the sending go on. -/
  passes : (c.ensureAllowance p amount).on n = (.ok (), m)
  /-- Without an approval, enough was allowed. -/
  enough : approval = none → ∃ allowed, n.ledger.allowance p.origin p.representation.address p.owner
    p.router.address = .ok allowed ∧ ¬ allowed < amount
  /-- An approval was confirmed. -/
  confirmed : ∀ x ∈ approval, ∃ receipt, c.Confirms (answer provider m x.transaction) receipt
  /-- An approval was not reverted. -/
  succeeds : approval.isSome → p.origin ∉ n.ledger.reverting

/-- What holds of the stage that sees to the transfer, from the network `m` to the network `n'`. -/
structure Transfers (c : Client) (p : Plan) (provider : Provider) (confirmations : UInt64)
    (request : TransferRequest) (m : Network) (transfer : Option Submission)
    (result : Except BridgeError Transfer) (n' : Network) : Prop where
  /-- Where a transfer is submitted, the stage was reached and its end is that of the sending. -/
  ends : transfer.isSome → (c.transfer p request).on m = (result, n')
  /-- At most the transfer is submitted. -/
  submitted : n'.ledger.submitted = m.ledger.submitted ++ transfer.toList
  /-- The provider is asked to wait for just what was submitted. -/
  waits : n'.waits = m.waits ++ transfer.toList.map (waitFor provider confirmations)
  /-- The transfer is on the origin, is signed by the owner, and sends the amount. -/
  form : ∀ x ∈ transfer, x = ⟨p.origin, x.transaction, p.owner,
    .send p.representation.address request.amount p.destination⟩
  /-- Nothing but the transfer changes the ledger. -/
  mined : ∀ x ∈ transfer, m.ledger.send p.origin p.owner p.representation.address request.amount
    p.destination request.recipient.widen = (.ok x.transaction, n'.ledger)
  /-- A transfer is given back exactly where it was submitted and confirmed, and can be read off its receipt. -/
  result : ∀ t, result = .ok t ↔ ∃ x receipt, transfer = some x ∧
    c.Confirms (answer provider n' x.transaction) receipt ∧ c.transferOf p.origin receipt = .ok t

section Stages

variable {c : Client} {p : Plan} {provider : Provider} {d : DomainConfig}

theorem Approves.none {amount : Quantity} {n : Network} {result : Except BridgeError Unit}
    (hon : (c.ensureAllowance p amount).on n = (result, n)) (provider : Provider) (confirmations : UInt64) :
    Approves c p provider confirmations amount n none n where
  ends := congrArg Prod.snd hon
  submitted := (List.append_nil _).symm
  waits := (List.append_nil _).symm
  form _ hx := absurd hx (Option.not_mem_none _)
  needed h := absurd h Bool.false_ne_true
  unchanged _ := rfl
  mined _ hx := absurd hx (Option.not_mem_none _)

/-- An approval that is mined is waited for once. -/
theorem Approves.some {n : Network} {allowed amount : Quantity} {confirmations : UInt64}
    {result : Except BridgeError Unit}
    (hallowed : n.ledger.allowance p.origin p.representation.address p.owner p.router.address = .ok allowed)
    (hless : allowed < amount)
    (hmined : n.ledger.approve p.origin p.representation.address p.owner p.router.address amount =
      (.ok (n.ledger.nextHash p.origin),
        n.ledger.approved p.origin p.representation.address p.owner p.router.address amount))
    (hon : (c.ensureAllowance p amount).on n = (result,
      waited { n with ledger :=
        n.ledger.approved p.origin p.representation.address p.owner p.router.address amount }
        provider (n.ledger.nextHash p.origin) confirmations)) :
    Approves c p provider confirmations amount n
      (some ⟨p.origin, n.ledger.nextHash p.origin, p.owner,
        .approve p.representation.address p.router.address amount⟩)
      (waited { n with ledger :=
        n.ledger.approved p.origin p.representation.address p.owner p.router.address amount }
        provider (n.ledger.nextHash p.origin) confirmations) where
  ends := congrArg Prod.snd hon
  submitted := rfl
  waits := rfl
  form x hx := by cases hx; rfl
  needed _ := ⟨allowed, hallowed, hless⟩
  unchanged h := (Option.some_ne_none _ h).elim
  mined x hx := by cases hx; exact hmined

/-- A stage that fails without submitting anything gives no transfer back. -/
theorem Transfers.none (c : Client) (p : Plan) (provider : Provider) (confirmations : UInt64)
    (request : TransferRequest) {m n' : Network} (hsubmitted : n'.ledger.submitted = m.ledger.submitted)
    (hwaits : n'.waits = m.waits) (e : BridgeError) :
    Transfers c p provider confirmations request m none (.error e) n' where
  ends h := absurd h Bool.false_ne_true
  submitted := hsubmitted.trans (List.append_nil _).symm
  waits := hwaits.trans (List.append_nil _).symm
  form _ hx := absurd hx (Option.not_mem_none _)
  mined _ hx := absurd hx (Option.not_mem_none _)
  result t := by simp

/-- An approval that is confirmed was not reverted: the answer is about the receipt that it was mined with. -/
theorem not_reverting_of_confirms {n : Network} {amount : Quantity} {confirmations : UInt64} {receipt : Receipt}
    (h : c.Confirms (answer provider
      (waited { n with ledger :=
        n.ledger.approved p.origin p.representation.address p.owner p.router.address amount }
        provider (n.ledger.nextHash p.origin) confirmations)
      (n.ledger.nextHash p.origin)) receipt) :
    p.origin ∉ n.ledger.reverting := by
  have hmined := n.ledger.receipt_approved p.origin p.representation.address p.owner p.router.address amount
  rw [answer] at h
  simp only [waited] at h
  rw [hmined] at h
  exact of_decide_eq_true h.receipt.1

/-- **The first stage**: an approval is submitted where it is needed, and sending goes on only where the
amount may be taken. -/
theorem ensureAllowance_approves (hp : p.Bound) (hprovider : c.registry.provider? p.origin = some provider)
    (hd : c.config.domain? p.origin = some d) (amount : Quantity) (n : Network) :
    ∃ approval m, Approves c p provider d.confirmations amount n approval m ∧
      ((∃ e, (c.ensureAllowance p amount).on n = (.error e, m)) ∨
        Allows c p provider amount n approval m) := by
  have hread : p.representation.allowance n.ledger p.owner p.router.address =
      n.ledger.allowance p.origin p.representation.address p.owner p.router.address := by
    rw [TokenHandle.allowance_of_sender hp.representation_sender, hp.representation_domain]
  cases hallowed : n.ledger.allowance p.origin p.representation.address p.owner p.router.address with
  | error e =>
    have hon : (c.ensureAllowance p amount).on n = _ := ensureAllowance_on_of_unread (hread.trans hallowed)
    exact ⟨none, n, .none hon .., .inl ⟨_, hon⟩⟩
  | ok allowed =>
    by_cases hless : allowed < amount
    · have happrove : p.representation.approve n.ledger p.router.address amount = n.ledger.approve p.origin
          p.representation.address p.owner p.router.address amount := by
        rw [TokenHandle.approve_of_sender hp.representation_sender, hp.representation_domain]
      rcases n.ledger.approve_cases p.origin p.representation.address p.owner p.router.address amount with
        ⟨e, heq⟩ | heq
      · have hon : (c.ensureAllowance p amount).on n = _ :=
          ensureAllowance_on_of_refused (hread.trans hallowed) hless (happrove.trans heq)
        exact ⟨none, n, .none hon .., .inl ⟨_, hon⟩⟩
      · -- The approval is mined whatever becomes of the wait, so the network is the same in both cases.
        have hon := ensureAllowance_on_of_approved hprovider hd (hread.trans hallowed) hless
          (happrove.trans heq)
        refine ⟨_, _, .some hallowed hless heq hon, ?_⟩
        cases hsettle : settle p.origin .approve (n.ledger.nextHash p.origin) c.config.receiptTimeout _ with
        | error e =>
          rw [hsettle] at hon
          exact .inl ⟨e, hon⟩
        | ok receipt =>
          rw [hsettle] at hon
          have hconfirms := settle_eq_ok_iff.1 hsettle
          refine .inr ⟨hon, fun h => (Option.some_ne_none _ h).elim, fun x hx => ?_, fun _ => ?_⟩
          · cases hx
            exact ⟨receipt, hconfirms⟩
          · exact not_reverting_of_confirms hconfirms
    · have hon : (c.ensureAllowance p amount).on n = _ :=
        ensureAllowance_on_of_enough (hread.trans hallowed) hless
      refine ⟨none, n, .none hon .., .inr ⟨hon, fun _ => ⟨allowed, hallowed, hless⟩, ?_, ?_⟩⟩
      · exact fun _ hx => absurd hx (Option.not_mem_none _)
      · exact fun h => absurd h Bool.false_ne_true

/-- **The second stage**: a transfer is submitted at most, and it is given back if it is confirmed. -/
theorem transfer_transfers (hp : p.Bound) (hprovider : c.registry.provider? p.origin = some provider)
    (hd : c.config.domain? p.origin = some d) (request : TransferRequest) (m : Network) :
    ∃ transfer, Transfers c p provider d.confirmations request m transfer
      ((c.transfer p request).on m).1 ((c.transfer p request).on m).2 := by
  have hsend : p.router.send m.ledger p.representation.address request.amount p.destination
      request.recipient.widen = m.ledger.send p.origin p.owner p.representation.address request.amount
        p.destination request.recipient.widen := by
    rw [RouterHandle.send_of_sender hp.router_sender, hp.router_domain]
  rcases m.ledger.send_cases p.origin p.owner p.representation.address request.amount p.destination
    request.recipient.widen with
    ⟨e, heq⟩ | ⟨address, taken, htaken, ⟨e, heq⟩ | ⟨canonical, router, remote, home, -, -, -, heq⟩⟩
  · rw [transfer_on_of_refused (hsend.trans heq)]
    exact ⟨none, .none _ _ _ _ _ rfl rfl _⟩
  · subst htaken
    rw [transfer_on_of_refused (hsend.trans heq)]
    refine ⟨none, .none c p provider d.confirmations request ?_ ?_ _⟩
    · rfl
    · rfl
  · subst htaken
    have hon := transfer_on_of_sent hprovider hd (hsend.trans heq)
    refine ⟨some ⟨p.origin, m.ledger.nextHash p.origin, p.owner,
      .send p.representation.address request.amount p.destination⟩, fun _ => rfl, ?_, ?_, fun x hx => ?_,
      fun x hx => ?_, fun t => ?_⟩
    · rw [hon]
      rfl
    · rw [hon]
      rfl
    · cases hx
      rfl
    · cases hx
      rw [hon]
      exact heq
    · rw [hon, Outcome.bind_eq_ok]
      constructor
      · rintro ⟨receipt, hsettle, ht⟩
        exact ⟨_, receipt, rfl, settle_eq_ok_iff.1 hsettle, ht⟩
      · rintro ⟨x, receipt, hx, hconfirms, ht⟩
        cases hx
        exact ⟨receipt, settle_eq_ok_iff.2 hconfirms, ht⟩

end Stages

/-- **Approve before send**: a sending does nothing at all, or it is planned, and then its plan is on the
origin with the router handle of the origin and the account that signs for it. It submits an approval at most
and then a transfer at most, and asks the provider of the origin to wait for each of them once, in this order
and with the confirmations of the origin. The approval is submitted only where less than the amount was
allowed; the transfer only where enough was allowed or the approval was confirmed, and then on the network that
the approval left. A transfer is given back exactly where it was submitted and confirmed, and can be read off
its receipt. -/
theorem send_approves_first {L : Ledger} {steps : List Step} {c : Client} {request : TransferRequest}
    {origin : DomainId} {provider : Provider} {result : Except BridgeError Transfer} {n' : Network}
    (hclient : (Session.after L steps).client? = some c) (horigin : c.resolve request.origin = .ok origin)
    (hprovider : c.registry.provider? origin = some provider)
    (hsend : (c.send request).on (Session.after L steps).network = (result, n')) :
    (∃ e, c.plan (Session.after L steps).ledger request = .error e ∧ result = .error e ∧
        n' = (Session.after L steps).network) ∨
      ∃ p bridge d approval m transfer,
        c.plan (Session.after L steps).ledger request = .ok p ∧ p.origin = origin ∧
        c.directory.bridges.get? origin = some bridge ∧ p.router = bridge.router ∧
        bridge.signerAddress? = some p.owner ∧ c.config.domain? origin = some d ∧
        n'.ledger.submitted =
          (Session.after L steps).ledger.submitted ++ (approval.toList ++ transfer.toList) ∧
        n'.waits = (Session.after L steps).network.waits ++
          (approval.toList ++ transfer.toList).map (waitFor provider d.confirmations) ∧
        Approves c p provider d.confirmations request.amount (Session.after L steps).network approval m ∧
        (transfer.isSome →
          Allows c p provider request.amount (Session.after L steps).network approval m) ∧
        Transfers c p provider d.confirmations request m transfer result n' := by
  have hsound := Session.sound_after hclient
  cases hplan : c.plan (Session.after L steps).ledger request with
  | error e =>
    cases (send_on_of_unplanned hplan).symm.trans hsend
    exact .inl ⟨e, rfl, rfl, rfl⟩
  | ok p =>
    obtain ⟨hporigin, -, -, -, bridge, hbridge, howner, hrouter, -⟩ := plan_eq_ok_iff.1 hplan
    have heq : p.origin = origin := by simpa using hporigin.symm.trans horigin
    subst heq
    obtain ⟨d, -, -, hd, -⟩ := hsound.bridge_eq_some hbridge
    have hp := hsound.bound_of_plan hplan
    obtain ⟨approval, m, happroves, ⟨e, hon⟩ | hallows⟩ :=
      ensureAllowance_approves hp hprovider hd request.amount (Session.after L steps).network
    · -- The first stage failed, so there is no second one.
      cases (send_on_of_unallowed hplan hon).symm.trans hsend
      refine .inr ⟨p, bridge, d, approval, n', none, rfl, rfl, hbridge, hrouter, howner, hd, ?_, ?_,
        happroves, fun h => absurd h Bool.false_ne_true, .none _ _ _ _ _ rfl rfl e⟩
      · rw [happroves.submitted, Option.toList_none, List.append_nil]
        rfl
      · rw [happroves.waits, Option.toList_none, List.append_nil]
    · obtain ⟨transfer, htransfers⟩ := transfer_transfers hp hprovider hd request m
      rw [← send_on_of_allowed hplan hallows.passes, hsend] at htransfers
      refine .inr ⟨p, bridge, d, approval, m, transfer, rfl, rfl, hbridge, hrouter, howner, hd, ?_, ?_,
        happroves, fun _ => hallows, htransfers⟩
      · rw [htransfers.submitted, happroves.submitted, List.append_assoc]
        rfl
      · rw [htransfers.waits, happroves.waits, List.map_append, List.append_assoc]

/-- A provider that answers once and then never again: the approval is confirmed, the transfer is submitted and
waited for, and no transfer is given back. -/
theorem send_approves_first_stalling :
    let run := ((Session.testingClient .stalls 1).send Session.testingRequest).on
      (Session.testing .stalls 1).network
    (∀ t, run.1 ≠ .ok t) ∧ ∃ approval transfer provider confirmations,
      run.2.ledger.submitted = [approval, transfer] ∧
        run.2.waits = [waitFor provider confirmations approval, waitFor provider confirmations transfer] := by
  have horigin : (Session.testingClient .stalls 1).resolve Session.testingRequest.origin = .ok 1 := by
    decide +kernel
  have hprovider : (Session.testingClient .stalls 1).registry.provider? 1 =
      some ⟨0, "http://alpha", .stalls, 1⟩ := by decide +kernel
  have hbefore : (Session.testing .stalls 1).ledger.submitted = [] ∧
      (Session.testing .stalls 1).network.waits = [] := by decide +kernel
  have hsubmits : (((Session.testingClient .stalls 1).send Session.testingRequest).on
      (Session.testing .stalls 1).network).2.ledger.submitted.length = 2 := by decide +kernel
  have hfails : (((Session.testingClient .stalls 1).send Session.testingRequest).on
      (Session.testing .stalls 1).network).1.toOption = none := by decide +kernel
  refine ⟨fun t ht => Option.some_ne_none t (by rw [← hfails, ht]; rfl), ?_⟩
  rw [Session.testing] at hbefore hsubmits ⊢
  rcases send_approves_first (Session.client?_testing .stalls 1) horigin hprovider (Prod.eta _).symm with
    ⟨e, -, -, hn⟩ | ⟨_, _, d, approval, m, transfer, -, -, -, -, -, -, hsubmitted, hwaits, -⟩
  · rw [hn] at hsubmits
    exact absurd (hbefore.1 ▸ hsubmits : ([] : List Submission).length = 2) (by decide)
  · rw [hbefore.1, List.nil_append] at hsubmitted
    rw [hbefore.2, List.nil_append] at hwaits
    rw [hsubmitted] at hsubmits
    rcases approval with _ | x
    · cases transfer <;> cases hsubmits
    · rcases transfer with _ | y
      · cases hsubmits
      · exact ⟨x, y, _, d.confirmations, hsubmitted, hwaits⟩

end TokenBridge.Client
