import TokenBridge.Proofs.Ledger.NativeEffect
import TokenBridge.Proofs.Sending.Precondition
import TokenBridge.Proofs.Sending.Total

/-!
# When native value is sent

Over plain providers, a sending of the native asset gives a transfer back exactly where the conditions of
`NativeSendable` hold, and then the transfer is the requested one and the ledger is changed by just that transfer
(`sendNative_ok_iff`).

Once it is planned, such a sending is one call of the helper. Either the ledger refuses the call at its checks, and
nothing has happened, or the transaction is mined, and what comes of it is up to the provider and to whether
transactions succeed there (`NativeCourse`, `NativeEnd`). A call that passes the checks is always mined: the origin has
bridge contracts, hence is configured with them, and the ledger of the same configuration has a router and a home
there (`Sound.nativeCourse`). Both directions of the theorem, and what a failed sending leaves, are read off the
course.
-/

namespace TokenBridge.Client

/-- What has to hold of a client and a ledger so that a request for the native asset is fulfilled. The names say what
the request comes to: its two ends, the account that signs, and the token that stands for the native asset. -/
structure NativeSendable (c : Client) (L : Ledger) (request : NativeRequest) (origin destination : DomainId)
    (owner wrapped : Address) : Prop where
  /-- The domain to send from is registered. -/
  origin_registered : c.resolve request.origin = .ok origin
  /-- The domain to send to is registered. -/
  destination_registered : c.resolve request.destination = .ok destination
  /-- The amount is not zero. -/
  amount_ne_zero : request.amount ≠ .zero
  /-- The origin has bridge contracts with a helper, and they are bound to a signer. -/
  helped : ∃ bridge helper, c.directory.bridges.get? origin = some bridge ∧ bridge.nativeHelper = some helper ∧
    bridge.signerAddress? = some owner
  /-- The registry has a provider for the origin. -/
  connected : ∃ provider, c.registry.provider? origin = some provider
  /-- The origin does not fail. -/
  reachable : origin ∉ L.failing
  /-- Transactions on the origin succeed. -/
  succeeds : origin ∉ L.reverting
  /-- The ends are two domains. -/
  distinct : origin ≠ destination
  /-- The destination is configured with bridge contracts. -/
  remote : ∃ d, c.config.domain? destination = some d ∧ d.bridge.isSome
  /-- A token stands for the native asset of the origin. -/
  native : L.nativeTokens.get? origin = some wrapped
  /-- The account owns the amount. -/
  funds : ¬ L.nativeBalance origin owner < request.amount

/-- A transfer is the one that was asked for, and is on record. -/
structure NativeTransfer (L L' : Ledger) (request : NativeRequest) (origin destination : DomainId) (wrapped : Address)
    (t : Transfer) : Prop where
  /-- The transfer comes from the origin. -/
  origin_eq : t.origin = origin
  /-- It goes to the destination. -/
  destination_eq : t.destination = destination
  /-- It moves the requested amount. -/
  amount_eq : t.amount = request.amount
  /-- It moves it to the recipient. -/
  beneficiary_eq : t.action.beneficiary = request.recipient.widen
  /-- It moves the token that stands for the native asset of the origin. -/
  token_eq : t.token = .ofAddress origin wrapped
  /-- Its nonce is the next one that the home of the origin had for the destination. -/
  nonce_eq : t.nonce = L.nextNonce origin destination
  /-- Its receipt is the one that the ledger has of its transaction. -/
  recorded : L'.receipt t.transaction = .ok t.receipt

/-- What a fulfilled request gives back, and what becomes of the ledger. -/
structure NativeFulfilled (L L' : Ledger) (request : NativeRequest) (origin destination : DomainId)
    (owner wrapped : Address) (t : Transfer) : Prop
    extends NativeTransfer L L' request origin destination wrapped t where
  /-- The ledger is changed by just the transfer. -/
  effect : L.SentNative L' origin owner request.amount destination

/-- What comes of a transfer of native value that is mined, over plain providers. -/
inductive NativeEnd (c : Client) (L : Ledger) (origin : DomainId) (t : Transfer) :
    Except BridgeError Transfer → Prop where
  /-- There is no provider to confirm it. -/
  | disconnected (hprovider : c.registry.provider? origin = none) :
      NativeEnd c L origin t (.error (.notConnected origin))
  /-- Its receipt tells of a failure. -/
  | reverted (hreverting : origin ∈ L.reverting) :
      NativeEnd c L origin t (.error (.chain origin .sendNative (.reverted t.transaction)))
  /-- It is confirmed. -/
  | confirmed (hprovider : ∃ provider, c.registry.provider? origin = some provider)
      (hsucceeds : origin ∉ L.reverting) : NativeEnd c L origin t (.ok t)

/-- What comes of a sending of native value that is planned, over plain providers. -/
inductive NativeCourse (c : Client) (n : Network) (request : NativeRequest) (origin destination : DomainId)
    (owner : Address) : Except BridgeError Transfer × Network → Prop where
  /-- The ledger refuses it, and nothing has happened. -/
  | refused {e : ChainError} (hcheck : n.ledger.checkSendNative origin owner destination request.amount = .error e) :
      NativeCourse c n request origin destination owner (.error (.chain origin .sendNative e), n)
  /-- The value is taken, announced and mined. -/
  | mined {wrapped : Address} {home : Home} {log : Log} {t : Transfer} {n' : Network}
      {result : Except BridgeError Transfer}
      (hcheck : n.ledger.checkSendNative origin owner destination request.amount = .ok wrapped)
      (hhome : n.ledger.homes.get? origin = some home)
      (hledger : n'.ledger = n.ledger.sentNative origin owner request.amount destination home log)
      (htransfer : NativeTransfer n.ledger n'.ledger request origin destination wrapped t)
      (hend : NativeEnd c n.ledger origin t result) :
      NativeCourse c n request origin destination owner (result, n')

variable {c : Client} {n : Network} {request : NativeRequest} {origin destination : DomainId}
  {owner wrapped : Address}

/-- What the home of the origin launches for native value is the requested transfer. -/
theorem nativeTransfer_launched {L : Ledger} {home : Home} (hhome : L.homes.get? origin = some home)
    (request : NativeRequest) (destination : DomainId) (owner wrapped : Address) (router remote : Router) :
    let action : TransferAction := ⟨.ofAddress origin wrapped, request.recipient.widen, request.amount⟩
    let message := Ledger.messageOf origin router home destination remote action
    NativeTransfer L (L.sentNative origin owner request.amount destination home (Ledger.logOf home message)) request
      origin destination wrapped (L.launched origin home message action) where
  origin_eq := rfl
  destination_eq := rfl
  amount_eq := rfl
  beneficiary_eq := rfl
  token_eq := rfl
  nonce_eq := (Ledger.nextNonce_of_home hhome destination).symm
  recorded := Ledger.receipt_mined ..

/-- Where the counters have room, nothing but the transfer changes the ledger. -/
theorem NativeTransfer.fulfilled {L L' : Ledger} {t : Transfer}
    (h : NativeTransfer L L' request origin destination wrapped t) (hL : L.Coherent c.config) {home : Home} {log : Log}
    (hhome : L.homes.get? origin = some home)
    (hledger : L' = L.sentNative origin owner request.amount destination home log)
    (hfunds : ¬ L.nativeBalance origin owner < request.amount)
    (hnonce : (L.nextNonce origin destination).toNat < 2 ^ 32 - 1) (hcount : L.submitted.length < 2 ^ 64 - 1) :
    NativeFulfilled L L' request origin destination owner wrapped t where
  toNativeTransfer := h
  effect := by
    rw [hledger]
    exact Ledger.sentNative_effect hL hhome hfunds hnonce hcount log

/-- A plain provider answers with the receipt, and the transfer is read off it if it tells of a success. -/
theorem nativeEnd_of_recorded {provider : Provider} (hprovider : c.registry.provider? origin = some provider)
    (hplain : provider.conduct = .plain) {L : Ledger} {t : Transfer}
    (hrecorded : n.ledger.receipt t.transaction = .ok t.receipt)
    (hsucceeded : t.receipt.succeeded = decide (origin ∉ L.reverting))
    (hread : c.transferOf origin t.receipt = .ok t) :
    NativeEnd c L origin t (settle origin .sendNative t.transaction c.config.receiptTimeout
      (answer provider n t.transaction) >>= c.transferOf origin) := by
  rw [answer_of_plain hplain, hrecorded, settle_plain, hsucceeded]
  by_cases hreverting : origin ∈ L.reverting
  · rw [if_neg (by simpa using hreverting)]
    exact .reverted hreverting
  · rw [if_pos (decide_eq_true hreverting), Outcome.ok_bind, hread]
    exact .confirmed ⟨provider, hprovider⟩ hreverting

/-- Where the conditions hold, the helper finds everything in order. -/
theorem NativeSendable.checkSendNative {L : Ledger} (hL : L.Coherent c.config)
    (hs : c.NativeSendable L request origin destination owner wrapped) :
    L.checkSendNative origin owner destination request.amount = .ok wrapped :=
  Ledger.checkSendNative_eq_ok_iff.2
    ⟨hs.reachable, ⟨hs.distinct.symm, (hL.contains_routers_iff destination).2 hs.remote⟩, hs.native, hs.funds⟩

section Plain

variable (hc : c.Sound) (hn : n.ledger.Coherent c.config)
  (hplain : ∀ domain provider, c.registry.provider? domain = some provider → provider.conduct = .plain)

include hc hn hplain

/-- **The course of a planned sending** over plain providers, on a coherent ledger. -/
theorem Sound.nativeCourse {bridge : Bridge} {helper : HelperHandle}
    (hplan : c.planNative request = .ok (origin, destination, helper))
    (hbridge : c.directory.bridges.get? origin = some bridge) (hhelper : bridge.nativeHelper = some helper)
    (howner : bridge.signerAddress? = some owner) :
    NativeCourse c n request origin destination owner ((c.sendNative request).on n) := by
  obtain ⟨d, b, hd, hb, hdomain, hsigns⟩ := hc.helper_of_bridge hbridge hhelper
  have hcall : helper.send n.ledger destination request.recipient.widen request.amount =
      n.ledger.sendNative origin owner destination request.recipient.widen request.amount := by
    rw [HelperHandle.send_of_sender (hsigns owner howner), hdomain]
  rw [sendNative_of_planned hplan]
  cases hcheck : n.ledger.checkSendNative origin owner destination request.amount with
  | error e =>
    have hrefused : n.ledger.sendNative origin owner destination request.recipient.widen request.amount =
        (.error e, n.ledger) := by
      rw [Ledger.sendNative, hcheck]
    rw [conclude_on_of_refused (hcall.trans hrefused)]
    exact .refused hcheck
  | ok wrapped =>
    -- What is checked is mined, for the bridge contracts of the origin are those of the configuration.
    obtain ⟨home, hhome, haddress⟩ := hn.home_of_config hd
    obtain ⟨router, hrouter, -⟩ := hn.router_of_config hd hb
    obtain ⟨remote, -, hsend⟩ := Ledger.sendNative_of_home hcheck hrouter hhome request.recipient.widen
    have htransfer := nativeTransfer_launched hhome request destination owner wrapped router remote
    cases hprovider : c.registry.provider? origin with
    | none =>
      rw [conclude_on_of_disconnected hprovider (hcall.trans hsend)]
      exact .mined hcheck hhome rfl htransfer (.disconnected hprovider)
    | some provider =>
      rw [conclude_on_of_mined hprovider hd (hcall.trans hsend)]
      refine .mined hcheck hhome rfl htransfer ?_
      refine nativeEnd_of_recorded hprovider (hplain _ _ hprovider) htransfer.recorded rfl ?_
      rw [hc.transferOf_eq hd, ← haddress]
      exact Transfer.ofReceipt_logOf home _ _ rfl _ _ _

/-- A sending is planned and takes its course, or it fails before anything happens. -/
theorem Sound.sendNative_cases (request : NativeRequest) :
    (∃ e, (c.sendNative request).on n = (.error e, n)) ∨
      ∃ origin destination owner, c.resolve request.origin = .ok origin ∧
        c.resolve request.destination = .ok destination ∧ request.amount ≠ .zero ∧
        (∃ bridge helper, c.directory.bridges.get? origin = some bridge ∧ bridge.nativeHelper = some helper ∧
          bridge.signerAddress? = some owner) ∧
        NativeCourse c n request origin destination owner ((c.sendNative request).on n) := by
  rcases hplan : c.planNative request with e | ⟨origin, destination, helper⟩
  · exact .inl ⟨e, by rw [sendNative_of_unplanned hplan]; rfl⟩
  · obtain ⟨horigin, hdestination, hamount, bridge, owner, hbridge, howner, hhelper⟩ :=
      planNative_eq_ok_iff.1 hplan
    exact .inr ⟨origin, destination, owner, horigin, hdestination, hamount,
      ⟨bridge, helper, hbridge, hhelper, howner⟩, hc.nativeCourse hn hplain hplan hbridge hhelper howner⟩

/-- **A request whose conditions hold** is confirmed. -/
theorem sendNative_of_sendable (hs : c.NativeSendable n.ledger request origin destination owner wrapped) :
    ∃ home log t n', n.ledger.homes.get? origin = some home ∧
      (c.sendNative request).on n = (.ok t, n') ∧
      n'.ledger = n.ledger.sentNative origin owner request.amount destination home log ∧
      NativeTransfer n.ledger n'.ledger request origin destination wrapped t := by
  obtain ⟨bridge, helper, hbridge, hhelper, howner⟩ := hs.helped
  have hplan : c.planNative request = .ok (origin, destination, helper) :=
    planNative_eq_ok_iff.2
      ⟨hs.origin_registered, hs.destination_registered, hs.amount_ne_zero, bridge, owner, hbridge, howner, hhelper⟩
  have hcourse := hc.nativeCourse hn hplain hplan hbridge hhelper howner
  generalize (c.sendNative request).on n = sent at hcourse ⊢
  cases hcourse with
  | refused hcheck => cases hcheck.symm.trans (hs.checkSendNative hn)
  | mined hcheck hhome hledger htransfer hend =>
    cases hcheck.symm.trans (hs.checkSendNative hn)
    cases hend with
    | disconnected hprovider =>
      obtain ⟨provider, hconnected⟩ := hs.connected
      cases hprovider.symm.trans hconnected
    | reverted hreverting => exact absurd hreverting hs.succeeds
    | confirmed => exact ⟨_, _, _, _, hhome, rfl, hledger, htransfer⟩

/-- **The conditions hold of a request that was confirmed.** -/
theorem nativeSendable_of_sendNative {t : Transfer} {n' : Network} (hsend : (c.sendNative request).on n = (.ok t, n')) :
    ∃ origin destination owner wrapped, c.NativeSendable n.ledger request origin destination owner wrapped := by
  rcases hc.sendNative_cases hn hplain request with
    ⟨e, hfailed⟩ | ⟨origin, destination, owner, horigin, hdestination, hamount, hhelped, hcourse⟩
  · cases hfailed.symm.trans hsend
  · rw [hsend] at hcourse
    cases hcourse with
    | mined hcheck _ _ _ hend =>
      obtain ⟨hreach, ⟨hdistinct, hremote⟩, hnative, hfunds⟩ := Ledger.checkSendNative_eq_ok_iff.1 hcheck
      cases hend with
      | confirmed hconnected hsucceeds =>
        exact ⟨origin, destination, owner, _,
          { origin_registered := horigin
            destination_registered := hdestination
            amount_ne_zero := hamount
            helped := hhelped
            connected := hconnected
            reachable := hreach
            succeeds := hsucceeds
            distinct := hdistinct.symm
            remote := (hn.contains_routers_iff destination).1 hremote
            native := hnative
            funds := hfunds }⟩

end Plain

/-- **When native value is sent**: in every reachable session over plain providers whose client and ledger were made
from one configuration, as long as the nonces for the destination and the transactions do not run out, a sending of
the native asset gives a transfer back exactly where the conditions hold. Then the transfer is the requested one, and
the ledger is changed by just that transfer. A sending that fails leaves the network as it is, unless the requested
transfer is mined and only its confirmation fails, for want of a provider or because transactions on the origin
fail. -/
theorem sendNative_ok_iff {cfg : Config} {steps : List Step}
    (hclient : (Session.after (.ofConfig cfg) steps).client? = some c) (hconfig : c.config = cfg)
    (hplain : ∀ domain provider, c.registry.provider? domain = some provider → provider.conduct = .plain)
    (hnonce : ∀ origin destination, c.resolve request.origin = .ok origin →
      c.resolve request.destination = .ok destination →
      ((Session.after (.ofConfig cfg) steps).ledger.nextNonce origin destination).toNat < 2 ^ 32 - 1)
    (hcount : (Session.after (.ofConfig cfg) steps).ledger.submitted.length < 2 ^ 64 - 1) :
    let n := (Session.after (.ofConfig cfg) steps).network
    ((∃ t n', (c.sendNative request).on n = (.ok t, n')) ↔
        ∃ origin destination owner wrapped, c.NativeSendable n.ledger request origin destination owner wrapped) ∧
      (∀ origin destination owner wrapped, c.NativeSendable n.ledger request origin destination owner wrapped →
        ∀ t n', (c.sendNative request).on n = (.ok t, n') →
          NativeFulfilled n.ledger n'.ledger request origin destination owner wrapped t) ∧
      ∀ e n', (c.sendNative request).on n = (.error e, n') →
        n' = n ∨ ∃ origin destination owner wrapped t,
          NativeFulfilled n.ledger n'.ledger request origin destination owner wrapped t ∧
            NativeEnd c n.ledger origin t (.error e) := by
  intro n
  have hc := Session.sound_after hclient
  have hvalid : cfg.validate = .ok () := hconfig ▸ hc.valid
  have hn : n.ledger.Coherent c.config := hconfig ▸ Session.coherent_after hvalid steps
  refine ⟨⟨?_, ?_⟩, ?_, ?_⟩
  · rintro ⟨t, n', hsend⟩
    exact nativeSendable_of_sendNative hc hn hplain hsend
  · rintro ⟨origin, destination, owner, wrapped, hs⟩
    obtain ⟨_, _, t, n', -, hsend, -⟩ := sendNative_of_sendable hc hn hplain hs
    exact ⟨t, n', hsend⟩
  · intro origin destination owner wrapped hs t n' hsend
    obtain ⟨home, log, t', m, hhome, hon, hledger, htransfer⟩ := sendNative_of_sendable hc hn hplain hs
    cases hsend.symm.trans hon
    exact htransfer.fulfilled hn hhome hledger hs.funds
      (hnonce origin destination hs.origin_registered hs.destination_registered) hcount
  · intro e n' hsend
    rcases hc.sendNative_cases hn hplain request with
      ⟨_, hfailed⟩ | ⟨origin, destination, owner, horigin, hdestination, -, -, hcourse⟩
    · cases hfailed.symm.trans hsend
      exact .inl rfl
    · rw [hsend] at hcourse
      cases hcourse with
      | refused => exact .inl rfl
      | mined hcheck hhome hledger htransfer hend =>
        obtain ⟨-, -, -, hfunds⟩ := Ledger.checkSendNative_eq_ok_iff.1 hcheck
        exact .inr ⟨origin, destination, owner, _, _, htransfer.fulfilled hn hhome hledger hfunds
          (hnonce origin destination horigin hdestination) hcount, hend⟩

/-- The small session goes on: a token is put in place for the native asset of the first domain, and the account that
signs gets 50 of the asset. -/
def nativeSteps : List Step :=
  Session.testingSteps .plain 0 ++
    [.ledger (.deployNativeToken 1 (.ofNat 0x3002)), .ledger (.fundNative 1 (.ofNat 0xa) (.ofNat 50))]

/-- The client then. -/
def nativeClient : Client :=
  ⟨(Session.after (.ofConfig .testing) nativeSteps).registry, (Session.testingClient .plain 0).directory⟩

/-- The account that signs sends 30 of the native asset to the other domain. -/
def nativeRequest : NativeRequest := ⟨.name "alpha", .id 2, .ofNat 30, .ofNat 0xb⟩

theorem client?_nativeSteps :
    (Session.after (.ofConfig .testing) nativeSteps).client? = some nativeClient := rfl

/-- The conditions hold of this request. -/
theorem nativeSendable_testing : nativeClient.NativeSendable (Session.after (.ofConfig .testing) nativeSteps).ledger
    nativeRequest 1 2 (.ofNat 0xa) (.ofNat 0x3002) where
  origin_registered := by decide +kernel
  destination_registered := by decide +kernel
  amount_ne_zero := by decide +kernel
  helped := ⟨_, _, rfl, rfl, by decide +kernel⟩
  connected := ⟨_, rfl⟩
  reachable := by decide +kernel
  succeeds := by decide +kernel
  distinct := by decide +kernel
  remote := ⟨_, rfl, by decide +kernel⟩
  native := by decide +kernel
  funds := by decide +kernel

/-- It is fulfilled, and 20 of 50 are left. -/
theorem sendNative_ok_iff_testing : ∃ t n',
    (nativeClient.sendNative nativeRequest).on (Session.after (.ofConfig .testing) nativeSteps).network =
      (.ok t, n') ∧
    t.token = .ofAddress 1 (.ofNat 0x3002) ∧ t.nonce = 0 ∧
    (n'.ledger.nativeBalance 1 (.ofNat 0xa)).toNat = 20 := by
  have hnonce : ∀ origin destination, nativeClient.resolve nativeRequest.origin = .ok origin →
      nativeClient.resolve nativeRequest.destination = .ok destination →
      ((Session.after (.ofConfig .testing) nativeSteps).ledger.nextNonce origin destination).toNat < 2 ^ 32 - 1 := by
    intro origin destination horigin hdestination
    cases horigin.symm.trans nativeSendable_testing.origin_registered
    cases hdestination.symm.trans nativeSendable_testing.destination_registered
    decide +kernel
  have hcount : (Session.after (.ofConfig .testing) nativeSteps).ledger.submitted.length < 2 ^ 64 - 1 := by
    decide +kernel
  obtain ⟨⟨-, hsend⟩, heffect, -⟩ := sendNative_ok_iff client?_nativeSteps rfl
    (fun _ _ => Session.conduct_of_testingClient) hnonce hcount
  obtain ⟨t, n', hon⟩ := hsend ⟨_, _, _, _, nativeSendable_testing⟩
  have hfulfilled := heffect _ _ _ _ nativeSendable_testing t n' hon
  have hbefore : (Session.after (.ofConfig .testing) nativeSteps).ledger.nextNonce 1 2 = 0 ∧
      ((Session.after (.ofConfig .testing) nativeSteps).ledger.nativeBalance 1 (.ofNat 0xa)).toNat = 50 := by
    decide +kernel
  refine ⟨t, n', hon, hfulfilled.token_eq, hfulfilled.nonce_eq.trans hbefore.1, ?_⟩
  have hamount : nativeRequest.amount.toNat = 30 := rfl
  have hafter := (hfulfilled.effect.nativeBalance 1 (.ofNat 0xa)).trans hbefore.2
  rw [if_pos ⟨rfl, rfl⟩, hamount] at hafter
  omega

end TokenBridge.Client
