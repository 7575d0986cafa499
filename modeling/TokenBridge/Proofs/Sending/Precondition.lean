import TokenBridge.Proofs.Client.Current
import TokenBridge.Proofs.Sending.Stages

/-!
# Failed preconditions

A sending fails either while it is planned or while it is under way. Planning changes nothing, and it is the only
stage that finds a precondition unmet. What is under way fails for other reasons (`UnderWay`), although it looks
the same things up again: the provider, the confirmations and the home of the origin. The last two are there
because the origin has bridge contracts, hence is configured. The provider may be gone, since the registry can be
changed behind the client's back; but then the entries of the origin are not current, for their bridge contracts
are bound to a signer (`provider?_of_isCurrent`).

`careful_after` says so for every reachable session and for both ways of sending.
-/

namespace TokenBridge

open Outcome

/-- A precondition of sending that is not met. -/
inductive BridgeError.Unmet : BridgeError → Prop where
  /-- A domain that is not registered. -/
  | unknownDomain (ref : DomainRef) : Unmet (.unknownDomain ref)
  /-- An amount that cannot be sent. -/
  | invalidAmount (fault : AmountFault) : Unmet (.invalidAmount fault)
  /-- An origin without bridge contracts. -/
  | missingContracts (domain : DomainId) : Unmet (.missingContracts domain)
  /-- A token that is not represented on the origin. -/
  | tokenUnavailable (domain : DomainId) (token : TokenName) : Unmet (.tokenUnavailable domain token)
  /-- Nobody to sign on the origin. -/
  | noSigner (domain : DomainId) : Unmet (.noSigner domain)
  /-- An origin without a helper for its native asset. -/
  | noNativeHelper (domain : DomainId) : Unmet (.noNativeHelper domain)

namespace Action

variable {α β : Type} {P : BridgeError → Prop}

/-- A computation that fails for reasons of one kind, if it fails, whatever the network is. -/
def FailsOnly (P : BridgeError → Prop) (a : Action α) : Prop := ∀ n, Outcome.FailsOnly P (a.on n).1

theorem failsOnly_pure (value : α) : (pure value : Action α).FailsOnly P := fun _ => failsOnly_ok value

theorem failsOnly_read {f : Ledger → Except BridgeError α} (hf : ∀ L, Outcome.FailsOnly P (f L)) :
    (read f).FailsOnly P := fun n => hf n.ledger

theorem failsOnly_ofExcept {result : Except BridgeError α} (h : Outcome.FailsOnly P result) :
    (ofExcept result).FailsOnly P := fun _ => h

theorem failsOnly_submit {domain : DomainId} {operation : Operation}
    (h : ∀ source, P (.chain domain operation source)) (f : Ledger → Except ChainError Word × Ledger) :
    (submit domain operation f).FailsOnly P := fun n => failsOnly_mapError h (f n.ledger).1

theorem FailsOnly.bind {a : Action α} {f : α → Action β} (ha : a.FailsOnly P)
    (hf : ∀ value, (f value).FailsOnly P) : (a >>= f).FailsOnly P := by
  intro n
  rcases on_bind_cases a f n with ⟨e, n', han, heq⟩ | ⟨value, n', han, heq⟩
  · rw [heq]
    exact failsOnly_error (ha n e (by rw [han]))
  · rw [heq]
    exact hf value n'

end Action

namespace Client

/-! ### Planning -/

/-- Why planning fails: a precondition is not met, or the router does not tell where the token is. -/
def Early (e : BridgeError) : Prop := e.Unmet ∨ ∃ domain source, e = .chain domain .localAddress source

theorem early_of_unmet {α : Type} {x : Except BridgeError α} (h : FailsOnly BridgeError.Unmet x) :
    FailsOnly Early x := h.mono fun _ => .inl

section Planning

variable (c : Client)

theorem failsOnly_resolve (ref : DomainRef) : FailsOnly BridgeError.Unmet (c.resolve ref) := by
  rw [resolve, Registry.resolve]
  cases c.registry.find? ref with
  | none => exact failsOnly_error (.unknownDomain ref)
  | some d => exact failsOnly_ok d.id

theorem failsOnly_checkAmount (amount : Quantity) : FailsOnly BridgeError.Unmet (checkAmount amount) := by
  rw [checkAmount]
  split
  · exact failsOnly_error (.invalidAmount .zero)
  · exact failsOnly_ok ()

theorem failsOnly_bridge (domain : DomainId) : FailsOnly BridgeError.Unmet (c.bridge (.id domain)) := by
  rw [bridge, entryId, ok_bind]
  cases c.directory.bridges.get? domain with
  | none => exact failsOnly_error (.missingContracts domain)
  | some bridge => exact failsOnly_ok bridge

theorem failsOnly_boundSigner (bridge : Bridge) (domain : DomainId) :
    FailsOnly BridgeError.Unmet (boundSigner bridge domain) := by
  rw [boundSigner]
  cases bridge.signerAddress? with
  | none => exact failsOnly_error (.noSigner domain)
  | some address => exact failsOnly_ok address

theorem failsOnly_representation (L : Ledger) (ref : DomainRef) (token : TokenId) :
    FailsOnly Early (c.representation L ref token) := by
  refine (early_of_unmet (c.failsOnly_resolve ref)).bind fun domain _ => ?_
  refine (early_of_unmet (c.failsOnly_resolve (.id token.domain))).bind fun _ _ => ?_
  rw [representationOn]
  split
  · exact failsOnly_ok none
  · refine (failsOnly_mapError (fun source => .inr ⟨domain, source, rfl⟩) _).bind fun address _ => ?_
    split
    · exact failsOnly_ok none
    · exact failsOnly_ok _

theorem failsOnly_plan (L : Ledger) (request : TransferRequest) : FailsOnly Early (c.plan L request) := by
  refine (early_of_unmet (c.failsOnly_resolve request.origin)).bind fun origin _ => ?_
  refine (early_of_unmet (c.failsOnly_resolve request.destination)).bind fun destination _ => ?_
  refine (early_of_unmet (failsOnly_checkAmount request.amount)).bind fun _ _ => ?_
  refine (early_of_unmet (c.failsOnly_bridge origin)).bind fun bridge _ => ?_
  refine (c.failsOnly_representation L (.id origin) request.token).bind fun found _ => ?_
  cases found with
  | none => exact failsOnly_error (.inl (.tokenUnavailable origin (.identity request.token)))
  | some representation =>
    exact (early_of_unmet (failsOnly_boundSigner bridge origin)).bind fun owner _ => failsOnly_ok _

theorem failsOnly_planNative (request : NativeRequest) : FailsOnly Early (c.planNative request) := by
  refine early_of_unmet ?_
  refine (c.failsOnly_resolve request.origin).bind fun origin _ => ?_
  refine (c.failsOnly_resolve request.destination).bind fun destination _ => ?_
  refine (failsOnly_checkAmount request.amount).bind fun _ _ => ?_
  refine (c.failsOnly_bridge origin).bind fun bridge _ => ?_
  cases bridge.nativeHelper with
  | none => exact failsOnly_error (.noNativeHelper origin)
  | some helper => exact (failsOnly_boundSigner bridge origin).bind fun _ _ => failsOnly_ok _

end Planning

/-- A native sending is planned exactly where both ends are registered, the amount is not zero, and the origin has
bridge contracts that are bound to a signer and have the helper. -/
theorem planNative_eq_ok_iff {c : Client} {request : NativeRequest} {origin destination : DomainId}
    {helper : HelperHandle} :
    c.planNative request = .ok (origin, destination, helper) ↔
      c.resolve request.origin = .ok origin ∧ c.resolve request.destination = .ok destination ∧
        request.amount ≠ .zero ∧ ∃ bridge owner, c.directory.bridges.get? origin = some bridge ∧
          bridge.signerAddress? = some owner ∧ bridge.nativeHelper = some helper := by
  rw [planNative, bind_eq_ok]
  simp only [bind_eq_ok, checkAmount_eq_ok_iff, bridge_id_eq_ok_iff, exists_const]
  constructor
  · rintro ⟨origin', horigin, destination', hdestination, hamount, bridge, hbridge, h⟩
    cases hhelper : bridge.nativeHelper with
    | none =>
      rw [hhelper] at h
      cases h
    | some helper' =>
      rw [hhelper] at h
      obtain ⟨owner, howner, h⟩ := bind_eq_ok.1 h
      cases h
      exact ⟨horigin, hdestination, hamount, bridge, owner, hbridge, boundSigner_eq_ok_iff.1 howner, hhelper⟩
  · rintro ⟨horigin, hdestination, hamount, bridge, owner, hbridge, howner, hhelper⟩
    refine ⟨origin, horigin, destination, hdestination, hamount, bridge, hbridge, ?_⟩
    rw [hhelper]
    exact bind_eq_ok.2 ⟨owner, boundSigner_eq_ok_iff.2 howner, rfl⟩

/-- The helper of bridge contracts is on their domain, which is configured, and their signer signs for it. -/
theorem Sound.helper_of_bridge {c : Client} (h : c.Sound) {domain : DomainId} {bridge : Bridge} {helper : HelperHandle}
    (hbridge : c.directory.bridges.get? domain = some bridge) (hhelper : bridge.nativeHelper = some helper) :
    ∃ d b, c.config.domain? domain = some d ∧ d.bridge = some b ∧ helper.domain = domain ∧
      ∀ owner, bridge.signerAddress? = some owner → helper.sender = .ok owner := by
  obtain ⟨d, b, connection, hd, hb, rfl⟩ := h.bridge_eq_some hbridge
  obtain ⟨address, -, rfl⟩ := Option.map_eq_some_iff.1 hhelper
  exact ⟨d, b, hd, hb, rfl, fun owner howner => Handle.sender_eq_ok_iff.2 howner⟩

/-! ### Under way -/

/-- Why a sending fails once it is planned. -/
inductive UnderWay (c : Client) (origin : DomainId) : BridgeError → Prop where
  /-- A call on the origin fails, or the wait for a transaction there. -/
  | chain (operation : Operation) (source : ChainError) : UnderWay c origin (.chain origin operation source)
  /-- The origin has lost its provider. -/
  | notConnected (h : c.registry.provider? origin = none) : UnderWay c origin (.notConnected origin)
  /-- The receipt contradicts itself. -/
  | inconsistent (inconsistency : Inconsistency) : UnderWay c origin (.inconsistent inconsistency)
  /-- The announced message cannot be read. -/
  | invalidMessage (fault : MessageFault) : UnderWay c origin (.invalidMessage fault)

/-- No precondition is found unmet under way. -/
theorem UnderWay.not_unmet {c : Client} {origin : DomainId} {e : BridgeError} (h : UnderWay c origin e) :
    ¬ e.Unmet := by
  intro hunmet
  cases h <;> cases hunmet

section UnderWay

variable {c : Client} {origin : DomainId} {d : DomainConfig}

theorem failsOnly_settle (c : Client) (origin : DomainId) (operation : Operation) (transaction : Word)
    (timeout : UInt64) (reply : Reply) :
    FailsOnly (UnderWay c origin) (settle origin operation transaction timeout reply) := by
  cases reply with
  | never => exact failsOnly_error (.chain operation _)
  | after seconds answer =>
    simp only [settle]
    split
    · exact failsOnly_error (.chain operation _)
    · cases answer with
      | error e => exact failsOnly_error (.chain operation e)
      | ok receipt =>
        dsimp only
        split
        · exact failsOnly_ok receipt
        · exact failsOnly_error (.chain operation _)

/-- Waiting on a configured domain misses no contracts. -/
theorem failsOnly_confirm (hd : c.config.domain? origin = some d) (operation : Operation) (transaction : Word) :
    (c.confirm origin operation transaction).FailsOnly (UnderWay c origin) := by
  intro n
  cases hprovider : c.registry.provider? origin with
  | none =>
    rw [confirm, hprovider]
    exact failsOnly_error (.notConnected hprovider)
  | some provider =>
    rw [confirm_on hprovider hd]
    exact failsOnly_settle c origin operation transaction _ _

theorem failsOnly_ensureAllowance {p : Plan} (hd : c.config.domain? p.origin = some d) (amount : Quantity) :
    (c.ensureAllowance p amount).FailsOnly (UnderWay c p.origin) := by
  refine (Action.failsOnly_read fun L => failsOnly_mapError (fun e => .chain .allowance e) _).bind
    fun allowed => ?_
  split
  · refine (Action.failsOnly_submit (fun e => .chain .approve e) _).bind fun approval => ?_
    exact (failsOnly_confirm hd .approve approval).bind fun _ => Action.failsOnly_pure ()
  · exact Action.failsOnly_pure ()

theorem failsOnly_ofReceipt (c : Client) (origin : DomainId) (home : Address) (receipt : Receipt) :
    FailsOnly (UnderWay c origin) (Transfer.ofReceipt origin home receipt) := by
  refine (failsOnly_mapError UnderWay.inconsistent _).bind fun dispatch _ => ?_
  split
  · exact failsOnly_error (.inconsistent _)
  · refine (failsOnly_mapError UnderWay.invalidMessage _).bind fun message _ => ?_
    split
    · exact failsOnly_error (.inconsistent _)
    · exact (failsOnly_mapError UnderWay.invalidMessage _).bind fun action _ => failsOnly_ok _

/-- What ends a sending of either kind fails for reasons of what is under way. -/
theorem Sound.failsOnly_conclude (h : c.Sound) (hd : c.config.domain? origin = some d) (operation : Operation)
    (f : Ledger → Except ChainError Word × Ledger) :
    (c.conclude origin operation f).FailsOnly (UnderWay c origin) := by
  refine (Action.failsOnly_submit (fun e => .chain operation e) f).bind fun transaction => ?_
  refine (failsOnly_confirm hd operation transaction).bind fun receipt => ?_
  rw [h.transferOf_eq hd]
  exact Action.failsOnly_ofExcept (failsOnly_ofReceipt c origin d.home receipt)

/-- Where the entries of a domain are current and its bridge contracts are bound to a signer, the registry has a
provider for it. -/
theorem provider?_of_isCurrent {ref : DomainRef} {id : DomainId} {bridge : Bridge} {owner : Address}
    (hcurrent : c.isCurrent ref = .ok true) (hid : c.resolve ref = .ok id)
    (hbridge : c.directory.bridges.get? id = some bridge) (howner : bridge.signerAddress? = some owner) :
    c.registry.provider? id ≠ none := by
  intro hprovider
  rw [isCurrent, hid, ok_bind, hbridge, Registry.connection?_eq_none_iff.2 hprovider] at hcurrent
  -- Without a provider only handles that are bound to nothing are current, and those do not sign.
  have hboth := Except.ok.inj hcurrent
  have hbound : bridge.connection = none := Connection.sameBinding_none_iff.1 (Bool.and_eq_true_iff.1 hboth).2
  rw [Bridge.signerAddress?, hbound] at howner
  cases howner

end UnderWay

/-! ### Both ways of sending -/

/-- What holds of a sending from `origin` on the network `n` where it fails. -/
structure Careful (c : Client) (origin : DomainRef) (a : Action Transfer) (n : Network) : Prop where
  /-- Where a precondition is not met, no transaction is submitted, no other change is made to the ledger, and no
  provider is asked to wait. -/
  unchanged : ∀ e, (a.on n).1 = .error e → e.Unmet → (a.on n).2 = n
  /-- Where the entries of the origin are current, the sending does not miss a provider. -/
  connected : c.isCurrent origin = .ok true → ∀ domain, (a.on n).1 ≠ .error (.notConnected domain)

/-- A sending is careful if it is planned without a change, and what is under way fails for its own reasons, with a
provider to ask if the entries of the origin are current. -/
theorem Careful.of_plan {c : Client} {ref : DomainRef} {a : Action Transfer} {n : Network} {α : Type}
    (plan : Except BridgeError α) (rest : α → Action Transfer)
    (hrun : a.on n = match plan with | .ok p => (rest p).on n | .error e => (.error e, n))
    (hplan : FailsOnly Early plan)
    (hrest : ∀ p, plan = .ok p → ∃ origin, (rest p).FailsOnly (UnderWay c origin) ∧
      (c.isCurrent ref = .ok true → c.registry.provider? origin ≠ none)) : Careful c ref a n := by
  cases plan with
  | error e =>
    refine ⟨fun _ _ _ => by rw [hrun], fun _ domain h => ?_⟩
    rw [hrun] at h
    cases h
    rcases hplan _ rfl with hunmet | ⟨_, _, heq⟩
    · cases hunmet
    · cases heq
  | ok p =>
    obtain ⟨origin, hfails, hprovider⟩ := hrest p rfl
    refine ⟨fun e he hunmet => ?_, fun hcurrent domain h => ?_⟩
    · rw [hrun] at he
      exact absurd hunmet (hfails n e he).not_unmet
    · rw [hrun] at h
      cases hfails n _ h with
      | notConnected hnone => exact hprovider hcurrent hnone

theorem Sound.careful_send {c : Client} (h : c.Sound) (request : TransferRequest) (n : Network) :
    Careful c request.origin (c.send request) n := by
  refine Careful.of_plan (c.plan n.ledger request)
    (fun p => do
      c.ensureAllowance p request.amount
      c.transfer p request) ?_ (c.failsOnly_plan n.ledger request) fun p hp => ?_
  · rw [send, Action.on_bind, Action.on_read]
    cases c.plan n.ledger request <;> rfl
  · obtain ⟨horigin, -, -, -, bridge, hbridge, howner, -⟩ := plan_eq_ok_iff.1 hp
    obtain ⟨d, b, connection, hd, -, -⟩ := h.bridge_eq_some hbridge
    refine ⟨p.origin, ?_, fun hcurrent => provider?_of_isCurrent hcurrent horigin hbridge howner⟩
    exact (failsOnly_ensureAllowance hd request.amount).bind fun _ => h.failsOnly_conclude hd .send _

theorem Sound.careful_sendNative {c : Client} (h : c.Sound) (request : NativeRequest) (n : Network) :
    Careful c request.origin (c.sendNative request) n := by
  refine Careful.of_plan (c.planNative request)
    (fun p => c.conclude p.1 .sendNative fun L => p.2.2.send L p.2.1 request.recipient.widen request.amount) ?_
    (c.failsOnly_planNative request) ?_
  · rw [sendNative, Action.on_bind, Action.on_ofExcept]
    cases c.planNative request <;> rfl
  · rintro ⟨origin, destination, helper⟩ hp
    obtain ⟨horigin, -, -, bridge, owner, hbridge, howner, -⟩ := planNative_eq_ok_iff.1 hp
    obtain ⟨d, b, connection, hd, -, -⟩ := h.bridge_eq_some hbridge
    exact ⟨origin, h.failsOnly_conclude hd .sendNative _,
      fun hcurrent => provider?_of_isCurrent hcurrent horigin hbridge howner⟩

/-- **Failed preconditions submit nothing**: in every reachable session, also with stale bindings, a sending of
either kind that fails because a precondition is not met leaves the ledger as it is and asks no provider to wait;
and where the entries of its origin are current, it never fails for want of a provider. -/
theorem careful_after {L : Ledger} {steps : List Step} {c : Client}
    (h : (Session.after L steps).client? = some c) :
    (∀ request : TransferRequest, Careful c request.origin (c.send request) (Session.after L steps).network) ∧
      ∀ request : NativeRequest,
        Careful c request.origin (c.sendNative request) (Session.after L steps).network := by
  have hsound := Session.sound_after h
  exact ⟨fun request => hsound.careful_send request _, fun request => hsound.careful_sendNative request _⟩

/-- A client whose first domain has a provider and nobody to sign: sending a token from there fails for that, and
nothing has happened; nor does sending the native asset miss a provider. -/
theorem careful_after_unsigned :
    let steps : List Step :=
      [.provider "p" "http://alpha" .plain 0, .build .testing, .client (.registerProvider (.id 1) "p"),
        .ledger (.deployToken 1 (.ofNat 0x3001))]
    let n := (Session.after (.ofConfig .testing) steps).network
    let native : NativeRequest := ⟨.name "alpha", .id 2, .ofNat 60, .ofNat 0xb⟩
    ∃ c, (Session.after (.ofConfig .testing) steps).client? = some c ∧ c.isCurrent (.name "alpha") = .ok true ∧
      ((c.send Session.testingRequest).on n).1 = .error (.noSigner 1) ∧
      ((c.send Session.testingRequest).on n).2 = n ∧
      ∀ domain, ((c.sendNative native).on n).1 ≠ .error (.notConnected domain) := by
  intro steps n native
  have h : (Session.after (.ofConfig .testing) steps).client? =
      some ⟨(Session.after (.ofConfig .testing) steps).registry, .boundTo .testing fun domain =>
        if domain = 1 then some ⟨⟨0, "http://alpha", .plain, 0⟩, none⟩ else none⟩ := rfl
  obtain ⟨hsend, hnative⟩ := careful_after h
  refine ⟨_, h, by decide +kernel, ?_, ?_, ?_⟩
  · decide +kernel
  · exact (hsend Session.testingRequest).unchanged (.noSigner 1) (by decide +kernel) (.noSigner 1)
  · exact (hnative native).connected (by decide +kernel)

end Client

end TokenBridge
