import TokenBridge.Proofs.Sending.Alike
import TokenBridge.Proofs.Sending.Precondition
import TokenBridge.Proofs.Sending.Total
import TokenBridge.Proofs.Sending.Announcing

/-!
# Sendings from different domains

Whatever a client does to send something from a domain is confined to that domain: planning asks the router of the
origin, what is submitted is submitted there, and what is read is the receipt of what was just submitted. So nothing
of one sending, neither an approval nor a nonce nor what is taken, is seen by a sending from another domain, be it the
destination of the first one or not. Only the hashes and the blocks depend on the order, since all domains share one
counter.

`sendings_commute` says for every reachable session over plain providers that two sendings from different domains,
each of a token or of the native asset, end alike in either order, and leave the same balances, allowances, nonces and
counts of leaves.
-/

namespace TokenBridge

/-- What a client is asked to send. -/
inductive Sending where
  /-- A token. -/
  | token (request : TransferRequest)
  /-- The native asset of the origin. -/
  | native (request : NativeRequest)

/-- The domain to send from. -/
def Sending.origin : Sending → DomainRef
  | .token request => request.origin
  | .native request => request.origin

namespace Client

variable {c : Client} {domain origin : DomainId} {operation : Operation}
  {f : Ledger → Except ChainError Word × Ledger}

/-! ### Submitting and waiting -/

/-- A transaction is submitted and confirmed. -/
def transact (c : Client) (domain : DomainId) (operation : Operation)
    (f : Ledger → Except ChainError Word × Ledger) : Action Receipt := do
  let transaction ← .submit domain operation f
  c.confirm domain operation transaction

/-- Every provider answers plainly. -/
def Plain (c : Client) : Prop :=
  ∀ domain provider, c.registry.provider? domain = some provider → provider.conduct = .plain

/-- Waiting for transactions with receipts that are alike ends alike. -/
theorem confirm_alike (hplain : c.Plain) (domain : DomainId) (operation : Operation) {n m : Network}
    {transaction transaction' : Word} {receipt receipt' : Receipt}
    (hreceipt : n.ledger.receipt transaction = .ok receipt) (hreceipt' : m.ledger.receipt transaction' = .ok receipt')
    (halike : receipt.Alike receipt') :
    Outcome.Alike Receipt.Alike ((c.confirm domain operation transaction).on n).1
      ((c.confirm domain operation transaction').on m).1 := by
  cases hprovider : c.registry.provider? domain with
  | none =>
    rw [confirm, confirm, hprovider]
    exact .error rfl
  | some provider =>
    cases hd : c.config.domain? domain with
    | none =>
      rw [confirm, confirm, hprovider, hd]
      exact .error rfl
    | some d =>
      have hanswer : answer provider (waited n provider transaction d.confirmations) transaction =
          .after 0 (.ok receipt) := by
        rw [answer_of_plain (hplain _ _ hprovider)]
        exact congrArg (Reply.after 0) hreceipt
      have hanswer' : answer provider (waited m provider transaction' d.confirmations) transaction' =
          .after 0 (.ok receipt') := by
        rw [answer_of_plain (hplain _ _ hprovider)]
        exact congrArg (Reply.after 0) hreceipt'
      rw [confirm_on hprovider hd, confirm_on hprovider hd, hanswer, hanswer', settle_plain, settle_plain,
        halike.succeeded]
      cases receipt.succeeded with
      | true => exact .ok halike
      | false => exact .error rfl

/-- **Submitting and waiting** is confined to the domain that what is submitted is confined to. -/
theorem confined_transact (hplain : c.Plain) (hf : Ledger.Confined domain f) (operation : Operation) :
    (c.transact domain operation f).Confined domain Receipt.Alike where
  keeps other hother := by
    have hsubmit : (Action.submit domain operation f).Keeps other := fun n => hf.frame n.ledger other hother
    refine hsubmit.bind fun _ _ transaction _ n => ?_
    rw [c.ledger_confirm]
    exact .refl other n.ledger
  alike n m hagree := by
    have hends := hf.alike n.ledger m.ledger hagree
    rw [transact, Action.on_bind, Action.on_bind, Action.on_submit, Action.on_submit]
    generalize f n.ledger = run, f m.ledger = run' at hends
    cases hends with
    | refused e h => exact ⟨.error rfl, h⟩
    | mined h hreceipt hreceipt' halike =>
      dsimp only [Outcome.mapError_ok]
      refine ⟨confirm_alike hplain domain operation hreceipt hreceipt' halike, ?_⟩
      rw [c.ledger_confirm, c.ledger_confirm]
      exact h

/-- The transfers that a client reads off receipts that are alike are alike. -/
theorem transferOf_alike (c : Client) (origin : DomainId) {r r' : Receipt} (h : r.Alike r') :
    Outcome.Alike Transfer.Alike (c.transferOf origin r) (c.transferOf origin r') := by
  refine (Outcome.Alike.of_eq rfl).bind fun core _ hcore => ?_
  subst hcore
  exact Transfer.ofReceipt_alike h origin core.home.address

/-- **The end of every sending** is confined to the origin. -/
theorem confined_conclude (hplain : c.Plain) (hf : Ledger.Confined origin f) (operation : Operation) :
    (c.conclude origin operation f).Confined origin Transfer.Alike := by
  have heq : c.conclude origin operation f =
      c.transact origin operation f >>= fun receipt => .ofExcept (c.transferOf origin receipt) := by
    rw [conclude, transact, bind_assoc]
  rw [heq]
  exact (confined_transact hplain hf operation).bind
    (fun receipt _ other _ => Action.keeps_ofExcept other (c.transferOf origin receipt))
    fun _ _ halike => Action.alike_ofExcept (c.transferOf_alike origin halike)

/-! ### Sending a token -/

/-- **Seeing to the allowance** is confined to the origin. -/
theorem confined_ensureAllowance (hplain : c.Plain) {p : Plan} (hp : p.Bound) (amount : Quantity) :
    (c.ensureAllowance p amount).Confined p.origin Eq := by
  have happrove : Ledger.Confined p.origin fun L => p.representation.approve L p.router.address amount := by
    rw [← hp.representation_domain]
    exact .submit (fun sender => Ledger.confined_approve p.representation.domain p.representation.address sender
      p.router.address amount) p.representation.toHandle
  have hread : Action.Confined p.origin (fun x y => y = x ∧ True) (.read fun L =>
      (p.representation.allowance L p.owner p.router.address).mapError (.chain p.origin .allowance)) := by
    refine Action.confined_read (fun L M hagree => ?_) fun _ _ _ => trivial
    rw [TokenHandle.allowance_of_sender hp.representation_sender,
      TokenHandle.allowance_of_sender hp.representation_sender, hp.representation_domain, hagree.allowance]
  refine hread.bind_of_eq fun allowed _ => ?_
  by_cases hless : allowed < amount
  · have htransact := confined_transact hplain happrove .approve
    have hpure := htransact.bind (f := fun _ => pure ()) (T := Eq)
      (fun _ _ other _ => Action.keeps_pure other ()) fun _ _ _ => Action.alike_pure rfl
    rw [transact, bind_assoc] at hpure
    rw [if_pos hless]
    exact hpure
  · rw [if_neg hless]
    exact Action.confined_pure rfl

theorem confined_transfer (hplain : c.Plain) {p : Plan} (hp : p.Bound) (request : TransferRequest) :
    (c.transfer p request).Confined p.origin Transfer.Alike := by
  refine confined_conclude hplain ?_ .send
  rw [← hp.router_domain]
  exact .submit (fun sender => Ledger.confined_send p.router.domain sender p.representation.address request.amount
    p.destination request.recipient.widen) p.router.toHandle

/-- Planning asks the origin alone. -/
theorem Sound.plan_congr (h : c.Sound) {request : TransferRequest} (horigin : c.resolve request.origin = .ok origin)
    {L M : Ledger} (hagree : Ledger.AgreeOn origin L M) : c.plan M request = c.plan L request := by
  have hon : c.representationOn M origin request.token = c.representationOn L origin request.token := by
    rw [representationOn, representationOn]
    cases hbridge : c.directory.bridges.get? origin with
    | none => rfl
    | some bridge =>
      obtain ⟨d, b, connection, -, -, rfl⟩ := h.bridge_eq_some hbridge
      dsimp only [RouterHandle.localAddress, Bridge.ofConfig]
      rw [hagree.localAddress]
  have hrepresentation : c.representation M (.id origin) request.token =
      c.representation L (.id origin) request.token := by
    have hid : c.resolve (.id origin) = .ok origin := Registry.resolve_id horigin
    rw [representation, representation, hid, Outcome.ok_bind, Outcome.ok_bind, hon]
  simp only [plan, horigin, Outcome.ok_bind, hrepresentation]

/-- **Sending a token** is confined to the origin. -/
theorem Sound.confined_send (h : c.Sound) (hplain : c.Plain) {request : TransferRequest}
    (horigin : c.resolve request.origin = .ok origin) : (c.send request).Confined origin Transfer.Alike := by
  have hread : Action.Confined origin (fun x y => y = x ∧ (x.Bound ∧ x.origin = origin))
      (.read fun L => c.plan L request) := by
    refine Action.confined_read (fun L M hagree => h.plan_congr horigin hagree) fun L p hp => ?_
    have hp' := (plan_eq_ok_iff.1 hp).1.symm.trans horigin
    exact ⟨h.bound_of_plan hp, Except.ok.inj hp'⟩
  refine hread.bind_of_eq fun p hp => ?_
  obtain ⟨hbound, rfl⟩ := hp
  have hallowance := confined_ensureAllowance hplain hbound request.amount
  exact hallowance.bind (fun _ _ other hother => (confined_transfer hplain hbound request).keeps other hother)
    fun _ _ _ => (confined_transfer hplain hbound request).alike

/-! ### Sending the native asset -/

/-- **Sending the native asset** is confined to the origin. -/
theorem Sound.confined_sendNative (h : c.Sound) (hplain : c.Plain) {request : NativeRequest}
    (horigin : c.resolve request.origin = .ok origin) :
    (c.sendNative request).Confined origin Transfer.Alike := by
  cases hplan : c.planNative request with
  | error e =>
    rw [sendNative_of_unplanned hplan]
    exact Action.confined_ofExcept (.error rfl)
  | ok planned =>
    obtain ⟨origin', destination, helper⟩ := planned
    obtain ⟨hresolved, -, -, bridge, -, hbridge, -, hhelper⟩ := planNative_eq_ok_iff.1 hplan
    cases hresolved.symm.trans horigin
    obtain ⟨-, -, -, -, hdomain, -⟩ := h.helper_of_bridge hbridge hhelper
    rw [sendNative_of_planned hplan]
    refine confined_conclude hplain ?_ .sendNative
    rw [← hdomain]
    exact .submit (fun sender => Ledger.confined_sendNative helper.domain sender destination
      request.recipient.widen request.amount) helper.toHandle

/-! ### Two sendings -/

/-- Sends what is asked for. -/
def perform (c : Client) : Sending → Action Transfer
  | .token request => c.send request
  | .native request => c.sendNative request

theorem Sound.confined_perform (h : c.Sound) (hplain : c.Plain) {x : Sending}
    (horigin : c.resolve x.origin = .ok origin) : (c.perform x).Confined origin Transfer.Alike := by
  cases x with
  | token request => exact h.confined_send hplain horigin
  | native request => exact h.confined_sendNative hplain horigin

/-- **Sendings from different domains commute**: in every reachable session over plain providers, whatever was done
to the registry and to the ledger before, two sendings from different domains end alike in either order. Each of them
gives back a transfer with the same announcement, message and leaf, whose receipt differs in nothing but the hash and
the block, or it fails for the same reason; and all balances, allowances, nonces and counts of leaves are the same
afterwards. -/
theorem sendings_commute {L : Ledger} {steps : List Step} (hc : (Session.after L steps).client? = some c)
    (hplain : c.Plain) {x y : Sending} {other : DomainId} (hx : c.resolve x.origin = .ok origin)
    (hy : c.resolve y.origin = .ok other) (hne : origin ≠ other) :
    let n := (Session.after L steps).network
    let first := (c.perform x).on n
    let first' := (c.perform y).on n
    Outcome.Alike Transfer.Alike first.1 ((c.perform x).on first'.2).1 ∧
      Outcome.Alike Transfer.Alike ((c.perform y).on first.2).1 first'.1 ∧
      Ledger.SameBooks ((c.perform y).on first.2).2.ledger ((c.perform x).on first'.2).2.ledger := by
  intro n first first'
  have hsound := Session.sound_after hc
  obtain ⟨hfirst, hsecond, hagree⟩ :=
    (hsound.confined_perform hplain hx).commute (hsound.confined_perform hplain hy) hne n
  exact ⟨hfirst, hsecond, Ledger.sameBooks_of_agreeOn hagree⟩

/-- Both domains of the small bridge have a provider, a signer and a token. -/
def meetingSteps : List Step :=
  Session.testingSteps .plain 0 ++
    [.client (.registerProvider (.id 2) "p"), .client (.registerSigner (.id 2) "o"),
      .ledger (.deployToken 2 (.ofNat 0x3002)), .ledger (.mint 2 (.ofNat 0x3002) (.ofNat 0xa) (.ofNat 100))]

/-- The client then. -/
def meetingClient : Client :=
  ⟨(Session.after (.ofConfig .testing) meetingSteps).registry, .boundTo .testing fun _ =>
    some ⟨⟨0, "http://alpha", .plain, 0⟩, some ⟨1, .ofNat 0xa⟩⟩⟩

theorem client?_meetingSteps :
    (Session.after (.ofConfig .testing) meetingSteps).client? = some meetingClient := rfl

theorem plain_meetingClient : meetingClient.Plain := by
  intro domain provider h
  have hproviders : meetingClient.registry.providers =
      (Table.empty.insert 1 ⟨0, "http://alpha", .plain, 0⟩).insert 2 ⟨0, "http://alpha", .plain, 0⟩ := rfl
  rw [Registry.provider?, hproviders, Table.get?_insert, Table.get?_insert] at h
  split at h
  · cases h
    rfl
  · split at h
    · cases h
      rfl
    · cases h

/-- The other domain sends 70 of its token. -/
def meetingRequest : TransferRequest :=
  ⟨.name "beta", .id 1, .ofAddress 2 (.ofNat 0x3002), .ofNat 70, .ofNat 0xb⟩

theorem sendable_meeting : meetingClient.Sendable (Session.after (.ofConfig .testing) meetingSteps).ledger
    Session.testingRequest 1 2 (.ofNat 0xa) (.ofNat 0x3001) (.ofAddress 1 (.ofNat 0x3001)) where
  origin_registered := by decide +kernel
  destination_registered := by decide +kernel
  token_registered := by decide +kernel
  amount_ne_zero := by decide +kernel
  signed := ⟨_, rfl, by decide +kernel⟩
  connected := ⟨_, rfl⟩
  reachable := by decide +kernel
  succeeds := by decide +kernel
  address := by decide +kernel
  address_ne_zero := by decide +kernel
  distinct := by decide +kernel
  remote := ⟨_, rfl, by decide +kernel⟩
  canonical := by decide +kernel
  balance := by decide +kernel

/-- The first domain has its request fulfilled. -/
theorem send_meeting : ∃ t n', (meetingClient.send Session.testingRequest).on
    (Session.after (.ofConfig .testing) meetingSteps).network = (.ok t, n') := by
  have hc := Session.sound_after client?_meetingSteps
  have hn := Session.coherent_after hc.valid meetingSteps
  obtain ⟨_, _, _, _, t, n', -, -, -, -, -, -, -, hon, -⟩ :=
    send_on_of_sendable hc hn sendable_meeting plain_meetingClient
  exact ⟨t, n', hon⟩

/-- Each domain sends to the other one: what the first one sends is on its way in either order, with the same
message, and in the end the books are the same. -/
theorem sendings_commute_meeting :
    let n := (Session.after (.ofConfig .testing) meetingSteps).network
    let x := meetingClient.perform (.token Session.testingRequest)
    let y := meetingClient.perform (.token meetingRequest)
    (∃ t t', (x.on n).1 = .ok t ∧ (x.on (y.on n).2).1 = .ok t' ∧ t'.message = t.message ∧ t'.leaf = t.leaf) ∧
      Ledger.SameBooks (y.on (x.on n).2).2.ledger (x.on (y.on n).2).2.ledger := by
  have hx : meetingClient.resolve (Sending.token Session.testingRequest).origin = .ok 1 := by decide +kernel
  have hy : meetingClient.resolve (Sending.token meetingRequest).origin = .ok 2 := by decide +kernel
  have hcommute := sendings_commute client?_meetingSteps plain_meetingClient hx hy (by decide)
  obtain ⟨t, _, hsend⟩ := send_meeting
  have hok : ((meetingClient.perform (.token Session.testingRequest)).on
      (Session.after (.ofConfig .testing) meetingSteps).network).1 = .ok t := congrArg Prod.fst hsend
  -- What the network and the sendings are made of plays no part from here on.
  generalize (Session.after (.ofConfig .testing) meetingSteps).network = n at hcommute hok ⊢
  generalize meetingClient.perform (.token Session.testingRequest) = x at hcommute hok ⊢
  generalize meetingClient.perform (.token meetingRequest) = y at hcommute ⊢
  obtain ⟨hfirst, -, hbooks⟩ := hcommute
  rw [hok] at hfirst
  refine ⟨?_, hbooks⟩
  generalize (x.on (y.on n).2).1 = result at hfirst ⊢
  cases hfirst with
  | ok halike => exact ⟨t, _, hok, rfl, halike.message, halike.leaf⟩

end Client

end TokenBridge
