import TokenBridge.Proofs.Ledger.Effect
import TokenBridge.Proofs.Message
import TokenBridge.Proofs.Resolving.Canonical

/-!
# What is dispatched and what is resolved

A router that takes an address for a token and a client that asks which token an address stands for look it up in
different ways. The router asks whether it knows a token that the address represents, and else whether it keeps the
address for the token of the address itself; the client takes domain zero for "none", and then any address that is
kept. Both come to the same token, whatever was put in place before, as long as that is no token of domain zero
(`identityOf_of_canonicalOf`): a token that is represented is found by both, and where none is, the address that the
router keeps is not the zero address.

A sending changes nothing of what the routers know, so the client answers with the token that was dispatched, before
the sending and after it (`canonicalIdentity_of_send`).
-/

namespace TokenBridge

namespace Ledger

/-- A transaction announces a transfer of a token. -/
def Carries (L : Ledger) (transaction : Word) (token : TokenId) : Prop :=
  ∃ receipt, L.receipt transaction = .ok receipt ∧ ∃ log ∈ receipt.logs, ∃ dispatch message action,
    log.event = .dispatch dispatch ∧ Message.decode dispatch.message = .ok message ∧
      TransferAction.decode message.body = .ok action ∧ action.token = token

section Sending

variable {L L' : Ledger} {domain destination : DomainId} {sender address : Address} {amount : Quantity}
  {recipient transaction : Word} {token : TokenId}

/-- A transaction with the announcement of one transfer carries the token of that transfer and no other. -/
theorem carries_iff {home : Home} {message : Message} {action : TransferAction} {receipt : Receipt}
    (hbody : message.body = action.encode) (hreceipt : L.receipt transaction = .ok receipt)
    (hlogs : receipt.logs = [logOf home message]) : L.Carries transaction token ↔ token = action.token := by
  constructor
  · rintro ⟨receipt', hreceipt', log, hlog, dispatch, message', action', hevent, hmessage, haction, rfl⟩
    cases hreceipt.symm.trans hreceipt'
    rw [hlogs] at hlog
    cases List.mem_singleton.1 hlog
    cases hevent
    cases hmessage.symm.trans message.decode_encode
    rw [hbody] at haction
    cases haction.symm.trans action.decode_encode
    rfl
  · rintro rfl
    refine ⟨receipt, hreceipt, logOf home message, ?_, _, message, action, rfl, message.decode_encode, ?_, rfl⟩
    · rw [hlogs]
      exact List.mem_singleton_self _
    · rw [hbody, action.decode_encode]

/-- A sending that is accepted carries the token that the router takes the address for, and leaves what the routers
know and which domains are reached as they are. -/
theorem send_accepted
    (hsend : L.send domain sender address amount destination recipient = (.ok transaction, L')) :
    (L'.Carries transaction token ↔ L.canonicalOf domain address = .ok token) ∧ domain ∉ L.failing ∧
      L'.routers = L.routers ∧ L'.failing = L.failing := by
  cases hcheck : L.checkSend domain sender address amount destination with
  | error e => cases (send_of_refused hcheck recipient).symm.trans hsend
  | ok checked =>
    obtain ⟨canonical, routerAddress⟩ := checked
    obtain ⟨hreach, -, hcanonical, -⟩ := checkSend_eq_ok_iff.1 hcheck
    rw [send_of_checked hcheck] at hsend
    rcases launch_cases (L.updateToken domain address (·.take sender routerAddress amount)) domain sender
      destination ⟨canonical, recipient, amount⟩ (.send address amount destination) with
      ⟨e, hlaunch⟩ | ⟨router, remote, home, -, -, -, hlaunch⟩
    · cases hlaunch.symm.trans hsend
    · cases hlaunch.symm.trans hsend
      refine ⟨(carries_iff rfl (receipt_mined _ domain sender _ _) rfl).trans ?_, hreach, rfl, rfl⟩
      rw [hcanonical, Except.ok.injEq]
      exact eq_comm

/-- The two look-ups agree on tokens of other domains than zero. -/
theorem identityOf_of_canonicalOf {router : Router} (hrouter : L.routers.get? domain = some router)
    (hcanonical : L.canonicalOf domain address = .ok token) (haddress : address ≠ .zero)
    (hdomain : token.domain ≠ 0) : L.identityOf domain router address = some token := by
  obtain ⟨router', hrouter', hknown⟩ := canonicalOf_eq_ok_iff.1 hcanonical
  cases hrouter.symm.trans hrouter'
  rw [identityOf, Table.getD]
  rcases hknown with hrepresented | ⟨hnone, rfl, hkept⟩
  · rw [hrepresented, Option.getD_some, if_pos hdomain]
  · -- The address represents nothing, so what is kept for its own token decides.
    have hown : L.addressOf domain router (.ofAddress domain address) = address := by rw [addressOf, hkept]
    rw [hnone, Option.getD_none, if_neg (not_not_intro rfl), hown, if_neg haddress]

end Sending

end Ledger

namespace Client

/-- A domain may be named in any way that resolves to it. -/
theorem canonicalIdentity_of_resolve {c : Client} {ref : DomainRef} {domain : DomainId}
    (href : c.resolve ref = .ok domain) (hid : c.resolve (.id domain) = .ok domain) (L : Ledger)
    (address : Address) : c.canonicalIdentity L ref address = c.canonicalIdentity L (.id domain) address := by
  rw [canonicalIdentity, canonicalIdentity, href, hid]

/-- **What the router dispatches is what the client resolves**: where a ledger accepts a sending of a token address
and dispatches it as a token of any domain but zero, a client that is bound on that domain resolves the address to
the very token, by the ledger before and by the ledger after, whatever was put in place there. -/
theorem canonicalIdentity_of_send {start L L' : Ledger} {steps : List Step} {c : Client} {ref : DomainRef}
    {domain destination : DomainId} {bridge : Bridge} {sender address : Address} {amount : Quantity}
    {recipient transaction : Word} {token : TokenId} (hclient : (Session.after start steps).client? = some c)
    (href : c.resolve ref = .ok domain) (hbridge : c.directory.bridges.get? domain = some bridge)
    (hconnected : bridge.connection.isSome)
    (hsend : L.send domain sender address amount destination recipient = (.ok transaction, L'))
    (hcarries : L'.Carries transaction token) (haddress : address ≠ .zero) (hdomain : token.domain ≠ 0) :
    c.canonicalIdentity L ref address = .ok (some token) ∧
      c.canonicalIdentity L' ref address = .ok (some token) := by
  have hc := Session.sound_after hclient
  have hid : c.resolve (.id domain) = .ok domain :=
    Registry.resolve_id_iff.2 ⟨hc.mem_domainIds_of_bridge hbridge, rfl⟩
  obtain ⟨hcarried, hreach, hrouters, hfailing⟩ := Ledger.send_accepted hsend
  have hcanonical := hcarried.1 hcarries
  obtain ⟨router, hrouter, -⟩ := Ledger.canonicalOf_eq_ok_iff.1 hcanonical
  -- Either ledger reaches the domain, has this router there, and takes the address for the token.
  have hresolves : ∀ K : Ledger, K.routers = L.routers → K.failing = L.failing →
      c.canonicalIdentity K ref address = .ok (some token) := by
    intro K hKrouters hKfailing
    have hKrouter : K.routers.get? domain = some router := by rw [hKrouters, hrouter]
    have hKcanonical : K.canonicalOf domain address = .ok token := by
      rw [Ledger.canonicalOf_congr hKrouters, hcanonical]
    rw [canonicalIdentity_of_resolve href hid,
      canonicalIdentity_eq hc hbridge hconnected (hKfailing ▸ hreach) hKrouter,
      Ledger.identityOf_of_canonicalOf hKrouter hKcanonical haddress hdomain]
  exact ⟨hresolves L rfl rfl, hresolves L' hrouters hfailing⟩

/-- The steps of the small session, after which a representation of a token of the other domain is put in place
where the session has its own token, and the router may take 60 of it. -/
def overwrittenSteps : List Step :=
  Session.testingSteps .plain 0 ++
    [.ledger (.deployRepresentation 1 (.ofAddress 2 (.ofNat 0x4001)) (.ofNat 0x3001)),
      .ledger (.setAllowance 1 (.ofNat 0x3001) (.ofNat 0xa) (.ofNat 0x1100) (.ofNat 60))]

/-- What is sent from the address then is the token of the other domain, and so is what the address resolves
to. -/
theorem canonicalIdentity_of_send_overwritten :
    let L := (Session.after (.ofConfig .testing) overwrittenSteps).ledger
    let c := Session.testingClient .plain 0
    ∃ transaction L', L.send 1 (.ofNat 0xa) (.ofNat 0x3001) (.ofNat 60) 2 (.ofNat 0xb) = (.ok transaction, L') ∧
      L'.Carries transaction (.ofAddress 2 (.ofNat 0x4001)) ∧
      c.canonicalIdentity L (.name "alpha") (.ofNat 0x3001) = .ok (some (.ofAddress 2 (.ofNat 0x4001))) ∧
      c.canonicalIdentity L' (.name "alpha") (.ofNat 0x3001) = .ok (some (.ofAddress 2 (.ofNat 0x4001))) := by
  intro L c
  have hclient : (Session.after (.ofConfig .testing) overwrittenSteps).client? = some c := rfl
  have hcheck : L.checkSend 1 (.ofNat 0xa) (.ofNat 0x3001) (.ofNat 60) 2 =
      .ok (.ofAddress 2 (.ofNat 0x4001), .ofNat 0x1100) := by decide +kernel
  obtain ⟨home, hhome⟩ : ∃ home, L.homes.get? 1 = some home := ⟨_, rfl⟩
  obtain ⟨router, remote, -, -, -, hsend⟩ := Ledger.send_of_home hcheck hhome (.ofNat 0xb)
  have hcarries := (Ledger.send_accepted hsend).1.2 (Ledger.checkSend_eq_ok_iff.1 hcheck).2.2.1
  have href : c.resolve (.name "alpha") = .ok 1 := by decide +kernel
  exact ⟨_, _, hsend, hcarries,
    canonicalIdentity_of_send hclient href rfl rfl hsend hcarries (by decide) (by decide)⟩

end Client

end TokenBridge
