import TokenBridge.Proofs.Ledger.Effect
import TokenBridge.Proofs.Sending.Stages
import TokenBridge.Proofs.Sending.Transacts
import TokenBridge.Proofs.Transfer

/-!
# Launching a transfer

On a coherent ledger, a transfer that passes the checks of the router is launched, and the receipt of its
transaction tells of just that transfer (`transfer_on_of_checked`). Conversely, a transfer that is given back
was checked, on a domain whose transactions succeed, and what it moves is what the router checked
(`transfer_eq_ok`): a provider can lose or double the logs of the receipt, but then no transfer is read off it.
-/

namespace TokenBridge

/-- The transfer that the home of a domain launches. -/
def Ledger.launched (L : Ledger) (origin : DomainId) (home : Home) (message : Message)
    (action : TransferAction) : Transfer where
  dispatch := announcementOf home message
  message := message
  action := action
  receipt := L.nextReceipt origin [logOf home message]

namespace Client

variable {c : Client} {m : Network} {p : Plan} {d : DomainConfig} {b : BridgeConfig}
  {request : TransferRequest} {canonical : TokenId} {address : Address}

/-- A coherent ledger sends what its router has checked. -/
theorem send_of_coherent {L : Ledger} (hL : L.Coherent c.config) {origin destination : DomainId}
    {owner token : Address} {amount : Quantity} (hd : c.config.domain? origin = some d)
    (hb : d.bridge = some b)
    (hcheck : L.checkSend origin owner token amount destination = .ok (canonical, address))
    (recipient : Word) :
    address = b.router ∧ ∃ router remote home, L.routers.get? origin = some router ∧
      L.routers.get? destination = some remote ∧ L.homes.get? origin = some home ∧ home.address = d.home ∧
      L.send origin owner token amount destination recipient =
        (.ok (L.nextHash origin), L.sent origin token owner b.router amount destination home
          (Ledger.logOf home
            (Ledger.messageOf origin router home destination remote ⟨canonical, recipient, amount⟩))) := by
  obtain ⟨home, hhome, haddress⟩ := hL.home_of_config hd
  obtain ⟨router, remote, hrouter, hsame, hremote, hsend⟩ := Ledger.send_of_home hcheck hhome recipient
  obtain ⟨router', hrouter', hsame'⟩ := hL.router_of_config hd hb
  cases hrouter.symm.trans hrouter'
  have hb' : address = b.router := hsame.symm.trans hsame'
  subst hb'
  exact ⟨rfl, router, remote, home, hrouter, hremote, hhome, haddress, hsend⟩

/-- **A checked transfer** is launched and waited for, and its receipt tells of it. -/
theorem transfer_on_of_checked (hc : c.Sound) (hm : m.ledger.Coherent c.config) (hp : p.Bound)
    {provider : Provider} (hprovider : c.registry.provider? p.origin = some provider)
    (hd : c.config.domain? p.origin = some d) (hb : d.bridge = some b)
    (hcheck : m.ledger.checkSend p.origin p.owner p.representation.address request.amount p.destination =
      .ok (canonical, address)) :
    ∃ router remote home message t n',
      m.ledger.homes.get? p.origin = some home ∧
      message = Ledger.messageOf p.origin router home p.destination remote
        ⟨canonical, request.recipient.widen, request.amount⟩ ∧
      t = m.ledger.launched p.origin home message ⟨canonical, request.recipient.widen, request.amount⟩ ∧
      n' = waited ⟨m.ledger.sent p.origin p.representation.address p.owner b.router request.amount
        p.destination home (Ledger.logOf home message), m.waits⟩ provider (m.ledger.nextHash p.origin)
          d.confirmations ∧
      n'.ledger.receipt (m.ledger.nextHash p.origin) = .ok t.receipt ∧
      c.transferOf p.origin t.receipt = .ok t ∧
      (c.transfer p request).on m =
        (settle p.origin .send (m.ledger.nextHash p.origin) c.config.receiptTimeout
          (answer provider n' (m.ledger.nextHash p.origin)) >>= c.transferOf p.origin, n') := by
  obtain ⟨-, router, remote, home, -, -, hhome, haddress, hsend⟩ :=
    send_of_coherent hm hd hb hcheck request.recipient.widen
  refine ⟨router, remote, home, _, _, _, hhome, rfl, rfl, rfl, ?_, ?_, ?_⟩
  · exact Ledger.receipt_mined ..
  · rw [hc.transferOf_eq hd, ← haddress]
    exact Transfer.ofReceipt_logOf home _ _ rfl _ _ _
  · refine transfer_on_of_sent hprovider hd ?_
    rw [RouterHandle.send_of_sender hp.router_sender, hp.router_domain, hsend]

/-- Without a provider nothing is confirmed. -/
theorem transfer_on_of_disconnected (hprovider : c.registry.provider? p.origin = none) (t : Transfer) :
    ((c.transfer p request).on m).1 ≠ .ok t := by
  intro h
  rcases hsend : p.router.send m.ledger p.representation.address request.amount p.destination
    request.recipient.widen with ⟨e | transaction, L⟩
  · rw [transfer_on_of_refused hsend] at h
    cases h
  · have hon : (c.transfer p request).on m = (.error (.notConnected p.origin), { m with ledger := L }) :=
      conclude_on_of_disconnected hprovider hsend
    rw [hon] at h
    cases h

/-- **A transfer that is given back** was checked by the router, and moves what the router checked. -/
theorem transfer_eq_ok (hc : c.Sound) (hm : m.ledger.Coherent c.config) (hp : p.Bound)
    (hd : c.config.domain? p.origin = some d) (hb : d.bridge = some b) {t : Transfer} {n' : Network}
    (h : (c.transfer p request).on m = (.ok t, n')) :
    ∃ provider canonical address, c.registry.provider? p.origin = some provider ∧
      m.ledger.checkSend p.origin p.owner p.representation.address request.amount p.destination =
        .ok (canonical, address) ∧
      p.origin ∉ m.ledger.reverting ∧ t.token = canonical := by
  cases hprovider : c.registry.provider? p.origin with
  | none => exact absurd (congrArg Prod.fst h) (transfer_on_of_disconnected hprovider t)
  | some provider =>
    cases hcheck : m.ledger.checkSend p.origin p.owner p.representation.address request.amount
        p.destination with
    | error e =>
      have hsend : p.router.send m.ledger p.representation.address request.amount p.destination
          request.recipient.widen = (.error e, m.ledger) := by
        rw [RouterHandle.send_of_sender hp.router_sender, hp.router_domain, Ledger.send_of_refused hcheck]
      cases (transfer_on_of_refused hsend).symm.trans h
    | ok checked =>
      obtain ⟨canonical, address⟩ := checked
      obtain ⟨router, remote, home, message, launched, n'', hhome, hmessage, hlaunched, hn, hreceipt, hread,
        hon⟩ := transfer_on_of_checked hc hm hp hprovider hd hb hcheck
      have hresult := congrArg Prod.fst (hon.symm.trans h)
      obtain ⟨receipt, hsettle, ht⟩ := Outcome.bind_eq_ok.1 hresult
      have hconfirms := settle_eq_ok_iff.1 hsettle
      rw [answer, hreceipt] at hconfirms
      obtain ⟨hsucceeded, rfl | rfl | rfl⟩ := hconfirms.receipt
      · cases hread.symm.trans ht
        subst hlaunched
        exact ⟨provider, canonical, address, rfl, rfl, of_decide_eq_true hsucceeded, rfl⟩
      · -- Neither of the other two receipts tells of a transfer.
        rw [hc.transferOf_eq hd] at ht
        exact absurd ht (Transfer.ofReceipt_cleared _ _ _ t)
      · obtain ⟨home', hhome', haddress⟩ := hm.home_of_config hd
        cases hhome.symm.trans hhome'
        rw [hc.transferOf_eq hd, ← haddress] at ht
        exact absurd ht (Transfer.ofReceipt_doubled _ home message (by rw [hlaunched]; rfl) t)

end Client

end TokenBridge
