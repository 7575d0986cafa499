import TokenBridge.Proofs.Ledger.Transaction
import TokenBridge.Proofs.Message
import TokenBridge.Transfer

/-!
# Reading an announcement back

The receipt of a launch has one log, in which the home announces the message. Reading the transfer off that
receipt gives the transfer that was launched (`ofReceipt_logOf`): the announcement is the only one, its hash
and its route are those of the message, and message and body read back as they were laid out. Conversely, a transfer
that is read off any receipt is the one that the only announcement of the home tells of (`ofReceipt_eq_ok`).
-/

namespace TokenBridge.Transfer

theorem onlyDispatch_logOf (home : Home) (message : Message) (transaction : Word) (block : UInt64)
    (succeeded : Bool) :
    onlyDispatch home.address ⟨transaction, block, succeeded, [Ledger.logOf home message]⟩ =
      .ok (Ledger.announcementOf home message) := by
  simp [onlyDispatch, Receipt.dispatchesOf, Ledger.logOf, Log.dispatchOf?]

/-- The receipt with the announcement of a message that carries a transfer tells of that transfer. -/
theorem ofReceipt_logOf (home : Home) (message : Message) (action : TransferAction)
    (hbody : message.body = action.encode) (transaction : Word) (block : UInt64) (succeeded : Bool) :
    ofReceipt message.origin home.address
        ⟨transaction, block, succeeded, [Ledger.logOf home message]⟩ =
      .ok ⟨Ledger.announcementOf home message, message, action,
        ⟨transaction, block, succeeded, [Ledger.logOf home message]⟩⟩ := by
  have hleaf : ¬ Message.leaf (Ledger.announcementOf home message).message ≠
      (Ledger.announcementOf home message).messageHash := not_not_intro rfl
  have hmessage : Message.decode (Ledger.announcementOf home message).message = .ok message :=
    message.decode_encode
  have hroute : ¬ (message.origin ≠ message.origin ∨
      message.route ≠ Route.unpack (Ledger.announcementOf home message).packedRoute) := by
    have hunpack : Route.unpack (Ledger.announcementOf home message).packedRoute = message.route :=
      Route.unpack_pack message.route
    rw [hunpack]
    simp
  rw [ofReceipt, onlyDispatch_logOf]
  simp only [Outcome.mapError_ok, Outcome.ok_bind]
  rw [if_neg hleaf, hmessage]
  simp only [Outcome.mapError_ok, Outcome.ok_bind]
  rw [if_neg hroute, hbody, action.decode_encode]
  rfl

/-- A receipt that has lost its logs tells of no transfer. -/
theorem ofReceipt_cleared (origin : DomainId) (home : Address) (receipt : Receipt) (t : Transfer) :
    ofReceipt origin home { receipt with logs := [] } ≠ .ok t := by
  intro h
  cases h

/-- A receipt that has its announcement twice tells of no transfer. -/
theorem ofReceipt_doubled (origin : DomainId) (home : Home) (message : Message) {receipt : Receipt}
    (hlogs : receipt.logs = [Ledger.logOf home message]) (t : Transfer) :
    ofReceipt origin home.address { receipt with logs := receipt.logs ++ receipt.logs } ≠ .ok t := by
  intro h
  obtain ⟨dispatch, hdispatch, -⟩ := Outcome.bind_eq_ok.1 h
  rw [hlogs] at hdispatch
  simp [onlyDispatch, Receipt.dispatchesOf, Ledger.logOf, Log.dispatchOf?] at hdispatch

/-- A transfer that is read off a receipt is the one that the only announcement of the home tells of. -/
theorem ofReceipt_eq_ok {origin : DomainId} {home : Address} {receipt : Receipt} {t : Transfer}
    (h : ofReceipt origin home receipt = .ok t) :
    receipt.dispatchesOf home = [t.dispatch] ∧ t.leaf = Message.leaf t.dispatch.message ∧
      Message.decode t.dispatch.message = .ok t.message := by
  obtain ⟨dispatch, hdispatch, h⟩ := Outcome.bind_eq_ok.1 h
  have honly : receipt.dispatchesOf home = [dispatch] := by
    rw [Outcome.mapError_eq_ok, onlyDispatch] at hdispatch
    split at hdispatch
    · cases hdispatch
    · next heq => rw [heq, Except.ok.inj hdispatch]
    · cases hdispatch
  split at h
  · cases h
  · next hleaf =>
    obtain ⟨message, hmessage, h⟩ := Outcome.bind_eq_ok.1 h
    split at h
    · cases h
    · obtain ⟨action, -, h⟩ := Outcome.bind_eq_ok.1 h
      cases h
      exact ⟨honly, (not_not.1 hleaf).symm, Outcome.mapError_eq_ok.1 hmessage⟩

/-- A receipt with the announcement of a message tells of no transfer but that of the message, even if it has lost
its logs or has them twice. -/
theorem message_of_ofReceipt {origin : DomainId} {address : Address} {home : Home} {message : Message}
    {known receipt : Receipt} {t : Transfer} (hlogs : known.logs = [Ledger.logOf home message])
    (hreceipt : receipt = known ∨ receipt = { known with logs := [] } ∨
      receipt = { known with logs := known.logs ++ known.logs })
    (h : ofReceipt origin address receipt = .ok t) :
    t.message = message ∧ t.leaf = Message.leaf message.encode := by
  obtain ⟨honly, hleaf, hmessage⟩ := ofReceipt_eq_ok h
  have hdispatch : t.dispatch = Ledger.announcementOf home message := by
    by_cases haddress : home.address = address
    · rcases hreceipt with rfl | rfl | rfl <;>
        simp [Receipt.dispatchesOf, hlogs, Ledger.logOf, Log.dispatchOf?, haddress] at honly
      exact honly.symm
    · rcases hreceipt with rfl | rfl | rfl <;>
        simp [Receipt.dispatchesOf, hlogs, Ledger.logOf, Log.dispatchOf?, haddress] at honly
  rw [hdispatch] at hleaf hmessage
  have hdecode : Message.decode (Ledger.announcementOf home message).message = .ok message :=
    message.decode_encode
  exact ⟨Except.ok.inj (hmessage.symm.trans hdecode), hleaf⟩

end TokenBridge.Transfer
