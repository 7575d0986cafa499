import TokenBridge.Document.Transfer
import TokenBridge.Proofs.Document

/-!
# Transfers survive being kept

What a transfer is kept as is read as that transfer again (`Transfer.reads`), whatever fields its records have gained
meanwhile that nobody asks for (`Document.Unknown`). There is one lemma for each record, in the order of their nesting;
each says of every field that it is found and read.

An event is the one object that may gain nothing, for it is told by its only field.
-/

namespace TokenBridge

/-- An object may gain any field that it does not have, unless all it has is the kind of an event. -/
def Document.Unknown : Document.Gainable := fun names _ _ => names ∉ [["Dispatch"], ["Approval"], ["Other"]]

open Document

variable {may : Gainable}

theorem TokenId.reads (t : TokenId) : Reads may TokenId.ofDocument? t.toDocument t := by
  intro d hd
  obtain ⟨fields, rfl, hfields, h⟩ := hd.of_record ["domain", "id"] rfl (by decide)
  have hdomain := h.required_eq_some "domain" rfl (reads_uint32 may t.domain)
  have hid := h.required_eq_some "id" rfl (reads_word may t.id)
  simp [ofDocument?, record?, object?, hfields, hdomain, hid]

theorem Dispatch.reads (a : Dispatch) : Reads may Dispatch.ofDocument? a.toDocument a := by
  intro d hd
  obtain ⟨fields, rfl, hfields, h⟩ :=
    hd.of_record ["message_hash", "leaf_index", "destination_and_nonce", "committed_root", "message"] rfl (by decide)
  have hhash := h.required_eq_some "message_hash" rfl (reads_word may a.messageHash)
  have hleaf := h.required_eq_some "leaf_index" rfl (reads_quantity may a.leafIndex)
  have hroute := h.required_eq_some "destination_and_nonce" rfl (reads_uint64 may a.packedRoute)
  have hroot := h.required_eq_some "committed_root" rfl (reads_word may a.committedRoot)
  have hmessage := h.required_eq_some "message" rfl (reads_bytes may a.message)
  simp [ofDocument?, record?, object?, hfields, hhash, hleaf, hroute, hroot, hmessage]

/-- The one field of an event is all that the event has, and it is read as the kind that it names. -/
theorem Event.reads (e : Event) : Reads Unknown Event.ofDocument? e.toDocument e := by
  have hwrapper : ∀ kind ∈ ["Dispatch", "Approval", "Other"], ∀ following field, ¬ Unknown [kind] following field := by
    simp [Unknown]
  intro d hd
  obtain ⟨kind, inner, hkind, heq⟩ : ∃ kind inner, kind ∈ ["Dispatch", "Approval", "Other"] ∧
      e.toDocument = .object [(kind, inner)] := by
    cases e <;> exact ⟨_, _, by simp, rfl⟩
  rw [heq] at hd
  obtain ⟨fields, rfl, hfields⟩ := hd.of_object
  obtain ⟨inner', rfl, hinner⟩ := hfields.of_single (hwrapper kind hkind)
  cases e with
  | dispatch a =>
    cases heq
    simp [ofDocument?, a.reads inner' hinner]
  | approval owner spender value =>
    cases heq
    obtain ⟨fields, rfl, hfields, h⟩ := hinner.of_record ["owner", "spender", "value"] rfl (by decide)
    have howner := h.required_eq_some "owner" rfl (reads_address Unknown owner)
    have hspender := h.required_eq_some "spender" rfl (reads_address Unknown spender)
    have hvalue := h.required_eq_some "value" rfl (reads_quantity Unknown value)
    simp [ofDocument?, approval?, object?, hfields, howner, hspender, hvalue]
  | other topic =>
    cases heq
    obtain ⟨fields, rfl, hfields, h⟩ := hinner.of_record ["topic"] rfl (by decide)
    have htopic := h.required_eq_some "topic" rfl (reads_word Unknown topic)
    simp [ofDocument?, other?, object?, hfields, htopic]

theorem Log.reads (l : Log) : Reads Unknown Log.ofDocument? l.toDocument l := by
  intro d hd
  obtain ⟨fields, rfl, hfields, h⟩ := hd.of_record ["address", "event"] rfl (by decide)
  have haddress := h.required_eq_some "address" rfl (reads_address Unknown l.address)
  have hevent := h.required_eq_some "event" rfl l.event.reads
  simp [ofDocument?, record?, object?, hfields, haddress, hevent]

theorem Receipt.reads (r : Receipt) : Reads Unknown Receipt.ofDocument? r.toDocument r := by
  intro d hd
  obtain ⟨fields, rfl, hfields, h⟩ :=
    hd.of_record ["transaction_hash", "block_number", "status", "logs"] rfl (by decide)
  have htransaction := h.required_eq_some "transaction_hash" rfl (reads_word Unknown r.transaction)
  have hblock := h.required_eq_some "block_number" rfl (reads_uint64 Unknown r.block)
  have hstatus := h.required_eq_some "status" rfl (reads_bool Unknown r.succeeded)
  have hlogs := h.required_eq_some "logs" rfl (reads_list r.logs fun l _ => l.reads)
  simp [ofDocument?, record?, object?, hfields, htransaction, hblock, hstatus, hlogs]

theorem Message.reads (m : Message) : Reads may Message.ofDocument? m.toDocument m := by
  intro d hd
  obtain ⟨fields, rfl, hfields, h⟩ :=
    hd.of_record ["origin", "sender", "nonce", "destination", "recipient", "body"] rfl (by decide)
  have horigin := h.required_eq_some "origin" rfl (reads_uint32 may m.origin)
  have hsender := h.required_eq_some "sender" rfl (reads_word may m.sender)
  have hnonce := h.required_eq_some "nonce" rfl (reads_uint32 may m.nonce)
  have hdestination := h.required_eq_some "destination" rfl (reads_uint32 may m.destination)
  have hrecipient := h.required_eq_some "recipient" rfl (reads_word may m.recipient)
  have hbody := h.required_eq_some "body" rfl (reads_bytes may m.body)
  simp [ofDocument?, record?, object?, hfields, horigin, hsender, hnonce, hdestination, hrecipient, hbody]

theorem TransferAction.reads (a : TransferAction) : Reads may TransferAction.ofDocument? a.toDocument a := by
  intro d hd
  obtain ⟨fields, rfl, hfields, h⟩ := hd.of_record ["token", "to", "amount"] rfl (by decide)
  have htoken := h.required_eq_some "token" rfl a.token.reads
  have hto := h.required_eq_some "to" rfl (reads_word may a.beneficiary)
  have hamount := h.required_eq_some "amount" rfl (reads_quantity may a.amount)
  simp [ofDocument?, record?, object?, hfields, htoken, hto, hamount]

/-- **A kept transfer is read as that transfer**, whatever unknown fields its records gained. -/
theorem Transfer.reads (t : Transfer) : Reads Unknown Transfer.ofDocument? t.toDocument t := by
  intro d hd
  obtain ⟨fields, rfl, hfields, h⟩ := hd.of_record ["dispatch", "message", "action", "receipt"] rfl (by decide)
  have hdispatch := h.required_eq_some "dispatch" rfl t.dispatch.reads
  have hmessage := h.required_eq_some "message" rfl t.message.reads
  have haction := h.required_eq_some "action" rfl t.action.reads
  have hreceipt := h.required_eq_some "receipt" rfl t.receipt.reads
  simp [ofDocument?, record?, object?, hfields, hdispatch, hmessage, haction, hreceipt]

end TokenBridge
