import TokenBridge.Handle
import TokenBridge.Proofs.Ledger.Change

/-!
# What handles do

A handle that is bound to a signer asks the ledger about its own domain and address, and what it submits is
signed by that signer. Without a signer nothing is submitted and the ledger stays as it is.
-/

namespace TokenBridge

namespace Handle

theorem sender_eq_ok_iff {h : Handle} {sender : Address} :
    h.sender = .ok sender ↔ h.connection.bind Connection.signerAddress? = some sender := by
  rw [Handle.sender]
  cases h.connection with
  | none => simp
  | some connection => cases hs : connection.signerAddress? <;> simp [hs]

theorem checkConnected_eq_ok_iff {h : Handle} {u : Unit} : h.checkConnected = .ok u ↔ h.connection.isSome := by
  rw [checkConnected]
  cases h.connection <;> simp

/-- A handle that is bound to a signer can read. -/
theorem checkConnected_of_sender {h : Handle} {sender : Address} (hs : h.sender = .ok sender) :
    h.checkConnected = .ok () := by
  obtain ⟨connection, hconnection, -⟩ := Option.bind_eq_some_iff.1 (sender_eq_ok_iff.1 hs)
  rw [checkConnected_eq_ok_iff, hconnection]
  rfl

theorem submit_of_sender {h : Handle} {sender : Address} (hs : h.sender = .ok sender) (L : Ledger)
    (transact : Address → Except ChainError Word × Ledger) : h.submit L transact = transact sender := by
  rw [submit, hs]

end Handle

namespace TokenHandle

theorem allowance_of_sender {h : TokenHandle} {sender : Address} (hs : h.sender = .ok sender) (L : Ledger)
    (owner spender : Address) :
    h.allowance L owner spender = L.allowance h.domain h.address owner spender := by
  rw [allowance, Handle.checkConnected_of_sender hs]
  rfl

theorem approve_of_sender {h : TokenHandle} {sender : Address} (hs : h.sender = .ok sender) (L : Ledger)
    (spender : Address) (amount : Quantity) :
    h.approve L spender amount = L.approve h.domain h.address sender spender amount :=
  Handle.submit_of_sender hs L _

end TokenHandle

namespace RouterHandle

theorem localAddress_of_connected {h : RouterHandle} (hh : h.checkConnected = .ok ()) (L : Ledger)
    (token : TokenId) : h.localAddress L token = L.localAddress h.domain token := by
  rw [localAddress, hh]
  rfl

theorem canonicalToken_of_connected {h : RouterHandle} (hh : h.checkConnected = .ok ()) (L : Ledger)
    (representation : Address) :
    h.canonicalToken L representation = L.canonicalToken h.domain representation := by
  rw [canonicalToken, hh]
  rfl

theorem localAddress_of_sender {h : RouterHandle} {sender : Address} (hs : h.sender = .ok sender)
    (L : Ledger) (token : TokenId) : h.localAddress L token = L.localAddress h.domain token :=
  localAddress_of_connected (Handle.checkConnected_of_sender hs) L token

theorem send_of_sender {h : RouterHandle} {sender : Address} (hs : h.sender = .ok sender) (L : Ledger)
    (token : Address) (amount : Quantity) (destination : DomainId) (recipient : Word) :
    h.send L token amount destination recipient =
      L.send h.domain sender token amount destination recipient :=
  Handle.submit_of_sender hs L _

end RouterHandle

theorem HelperHandle.send_of_sender {h : HelperHandle} {sender : Address} (hs : h.sender = .ok sender) (L : Ledger)
    (destination : DomainId) (recipient : Word) (value : Quantity) :
    h.send L destination recipient value = L.sendNative h.domain sender destination recipient value :=
  Handle.submit_of_sender hs L _

end TokenBridge
