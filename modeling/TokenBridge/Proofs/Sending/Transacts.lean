import TokenBridge.Client.Send
import TokenBridge.Proofs.Ledger.Move

/-!
# Sending only transacts

What sending does to the ledger is transactions alone, on whichever way it ends.
-/

namespace TokenBridge

namespace Action

variable {α β : Type}

/-- A chain ends where its first step fails, and goes on from there where it does not. -/
theorem on_bind_cases (a : Action α) (f : α → Action β) (n : Network) :
    (∃ e n', a.on n = (.error e, n') ∧ (a >>= f).on n = (.error e, n')) ∨
      ∃ value n', a.on n = (.ok value, n') ∧ (a >>= f).on n = (f value).on n' := by
  rw [on_bind]
  rcases a.on n with ⟨_ | _, n'⟩
  · exact .inl ⟨_, _, rfl, rfl⟩
  · exact .inr ⟨_, _, rfl, rfl⟩

/-- A computation that does nothing but transactions to the ledger, on whichever way it ends. -/
def Transacts (a : Action α) : Prop := ∀ n, Ledger.Transacted n.ledger (a.on n).2.ledger

theorem transacts_pure (value : α) : (pure value : Action α).Transacts := fun n => .refl n.ledger

theorem transacts_read (f : Ledger → Except BridgeError α) : (read f).Transacts := fun n =>
  .refl n.ledger

theorem transacts_ofExcept (result : Except BridgeError α) : (ofExcept result).Transacts := fun n =>
  .refl n.ledger

theorem transacts_submit (domain : DomainId) (operation : Operation)
    {f : Ledger → Except ChainError Word × Ledger} (hf : ∀ L, Ledger.Transacted L (f L).2) :
    (submit domain operation f).Transacts := fun n => hf n.ledger

theorem Transacts.bind {a : Action α} {f : α → Action β} (ha : a.Transacts)
    (hf : ∀ value, (f value).Transacts) : (a >>= f).Transacts := by
  intro n
  have hn := ha n
  rcases on_bind_cases a f n with ⟨e, n', han, heq⟩ | ⟨value, n', han, heq⟩
  · rw [han] at hn
    rw [heq]
    exact hn
  · rw [han] at hn
    rw [heq]
    exact hn.trans (hf value n')

theorem Transacts.of_on {a : Action α} (ha : a.Transacts) {n n' : Network} {result : Except BridgeError α}
    (h : a.on n = (result, n')) : Ledger.Transacted n.ledger n'.ledger := by
  have hn := ha n
  rwa [h] at hn

end Action

namespace Client

/-- Waiting does nothing to the ledger. -/
theorem transacts_confirm (c : Client) (domain : DomainId) (operation : Operation) (transaction : Word) :
    (c.confirm domain operation transaction).Transacts := by
  intro n
  rw [confirm]
  split
  · exact .refl n.ledger
  · split
    · exact .refl n.ledger
    · exact .refl n.ledger

theorem transacts_ensureAllowance (c : Client) (p : Plan) (amount : Quantity) :
    (c.ensureAllowance p amount).Transacts := by
  refine (Action.transacts_read _).bind fun allowed => ?_
  split
  · refine (Action.transacts_submit _ _ fun L => (Ledger.Call.approve p.representation _ _).transacted L).bind ?_
    exact fun approval => (c.transacts_confirm _ _ approval).bind fun _ => Action.transacts_pure ()
  · exact Action.transacts_pure ()

theorem transacts_send (c : Client) (request : TransferRequest) : (c.send request).Transacts := by
  refine (Action.transacts_read _).bind fun p => ?_
  refine (c.transacts_ensureAllowance p request.amount).bind fun _ => ?_
  refine (Action.transacts_submit _ _ fun L => (Ledger.Call.send p.router _ _ _ _).transacted L).bind
    fun transaction => ?_
  exact (c.transacts_confirm _ _ transaction).bind fun receipt => Action.transacts_ofExcept _

theorem transacts_sendNative (c : Client) (request : NativeRequest) :
    (c.sendNative request).Transacts := by
  refine (Action.transacts_ofExcept _).bind fun ⟨origin, destination, helper⟩ => ?_
  refine (Action.transacts_submit _ _ fun L => (Ledger.Call.sendNative helper _ _ _).transacted L).bind
    fun transaction => ?_
  exact (c.transacts_confirm _ _ transaction).bind fun receipt => Action.transacts_ofExcept _

end Client

end TokenBridge
