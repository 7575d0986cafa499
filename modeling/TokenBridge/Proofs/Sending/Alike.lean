import TokenBridge.Proofs.Sending.Transacts
import TokenBridge.Proofs.Ledger.Agreement

/-!
# Runs that end alike

Two failures are alike if they differ in nothing but the hash of a transaction, and two transfers are alike if they
differ in nothing but the hash and the block of the receipt. Reading a transfer off receipts that are alike gives
transfers that are alike, or fails alike (`Transfer.ofReceipt_alike`).

For what a client does on a network there are two judgments. `Action.Keeps` says that the contracts of a domain stay
as they are, and `Action.Alike` compares two computations that run on networks whose ledgers agree on a domain: they
give back what is related, or fail alike, and the ledgers agree again. What has both properties for one domain is
confined to it (`Action.Confined`), and that is put together from the steps (`Confined.bind`). What is confined to
different domains commutes (`Confined.commute`).
-/

namespace TokenBridge

/-! ### Failures and transfers -/

/-- A failure on a domain without the hash of the transaction. -/
def ChainError.unplaced : ChainError → ChainError
  | .reverted _ => .reverted .zero
  | .dropped _ => .dropped .zero
  | .timedOut _ => .timedOut .zero
  | e => e

/-- An inconsistency without the hash of the transaction. -/
def Inconsistency.unplaced : Inconsistency → Inconsistency
  | .noDispatch home _ => .noDispatch home .zero
  | .repeatedDispatch _ => .repeatedDispatch .zero
  | .wrongHash _ => .wrongHash .zero
  | .wrongRoute _ => .wrongRoute .zero
  | i => i

/-- A failure of the bridge without the hash of the transaction. -/
def BridgeError.unplaced : BridgeError → BridgeError
  | .inconsistent i => .inconsistent i.unplaced
  | .queryFailed domain source => .queryFailed domain source.unplaced
  | .chain domain operation source => .chain domain operation source.unplaced
  | e => e

/-- Two transfers differ in nothing but the hash and the block of the receipt. -/
structure Transfer.Alike (t t' : Transfer) : Prop where
  /-- The announcement is the same. -/
  dispatch : t'.dispatch = t.dispatch
  /-- The message is the same. -/
  message : t'.message = t.message
  /-- What is moved is the same. -/
  action : t'.action = t.action
  /-- The leaf is the same. -/
  leaf : t'.leaf = t.leaf
  /-- The receipts are alike. -/
  receipt : t.receipt.Alike t'.receipt

namespace Outcome

variable {α β γ δ : Type} {R : α → β → Prop} {S : γ → δ → Prop}

/-- Two computations end alike: both give a value, and the values are related; or both fail, and the failures differ
in nothing but the hash of a transaction. -/
inductive Alike (R : α → β → Prop) : Except BridgeError α → Except BridgeError β → Prop where
  /-- Both give a value. -/
  | ok {a : α} {b : β} (h : R a b) : Alike R (.ok a) (.ok b)
  /-- Both fail. -/
  | error {e e' : BridgeError} (h : e'.unplaced = e.unplaced) : Alike R (.error e) (.error e')

theorem Alike.of_eq {x y : Except BridgeError α} (h : y = x) : Alike Eq x y := by
  subst h
  cases y with
  | error e => exact .error rfl
  | ok a => exact .ok rfl

theorem Alike.bind {x : Except BridgeError α} {y : Except BridgeError β} {f : α → Except BridgeError γ}
    {g : β → Except BridgeError δ} (hxy : Alike R x y) (hfg : ∀ a b, R a b → Alike S (f a) (g b)) :
    Alike S (x >>= f) (y >>= g) := by
  cases hxy with
  | ok h => exact hfg _ _ h
  | error h => exact .error h

end Outcome

namespace Transfer

theorem onlyDispatch_alike {r r' : Receipt} (h : r.Alike r') (home : Address) :
    Outcome.Alike Eq ((onlyDispatch home r).mapError BridgeError.inconsistent)
      ((onlyDispatch home r').mapError BridgeError.inconsistent) := by
  have hdispatches : r'.dispatchesOf home = r.dispatchesOf home := by
    rw [Receipt.dispatchesOf, Receipt.dispatchesOf, h.logs]
  rw [onlyDispatch, onlyDispatch, hdispatches]
  cases r.dispatchesOf home with
  | nil => exact .error rfl
  | cons dispatch rest =>
    cases rest with
    | nil => exact .ok rfl
    | cons _ _ => exact .error rfl

/-- **Receipts that are alike** tell of transfers that are alike. -/
theorem ofReceipt_alike {r r' : Receipt} (h : r.Alike r') (origin : DomainId) (home : Address) :
    Outcome.Alike Alike (ofReceipt origin home r) (ofReceipt origin home r') := by
  refine (onlyDispatch_alike h home).bind fun dispatch _ hdispatch => ?_
  subst hdispatch
  by_cases hleaf : Message.leaf dispatch.message ≠ dispatch.messageHash
  · rw [if_pos hleaf, if_pos hleaf]
    exact .error rfl
  · rw [if_neg hleaf, if_neg hleaf]
    refine (Outcome.Alike.of_eq rfl).bind fun message _ hmessage => ?_
    subst hmessage
    by_cases hroute : message.origin ≠ origin ∨ message.route ≠ Route.unpack dispatch.packedRoute
    · rw [if_pos hroute, if_pos hroute]
      exact .error rfl
    · rw [if_neg hroute, if_neg hroute]
      refine (Outcome.Alike.of_eq rfl).bind fun action _ haction => ?_
      subst haction
      exact .ok ⟨rfl, rfl, rfl, rfl, h⟩

end Transfer

/-! ### Computations on networks -/

namespace Action

variable {α β γ δ : Type} {domain : DomainId} {R : α → β → Prop} {S : γ → δ → Prop}

/-- A computation leaves the contracts of a domain as they are. -/
def Keeps (domain : DomainId) (a : Action α) : Prop := ∀ n, Ledger.AgreeOn domain n.ledger (a.on n).2.ledger

/-- Two computations end alike on networks whose ledgers agree on a domain, and the ledgers agree again. -/
def Alike (domain : DomainId) (R : α → β → Prop) (a : Action α) (b : Action β) : Prop :=
  ∀ n m, Ledger.AgreeOn domain n.ledger m.ledger →
    Outcome.Alike R (a.on n).1 (b.on m).1 ∧ Ledger.AgreeOn domain (a.on n).2.ledger (b.on m).2.ledger

theorem keeps_pure (domain : DomainId) (value : α) : (pure value : Action α).Keeps domain := fun n =>
  .refl domain n.ledger

theorem keeps_read (domain : DomainId) (f : Ledger → Except BridgeError α) : (read f).Keeps domain := fun n =>
  .refl domain n.ledger

theorem keeps_ofExcept (domain : DomainId) (result : Except BridgeError α) : (ofExcept result).Keeps domain :=
  fun n => .refl domain n.ledger

theorem Keeps.bind {a : Action α} {f : α → Action β} (ha : a.Keeps domain)
    (hf : ∀ n n' value, a.on n = (.ok value, n') → (f value).Keeps domain) : (a >>= f).Keeps domain := by
  intro n
  have hn := ha n
  rcases on_bind_cases a f n with ⟨e, n', han, heq⟩ | ⟨value, n', han, heq⟩
  · rw [han] at hn
    rw [heq]
    exact hn
  · rw [han] at hn
    rw [heq]
    exact hn.trans (hf n n' value han n')

theorem alike_pure {a : α} {b : β} (h : R a b) : Alike domain R (pure a) (pure b) := fun _ _ hagree =>
  ⟨.ok h, hagree⟩

theorem alike_read {f : Ledger → Except BridgeError α} {g : Ledger → Except BridgeError β}
    (h : ∀ L M, Ledger.AgreeOn domain L M → Outcome.Alike R (f L) (g M)) : Alike domain R (read f) (read g) :=
  fun _ _ hagree => ⟨h _ _ hagree, hagree⟩

theorem alike_ofExcept {x : Except BridgeError α} {y : Except BridgeError β} (h : Outcome.Alike R x y) :
    Alike domain R (ofExcept x) (ofExcept y) := fun _ _ hagree => ⟨h, hagree⟩

theorem Alike.bind {a : Action α} {b : Action β} {f : α → Action γ} {g : β → Action δ} (hab : Alike domain R a b)
    (hfg : ∀ x y, R x y → Alike domain S (f x) (g y)) : Alike domain S (a >>= f) (b >>= g) := by
  intro n m hagree
  obtain ⟨houtcome, hagree'⟩ := hab n m hagree
  rw [on_bind, on_bind]
  generalize a.on n = run, b.on m = run' at houtcome hagree' ⊢
  obtain ⟨x, n'⟩ := run
  obtain ⟨y, m'⟩ := run'
  cases houtcome with
  | ok h => exact hfg _ _ h n' m' hagree'
  | error h => exact ⟨.error h, hagree'⟩

/-- A computation concerns a domain alone: it leaves the contracts of every other domain as they are, and ends alike
on networks whose ledgers agree on the domain. -/
structure Confined (domain : DomainId) (R : α → α → Prop) (a : Action α) : Prop where
  /-- The contracts of every other domain stay as they are. -/
  keeps : ∀ other, other ≠ domain → a.Keeps other
  /-- It ends alike on networks whose ledgers agree on the domain. -/
  alike : a.Alike domain R a

variable {T : β → β → Prop} {U : α → α → Prop} {a : Action α} {f : α → Action β}

/-- What a computation gives back is related to itself, so what comes next only has to be looked at for such values. -/
theorem Confined.bind (ha : a.Confined domain U)
    (hkeeps : ∀ x, U x x → ∀ other, other ≠ domain → (f x).Keeps other)
    (halike : ∀ x y, U x y → Alike domain T (f x) (f y)) : (a >>= f).Confined domain T where
  keeps other hother := by
    refine (ha.keeps other hother).bind fun n n' value hvalue => hkeeps value ?_ other hother
    -- Every ledger agrees with itself, so what comes back is related to itself.
    have hself := (ha.alike n n (.refl domain n.ledger)).1
    rw [hvalue] at hself
    cases hself
    assumption
  alike := ha.alike.bind halike

/-- Where the same value is given back on both networks, what comes next has to be confined for each such value. -/
theorem Confined.bind_of_eq {P : α → Prop} (ha : a.Confined domain fun x y => y = x ∧ P x)
    (hf : ∀ x, P x → (f x).Confined domain T) : (a >>= f).Confined domain T := by
  refine ha.bind (fun x hx other hother => (hf x hx.2).keeps other hother) ?_
  rintro x _ ⟨rfl, hx⟩
  exact (hf _ hx).alike

theorem confined_pure {value : α} (h : U value value) : Confined domain U (pure value) :=
  ⟨fun other _ => keeps_pure other value, alike_pure h⟩

theorem confined_ofExcept {result : Except BridgeError α} (h : Outcome.Alike U result result) :
    Confined domain U (ofExcept result) :=
  ⟨fun other _ => keeps_ofExcept other result, alike_ofExcept h⟩

/-- A read is confined to a domain if it gives the same on ledgers that agree on the domain. -/
theorem confined_read {P : α → Prop} {f : Ledger → Except BridgeError α}
    (hf : ∀ L M, Ledger.AgreeOn domain L M → f M = f L) (hP : ∀ L value, f L = .ok value → P value) :
    Confined domain (fun x y => y = x ∧ P x) (read f) := by
  refine ⟨fun other _ => keeps_read other f, alike_read fun L M hagree => ?_⟩
  rw [hf L M hagree]
  cases hL : f L with
  | error e => exact .error rfl
  | ok value => exact .ok ⟨rfl, hP L value hL⟩

/-- **Computations that are confined to different domains commute**: each of them ends alike whether it comes first or
second, and the ledgers agree on all domains in the end. -/
theorem Confined.commute {other : DomainId} {b : Action β} (ha : a.Confined domain U) (hb : b.Confined other T)
    (hne : domain ≠ other) (n : Network) :
    Outcome.Alike U (a.on n).1 (a.on (b.on n).2).1 ∧ Outcome.Alike T (b.on (a.on n).2).1 (b.on n).1 ∧
      ∀ d, Ledger.AgreeOn d (b.on (a.on n).2).2.ledger (a.on (b.on n).2).2.ledger := by
  obtain ⟨hfirst, hagree⟩ := ha.alike n (b.on n).2 (hb.keeps domain hne n)
  obtain ⟨hsecond, hagree'⟩ := hb.alike (a.on n).2 n (ha.keeps other hne.symm n).symm
  refine ⟨hfirst, hsecond, fun d => ?_⟩
  by_cases hd : d = domain
  · subst hd
    exact (hb.keeps d hne (a.on n).2).symm.trans hagree
  · by_cases hd' : d = other
    · subst hd'
      exact hagree'.trans (ha.keeps d hd (b.on n).2)
    · -- On a third domain both ledgers agree with the one that there was in the beginning.
      have hforward := (ha.keeps d hd n).trans (hb.keeps d hd' (a.on n).2)
      exact hforward.symm.trans ((hb.keeps d hd' n).trans (ha.keeps d hd (b.on n).2))

end Action

end TokenBridge
