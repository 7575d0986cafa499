import TokenBridge.Ledger.Deployment
import TokenBridge.Proofs.Ledger.Transaction

/-!
# Changes of the ledger

Whatever happens to a ledger is one of the changes below: a deployment from outside, or a transaction.
Transactions leave alone what the routers know and the statuses of messages (`kept_transaction`), so the token
that an address represents and the status of a leaf are only changed from outside.
-/

namespace TokenBridge.Ledger

/-- Something that happens to a ledger. -/
inductive Change where
  /-- A token is put in place on its own domain. -/
  | deployToken (domain : DomainId) (address : Address)
  /-- A token is put in place that stands for the native asset. -/
  | deployNativeToken (domain : DomainId) (address : Address)
  /-- A representation of a token is put in place. -/
  | deployRepresentation (domain : DomainId) (token : TokenId) (address : Address)
  /-- An owner is given an amount of a token. -/
  | mint (domain : DomainId) (token owner : Address) (amount : Quantity)
  /-- An account is given native value. -/
  | fundNative (domain : DomainId) (owner : Address) (amount : Quantity)
  /-- What a spender may take is set. -/
  | setAllowance (domain : DomainId) (token owner spender : Address) (amount : Quantity)
  /-- A domain is made to fail, or to work again. -/
  | setFailing (domain : DomainId) (on : Bool)
  /-- The transactions of a domain are made to fail, or to succeed again. -/
  | setReverting (domain : DomainId) (on : Bool)
  /-- The status of a leaf is recorded. -/
  | setStatus (domain remote : DomainId) (leaf : Word) (status : Status)
  /-- An owner lets a spender take an amount. -/
  | approve (domain : DomainId) (token owner spender : Address) (amount : Quantity)
  /-- A router is asked to send a token. -/
  | send (domain : DomainId) (sender token : Address) (amount : Quantity) (destination : DomainId)
      (recipient : Word)
  /-- Native value is sent. -/
  | sendNative (domain : DomainId) (sender : Address) (destination : DomainId) (recipient : Word)
      (value : Quantity)

/-- Whether a change is a transaction. -/
def Change.isTransaction : Change → Bool
  | .approve .. | .send .. | .sendNative .. => true
  | _ => false

/-- The ledger after a change, whether a transaction in it is refused or not. -/
def apply (L : Ledger) : Change → Ledger
  | .deployToken domain address => L.deployToken domain address
  | .deployNativeToken domain address => L.deployNativeToken domain address
  | .deployRepresentation domain token address => L.deployRepresentation domain token address
  | .mint domain token owner amount => L.mint domain token owner amount
  | .fundNative domain owner amount => L.fundNative domain owner amount
  | .setAllowance domain token owner spender amount => L.setAllowance domain token owner spender amount
  | .setFailing domain on => L.setFailing domain on
  | .setReverting domain on => L.setReverting domain on
  | .setStatus domain remote leaf status => L.setStatus domain remote leaf status
  | .approve domain token owner spender amount => (L.approve domain token owner spender amount).2
  | .send domain sender token amount destination recipient =>
    (L.send domain sender token amount destination recipient).2
  | .sendNative domain sender destination recipient value =>
    (L.sendNative domain sender destination recipient value).2

/-- The ledger after changes. -/
def applyAll (L : Ledger) (changes : List Change) : Ledger := changes.foldl apply L

theorem applyAll_append (L : Ledger) (first rest : List Change) :
    L.applyAll (first ++ rest) = (L.applyAll first).applyAll rest :=
  List.foldl_append

/-- What every change keeps of a ledger holds after any changes. -/
theorem applyAll_of_apply {P : Ledger → Prop} (hstep : ∀ {L : Ledger} (change : Change), P L → P (L.apply change))
    {L : Ledger} (h : P L) (changes : List Change) : P (L.applyAll changes) := by
  induction changes generalizing L with
  | nil => exact h
  | cons change rest ih => exact ih (hstep change h)

/-! ### Routers -/

theorem get?_routers_updateRouter (L : Ledger) (d domain : DomainId) (f : Router → Router) :
    (L.updateRouter d f).routers.get? domain =
      (L.routers.get? domain).map fun router => if d = domain then f router else router := by
  rw [updateRouter, Table.get?_modify]
  by_cases hd : d = domain
  · simp [hd]
  · simp [hd]

/-- What a router learns does not move any router. -/
theorem address_updateRouter (L : Ledger) (d domain : DomainId) {f : Router → Router}
    (hf : ∀ router, (f router).address = router.address) :
    ((L.updateRouter d f).routers.get? domain).map Router.address =
      (L.routers.get? domain).map Router.address := by
  rw [get?_routers_updateRouter, Option.map_map]
  refine congrFun (congrArg Option.map (funext fun router => ?_)) _
  show (if d = domain then f router else router).address = router.address
  split
  · exact hf router
  · rfl

/-! ### Transactions -/

/-- Sending a token is refused and changes nothing; or the amount is taken and the announcement is refused; or
the amount is taken, the transfer is announced, and the transaction is mined. -/
theorem send_cases (L : Ledger) (domain : DomainId) (sender token : Address) (amount : Quantity)
    (destination : DomainId) (recipient : Word) :
    (∃ e, L.send domain sender token amount destination recipient = (.error e, L)) ∨
      ∃ address taken, taken = L.updateToken domain token (·.take sender address amount) ∧
        ((∃ e, L.send domain sender token amount destination recipient = (.error e, taken)) ∨
          ∃ canonical router remote home, taken.routers.get? domain = some router ∧
            taken.routers.get? destination = some remote ∧ taken.homes.get? domain = some home ∧
            L.send domain sender token amount destination recipient =
              (.ok (L.nextHash domain), (taken.announced domain home destination).mined domain sender
                (.send token amount destination)
                [logOf home (messageOf domain router home destination remote
                  ⟨canonical, recipient, amount⟩)])) := by
  cases hcheck : L.checkSend domain sender token amount destination with
  | error e => exact .inl ⟨e, send_of_refused hcheck recipient⟩
  | ok checked =>
    obtain ⟨canonical, address⟩ := checked
    rw [send_of_checked hcheck]
    refine .inr ⟨address, _, rfl, ?_⟩
    rcases launch_cases (L.updateToken domain token (·.take sender address amount)) domain sender
      destination ⟨canonical, recipient, amount⟩ (.send token amount destination) with
      ⟨e, h⟩ | ⟨router, remote, home, hrouter, hremote, hhome, h⟩
    · exact .inl ⟨e, h⟩
    · exact .inr ⟨canonical, router, remote, home, hrouter, hremote, hhome, h⟩

/-- Sending native value goes one of the same three ways. -/
theorem sendNative_cases (L : Ledger) (domain : DomainId) (sender : Address) (destination : DomainId)
    (recipient : Word) (value : Quantity) :
    (∃ e, L.sendNative domain sender destination recipient value = (.error e, L)) ∨
      (∃ e, L.sendNative domain sender destination recipient value =
        (.error e, L.takeNative domain sender value)) ∨
      ∃ token router remote home, L.routers.get? domain = some router ∧
        L.routers.get? destination = some remote ∧ L.homes.get? domain = some home ∧
        L.sendNative domain sender destination recipient value =
          (.ok (L.nextHash domain),
            ((L.takeNative domain sender value).announced domain home destination).mined domain sender
              (.sendNative value destination)
              [logOf home (messageOf domain router home destination remote
                ⟨.ofAddress domain token, recipient, value⟩)]) := by
  rw [sendNative]
  split
  · next e _ => exact .inl ⟨e, rfl⟩
  · next token _ =>
    refine .inr ?_
    rcases launch_cases (L.takeNative domain sender value) domain sender destination
      ⟨.ofAddress domain token, recipient, value⟩ (.sendNative value destination) with
      ⟨e, h⟩ | ⟨router, remote, home, hrouter, hremote, hhome, h⟩
    · exact .inl ⟨e, h⟩
    · exact .inr ⟨token, router, remote, home, hrouter, hremote, hhome, h⟩

/-- Transactions change nothing of what the routers know, and no status. -/
theorem kept_transaction (L : Ledger) {change : Change} (h : change.isTransaction) :
    (L.apply change).routers = L.routers ∧ (L.apply change).statuses = L.statuses := by
  cases change with
  | approve domain token owner spender amount =>
    rw [apply]
    rcases approve_cases L domain token owner spender amount with ⟨e, h⟩ | h
    · rw [h]; exact ⟨rfl, rfl⟩
    · rw [h]; exact ⟨rfl, rfl⟩
  | send domain sender token amount destination recipient =>
    rw [apply]
    rcases send_cases L domain sender token amount destination recipient with
      ⟨e, h⟩ | ⟨address, taken, rfl, ⟨e, h⟩ | ⟨canonical, router, remote, home, -, -, -, h⟩⟩
    · rw [h]; exact ⟨rfl, rfl⟩
    · rw [h]; exact ⟨rfl, rfl⟩
    · rw [h]; exact ⟨rfl, rfl⟩
  | sendNative domain sender destination recipient value =>
    rw [apply]
    rcases sendNative_cases L domain sender destination recipient value with
      ⟨e, h⟩ | ⟨e, h⟩ | ⟨token, router, remote, home, -, -, -, h⟩
    · rw [h]; exact ⟨rfl, rfl⟩
    · rw [h]; exact ⟨rfl, rfl⟩
    · rw [h]; exact ⟨rfl, rfl⟩
  | deployToken | deployNativeToken | deployRepresentation | mint | fundNative | setAllowance | setFailing
  | setReverting | setStatus => cases h

/-! ### Statuses -/

/-- The status that a change records, under the domain that keeps it, the domain that the leaf comes from, and the
leaf. -/
def Change.recorded? : Change → Option ((DomainId × DomainId × Word) × Status)
  | .setStatus domain remote leaf status => some ((domain, remote, leaf), status)
  | _ => none

/-- A status is changed by recording one under the same key, and by nothing else. -/
theorem get?_statuses_apply (L : Ledger) (change : Change) (key : DomainId × DomainId × Word) :
    (L.apply change).statuses.get? key =
      ((change.recorded?.filter (·.1 = key)).map Prod.snd).or (L.statuses.get? key) := by
  cases hchange : change.isTransaction with
  | true =>
    rw [(L.kept_transaction hchange).2]
    cases change with
    | approve | send | sendNative => rfl
    | _ => cases hchange
  | false =>
    cases change with
    | setStatus domain remote leaf status =>
      by_cases hkey : (domain, remote, leaf) = key <;>
        simp [apply, setStatus, Change.recorded?, Table.get?_insert, Option.filter, hkey]
    | approve | send | sendNative => cases hchange
    | _ => rfl

/-! ### Transactions alone -/

/-- Nothing but transactions lies between two ledgers. -/
def Transacted (L L' : Ledger) : Prop :=
  ∃ changes : List Change, (∀ change ∈ changes, change.isTransaction) ∧ L' = L.applyAll changes

theorem Transacted.refl (L : Ledger) : Transacted L L :=
  ⟨[], fun _ h => absurd h List.not_mem_nil, rfl⟩

theorem Transacted.trans {L₁ L₂ L₃ : Ledger} (h₁ : Transacted L₁ L₂) (h₂ : Transacted L₂ L₃) :
    Transacted L₁ L₃ := by
  obtain ⟨first, hfirst, rfl⟩ := h₁
  obtain ⟨rest, hrest, rfl⟩ := h₂
  refine ⟨first ++ rest, fun change hchange => ?_, (applyAll_append L₁ first rest).symm⟩
  rcases List.mem_append.1 hchange with h | h
  · exact hfirst change h
  · exact hrest change h

/-- What no transaction changes is the same before and after transactions alone. -/
theorem Transacted.eq_of {α : Type} {f : Ledger → α}
    (hf : ∀ (L : Ledger) {change : Change}, change.isTransaction → f (L.apply change) = f L) {L L' : Ledger}
    (h : Transacted L L') : f L' = f L := by
  obtain ⟨changes, hall, rfl⟩ := h
  induction changes generalizing L with
  | nil => rfl
  | cons change rest ih =>
    have hrest : f ((L.apply change).applyAll rest) = f (L.apply change) :=
      ih fun other hother => hall other (.tail _ hother)
    exact hrest.trans (hf L (hall change (.head _)))

theorem Transacted.routers {L L' : Ledger} (h : Transacted L L') : L'.routers = L.routers :=
  h.eq_of fun L _ hchange => (L.kept_transaction hchange).1

theorem Transacted.statuses {L L' : Ledger} (h : Transacted L L') : L'.statuses = L.statuses :=
  h.eq_of fun L _ hchange => (L.kept_transaction hchange).2

end TokenBridge.Ledger
