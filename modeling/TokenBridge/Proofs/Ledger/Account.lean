import TokenBridge.Proofs.Ledger.Effect
import TokenBridge.Proofs.Ledger.Journal

/-!
# Accounts

An account is what an owner has of a token on a domain. Something is added to it from outside, spenders are allowed
to take from it, from outside or by a transaction of the owner, and the router takes from it when the owner sends.
The book of a run has an entry for each of these, in their order (`Ledger.book`).

A change enters at most one thing in the book, and `Enters` says what the accounts are then. It takes that no amount
is lost between the check of a sending and its announcement. That is so where every router has a home next to it,
which the ledger of any configuration starts with and no change undoes (`housed_ofConfig`, `Housed.applyAll`).
-/

namespace TokenBridge

/-- What an owner has of a token on a domain. -/
@[ext]
structure Account where
  /-- The domain. -/
  domain : DomainId
  /-- The address of the token there. -/
  token : Address
  /-- The owner. -/
  owner : Address
deriving DecidableEq

namespace Ledger

/-- What is on an account. -/
def holding (L : Ledger) (a : Account) : Quantity := L.balance a.domain a.token a.owner

/-- What a spender may take from an account. -/
def limit (L : Ledger) (a : Account) (spender : Address) : Quantity :=
  L.allowed a.domain a.token a.owner spender

/-! ### What is done to an account -/

section Effects

variable (L : Ledger) (a b : Account) (spender s : Address) (amount : Quantity)

/-- What is added to an account is on that account and no other. -/
theorem holding_mint : (L.mint b.domain b.token b.owner amount).holding a =
    if b = a then (L.holding a).add amount else L.holding a := by
  rw [holding, balance, mint, contractOrEmpty_updateToken]
  by_cases h : b.domain = a.domain ∧ b.token = a.token
  · rw [if_pos h, TokenContract.balance, TokenContract.credit, Table.getD, Table.get?_insert]
    by_cases howner : b.owner = a.owner
    · have hab : b = a := Account.ext h.1 h.2 howner
      subst hab
      rw [if_pos rfl, if_pos rfl]
      rfl
    · rw [if_neg howner, if_neg fun hab : b = a => howner (congrArg Account.owner hab)]
      rfl
  · rw [if_neg h, if_neg fun hab : b = a => h ⟨congrArg Account.domain hab, congrArg Account.token hab⟩]
    rfl

/-- Adding something to an account allows nobody to take it. -/
theorem limit_mint : (L.mint b.domain b.token b.owner amount).limit a s = L.limit a s := by
  rw [limit, limit, allowed, allowed, mint, contractOrEmpty_updateToken]
  split <;> rfl

theorem holding_setAllowance : (L.setAllowance b.domain b.token b.owner spender amount).holding a = L.holding a :=
  L.balance_allow b.domain b.token b.owner spender amount a.domain a.token a.owner

theorem limit_setAllowance : (L.setAllowance b.domain b.token b.owner spender amount).limit a s =
    if b = a ∧ spender = s then amount else L.limit a s := by
  rw [limit, setAllowance, allowed_allow]
  simp only [Account.ext_iff, and_assoc]
  rfl

theorem holding_take : (L.updateToken b.domain b.token (·.take b.owner spender amount)).holding a =
    if b = a then (L.holding a).sub amount else L.holding a := by
  rw [holding, balance_take]
  simp only [Account.ext_iff]
  rfl

theorem limit_take : (L.updateToken b.domain b.token (·.take b.owner spender amount)).limit a s =
    if b = a ∧ spender = s then (L.limit a s).sub amount else L.limit a s := by
  rw [limit, allowed_take]
  simp only [Account.ext_iff, and_assoc]
  rfl

end Effects

/-- All accounts are the same on two ledgers. -/
def SameAccounts (L L' : Ledger) : Prop :=
  ∀ domain token, L'.contractOrEmpty domain token = L.contractOrEmpty domain token

namespace SameAccounts

variable {L L' : Ledger}

theorem refl (L : Ledger) : SameAccounts L L := fun _ _ => rfl

theorem holding (h : SameAccounts L L') (a : Account) : L'.holding a = L.holding a :=
  congrArg (·.balance a.owner) (h a.domain a.token)

theorem limit (h : SameAccounts L L') (a : Account) (spender : Address) : L'.limit a spender = L.limit a spender :=
  congrArg (·.allowance a.owner spender) (h a.domain a.token)

end SameAccounts

/-- What a router learns is on no account, and a contract that is put in place keeps the accounts that it has. -/
theorem sameAccounts_deploy (L : Ledger) (domain : DomainId) (f : Router → Router) (token : Address) :
    SameAccounts L ((L.updateRouter domain f).updateToken domain token id) := by
  intro d t
  rw [contractOrEmpty_updateToken]
  split <;> rfl

/-! ### Homes next to the routers -/

/-- Wherever there is a router, there is a home. -/
def Housed (L : Ledger) : Prop := ∀ domain, (L.routers.get? domain).isSome → (L.homes.get? domain).isSome

theorem Housed.deployDomain {L : Ledger} (h : L.Housed) (d : DomainConfig) : (L.deployDomain d).Housed := by
  intro domain hrouter
  rw [Ledger.deployDomain, Table.get?_insert]
  by_cases hd : d.id = domain
  · rw [if_pos hd]
    rfl
  · rw [if_neg hd]
    obtain ⟨router, hrouter⟩ := Option.isSome_iff_exists.1 hrouter
    obtain hbefore | ⟨hnew, -⟩ := get?_routers_deployDomain hrouter
    · exact h domain (by rw [hbefore]; rfl)
    · exact absurd hnew hd

/-- The ledger of a configuration has a home for each router, whether the configuration is valid or not. -/
theorem housed_ofConfig (c : Config) : Housed (ofConfig c) :=
  ofConfig_induction (fun _ hrouter => absurd hrouter Bool.false_ne_true) (fun _ d h => h.deployDomain d) c

theorem housed_iff {L : Ledger} :
    L.Housed ↔ ∀ domain, (L.routerAddress? domain).isSome → (L.homeAddress? domain).isSome := by
  simp only [Housed, routerAddress?, homeAddress?, Option.isSome_map]

/-- No change moves a router or a home. -/
theorem Housed.apply {L : Ledger} (h : L.Housed) (change : Change) : (L.apply change).Housed := by
  have hstep := Move.steps (.occurs change) L
  rw [housed_iff] at h ⊢
  intro domain hrouter
  have hhome : (L.apply change).homeAddress? domain = L.homeAddress? domain := hstep.homeAddress? domain
  have hsame : (L.apply change).routerAddress? domain = L.routerAddress? domain := hstep.routerAddress? domain
  rw [hhome]
  exact h domain (hsame ▸ hrouter)

theorem Housed.applyAll {L : Ledger} (h : L.Housed) (changes : List Change) : (L.applyAll changes).Housed :=
  applyAll_of_apply (fun change h => h.apply change) h changes

/-- With a home next to the router nothing is taken in vain: a sending is refused and changes nothing, or what is
taken was owned and allowed, and it is announced and mined. -/
theorem Housed.send_cases {L : Ledger} (h : L.Housed) (domain : DomainId) (sender token : Address)
    (amount : Quantity) (destination : DomainId) (recipient : Word) :
    (∃ e, L.send domain sender token amount destination recipient = (.error e, L)) ∨
      ∃ router home log, L.routerAddress? domain = some router ∧
        ¬ L.allowed domain token sender router < amount ∧ ¬ L.balance domain token sender < amount ∧
        L.send domain sender token amount destination recipient =
          (.ok (L.nextHash domain), L.sent domain token sender router amount destination home log) := by
  cases hcheck : L.checkSend domain sender token amount destination with
  | error e => exact .inl ⟨e, send_of_refused hcheck recipient⟩
  | ok checked =>
    -- The router was found by the check, so there is a home to announce what it takes.
    obtain ⟨canonical, address⟩ := checked
    obtain ⟨-, -, -, ⟨router, hrouter, rfl⟩, -, hallowed, hbalance⟩ := checkSend_eq_ok_iff.1 hcheck
    obtain ⟨home, hhome⟩ := Option.isSome_iff_exists.1 (h domain (hrouter ▸ rfl))
    obtain ⟨_, _, -, -, -, hsend⟩ := send_of_home hcheck hhome recipient
    refine .inr ⟨router.address, home, _, ?_, hallowed, hbalance, hsend⟩
    rw [routerAddress?, hrouter]
    rfl

/-! ### The book -/

/-- An entry in the book of a run. -/
inductive Entry where
  /-- An amount is added to an account from outside. -/
  | minted (account : Account) (amount : Quantity)
  /-- What a spender may take from an account is set from outside. -/
  | limited (account : Account) (spender : Address) (amount : Quantity)
  /-- A transaction is handed in. -/
  | handedIn (submission : Submission)

/-- What a change from outside enters in the book. -/
def Change.entry? : Change → Option Entry
  | .mint domain token owner amount => some (.minted ⟨domain, token, owner⟩ amount)
  | .setAllowance domain token owner spender amount => some (.limited ⟨domain, token, owner⟩ spender amount)
  | _ => none

/-- What a change enters in the book: what it does from outside, or the transaction that it hands in. -/
def entries (L : Ledger) (change : Change) : List Entry :=
  change.entry?.toList ++ (L.records (.occurs change)).map fun r => .handedIn r.submission

/-- The book of changes: what each of them enters, in their order. -/
def book (L : Ledger) : List Change → List Entry
  | [] => []
  | change :: rest => L.entries change ++ (L.apply change).book rest

/-- What a change does to the accounts: the ledger after it, and what it enters in the book. -/
inductive Enters (L : Ledger) : Change → Ledger → List Entry → Prop where
  /-- Nothing is entered, and the accounts stay as they are. -/
  | nothing {change : Change} {L' : Ledger} (h : SameAccounts L L') : Enters L change L' []
  /-- Something is added to an account. -/
  | minted (a : Account) (amount : Quantity) :
      Enters L (.mint a.domain a.token a.owner amount) (L.mint a.domain a.token a.owner amount) [.minted a amount]
  /-- A limit is set from outside. -/
  | limited (a : Account) (spender : Address) (amount : Quantity) :
      Enters L (.setAllowance a.domain a.token a.owner spender amount)
        (L.setAllowance a.domain a.token a.owner spender amount) [.limited a spender amount]
  /-- The owner sets a limit. -/
  | approved (a : Account) (spender : Address) (amount : Quantity) (transaction : Word) {L' : Ledger}
      (h : SameAccounts (L.setAllowance a.domain a.token a.owner spender amount) L') :
      Enters L (.approve a.domain a.token a.owner spender amount) L'
        [.handedIn ⟨a.domain, transaction, a.owner, .approve a.token spender amount⟩]
  /-- The owner sends, and the router takes the amount. -/
  | sent (a : Account) (router : Address) (amount : Quantity) (destination : DomainId) (recipient transaction : Word)
      {L' : Ledger} (hrouter : L.routerAddress? a.domain = some router)
      (hlimit : ¬ L.limit a router < amount) (hholding : ¬ L.holding a < amount)
      (h : SameAccounts (L.updateToken a.domain a.token (·.take a.owner router amount)) L') :
      Enters L (.send a.domain a.owner a.token amount destination recipient) L'
        [.handedIn ⟨a.domain, transaction, a.owner, .send a.token amount destination⟩]
  /-- Native value is sent, which is on no account. -/
  | sentNative {change : Change} (domain : DomainId) (transaction : Word) (sender : Address) (value : Quantity)
      (destination : DomainId) {L' : Ledger} (h : SameAccounts L L') :
      Enters L change L' [.handedIn ⟨domain, transaction, sender, .sendNative value destination⟩]

section Step

variable {L taken : Ledger} {change : Change}

theorem entries_of_quiet (h : Quiet L (L.apply change)) : L.entries change = change.entry?.toList := by
  rw [entries, records_of_quiet (m := .occurs change) h, List.map_nil, List.append_nil]

theorem entries_of_mined {domain : DomainId} {sender : Address} {request : Request} {logs : List Log}
    (hmined : L.apply change = taken.mined domain sender request logs) (hsubmitted : taken.submitted = L.submitted)
    (hentry : change.entry? = none) :
    L.entries change = [.handedIn ⟨domain, taken.nextHash domain, sender, request⟩] := by
  rw [entries, hentry, records_of_mined (m := .occurs change) hsubmitted hmined]
  rfl

/-- A change that hands nothing in and does nothing to the accounts enters nothing. -/
theorem enters_of_quiet (h : Quiet L (L.apply change)) (hsame : SameAccounts L (L.apply change))
    (hentry : change.entry? = none) : Enters L change (L.apply change) (L.entries change) := by
  rw [entries_of_quiet h, hentry]
  exact .nothing hsame

/-- Nor does a change that is refused. -/
theorem enters_of_refused (h : L.apply change = L) (hentry : change.entry? = none) :
    Enters L change (L.apply change) (L.entries change) := by
  refine enters_of_quiet ?_ ?_ hentry
  · rw [h]
    exact .refl L
  · rw [h]
    exact .refl L

/-- **The step**: what a change does to the accounts is what it enters in the book. -/
theorem Housed.enters (h : L.Housed) (change : Change) : Enters L change (L.apply change) (L.entries change) := by
  cases change with
  | deployToken domain address =>
    exact enters_of_quiet (L.quiet_apply rfl) (L.sameAccounts_deploy domain _ address) rfl
  | deployNativeToken domain address =>
    exact enters_of_quiet (L.quiet_apply rfl) (L.sameAccounts_deploy domain _ address) rfl
  | deployRepresentation domain token address =>
    exact enters_of_quiet (L.quiet_apply rfl) (L.sameAccounts_deploy domain _ address) rfl
  | fundNative | setFailing | setReverting | setStatus =>
    exact enters_of_quiet (L.quiet_apply rfl) (fun _ _ => rfl) rfl
  | mint domain token owner amount =>
    rw [entries_of_quiet (L.quiet_apply rfl)]
    exact .minted ⟨domain, token, owner⟩ amount
  | setAllowance domain token owner spender amount =>
    rw [entries_of_quiet (L.quiet_apply rfl)]
    exact .limited ⟨domain, token, owner⟩ spender amount
  | approve domain token owner spender amount =>
    rcases L.approve_cases domain token owner spender amount with ⟨e, heq⟩ | heq
    · exact enters_of_refused (congrArg Prod.snd heq) rfl
    · have hmined : L.apply (.approve domain token owner spender amount) =
          (L.setAllowance domain token owner spender amount).mined domain owner (.approve token spender amount)
            [⟨token, .approval owner spender amount⟩] := congrArg Prod.snd heq
      rw [entries_of_mined hmined rfl rfl, hmined]
      exact .approved ⟨domain, token, owner⟩ spender amount _ fun _ _ => rfl
  | send domain sender token amount destination recipient =>
    rcases h.send_cases domain sender token amount destination recipient with
      ⟨e, heq⟩ | ⟨router, home, log, hrouter, hallowed, hbalance, heq⟩
    · exact enters_of_refused (congrArg Prod.snd heq) rfl
    · have hmined : L.apply (.send domain sender token amount destination recipient) =
          ((L.updateToken domain token (·.take sender router amount)).announced domain home destination).mined
            domain sender (.send token amount destination) [log] := congrArg Prod.snd heq
      rw [entries_of_mined hmined rfl rfl, hmined]
      exact .sent ⟨domain, token, sender⟩ router amount destination recipient _ hrouter hallowed hbalance
        fun _ _ => rfl
  | sendNative domain sender destination recipient value =>
    rcases L.sendNative_cases domain sender destination recipient value with
      ⟨e, heq⟩ | ⟨e, heq⟩ | ⟨token, router, remote, home, -, -, -, heq⟩
    · exact enters_of_refused (congrArg Prod.snd heq) rfl
    · -- Native value may be taken in vain, but it is on no account.
      have htaken : L.apply (.sendNative domain sender destination recipient value) =
          L.takeNative domain sender value := congrArg Prod.snd heq
      refine enters_of_quiet ?_ ?_ rfl
      · rw [htaken]
        exact L.quiet_takeNative domain sender value
      · rw [htaken]
        exact fun _ _ => rfl
    · have hmined : L.apply (.sendNative domain sender destination recipient value) = _ := congrArg Prod.snd heq
      rw [entries_of_mined hmined rfl rfl, hmined]
      exact .sentNative domain _ sender value destination fun _ _ => rfl

end Step

end Ledger

end TokenBridge
