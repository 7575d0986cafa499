import TokenBridge.Proofs.Ledger.Furnished

/-!
# Refused transactions

A transaction takes first and announces afterwards, so one that fails leaves the ledger alone only if it cannot fail
in between. To a token that does not happen on a furnished ledger: whatever a router looks up after its check is
there (`Furnished.dispatch_of_checked`), and what a router knows can be read (`Furnished.contains_of_localAddress`).
So approving and sending are all or nothing after every run (`atomic_moved`).

To native value it happens. A domain may have a token that stands for its native asset and no router, and nothing that
is checked before the value is taken asks for the router. There every sending that passes its checks takes the value
and fails (`TakesInVain.sendNative`); everywhere else sending native value is all or nothing too
(`sendNative_unless_vain`).
-/

namespace TokenBridge.Ledger

open Outcome

variable {L : Ledger} {domain destination : DomainId} {sender token address : Address} {amount value : Quantity}

/-! ### What is refused for want of what -/

theorem failsOnly_checkReachable (L : Ledger) (domain : DomainId) :
    FailsOnly (· = .call (.unreachable domain)) (L.checkReachable domain) := by
  rw [checkReachable]
  split
  · exact failsOnly_error rfl
  · exact failsOnly_ok ()

theorem failsOnly_checkRemote (L : Ledger) (domain destination : DomainId) :
    FailsOnly (· = .refusal .noRemote) (L.checkRemote domain destination) := by
  rw [checkRemote]
  split
  · exact failsOnly_error rfl
  · exact failsOnly_ok ()

theorem contract_of_contains (h : L.tokens.contains (domain, token)) :
    ∃ contract, L.contract domain token = .ok contract := by
  obtain ⟨contract, hcontract⟩ := Option.isSome_iff_exists.1 h
  exact ⟨contract, contract_eq_ok_iff.2 hcontract⟩

/-- A contract that is there is read, if calls reach its domain. -/
theorem failsOnly_read (h : L.tokens.contains (domain, token)) {α : Type} (f : TokenContract → α) :
    FailsOnly (· = .call (.unreachable domain)) (do
      L.checkReachable domain
      let contract ← L.contract domain token
      return f contract) := by
  obtain ⟨contract, hcontract⟩ := contract_of_contains h
  rw [hcontract]
  exact (failsOnly_checkReachable L domain).bind fun _ _ => failsOnly_ok (f contract)

/-- An address that a router gives for a token has a contract. -/
theorem Furnished.contains_of_localAddress (h : Furnished L) {token : TokenId}
    (haddress : L.localAddress domain token = .ok address) (hne : address ≠ .zero) :
    L.tokens.contains (domain, address) := by
  obtain ⟨router, hrouter, hlocal | ⟨-, hcontract⟩⟩ := localAddress_cases haddress hne
  · exact h.known domain router hrouter address (.inl ⟨token, hlocal⟩)
  · exact hcontract

/-- So has one that a router takes for a token. -/
theorem Furnished.contains_of_canonicalOf (h : Furnished L) {canonical : TokenId}
    (hcanonical : L.canonicalOf domain token = .ok canonical) :
    L.tokens.contains (domain, token) := by
  obtain ⟨router, hrouter, hcanonical | ⟨-, -, hlocal⟩⟩ := canonicalOf_eq_ok_iff.1 hcanonical
  · exact h.known domain router hrouter token (.inr (by rw [Table.contains, hcanonical]; rfl))
  · exact h.known domain router hrouter token (.inl ⟨canonical, hlocal⟩)

/-! ### Sending a token -/

/-- What a router may refuse to take of a token that it knows. -/
def sendRefusals (domain : DomainId) : List ChainError :=
  [.call (.unreachable domain), .refusal .noRemote, .refusal .insufficientAllowance, .refusal .insufficientBalance]

/-- A router that knows what a token stands for also has the rest, and refuses for no other reason. -/
theorem Furnished.failsOnly_checkSend (h : Furnished L) {canonical : TokenId}
    (hcanonical : L.canonicalOf domain token = .ok canonical) (sender : Address) (amount : Quantity)
    (destination : DomainId) :
    FailsOnly (· ∈ sendRefusals domain) (L.checkSend domain sender token amount destination) := by
  obtain ⟨contract, hcontract⟩ := contract_of_contains (h.contains_of_canonicalOf hcanonical)
  obtain ⟨router, hrouter, -⟩ := canonicalOf_eq_ok_iff.1 hcanonical
  rw [checkSend, hcanonical, hcontract, router_eq_ok_iff.2 hrouter]
  refine ((failsOnly_checkReachable L domain).mono fun e he => by simp [sendRefusals, he]).bind fun _ _ => ?_
  refine ((failsOnly_checkRemote L domain destination).mono fun e he => by simp [sendRefusals, he]).bind fun _ _ => ?_
  simp only [ok_bind]
  split
  · exact failsOnly_error (by simp [sendRefusals])
  · split
    · exact failsOnly_error (by simp [sendRefusals])
    · exact failsOnly_ok _

/-- What a router has checked can be announced: its own domain has a home, and the destination a router. -/
theorem Furnished.dispatch_of_checked (h : Furnished L) {canonical : TokenId} {router : Address}
    (hcheck : L.checkSend domain sender token amount destination = .ok (canonical, router))
    (f : TokenContract → TokenContract) (action : TransferAction) :
    ∃ announced, (L.updateToken domain token f).dispatch domain destination action = .ok announced := by
  obtain ⟨-, ⟨-, hremote⟩, -, ⟨router, hrouter, -⟩, -⟩ := checkSend_eq_ok_iff.1 hcheck
  obtain ⟨remote, hremote⟩ := Option.isSome_iff_exists.1 hremote
  obtain ⟨home, hhome⟩ := Option.isSome_iff_exists.1 (h.housed domain (hrouter ▸ rfl))
  exact ⟨_, dispatch_eq_ok_iff.2 ⟨router, remote, home, hrouter, hremote, hhome, rfl, rfl⟩⟩

/-- A sending that fails has failed its check, and changes nothing. -/
theorem Furnished.send_of_error (h : Furnished L) {recipient : Word} {e : ChainError}
    (he : (L.send domain sender token amount destination recipient).1 = .error e) :
    L.checkSend domain sender token amount destination = .error e ∧
      (L.send domain sender token amount destination recipient).2 = L := by
  cases hcheck : L.checkSend domain sender token amount destination with
  | error e' =>
    rw [send_of_refused hcheck] at he ⊢
    cases he
    exact ⟨rfl, rfl⟩
  | ok checked =>
    obtain ⟨canonical, router⟩ := checked
    obtain ⟨announced, hannounced⟩ :=
      h.dispatch_of_checked hcheck (·.take sender router amount) ⟨canonical, recipient, amount⟩
    rw [send_of_checked hcheck, launch, hannounced] at he
    cases he

/-! ### All or nothing -/

/-- Approving and sending a token are all or nothing, and what is looked up late is there. -/
structure Atomic (L : Ledger) : Prop where
  /-- What the tables point to is there. -/
  furnished : Furnished L
  /-- An approval that fails leaves the whole ledger as it is. -/
  approve : ∀ domain token owner spender amount e,
    (L.approve domain token owner spender amount).1 = .error e → (L.approve domain token owner spender amount).2 = L
  /-- So does a sending, and it has failed before anything was taken. -/
  send : ∀ domain sender token amount destination recipient e,
    (L.send domain sender token amount destination recipient).1 = .error e →
      (L.send domain sender token amount destination recipient).2 = L ∧
        L.checkSend domain sender token amount destination = .error e
  /-- A sending that passes its checks is announced after the amount is taken. -/
  announced : ∀ domain sender token amount destination recipient canonical router,
    L.checkSend domain sender token amount destination = .ok (canonical, router) →
      ∃ announced, (L.updateToken domain token (·.take sender router amount)).dispatch domain destination
        ⟨canonical, recipient, amount⟩ = .ok announced
  /-- A router that knows what a token stands for finds its contract. -/
  contract : ∀ domain sender token amount destination recipient canonical,
    L.canonicalOf domain token = .ok canonical →
      (L.send domain sender token amount destination recipient).1 ≠ .error (.refusal .noContract)
  /-- An address that a router gives for a token can be read from then on, whatever happens. -/
  read : ∀ domain token address, L.localAddress domain token = .ok address → address ≠ .zero →
    ∀ later owner spender,
      (L.moved later).allowance domain address owner spender ≠ .error (.refusal .noContract) ∧
        (L.moved later).tokenBalance domain address owner ≠ .error (.refusal .noContract)

theorem Furnished.atomic (h : Furnished L) : Atomic L where
  furnished := h
  approve domain token owner spender amount e he := by
    rcases L.approve_cases domain token owner spender amount with ⟨e', heq⟩ | heq
    · rw [heq]
    · rw [heq] at he
      cases he
  send domain sender token amount destination recipient e he := (h.send_of_error he).symm
  announced domain sender token amount destination recipient canonical router hcheck :=
    h.dispatch_of_checked hcheck _ _
  contract domain sender token amount destination recipient canonical hcanonical he := by
    have hmem := h.failsOnly_checkSend hcanonical sender amount destination _ (h.send_of_error he).1
    simp [sendRefusals, ChainError.refusal] at hmem
  read domain token address haddress hne later owner spender := by
    have hcontract := contains_tokens_moved (h.contains_of_localAddress haddress hne) later
    refine ⟨fun he => ?_, fun he => ?_⟩
    · cases failsOnly_read hcontract (·.allowance owner spender) _ he
    · cases failsOnly_read hcontract (·.balance owner) _ he

/-- **After every run**, from the ledger of any configuration on, approving and sending a token are all or nothing. The
empty ledger is that of a configuration without domains. -/
theorem atomic_moved (c : Config) (moves : List Move) : Atomic ((ofConfig c).moved moves) :=
  (furnished_moved c moves).atomic

/-- Moves on the small bridge: an account is given 100 of a token, and lets the router take 50 of it. -/
def underallowedMoves : List Move :=
  [.occurs (.deployToken 1 (.ofNat 0x3001)), .occurs (.mint 1 (.ofNat 0x3001) (.ofNat 0xa) (.ofNat 100)),
    .occurs (.setAllowance 1 (.ofNat 0x3001) (.ofNat 0xa) (.ofNat 0x1100) (.ofNat 50))]

/-- What a sending of 60 leaves there: all of it. -/
theorem atomic_moved_underallowed :
    let L := (ofConfig .testing).moved underallowedMoves
    (L.send 1 (.ofNat 0xa) (.ofNat 0x3001) (.ofNat 60) 2 (.ofNat 0xb)).1 = .error (.refusal .insufficientAllowance) ∧
      (L.send 1 (.ofNat 0xa) (.ofNat 0x3001) (.ofNat 60) 2 (.ofNat 0xb)).2 = L := by
  have he : (((ofConfig .testing).moved underallowedMoves).send 1 (.ofNat 0xa) (.ofNat 0x3001) (.ofNat 60) 2
      (.ofNat 0xb)).1 = .error (.refusal .insufficientAllowance) := by decide +kernel
  exact ⟨he, ((atomic_moved .testing underallowedMoves).send _ _ _ _ _ _ _ he).1⟩

/-! ### Sending native value -/

theorem checkSendNative_eq_ok_iff :
    L.checkSendNative domain sender destination value = .ok token ↔
      domain ∉ L.failing ∧ (destination ≠ domain ∧ L.routers.contains destination) ∧
        L.nativeTokens.get? domain = some token ∧ ¬ L.nativeBalance domain sender < value := by
  rw [checkSendNative, bind_eq_ok]
  simp only [bind_eq_ok, checkReachable_eq_ok_iff, checkRemote_eq_ok_iff, exists_const]
  refine and_congr_right fun _ => and_congr_right fun _ => ?_
  cases L.nativeTokens.get? domain with
  | none => simp [throw, throwThe, MonadExceptOf.throw]
  | some native =>
    by_cases hfunds : L.nativeBalance domain sender < value
    · simp [hfunds, throw, throwThe, MonadExceptOf.throw]
    · simp [hfunds, pure, Except.pure]

/-- Native value passes all checks on a domain that has no router to announce its sending. -/
structure TakesInVain (L : Ledger) (domain : DomainId) (sender : Address) (destination : DomainId)
    (value : Quantity) : Prop where
  /-- Calls reach the domain. -/
  reached : domain ∉ L.failing
  /-- The destination is another domain with a router. -/
  remote : destination ≠ domain ∧ L.routers.contains destination
  /-- A token stands for the native asset. -/
  native : L.nativeTokens.contains domain
  /-- The sender owns the value. -/
  funds : ¬ L.nativeBalance domain sender < value
  /-- There is no router. -/
  router : ¬ L.routers.contains domain

/-- What is taken in vain is gone: the sending fails after it was taken. -/
theorem TakesInVain.sendNative (h : TakesInVain L domain sender destination value) (recipient : Word) :
    L.sendNative domain sender destination recipient value =
      (.error (.refusal .noRouter), L.takeNative domain sender value) := by
  obtain ⟨token, htoken⟩ := Option.isSome_iff_exists.1 h.native
  have hrouter : L.routers.get? domain = none := Option.not_isSome_iff_eq_none.1 h.router
  have hdispatch : ∀ action, (L.takeNative domain sender value).dispatch domain destination action =
      .error (.refusal .noRouter) := by
    intro action
    have hnone : (L.takeNative domain sender value).router domain = .error (.refusal .noRouter) := by
      rw [Ledger.router, show (L.takeNative domain sender value).routers = L.routers from rfl, hrouter]
    rw [dispatch, hnone]
    rfl
  rw [Ledger.sendNative, checkSendNative_eq_ok_iff.2 ⟨h.reached, h.remote, htoken, h.funds⟩]
  show launch _ _ _ _ _ _ = _
  rw [launch, hdispatch]

/-- Where nothing is taken in vain, a sending that fails changes nothing: it was refused by a check, for with a home
next to the router the announcement goes through. -/
theorem Housed.sendNative_of_error (h : L.Housed) (hvain : ¬ TakesInVain L domain sender destination value)
    {recipient : Word} {e : ChainError}
    (he : (L.sendNative domain sender destination recipient value).1 = .error e) :
    (L.sendNative domain sender destination recipient value).2 = L := by
  cases hcheck : L.checkSendNative domain sender destination value with
  | error e' => rw [Ledger.sendNative, hcheck]
  | ok token =>
    obtain ⟨hreached, hremote, htoken, hfunds⟩ := checkSendNative_eq_ok_iff.1 hcheck
    have hrouter : L.routers.contains domain := by
      by_contra hnone
      exact hvain ⟨hreached, hremote, by rw [Table.contains, htoken]; rfl, hfunds, hnone⟩
    obtain ⟨home, hhome⟩ := Option.isSome_iff_exists.1 (h domain hrouter)
    obtain ⟨router, hrouter⟩ := Option.isSome_iff_exists.1 hrouter
    obtain ⟨remote, hremote⟩ := Option.isSome_iff_exists.1 hremote.2
    have hlaunch := launch_of_home (L := L.takeNative domain sender value) hrouter hremote hhome sender
      ⟨.ofAddress domain token, recipient, value⟩ (.sendNative value destination)
    rw [Ledger.sendNative, hcheck] at he
    cases (congrArg Prod.fst hlaunch).symm.trans he

/-- **After every run** a sending of native value that fails changes nothing, unless it is in vain; and one in vain
always fails, for want of a router, with the value taken and nothing else changed. -/
theorem sendNative_unless_vain (c : Config) (moves : List Move) (domain : DomainId) (sender : Address)
    (destination : DomainId) (recipient : Word) (value : Quantity) :
    let L := (ofConfig c).moved moves
    (¬ TakesInVain L domain sender destination value → ∀ e,
        (L.sendNative domain sender destination recipient value).1 = .error e →
          (L.sendNative domain sender destination recipient value).2 = L) ∧
      (TakesInVain L domain sender destination value →
        L.sendNative domain sender destination recipient value =
          (.error (.refusal .noRouter), L.takeNative domain sender value)) :=
  ⟨fun hvain _ he => (furnished_moved c moves).housed.sendNative_of_error hvain he, fun h => h.sendNative recipient⟩

/-- Two domains, of which the second has a home and no bridge contracts. -/
def strandedConfig : Config := .ofDomains "test"
  [⟨1, "alpha", .ofNat 0x1001, [], some ⟨.ofNat 0x1100, none⟩, 1⟩, ⟨2, "beta", .ofNat 0x2001, [], none, 1⟩]

/-- Moves that put a token in place for the native asset of the second domain, and give an account 50 of it. -/
def strandedMoves : List Move :=
  [.occurs (.deployNativeToken 2 (.ofNat 0x3001)), .occurs (.fundNative 2 (.ofNat 0xa) (.ofNat 50))]

/-- There a sending of 50 is in vain, while one of 51 is refused and changes nothing. -/
theorem sendNative_unless_vain_stranded :
    let L := (ofConfig strandedConfig).moved strandedMoves
    L.sendNative 2 (.ofNat 0xa) 1 (.ofNat 0xb) (.ofNat 50) =
        (.error (.refusal .noRouter), L.takeNative 2 (.ofNat 0xa) (.ofNat 50)) ∧
      (L.sendNative 2 (.ofNat 0xa) 1 (.ofNat 0xb) (.ofNat 51)).2 = L := by
  constructor
  · refine (sendNative_unless_vain strandedConfig strandedMoves 2 (.ofNat 0xa) 1 (.ofNat 0xb) (.ofNat 50)).2 ?_
    exact ⟨by decide +kernel, by decide +kernel, by decide +kernel, by decide +kernel, by decide +kernel⟩
  · refine (sendNative_unless_vain strandedConfig strandedMoves 2 (.ofNat 0xa) 1 (.ofNat 0xb) (.ofNat 51)).1
      (fun hvain => absurd hvain.funds (by decide +kernel)) (.refusal .insufficientFunds) (by decide +kernel)

/-- So sending native value is not all or nothing: the account has nothing left of the 50 that were not sent. -/
theorem not_sendNative_unchanged :
    ¬ ∀ (c : Config) (moves : List Move) (domain : DomainId) (sender : Address) (destination : DomainId)
      (recipient : Word) (value : Quantity) (e : ChainError),
      (((ofConfig c).moved moves).sendNative domain sender destination recipient value).1 = .error e →
        (((ofConfig c).moved moves).sendNative domain sender destination recipient value).2 =
          (ofConfig c).moved moves := by
  intro h
  have hunchanged := h strandedConfig strandedMoves 2 (.ofNat 0xa) 1 (.ofNat 0xb) (.ofNat 50)
    (.refusal .noRouter) (by decide +kernel)
  have hbalance := congrArg (·.nativeBalance 2 (.ofNat 0xa)) hunchanged
  exact absurd hbalance (by decide +kernel)

end TokenBridge.Ledger
