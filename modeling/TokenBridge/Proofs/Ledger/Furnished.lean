import TokenBridge.Proofs.Ledger.Account

/-!
# Furnished ledgers

What one table of a ledger points to is there in another: a router has a home on its domain, and an address that
a router knows, because it keeps it for a token or because it stands for one, has a token contract there. The ledger
of any configuration starts like that, valid or not, with routers that know nothing (`furnished_ofConfig`).

A router learns an address when the contract there is put in place, and at no other time; contracts are never removed
(`contains_tokens_apply`), nor are homes. So no change takes anything away that a router relies on
(`Furnished.apply`), and every run keeps it (`furnished_moved`).
-/

namespace TokenBridge

/-- A router knows an address: it keeps it for a token, or the address stands for one. -/
def Router.Knows (router : Router) (address : Address) : Prop :=
  (∃ token, router.locals.get? token = some address) ∨ router.canonicals.contains address

/-- A router that keeps one more address knows that one, and what it knew. -/
theorem Router.knows_of_insert {router : Router} {token : TokenId} {address a : Address}
    (h : ∃ t, (router.locals.insert token address).get? t = some a) : a = address ∨ router.Knows a := by
  obtain ⟨t, ht⟩ := h
  rw [Table.get?_insert] at ht
  split at ht
  · cases ht
    exact .inl rfl
  · exact .inr (.inl ⟨t, ht⟩)

namespace Ledger

/-- What the tables of a ledger point to is there. -/
structure Furnished (L : Ledger) : Prop where
  /-- Every router has a home on its domain. -/
  housed : L.Housed
  /-- Every address that a router knows has a token contract. -/
  known : ∀ domain router, L.routers.get? domain = some router →
    ∀ address, router.Knows address → L.tokens.contains (domain, address)

variable {L L' : Ledger}

/-! ### The beginning -/

/-- A domain that is put in place brings its home, and a router that knows nothing. -/
theorem Furnished.deployDomain (h : Furnished L) (d : DomainConfig) : Furnished (L.deployDomain d) where
  housed := h.housed.deployDomain d
  known domain router hrouter address hknows := by
    obtain hbefore | ⟨-, hlocals, hcanonicals⟩ := get?_routers_deployDomain hrouter
    · exact h.known domain router hbefore address hknows
    · rcases hknows with ⟨token, htoken⟩ | hcanonical
      · rw [hlocals] at htoken
        cases htoken
      · rw [hcanonicals] at hcanonical
        cases hcanonical

theorem furnished_ofConfig (c : Config) : Furnished (ofConfig c) := by
  refine ofConfig_induction ⟨fun _ hrouter => absurd hrouter Bool.false_ne_true, fun _ _ hrouter => ?_⟩
    (fun _ d h => h.deployDomain d) c
  cases hrouter

/-! ### The step -/

/-- No change removes a token contract. -/
theorem contains_tokens_apply (L : Ledger) (change : Change) {key : DomainId × Address}
    (h : L.tokens.contains key) : (L.apply change).tokens.contains key := by
  have hupdate : ∀ (L : Ledger) domain token f, L.tokens.contains key →
      (L.updateToken domain token f).tokens.contains key :=
    fun _ _ _ _ h => contains_updateToken.2 (.inr h)
  cases change with
  | deployToken | deployNativeToken | deployRepresentation | mint | setAllowance => exact hupdate _ _ _ _ h
  | fundNative | setFailing | setReverting | setStatus => exact h
  | approve domain token owner spender amount =>
    rw [apply]
    rcases approve_cases L domain token owner spender amount with ⟨e, heq⟩ | heq
    · rw [heq]
      exact h
    · rw [heq]
      exact hupdate L domain token (·.allow owner spender amount) h
  | send domain sender token amount destination recipient =>
    rw [apply]
    rcases send_cases L domain sender token amount destination recipient with
      ⟨e, heq⟩ | ⟨address, taken, rfl, ⟨e, heq⟩ | ⟨_, _, _, _, -, -, -, heq⟩⟩
    · rw [heq]
      exact h
    · rw [heq]
      exact hupdate L domain token (·.take sender address amount) h
    · rw [heq]
      exact hupdate L domain token (·.take sender address amount) h
  | sendNative domain sender destination recipient value =>
    rw [apply]
    rcases sendNative_cases L domain sender destination recipient value with
      ⟨e, heq⟩ | ⟨e, heq⟩ | ⟨_, _, _, _, -, -, -, heq⟩
    · rw [heq]
      exact h
    · rw [heq]
      exact h
    · rw [heq]
      exact h

/-- Where the routers are the same and no contract went, what they know still has contracts. -/
theorem Furnished.of_routers (h : Furnished L) (hhoused : L'.Housed) (hrouters : L'.routers = L.routers)
    (htokens : ∀ key, L.tokens.contains key → L'.tokens.contains key) : Furnished L' where
  housed := hhoused
  known domain router hrouter address hknows :=
    htokens _ (h.known domain router (hrouters ▸ hrouter) address hknows)

/-- A router may learn an address whose contract is put in place with it. -/
theorem Furnished.of_learned (h : Furnished L) (hhoused : L'.Housed) (domain : DomainId) (address : Address)
    {f : Router → Router} (hrouters : L'.routers = (L.updateRouter domain f).routers)
    (htokens : L'.tokens = (L.updateToken domain address id).tokens)
    (hf : ∀ router a, (f router).Knows a → a = address ∨ router.Knows a) : Furnished L' where
  housed := hhoused
  known d router hrouter a hknows := by
    rw [htokens, contains_updateToken]
    rw [hrouters, get?_routers_updateRouter] at hrouter
    obtain ⟨before, hbefore, rfl⟩ := Option.map_eq_some_iff.1 hrouter
    split at hknows
    · next hd =>
      subst hd
      rcases hf before a hknows with rfl | hknows
      · exact .inl rfl
      · exact .inr (h.known domain before hbefore a hknows)
    · exact .inr (h.known d before hbefore a hknows)

theorem Furnished.deployToken (h : Furnished L) (hhoused : L'.Housed) (domain : DomainId) (address : Address)
    (hrouters : L'.routers = (L.deployToken domain address).routers)
    (htokens : L'.tokens = (L.deployToken domain address).tokens) : Furnished L' :=
  h.of_learned hhoused domain address hrouters htokens fun _ _ hknows =>
    hknows.elim Router.knows_of_insert fun hcanonical => .inr (.inr hcanonical)

theorem Furnished.deployRepresentation (h : Furnished L) {domain : DomainId} {token : TokenId} {address : Address}
    (hhoused : (L.deployRepresentation domain token address).Housed) :
    Furnished (L.deployRepresentation domain token address) := by
  refine h.of_learned hhoused domain address rfl rfl fun router a hknows => ?_
  rcases hknows with hlocal | hcanonical
  · exact Router.knows_of_insert hlocal
  · rcases Table.contains_insert.1 hcanonical with rfl | hcanonical
    · exact .inl rfl
    · exact .inr (.inr hcanonical)

/-- **The step**: no change takes away what a router relies on. -/
theorem Furnished.apply (h : Furnished L) (change : Change) : Furnished (L.apply change) := by
  have hhoused : (L.apply change).Housed := h.housed.apply change
  cases change with
  | deployToken domain address => exact h.deployToken hhoused domain address rfl rfl
  | deployNativeToken domain address => exact h.deployToken hhoused domain address rfl rfl
  | deployRepresentation domain token address => exact h.deployRepresentation hhoused
  | mint | fundNative | setAllowance | setFailing | setReverting | setStatus =>
    exact h.of_routers hhoused rfl fun _ => contains_tokens_apply L _
  | approve | send | sendNative =>
    exact h.of_routers hhoused (L.kept_transaction rfl).1 fun _ => contains_tokens_apply L _

/-! ### The run -/

/-- **Every run keeps a ledger furnished**, from the one of any configuration on. -/
theorem furnished_moved (c : Config) (moves : List Move) : Furnished ((ofConfig c).moved moves) :=
  moved_of_apply (fun change h => h.apply change) (furnished_ofConfig c) moves

/-- No run removes a token contract. -/
theorem contains_tokens_moved {key : DomainId × Address} (h : L.tokens.contains key) (moves : List Move) :
    (L.moved moves).tokens.contains key :=
  moved_of_apply (P := fun L => L.tokens.contains key) (fun change h => contains_tokens_apply _ change h) h moves

end Ledger

end TokenBridge
