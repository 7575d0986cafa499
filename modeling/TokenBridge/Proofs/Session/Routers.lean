import TokenBridge.Proofs.Session.Reachable

/-!
# What the routers know

A router learns from deployments on its domain and from nothing else. So the router of a domain in a reachable
session is the one of the beginning after the deployments among the steps (`router_run`), and what it knows can
be read off the steps: the token that an address represents is the one that was put in place there last
(`represented`, `canonicals_after`), and the address that is kept for a token is the one that was put in place
for it last (`kept`, `locals_after`).
-/

namespace TokenBridge

/-- The token that a step makes an address of a domain represent, if it is a step that does. -/
def Step.represents? (domain : DomainId) (address : Address) : Step → Option TokenId
  | .ledger (.deployRepresentation d token a) => if d = domain ∧ a = address then some token else none
  | _ => none

/-- The address that a step makes the router of a domain keep for a token, if it is a step that does. -/
def Step.keeps? (domain : DomainId) (token : TokenId) : Step → Option Address
  | .ledger (.deployToken d a) | .ledger (.deployNativeToken d a) =>
    if d = domain ∧ .ofAddress d a = token then some a else none
  | .ledger (.deployRepresentation d t a) => if d = domain ∧ t = token then some a else none
  | _ => none

namespace Router

/-- The router once it keeps an address for a token. -/
def keep (router : Router) (token : TokenId) (address : Address) : Router :=
  { router with locals := router.locals.insert token address }

/-- The router once an address represents a token. -/
def represent (router : Router) (token : TokenId) (address : Address) : Router :=
  { router.keep token address with canonicals := router.canonicals.insert address token }

/-- The router of a domain after a step. -/
def afterStep (domain : DomainId) (router : Router) : Step → Router
  | .ledger (.deployToken d a) | .ledger (.deployNativeToken d a) =>
    if d = domain then router.keep (.ofAddress d a) a else router
  | .ledger (.deployRepresentation d token a) => if d = domain then router.represent token a else router
  | _ => router

theorem get?_canonicals_afterStep (domain : DomainId) (router : Router) (st : Step) (address : Address) :
    (router.afterStep domain st).canonicals.get? address =
      (st.represents? domain address).or (router.canonicals.get? address) := by
  cases st with
  | ledger change =>
    cases change with
    | deployToken d a | deployNativeToken d a =>
      by_cases hd : d = domain <;> simp [afterStep, Step.represents?, keep, hd]
    | deployRepresentation d token a =>
      by_cases hd : d = domain <;> by_cases ha : a = address <;>
        simp [afterStep, Step.represents?, represent, Table.get?_insert, hd, ha]
    | _ => rfl
  | _ => rfl

theorem get?_locals_afterStep (domain : DomainId) (router : Router) (st : Step) (token : TokenId) :
    (router.afterStep domain st).locals.get? token =
      (st.keeps? domain token).or (router.locals.get? token) := by
  cases st with
  | ledger change =>
    cases change with
    | deployToken d a | deployNativeToken d a =>
      by_cases hd : d = domain <;> by_cases ht : .ofAddress d a = token <;>
        simp_all [afterStep, Step.keeps?, keep, Table.get?_insert]
    | deployRepresentation d t a =>
      by_cases hd : d = domain <;> by_cases ht : t = token <;>
        simp [afterStep, Step.keeps?, represent, keep, Table.get?_insert, hd, ht]
    | _ => rfl
  | _ => rfl

end Router

namespace Session

/-- The token that steps leave an address of a domain to represent: the one of the last step that made it
represent any. -/
def represented (steps : List Step) (domain : DomainId) (address : Address) : Option TokenId :=
  steps.foldl (fun found st => (st.represents? domain address).or found) none

/-- The address that steps leave the router of a domain to keep for a token: the one of the last step that made
it keep any. -/
def kept (steps : List Step) (domain : DomainId) (token : TokenId) : Option Address :=
  steps.foldl (fun found st => (st.keeps? domain token).or found) none

/-! ### The router of a domain -/

/-- **The step**: a router is changed by deployments on its domain, and by nothing else. -/
theorem router_step (s : Session) (st : Step) (domain : DomainId) :
    (s.step st).2.ledger.routers.get? domain =
      (s.ledger.routers.get? domain).map fun router => router.afterStep domain st := by
  have hsame : ∀ {L : Ledger}, L.routers = s.ledger.routers →
      L.routers.get? domain = (s.ledger.routers.get? domain).map fun router => router := by
    intro L hL
    rw [hL, Option.map_id']
  rcases s.ledger_step st with ⟨change, rfl, heq⟩ | ⟨hother, htransacted⟩
  · rw [heq]
    cases change with
    | deployToken d a => exact Ledger.get?_routers_updateRouter s.ledger d domain (·.keep (.ofAddress d a) a)
    | deployNativeToken d a => exact Ledger.get?_routers_updateRouter s.ledger d domain (·.keep (.ofAddress d a) a)
    | deployRepresentation d token a =>
      exact Ledger.get?_routers_updateRouter s.ledger d domain (·.represent token a)
    | setStatus d remote status source =>
      cases source with
      | leaf leaf => exact hsame rfl
      | transfer name =>
        rw [changeOf]
        cases s.transfers.get? name <;> exact hsame rfl
    | mint | fundNative | setAllowance | setFailing | setReverting | balance | submitted => exact hsame rfl
  · have hid : ∀ router : Router, router.afterStep domain st = router := by
      intro router
      cases st with
      | ledger change => exact absurd rfl (hother change)
      | _ => rfl
    simp only [hid]
    exact hsame htransacted.routers

/-- **The run**: a router is what the deployments on its domain made of it. -/
theorem router_run (s : Session) (steps : List Step) (domain : DomainId) :
    (s.run steps).2.ledger.routers.get? domain =
      (s.ledger.routers.get? domain).map fun router => steps.foldl (Router.afterStep domain) router := by
  induction steps generalizing s with
  | nil => exact (Option.map_id' ..).symm
  | cons st rest ih =>
    refine (ih (s.step st).2).trans ?_
    rw [router_step, Option.map_map]
    rfl

/-! ### What it knows -/

theorem get?_canonicals_foldl (domain : DomainId) (router : Router) (steps : List Step) (address : Address) :
    (steps.foldl (Router.afterStep domain) router).canonicals.get? address =
      steps.foldl (fun found st => (st.represents? domain address).or found)
        (router.canonicals.get? address) := by
  induction steps generalizing router with
  | nil => rfl
  | cons st rest ih => rw [List.foldl_cons, List.foldl_cons, ih, Router.get?_canonicals_afterStep]

theorem get?_locals_foldl (domain : DomainId) (router : Router) (steps : List Step) (token : TokenId) :
    (steps.foldl (Router.afterStep domain) router).locals.get? token =
      steps.foldl (fun found st => (st.keeps? domain token).or found) (router.locals.get? token) := by
  induction steps generalizing router with
  | nil => rfl
  | cons st rest ih => rw [List.foldl_cons, List.foldl_cons, ih, Router.get?_locals_afterStep]

/-- A router in a session that started with the ledger of a valid configuration began without knowing anything
and learned from the steps. -/
theorem router_after {c : Config} (h : c.validate = .ok ()) {steps : List Step} {domain : DomainId}
    {router : Router} (hrouter : (after (.ofConfig c) steps).ledger.routers.get? domain = some router) :
    ∃ address, router = steps.foldl (Router.afterStep domain) ⟨address, .empty, .empty⟩ := by
  have hrun : (after (.ofConfig c) steps).ledger.routers.get? domain =
      ((Ledger.ofConfig c).routers.get? domain).map _ := router_run (start (.ofConfig c)) steps domain
  rw [hrun, Ledger.get?_routers_ofConfig h] at hrouter
  obtain ⟨before, hbefore, rfl⟩ := Option.map_eq_some_iff.1 hrouter
  obtain ⟨d, -, hd⟩ := Option.bind_eq_some_iff.1 hbefore
  obtain ⟨b, -, rfl⟩ := Option.map_eq_some_iff.1 hd
  exact ⟨b.router, rfl⟩

/-- An address represents what the steps left it to represent. -/
theorem canonicals_after {c : Config} (h : c.validate = .ok ()) {steps : List Step} {domain : DomainId}
    {router : Router} (hrouter : (after (.ofConfig c) steps).ledger.routers.get? domain = some router)
    (address : Address) : router.canonicals.get? address = represented steps domain address := by
  obtain ⟨_, rfl⟩ := router_after h hrouter
  exact get?_canonicals_foldl ..

/-- The address that is kept for a token is the one that the steps left. -/
theorem locals_after {c : Config} (h : c.validate = .ok ()) {steps : List Step} {domain : DomainId}
    {router : Router} (hrouter : (after (.ofConfig c) steps).ledger.routers.get? domain = some router)
    (token : TokenId) : router.locals.get? token = kept steps domain token := by
  obtain ⟨_, rfl⟩ := router_after h hrouter
  exact get?_locals_foldl ..

end Session

end TokenBridge
