import TokenBridge.Proofs.Resolving.Canonical
import TokenBridge.Proofs.Sending.Stages
import TokenBridge.Proofs.Session.Registry

/-!
# One token on all domains

A token that was put in place on its own domain is one token from every side (`resolves_alike`), where all
deployments were orderly, all bridged domains are bound and work, and its domain is not domain zero. Its address
stands for it; asking all domains for it gives its own contract and those of its representations, and no other; and
from each of these addresses the way leads back to its own contract.

A client that reaches all its routers asks them all without a failure (`representations_eq_ok`), and what it finds on
a domain is what the router there knows (`contractOn?`).
-/

namespace TokenBridge

namespace Client

/-- The contract that a token has on a domain, by what the router there knows. -/
def contractOn? (c : Client) (L : Ledger) (token : TokenId) (domain : DomainId) : Option TokenHandle :=
  (c.directory.bridges.get? domain).bind fun bridge =>
    (L.routers.get? domain).bind fun router =>
      let address := L.addressOf domain router token
      if address = .zero then none else some ⟨⟨domain, address, bridge.connection⟩⟩

/-- All bridged domains of a client are bound and work. -/
structure Reaching (c : Client) (L : Ledger) : Prop where
  /-- The bridge contracts are bound to connections. -/
  bound : ∀ bridge ∈ c.directory.bridges.values, bridge.connection.isSome
  /-- Calls reach their domains. -/
  working : ∀ domain ∈ c.directory.bridges.keys, domain ∉ L.failing

variable {c : Client} {L : Ledger}

theorem Reaching.connected (h : c.Reaching L) {domain : DomainId} {bridge : Bridge}
    (hbridge : c.directory.bridges.get? domain = some bridge) :
    bridge.connection.isSome ∧ domain ∉ L.failing :=
  ⟨h.bound bridge (Table.mem_values_of_get? hbridge), h.working domain (Table.mem_keys.2 ⟨bridge, hbridge⟩)⟩

/-- The router of a bridged domain is there. -/
theorem Sound.exists_router (hc : c.Sound) (hL : L.Coherent c.config) {domain : DomainId} {bridge : Bridge}
    (hbridge : c.directory.bridges.get? domain = some bridge) :
    ∃ router, L.routers.get? domain = some router := by
  obtain ⟨d, b, _, hd, hb, -⟩ := hc.bridge_eq_some hbridge
  obtain ⟨router, hrouter, -⟩ := hL.router_of_config hd hb
  exact ⟨router, hrouter⟩

/-! ### Asking all domains -/

/-- Asking a domain does not fail and gives what the router there knows. -/
theorem Reaching.representationOn_eq (h : c.Reaching L) (hc : c.Sound) (hL : L.Coherent c.config)
    (token : TokenId) (domain : DomainId) :
    c.representationOn L domain token = .ok (c.contractOn? L token domain) := by
  rw [representationOn, contractOn?]
  cases hbridge : c.directory.bridges.get? domain with
  | none => rfl
  | some bridge =>
    obtain ⟨hconnected, hreach⟩ := h.connected hbridge
    obtain ⟨router, hrouter⟩ := hc.exists_router hL hbridge
    obtain ⟨d, b, connection, -, -, rfl⟩ := hc.bridge_eq_some hbridge
    have hread := Handle.checkConnected_eq_ok_iff (u := ()).2 hconnected
    have hlocal : (Bridge.ofConfig domain b connection).router.localAddress L token =
        .ok (L.addressOf domain router token) :=
      (RouterHandle.localAddress_of_connected hread L token).trans
        (Ledger.localAddress_eq_ok_iff.2 ⟨hreach, router, hrouter, rfl⟩)
    dsimp only
    rw [hlocal, Outcome.mapError_ok, Outcome.ok_bind, hrouter, Option.bind_some, Option.bind_some]
    by_cases hzero : L.addressOf domain router token = .zero
    · rw [if_pos hzero, if_pos hzero]
      rfl
    · rw [if_neg hzero, if_neg hzero]
      rfl

/-- Asking domains one after the other gives the contracts of those that have one. -/
theorem representationsOn_eq {token : TokenId} {found : DomainId → Option TokenHandle} {ids : List DomainId}
    (h : ∀ domain ∈ ids, c.representationOn L domain token = .ok (found domain)) :
    c.representationsOn L token ids =
      .ok (ids.filterMap fun domain => (found domain).map fun contract => (domain, contract)) := by
  induction ids with
  | nil => rfl
  | cons domain rest ih =>
    rw [representationsOn, h domain List.mem_cons_self, Outcome.mapError_ok, Outcome.ok_bind,
      ih fun other hother => h other (List.mem_cons_of_mem _ hother), Outcome.ok_bind]
    cases hfound : found domain with
    | none => rw [List.filterMap_cons_none (by rw [hfound]; rfl)]; rfl
    | some contract => rw [List.filterMap_cons_some (by rw [hfound]; rfl)]; rfl

/-- **Asking all domains** for a token does not fail, and finds on each domain what the router there knows. -/
theorem Reaching.representations_eq_ok (h : c.Reaching L) (hc : c.Sound) (hdistinct : c.registry.Distinct)
    (hL : L.Coherent c.config) {token : TokenId} (htoken : token.domain ∈ c.registry.domainIds) :
    ∃ r, c.representations L token = .ok r ∧ r.token = token ∧
      ∀ domain, r.get? domain = c.contractOn? L token domain := by
  have hall : c.representationsOn L token c.registry.domainIds = .ok _ :=
    representationsOn_eq fun domain _ => h.representationOn_eq hc hL token domain
  refine ⟨⟨token, .ofList (c.registry.domainIds.filterMap fun domain =>
    (c.contractOn? L token domain).map fun contract => (domain, contract))⟩, ?_, rfl, fun domain => ?_⟩
  · rw [representations, resolve, Registry.resolve_id_iff.2 ⟨htoken, rfl⟩, Outcome.ok_bind, hall]
    rfl
  · refine (Table.get?_ofList_filterMap hdistinct.ids (c.contractOn? L token) domain).trans ?_
    by_cases hdomain : domain ∈ c.registry.domainIds
    · rw [if_pos hdomain]
    · rw [if_neg hdomain, contractOn?]
      -- A domain that is not registered is not bridged.
      cases hbridge : c.directory.bridges.get? domain with
      | none => rfl
      | some bridge => exact absurd (hc.mem_domainIds_of_bridge hbridge) hdomain

end Client

/-! ### After orderly deployments -/

/-- On a domain that a token does not come from, a router gives the address that it keeps for it, or none. -/
theorem Ledger.addressOf_of_foreign (L : Ledger) {domain : DomainId} {token : TokenId} (router : Router)
    (hforeign : token.domain ≠ domain) :
    L.addressOf domain router token = (router.locals.get? token).getD .zero := by
  rw [addressOf]
  cases router.locals.get? token with
  | some address => rfl
  | none =>
    dsimp only
    split
    · exact if_neg fun hown => hforeign hown.1
    · rfl

namespace Session

/-- Where a token that was put in place at an address of its own domain has contracts: there, and where it is
represented. -/
def ContractAt (steps : List Step) (domain : DomainId) (address : Address) (other : DomainId) (place : Address) :
    Prop :=
  other = domain ∧ place = address ∨
    .ledger (.deployRepresentation other (.ofAddress domain address) place) ∈ steps

variable {cfg : Config} {steps : List Step} {domain other : DomainId} {address place : Address} {router : Router}

theorem ContractAt.ne_zero (h : ContractAt steps domain address other place) (horderly : Orderly steps)
    (hissued : Issued steps domain address) : place ≠ .zero := by
  rcases h with ⟨-, rfl⟩ | h
  · exact horderly.ne_zero_of_issued hissued
  · exact horderly.ne_zero h

/-- The router of a domain gives the address of the contract that a token has there, and zero if it has none. -/
theorem addressOf_eq_iff (hvalid : cfg.validate = .ok ()) (horderly : Orderly steps)
    (hissued : Issued steps domain address)
    (hrouter : (after (.ofConfig cfg) steps).ledger.routers.get? other = some router) (hne : place ≠ .zero) :
    (after (.ofConfig cfg) steps).ledger.addressOf other router (.ofAddress domain address) = place ↔
      ContractAt steps domain address other place := by
  have hlocals := locals_after hvalid hrouter (.ofAddress domain address)
  by_cases hother : other = domain
  · subst hother
    rw [horderly.kept_of_issued hissued] at hlocals
    rw [Ledger.addressOf, hlocals]
    constructor
    · rintro rfl
      exact .inl ⟨rfl, rfl⟩
    · rintro (⟨-, rfl⟩ | h)
      · rfl
      · exact (horderly.domain_ne h rfl).elim
  · have hforeign : (TokenId.ofAddress domain address).domain ≠ other := Ne.symm hother
    rw [Ledger.addressOf_of_foreign _ router hforeign, hlocals, ContractAt, or_iff_right fun h => hother h.1,
      ← horderly.kept_eq_some_iff hforeign]
    cases hkept : kept steps other (.ofAddress domain address) with
    | none => simp [hne.symm]
    | some kept => simp

/-- Every contract of a token stands for it, unless the token comes from domain zero. -/
theorem ContractAt.identityOf (h : ContractAt steps domain address other place) (hvalid : cfg.validate = .ok ())
    (horderly : Orderly steps) (hissued : Issued steps domain address) (hdomain : domain ≠ 0)
    (hrouter : (after (.ofConfig cfg) steps).ledger.routers.get? other = some router) :
    (after (.ofConfig cfg) steps).ledger.identityOf other router place = some (.ofAddress domain address) := by
  have hcanonical := canonicals_after hvalid hrouter place
  have hne := h.ne_zero horderly hissued
  have haddress := (addressOf_eq_iff hvalid horderly hissued hrouter hne).2 h
  rcases h with ⟨rfl, rfl⟩ | h
  · -- The address represents nothing, and it is the one that is kept for the token.
    rw [horderly.represented_of_issued hissued] at hcanonical
    rw [Ledger.identityOf, Table.getD, hcanonical, Option.getD_none, if_neg (not_not_intro rfl), haddress,
      if_neg hne]
  · rw [horderly.represented_eq h] at hcanonical
    rw [Ledger.identityOf, Table.getD, hcanonical, Option.getD_some]
    exact if_pos hdomain

end Session

namespace Client

/-- A client over the ledger of its own configuration, after orderly deployments, with all bridged domains bound
and working. -/
structure Settled (cfg : Config) (steps : List Step) (c : Client) : Prop where
  /-- It is the client of the session. -/
  client : (Session.after (.ofConfig cfg) steps).client? = some c
  /-- It was made from the configuration of the ledger. -/
  config : c.config = cfg
  /-- All deployments were orderly. -/
  orderly : Session.Orderly steps
  /-- All bridged domains are bound and work. -/
  reaching : c.Reaching (Session.after (.ofConfig cfg) steps).ledger

section Identity

variable {cfg : Config} {steps : List Step} {c : Client} {domain other : DomainId} {address place : Address}
  {bridge : Bridge}

theorem Settled.sound (h : Settled cfg steps c) : c.Sound := Session.sound_after h.client

theorem Settled.valid (h : Settled cfg steps c) : cfg.validate = .ok () := h.config ▸ h.sound.valid

theorem Settled.coherent (h : Settled cfg steps c) :
    (Session.after (.ofConfig cfg) steps).ledger.Coherent c.config :=
  h.config ▸ Session.coherent_after h.valid steps

theorem Settled.distinct (h : Settled cfg steps c) : c.registry.Distinct := Session.distinct_client h.client

/-- What the routers know of a token are its contracts on the bridged domains. -/
theorem Settled.contractOn?_eq_some_iff (h : Settled cfg steps c) (hissued : Session.Issued steps domain address)
    {contract : TokenHandle} :
    c.contractOn? (Session.after (.ofConfig cfg) steps).ledger (.ofAddress domain address) other =
        some contract ↔
      ∃ bridge place, c.directory.bridges.get? other = some bridge ∧
        Session.ContractAt steps domain address other place ∧
        contract = ⟨⟨other, place, bridge.connection⟩⟩ := by
  rw [contractOn?]
  cases hbridge : c.directory.bridges.get? other with
  | none => simp
  | some bridge =>
    obtain ⟨router, hrouter⟩ := h.sound.exists_router h.coherent hbridge
    rw [hrouter, Option.bind_some, Option.bind_some]
    have haddress : ∀ place, place ≠ Address.zero →
        ((Session.after (.ofConfig cfg) steps).ledger.addressOf other router (.ofAddress domain address) = place ↔
          Session.ContractAt steps domain address other place) :=
      fun _ => Session.addressOf_eq_iff h.valid h.orderly hissued hrouter
    constructor
    · intro hcontract
      obtain ⟨hne, hcontract⟩ := Option.ite_none_left_eq_some.1 hcontract
      cases hcontract
      exact ⟨bridge, _, rfl, (haddress _ hne).1 rfl, rfl⟩
    · rintro ⟨bridge', place, hsame, hat, rfl⟩
      cases hsame
      have hne := hat.ne_zero h.orderly hissued
      dsimp only
      rw [(haddress place hne).2 hat, if_neg hne]

/-- Every contract of a token on a bridged domain stands for the token. -/
theorem Settled.canonicalIdentity_eq (h : Settled cfg steps c) (hissued : Session.Issued steps domain address)
    (hdomain : domain ≠ 0) (hother : c.directory.bridges.get? other = some bridge)
    (hat : Session.ContractAt steps domain address other place) :
    c.canonicalIdentity (Session.after (.ofConfig cfg) steps).ledger (.id other) place =
      .ok (some (.ofAddress domain address)) := by
  obtain ⟨hconnected, hreach⟩ := h.reaching.connected hother
  obtain ⟨router, hrouter⟩ := h.sound.exists_router h.coherent hother
  rw [Client.canonicalIdentity_eq h.sound hother hconnected hreach hrouter place,
    hat.identityOf h.valid h.orderly hissued hdomain hrouter]

/-- Asking all domains for a token finds its contracts on the bridged domains. -/
theorem Settled.exists_representations (h : Settled cfg steps c) (hissued : Session.Issued steps domain address)
    (hbridge : c.directory.bridges.get? domain = some bridge) :
    ∃ r, c.representations (Session.after (.ofConfig cfg) steps).ledger (.ofAddress domain address) = .ok r ∧
      r.token = .ofAddress domain address ∧
      ∀ other contract, r.get? other = some contract ↔ ∃ bridge place,
        c.directory.bridges.get? other = some bridge ∧
        Session.ContractAt steps domain address other place ∧
        contract = ⟨⟨other, place, bridge.connection⟩⟩ := by
  have hregistered : (TokenId.ofAddress domain address).domain ∈ c.registry.domainIds :=
    h.sound.mem_domainIds_of_bridge hbridge
  obtain ⟨r, hr, htoken, hget⟩ := h.reaching.representations_eq_ok h.sound h.distinct h.coherent hregistered
  refine ⟨r, hr, htoken, fun other contract => ?_⟩
  rw [hget]
  exact h.contractOn?_eq_some_iff hissued

/-- Every contract of a token on a bridged domain leads back to the one on its own domain. -/
theorem Settled.canonicalContract_eq (h : Settled cfg steps c) (hissued : Session.Issued steps domain address)
    (hdomain : domain ≠ 0) (hbridge : c.directory.bridges.get? domain = some bridge)
    {bridge' : Bridge} (hother : c.directory.bridges.get? other = some bridge')
    (hat : Session.ContractAt steps domain address other place) :
    c.canonicalContract (Session.after (.ofConfig cfg) steps).ledger (.id other) place =
      .ok ⟨⟨domain, address, bridge.connection⟩⟩ := by
  have hregistered := h.sound.mem_domainIds_of_bridge hbridge
  have hresolve := Registry.resolve_id_iff.2 ⟨h.sound.mem_domainIds_of_bridge hother, rfl⟩
  have hown : c.representation (Session.after (.ofConfig cfg) steps).ledger
      (.id (TokenId.ofAddress domain address).domain) (.ofAddress domain address) =
        .ok (some ⟨⟨domain, address, bridge.connection⟩⟩) := by
    refine representation_eq_some_iff.2 ⟨hregistered, hregistered, ?_⟩
    rw [h.reaching.representationOn_eq h.sound h.coherent]
    exact congrArg Except.ok
      ((h.contractOn?_eq_some_iff hissued).2 ⟨bridge, address, hbridge, .inl ⟨rfl, rfl⟩, rfl⟩)
  rw [canonicalContract, resolve, hresolve, Outcome.ok_bind,
    h.canonicalIdentity_eq hissued hdomain hother hat, Outcome.ok_bind]
  dsimp only
  rw [hown]
  rfl

/-- **One token from every side.** Let all deployments be orderly, and let all bridged domains be bound and work.
Then the address of a token on its own domain, which is not domain zero, stands for the token; the contracts that
are found for it on all domains are its own and those of its representations; and each of them leads back to its
own contract, whose address is that of the token. -/
theorem resolves_alike (hclient : (Session.after (.ofConfig cfg) steps).client? = some c) (hconfig : c.config = cfg)
    (horderly : Session.Orderly steps) (hreaching : c.Reaching (Session.after (.ofConfig cfg) steps).ledger)
    (hissued : Session.Issued steps domain address)
    (hbridge : c.directory.bridges.get? domain = some bridge) (hdomain : domain ≠ 0) :
    c.canonicalIdentity (Session.after (.ofConfig cfg) steps).ledger (.id domain) address =
        .ok (some (.ofAddress domain address)) ∧
      (∃ r, c.representations (Session.after (.ofConfig cfg) steps).ledger (.ofAddress domain address) = .ok r ∧
        r.token = .ofAddress domain address ∧
        (∀ other, other ∈ r.domains ↔ c.directory.bridges.contains other ∧
          ∃ place, Session.ContractAt steps domain address other place) ∧
        ∀ other contract, r.get? other = some contract ↔ ∃ bridge place,
          c.directory.bridges.get? other = some bridge ∧
          Session.ContractAt steps domain address other place ∧
          contract = ⟨⟨other, place, bridge.connection⟩⟩) ∧
      ∃ contract : TokenHandle, contract = ⟨⟨domain, address, bridge.connection⟩⟩ ∧
        (TokenId.ofAddress domain address).isAt contract.domain contract.address ∧
        ∀ other place, c.directory.bridges.contains other →
          Session.ContractAt steps domain address other place →
          c.canonicalContract (Session.after (.ofConfig cfg) steps).ledger (.id other) place = .ok contract := by
  have h : Settled cfg steps c := ⟨hclient, hconfig, horderly, hreaching⟩
  obtain ⟨r, hr, htoken, hlisted⟩ := h.exists_representations hissued hbridge
  refine ⟨h.canonicalIdentity_eq hissued hdomain hbridge (.inl ⟨rfl, rfl⟩),
    ⟨r, hr, htoken, fun other => ?_, hlisted⟩, _, rfl, decide_eq_true rfl, fun other place hother hat => ?_⟩
  · rw [Representations.domains, List.mem_mergeSort, Table.mem_keys, Table.contains, Option.isSome_iff_exists]
    constructor
    · rintro ⟨contract, hcontract⟩
      obtain ⟨b, place, hb, hat, -⟩ := (hlisted other contract).1 hcontract
      exact ⟨⟨b, hb⟩, place, hat⟩
    · rintro ⟨⟨b, hb⟩, place, hat⟩
      exact ⟨_, (hlisted other _).2 ⟨b, place, hb, hat, rfl⟩⟩
  · obtain ⟨b, hb⟩ := Option.isSome_iff_exists.1 hother
    exact h.canonicalContract_eq hissued hdomain hbridge hb hat

end Identity

/-- Both domains get a provider, and a token of domain one gets a representation on domain two. -/
def pairSteps : List Step :=
  [.provider "p" "http://alpha" .plain 0, .build .testing, .client (.registerProvider (.id 1) "p"),
    .client (.registerProvider (.id 2) "p"), .ledger (.deployToken 1 (.ofNat 0x3001)),
    .ledger (.deployRepresentation 2 (.ofAddress 1 (.ofNat 0x3001)) (.ofNat 0x5001))]

/-- The client of that session: both domains are bound to the one provider. -/
def pairClient : Client :=
  ⟨(Session.after (.ofConfig .testing) pairSteps).registry,
    .boundTo .testing fun _ => some ⟨⟨0, "http://alpha", .plain, 0⟩, none⟩⟩

theorem client?_pairSteps : (Session.after (.ofConfig .testing) pairSteps).client? = some pairClient := rfl

theorem orderly_pairSteps : Session.Orderly pairSteps where
  nonzero := by decide +kernel
  places := by decide +kernel
  representations := by decide +kernel
  foreign := by decide +kernel

theorem reaching_pairClient : pairClient.Reaching (Session.after (.ofConfig .testing) pairSteps).ledger := by
  have hfailing : (Session.after (.ofConfig .testing) pairSteps).ledger.failing = [] := by decide +kernel
  exact ⟨by decide +kernel, fun _ _ => hfailing ▸ List.not_mem_nil⟩

/-- The token of that session is found on domain one and on domain two, and from its representation the way leads
back to its contract on domain one. -/
theorem resolves_alike_pair :
    pairClient.canonicalIdentity (Session.after (.ofConfig .testing) pairSteps).ledger (.id 1)
        (.ofNat 0x3001) = .ok (some (.ofAddress 1 (.ofNat 0x3001))) ∧
      (∃ r, pairClient.representations (Session.after (.ofConfig .testing) pairSteps).ledger
          (.ofAddress 1 (.ofNat 0x3001)) = .ok r ∧
        1 ∈ r.domains ∧ 2 ∈ r.domains ∧
        r.get? 2 = some ⟨⟨2, .ofNat 0x5001, some ⟨⟨0, "http://alpha", .plain, 0⟩, none⟩⟩⟩) ∧
      pairClient.canonicalContract (Session.after (.ofConfig .testing) pairSteps).ledger (.id 2)
        (.ofNat 0x5001) = .ok ⟨⟨1, .ofNat 0x3001, some ⟨⟨0, "http://alpha", .plain, 0⟩, none⟩⟩⟩ := by
  have hissued : Session.Issued pairSteps 1 (.ofNat 0x3001) := .inl (by simp [pairSteps])
  have hown : Session.ContractAt pairSteps 1 (.ofNat 0x3001) 1 (.ofNat 0x3001) := .inl ⟨rfl, rfl⟩
  have hother : Session.ContractAt pairSteps 1 (.ofNat 0x3001) 2 (.ofNat 0x5001) :=
    .inr (by simp [pairSteps])
  obtain ⟨hcanonical, ⟨r, hr, -, hdomains, hlisted⟩, _, rfl, -, hback⟩ :=
    resolves_alike client?_pairSteps rfl orderly_pairSteps reaching_pairClient hissued rfl (by decide)
  exact ⟨hcanonical, ⟨r, hr, (hdomains 1).2 ⟨rfl, _, hown⟩, (hdomains 2).2 ⟨rfl, _, hother⟩,
    (hlisted 2 _).2 ⟨_, _, rfl, hother, rfl⟩⟩, hback 2 _ rfl hother⟩

end Client

end TokenBridge
