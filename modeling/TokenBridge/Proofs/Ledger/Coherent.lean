import TokenBridge.Proofs.Config
import TokenBridge.Proofs.Ledger.Change
import TokenBridge.Proofs.Table

/-!
# Coherent ledgers

The contracts of a ledger that started with a configuration stay those of the configuration: no change puts a
home or a router anywhere else. A router only keeps addresses of contracts that are there, each for the token
at that address itself or for one that the address represents. And the counters count what was handed in:
every transaction is a block of its own, and no home has announced more messages than there were
transactions.

`Coherent` says so, `coherent_ofConfig` that the ledger of a valid configuration starts like that, and
`Coherent.applyAll` that it stays like that, whatever happens.
-/

namespace TokenBridge.Ledger

/-- What stays true of a ledger that started with a configuration. -/
structure Coherent (c : Config) (L : Ledger) : Prop where
  /-- The homes are those of the configured domains. -/
  home : ∀ domain, (L.homes.get? domain).map Home.address = (c.domain? domain).map DomainConfig.home
  /-- The routers are those of the configured domains with bridge contracts. -/
  router : ∀ domain, (L.routers.get? domain).map Router.address =
    (c.domain? domain).bind fun d => d.bridge.map BridgeConfig.router
  /-- Every address that a router keeps has a token contract, and is kept for its own token or represents
  one. -/
  locals : ∀ domain router, L.routers.get? domain = some router → ∀ token address,
    router.locals.get? token = some address →
      L.tokens.contains (domain, address) ∧
        (token = .ofAddress domain address ∨ router.canonicals.contains address)
  /-- The counter of transactions counts those that were handed in. -/
  count : L.transactionCount = UInt64.ofNat L.submitted.length
  /-- Every transaction has a block of its own. -/
  block : L.block = L.transactionCount
  /-- No home has announced more messages than transactions were handed in. -/
  leaves : ∀ domain home, L.homes.get? domain = some home → home.leafCount.toNat ≤ L.submitted.length

/-! ### The beginning -/

/-- What holds without any contract, and stays when a domain is put in place, holds of every configuration. -/
theorem ofConfig_induction {P : Ledger → Prop} (hempty : P empty)
    (hdeploy : ∀ (L : Ledger) d, P L → P (L.deployDomain d)) (c : Config) : P (ofConfig c) := by
  have hall : ∀ (domains : List DomainConfig) (L : Ledger), P L → P (domains.foldl deployDomain L) := by
    intro domains
    induction domains with
    | nil => exact fun L h => h
    | cons d rest ih => exact fun L h => ih _ (hdeploy L d h)
  exact hall c.domains empty hempty

/-- A router was there before a domain was put in place, or is that of the domain and knows nothing. -/
theorem get?_routers_deployDomain {L : Ledger} {d : DomainConfig} {domain : DomainId} {router : Router}
    (h : (L.deployDomain d).routers.get? domain = some router) :
    L.routers.get? domain = some router ∨ d.id = domain ∧ router.locals = .empty ∧ router.canonicals = .empty := by
  rw [deployDomain] at h
  cases hb : d.bridge with
  | none =>
    rw [hb] at h
    exact .inl h
  | some bridge =>
    rw [hb] at h
    replace h : (L.routers.insert d.id _).get? domain = some router := h
    rw [Table.get?_insert] at h
    split at h
    · next hd =>
      cases h
      exact .inr ⟨hd, rfl, rfl⟩
    · exact .inl h

/-- Putting domains in place writes their homes and routers after those that are there. -/
theorem foldl_deployDomain (domains : List DomainConfig) (L : Ledger) :
    domains.foldl deployDomain L =
      { L with
        homes := (domains.map fun d => (d.id, (⟨d.home, .empty, 0⟩ : Home))).foldl
          (fun t e => t.insert e.1 e.2) L.homes
        routers := (domains.filterMap fun d => (d.bridge.map fun b =>
          (⟨b.router, .empty, .empty⟩ : Router)).map fun r => (d.id, r)).foldl
            (fun t e => t.insert e.1 e.2) L.routers } := by
  induction domains generalizing L with
  | nil => rfl
  | cons d rest ih =>
    rw [List.foldl_cons, ih]
    cases hb : d.bridge with
    | none => simp [deployDomain, hb]
    | some b => simp [deployDomain, hb]

theorem get?_homes_ofConfig {c : Config} (h : c.validate = .ok ()) (domain : DomainId) :
    (ofConfig c).homes.get? domain = (c.domain? domain).map fun d => ⟨d.home, .empty, 0⟩ := by
  have hkeys : ((c.domains.map fun d => (d.id, (⟨d.home, .empty, 0⟩ : Home))).map Prod.fst).Nodup := by
    simpa [Function.comp_def] using Config.nodup_ids h
  rw [ofConfig, foldl_deployDomain]
  show (Table.ofList _).get? domain = _
  rw [Table.get?_ofList hkeys, Table.find?_map]
  rfl

theorem get?_routers_ofConfig {c : Config} (h : c.validate = .ok ()) (domain : DomainId) :
    (ofConfig c).routers.get? domain =
      (c.domain? domain).bind fun d => d.bridge.map fun b => ⟨b.router, .empty, .empty⟩ := by
  have hids := Config.nodup_ids h
  rw [ofConfig, foldl_deployDomain]
  show (Table.ofList _).get? domain = _
  rw [Table.get?_ofList ((Table.keys_filterMap_sublist DomainConfig.id _ c.domains).nodup hids)]
  exact Table.find?_filterMap hids
    (fun d => d.bridge.map fun b => (⟨b.router, .empty, .empty⟩ : Router)) domain

/-- The ledger of a valid configuration is coherent. -/
theorem coherent_ofConfig {c : Config} (h : c.validate = .ok ()) : Coherent c (ofConfig c) where
  home domain := by
    rw [get?_homes_ofConfig h, Option.map_map]
    rfl
  router domain := by
    rw [get?_routers_ofConfig h, Option.map_bind]
    refine congrArg _ (funext fun d => ?_)
    rw [Function.comp, Option.map_map]
    rfl
  locals domain router hrouter token address hlocal := by
    rw [get?_routers_ofConfig h] at hrouter
    obtain ⟨d, -, hd⟩ := Option.bind_eq_some_iff.1 hrouter
    obtain ⟨b, -, rfl⟩ := Option.map_eq_some_iff.1 hd
    cases hlocal
  count := by rw [ofConfig, foldl_deployDomain]; rfl
  block := by rw [ofConfig, foldl_deployDomain]; rfl
  leaves domain home hhome := by
    rw [get?_homes_ofConfig h] at hhome
    obtain ⟨d, -, rfl⟩ := Option.map_eq_some_iff.1 hhome
    exact Nat.zero_le _

/-! ### What a coherent ledger has -/

variable {c : Config} {L : Ledger}

/-- The router of a configured domain is where the configuration says. -/
theorem Coherent.router_of_config (h : Coherent c L) {domain : DomainId} {d : DomainConfig} {b : BridgeConfig}
    (hd : c.domain? domain = some d) (hb : d.bridge = some b) :
    ∃ router, L.routers.get? domain = some router ∧ router.address = b.router := by
  have hrouter := h.router domain
  rw [hd, Option.bind_some, hb] at hrouter
  exact Option.map_eq_some_iff.1 hrouter

/-- The home of a configured domain is where the configuration says. -/
theorem Coherent.home_of_config (h : Coherent c L) {domain : DomainId} {d : DomainConfig}
    (hd : c.domain? domain = some d) :
    ∃ home, L.homes.get? domain = some home ∧ home.address = d.home := by
  have hhome := h.home domain
  rw [hd] at hhome
  exact Option.map_eq_some_iff.1 hhome

/-- A domain has a router exactly where it is configured with bridge contracts. -/
theorem Coherent.contains_routers_iff (h : Coherent c L) (domain : DomainId) :
    L.routers.contains domain ↔ ∃ d, c.domain? domain = some d ∧ d.bridge.isSome := by
  have hrouter := h.router domain
  rw [Table.contains]
  constructor
  · intro hsome
    obtain ⟨router, hr⟩ := Option.isSome_iff_exists.1 hsome
    rw [hr] at hrouter
    obtain ⟨d, hd, hb⟩ := Option.bind_eq_some_iff.1 hrouter.symm
    obtain ⟨b, hb, -⟩ := Option.map_eq_some_iff.1 hb
    exact ⟨d, hd, by rw [hb]; rfl⟩
  · rintro ⟨d, hd, hb⟩
    obtain ⟨b, hb⟩ := Option.isSome_iff_exists.1 hb
    obtain ⟨router, hr, -⟩ := h.router_of_config hd hb
    rw [hr]
    rfl

/-- Where a router gives an address for a token, there is a contract, and the token is that of the address
itself or the address represents one. -/
theorem Coherent.of_localAddress (h : Coherent c L) {domain : DomainId} {token : TokenId}
    {address : Address} (haddress : L.localAddress domain token = .ok address) (hne : address ≠ .zero) :
    L.tokens.contains (domain, address) ∧ (token = .ofAddress domain address ∨
      ∃ router, L.routers.get? domain = some router ∧ router.canonicals.contains address) := by
  obtain ⟨router, hrouter, hlocal | ⟨hown, hcontract⟩⟩ := localAddress_cases haddress hne
  · obtain ⟨hcontract, hcanonical⟩ := h.locals domain router hrouter token address hlocal
    exact ⟨hcontract, hcanonical.imp_right fun hc => ⟨router, hrouter, hc⟩⟩
  · exact ⟨hcontract, .inl hown⟩

/-! ### Contracts -/

theorem contains_updateToken {domain : DomainId} {token : Address} {f : TokenContract → TokenContract}
    {key : DomainId × Address} :
    (L.updateToken domain token f).tokens.contains key ↔
      (domain, token) = key ∨ L.tokens.contains key :=
  Table.contains_insert

theorem contains_updateToken_of_contains {domain : DomainId} {token : Address}
    (h : L.tokens.contains (domain, token)) (f : TokenContract → TokenContract) (key : DomainId × Address) :
    (L.updateToken domain token f).tokens.contains key ↔ L.tokens.contains key := by
  rw [contains_updateToken]
  refine ⟨fun hkey => ?_, .inr⟩
  rcases hkey with rfl | hkey
  · exact h
  · exact hkey

/-- Changing a token contract, or putting one in place, leaves everything else alone. -/
theorem Coherent.updateToken (h : Coherent c L) (domain : DomainId) (token : Address)
    (f : TokenContract → TokenContract) : Coherent c (L.updateToken domain token f) where
  home := h.home
  router := h.router
  locals d router hrouter t address hlocal := by
    obtain ⟨hcontract, hcanonical⟩ := h.locals d router hrouter t address hlocal
    exact ⟨contains_updateToken.2 (.inr hcontract), hcanonical⟩
  count := h.count
  block := h.block
  leaves := h.leaves

/-- A router may learn an address for a token where there is a contract and the address represents it. -/
theorem Coherent.updateRouter (h : Coherent c L) {domain : DomainId} {f : Router → Router}
    (haddress : ∀ router, (f router).address = router.address)
    (hlocals : ∀ router, L.routers.get? domain = some router → ∀ token address,
      (f router).locals.get? token = some address →
        L.tokens.contains (domain, address) ∧
          (token = .ofAddress domain address ∨ (f router).canonicals.contains address)) :
    Coherent c (L.updateRouter domain f) where
  home := h.home
  router d := (L.address_updateRouter domain d haddress).trans (h.router d)
  locals d router hrouter token address hlocal := by
    rw [Ledger.updateRouter, Table.get?_modify] at hrouter
    by_cases hd : domain = d
    · subst hd
      rw [if_pos rfl] at hrouter
      obtain ⟨before, hbefore, rfl⟩ := Option.map_eq_some_iff.1 hrouter
      exact hlocals before hbefore token address hlocal
    · rw [if_neg hd] at hrouter
      exact h.locals d router hrouter token address hlocal
  count := h.count
  block := h.block
  leaves := h.leaves

theorem Coherent.deployToken (h : Coherent c L) (domain : DomainId) (address : Address) :
    Coherent c (L.deployToken domain address) := by
  -- The contract comes first, so that the router only learns of one that is there.
  refine (h.updateToken domain address id).updateRouter (fun _ => rfl) fun router hrouter token a ha => ?_
  rw [contains_updateToken]
  rw [Table.get?_insert] at ha
  by_cases htoken : .ofAddress domain address = token
  · rw [if_pos htoken, Option.some.injEq] at ha
    subst ha
    exact ⟨.inl rfl, .inl htoken.symm⟩
  · rw [if_neg htoken] at ha
    obtain ⟨hcontract, hcanonical⟩ := h.locals domain router hrouter token a ha
    exact ⟨.inr hcontract, hcanonical⟩

theorem Coherent.deployRepresentation (h : Coherent c L) (domain : DomainId) (token : TokenId)
    (address : Address) : Coherent c (L.deployRepresentation domain token address) := by
  refine (h.updateToken domain address id).updateRouter (fun _ => rfl) fun router hrouter t a ha => ?_
  rw [contains_updateToken, Table.contains_insert]
  rw [Table.get?_insert] at ha
  by_cases htoken : token = t
  · rw [if_pos htoken, Option.some.injEq] at ha
    subst ha
    exact ⟨.inl rfl, .inr (.inl rfl)⟩
  · rw [if_neg htoken] at ha
    obtain ⟨hcontract, hcanonical⟩ := h.locals domain router hrouter t a ha
    exact ⟨.inr hcontract, hcanonical.imp_right .inr⟩

/-! ### Transactions -/

theorem count_mined (h : L.transactionCount = UInt64.ofNat L.submitted.length) (submission : Submission) :
    L.transactionCount + 1 = UInt64.ofNat (L.submitted ++ [submission]).length := by
  rw [h, List.length_append, List.length_singleton, UInt64.ofNat_add]
  rfl

theorem Coherent.mined (h : Coherent c L) (domain : DomainId) (sender : Address) (request : Request)
    (logs : List Log) : Coherent c (L.mined domain sender request logs) where
  home := h.home
  router := h.router
  locals := h.locals
  count := count_mined h.count _
  block := congrArg (· + 1) h.block
  leaves d home hhome := by
    have hlength : (L.mined domain sender request logs).submitted.length = L.submitted.length + 1 :=
      List.length_append
    rw [hlength]
    exact Nat.le_succ_of_le (h.leaves d home hhome)

/-- A home that announces a message counts one leaf more, and so does mining with the transactions. -/
theorem Coherent.announced (h : Coherent c L) {domain : DomainId} {home : Home}
    (hhome : L.homes.get? domain = some home) (destination : DomainId) (sender : Address)
    (request : Request) (logs : List Log) :
    Coherent c ((L.announced domain home destination).mined domain sender request logs) where
  home d := by
    rw [← h.home d]
    show ((L.homes.insert domain (home.announced destination)).get? d).map Home.address = _
    rw [Table.get?_insert]
    by_cases hd : domain = d
    · subst hd
      rw [if_pos rfl, hhome]
      rfl
    · rw [if_neg hd]
  router := h.router
  locals := h.locals
  count := count_mined h.count _
  block := congrArg (· + 1) h.block
  leaves d home' hhome' := by
    have hlength : ((L.announced domain home destination).mined domain sender request logs).submitted.length
        = L.submitted.length + 1 := List.length_append
    rw [hlength]
    replace hhome' : (L.homes.insert domain (home.announced destination)).get? d = some home' := hhome'
    rw [Table.get?_insert] at hhome'
    by_cases hd : domain = d
    · rw [if_pos hd, Option.some.injEq] at hhome'
      subst hhome'
      have hle := h.leaves domain home hhome
      show (home.leafCount + 1).toNat ≤ _
      rw [UInt64.toNat_add]
      exact Nat.le_trans (Nat.mod_le _ _) (Nat.add_le_add_right hle 1)
    · rw [if_neg hd] at hhome'
      exact Nat.le_succ_of_le (h.leaves d home' hhome')

theorem Coherent.approve (h : Coherent c L) (domain : DomainId) (token owner spender : Address)
    (amount : Quantity) : Coherent c (L.approve domain token owner spender amount).2 := by
  rcases approve_cases L domain token owner spender amount with ⟨e, heq⟩ | heq
  · rw [heq]
    exact h
  · rw [heq]
    exact (h.updateToken domain token _).mined domain owner _ _

theorem Coherent.send (h : Coherent c L) (domain : DomainId) (sender token : Address) (amount : Quantity)
    (destination : DomainId) (recipient : Word) :
    Coherent c (L.send domain sender token amount destination recipient).2 := by
  rcases send_cases L domain sender token amount destination recipient with
    ⟨e, heq⟩ | ⟨address, taken, rfl, ⟨e, heq⟩ | ⟨canonical, router, remote, home, -, -, hhome, heq⟩⟩
  · rw [heq]
    exact h
  · rw [heq]
    exact h.updateToken domain token (·.take sender address amount)
  · rw [heq]
    exact (h.updateToken domain token _).announced hhome destination sender _ _

theorem Coherent.takeNative (h : Coherent c L) (domain : DomainId) (sender : Address) (value : Quantity) :
    Coherent c (L.takeNative domain sender value) :=
  { h with }

theorem Coherent.sendNative (h : Coherent c L) (domain : DomainId) (sender : Address)
    (destination : DomainId) (recipient : Word) (value : Quantity) :
    Coherent c (L.sendNative domain sender destination recipient value).2 := by
  rcases sendNative_cases L domain sender destination recipient value with
    ⟨e, heq⟩ | ⟨e, heq⟩ | ⟨token, router, remote, home, -, -, hhome, heq⟩
  · rw [heq]
    exact h
  · rw [heq]
    exact h.takeNative domain sender value
  · rw [heq]
    exact (h.takeNative domain sender value).announced hhome destination sender _ _

/-! ### The run -/

/-- Every change keeps a ledger coherent. -/
theorem Coherent.apply (h : Coherent c L) (change : Change) : Coherent c (L.apply change) := by
  cases change with
  | deployToken domain address => exact h.deployToken domain address
  | deployNativeToken domain address => exact { h.deployToken domain address with }
  | deployRepresentation domain token address => exact h.deployRepresentation domain token address
  | mint domain token owner amount => exact h.updateToken domain token (·.credit owner amount)
  | fundNative domain owner amount => exact { h with }
  | setAllowance domain token owner spender amount =>
    exact h.updateToken domain token (·.allow owner spender amount)
  | setFailing domain on => exact { h with }
  | setReverting domain on => exact { h with }
  | setStatus domain remote leaf status => exact { h with }
  | approve domain token owner spender amount => exact h.approve domain token owner spender amount
  | send domain sender token amount destination recipient =>
    exact h.send domain sender token amount destination recipient
  | sendNative domain sender destination recipient value =>
    exact h.sendNative domain sender destination recipient value

/-- **Whatever happens, a coherent ledger stays coherent.** -/
theorem Coherent.applyAll (h : Coherent c L) (changes : List Change) : Coherent c (L.applyAll changes) :=
  applyAll_of_apply (fun change h => h.apply change) h changes

theorem Coherent.transacted {L' : Ledger} (h : Coherent c L) (htransacted : Transacted L L') :
    Coherent c L' := by
  obtain ⟨changes, -, rfl⟩ := htransacted
  exact h.applyAll changes

end TokenBridge.Ledger
