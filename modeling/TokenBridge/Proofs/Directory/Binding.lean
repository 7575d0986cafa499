import TokenBridge.Directory
import TokenBridge.Proofs.Config
import TokenBridge.Proofs.Table

/-!
# Bindings of a directory

The handles of a directory are fixed by its configuration and by one connection for each domain:
`Directory.boundTo c connections` lists, for every configured domain, the handles on its contracts, all of
them bound to the domain's connection. Building a directory gives one of this form, and rebinding a domain
gives the one in which only that domain's connection is another (`rebind_boundTo`), so every directory that
is ever reached is of this form.
-/

namespace TokenBridge

/-- The addresses that an entry keeps are those that its configuration lists, -/
theorem Core.addresses_ofConfig {d : DomainConfig} (h : (d.replicas.map ReplicaConfig.domain).Nodup)
    (k : Option Connection) :
    (Core.ofConfig d k).replicaAddresses.entries = d.replicas.map fun r => (r.domain, r.address) :=
  Table.entries_ofList_of_nodup (by simpa [Function.comp_def] using h)

/-- and the replicas are the ones at these addresses. -/
theorem Core.replicas_ofConfig {d : DomainConfig} (h : (d.replicas.map ReplicaConfig.domain).Nodup)
    (k : Option Connection) :
    (Core.ofConfig d k).replicas.entries =
      d.replicas.map fun r => (r.domain, ⟨⟨d.id, r.address, k⟩, r.domain⟩) := by
  show (Core.ofConfig d k).replicaAddresses.entries.map _ = _
  rw [addresses_ofConfig h, List.map_map]
  rfl

/-- An entry keeps all that it is built from, so binding it is building it. -/
theorem Core.bind_ofConfig (d : DomainConfig) (k k' : Option Connection) :
    (Core.ofConfig d k).bind k' = Core.ofConfig d k' := rfl

theorem Bridge.bind_ofConfig (domain : DomainId) (b : BridgeConfig) (k k' : Option Connection) :
    (Bridge.ofConfig domain b k).bind k' = Bridge.ofConfig domain b k' := rfl

/-- The bridge entry of a configured domain, if it has bridge contracts. -/
def Bridge.ofDomain? (d : DomainConfig) (k : Option Connection) : Option Bridge :=
  d.bridge.map fun b => .ofConfig d.id b k

theorem Bridge.map_bind_ofDomain? (d : DomainConfig) (k k' : Option Connection) :
    (Bridge.ofDomain? d k).map (·.bind k') = Bridge.ofDomain? d k' := by
  rw [ofDomain?, ofDomain?, Option.map_map]
  exact congrArg (Option.map · d.bridge) (funext fun b => bind_ofConfig d.id b k k')

namespace Directory

/-- The core entries of configured domains, each bound to its own connection. -/
def coreEntries (connections : DomainId → Option Connection) (domains : List DomainConfig) :
    List (DomainId × Core) :=
  domains.map fun d => (d.id, .ofConfig d (connections d.id))

/-- The bridge entries of configured domains, each bound to its own connection. -/
def bridgeEntries (connections : DomainId → Option Connection) (domains : List DomainConfig) :
    List (DomainId × Bridge) :=
  domains.filterMap fun d => (Bridge.ofDomain? d (connections d.id)).map fun b => (d.id, b)

/-- The directory of a configuration in which each domain is bound to its own connection. -/
def boundTo (c : Config) (connections : DomainId → Option Connection) : Directory where
  config := c
  cores := .ofList (coreEntries connections c.domains)
  bridges := .ofList (bridgeEntries connections c.domains)

/-- Adding domains to a directory writes their entries after those that it has. -/
theorem foldl_addDomain (r : Registry) (domains : List DomainConfig) (D : Directory) :
    domains.foldl (addDomain r) D =
      { D with
        cores := (coreEntries r.connection? domains).foldl (fun t e => t.insert e.1 e.2) D.cores
        bridges := (bridgeEntries r.connection? domains).foldl (fun t e => t.insert e.1 e.2) D.bridges } := by
  induction domains generalizing D with
  | nil => rfl
  | cons d rest ih =>
    rw [List.foldl_cons, ih]
    cases hb : d.bridge with
    | none => simp [addDomain, coreEntries, bridgeEntries, Bridge.ofDomain?, hb]
    | some b => simp [addDomain, coreEntries, bridgeEntries, Bridge.ofDomain?, hb]

/-- A directory is built bound to the connections that the registry has. -/
theorem ofConfig_eq_boundTo (c : Config) (r : Registry) : ofConfig c r = boundTo c r.connection? :=
  foldl_addDomain r c.domains ⟨c, .empty, .empty⟩

/-- Rebinding a domain changes the connection of that domain and nothing else. -/
theorem rebind_boundTo (c : Config) (connections : DomainId → Option Connection) (domain : DomainId)
    (k : Option Connection) :
    (boundTo c connections).rebind domain k = boundTo c (Function.update connections domain k) := by
  have hcores : (coreEntries connections c.domains).map
      (fun e => (e.1, if e.1 = domain then e.2.bind k else e.2)) =
        coreEntries (Function.update connections domain k) c.domains := by
    rw [coreEntries, coreEntries, List.map_map]
    refine List.map_congr_left fun d _ => ?_
    by_cases h : d.id = domain
    · simp [h, Core.bind_ofConfig]
    · simp [h]
  have hbridges : (bridgeEntries connections c.domains).map
      (fun e => (e.1, if e.1 = domain then e.2.bind k else e.2)) =
        bridgeEntries (Function.update connections domain k) c.domains := by
    rw [bridgeEntries, bridgeEntries, List.map_filterMap]
    refine List.filterMap_congr fun d _ => ?_
    by_cases h : d.id = domain
    · rw [← h, Function.update_self, ← Bridge.map_bind_ofDomain? d (connections d.id) k]
      simp [Function.comp_def]
    · simp [h, Function.comp_def]
  unfold rebind boundTo
  rw [Table.modify_ofList, Table.modify_ofList, hcores, hbridges]

/-- Only the connections of configured domains count. -/
theorem boundTo_congr {c : Config} {connections connections' : DomainId → Option Connection}
    (h : ∀ d ∈ c.domains, connections d.id = connections' d.id) :
    boundTo c connections = boundTo c connections' := by
  have hcores : coreEntries connections c.domains = coreEntries connections' c.domains :=
    List.map_congr_left fun d hd => by rw [h d hd]
  have hbridges : bridgeEntries connections c.domains = bridgeEntries connections' c.domains :=
    List.filterMap_congr fun d hd => by rw [h d hd]
  rw [boundTo, boundTo, hcores, hbridges]

/-! ### Looking entries up -/

variable {c : Config} {connections : DomainId → Option Connection} {domain : DomainId}

/-- Every configured domain has one core entry, and no other domain has one. -/
theorem get?_cores_boundTo (h : c.validate = .ok ()) :
    (boundTo c connections).cores.get? domain =
      (c.domain? domain).map fun d => .ofConfig d (connections d.id) := by
  have hkeys : ((coreEntries connections c.domains).map Prod.fst).Nodup := by
    simpa [coreEntries, Function.comp_def] using Config.nodup_ids h
  show (Table.ofList (coreEntries connections c.domains)).get? domain = _
  rw [Table.get?_ofList hkeys, coreEntries, Table.find?_map]
  rfl

/-- Every configured domain with bridge contracts has one bridge entry, and no other domain has one. -/
theorem get?_bridges_boundTo (h : c.validate = .ok ()) :
    (boundTo c connections).bridges.get? domain =
      (c.domain? domain).bind fun d => Bridge.ofDomain? d (connections d.id) := by
  have hn := Config.nodup_ids h
  have hkeys : ((bridgeEntries connections c.domains).map Prod.fst).Nodup :=
    (Table.keys_filterMap_sublist DomainConfig.id _ c.domains).nodup hn
  show (Table.ofList (bridgeEntries connections c.domains)).get? domain = _
  rw [Table.get?_ofList hkeys]
  exact Table.find?_filterMap hn (fun d => Bridge.ofDomain? d (connections d.id)) domain

/-- The core entries are those of the configured domains, in their order. -/
theorem keys_cores_boundTo (h : c.validate = .ok ()) :
    (boundTo c connections).cores.keys = c.domains.map DomainConfig.id := by
  have hkeys : (coreEntries connections c.domains).map Prod.fst = c.domains.map DomainConfig.id := by
    simp [coreEntries, Function.comp_def]
  rw [Table.keys, boundTo, Table.entries_ofList_of_nodup (hkeys ▸ Config.nodup_ids h), hkeys]

/-- The bridge entries are those of the configured domains with bridge contracts, in their order. -/
theorem keys_bridges_boundTo (h : c.validate = .ok ()) :
    (boundTo c connections).bridges.keys =
      (c.domains.filter (·.bridge.isSome)).map DomainConfig.id := by
  have hnodup : ((bridgeEntries connections c.domains).map Prod.fst).Nodup :=
    (Table.keys_filterMap_sublist DomainConfig.id _ c.domains).nodup (Config.nodup_ids h)
  rw [Table.keys, boundTo, Table.entries_ofList_of_nodup hnodup, bridgeEntries]
  induction c.domains with
  | nil => rfl
  | cons d rest ih => cases hb : d.bridge <;> simpa [Bridge.ofDomain?, hb] using ih

end Directory

end TokenBridge
