import TokenBridge.Config
import TokenBridge.Proofs.Outcome
import TokenBridge.Proofs.Table

/-!
# Valid configurations

`Config.validate` accepts a configuration exactly if it is well formed (`validate_eq_ok_iff`): each of its loops
accepts a list exactly if no item of it is wrong by itself and none repeats another. So no domain number and no
name is listed twice (`validate_distinct`), and a number finds exactly the domain that carries it
(`domain?_eq_some_iff`).
-/

namespace TokenBridge.Config

/-- The numbers and names of a list are distinct and differ from those seen before. -/
theorem checkFresh_eq_ok_iff {ids : List DomainId} {names : List String} {domains : List Domain} :
    checkFresh ids names domains = .ok () ↔
      (∀ d ∈ domains, d.id ∉ ids ∧ d.name ∉ names) ∧
        (domains.map Domain.id).Nodup ∧ (domains.map Domain.name).Nodup := by
  induction domains generalizing ids names with
  | nil => simp [checkFresh]
  | cons d rest ih =>
    rw [checkFresh]
    split
    · next h => simp [h]
    · next hid =>
      split
      · next h => simp [h]
      · next hname =>
        rw [ih]
        simp only [List.mem_cons, not_or, List.map_cons, List.nodup_cons, List.mem_map, not_exists,
          not_and, forall_eq_or_imp]
        grind

theorem checkDistinct_eq_ok_iff {domains : List Domain} :
    checkDistinct domains = .ok () ↔
      (domains.map Domain.id).Nodup ∧ (domains.map Domain.name).Nodup := by
  rw [checkDistinct, checkFresh_eq_ok_iff]
  simp

theorem checkDistinct_domainList_eq_ok_iff {c : Config} :
    checkDistinct c.domainList = .ok () ↔
      (c.domains.map DomainConfig.id).Nodup ∧ (c.domains.map DomainConfig.name).Nodup := by
  rw [checkDistinct_eq_ok_iff, domainList, List.map_map, List.map_map]
  rfl

/-- A domain in order. -/
structure InOrder (d : DomainConfig) : Prop where
  /-- It asks for a confirmation. -/
  confirmations : d.confirmations ≠ 0
  /-- None of its replicas is of its own home. -/
  others : ∀ r ∈ d.replicas, r.domain ≠ d.id
  /-- No two of them are of one home. -/
  distinct : (d.replicas.map ReplicaConfig.domain).Nodup

/-- A configuration that can be worked with. -/
structure WellFormed (c : Config) : Prop where
  /-- No number is repeated. -/
  ids : (c.domains.map DomainConfig.id).Nodup
  /-- No name is repeated. -/
  names : (c.domains.map DomainConfig.name).Nodup
  /-- There is time for a confirmation. -/
  timeout : c.receiptTimeout ≠ 0
  /-- Each domain is in order. -/
  domains : ∀ d ∈ c.domains, InOrder d

theorem checkReplicas_eq_ok_iff {d : DomainConfig} {remotes : List DomainId} {replicas : List ReplicaConfig} :
    checkReplicas d remotes replicas = .ok () ↔
      (∀ r ∈ replicas, r.domain ≠ d.id) ∧ (∀ r ∈ replicas, r.domain ∉ remotes) ∧
        (replicas.map ReplicaConfig.domain).Nodup := by
  induction replicas generalizing remotes with
  | nil => simp [checkReplicas]
  | cons r rest ih =>
    rw [checkReplicas, checkReplica]
    by_cases hown : d.id = r.domain
    · simp [hown, Outcome.error_bind]
    · rw [if_neg hown, Outcome.ok_bind]
      split
      · next hseen => simp [hseen]
      · next hseen =>
        rw [ih]
        simp only [List.mem_cons, not_or, List.map_cons, List.nodup_cons, List.mem_map, not_exists, not_and,
          forall_eq_or_imp]
        grind

theorem checkDomain_eq_ok_iff {d : DomainConfig} : checkDomain d = .ok () ↔ InOrder d := by
  rw [checkDomain]
  by_cases hzero : d.confirmations = 0
  · rw [if_pos hzero]
    exact ⟨nofun, fun h => absurd hzero h.confirmations⟩
  · rw [if_neg hzero, checkReplicas_eq_ok_iff]
    constructor
    · rintro ⟨hothers, -, hdistinct⟩
      exact ⟨hzero, hothers, hdistinct⟩
    · intro h
      exact ⟨h.others, fun r _ => List.not_mem_nil, h.distinct⟩

theorem checkDomains_eq_ok_iff {domains : List DomainConfig} :
    checkDomains domains = .ok () ↔ ∀ d ∈ domains, InOrder d := by
  induction domains with
  | nil => simp [checkDomains]
  | cons d rest ih =>
    rw [checkDomains, Outcome.bind_eq_ok, List.forall_mem_cons, ← ih, ← checkDomain_eq_ok_iff]
    exact ⟨fun ⟨_, hd, hrest⟩ => ⟨hd, hrest⟩, fun ⟨hd, hrest⟩ => ⟨(), hd, hrest⟩⟩

/-- A configuration is valid exactly if it is well formed. -/
theorem validate_eq_ok_iff {c : Config} : c.validate = .ok () ↔ WellFormed c := by
  rw [validate, Outcome.bind_eq_ok]
  constructor
  · rintro ⟨_, hdistinct, hrest⟩
    obtain ⟨hids, hnames⟩ := checkDistinct_domainList_eq_ok_iff.1 hdistinct
    split at hrest
    · cases hrest
    · next hsome => exact ⟨hids, hnames, hsome, checkDomains_eq_ok_iff.1 hrest⟩
  · intro h
    refine ⟨(), checkDistinct_domainList_eq_ok_iff.2 ⟨h.ids, h.names⟩, ?_⟩
    rw [if_neg h.timeout]
    exact checkDomains_eq_ok_iff.2 h.domains

theorem nodup_ids {c : Config} (h : c.validate = .ok ()) : (c.domains.map DomainConfig.id).Nodup :=
  (validate_eq_ok_iff.1 h).ids

/-- A valid configuration has distinct numbers and distinct names. -/
theorem validate_distinct {c : Config} (h : c.validate = .ok ()) :
    (c.domainList.map Domain.id).Nodup ∧ (c.domainList.map Domain.name).Nodup := by
  have hwell := validate_eq_ok_iff.1 h
  exact checkDistinct_eq_ok_iff.1 (checkDistinct_domainList_eq_ok_iff.2 ⟨hwell.ids, hwell.names⟩)

/-- A domain of a valid configuration lists replicas of distinct homes. -/
theorem nodup_replicas {c : Config} (h : c.validate = .ok ()) {d : DomainConfig} (hd : d ∈ c.domains) :
    (d.replicas.map ReplicaConfig.domain).Nodup :=
  ((validate_eq_ok_iff.1 h).domains d hd).distinct

/-- In a valid configuration a number finds exactly the domain that carries it. -/
theorem domain?_eq_some_iff {c : Config} (h : c.validate = .ok ()) {id : DomainId} {d : DomainConfig} :
    c.domain? id = some d ↔ d ∈ c.domains ∧ d.id = id := by
  constructor
  · intro hd
    exact ⟨List.mem_of_find?_eq_some hd, by simpa using List.find?_some hd⟩
  · rintro ⟨hmem, rfl⟩
    exact Table.find?_key_of_mem (nodup_ids h) hmem

end TokenBridge.Config
