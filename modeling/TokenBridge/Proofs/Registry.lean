import TokenBridge.Registry
import TokenBridge.Proofs.Outcome
import Mathlib.Data.List.Basic

/-!
# Registering and resolving

Registering a domain that the registry accepts puts it behind the domains that are there
(`registerDomain_eq_ok`). A reference resolves to the number of a registered domain, and that number
resolves to itself (`resolve_id`).
-/

namespace TokenBridge.Registry

/-- A domain that is accepted comes last, and nothing else changes. -/
theorem registerDomain_eq_ok {r r' : Registry} {d : Domain} (h : r.registerDomain d = .ok r') :
    r' = { r with domains := r.domains ++ [d] } := by
  unfold registerDomain at h
  split at h
  · cases h
  · split at h
    · cases h
    · cases h
      rfl

theorem resolve_eq_ok_iff {r : Registry} {ref : DomainRef} {id : DomainId} :
    r.resolve ref = .ok id ↔ ∃ d, r.find? ref = some d ∧ d.id = id := by
  unfold resolve
  cases r.find? ref <;> simp

theorem domain?_isSome_iff {r : Registry} {id : DomainId} :
    (r.domain? id).isSome ↔ id ∈ r.domainIds := by
  simp [domain?, domainIds]

/-- A reference resolves to the number of a registered domain. -/
theorem mem_domainIds_of_resolve {r : Registry} {ref : DomainRef} {id : DomainId}
    (h : r.resolve ref = .ok id) : id ∈ r.domainIds := by
  obtain ⟨d, hd, rfl⟩ := resolve_eq_ok_iff.1 h
  refine List.mem_map_of_mem ?_
  cases ref with
  | id _ => exact List.mem_of_find?_eq_some hd
  | name _ => exact List.mem_of_find?_eq_some hd

/-- A number resolves, to itself, exactly where a domain is registered with it. -/
theorem resolve_id_iff {r : Registry} {id id' : DomainId} :
    r.resolve (.id id) = .ok id' ↔ id ∈ r.domainIds ∧ id' = id := by
  rw [resolve_eq_ok_iff, ← domain?_isSome_iff, Option.isSome_iff_exists]
  constructor
  · rintro ⟨d, hd, rfl⟩
    exact ⟨⟨d, hd⟩, by simpa using List.find?_some hd⟩
  · rintro ⟨⟨d, hd⟩, rfl⟩
    exact ⟨d, hd, by simpa using List.find?_some hd⟩

/-- The number that a reference resolves to resolves to itself. -/
theorem resolve_id {r : Registry} {ref : DomainRef} {id : DomainId} (h : r.resolve ref = .ok id) :
    r.resolve (.id id) = .ok id :=
  resolve_id_iff.2 ⟨mem_domainIds_of_resolve h, rfl⟩

/-! ### Connections -/

/-- The connection of a domain is that of its provider and its signer alone. -/
theorem connection?_congr {r s : Registry} {domain : DomainId} (hp : s.provider? domain = r.provider? domain)
    (hs : s.signer? domain = r.signer? domain) : s.connection? domain = r.connection? domain := by
  rw [connection?, connection?, hp, hs]

theorem connection?_eq_none_iff {r : Registry} {domain : DomainId} :
    r.connection? domain = none ↔ r.provider? domain = none := by
  simp [connection?]

theorem provider?_registerProvider (r : Registry) (domain : DomainId) (p : Provider) (d : DomainId) :
    (r.registerProvider domain p).provider? d = if domain = d then some p else r.provider? d :=
  Table.get?_insert r.providers domain p d

theorem signer?_registerSigner (r : Registry) (domain : DomainId) (s : Signer) (d : DomainId) :
    (r.registerSigner domain s).signer? d = if domain = d then some s else r.signer? d :=
  Table.get?_insert r.signers domain s d

theorem signer?_unregisterSigner (r : Registry) (domain d : DomainId) :
    (r.unregisterSigner domain).signer? d = if domain = d then none else r.signer? d :=
  Table.get?_erase r.signers domain d

end TokenBridge.Registry
