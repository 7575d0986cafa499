import TokenBridge.Proofs.Client.Rebuild

/-!
# Building in a reachable registry

In a registry that a session can reach, building fails exactly for what can be seen before anything is
registered: a configuration that is not valid, or a configured domain that conflicts with those registered
(`buildOn_cases`). After a failure the registry is as it was. After a success it has the configured domains that
it did not have, behind those that it had, and building once more finds nothing to register (`buildOn_atomic`).
-/

namespace TokenBridge

namespace Registry

variable {r : Registry} {d : Domain}

/-- A registered domain conflicts with none. -/
theorem Distinct.not_conflicts (h : r.Distinct) (hd : d ∈ r.domains) : ¬ r.Conflicts d := by
  rintro (⟨e, he, hid, hname⟩ | ⟨hid, -⟩)
  · have heq : e = d := Option.some.inj ((h.domain?_of_mem he).symm.trans (hid ▸ h.domain?_of_mem hd))
    exact hname (heq ▸ rfl)
  · exact hid d hd rfl

theorem Free.notMem (h : r.Free d) : d ∉ r.domains := fun hd => h.id d hd rfl

end Registry

namespace Directory

open Registry

variable {c : Config} {r : Registry}

/-- The domains of a list can be registered where none of them conflicts, and those that are missing are left. -/
theorem unregistered_eq_ok_iff (h : r.Distinct) {domains pending : List Domain} :
    unregistered r domains = .ok pending ↔
      (∀ d ∈ domains, ¬ r.Conflicts d) ∧ pending = domains.filter (· ∉ r.domains) := by
  induction domains generalizing pending with
  | nil => simp [unregistered, eq_comm]
  | cons d rest ih =>
    rw [List.forall_mem_cons]
    rcases unregistered_cons r d rest with ⟨hmem, heq⟩ | ⟨hconflicts, e, heq⟩ | ⟨hfree, heq⟩
    · rw [heq, ih, List.filter_cons_of_neg (by simpa using hmem)]
      simp [h.not_conflicts hmem]
    · simp [heq, hconflicts]
    · rw [heq, Outcome.map_eq_ok, List.filter_cons_of_pos (by simpa using hfree.notMem)]
      simp only [ih, hfree.not_conflicts, not_false_eq_true, true_and]
      constructor
      · rintro ⟨others, ⟨hrest, rfl⟩, rfl⟩
        exact ⟨hrest, rfl⟩
      · rintro ⟨hrest, rfl⟩
        exact ⟨_, ⟨hrest, rfl⟩, rfl⟩

/-- Where a domain of the list conflicts, nothing is left to register. -/
theorem exists_unregistered_eq_error (h : r.Distinct) {domains : List Domain}
    (hconflicts : ∃ d ∈ domains, r.Conflicts d) : ∃ e, unregistered r domains = .error e := by
  obtain ⟨d, hd, hconflicts⟩ := hconflicts
  cases heq : unregistered r domains with
  | error e => exact ⟨e, rfl⟩
  | ok pending => exact absurd hconflicts (((unregistered_eq_ok_iff h).1 heq).1 d hd)

/-- The registry with the configured domains that it did not have, in their order. -/
def extended (c : Config) (r : Registry) : Registry :=
  { r with domains := r.domains ++ c.domainList.filter (· ∉ r.domains) }

theorem mem_extended {d : Domain} (hd : d ∈ c.domainList) : d ∈ (extended c r).domains := by
  by_cases hmem : d ∈ r.domains
  · exact List.mem_append_left _ hmem
  · exact List.mem_append_right _ (List.mem_filter.2 ⟨hd, by simpa using hmem⟩)

/-- A valid configuration without conflicts is built over the registry with the missing domains. -/
theorem buildOn_of_compatible (h : r.Distinct) (hvalid : c.validate = .ok ())
    (hcompatible : ∀ d ∈ c.domainList, ¬ r.Conflicts d) :
    buildOn c r = (.ok (ofConfig c (extended c r)), extended c r) ∧ (extended c r).Distinct := by
  have hpending := (unregistered_eq_ok_iff h).2 ⟨hcompatible, rfl⟩
  have hall : registerAll r (c.domainList.filter (· ∉ r.domains)) = .ok (extended c r) := by
    rw [registerAll_eq, registerEach_of_unregistered hvalid hpending]
    rfl
  exact ⟨buildOn_of_unregistered hvalid hpending, h.registerAll hall⟩

/-- Building fails before anything is registered, or it registers all that is missing. -/
theorem buildOn_cases (h : r.Distinct) (c : Config) :
    (((∃ e, c.validate = .error e) ∨ ∃ d ∈ c.domainList, r.Conflicts d) ∧
        ∃ e, buildOn c r = (.error e, r)) ∨
      c.validate = .ok () ∧ (∀ d ∈ c.domainList, ¬ r.Conflicts d) ∧
        buildOn c r = (.ok (ofConfig c (extended c r)), extended c r) := by
  cases hvalid : c.validate with
  | error e => exact .inl ⟨.inl ⟨e, rfl⟩, e, buildOn_of_invalid hvalid⟩
  | ok _ =>
    by_cases hconflicts : ∃ d ∈ c.domainList, r.Conflicts d
    · obtain ⟨e, he⟩ := exists_unregistered_eq_error h hconflicts
      exact .inl ⟨.inr hconflicts, e, buildOn_of_refused hvalid he⟩
    · have hcompatible : ∀ d ∈ c.domainList, ¬ r.Conflicts d := fun d hd hc => hconflicts ⟨d, hd, hc⟩
      exact .inr ⟨rfl, hcompatible, (buildOn_of_compatible h hvalid hcompatible).1⟩

/-- What a registry has become once the directory of a configuration was built in it. -/
structure BuiltIn (c : Config) (r r' : Registry) : Prop where
  /-- It has the configured domains that it did not have behind the others, in the order of the configuration. -/
  domains : r' = { r with domains := r.domains ++ c.domainList.filter (· ∉ r.domains) }
  /-- A configured domain is found by its number and by its name. -/
  resolve : ∀ d ∈ c.domainList, r'.resolve (.id d.id) = .ok d.id ∧ r'.resolve (.name d.name) = .ok d.id
  /-- Building once more succeeds and registers nothing. -/
  again : ∃ D, buildOn c r' = (.ok D, r')

theorem builtIn_extended (h : r.Distinct) (hvalid : c.validate = .ok ())
    (hcompatible : ∀ d ∈ c.domainList, ¬ r.Conflicts d) : BuiltIn c r (extended c r) where
  domains := rfl
  resolve d hd :=
    (buildOn_of_compatible h hvalid hcompatible).2.resolve_of_mem (mem_extended hd)
  again := by
    have hdistinct := (buildOn_of_compatible h hvalid hcompatible).2
    have hnone : unregistered (extended c r) c.domainList = .ok [] :=
      unregistered_of_registered hdistinct fun d hd => mem_extended hd
    have hagain := buildOn_of_unregistered hvalid hnone
    rw [List.append_nil] at hagain
    exact ⟨_, hagain⟩

end Directory

namespace Session

open Directory

/-- **Building a client is atomic on the registry**: in every reachable session it fails exactly where the
configuration is not valid or one of its domains conflicts with the registry, it changes nothing where it fails,
and where it succeeds, the registry has just the missing domains in addition. -/
theorem buildOn_atomic (L : Ledger) (steps : List Step) (c : Config) :
    let r := (after L steps).registry
    ((∃ e, (buildOn c r).1 = .error e) ↔
        (∃ e, c.validate = .error e) ∨ ∃ d ∈ c.domainList, r.Conflicts d) ∧
      (∀ e, (buildOn c r).1 = .error e → (buildOn c r).2 = r) ∧
      ∀ D, (buildOn c r).1 = .ok D → BuiltIn c r (buildOn c r).2 := by
  intro r
  have hdistinct : r.Distinct := distinct_after L steps
  rcases buildOn_cases hdistinct c with ⟨hreason, e, heq⟩ | ⟨hvalid, hcompatible, heq⟩
  · rw [heq]
    refine ⟨iff_of_true ⟨e, rfl⟩ hreason, fun _ _ => rfl, ?_⟩
    intro D hD
    cases hD
  · rw [heq]
    refine ⟨iff_of_false ?_ ?_, ?_, fun D _ => builtIn_extended hdistinct hvalid hcompatible⟩
    · rintro ⟨e, he⟩
      cases he
    · rintro (⟨e, he⟩ | ⟨d, hd, hconflicts⟩)
      · cases hvalid.symm.trans he
      · exact hcompatible d hd hconflicts
    · intro e he
      cases he

/-- A registry that has the first domain of the small bridge gets the second one; one in which the name of the
first has another number refuses the bridge, although the second domain could be registered. -/
theorem buildOn_atomic_testing :
    let known := (after (.ofConfig .testing) [.registry (.registerDomain ⟨1, "alpha"⟩)]).registry
    let taken := (after (.ofConfig .testing) [.registry (.registerDomain ⟨3, "alpha"⟩)]).registry
    (BuiltIn .testing known (buildOn .testing known).2 ∧
        (buildOn .testing known).2.domains = [⟨1, "alpha"⟩, ⟨2, "beta"⟩]) ∧
      (∃ e, (buildOn .testing taken).1 = .error e) ∧ (buildOn .testing taken).2 = taken := by
  intro known taken
  obtain ⟨-, -, hbuilt⟩ :=
    buildOn_atomic (.ofConfig .testing) [.registry (.registerDomain ⟨1, "alpha"⟩)] .testing
  obtain ⟨hfails, hunchanged, -⟩ :=
    buildOn_atomic (.ofConfig .testing) [.registry (.registerDomain ⟨3, "alpha"⟩)] .testing
  have hsuccess : (buildOn .testing known).1 = .ok (ofConfig .testing (buildOn .testing known).2) := by
    decide +kernel
  have hconflicts : taken.Conflicts ⟨1, "alpha"⟩ := by decide +kernel
  obtain ⟨e, he⟩ := hfails.2 (.inr ⟨⟨1, "alpha"⟩, .head _, hconflicts⟩)
  exact ⟨⟨hbuilt _ hsuccess, by decide +kernel⟩, ⟨e, he⟩, hunchanged e he⟩

end Session

end TokenBridge
