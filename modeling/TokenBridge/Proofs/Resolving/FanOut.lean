import TokenBridge.Proofs.Resolving.Representations

/-!
# Asking all domains at once

Asking all registered domains for a token is asking each of them by itself (`representations_pointwise`). Where every
one of them answers, the answers are collected, one for each domain that has the token (`Collects`); nothing is lost in
the table, for no number is registered twice (`Session.distinct_client`). Where some do not answer, the failure of the
first of them, in the order of registration, is reported under its number (`representationsOn_of_error`). That a domain
answers says nothing about its connection or its bridge contracts: one without bridge contracts answers too, that it
has no representation.
-/

namespace TokenBridge

namespace Representations

variable (r : Representations)

theorem mem_domains {domain : DomainId} : domain ∈ r.domains ↔ (r.get? domain).isSome := by
  rw [domains, List.mem_mergeSort, Table.mem_keys, Option.isSome_iff_exists]
  rfl

theorem length_domains : r.domains.length = r.size := by
  rw [domains, List.length_mergeSort, Table.keys, List.length_map]
  rfl

/-- The domains are listed in ascending order, none of them twice. -/
theorem pairwise_domains : r.domains.Pairwise (· < ·) := by
  have hle : r.domains.Pairwise fun a b => decide (a ≤ b) = true :=
    List.pairwise_mergeSort (fun a b c => by simpa using UInt32.le_trans)
      (fun a b => by simpa using UInt32.le_total a b) r.contracts.keys
  have hne : r.domains.Pairwise (· ≠ ·) := (List.mergeSort_perm _ _).nodup_iff.2 r.contracts.nodup
  exact hle.imp₂ (fun a b hle hne => UInt32.lt_of_le_of_ne (of_decide_eq_true hle) hne) hne

end Representations

namespace Client

variable {c : Client} {L : Ledger} {token : TokenId}

/-- Once a domain and that of the token are resolved, only the directory and the ledger are asked. -/
theorem representation_of_resolve {ref : DomainRef} {domain : DomainId} (hdomain : c.resolve ref = .ok domain)
    (htoken : token.domain ∈ c.registry.domainIds) :
    c.representation L ref token = c.representationOn L domain token := by
  have hresolve : c.resolve (.id token.domain) = .ok token.domain := Registry.resolve_id_iff.2 ⟨htoken, rfl⟩
  rw [representation, hdomain, Outcome.ok_bind, hresolve, Outcome.ok_bind]

/-- Asking a registered domain by its number. -/
theorem representation_of_mem {domain : DomainId} (hdomain : domain ∈ c.registry.domainIds)
    (htoken : token.domain ∈ c.registry.domainIds) :
    c.representation L (.id domain) token = c.representationOn L domain token :=
  representation_of_resolve (Registry.resolve_id_iff.2 ⟨hdomain, rfl⟩) htoken

/-- All registered domains are asked, in the order in which they were registered. -/
theorem representations_of_mem (htoken : token.domain ∈ c.registry.domainIds) :
    c.representations L token = (do
      let found ← c.representationsOn L token c.registry.domainIds
      return ⟨token, .ofList found⟩) := by
  have hresolve : c.resolve (.id token.domain) = .ok token.domain := Registry.resolve_id_iff.2 ⟨htoken, rfl⟩
  rw [representations, hresolve, Outcome.ok_bind]

/-- The first domain that does not answer is reported, whatever those after it would say. -/
theorem representationsOn_of_error {before after : List DomainId} {domain : DomainId} {e : BridgeError}
    (hbefore : ∀ other ∈ before, ∃ found, c.representationOn L other token = .ok found)
    (hdomain : c.representationOn L domain token = .error e) :
    c.representationsOn L token (before ++ domain :: after) = .error (.queryFailed domain e) := by
  induction before with
  | nil => rw [List.nil_append, representationsOn, hdomain, Outcome.mapError_error, Outcome.error_bind]
  | cons other rest ih =>
    obtain ⟨found, hfound⟩ := hbefore other List.mem_cons_self
    rw [List.cons_append, representationsOn, hfound, Outcome.mapError_ok, Outcome.ok_bind,
      ih fun next hnext => hbefore next (List.mem_cons_of_mem _ hnext), Outcome.error_bind]

/-- Domains that do not all answer have a first one that does not. -/
theorem exists_first_error (ids : List DomainId)
    (h : ¬ ∀ domain ∈ ids, ∃ found, c.representationOn L domain token = .ok found) :
    ∃ before domain after e, ids = before ++ domain :: after ∧
      (∀ other ∈ before, ∃ found, c.representationOn L other token = .ok found) ∧
      c.representationOn L domain token = .error e := by
  induction ids with
  | nil => exact absurd (fun _ hmem => absurd hmem List.not_mem_nil) h
  | cons domain rest ih =>
    cases hdomain : c.representationOn L domain token with
    | error e => exact ⟨[], domain, rest, e, rfl, fun _ hmem => absurd hmem List.not_mem_nil, hdomain⟩
    | ok found =>
      have hrest : ¬ ∀ other ∈ rest, ∃ found, c.representationOn L other token = .ok found := fun hall =>
        h fun other hother => (List.mem_cons.1 hother).elim (fun heq => ⟨found, heq ▸ hdomain⟩) (hall other)
      obtain ⟨before, first, after, e, rfl, hbefore, hfirst⟩ := ih hrest
      refine ⟨domain :: before, first, after, e, rfl, fun other hother => ?_, hfirst⟩
      rcases List.mem_cons.1 hother with rfl | hother
      · exact ⟨found, hdomain⟩
      · exact hbefore other hother

/-- What asking all domains for a token collects: what each of them answers by itself. -/
structure Collects (c : Client) (L : Ledger) (token : TokenId) (r : Representations) : Prop where
  /-- It is about the token. -/
  about : r.token = token
  /-- On each domain it has what asking that domain gives, by number or by name: the same address, bound to the same
  connection. -/
  answer : ∀ ref domain, c.resolve ref = .ok domain → c.representation L ref token = .ok (r.get? domain)
  /-- It has nothing on a domain that is not registered. -/
  unregistered : ∀ domain, domain ∉ c.registry.domainIds → r.get? domain = none
  /-- Its domains are listed in ascending order, none of them twice. -/
  ascending : r.domains.Pairwise (· < ·)
  /-- They are the registered ones where asking finds a representation. -/
  listed : ∀ domain, domain ∈ r.domains ↔
    domain ∈ c.registry.domainIds ∧ ∃ contract, c.representation L (.id domain) token = .ok (some contract)
  /-- Its size is how many they are. -/
  size : r.size = r.domains.length

/-- Where every domain answers, the answers are collected. -/
theorem exists_collects (hdistinct : c.registry.Distinct) (htoken : token.domain ∈ c.registry.domainIds)
    (hanswers : ∀ domain ∈ c.registry.domainIds, ∃ found, c.representationOn L domain token = .ok found) :
    ∃ r, c.representations L token = .ok r ∧ c.Collects L token r := by
  -- What a domain answers, as a function of the domain.
  let found := fun domain => (c.representationOn L domain token).toOption.join
  have hfound : ∀ domain ∈ c.registry.domainIds, c.representationOn L domain token = .ok (found domain) := by
    intro domain hdomain
    obtain ⟨answer, hanswer⟩ := hanswers domain hdomain
    simp [found, hanswer, Except.toOption]
  have hget := Table.get?_ofList_filterMap hdistinct.ids found
  refine ⟨⟨token, .ofList (c.registry.domainIds.filterMap fun domain =>
    (found domain).map fun contract => (domain, contract))⟩, ?_, ?_⟩
  · rw [representations_of_mem htoken, representationsOn_eq hfound]
    rfl
  · constructor
    case about => rfl
    case answer =>
      intro ref domain hresolve
      have hdomain := Registry.mem_domainIds_of_resolve hresolve
      rw [representation_of_resolve hresolve htoken, hfound domain hdomain, Representations.get?, hget, if_pos hdomain]
    case unregistered =>
      intro domain hdomain
      rw [Representations.get?, hget, if_neg hdomain]
    case ascending => exact Representations.pairwise_domains _
    case listed =>
      intro domain
      rw [Representations.mem_domains, Representations.get?, hget]
      by_cases hdomain : domain ∈ c.registry.domainIds
      · rw [if_pos hdomain, representation_of_mem hdomain htoken, hfound domain hdomain]
        simp [hdomain, Option.isSome_iff_exists]
      · rw [if_neg hdomain]
        simp [hdomain]
    case size => exact (Representations.length_domains _).symm

/-- **Asking all domains is asking each of them.** In every reachable session, for every token of a registered domain:
if every registered domain answers, the answers are collected; otherwise the failure of the first one that does not is
reported under its number, in the order of registration. -/
theorem representations_pointwise {L₀ : Ledger} {steps : List Step} {c : Client}
    (hclient : (Session.after L₀ steps).client? = some c) {token : TokenId}
    (htoken : token.domain ∈ c.registry.domainIds) :
    let L := (Session.after L₀ steps).ledger
    ((∀ domain ∈ c.registry.domainIds, ∃ found, c.representation L (.id domain) token = .ok found) →
        ∃ r, c.representations L token = .ok r ∧ c.Collects L token r) ∧
      ((¬ ∀ domain ∈ c.registry.domainIds, ∃ found, c.representation L (.id domain) token = .ok found) →
        ∃ before domain after e, c.registry.domainIds = before ++ domain :: after ∧
          (∀ other ∈ before, ∃ found, c.representation L (.id other) token = .ok found) ∧
          c.representation L (.id domain) token = .error e ∧
          c.representations L token = .error (.queryFailed domain e)) := by
  intro L
  have heach : ∀ domain ∈ c.registry.domainIds,
      c.representation L (.id domain) token = c.representationOn L domain token :=
    fun domain hdomain => representation_of_mem hdomain htoken
  constructor
  · intro hanswers
    exact exists_collects (Session.distinct_client hclient) htoken fun domain hdomain =>
      heach domain hdomain ▸ hanswers domain hdomain
  · intro hnot
    obtain ⟨before, domain, after, e, hids, hbefore, hdomain⟩ := exists_first_error (c := c) (L := L)
      c.registry.domainIds fun hall => hnot fun d hd => (heach d hd).symm ▸ hall d hd
    refine ⟨before, domain, after, e, hids, fun other hother => ?_, ?_, ?_⟩
    · rw [heach other (hids ▸ List.mem_append_left _ hother)]
      exact hbefore other hother
    · rw [heach domain (hids ▸ List.mem_append_right _ List.mem_cons_self)]
      exact hdomain
    · rw [representations_of_mem htoken, hids, representationsOn_of_error hbefore hdomain]
      rfl

/-- Both domains of the small bridge get a provider, and then calls reach neither. -/
def unreachedSteps : List Step :=
  pairSteps ++ [.ledger (.setFailing 1 true), .ledger (.setFailing 2 true)]

/-- While calls reach both domains, the token is found on both; once they reach neither, the failure of the one that
was registered first is reported. -/
theorem representations_pointwise_pair :
    (∃ r, pairClient.representations (Session.after (.ofConfig .testing) pairSteps).ledger
        (.ofAddress 1 (.ofNat 0x3001)) = .ok r ∧ 1 ∈ r.domains ∧ 2 ∈ r.domains) ∧
      pairClient.representations (Session.after (.ofConfig .testing) unreachedSteps).ledger
          (.ofAddress 1 (.ofNat 0x3001)) =
        .error (.queryFailed 1 (.chain 1 .localAddress (.call (.unreachable 1)))) := by
  have hids : pairClient.registry.domainIds = [1, 2] := by decide +kernel
  have hregistered : (TokenId.ofAddress 1 (.ofNat 0x3001)).domain ∈ pairClient.registry.domainIds := by
    rw [hids]
    exact List.mem_cons_self
  constructor
  · have h₁ : pairClient.representation (Session.after (.ofConfig .testing) pairSteps).ledger (.id 1)
        (.ofAddress 1 (.ofNat 0x3001)) =
          .ok (some ⟨⟨1, .ofNat 0x3001, some ⟨⟨0, "http://alpha", .plain, 0⟩, none⟩⟩⟩) := by rfl
    have h₂ : pairClient.representation (Session.after (.ofConfig .testing) pairSteps).ledger (.id 2)
        (.ofAddress 1 (.ofNat 0x3001)) =
          .ok (some ⟨⟨2, .ofNat 0x5001, some ⟨⟨0, "http://alpha", .plain, 0⟩, none⟩⟩⟩) := by rfl
    have hanswers : ∀ domain ∈ pairClient.registry.domainIds, ∃ found,
        pairClient.representation (Session.after (.ofConfig .testing) pairSteps).ledger (.id domain)
          (.ofAddress 1 (.ofNat 0x3001)) = .ok found := by
      rw [hids]
      intro domain hdomain
      rcases List.mem_pair.1 hdomain with rfl | rfl
      · exact ⟨_, h₁⟩
      · exact ⟨_, h₂⟩
    obtain ⟨r, hr, hcollects⟩ := (representations_pointwise client?_pairSteps hregistered).1 hanswers
    exact ⟨r, hr, (hcollects.listed 1).2 ⟨by rw [hids]; decide, _, h₁⟩,
      (hcollects.listed 2).2 ⟨by rw [hids]; decide, _, h₂⟩⟩
  · have h₁ : pairClient.representation (Session.after (.ofConfig .testing) unreachedSteps).ledger (.id 1)
        (.ofAddress 1 (.ofNat 0x3001)) = .error (.chain 1 .localAddress (.call (.unreachable 1))) := by rfl
    have hclient : (Session.after (.ofConfig .testing) unreachedSteps).client? = some pairClient := rfl
    obtain ⟨before, domain, after, e, hsplit, hbefore, hdomain, hfailed⟩ :=
      (representations_pointwise hclient hregistered).2 fun hall => by
        obtain ⟨found, hfound⟩ := hall 1 (by rw [hids]; decide)
        exact nomatch h₁.symm.trans hfound
    -- Domain one is the first that was registered, so none is before it.
    rw [hids] at hsplit
    cases before with
    | nil =>
      obtain ⟨rfl, -⟩ := List.cons.inj hsplit
      rw [hfailed, Except.error.inj (h₁.symm.trans hdomain)]
    | cons first rest =>
      obtain ⟨rfl, -⟩ := List.cons.inj hsplit
      obtain ⟨found, hfound⟩ := hbefore 1 List.mem_cons_self
      exact nomatch h₁.symm.trans hfound

end Client

end TokenBridge
