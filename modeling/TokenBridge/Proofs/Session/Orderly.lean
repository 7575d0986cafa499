import Mathlib.Data.List.Induction
import TokenBridge.Proofs.Session.Routers

/-!
# Orderly deployments

Deployments are orderly if every contract is put at a place of its own, and every token has at most one
representation on a domain and none on its own. After orderly deployments the routers know just what was
deployed, in both directions: the address of a representation represents its token (`Orderly.represented_eq`),
the token is kept at that address (`Orderly.kept_eq`), and the address is not kept as a token of the domain
itself (`Orderly.kept_own`). A token of the domain itself is kept at its address (`Orderly.kept_of_issued`), which
represents nothing (`Orderly.represented_of_issued`), and on another domain a token is kept where it is represented
and nowhere else (`Orderly.kept_eq_some_iff`).
-/

namespace TokenBridge

/-- The place at which a step puts a contract, if it puts one in place. -/
def Step.place? : Step → Option (DomainId × Address)
  | .ledger (.deployToken domain address) => some (domain, address)
  | .ledger (.deployNativeToken domain address) => some (domain, address)
  | .ledger (.deployRepresentation domain _ address) => some (domain, address)
  | _ => none

/-- The token that a step represents, with the domain on which it does. -/
def Step.representation? : Step → Option (DomainId × TokenId)
  | .ledger (.deployRepresentation domain token _) => some (domain, token)
  | _ => none

namespace Session

/-- Contracts are put at places of their own, and tokens are represented once on each of the other domains at
most. -/
structure Orderly (steps : List Step) : Prop where
  /-- No contract is put at the zero address. -/
  nonzero : ∀ place ∈ steps.filterMap Step.place?, place.2 ≠ .zero
  /-- No two contracts are put at one address of a domain. -/
  places : (steps.filterMap Step.place?).Nodup
  /-- No token is represented twice on one domain. -/
  representations : (steps.filterMap Step.representation?).Nodup
  /-- No token is represented on its own domain. -/
  foreign : ∀ representation ∈ steps.filterMap Step.representation?,
    representation.2.domain ≠ representation.1

section Last

variable {β : Type} {f : Step → Option β} {steps : List Step}

/-- The last value that steps give is the only one, if all that give one give the same. -/
theorem last_eq_some {st : Step} {value : β} (hst : st ∈ steps) (hvalue : f st = some value)
    (hsame : ∀ st' ∈ steps, ∀ other, f st' = some other → other = value) :
    steps.foldl (fun found st => (f st).or found) none = some value := by
  induction steps using List.reverseRecOn with
  | nil => cases hst
  | append_singleton first last ih =>
    rw [List.foldl_append, List.foldl_cons, List.foldl_nil]
    cases hlast : f last with
    | some other => rw [hsame last (by simp) other hlast, Option.some_or]
    | none =>
      have hfirst : st ∈ first := by
        rcases List.mem_append.1 hst with h | h
        · exact h
        · rw [List.mem_singleton.1 h, hlast] at hvalue
          cases hvalue
      rw [Option.none_or, ih hfirst fun st' hst' => hsame st' (List.mem_append_left _ hst')]

theorem last_eq_none (h : ∀ st ∈ steps, f st = none) :
    steps.foldl (fun found st => (f st).or found) none = none := by
  induction steps with
  | nil => rfl
  | cons st rest ih =>
    rw [List.foldl_cons, h st List.mem_cons_self]
    exact ih fun st' hst' => h st' (List.mem_cons_of_mem _ hst')

/-- Where a step gives a value, there is a last one. -/
theorem last_ne_none {st : Step} {value : β} (hst : st ∈ steps) (hvalue : f st = some value) :
    steps.foldl (fun found st => (f st).or found) none ≠ none := by
  induction steps using List.reverseRecOn with
  | nil => cases hst
  | append_singleton first last ih =>
    rw [List.foldl_append, List.foldl_cons, List.foldl_nil]
    cases hlast : f last with
    | some other => simp
    | none =>
      rw [Option.none_or]
      rcases List.mem_append.1 hst with h | h
      · exact ih h
      · rw [List.mem_singleton.1 h, hlast] at hvalue
        cases hvalue

/-- The last value that steps give is one that some step gives. -/
theorem exists_of_last {value : β} (h : steps.foldl (fun found st => (f st).or found) none = some value) :
    ∃ st ∈ steps, f st = some value := by
  by_contra hnone
  push Not at hnone
  induction steps using List.reverseRecOn with
  | nil => cases h
  | append_singleton first last ih =>
    rw [List.foldl_append, List.foldl_cons, List.foldl_nil] at h
    cases hlast : f last with
    | some other =>
      rw [hlast, Option.some_or] at h
      exact hnone last (by simp) (hlast.trans h)
    | none =>
      rw [hlast, Option.none_or] at h
      exact ih h fun st hst => hnone st (List.mem_append_left _ hst)

/-- Where no value comes twice, two steps that give the same value are the same. -/
theorem eq_of_nodup_filterMap (h : (steps.filterMap f).Nodup) {st st' : Step} (hst : st ∈ steps)
    (hst' : st' ∈ steps) {value : β} (hvalue : f st = some value) (hvalue' : f st' = some value) :
    st = st' := by
  induction steps with
  | nil => cases hst
  | cons first rest ih =>
    -- A value that the first step gives does not come again.
    have hrest : f first = some value → ∀ other ∈ rest, f other ≠ some value := by
      intro hfirst other hother heq
      rw [List.filterMap_cons_some hfirst, List.nodup_cons] at h
      exact h.1 (List.mem_filterMap.2 ⟨other, hother, heq⟩)
    have htail : (rest.filterMap f).Nodup := h.sublist ((List.sublist_cons_self first rest).filterMap f)
    rcases List.mem_cons.1 hst with rfl | hmem <;> rcases List.mem_cons.1 hst' with rfl | hmem'
    · rfl
    · exact absurd hvalue' (hrest hvalue st' hmem')
    · exact absurd hvalue (hrest hvalue' st hmem)
    · exact ih htail hmem hmem'

end Last

variable {steps : List Step} {domain : DomainId} {token : TokenId} {address : Address}

/-- The step that puts a contract at an address is the only one that does. -/
theorem Orderly.eq_of_place (h : Orderly steps) {st st' : Step} (hst : st ∈ steps) (hst' : st' ∈ steps)
    (hplace : st.place? = some (domain, address)) (hplace' : st'.place? = some (domain, address)) :
    st = st' :=
  eq_of_nodup_filterMap h.places hst hst' hplace hplace'

theorem Orderly.ne_zero (h : Orderly steps)
    (hst : .ledger (.deployRepresentation domain token address) ∈ steps) : address ≠ .zero :=
  h.nonzero _ (List.mem_filterMap.2 ⟨_, hst, rfl⟩)

theorem Orderly.domain_ne (h : Orderly steps)
    (hst : .ledger (.deployRepresentation domain token address) ∈ steps) : token.domain ≠ domain :=
  h.foreign _ (List.mem_filterMap.2 ⟨_, hst, rfl⟩)

/-- The address of a representation represents its token. -/
theorem Orderly.represented_eq (h : Orderly steps)
    (hst : .ledger (.deployRepresentation domain token address) ∈ steps) :
    represented steps domain address = some token := by
  refine last_eq_some hst (if_pos ⟨rfl, rfl⟩) fun st hmem other hother => ?_
  have hplace : st.place? = some (domain, address) := by
    cases st with
    | ledger change =>
      cases change with
      | deployRepresentation d t a =>
        obtain ⟨⟨rfl, rfl⟩, -⟩ := Option.ite_none_right_eq_some.1 hother
        rfl
      | _ => cases hother
    | _ => cases hother
  cases h.eq_of_place hst hmem rfl hplace
  exact (Option.some.inj (Option.ite_none_right_eq_some.1 hother).2).symm

/-- The token of a representation is kept at its address. -/
theorem Orderly.kept_eq (h : Orderly steps)
    (hst : .ledger (.deployRepresentation domain token address) ∈ steps) :
    kept steps domain token = some address := by
  refine last_eq_some hst (if_pos ⟨rfl, rfl⟩) fun st hmem other hother => ?_
  have hforeign := h.domain_ne hst
  cases st with
  | ledger change =>
    cases change with
    | deployRepresentation d t a =>
      obtain ⟨⟨rfl, rfl⟩, -⟩ := Option.ite_none_right_eq_some.1 hother
      cases eq_of_nodup_filterMap h.representations hst hmem rfl rfl
      exact (Option.some.inj (Option.ite_none_right_eq_some.1 hother).2).symm
    | deployToken d a | deployNativeToken d a =>
      -- A token that is put in place on the domain comes from it, but the represented one does not.
      obtain ⟨⟨rfl, rfl⟩, -⟩ := Option.ite_none_right_eq_some.1 hother
      exact absurd rfl hforeign
    | _ => cases hother
  | _ => cases hother

/-- The address of a representation is not kept as a token of the domain itself. -/
theorem Orderly.kept_own (h : Orderly steps)
    (hst : .ledger (.deployRepresentation domain token address) ∈ steps) :
    kept steps domain (.ofAddress domain address) = none := by
  refine last_eq_none fun st hmem => ?_
  cases st with
  | ledger change =>
    cases change with
    | deployToken d a | deployNativeToken d a =>
      refine if_neg fun hkeeps => ?_
      obtain ⟨rfl, hown⟩ := hkeeps
      cases Address.widen_injective (congrArg TokenId.id hown)
      cases h.eq_of_place hst hmem rfl rfl
    | deployRepresentation d t a =>
      refine if_neg fun hkeeps => ?_
      obtain ⟨rfl, rfl⟩ := hkeeps
      exact h.domain_ne hmem rfl
    | _ => rfl
  | _ => rfl

/-! ### Tokens of the domain itself -/

/-- A token was put in place at an address of its own domain, be it the one that stands for the native asset. -/
def Issued (steps : List Step) (domain : DomainId) (address : Address) : Prop :=
  .ledger (.deployToken domain address) ∈ steps ∨ .ledger (.deployNativeToken domain address) ∈ steps

/-- The step that put a token in place makes the router keep its address, and nothing is represented there. -/
theorem Issued.exists_step (h : Issued steps domain address) :
    ∃ st ∈ steps, st.place? = some (domain, address) ∧ st.representation? = none ∧
      st.keeps? domain (.ofAddress domain address) = some address := by
  rcases h with h | h
  · exact ⟨_, h, rfl, rfl, if_pos ⟨rfl, rfl⟩⟩
  · exact ⟨_, h, rfl, rfl, if_pos ⟨rfl, rfl⟩⟩

theorem Orderly.ne_zero_of_issued (h : Orderly steps) (hissued : Issued steps domain address) :
    address ≠ .zero := by
  obtain ⟨st, hst, hplace, -⟩ := hissued.exists_step
  exact h.nonzero _ (List.mem_filterMap.2 ⟨st, hst, hplace⟩)

/-- The address of a token of the domain itself represents nothing. -/
theorem Orderly.represented_of_issued (h : Orderly steps) (hissued : Issued steps domain address) :
    represented steps domain address = none := by
  obtain ⟨st, hst, hplace, hnone, -⟩ := hissued.exists_step
  refine last_eq_none fun st' hst' => ?_
  cases hrepresents : st'.represents? domain address with
  | none => rfl
  | some token =>
    -- A representation there would be put in place by the very same step.
    cases st' with
    | ledger change =>
      cases change with
      | deployRepresentation d t a =>
        obtain ⟨⟨rfl, rfl⟩, -⟩ := Option.ite_none_right_eq_some.1 hrepresents
        cases h.eq_of_place hst hst' hplace rfl
        cases hnone
      | _ => cases hrepresents
    | _ => cases hrepresents

/-- A token of the domain itself is kept at its address. -/
theorem Orderly.kept_of_issued (h : Orderly steps) (hissued : Issued steps domain address) :
    kept steps domain (.ofAddress domain address) = some address := by
  obtain ⟨st, hst, -, -, hkeeps⟩ := hissued.exists_step
  refine last_eq_some hst hkeeps fun st' hst' other hother => ?_
  cases st' with
  | ledger change =>
    cases change with
    | deployToken d a | deployNativeToken d a =>
      obtain ⟨⟨rfl, hown⟩, hsame⟩ := Option.ite_none_right_eq_some.1 hother
      cases Address.widen_injective (congrArg TokenId.id hown)
      exact (Option.some.inj hsame).symm
    | deployRepresentation d t a =>
      obtain ⟨⟨rfl, rfl⟩, -⟩ := Option.ite_none_right_eq_some.1 hother
      exact (h.domain_ne hst' rfl).elim
    | _ => cases hother
  | _ => cases hother

/-- On another domain than its own, a token is kept where it is represented and nowhere else. -/
theorem Orderly.kept_eq_some_iff (h : Orderly steps) (hforeign : token.domain ≠ domain) :
    kept steps domain token = some address ↔ .ledger (.deployRepresentation domain token address) ∈ steps := by
  constructor
  · intro hkept
    obtain ⟨st, hst, hkeeps⟩ := exists_of_last hkept
    cases st with
    | ledger change =>
      cases change with
      | deployToken d a | deployNativeToken d a =>
        obtain ⟨⟨rfl, rfl⟩, -⟩ := Option.ite_none_right_eq_some.1 hkeeps
        exact absurd rfl hforeign
      | deployRepresentation d t a =>
        obtain ⟨⟨rfl, rfl⟩, hsame⟩ := Option.ite_none_right_eq_some.1 hkeeps
        cases hsame
        exact hst
      | _ => cases hkeeps
    | _ => cases hkeeps
  · exact h.kept_eq

end Session

end TokenBridge
