import TokenBridge.Directory
import TokenBridge.Proofs.Config
import TokenBridge.Proofs.Registry

/-!
# Registering while building

A directory is built in a registry that others see, and its domains are registered one after the other by calls
that can fail. None of them does. The domains that are left to register are free when the first call is made
(`free_of_unregistered`), and since the configuration repeats no number and no name, a call takes nothing that a
later one asks for (`registerEach_of_free`). So building is atomic: it ends as the building that gives a registry
back only on success (`buildOn_eq`), and a failure leaves the registry as it was.
-/

namespace TokenBridge

namespace Registry

variable {r : Registry} {d : Domain}

/-- A domain is free if neither its number nor its name is taken. -/
structure Free (r : Registry) (d : Domain) : Prop where
  /-- No registered domain has its number. -/
  id : ∀ e ∈ r.domains, e.id ≠ d.id
  /-- No registered domain has its name. -/
  name : ∀ e ∈ r.domains, e.name ≠ d.name

/-- A domain conflicts with those that are registered if its number has another name, or if its number is free
and its name has another number. -/
def Conflicts (r : Registry) (d : Domain) : Prop :=
  (∃ e ∈ r.domains, e.id = d.id ∧ e.name ≠ d.name) ∨
    (∀ e ∈ r.domains, e.id ≠ d.id) ∧ ∃ e ∈ r.domains, e.name = d.name ∧ e.id ≠ d.id

instance (r : Registry) (d : Domain) : Decidable (r.Conflicts d) :=
  inferInstanceAs (Decidable (_ ∨ _))

/-- A free domain conflicts with none. -/
theorem Free.not_conflicts (h : r.Free d) : ¬ r.Conflicts d := by
  rintro (⟨e, he, hid, -⟩ | ⟨-, e, he, hname, -⟩)
  · exact h.id e he hid
  · exact h.name e he hname

theorem domain?_eq_none_iff {id : DomainId} : r.domain? id = none ↔ ∀ e ∈ r.domains, e.id ≠ id := by
  simp [domain?]

theorem named?_eq_none_iff {name : String} : r.named? name = none ↔ ∀ e ∈ r.domains, e.name ≠ name := by
  simp [named?]

/-- A free domain is accepted. -/
theorem registerDomain_of_free (h : r.Free d) :
    r.registerDomain d = .ok { r with domains := r.domains ++ [d] } := by
  rw [registerDomain, domain?_eq_none_iff.2 h.id, named?_eq_none_iff.2 h.name]
  rfl

/-- Registering a domain takes only its own number and its own name. -/
theorem Free.append (h : r.Free d) {e : Domain} (hid : e.id ≠ d.id) (hname : e.name ≠ d.name) :
    ({ r with domains := r.domains ++ [e] } : Registry).Free d where
  id := by
    intro e' he'
    rcases List.mem_append.1 he' with he' | he'
    · exact h.id e' he'
    · exact List.mem_singleton.1 he' ▸ hid
  name := by
    intro e' he'
    rcases List.mem_append.1 he' with he' | he'
    · exact h.name e' he'
    · exact List.mem_singleton.1 he' ▸ hname

end Registry

namespace Directory

open Registry

variable {r : Registry}

/-- Domains that are free and differ from each other are all registered, in their order. -/
theorem registerEach_of_free {domains : List Domain} (hfree : ∀ d ∈ domains, r.Free d)
    (hids : (domains.map Domain.id).Nodup) (hnames : (domains.map Domain.name).Nodup) :
    registerEach r domains = (.ok (), { r with domains := r.domains ++ domains }) := by
  induction domains generalizing r with
  | nil => rw [registerEach, List.append_nil]
  | cons d rest ih =>
    rw [List.map_cons, List.nodup_cons] at hids hnames
    -- what is still to come stays free, since it repeats neither the number nor the name of `d`
    have hrest : ∀ e ∈ rest, ({ r with domains := r.domains ++ [d] } : Registry).Free e := by
      intro e he
      refine (hfree e (List.mem_cons_of_mem d he)).append ?_ ?_
      · exact fun heq => hids.1 (heq ▸ List.mem_map_of_mem he)
      · exact fun heq => hnames.1 (heq ▸ List.mem_map_of_mem he)
    rw [registerEach, registerDomain_of_free (hfree d List.mem_cons_self)]
    show registerEach _ rest = _
    rw [ih hrest hids.2 hnames.2, List.append_assoc, List.singleton_append]

/-- Registering all or none gives what registering one after the other ends with, where no domain is refused. -/
theorem registerAll_eq (r : Registry) (domains : List Domain) :
    registerAll r domains = (registerEach r domains).1.map fun _ => (registerEach r domains).2 := by
  induction domains generalizing r with
  | nil => rfl
  | cons d rest ih =>
    rw [registerAll, List.foldlM_cons, registerEach]
    cases r.registerDomain d with
    | error e => rfl
    | ok r' => exact ih r'

/-- A domain of the list is registered as it is, or it conflicts and ends the look through the list, or it is
free and left to register. -/
theorem unregistered_cons (r : Registry) (d : Domain) (rest : List Domain) :
    (d ∈ r.domains ∧ unregistered r (d :: rest) = unregistered r rest) ∨
      (r.Conflicts d ∧ ∃ e, unregistered r (d :: rest) = .error e) ∨
        r.Free d ∧ unregistered r (d :: rest) = (unregistered r rest).map (d :: ·) := by
  rw [unregistered]
  cases hid : r.domain? d.id with
  | some known =>
    have hmem : known ∈ r.domains := List.mem_of_find?_eq_some hid
    have hknown : known.id = d.id := by simpa using List.find?_some hid
    by_cases heq : known = d
    · exact .inl ⟨heq ▸ hmem, if_pos heq⟩
    · have hname : known.name ≠ d.name := fun hname => heq (congrArg₂ Domain.mk hknown hname)
      exact .inr (.inl ⟨.inl ⟨known, hmem, hknown, hname⟩, _, if_neg heq⟩)
  | none =>
    have hnone := domain?_eq_none_iff.1 hid
    cases hname : r.named? d.name with
    | some holder =>
      have hmem : holder ∈ r.domains := List.mem_of_find?_eq_some hname
      have hholder : holder.name = d.name := by simpa using List.find?_some hname
      exact .inr (.inl ⟨.inr ⟨hnone, holder, hmem, hholder, hnone holder hmem⟩, _, rfl⟩)
    | none => exact .inr (.inr ⟨⟨hnone, named?_eq_none_iff.1 hname⟩, rfl⟩)

/-- The domains that are left to register are some of the list, and they are free. -/
theorem free_of_unregistered {domains pending : List Domain} (h : unregistered r domains = .ok pending) :
    pending.Sublist domains ∧ ∀ d ∈ pending, r.Free d := by
  induction domains generalizing pending with
  | nil =>
    cases h
    exact ⟨List.Sublist.refl [], fun _ hd => absurd hd List.not_mem_nil⟩
  | cons d rest ih =>
    rcases unregistered_cons r d rest with ⟨-, heq⟩ | ⟨-, e, heq⟩ | ⟨hfree, heq⟩
    · obtain ⟨hsub, hall⟩ := ih (heq ▸ h)
      exact ⟨hsub.cons d, hall⟩
    · cases heq.symm.trans h
    · obtain ⟨others, hothers, rfl⟩ := Outcome.map_eq_ok.1 (heq.symm.trans h)
      obtain ⟨hsub, hall⟩ := ih hothers
      exact ⟨hsub.cons_cons d, List.forall_mem_cons.2 ⟨hfree, hall⟩⟩

/-- In a valid configuration no domain that is left to register is refused. -/
theorem registerEach_of_unregistered {c : Config} (hvalid : c.validate = .ok ()) {pending : List Domain}
    (h : unregistered r c.domainList = .ok pending) :
    registerEach r pending = (.ok (), { r with domains := r.domains ++ pending }) := by
  obtain ⟨hsub, hfree⟩ := free_of_unregistered h
  obtain ⟨hids, hnames⟩ := Config.validate_distinct hvalid
  exact registerEach_of_free hfree ((hsub.map Domain.id).nodup hids) ((hsub.map Domain.name).nodup hnames)

theorem buildOn_of_invalid {c : Config} {e : BridgeError} (h : c.validate = .error e) :
    buildOn c r = (.error e, r) := by
  rw [buildOn, h]

theorem buildOn_of_refused {c : Config} (hvalid : c.validate = .ok ()) {e : BridgeError}
    (h : unregistered r c.domainList = .error e) : buildOn c r = (.error e, r) := by
  rw [buildOn, hvalid, h]

theorem buildOn_of_unregistered {c : Config} (hvalid : c.validate = .ok ()) {pending : List Domain}
    (h : unregistered r c.domainList = .ok pending) :
    buildOn c r =
      (.ok (ofConfig c { r with domains := r.domains ++ pending }), { r with domains := r.domains ++ pending }) := by
  simp only [buildOn, hvalid, h, registerEach_of_unregistered hvalid h]

/-- **Building is atomic**: it succeeds where the building that registers all domains at once does, with the same
directory and the same registry, and where it fails, the registry is as it was. -/
theorem buildOn_eq (c : Config) (r : Registry) :
    buildOn c r = match build c r with
      | .ok (D, r') => (.ok D, r')
      | .error e => (.error e, r) := by
  cases hvalid : c.validate with
  | error e =>
    rw [buildOn_of_invalid hvalid, build, hvalid]
    rfl
  | ok _ =>
    cases hpending : unregistered r c.domainList with
    | error e =>
      rw [buildOn_of_refused hvalid hpending, build, hvalid, hpending]
      rfl
    | ok pending =>
      have hall : registerAll r pending = .ok { r with domains := r.domains ++ pending } := by
        rw [registerAll_eq, registerEach_of_unregistered hvalid hpending]
        rfl
      rw [buildOn_of_unregistered hvalid hpending, build, hvalid, hpending]
      simp only [Outcome.ok_bind, hall]
      rfl

end Directory

end TokenBridge
