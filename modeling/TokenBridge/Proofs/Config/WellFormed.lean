import TokenBridge.Proofs.Config

/-!
# What validation accepts and what it reports

`validate` goes through the domains twice, once for what they repeat of each other and once for each of them with
its replicas, and stops at the first fault. What is first in a list is said without the loop: a place at which
there is a fault, and no place before it at which there is one (`FirstFault`). All three loops of the check have
the same shape, a step that looks at one item and at those seen before it, and an induction on that shape says that
such a loop reports the first fault of its list (`Scan.eq_error_iff`). A configuration then is accepted exactly if
it is well formed, and refused for its first fault (`validate_exact`).
-/

namespace TokenBridge

variable {α ε : Type}

/-- The first fault of a list, where `faulty before x e` says that `x` has the fault `e` behind `before`. -/
def FirstFault (faulty : List α → α → ε → Prop) (xs : List α) (e : ε) : Prop :=
  ∃ before x after, xs = before ++ x :: after ∧ faulty before x e ∧
    ∀ earlier y later, before = earlier ++ y :: later → ∀ e', ¬ faulty earlier y e'

theorem not_firstFault_nil {faulty : List α → α → ε → Prop} {e : ε} : ¬ FirstFault faulty [] e := by
  rintro ⟨before, x, after, hsplit, -⟩
  cases before <;> cases hsplit

/-- The first fault of a list is that of its head, or the first one behind it where the head has none. -/
theorem firstFault_cons {faulty : List α → α → ε → Prop} {x : α} {rest : List α} {e : ε} :
    FirstFault faulty (x :: rest) e ↔
      faulty [] x e ∨ (∀ e', ¬ faulty [] x e') ∧ FirstFault (fun before => faulty (x :: before)) rest e := by
  constructor
  · rintro ⟨before, y, after, hsplit, hfault, hclean⟩
    cases before with
    | nil =>
      cases hsplit
      exact .inl hfault
    | cons _ before =>
      cases hsplit
      refine .inr ⟨hclean [] x before rfl, before, y, after, rfl, hfault, ?_⟩
      exact fun earlier z later h => hclean (x :: earlier) z later (by rw [h, List.cons_append])
  · rintro (hfault | ⟨hhead, before, y, after, rfl, hfault, hclean⟩)
    · exact ⟨[], x, rest, rfl, hfault, fun earlier z later h => by cases earlier <;> cases h⟩
    · refine ⟨x :: before, y, after, rfl, hfault, fun earlier z later h => ?_⟩
      cases earlier with
      | nil =>
        cases h
        exact hhead
      | cons a earlier =>
        cases h
        exact hclean earlier z later rfl

/-- A loop that looks at each item of a list in turn, and at those seen before it, the last one first. -/
structure Scan (loop : List α → List α → Except ε Unit) (step : List α → α → Except ε Unit) : Prop where
  /-- It accepts an empty list. -/
  nil : ∀ seen, loop seen [] = .ok ()
  /-- It goes on where the step accepts. -/
  cons : ∀ seen x rest, loop seen (x :: rest) = step seen x >>= fun _ => loop (x :: seen) rest

namespace Scan

variable {loop : List α → List α → Except ε Unit} {step : List α → α → Except ε Unit}
  {faulty : List α → α → ε → Prop}

/-- A loop fails with the first fault behind what it has seen. -/
theorem eq_error_iff_of_seen (h : Scan loop step) (hstep : ∀ seen x e, step seen x = .error e ↔ faulty seen.reverse x e)
    (seen xs : List α) (e : ε) :
    loop seen xs = .error e ↔ FirstFault (fun before => faulty (seen.reverse ++ before)) xs e := by
  induction xs generalizing seen with
  | nil =>
    rw [h.nil]
    exact ⟨nofun, fun hfirst => absurd hfirst not_firstFault_nil⟩
  | cons x rest ih =>
    rw [h.cons, firstFault_cons, List.append_nil]
    cases hx : step seen x with
    | error e' =>
      rw [← hstep seen x e, hx]
      have hfault := (hstep seen x e').1 hx
      exact ⟨.inl, fun hcases => hcases.elim id fun hclean => absurd hfault (hclean.1 e')⟩
    | ok _ =>
      have hclean : ∀ e', ¬ faulty seen.reverse x e' := by
        intro e' hfault
        rw [(hstep seen x e').2 hfault] at hx
        cases hx
      have hseen : (fun before => faulty (seen.reverse ++ x :: before)) =
          fun before => faulty ((x :: seen).reverse ++ before) := by
        simp only [List.reverse_cons, List.append_assoc, List.singleton_append]
      rw [hseen, ← ih]
      exact ⟨fun hrest => .inr ⟨hclean, hrest⟩,
        fun hcases => hcases.elim (fun hfault => absurd hfault (hclean e)) (·.2)⟩

/-- **A loop reports the first fault of its list.** -/
theorem eq_error_iff (h : Scan loop step) (hstep : ∀ seen x e, step seen x = .error e ↔ faulty seen.reverse x e)
    (xs : List α) (e : ε) : loop [] xs = .error e ↔ FirstFault faulty xs e :=
  h.eq_error_iff_of_seen hstep [] xs e

end Scan

namespace Config

/-! ### Domains that repeat each other -/

/-- What a domain repeats of those before it: its number, or its name where its number is new. -/
inductive Repeats (before : List Domain) (d : Domain) : BridgeError → Prop
  /-- Its number. -/
  | number (hid : d.id ∈ before.map Domain.id) : Repeats before d (.duplicateDomain (.number d.id))
  /-- Its name. -/
  | name (hid : d.id ∉ before.map Domain.id) (hname : d.name ∈ before.map Domain.name) :
    Repeats before d (.duplicateDomain (.name d.name))

/-- The check of one domain against those seen before it. -/
def checkDomainFresh (seen : List Domain) (d : Domain) : Except BridgeError Unit :=
  if d.id ∈ seen.map Domain.id then .error (.duplicateDomain (.number d.id))
  else if d.name ∈ seen.map Domain.name then .error (.duplicateDomain (.name d.name))
  else .ok ()

theorem scan_checkFresh :
    Scan (fun seen => checkFresh (seen.map Domain.id) (seen.map Domain.name)) checkDomainFresh where
  nil := fun _ => rfl
  cons := by
    intro seen d rest
    simp only [checkFresh, checkDomainFresh]
    split
    · rfl
    · split <;> rfl

theorem checkDomainFresh_eq_error_iff (seen : List Domain) (d : Domain) (e : BridgeError) :
    checkDomainFresh seen d = .error e ↔ Repeats seen.reverse d e := by
  have hids : d.id ∈ seen.reverse.map Domain.id ↔ d.id ∈ seen.map Domain.id := by simp
  have hnames : d.name ∈ seen.reverse.map Domain.name ↔ d.name ∈ seen.map Domain.name := by simp
  constructor
  · intro h
    unfold checkDomainFresh at h
    split at h
    · next hid =>
      cases h
      exact .number (hids.2 hid)
    · next hid =>
      split at h
      · next hname =>
        cases h
        exact .name (mt hids.1 hid) (hnames.2 hname)
      · cases h
  · intro h
    cases h with
    | number hid => exact if_pos (hids.1 hid)
    | name hid hname =>
      rw [checkDomainFresh, if_neg (mt hids.2 hid), if_pos (hnames.1 hname)]

theorem checkDistinct_eq_error_iff {domains : List Domain} {e : BridgeError} :
    checkDistinct domains = .error e ↔ FirstFault Repeats domains e :=
  scan_checkFresh.eq_error_iff checkDomainFresh_eq_error_iff domains e

/-! ### Replicas of a domain -/

/-- What is wrong with a replica behind others: it is one of the home of its own domain, or else one of them is
a replica of the same home. -/
inductive ReplicaFault (d : DomainConfig) (before : List ReplicaConfig) (r : ReplicaConfig) : BridgeError → Prop
  /-- Of the own home. -/
  | own (hown : d.id = r.domain) : ReplicaFault d before r (.invalidConfig (.ownReplica d.id))
  /-- Of a home that has one before. -/
  | repeated (hown : d.id ≠ r.domain) (hmem : r.domain ∈ before.map ReplicaConfig.domain) :
    ReplicaFault d before r (.invalidConfig (.repeatedReplica d.name r.domain))

/-- The check of one replica against those seen before it. -/
def checkReplicaFresh (d : DomainConfig) (seen : List ReplicaConfig) (r : ReplicaConfig) :
    Except BridgeError Unit := do
  checkReplica d.id r.domain
  if r.domain ∈ seen.map ReplicaConfig.domain then .error (.invalidConfig (.repeatedReplica d.name r.domain))
  else .ok ()

theorem scan_checkReplicas (d : DomainConfig) :
    Scan (fun seen => checkReplicas d (seen.map ReplicaConfig.domain)) (checkReplicaFresh d) where
  nil := fun _ => rfl
  cons := by
    intro seen r rest
    simp only [checkReplicas, checkReplicaFresh]
    cases checkReplica d.id r.domain with
    | error e => rfl
    | ok _ =>
      simp only [Outcome.ok_bind]
      split <;> rfl

theorem checkReplicaFresh_eq_error_iff (d : DomainConfig) (seen : List ReplicaConfig) (r : ReplicaConfig)
    (e : BridgeError) : checkReplicaFresh d seen r = .error e ↔ ReplicaFault d seen.reverse r e := by
  have hmem : r.domain ∈ seen.reverse.map ReplicaConfig.domain ↔ r.domain ∈ seen.map ReplicaConfig.domain := by simp
  rw [checkReplicaFresh, checkReplica]
  by_cases hown : d.id = r.domain
  · rw [if_pos hown, Outcome.error_bind, Except.error.injEq]
    constructor
    · rintro rfl
      exact .own hown
    · intro h
      cases h with
      | own => rfl
      | repeated hother => exact absurd hown hother
  · rw [if_neg hown, Outcome.ok_bind]
    constructor
    · intro h
      split at h
      · next hseen =>
        cases h
        exact .repeated hown (hmem.2 hseen)
      · cases h
    · intro h
      cases h with
      | own hsame => exact absurd hsame hown
      | repeated _ hbefore => exact if_pos (hmem.1 hbefore)

/-! ### Domains by themselves -/

/-- What is wrong with a domain: it asks for no confirmation, or else the first fault of its replicas. -/
inductive DomainFault (d : DomainConfig) : BridgeError → Prop
  /-- It asks for no confirmation. -/
  | noConfirmations (hzero : d.confirmations = 0) : DomainFault d (.invalidConfig (.noConfirmations d.name))
  /-- A replica is wrong. -/
  | replica {e : BridgeError} (hsome : d.confirmations ≠ 0) (hfirst : FirstFault (ReplicaFault d) d.replicas e) :
    DomainFault d e

theorem checkDomain_eq_error_iff {d : DomainConfig} {e : BridgeError} :
    checkDomain d = .error e ↔ DomainFault d e := by
  have hreplicas : checkReplicas d [] d.replicas = .error e ↔ FirstFault (ReplicaFault d) d.replicas e :=
    (scan_checkReplicas d).eq_error_iff (checkReplicaFresh_eq_error_iff d) d.replicas e
  rw [checkDomain]
  by_cases hzero : d.confirmations = 0
  · rw [if_pos hzero, Except.error.injEq]
    constructor
    · rintro rfl
      exact .noConfirmations hzero
    · intro h
      cases h with
      | noConfirmations => rfl
      | replica hsome => exact absurd hzero hsome
  · rw [if_neg hzero, hreplicas]
    constructor
    · exact .replica hzero
    · intro h
      cases h with
      | noConfirmations h => exact absurd h hzero
      | replica _ hfirst => exact hfirst

theorem checkDomains_eq_error_iff {domains : List DomainConfig} {e : BridgeError} :
    checkDomains domains = .error e ↔ FirstFault (fun _ => DomainFault) domains e := by
  have hscan : Scan (fun _ => checkDomains) (fun _ => checkDomain) := ⟨fun _ => rfl, fun _ _ _ => rfl⟩
  exact hscan.eq_error_iff (fun _ _ _ => checkDomain_eq_error_iff) domains e

/-! ### Configurations -/

/-- What is wrong with a configuration, by what is looked at first: a number or a name that is repeated, the time,
a domain. -/
inductive Fault (c : Config) : BridgeError → Prop
  /-- A number or a name is repeated. -/
  | repeated {e : BridgeError} (hfirst : FirstFault Repeats c.domainList e) : Fault c e
  /-- There is no time for a confirmation. -/
  | timeout (hids : (c.domains.map DomainConfig.id).Nodup) (hnames : (c.domains.map DomainConfig.name).Nodup)
    (hzero : c.receiptTimeout = 0) : Fault c (.invalidConfig .zeroTimeout)
  /-- A domain is not in order. -/
  | domain {e : BridgeError} (hids : (c.domains.map DomainConfig.id).Nodup)
    (hnames : (c.domains.map DomainConfig.name).Nodup) (hsome : c.receiptTimeout ≠ 0)
    (hfirst : FirstFault (fun _ => DomainFault) c.domains e) : Fault c e

/-- A configuration is refused for its first fault. -/
theorem validate_eq_error_iff {c : Config} {e : BridgeError} : c.validate = .error e ↔ Fault c e := by
  rw [validate, Outcome.bind_eq_error, checkDistinct_eq_error_iff]
  constructor
  · rintro (hfirst | ⟨_, hdistinct, hrest⟩)
    · exact .repeated hfirst
    · obtain ⟨hids, hnames⟩ := checkDistinct_domainList_eq_ok_iff.1 hdistinct
      split at hrest
      · next hzero =>
        cases hrest
        exact .timeout hids hnames hzero
      · next hsome => exact .domain hids hnames hsome (checkDomains_eq_error_iff.1 hrest)
  · intro h
    cases h with
    | repeated hfirst => exact .inl hfirst
    | timeout hids hnames hzero =>
      exact .inr ⟨(), checkDistinct_domainList_eq_ok_iff.2 ⟨hids, hnames⟩, if_pos hzero⟩
    | domain hids hnames hsome hfirst =>
      refine .inr ⟨(), checkDistinct_domainList_eq_ok_iff.2 ⟨hids, hnames⟩, ?_⟩
      rw [if_neg hsome]
      exact checkDomains_eq_error_iff.2 hfirst

theorem DomainFault.exists_invalidConfig {d : DomainConfig} {e : BridgeError} (h : DomainFault d e) :
    ∃ fault, e = .invalidConfig fault := by
  cases h with
  | noConfirmations => exact ⟨_, rfl⟩
  | replica _ hfirst =>
    obtain ⟨before, r, after, -, hfault, -⟩ := hfirst
    cases hfault <;> exact ⟨_, rfl⟩

/-- The kind of a failure says whether numbers and names are distinct. -/
theorem Fault.kind {c : Config} {e : BridgeError} (h : Fault c e) :
    (∃ taken, e = .duplicateDomain taken) ∧
        ¬ ((c.domains.map DomainConfig.id).Nodup ∧ (c.domains.map DomainConfig.name).Nodup) ∨
      (∃ fault, e = .invalidConfig fault) ∧
        (c.domains.map DomainConfig.id).Nodup ∧ (c.domains.map DomainConfig.name).Nodup := by
  cases h with
  | repeated hfirst =>
    refine .inl ⟨?_, ?_⟩
    · obtain ⟨before, d, after, -, hrepeats, -⟩ := hfirst
      cases hrepeats <;> exact ⟨_, rfl⟩
    · rw [← checkDistinct_domainList_eq_ok_iff, checkDistinct_eq_error_iff.2 hfirst]
      nofun
  | timeout hids hnames => exact .inr ⟨⟨_, rfl⟩, hids, hnames⟩
  | domain hids hnames _ hfirst =>
    obtain ⟨before, d, after, -, hfault, -⟩ := hfirst
    exact .inr ⟨hfault.exists_invalidConfig, hids, hnames⟩

theorem exists_fault_of_not_wellFormed {c : Config} (h : ¬ WellFormed c) : ∃ e, c.validate = .error e := by
  cases hvalidate : c.validate with
  | ok _ => exact absurd (validate_eq_ok_iff.1 hvalidate) h
  | error e => exact ⟨e, rfl⟩

/-- **Validation is exact**: it accepts the configurations that are well formed and no other, and refuses any other
for its first fault, which is a repeated number or name exactly where one is repeated. -/
theorem validate_exact (c : Config) :
    (c.validate = .ok () ↔ WellFormed c) ∧
    (∀ e, c.validate = .error e ↔ Fault c e) ∧
    ((∃ taken, c.validate = .error (.duplicateDomain taken)) ↔
      ¬ ((c.domains.map DomainConfig.id).Nodup ∧ (c.domains.map DomainConfig.name).Nodup)) ∧
    ((∃ fault, c.validate = .error (.invalidConfig fault)) ↔
      ((c.domains.map DomainConfig.id).Nodup ∧ (c.domains.map DomainConfig.name).Nodup) ∧ ¬ WellFormed c) := by
  refine ⟨validate_eq_ok_iff, fun e => validate_eq_error_iff, ⟨?_, ?_⟩, ⟨?_, ?_⟩⟩
  · rintro ⟨taken, he⟩
    rcases (validate_eq_error_iff.1 he).kind with ⟨-, hnot⟩ | ⟨⟨fault, hfault⟩, -⟩
    · exact hnot
    · cases hfault
  · intro hnot
    obtain ⟨e, he⟩ := exists_fault_of_not_wellFormed fun h => hnot ⟨h.ids, h.names⟩
    rcases (validate_eq_error_iff.1 he).kind with ⟨⟨taken, rfl⟩, -⟩ | ⟨-, hdistinct⟩
    · exact ⟨taken, he⟩
    · exact absurd hdistinct hnot
  · rintro ⟨fault, he⟩
    rcases (validate_eq_error_iff.1 he).kind with ⟨⟨taken, htaken⟩, -⟩ | ⟨-, hdistinct⟩
    · cases htaken
    · refine ⟨hdistinct, fun h => ?_⟩
      rw [validate_eq_ok_iff.2 h] at he
      cases he
  · rintro ⟨hdistinct, hnot⟩
    obtain ⟨e, he⟩ := exists_fault_of_not_wellFormed hnot
    rcases (validate_eq_error_iff.1 he).kind with ⟨-, hrepeats⟩ | ⟨⟨fault, rfl⟩, -⟩
    · exact absurd hdistinct hrepeats
    · exact ⟨fault, he⟩

end Config

end TokenBridge
