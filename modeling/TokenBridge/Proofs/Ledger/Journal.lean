import TokenBridge.Proofs.Ledger.Coherent
import TokenBridge.Proofs.Ledger.Move

/-!
# Journals

The journal of a run has a record of every transaction, in the order in which they were handed in
(`submitted_moved`), with the receipt that was seen then. A record tells of an approval or of a launched transfer
(`Told`), and the contracts that took part in the transfer are still at the same addresses at the end of the run
(`told_journal`). What a step keeps of a ledger and its journal holds at the end of every run (`journal_induction`).
-/

namespace TokenBridge.Ledger

/-- The records of all transactions that moves hand in, in their order. -/
def journal (L : Ledger) : List Move → List Record
  | [] => []
  | m :: rest => L.records m ++ (m.on L).journal rest

theorem journal_append (L : Ledger) (first rest : List Move) :
    L.journal (first ++ rest) = L.journal first ++ (L.moved first).journal rest := by
  induction first generalizing L with
  | nil => rfl
  | cons m first ih =>
    rw [List.cons_append, journal, journal, ih, List.append_assoc]
    rfl

/-- **The run**: what each step keeps of a ledger and its journal holds after any moves. -/
theorem journal_induction {P : Ledger → List Record → Prop}
    (hstep : ∀ {L m L' R J}, Steps L m L' R → P L J → P L' (J ++ R)) {L : Ledger} {J : List Record}
    (h : P L J) (moves : List Move) : P (L.moved moves) (J ++ L.journal moves) := by
  induction moves generalizing L J with
  | nil =>
    rw [journal, List.append_nil]
    exact h
  | cons m rest ih =>
    rw [journal, ← List.append_assoc]
    exact ih (hstep (m.steps L) h)

/-- What each step keeps of a ledger holds after any moves. -/
theorem moved_induction {P : Ledger → Prop} (hstep : ∀ {L m L' R}, Steps L m L' R → P L → P L') {L : Ledger}
    (h : P L) (moves : List Move) : P (L.moved moves) :=
  journal_induction (P := fun L _ => P L) (J := []) hstep h moves

/-! ### Contracts -/

theorem homeAddress?_announced {L : Ledger} {origin : DomainId} {home : Home}
    (h : L.homes.get? origin = some home) (destination domain : DomainId) :
    (L.announced origin home destination).homeAddress? domain = L.homeAddress? domain := by
  rw [homeAddress?, homeAddress?, announced, Table.get?_insert]
  by_cases hd : origin = domain
  · rw [if_pos hd, ← hd, h]
    rfl
  · rw [if_neg hd]

theorem Quiet.homeAddress? {L L' : Ledger} (h : Quiet L L') (domain : DomainId) :
    L'.homeAddress? domain = L.homeAddress? domain := by
  rw [Ledger.homeAddress?, Ledger.homeAddress?, h.homes]

section Step

variable {L L' : Ledger} {m : Move} {R : List Record}

theorem Steps.homeAddress? (h : Steps L m L' R) (domain : DomainId) :
    L'.homeAddress? domain = L.homeAddress? domain := by
  cases h with
  | quiet h => exact h.homeAddress? domain
  | approved h => exact h.homeAddress? domain
  | launched h l hl => exact (homeAddress?_announced hl.home l.destination domain).trans (h.homeAddress? domain)

theorem Steps.routerAddress? (h : Steps L m L' R) (domain : DomainId) :
    L'.routerAddress? domain = L.routerAddress? domain := by
  cases h with
  | quiet h => exact h.routers domain
  | approved h => exact h.routers domain
  | launched h => exact h.routers domain

/-- A transaction is mined in a block of its own, and the ledger has its receipt under its hash. -/
structure Posted (L : Ledger) (r : Record) (L' : Ledger) : Prop where
  /-- The hash is that of the domain and of the place among all transactions. -/
  transaction : r.submission.transaction = L.nextHash r.submission.domain
  /-- It comes last. -/
  submitted : L'.submitted = L.submitted ++ [r.submission]
  /-- It is counted. -/
  count : L'.transactionCount = L.transactionCount + 1
  /-- There is a new block. -/
  block : L'.block = L.block + 1
  /-- Its receipt has one log. It is kept in place of one that was there under the same hash. -/
  receipts : ∃ succeeded log,
    r.receipt = some ⟨r.submission.transaction, L.block + 1, succeeded, [log]⟩ ∧
      L'.receipts =
        L.receipts.insert r.submission.transaction ⟨r.submission.transaction, L.block + 1, succeeded, [log]⟩

theorem Quiet.nextHash {L L' : Ledger} (h : Quiet L L') (domain : DomainId) :
    L'.nextHash domain = L.nextHash domain := by
  rw [Ledger.nextHash, Ledger.nextHash, h.count]

theorem Quiet.posted {taken : Ledger} (h : Quiet L taken) (m : Move) (domain : DomainId) (sender : Address)
    (request : Request) (log : Log) :
    Posted L ⟨m, ⟨domain, taken.nextHash domain, sender, request⟩, some (taken.nextReceipt domain [log])⟩
      (taken.mined domain sender request [log]) where
  transaction := h.nextHash domain
  submitted := congrArg (· ++ _) h.submitted
  count := congrArg (· + 1) h.count
  block := congrArg (· + 1) h.block
  receipts := ⟨_, log, by rw [nextReceipt, h.block], by rw [mined, h.receipts, nextReceipt, h.block]⟩

/-- One transaction is handed in at a time. -/
theorem Steps.quiet_or_posted (h : Steps L m L' R) :
    R = [] ∧ Quiet L L' ∨ ∃ r, R = [r] ∧ Posted L r L' := by
  cases h with
  | quiet h => exact .inl ⟨rfl, h⟩
  | approved h domain token owner spender amount => exact .inr ⟨_, rfl, h.posted m domain owner _ _⟩
  | @launched taken h l hl =>
    -- The home that has counted the message is all that is different, and it plays no part in mining.
    obtain ⟨htransaction, hsubmitted, hcount, hblock, hreceipts⟩ := h.posted m l.origin l.sender l.request
      (logOf l.home l.message)
    exact .inr ⟨_, rfl, htransaction, hsubmitted, hcount, hblock, hreceipts⟩

theorem Steps.submitted (h : Steps L m L' R) : L'.submitted = L.submitted ++ R.map Record.submission := by
  rcases h.quiet_or_posted with ⟨rfl, hquiet⟩ | ⟨r, rfl, hposted⟩
  · rw [hquiet.submitted, List.map_nil, List.append_nil]
  · exact hposted.submitted

end Step

/-- The journal has every transaction that was handed in, in their order. -/
theorem submitted_moved (L : Ledger) (moves : List Move) :
    (L.moved moves).submitted = L.submitted ++ (L.journal moves).map Record.submission := by
  refine journal_induction (P := fun L' J => L'.submitted = L.submitted ++ J.map Record.submission) (J := [])
    (fun {_ _ _ R J} hstep h => ?_) (List.append_nil _).symm moves
  rw [hstep.submitted, h, List.map_append, List.append_assoc]

/-- What was handed in stays where it is. -/
theorem submitted_prefix_moved (L : Ledger) (moves : List Move) : L.submitted <+: (L.moved moves).submitted := by
  rw [submitted_moved]
  exact List.prefix_append _ _

/-! ### Records -/

/-- What a record tells of, on a ledger with homes and routers at the given addresses: an approval, or a transfer
that was launched by the contracts that are there. -/
inductive Told (L : Ledger) : Record → Prop where
  /-- An approval, and nothing else is in the receipt. -/
  | approved (m : Move) (domain : DomainId) (transaction : Word) (token owner spender : Address)
      (amount : Quantity) (block : UInt64) (succeeded : Bool) :
      Told L ⟨m, ⟨domain, transaction, owner, .approve token spender amount⟩,
        some ⟨transaction, block, succeeded, [⟨token, .approval owner spender amount⟩]⟩⟩
  /-- A transfer, and nothing but its message is in the receipt. -/
  | launched (m : Move) (l : Launch) (transaction : Word) (block : UInt64) (succeeded : Bool)
      (hrecipient : m.recipient? = some l.action.beneficiary)
      (hhome : L.homeAddress? l.origin = some l.home.address)
      (hrouter : L.routerAddress? l.origin = some l.router.address)
      (hremote : L.routerAddress? l.destination = some l.remote.address) :
      Told L ⟨m, ⟨l.origin, transaction, l.sender, l.request⟩,
        some ⟨transaction, block, succeeded, [logOf l.home l.message]⟩⟩

theorem Told.of_addresses {L L' : Ledger} (hhomes : ∀ domain, L'.homeAddress? domain = L.homeAddress? domain)
    (hrouters : ∀ domain, L'.routerAddress? domain = L.routerAddress? domain) {r : Record} (h : Told L r) :
    Told L' r := by
  cases h with
  | approved => exact .approved ..
  | launched m l transaction block succeeded hrecipient hhome hrouter hremote =>
    exact .launched m l transaction block succeeded hrecipient ((hhomes _).trans hhome)
      ((hrouters _).trans hrouter) ((hrouters _).trans hremote)

/-- A step records what it does. -/
theorem Steps.told {L L' : Ledger} {m : Move} {R : List Record} (h : Steps L m L' R) :
    ∀ r ∈ R, Told L r := by
  cases h with
  | quiet => exact fun _ hr => absurd hr List.not_mem_nil
  | approved =>
    intro r hr
    rw [List.mem_singleton.1 hr]
    exact .approved ..
  | launched h l hl hrecipient =>
    intro r hr
    rw [List.mem_singleton.1 hr]
    refine .launched m l _ _ _ hrecipient ?_ ?_ ?_
    · rw [← h.homeAddress?, Ledger.homeAddress?, hl.home]
      rfl
    · rw [← h.routers, Ledger.routerAddress?, hl.router]
      rfl
    · rw [← h.routers, Ledger.routerAddress?, hl.remote]
      rfl

/-- **Every record of a run** tells of an approval or of a transfer that was launched by the contracts that the
ledger has at the end. -/
theorem told_journal (L : Ledger) (moves : List Move) :
    ∀ r ∈ L.journal moves, Told (L.moved moves) r := by
  refine journal_induction (P := fun L J => ∀ r ∈ J, Told L r) (J := []) (fun hstep h r hr => ?_)
    (fun _ hr => absurd hr List.not_mem_nil) moves
  rcases List.mem_append.1 hr with hr | hr
  · exact (h r hr).of_addresses hstep.homeAddress? hstep.routerAddress?
  · exact (hstep.told r hr).of_addresses hstep.homeAddress? hstep.routerAddress?

/-! ### The beginning -/

/-- A ledger on which nothing was handed in, nothing was mined, and no home has announced anything. -/
structure Fresh (L : Ledger) : Prop where
  /-- No home has counted anything. -/
  homes : ∀ domain home, L.homes.get? domain = some home → home.nonces = .empty ∧ home.leafCount = 0
  /-- Nothing was handed in. -/
  submitted : L.submitted = []
  /-- Nothing was counted. -/
  count : L.transactionCount = 0
  /-- There is no block. -/
  block : L.block = 0
  /-- There is no receipt. -/
  receipts : L.receipts = .empty

/-- The ledger of a configuration is fresh, whether the configuration is valid or not. The empty ledger is that of
a configuration without domains. -/
theorem fresh_ofConfig (c : Config) : Fresh (ofConfig c) := by
  refine ofConfig_induction ⟨fun _ _ hhome => (by cases hhome), rfl, rfl, rfl, rfl⟩ (fun L d h => ?_) c
  refine ⟨fun domain home hhome => ?_, h.submitted, h.count, h.block, h.receipts⟩
  rw [deployDomain, Table.get?_insert] at hhome
  split at hhome
  · cases hhome
    exact ⟨rfl, rfl⟩
  · exact h.homes domain home hhome

end TokenBridge.Ledger
