import Mathlib.Data.Set.Operations
import TokenBridge.Proofs.Ledger.Journal
import TokenBridge.Proofs.Transfer
import Mathlib.Algebra.Group.Nat.Defs

/-!
# Accepted receipts

What homes announce is what transfers are read off. As long as no two transactions of a run have the same hash,
the ledger keeps the receipt that each of them had when it was handed in (`receipts_journal`), and reading a
transfer off it, with the home of the domain, gives the transfer that was asked for (`journal_accepted`). Off the
receipt of an approval none is read.

The hash of a transaction is that of its domain and its place, which are different for different transactions
(`nodup_hashInputs`). So it is enough that the hash does not collide on these inputs.
-/

namespace TokenBridge.Ledger

/-! ### Hashes -/

/-- The bytes whose hash a transaction gets, by its domain and its place among all transactions. -/
def hashInput (domain : DomainId) (count : UInt64) : Bytes := bytes32 domain ++ BigEndian.encode 8 count.toNat

theorem hashInput_injective {domain domain' : DomainId} {count count' : UInt64}
    (h : hashInput domain count = hashInput domain' count') : count = count' := by
  have hencode := (List.append_inj h (by simp)).2
  have hdecode := congrArg BigEndian.decode hencode
  rw [BigEndian.decode_encode count.toNat_lt, BigEndian.decode_encode count'.toNat_lt] at hdecode
  exact UInt64.toNat_inj.1 hdecode

/-- The inputs of the hashes of all transactions, in the order in which they were handed in. -/
def hashInputs (L : Ledger) : List Bytes := L.submitted.mapIdx fun i s => hashInput s.domain (.ofNat (i + 1))

/-- As long as the count does not wrap around, all inputs are different. -/
theorem nodup_hashInputs {L : Ledger} (htotal : L.submitted.length < 2 ^ 64) : L.hashInputs.Nodup := by
  rw [List.nodup_iff_pairwise_ne, List.pairwise_iff_getElem]
  intro i j hi hj hlt heq
  rw [hashInputs, List.length_mapIdx] at hj
  simp only [hashInputs, List.getElem_mapIdx] at heq
  have hcount := congrArg UInt64.toNat (hashInput_injective heq)
  rw [UInt64.toNat_ofNat', UInt64.toNat_ofNat'] at hcount
  omega

/-- The counter counts what was handed in, and every transaction has the hash of its domain and its place. -/
structure Hashed (L : Ledger) : Prop where
  /-- The counter counts what was handed in. -/
  count : L.transactionCount = UInt64.ofNat L.submitted.length
  /-- The hashes are those of the inputs. -/
  transactions : L.submitted.map Submission.transaction = L.hashInputs.map Keccak.hash

theorem Fresh.hashed {L : Ledger} (h : Fresh L) : Hashed L where
  count := by
    rw [h.count, h.submitted]
    rfl
  transactions := by
    rw [hashInputs, h.submitted]
    rfl

/-- **The step**: a transaction that is handed in is counted, and gets the hash of its place. -/
theorem Hashed.step {L L' : Ledger} {m : Move} {R : List Record} (hstep : Steps L m L' R) (h : Hashed L) :
    Hashed L' := by
  rcases hstep.quiet_or_posted with ⟨-, hquiet⟩ | ⟨r, -, hposted⟩
  · refine ⟨?_, ?_⟩
    · rw [hquiet.count, hquiet.submitted, h.count]
    · rw [hashInputs, hquiet.submitted]
      exact h.transactions
  · have hcount := count_mined h.count r.submission
    refine ⟨?_, ?_⟩
    · rw [hposted.count, hposted.submitted, hcount]
    · have hlast : r.submission.transaction =
          Keccak.hash (hashInput r.submission.domain (.ofNat (L.submitted.length + 1))) := by
        rw [hposted.transaction, nextHash, hcount, List.length_append, List.length_singleton]
        rfl
      rw [hashInputs, hposted.submitted, List.mapIdx_concat, List.map_append, List.map_append, h.transactions,
        List.map_singleton, List.map_singleton, hlast]
      rfl

theorem hashed_moved {L : Ledger} (h : Fresh L) (moves : List Move) : Hashed (L.moved moves) :=
  moved_induction Hashed.step h.hashed moves

/-- Where the hash does not collide on the inputs, no two transactions have the same hash. -/
theorem Hashed.nodup_transactions {L : Ledger} (h : Hashed L) (htotal : L.submitted.length < 2 ^ 64)
    (hcollide : Set.InjOn Keccak.hash {input | input ∈ L.hashInputs}) :
    (L.submitted.map Submission.transaction).Nodup := by
  rw [h.transactions]
  exact (nodup_hashInputs htotal).map_on fun x hx y hy heq => hcollide hx hy heq

/-! ### Receipts -/

/-- **Receipts stay**: where no two transactions have the same hash, the ledger keeps the receipt of every one as
it was when it was handed in. -/
theorem receipts_journal (L : Ledger) (moves : List Move)
    (hnodup : ((L.journal moves).map fun r => r.submission.transaction).Nodup) :
    ∀ r ∈ L.journal moves, (L.moved moves).receipts.get? r.submission.transaction = r.receipt := by
  refine journal_induction (P := fun L J => (J.map fun r => r.submission.transaction).Nodup →
    ∀ r ∈ J, L.receipts.get? r.submission.transaction = r.receipt) (J := [])
    (fun {_ _ _ R J} hstep h hnodup r hr => ?_) (fun _ _ hr => absurd hr List.not_mem_nil) moves hnodup
  rcases hstep.quiet_or_posted with ⟨rfl, hquiet⟩ | ⟨last, rfl, hposted⟩
  · rw [List.append_nil] at hnodup hr
    rw [hquiet.receipts]
    exact h hnodup r hr
  · obtain ⟨succeeded, log, hreceipt, hreceipts⟩ := hposted.receipts
    rw [List.map_append, List.nodup_append] at hnodup
    obtain ⟨hfirst, -, hdisjoint⟩ := hnodup
    rw [hreceipts]
    rcases List.mem_append.1 hr with hr | hr
    · have hne : last.submission.transaction ≠ r.submission.transaction := fun heq =>
        hdisjoint _ (List.mem_map_of_mem hr) _ (List.mem_map_of_mem (List.mem_singleton_self last)) heq.symm
      rw [Table.get?_insert_of_ne _ _ hne]
      exact h hfirst r hr
    · rw [List.mem_singleton.1 hr, Table.get?_insert_self, hreceipt]

/-- A transfer is the one that a record is about, between the contracts that a ledger has. -/
structure Describes (L : Ledger) (r : Record) (t : Transfer) : Prop where
  /-- It comes from the domain of the transaction. -/
  origin : t.origin = r.submission.domain
  /-- It goes where the transaction sends. -/
  destination : r.submission.request.destination? = some t.destination
  /-- It moves as much as was asked for. -/
  amount : t.amount = r.submission.request.amount
  /-- It is sent by the router of the domain. -/
  sender : (L.routerAddress? r.submission.domain).map Address.widen = some t.message.sender
  /-- It is received by the router of the destination. -/
  recipient : (L.routerAddress? t.destination).map Address.widen = some t.message.recipient
  /-- What was announced is the message. -/
  message : t.dispatch.message = t.message.encode
  /-- Its leaf is the hash of the message. -/
  leaf : t.leaf = Keccak.hash t.dispatch.message
  /-- It is for the recipient that was named. -/
  beneficiary : r.move.recipient? = some t.action.beneficiary

/-- The receipt of a record about sending tells of the transfer, and that of another tells of none. -/
theorem Told.ofReceipt {L : Ledger} {r : Record} (h : Told L r) :
    ∃ receipt, r.receipt = some receipt ∧
      (r.submission.request.destination?.isSome → ∃ home t, L.homeAddress? r.submission.domain = some home ∧
        Transfer.ofReceipt r.submission.domain home receipt = .ok t ∧ Describes L r t) ∧
      (r.submission.request.destination? = none → ∀ home,
        Transfer.ofReceipt r.submission.domain home receipt =
          .error (.inconsistent (.noDispatch home r.submission.transaction))) := by
  cases h with
  | approved => exact ⟨_, rfl, fun hsome => (by cases hsome), fun _ _ => rfl⟩
  | launched m l transaction block succeeded hrecipient hhome hrouter hremote =>
    refine ⟨_, rfl, fun _ => ?_, fun hnone => ?_⟩
    · refine ⟨l.home.address, _, hhome, Transfer.ofReceipt_logOf l.home l.message l.action rfl _ _ _, ?_⟩
      exact {
        origin := rfl
        destination := l.destination_eq
        amount := l.amount_eq.symm
        sender := by rw [hrouter]; rfl
        recipient := (congrArg (Option.map Address.widen) hremote).trans rfl
        message := rfl
        leaf := rfl
        beneficiary := hrecipient }
    · cases l.destination_eq.symm.trans hnone

/-- **What the ledger emits is accepted**: in every run with fewer than `2 ^ 64` transactions, whose hash does not
collide on their inputs, the receipt that is kept under the hash of a transaction tells, read with the home of its
domain, of the transfer that was asked for, and that of an approval tells of none. -/
theorem journal_accepted (c : Config) (moves : List Move)
    (htotal : ((ofConfig c).moved moves).submitted.length < 2 ^ 64)
    (hcollide : Set.InjOn Keccak.hash {input | input ∈ ((ofConfig c).moved moves).hashInputs}) :
    ((ofConfig c).journal moves).map Record.submission = ((ofConfig c).moved moves).submitted ∧
      ∀ r ∈ (ofConfig c).journal moves, ∃ receipt,
        ((ofConfig c).moved moves).receipt r.submission.transaction = .ok receipt ∧
        (r.submission.request.destination?.isSome → ∃ home t,
          ((ofConfig c).moved moves).homeAddress? r.submission.domain = some home ∧
          Transfer.ofReceipt r.submission.domain home receipt = .ok t ∧
          Describes ((ofConfig c).moved moves) r t) ∧
        (r.submission.request.destination? = none → ∀ home,
          Transfer.ofReceipt r.submission.domain home receipt =
            .error (.inconsistent (.noDispatch home r.submission.transaction))) := by
  have hfresh := fresh_ofConfig c
  have hsubmitted : ((ofConfig c).journal moves).map Record.submission = ((ofConfig c).moved moves).submitted := by
    rw [submitted_moved, hfresh.submitted, List.nil_append]
  have hnodup : (((ofConfig c).journal moves).map fun r => r.submission.transaction).Nodup := by
    have htransactions := (hashed_moved hfresh moves).nodup_transactions htotal hcollide
    rwa [← hsubmitted, List.map_map] at htransactions
  refine ⟨hsubmitted, fun r hr => ?_⟩
  obtain ⟨receipt, hreceipt, hread⟩ := (told_journal (ofConfig c) moves r hr).ofReceipt
  refine ⟨receipt, receipt_eq_ok_iff.2 ?_, hread⟩
  rw [receipts_journal (ofConfig c) moves hnodup r hr, hreceipt]

/-- Moves on the small bridge: an account lets the router take 60 of a token and sends as much. -/
def approvingMoves : List Move :=
  let k : Connection := ⟨⟨0, "http://alpha", .plain, 0⟩, some ⟨1, .ofNat 0xa⟩⟩
  [.occurs (.deployToken 1 (.ofNat 0x3001)), .occurs (.mint 1 (.ofNat 0x3001) (.ofNat 0xa) (.ofNat 100)),
    .calls (.approve ⟨⟨1, .ofNat 0x3001, some k⟩⟩ (.ofNat 0x1100) (.ofNat 60)),
    .calls (.send ⟨⟨1, .ofNat 0x1100, some k⟩⟩ (.ofNat 0x3001) (.ofNat 60) 2 (.ofNat 0xb))]

/-- The receipt that is kept of the sending tells, read with the home of its domain, of 60 for the other domain. -/
theorem journal_accepted_approving : ∃ r ∈ (ofConfig .testing).journal approvingMoves, ∃ receipt home t,
    r.submission.request = .send (.ofNat 0x3001) (.ofNat 60) 2 ∧
      ((ofConfig .testing).moved approvingMoves).receipt r.submission.transaction = .ok receipt ∧
      ((ofConfig .testing).moved approvingMoves).homeAddress? r.submission.domain = some home ∧
      Transfer.ofReceipt r.submission.domain home receipt = .ok t ∧ t.destination = 2 ∧ t.amount = .ofNat 60 := by
  have hlength : ((ofConfig .testing).moved approvingMoves).submitted.length = 2 := by decide +kernel
  have hinputs : ((ofConfig .testing).moved approvingMoves).hashInputs = [hashInput 1 1, hashInput 1 2] := by
    decide +kernel
  have hhashes : ([hashInput 1 1, hashInput 1 2].map Keccak.hash).Nodup := by decide +kernel
  have hcollide : Set.InjOn Keccak.hash
      {input | input ∈ ((ofConfig .testing).moved approvingMoves).hashInputs} := by
    rw [hinputs]
    exact fun _ hx _ hy heq => List.inj_on_of_nodup_map hhashes hx hy heq
  have hsend : Request.send (.ofNat 0x3001) (.ofNat 60) 2 ∈
      ((ofConfig .testing).journal approvingMoves).map fun r => r.submission.request := by decide +kernel
  obtain ⟨r, hr, hrequest⟩ := List.mem_map.1 hsend
  obtain ⟨-, hread⟩ := journal_accepted .testing approvingMoves (by omega) hcollide
  obtain ⟨receipt, hreceipt, htells, -⟩ := hread r hr
  obtain ⟨home, t, hhome, ht, hdescribes⟩ := htells (by rw [hrequest]; rfl)
  refine ⟨r, hr, receipt, home, t, hrequest, hreceipt, hhome, ht, ?_, ?_⟩
  · have hdestination := hdescribes.destination
    rw [hrequest] at hdestination
    exact (Option.some.inj hdestination).symm
  · rw [hdescribes.amount, hrequest]
    rfl

end TokenBridge.Ledger
