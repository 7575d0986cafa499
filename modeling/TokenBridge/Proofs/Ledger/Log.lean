import TokenBridge.Proofs.Ledger.Acceptance

/-!
# The log of transactions

What was handed in is kept in a list, and the receipts in a table under their hashes. Every move mines nothing or
one transaction, with one log (`Steps.quiet_or_posted`). So the counter, the block and the list grow together, and as
long as no two transactions have the same hash, the table has the receipts in the order of the list
(`Matched.step`): the `n`-th transaction has the `n`-th receipt, of block `n`.

A new hash is then not one that has a receipt, and no receipt is ever replaced. The log only grows
(`Matched.moved`), and the ledger knows a receipt for the hashes of the transactions and for no others
(`Matched.logged`).
-/

namespace TokenBridge.Ledger

/-- The hashes of the transactions, in the order in which they were handed in. -/
def hashes (L : Ledger) : List Word := L.submitted.map Submission.transaction

theorem nodup_hashes_earlier {L L' : Ledger} (h : L.submitted <+: L'.submitted) (hnodup : L'.hashes.Nodup) :
    L.hashes.Nodup :=
  (h.map Submission.transaction).sublist.nodup hnodup

/-! ### Transactions and receipts -/

/-- The receipts go with the transactions. -/
structure Matched (L : Ledger) : Prop where
  /-- The counter counts the transactions. -/
  count : L.transactionCount = UInt64.ofNat L.submitted.length
  /-- There are as many blocks. -/
  block : L.block = L.transactionCount
  /-- The receipts are those of the transactions, in their order. -/
  keys : L.receipts.keys = L.hashes
  /-- The receipt of a transaction has its hash, its place and one log. -/
  receipt : ∀ i s, L.submitted[i]? = some s → ∃ succeeded log,
    L.receipts.get? s.transaction = some ⟨s.transaction, .ofNat (i + 1), succeeded, [log]⟩

theorem Fresh.matched {L : Ledger} (h : Fresh L) : Matched L where
  count := by
    rw [h.count, h.submitted]
    rfl
  block := by rw [h.block, h.count]
  keys := by
    rw [h.receipts, hashes, h.submitted]
    rfl
  receipt i s hs := by
    rw [h.submitted] at hs
    cases hs

/-- The log goes on: what was handed in stays where it is, and every receipt stays as it is. -/
structure Continues (L L' : Ledger) : Prop where
  /-- What was handed in stays where it is. -/
  submitted : L.submitted <+: L'.submitted
  /-- Every receipt stays as it is. -/
  receipts : ∀ transaction receipt, L.receipts.get? transaction = some receipt →
    L'.receipts.get? transaction = some receipt

theorem Continues.refl (L : Ledger) : Continues L L := ⟨List.prefix_refl _, fun _ _ h => h⟩

theorem Continues.trans {L₁ L₂ L₃ : Ledger} (h₁ : Continues L₁ L₂) (h₂ : Continues L₂ L₃) : Continues L₁ L₃ :=
  ⟨h₁.submitted.trans h₂.submitted, fun _ _ h => h₂.receipts _ _ (h₁.receipts _ _ h)⟩

section Step

variable {L L' : Ledger} {m : Move} {R : List Record}

/-- A new hash is not one that has a receipt. -/
theorem Matched.get?_next {r : Record} (h : Matched L) (hposted : Posted L r L') (hnodup : L'.hashes.Nodup) :
    L.receipts.get? r.submission.transaction = none := by
  rw [hashes, hposted.submitted, List.map_append] at hnodup
  have hnew : r.submission.transaction ∉ L.receipts.keys := by
    rw [h.keys]
    exact fun hmem => List.disjoint_of_nodup_append hnodup hmem (List.mem_singleton_self _)
  exact Table.find?_eq_none_iff.2 hnew

theorem Matched.quiet (h : Matched L) (hquiet : Quiet L L') : Matched L' where
  count := by rw [hquiet.count, hquiet.submitted, h.count]
  block := by rw [hquiet.count, hquiet.block, h.block]
  keys := by
    rw [hquiet.receipts, hashes, hquiet.submitted]
    exact h.keys
  receipt := by
    rw [hquiet.receipts, hquiet.submitted]
    exact h.receipt

/-- **The step**: whatever happens to the ledger, the receipts go with the transactions, and the log goes on. -/
theorem Matched.step (hstep : Steps L m L' R) (h : Matched L) (hnodup : L'.hashes.Nodup) :
    Matched L' ∧ Continues L L' := by
  have hprefix : L.submitted <+: L'.submitted := by
    rw [hstep.submitted]
    exact List.prefix_append _ _
  rcases hstep.quiet_or_posted with ⟨-, hquiet⟩ | ⟨r, -, hposted⟩
  · exact ⟨h.quiet hquiet, hprefix, fun _ _ hreceipt => by rwa [hquiet.receipts]⟩
  · -- The new receipt comes under a new hash, so it comes last, and those that are there stay.
    have hnew := h.get?_next hposted hnodup
    have hcount := count_mined h.count r.submission
    obtain ⟨succeeded, log, -, hreceipts⟩ := hposted.receipts
    have hkept : ∀ transaction receipt, L.receipts.get? transaction = some receipt →
        L'.receipts.get? transaction = some receipt := by
      intro transaction receipt hreceipt
      have hne : r.submission.transaction ≠ transaction := fun heq => by
        rw [← heq, hnew] at hreceipt
        cases hreceipt
      rw [hreceipts, Table.get?_insert_of_ne _ _ hne, hreceipt]
    refine ⟨⟨?_, ?_, ?_, fun i t ht => ?_⟩, hprefix, hkept⟩
    · rw [hposted.count, hposted.submitted, hcount]
    · rw [hposted.block, hposted.count, h.block]
    · rw [hreceipts, hashes, hposted.submitted, List.map_append, ← hashes, ← h.keys]
      show (Table.put L.receipts.entries _ _).map Prod.fst = _
      rw [Table.put_of_notMem (Table.find?_eq_none_iff.1 hnew), List.map_append]
      rfl
    · rw [hposted.submitted, List.getElem?_append] at ht
      split at ht
      · obtain ⟨succeeded, log, hreceipt⟩ := h.receipt i t ht
        exact ⟨succeeded, log, hkept _ _ hreceipt⟩
      · obtain ⟨hi, rfl⟩ := List.getElem?_eq_some_iff.1 ht
        have hplace : i = L.submitted.length := by
          rw [List.length_singleton] at hi
          omega
        rw [List.length_append, List.length_singleton, ← h.block] at hcount
        rw [List.getElem_singleton, hplace, ← hcount]
        exact ⟨succeeded, log, by rw [hreceipts, Table.get?_insert_self]⟩

/-- **The run.** -/
theorem Matched.moved (h : Matched L) (moves : List Move) (hnodup : (L.moved moves).hashes.Nodup) :
    Matched (L.moved moves) ∧ Continues L (L.moved moves) := by
  induction moves generalizing L with
  | nil => exact ⟨h, .refl L⟩
  | cons m rest ih =>
    have hfirst := h.step (m.steps L) (nodup_hashes_earlier ((m.on L).submitted_prefix_moved rest) hnodup)
    have hrest := ih hfirst.1 hnodup
    exact ⟨hrest.1, hfirst.2.trans hrest.2⟩

end Step

/-! ### The whole log -/

/-- The log is complete: the counters, the list and the table agree. -/
structure Logged (L : Ledger) : Prop where
  /-- The counter is the number of transactions, -/
  count : L.transactionCount.toNat = L.submitted.length
  /-- the block is, -/
  block : L.block.toNat = L.submitted.length
  /-- and there are as many receipts. -/
  size : L.receipts.size = L.submitted.length
  /-- The hashes differ. -/
  distinct : L.hashes.Nodup
  /-- The hash of a transaction is that of its domain and its place, and its receipt is kept under it, with the
  block of its place and one log. -/
  entry : ∀ i s, L.submitted[i]? = some s →
    s.transaction = Keccak.hash (bytes32 s.domain ++ BigEndian.encode 8 (i + 1)) ∧
      ∃ receipt, L.receipts.get? s.transaction = some receipt ∧ receipt.transaction = s.transaction ∧
        receipt.block.toNat = i + 1 ∧ receipt.logs.length = 1
  /-- There is no receipt for another hash. -/
  complete : ∀ transaction, L.receipts.get? transaction = none ↔ transaction ∉ L.hashes

theorem Matched.logged {L : Ledger} (h : Matched L) (hhashed : Hashed L) (htotal : L.submitted.length < 2 ^ 64)
    (hnodup : L.hashes.Nodup) : Logged L := by
  have hcount : L.transactionCount.toNat = L.submitted.length := by
    rw [h.count, UInt64.toNat_ofNat', Nat.mod_eq_of_lt htotal]
  have hplace : ∀ {i s}, L.submitted[i]? = some s → (UInt64.ofNat (i + 1)).toNat = i + 1 := by
    intro i s hs
    have hi := (List.getElem?_eq_some_iff.1 hs).1
    rw [UInt64.toNat_ofNat', Nat.mod_eq_of_lt (by omega)]
  refine ⟨hcount, ?_, ?_, hnodup, fun i s hs => ⟨?_, ?_⟩, fun transaction => ?_⟩
  · rw [h.block, hcount]
  · have hlength := congrArg List.length h.keys
    rwa [Table.keys, hashes, List.length_map, List.length_map] at hlength
  · have hhash := congrArg (·[i]?) hhashed.transactions
    simp only [List.getElem?_map, hashInputs, List.getElem?_mapIdx, hs, Option.map_some, Option.some.injEq] at hhash
    rw [hhash, hashInput, hplace hs]
  · obtain ⟨succeeded, log, hreceipt⟩ := h.receipt i s hs
    exact ⟨_, hreceipt, rfl, hplace hs, rfl⟩
  · rw [← h.keys]
    exact Table.find?_eq_none_iff

end TokenBridge.Ledger
