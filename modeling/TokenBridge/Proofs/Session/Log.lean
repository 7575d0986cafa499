import TokenBridge.Proofs.Ledger.Log
import TokenBridge.Proofs.Session.Reachable

/-!
# Waiting again

A provider that answers plainly tells what the ledger has in its table of receipts (`step_wait`). In a reachable
session these are the receipts of all transactions, and no later step takes one away or changes it
(`logged_after`): whoever waits for a transaction again is told the same, by whichever provider, and only a hash that
was never handed in is answered as dropped. That holds as long as the hash does not collide on the inputs at hand,
the domains and places of the transactions, and fewer than `2 ^ 64` of them are handed in.
-/

namespace TokenBridge.Session

/-- A provider that answers plainly tells what the ledger knows. -/
theorem step_wait {s : Session} {name : String} {provider : Provider}
    (hprovider : s.providers.get? name = some provider) (hplain : provider.conduct = .plain) (transaction : Word) (confirmations : UInt64) :
    (s.step (.wait name transaction confirmations)).1 = .ofChainResult .receipt (s.ledger.receipt transaction) := by
  rw [step, hprovider]
  simp only [Network.wait, Provider.conductAt_of_plain hplain]
  rfl

section Ledger

variable (c : Config) (first rest : List Step)

/-- What was handed in stays where it is, whatever steps are taken. -/
theorem submitted_after : (after (.ofConfig c) first).ledger.submitted <+:
    (after (.ofConfig c) (first ++ rest)).ledger.submitted := by
  obtain ⟨moves, hmoves⟩ := exists_moves (after (.ofConfig c) first) rest
  rw [after_append, hmoves]
  exact Ledger.submitted_prefix_moved _ moves

theorem hashed_after : (after (.ofConfig c) first).ledger.Hashed := by
  obtain ⟨moves, hmoves⟩ := exists_moves_after (.ofConfig c) first
  rw [hmoves]
  exact Ledger.hashed_moved (Ledger.fresh_ofConfig c) moves

/-- The receipts go with the transactions, and later steps do not change that for those that were there. -/
theorem continues_after (hnodup : (after (.ofConfig c) (first ++ rest)).ledger.hashes.Nodup) :
    (after (.ofConfig c) first).ledger.Matched ∧
      (after (.ofConfig c) first).ledger.Continues (after (.ofConfig c) (first ++ rest)).ledger := by
  have hfirst := Ledger.nodup_hashes_earlier (submitted_after c first rest) hnodup
  obtain ⟨before, hbefore⟩ := exists_moves_after (.ofConfig c) first
  obtain ⟨moves, hmoves⟩ := exists_moves (after (.ofConfig c) first) rest
  rw [hbefore] at hfirst
  have hmatched := ((Ledger.fresh_ofConfig c).matched.moved before hfirst).1
  rw [← hbefore] at hmatched
  rw [after_append, hmoves] at hnodup ⊢
  exact ⟨hmatched, (hmatched.moved moves hnodup).2⟩

end Ledger

/-- **The log of a session is append-only and complete**: in every reachable session with fewer than `2 ^ 64`
transactions, whose hash does not collide on their inputs, the counters, the transactions and the receipts agree, and
go on to do so; no later step changes a transaction or a receipt; and a provider that answers plainly tells of a
transaction what every such provider tells of it later, and calls just those hashes dropped that were not handed in. -/
theorem logged_after (c : Config) (first rest : List Step)
    (htotal : (after (.ofConfig c) (first ++ rest)).ledger.submitted.length < 2 ^ 64)
    (hcollide : Set.InjOn Keccak.hash {input | input ∈ (after (.ofConfig c) (first ++ rest)).ledger.hashInputs}) :
    let s := after (.ofConfig c) first
    let s' := after (.ofConfig c) (first ++ rest)
    s.ledger.Logged ∧ s.ledger.Continues s'.ledger ∧
      ∀ name provider, s.providers.get? name = some provider → provider.conduct = .plain →
        ∀ transaction confirmations,
          ((s.step (.wait name transaction confirmations)).1 = .chainFailure (.dropped transaction) ↔
            transaction ∉ s.ledger.submitted.map Submission.transaction) ∧
          (transaction ∈ s.ledger.submitted.map Submission.transaction →
            ∃ receipt, (s.step (.wait name transaction confirmations)).1 = .receipt receipt ∧
              ∀ name' provider', s'.providers.get? name' = some provider' → provider'.conduct = .plain →
                ∀ confirmations', (s'.step (.wait name' transaction confirmations')).1 = .receipt receipt) := by
  intro s s'
  have hnodup := (hashed_after c (first ++ rest)).nodup_transactions htotal hcollide
  have hprefix := submitted_after c first rest
  obtain ⟨hmatched, hcontinues⟩ := continues_after c first rest hnodup
  have hlogged := hmatched.logged (hashed_after c first) (by have := hprefix.length_le; omega)
    (Ledger.nodup_hashes_earlier hprefix hnodup)
  refine ⟨hlogged, hcontinues, fun name provider hprovider hplain transaction confirmations => ⟨?_, fun hmem => ?_⟩⟩
  · rw [step_wait hprovider hplain, ← Ledger.hashes, ← hlogged.complete transaction, Ledger.receipt]
    cases s.ledger.receipts.get? transaction <;> simp [Answer.ofChainResult]
  · cases hreceipt : s.ledger.receipts.get? transaction with
    | none => exact absurd hmem ((hlogged.complete transaction).1 hreceipt)
    | some receipt =>
      refine ⟨receipt, ?_, fun name' provider' hprovider' hplain' confirmations' => ?_⟩
      · rw [step_wait hprovider hplain, Ledger.receipt_eq_ok_iff.2 hreceipt]
        rfl
      · rw [step_wait hprovider' hplain', Ledger.receipt_eq_ok_iff.2 (hcontinues.receipts _ _ hreceipt)]
        rfl

/-- An account lets the router take an amount of a token, through a handle made for it. -/
def approvingStep (amount : Nat) : Step :=
  .handle 1 (.ofNat 0x3001) (some ⟨"p", some "o"⟩) (.approve (.ofNat 0x1100) (.ofNat amount))

/-- Once, and once more when the transactions of the domain fail. -/
theorem logged_after_approving :
    let s := after (.ofConfig .testing) (testingSteps .plain 0 ++ [approvingStep 60])
    let s' := after (.ofConfig .testing)
      (testingSteps .plain 0 ++ [approvingStep 60] ++ [.ledger (.setReverting 1 true), approvingStep 5])
    (∃ receipt, (s.step (.wait "p" (Ledger.transactionHash 1 1) 1)).1 = .receipt receipt ∧
        (s'.step (.wait "p" (Ledger.transactionHash 1 1) 7)).1 = .receipt receipt) ∧
      (s.step (.wait "p" (Ledger.transactionHash 1 2) 1)).1 =
        .chainFailure (.dropped (Ledger.transactionHash 1 2)) := by
  intro s s'
  have hinputs : s.ledger.hashInputs = [Ledger.hashInput 1 1] ∧
      s'.ledger.hashInputs = [Ledger.hashInput 1 1, Ledger.hashInput 1 2] := by decide +kernel
  have hprovider : s.providers.get? "p" = some ⟨0, "http://alpha", .plain, 0⟩ ∧
      s'.providers.get? "p" = some ⟨0, "http://alpha", .plain, 0⟩ := by decide +kernel
  have hhashes : ([Ledger.hashInput 1 1, Ledger.hashInput 1 2].map Keccak.hash).Nodup := by decide +kernel
  have hcollide : Set.InjOn Keccak.hash {input | input ∈ s'.ledger.hashInputs} := by
    rw [hinputs.2]
    exact fun _ hx _ hy heq => List.inj_on_of_nodup_map hhashes hx hy heq
  have hfew : s'.ledger.submitted.length < 2 ^ 64 := by
    rw [← List.length_mapIdx, ← Ledger.hashInputs, hinputs.2]
    decide
  have hsubmitted : s.ledger.submitted.map Submission.transaction = [Ledger.transactionHash 1 1] := by
    rw [(hashed_after .testing _).transactions, hinputs.1]
    rfl
  obtain ⟨-, -, hwait⟩ := logged_after .testing (testingSteps .plain 0 ++ [approvingStep 60])
    [.ledger (.setReverting 1 true), approvingStep 5] hfew hcollide
  obtain ⟨receipt, hreceipt, hagain⟩ := (hwait "p" _ hprovider.1 rfl (Ledger.transactionHash 1 1) 1).2
    (hsubmitted ▸ List.mem_singleton_self _)
  have hunsent : Ledger.transactionHash 1 2 ∉ s.ledger.submitted.map Submission.transaction := by
    rw [hsubmitted, List.mem_singleton]
    exact fun heq => (List.nodup_cons.1 hhashes).1 (List.mem_singleton.2 heq.symm)
  exact ⟨⟨receipt, hreceipt, hagain "p" _ hprovider.2 rfl 7⟩, (hwait "p" _ hprovider.1 rfl _ 1).1.2 hunsent⟩

end TokenBridge.Session
