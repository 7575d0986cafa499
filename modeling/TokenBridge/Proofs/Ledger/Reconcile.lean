import TokenBridge.Proofs.Ledger.Account
import Mathlib.Algebra.GroupWithZero.Nat
import Mathlib.Data.List.DropRight

/-!
# Reconciling accounts

Every account can be reckoned up from the book of the run. What is on it is what was added to it less what its owner
sent, as long as no more was added than a quantity can hold; and what the router of the domain may take from it is
what was last set less what was sent since. `Reconciled` says both of a ledger and its book. A change keeps it
because what the change enters in the book is what becomes of the account (`Enters.follows`), so it holds after any
run (`Reconciled.applyAll`). What is foreign to an account changes neither (`Enters.foreign`).

A run is a list of changes here. A call through a handle is a transaction of its signer or nothing, so the ledgers of
sessions are reached by changes as well (`Session.exists_changes`).
-/

namespace TokenBridge

open Ledger (Entry)

namespace Account

variable (a : Account) (spender : Address)

/-- How much an entry adds to an account. -/
def mintedIn : Entry → Nat
  | .minted b amount => if b = a then amount.toNat else 0
  | _ => 0

/-- How much the owner of an account sends from it by an entry. -/
def sentIn : Entry → Nat
  | .handedIn ⟨domain, _, sender, .send token amount _⟩ =>
    if (⟨domain, token, sender⟩ : Account) = a then amount.toNat else 0
  | _ => 0

/-- What a spender may take from an account after an entry that sets it, whatever it was before. -/
def setIn : Entry → Option Quantity
  | .limited b s amount => if b = a ∧ s = spender then some amount else none
  | .handedIn ⟨domain, _, sender, .approve token s amount⟩ =>
    if (⟨domain, token, sender⟩ : Account) = a ∧ s = spender then some amount else none
  | _ => none

/-- How much was added to an account. -/
def minted (book : List Entry) : Nat := (book.map a.mintedIn).sum

/-- How much the owner of an account sent from it. -/
def sent (book : List Entry) : Nat := (book.map a.sentIn).sum

/-- What a spender was last allowed to take from an account, nothing if never. -/
def lastSet (book : List Entry) : Nat :=
  match (book.filterMap (a.setIn spender)).getLast? with
  | some amount => amount.toNat
  | none => 0

/-- How much the owner of an account sent from it since it was last set what a spender may take. -/
def sentSince (book : List Entry) : Nat := a.sent (book.rtakeWhile fun e => (a.setIn spender e).isNone)

/-! ### One entry more -/

theorem minted_append (first rest : List Entry) : a.minted (first ++ rest) = a.minted first + a.minted rest := by
  rw [minted, List.map_append, List.sum_append]
  rfl

theorem sent_append (first rest : List Entry) : a.sent (first ++ rest) = a.sent first + a.sent rest := by
  rw [sent, List.map_append, List.sum_append]
  rfl

theorem minted_concat (book : List Entry) (e : Entry) : a.minted (book ++ [e]) = a.minted book + a.mintedIn e := by
  rw [minted_append, minted, minted, List.map_singleton, List.sum_singleton]

theorem sent_concat (book : List Entry) (e : Entry) : a.sent (book ++ [e]) = a.sent book + a.sentIn e := by
  rw [sent_append, sent, sent, List.map_singleton, List.sum_singleton]

theorem lastSet_concat (book : List Entry) (e : Entry) :
    a.lastSet spender (book ++ [e]) = match a.setIn spender e with
      | some amount => amount.toNat
      | none => a.lastSet spender book := by
  rw [lastSet, List.filterMap_append]
  cases h : a.setIn spender e with
  | none => simp [h, lastSet]
  | some amount => simp [h]

theorem sentSince_concat (book : List Entry) (e : Entry) :
    a.sentSince spender (book ++ [e]) = match a.setIn spender e with
      | some _ => 0
      | none => a.sentSince spender book + a.sentIn e := by
  rw [sentSince, List.rtakeWhile_concat]
  cases a.setIn spender e with
  | none => exact a.sent_concat _ e
  | some amount => rfl

end Account

namespace Ledger

variable {L L' : Ledger} {change : Change} {E book : List Entry}

/-! ### The step -/

/-- What becomes of an account is what an entry says of it. -/
structure Follows (a : Account) (L L' : Ledger) (e : Entry) : Prop where
  /-- As much as is entered comes to what is on it or goes from it, if a quantity can hold it. -/
  holding : (L.holding a).toNat + a.mintedIn e < 2 ^ 256 →
    (L'.holding a).toNat + a.sentIn e = (L.holding a).toNat + a.mintedIn e
  /-- The router may take what the entry sets, or what it could take before less what the entry sends. -/
  limit : ∀ router, L.routerAddress? a.domain = some router → match a.setIn router e with
    | some amount => L'.limit a router = amount
    | none => (L'.limit a router).toNat + a.sentIn e = (L.limit a router).toNat

/-- An entry that sets what a spender may take, and nothing else. -/
theorem follows_set (a b : Account) (spender : Address) (amount : Quantity) {e : Entry}
    (hset : ∀ s, a.setIn s e = if b = a ∧ spender = s then some amount else none) (hminted : a.mintedIn e = 0)
    (hsent : a.sentIn e = 0) (h : SameAccounts (L.setAllowance b.domain b.token b.owner spender amount) L') :
    Follows a L L' e where
  holding _ := by rw [h.holding, holding_setAllowance, hminted, hsent]
  limit router _ := by
    rw [hset, hsent, h.limit, limit_setAllowance]
    by_cases hkey : b = a ∧ spender = router
    · rw [if_pos hkey, if_pos hkey]
    · rw [if_neg hkey, if_neg hkey]
      rfl

/-- **What a change enters is what becomes of the accounts.** -/
theorem Enters.follows (h : Enters L change L' E) (a : Account) :
    E = [] ∧ SameAccounts L L' ∨ ∃ e, E = [e] ∧ Follows a L L' e := by
  cases h with
  | nothing h => exact .inl ⟨rfl, h⟩
  | minted b amount =>
    refine .inr ⟨_, rfl, fun hroom => ?_, fun router _ => ?_⟩
    · have hentry : a.mintedIn (.minted b amount) = if b = a then amount.toNat else 0 := rfl
      rw [hentry] at hroom ⊢
      rw [holding_mint]
      by_cases hb : b = a
      · rw [if_pos hb] at hroom
        rw [if_pos hb, if_pos hb]
        exact Quantity.toNat_add hroom
      · rw [if_neg hb, if_neg hb]
        rfl
    · exact congrArg Quantity.toNat (L.limit_mint a b router amount)
  | limited b spender amount =>
    exact .inr ⟨_, rfl, follows_set a b spender amount (fun _ => rfl) rfl rfl fun _ _ => rfl⟩
  | approved b spender amount transaction h =>
    exact .inr ⟨_, rfl, follows_set a b spender amount (fun _ => rfl) rfl rfl h⟩
  | sent b router amount destination recipient transaction hrouter hlimit hholding h =>
    have hsent : a.sentIn (.handedIn ⟨b.domain, transaction, b.owner, .send b.token amount destination⟩) =
        if b = a then amount.toNat else 0 := rfl
    rw [Quantity.lt_iff] at hlimit hholding
    refine .inr ⟨_, rfl, fun _ => ?_, fun router' hrouter' => ?_⟩
    · rw [hsent, h.holding, holding_take]
      by_cases hb : b = a
      · subst hb
        rw [if_pos rfl, if_pos rfl, Quantity.toNat_sub]
        exact Nat.sub_add_cancel (Nat.le_of_not_lt hholding)
      · rw [if_neg hb, if_neg hb]
        rfl
    · show (L'.limit a router').toNat + _ = _
      rw [hsent, h.limit, limit_take]
      by_cases hb : b = a
      · -- On the same account it is the same domain, hence the same router that takes the amount.
        subst hb
        cases hrouter.symm.trans hrouter'
        rw [if_pos ⟨rfl, rfl⟩, if_pos rfl, Quantity.toNat_sub]
        exact Nat.sub_add_cancel (Nat.le_of_not_lt hlimit)
      · rw [if_neg fun hkey => hb hkey.1, if_neg hb]
        rfl
  | sentNative domain transaction sender value destination h =>
    refine .inr ⟨_, rfl, fun _ => ?_, fun router _ => ?_⟩
    · exact congrArg Quantity.toNat (h.holding a)
    · exact congrArg Quantity.toNat (h.limit a router)

/-- An account agrees with the book of a run. -/
structure Reconciled (a : Account) (L : Ledger) (book : List Entry) : Prop where
  /-- What was added to it is what was sent from it and what is on it. -/
  holding : a.minted book < 2 ^ 256 → a.sent book + (L.holding a).toNat = a.minted book
  /-- What was last set for the router is what was sent since and what the router may take. -/
  limit : ∀ router, L.routerAddress? a.domain = some router →
    a.sentSince router book + (L.limit a router).toNat = a.lastSet router book
  /-- It was never exceeded before. -/
  past : ∀ router, L.routerAddress? a.domain = some router → ∀ past, past <+: book →
    a.sentSince router past ≤ a.lastSet router past

/-- A change keeps an account in agreement with the book. -/
theorem Reconciled.enters {a : Account} (h : Reconciled a L book) (hstep : Enters L change L' E)
    (hrouters : L'.routerAddress? a.domain = L.routerAddress? a.domain) : Reconciled a L' (book ++ E) := by
  rcases hstep.follows a with ⟨rfl, hsame⟩ | ⟨e, rfl, hholding, hlimit⟩
  · rw [List.append_nil]
    refine ⟨fun hroom => ?_, fun router hrouter => ?_, fun router hrouter => ?_⟩
    · rw [hsame.holding]
      exact h.holding hroom
    · rw [hsame.limit]
      exact h.limit router (hrouters ▸ hrouter)
    · exact h.past router (hrouters ▸ hrouter)
  · -- The entry starts the reckoning anew, or it is one more sending that counts against what was set before.
    have hagrees : ∀ router, L'.routerAddress? a.domain = some router →
        a.sentSince router (book ++ [e]) + (L'.limit a router).toNat = a.lastSet router (book ++ [e]) := by
      intro router hrouter
      have hbefore := h.limit router (hrouters ▸ hrouter)
      have hafter := hlimit router (hrouters ▸ hrouter)
      rw [a.sentSince_concat, a.lastSet_concat]
      cases hset : a.setIn router e with
      | some amount =>
        rw [hset] at hafter
        show 0 + (L'.limit a router).toNat = amount.toNat
        rw [Nat.zero_add]
        exact congrArg Quantity.toNat hafter
      | none =>
        rw [hset] at hafter
        show a.sentSince router book + a.sentIn e + (L'.limit a router).toNat = a.lastSet router book
        dsimp only at hafter
        omega
    refine ⟨fun hroom => ?_, hagrees, fun router hrouter past hpast => ?_⟩
    · -- What is on the account is part of what was added, so a quantity has room for the addition.
      rw [a.minted_concat] at hroom ⊢
      have hbefore := h.holding (by omega)
      have hafter := hholding (by omega)
      rw [a.sent_concat]
      omega
    · rcases List.prefix_concat_iff.1 hpast with rfl | hpast
      · exact Nat.le.intro (hagrees router hrouter)
      · exact h.past router (hrouters ▸ hrouter) past hpast

/-! ### The run -/

/-- What a ledger and its book agree in stays so, whatever happens. -/
theorem Reconciled.applyAll {a : Account} (hhoused : L.Housed) (h : Reconciled a L book) (changes : List Change) :
    Reconciled a (L.applyAll changes) (book ++ L.book changes) := by
  induction changes generalizing L book with
  | nil =>
    rw [Ledger.book, List.append_nil]
    exact h
  | cons change rest ih =>
    have hrouters : (L.apply change).routerAddress? a.domain = L.routerAddress? a.domain :=
      (Move.steps (.occurs change) L).routerAddress? a.domain
    rw [Ledger.book, ← List.append_assoc]
    exact ih (hhoused.apply change) (h.enters (hhoused.enters change) hrouters)

/-- At the beginning nothing is entered, and all accounts are empty. -/
theorem reconciled_ofConfig (c : Config) (a : Account) : Reconciled a (ofConfig c) [] := by
  have htokens : (ofConfig c).tokens = .empty := by
    rw [ofConfig, foldl_deployDomain]
    rfl
  have hnone : (ofConfig c).contractOrEmpty a.domain a.token = .empty := by
    rw [contractOrEmpty, htokens]
    rfl
  refine ⟨fun _ => ?_, fun router _ => ?_, fun router _ past hpast => ?_⟩
  · rw [holding, balance, hnone]
    rfl
  · rw [limit, allowed, hnone]
    rfl
  · rw [List.prefix_nil.1 hpast]
    exact Nat.le_refl 0

/-- The transaction that an entry tells of. -/
def Entry.submission? : Entry → Option Submission
  | .handedIn submission => some submission
  | _ => none

/-- What a change enters as handed in is what is recorded of it. -/
theorem submissions_entries (L : Ledger) (change : Change) :
    (L.entries change).filterMap Entry.submission? = (L.records (.occurs change)).map Record.submission := by
  have houtside : change.entry?.toList.filterMap Entry.submission? = [] := by cases change <;> rfl
  rw [entries, List.filterMap_append, houtside, List.nil_append, List.filterMap_map]
  exact congrFun List.filterMap_eq_map _

/-- The transactions in the book of changes are those in their journal. -/
theorem submissions_book (L : Ledger) (changes : List Change) :
    (L.book changes).filterMap Entry.submission? = (L.journal (changes.map .occurs)).map Record.submission := by
  induction changes generalizing L with
  | nil => rfl
  | cons change rest ih =>
    rw [book, List.filterMap_append, submissions_entries, ih, List.map_cons, journal, List.map_append]
    rfl

/-- Only transactions send anything. -/
theorem sent_eq_submissions (a : Account) (book : List Entry) :
    a.sent book = a.sent ((book.filterMap Entry.submission?).map .handedIn) := by
  induction book with
  | nil => rfl
  | cons e rest ih =>
    have hsplit : a.sent (e :: rest) = a.sentIn e + a.sent rest := a.sent_append [e] rest
    rw [hsplit, ih]
    cases e with
    | handedIn submission => exact (a.sent_append [.handedIn submission] _).symm
    | minted b amount => exact Nat.zero_add _
    | limited b spender amount => exact Nat.zero_add _

/-- Only what happens from outside adds anything. -/
theorem minted_book (a : Account) (L : Ledger) (changes : List Change) :
    a.minted (L.book changes) = a.minted (changes.filterMap Change.entry?) := by
  induction changes generalizing L with
  | nil => rfl
  | cons change rest ih =>
    have hhanded : ∀ records : List Record, a.minted (records.map fun r => .handedIn r.submission) = 0 := by
      intro records
      induction records with
      | nil => rfl
      | cons r rest ih => exact (a.minted_append [.handedIn r.submission] _).trans (ih.symm ▸ rfl)
    have houtside : (change :: rest).filterMap Change.entry? =
        change.entry?.toList ++ rest.filterMap Change.entry? := by
      rw [List.filterMap_cons]
      cases change.entry? <;> rfl
    rw [book, entries, a.minted_append, a.minted_append, hhanded, ih, houtside, a.minted_append]
    rfl

/-! ### What is foreign to an account -/

/-- The domain that a change is on. -/
def Change.domain : Change → DomainId
  | .deployToken domain _ | .deployNativeToken domain _ | .deployRepresentation domain _ _ | .mint domain _ _ _
  | .fundNative domain _ _ | .setAllowance domain _ _ _ _ | .setFailing domain _ | .setReverting domain _
  | .setStatus domain _ _ _ | .approve domain _ _ _ _ | .send domain _ _ _ _ _ | .sendNative domain _ _ _ _ =>
    domain

/-- The address of the token that a change is about, if it is about one. -/
def Change.token? : Change → Option Address
  | .deployToken _ token | .deployNativeToken _ token | .deployRepresentation _ _ token | .mint _ token _ _
  | .setAllowance _ token _ _ _ | .approve _ token _ _ _ | .send _ _ token _ _ _ => some token
  | .fundNative .. | .setFailing .. | .setReverting .. | .setStatus .. | .sendNative .. => none

/-- Who signs a change, if it is a transaction. -/
def Change.signer? : Change → Option Address
  | .approve _ _ signer _ _ | .send _ signer _ _ _ _ | .sendNative _ signer _ _ _ => some signer
  | _ => none

/-- A change is foreign to an account if it is on another domain, or not about the token, or somebody else signs it. -/
def Change.Foreign (a : Account) (change : Change) : Prop :=
  change.domain ≠ a.domain ∨ change.token? ≠ some a.token ∨
    ∃ signer, change.signer? = some signer ∧ signer ≠ a.owner

/-- What is foreign to an account is done to another one. -/
theorem Change.Foreign.ne {a b : Account} (h : change.Foreign a) (hdomain : change.domain = b.domain)
    (htoken : change.token? = some b.token) (hsigner : ∀ signer, change.signer? = some signer → signer = b.owner) :
    b ≠ a := by
  rintro rfl
  rcases h with h | h | ⟨signer, hs, hne⟩
  · exact h hdomain
  · exact h htoken
  · exact hne (hsigner signer hs)

/-- What is foreign to an account leaves it alone. -/
theorem Enters.foreign (h : Enters L change L' E) {a : Account} (hforeign : change.Foreign a) :
    L'.holding a = L.holding a ∧ ∀ spender, L'.limit a spender = L.limit a spender := by
  cases h with
  | nothing h => exact ⟨h.holding a, h.limit a⟩
  | minted b amount =>
    have hne := hforeign.ne rfl rfl fun signer hs => by cases hs
    exact ⟨(L.holding_mint a b amount).trans (if_neg hne), fun spender => L.limit_mint a b spender amount⟩
  | limited b s amount =>
    have hne := hforeign.ne rfl rfl fun signer hs => by cases hs
    refine ⟨L.holding_setAllowance a b s amount, fun spender => ?_⟩
    exact (L.limit_setAllowance a b s spender amount).trans (if_neg fun hkey => hne hkey.1)
  | approved b s amount transaction h =>
    have hne := hforeign.ne rfl rfl fun signer hs => (Option.some.inj hs).symm
    refine ⟨(h.holding a).trans (L.holding_setAllowance a b s amount), fun spender => (h.limit a spender).trans ?_⟩
    exact (L.limit_setAllowance a b s spender amount).trans (if_neg fun hkey => hne hkey.1)
  | sent b router amount destination recipient transaction hrouter hlimit hholding h =>
    have hne := hforeign.ne rfl rfl fun signer hs => (Option.some.inj hs).symm
    refine ⟨(h.holding a).trans ((L.holding_take a b router amount).trans (if_neg hne)), fun spender => ?_⟩
    refine (h.limit a spender).trans ?_
    exact (L.limit_take a b router spender amount).trans (if_neg fun hkey => hne hkey.1)
  | sentNative domain transaction sender value destination h => exact ⟨h.holding a, h.limit a⟩

/-- **Accounts can be reckoned up**: after any run of a ledger that started with the contracts of a configuration,
the book has just the transactions that were handed in, and every account agrees with it. If no more was added to
the account than a quantity can hold, its owner has sent no more than that, and what is on it is the difference.
What the router of the domain may take from it is what was last set less what was sent since, which at no point
was more than what was set. And neither number is changed by what is on another domain, by what is not about the
token, or by a transaction of anybody else. -/
theorem account_after (c : Config) (changes : List Change) (a : Account) :
    let L := (ofConfig c).applyAll changes
    let book := (ofConfig c).book changes
    book.filterMap Entry.submission? = L.submitted ∧
      (a.minted (changes.filterMap Change.entry?) < 2 ^ 256 →
        a.sent (L.submitted.map .handedIn) ≤ a.minted (changes.filterMap Change.entry?) ∧
          (L.balance a.domain a.token a.owner).toNat =
            a.minted (changes.filterMap Change.entry?) - a.sent (L.submitted.map .handedIn)) ∧
      (∀ router, L.routerAddress? a.domain = some router →
        (∀ past, past <+: book → a.sentSince router past ≤ a.lastSet router past) ∧
          (L.allowed a.domain a.token a.owner router).toNat = a.lastSet router book - a.sentSince router book) ∧
      ∀ change : Change, change.Foreign a →
        (L.apply change).balance a.domain a.token a.owner = L.balance a.domain a.token a.owner ∧
          ∀ spender, (L.apply change).allowed a.domain a.token a.owner spender =
            L.allowed a.domain a.token a.owner spender := by
  intro L book
  have hhoused : L.Housed := (housed_ofConfig c).applyAll changes
  have hreconciled : Reconciled a L book := (reconciled_ofConfig c a).applyAll (housed_ofConfig c) changes
  have hsubmitted : book.filterMap Entry.submission? = L.submitted := by
    rw [submissions_book, ← List.nil_append (List.map _ _), ← (fresh_ofConfig c).submitted, ← submitted_moved,
      moved_occurs]
  have hminted : a.minted book = a.minted (changes.filterMap Change.entry?) := minted_book a (ofConfig c) changes
  have hsent : a.sent book = a.sent (L.submitted.map .handedIn) := by
    rw [← hsubmitted]
    exact sent_eq_submissions a book
  refine ⟨hsubmitted, fun hroom => ?_, fun router hrouter => ?_, fun change hforeign => ?_⟩
  · have htotal := hreconciled.holding (hminted ▸ hroom)
    rw [hminted, hsent] at htotal
    exact ⟨Nat.le.intro htotal, (Nat.sub_eq_of_eq_add' htotal.symm).symm⟩
  · have htotal := hreconciled.limit router hrouter
    exact ⟨hreconciled.past router hrouter, (Nat.sub_eq_of_eq_add' htotal.symm).symm⟩
  · exact (hhoused.enters change).foreign hforeign

/-- An owner gets 100 of a token, lets the router take 70 and sends 60; then the router may take 30, of which 25 are
sent, and another 25 are refused. -/
def reckonedChanges : List Change :=
  [.deployToken 1 (.ofNat 0x3001), .mint 1 (.ofNat 0x3001) (.ofNat 0xa) (.ofNat 100),
    .approve 1 (.ofNat 0x3001) (.ofNat 0xa) (.ofNat 0x1100) (.ofNat 70),
    .send 1 (.ofNat 0xa) (.ofNat 0x3001) (.ofNat 60) 2 (Address.ofNat 0xb).widen,
    .setAllowance 1 (.ofNat 0x3001) (.ofNat 0xa) (.ofNat 0x1100) (.ofNat 30),
    .send 1 (.ofNat 0xa) (.ofNat 0x3001) (.ofNat 25) 2 (Address.ofNat 0xb).widen,
    .send 1 (.ofNat 0xa) (.ofNat 0x3001) (.ofNat 25) 2 (Address.ofNat 0xb).widen]

/-- After these changes 15 are left, of which the router may take 5; and an approval by somebody else is foreign. -/
theorem account_after_reckoned :
    let L := (ofConfig .testing).applyAll reckonedChanges
    let other : Change := .approve 1 (.ofNat 0x3001) (.ofNat 0xc) (.ofNat 0x1100) (.ofNat 70)
    (L.balance 1 (.ofNat 0x3001) (.ofNat 0xa)).toNat = 15 ∧
      (L.allowed 1 (.ofNat 0x3001) (.ofNat 0xa) (.ofNat 0x1100)).toNat = 5 ∧
      (L.apply other).balance 1 (.ofNat 0x3001) (.ofNat 0xa) = L.balance 1 (.ofNat 0x3001) (.ofNat 0xa) := by
  intro L other
  obtain ⟨-, hbalance, hallowed, hforeign⟩ :=
    account_after .testing reckonedChanges ⟨1, .ofNat 0x3001, .ofNat 0xa⟩
  refine ⟨?_, ?_, ?_⟩
  · exact (hbalance (by decide +kernel)).2.trans (by decide +kernel)
  · exact (hallowed (.ofNat 0x1100) (by decide +kernel)).2.trans (by decide +kernel)
  · exact (hforeign other (.inr (.inr ⟨.ofNat 0xc, rfl, by decide +kernel⟩))).1

end Ledger

end TokenBridge
