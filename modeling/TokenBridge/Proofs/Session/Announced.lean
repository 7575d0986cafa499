import TokenBridge.Proofs.Sending.Announcing
import TokenBridge.Proofs.Session.Reachable

/-!
# Announced messages

The messages of a run are those that its steps announced, one after the other (`announced`). What a run does to the
ledger is made up of moves, and it announces what they announce (`leads_run`). So no two messages of a run have origin,
destination and nonce in common, as long as no nonce wraps around (`nodup_announced`).

Only sending gives a transfer back (`step_eq_transfer`), and the message of the transfer has a place of its own among
those of the run: it comes right after those of the steps before (`getElem?_announced`).
-/

namespace TokenBridge.Session

/-! ### Moves of a run -/

/-- The messages that a step announces. -/
def announcedBy (s : Session) (st : Step) : List Message := s.ledger.announcedSince (s.step st).2.ledger

/-- All messages that steps announce, one after the other. -/
def announced (s : Session) (steps : List Step) : List Message := collect announcedBy s steps

/-- **The step**: what a step does to the ledger is made up of moves, and it announces what they announce. -/
theorem leads_step (s : Session) (st : Step) : Ledger.Leads s.ledger (s.step st).2.ledger := by
  have hacts := s.acts_step st
  generalize (s.step st).2.ledger = L at hacts ⊢
  cases hacts with
  | still => exact .refl s.ledger
  | changes change =>
    cases s.changeOf change with
    | none => exact .refl s.ledger
    | some change => exact .move s.ledger (.occurs change)
  | calls _ call => exact .move s.ledger (.calls call)
  | @sends c _ request _ => exact c.leads_send request s.network
  | @sendsNative c _ request _ => exact c.leads_sendNative request s.network

/-- **The run**: so does what steps do one after the other. -/
theorem leads_run (s : Session) (steps : List Step) :
    ∃ moves, (s.run steps).2.ledger = s.ledger.moved moves ∧
      s.announced steps = (s.ledger.journal moves).flatMap Ledger.Record.messages := by
  induction steps generalizing s with
  | nil => exact ⟨[], rfl, rfl⟩
  | cons st rest ih =>
    obtain ⟨first, hfirst, hannounced⟩ := s.leads_step st
    obtain ⟨moves, hmoves, hrest⟩ := ih (s.step st).2
    refine ⟨first ++ moves, ?_, ?_⟩
    · rw [Ledger.moved_append, ← hfirst]
      exact hmoves
    · rw [announced, collect, announcedBy, hannounced, Ledger.journal_append, List.flatMap_append, ← hfirst,
        ← hrest]
      rfl

/-! ### Transfers that are given back -/

theorem registryStep_ne_transfer (s : Session) (st : RegistryStep) (t : Transfer) :
    (s.registryStep st).1 ≠ .transfer t := by
  intro h
  cases st <;> simp only [registryStep, Answer.ofResult, Answer.ofOption] at h <;>
    (repeat' split at h) <;> cases h

theorem ledgerStep_ne_transfer (s : Session) (st : LedgerStep) (t : Transfer) :
    (s.ledgerStep st).1 ≠ .transfer t := by
  intro h
  cases st with
  | setStatus domain remote status source =>
    cases source with
    | leaf leaf => cases h
    | transfer name =>
      rw [ledgerStep] at h
      split at h <;> cases h
  | _ => cases h

theorem handleCall_ne_transfer (s : Session) (handle : Handle) (call : HandleCall) (t : Transfer) :
    (s.handleCall handle call).1 ≠ .transfer t := by
  intro h
  cases call <;> simp only [handleCall, submitStep, Answer.ofChainResult] at h <;>
    (repeat' split at h) <;> cases h

theorem handleStep_ne_transfer (s : Session) (domain : DomainId) (address : Address)
    (connection : Option ConnectionName) (call : HandleCall) (t : Transfer) :
    (s.handleStep domain address connection call).1 ≠ .transfer t := by
  intro h
  unfold handleStep at h
  split at h
  · exact s.handleCall_ne_transfer _ call t h
  · split at h
    · exact s.handleCall_ne_transfer _ call t h
    · cases h

theorem changeStep_ne_transfer (s : Session) (result : Except BridgeError Client) (t : Transfer) :
    (s.changeStep result).1 ≠ .transfer t := by
  intro h
  cases result <;> cases h

/-- A sending gives the transfer back that it ends with. -/
theorem sendStep_eq_transfer {s : Session} {action : Action Transfer} {keep : Option String} {t : Transfer}
    (h : (s.sendStep action keep).1 = .transfer t) :
    action.on s.network = (.ok t, (s.sendStep action keep).2.network) := by
  rw [sendStep] at h ⊢
  rcases haction : action.on s.network with ⟨e | t', n⟩
  · rw [haction] at h
    cases h
  · rw [haction] at h
    cases h
    rfl

theorem transferStep_ne_transfer (s : Session) (name : String) {f : Transfer → Answer} {t : Transfer}
    (hf : ∀ t', f t' ≠ .transfer t) : (s.transferStep name f).1 ≠ .transfer t := by
  intro h
  rw [transferStep] at h
  split at h
  · exact hf _ h
  · cases h

theorem clientStep_eq_transfer {s : Session} {c : Client} {st : ClientStep} {t : Transfer}
    (h : (s.clientStep c st).1 = .transfer t) :
    (∃ request, (c.send request).on s.network = (.ok t, (s.clientStep c st).2.network)) ∨
      ∃ request, (c.sendNative request).on s.network = (.ok t, (s.clientStep c st).2.network) := by
  cases st with
  | send request keep => exact .inl ⟨request, sendStep_eq_transfer h⟩
  | sendNative request keep => exact .inr ⟨request, sendStep_eq_transfer h⟩
  | registerProvider ref name =>
    rw [clientStep] at h
    split at h
    · exact absurd h (s.changeStep_ne_transfer _ t)
    · cases h
  | registerSigner ref name =>
    rw [clientStep] at h
    split at h
    · exact absurd h (s.changeStep_ne_transfer _ t)
    · cases h
  | unregisterSigner ref => exact absurd h (s.changeStep_ne_transfer _ t)
  | rebind ref => exact absurd h (s.changeStep_ne_transfer _ t)
  | messageStatus name =>
    refine absurd h (s.transferStep_ne_transfer name fun t' => ?_)
    cases c.messageStatus s.ledger t' <;> simp [Answer.ofResult]
  | delivered name =>
    refine absurd h (s.transferStep_ne_transfer name fun t' => ?_)
    cases c.delivered s.ledger t' <;> simp [Answer.ofResult]
  | document name => exact absurd h (s.transferStep_ne_transfer name fun _ => by simp)
  | _ =>
    simp only [clientStep, Answer.ofResult, Answer.ofChainResult, Answer.ofOption] at h
    (repeat' split at h) <;> cases h

/-- **Only sending gives a transfer back.** -/
theorem step_eq_transfer {s : Session} {st : Step} {t : Transfer} (h : (s.step st).1 = .transfer t) :
    ∃ c, s.client? = some c ∧
      ((∃ request, (c.send request).on s.network = (.ok t, (s.step st).2.network)) ∨
        ∃ request, (c.sendNative request).on s.network = (.ok t, (s.step st).2.network)) := by
  cases st with
  | provider | signer => cases h
  | waits name =>
    rw [step] at h
    split at h <;> cases h
  | wait name transaction confirmations =>
    rw [step] at h
    split at h
    · dsimp only at h
      split at h
      · next answer _ => cases answer <;> cases h
      · cases h
    · cases h
  | registry st => exact absurd h (s.registryStep_ne_transfer st t)
  | ledger st => exact absurd h (s.ledgerStep_ne_transfer st t)
  | handle domain address connection call =>
    exact absurd h (s.handleStep_ne_transfer domain address connection call t)
  | build config =>
    rw [step, buildStep_eq] at h
    exact absurd h (s.changeStep_ne_transfer _ t)
  | client st =>
    rw [step] at h ⊢
    cases hc : s.client? with
    | none =>
      rw [hc] at h
      cases h
    | some c =>
      rw [hc] at h
      exact ⟨c, rfl, clientStep_eq_transfer h⟩

/-- **A transfer that is given back** is the one that its step announced. -/
theorem sends_of_step {s : Session} {st : Step} {t : Transfer} (h : (s.step st).1 = .transfer t) :
    Client.Sends s.network (s.step st).2.network t := by
  obtain ⟨c, -, ⟨request, hsend⟩ | ⟨request, hsend⟩⟩ := step_eq_transfer h
  · exact Client.sends_of_send hsend
  · exact Client.sends_of_sendNative hsend

theorem announced_append (s : Session) (first rest : List Step) :
    s.announced (first ++ rest) = s.announced first ++ (s.run first).2.announced rest :=
  collect_append announcedBy s first rest

/-! ### Places in a run -/

section Places

variable {s : Session} {steps : List Step} {i j : Nat} {t : Transfer}

/-- A step that gives a transfer back announces its message between those of the steps before and after. -/
theorem announced_of_transfer {first : List Step} {st : Step} (h : ((s.run first).2.step st).1 = .transfer t)
    (rest : List Step) :
    s.announced (first ++ st :: rest) =
      s.announced first ++ t.message :: ((s.run first).2.step st).2.announced rest := by
  have hannounced : (s.run first).2.announcedBy st = [t.message] := (sends_of_step h).announced
  rw [announced_append]
  show _ ++ ((s.run first).2.announcedBy st ++ _) = _
  rw [hannounced]
  rfl

/-- The message of a transfer that is given back comes right after those of the steps before. -/
theorem getElem?_announced (h : (s.run steps).1[i]? = some (.transfer t)) :
    (s.announced steps)[(s.announced (steps.take i)).length]? = some t.message := by
  obtain ⟨first, st, rest, rfl, rfl, hanswer⟩ := exists_step_of_answer h
  rw [List.take_left, announced_of_transfer hanswer, List.getElem?_append_right (Nat.le_refl _), Nat.sub_self]
  rfl

/-- The steps after it announce their messages at later places. -/
theorem length_announced_lt (h : (s.run steps).1[i]? = some (.transfer t)) (hlt : i < j) :
    (s.announced (steps.take i)).length < (s.announced (steps.take j)).length := by
  obtain ⟨first, st, rest, rfl, rfl, hanswer⟩ := exists_step_of_answer h
  obtain ⟨k, rfl⟩ := Nat.exists_eq_add_of_lt hlt
  rw [List.take_left, Nat.add_assoc, List.take_length_add_append, List.take_succ_cons,
    announced_of_transfer hanswer, List.length_append, List.length_cons]
  omega

/-- Transfers that are given back by different steps have their messages at different places. -/
theorem length_announced_ne {t' : Transfer} (h : (s.run steps).1[i]? = some (.transfer t))
    (h' : (s.run steps).1[j]? = some (.transfer t')) (hne : j ≠ i) :
    (s.announced (steps.take j)).length ≠ (s.announced (steps.take i)).length := by
  rcases Nat.lt_or_gt_of_ne hne with hlt | hlt
  · exact Nat.ne_of_lt (length_announced_lt h' hlt)
  · exact Nat.ne_of_gt (length_announced_lt h hlt)

/-- The leaf of a transfer that is given back is that of its message, and the transfer goes to another domain. -/
theorem leaf_of_answer (h : (s.run steps).1[i]? = some (.transfer t)) :
    t.leaf = Message.leaf t.message.encode ∧ t.origin ≠ t.destination := by
  obtain ⟨first, st, rest, -, -, hanswer⟩ := exists_step_of_answer h
  exact ⟨(sends_of_step hanswer).leaf, (sends_of_step hanswer).foreign⟩

end Places

/-- **No two messages of a run** have origin, destination and nonce in common, as long as there are fewer than
`2 ^ 32` transfers from one domain to another. -/
theorem nodup_announced (c : Config) (steps : List Step)
    (hpairs : ∀ origin destination,
      (after (.ofConfig c) steps).ledger.submitted.countP (·.sendsTo origin destination) < 2 ^ 32) :
    (((start (.ofConfig c)).announced steps).map Message.key).Nodup := by
  have hfresh := Ledger.fresh_ofConfig c
  obtain ⟨moves, hmoves, hannounced⟩ := (start (.ofConfig c)).leads_run steps
  have hsubmitted : ((Ledger.ofConfig c).journal moves).map Ledger.Record.submission =
      (after (.ofConfig c) steps).ledger.submitted := by
    rw [after, hmoves]
    show _ = ((Ledger.ofConfig c).moved moves).submitted
    rw [Ledger.submitted_moved, hfresh.submitted, List.nil_append]
  rw [hannounced]
  refine (Ledger.numbered_journal hfresh moves).nodup_keys (Ledger.told_journal _ moves)
    fun origin destination => ?_
  have hpair := hpairs origin destination
  rw [← hsubmitted, List.countP_map] at hpair
  exact hpair

end TokenBridge.Session
