import TokenBridge.Proofs.Session.Reachable

/-!
# Recorded statuses

A domain keeps one status of each leaf that comes from another domain. It is recorded by a step on the ledger, and by
no transaction and no other step (`statuses_step`). So in every reachable session the status of a leaf is the one that
was recorded last under the domain that keeps it, the domain that the leaf comes from, and the leaf
(`statuses_after`).
-/

namespace TokenBridge.Session

/-- The status that a step records, with what it is recorded under. -/
def recordedBy (s : Session) : Step → List ((DomainId × DomainId × Word) × Status)
  | .ledger change => ((s.changeOf change).bind Ledger.Change.recorded?).toList
  | _ => []

/-- All statuses that steps record, one after the other. -/
def recordings (s : Session) (steps : List Step) : List ((DomainId × DomainId × Word) × Status) :=
  collect recordedBy s steps

/-- The status that was recorded last under a key, if there is one. -/
def lastRecorded (key : DomainId × DomainId × Word) (records : List ((DomainId × DomainId × Word) × Status)) :
    Option Status :=
  (records.filter (·.1 = key)).getLast?.map Prod.snd

theorem lastRecorded_append (key : DomainId × DomainId × Word)
    (first rest : List ((DomainId × DomainId × Word) × Status)) :
    lastRecorded key (first ++ rest) = (lastRecorded key rest).or (lastRecorded key first) := by
  rw [lastRecorded, List.filter_append, List.getLast?_append, Option.map_or]
  rfl

theorem lastRecorded_toList (key : DomainId × DomainId × Word)
    (record : Option ((DomainId × DomainId × Word) × Status)) :
    lastRecorded key record.toList = (record.filter (·.1 = key)).map Prod.snd := by
  cases record with
  | none => rfl
  | some record => by_cases hkey : record.1 = key <;> simp [lastRecorded, Option.filter, hkey]

/-- **The step**: a status is changed by recording one under the same key, and by nothing else. -/
theorem statuses_step (s : Session) (st : Step) (key : DomainId × DomainId × Word) :
    (s.step st).2.ledger.statuses.get? key =
      (lastRecorded key (s.recordedBy st)).or (s.ledger.statuses.get? key) := by
  rcases s.ledger_step st with ⟨change, rfl, heq⟩ | ⟨hother, htransacted⟩
  · rw [heq, recordedBy, lastRecorded_toList]
    cases s.changeOf change with
    | none => rfl
    | some change => exact s.ledger.get?_statuses_apply change key
  · have hnone : s.recordedBy st = [] := by
      cases st with
      | ledger change => exact absurd rfl (hother change)
      | _ => rfl
    rw [htransacted.statuses, hnone]
    rfl

/-- **The run**: a status is the one that was recorded last, or the one from before. -/
theorem statuses_run (s : Session) (steps : List Step) (key : DomainId × DomainId × Word) :
    (s.run steps).2.ledger.statuses.get? key =
      (lastRecorded key (s.recordings steps)).or (s.ledger.statuses.get? key) := by
  induction steps generalizing s with
  | nil => rfl
  | cons st rest ih =>
    rw [recordings, collect, lastRecorded_append, Option.or_assoc, ← statuses_step]
    exact ih (s.step st).2

/-- No status is kept in the beginning. -/
theorem statuses_ofConfig (c : Config) : (Ledger.ofConfig c).statuses = .empty :=
  Ledger.ofConfig_induction (P := fun L => L.statuses = .empty) rfl (fun _ _ h => h) c

/-- **A status is the one that was recorded last**, in every session that started with the ledger of a
configuration. -/
theorem statuses_after (c : Config) (steps : List Step) (key : DomainId × DomainId × Word) :
    (after (.ofConfig c) steps).ledger.statuses.get? key =
      lastRecorded key (recordings (start (.ofConfig c)) steps) := by
  have hstart : (start (.ofConfig c)).ledger.statuses.get? key = none := by
    show (Ledger.ofConfig c).statuses.get? key = none
    rw [statuses_ofConfig]
    rfl
  rw [after, statuses_run, hstart, Option.or_none]

end TokenBridge.Session
