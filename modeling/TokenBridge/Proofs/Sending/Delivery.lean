import Mathlib.Data.Set.Operations
import TokenBridge.Proofs.Client.Contracts
import TokenBridge.Proofs.Sending.Total
import TokenBridge.Proofs.Session.Announced
import TokenBridge.Proofs.Session.Statuses

/-!
# Tracking a transfer

A client tells the status of a transfer by asking, on the domain that it goes to, the replica of the home that it comes
from. The answer only depends on what is recorded under these two domains and the leaf, in this order
(`Sound.messageStatus_congr`), so it is the status that was recorded last.

As long as no nonce wraps around and the hash does not collide on the messages of a run, these keys are different for
different messages of the run (`leaf_ne_of_places`). So nothing that is recorded of another transfer changes, in any
state of the run, what is told of a transfer that the run gives back (`tracked_of_answer`).
-/

namespace TokenBridge

/-- The status of a leaf depends on what is recorded under its key and on whether the domain works. -/
theorem Ledger.messageStatus_congr {L L' : Ledger} {domain remote : DomainId} {leaf : Word}
    (hfailing : L'.failing = L.failing)
    (hstatus : L'.statuses.get? (domain, remote, leaf) = L.statuses.get? (domain, remote, leaf)) :
    L'.messageStatus domain remote leaf = L.messageStatus domain remote leaf := by
  rw [messageStatus, messageStatus, checkReachable, checkReachable, Table.getD, Table.getD, hfailing, hstatus]

namespace Client

/-- What a client tells of a transfer: its status, and whether it is delivered. -/
def tracking (c : Client) (L : Ledger) (t : Transfer) : Except BridgeError Status × Except BridgeError Bool :=
  (c.messageStatus L t, c.delivered L t)

theorem tracking_of_status {c : Client} {L : Ledger} {t : Transfer} {status : Status}
    (h : c.messageStatus L t = .ok status) :
    c.tracking L t = (.ok status, .ok (decide (status = .processed))) := by
  rw [tracking, delivered, h]
  rfl

theorem tracking_of_error {c : Client} {L : Ledger} {t : Transfer} {e : BridgeError}
    (h : c.messageStatus L t = .error e) : c.tracking L t = (.error e, .error e) := by
  rw [tracking, delivered, h]
  rfl

theorem tracking_congr {c : Client} {L L' : Ledger} {t : Transfer}
    (h : c.messageStatus L' t = c.messageStatus L t) : c.tracking L' t = c.tracking L t := by
  rw [tracking, tracking, delivered, delivered, h]

section Sound

variable {c : Client} {L L' : Ledger} {t : Transfer}

/-- Where there is no replica, it is told that it is missing. -/
theorem messageStatus_of_missing (L : Ledger)
    (h : (c.directory.cores.get? t.destination).bind (·.replicas.get? t.origin) = none) :
    c.messageStatus L t = .error (.missingReplica t.origin t.destination) := by
  rw [messageStatus, replica_id_eq, h]
  rfl

/-- Where there is a bound replica on a domain that works, it tells what is recorded for the transfer. -/
theorem Sound.messageStatus_of_core (hc : c.Sound) {core : Core} {replica : ReplicaHandle}
    (hcore : c.directory.cores.get? t.destination = some core) (hreplica : core.replicas.get? t.origin = some replica)
    (hbound : core.connection.isSome) (hreach : t.destination ∉ L.failing) :
    c.messageStatus L t = .ok (L.statuses.getD (t.destination, t.origin, t.leaf) .unknown) := by
  obtain ⟨hdomain, hremote, hconnection⟩ := hc.replica_of_core hcore hreplica
  have hconnected := Handle.checkConnected_eq_ok_iff (u := ()).2 (hconnection ▸ hbound)
  rw [messageStatus, replica_id_eq, hcore, Option.bind_some, hreplica, Outcome.ok_bind, ReplicaHandle.messageStatus,
    hconnected, hdomain, hremote, Outcome.ok_bind, Ledger.messageStatus,
    Ledger.checkReachable_eq_ok_iff (u := ()).2 hreach]
  rfl

/-- What is told of a transfer depends on what is recorded under the domain that it goes to, the domain that it comes
from and its leaf, and on which domains work. -/
theorem Sound.messageStatus_congr (hc : c.Sound) (hfailing : L'.failing = L.failing)
    (hstatus : L'.statuses.get? (t.destination, t.origin, t.leaf) =
      L.statuses.get? (t.destination, t.origin, t.leaf)) :
    c.messageStatus L' t = c.messageStatus L t := by
  rw [messageStatus, messageStatus, replica_id_eq]
  cases hcore : c.directory.cores.get? t.destination with
  | none => rfl
  | some core =>
    rw [Option.bind_some]
    cases hreplica : core.replicas.get? t.origin with
    | none => rfl
    | some replica =>
      obtain ⟨hdomain, hremote, -⟩ := hc.replica_of_core hcore hreplica
      rw [Outcome.ok_bind, Outcome.ok_bind, ReplicaHandle.messageStatus, ReplicaHandle.messageStatus, hdomain,
        hremote, Ledger.messageStatus_congr hfailing hstatus]

/-- What is recorded under another key does not change what is told of a transfer. -/
theorem Sound.tracking_setStatus (hc : c.Sound) (L : Ledger) {domain remote : DomainId} {leaf : Word}
    (hne : (domain, remote, leaf) ≠ (t.destination, t.origin, t.leaf)) (status : Status) :
    c.tracking (L.setStatus domain remote leaf status) t = c.tracking L t :=
  tracking_congr (hc.messageStatus_congr rfl (Table.get?_insert_of_ne _ _ hne))

end Sound

end Client

namespace Session

/-- Messages at different places of a run have different leaves, as long as no nonce wraps around and the hash does
not collide on the messages of the run. -/
theorem leaf_ne_of_places {c : Config} {steps : List Step}
    (hpairs : ∀ origin destination,
      (after (.ofConfig c) steps).ledger.submitted.countP (·.sendsTo origin destination) < 2 ^ 32)
    (hcollide : Set.InjOn Keccak.hash
      {bytes | ∃ m ∈ (start (.ofConfig c)).announced steps, bytes = m.encode})
    {i j : Nat} {m m' : Message} (hm : ((start (.ofConfig c)).announced steps)[i]? = some m)
    (hm' : ((start (.ofConfig c)).announced steps)[j]? = some m') (hne : j ≠ i) :
    Message.leaf m'.encode ≠ Message.leaf m.encode := by
  intro hleaf
  have hencode := hcollide ⟨m', List.mem_of_getElem? hm', rfl⟩ ⟨m, List.mem_of_getElem? hm, rfl⟩ hleaf
  cases Message.encode_injective hencode
  have hnodup := List.Nodup.of_map Message.key (nodup_announced c steps hpairs)
  have hlt := (List.getElem?_eq_some_iff.1 hm').1
  exact hne ((List.getElem?_inj hlt hnodup).1 (hm'.trans hm.symm))

/-- What the client `c` tells after `k` steps of a run of the transfer `t`, which step `i` of the run gave back. -/
structure Tracked (cfg : Config) (steps : List Step) (i k : Nat) (t : Transfer) (c : Client) : Prop where
  /-- If the domain that it goes to has a replica of the one that it comes from, is bound and works, then it tells the
  status that was recorded last for that domain pair and the leaf, or that none is known; the transfer is delivered if
  that status is `processed`. -/
  status : ∀ core, c.core (.id t.destination) = .ok core → core.replicas.contains t.origin →
    core.connection.isSome → t.destination ∉ (after (.ofConfig cfg) (steps.take k)).ledger.failing →
    ∃ status, status = (lastRecorded (t.destination, t.origin, t.leaf)
        ((start (.ofConfig cfg)).recordings (steps.take k))).getD .unknown ∧
      c.tracking (after (.ofConfig cfg) (steps.take k)).ledger t = (.ok status, .ok (decide (status = .processed)))
  /-- If it has no such replica, then it tells that the replica is missing. -/
  missing : (∀ core, c.core (.id t.destination) = .ok core → ¬ core.replicas.contains t.origin) →
    c.tracking (after (.ofConfig cfg) (steps.take k)).ledger t =
      (.error (.missingReplica t.origin t.destination), .error (.missingReplica t.origin t.destination))
  /-- The leaf is that of the message, which has its place among the messages of the run after those of the steps
  before. -/
  own : t.leaf = Message.leaf t.message.encode ∧
    ((start (.ofConfig cfg)).announced steps)[((start (.ofConfig cfg)).announced (steps.take i)).length]? =
      some t.message
  /-- The status of a message that the run announces at another place may be recorded. -/
  message : ∀ j m status, ((start (.ofConfig cfg)).announced steps)[j]? = some m →
    j ≠ ((start (.ofConfig cfg)).announced (steps.take i)).length →
    c.tracking ((after (.ofConfig cfg) (steps.take k)).ledger.setStatus m.destination m.origin
      (Message.leaf m.encode) status) t = c.tracking (after (.ofConfig cfg) (steps.take k)).ledger t
  /-- The status of a transfer that another step gives back may be recorded. -/
  transfer : ∀ j t' status, ((start (.ofConfig cfg)).run steps).1[j]? = some (.transfer t') → j ≠ i →
    c.tracking ((after (.ofConfig cfg) (steps.take k)).ledger.setStatus t'.destination t'.origin t'.leaf status) t =
      c.tracking (after (.ofConfig cfg) (steps.take k)).ledger t
  /-- A status of the leaf may be recorded for the domains the other way around. -/
  swapped : ∀ status,
    c.tracking ((after (.ofConfig cfg) (steps.take k)).ledger.setStatus t.origin t.destination t.leaf status) t =
      c.tracking (after (.ofConfig cfg) (steps.take k)).ledger t

/-- **Tracking never confuses transfers.** In a run with fewer than `2 ^ 32` transfers from one domain to another, and
with a hash that does not collide on the messages of the run, the client of every state tells of a transfer that the
run gives back what was recorded last for it, and nothing that is recorded of another transfer changes that. -/
theorem tracked_of_answer {cfg : Config} {steps : List Step} {i k : Nat} {t : Transfer} {c : Client}
    (ht : ((start (.ofConfig cfg)).run steps).1[i]? = some (.transfer t))
    (hclient : (after (.ofConfig cfg) (steps.take k)).client? = some c)
    (hpairs : ∀ origin destination,
      (after (.ofConfig cfg) steps).ledger.submitted.countP (·.sendsTo origin destination) < 2 ^ 32)
    (hcollide : Set.InjOn Keccak.hash
      {bytes | ∃ m ∈ (start (.ofConfig cfg)).announced steps, bytes = m.encode}) :
    Tracked cfg steps i k t c := by
  have hc := sound_after hclient
  have hplace := getElem?_announced ht
  obtain ⟨hleaf, hforeign⟩ := leaf_of_answer ht
  have hmessage : ∀ j m status, ((start (.ofConfig cfg)).announced steps)[j]? = some m →
      j ≠ ((start (.ofConfig cfg)).announced (steps.take i)).length →
      c.tracking ((after (.ofConfig cfg) (steps.take k)).ledger.setStatus m.destination m.origin
        (Message.leaf m.encode) status) t = c.tracking (after (.ofConfig cfg) (steps.take k)).ledger t := by
    intro j m status hm hne
    refine hc.tracking_setStatus _ (fun hkey => ?_) status
    rw [hleaf] at hkey
    exact leaf_ne_of_places hpairs hcollide hplace hm hne (congrArg (fun key => key.2.2) hkey)
  refine ⟨fun core hcore hreplica hbound hreach => ?_, fun hmissing => ?_, ⟨hleaf, hplace⟩, hmessage,
    fun j t' status ht' hne => ?_, fun status => ?_⟩
  · obtain ⟨replica, hreplica⟩ := Option.isSome_iff_exists.1 hreplica
    refine ⟨_, rfl, Client.tracking_of_status ?_⟩
    rw [hc.messageStatus_of_core (Client.core_id_eq_ok_iff.1 hcore) hreplica hbound hreach, Table.getD,
      statuses_after]
  · refine Client.tracking_of_error (Client.messageStatus_of_missing _ ?_)
    rw [Option.bind_eq_none_iff]
    intro core hcore
    exact Option.not_isSome_iff_eq_none.1 (hmissing core (Client.core_id_eq_ok_iff.2 hcore))
  · rw [(leaf_of_answer ht').1]
    exact hmessage _ t'.message status (getElem?_announced ht') (length_announced_ne ht ht' hne)
  · exact hc.tracking_setStatus _ (fun hkey => hforeign (congrArg Prod.fst hkey)) status

/-! ### A tracked transfer -/

/-- The account of the small session sends 60 of its token, then the other domain is bound, and the transfer is
processed there. -/
def trackingSteps : List Step :=
  testingSteps .plain 0 ++
    [.client (.send testingRequest (some "t")), .client (.registerProvider (.id 2) "p"),
      .ledger (.setStatus 2 1 .processed (.transfer "t"))]

/-- The client of that session. -/
def trackingClient : Client :=
  ⟨(testing .plain 0).registry.registerProvider 2 ⟨0, "http://alpha", .plain, 0⟩, .boundTo .testing fun domain =>
    if domain = 2 then some ⟨⟨0, "http://alpha", .plain, 0⟩, none⟩
    else if domain = 1 then some ⟨⟨0, "http://alpha", .plain, 0⟩, some ⟨1, .ofNat 0xa⟩⟩ else none⟩

/-- The small session after it gave a transfer back and kept it. -/
def sentSession (t : Transfer) (n : Network) : Session :=
  { testing .plain 0 with network := n, transfers := (testing .plain 0).transfers.insert "t" t }

/-- The request of the small session is fulfilled by an approval and a transfer, and no domain fails then. -/
theorem send_testing : ∃ t n, ((testingClient .plain 0).send testingRequest).on (testing .plain 0).network =
      (.ok t, n) ∧ t.origin = 1 ∧ t.destination = 2 ∧ n.ledger.submitted.length = 2 ∧ n.ledger.failing = [] := by
  have hc := sound_after (client?_testing .plain 0)
  have hn := coherent_after hc.valid (testingSteps .plain 0)
  obtain ⟨d, b, home, message, t, n, hd, hb, -, ht, horigin, hdestination, -, hon, -, hledger⟩ :=
    Client.send_on_of_sendable hc hn Client.sendable_testing fun _ _ => conduct_of_testingClient
  cases hd
  cases hb
  have happroved : ((testing .plain 0).ledger.readied 1 (.ofNat 0x3001) (.ofNat 0xa) (.ofNat 0x1100)
      testingRequest.amount).submitted.length = 1 := by decide +kernel
  refine ⟨t, n, hon, ?_, ?_, ?_, ?_⟩
  · rw [ht]
    exact horigin
  · rw [ht]
    exact hdestination
  · rw [hledger]
    exact (List.length_append ..).trans (congrArg (· + 1) happroved)
  · rw [hledger]
    rfl

section Tracking

variable {t : Transfer} {n : Network}

/-- The step that sends. The session before it is written as the run writes it. -/
theorem step_sending
    (hon : ((testingClient .plain 0).send testingRequest).on (testing .plain 0).network = (.ok t, n)) :
    ((start (.ofConfig .testing)).run (testingSteps .plain 0)).2.step
      (.client (.send testingRequest (some "t"))) = (.transfer t, sentSession t n) := by
  show (testing .plain 0).step _ = _
  rw [step, client?_testing]
  show (testing .plain 0).sendStep ((testingClient .plain 0).send testingRequest) (some "t") = _
  rw [sendStep, hon]
  rfl

variable (hstep : ((start (.ofConfig .testing)).run (testingSteps .plain 0)).2.step
  (.client (.send testingRequest (some "t"))) = (.transfer t, sentSession t n))

include hstep

theorem run_trackingSteps : (start (.ofConfig .testing)).run trackingSteps =
    (((start (.ofConfig .testing)).run (testingSteps .plain 0)).1 ++ [.transfer t, .none, .none],
      ((sentSession t n).withClient trackingClient).withLedger
        (n.ledger.setStatus 2 1 t.leaf .processed)) := by
  rw [trackingSteps, run_append, run, hstep]
  rfl

theorem announced_trackingSteps : (start (.ofConfig .testing)).announced trackingSteps = [t.message] := by
  have hnothing : n.ledger.announcedSince n.ledger = [] := Ledger.announcedSince_of_submitted rfl
  have hrecorded : n.ledger.announcedSince (n.ledger.setStatus 2 1 t.leaf .processed) = [] :=
    Ledger.announcedSince_of_submitted rfl
  rw [trackingSteps, announced_of_transfer (congrArg Prod.fst hstep), hstep]
  show [] ++ t.message :: (n.ledger.announcedSince n.ledger ++
    (n.ledger.announcedSince (n.ledger.setStatus 2 1 t.leaf .processed) ++ [])) = [t.message]
  rw [hnothing, hrecorded]
  rfl

theorem recordings_trackingSteps :
    (start (.ofConfig .testing)).recordings trackingSteps = [((2, 1, t.leaf), .processed)] := by
  rw [trackingSteps, recordings, collect_append, collect, hstep]
  rfl

end Tracking

/-- The transfer is given back by the eighth step, and in the end it is processed and delivered. -/
theorem tracked_of_answer_processed : ∃ t,
    ((start (.ofConfig .testing)).run trackingSteps).1[7]? = some (.transfer t) ∧
      trackingClient.tracking (after (.ofConfig .testing) trackingSteps).ledger t =
        (.ok .processed, .ok true) := by
  obtain ⟨t, n, hon, horigin, hdestination, hsubmitted, hfailing⟩ := send_testing
  have hstep := step_sending hon
  have hrun := run_trackingSteps hstep
  have ht : ((start (.ofConfig .testing)).run trackingSteps).1[7]? = some (.transfer t) := by
    rw [hrun]
    rfl
  have hafter : after (.ofConfig .testing) trackingSteps = ((sentSession t n).withClient
      trackingClient).withLedger (n.ledger.setStatus 2 1 t.leaf .processed) := by
    rw [after, hrun]
  have hclient : (after (.ofConfig .testing) trackingSteps).client? = some trackingClient := by
    rw [hafter]
    rfl
  have hpairs : ∀ origin destination, (after (.ofConfig .testing) trackingSteps).ledger.submitted.countP
      (·.sendsTo origin destination) < 2 ^ 32 := by
    intro origin destination
    rw [hafter]
    show n.ledger.submitted.countP _ < 2 ^ 32
    exact Nat.lt_of_le_of_lt List.countP_le_length (by omega)
  have hcollide : Set.InjOn Keccak.hash
      {bytes | ∃ m ∈ (start (.ofConfig .testing)).announced trackingSteps, bytes = m.encode} := by
    rw [announced_trackingSteps hstep]
    rintro _ ⟨m, hm, rfl⟩ _ ⟨m', hm', rfl⟩ -
    rw [List.mem_singleton.1 hm, List.mem_singleton.1 hm']
  -- The state is that after all ten steps.
  have htracked : Tracked .testing trackingSteps 7 10 t trackingClient :=
    tracked_of_answer ht hclient hpairs hcollide
  have hcore : trackingClient.core (.id t.destination) =
      .ok (.ofConfig Config.testing.domains[1] (some ⟨⟨0, "http://alpha", .plain, 0⟩, none⟩)) := by
    rw [hdestination]
    rfl
  have hreach : t.destination ∉ (after (.ofConfig .testing) trackingSteps).ledger.failing := by
    rw [hafter]
    show t.destination ∉ n.ledger.failing
    rw [hfailing]
    exact List.not_mem_nil
  have hlast : lastRecorded (t.destination, t.origin, t.leaf) [((2, 1, t.leaf), .processed)] =
      some .processed := by
    rw [hdestination, horigin]
    simp [lastRecorded]
  have hall : trackingSteps.take 10 = trackingSteps := rfl
  obtain ⟨status, hvalue, hstatus⟩ := htracked.status _ hcore (by rw [horigin]; rfl) rfl hreach
  rw [hall, recordings_trackingSteps hstep, hlast] at hvalue
  rw [hvalue] at hstatus
  exact ⟨t, ht, hstatus⟩

end Session

end TokenBridge
