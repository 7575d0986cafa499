import TokenBridge.Proofs.Layout
import TokenBridge.Proofs.Transfer

/-!
# Well-formed receipts

Which receipts tell of a transfer, and of which. The home announced exactly one message there, and everything in
the announcement is laid out from the transfer: the message from its header and its body, the body from the token,
the beneficiary and the amount, the hash and the route from the message. `ofReceipt_exact` says that nothing less
is accepted and nothing more is asked for.

That a receipt is accepted only if it is well-formed needs that what reads back was laid out, for messages, bodies
and routes (`Message.decode_eq_ok_iff`, `TransferAction.decode_eq_ok_iff`, `unpack_eq_iff`), and each of these
makes a part of the transfer unique. What other contracts log, and what else the home logs, is passed over: what is
read depends on the announcements of the home alone (`ofReceipt_congr`).
-/

namespace TokenBridge

/-- A number packs a route exactly where the route is what it unpacks to. -/
theorem Route.unpack_eq_iff {packed : UInt64} {route : Route} : route = unpack packed ↔ packed = route.pack := by
  constructor
  · rintro rfl
    exact (pack_unpack packed).symm
  · rintro rfl
    exact (unpack_pack route).symm

/-- The number behind is another word. -/
theorem Word.ofNat_succ_ne (w : Word) : ofNat (w.toNat + 1) ≠ w := by
  intro h
  have hnumber : (w.toNat + 1) % 2 ^ 256 = w.toNat := congrArg toNat h
  omega

/-! ### Announcements among logs -/

/-- A log in which a contract announces a message. -/
def Log.IsDispatchOf (home : Address) (log : Log) : Prop :=
  log.address = home ∧ ∃ dispatch, log.event = .dispatch dispatch

theorem Log.dispatchOf?_eq_some_iff {home : Address} {log : Log} {dispatch : Dispatch} :
    log.dispatchOf? home = some dispatch ↔ log = ⟨home, .dispatch dispatch⟩ := by
  obtain ⟨address, event⟩ := log
  cases event with
  | dispatch found =>
    by_cases haddress : address = home <;> simp [dispatchOf?, haddress]
  | approval owner spender value => simp [dispatchOf?]
  | other topic => simp [dispatchOf?]

theorem Log.isSome_dispatchOf?_iff {home : Address} {log : Log} :
    (log.dispatchOf? home).isSome ↔ log.IsDispatchOf home := by
  rw [Option.isSome_iff_exists, IsDispatchOf]
  constructor
  · rintro ⟨dispatch, h⟩
    rw [dispatchOf?_eq_some_iff.1 h]
    exact ⟨rfl, dispatch, rfl⟩
  · rintro ⟨haddress, dispatch, hevent⟩
    refine ⟨dispatch, dispatchOf?_eq_some_iff.2 ?_⟩
    rw [← haddress, ← hevent]

instance (home : Address) (log : Log) : Decidable (log.IsDispatchOf home) :=
  decidable_of_iff _ Log.isSome_dispatchOf?_iff

theorem Log.dispatchOf?_eq_none {home : Address} {log : Log} (h : ¬ log.IsDispatchOf home) :
    log.dispatchOf? home = none := by
  rwa [← Option.not_isSome_iff_eq_none, isSome_dispatchOf?_iff]

namespace Receipt

variable {home : Address} {receipt : Receipt} {dispatch : Dispatch}

/-- How many announcements of a contract a receipt has. -/
def dispatchCount (home : Address) (receipt : Receipt) : Nat := receipt.logs.countP (·.IsDispatchOf home)

theorem mem_dispatchesOf_iff :
    dispatch ∈ receipt.dispatchesOf home ↔ ⟨home, .dispatch dispatch⟩ ∈ receipt.logs := by
  simp [dispatchesOf, Log.dispatchOf?_eq_some_iff]

theorem length_dispatchesOf : (receipt.dispatchesOf home).length = receipt.dispatchCount home := by
  rw [dispatchesOf, dispatchCount]
  induction receipt.logs with
  | nil => rfl
  | cons log rest ih =>
    by_cases hlog : log.IsDispatchOf home
    · obtain ⟨found, hfound⟩ := Option.isSome_iff_exists.1 (Log.isSome_dispatchOf?_iff.2 hlog)
      rw [List.filterMap_cons_some hfound, List.length_cons, ih, List.countP_cons_of_pos (by simpa using hlog)]
    · rw [List.filterMap_cons_none (Log.dispatchOf?_eq_none hlog), ih, List.countP_cons_of_neg (by simpa using hlog)]

/-- One announcement is the only one. -/
theorem dispatchesOf_eq_singleton_iff :
    receipt.dispatchesOf home = [dispatch] ↔
      receipt.dispatchCount home = 1 ∧ ⟨home, .dispatch dispatch⟩ ∈ receipt.logs := by
  rw [← length_dispatchesOf, ← mem_dispatchesOf_iff]
  constructor
  · intro h
    rw [h]
    exact ⟨rfl, List.mem_singleton_self dispatch⟩
  · rintro ⟨hlength, hmem⟩
    obtain ⟨found, hfound⟩ := List.length_eq_one_iff.1 hlength
    rw [hfound] at hmem ⊢
    rw [List.mem_singleton.1 hmem]

end Receipt

/-- The same logs, among more of them: none of those that were put in is an announcement of the home. -/
inductive Log.Padded (home : Address) : List Log → List Log → Prop where
  /-- Nothing to begin with. -/
  | nil : Padded home [] []
  /-- The next log is of those that were there. -/
  | keep (log : Log) {logs more : List Log} : Padded home logs more → Padded home (log :: logs) (log :: more)
  /-- The next log was put in. -/
  | insert {log : Log} {logs more : List Log} : ¬ log.IsDispatchOf home → Padded home logs more →
      Padded home logs (log :: more)

theorem Log.Padded.filterMap_eq {home : Address} {logs more : List Log} (h : Padded home logs more) :
    more.filterMap (·.dispatchOf? home) = logs.filterMap (·.dispatchOf? home) := by
  induction h with
  | nil => rfl
  | keep log _ ih => rw [List.filterMap_cons, List.filterMap_cons, ih]
  | insert hlog _ ih => rw [List.filterMap_cons_none (Log.dispatchOf?_eq_none hlog), ih]

namespace Transfer

/-! ### What is accepted -/

/-- A receipt that tells of a transfer in all its parts. -/
structure WellFormed (origin : DomainId) (home : Address) (receipt : Receipt) (t : Transfer) : Prop where
  /-- The home announced one message. -/
  only : receipt.dispatchCount home = 1
  /-- It is that of the transfer. -/
  logged : ⟨home, .dispatch t.dispatch⟩ ∈ receipt.logs
  /-- The announced hash is that of the message. -/
  hash : t.dispatch.messageHash = Keccak.hash t.dispatch.message
  /-- The announced message is that of the transfer. -/
  layout : t.dispatch.message = t.message.encode
  /-- The message comes from the origin. -/
  origin : t.message.origin = origin
  /-- The announced route is that of the message. -/
  route : t.dispatch.packedRoute = Route.pack ⟨t.message.destination, t.message.nonce⟩
  /-- The message carries the transfer. -/
  body : t.message.body = t.action.encode
  /-- The receipt is kept with it. -/
  receipt : t.receipt = receipt

section Reading

variable {origin : DomainId} {home : Address} {receipt : Receipt} {dispatch : Dispatch} {message : Message}
  {t : Transfer}

/-- What is read off the only announcement of a home, once its hash is right and its message reads. -/
theorem ofReceipt_of_decoded (honly : receipt.dispatchesOf home = [dispatch])
    (hhash : dispatch.messageHash = Message.leaf dispatch.message)
    (hdecode : Message.decode dispatch.message = .ok message) :
    ofReceipt origin home receipt =
      if message.origin ≠ origin ∨ message.route ≠ Route.unpack dispatch.packedRoute then
        .error (.inconsistent (.wrongRoute receipt.transaction))
      else ((TransferAction.decode message.body).mapError .invalidMessage).map
        fun action => ⟨dispatch, message, action, receipt⟩ := by
  rw [ofReceipt, onlyDispatch, honly]
  simp only [Outcome.mapError_ok, Outcome.ok_bind]
  rw [if_neg (not_not_intro hhash.symm), hdecode]
  simp only [Outcome.mapError_ok, Outcome.ok_bind]
  split
  · rfl
  · cases TransferAction.decode message.body <;> rfl

/-- **Receipts are accepted for what they tell.** -/
theorem ofReceipt_eq_ok_iff : ofReceipt origin home receipt = .ok t ↔ WellFormed origin home receipt t := by
  constructor
  · intro h
    obtain ⟨honly, hhash, hdecode⟩ := ofReceipt_eq_ok h
    rw [ofReceipt_of_decoded honly hhash hdecode] at h
    split at h
    · cases h
    · next hagrees =>
      obtain ⟨horigin, hroute⟩ := not_or.1 hagrees
      obtain ⟨action, haction, ht⟩ := Outcome.map_eq_ok.1 h
      obtain ⟨hcount, hlogged⟩ := Receipt.dispatchesOf_eq_singleton_iff.1 honly
      have hbody : TransferAction.decode t.message.body = .ok t.action := by
        rw [Outcome.mapError_eq_ok.1 haction, ← ht]
      exact ⟨hcount, hlogged, hhash, (Message.decode_eq_ok_iff.1 hdecode).symm, not_not.1 horigin,
        Route.unpack_eq_iff.1 (not_not.1 hroute), (TransferAction.decode_eq_ok_iff.1 hbody).symm, by rw [← ht]⟩
  · intro h
    have honly : receipt.dispatchesOf home = [t.dispatch] :=
      Receipt.dispatchesOf_eq_singleton_iff.2 ⟨h.only, h.logged⟩
    have hroute : t.message.route = Route.unpack t.dispatch.packedRoute := Route.unpack_eq_iff.2 h.route
    rw [ofReceipt_of_decoded honly h.hash (Message.decode_eq_ok_iff.2 h.layout.symm),
      if_neg (not_or.2 ⟨not_not_intro h.origin, not_not_intro hroute⟩),
      TransferAction.decode_eq_ok_iff.2 h.body.symm, ← h.receipt]
    rfl

/-! ### What does not matter -/

/-- What is read off a receipt depends on its transaction and on the announcements of the home. -/
theorem ofReceipt_congr {other : Receipt} (htransaction : other.transaction = receipt.transaction)
    (hdispatches : other.dispatchesOf home = receipt.dispatchesOf home) :
    ofReceipt origin home other = (ofReceipt origin home receipt).map ({ · with receipt := other }) := by
  have honly : onlyDispatch home other = onlyDispatch home receipt := by
    rw [onlyDispatch, onlyDispatch, hdispatches, htransaction]
  rw [ofReceipt, ofReceipt, honly, htransaction]
  cases onlyDispatch home receipt with
  | error fault => rfl
  | ok dispatch =>
    simp only [Outcome.mapError_ok, Outcome.ok_bind]
    split
    · rfl
    · cases Message.decode dispatch.message with
      | error fault => rfl
      | ok message =>
        simp only [Outcome.mapError_ok, Outcome.ok_bind]
        split
        · rfl
        · cases TransferAction.decode message.body <;> rfl

/-! ### What is refused -/

theorem ofReceipt_of_none (hnone : receipt.dispatchCount home = 0) :
    ofReceipt origin home receipt = .error (.inconsistent (.noDispatch home receipt.transaction)) := by
  rw [← Receipt.length_dispatchesOf, List.length_eq_zero_iff] at hnone
  rw [ofReceipt, onlyDispatch, hnone]
  rfl

theorem ofReceipt_of_several (hseveral : 2 ≤ receipt.dispatchCount home) :
    ofReceipt origin home receipt = .error (.inconsistent (.repeatedDispatch receipt.transaction)) := by
  rw [← Receipt.length_dispatchesOf] at hseveral
  rw [ofReceipt, onlyDispatch]
  rcases hlist : receipt.dispatchesOf home with _ | ⟨first, _ | ⟨second, rest⟩⟩
  · simp [hlist] at hseveral
  · simp [hlist] at hseveral
  · rfl

theorem ofReceipt_of_wrongHash (honly : receipt.dispatchesOf home = [dispatch])
    (hhash : dispatch.messageHash ≠ Message.leaf dispatch.message) :
    ofReceipt origin home receipt = .error (.inconsistent (.wrongHash receipt.transaction)) := by
  rw [ofReceipt, onlyDispatch, honly]
  simp only [Outcome.mapError_ok, Outcome.ok_bind]
  rw [if_pos hhash.symm]
  rfl

theorem ofReceipt_of_wrongRoute (honly : receipt.dispatchesOf home = [dispatch])
    (hhash : dispatch.messageHash = Keccak.hash dispatch.message) (hlayout : dispatch.message = message.encode)
    (hdisagrees : message.origin ≠ origin ∨
      dispatch.packedRoute ≠ Route.pack ⟨message.destination, message.nonce⟩) :
    ofReceipt origin home receipt = .error (.inconsistent (.wrongRoute receipt.transaction)) := by
  rw [ofReceipt_of_decoded honly hhash (Message.decode_eq_ok_iff.2 hlayout.symm)]
  exact if_pos (hdisagrees.imp_right (mt Route.unpack_eq_iff.1))

end Reading

/-- **Exactly the well-formed receipts tell of a transfer**, each of one. Logs that are no announcements of the home
may stand anywhere among the others and change neither the transfer nor the failure. A receipt without announcement
of the home, or with several, is inconsistent, and so is an announcement with the hash of something else, or with a
message whose header is not that of the origin or not that of the announced route. -/
theorem ofReceipt_exact (origin : DomainId) (home : Address) (receipt : Receipt) :
    (∀ t, ofReceipt origin home receipt = .ok t ↔ WellFormed origin home receipt t) ∧
    (∀ t t', WellFormed origin home receipt t → WellFormed origin home receipt t' → t = t') ∧
    (∀ more, Log.Padded home receipt.logs more →
      ofReceipt origin home { receipt with logs := more } =
        (ofReceipt origin home receipt).map ({ · with receipt := { receipt with logs := more } })) ∧
    (receipt.dispatchCount home = 0 →
      ofReceipt origin home receipt = .error (.inconsistent (.noDispatch home receipt.transaction))) ∧
    (2 ≤ receipt.dispatchCount home →
      ofReceipt origin home receipt = .error (.inconsistent (.repeatedDispatch receipt.transaction))) ∧
    (∀ dispatch, receipt.dispatchCount home = 1 → ⟨home, .dispatch dispatch⟩ ∈ receipt.logs →
      (dispatch.messageHash ≠ Keccak.hash dispatch.message →
        ofReceipt origin home receipt = .error (.inconsistent (.wrongHash receipt.transaction))) ∧
      ∀ message : Message, dispatch.messageHash = Keccak.hash dispatch.message →
        dispatch.message = message.encode →
        (message.origin ≠ origin ∨ dispatch.packedRoute ≠ Route.pack ⟨message.destination, message.nonce⟩) →
        ofReceipt origin home receipt = .error (.inconsistent (.wrongRoute receipt.transaction))) := by
  refine ⟨fun t => ofReceipt_eq_ok_iff, fun t t' ht ht' => ?_, fun more hmore => ?_, ofReceipt_of_none,
    ofReceipt_of_several, fun dispatch hcount hlogged => ?_⟩
  · exact Except.ok.inj ((ofReceipt_eq_ok_iff.2 ht).symm.trans (ofReceipt_eq_ok_iff.2 ht'))
  · exact ofReceipt_congr rfl hmore.filterMap_eq
  · have honly := Receipt.dispatchesOf_eq_singleton_iff.2 ⟨hcount, hlogged⟩
    exact ⟨ofReceipt_of_wrongHash honly, fun message => ofReceipt_of_wrongRoute honly⟩

/-! A transfer from the home at `0x11` on domain 1, announced behind another log. -/

/-- The home of the sample. -/
def sampleHome : Address := .ofNat 0x11

/-- What the sample moves. -/
def sampleAction : TransferAction := ⟨⟨1, .ofNat 1⟩, .ofNat 0xcafe, .ofNat 500⟩

/-- The message that carries it. -/
def sampleMessage : Message := ⟨1, .ofNat 0x22, 4, 2, .ofNat 0x33, sampleAction.encode⟩

/-- The announcement of the message, with a hash. -/
def sampleDispatch (hash : Word) : Dispatch :=
  ⟨hash, .ofNat 3, Route.pack ⟨2, 4⟩, .zero, sampleMessage.encode⟩

/-- A receipt with another log first. -/
def sampleReceipt (logs : List Log) : Receipt := ⟨.ofNat 0xaa, 7, true, ⟨.ofNat 0x44, .other .zero⟩ :: logs⟩

theorem ofReceipt_exact_sample :
    let dispatch := sampleDispatch (Keccak.hash sampleMessage.encode)
    let log : Log := ⟨sampleHome, .dispatch dispatch⟩
    let foreign : Log := ⟨.ofNat 0x44, .dispatch dispatch⟩
    let tampered := sampleDispatch (.ofNat ((Keccak.hash sampleMessage.encode).toNat + 1))
    let transaction := Word.ofNat 0xaa
    ofReceipt 1 sampleHome (sampleReceipt [log]) =
        .ok ⟨dispatch, sampleMessage, sampleAction, sampleReceipt [log]⟩ ∧
      ofReceipt 1 sampleHome (sampleReceipt [foreign, log]) =
        .ok ⟨dispatch, sampleMessage, sampleAction, sampleReceipt [foreign, log]⟩ ∧
      ofReceipt 1 sampleHome (sampleReceipt [foreign]) =
        .error (.inconsistent (.noDispatch sampleHome transaction)) ∧
      ofReceipt 1 sampleHome (sampleReceipt [log, log]) = .error (.inconsistent (.repeatedDispatch transaction)) ∧
      ofReceipt 1 sampleHome (sampleReceipt [⟨sampleHome, .dispatch tampered⟩]) =
        .error (.inconsistent (.wrongHash transaction)) ∧
      ofReceipt 5 sampleHome (sampleReceipt [log]) = .error (.inconsistent (.wrongRoute transaction)) := by
  intro dispatch log foreign tampered transaction
  have htampered : tampered.messageHash ≠ Keccak.hash sampleMessage.encode := Word.ofNat_succ_ne _
  have hread : ofReceipt 1 sampleHome (sampleReceipt [log]) =
      .ok ⟨dispatch, sampleMessage, sampleAction, sampleReceipt [log]⟩ :=
    ((ofReceipt_exact 1 sampleHome (sampleReceipt [log])).1 _).2
      ⟨rfl, .tail _ (.head _), rfl, rfl, rfl, rfl, rfl, rfl⟩
  refine ⟨hread, ?_, ?_, ?_, ?_, ?_⟩
  · have hforeign : ¬ foreign.IsDispatchOf sampleHome := fun h =>
      absurd (show Address.ofNat 0x44 = .ofNat 0x11 from h.1) (by decide)
    have hpadded : Log.Padded sampleHome (sampleReceipt [log]).logs (sampleReceipt [foreign, log]).logs :=
      .keep _ (.insert hforeign (.keep _ .nil))
    have hsame := (ofReceipt_exact 1 sampleHome (sampleReceipt [log])).2.2.1 _ hpadded
    rw [hread] at hsame
    exact hsame
  · exact (ofReceipt_exact 1 sampleHome (sampleReceipt [foreign])).2.2.2.1 rfl
  · exact (ofReceipt_exact 1 sampleHome (sampleReceipt [log, log])).2.2.2.2.1 (by decide)
  · exact ((ofReceipt_exact 1 sampleHome (sampleReceipt [⟨sampleHome, .dispatch tampered⟩])).2.2.2.2.2 tampered rfl
      (.tail _ (.head _))).1 htampered
  · exact ((ofReceipt_exact 5 sampleHome (sampleReceipt [log])).2.2.2.2.2 dispatch rfl (.tail _ (.head _))).2
      sampleMessage rfl rfl (.inl (by decide))

end Transfer

end TokenBridge
