import TokenBridge.Proofs.Ledger.Effect
import TokenBridge.Proofs.Ledger.Journal
import TokenBridge.Proofs.Message

/-!
# Nonces and leaves

A home numbers what it announces: its leaves from zero on, and the messages to each destination from nonce zero
on, whichever of the two ways of sending they come from. Nothing else uses a number up, and a call that fails uses
none (`Quiet`). `Numbered` says this of a ledger and its journal, in the arithmetic of the counters, which wrap
around; each step keeps it (`Numbered.step`), so it holds of every run (`numbered_journal`).

As long as no counter wraps around, the numbers have no gaps, and no two messages of the whole run have origin,
destination and nonce in common (`journal_gapless`).
-/

namespace TokenBridge

/-- Whether a transaction sends something from a domain. -/
def Submission.sendsFrom (origin : DomainId) (s : Submission) : Bool :=
  s.domain = origin ∧ s.request.destination?.isSome

/-- Whether a transaction sends something from a domain to another one. -/
def Submission.sendsTo (origin destination : DomainId) (s : Submission) : Bool :=
  s.domain = origin ∧ s.request.destination? = some destination

/-- The announcement in a log, if it is one. -/
def Log.dispatch? (log : Log) : Option Dispatch :=
  match log.event with
  | .dispatch dispatch => some dispatch
  | _ => none

/-- What tells a message from all others. -/
def Message.key (m : Message) : DomainId × DomainId × UInt32 := (m.origin, m.destination, m.nonce)

namespace Ledger

/-! ### Serial numbers -/

section Serial

variable {α β : Type} {p : α → Bool} {f : α → β} {g : Nat → β} {l : List α}

/-- The elements of a list that satisfy `p` have the values of `g` at 0, 1, 2 and so on. -/
def Serial (p : α → Bool) (f : α → β) (g : Nat → β) (l : List α) : Prop :=
  (l.filter p).map f = (List.range (l.countP p)).map g

theorem serial_nil : Serial p f g [] := rfl

/-- Another element that satisfies `p` has the next value. -/
theorem Serial.concat (h : Serial p f g l) {a : α} (ha : p a → f a = g (l.countP p)) :
    Serial p f g (l ++ [a]) := by
  rw [Serial, List.filter_append, List.countP_append, List.map_append, h]
  cases hp : p a with
  | false => simp [hp]
  | true => simp [hp, ha hp, List.range_succ]

theorem Serial.eq_of_getElem? (h : Serial p f g l) {k : Nat} {a : α} (ha : (l.filter p)[k]? = some a) :
    f a = g k := by
  have hk : k < (l.filter p).length := (List.getElem?_eq_some_iff.1 ha).1
  have hvalue : ((l.filter p).map f)[k]? = some (f a) := by rw [List.getElem?_map, ha, Option.map_some]
  rw [h, List.getElem?_map, List.getElem?_range (by rwa [List.countP_eq_length_filter])] at hvalue
  exact (Option.some.inj hvalue).symm

end Serial

/-! ### What records announce -/

namespace Record

/-- What was announced. -/
def dispatches (r : Record) : List Dispatch :=
  match r.receipt with
  | some receipt => receipt.logs.filterMap Log.dispatch?
  | none => []

/-- The messages that were announced. -/
def messages (r : Record) : List Message :=
  r.dispatches.filterMap fun dispatch => (Message.decode dispatch.message).toOption

theorem messages_of_dispatches {r : Record} {home : Home} {message : Message}
    (h : r.dispatches = [announcementOf home message]) : r.messages = [message] := by
  have hdecode : Message.decode (announcementOf home message).message = .ok message := message.decode_encode
  rw [messages, h, List.filterMap_cons_some (b := message) (by rw [hdecode]; rfl), List.filterMap_nil]

end Record

/-- A transaction that sends something announced one message, from its domain and to where it sends; any other
announced none. -/
theorem Told.dispatches {L : Ledger} {r : Record} (h : Told L r) :
    (∃ home message, r.dispatches = [announcementOf home message] ∧ message.origin = r.submission.domain ∧
      r.submission.request.destination? = some message.destination) ∨
    r.dispatches = [] ∧ r.submission.request.destination? = none := by
  cases h with
  | approved => exact .inr ⟨rfl, rfl⟩
  | launched m l => exact .inl ⟨l.home, l.message, rfl, rfl, l.destination_eq⟩

/-! ### The counters -/

/-- The homes have numbered what is in a journal, and nothing else. -/
structure Numbered (L : Ledger) (J : List Record) : Prop where
  /-- Every home has counted the transactions that send from its domain. -/
  leafCount : ∀ origin, L.leafCount origin = UInt64.ofNat (J.countP (·.submission.sendsFrom origin))
  /-- The nonces to a destination count those that send there. -/
  nextNonce : ∀ origin destination,
    L.nextNonce origin destination = UInt32.ofNat (J.countP (·.submission.sendsTo origin destination))
  /-- The leaves of a domain are numbered in their order. -/
  leaves : ∀ origin, Serial (·.submission.sendsFrom origin) (fun r => r.dispatches.map Dispatch.leafIndex)
    (fun k => [Quantity.ofNat (UInt64.ofNat k).toNat]) J
  /-- The messages to a destination are numbered in their order. -/
  nonces : ∀ origin destination, Serial (·.submission.sendsTo origin destination)
    (fun r => r.messages.map Message.nonce) (fun j => [UInt32.ofNat j]) J

theorem Fresh.numbered {L : Ledger} (h : Fresh L) : Numbered L [] where
  leafCount origin := by
    rw [Ledger.leafCount]
    split
    · next home hhome => exact (h.homes origin home hhome).2
    · rfl
  nextNonce origin destination := by
    rw [Ledger.nextNonce]
    split
    · next home hhome =>
      rw [(h.homes origin home hhome).1]
      rfl
    · rfl
  leaves _ := serial_nil
  nonces _ _ := serial_nil

section Step

variable {L L' : Ledger} {m : Move} {R J : List Record}

theorem Numbered.quiet (h : Numbered L J) (hquiet : Quiet L L') : Numbered L' J where
  leafCount origin := by
    rw [← h.leafCount, Ledger.leafCount, Ledger.leafCount, hquiet.homes]
  nextNonce origin destination := by
    rw [← h.nextNonce, Ledger.nextNonce, Ledger.nextNonce, hquiet.homes]
  leaves := h.leaves
  nonces := h.nonces

/-- A transaction that sends nothing uses no number up. -/
theorem Numbered.concat_none (h : Numbered L J) {r : Record} (hr : r.submission.request.destination? = none) :
    Numbered L (J ++ [r]) := by
  have hfrom : ∀ origin, r.submission.sendsFrom origin = false := by simp [Submission.sendsFrom, hr]
  have hto : ∀ origin destination, r.submission.sendsTo origin destination = false := by
    simp [Submission.sendsTo, hr]
  refine ⟨fun origin => ?_, fun origin destination => ?_, fun origin => ?_, fun origin destination => ?_⟩
  · rw [h.leafCount, List.countP_append]
    simp [hfrom]
  · rw [h.nextNonce, List.countP_append]
    simp [hto]
  · exact (h.leaves origin).concat fun hp => by simp [hfrom] at hp
  · exact (h.nonces origin destination).concat fun hp => by simp [hto] at hp

/-- A launched transfer gets the next leaf of its home and the next nonce to its destination. -/
theorem Numbered.concat_launched (h : Numbered L J) {l : Launch} (hhome : L.homes.get? l.origin = some l.home)
    {r : Record} (hdomain : r.submission.domain = l.origin) (hrequest : r.submission.request = l.request)
    (hdispatches : r.dispatches = [announcementOf l.home l.message]) :
    Numbered (L.announced l.origin l.home l.destination) (J ++ [r]) := by
  have hfrom : ∀ origin, r.submission.sendsFrom origin = decide (l.origin = origin) := by
    simp [Submission.sendsFrom, hdomain, hrequest, l.destination_eq]
  have hto : ∀ origin destination, r.submission.sendsTo origin destination =
      decide (l.origin = origin ∧ l.destination = destination) := by
    simp [Submission.sendsTo, hdomain, hrequest, l.destination_eq]
  have hleaf : l.home.leafCount = UInt64.ofNat (J.countP (·.submission.sendsFrom l.origin)) := by
    rw [← h.leafCount, Ledger.leafCount, hhome]
  have hnonce : l.message.nonce =
      UInt32.ofNat (J.countP (·.submission.sendsTo l.origin l.destination)) := by
    rw [← h.nextNonce, nextNonce_of_home hhome]
    rfl
  refine ⟨fun origin => ?_, fun origin destination => ?_, fun origin => ?_, fun origin destination => ?_⟩
  · rw [leafCount_announced hhome, h.leafCount, List.countP_append, List.countP_singleton, hfrom]
    by_cases ho : l.origin = origin <;> simp [ho, UInt64.ofNat_add]
  · rw [nextNonce_announced hhome, h.nextNonce, List.countP_append, List.countP_singleton, hto]
    by_cases hd : l.origin = origin ∧ l.destination = destination <;> simp [hd, UInt32.ofNat_add]
  · refine (h.leaves origin).concat fun hp => ?_
    rw [hfrom, decide_eq_true_eq] at hp
    rw [hdispatches, ← hp, ← hleaf]
    rfl
  · refine (h.nonces origin destination).concat fun hp => ?_
    rw [hto, decide_eq_true_eq] at hp
    obtain ⟨rfl, rfl⟩ := hp
    rw [Record.messages_of_dispatches hdispatches, ← hnonce]
    rfl

/-- **The step**: what a move announces gets the next numbers, and nothing else uses any up. -/
theorem Numbered.step (hstep : Steps L m L' R) (h : Numbered L J) : Numbered L' (J ++ R) := by
  cases hstep with
  | quiet hquiet =>
    rw [List.append_nil]
    exact h.quiet hquiet
  | approved hquiet =>
    -- Mining is nothing to the homes.
    exact { (h.quiet hquiet).concat_none rfl with }
  | launched hquiet l hl =>
    exact { (h.quiet hquiet).concat_launched (l := l) hl.home rfl rfl rfl with }

end Step

/-- **The run**: a fresh ledger and its journal are numbered, after any moves. -/
theorem numbered_journal {L : Ledger} (h : Fresh L) (moves : List Move) :
    Numbered (L.moved moves) (L.journal moves) :=
  journal_induction (J := []) Numbered.step h.numbered moves

/-! ### No gaps and no repetitions -/

section Lists

variable {α β : Type}

/-- A list has no repetitions if those of its elements that agree in some respect have none. -/
theorem nodup_of_fibers [DecidableEq α] [DecidableEq β] {l : List α} (f : α → β)
    (h : ∀ b, (l.filter fun a => f a = b).Nodup) : l.Nodup := by
  rw [List.nodup_iff_count_le_one]
  intro a
  have hcount : (l.filter fun x => f x = f a).count a = l.count a := List.count_filter (by simp)
  rw [← hcount]
  exact List.nodup_iff_count_le_one.1 (h (f a)) a

theorem flatMap_filter (p : α → Bool) (f : α → List β) (l : List α) :
    (l.filter p).flatMap f = l.flatMap fun a => if p a then f a else [] := by
  induction l with
  | nil => rfl
  | cons a rest ih => cases hp : p a <;> simp [hp, ih]

end Lists

/-- A record has the messages from an origin to a destination if it is about sending from there to there. -/
theorem Told.filter_messages {L : Ledger} {r : Record} (h : Told L r) (origin destination : DomainId) :
    (r.messages.filter fun m => (m.origin, m.destination) = (origin, destination)) =
      if r.submission.sendsTo origin destination then r.messages else [] := by
  rcases h.dispatches with ⟨home, message, hdispatches, horigin, hdestination⟩ | ⟨hdispatches, -⟩
  · rw [Record.messages_of_dispatches hdispatches]
    simp [Submission.sendsTo, ← horigin, hdestination, List.filter_cons]
  · simp [Record.messages, hdispatches]

theorem Told.map_message {L : Ledger} {r : Record} (h : Told L r) :
    r.dispatches.map Dispatch.message = r.messages.map Message.encode := by
  rcases h.dispatches with ⟨home, message, hdispatches, -⟩ | ⟨hdispatches, -⟩
  · rw [Record.messages_of_dispatches hdispatches, hdispatches]
    rfl
  · rw [Record.messages, hdispatches]
    rfl

section Unique

variable {L : Ledger} {J : List Record}

/-- The leaves are numbered from zero on before the counter wraps around. -/
theorem Numbered.exists_leaf (h : Numbered L J) (htold : ∀ r ∈ J, Told L r) (htotal : J.length < 2 ^ 64)
    {origin : DomainId} {k : Nat} {r : Record} (hr : (J.filter (·.submission.sendsFrom origin))[k]? = some r) :
    ∃ dispatch, r.dispatches = [dispatch] ∧ dispatch.leafIndex.toNat = k := by
  obtain ⟨hmem, hsends⟩ := List.mem_filter.1 (List.mem_of_getElem? hr)
  have hleaf := (h.leaves origin).eq_of_getElem? hr
  have hk : k < 2 ^ 64 := by
    have hlt := (List.getElem?_eq_some_iff.1 hr).1
    have hle := List.length_filter_le (·.submission.sendsFrom origin) J
    omega
  rcases (htold r hmem).dispatches with ⟨home, message, hdispatches, -⟩ | ⟨-, hnone⟩
  · rw [hdispatches, List.map_singleton, List.singleton_inj, UInt64.toNat_ofNat_of_lt' hk] at hleaf
    refine ⟨_, hdispatches, ?_⟩
    rw [hleaf]
    exact Quantity.toNat_ofNat (by omega)
  · simp [Submission.sendsFrom, hnone] at hsends

/-- The nonces to a destination are numbered from zero on before the counter wraps around. -/
theorem Numbered.exists_nonce (h : Numbered L J) (htold : ∀ r ∈ J, Told L r) {origin destination : DomainId}
    (hpair : J.countP (·.submission.sendsTo origin destination) < 2 ^ 32) {j : Nat} {r : Record}
    (hr : (J.filter (·.submission.sendsTo origin destination))[j]? = some r) :
    ∃ dispatch message, r.dispatches = [dispatch] ∧ Message.decode dispatch.message = .ok message ∧
      message.origin = origin ∧ message.destination = destination ∧ message.nonce.toNat = j ∧
      Route.unpack dispatch.packedRoute = message.route := by
  obtain ⟨hmem, hsends⟩ := List.mem_filter.1 (List.mem_of_getElem? hr)
  have hnonce := (h.nonces origin destination).eq_of_getElem? hr
  have hj : j < 2 ^ 32 := by
    have hlt := (List.getElem?_eq_some_iff.1 hr).1
    rw [← List.countP_eq_length_filter] at hlt
    omega
  rw [Submission.sendsTo, decide_eq_true_eq] at hsends
  rcases (htold r hmem).dispatches with ⟨home, message, hdispatches, horigin, hto⟩ | ⟨-, hnone⟩
  · rw [Record.messages_of_dispatches hdispatches, List.map_singleton, List.singleton_inj] at hnonce
    refine ⟨_, message, hdispatches, message.decode_encode, horigin.trans hsends.1, ?_, ?_, ?_⟩
    · exact Option.some.inj (hto.symm.trans hsends.2)
    · rw [hnonce, UInt32.toNat_ofNat_of_lt' hj]
    · exact Route.unpack_pack message.route
  · rw [hnone] at hsends
    cases hsends.2

/-- Nonces to one destination are not repeated before the counter wraps around, so no two messages have the same
key. -/
theorem Numbered.nodup_keys (h : Numbered L J) (htold : ∀ r ∈ J, Told L r)
    (hpairs : ∀ origin destination, J.countP (·.submission.sendsTo origin destination) < 2 ^ 32) :
    ((J.flatMap Record.messages).map Message.key).Nodup := by
  refine nodup_of_fibers (fun key => (key.1, key.2.1)) fun ⟨origin, destination⟩ => ?_
  have hnonces : ((J.flatMap Record.messages).filter fun m =>
      (m.origin, m.destination) = (origin, destination)).map Message.nonce =
        (List.range (J.countP (·.submission.sendsTo origin destination))).map UInt32.ofNat := by
    rw [List.filter_flatMap,
      List.flatMap_congr fun r hr => (htold r hr).filter_messages origin destination, ← flatMap_filter,
      List.map_flatMap, List.flatMap_def, h.nonces origin destination, ← List.flatMap_def,
      List.map_eq_flatMap]
  have hnodup : ((List.range (J.countP (·.submission.sendsTo origin destination))).map UInt32.ofNat).Nodup := by
    refine List.nodup_range.map_on fun i hi j hj heq => ?_
    have hlt := hpairs origin destination
    have hnat := congrArg UInt32.toNat heq
    rw [UInt32.toNat_ofNat', UInt32.toNat_ofNat'] at hnat
    rw [List.mem_range] at hi hj
    omega
  rw [← hnonces] at hnodup
  rw [List.filter_map]
  exact List.Nodup.of_map (fun key => key.2.2) (by rw [List.map_map]; exact hnodup)

/-- Messages with different keys are laid out differently. -/
theorem nodup_layouts (htold : ∀ r ∈ J, Told L r) (h : ((J.flatMap Record.messages).map Message.key).Nodup) :
    ((J.flatMap Record.dispatches).map Dispatch.message).Nodup := by
  rw [List.map_flatMap, List.flatMap_congr fun r hr => (htold r hr).map_message, ← List.map_flatMap]
  exact (List.Nodup.of_map Message.key h).map Message.encode_injective

end Unique

/-- The numbers that a run gives its messages have no gaps and are not repeated. -/
structure Gapless (L : Ledger) (J : List Record) : Prop where
  /-- There is a record of every transaction. -/
  submitted : J.map Record.submission = L.submitted
  /-- The transactions that send from a domain announced one message each, with the leaves 0, 1, 2 and so on. -/
  leaf : ∀ origin k, ∀ r : Record, (J.filter (·.submission.sendsFrom origin))[k]? = some r →
    ∃ dispatch : Dispatch, r.dispatches = [dispatch] ∧ dispatch.leafIndex.toNat = k
  /-- Those to one destination announced messages from here to there, with the nonces 0, 1, 2 and so on. -/
  nonce : ∀ origin destination j, ∀ r : Record,
    (J.filter (·.submission.sendsTo origin destination))[j]? = some r →
    ∃ (dispatch : Dispatch) (message : Message), r.dispatches = [dispatch] ∧
      Message.decode dispatch.message = .ok message ∧
      message.origin = origin ∧ message.destination = destination ∧ message.nonce.toNat = j ∧
      Route.unpack dispatch.packedRoute = message.route
  /-- A home that calls reach tells how many there are. -/
  next : ∀ origin destination, L.homes.contains origin → origin ∉ L.failing →
    ∃ nonce, L.nonce origin destination = .ok nonce ∧
      nonce.toNat = L.submitted.countP (·.sendsTo origin destination)
  /-- No two messages have origin, destination and nonce in common. -/
  keys : ((J.flatMap Record.messages).map Message.key).Nodup
  /-- No two messages are laid out alike. -/
  layouts : ((J.flatMap Record.dispatches).map Dispatch.message).Nodup

/-- A domain whose home calls reach tells the next nonce. -/
theorem nonce_of_contains {L : Ledger} {origin : DomainId} (hhome : L.homes.contains origin)
    (hreach : origin ∉ L.failing) (destination : DomainId) :
    L.nonce origin destination = .ok (L.nextNonce origin destination) := by
  obtain ⟨home, hhome⟩ := Option.isSome_iff_exists.1 hhome
  rw [nonce, checkReachable_eq_ok_iff (u := ()).2 hreach, Outcome.ok_bind, home_eq_ok_iff.2 hhome,
    nextNonce_of_home hhome]
  rfl

/-- **Nonces and leaves have no gaps and are not repeated**, in every run with fewer than `2 ^ 32` transfers from
one domain to another and fewer than `2 ^ 64` transactions. A call that fails uses none up. -/
theorem journal_gapless (c : Config) (moves : List Move)
    (hpairs : ∀ origin destination,
      ((ofConfig c).moved moves).submitted.countP (·.sendsTo origin destination) < 2 ^ 32)
    (htotal : ((ofConfig c).moved moves).submitted.length < 2 ^ 64) :
    Gapless ((ofConfig c).moved moves) ((ofConfig c).journal moves) ∧
      ∀ (call : Call) (e : ChainError), (call.on ((ofConfig c).moved moves)).1 = .error e →
        (call.on ((ofConfig c).moved moves)).2.homes = ((ofConfig c).moved moves).homes ∧
          (call.on ((ofConfig c).moved moves)).2.submitted = ((ofConfig c).moved moves).submitted := by
  have hfresh := fresh_ofConfig c
  have hnumbered := numbered_journal hfresh moves
  have htold := told_journal (ofConfig c) moves
  have hsubmitted : ((ofConfig c).journal moves).map Record.submission = ((ofConfig c).moved moves).submitted := by
    rw [submitted_moved, hfresh.submitted, List.nil_append]
  generalize (ofConfig c).moved moves = L at *
  generalize (ofConfig c).journal moves = J at *
  have hcount : ∀ p : Submission → Bool, J.countP (fun r => p r.submission) = L.submitted.countP p := by
    intro p
    rw [← hsubmitted, List.countP_map]
    rfl
  have hlength : J.length = L.submitted.length := by rw [← hsubmitted, List.length_map]
  have hpair : ∀ origin destination, J.countP (·.submission.sendsTo origin destination) < 2 ^ 32 := by
    intro origin destination
    rw [hcount (·.sendsTo origin destination)]
    exact hpairs origin destination
  have hkeys := hnumbered.nodup_keys htold hpair
  refine ⟨⟨hsubmitted, fun origin k r hr => ?_, fun origin destination j r hr => ?_,
    fun origin destination hhome hreach => ?_, hkeys, nodup_layouts htold hkeys⟩, fun call e he => ?_⟩
  · exact hnumbered.exists_leaf htold (hlength ▸ htotal) hr
  · exact hnumbered.exists_nonce htold (hpair origin destination) hr
  · refine ⟨_, nonce_of_contains hhome hreach destination, ?_⟩
    rw [hnumbered.nextNonce, UInt32.toNat_ofNat_of_lt' (hpair origin destination)]
    exact hcount (·.sendsTo origin destination)
  · have hquiet := (call.ends_on L).quiet_of_error he
    exact ⟨hquiet.homes, hquiet.submitted⟩

/-- Moves on the small bridge: two transfers of a token and one of the native asset, with a call between them that
nobody signs. -/
def sendingMoves : List Move :=
  let k : Connection := ⟨⟨0, "http://alpha", .plain, 0⟩, some ⟨1, .ofNat 0xa⟩⟩
  [.occurs (.deployToken 1 (.ofNat 0x3001)), .occurs (.deployNativeToken 1 (.ofNat 0x3002)),
    .occurs (.mint 1 (.ofNat 0x3001) (.ofNat 0xa) (.ofNat 100)),
    .occurs (.fundNative 1 (.ofNat 0xa) (.ofNat 50)),
    .occurs (.setAllowance 1 (.ofNat 0x3001) (.ofNat 0xa) (.ofNat 0x1100) (.ofNat 100)),
    .calls (.send ⟨⟨1, .ofNat 0x1100, some k⟩⟩ (.ofNat 0x3001) (.ofNat 60) 2 (.ofNat 0xb)),
    .calls (.send ⟨⟨1, .ofNat 0x1100, none⟩⟩ (.ofNat 0x3001) (.ofNat 10) 2 (.ofNat 0xb)),
    .calls (.sendNative ⟨⟨1, .ofNat 0x1200, some k⟩⟩ 2 (.ofNat 0xb) (.ofNat 50)),
    .calls (.send ⟨⟨1, .ofNat 0x1100, some k⟩⟩ (.ofNat 0x3001) (.ofNat 40) 2 (.ofNat 0xb))]

/-- Three transfers are handed in, and the next nonce is the third. -/
theorem journal_gapless_sending :
    Gapless ((ofConfig .testing).moved sendingMoves) ((ofConfig .testing).journal sendingMoves) ∧
      ((ofConfig .testing).moved sendingMoves).nonce 1 2 = .ok 3 := by
  have hlength : ((ofConfig .testing).moved sendingMoves).submitted.length = 3 := by decide +kernel
  refine ⟨(journal_gapless .testing sendingMoves (fun origin destination => ?_) ?_).1, by decide +kernel⟩
  · exact Nat.lt_of_le_of_lt List.countP_le_length (by omega)
  · omega

end Ledger

end TokenBridge
