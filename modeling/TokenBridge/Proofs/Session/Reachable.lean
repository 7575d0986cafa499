import TokenBridge.Proofs.Client.Sound
import TokenBridge.Proofs.Directory.Registration
import TokenBridge.Proofs.Ledger.Journal
import TokenBridge.Proofs.Sending.Transacts
import TokenBridge.Session

/-!
# Reachable sessions

`Session.after L steps` is the session that started with the ledger `L` and took the steps, whatever they
are: registry steps, ledger steps, calls through handles made for them, and steps on clients that were built
in between. What each step can do is said once, for the ledger (`acts_step`, `ledger_step`) and for the client
(`clientSound_step`). By induction over the steps a reachable session has a coherent ledger, if it started
with that of a valid configuration, and a sound client, if it has a client (`coherent_after`, `sound_after`). What is
proved of the runs of a ledger applies to sessions, since their ledgers are reached by changes and hence by moves
(`exists_changes`, `exists_moves`).
-/

namespace TokenBridge.Session

/-- The session that started with a ledger and took steps. -/
def after (L : Ledger) (steps : List Step) : Session := ((start L).run steps).2

/-- What every step keeps holds after any steps. -/
theorem run_induction {P : Session → Prop} (hstep : ∀ s st, P s → P (s.step st).2) {s : Session} (h : P s)
    (steps : List Step) : P (s.run steps).2 := by
  induction steps generalizing s with
  | nil => exact h
  | cons st rest ih => exact ih (hstep s st h)

theorem run_append (s : Session) (first rest : List Step) :
    s.run (first ++ rest) = ((s.run first).1 ++ ((s.run first).2.run rest).1, ((s.run first).2.run rest).2) := by
  induction first generalizing s with
  | nil => rfl
  | cons st first ih =>
    show ((s.step st).1 :: ((s.step st).2.run (first ++ rest)).1, ((s.step st).2.run (first ++ rest)).2) = _
    rw [ih]
    rfl

theorem after_append (L : Ledger) (first rest : List Step) :
    after L (first ++ rest) = ((after L first).run rest).2 := by
  rw [after, run_append]
  rfl

/-- An answer is that to the step at its place. -/
theorem exists_step_of_answer {s : Session} {steps : List Step} {i : Nat} {answer : Answer}
    (h : (s.run steps).1[i]? = some answer) :
    ∃ first st rest, steps = first ++ st :: rest ∧ first.length = i ∧ ((s.run first).2.step st).1 = answer := by
  induction steps generalizing s i with
  | nil => cases h
  | cons st rest ih =>
    cases i with
    | zero => exact ⟨[], st, rest, rfl, rfl, Option.some.inj h⟩
    | succ i =>
      obtain ⟨first, st', rest', rfl, rfl, hanswer⟩ := ih (s := (s.step st).2) h
      exact ⟨st :: first, st', rest', rfl, rfl, hanswer⟩

/-- What the steps of a run give, one after the other. -/
def collect {α : Type} (f : Session → Step → List α) (s : Session) : List Step → List α
  | [] => []
  | st :: rest => f s st ++ collect f (s.step st).2 rest

theorem collect_append {α : Type} (f : Session → Step → List α) (s : Session) (first rest : List Step) :
    collect f s (first ++ rest) = collect f s first ++ collect f (s.run first).2 rest := by
  induction first generalizing s with
  | nil => rfl
  | cons st first ih =>
    rw [List.cons_append, collect, collect, ih, List.append_assoc]
    rfl

/-! ### The ledger -/

/-- The change that a step on the ledger makes, if it makes one. -/
def changeOf (s : Session) : LedgerStep → Option Ledger.Change
  | .deployToken domain address => some (.deployToken domain address)
  | .deployNativeToken domain address => some (.deployNativeToken domain address)
  | .deployRepresentation domain token address => some (.deployRepresentation domain token address)
  | .mint domain token owner amount => some (.mint domain token owner amount)
  | .fundNative domain owner amount => some (.fundNative domain owner amount)
  | .setAllowance domain token owner spender amount => some (.setAllowance domain token owner spender amount)
  | .setFailing domain on => some (.setFailing domain on)
  | .setReverting domain on => some (.setReverting domain on)
  | .setStatus domain remote status (.leaf leaf) => some (.setStatus domain remote leaf status)
  | .setStatus domain remote status (.transfer name) =>
    (s.transfers.get? name).map fun t => .setStatus domain remote t.leaf status
  | .balance .. | .submitted => none

theorem ledger_ledgerStep (s : Session) (st : LedgerStep) :
    (s.ledgerStep st).2.ledger = s.ledger.applyAll (s.changeOf st).toList := by
  cases st with
  | setStatus domain remote status source =>
    cases source with
    | leaf leaf => rfl
    | transfer name =>
      rw [ledgerStep, changeOf]
      cases s.transfers.get? name <;> rfl
  | _ => rfl

theorem ledger_registryStep (s : Session) (st : RegistryStep) :
    (s.registryStep st).2.ledger = s.ledger := by
  cases st with
  | registerDomain domain => rw [registryStep]; split <;> rfl
  | registerProvider domain name => rw [registryStep]; split <;> rfl
  | registerSigner domain name => rw [registryStep]; split <;> rfl
  | _ => rfl

theorem ledger_changeStep (s : Session) (result : Except BridgeError Client) :
    (s.changeStep result).2.ledger = s.ledger := by
  cases result <;> rfl

/-- Building a client is a change like any other: it puts the client that was built in place, or nothing. -/
theorem buildStep_eq (s : Session) (config : Config) :
    s.buildStep config = s.changeStep (Client.build config s.registry) := by
  rw [buildStep, Directory.buildOn_eq, Client.build]
  cases Directory.build config s.registry <;> rfl

theorem sendStep_snd (s : Session) (action : Action Transfer) (keep : Option String) :
    (s.sendStep action keep).2.network = (action.on s.network).2 ∧
      (s.sendStep action keep).2.client? = s.client? := by
  rw [sendStep]
  rcases action.on s.network with ⟨_ | _, n⟩ <;> exact ⟨rfl, rfl⟩

theorem transferStep_snd (s : Session) (name : String) (f : Transfer → Answer) :
    (s.transferStep name f).2 = s := by
  rw [transferStep]
  split <;> rfl

/-- What a step does to the ledger: nothing, the change that it asks for, a call through a handle, or what a sending
of the client does. -/
inductive Acts (s : Session) : Step → Ledger → Prop where
  /-- The ledger stays as it is. -/
  | still {st : Step} (hst : ∀ change, st ≠ .ledger change) : Acts s st s.ledger
  /-- The change is made that the step asks for. -/
  | changes (change : LedgerStep) : Acts s (.ledger change) (s.ledger.applyAll (s.changeOf change).toList)
  /-- A contract is called through a handle. -/
  | calls {st : Step} (hst : ∀ change, st ≠ .ledger change) (call : Ledger.Call) : Acts s st (call.on s.ledger).2
  /-- A token is sent. -/
  | sends {c : Client} (hc : s.client? = some c) (request : TransferRequest) (keep : Option String) :
      Acts s (.client (.send request keep)) ((c.send request).on s.network).2.ledger
  /-- The native asset is sent. -/
  | sendsNative {c : Client} (hc : s.client? = some c) (request : NativeRequest) (keep : Option String) :
      Acts s (.client (.sendNative request keep)) ((c.sendNative request).on s.network).2.ledger

theorem Acts.of_eq {s : Session} {st : Step} {L : Ledger} (hst : ∀ change, st ≠ .ledger change)
    (h : L = s.ledger) : Acts s st L :=
  h ▸ .still hst

theorem acts_handleCall (s : Session) {st : Step} (hst : ∀ change, st ≠ .ledger change) (h : Handle)
    (call : HandleCall) : Acts s st (s.handleCall h call).2.ledger := by
  cases call with
  | send token amount destination recipient => exact .calls hst (.send ⟨h⟩ token amount destination recipient)
  | sendNative destination recipient value => exact .calls hst (.sendNative ⟨h⟩ destination recipient value)
  | approve spender amount => exact .calls hst (.approve ⟨h⟩ spender amount)
  | _ => exact .still hst

theorem acts_handleStep (s : Session) {st : Step} (hst : ∀ change, st ≠ .ledger change) (domain : DomainId)
    (address : Address) (connection : Option ConnectionName) (call : HandleCall) :
    Acts s st (s.handleStep domain address connection call).2.ledger := by
  unfold handleStep
  split
  · exact s.acts_handleCall hst _ call
  · split
    · exact s.acts_handleCall hst _ call
    · exact .still hst

theorem acts_clientStep {s : Session} {c : Client} (hc : s.client? = some c) (st : ClientStep) :
    Acts s (.client st) (s.clientStep c st).2.ledger := by
  cases st with
  | registerProvider ref name =>
    rw [clientStep]
    split
    · exact .of_eq (by simp) (ledger_changeStep ..)
    · exact .still (by simp)
  | registerSigner ref name =>
    rw [clientStep]
    split
    · exact .of_eq (by simp) (ledger_changeStep ..)
    · exact .still (by simp)
  | unregisterSigner ref => exact .of_eq (by simp) (ledger_changeStep ..)
  | rebind ref => exact .of_eq (by simp) (ledger_changeStep ..)
  | send request keep =>
    rw [clientStep, ledger, (s.sendStep_snd (c.send request) keep).1]
    exact .sends hc request keep
  | sendNative request keep =>
    rw [clientStep, ledger, (s.sendStep_snd (c.sendNative request) keep).1]
    exact .sendsNative hc request keep
  | messageStatus name => exact .of_eq (by simp) (congrArg ledger (s.transferStep_snd name _))
  | delivered name => exact .of_eq (by simp) (congrArg ledger (s.transferStep_snd name _))
  | document name => exact .of_eq (by simp) (congrArg ledger (s.transferStep_snd name _))
  | _ => exact .still (by simp)

/-- **What every step does to the ledger.** -/
theorem acts_step (s : Session) (st : Step) : Acts s st (s.step st).2.ledger := by
  cases st with
  | ledger change =>
    rw [step, ledger_ledgerStep]
    exact .changes change
  | provider | signer => exact .still (by simp)
  | waits name =>
    rw [step]
    split <;> exact .still (by simp)
  | wait name transaction confirmations =>
    rw [step]
    split <;> exact .still (by simp)
  | registry st => exact .of_eq (by simp) (s.ledger_registryStep st)
  | handle domain address connection call => exact s.acts_handleStep (by simp) domain address connection call
  | build config =>
    rw [step, buildStep_eq]
    exact .of_eq (by simp) (ledger_changeStep ..)
  | client st =>
    rw [step]
    split
    · next c hc => exact acts_clientStep hc st
    · exact .still (by simp)

/-- A step is one on the ledger, which makes the change it asks for, or another, which does nothing but
transactions to the ledger. -/
theorem ledger_step (s : Session) (st : Step) :
    (∃ change, st = .ledger change ∧ (s.step st).2.ledger = s.ledger.applyAll (s.changeOf change).toList) ∨
      (∀ change, st ≠ .ledger change) ∧ Ledger.Transacted s.ledger (s.step st).2.ledger := by
  have hacts := s.acts_step st
  generalize (s.step st).2.ledger = L at hacts ⊢
  cases hacts with
  | still hst => exact .inr ⟨hst, .refl s.ledger⟩
  | changes change => exact .inl ⟨change, rfl, rfl⟩
  | calls hst call => exact .inr ⟨hst, call.transacted s.ledger⟩
  | @sends c _ request keep => exact .inr ⟨by simp, c.transacts_send request s.network⟩
  | @sendsNative c _ request keep => exact .inr ⟨by simp, c.transacts_sendNative request s.network⟩

/-- Every step keeps a ledger coherent. -/
theorem coherent_step {c : Config} (s : Session) (st : Step) (h : s.ledger.Coherent c) :
    (s.step st).2.ledger.Coherent c := by
  rcases s.ledger_step st with ⟨change, -, heq⟩ | ⟨-, changes, -, heq⟩
  · rw [heq]
    exact h.applyAll _
  · rw [heq]
    exact h.applyAll changes

/-- **A session that started with the ledger of a valid configuration has a coherent ledger.** -/
theorem coherent_after {c : Config} (h : c.validate = .ok ()) (steps : List Step) :
    (after (.ofConfig c) steps).ledger.Coherent c :=
  run_induction (P := fun s => s.ledger.Coherent c) coherent_step (s := start (.ofConfig c))
    (Ledger.coherent_ofConfig h) steps

/-- **What holds after all changes of a ledger holds in sessions**: a call through a handle is a transaction of its
signer or nothing. -/
theorem exists_changes (s : Session) (steps : List Step) :
    ∃ changes, (s.run steps).2.ledger = s.ledger.applyAll changes := by
  refine run_induction (P := fun s' => ∃ changes, s'.ledger = s.ledger.applyAll changes) (fun s' st h => ?_) ⟨[], rfl⟩
    steps
  obtain ⟨before, hbefore⟩ := h
  rcases s'.ledger_step st with ⟨change, -, heq⟩ | ⟨-, changes, -, heq⟩
  · exact ⟨before ++ (s'.changeOf change).toList, by rw [heq, hbefore, Ledger.applyAll_append]⟩
  · exact ⟨before ++ changes, by rw [heq, hbefore, Ledger.applyAll_append]⟩

/-- So does what holds after all moves. -/
theorem exists_moves (s : Session) (steps : List Step) :
    ∃ moves, (s.run steps).2.ledger = s.ledger.moved moves := by
  obtain ⟨changes, heq⟩ := s.exists_changes steps
  exact ⟨changes.map .occurs, heq.trans (s.ledger.moved_occurs changes).symm⟩

theorem exists_moves_after (L : Ledger) (steps : List Step) : ∃ moves, (after L steps).ledger = L.moved moves :=
  exists_moves (start L) steps

/-! ### The client -/

/-- The client of the session is sound, if there is one. -/
def ClientSound (s : Session) : Prop := ∀ c, s.client? = some c → c.Sound

theorem clientSound_of_eq {s s' : Session} (h : s.ClientSound) (heq : s'.client? = s.client?) :
    s'.ClientSound := fun c hc => h c (heq ▸ hc)

theorem clientSound_withClient (s : Session) {c : Client} (h : c.Sound) : (s.withClient c).ClientSound := by
  intro c' hc'
  cases hc'
  exact h

/-- A registry that lost no domain may take the place of the one before. -/
theorem clientSound_withRegistry {s : Session} (h : s.ClientSound) {r : Registry}
    (hr : ∀ d ∈ s.registry.domains, d ∈ r.domains) : ({ s with registry := r } : Session).ClientSound := by
  intro c hc
  obtain ⟨D, hD, rfl⟩ := Option.map_eq_some_iff.1 hc
  exact (h ⟨s.registry, D⟩ (Option.map_eq_some_iff.2 ⟨D, hD, rfl⟩)).withRegistry hr

theorem clientSound_changeStep {s : Session} (h : s.ClientSound) {result : Except BridgeError Client}
    (hresult : ∀ c, result = .ok c → c.Sound) : (s.changeStep result).2.ClientSound := by
  cases result with
  | error e => exact h
  | ok c => exact s.clientSound_withClient (hresult c rfl)

theorem clientSound_registryStep {s : Session} (h : s.ClientSound) (st : RegistryStep) :
    (s.registryStep st).2.ClientSound := by
  cases st with
  | registerDomain domain =>
    rw [registryStep]
    split
    · next r hr =>
      refine clientSound_withRegistry h fun d hd => ?_
      rw [Registry.registerDomain_eq_ok hr]
      exact List.mem_append_left _ hd
    · exact h
  | registerProvider domain name =>
    rw [registryStep]
    split
    · exact clientSound_withRegistry h fun d hd => hd
    · exact h
  | hideProvider domain => exact clientSound_withRegistry h fun d hd => hd
  | registerSigner domain name =>
    rw [registryStep]
    split
    · exact clientSound_withRegistry h fun d hd => hd
    · exact h
  | unregisterSigner domain => exact clientSound_withRegistry h fun d hd => hd
  | clearSigners => exact clientSound_withRegistry h fun d hd => hd
  | _ => exact h

theorem client?_ledgerStep (s : Session) (st : LedgerStep) : (s.ledgerStep st).2.client? = s.client? := by
  cases st with
  | setStatus domain remote status source =>
    cases source with
    | leaf leaf => rfl
    | transfer name => rw [ledgerStep]; split <;> rfl
  | _ => rfl

theorem client?_handleStep (s : Session) (domain : DomainId) (address : Address)
    (connection : Option ConnectionName) (call : HandleCall) :
    (s.handleStep domain address connection call).2.client? = s.client? := by
  unfold handleStep
  split
  · cases call <;> rfl
  · split
    · cases call <;> rfl
    · rfl

theorem clientSound_clientStep {s : Session} (h : s.ClientSound) {c : Client} (hc : c.Sound)
    (st : ClientStep) : (s.clientStep c st).2.ClientSound := by
  cases st with
  | registerProvider ref name =>
    rw [clientStep]
    split
    · exact clientSound_changeStep h fun c' hc' => hc.registerProvider hc'
    · exact h
  | registerSigner ref name =>
    rw [clientStep]
    split
    · exact clientSound_changeStep h fun c' hc' => hc.registerSigner hc'
    · exact h
  | unregisterSigner ref => exact clientSound_changeStep h fun c' hc' => hc.unregisterSigner hc'
  | clearSigners => exact s.clientSound_withClient hc.clearSigners
  | rebind ref => exact clientSound_changeStep h fun c' hc' => hc.rebind hc'
  | rebindAll => exact s.clientSound_withClient hc.rebindAll
  | send request keep => exact clientSound_of_eq h (s.sendStep_snd (c.send request) keep).2
  | sendNative request keep => exact clientSound_of_eq h (s.sendStep_snd (c.sendNative request) keep).2
  | messageStatus name =>
    rw [clientStep, transferStep_snd]
    exact h
  | delivered name =>
    rw [clientStep, transferStep_snd]
    exact h
  | document name =>
    rw [clientStep, transferStep_snd]
    exact h
  | _ => exact h

/-- Every step keeps the client sound. -/
theorem clientSound_step (s : Session) (st : Step) (h : s.ClientSound) : (s.step st).2.ClientSound := by
  cases st with
  | provider => exact h
  | signer => exact h
  | waits name =>
    rw [step]
    split <;> exact h
  | wait name transaction confirmations =>
    rw [step]
    split
    · exact clientSound_of_eq h rfl
    · exact h
  | registry st => exact clientSound_registryStep h st
  | ledger st => exact clientSound_of_eq h (s.client?_ledgerStep st)
  | handle domain address connection call =>
    exact clientSound_of_eq h (s.client?_handleStep domain address connection call)
  | build config =>
    rw [step, buildStep_eq]
    exact clientSound_changeStep h fun c hc => Client.sound_of_build hc
  | client st =>
    rw [step]
    split
    · next c hc => exact clientSound_clientStep h (h c hc) st
    · exact h

/-- **The client of a reachable session is sound.** -/
theorem sound_after {L : Ledger} {steps : List Step} {c : Client} (h : (after L steps).client? = some c) :
    c.Sound := by
  have hstart : (start L).ClientSound := fun _ hc => by cases hc
  exact run_induction clientSound_step hstart steps c h

/-! ### A small session -/

/-- Steps on the small bridge: its first domain gets a provider and a signer, and the account that signs gets
100 of a token of that domain. -/
def testingSteps (conduct : Conduct) (skip : Nat) : List Step :=
  [.provider "p" "http://alpha" conduct skip, .signer "o" (.ofNat 0xa), .build .testing,
    .client (.registerProvider (.id 1) "p"), .client (.registerSigner (.id 1) "o"),
    .ledger (.deployToken 1 (.ofNat 0x3001)),
    .ledger (.mint 1 (.ofNat 0x3001) (.ofNat 0xa) (.ofNat 100))]

/-- The session of these steps. -/
def testing (conduct : Conduct) (skip : Nat) : Session :=
  after (.ofConfig .testing) (testingSteps conduct skip)

/-- The client of that session. -/
def testingClient (conduct : Conduct) (skip : Nat) : Client :=
  ⟨(testing conduct skip).registry, .boundTo .testing fun domain =>
    if domain = 1 then some ⟨⟨0, "http://alpha", conduct, skip⟩, some ⟨1, .ofNat 0xa⟩⟩ else none⟩

theorem client?_testing (conduct : Conduct) (skip : Nat) :
    (testing conduct skip).client? = some (testingClient conduct skip) := rfl

/-- There is only the one provider. -/
theorem conduct_of_testingClient {conduct : Conduct} {skip : Nat} {domain : DomainId} {provider : Provider}
    (h : (testingClient conduct skip).registry.provider? domain = some provider) :
    provider.conduct = conduct := by
  have hproviders : (testingClient conduct skip).registry.providers =
      Table.empty.insert 1 ⟨0, "http://alpha", conduct, skip⟩ := rfl
  rw [Registry.provider?, hproviders, Table.get?_insert] at h
  split at h
  · cases h
    rfl
  · cases h

/-- The account that signs sends 60 of the token to the other domain. -/
def testingRequest : TransferRequest :=
  ⟨.name "alpha", .id 2, .ofAddress 1 (.ofNat 0x3001), .ofNat 60, .ofNat 0xb⟩

end TokenBridge.Session
