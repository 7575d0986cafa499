import TokenBridge.Proofs.Client.Sound

/-!
# No stale bindings

A client is changed from outside by the mutations below. Some of them fail, and then they change nothing.
What they register is written down in a log, newest entry first, which knows nothing of tables and handles:
the provider of a domain is the one that was registered last (`lastProvider?`), and its signer is the one
that was registered last and not taken away since (`lastSigner?`).

`mutateAll_handles` says that after any mutations every handle of a configured domain is bound to just that
provider with just that signer. The invariant behind it (`Tracks`) has two parts: the registry keeps what the
log says, and the directory is the one bound to the connections of the registry.
-/

namespace TokenBridge

/-! ### The handles of a domain -/

/-- The handles of core contracts. -/
def Core.handles (c : Core) : List Handle :=
  c.home.toHandle :: c.replicas.values.map (·.toHandle)

/-- The handles of bridge contracts. -/
def Bridge.handles (b : Bridge) : List Handle :=
  b.router.toHandle :: b.nativeHelper.toList.map (·.toHandle)

/-- The handles that a directory has on a domain: those on its home, its replicas, its router and its
helper. -/
def Directory.handles (D : Directory) (domain : DomainId) : List Handle :=
  ((D.cores.get? domain).toList.flatMap Core.handles) ++
    ((D.bridges.get? domain).toList.flatMap Bridge.handles)

/-- The handles that a configuration asks for on a domain, bound to a connection. -/
def DomainConfig.handles (d : DomainConfig) (k : Option Connection) : List Handle :=
  ⟨d.id, d.home, k⟩ :: d.replicas.map (fun r => ⟨d.id, r.address, k⟩) ++
    d.bridge.toList.flatMap fun b => ⟨d.id, b.router, k⟩ :: b.nativeHelper.toList.map (⟨d.id, ·, k⟩)

theorem Core.handles_ofConfig {d : DomainConfig} (h : (d.replicas.map ReplicaConfig.domain).Nodup)
    (k : Option Connection) :
    (Core.ofConfig d k).handles = ⟨d.id, d.home, k⟩ :: d.replicas.map (⟨d.id, ·.address, k⟩) := by
  rw [handles, Table.values, replicas_ofConfig h, List.map_map, List.map_map]
  rfl

theorem Bridge.handles_ofConfig (domain : DomainId) (b : BridgeConfig) (k : Option Connection) :
    (Bridge.ofConfig domain b k).handles =
      ⟨domain, b.router, k⟩ :: b.nativeHelper.toList.map (⟨domain, ·, k⟩) := by
  cases h : b.nativeHelper <;> simp [handles, ofConfig, h]

/-- The handles on a configured domain are those that the configuration asks for, each bound to the
connection of the domain. -/
theorem Directory.handles_boundTo {c : Config} (h : c.validate = .ok ())
    (connections : DomainId → Option Connection) {d : DomainConfig} (hd : d ∈ c.domains) :
    (boundTo c connections).handles d.id = d.handles (connections d.id) := by
  have hdomain : c.domain? d.id = some d := (Config.domain?_eq_some_iff h).2 ⟨hd, rfl⟩
  rw [handles, get?_cores_boundTo h, get?_bridges_boundTo h, hdomain, DomainConfig.handles]
  cases hb : d.bridge with
  | none => simp [Core.handles_ofConfig (Config.nodup_replicas h hd), Bridge.ofDomain?, hb]
  | some b =>
    simp [Core.handles_ofConfig (Config.nodup_replicas h hd), Bridge.ofDomain?, hb,
      Bridge.handles_ofConfig]

/-! ### Mutations and their log -/

/-- A change of a client from outside. Registering another domain is among them, since it leaves every
connection alone. -/
inductive Mutation where
  /-- A domain gets a provider. -/
  | registerProvider (ref : DomainRef) (provider : Provider)
  /-- A domain gets a signer. -/
  | registerSigner (ref : DomainRef) (signer : Signer)
  /-- A domain loses its signer. -/
  | unregisterSigner (ref : DomainRef)
  /-- All domains lose their signers. -/
  | clearSigners
  /-- A domain is rebound. -/
  | rebind (ref : DomainRef)
  /-- All domains are rebound. -/
  | rebindAll
  /-- The registry gets another domain. -/
  | registerDomain (domain : Domain)

/-- What a mutation registers or takes away. -/
inductive LogEntry where
  /-- A provider for a domain. -/
  | provider (domain : DomainId) (provider : Provider)
  /-- A signer for a domain. -/
  | signer (domain : DomainId) (signer : Signer)
  /-- The signer of a domain is taken away. -/
  | unsigned (domain : DomainId)
  /-- The signers of all domains are taken away. -/
  | cleared

namespace LogEntry

/-- The provider that an entry registers for a domain. -/
def provider? (domain : DomainId) : LogEntry → Option Provider
  | .provider d p => if d = domain then some p else none
  | _ => none

/-- The signer that an entry leaves a domain with, if the entry is about that. -/
def signer? (domain : DomainId) : LogEntry → Option (Option Signer)
  | .signer d s => if d = domain then some (some s) else none
  | .unsigned d => if d = domain then some none else none
  | .cleared => some none
  | .provider _ _ => none

end LogEntry

/-- The provider that was registered last for a domain; `first` was there before the log began. -/
def lastProvider? (first : Option Provider) (log : List LogEntry) (domain : DomainId) : Option Provider :=
  (log.findSome? (LogEntry.provider? domain)).or first

/-- The signer that was registered last for a domain, and not taken away since; `first` was there before the
log began. -/
def lastSigner? (first : Option Signer) (log : List LogEntry) (domain : DomainId) : Option Signer :=
  (log.findSome? (LogEntry.signer? domain)).getD first

/-- The connection that a log asks for on a domain, where it began with a registry. -/
def lastConnection? (first : Registry) (log : List LogEntry) (domain : DomainId) : Option Connection :=
  (lastProvider? (first.provider? domain) log domain).map fun provider =>
    ⟨provider, lastSigner? (first.signer? domain) log domain⟩

theorem lastProvider?_cons (first : Option Provider) (e : LogEntry) (log : List LogEntry) (d : DomainId) :
    lastProvider? first (e :: log) d = (e.provider? d).or (lastProvider? first log d) := by
  rw [lastProvider?, List.findSome?_cons]
  cases e.provider? d <;> rfl

theorem lastSigner?_cons (first : Option Signer) (e : LogEntry) (log : List LogEntry) (d : DomainId) :
    lastSigner? first (e :: log) d = (e.signer? d).getD (lastSigner? first log d) := by
  rw [lastSigner?, List.findSome?_cons]
  cases e.signer? d <;> rfl

namespace Client

/-- The client after something that may have failed, which then changed nothing. -/
def after (c : Client) (result : Except BridgeError Client) : Client :=
  match result with
  | .ok c' => c'
  | .error _ => c

/-- The client after a mutation. -/
def mutate (c : Client) : Mutation → Client
  | .registerProvider ref provider => c.after (c.registerProvider ref provider)
  | .registerSigner ref signer => c.after (c.registerSigner ref signer)
  | .unregisterSigner ref => c.after (c.unregisterSigner ref)
  | .clearSigners => c.clearSigners
  | .rebind ref => c.after (c.rebind ref)
  | .rebindAll => c.rebindAll
  | .registerDomain domain =>
    match c.registry.registerDomain domain with
    | .ok registry => { c with registry }
    | .error _ => c

/-- What a mutation of a client writes into the log: nothing if it fails. -/
def entryOf (c : Client) : Mutation → Option LogEntry
  | .registerProvider ref provider => (c.resolve ref).toOption.map (.provider · provider)
  | .registerSigner ref signer => (c.resolve ref).toOption.map (.signer · signer)
  | .unregisterSigner ref => (c.resolve ref).toOption.map .unsigned
  | .clearSigners => some .cleared
  | .rebind _ | .rebindAll | .registerDomain _ => none

/-- A client with its log, after one more mutation. -/
def record (s : Client × List LogEntry) (m : Mutation) : Client × List LogEntry :=
  (s.1.mutate m, (s.1.entryOf m).toList ++ s.2)

/-- A client and its log after mutations, the newest entry first. -/
def mutateAll (c : Client) (ms : List Mutation) : Client × List LogEntry := ms.foldl record (c, [])

/-- A client for a configuration follows a log that began with a registry: the registry has the providers
and the signers that the log says, and the directory is bound to the connections of the registry. -/
structure Tracks (cfg : Config) (r : Registry) (c : Client) (log : List LogEntry) : Prop where
  /-- The client is sound. -/
  sound : c.Sound
  /-- The providers are those that were registered last. -/
  provider : ∀ d, c.registry.provider? d = lastProvider? (r.provider? d) log d
  /-- The signers are those that were registered last and not taken away since. -/
  signer : ∀ d, c.registry.signer? d = lastSigner? (r.signer? d) log d
  /-- The directory is bound to the connections that the registry has. -/
  current : ∃ connections, c.directory = .boundTo cfg connections ∧
    ∀ d ∈ cfg.domains, connections d.id = c.registry.connection? d.id

/-- A change whose reference does not resolve changes nothing; any other rebinds the domain. -/
theorem after_change (c : Client) (ref : DomainRef) (f : Registry → DomainId → Registry) :
    c.after (c.change ref f) =
      match c.resolve ref with
      | .ok id => ({ c with registry := f c.registry id } : Client).rebindId id
      | .error _ => c := by
  cases h : c.resolve ref with
  | error e => rw [change, h]; rfl
  | ok id => rw [change_eq_ok.2 ⟨id, h, rfl⟩]; rfl

theorem tracks_of_build {cfg : Config} {r : Registry} {c : Client} (h : build cfg r = .ok c) :
    Tracks cfg r c [] := by
  obtain ⟨-, pending, -, hr, hD⟩ := build_eq_ok h
  refine ⟨sound_of_build h, fun d => ?_, fun d => ?_, r.connection?, hD, fun d _ => ?_⟩
  · rw [hr]; rfl
  · rw [hr]; rfl
  · rw [hr]; rfl

variable {cfg : Config} {r : Registry} {c : Client} {log : List LogEntry}

theorem Tracks.config (h : Tracks cfg r c log) : c.config = cfg := by
  obtain ⟨connections, hD, -⟩ := h.current
  rw [Client.config, hD]
  rfl

/-- Changing the connection of one domain and then rebinding it keeps the directory bound. -/
theorem Tracks.rebindId (h : Tracks cfg r c log) {registry : Registry} {log' : List LogEntry}
    {id : DomainId} (hdomains : registry.domains = c.registry.domains)
    (hprovider : ∀ d, registry.provider? d = lastProvider? (r.provider? d) log' d)
    (hsigner : ∀ d, registry.signer? d = lastSigner? (r.signer? d) log' d)
    (hother : ∀ d, id ≠ d → registry.connection? d = c.registry.connection? d) :
    Tracks cfg r (({ c with registry } : Client).rebindId id) log' := by
  obtain ⟨connections, hD, hcurrent⟩ := h.current
  have hsound : ({ c with registry } : Client).Sound := h.sound.withRegistry (by simp [hdomains])
  have hD' : ({ c with registry } : Client).directory = .boundTo cfg connections := hD
  refine ⟨hsound.rebindId id, hprovider, hsigner, _, directory_rebindId hD' id, fun d hd => ?_⟩
  by_cases hid : id = d.id
  · subst hid
    rw [Function.update_self]
    rfl
  · rw [Function.update_of_ne (Ne.symm hid), hcurrent d hd]
    exact (hother d.id hid).symm

/-- Rebinding all domains binds the directory to whatever connections the registry has. -/
theorem Tracks.rebindAll (h : Tracks cfg r c log) {registry : Registry} {log' : List LogEntry}
    (hdomains : registry.domains = c.registry.domains)
    (hprovider : ∀ d, registry.provider? d = lastProvider? (r.provider? d) log' d)
    (hsigner : ∀ d, registry.signer? d = lastSigner? (r.signer? d) log' d) :
    Tracks cfg r ({ c with registry } : Client).rebindAll log' := by
  obtain ⟨connections, hD, -⟩ := h.current
  have hsound : ({ c with registry } : Client).Sound := h.sound.withRegistry (by simp [hdomains])
  have hall := rebindAll_eq (c := { c with registry }) hD
  rw [hall]
  refine ⟨hall ▸ hsound.rebindAll, hprovider, hsigner, _, rfl, fun d hd => ?_⟩
  rw [if_pos (hsound.mem_domainIds (h.config ▸ hd))]

/-- **The step**: a mutation keeps the registry with the log and the directory with the registry. -/
theorem Tracks.mutate (h : Tracks cfg r c log) (m : Mutation) :
    Tracks cfg r (c.mutate m) ((c.entryOf m).toList ++ log) := by
  cases m with
  | registerProvider ref p =>
    rw [Client.mutate, registerProvider, after_change, entryOf]
    cases c.resolve ref with
    | error e => exact h
    | ok id =>
      show Tracks cfg r _ (.provider id p :: log)
      refine h.rebindId rfl (fun d => ?_) (fun d => ?_) fun d hid => ?_
      · rw [Registry.provider?_registerProvider, lastProvider?_cons, LogEntry.provider?, h.provider]
        by_cases hid : id = d <;> simp [hid]
      · rw [lastSigner?_cons]
        exact h.signer d
      · exact Registry.connection?_congr
          ((Registry.provider?_registerProvider ..).trans (if_neg hid)) rfl
  | registerSigner ref signer =>
    rw [Client.mutate, registerSigner, after_change, entryOf]
    cases c.resolve ref with
    | error e => exact h
    | ok id =>
      show Tracks cfg r _ (.signer id signer :: log)
      refine h.rebindId rfl (fun d => ?_) (fun d => ?_) fun d hid => ?_
      · rw [lastProvider?_cons]
        exact h.provider d
      · rw [Registry.signer?_registerSigner, lastSigner?_cons, LogEntry.signer?, h.signer]
        by_cases hid : id = d <;> simp [hid]
      · exact Registry.connection?_congr rfl ((Registry.signer?_registerSigner ..).trans (if_neg hid))
  | unregisterSigner ref =>
    rw [Client.mutate, unregisterSigner, after_change, entryOf]
    cases c.resolve ref with
    | error e => exact h
    | ok id =>
      show Tracks cfg r _ (.unsigned id :: log)
      refine h.rebindId rfl (fun d => ?_) (fun d => ?_) fun d hid => ?_
      · rw [lastProvider?_cons]
        exact h.provider d
      · rw [Registry.signer?_unregisterSigner, lastSigner?_cons, LogEntry.signer?, h.signer]
        by_cases hid : id = d <;> simp [hid]
      · exact Registry.connection?_congr rfl ((Registry.signer?_unregisterSigner ..).trans (if_neg hid))
  | clearSigners =>
    show Tracks cfg r _ (.cleared :: log)
    refine h.rebindAll rfl (fun d => ?_) fun d => ?_
    · rw [lastProvider?_cons]
      exact h.provider d
    · rw [lastSigner?_cons]
      rfl
  | rebind ref =>
    rw [Client.mutate, rebind, after_change, entryOf]
    cases c.resolve ref with
    | error e => exact h
    | ok id => exact h.rebindId rfl h.provider h.signer fun _ _ => rfl
  | rebindAll => exact h.rebindAll rfl h.provider h.signer
  | registerDomain domain =>
    rw [Client.mutate]
    split
    · next registry hregistry =>
      have hr := Registry.registerDomain_eq_ok hregistry
      obtain ⟨connections, hD, hcurrent⟩ := h.current
      refine ⟨h.sound.withRegistry ?_, hr ▸ h.provider, hr ▸ h.signer, connections, hD, ?_⟩
      · rw [hr]
        exact fun d hd => List.mem_append_left _ hd
      · intro d hd
        rw [hcurrent d hd, hr]
        rfl
    · exact h

/-- **The run**: mutations keep the registry with the log and the directory with the registry. -/
theorem Tracks.mutateAll (h : Tracks cfg r c log) (ms : List Mutation) :
    Tracks cfg r (ms.foldl record (c, log)).1 (ms.foldl record (c, log)).2 := by
  induction ms generalizing c log with
  | nil => exact h
  | cons m rest ih => exact ih (h.mutate m)

/-- **No stale bindings**: after any mutations, whether they fail or not, the handles of a configured domain
are those that the configuration asks for, all bound to the provider that was registered last with the signer
that was registered last and not taken away since. They are bound to nothing exactly where the registry has no
provider. -/
theorem mutateAll_handles (hbuild : build cfg r = .ok c) (ms : List Mutation) {d : DomainConfig}
    (hd : d ∈ cfg.domains) :
    (c.mutateAll ms).1.directory.handles d.id =
        d.handles (lastConnection? r (c.mutateAll ms).2 d.id) ∧
      (lastConnection? r (c.mutateAll ms).2 d.id = none ↔
        (c.mutateAll ms).1.registry.provider? d.id = none) := by
  have h : Tracks cfg r (c.mutateAll ms).1 (c.mutateAll ms).2 := (tracks_of_build hbuild).mutateAll ms
  have hvalid : cfg.validate = .ok () := (build_eq_ok hbuild).1
  have hlast : lastConnection? r (c.mutateAll ms).2 d.id =
      (c.mutateAll ms).1.registry.connection? d.id := by
    rw [lastConnection?, ← h.provider, ← h.signer]
    rfl
  obtain ⟨connections, hD, hcurrent⟩ := h.current
  rw [hlast]
  constructor
  · rw [hD, Directory.handles_boundTo hvalid connections hd, hcurrent d hd]
  · exact Registry.connection?_eq_none_iff

/-- A signer that comes before any provider, a mutation that fails, and a signer that is taken away again on
the other domain. -/
theorem handles_signer_before_provider :
    let p : Provider := ⟨0, "http://alpha", .plain, 0⟩
    let s : Signer := ⟨1, .ofNat 0xa⟩
    let c : Client := ⟨⟨Config.testing.domainList, .empty, .empty⟩, .boundTo .testing fun _ => none⟩
    let ms : List Mutation :=
      [.registerSigner (.id 1) s, .registerSigner (.name "beta") s, .registerProvider (.name "gamma") p,
        .registerProvider (.name "alpha") p, .registerProvider (.id 2) p, .unregisterSigner (.id 2)]
    build .testing .empty = .ok c ∧
      (c.mutateAll ms).1.directory.handles 1 =
        [⟨1, .ofNat 0x1001, some ⟨p, some s⟩⟩, ⟨1, .ofNat 0x1002, some ⟨p, some s⟩⟩,
          ⟨1, .ofNat 0x1100, some ⟨p, some s⟩⟩, ⟨1, .ofNat 0x1200, some ⟨p, some s⟩⟩] ∧
      (c.mutateAll ms).1.directory.handles 2 =
        [⟨2, .ofNat 0x2001, some ⟨p, none⟩⟩, ⟨2, .ofNat 0x2002, some ⟨p, none⟩⟩,
          ⟨2, .ofNat 0x2100, some ⟨p, none⟩⟩] := by
  intro p s c ms
  have hbuild : build .testing .empty = .ok c := by decide +kernel
  refine ⟨hbuild, (mutateAll_handles hbuild ms (.head _)).1.trans ?_,
    (mutateAll_handles hbuild ms (.tail _ (.head _))).1.trans ?_⟩
  · decide +kernel
  · decide +kernel

end Client

end TokenBridge
