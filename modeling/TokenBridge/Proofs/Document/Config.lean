import TokenBridge.Document.Config
import TokenBridge.Proofs.Document.Transfer

/-!
# Configurations survive being kept

What a configuration is kept as is read as that configuration again, whatever its records gain (`Config.reads`). And
however a configuration is written down, as one that can be read or not, it makes no difference whether something that
may be left out is left out or given as usual (`Config.blind`): no reader tells a document from one whose objects gained
usual fields (`Document.Usual`), and each default is what the usual field is read as.
-/

namespace TokenBridge

open Document

/-- The fields that may be left out, as they usually are. -/
def Document.usualFields : List (String × Document) :=
  [("replicas", .list []), ("bridge", .null), ("native_helper", .null),
    ("confirmations", .ofNat Config.defaultConfirmations.toNat),
    ("receipt_timeout_secs", .ofNat Config.defaultReceiptTimeout.toNat)]

/-- An object may gain a usual field that it does not have, once. -/
def Document.Usual : Gainable := fun _ following field => field ∈ usualFields ∧ field.1 ∉ following

variable {may : Gainable}

/-! ### Reading back -/

theorem ReplicaConfig.reads (c : ReplicaConfig) : Reads may ReplicaConfig.ofDocument? c.toDocument c := by
  intro d hd
  obtain ⟨fields, rfl, hfields, h⟩ := hd.of_record ["domain", "address"] rfl (by decide)
  have hdomain := h.required_eq_some "domain" rfl (reads_uint32 may c.domain)
  have haddress := h.required_eq_some "address" rfl (reads_address may c.address)
  simp [ofDocument?, record?, object?, hfields, hdomain, haddress]

theorem BridgeConfig.reads (c : BridgeConfig) : Reads may BridgeConfig.ofDocument? c.toDocument c := by
  intro d hd
  obtain ⟨fields, rfl, hfields, h⟩ := hd.of_record ["router", "native_helper"] rfl (by decide)
  have hrouter := h.required_eq_some "router" rfl (reads_address may c.router)
  have hhelper := h.optional_eq_some "native_helper" rfl
    (reads_nullable rfl c.nativeHelper fun a _ => reads_address may a) none
  simp [ofDocument?, record?, object?, hfields, hrouter, hhelper]

theorem DomainConfig.reads (c : DomainConfig) : Reads may DomainConfig.ofDocument? c.toDocument c := by
  intro d hd
  obtain ⟨fields, rfl, hfields, h⟩ :=
    hd.of_record ["id", "name", "home", "replicas", "bridge", "confirmations"] rfl (by decide)
  have hid := h.required_eq_some "id" rfl (reads_uint32 may c.id)
  have hname := h.required_eq_some "name" rfl (reads_string may c.name)
  have hhome := h.required_eq_some "home" rfl (reads_address may c.home)
  have hreplicas := h.optional_eq_some "replicas" rfl (reads_list c.replicas fun r _ => r.reads) []
  have hbridge := h.optional_eq_some "bridge" rfl
    (reads_nullable rfl c.bridge fun b _ => b.reads) none
  have hconfirmations := h.optional_eq_some "confirmations" rfl (reads_uint64 may c.confirmations)
    Config.defaultConfirmations
  simp [ofDocument?, record?, object?, hfields, hid, hname, hhome, hreplicas, hbridge, hconfirmations]

/-- **A kept configuration is read as that configuration**, whatever fields its records gained. -/
theorem Config.reads (c : Config) : Reads may Config.ofDocument? c.toDocument c := by
  intro d hd
  obtain ⟨fields, rfl, hfields, h⟩ := hd.of_record ["environment", "receipt_timeout_secs", "domains"] rfl (by decide)
  have henvironment := h.required_eq_some "environment" rfl (reads_string may c.environment)
  have htimeout := h.optional_eq_some "receipt_timeout_secs" rfl (reads_uint64 may c.receiptTimeout)
    defaultReceiptTimeout
  have hdomains := h.required_eq_some "domains" rfl (reads_list c.domains fun d _ => d.reads)
  simp [ofDocument?, record?, object?, hfields, henvironment, htimeout, hdomains]

/-! ### Leaving out what is usual -/

theorem ReplicaConfig.blind : Blind Usual ReplicaConfig.ofDocument? := by
  intro d d' hd
  obtain ⟨hnone, hnone'⟩ | ⟨fields, fields', hfields, hfields', h⟩ :=
    hd.record (fun _ _ _ h => h.2) ["domain", "address"]
  · simp [ofDocument?, hnone, hnone']
  · have hdomain := h.required_eq "domain" (blind_uint32 Usual) (by simp [Usual, usualFields])
    have haddress := h.required_eq "address" (blind_address Usual) (by simp [Usual, usualFields])
    simp [ofDocument?, hfields, hfields', hdomain, haddress]

theorem BridgeConfig.blind : Blind Usual BridgeConfig.ofDocument? := by
  intro d d' hd
  obtain ⟨hnone, hnone'⟩ | ⟨fields, fields', hfields, hfields', h⟩ :=
    hd.record (fun _ _ _ h => h.2) ["router", "native_helper"]
  · simp [ofDocument?, hnone, hnone']
  · have hrouter := h.required_eq "router" (blind_address Usual) (by simp [Usual, usualFields])
    have hhelper := h.optional_eq "native_helper" (blind_address Usual).nullable none
      (by simp [Usual, usualFields, nullable?])
    simp [ofDocument?, hfields, hfields', hrouter, hhelper]

theorem DomainConfig.blind : Blind Usual DomainConfig.ofDocument? := by
  intro d d' hd
  obtain ⟨hnone, hnone'⟩ | ⟨fields, fields', hfields, hfields', h⟩ :=
    hd.record (fun _ _ _ h => h.2) ["id", "name", "home", "replicas", "bridge", "confirmations"]
  · simp [ofDocument?, hnone, hnone']
  · have hid := h.required_eq "id" (blind_uint32 Usual) (by simp [Usual, usualFields])
    have hname := h.required_eq "name" (blind_string Usual) (by simp [Usual, usualFields])
    have hhome := h.required_eq "home" (blind_address Usual) (by simp [Usual, usualFields])
    have hreplicas := h.optional_eq "replicas" ReplicaConfig.blind.list []
      (by simp [Usual, usualFields, list?])
    have hbridge := h.optional_eq "bridge" BridgeConfig.blind.nullable none
      (by simp [Usual, usualFields, nullable?])
    have hconfirmations := h.optional_eq "confirmations" (blind_uint64 Usual) Config.defaultConfirmations
      (by simp [Usual, usualFields, (reads_uint64 Usual _).eq])
    simp [ofDocument?, hfields, hfields', hid, hname, hhome, hreplicas, hbridge, hconfirmations]

/-- **What is left out is as good as given**: a document reads as the one with the usual fields that it leaves out. -/
theorem Config.blind : Blind Usual Config.ofDocument? := by
  intro d d' hd
  obtain ⟨hnone, hnone'⟩ | ⟨fields, fields', hfields, hfields', h⟩ :=
    hd.record (fun _ _ _ h => h.2) ["environment", "receipt_timeout_secs", "domains"]
  · simp [ofDocument?, hnone, hnone']
  · have henvironment := h.required_eq "environment" (blind_string Usual) (by simp [Usual, usualFields])
    have htimeout := h.optional_eq "receipt_timeout_secs" (blind_uint64 Usual) defaultReceiptTimeout
      (by simp [Usual, usualFields, (reads_uint64 Usual _).eq])
    have hdomains := h.required_eq "domains" DomainConfig.blind.list (by simp [Usual, usualFields])
    simp [ofDocument?, hfields, hfields', henvironment, htimeout, hdomains]

/-! ### Both -/

/-- **What is kept survives.** Every transfer and every configuration is what its document is read as, also when the
records in the document gained unknown fields; and of what a configuration may leave out, it makes no difference
whether it is left out or given as usual. -/
theorem documents_survive :
    (∀ t : Transfer, Transfer.ofDocument? t.toDocument = some t ∧
        ∀ d, Gains Unknown t.toDocument d → Transfer.ofDocument? d = some t) ∧
      (∀ c : Config, Config.ofDocument? c.toDocument = some c ∧
        ∀ d, Gains Unknown c.toDocument d → Config.ofDocument? d = some c) ∧
      ∀ d d', Gains Usual d d' → Config.ofDocument? d' = Config.ofDocument? d := by
  refine ⟨fun t => ⟨t.reads.eq, t.reads⟩, fun c => ?_, Config.blind⟩
  have hreads : Reads Unknown Config.ofDocument? c.toDocument c := c.reads
  exact ⟨hreads.eq, hreads⟩

/-- A configuration with one domain, of which everything is usual. -/
def usualConfig : Config := .ofDomains "test" [⟨1, "alpha", .ofNat 0x1001, [], none, Config.defaultConfirmations⟩]

/-- The same written down with no more than has to be there. -/
def bareDocument : Document :=
  .object [("environment", .text "test"), ("domains", .list [
    .object [("id", .ofNat 1), ("name", .text "alpha"), ("home", .ofAddress (.ofNat 0x1001))]])]

theorem gains_bareDocument : Gains Usual bareDocument usualConfig.toDocument := by
  have hdomain : Gains Usual
      (.object [("id", .ofNat 1), ("name", .text "alpha"), ("home", .ofAddress (.ofNat 0x1001))])
      (DomainConfig.toDocument ⟨1, "alpha", .ofNat 0x1001, [], none, Config.defaultConfirmations⟩) := by
    refine .object (.keep "id" (.same _) (.keep "name" (.same _) (.keep "home" (.same _) ?_)))
    exact .gain (by simp) (by simp [Usual, usualFields]) (.gain (by simp) (by simp [Usual, usualFields, ofOption])
      (.gain (by simp) (by simp [Usual, usualFields]) (.nil _)))
  have htimeout : Usual ["environment", "domains"] ["domains"]
      ("receipt_timeout_secs", .ofNat usualConfig.receiptTimeout.toNat) := by
    simp [Usual, usualFields, usualConfig, Config.ofDomains]
  refine .object (.keep "environment" (.same _) (.gain (by simp) htimeout ?_))
  exact .keep "domains" (.list (.cons hdomain .nil)) (.nil _)

/-- A transfer of 60, with a receipt that tells of its announcement and of an approval. -/
def storedTransfer : Transfer :=
  let announced : Dispatch := ⟨.zero, .zero, 0, .zero, [1, 2]⟩
  { dispatch := announced
    message := ⟨1, .zero, 0, 2, .zero, [3]⟩
    action := ⟨.ofAddress 1 (.ofNat 0x3001), .zero, .ofNat 60⟩
    receipt := ⟨.zero, 1, true, [⟨.ofNat 0x1001, .dispatch announced⟩,
      ⟨.ofNat 0x3001, .approval (.ofNat 0xa) (.ofNat 0x1100) (.ofNat 60)⟩]⟩ }

/-- The bare document is read as the configuration, and the transfer as itself, with a remark that nobody asks for. -/
theorem documents_survive_usual :
    Config.ofDocument? bareDocument = some usualConfig ∧
      Transfer.ofDocument? (.object [("dispatch", storedTransfer.dispatch.toDocument),
        ("remark", .text "first"), ("message", storedTransfer.message.toDocument),
        ("action", storedTransfer.action.toDocument), ("receipt", storedTransfer.receipt.toDocument)]) =
          some storedTransfer := by
  obtain ⟨htransfer, hconfig, husual⟩ := documents_survive
  constructor
  · rw [← husual bareDocument usualConfig.toDocument gains_bareDocument]
    exact (hconfig usualConfig).1
  · refine (htransfer storedTransfer).2 _ (.object (.keep "dispatch" (.same _) (.gain ?_ ?_ (.refl ..))))
    · simp
    · simp [Unknown]

end TokenBridge
