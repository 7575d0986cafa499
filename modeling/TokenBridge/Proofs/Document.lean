import TokenBridge.Document
import Mathlib.Data.List.Forall2
import Mathlib.Data.List.Nodup

/-!
# Documents that gain fields

Objects in a document may gain fields that they do not have, anywhere and in any number (`Document.Gains`). What a
record's field is looked up as is then what it was, with what it gained inside, or it is still missing, or it is what
was gained (`FieldsGain.found`). Everything about reading comes from that, one lemma for each way of reading:

* what is read of a value stays the value, whatever it gains that its record does not ask for (`Reads`);
* a reading does not tell a field that is left out from one that is given as usual (`Blind`).
-/

namespace TokenBridge.Document

/-- Which fields an object may gain, by the names that it has and the names of the fields that follow. -/
abbrev Gainable := List String → List String → String × Document → Prop

mutual

/-- A document with what its objects gained. -/
inductive Gains (may : Gainable) : Document → Document → Prop where
  /-- Nothing is gained. -/
  | same (d : Document) : Gains may d d
  /-- The items of a list gain something. -/
  | list {items items' : List Document} (h : List.Forall₂ (Gains may) items items') :
      Gains may (.list items) (.list items')
  /-- An object gains something. -/
  | object {fields fields' : List (String × Document)} (h : FieldsGain may (fields.map Prod.fst) fields fields') :
      Gains may (.object fields) (.object fields')

/-- The fields of an object that has the given names, with what they gained and new fields between them. -/
inductive FieldsGain (may : Gainable) :
    List String → List (String × Document) → List (String × Document) → Prop where
  /-- No fields are left. -/
  | nil (names : List String) : FieldsGain may names [] []
  /-- A field is kept, with what it gained. -/
  | keep {names : List String} {fields fields' : List (String × Document)} {d d' : Document} (name : String)
      (hd : Gains may d d') (h : FieldsGain may names fields fields') :
      FieldsGain may names ((name, d) :: fields) ((name, d') :: fields')
  /-- A field is gained. -/
  | gain {names : List String} {fields fields' : List (String × Document)} {field : String × Document}
      (hnew : field.1 ∉ names) (hmay : may names (fields'.map Prod.fst) field)
      (h : FieldsGain may names fields fields') :
      FieldsGain may names fields (field :: fields')

end

variable {may : Gainable} {names : List String} {fields fields' : List (String × Document)} {d d' : Document}

/-! ### What is found afterwards -/

theorem FieldsGain.refl (may : Gainable) (names : List String) (fields : List (String × Document)) :
    FieldsGain may names fields fields := by
  induction fields with
  | nil => exact .nil names
  | cons field rest ih => exact .keep field.1 (.same field.2) ih

/-- An object stays an object. -/
theorem Gains.of_object (h : Gains may (.object fields) d) :
    ∃ fields', d = .object fields' ∧ FieldsGain may (fields.map Prod.fst) fields fields' := by
  cases h with
  | same => exact ⟨fields, rfl, .refl may _ fields⟩
  | object h => exact ⟨_, rfl, h⟩

/-- A list stays a list of the same length. -/
theorem Gains.of_list {items : List Document} (h : Gains may (.list items) d) :
    ∃ items', d = .list items' ∧ List.Forall₂ (Gains may) items items' := by
  cases h with
  | same => exact ⟨items, rfl, List.forall₂_same.2 fun d _ => .same d⟩
  | list h => exact ⟨_, rfl, h⟩

/-- Whether a document is neither a list nor an object. -/
def isScalar : Document → Bool
  | .list _ | .object _ => false
  | _ => true

/-- A scalar gains nothing. -/
theorem Gains.of_scalar (h : Gains may d d') (hd : d.isScalar) : d' = d := by
  cases h with
  | same => rfl
  | list | object => cases hd

theorem Gains.isScalar_eq (h : Gains may d d') : d'.isScalar = d.isScalar := by
  cases h <;> rfl

/-- What a field is looked up as, before and after an object with the given names gained something. -/
inductive Found (may : Gainable) (names : List String) (name : String) :
    Option Document → Option Document → Prop where
  /-- The field is missing, as before. -/
  | missing : Found may names name none none
  /-- The field is there, as before, with what it gained. -/
  | kept {d d' : Document} (h : Gains may d d') : Found may names name (some d) (some d')
  /-- The field is gained. -/
  | gained {following : List String} {d : Document} (h : may names following (name, d)) :
      Found may names name none (some d)

theorem lookup_eq_none {name : String} (h : name ∉ fields.map Prod.fst) : lookup name fields = none := by
  induction fields with
  | nil => rfl
  | cons field rest ih =>
    obtain ⟨key, d⟩ := field
    rw [List.map_cons, List.mem_cons, not_or] at h
    rw [lookup, if_neg (Ne.symm h.1), ih h.2]

theorem FieldsGain.found (h : FieldsGain may names fields fields') (hnames : fields.map Prod.fst ⊆ names)
    (name : String) : Found may names name (lookup name fields) (lookup name fields') := by
  induction fields' generalizing fields with
  | nil =>
    cases h
    exact .missing
  | cons field rest ih =>
    cases h with
    | @keep _ _ _ d d' key hd h =>
      rw [List.map_cons, List.cons_subset] at hnames
      rw [lookup, lookup]
      by_cases hkey : key = name
      · rw [if_pos hkey, if_pos hkey]
        exact .kept hd
      · rw [if_neg hkey, if_neg hkey]
        exact ih h hnames.2
    | gain hnew hmay h =>
      obtain ⟨key, d⟩ := field
      rw [lookup]
      by_cases hkey : key = name
      · -- The name is new, so the object did not have it.
        subst hkey
        rw [if_pos rfl, lookup_eq_none fun hmem => hnew (hnames hmem)]
        exact .gained hmay
      · rw [if_neg hkey]
        exact ih h hnames

/-- An object with one field that may gain no other has just that field, with what it gained. -/
theorem FieldsGain.of_single {name : String} (h : FieldsGain may names [(name, d)] fields')
    (hmay : ∀ following field, ¬ may names following field) :
    ∃ d', fields' = [(name, d')] ∧ Gains may d d' := by
  cases h with
  | keep _ hd h =>
    cases h with
    | nil => exact ⟨_, rfl, hd⟩
    | gain _ hnew _ => exact absurd hnew (hmay _ _)
  | gain _ hnew _ => exact absurd hnew (hmay _ _)

/-- A name that the object had is found as often as before. -/
theorem FieldsGain.count_of_mem (h : FieldsGain may names fields fields') {name : String} (hname : name ∈ names) :
    (fields'.map Prod.fst).count name = (fields.map Prod.fst).count name := by
  induction fields' generalizing fields with
  | nil =>
    cases h
    rfl
  | cons field rest ih =>
    cases h with
    | keep key _ h => rw [List.map_cons, List.map_cons, List.count_cons, List.count_cons, ih h]
    | gain hnew _ h =>
      have hne : field.1 ≠ name := fun heq => hnew (heq.symm ▸ hname)
      rw [List.map_cons, List.count_cons_of_ne hne]
      exact ih h

/-- A name that the object did not have is found once at most, if no field is gained before another of its name. -/
theorem FieldsGain.count_of_notMem (h : FieldsGain may names fields fields')
    (hmay : ∀ names following field, may names following field → field.1 ∉ following) {name : String}
    (hname : name ∉ fields.map Prod.fst) : (fields'.map Prod.fst).count name ≤ 1 := by
  induction fields' generalizing fields with
  | nil => exact Nat.zero_le 1
  | cons field rest ih =>
    cases h with
    | keep key _ h =>
      rw [List.map_cons, List.mem_cons, not_or] at hname
      rw [List.map_cons, List.count_cons_of_ne (Ne.symm hname.1)]
      exact ih h hname.2
    | gain _ hnew h =>
      rw [List.map_cons]
      by_cases heq : field.1 = name
      · have hnone : (rest.map Prod.fst).count name = 0 := List.count_eq_zero.2 (heq ▸ hmay _ _ _ hnew)
        rw [heq, List.count_cons_self]
        exact Nat.le_of_eq (congrArg (· + 1) hnone)
      · rw [List.count_cons_of_ne heq]
        exact ih h hname

/-- An object with the fields of a record, each written once, stays one that repeats none of them. -/
theorem Gains.of_record (h : Gains may (.object fields) d) (names : List String)
    (hnames : fields.map Prod.fst = names) (hnodup : names.Nodup) :
    ∃ fields', d = .object fields' ∧ unrepeated names fields' ∧
      FieldsGain may (fields.map Prod.fst) fields fields' := by
  obtain ⟨fields', rfl, hfields⟩ := h.of_object
  have hunrepeated : unrepeated names fields' := List.all_eq_true.2 fun name hname => by
    rw [hfields.count_of_mem (hnames ▸ hname), hnames]
    exact decide_eq_true (List.nodup_iff_count_le_one.1 hnodup name)
  exact ⟨fields', rfl, hunrepeated, hfields⟩

/-! ### Reading back -/

section Reading

variable {α : Type} {read : Document → Option α} {value : α}

/-- A document is read as a value, whatever it gained. -/
def Reads (may : Gainable) (read : Document → Option α) (d : Document) (value : α) : Prop :=
  ∀ d', Gains may d d' → read d' = some value

theorem Reads.eq (h : Reads may read d value) : read d = some value := h d (.same d)

theorem reads_scalar (hd : d.isScalar) (h : read d = some value) : Reads may read d value :=
  fun _ hgains => (hgains.of_scalar hd).symm ▸ h

/-- A list is read where its items are. -/
theorem reads_list {write : α → Document} (values : List α) (h : ∀ v ∈ values, Reads may read (write v) v) :
    Reads may (list? read) (.list (values.map write)) values := by
  intro d hgains
  obtain ⟨items, rfl, hitems⟩ := hgains.of_list
  clear hgains
  show items.mapM read = some values
  induction values generalizing items with
  | nil =>
    cases hitems
    rfl
  | cons v rest ih =>
    rw [List.map_cons] at hitems
    cases hitems with
    | cons hd hrest =>
      rw [List.mapM_cons, h v List.mem_cons_self _ hd,
        ih (fun v hv => h v (List.mem_cons_of_mem _ hv)) _ hrest]
      rfl

/-- A value that may be none is read, where `null` is not one. -/
theorem reads_nullable {write : α → Document} (hnull : read .null = none) (value : Option α)
    (h : ∀ v, value = some v → Reads may read (write v) v) :
    Reads may (nullable? read) (ofOption write value) value := by
  intro d hgains
  cases value with
  | none =>
    rw [hgains.of_scalar rfl]
    rfl
  | some v =>
    have hread := h v rfl d hgains
    cases d with
    | null => exact nomatch hnull.symm.trans hread
    | _ => exact congrArg (Option.map some) hread

/-- A field that a record asks for is read. -/
theorem FieldsGain.required_eq_some (h : FieldsGain may (fields.map Prod.fst) fields fields') (name : String)
    (hfield : lookup name fields = some d) (hread : Reads may read d value) :
    required read name fields' = some value := by
  have hfound := h.found (List.Subset.refl _) name
  rw [hfield] at hfound
  rw [required]
  generalize lookup name fields' = found at hfound
  cases hfound with
  | kept hgains => exact hread _ hgains

/-- So is one that may be missing and is there. -/
theorem FieldsGain.optional_eq_some (h : FieldsGain may (fields.map Prod.fst) fields fields') (name : String)
    (hfield : lookup name fields = some d) (hread : Reads may read d value) (default : α) :
    optional read default name fields' = some value := by
  have hfound := h.found (List.Subset.refl _) name
  rw [hfield] at hfound
  rw [optional]
  generalize lookup name fields' = found at hfound
  cases hfound with
  | kept hgains => exact hread _ hgains

end Reading

/-! ### Scalars -/

section Scalars

variable (may)

theorem natBelow?_ofNat {bound n : Nat} (h : n < bound) : natBelow? bound (.ofNat n) = some n := if_pos h

theorem reads_uint8 (n : UInt8) : Reads may uint8? (.ofNat n.toNat) n := by
  refine reads_scalar rfl ?_
  rw [uint8?, natBelow?_ofNat n.toNat_lt, Option.map_some, UInt8.ofNat_toNat]

theorem reads_uint32 (n : UInt32) : Reads may uint32? (.ofNat n.toNat) n := by
  refine reads_scalar rfl ?_
  rw [uint32?, natBelow?_ofNat n.toNat_lt, Option.map_some, UInt32.ofNat_toNat]

theorem reads_uint64 (n : UInt64) : Reads may uint64? (.ofNat n.toNat) n := by
  refine reads_scalar rfl ?_
  rw [uint64?, natBelow?_ofNat n.toNat_lt, Option.map_some, UInt64.ofNat_toNat]

theorem reads_bool (b : Bool) : Reads may bool? (.bool b) b := reads_scalar rfl rfl

theorem reads_string (s : String) : Reads may string? (.text s) s := reads_scalar rfl rfl

theorem reads_address (a : Address) : Reads may address? (.ofAddress a) a := by
  refine reads_scalar rfl ?_
  rw [address?, ofAddress, string?, Option.bind_some, Address.ofText?, Address.text,
    Hex.ofText?_text (show a.toNat < 16 ^ 40 from a.isLt), Option.map_some]
  exact congrArg some (Address.ext (Nat.mod_eq_of_lt a.isLt))

theorem reads_word (w : Word) : Reads may word? (.ofWord w) w := by
  refine reads_scalar rfl ?_
  rw [word?, ofWord, string?, Option.bind_some, Word.ofText?, Word.text,
    Hex.ofText?_text (show w.toNat < 16 ^ 64 from w.isLt), Option.map_some, Word.ofNat_toNat]

theorem reads_quantity (a : Quantity) : Reads may quantity? (.ofQuantity a) a := by
  refine reads_scalar rfl ?_
  rw [quantity?, ofQuantity, string?, Option.bind_some,
    Hex.ofShortText?_minimalText (by decide) (show a.toNat < 16 ^ 64 from a.isLt), Option.map_some,
    Quantity.ofNat_toNat]

theorem reads_bytes (bs : Bytes) : Reads may bytes? (.ofBytes bs) bs := reads_list bs fun b _ => reads_uint8 may b

end Scalars

/-! ### What a reading does not tell apart -/

section Blindness

variable {α : Type} {read : Document → Option α}

/-- A reading does not tell a document from one that gained fields. -/
def Blind (may : Gainable) (read : Document → Option α) : Prop := ∀ d d', Gains may d d' → read d' = read d

theorem blind_scalar (h : ∀ d, d.isScalar = false → read d = none) : Blind may read := by
  intro d d' hgains
  cases hd : d.isScalar with
  | true => rw [hgains.of_scalar hd]
  | false => rw [h d hd, h d' (hgains.isScalar_eq.trans hd)]

section

variable (may)

theorem natBelow?_eq_none {bound : Nat} (hd : d.isScalar = false) : natBelow? bound d = none := by
  cases d with
  | list | object => rfl
  | _ => cases hd

theorem string?_eq_none (hd : d.isScalar = false) : string? d = none := by
  cases d with
  | list | object => rfl
  | _ => cases hd

theorem blind_uint32 : Blind may uint32? :=
  blind_scalar fun _ hd => congrArg (Option.map UInt32.ofNat) (natBelow?_eq_none hd)

theorem blind_uint64 : Blind may uint64? :=
  blind_scalar fun _ hd => congrArg (Option.map UInt64.ofNat) (natBelow?_eq_none hd)

theorem blind_string : Blind may string? := blind_scalar fun _ hd => string?_eq_none hd

theorem blind_address : Blind may address? :=
  blind_scalar fun _ hd => congrArg (Option.bind · Address.ofText?) (string?_eq_none hd)

end

theorem Blind.list (h : Blind may read) : Blind may (list? read) := by
  intro d d' hgains
  cases hgains with
  | same => rfl
  | object => rfl
  | list hitems =>
    show List.mapM read _ = List.mapM read _
    induction hitems with
    | nil => rfl
    | cons hd _ ih => rw [List.mapM_cons, List.mapM_cons, h _ _ hd, ih]

theorem Blind.nullable (h : Blind may read) : Blind may (nullable? read) := by
  intro d d' hgains
  cases hd : d.isScalar with
  | true => rw [hgains.of_scalar hd]
  | false =>
    -- Neither document is null.
    have hd' := hgains.isScalar_eq.trans hd
    have hmap : ∀ d : Document, d.isScalar = false → nullable? read d = (read d).map some := by
      intro d hd
      cases d with
      | list | object => rfl
      | _ => cases hd
    rw [hmap d hd, hmap d' hd', h d d' hgains]

/-- A name is repeated exactly where it was before, if no field is gained before another of its name. -/
theorem FieldsGain.unrepeated_eq (h : FieldsGain may (fields.map Prod.fst) fields fields')
    (hmay : ∀ names following field, may names following field → field.1 ∉ following) (names : List String) :
    unrepeated names fields' = unrepeated names fields := by
  refine congrArg names.all (funext fun name => ?_)
  by_cases hname : name ∈ fields.map Prod.fst
  · rw [h.count_of_mem hname]
  · rw [List.count_eq_zero.2 hname, decide_eq_true (h.count_of_notMem hmay hname)]
    rfl

/-- The fields of a record before and after it gained something, if it is one and no field is gained before
another of its name. -/
theorem Gains.record (h : Gains may d d')
    (hmay : ∀ names following field, may names following field → field.1 ∉ following) (names : List String) :
    (d.record? names = none ∧ d'.record? names = none) ∨ ∃ fields fields', d.record? names = some fields ∧
      d'.record? names = some fields' ∧ FieldsGain may (fields.map Prod.fst) fields fields' := by
  cases h with
  | same =>
    cases hrecord : d.record? names with
    | none => exact .inl ⟨rfl, rfl⟩
    | some fields => exact .inr ⟨fields, fields, rfl, rfl, .refl may _ fields⟩
  | object h =>
    rw [record?_object, record?_object, h.unrepeated_eq hmay]
    split
    · exact .inr ⟨_, _, rfl, rfl, h⟩
    · exact .inl ⟨rfl, rfl⟩
  | list h =>
    rw [record?, record?, ← h.length_eq]
    split
    · refine .inr ⟨_, _, rfl, rfl, ?_⟩
      -- The names stand for the values at the same places.
      generalize (names.zip _).map Prod.fst = all
      clear * - h
      induction h generalizing names with
      | nil => rw [List.zip_nil_right]; exact .nil all
      | cons hd _ ih =>
        cases names with
        | nil => exact .nil all
        | cons name names => exact .keep name hd (ih names)
    · exact .inl ⟨rfl, rfl⟩

/-- A field that has to be there is read alike, if it may not be gained. -/
theorem FieldsGain.required_eq (h : FieldsGain may (fields.map Prod.fst) fields fields') (name : String)
    (hread : Blind may read) (hmay : ∀ names following d, ¬ may names following (name, d)) :
    required read name fields' = required read name fields := by
  have hfound := h.found (List.Subset.refl _) name
  rw [required, required]
  generalize lookup name fields = before at hfound
  generalize lookup name fields' = after at hfound
  cases hfound with
  | missing => rfl
  | kept hgains => exact hread _ _ hgains
  | gained hnew => exact absurd hnew (hmay _ _ _)

/-- A field that may be missing is read alike, if what may be gained is read as what a missing one means. -/
theorem FieldsGain.optional_eq (h : FieldsGain may (fields.map Prod.fst) fields fields') (name : String)
    (hread : Blind may read) (default : α)
    (hmay : ∀ names following d, may names following (name, d) → read d = some default) :
    optional read default name fields' = optional read default name fields := by
  have hfound := h.found (List.Subset.refl _) name
  rw [optional, optional]
  generalize lookup name fields = before at hfound
  generalize lookup name fields' = after at hfound
  cases hfound with
  | missing => rfl
  | kept hgains => exact hread _ _ hgains
  | gained hnew => exact hmay _ _ _ hnew

end Blindness

end TokenBridge.Document
