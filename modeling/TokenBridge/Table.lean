/-!
# Finite tables

A `Table κ ν` keeps at most one value for each key. It is a list of pairs without a repeated key, in the
order in which the keys first came in: writing to a known key keeps its place, a new key goes to the end.

Everything is said through `get?`: `get?_insert`, `get?_erase` and `get?_map` tell what each operation does
to it, and `mem_keys` ties it to the list of keys.
-/

namespace TokenBridge

universe u v w

/-- A finite map as a list of pairs, in the order in which the keys first came in. -/
structure Table (κ : Type u) (ν : Type v) where
  /-- The pairs of the table. -/
  entries : List (κ × ν)
  /-- No key is listed twice. -/
  nodup : (entries.map Prod.fst).Nodup
deriving DecidableEq

namespace Table

variable {κ : Type u} {ν : Type v} {μ : Type w}

/-- The table without entries. -/
def empty : Table κ ν := ⟨[], List.nodup_nil⟩

instance : Inhabited (Table κ ν) := ⟨empty⟩

/-- The keys, in the order in which they first came in. -/
def keys (t : Table κ ν) : List κ := t.entries.map Prod.fst

/-- The values, in the order of their keys. -/
def values (t : Table κ ν) : List ν := t.entries.map Prod.snd

/-- How many keys have a value. -/
def size (t : Table κ ν) : Nat := t.entries.length

/-- The same keys with other values, each computed from its key and the value before. -/
def map (f : κ → ν → μ) (t : Table κ ν) : Table κ μ where
  entries := t.entries.map fun e => (e.1, f e.1 e.2)
  nodup := by simpa [Function.comp_def] using t.nodup

@[simp] theorem keys_map (f : κ → ν → μ) (t : Table κ ν) : (t.map f).keys = t.keys := by
  simp [keys, map, Function.comp_def]

variable [DecidableEq κ]

/-- The value that a list of pairs gives for a key: that of the first pair with the key. -/
def find? : List (κ × ν) → κ → Option ν
  | [], _ => none
  | (k, v) :: rest, key => if k = key then some v else find? rest key

/-- A list of pairs with a value written for a key: in the key's place, or at the end. -/
def put : List (κ × ν) → κ → ν → List (κ × ν)
  | [], key, value => [(key, value)]
  | (k, v) :: rest, key, value =>
    if k = key then (k, value) :: rest else (k, v) :: put rest key value

theorem mem_keys_put {entries : List (κ × ν)} {key k : κ} {value : ν} :
    k ∈ (put entries key value).map Prod.fst ↔ k = key ∨ k ∈ entries.map Prod.fst := by
  induction entries with
  | nil => simp [put]
  | cons e rest ih =>
    obtain ⟨k', v'⟩ := e
    by_cases h : k' = key
    · simp [put, h]
    · rw [put, if_neg h]
      simp only [List.map_cons, List.mem_cons, ih]
      exact or_left_comm

theorem nodup_put {entries : List (κ × ν)} (h : (entries.map Prod.fst).Nodup) (key : κ) (value : ν) :
    ((put entries key value).map Prod.fst).Nodup := by
  induction entries with
  | nil => simp [put]
  | cons e rest ih =>
    obtain ⟨k', v'⟩ := e
    by_cases hk : k' = key
    · simpa [put, hk] using h
    · rw [put, if_neg hk]
      rw [List.map_cons, List.nodup_cons] at h ⊢
      exact ⟨fun hm => (mem_keys_put.1 hm).elim hk h.1, ih h.2⟩

/-- The value of a key, if it has one. -/
def get? (t : Table κ ν) (key : κ) : Option ν := find? t.entries key

/-- Whether a key has a value. -/
def contains (t : Table κ ν) (key : κ) : Bool := (t.get? key).isSome

/-- The value of a key, or the given one for a key without a value. -/
def getD (t : Table κ ν) (key : κ) (default : ν) : ν := (t.get? key).getD default

/-- Writes a value for a key. -/
def insert (t : Table κ ν) (key : κ) (value : ν) : Table κ ν :=
  ⟨put t.entries key value, nodup_put t.nodup key value⟩

/-- Removes a key with its value. -/
def erase (t : Table κ ν) (key : κ) : Table κ ν where
  entries := t.entries.filter fun e => e.1 ≠ key
  nodup := (List.filter_sublist.map Prod.fst).nodup t.nodup

/-- Changes the value of a key; a key without a value stays without one. -/
def modify (t : Table κ ν) (key : κ) (f : ν → ν) : Table κ ν :=
  match t.get? key with
  | some value => t.insert key (f value)
  | none => t

/-- The table of a list of pairs, written one after the other. -/
def ofList (entries : List (κ × ν)) : Table κ ν :=
  entries.foldl (fun t e => t.insert e.1 e.2) empty

/-! ### What each operation does to the look-up -/

@[simp] theorem get?_empty (key : κ) : (empty : Table κ ν).get? key = none := rfl

theorem find?_put (entries : List (κ × ν)) (key : κ) (value : ν) (k : κ) :
    find? (put entries key value) k = if key = k then some value else find? entries k := by
  induction entries with
  | nil => simp [put, find?]
  | cons e rest ih =>
    obtain ⟨k', v'⟩ := e
    by_cases hk : k' = key
    · subst hk
      by_cases h : k' = k <;> simp [put, find?, h]
    · by_cases h : k' = k
      · subst h
        simp [put, find?, hk, Ne.symm hk]
      · simp [put, find?, hk, h, ih]

theorem get?_insert (t : Table κ ν) (key : κ) (value : ν) (k : κ) :
    (t.insert key value).get? k = if key = k then some value else t.get? k :=
  find?_put t.entries key value k

@[simp] theorem get?_insert_self (t : Table κ ν) (key : κ) (value : ν) :
    (t.insert key value).get? key = some value := by
  simp [get?_insert]

theorem get?_insert_of_ne (t : Table κ ν) {key k : κ} (value : ν) (h : key ≠ k) :
    (t.insert key value).get? k = t.get? k := by
  simp [get?_insert, h]

theorem get?_erase (t : Table κ ν) (key k : κ) :
    (t.erase key).get? k = if key = k then none else t.get? k := by
  show find? (t.entries.filter _) k = if key = k then none else find? t.entries k
  induction t.entries with
  | nil => simp [find?]
  | cons e rest ih =>
    obtain ⟨k', v'⟩ := e
    by_cases hk : k' = key
    · subst hk
      by_cases h : k' = k <;> simp_all [find?]
    · by_cases h : k' = k
      · subst h
        simp [find?, hk, Ne.symm hk]
      · simpa [find?, hk, h] using ih

theorem get?_modify (t : Table κ ν) (key : κ) (f : ν → ν) (k : κ) :
    (t.modify key f).get? k = if key = k then (t.get? k).map f else t.get? k := by
  unfold modify
  split
  next value h =>
    rw [get?_insert]
    split
    next hk => rw [← hk, h]; rfl
    next => rfl
  next h =>
    split
    next hk => rw [← hk, h]; rfl
    next => rfl

theorem get?_map (f : κ → ν → μ) (t : Table κ ν) (k : κ) : (t.map f).get? k = (t.get? k).map (f k) := by
  show find? (t.entries.map _) k = (find? t.entries k).map (f k)
  induction t.entries with
  | nil => rfl
  | cons e rest ih =>
    obtain ⟨k', v'⟩ := e
    by_cases h : k' = k
    · simp [find?, h]
    · simpa [find?, h] using ih

theorem mem_keys {t : Table κ ν} {k : κ} : k ∈ t.keys ↔ ∃ v, t.get? k = some v := by
  show k ∈ t.entries.map Prod.fst ↔ ∃ v, find? t.entries k = some v
  induction t.entries with
  | nil => simp [find?]
  | cons e rest ih =>
    obtain ⟨k', v'⟩ := e
    by_cases h : k' = k
    · simp [find?, h]
    · simp only [List.map_cons, List.mem_cons, ih, find?, if_neg h, Ne.symm h, false_or]

end Table

end TokenBridge
