import TokenBridge.Quantity
import TokenBridge.Address

/-!
# Documents

The form in which values are kept outside: a tree of the values that JSON can write. This module has the
tree, the look-up of a field, and how scalars are read and written. Reading is strict: a number has to be
an integer in range, and a text is no number. A record is kept as an object in which no field that is asked for
is repeated; any other field does not matter. A record is also read from the list of its fields in order.
-/

namespace TokenBridge

/-- A JSON value. -/
inductive Document where
  /-- The value `null`. -/
  | null
  /-- A truth value. -/
  | bool (value : Bool)
  /-- A number without fraction and exponent. -/
  | integer (value : Int)
  /-- Any other number; nothing that is kept is one. -/
  | fraction
  /-- A text. -/
  | text (value : String)
  /-- A list. -/
  | list (items : List Document)
  /-- An object, by its fields. -/
  | object (fields : List (String × Document))

namespace Document

instance : Inhabited Document := ⟨.null⟩

/-- The value of a field, the first of the name. -/
def lookup (name : String) : List (String × Document) → Option Document
  | [] => none
  | (key, value) :: rest => if key = name then some value else lookup name rest

/-- Whether no field of the given names is repeated. -/
def unrepeated (names : List String) (fields : List (String × Document)) : Bool :=
  names.all fun name => (fields.map Prod.fst).count name ≤ 1

/-- The fields of an object that does not repeat one of the given names. -/
def object? (names : List String) : Document → Option (List (String × Document))
  | .object fields => if unrepeated names fields then some fields else none
  | _ => none

/-- The fields of a record whose fields have the given names: an object that repeats none of them, or a list of
their values in this order. A list may end early, and then the fields that it does not reach are missing. -/
def record? (names : List String) : Document → Option (List (String × Document))
  | .list items => if items.length ≤ names.length then some (names.zip items) else none
  | document => document.object? names

theorem record?_object (names : List String) (fields : List (String × Document)) :
    (object fields).record? names = if unrepeated names fields then some fields else none := rfl

/-- Reads a field that has to be there. -/
def required {α : Type} (read : Document → Option α) (name : String)
    (fields : List (String × Document)) : Option α :=
  (lookup name fields).bind read

/-- Reads a field that may be missing, which means the given value. -/
def optional {α : Type} (read : Document → Option α) (default : α) (name : String)
    (fields : List (String × Document)) : Option α :=
  match lookup name fields with
  | some document => read document
  | none => some default

/-! ### Reading scalars -/

/-- A natural number below a bound. -/
def natBelow? (bound : Nat) : Document → Option Nat
  | .integer (.ofNat n) => if n < bound then some n else none
  | _ => none

/-- A number of 8 bits. -/
def uint8? (d : Document) : Option UInt8 := (natBelow? (2 ^ (8 : Nat)) d).map UInt8.ofNat

/-- A number of 32 bits. -/
def uint32? (d : Document) : Option UInt32 := (natBelow? (2 ^ (32 : Nat)) d).map UInt32.ofNat

/-- A number of 64 bits. -/
def uint64? (d : Document) : Option UInt64 := (natBelow? (2 ^ (64 : Nat)) d).map UInt64.ofNat

/-- A truth value. -/
def bool? : Document → Option Bool
  | .bool value => some value
  | _ => none

/-- A text. -/
def string? : Document → Option String
  | .text value => some value
  | _ => none

/-- An address in full length, with or without `0x`. -/
def address? (d : Document) : Option Address := d.string?.bind Address.ofText?

/-- A word in full length, with or without `0x`. -/
def word? (d : Document) : Option Word := d.string?.bind Word.ofText?

/-- A quantity of up to 64 characters, with or without `0x`. -/
def quantity? (d : Document) : Option Quantity :=
  (d.string?.bind (Hex.ofShortText? 64)).map Quantity.ofNat

/-- A list of values that are read alike. -/
def list? {α : Type} (read : Document → Option α) : Document → Option (List α)
  | .list items => items.mapM read
  | _ => none

/-- A value, or `null` for none. -/
def nullable? {α : Type} (read : Document → Option α) : Document → Option (Option α)
  | .null => some none
  | d => (read d).map some

/-- A byte string: a list of its bytes. -/
def bytes? (d : Document) : Option Bytes := list? uint8? d

/-! ### Writing scalars -/

/-- A number. -/
def ofNat (n : Nat) : Document := .integer n

/-- An address in full length. -/
def ofAddress (a : Address) : Document := .text a.text

/-- A word in full length. -/
def ofWord (w : Word) : Document := .text w.text

/-- A quantity in as few digits as it needs. -/
def ofQuantity (a : Quantity) : Document := .text (Hex.minimalText a.toNat)

/-- A byte string as the list of its bytes. -/
def ofBytes (bytes : Bytes) : Document := .list (bytes.map fun b => ofNat b.toNat)

/-- A value, or `null` for none. -/
def ofOption {α : Type} (write : α → Document) : Option α → Document
  | some value => write value
  | none => .null

end Document

end TokenBridge
