import TokenBridge.BigEndian

/-!
# Quantities

An unsigned number of at most 256 bits: an amount of a token, a value of the native asset, an index.
Adding stops at the greatest quantity; taking away is only done after a comparison.
-/

namespace TokenBridge

/-- An unsigned number of at most 256 bits. -/
structure Quantity where
  /-- The number. -/
  toNat : Nat
  /-- It has at most 256 bits. -/
  isLt : toNat < 2 ^ (256 : Nat)
deriving DecidableEq

namespace Quantity

/-- A number as a quantity, reduced to 256 bits. -/
def ofNat (n : Nat) : Quantity := ⟨n % 2 ^ (256 : Nat), Nat.mod_lt _ (by decide)⟩

/-- A number as a quantity, if it has at most 256 bits. -/
def ofNat? (n : Nat) : Option Quantity :=
  if h : n < 2 ^ (256 : Nat) then some ⟨n, h⟩ else none

/-- Nothing. -/
def zero : Quantity := ofNat 0

instance : Inhabited Quantity := ⟨zero⟩

/-- Quantities compare as numbers. -/
instance : LT Quantity := ⟨fun a b => a.toNat < b.toNat⟩

instance (a b : Quantity) : Decidable (a < b) := inferInstanceAs (Decidable (a.toNat < b.toNat))

/-- The sum, or the greatest quantity where the sum has more than 256 bits. -/
def add (a b : Quantity) : Quantity :=
  ⟨min (a.toNat + b.toNat) (2 ^ (256 : Nat) - 1), by omega⟩

/-- What is left of `a` when `b` is taken away; nothing where `b` is greater. -/
def sub (a b : Quantity) : Quantity :=
  ⟨a.toNat - b.toNat, Nat.lt_of_le_of_lt (Nat.sub_le _ _) a.isLt⟩

/-- The quantity in decimal digits. -/
def text (a : Quantity) : String := toString a.toNat

/-- The 32 bytes of a quantity. -/
def bytes (a : Quantity) : Bytes := BigEndian.encode 32 a.toNat

/-- The quantity that a byte string of at most 32 bytes writes. -/
def ofBytes (bytes : Bytes) : Quantity := ofNat (BigEndian.decode bytes)

theorem ext {a b : Quantity} (h : a.toNat = b.toNat) : a = b := by
  cases a; cases b; cases h; rfl

theorem lt_iff {a b : Quantity} : a < b ↔ a.toNat < b.toNat := Iff.rfl

theorem toNat_ofNat {n : Nat} (h : n < 2 ^ (256 : Nat)) : (ofNat n).toNat = n := Nat.mod_eq_of_lt h

@[simp] theorem toNat_zero : zero.toNat = 0 := rfl

@[simp] theorem ofNat_toNat (a : Quantity) : ofNat a.toNat = a := ext (toNat_ofNat a.isLt)

theorem toNat_add {a b : Quantity} (h : a.toNat + b.toNat < 2 ^ (256 : Nat)) :
    (a.add b).toNat = a.toNat + b.toNat := by
  show min (a.toNat + b.toNat) (2 ^ (256 : Nat) - 1) = _
  omega

@[simp] theorem toNat_sub (a b : Quantity) : (a.sub b).toNat = a.toNat - b.toNat := rfl

@[simp] theorem length_bytes (a : Quantity) : a.bytes.length = 32 := BigEndian.length_encode 32 _

theorem toNat_ofBytes {bs : Bytes} (h : bs.length ≤ 32) :
    (ofBytes bs).toNat = BigEndian.decode bs := by
  apply toNat_ofNat
  exact Nat.lt_of_lt_of_le (BigEndian.decode_lt bs)
    (Nat.pow_le_pow_right (by decide : 0 < 256) h)

@[simp] theorem ofBytes_bytes (a : Quantity) : ofBytes a.bytes = a := by
  rw [ofBytes, bytes, BigEndian.decode_encode a.isLt, ofNat_toNat]

theorem bytes_ofBytes {bs : Bytes} (h : bs.length = 32) : (ofBytes bs).bytes = bs := by
  rw [bytes, toNat_ofBytes (Nat.le_of_eq h), ← h, BigEndian.encode_decode]

end Quantity

end TokenBridge
