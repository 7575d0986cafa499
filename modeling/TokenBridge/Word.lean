import TokenBridge.BigEndian

/-!
# Words

A word is 32 bytes, kept as the number that they write. Words serve as hashes and as the wide form of
addresses. `ofBytes_bytes` and `bytes_ofBytes` say that a word and its 32 bytes determine each other.
-/

namespace TokenBridge

/-- 32 bytes, as the number that they write. -/
structure Word where
  /-- The number. -/
  toNat : Nat
  /-- It fits in 32 bytes. -/
  isLt : toNat < 2 ^ (256 : Nat)

namespace Word

theorem ext {v w : Word} (h : v.toNat = w.toNat) : v = w := by
  cases v; cases w; cases h; rfl

/-- Words are compared as numbers. -/
instance : DecidableEq Word := fun _ _ => decidable_of_decidable_of_iff ⟨ext, congrArg toNat⟩

theorem mod_lt (n : Nat) : n % 2 ^ (256 : Nat) < 2 ^ (256 : Nat) := Nat.mod_lt n (by decide)

/-- A number as a word, reduced to 256 bits. -/
def ofNat (n : Nat) : Word := ⟨n % 2 ^ (256 : Nat), mod_lt n⟩

/-- The word of zero bytes. -/
def zero : Word := ofNat 0

instance : Inhabited Word := ⟨zero⟩

/-- The 32 bytes of a word. -/
def bytes (w : Word) : Bytes := BigEndian.encode 32 w.toNat

/-- The word that a byte string of at most 32 bytes writes. -/
def ofBytes (bytes : Bytes) : Word := ofNat (BigEndian.decode bytes)

theorem toNat_ofNat {n : Nat} (h : n < 2 ^ (256 : Nat)) : (ofNat n).toNat = n := Nat.mod_eq_of_lt h

@[simp] theorem ofNat_toNat (w : Word) : ofNat w.toNat = w := ext (toNat_ofNat w.isLt)

@[simp] theorem length_bytes (w : Word) : w.bytes.length = 32 := BigEndian.length_encode 32 _

theorem toNat_ofBytes {bs : Bytes} (h : bs.length ≤ 32) :
    (ofBytes bs).toNat = BigEndian.decode bs := by
  apply toNat_ofNat
  exact Nat.lt_of_lt_of_le (BigEndian.decode_lt bs)
    (Nat.pow_le_pow_right (by decide : 0 < 256) h)

@[simp] theorem ofBytes_bytes (w : Word) : ofBytes w.bytes = w := by
  rw [ofBytes, bytes, BigEndian.decode_encode w.isLt, ofNat_toNat]

theorem bytes_ofBytes {bs : Bytes} (h : bs.length = 32) : (ofBytes bs).bytes = bs := by
  rw [bytes, toNat_ofBytes (Nat.le_of_eq h), ← h, BigEndian.encode_decode]

end Word

end TokenBridge
