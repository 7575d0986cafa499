/-!
# Big-endian byte strings

A byte string is a list of bytes. `BigEndian.encode len n` writes a number in `len` bytes, most significant
first, and `BigEndian.decode` reads a byte string of any length as a number. The two are inverse to each
other: `decode_encode` for numbers that fit, `encode_decode` for byte strings of the right length.
-/

namespace TokenBridge

-- The definitions use the built-in power of numbers, whatever else a module imports. An exponent that is a numeral
-- states its type there, for else the default instance would be taken.
attribute [scoped instance (10001)] instPowNat

/-- A byte string. -/
abbrev Bytes := List UInt8

namespace BigEndian

/-- A number in `len` bytes, most significant first; what does not fit is cut off at the top. -/
def encode : Nat → Nat → Bytes
  | 0, _ => []
  | len + 1, n => encode len (n / 256) ++ [UInt8.ofNat n]

/-- The number that a byte string writes, most significant byte first. -/
def decode (bytes : Bytes) : Nat :=
  bytes.foldl (fun n b => n * 256 + b.toNat) 0

@[simp] theorem length_encode (len n : Nat) : (encode len n).length = len := by
  induction len generalizing n with
  | zero => rfl
  | succ len ih => simp [encode, ih]

@[simp] theorem decode_nil : decode [] = 0 := rfl

theorem decode_append_singleton (bytes : Bytes) (b : UInt8) :
    decode (bytes ++ [b]) = decode bytes * 256 + b.toNat := by
  simp [decode]

theorem decode_encode_mod (len n : Nat) : decode (encode len n) = n % 256 ^ len := by
  induction len generalizing n with
  | zero => simp [encode, Nat.mod_one]
  | succ len ih =>
    rw [encode, decode_append_singleton, ih, Nat.pow_succ, Nat.mul_comm (256 ^ len) 256,
      Nat.mod_mul, UInt8.toNat_ofNat']
    omega

theorem decode_encode {len n : Nat} (h : n < 256 ^ len) : decode (encode len n) = n := by
  rw [decode_encode_mod, Nat.mod_eq_of_lt h]

theorem foldl_eq (bytes : Bytes) (start : Nat) :
    bytes.foldl (fun n b => n * 256 + b.toNat) start =
      start * 256 ^ bytes.length + decode bytes := by
  induction bytes generalizing start with
  | nil => simp
  | cons b rest ih =>
    unfold decode
    rw [List.foldl_cons, List.foldl_cons, ih, ih (0 * 256 + b.toNat), List.length_cons,
      Nat.pow_succ]
    rw [Nat.add_mul, Nat.add_mul, Nat.mul_assoc, Nat.mul_comm 256]
    omega

theorem decode_append (a b : Bytes) : decode (a ++ b) = decode a * 256 ^ b.length + decode b := by
  unfold decode
  rw [List.foldl_append, foldl_eq]
  rfl

theorem decode_cons (b : UInt8) (bytes : Bytes) :
    decode (b :: bytes) = b.toNat * 256 ^ bytes.length + decode bytes := by
  rw [← List.singleton_append, decode_append]
  simp [decode]

theorem decode_lt (bytes : Bytes) : decode bytes < 256 ^ bytes.length := by
  induction bytes with
  | nil => simp
  | cons b rest ih =>
    rw [decode_cons, List.length_cons, Nat.pow_succ, Nat.mul_comm _ 256]
    have hb : b.toNat + 1 ≤ 256 := b.toNat_lt
    have := Nat.mul_le_mul_right (256 ^ rest.length) hb
    rw [Nat.add_mul] at this
    omega

theorem encode_mod (len n : Nat) : encode len (n % 256 ^ len) = encode len n := by
  induction len generalizing n with
  | zero => rfl
  | succ len ih =>
    have h1 : n % 256 ^ (len + 1) / 256 = n / 256 % 256 ^ len := by
      rw [Nat.pow_succ, Nat.mul_comm, Nat.mod_mul_right_div_self]
    have h2 : UInt8.ofNat (n % 256 ^ (len + 1)) = UInt8.ofNat n := by
      apply UInt8.toNat_inj.1
      rw [UInt8.toNat_ofNat', UInt8.toNat_ofNat', Nat.pow_succ, Nat.mul_comm]
      exact Nat.mod_mul_right_mod n 256 (256 ^ len)
    rw [encode, encode, h1, h2, ih]

theorem encode_succ (len n : Nat) :
    encode (len + 1) n = UInt8.ofNat (n / 256 ^ len) :: encode len n := by
  induction len generalizing n with
  | zero => simp [encode]
  | succ len ih =>
    show encode (len + 1) (n / 256) ++ [UInt8.ofNat n] = _
    rw [ih, Nat.div_div_eq_div_mul, ← Nat.pow_succ']
    rfl

theorem encode_decode (bytes : Bytes) : encode bytes.length (decode bytes) = bytes := by
  induction bytes with
  | nil => rfl
  | cons b rest ih =>
    have hlt := decode_lt rest
    have hdiv : (b.toNat * 256 ^ rest.length + decode rest) / 256 ^ rest.length = b.toNat := by
      rw [Nat.add_comm, Nat.add_mul_div_right _ _ (Nat.pow_pos (by decide)),
        Nat.div_eq_of_lt hlt, Nat.zero_add]
    rw [List.length_cons, encode_succ, decode_cons, hdiv, UInt8.ofNat_toNat, ← encode_mod,
      Nat.add_comm, Nat.add_mul_mod_self_right, encode_mod, ih]

end BigEndian

end TokenBridge
