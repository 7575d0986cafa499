import TokenBridge.Word
import TokenBridge.Hex

/-!
# Addresses

An address names a contract or an account of one domain: 20 bytes, kept as the number that they write.
Across domains an address is named by the word of the same number, its wide form. Widening loses nothing
(`narrow?_widen`), and a word narrows to an address exactly where it is the wide form of one
(`narrow?_eq_some_iff`).
-/

namespace TokenBridge

/-- 20 bytes, as the number that they write. -/
structure Address where
  /-- The number. -/
  toNat : Nat
  /-- It fits in 20 bytes. -/
  isLt : toNat < 2 ^ (160 : Nat)
deriving DecidableEq

namespace Address

/-- A number as an address, reduced to 160 bits. -/
def ofNat (n : Nat) : Address := ⟨n % 2 ^ (160 : Nat), Nat.mod_lt _ (by decide)⟩

/-- The address of zero bytes, which stands for "none". -/
def zero : Address := ofNat 0

instance : Inhabited Address := ⟨zero⟩

/-- An address as text: `0x` and 40 digits. -/
def text (a : Address) : String := Hex.text 40 a.toNat

/-- Reads the text of an address: 40 characters, digits of either case or blanks, with or without `0x`. -/
def ofText? (s : String) : Option Address := (Hex.ofText? 40 s).map ofNat

/-- The wide form of an address: the word of the same number. -/
def widen (a : Address) : Word :=
  ⟨a.toNat, Nat.lt_trans a.isLt (by decide)⟩

theorem ext {a b : Address} (h : a.toNat = b.toNat) : a = b := by
  cases a; cases b; cases h; rfl

theorem widen_injective {a b : Address} (h : a.widen = b.widen) : a = b :=
  ext (congrArg Word.toNat h)

end Address

namespace Word

/-- A word as text: `0x` and 64 digits. -/
def text (w : Word) : String := Hex.text 64 w.toNat

/-- Reads the text of a word: 64 characters, digits of either case or blanks, with or without `0x`. -/
def ofText? (s : String) : Option Word := (Hex.ofText? 64 s).map ofNat

/-- The address whose wide form a word is. -/
def narrow? (w : Word) : Option Address :=
  if h : w.toNat < 2 ^ (160 : Nat) then some ⟨w.toNat, h⟩ else none

theorem narrow?_eq_some_iff {w : Word} {a : Address} : w.narrow? = some a ↔ a.widen = w := by
  unfold narrow?
  constructor
  · intro h
    split at h
    · cases h
      rfl
    · cases h
  · rintro rfl
    exact dif_pos a.isLt

@[simp] theorem narrow?_widen (a : Address) : a.widen.narrow? = some a := narrow?_eq_some_iff.2 rfl

end Word

end TokenBridge
