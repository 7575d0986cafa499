import TokenBridge.BigEndian

/-!
# Hexadecimal text

Digits are lists of characters, most significant first. `Hex.digits len n` writes a number in exactly `len`
lower-case digits and `Hex.value?` reads digits of either case. A text that is read may hold blanks among
its digits: they are passed over, and count for its length only. Reading gives back what was written
(`ofText?_text`, `ofShortText?_minimalText`).
-/

namespace TokenBridge.Hex

/-- The value of a hex digit of either case. -/
def digit? (c : Char) : Option Nat :=
  if '0' ≤ c ∧ c ≤ '9' then some (c.toNat - '0'.toNat)
  else if 'a' ≤ c ∧ c ≤ 'f' then some (c.toNat - 'a'.toNat + 10)
  else if 'A' ≤ c ∧ c ≤ 'F' then some (c.toNat - 'A'.toNat + 10)
  else none

/-- The number that hex digits write, or `none` if one of them is no hex digit. -/
def value? (digits : List Char) : Option Nat :=
  digits.foldlM (fun n c => (digit? c).map (n * 16 + ·)) 0

/-- A number in exactly `len` lower-case digits; what does not fit is cut off at the top. -/
def digits : Nat → Nat → List Char
  | 0, _ => []
  | len + 1, n => digits len (n / 16) ++ [Nat.digitChar (n % 16)]

/-- The text of a number in exactly `len` digits, with its mark `0x`. -/
def text (len n : Nat) : String := String.ofList ('0' :: 'x' :: digits len n)

/-- The text of a number in as few digits as it needs, with its mark `0x`. -/
def minimalText (n : Nat) : String := text (n.log2 / 4 + 1) n

/-- The text without one leading `0x` or `0X`. -/
def dropMark : List Char → List Char
  | '0' :: 'x' :: rest => rest
  | '0' :: 'X' :: rest => rest
  | cs => cs

/-- The digits of a number read strictly: only a small `x` marks them, and it may be missing. -/
def unmarked : List Char → List Char
  | '0' :: 'x' :: rest => rest
  | cs => cs

/-- Whether a character may stand among digits without being one: a space, a tab or an end of a line. -/
def isBlank (c : Char) : Bool := c == ' ' || c == '\t' || c == '\r' || c == '\n'

/-- The value of digits with blanks among them. Digits make bytes in pairs, and the first digit stands alone
where the length of all, blanks included, is odd. So an odd number of blanks leaves the last digit without
its pair, and it is lost. -/
def spacedValue? (cs : List Char) : Option Nat :=
  (value? (cs.filter (!isBlank ·))).map (· / 16 ^ (cs.countP isBlank % 2))

/-- A number of exactly `len` characters, with or without `0x`. Its digits, of either case, fill the bytes
from the front; where blanks or a lost digit leave places, the last bytes are zero. -/
def ofText? (len : Nat) (s : String) : Option Nat :=
  let cs := unmarked s.toList
  let blanks := cs.countP isBlank
  if cs.length = len then (spacedValue? cs).map (· * 16 ^ (blanks + blanks % 2)) else none

/-- A number of one to `len` characters, with or without `0x`. -/
def ofShortText? (len : Nat) (s : String) : Option Nat :=
  let cs := unmarked s.toList
  if 1 ≤ cs.length ∧ cs.length ≤ len then spacedValue? cs else none

theorem digit?_digitChar {d : Nat} (h : d < 16) : digit? (Nat.digitChar d) = some d := by
  have : ∀ d : Fin 16, digit? (Nat.digitChar d.val) = some d.val := by decide
  exact this ⟨d, h⟩

@[simp] theorem length_digits (len n : Nat) : (digits len n).length = len := by
  induction len generalizing n with
  | zero => rfl
  | succ len ih => simp [digits, ih]

theorem value?_digits {len n : Nat} (h : n < 16 ^ len) : value? (digits len n) = some n := by
  induction len generalizing n with
  | zero =>
    have : n = 0 := by simpa using h
    subst this
    rfl
  | succ len ih =>
    have hdiv : n / 16 < 16 ^ len := by
      rw [Nat.pow_succ, Nat.mul_comm] at h
      exact Nat.div_lt_of_lt_mul h
    have hi := ih hdiv
    unfold value? at hi ⊢
    rw [digits, List.foldlM_append, hi]
    simp only [List.foldlM_cons, List.foldlM_nil, digit?_digitChar (Nat.mod_lt n (by decide)),
      Option.map_some, Option.bind_eq_bind, Option.bind_some, Option.pure_def, Option.some.injEq]
    omega

theorem not_isBlank_of_mem_digits {c : Char} {len n : Nat} (h : c ∈ digits len n) : isBlank c = false := by
  have hdigit : ∀ d : Fin 16, isBlank (Nat.digitChar d.val) = false := by decide
  induction len generalizing n with
  | zero => cases h
  | succ len ih =>
    rcases List.mem_append.1 h with h | h
    · exact ih h
    · rw [List.mem_singleton.1 h]
      exact hdigit ⟨n % 16, Nat.mod_lt _ (by decide)⟩

theorem countP_isBlank_digits (len n : Nat) : (digits len n).countP isBlank = 0 :=
  List.countP_eq_zero.2 fun _ hc => by simp [not_isBlank_of_mem_digits hc]

theorem spacedValue?_digits {len n : Nat} (h : n < 16 ^ len) : spacedValue? (digits len n) = some n := by
  have hf : (digits len n).filter (!isBlank ·) = digits len n :=
    List.filter_eq_self.2 fun _ hc => by simp [not_isBlank_of_mem_digits hc]
  rw [spacedValue?, hf, value?_digits h, countP_isBlank_digits]
  simp

theorem unmarked_text (len n : Nat) : unmarked (text len n).toList = digits len n := by
  rw [text, String.toList_ofList]
  rfl

theorem ofText?_text {len n : Nat} (h : n < 16 ^ len) : ofText? len (text len n) = some n := by
  simp [ofText?, unmarked_text, spacedValue?_digits h, countP_isBlank_digits]

theorem lt_pow_log2 (n : Nat) : n < 16 ^ (n.log2 / 4 + 1) := by
  have h : n < 2 ^ (n.log2 + 1) := Nat.lt_log2_self
  have hle : 2 ^ (n.log2 + 1) ≤ 2 ^ (4 * (n.log2 / 4 + 1)) := Nat.pow_le_pow_right (by decide) (by omega)
  rw [Nat.pow_mul] at hle
  exact Nat.lt_of_lt_of_le h hle

theorem ofShortText?_minimalText {len n : Nat} (hlen : 0 < len) (h : n < 16 ^ len) :
    ofShortText? len (minimalText n) = some n := by
  have hlog : n.log2 / 4 + 1 ≤ len := by
    by_cases hn : n = 0
    · subst hn
      exact hlen
    · have hlt : n.log2 < 4 * len := (Nat.log2_lt hn).2 (by rw [Nat.pow_mul]; exact h)
      omega
  simp [ofShortText?, minimalText, unmarked_text, spacedValue?_digits (lt_pow_log2 n), hlog]

end TokenBridge.Hex
