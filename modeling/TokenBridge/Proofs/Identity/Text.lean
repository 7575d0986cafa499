import TokenBridge.Identity

/-!
# Identities as text

Which texts read as an identity, and as which. The digits of a text are what is left of it without its mark;
they read as the identity whose bytes write the same number, as long as all of them are hex digits and there
are at most 64 (`parse_eq_ok_iff`). Reading goes by pairs of digits, each of which makes a byte, so the proof
is about pairs: an even number of digits writes the number that the bytes of the pairs write
(`value?_eq_decode`), and the zero that evens out the digits does not change it.

What does not read is refused for the first byte that is no digit, counted in the text as it is encoded
(`parse_of_bad`), and only after that for its length. The reader goes by characters. The first byte of the
first bad character is the first bad byte, since a digit is encoded as one byte that is a digit, and every other
character begins with a byte that is none (`utf8EncodeChar_of_isDigit`, `utf8EncodeChar_of_not_isDigit`).
-/

namespace TokenBridge

namespace Hex

/-! ### Digits -/

/-- Whether a character is a hex digit, of either case. -/
def IsDigit (c : Char) : Prop := '0' ≤ c ∧ c ≤ '9' ∨ 'a' ≤ c ∧ c ≤ 'f' ∨ 'A' ≤ c ∧ c ≤ 'F'

instance (c : Char) : Decidable (IsDigit c) := inferInstanceAs (Decidable (_ ∨ _))

/-- What holds of all small characters is checked code by code. -/
theorem of_ascii {P : Char → Prop} (h : ∀ n : Fin 128, P (Char.ofNat n.val)) {c : Char} (hc : c.toNat < 128) :
    P c := by
  have hp := h ⟨c.toNat, hc⟩
  rwa [Char.ofNat_toNat] at hp

theorem ascii_of_isDigit {c : Char} (h : IsDigit c) : c.toNat < 128 := by
  have hcode : 48 ≤ c.toNat ∧ c.toNat ≤ 57 ∨ 97 ≤ c.toNat ∧ c.toNat ≤ 102 ∨ 65 ≤ c.toNat ∧ c.toNat ≤ 70 := h
  omega

theorem isSome_digit?_iff {c : Char} : (digit? c).isSome ↔ IsDigit c := by
  rw [digit?, IsDigit]
  by_cases hdecimal : '0' ≤ c ∧ c ≤ '9'
  · simp [hdecimal]
  · by_cases hlower : 'a' ≤ c ∧ c ≤ 'f'
    · simp [hdecimal, hlower]
    · by_cases hupper : 'A' ≤ c ∧ c ≤ 'F' <;> simp [hdecimal, hlower, hupper]

theorem digit?_lt {c : Char} {n : Nat} (h : digit? c = some n) : n < 16 := by
  have hsmall : ∀ n : Fin 128, ∀ d ∈ digit? (Char.ofNat n.val), d < 16 := by decide
  have hc : IsDigit c := isSome_digit?_iff.1 (by rw [h]; rfl)
  exact of_ascii (P := fun c => ∀ d ∈ digit? c, d < 16) hsmall (ascii_of_isDigit hc) n h

/-- The two cases of a digit have one value. -/
theorem digit?_toLower (c : Char) : digit? c.toLower = digit? c := by
  by_cases hc : c.toNat < 128
  · exact of_ascii (P := fun c => digit? c.toLower = digit? c) (by decide) hc
  · have hlarge : ¬ (c.val ≥ 'A'.val ∧ c.val ≤ 'Z'.val) := by
      rintro ⟨-, hle⟩
      have hcode : c.toNat ≤ 90 := hle
      omega
    have hsame : c.toLower = c := dif_neg hlarge
    rw [hsame]

/-! ### Numbers -/

theorem foldlM_digits (cs : List Char) (start : Nat) :
    cs.foldlM (fun n c => (digit? c).map (n * 16 + ·)) start =
      (value? cs).map (start * 16 ^ cs.length + ·) := by
  induction cs generalizing start with
  | nil => simp [value?]
  | cons c rest ih =>
    rw [value?, List.foldlM_cons, List.foldlM_cons]
    cases digit? c with
    | none => rfl
    | some d =>
      simp only [Option.map_some, Option.bind_eq_bind, Option.bind_some, ih, Option.map_map]
      refine congrArg (fun f => Option.map f (value? rest)) (funext fun n => ?_)
      simp only [Function.comp, List.length_cons, Nat.pow_succ]
      rw [Nat.zero_mul, Nat.zero_add, Nat.add_mul, Nat.mul_comm (16 ^ rest.length) 16, Nat.mul_assoc,
        Nat.add_assoc]

/-- The first digit counts as often as there are numbers of the digits behind it. -/
theorem value?_cons (c : Char) (rest : List Char) :
    value? (c :: rest) = (digit? c).bind fun d => (value? rest).map (d * 16 ^ rest.length + ·) := by
  rw [value?, List.foldlM_cons]
  cases digit? c with
  | none => rfl
  | some d =>
    simp only [Option.map_some, Option.bind_eq_bind, Option.bind_some, Nat.zero_mul, Nat.zero_add]
    exact foldlM_digits rest d

theorem isSome_value?_iff {cs : List Char} : (value? cs).isSome ↔ ∀ c ∈ cs, IsDigit c := by
  induction cs with
  | nil => simp [value?]
  | cons c rest ih =>
    rw [List.forall_mem_cons, ← ih, ← isSome_digit?_iff, value?_cons]
    cases digit? c <;> simp

theorem value?_zero_cons (cs : List Char) : value? ('0' :: cs) = value? cs := by
  have hzero : digit? '0' = some 0 := by decide
  rw [value?_cons, hzero]
  simp

/-- Digits in lower case and without zeros in front: what is left of them where neither matters. -/
def stem (cs : List Char) : List Char := (cs.map Char.toLower).dropWhile (· = '0')

/-- Neither the case of digits nor zeros in front change their number. -/
theorem value?_stem (cs : List Char) : value? (stem cs) = value? cs := by
  have hlower : value? (cs.map Char.toLower) = value? cs := by
    induction cs with
    | nil => rfl
    | cons c rest ih => rw [List.map_cons, value?_cons, value?_cons, digit?_toLower, ih, List.length_map]
  rw [← hlower, stem]
  generalize cs.map Char.toLower = ds
  induction ds with
  | nil => rfl
  | cons d rest ih =>
    by_cases hd : d = '0'
    · rw [List.dropWhile_cons_of_pos (by simpa using hd), ih, hd, value?_zero_cons]
    · rw [List.dropWhile_cons_of_neg (by simpa using hd)]

end Hex

namespace Word

theorem ofShortBytes_eq_ok_iff {bytes : Bytes} {id : Word} :
    ofShortBytes bytes = .ok id ↔ bytes.length ≤ 32 ∧ ofBytes bytes = id := by
  rw [ofShortBytes]
  by_cases hlength : bytes.length ≤ 32
  · rw [if_pos hlength, Except.ok.injEq, and_iff_right hlength]
  · rw [if_neg hlength]
    simp [hlength]

theorem decode_bytes (id : Word) : BigEndian.decode id.bytes = id.toNat := BigEndian.decode_encode id.isLt

end Word

namespace Identity

open Hex

/-! ### Pairs of digits -/

theorem length_bytesOf (ds : List Char) : (bytesOf ds).length = ds.length / 2 := by
  fun_induction bytesOf ds with
  | case1 high low rest ih =>
    simp only [List.length_cons, ih]
    omega
  | case2 ds hshort =>
    match ds with
    | [] => rfl
    | [_] => simp
    | high :: low :: rest => exact absurd rfl (hshort high low rest)

/-- **Pairs of digits make bytes**: an even number of digits writes the number that the bytes write. -/
theorem value?_eq_decode {ds : List Char} (hdigits : ∀ c ∈ ds, IsDigit c) (heven : ds.length % 2 = 0) :
    value? ds = some (BigEndian.decode (bytesOf ds)) := by
  fun_induction bytesOf ds with
  | case1 high low rest ih =>
    rw [List.forall_mem_cons, List.forall_mem_cons] at hdigits
    obtain ⟨hhigh, hlow, hrest⟩ := hdigits
    obtain ⟨x, hx⟩ := Option.isSome_iff_exists.1 (isSome_digit?_iff.2 hhigh)
    obtain ⟨y, hy⟩ := Option.isSome_iff_exists.1 (isSome_digit?_iff.2 hlow)
    simp only [List.length_cons] at heven
    have hbyte : (UInt8.ofNat (x * 16 + y)).toNat = x * 16 + y := by
      have hxlt := digit?_lt hx
      have hylt := digit?_lt hy
      rw [UInt8.toNat_ofNat']
      omega
    -- The bytes behind are half as many as the digits, and a byte counts twice as far.
    have hpow : 16 ^ rest.length = 256 ^ (bytesOf rest).length := by
      have hlength : rest.length = 2 * (bytesOf rest).length := by
        rw [length_bytesOf]
        omega
      rw [hlength]
      exact Nat.pow_mul 16 2 _
    rw [value?_cons, value?_cons, hx, hy, ih hrest (by omega)]
    simp only [Option.bind_some, Option.map_some, Option.getD_some, List.length_cons, Option.some.injEq]
    rw [BigEndian.decode_cons, hbyte, Nat.pow_succ, hpow, Nat.add_mul]
    simp only [Nat.mul_assoc, Nat.mul_comm (256 ^ _) 16, Nat.add_assoc]
  | case2 ds hshort =>
    match ds with
    | [] => rfl
    | [_] => simp at heven
    | high :: low :: rest => exact absurd rfl (hshort high low rest)

/-! ### Bytes of a text -/

/-- The bytes of characters, as they are encoded. -/
def encoded (cs : List Char) : Bytes := cs.flatMap String.utf8EncodeChar

theorem encoded_cons (c : Char) (rest : List Char) :
    encoded (c :: rest) = String.utf8EncodeChar c ++ encoded rest := List.flatMap_cons

theorem length_encoded (cs : List Char) : (encoded cs).length = byteLength cs := by
  induction cs with
  | nil => rfl
  | cons c rest ih =>
    rw [encoded_cons, List.length_append, String.length_utf8EncodeChar, ih]
    rfl

/-- A digit is one byte. -/
theorem utf8EncodeChar_of_isDigit {c : Char} (h : IsDigit c) :
    ∃ b, String.utf8EncodeChar c = [b] ∧ Char.ofNat b.toNat = c := by
  have hcode := ascii_of_isDigit h
  have hsmall : c.val.toNat ≤ 127 := Nat.le_of_lt_succ hcode
  refine ⟨UInt8.ofNat c.toNat, ?_, ?_⟩
  · simp only [String.utf8EncodeChar, if_pos hsmall]
    rfl
  · rw [UInt8.toNat_ofNat', Nat.mod_eq_of_lt (by omega), Char.ofNat_toNat]

/-- A byte is a digit if the character of its code is one. -/
def IsDigitByte (b : UInt8) : Prop := IsDigit (Char.ofNat b.toNat)

instance (b : UInt8) : Decidable (IsDigitByte b) := inferInstanceAs (Decidable (IsDigit _))

theorem not_isDigitByte_of_le {b : UInt8} (h : 128 ≤ b.toNat) : ¬ IsDigitByte b := by
  have hvalid : b.toNat.isValidChar := .inl (Nat.lt_trans b.toNat_lt (by decide))
  have hcode : (Char.ofNat b.toNat).toNat = b.toNat := by
    rw [Char.ofNat, dif_pos hvalid]
    rfl
  intro hdigit
  have hlt := ascii_of_isDigit hdigit
  omega

/-- Any other character begins with a byte that is no digit. -/
theorem utf8EncodeChar_of_not_isDigit {c : Char} (h : ¬ IsDigit c) :
    ∃ b rest, String.utf8EncodeChar c = b :: rest ∧ ¬ IsDigitByte b := by
  simp only [String.utf8EncodeChar]
  by_cases hone : c.val.toNat ≤ 127
  · refine ⟨_, _, if_pos hone, ?_⟩
    rw [IsDigitByte, UInt8.toNat_ofNat', Nat.mod_eq_of_lt (by omega)]
    rwa [show c.val.toNat = c.toNat from rfl, Char.ofNat_toNat]
  · rw [if_neg hone]
    by_cases htwo : c.val.toNat ≤ 2047
    · refine ⟨_, _, if_pos htwo, not_isDigitByte_of_le ?_⟩
      rw [UInt8.toNat_ofNat']
      omega
    · rw [if_neg htwo]
      by_cases hthree : c.val.toNat ≤ 65535
      · refine ⟨_, _, if_pos hthree, not_isDigitByte_of_le ?_⟩
        rw [UInt8.toNat_ofNat']
        omega
      · refine ⟨_, _, if_neg hthree, not_isDigitByte_of_le ?_⟩
        rw [UInt8.toNat_ofNat']
        omega

/-! ### The first byte that is no digit -/

/-- A byte that is no digit, with its place among others: every byte before it is a digit. -/
structure FaultAt (bytes : Bytes) (b : UInt8) (position : Nat) : Prop where
  /-- The byte is there. -/
  byte : bytes[position]? = some b
  /-- It is no digit. -/
  bad : ¬ IsDigitByte b
  /-- What is before it is. -/
  leftmost : ∀ before < position, ∀ d ∈ bytes[before]?, IsDigitByte d

theorem faultAt_cons_of_bad {b : UInt8} {rest : Bytes} (hbad : ¬ IsDigitByte b) : FaultAt (b :: rest) b 0 where
  byte := rfl
  bad := hbad
  leftmost := fun _ hlt => absurd hlt (Nat.not_lt_zero _)

theorem FaultAt.cons {d b : UInt8} {rest : Bytes} {position : Nat} (hd : IsDigitByte d)
    (h : FaultAt rest b position) : FaultAt (d :: rest) b (position + 1) where
  byte := h.byte
  bad := h.bad
  leftmost := by
    intro before hlt x hx
    cases before with
    | zero =>
      cases hx
      exact hd
    | succ before => exact h.leftmost before (Nat.lt_of_succ_lt_succ hlt) x hx

/-- **The reader finds the first bad byte**: it stops at the character that begins with it, and has counted as
many characters as there are bytes before it. -/
theorem firstBad?_encoded (cs : List Char) (position : Nat) (hbad : ∃ c ∈ cs, ¬ IsDigit c) :
    ∃ c b i, firstBad? cs position = some (c, position + i) ∧ firstByte c = Char.ofNat b.toNat ∧
      FaultAt (encoded cs) b i := by
  induction cs generalizing position with
  | nil =>
    obtain ⟨c, hc, -⟩ := hbad
    cases hc
  | cons c rest ih =>
    rw [firstBad?, encoded_cons]
    by_cases hc : IsDigit c
    · obtain ⟨d, hencoded, hd⟩ := utf8EncodeChar_of_isDigit hc
      have hrest : ∃ c ∈ rest, ¬ IsDigit c := by
        obtain ⟨x, hx, hxbad⟩ := hbad
        rcases List.mem_cons.1 hx with rfl | hx
        · exact absurd hc hxbad
        · exact ⟨x, hx, hxbad⟩
      obtain ⟨x, b, i, hfound, hbyte, hfault⟩ := ih (position + 1) hrest
      refine ⟨x, b, i + 1, ?_, hbyte, ?_⟩
      · rw [if_pos (isSome_digit?_iff.2 hc), hfound, Nat.add_assoc, Nat.add_comm 1 i]
      · rw [hencoded]
        exact hfault.cons (by rwa [IsDigitByte, hd])
    · obtain ⟨b, others, hencoded, hb⟩ := utf8EncodeChar_of_not_isDigit hc
      refine ⟨c, b, 0, if_neg (fun h => hc (isSome_digit?_iff.1 h)), ?_, ?_⟩
      · rw [firstByte, hencoded]
      · rw [hencoded]
        exact faultAt_cons_of_bad hb

theorem firstBad?_eq_none {cs : List Char} (hdigits : ∀ c ∈ cs, IsDigit c) (position : Nat) :
    firstBad? cs position = none := by
  induction cs generalizing position with
  | nil => rfl
  | cons c rest ih =>
    rw [List.forall_mem_cons] at hdigits
    rw [firstBad?, if_pos (isSome_digit?_iff.2 hdigits.1), ih hdigits.2]

/-! ### Reading a text -/

/-- What is left of a text without its mark. -/
def body (s : String) : List Char := dropMark s.toList

/-- Bytes with a zero digit in front where their number is odd. -/
def evened (bytes : Bytes) : Bytes := if bytes.length % 2 = 1 then 0x30 :: bytes else bytes

/-- Hex digits of either case, and no more of them than a word has. -/
structure Fits (ds : List Char) : Prop where
  /-- They are digits. -/
  digits : ∀ c ∈ ds, IsDigit c
  /-- A word has as many. -/
  short : ds.length ≤ 64

theorem digitsOf_eq (s : String) :
    digitsOf s = if byteLength (body s) % 2 = 1 then '0' :: body s else body s := rfl

theorem encoded_digitsOf (s : String) : encoded (digitsOf s) = evened (encoded (body s)) := by
  rw [digitsOf_eq, evened, length_encoded]
  by_cases hodd : byteLength (body s) % 2 = 1
  · rw [if_pos hodd, if_pos hodd]
    rfl
  · rw [if_neg hodd, if_neg hodd]

theorem byteLength_of_digits {ds : List Char} (hdigits : ∀ c ∈ ds, IsDigit c) : byteLength ds = ds.length := by
  rw [← length_encoded]
  induction ds with
  | nil => rfl
  | cons c rest ih =>
    rw [List.forall_mem_cons] at hdigits
    obtain ⟨b, hb, -⟩ := utf8EncodeChar_of_isDigit hdigits.1
    rw [encoded_cons, hb, List.singleton_append, List.length_cons, List.length_cons, ih hdigits.2]

/-- Digits are read as the bytes of the number that they write, one byte for two of them. -/
theorem parse_of_digits {s : String} (hdigits : ∀ c ∈ body s, IsDigit c) :
    ∃ bytes, parse s = Word.ofShortBytes bytes ∧ bytes.length = ((body s).length + 1) / 2 ∧
      value? (body s) = some (BigEndian.decode bytes) := by
  have hzero : IsDigit '0' := by decide
  -- Evened out, the digits are still digits, of the same number, and an even number of them.
  obtain ⟨hall, hvalue, heven, hlength⟩ : (∀ c ∈ digitsOf s, IsDigit c) ∧
      value? (digitsOf s) = value? (body s) ∧ (digitsOf s).length % 2 = 0 ∧
      (digitsOf s).length / 2 = ((body s).length + 1) / 2 := by
    rw [digitsOf_eq, byteLength_of_digits hdigits]
    by_cases hodd : (body s).length % 2 = 1
    · rw [if_pos hodd, List.length_cons]
      exact ⟨List.forall_mem_cons.2 ⟨hzero, hdigits⟩, value?_zero_cons _, by omega, rfl⟩
    · rw [if_neg hodd]
      exact ⟨hdigits, rfl, by omega, by omega⟩
  refine ⟨bytesOf (digitsOf s), ?_, ?_, ?_⟩
  · rw [parse, firstBad?_eq_none hall]
  · rw [length_bytesOf, hlength]
  · rw [← hvalue, value?_eq_decode hall heven]

/-- A text with a byte that is no digit is refused for the first of them. -/
theorem parse_of_bad {s : String} (hbad : ∃ c ∈ body s, ¬ IsDigit c) :
    ∃ b i, FaultAt (evened (encoded (body s))) b i ∧ parse s = .error (.badDigit s (Char.ofNat b.toNat) i) := by
  have hpadded : ∃ c ∈ digitsOf s, ¬ IsDigit c := by
    obtain ⟨c, hc, hcbad⟩ := hbad
    refine ⟨c, ?_, hcbad⟩
    rw [digitsOf_eq]
    by_cases hodd : byteLength (body s) % 2 = 1
    · rw [if_pos hodd]
      exact List.mem_cons_of_mem _ hc
    · rwa [if_neg hodd]
  obtain ⟨c, b, i, hfound, hbyte, hfault⟩ := firstBad?_encoded (digitsOf s) 0 hpadded
  rw [encoded_digitsOf] at hfault
  refine ⟨b, i, hfault, ?_⟩
  rw [parse, hfound, Nat.zero_add, ← hbyte]

/-- **What reads, and as what.** -/
theorem parse_eq_ok_iff {s : String} {id : Word} :
    parse s = .ok id ↔ Fits (body s) ∧ value? (body s) = some (BigEndian.decode id.bytes) := by
  rw [Word.decode_bytes]
  by_cases hbad : ∃ c ∈ body s, ¬ IsDigit c
  · obtain ⟨b, i, -, herror⟩ := parse_of_bad hbad
    obtain ⟨c, hc, hcbad⟩ := hbad
    rw [herror]
    exact ⟨nofun, fun h => absurd (h.1.digits c hc) hcbad⟩
  · have hdigits : ∀ c ∈ body s, IsDigit c := fun c hc => Decidable.by_contra fun h => hbad ⟨c, hc, h⟩
    obtain ⟨bytes, hparse, hlength, hvalue⟩ := parse_of_digits hdigits
    rw [hparse, Word.ofShortBytes_eq_ok_iff, hvalue, Option.some.injEq]
    constructor
    · rintro ⟨hshort, rfl⟩
      exact ⟨⟨hdigits, by omega⟩, (Word.toNat_ofBytes hshort).symm⟩
    · rintro ⟨hfits, hnumber⟩
      have hshort := hfits.short
      rw [Word.ofBytes, hnumber, Word.ofNat_toNat]
      exact ⟨by omega, rfl⟩

theorem exists_parse_iff {s : String} : (∃ id, parse s = .ok id) ↔ Fits (body s) := by
  constructor
  · rintro ⟨id, hid⟩
    exact (parse_eq_ok_iff.1 hid).1
  · intro hfits
    obtain ⟨bytes, hparse, hlength, -⟩ := parse_of_digits hfits.digits
    have hshort := hfits.short
    exact ⟨Word.ofBytes bytes, hparse.trans (Word.ofShortBytes_eq_ok_iff.2 ⟨by omega, rfl⟩)⟩

/-- Neither a mark, nor the case of digits, nor zeros in front change what a text reads as. -/
theorem parse_of_stem {s other : String} {id : Word} (h : parse s = .ok id)
    (hshort : (body other).length ≤ 64) (hstem : stem (body other) = stem (body s)) : parse other = .ok id := by
  obtain ⟨-, hvalue⟩ := parse_eq_ok_iff.1 h
  have hother : value? (body other) = value? (body s) := by rw [← value?_stem, hstem, value?_stem]
  rw [hvalue] at hother
  have hdigits : ∀ c ∈ body other, IsDigit c := isSome_value?_iff.1 (by rw [hother]; rfl)
  exact parse_eq_ok_iff.2 ⟨⟨hdigits, hshort⟩, hother⟩

/-- The text of an identity reads as the identity. -/
theorem parse_text (id : Word) : parse id.text = .ok id := by
  have hbody : body id.text = digits 64 id.toNat := by
    rw [body, Word.text, Hex.text, String.toList_ofList]
    rfl
  have hvalue : value? (body id.text) = some id.toNat := by
    rw [hbody]
    exact value?_digits id.isLt
  have hlength : (body id.text).length = 64 := by rw [hbody, length_digits]
  rw [parse_eq_ok_iff, Word.decode_bytes]
  exact ⟨⟨isSome_value?_iff.1 (by rw [hvalue]; rfl), Nat.le_of_eq hlength⟩, hvalue⟩

/-- A byte that is no digit is of a character that is none. -/
theorem exists_bad_of_byte {cs : List Char} (h : ∃ b ∈ encoded cs, ¬ IsDigitByte b) : ∃ c ∈ cs, ¬ IsDigit c := by
  obtain ⟨b, hb, hbad⟩ := h
  obtain ⟨c, hc, hbc⟩ := List.mem_flatMap.1 hb
  refine ⟨c, hc, fun hdigit => hbad ?_⟩
  obtain ⟨d, hd, hdc⟩ := utf8EncodeChar_of_isDigit hdigit
  rw [hd, List.mem_singleton] at hbc
  rwa [hbc, IsDigitByte, hdc]

/-- **The grammar of identities**: what reads is hex digits, at most 64, behind a mark or none, and it reads as
the number that they write, whatever the mark, the case and the zeros in front. The text of an identity reads as
it. Everything else is no address: a text with a byte that is no digit is refused for the first of them, by its
place among the bytes evened out, and digits that are too many for the length of the bytes that they make. -/
theorem parse_grammar (s : String) :
    (∀ id, parse s = .ok id ↔ Fits (body s) ∧ value? (body s) = some (BigEndian.decode id.bytes)) ∧
    ((∃ id, parse s = .ok id) ↔ Fits (body s)) ∧
    (∀ id other, parse s = .ok id → (body other).length ≤ 64 → stem (body other) = stem (body s) →
      parse other = .ok id) ∧
    (∀ id : Word, parse id.text = .ok id) ∧
    (¬ Fits (body s) → ∃ fault, (parse s).mapError BridgeError.invalidAddress = .error (.invalidAddress fault)) ∧
    ((∃ b ∈ encoded (body s), ¬ IsDigitByte b) → ∃ b i, FaultAt (evened (encoded (body s))) b i ∧
      ∃ e, (parse s).mapError BridgeError.invalidAddress = .error e ∧
        e = .invalidAddress (.badDigit s (Char.ofNat b.toNat) i) ∧
        e.message = "Invalid address: " ++
          s!"{s}: Invalid character {Text.quotedChar (Char.ofNat b.toNat)} at position {i}") ∧
    ((∀ c ∈ body s, IsDigit c) → 64 < (body s).length →
      parse s = .error (.tooLong (((body s).length + 1) / 2))) := by
  refine ⟨fun id => parse_eq_ok_iff, exists_parse_iff, fun id other => parse_of_stem, parse_text, ?_, ?_, ?_⟩
  · intro hfits
    cases hparse : parse s with
    | ok id => exact absurd (exists_parse_iff.1 ⟨id, hparse⟩) hfits
    | error fault => exact ⟨fault, rfl⟩
  · intro hbad
    obtain ⟨b, i, hfault, hparse⟩ := parse_of_bad (exists_bad_of_byte hbad)
    exact ⟨b, i, hfault, _, by rw [hparse]; rfl, rfl, rfl⟩
  · intro hdigits hlong
    obtain ⟨bytes, hparse, hlength, -⟩ := parse_of_digits hdigits
    rw [hparse, Word.ofShortBytes, if_neg (by omega), hlength]

theorem parse_grammar_texts :
    parse "0XaBc" = .ok (Word.ofNat 0xabc) ∧ parse "000ABC" = .ok (Word.ofNat 0xabc) ∧
      (∃ fault, (parse "0x1é").mapError BridgeError.invalidAddress = .error (.invalidAddress fault)) ∧
      (∃ b i, FaultAt [0x30, 0x31, 0xc3, 0xa9] b i ∧
        ∃ e, (parse "0x1é").mapError BridgeError.invalidAddress = .error e ∧
          e = .invalidAddress (.badDigit "0x1é" (Char.ofNat b.toNat) i) ∧
          e.message = "Invalid address: " ++
            s!"0x1é: Invalid character {Text.quotedChar (Char.ofNat b.toNat)} at position {i}") ∧
      parse (String.ofList (List.replicate 65 'f')) = .error (.tooLong 33) := by
  have hlong := (parse_grammar (String.ofList (List.replicate 65 'f'))).2.2.2.2.2.2
  have hbody : body (String.ofList (List.replicate 65 'f')) = List.replicate 65 'f' := by
    rw [body, String.toList_ofList]
    rfl
  rw [hbody] at hlong
  have hdigits : ∀ c ∈ List.replicate 65 'f', IsDigit c := fun c hc => by
    rw [List.eq_of_mem_replicate hc]
    decide
  have hread := ((parse_grammar "0XaBc").1 (Word.ofNat 0xabc)).2 ⟨⟨isSome_value?_iff.1 rfl, by decide⟩, rfl⟩
  have hbad : ∃ b ∈ encoded (body "0x1é"), ¬ IsDigitByte b := ⟨0xc3, by decide, by decide⟩
  refine ⟨hread, (parse_grammar "0XaBc").2.2.1 _ "000ABC" hread (by decide) (by decide), ?_, ?_,
    hlong hdigits (by decide)⟩
  · exact (parse_grammar "0x1é").2.2.2.2.1 fun h => absurd (isSome_value?_iff.2 h.digits) (by decide)
  · exact (parse_grammar "0x1é").2.2.2.2.2.1 hbad

end Identity

end TokenBridge
