import TokenBridge.Word

/-!
# Keccak

The 256-bit Keccak hash: the permutation on 25 lanes of 64 bits, and the sponge that absorbs a byte string
in blocks of 136 bytes. The padding is a single bit pair, so the hash is the one that came before the later
standard and its domain bits. Lane `x, y` of a state stands at index `5 * y + x`.
-/

namespace TokenBridge.Keccak

/-- Lanes of 64 bits; a state has 25 of them. -/
abbrev Lanes := List UInt64

/-- How far each lane is rotated, in the order of the lanes. -/
def rotations : List UInt64 :=
  [0, 1, 62, 28, 27, 36, 44, 6, 55, 20, 3, 10, 43, 25, 39, 41, 45, 15, 21, 8, 18, 2, 61, 56, 14]

/-- The constant of each round. -/
def roundConstants : List UInt64 :=
  [0x0000000000000001, 0x0000000000008082, 0x800000000000808a, 0x8000000080008000,
    0x000000000000808b, 0x0000000080000001, 0x8000000080008081, 0x8000000000008009,
    0x000000000000008a, 0x0000000000000088, 0x0000000080008009, 0x000000008000000a,
    0x000000008000808b, 0x800000000000008b, 0x8000000000008089, 0x8000000000008003,
    0x8000000000008002, 0x8000000000000080, 0x000000000000800a, 0x800000008000000a,
    0x8000000080008081, 0x8000000000008080, 0x0000000080000001, 0x8000000080008008]

/-- A lane rotated to the left. -/
def rotate (lane amount : UInt64) : UInt64 :=
  if amount = 0 then lane else (lane <<< amount) ||| (lane >>> (64 - amount))

/-- The lane at an index. -/
def lane (s : Lanes) (i : Nat) : UInt64 := s.getD i 0

/-- Each lane takes in the parities of two neighbouring columns. -/
def theta (s : Lanes) : Lanes :=
  let parity := (List.range 5).map fun x =>
    lane s x ^^^ lane s (x + 5) ^^^ lane s (x + 10) ^^^ lane s (x + 15) ^^^ lane s (x + 20)
  let spread := (List.range 5).map fun x =>
    lane parity ((x + 4) % 5) ^^^ rotate (lane parity ((x + 1) % 5)) 1
  (List.range 25).map fun i => lane s i ^^^ lane spread (i % 5)

/-- The lanes are rotated and change places: lane `x, y` comes from lane `x + 3y, x`. -/
def rhoPi (s : Lanes) : Lanes :=
  let turned := List.zipWith rotate s rotations
  (List.range 25).map fun i => lane turned ((i % 5 + 3 * (i / 5)) % 5 + 5 * (i % 5))

/-- Each lane takes in its two right-hand neighbours in the row. -/
def chi (s : Lanes) : Lanes :=
  (List.range 25).map fun i =>
    let row := 5 * (i / 5)
    lane s i ^^^ (~~~ lane s (row + (i + 1) % 5) &&& lane s (row + (i + 2) % 5))

/-- The first lane takes in the constant of the round. -/
def iota (constant : UInt64) : Lanes → Lanes
  | [] => []
  | first :: rest => (first ^^^ constant) :: rest

/-- The permutation: all rounds, one after the other. -/
def permute (s : Lanes) : Lanes :=
  roundConstants.foldl (fun s constant => iota constant (chi (rhoPi (theta s)))) s

/-- The lanes of a byte string, eight bytes each, least significant first; fewer than eight are dropped. -/
def lanesOf : Bytes → Lanes
  | b₀ :: b₁ :: b₂ :: b₃ :: b₄ :: b₅ :: b₆ :: b₇ :: rest =>
    UInt64.ofNat (BigEndian.decode [b₇, b₆, b₅, b₄, b₃, b₂, b₁, b₀]) :: lanesOf rest
  | _ => []

/-- The eight bytes of a lane, least significant first. -/
def laneBytes (lane : UInt64) : Bytes := (BigEndian.encode 8 lane.toNat).reverse

/-- How many bytes a block has. -/
def blockSize : Nat := 136

/-- A byte string filled up to whole blocks: a one bit, zero bits, and a one bit at the very end. -/
def pad (bytes : Bytes) : Bytes :=
  let missing := blockSize - bytes.length % blockSize
  if missing = 1 then bytes ++ [0x81]
  else bytes ++ 0x01 :: List.replicate (missing - 2) 0x00 ++ [0x80]

/-- Takes in the first `blocks` blocks of lanes, with a permutation after each. -/
def absorb : Nat → Lanes → Lanes → Lanes
  | 0, _, s => s
  | blocks + 1, input, s =>
    let block := input.take 17 ++ List.replicate 8 0
    absorb blocks (input.drop 17) (permute (List.zipWith (· ^^^ ·) s block))

/-- The hash of a byte string. -/
def hash (bytes : Bytes) : Word :=
  let padded := pad bytes
  let s := absorb (padded.length / blockSize) (lanesOf padded) (List.replicate 25 0)
  Word.ofBytes ((s.take 4).flatMap laneBytes)

end TokenBridge.Keccak
