import AdvancedSignature.Digest.Padding

/-!
# SHA-3

The sponge on 25 lanes of 64 bits.  Lane `(x, y)` stands at index `x + 5 * y`, and lanes are
little-endian.  Each block of the padded message is added to the first lanes and followed by the
permutation `permute` of 24 rounds; the digest is read off the first lanes at the end.
-/

namespace AdvancedSignature.Digest.Sha3

/-- The 25 lanes. -/
abbrev Lanes := Array UInt64

/-- The constants of the rounds. -/
def roundConstants : List UInt64 :=
  [0x0000000000000001, 0x0000000000008082, 0x800000000000808a, 0x8000000080008000,
   0x000000000000808b, 0x0000000080000001, 0x8000000080008081, 0x8000000000008009,
   0x000000000000008a, 0x0000000000000088, 0x0000000080008009, 0x000000008000000a,
   0x000000008000808b, 0x800000000000008b, 0x8000000000008089, 0x8000000000008003,
   0x8000000000008002, 0x8000000000000080, 0x000000000000800a, 0x800000008000000a,
   0x8000000080008081, 0x8000000000008080, 0x0000000080000001, 0x8000000080008008]

/-- How far each lane is turned. -/
def offsets : Array UInt64 :=
  #[0, 1, 62, 28, 27, 36, 44, 6, 55, 20, 3, 10, 43, 25, 39,
    41, 45, 15, 21, 8, 18, 2, 61, 56, 14]

/-- A lane turned to the left. -/
def rotateLeft (x n : UInt64) : UInt64 :=
  if n = 0 then x else (x <<< n) ||| (x >>> (64 - n))

/-- The lane at an index. -/
def lane (s : Lanes) (i : Nat) : UInt64 := s.getD i 0

/-- Every lane is mixed with the parities of two columns. -/
def theta (s : Lanes) : Lanes :=
  let parity := (Array.range 5).map fun x =>
    lane s x ^^^ lane s (x + 5) ^^^ lane s (x + 10) ^^^ lane s (x + 15) ^^^ lane s (x + 20)
  (Array.range 25).map fun i =>
    lane s i ^^^ lane parity ((i + 4) % 5) ^^^ rotateLeft (lane parity ((i + 1) % 5)) 1

/-- Every lane is turned and moved: `(x, y)` goes to `(y, 2 * x + 3 * y)`. -/
def rhoPi (s : Lanes) : Lanes :=
  (Array.range 25).map fun i =>
    let y := i % 5
    let x := (i / 5 + 2 * y) * 3 % 5
    let source := x + 5 * y
    rotateLeft (lane s source) (offsets.getD source 0)

/-- Every lane is mixed with its two neighbours in the row. -/
def chi (s : Lanes) : Lanes :=
  (Array.range 25).map fun i =>
    let row := i / 5 * 5
    lane s i ^^^ (~~~lane s (row + (i + 1) % 5) &&& lane s (row + (i + 2) % 5))

/-- One round. -/
def round (s : Lanes) (k : UInt64) : Lanes :=
  let t := chi (rhoPi (theta s))
  t.set! 0 (lane t 0 ^^^ k)

/-- The permutation of the lanes. -/
def permute (s : Lanes) : Lanes := roundConstants.foldl round s

/-- The number that the bytes are the little-endian form of. -/
def word (bytes : Bytes) : UInt64 := UInt64.ofNat (Bytes.toNat bytes.reverse)

/-- The lanes after a block. -/
def absorb (s : Lanes) (block : Bytes) : Lanes :=
  let words := ((chunks 8 block).map word).toArray
  permute ((Array.range 25).map fun i => lane s i ^^^ lane words i)

/-- The message followed by the bits of SHA-3, a one bit, zeros and a last one bit, so that it
fills blocks of `rate` bytes. -/
def pad (rate : Nat) (message : Bytes) : Bytes :=
  let free := rate - message.length % rate
  if free = 1 then message ++ [0x86]
  else message ++ 0x06 :: List.replicate (free - 2) 0 ++ [0x80]

/-- The digest of `size` bytes of a message. -/
def digest (size : Nat) (message : Bytes) : Bytes :=
  let rate := 200 - 2 * size
  let s := (chunks rate (pad rate message)).foldl absorb (Array.replicate 25 0)
  (s.toList.flatMap fun x => (bigEndian 8 x.toNat).reverse).take size

end AdvancedSignature.Digest.Sha3
