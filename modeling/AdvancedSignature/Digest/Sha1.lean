import AdvancedSignature.Digest.Padding

/-!
# SHA-1

Eighty rounds on five words of 32 bits for each block of 64 bytes.  The message schedule is kept
as a window on its next sixteen words.
-/

namespace AdvancedSignature.Digest.Sha1

/-- The chaining value. -/
structure State where
  a : UInt32
  b : UInt32
  c : UInt32
  d : UInt32
  e : UInt32

/-- The chaining value before the first block. -/
def start : State := ⟨0x67452301, 0xefcdab89, 0x98badcfe, 0x10325476, 0xc3d2e1f0⟩

/-- A word turned to the left. -/
def rotateLeft (x n : UInt32) : UInt32 := (x <<< n) ||| (x >>> (32 - n))

/-- The mixing function of a round and its constant. -/
def mix (round : Nat) (b c d : UInt32) : UInt32 × UInt32 :=
  if round < 20 then ((b &&& c) ||| (~~~b &&& d), 0x5a827999)
  else if round < 40 then (b ^^^ c ^^^ d, 0x6ed9eba1)
  else if round < 60 then ((b &&& c) ||| (b &&& d) ||| (c &&& d), 0x8f1bbcdc)
  else (b ^^^ c ^^^ d, 0xca62c1d6)

/-- The state and the schedule window after one round. -/
def step (s : State × List UInt32) (round : Nat) : State × List UInt32 :=
  let w := s.2
  let (f, k) := mix round s.1.b s.1.c s.1.d
  let word := fun i => w.getD i 0
  let next := rotateLeft (word 13 ^^^ word 8 ^^^ word 2 ^^^ word 0) 1
  (⟨rotateLeft s.1.a 5 + f + s.1.e + k + word 0, s.1.a, rotateLeft s.1.b 30, s.1.c, s.1.d⟩,
    w.drop 1 ++ [next])

/-- The chaining value after a block. -/
def compress (s : State) (block : Bytes) : State :=
  let words := (chunks 4 block).map fun bytes => UInt32.ofNat (Bytes.toNat bytes)
  let t := ((List.range 80).foldl step (s, words)).1
  ⟨s.a + t.a, s.b + t.b, s.c + t.c, s.d + t.d, s.e + t.e⟩

/-- The SHA-1 digest of a message. -/
def digest (message : Bytes) : Bytes :=
  let s := (chunks 64 (padWithLength 64 8 message)).foldl compress start
  [s.a, s.b, s.c, s.d, s.e].flatMap fun x => bigEndian 4 x.toNat

/-- A digest has twenty bytes. -/
theorem length_digest (message : Bytes) : (digest message).length = 20 := by
  simp [digest]

end AdvancedSignature.Digest.Sha1
