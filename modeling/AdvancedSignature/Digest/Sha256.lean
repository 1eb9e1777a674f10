import AdvancedSignature.Digest.Padding

/-!
# SHA-256 and SHA-224

Sixty-four rounds on eight words of 32 bits for each block of 64 bytes.  The message schedule is
kept as a window on its next sixteen words.  The shorter digest starts from other words and is
cut off.
-/

namespace AdvancedSignature.Digest.Sha256

/-- The chaining value. -/
structure State where
  a : UInt32
  b : UInt32
  c : UInt32
  d : UInt32
  e : UInt32
  f : UInt32
  g : UInt32
  h : UInt32

/-- The constants of the rounds. -/
def roundConstants : List UInt32 :=
  [0x428a2f98, 0x71374491, 0xb5c0fbcf, 0xe9b5dba5, 0x3956c25b, 0x59f111f1,
   0x923f82a4, 0xab1c5ed5, 0xd807aa98, 0x12835b01, 0x243185be, 0x550c7dc3,
   0x72be5d74, 0x80deb1fe, 0x9bdc06a7, 0xc19bf174, 0xe49b69c1, 0xefbe4786,
   0x0fc19dc6, 0x240ca1cc, 0x2de92c6f, 0x4a7484aa, 0x5cb0a9dc, 0x76f988da,
   0x983e5152, 0xa831c66d, 0xb00327c8, 0xbf597fc7, 0xc6e00bf3, 0xd5a79147,
   0x06ca6351, 0x14292967, 0x27b70a85, 0x2e1b2138, 0x4d2c6dfc, 0x53380d13,
   0x650a7354, 0x766a0abb, 0x81c2c92e, 0x92722c85, 0xa2bfe8a1, 0xa81a664b,
   0xc24b8b70, 0xc76c51a3, 0xd192e819, 0xd6990624, 0xf40e3585, 0x106aa070,
   0x19a4c116, 0x1e376c08, 0x2748774c, 0x34b0bcb5, 0x391c0cb3, 0x4ed8aa4a,
   0x5b9cca4f, 0x682e6ff3, 0x748f82ee, 0x78a5636f, 0x84c87814, 0x8cc70208,
   0x90befffa, 0xa4506ceb, 0xbef9a3f7, 0xc67178f2]

/-- A word turned to the right. -/
def rotateRight (x n : UInt32) : UInt32 := (x >>> n) ||| (x <<< (32 - n))

/-- The state and the schedule window after the round with constant `k`. -/
def step (s : State × List UInt32) (k : UInt32) : State × List UInt32 :=
  let w := s.2
  let word := fun i => w.getD i 0
  let ⟨a, b, c, d, e, f, g, h⟩ := s.1
  let sum1 := rotateRight e 6 ^^^ rotateRight e 11 ^^^ rotateRight e 25
  let choice := (e &&& f) ^^^ (~~~e &&& g)
  let t1 := h + sum1 + choice + k + word 0
  let sum0 := rotateRight a 2 ^^^ rotateRight a 13 ^^^ rotateRight a 22
  let majority := (a &&& b) ^^^ (a &&& c) ^^^ (b &&& c)
  let old := word 1
  let late := word 14
  let sigma0 := rotateRight old 7 ^^^ rotateRight old 18 ^^^ (old >>> 3)
  let sigma1 := rotateRight late 17 ^^^ rotateRight late 19 ^^^ (late >>> 10)
  (⟨t1 + sum0 + majority, a, b, c, d + t1, e, f, g⟩,
    w.drop 1 ++ [sigma1 + word 9 + sigma0 + word 0])

/-- The chaining value after a block. -/
def compress (s : State) (block : Bytes) : State :=
  let words := (chunks 4 block).map fun bytes => UInt32.ofNat (Bytes.toNat bytes)
  let t := (roundConstants.foldl step (s, words)).1
  ⟨s.a + t.a, s.b + t.b, s.c + t.c, s.d + t.d, s.e + t.e, s.f + t.f, s.g + t.g, s.h + t.h⟩

/-- The words of the last chaining value, as bytes. -/
def run (start : State) (message : Bytes) : Bytes :=
  let s := (chunks 64 (padWithLength 64 8 message)).foldl compress start
  [s.a, s.b, s.c, s.d, s.e, s.f, s.g, s.h].flatMap fun x => bigEndian 4 x.toNat

/-- Every chaining value makes 32 bytes. -/
theorem length_run (start : State) (message : Bytes) : (run start message).length = 32 := by
  simp [run]

/-- The chaining value of SHA-256 before the first block. -/
def start : State :=
  ⟨0x6a09e667, 0xbb67ae85, 0x3c6ef372, 0xa54ff53a,
    0x510e527f, 0x9b05688c, 0x1f83d9ab, 0x5be0cd19⟩

/-- The chaining value of SHA-224 before the first block. -/
def start224 : State :=
  ⟨0xc1059ed8, 0x367cd507, 0x3070dd17, 0xf70e5939,
    0xffc00b31, 0x68581511, 0x64f98fa7, 0xbefa4fa4⟩

/-- The SHA-256 digest of a message. -/
def digest (message : Bytes) : Bytes := run start message

/-- The SHA-224 digest of a message. -/
def digest224 (message : Bytes) : Bytes := (run start224 message).take 28

end AdvancedSignature.Digest.Sha256
