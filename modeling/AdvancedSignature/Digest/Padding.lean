import AdvancedSignature.Bytes

/-!
# Padding and blocks

What the digests have in common: numbers as big-endian bytes and back, the padding that ends a
message with a single one bit, zeros and its length in bits, and the cut into blocks.
-/

namespace AdvancedSignature.Digest

/-- The low `width` bytes of a number, most significant first. -/
def bigEndian : Nat → Nat → Bytes
  | 0, _ => []
  | width + 1, n => UInt8.ofNat (n >>> (8 * width)) :: bigEndian width n

/-- The message with a one bit, as few zeros as needed and its length in bits, so that it fills
blocks of `block` bytes; the length takes `width` bytes. -/
def padWithLength (block width : Nat) (message : Bytes) : Bytes :=
  let zeros := (block - (message.length + 1 + width) % block) % block
  message ++ 0x80 :: List.replicate zeros 0 ++ bigEndian width (message.length * 8)

/-- The list in pieces of `size` elements, the last of which may be shorter. -/
def chunks {α : Type} (size : Nat) (xs : List α) : List (List α) :=
  if h : xs = [] ∨ size = 0 then []
  else
    have : (xs.drop size).length < xs.length := by
      have : 0 < xs.length := List.length_pos_iff.2 fun e => h (.inl e)
      simp only [List.length_drop]
      omega
    xs.take size :: chunks size (xs.drop size)
termination_by xs.length

/-- A big-endian number has as many bytes as were asked for. -/
@[simp] theorem length_bigEndian (width n : Nat) : (bigEndian width n).length = width := by
  induction width with
  | zero => rfl
  | succ width ih => simp [bigEndian, ih]

end AdvancedSignature.Digest
