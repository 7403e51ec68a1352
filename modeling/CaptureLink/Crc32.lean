/-
  The CRC-32 of IEEE 802.3 in its reflected form, one bit at
  a time, and the four bytes in which it travels.

  Key definitions include:
    * `Crc32.shift`
    * `Crc32.absorb`
    * `Crc32.checksum`
    * `Crc32.toBytes`
    * `Crc32.ofBytes`
-/

namespace CaptureLink

namespace Crc32

/- The generator, lowest power in the highest bit. -/
def generator : UInt32 := 0xEDB88320

/- One step of the division: the lowest bit leaves. -/
def shift (r : UInt32) : UInt32 :=
  if r &&& 1 = 1 then (r >>> 1) ^^^ generator else r >>> 1

/- Take one byte into the remainder. -/
def absorb (r : UInt32) (b : UInt8) : UInt32 :=
  let r := r ^^^ b.toUInt32
  shift (shift (shift (shift (shift (shift (shift (shift r)))))))

/- The remainder of a byte string, started and ended in complement. -/
def checksum (bytes : List UInt8) : UInt32 :=
  bytes.foldl absorb 0xFFFFFFFF ^^^ 0xFFFFFFFF

/- The check value of the standard. -/
example : checksum "123456789".toUTF8.toList = 0xCBF43926 := by
  decide +kernel

/- Four bytes, the lowest first. -/
def toBytes (r : UInt32) : List UInt8 :=
  [ r.toUInt8,
    (r >>> 8).toUInt8,
    (r >>> 16).toUInt8,
    (r >>> 24).toUInt8 ]

/- The number whose bytes are given, the lowest first. -/
def ofBytes (b₀ b₁ b₂ b₃ : UInt8) : UInt32 :=
  b₀.toUInt32 ||| b₁.toUInt32 <<< 8 |||
    b₂.toUInt32 <<< 16 ||| b₃.toUInt32 <<< 24

end Crc32

end CaptureLink
