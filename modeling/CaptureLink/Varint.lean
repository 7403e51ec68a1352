/-
  Lengths on the wire: a natural number in groups of seven
  bits, the lowest group first.  Every byte but the last
  carries the continuation bit.

  Key definitions include:
    * `Varint.write`
    * `Varint.size`
    * `Varint.Reading`
    * `Varint.read`
-/

namespace CaptureLink

namespace Varint

/- The longest form of a 64-bit number, in bytes. -/
def maxBytes : Nat := 10

------------------------------------------------------------
-- Writing
------------------------------------------------------------

/- The bytes of a number; there is always at least one. -/
def write (n : Nat) : List UInt8 :=
  if n < 128 then
    [UInt8.ofNat n]
  else
    UInt8.ofNat (n % 128 + 128) :: write (n / 128)
termination_by n

/-
  The number of bytes `write` takes: one for each started
  group of seven significant bits.
-/
def size (n : Nat) : Nat :=
  if n = 0 then 1 else (n.log2 + 7) / 7

------------------------------------------------------------
-- Reading
------------------------------------------------------------

/- What the front of a byte string says about a length. -/
inductive Reading where
/- A number, and how many bytes it took. -/
| value (n used : Nat)
/- The bytes end before the number does. -/
| incomplete
/- More bytes carry the continuation bit than a 64-bit number has groups. -/
| overflow
deriving DecidableEq, Repr

/-
  Read on at group `pos` with the groups before it summed up
  in `total`.  The sum lives in 64 bits, so what the tenth
  group has beyond the topmost bit is dropped.
-/
def readFrom
    (pos total : Nat) :
    List UInt8 → Reading
| [] => if maxBytes ≤ pos then .overflow else .incomplete
| b :: bs =>
    if maxBytes ≤ pos then
      .overflow
    else
      let sum := (total + b.toNat % 128 * Nat.pow 2 (7 * pos)) %
          UInt64.size
      if b.toNat < 128 then
        .value sum (pos + 1)
      else
        readFrom (pos + 1) sum bs

/- Read a number from the front of a byte string. -/
def read (bytes : List UInt8) : Reading :=
  readFrom 0 0 bytes

end Varint

end CaptureLink
