/-
  Base64 with the standard alphabet and obligatory padding.
  Reading is strict: a text stands for some bytes only if it
  is exactly what writing them gives, so bits that padding
  leaves over have to be zero.

  Key definitions include:
    * `Base64.encode`
    * `Base64.decode?`
-/

namespace CaptureLink

namespace Base64

------------------------------------------------------------
-- The alphabet
------------------------------------------------------------

/- The letter of a six-bit value: capitals, small letters, digits, `+` and `/`. -/
def letter (v : Nat) : Char :=
  if v < 26 then Char.ofNat (65 + v)
  else if v < 52 then Char.ofNat (97 + (v - 26))
  else if v < 62 then Char.ofNat (48 + (v - 52))
  else if v = 62 then '+'
  else '/'

/- The value of a letter. -/
def value? (c : Char) : Option Nat :=
  let n := c.toNat
  if 65 ≤ n ∧ n ≤ 90 then some (n - 65)
  else if 97 ≤ n ∧ n ≤ 122 then some (n - 97 + 26)
  else if 48 ≤ n ∧ n ≤ 57 then some (n - 48 + 52)
  else if c = '+' then some 62
  else if c = '/' then some 63
  else none

/- The sign that fills an incomplete group. -/
def pad : Char := '='

------------------------------------------------------------
-- Writing
------------------------------------------------------------

/- The letters of a group of three bytes. -/
def group (a b c : UInt8) : List Char :=
  let n := a.toNat * 65536 + b.toNat * 256 + c.toNat
  [ letter (n / 262144),
    letter (n / 4096 % 64),
    letter (n / 64 % 64),
    letter (n % 64) ]

/- Write the bytes behind letters already written, newest first. -/
def encodeOnto
    (written : List Char) :
    List UInt8 → List Char
| [] => written.reverse
| [a] => written.reverse ++ (group a 0 0).take 2 ++ [pad, pad]
| [a, b] => written.reverse ++ (group a b 0).take 3 ++ [pad]
| a :: b :: c :: rest =>
    encodeOnto ((group a b c).reverse ++ written) rest

/- The text of a byte string. -/
def encode (bytes : List UInt8) : String :=
  String.ofList (encodeOnto [] bytes)

------------------------------------------------------------
-- Reading
------------------------------------------------------------

/- The value of a group of four letters. -/
def groupValue? (a b c d : Char) : Option Nat := do
  let a ← value? a
  let b ← value? b
  let c ← value? c
  let d ← value? d
  some (a * 262144 + b * 4096 + c * 64 + d)

/- The three bytes of a 24-bit value. -/
def threeBytes (n : Nat) : List UInt8 :=
  [ UInt8.ofNat (n / 65536),
    UInt8.ofNat (n / 256 % 256),
    UInt8.ofNat (n % 256) ]

/-
  The bytes of the last group, where padding may stand for
  one or two missing bytes.
-/
def lastGroup? (a b c d : Char) : Option (List UInt8) :=
  if d = pad then
    if c = pad then do
      let n ← groupValue? a b 'A' 'A'
      if n % 65536 = 0 then some ((threeBytes n).take 1) else none
    else do
      let n ← groupValue? a b c 'A'
      if n % 256 = 0 then some ((threeBytes n).take 2) else none
  else
    (groupValue? a b c d).map threeBytes

/- Read on behind bytes already read, newest first. -/
def decodeOnto
    (done : List UInt8) :
    List Char → Option (List UInt8)
| [] => some done.reverse
| [a, b, c, d] => (lastGroup? a b c d).map (done.reverse ++ ·)
| a :: b :: c :: d :: rest =>
    match groupValue? a b c d with
    | none => none
    | some n => decodeOnto ((threeBytes n).reverse ++ done) rest
| _ => none

/- The bytes a text stands for. -/
def decode? (text : List Char) : Option (List UInt8) :=
  decodeOnto [] text

end Base64

end CaptureLink
