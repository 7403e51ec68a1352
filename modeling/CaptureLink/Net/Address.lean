import CaptureLink.Text.Digit

/-
  Internet addresses and their texts.  An address of version
  six is eight groups; two colons stand for groups of zeros,
  and the last two groups may be written as an address of
  version four.

  Key definitions include:
    * `Net.Ipv4`
    * `Net.Ipv6`
    * `Net.IpAddress`
    * `Net.SocketAddress`
    * `Net.IpAddress.ofText?`
    * `Net.IpAddress.text`
    * `Net.SocketAddress.ofText?`
    * `Net.SocketAddress.text`
-/

namespace CaptureLink

namespace Net

open Text (digit? hexDigit? spelled)

------------------------------------------------------------
-- Addresses
------------------------------------------------------------

/- An address of version four. -/
structure Ipv4 where
  a : UInt8
  b : UInt8
  c : UInt8
  d : UInt8
deriving DecidableEq, Repr

/- An address of version six. -/
structure Ipv6 where
  groups : List UInt16
  length_eq : groups.length = 8
deriving DecidableEq

/- An address of either version. -/
inductive IpAddress where
| v4 (ip : Ipv4)
| v6 (ip : Ipv6)
deriving DecidableEq

/- An address with a port; version six knows scopes. -/
inductive SocketAddress where
| v4 (ip : Ipv4) (port : UInt16)
| v6 (ip : Ipv6) (port : UInt16) (scope : UInt32)
deriving DecidableEq

namespace Ipv4

/- The machine itself. -/
def loopback : Ipv4 :=
  ⟨127, 0, 0, 1⟩

/- All addresses of the machine. -/
def anywhere : Ipv4 :=
  ⟨0, 0, 0, 0⟩

/- The address as two groups. -/
def groups (ip : Ipv4) : List UInt16 :=
  [ ip.a.toUInt16 * 256 + ip.b.toUInt16,
    ip.c.toUInt16 * 256 + ip.d.toUInt16 ]

end Ipv4

/- The eight groups of an address, if there are eight. -/
def Ipv6.ofGroups? (groups : List UInt16) : Option Ipv6 :=
  if h : groups.length = 8 then some ⟨groups, h⟩ else none

namespace SocketAddress

/- An address and a port, without a scope. -/
def of (ip : IpAddress) (port : UInt16) : SocketAddress :=
  match ip with
  | .v4 ip => .v4 ip port
  | .v6 ip => .v6 ip port 0

/- The port. -/
def port : SocketAddress → UInt16
| .v4 _ port => port
| .v6 _ port _ => port

/- The address with another port. -/
def withPort
    (address : SocketAddress)
    (port : UInt16) : SocketAddress :=
  match address with
  | .v4 ip _ => .v4 ip port
  | .v6 ip _ scope => .v6 ip port scope

end SocketAddress

------------------------------------------------------------
-- Reading
------------------------------------------------------------

/- The values of the digits at the front of a text, and the rest. -/
def digitsAt
    (digit? : Char → Option Nat) :
    List Char → List Nat × List Char
| [] => ([], [])
| c :: cs =>
    match digit? c with
    | none => ([], c :: cs)
    | some d =>
        let (ds, rest) := digitsAt digit? cs
        (d :: ds, rest)

/- A number below `bound` in any number of decimal digits. -/
def number?
    (bound : Nat)
    (cs : List Char) : Option (Nat × List Char) :=
  match digitsAt digit? cs with
  | ([], _) => none
  | (ds, rest) =>
      if spelled 10 ds < bound then
        some (spelled 10 ds, rest)
      else
        none

/- A byte in decimal, without a superfluous zero in front. -/
def octet? (cs : List Char) : Option (UInt8 × List Char) :=
  match digitsAt digit? cs with
  | ([], _) => none
  | (0 :: _ :: _, _) => none
  | (ds, rest) =>
      if ds.length ≤ 3 ∧ spelled 10 ds < 256 then
        some (UInt8.ofNat (spelled 10 ds), rest)
      else
        none

/- A group in at most four hexadecimal digits. -/
def group? (cs : List Char) : Option (UInt16 × List Char) :=
  match digitsAt hexDigit? cs with
  | ([], _) => none
  | (ds, rest) =>
      if ds.length ≤ 4 then
        some (UInt16.ofNat (spelled 16 ds), rest)
      else
        none

/- The rest of a text behind a given character. -/
def behind?
    (mark : Char) :
    List Char → Option (List Char)
| c :: cs => if c = mark then some cs else none
| [] => none

/- An address of version four at the front of a text. -/
def ipv4At? (cs : List Char) : Option (Ipv4 × List Char) := do
  let (a, cs) ← octet? cs
  let (b, cs) ← octet? (← behind? '.' cs)
  let (c, cs) ← octet? (← behind? '.' cs)
  let (d, cs) ← octet? (← behind? '.' cs)
  some (⟨a, b, c, d⟩, cs)

/- Groups at the front of a text, the rest, and whether the last were dotted. -/
structure Groups where
  groups : List UInt16
  dotted : Bool
  rest : List Char

/- The text at which the next group starts. -/
def nextGroup?
    (first : Bool)
    (cs : List Char) : Option (List Char) :=
  if first then some cs else behind? ':' cs

/-
  As many groups as there are, but not more than there is
  room for.  A dotted address takes two groups and ends them.
-/
def groupsAt (first : Bool) : Nat → List Char → Groups
| 0, cs => ⟨[], false, cs⟩
| room + 1, cs =>
    match nextGroup? first cs with
    | none => ⟨[], false, cs⟩
    | some start =>
        match if room = 0 then none else ipv4At? start with
        | some (ip, rest) => ⟨ip.groups, true, rest⟩
        | none =>
            match group? start with
            | none => ⟨[], false, cs⟩
            | some (g, rest) =>
                let more := groupsAt false room rest
                { more with groups := g :: more.groups }

/- An address of version six at the front of a text. -/
def ipv6At? (cs : List Char) : Option (Ipv6 × List Char) := do
  let front := groupsAt true 8 cs
  if front.groups.length = 8 then
    let ip ← Ipv6.ofGroups? front.groups
    some (ip, front.rest)
  else if front.dotted then
    none
  else
    let cs ← behind? ':' (← behind? ':' front.rest)
    let back := groupsAt true (7 - front.groups.length) cs
    let zeros := 8 - front.groups.length - back.groups.length
    let ip ← Ipv6.ofGroups?
      (front.groups ++ List.replicate zeros 0 ++ back.groups)
    some (ip, back.rest)

/- What was read, if nothing is left. -/
def whole?
    {α : Type} :
    Option (α × List Char) → Option α
| some (value, []) => some value
| _ => none

namespace IpAddress

/- An address at the front of a text. -/
def at? (cs : List Char) : Option (IpAddress × List Char) :=
  match ipv4At? cs with
  | some (ip, rest) => some (.v4 ip, rest)
  | none => (ipv6At? cs).map fun (ip, rest) => (.v6 ip, rest)

/- The address that a text spells. -/
def ofText? (s : String) : Option IpAddress :=
  whole? (at? s.toList)

end IpAddress

/- A colon and a port at the front of a text. -/
def portAt? (cs : List Char) : Option (UInt16 × List Char) := do
  let (n, cs) ← number? 65536 (← behind? ':' cs)
  some (UInt16.ofNat n, cs)

/- A scope, which may be missing, at the front of a text. -/
def scopeAt (cs : List Char) : UInt32 × List Char :=
  match (behind? '%' cs).bind (number? 4294967296) with
  | some (n, rest) => (UInt32.ofNat n, rest)
  | none => (0, cs)

namespace SocketAddress

/- An address of version four and a port at the front of a text. -/
def v4At? (cs : List Char) : Option (SocketAddress × List Char) := do
  let (ip, cs) ← ipv4At? cs
  let (port, cs) ← portAt? cs
  some (.v4 ip port, cs)

/- An address of version six in brackets, and a port. -/
def v6At? (cs : List Char) : Option (SocketAddress × List Char) := do
  let (ip, cs) ← ipv6At? (← behind? '[' cs)
  let (scope, cs) := scopeAt cs
  let (port, cs) ← portAt? (← behind? ']' cs)
  some (.v6 ip port scope, cs)

/- The address with a port that a text spells. -/
def ofText? (s : String) : Option SocketAddress :=
  whole? ((v4At? s.toList).or (v6At? s.toList))

end SocketAddress

------------------------------------------------------------
-- Writing
------------------------------------------------------------

/- Four decimal numbers between points. -/
def Ipv4.text (ip : Ipv4) : String :=
  ip.a.toNat.repr ++ "." ++ ip.b.toNat.repr ++ "." ++
    ip.c.toNat.repr ++ "." ++ ip.d.toNat.repr

/- Groups in hexadecimal between colons. -/
def groupsText (groups : List UInt16) : String :=
  ":".intercalate
    (groups.map fun g => String.ofList (Nat.toDigits 16 g.toNat))

/- The zeros at the front of some groups. -/
def zerosAt (groups : List UInt16) : Nat :=
  (groups.takeWhile (· = 0)).length

/-
  The first of the longest runs of zeros, by its place and
  length, when the groups given start at place `at`.
-/
def longestZeros (place : Nat) : List UInt16 → Nat × Nat
| [] => (place, 0)
| g :: gs =>
    let here := zerosAt (g :: gs)
    let later := longestZeros (place + 1) gs
    if later.2 ≤ here then (place, here) else later

/- The address of version four that is embedded in one of version six. -/
def Ipv6.mapped? (ip : Ipv6) : Option Ipv4 :=
  match ip.groups with
  | [0, 0, 0, 0, 0, 0xFFFF, g, h] =>
      some
        ⟨(g >>> 8).toUInt8, g.toUInt8, (h >>> 8).toUInt8, h.toUInt8⟩
  | _ => none

/- Two colons for the first of the longest runs of two zeros or more. -/
def Ipv6.text (ip : Ipv6) : String :=
  match ip.mapped? with
  | some v4 => "::ffff:" ++ v4.text
  | none =>
      let (place, length) := longestZeros 0 ip.groups
      if 1 < length then
        groupsText (ip.groups.take place) ++ "::" ++
          groupsText (ip.groups.drop (place + length))
      else
        groupsText ip.groups

/- The text of an address. -/
def IpAddress.text : IpAddress → String
| .v4 ip => ip.text
| .v6 ip => ip.text

/- The text of an address with its port. -/
def SocketAddress.text : SocketAddress → String
| .v4 ip port => ip.text ++ ":" ++ port.toNat.repr
| .v6 ip port scope =>
    let scopeText :=
      if scope = 0 then "" else "%" ++ scope.toNat.repr
    "[" ++ ip.text ++ scopeText ++ "]:" ++ port.toNat.repr

end Net

end CaptureLink
