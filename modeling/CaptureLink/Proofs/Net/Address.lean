import CaptureLink.Net.Address
import CaptureLink.Proofs.Text.Digit

/-
  Addresses in front of something else.  What is read at the
  front of a text does not depend on what stands behind a mark
  that no address contains.

  Main statements:
    * `Net.Stable`
    * `Net.Stable.ipv4At?`
    * `Net.groupsAt_append`
    * `Net.Stable.ipv6At?`
    * `Net.portAt?_repr`
-/

namespace CaptureLink

namespace Net

open Text (digit? hexDigit?)

------------------------------------------------------------
-- Readers and what they leave
------------------------------------------------------------

/- What was read, with more text behind what is left. -/
def leaving
    {α : Type}
    (tail : List Char)
    (found : α × List Char) : α × List Char :=
  (found.1, found.2 ++ tail)

/- With more text behind, the same is read and that text is left. -/
def Stable
    {α : Type}
    (tail : List Char)
    (read : List Char → Option (α × List Char)) : Prop :=
  ∀ cs, read (cs ++ tail) = (read cs).map (leaving tail)

namespace Stable

variable {α β : Type}
variable {tail : List Char}

/- Nothing is read of the text. -/
theorem unread (a : α) : Stable tail fun cs => some (a, cs) :=
  fun _ => rfl

/- One reader after the other. -/
theorem bind
    {read : List Char → Option (α × List Char)}
    {next : α → List Char → Option (β × List Char)}
    (hRead : Stable tail read)
    (hNext : ∀ a, Stable tail (next a)) :
    Stable tail fun cs =>
      (read cs).bind fun found => next found.1 found.2 := by
  intro cs
  simp only [hRead cs]
  cases read cs with
  | none => rfl
  | some found => exact hNext found.1 found.2

/- A reader behind a mark, where another mark follows. -/
theorem behind
    {sought mark : Char}
    {rest : List Char}
    {next : List Char → Option (β × List Char)}
    (hMark : mark ≠ sought)
    (hNext : Stable (mark :: rest) next) :
    Stable (mark :: rest) fun cs =>
      (behind? sought cs).bind next := by
  intro cs
  cases cs with
  | nil => simp only [List.nil_append, behind?, hMark, if_false,
      Option.bind_none, Option.map_none]
  | cons c cs =>
      simp only [List.cons_append, behind?]
      split
      · exact hNext cs
      · rfl

end Stable

------------------------------------------------------------
-- Digits
------------------------------------------------------------

section Digits

variable {mark : Char}
variable (rest : List Char)

/- Digits end at a mark that is no digit. -/
theorem digitsAt_append
    {digit? : Char → Option Nat}
    (cs : List Char)
    (hMark : digit? mark = none) :
    digitsAt digit? (cs ++ mark :: rest) =
      leaving (mark :: rest) (digitsAt digit? cs) := by
  induction cs with
  | nil => simp only [List.nil_append, digitsAt, hMark, leaving]
  | cons c cs ih =>
      simp only [List.cons_append, digitsAt]
      cases digit? c with
      | none => rfl
      | some d =>
          simp only [ih]
          rfl

/- A byte is read in front of such a mark. -/
theorem Stable.octet?
    (hMark : digit? mark = none) :
    Stable (mark :: rest) octet? := by
  intro cs
  unfold Net.octet?
  rw [digitsAt_append rest cs hMark]
  rcases digitsAt digit? cs with ⟨ds, left⟩
  -- None, one or several digits, where a zero may stand alone.
  rcases ds with _ | ⟨_ | d, _ | ⟨d', ds⟩⟩
  · rfl
  · rfl
  · rfl
  all_goals
    simp only [leaving]
    split
    · rfl
    · rfl

/- So is a group. -/
theorem Stable.group?
    (hMark : hexDigit? mark = none) :
    Stable (mark :: rest) group? := by
  intro cs
  unfold Net.group?
  rw [digitsAt_append rest cs hMark]
  rcases digitsAt hexDigit? cs with ⟨ds, left⟩
  cases ds with
  | nil => rfl
  | cons d ds =>
      simp only [leaving]
      split
      · rfl
      · rfl

------------------------------------------------------------
-- Addresses
------------------------------------------------------------

/- An address of version four is read in front of such a mark. -/
theorem Stable.ipv4At?
    (hMark : digit? mark = none)
    (hPoint : mark ≠ '.') :
    Stable (mark :: rest) ipv4At? :=
  have hOctet := Stable.octet? rest hMark
  hOctet.bind fun _ =>
    .behind hPoint <| hOctet.bind fun _ =>
      .behind hPoint <| hOctet.bind fun _ =>
        .behind hPoint <| hOctet.bind fun _ =>
          .unread _

/- Groups are read in front of a mark, and if the last are dotted. -/
theorem groupsAt_append
    (first : Bool)
    (room : Nat)
    (cs : List Char)
    (hMark : hexDigit? mark = none)
    (hPoint : mark ≠ '.')
    (hColon : mark ≠ ':') :
    groupsAt first room (cs ++ mark :: rest) =
      { groupsAt first room cs with
        rest := (groupsAt first room cs).rest ++ mark :: rest } := by
  have hIpv4 :=
    Stable.ipv4At? rest (Text.digit?_of_hexDigit? hMark) hPoint
  have hGroup := Stable.group? rest hMark
  induction room generalizing first cs with
  | zero => rfl
  | succ room ih =>
      have hNext :
          nextGroup? first (cs ++ mark :: rest) =
            (nextGroup? first cs).map (· ++ mark :: rest) := by
        cases first with
        | true => rfl
        | false =>
            cases cs with
            | nil => simp [nextGroup?, behind?, hColon]
            | cons c cs =>
                simp only [nextGroup?, List.cons_append, behind?,
                  Bool.false_eq_true, if_false]
                split
                · rfl
                · rfl
      simp only [groupsAt, hNext]
      cases nextGroup? first cs with
      | none => rfl
      | some start =>
          simp only [Option.map_some, hIpv4 start, hGroup start]
          by_cases hRoom : room = 0
          · simp only [hRoom, if_true]
            cases Net.group? start with
            | none => rfl
            | some found => rfl
          · simp only [hRoom, if_false]
            cases Net.ipv4At? start with
            | some found => rfl
            | none =>
                cases Net.group? start with
                | none => rfl
                | some found =>
                    simp only [Option.map_none, Option.map_some,
                      leaving, ih]

/- So is an address of version six. -/
theorem Stable.ipv6At?
    (hMark : hexDigit? mark = none)
    (hPoint : mark ≠ '.')
    (hColon : mark ≠ ':') :
    Stable (mark :: rest) ipv6At? := by
  intro cs
  unfold Net.ipv6At?
  simp only [groupsAt_append rest _ _ _ hMark hPoint hColon]
  by_cases hAll : (groupsAt true 8 cs).groups.length = 8
  · simp only [hAll, if_true]
    cases Ipv6.ofGroups? (groupsAt true 8 cs).groups with
    | none => rfl
    | some ip => rfl
  · simp only [hAll, if_false]
    cases (groupsAt true 8 cs).dotted with
    | true => rfl
    | false =>
        simp only [Bool.false_eq_true, if_false]
        apply Stable.behind hColon
        apply Stable.behind hColon
        intro behind
        simp only [groupsAt_append rest _ _ _ hMark hPoint hColon]
        cases Ipv6.ofGroups? _ with
        | none => rfl
        | some ip => rfl

end Digits

------------------------------------------------------------
-- Ports
------------------------------------------------------------

/- The digits of a number are taken to the end of a text. -/
theorem digitsAt_toDigits (n : Nat) :
    digitsAt digit? (Nat.toDigits 10 n) =
      ((Nat.toDigits 10 n).map Text.place, []) := by
  have hAll :
      ∀ cs : List Char,
        (∀ c ∈ cs, c.isDigit = true) →
          digitsAt digit? cs = (cs.map Text.place, []) := by
    intro cs hDigits
    induction cs with
    | nil => rfl
    | cons c cs ih =>
        rw [List.forall_mem_cons] at hDigits
        simp only [digitsAt, Text.digit?_of_isDigit hDigits.1,
          ih hDigits.2, List.map_cons]
  exact hAll _ fun c hMem => Text.isDigit_of_mem hMem

/- A port is read from its digits. -/
theorem portAt?_repr (port : UInt16) :
    portAt? (':' :: port.toNat.repr.toList) = some (port, []) := by
  have hNumber :
      number? 65536 port.toNat.repr.toList =
        some (port.toNat, []) := by
    have hSome :
        (Nat.toDigits 10 port.toNat).map Text.place ≠ [] :=
      List.map_eq_nil_iff.not.mpr Nat.toDigits_ne_nil
    have hBound : port.toNat < 65536 := port.toNat_lt
    rw [Nat.toList_repr]
    unfold number?
    rw [digitsAt_toDigits]
    split
    next hNil =>
      exact absurd (Prod.mk.inj hNil).1 hSome
    next hDigits =>
      obtain ⟨rfl, rfl⟩ := Prod.mk.inj hDigits
      rw [Text.spelled_toDigits, if_pos hBound]
  simp only [portAt?, behind?, if_true, Option.bind_eq_bind,
    Option.bind_some, hNumber, UInt16.ofNat_toNat]

------------------------------------------------------------
-- Addresses with ports
------------------------------------------------------------

/- A text is read as a whole if nothing of it is left. -/
theorem whole?_eq_some_iff
    {α : Type}
    {found : Option (α × List Char)}
    {a : α} :
    whole? found = some a ↔ found = some (a, []) := by
  unfold whole?
  split
  · simp
  · rename_i hLeft
    simp only [reduceCtorEq, false_iff]
    rintro rfl
    exact hLeft a rfl

section Ports

variable {host : String}

/- An address of version four is tried first. -/
theorem ipv4At?_of_v4
    {ip : Ipv4}
    (hHost : IpAddress.ofText? host = some (.v4 ip)) :
    ipv4At? host.toList = some (ip, []) := by
  have hRead := whole?_eq_some_iff.mp hHost
  unfold IpAddress.at? at hRead
  split at hRead
  next ip' rest hFour =>
    cases hRead
    exact hFour
  next =>
    rw [Option.map_eq_some_iff] at hRead
    rcases hRead with ⟨_, _, hRead⟩
    cases hRead

/- One of version six is read where there is none. -/
theorem ipv6At?_of_v6
    {ip : Ipv6}
    (hHost : IpAddress.ofText? host = some (.v6 ip)) :
    ipv4At? host.toList = none ∧
      ipv6At? host.toList = some (ip, []) := by
  have hRead := whole?_eq_some_iff.mp hHost
  unfold IpAddress.at? at hRead
  split at hRead
  next => cases hRead
  next hNone =>
    rw [Option.map_eq_some_iff] at hRead
    rcases hRead with ⟨⟨ip', rest⟩, hSix, hRead⟩
    cases hRead
    exact ⟨hNone, hSix⟩

/- No address begins with a bracket. -/
theorem ipv4At?_bracket (cs : List Char) :
    ipv4At? ('[' :: cs) = none :=
  rfl

theorem ipv6At?_bracket (cs : List Char) :
    ipv6At? ('[' :: cs) = none :=
  rfl

variable (port : UInt16)

/- An address of version four, a colon and a port are read. -/
theorem SocketAddress.ofText?_of_v4
    {ip : Ipv4}
    (hHost : IpAddress.ofText? host = some (.v4 ip)) :
    ofText? (host ++ ":" ++ port.toNat.repr) =
      some (.v4 ip port) := by
  have hFour :
      ipv4At? (host.toList ++ ':' :: port.toNat.repr.toList) =
        some (ip, ':' :: port.toNat.repr.toList) := by
    rw [Stable.ipv4At? _ rfl (by decide) host.toList,
      ipv4At?_of_v4 hHost]
    rfl
  have hText :
      (host ++ ":" ++ port.toNat.repr).toList =
        host.toList ++ ':' :: port.toNat.repr.toList := by
    simp
  simp only [ofText?, hText, v4At?, hFour, portAt?_repr,
    Option.bind_eq_bind, Option.bind_some, Option.some_or, whole?]

/- One of version six is not: its last colons are no different. -/
theorem SocketAddress.ofText?_of_v6
    {ip : Ipv6}
    (hHost : IpAddress.ofText? host = some (.v6 ip)) :
    ofText? (host ++ ":" ++ port.toNat.repr) = none := by
  rcases ipv6At?_of_v6 hHost with ⟨hFour, hSix⟩
  have hNoFour :
      ipv4At? (host.toList ++ ':' :: port.toNat.repr.toList) =
        none := by
    rw [Stable.ipv4At? _ rfl (by decide) host.toList, hFour]
    rfl
  have hNoBracket :
      behind? '[' (host.toList ++ ':' :: port.toNat.repr.toList) =
        none := by
    cases hShape : host.toList with
    | nil => rfl
    | cons c cs =>
        have hFirst : c ≠ '[' := by
          rintro rfl
          rw [hShape, ipv6At?_bracket] at hSix
          cases hSix
        simp only [List.cons_append, behind?, hFirst, if_false]
  have hText :
      (host ++ ":" ++ port.toNat.repr).toList =
        host.toList ++ ':' :: port.toNat.repr.toList := by
    simp
  simp only [ofText?, hText, v4At?, v6At?, hNoFour, hNoBracket,
    Option.bind_eq_bind, Option.bind_none, Option.or_none, whole?]

/- In brackets it is. -/
theorem SocketAddress.ofText?_bracketed
    {ip : Ipv6}
    (hHost : IpAddress.ofText? host = some (.v6 ip)) :
    ofText? ("[" ++ host ++ "]:" ++ port.toNat.repr) =
      some (.v6 ip port 0) := by
  have hSix :
      ipv6At?
          (host.toList ++ ']' :: ':' :: port.toNat.repr.toList) =
        some (ip, ']' :: ':' :: port.toNat.repr.toList) := by
    rw [Stable.ipv6At? _ rfl (by decide) (by decide) host.toList,
      (ipv6At?_of_v6 hHost).2]
    rfl
  have hText :
      ("[" ++ host ++ "]:" ++ port.toNat.repr).toList =
        '[' :: (host.toList ++
          ']' :: ':' :: port.toNat.repr.toList) := by
    simp
  have hScope :
      scopeAt (']' :: ':' :: port.toNat.repr.toList) =
        (0, ']' :: ':' :: port.toNat.repr.toList) := rfl
  simp only [ofText?, hText, v4At?, ipv4At?_bracket, v6At?,
    behind?, if_true, hSix, hScope, portAt?_repr,
    Option.bind_eq_bind, Option.bind_none, Option.bind_some,
    Option.none_or, whole?]

end Ports

end Net

end CaptureLink
