/-!
# ScoreKeeper — socket addresses

A socket address is an IPv4 address and a port, written `a.b.c.d:port`, or an IPv6 address, an
optional scope and a port, written `[addr%scope]:port`. Reading is strict: an IPv4 part has one
to three decimal digits and no leading zero, an IPv6 group one to four hexadecimal digits, `::`
stands for one or more zero groups, an IPv4 address may close an IPv6 one when two groups are left
for it, and the whole text must be read. Writing follows RFC 5952: lowercase groups without
leading zeros, the first longest run of two or more zero groups written `::`, and IPv4-mapped
addresses as `::ffff:a.b.c.d`.
-/

namespace ScoreKeeper.Net

/-- An IPv4 address, by its four octets. -/
structure Ipv4 where
  a : UInt8
  b : UInt8
  c : UInt8
  d : UInt8
  deriving DecidableEq, Repr

/-- An IPv6 address, by its eight 16-bit groups. -/
structure Ipv6 where
  groups : List UInt16
  deriving DecidableEq, Repr

/-- A socket address. -/
inductive SocketAddr where
  | v4 (ip : Ipv4) (port : UInt16)
  | v6 (ip : Ipv6) (port : UInt16) (scope : UInt32)
  deriving DecidableEq, Repr

/-- The value of a digit in a radix up to 16. -/
def digitIn (radix : Nat) (ch : Char) : Option Nat :=
  let v := if ch.isDigit then some (ch.toNat - '0'.toNat)
    else if 'a' ≤ ch && ch ≤ 'f' then some (ch.toNat - 'a'.toNat + 10)
    else if 'A' ≤ ch && ch ≤ 'F' then some (ch.toNat - 'A'.toNat + 10)
    else none
  v.bind fun d => if d < radix then some d else none

/-- The longest run of digits at the front, with their values, and the rest. -/
def spanDigits (radix : Nat) : List Char → List Nat × List Char
  | [] => ([], [])
  | ch :: rest =>
    match digitIn radix ch with
    | none => ([], ch :: rest)
    | some d => let (ds, r) := spanDigits radix rest; (d :: ds, r)

/-- The number that digits spell. -/
def digitsValue (radix : Nat) (ds : List Nat) : Nat :=
  ds.foldl (fun acc d => acc * radix + d) 0

/-- Reads a number: every digit at the front is taken, there must be one, at most `maxDigits`
when given, the value must be below `bound`, and a leading zero is allowed only alone unless
`zeroPrefix`. -/
def readNumber (radix : Nat) (maxDigits : Option Nat) (zeroPrefix : Bool) (bound : Nat)
    (cs : List Char) : Option (Nat × List Char) :=
  let (ds, rest) := spanDigits radix cs
  let v := digitsValue radix ds
  if ds.isEmpty then none
  else if (maxDigits.map fun m => decide (m < ds.length)).getD false then none
  else if bound ≤ v then none
  else if !zeroPrefix && ds.head? = some 0 && 1 < ds.length then none
  else some (v, rest)

/-- Reads an IPv4 address. -/
def readIpv4 (cs : List Char) : Option (Ipv4 × List Char) := do
  let (a, r1) ← readNumber 10 (some 3) false 256 cs
  let r1 ← match r1 with | '.' :: r => some r | _ => none
  let (b, r2) ← readNumber 10 (some 3) false 256 r1
  let r2 ← match r2 with | '.' :: r => some r | _ => none
  let (c, r3) ← readNumber 10 (some 3) false 256 r2
  let r3 ← match r3 with | '.' :: r => some r | _ => none
  let (d, r4) ← readNumber 10 (some 3) false 256 r3
  pure (⟨a.toUInt8, b.toUInt8, c.toUInt8, d.toUInt8⟩, r4)

/-- The two groups an IPv4 address fills at the end of an IPv6 one. -/
def Ipv4.groups (ip : Ipv4) : List UInt16 :=
  [ip.a.toUInt16 * 256 + ip.b.toUInt16, ip.c.toUInt16 * 256 + ip.d.toUInt16]

/-- Reads at most `limit` colon-separated groups (the first without a colon when `first`); an
IPv4 address closes them when two groups are left for it. Gives the groups, whether an IPv4
address closed them, and the rest after the last group read. -/
def readGroups : Nat → Bool → List Char → List UInt16 × Bool × List Char
  | 0, _, cs => ([], false, cs)
  | k + 1, first, cs =>
    let afterColon := if first then some cs else match cs with
      | ':' :: r => some r
      | _ => none
    match afterColon with
    | none => ([], false, cs)
    | some r =>
      match (if 0 < k then readIpv4 r else none) with
      | some (ip, r') => (ip.groups, true, r')
      | none =>
        match readNumber 16 (some 4) true 65536 r with
        | none => ([], false, cs)
        | some (g, r') =>
          let (gs, closed, rest) := readGroups k false r'
          (g.toUInt16 :: gs, closed, rest)

/-- Reads an IPv6 address. -/
def readIpv6 (cs : List Char) : Option (Ipv6 × List Char) :=
  let (head, closed, r) := readGroups 8 true cs
  if head.length = 8 then some (⟨head⟩, r)
  else if closed then none
  else match r with
    | ':' :: ':' :: r2 =>
      let (tail, _, r3) := readGroups (8 - (head.length + 1)) true r2
      some (⟨head ++ List.replicate (8 - head.length - tail.length) 0 ++ tail⟩, r3)
    | _ => none

/-- Reads `:port`. -/
def readPort (cs : List Char) : Option (UInt16 × List Char) :=
  match cs with
  | ':' :: r => (readNumber 10 none true 65536 r).map fun (p, r') => (p.toUInt16, r')
  | _ => none

/-- Reads an IPv4 socket address. -/
def readSocketV4 (cs : List Char) : Option (SocketAddr × List Char) := do
  let (ip, r) ← readIpv4 cs
  let (port, r') ← readPort r
  pure (.v4 ip port, r')

/-- Reads `%scope`, if it is there. -/
def readScope (cs : List Char) : Option (UInt32 × List Char) :=
  match cs with
  | '%' :: r => (readNumber 10 none true 4294967296 r).map fun (s, r') => (s.toUInt32, r')
  | _ => none

/-- Reads an IPv6 socket address. -/
def readSocketV6 (cs : List Char) : Option (SocketAddr × List Char) := do
  let r ← match cs with | '[' :: r => some r | _ => none
  let (ip, r) ← readIpv6 r
  let (scope, r) := (readScope r).getD (0, r)
  let r ← match r with | ']' :: r => some r | _ => none
  let (port, r) ← readPort r
  pure (.v6 ip port scope, r)

/-- Reads a socket address; the whole text must be one. -/
def SocketAddr.parse? (s : String) : Option SocketAddr :=
  let cs := s.toList
  match readSocketV4 cs with
  | some (a, []) => some a
  | some _ => none
  | none =>
    match readSocketV6 cs with
    | some (a, []) => some a
    | _ => none

/-- Why a socket address does not read. -/
def addrSyntaxMessage : String := "invalid socket address syntax"

/-- The dotted text of an IPv4 address. -/
def Ipv4.display (ip : Ipv4) : String :=
  s!"{ip.a.toNat}.{ip.b.toNat}.{ip.c.toNat}.{ip.d.toNat}"

/-- A group in lowercase hexadecimal without leading zeros. -/
def groupText (g : UInt16) : String :=
  String.ofList (Nat.toDigits 16 g.toNat)

/-- Groups joined by colons. -/
def groupsText (gs : List UInt16) : String :=
  ":".intercalate (gs.map groupText)

/-- The first longest run of zero groups, as its start and length. -/
def longestZeros (gs : List UInt16) : Nat × Nat :=
  let step := fun (acc : (Nat × Nat) × (Nat × Nat) × Nat) (g : UInt16) =>
    let (best, cur, i) := acc
    if g = 0 then
      let cur' := if cur.2 = 0 then (i, 1) else (cur.1, cur.2 + 1)
      (if best.2 < cur'.2 then cur' else best, cur', i + 1)
    else (best, (0, 0), i + 1)
  (gs.foldl step ((0, 0), (0, 0), 0)).1

/-- The IPv4 address an IPv6 address maps, when it is `::ffff:a.b.c.d`. -/
def Ipv6.mapped? (ip : Ipv6) : Option Ipv4 :=
  match ip.groups with
  | [0, 0, 0, 0, 0, 0xffff, hi, lo] =>
    some ⟨(hi >>> 8).toUInt8, hi.toUInt8, (lo >>> 8).toUInt8, lo.toUInt8⟩
  | _ => none

/-- The text of an IPv6 address. -/
def Ipv6.display (ip : Ipv6) : String :=
  match ip.mapped? with
  | some v4 => "::ffff:" ++ v4.display
  | none =>
    let (start, len) := longestZeros ip.groups
    if 1 < len then
      groupsText (ip.groups.take start) ++ "::" ++ groupsText (ip.groups.drop (start + len))
    else groupsText ip.groups

/-- The text of a socket address. -/
def SocketAddr.display : SocketAddr → String
  | .v4 ip port => ip.display ++ ":" ++ toString port.toNat
  | .v6 ip port scope =>
    "[" ++ ip.display ++ (if scope = 0 then "" else "%" ++ toString scope.toNat) ++ "]:" ++
      toString port.toNat

/-- The port. -/
def SocketAddr.port : SocketAddr → UInt16
  | .v4 _ p => p
  | .v6 _ p _ => p

/-- Whether the address is the wildcard address of its family. -/
def SocketAddr.isUnspecified : SocketAddr → Bool
  | .v4 ip _ => ip = ⟨0, 0, 0, 0⟩
  | .v6 ip _ _ => ip.groups.all (· = 0)

/-- Whether the address is an IPv4 loopback address (`127.0.0.0/8`). -/
def SocketAddr.isLoopbackV4 : SocketAddr → Bool
  | .v4 ip _ => ip.a = 127
  | .v6 .. => false

/-- The address with another port. -/
def SocketAddr.withPort (port : UInt16) : SocketAddr → SocketAddr
  | .v4 ip _ => .v4 ip port
  | .v6 ip _ s => .v6 ip port s

end ScoreKeeper.Net
