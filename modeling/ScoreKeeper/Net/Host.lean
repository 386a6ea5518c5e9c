import ScoreKeeper.Net.Addr
import ScoreKeeper.Net.Idna
import ScoreKeeper.Net.Percent

/-!
# ScoreKeeper — URL hosts

The host of a URL is a domain, an IPv4 address or an IPv6 address in brackets. For a special
scheme the host text is percent-decoded and brought to its ASCII domain form; a domain whose last
label (or the one before a final dot) is a number is read as an IPv4 address, whose parts may be
decimal, octal (a leading `0`) or hexadecimal (`0x`), and whose last part fills the bytes the
others leave. Other schemes keep an opaque host, refusing the characters that cannot stand in
one. The IPv6 reader is the URL standard's: up to eight groups, one `::`, and a dotted IPv4
address in the last two groups.
-/

namespace ScoreKeeper.Net

/-- Why a host does not read. -/
inductive HostError where
  | empty
  | idna
  | ipv4
  | ipv6
  | domainCharacter
  deriving DecidableEq, Repr

/-- A URL's host. -/
inductive Host where
  | domain (name : String)
  | ipv4 (ip : Ipv4)
  | ipv6 (ip : Ipv6)
  deriving DecidableEq, Repr

/-- An IPv4 number part: `some none` when it overflows 32 bits, `none` when it is not a number. -/
def ipv4Number (part : List Char) : Option (Option Nat) :=
  if part.isEmpty then none
  else
    let (radix, digits) := match part with
      | '0' :: 'x' :: r => (16, r)
      | '0' :: 'X' :: r => (16, r)
      | '0' :: r@(_ :: _) => (8, r)
      | r => (10, r)
    if digits.isEmpty then some (some 0)
    else if digits.all (fun c => (digitIn radix c).isSome) then
      let v := digitsValue radix (digits.filterMap (digitIn radix))
      some (if v < 4294967296 then some v else none)
    else none

/-- Whether a domain ends in a number, so that it must be an IPv4 address: its last label, or
the one before a final dot, is all digits or reads as an IPv4 number part. -/
def endsInNumber (domain : String) : Bool :=
  let last := match (domain.toList.splitOn '.').reverse with
    | [] :: before :: _ => some before
    | p :: _ => some p
    | [] => none
  match last with
  | none => false
  | some p => (!p.isEmpty && p.all Char.isDigit) || (ipv4Number p).isSome

/-- The IPv4 address a domain that ends in a number spells. -/
def parseIpv4 (domain : String) : Except HostError Ipv4 := do
  let parts := domain.toList.splitOn '.'
  let parts := if parts.getLast? = some [] then parts.dropLast else parts
  if 4 < parts.length then throw .ipv4
  let numbers ← parts.mapM fun p => match ipv4Number p with
    | some (some n) => pure n
    | _ => throw .ipv4
  match numbers.reverse with
  | [] => throw .ipv4
  | last :: firstRev =>
    if Nat.pow 256 (4 - firstRev.length) ≤ last then throw .ipv4
    if firstRev.any (255 < ·) then throw .ipv4
    let value := (numbers.dropLast.zipIdx.foldl (fun acc (n, i) => acc + n * Nat.pow 256 (3 - i)) 0) + last
    pure ⟨(value / 16777216 % 256).toUInt8, (value / 65536 % 256).toUInt8,
      (value / 256 % 256).toUInt8, (value % 256).toUInt8⟩

/-- Up to four hex digits, their value and the rest. -/
def hexPiece : Nat → List Char → Nat → Nat × List Char
  | 0, cs, v => (v, cs)
  | _, [], v => (v, [])
  | n + 1, c :: cs, v =>
    match digitIn 16 c with
    | some d => hexPiece n cs (v * 16 + d)
    | none => (v, c :: cs)

/-- Reads the dotted IPv4 part at the end of an IPv6 address into two groups. -/
def ipv4Tail (cs : List Char) : Except HostError (List UInt16) := do
  let parts := cs.splitOn '.'
  if parts.length ≠ 4 then throw .ipv6
  let bytes ← parts.mapM fun p =>
    if p.isEmpty || !p.all Char.isDigit then throw .ipv6
    else if p.head? = some '0' && 1 < p.length then throw .ipv6
    else
      let v := digitsValue 10 (p.filterMap (digitIn 10))
      if 255 < v then throw .ipv6 else pure v
  match bytes with
  | [a, b, c, d] => pure [(a * 256 + b).toUInt16, (c * 256 + d).toUInt16]
  | _ => throw .ipv6

/-- Reads the groups of an IPv6 address after its start; `pieces` are the groups so far, with a
zero where `::` stood, and `compress` the place after it. Gives the groups, the place of `::`, and
the two groups of a closing dotted IPv4 part. -/
def ipv6Pieces (cs : List Char) (pieces : List UInt16) (compress : Option Nat) :
    Except HostError (List UInt16 × Option Nat × List UInt16) :=
  match cs with
  | [] => pure (pieces, compress, [])
  | c :: rest =>
    if pieces.length = 8 then throw .ipv6
    else if c = ':' then
      if compress.isSome then throw .ipv6
      else ipv6Pieces rest (pieces ++ [0]) (some (pieces.length + 1))
    else
      let r := hexPiece 4 (c :: rest) 0
      if _hlen : r.2.length < (c :: rest).length then
        match _hr : r.2 with
        | [] => pure (pieces ++ [r.1.toUInt16], compress, [])
        | '.' :: _ =>
          if 6 < pieces.length then throw .ipv6
          else do
            let tail ← ipv4Tail (c :: rest)
            pure (pieces, compress, tail)
        | ':' :: after =>
          if after.isEmpty then throw .ipv6
          else ipv6Pieces after (pieces ++ [r.1.toUInt16]) compress
        | _ :: _ => throw .ipv6
      else throw .ipv6
termination_by cs.length
decreasing_by
  all_goals (simp_all; try omega)

/-- The URL standard's IPv6 reader. -/
def parseIpv6Host (text : List Char) : Except HostError Ipv6 := do
  if text.length < 2 then throw .ipv6
  let (start, compress, body) ← match text with
    | ':' :: ':' :: rest => pure ([(0 : UInt16)], some 1, rest)
    | ':' :: _ => throw .ipv6
    | _ => pure ([], none, text)
  let (pieces, compress, tail) ← ipv6Pieces body start compress
  let pieces := pieces ++ tail
  match compress with
  | some c => pure ⟨pieces.take c ++ List.replicate (8 - pieces.length) 0 ++ pieces.drop c⟩
  | none => if pieces.length = 8 then pure ⟨pieces⟩ else throw .ipv6

/-- The text of an IPv6 address as a URL writes it: no IPv4 form. -/
def Ipv6.urlText (ip : Ipv6) : String :=
  let (start, len) := longestZeros ip.groups
  if 1 < len then
    groupsText (ip.groups.take start) ++ "::" ++ groupsText (ip.groups.drop (start + len))
  else groupsText ip.groups

/-- Reads a bracketed IPv6 host, brackets included. -/
def bracketed (text : List Char) : Except HostError Host :=
  if text.getLast? = some ']' then (parseIpv6Host ((text.drop 1).dropLast)).map Host.ipv6
  else throw .ipv6

/-- The host of a special URL. -/
def Host.parse (text : String) : Except HostError Host := do
  let cs := text.toList
  if cs.head? = some '[' then bracketed cs
  else
    let decoded := Text.textOfBytes (percentDecode (Text.utf8 text))
    match Idna.domainToAscii decoded with
    | none => throw .idna
    | some ascii =>
      if ascii.isEmpty then throw .empty
      else if endsInNumber ascii then Host.ipv4 <$> parseIpv4 ascii
      else pure (.domain ascii)

/-- The characters an opaque host cannot hold. -/
def opaqueForbidden : List Char :=
  ['\x00', '\t', '\n', '\r', ' ', '#', '/', ':', '<', '>', '?', '@', '[', '\\', ']', '^', '|']

/-- The host of a URL whose scheme is not special. -/
def Host.parseOpaque (text : String) : Except HostError Host :=
  let cs := text.toList
  if cs.head? = some '[' then bracketed cs
  else if cs.any opaqueForbidden.contains then throw .domainCharacter
  else pure (.domain (EncodeSet.controls.encode cs))

/-- The text of a host. -/
def Host.display : Host → String
  | .domain d => d
  | .ipv4 ip => ip.display
  | .ipv6 ip => "[" ++ ip.urlText ++ "]"

end ScoreKeeper.Net
