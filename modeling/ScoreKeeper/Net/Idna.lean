import ScoreKeeper.Net.Punycode

/-!
# ScoreKeeper — internationalized domain names

A domain is brought to its ASCII form as UTS #46 prescribes for URLs, without transitional
processing and without the STD3 rules: every character is mapped (ASCII and common letters to
lowercase, full-width forms to ASCII, the ideographic full stops to `.`, invisible formatting
characters to nothing), a character that the URL standard forbids in a domain (the controls, the
space, DEL and `# % / : < > ? @ [ \ ] ^ |`) or that the table disallows fails the whole domain,
each label that starts with `xn--` must be the Punycode of a label of valid non-ASCII characters,
and each other label with a non-ASCII character is written `xn--` and its Punycode.

The mapping covers the Latin, Greek and Cyrillic capitals and the full-width forms; other
characters are taken as valid.
-/

namespace ScoreKeeper.Net.Idna

/-- What the mapping does with one character. -/
inductive Mapping where
  | keep
  | replace (cs : List Char)
  | drop
  | refuse
  deriving DecidableEq, Repr

/-- The character `n` code points further on. -/
def shift (c : Char) (n : Nat) : Mapping :=
  .replace [Char.ofNat (c.toNat + n)]

/-- The mapping of a Latin Extended-A character: capitals are followed by their small letters,
on even code points in some runs and odd ones in others. -/
def latinExtendedA (c : Char) : Mapping :=
  let n := c.toNat
  if n = 0x130 then .replace ['i', Char.ofNat 0x307]
  else if n = 0x149 then .replace [Char.ofNat 0x2BC, 'n']
  else if n = 0x178 then .replace [Char.ofNat 0xFF]
  else if n = 0x17F then .replace ['s']
  else if (n ≤ 0x12F || (0x132 ≤ n && n ≤ 0x137) || (0x14A ≤ n && n ≤ 0x177)) && n % 2 = 0 then shift c 1
  else if ((0x139 ≤ n && n ≤ 0x148) || (0x179 ≤ n && n ≤ 0x17E)) && n % 2 = 1 then shift c 1
  else .keep

/-- The mapping of a character that is not ASCII. -/
def mapWide (c : Char) : Mapping :=
  let n := c.toNat
  if n ≤ 0x9F then .refuse
  else if n = 0xA0 then .replace [' ']
  else if n = 0xAD then .drop
  else if 0xC0 ≤ n && n ≤ 0xDE && n ≠ 0xD7 then shift c 0x20
  else if 0x100 ≤ n && n ≤ 0x17F then latinExtendedA c
  else if n = 0x386 then shift c 0x26
  else if 0x388 ≤ n && n ≤ 0x38A then shift c 0x25
  else if n = 0x38C then shift c 0x40
  else if n = 0x38E || n = 0x38F then shift c 0x3F
  else if 0x391 ≤ n && n ≤ 0x3A9 && n ≠ 0x3A2 then shift c 0x20
  else if 0x400 ≤ n && n ≤ 0x40F then shift c 0x50
  else if 0x410 ≤ n && n ≤ 0x42F then shift c 0x20
  else if n = 0x200B || n = 0x2060 || n = 0xFEFF || (0xFE00 ≤ n && n ≤ 0xFE0F) then .drop
  else if n = 0x3000 then .replace [' ']
  else if n = 0x3002 || n = 0xFF0E || n = 0xFF61 then .replace ['.']
  else if 0xFF21 ≤ n && n ≤ 0xFF3A then .replace [Char.ofNat (n - 0xFEE0 + 0x20)]
  else if 0xFF01 ≤ n && n ≤ 0xFF5E then .replace [Char.ofNat (n - 0xFEE0)]
  else if (0xE000 ≤ n && n ≤ 0xF8FF) || n = 0xFFFD || n = 0xFFFE || n = 0xFFFF then .refuse
  else .keep

/-- The mapping of one character. -/
def mapChar (c : Char) : Mapping :=
  if 'A' ≤ c && c ≤ 'Z' then .replace [Char.ofNat (c.toNat + 32)]
  else if c.toNat < 0x80 then .keep
  else mapWide c

/-- Whether the URL standard forbids an ASCII character in a domain. -/
def isForbidden (c : Char) : Bool :=
  c.toNat ≤ 0x20 || c.toNat = 0x7F || "#%/:<>?@[\\]^|".toList.contains c

/-- A domain's characters after the mapping, or `none` when one is not allowed. -/
def mapDomain (cs : List Char) : Option (List Char) := do
  let mapped ← cs.foldr (fun c acc => do
    let rest ← acc
    match mapChar c with
    | .keep => pure (c :: rest)
    | .replace ds => pure (ds ++ rest)
    | .drop => pure rest
    | .refuse => none) (some [])
  if mapped.any isForbidden then none else pure mapped

/-- Whether a decoded label is made of valid characters and is not all ASCII. -/
def isValidDecoded (label : List Char) : Bool :=
  !label.isEmpty && label.any (fun c => 128 ≤ c.toNat) &&
    label.all fun c => mapChar c = .keep && !isForbidden c

/-- The ASCII form of one mapped label, or `none` when it is not allowed. -/
def labelToAscii (label : List Char) : Option String :=
  match label with
  | 'x' :: 'n' :: '-' :: '-' :: code =>
    if code.any (fun c => 128 ≤ c.toNat) then none
    else match Punycode.decode code with
      | some decoded => if isValidDecoded decoded then some (String.ofList label) else none
      | none => none
  | _ =>
    if label.all (fun c => c.toNat < 128) then some (String.ofList label)
    else some ("xn--" ++ Punycode.encode label)

/-- The ASCII form of a domain, or `none` when it is not a valid internationalized domain. -/
def domainToAscii (domain : String) : Option String := do
  let mapped ← mapDomain domain.toList
  let labels ← (mapped.splitOn '.').mapM labelToAscii
  pure (".".intercalate labels)

end ScoreKeeper.Net.Idna
