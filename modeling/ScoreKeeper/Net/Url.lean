import ScoreKeeper.Net.Host

/-!
# ScoreKeeper — URLs

A URL is read as the URL standard reads one without a base. Surrounding controls and spaces are
trimmed and tabs and line breaks dropped; the scheme is a letter followed by letters, digits,
`+`, `-` and `.` up to a colon, lowercased. The special schemes (`http`, `https`, `ws`, `wss`,
`ftp`, `file`) have an authority (user information, a host that is parsed as a domain or an
address, and a port, left out when it is the scheme's default) and a path of segments in which
`.` and `..` are resolved and a backslash separates like a slash. Other schemes have an opaque
host, or no authority and a path of segments, or an opaque path. Query and fragment follow, each
percent-encoded by its own set.

`Url.serialize` writes a URL back: scheme, `//` and the authority when there is a host, the path,
`?` and the query, `#` and the fragment.
-/

namespace ScoreKeeper.Net

/-- Why a text is not a URL. -/
inductive UrlError where
  | emptyHost
  | idna
  | invalidPort
  | invalidIpv4
  | invalidIpv6
  | invalidDomainCharacter
  | relativeWithoutBase
  deriving DecidableEq, Repr

/-- The wording of a URL error. -/
def UrlError.message : UrlError → String
  | .emptyHost => "empty host"
  | .idna => "invalid international domain name"
  | .invalidPort => "invalid port number"
  | .invalidIpv4 => "invalid IPv4 address"
  | .invalidIpv6 => "invalid IPv6 address"
  | .invalidDomainCharacter => "invalid domain character"
  | .relativeWithoutBase => "relative URL without a base"

/-- The URL error of a host error. -/
def HostError.toUrlError : HostError → UrlError
  | .empty => .emptyHost
  | .idna => .idna
  | .ipv4 => .invalidIpv4
  | .ipv6 => .invalidIpv6
  | .domainCharacter => .invalidDomainCharacter

/-- A URL's path. -/
inductive UrlPath where
  | flat (text : String)
  | segments (parts : List String)
  deriving DecidableEq, Repr

/-- A parsed URL. -/
structure Url where
  scheme : String
  username : String
  password : String
  host : Option Host
  port : Option Nat
  path : UrlPath
  query : Option String
  fragment : Option String
  deriving DecidableEq, Repr

/-- The default port of a special scheme. -/
def defaultPort : String → Option Nat
  | "http" => some 80
  | "https" => some 443
  | "ws" => some 80
  | "wss" => some 443
  | "ftp" => some 21
  | _ => none

/-- Whether a scheme is special. -/
def isSpecialScheme (scheme : String) : Bool :=
  ["http", "https", "ws", "wss", "ftp", "file"].contains scheme

/-- The input with surrounding controls and spaces trimmed and tabs and line breaks dropped. -/
def cleanInput (s : String) : List Char :=
  let blank := fun (c : Char) => c.toNat ≤ 0x20
  let trimmed := ((s.toList.dropWhile blank).reverse.dropWhile blank).reverse
  trimmed.filter fun c => c ≠ '\t' && c ≠ '\n' && c ≠ '\r'

/-- Whether a character may continue a scheme. -/
def isSchemeChar (c : Char) : Bool :=
  c.isAlphanum && c.toNat < 128 || c = '+' || c = '-' || c = '.'

/-- The scheme, lowercased, and what follows its colon. -/
def readScheme (cs : List Char) : Option (String × List Char) :=
  match cs with
  | c :: _ =>
    if c.isAlpha && c.toNat < 128 then
      let name := cs.takeWhile isSchemeChar
      match cs.drop name.length with
      | ':' :: rest => some (String.ofList (name.map Char.toLower), rest)
      | _ => none
    else none
  | [] => none

/-- Whether a character ends a host, a port or an authority. -/
def endsAuthority (special : Bool) (c : Char) : Bool :=
  c = '/' || c = '?' || c = '#' || (special && c = '\\')

/-- Whether a segment is `.` or its encoded form. -/
def isSingleDot (s : String) : Bool :=
  s = "." || s.toLower = "%2e"

/-- Whether a segment is `..` or an encoded form of it. -/
def isDoubleDot (s : String) : Bool :=
  let t := s.toLower
  t = ".." || t = ".%2e" || t = "%2e." || t = "%2e%2e"

/-- Whether a segment is a drive letter, a letter and a colon. -/
def isDriveLetter (s : String) : Bool :=
  match s.toList with
  | [c, ':'] => c.isAlpha && c.toNat < 128
  | _ => false

/-- Adds one raw segment to a path; `slash` tells whether a separator follows it. -/
def pushSegment (file : Bool) (acc : List String) (raw : List Char) (slash : Bool) : List String :=
  let seg := EncodeSet.path.encode raw
  if isDoubleDot seg then
    let kept := match acc with
      | [d] => if file && isDriveLetter d then acc else []
      | _ => acc.dropLast
    if slash then kept else kept ++ [""]
  else if isSingleDot seg then
    if slash then acc else acc ++ [""]
  else acc ++ [seg]

/-- Adds raw segments to a path, each but the last followed by a separator. -/
def pushSegments (file : Bool) : List String → List (List Char) → List String
  | acc, [] => acc
  | acc, [raw] => pushSegment file acc raw false
  | acc, raw :: more => pushSegments file (pushSegment file acc raw true) more

/-- Splits a path text at its separators. -/
def splitPath (special : Bool) (cs : List Char) : List (List Char) :=
  let sep := fun (c : Char) => c = '/' || (special && c = '\\')
  cs.splitOnP sep

/-- The path before a query or fragment, its segments and the rest. -/
def readPath (special file : Bool) (start : List String) (cs : List Char) :
    List String × List Char :=
  let text := cs.takeWhile fun c => c ≠ '?' && c ≠ '#'
  (pushSegments file start (splitPath special text), cs.drop text.length)

/-- The query and fragment after a path. -/
def readTail (special : Bool) (cs : List Char) : Option String × Option String :=
  let (query, rest) := match cs with
    | '?' :: r =>
      let q := r.takeWhile (· ≠ '#')
      (some ((if special then EncodeSet.specialQuery else EncodeSet.query).encode q), r.drop q.length)
    | r => (none, r)
  let fragment := match rest with
    | '#' :: f => some (EncodeSet.fragment.encode f)
    | _ => none
  (query, fragment)

/-- Reads a port after its colon: digits up to the end of the authority. -/
def readUrlPort (scheme : String) (cs : List Char) : Except UrlError (Option Nat × List Char) :=
  let digits := cs.takeWhile Char.isDigit
  let rest := cs.drop digits.length
  let value := digitsValue 10 (digits.filterMap (digitIn 10))
  if 65535 < value then throw .invalidPort
  else match rest with
    | c :: _ =>
      if c = '/' || c = '\\' || c = '?' || c = '#' then
        pure (if digits.isEmpty || defaultPort scheme = some value then none else some value, rest)
      else throw .invalidPort
    | [] => pure (if digits.isEmpty || defaultPort scheme = some value then none else some value, [])

/-- The user information before the last `@` of the authority, and the rest after it. An `@`
first and alone, right before the end of the authority, leaves no host. -/
def splitUserinfo (special : Bool) (cs : List Char) :
    Except UrlError (Option (List Char) × List Char) :=
  let region := cs.takeWhile fun c => !endsAuthority special c
  match region.reverse.idxOf? '@' with
  | none => pure (none, cs)
  | some j =>
    let at_ := region.length - 1 - j
    let after := cs.drop (at_ + 1)
    if at_ = 0 then
      match after with
      | c :: _ => if endsAuthority special c then throw .emptyHost else pure (none, after)
      | [] => pure (none, after)
    else pure (some (cs.take at_), after)

/-- The user name and password of user information. -/
def userAndPassword (info : List Char) : String × String :=
  match info.idxOf? ':' with
  | none => (EncodeSet.userinfo.encode info, "")
  | some i => (EncodeSet.userinfo.encode (info.take i), EncodeSet.userinfo.encode (info.drop (i + 1)))

/-- The host text: up to a colon outside brackets or the end of the authority. -/
def hostText (special : Bool) : Bool → List Char → List Char
  | _, [] => []
  | inBrackets, c :: rest =>
    if (c = ':' && !inBrackets) || endsAuthority special c then []
    else c :: hostText special (if c = '[' then true else if c = ']' then false else inBrackets) rest

/-- Reads an authority and what follows it, for a special scheme other than `file` or for another
scheme written with `//`. -/
def readAuthority (scheme : String) (special : Bool) (cs : List Char) : Except UrlError Url := do
  let (info, afterInfo) ← splitUserinfo special cs
  let (username, password) := (info.map userAndPassword).getD ("", "")
  let hasAuthority := username ≠ "" || password ≠ ""
  let htext := hostText special false afterInfo
  let rest := afterInfo.drop htext.length
  let host ← if special then
      if htext.isEmpty then throw UrlError.emptyHost
      else (Host.parse (String.ofList htext)).mapError HostError.toUrlError
    else (Host.parseOpaque (String.ofList htext)).mapError HostError.toUrlError
  if host = .domain "" && (rest.head? = some ':' || hasAuthority) then throw .emptyHost
  let (port, rest) ← match rest with
    | ':' :: r => readUrlPort scheme r
    | r => pure (none, r)
  let (segments, rest) :=
    if special then
      match rest with
      | c :: r => if c = '/' || c = '\\' then readPath true false [] r else readPath true false [] rest
      | [] => readPath true false [] []
    else
      match rest with
      | '/' :: r => readPath false false [] r
      | r => if r.head? = some '?' || r.head? = some '#' || r.isEmpty then ([], r)
        else readPath false false [] r
  let (query, fragment) := readTail special rest
  pure { scheme := scheme, username := username, password := password, host := some host,
         port := port, path := .segments segments, query := query, fragment := fragment }

/-- Reads what follows `file:`. -/
def readFile (cs : List Char) : Except UrlError Url := do
  let slash := fun (c : Char) => c = '/' || c = '\\'
  let (host, pathText) ← match cs with
    | a :: b :: rest =>
      if slash a && slash b then
        let htext := rest.takeWhile fun c => !(slash c || c = '?' || c = '#')
        if isDriveLetter (String.ofList htext) || htext.isEmpty then pure ("", rest)
        else
          match Host.parse (String.ofList htext) with
          | .error e => throw e.toUrlError
          | .ok h =>
            let shown := h.display
            pure (if shown = "localhost" then "" else shown, rest.drop htext.length)
      else if slash a then pure ("", b :: rest)
      else pure ("", cs)
    | a :: rest => pure ("", if slash a then rest else a :: rest)
    | [] => pure ("", [])
  let pathText := match pathText with
    | c :: r => if slash c then r else c :: r
    | [] => []
  let (segments, rest) := readPath true true [] pathText
  let (query, fragment) := readTail true rest
  pure { scheme := "file", username := "", password := "", host := some (.domain host), port := none,
         path := .segments segments, query := query, fragment := fragment }

/-- Reads a URL. -/
def Url.parse (s : String) : Except UrlError Url := do
  let cs := cleanInput s
  match readScheme cs with
  | none => throw .relativeWithoutBase
  | some (scheme, rest) =>
    if scheme = "file" then readFile rest
    else if isSpecialScheme scheme then readAuthority scheme true (rest.dropWhile fun c => c = '/' || c = '\\')
    else
      match rest with
      | '/' :: '/' :: r => readAuthority scheme false r
      | '/' :: r =>
        let (segments, rest') := readPath false false [] r
        let (query, fragment) := readTail false rest'
        pure { scheme := scheme, username := "", password := "", host := none, port := none,
               path := .segments segments, query := query, fragment := fragment }
      | r =>
        let text := r.takeWhile fun c => c ≠ '?' && c ≠ '#'
        let (query, fragment) := readTail false (r.drop text.length)
        pure { scheme := scheme, username := "", password := "", host := none, port := none,
               path := .flat (EncodeSet.controls.encode text), query := query, fragment := fragment }

/-- The text of a path. -/
def UrlPath.text : UrlPath → String
  | .flat t => t
  | .segments parts => String.join (parts.map ("/" ++ ·))

/-- The text of a URL. -/
def Url.serialize (u : Url) : String :=
  let authority := match u.host with
    | some h =>
      let info := if u.username = "" && u.password = "" then ""
        else u.username ++ (if u.password = "" then "" else ":" ++ u.password) ++ "@"
      "//" ++ info ++ h.display ++ ((u.port.map fun p => ":" ++ toString p).getD "")
    | none =>
      match u.path with
      | .segments ("" :: _ :: _) => "/."
      | _ => ""
  u.scheme ++ ":" ++ authority ++ u.path.text ++ ((u.query.map ("?" ++ ·)).getD "") ++
    ((u.fragment.map ("#" ++ ·)).getD "")

end ScoreKeeper.Net
