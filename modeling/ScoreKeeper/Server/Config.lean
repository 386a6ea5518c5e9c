import ScoreKeeper.Toml.Document
import ScoreKeeper.Net.Addr
import ScoreKeeper.Checksum
import ScoreKeeper.Text.Quoted

/-!
# ScoreKeeper — server configuration

A server listens on a socket address, keeps its documents under a data directory, signs with a
checksum secret and refuses request bodies above a size. A configuration file is TOML whose
top-level keys `bind_addr`, `data_root`, `secret` and `max_body_bytes` replace the defaults
(`127.0.0.1:10000`, `data`, the default secret and 4096); other keys and tables are ignored. The
keys are taken in the order written, and the first value of the wrong type or range fails with
the span of that value. A configuration is valid when its secret is odd.
-/

namespace ScoreKeeper.Server

open Net Toml

/-- How a server is set up. -/
structure ServerConfig where
  bindAddr : SocketAddr
  dataRoot : String
  secret : UInt64
  maxBodyBytes : Nat

/-- The configuration without a file. -/
def ServerConfig.default : ServerConfig :=
  { bindAddr := .v4 ⟨127, 0, 0, 1⟩ 10000, dataRoot := "data", secret := defaultSecret,
    maxBodyBytes := 4096 }

/-- The checksum key of a configuration, or why its secret is refused. -/
def ServerConfig.key (c : ServerConfig) : Except String ChecksumKey :=
  (ChecksumKey.make? c.secret).mapError CodecError.message

/-- How a value that does not fit is described. -/
def unexpected : Value → String
  | .string s _ => "string " ++ Text.quoteString s
  | .integer n _ => "integer `" ++ toString n ++ "`"
  | .float t _ => "floating point `" ++ t ++ "`"
  | .boolean b _ => "boolean `" ++ (if b then "true" else "false") ++ "`"
  | .datetime .. | .inline .. => "map"
  | .array .. => "sequence"

/-- An error about a value, pointing at it. -/
def valueError (v : Value) (message : String) : TomlError :=
  ⟨message, some v.span, []⟩

/-- A value of the wrong type. -/
def wrongType (v : Value) (expected : String) : TomlError :=
  valueError v ("invalid type: " ++ unexpected v ++ ", expected " ++ expected)

/-- A non-negative integer value, for a field of the named type. -/
def unsignedOf (v : Value) (type : String) : Except TomlError Nat :=
  match v with
  | .integer n _ =>
    if n < 0 then .error (valueError v ("invalid value: " ++ unexpected v ++ ", expected " ++ type))
    else .ok n.toNat
  | _ => .error (wrongType v type)

/-- A configuration with one top-level key's value applied. -/
def applyValue (c : ServerConfig) (key : String) (v : Value) : Except TomlError ServerConfig :=
  match key with
  | "bind_addr" =>
    match v with
    | .string s _ =>
      match SocketAddr.parse? s with
      | some a => .ok { c with bindAddr := a }
      | none => .error (valueError v addrSyntaxMessage)
    | _ => .error (wrongType v "socket address")
  | "data_root" =>
    match v with
    | .string s _ => .ok { c with dataRoot := s }
    | _ => .error (wrongType v "path string")
  | "secret" => (unsignedOf v "u64").map fun n => { c with secret := n.toUInt64 }
  | "max_body_bytes" => (unsignedOf v "usize").map fun n => { c with maxBodyBytes := n }
  | _ => .ok c

/-- Whether a key names a configuration field. -/
def isField (key : String) : Bool :=
  ["bind_addr", "data_root", "secret", "max_body_bytes"].contains key

/-- A configuration with one top-level entry applied. -/
def applyEntry (c : ServerConfig) (entry : String × Toml.Node) : Except TomlError ServerConfig :=
  let (key, node) := entry
  if !isField key then .ok c
  else
    let expected := match key with
      | "bind_addr" => "socket address"
      | "data_root" => "path string"
      | "secret" => "u64"
      | _ => "usize"
    match node with
    | .leaf v => applyValue c key v
    | .table _ _ _ sp => .error ⟨"invalid type: map, expected " ++ expected, some sp, []⟩
    | .tables _ => .error ⟨"invalid type: sequence, expected " ++ expected, none, [key]⟩

/-- The configuration a TOML text describes, or the rendered TOML error. -/
def ServerConfig.ofTomlText (text : String) : Except String ServerConfig :=
  match readDocument text with
  | .error f => .error ((f.toError text).render text)
  | .ok entries =>
    (entries.foldlM applyEntry ServerConfig.default).mapError fun e => e.render text

/-- The configuration a TOML text describes, checked: the message of a configuration error. -/
def ServerConfig.fromToml (text : String) : Except String ServerConfig := do
  let c ← ServerConfig.ofTomlText text
  let _ ← c.key
  pure c

/-- The wording of a configuration error. -/
def configMessage (detail : String) : String :=
  "configuration error: " ++ detail

end ScoreKeeper.Server
