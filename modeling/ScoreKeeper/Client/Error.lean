import ScoreKeeper.Store.Error
import ScoreKeeper.Text.Quoted

/-!
# ScoreKeeper — client errors

Why a client request failed: the server URL is unusable, the request never reached a server, the
server refused the entry or failed, the local store failed, or the server named a topic that does
not parse. An error's chain is its own message followed by the messages of the errors that caused
it, outermost first; a client error is a refusal when the server or the store turned the entry or
topic down, as opposed to the request failing.
-/

namespace ScoreKeeper

/-- The chain of a codec error: its message, then the field error inside it. -/
def CodecError.chain (e : CodecError) : List String :=
  e.message :: match e with
    | .invalidField f => [f.message]
    | _ => []

/-- The chain of a store error: its message, then the codec or system error inside it. -/
def StoreError.chain (e : StoreError) : List String :=
  e.message :: match e with
    | .rejected c => c.chain
    | .io o => [o.message]

/-- Why a connection to a server could not be made. -/
inductive ConnectFailure where
  | unreachable
  | unresolved
  | notHttp
  deriving DecidableEq, Repr

/-- The chain under "error trying to connect": the connector's error and its causes. -/
def ConnectFailure.chain : ConnectFailure → List String
  | .unreachable =>
    ["tcp connect error: " ++ OsError.networkUnreachable.message, OsError.networkUnreachable.message]
  | .unresolved =>
    ["dns error: failed to lookup address information: Temporary failure in name resolution",
     "failed to lookup address information: Temporary failure in name resolution"]
  | .notHttp => ["invalid URL, scheme is not http"]

/-- Why a client request failed. -/
inductive ClientError where
  | invalidUrl (url reason : String)
  | transport (url : String) (failure : ConnectFailure)
  | refused (status : Nat) (message : String)
  | server (status : Nat) (message : String)
  | store (e : StoreError)
  | invalidTopic (e : FieldError)
  | join (message : String)
  deriving DecidableEq, Repr

/-- The message of a client error and those of its causes, outermost first. -/
def ClientError.chain : ClientError → List String
  | .invalidUrl url reason => ["invalid server url " ++ Text.quoteString url ++ ": " ++ reason]
  | .transport url failure =>
    let connect := "error trying to connect: " ++ ((failure.chain.head?).getD "")
    let sending := "error sending request for url (" ++ url ++ "): " ++ connect
    ["transport error: " ++ sending, sending, connect] ++ failure.chain
  | .refused status message => ["server refused request (" ++ toString status ++ "): " ++ message]
  | .server status message => ["server error (" ++ toString status ++ "): " ++ message]
  | .store e => ("store error: " ++ e.message) :: e.chain
  | .invalidTopic e => ["invalid topic from server: " ++ e.message, e.message]
  | .join message => ["background task failed: " ++ message]

/-- The message of a client error. -/
def ClientError.message (e : ClientError) : String :=
  (e.chain.head?).getD ""

/-- Whether the server or the store turned the entry or topic down. -/
def ClientError.isRefused : ClientError → Bool
  | .refused .. => true
  | .store e => e.isRejected
  | _ => false

end ScoreKeeper
