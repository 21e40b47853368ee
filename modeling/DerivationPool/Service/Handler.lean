import DerivationPool.Derivation
import DerivationPool.Message.Formats
import DerivationPool.Operation.Table
import DerivationPool.Pool.State
import DerivationPool.Secret

/-!
A service, from its configuration to both ends of a connection. How it fails to start or to
answer is told as it is seen from outside a job: its configuration, its key, the connection,
the protocol, or a job that failed at the other end.
-/
namespace DerivationPool

inductive ServiceError where
  | config (text : String)
  | keySource (error : DerivationError)
  | transport (text : String)
  | protocol (text : String)
  | job (failure : JobFailure)
  deriving DecidableEq, Repr

namespace ServiceError

def message : ServiceError → String
  | config text => "configuration error: " ++ text
  | keySource error => "key source error: " ++ error.message
  | transport text => "transport error: " ++ text
  | protocol text => "protocol error: " ++ text
  | job failure => "job failed: " ++ failure.text

/-- The text of the error beneath this one, if there is one. -/
def source? : ServiceError → Option String
  | keySource error => some error.message
  | job failure => some failure.text
  | config _ | transport _ | protocol _ => none

def ofMessage (error : MessageError) : ServiceError := protocol error.text

end ServiceError

end DerivationPool

/-!
What a service is configured with: where it listens and what it shows there, the
size of its pool, and the shape of the secrets it derives.
-/
namespace DerivationPool.Service

def protocolName : String := "keyhose/1"

structure Config where
  address : String
  /-- The path of a certificate chain. -/
  certificate : Option String
  /-- The path of the key to the chain. -/
  key : Option String
  pool : Pool.Config
  derivation : Secret.Params
  deriving DecidableEq, Repr

namespace Config

def standardAddress : String := "0.0.0.0:4455"

def standard : Config := ⟨standardAddress, none, none, .standard, .standard⟩

end Config

/-!
Answering a request. What runs the job is a parameter, in any monad, so the same
handler serves a pool, a table without a pool and a proof. Every request that is
not too long gets one reply, and every reply fits on the wire.
-/

def protocolErrorKind : String := "protocol_error"

def encodingFailureKind : String := "encoding_failure"

def replyOf : Outcome → JobReply
  | .ok output => .ok output
  | .error error => .failed error.kind error.message

/-- A reply as it is written: one that is too long gives way to one that says so. -/
def written (reply : JobReply) : Option Bytes :=
  match Message.encode reply with
  | .ok bytes => some bytes
  | .error error => (Message.encode (JobReply.failed encodingFailureKind error.text)).toOption

variable {m : Type → Type} [Monad m]

def reply (run : String → Bytes → m Outcome) (request : Bytes) : m JobReply :=
  match Message.decode JobRequest request with
  | .ok job => replyOf <$> run job.operation job.data
  | .error error => pure (.failed protocolErrorKind error.text)

/-- The bytes written in answer to a request: none if it is too long to be read. -/
def handle (run : String → Bytes → m Outcome) (request : Bytes) : m (Option Bytes) :=
  if Message.maxSize < request.length then pure none
  else written <$> reply run request

/-!
The other end of a connection: requests go out encoded, replies are decoded, and a
reply that tells of a failure becomes an error. What carries a request and brings
its reply is a parameter; it may fail, and it may bring nothing.
-/

/-- What carries a request to a server and brings back the bytes written in answer, if any. -/
abbrev Carrier (m : Type → Type) := Bytes → m (Except ServiceError (Option Bytes))

namespace Client

open Message

variable {m : Type → Type} [Monad m]

/-- The reply in the bytes that came back; where nothing came back, nothing is what is read. -/
def readReply (bytes : Option Bytes) : Except ServiceError JobReply :=
  (decode JobReply (bytes.getD [])).mapError .ofMessage

def request (operation : String) (data : Bytes) : Except ServiceError Bytes :=
  (encode (JobRequest.mk operation data)).mapError .ofMessage

def send (carry : Carrier m) (bytes : Bytes) : m (Except ServiceError JobReply) :=
  (fun answer => answer.bind readReply) <$> carry bytes

/-- Asks for an operation; a request that is too long is not sent. -/
def execute (carry : Carrier m) (operation : String) (data : Bytes) :
    m (Except ServiceError JobReply) :=
  match request operation data with
  | .ok bytes => send carry bytes
  | .error error => pure (.error error)

def readSecret (reply : JobReply) : Except ServiceError DerivationResponse := do
  let output ← reply.toExcept.mapError .job
  (decode DerivationResponse output).mapError .ofMessage

/-- Asks for a fresh secret; `operation` is the name that secrets are served under. -/
def deriveSecret (carry : Carrier m) (operation jobName : String) :
    m (Except ServiceError DerivationResponse) :=
  (fun reply => reply.bind readSecret) <$> execute carry operation (Text.encode jobName)

end Client

end DerivationPool.Service
