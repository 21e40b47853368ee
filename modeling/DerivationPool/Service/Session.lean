import DerivationPool.Service.Handler
import DerivationPool.Operation.Standard
import DerivationPool.Pool.Schedule

/-!
A pool, a server in front of it and a client that talks to the server. The link
between the two either carries every byte unchanged or nothing at all; a request
that cannot be carried is an error of transport.
-/
namespace DerivationPool.Service

inductive Link where
  | up | down
  deriving DecidableEq, Repr

inductive Trust where
  | server
  | nothing
  /-- Bytes that are no certificate. -/
  | garbage
  deriving DecidableEq, Repr

structure Session (σ : Type) where
  pool : Pool.State σ
  serving : Bool

namespace Session

variable {σ : Type}

def serverName : String := "localhost"

def handshakeFailed : ServiceError := .transport "handshake failed: timed out"

/-- A further client: it needs a link, a certificate to trust and the name in it. -/
def connect (s : Session σ) (link : Link) (trust : Trust) (name : String) :
    Except ServiceError Unit :=
  match trust with
  | .garbage => .error (.config "invalid trusted certificate: invalid peer certificate: BadEncoding")
  | .nothing => .error handshakeFailed
  | .server =>
    if link = .up ∧ s.serving ∧ name = serverName then .ok () else .error handshakeFailed

def begin (link : Link) (pool : Pool.State σ) : Except ServiceError (Session σ) :=
  let s : Session σ := ⟨pool, true⟩
  (s.connect link .server serverName).map fun _ => s

def run (operation : String) (data : Bytes) : StateM (Session σ) Outcome := fun s =>
  let (outcome, pool) := Pool.execute operation data s.pool
  (outcome, { s with pool })

/-- Carries a request to the server, if there still is one. -/
def carry : Carrier (StateM (Session σ)) := fun request => do
  if (← get).serving then Except.ok <$> handle run request
  else return .error (.transport "open_bi failed: closed")

def send : Bytes → StateM (Session σ) (Except ServiceError JobReply) := Client.send carry

def execute : String → Bytes → StateM (Session σ) (Except ServiceError JobReply) :=
  Client.execute carry

def deriveSecret : String → StateM (Session σ) (Except ServiceError DerivationResponse) :=
  Client.deriveSecret carry deriveSecretName

def shutdownPool (s : Session σ) : Session σ := { s with pool := Pool.shutdown s.pool }

def stopServer (s : Session σ) : Session σ := { s with serving := false }

end Session

end DerivationPool.Service
