import DerivationPool.Transport.SocketAddress
import DerivationPool.Transport.Pem
import DerivationPool.Transport.Certificate
import DerivationPool.Transport.PrivateKey
import DerivationPool.Surroundings
import DerivationPool.Service.Handler

/-!
Taking an address to listen at, with the certificate and the key to show there.
Both come from files, or neither does, and then the listener signs a certificate
for itself. The first fault in the order of the checks is reported.
-/
namespace DerivationPool.Transport

inductive BindFault where
  | address (text : String)
  | notTogether
  | certificateUnreadable (path : String) (fault : FileFault)
  | keyUnreadable (path : String) (fault : FileFault)
  | certificateMalformed (fault : Pem.Fault)
  | noCertificate (path : String)
  | keyMalformed (fault : Pem.Fault)
  | noKey
  | keyUnusable
  | certificateUnusable (fault : Certificate.Fault)
  /-- The certificate is for another key. -/
  | notAPair
  deriving DecidableEq, Repr

def BindFault.reason : BindFault → String
  | address text => "invalid bind address '" ++ text ++ "': invalid socket address syntax"
  | notTogether => "certificate and key must be given together"
  | certificateUnreadable path fault => "failed to read cert '" ++ path ++ "': " ++ fault.text
  | keyUnreadable path fault => "failed to read key '" ++ path ++ "': " ++ fault.text
  | certificateMalformed fault => "failed to parse certificates: " ++ fault.text
  | noCertificate path => "no certificates found in '" ++ path ++ "'"
  | keyMalformed fault => "failed to parse private key: " ++ fault.text
  | noKey => "no private key found"
  | keyUnusable =>
    "invalid TLS config: unexpected error: failed to parse private key as RSA, ECDSA, or EdDSA"
  | certificateUnusable fault =>
    "invalid TLS config: invalid peer certificate: " ++ fault.text
  | notAPair => "invalid TLS config: keys may not be consistent: KeyMismatch"

inductive Identity where
  | selfSigned
  | ofFiles (chain : List Bytes) (key : Bytes)
  deriving DecidableEq, Repr

structure Listener where
  address : SocketAddress
  identity : Identity
  deriving DecidableEq, Repr

namespace Listener

def isSelfSigned (l : Listener) : Bool := l.identity = .selfSigned

/-- The identity of a chain and a key, which has to be that of the first certificate. -/
def identityOf (first : Bytes) (rest : List Bytes) (key : Pem.Section) :
    Except BindFault Identity :=
  match PrivateKey.publicInfo? key with
  | none => .error .keyUnusable
  | some info => do
    let stated ← (Certificate.publicInfo first).mapError .certificateUnusable
    if stated = info then return .ofFiles (first :: rest) key.content else throw .notAPair

def identityOfFiles (surroundings : Surroundings) (certificate key : String) :
    Except BindFault Identity := do
  let chainFile ← (surroundings.read certificate).mapError (.certificateUnreadable certificate)
  let keyFile ← (surroundings.read key).mapError (.keyUnreadable key)
  match ← (Pem.certificates chainFile).mapError .certificateMalformed with
  | [] => throw (.noCertificate certificate)
  | first :: rest =>
    match ← (Pem.privateKey keyFile).mapError .keyMalformed with
    | some key => identityOf first rest key
    | none => throw .noKey

def chooseIdentity (surroundings : Surroundings) (certificate key : Option String) :
    Except BindFault Identity :=
  match certificate, key with
  | some certificate, some key => identityOfFiles surroundings certificate key
  | none, none => .ok .selfSigned
  | _, _ => .error .notTogether

/-- A listener that is configured and not yet at its address. -/
def configure (surroundings : Surroundings) (address : String) (certificate key : Option String) :
    Except ServiceError Listener :=
  let found : Except BindFault Listener :=
    match SocketAddress.ofString? address with
    | none => .error (.address address)
    | some parsed => (chooseIdentity surroundings certificate key).map fun shown => ⟨parsed, shown⟩
  found.mapError fun fault => .config fault.reason

def takeAddress (l : Listener) : Except ServiceError Listener :=
  match l.address.fault? with
  | none => .ok l
  | some fault => .error (.transport ("failed to create endpoint: " ++ fault.text))

def bind (surroundings : Surroundings) (address : String) (certificate key : Option String) :
    Except ServiceError Listener := do
  takeAddress (← configure surroundings address certificate key)

end Listener

end DerivationPool.Transport
