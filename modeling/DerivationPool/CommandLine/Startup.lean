import DerivationPool.CommandLine.Request
import DerivationPool.CommandLine.Setting
import DerivationPool.Log
import DerivationPool.MasterKey
import DerivationPool.Operation.Standard
import DerivationPool.Pool.State
import DerivationPool.Service.Handler
import DerivationPool.Text.Display
import DerivationPool.Transport.Bind

/-!
A run of the program, from its options to a service that listens. What ends a start is shown as
its last line: the cause by name and what is known of it, with every text in quotes.
-/
namespace DerivationPool.CommandLine

inductive StartFault where
  | derivation (error : DerivationError)
  | service (error : ServiceError)
  /-- There is no room for the pool. -/
  | capacity (fault : Pool.CapacityFault)
  deriving DecidableEq, Repr

def StartFault.ofPool : Pool.StartFault → StartFault
  | .config fault => .service (.config fault.reason)
  | .capacity fault => .capacity fault

def derivationOutline : DerivationError → String
  | .entropyUnavailable reason =>
    Text.outline "EntropyUnavailable" [("reason", Text.quoted reason)] .whole
  | .emptyKeyingMaterial => "InvalidInputKeyMaterial"
  | .emptySalt => "InvalidSalt"
  | .zeroLength => "ZeroOutputLength"
  | .lengthExceeded requested max =>
    Text.outline "OutputLengthExceeded"
      [("requested", toString requested), ("max", toString max)] .whole
  | .unsupportedHash name => Text.outline "UnsupportedHash" [("name", Text.quoted name)] .whole
  | .keySourceUnavailable reason =>
    Text.outline "KeySourceUnavailable" [("reason", Text.quoted reason)] .whole

def failureOutline (f : JobFailure) : String :=
  Text.outline "JobFailure"
    [("error_type", Text.quoted f.errorType), ("message", Text.quoted f.message)] .whole

def wrapped (name value : String) : String := name ++ "(" ++ value ++ ")"

def serviceOutline : ServiceError → String
  | .config text => wrapped "Config" (Text.quoted text)
  | .keySource error => wrapped "KeySource" (derivationOutline error)
  | .transport text => wrapped "Transport" (Text.quoted text)
  | .protocol text => wrapped "Protocol" (Text.quoted text)
  | .job failure => wrapped "Job" (failureOutline failure)

def StartFault.outline : StartFault → String
  | derivation error => derivationOutline error
  | service error => serviceOutline error
  | capacity fault => fault.reason

/-!
From options to a service that listens. Every stage of the start writes to the
log, and the first fault ends it: the key, the entropy source, the parameters of
secrets, the size of the pool, the address. A service that listens runs until it
is interrupted.
-/

open Log

/-- A stage of the start. It may fail, and what it wrote to the log remains. -/
abbrev Stage := ExceptT StartFault (StateM (List Entry))

namespace Stage

def write (e : Entry) : Stage Unit := modify (· ++ [e])

def ofExcept {ε α : Type} (fault : ε → StartFault) : Except ε α → Stage α
  | .ok a => pure a
  | .error e => throw (fault e)

end Stage

inductive Part where
  | service | masterKey | operations | operation | pool | transport
  deriving DecidableEq, Repr

def Part.target : Part → String
  | service => "keyhose_worker"
  | masterKey => "keyhose_crypto::master_key"
  | operations => "keyhose_worker::operations"
  | operation => "keyhose_worker::operation"
  | pool => "keyhose_worker::pool"
  | transport => "keyhose_worker::transport"

def note (level : Level) (part : Part) (message : String) (fields : List (String × String)) :
    Stage Unit :=
  Stage.write ⟨level, part.target, message, fields⟩

/-- The source of the key, with a warning where none is named. -/
def chooseKeySource (o : Options) : Stage KeySource := do
  if o.keyFile.isNone ∧ o.keyVariable.isNone then
    note .warn .service "no master key configured, using the built-in reference key" []
    note .warn .service "this is NOT suitable for production use!" []
  return KeySource.select o.keyFile o.keyVariable

def loadKey (surroundings : Surroundings) (source : KeySource) : Stage MasterKey := do
  let name := ("source", Text.quoted source.name)
  match source.load surroundings with
  | .ok key =>
    note .info .masterKey "master key loaded" [name, ("len", toString key.size)]
    return key
  | .error e =>
    note .error .masterKey "master key unavailable" [name, ("error", e.message)]
    throw (.derivation e)

def registerOperations {σ : Type} (d : Secret.Deriver) (source : Entropy σ) : Stage (Table σ) := do
  note .info .operations "derive_secret parameters"
    [("salt_len", toString d.params.saltLength), ("output_len", toString d.params.secretLength),
      ("info_len", toString d.params.info.length)]
  let table ← Stage.ofExcept (fun e => .service (.config e.reason)) (Table.standard d source)
  [deriveSecretName, derivateKeyName].forM fun name =>
    note .debug .operation "operation registered" [("operation", name)]
  return table

def startPool {σ : Type} (config : Pool.Config) (table : Table σ) : Stage Unit := do
  Stage.ofExcept .ofPool config.prepare
  note .info .pool "worker pool started"
    [("workers", toString config.workers), ("queue_depth", toString config.queueDepth),
      ("job_timeout_ms", toString config.jobTimeout.millis),
      ("operations", Text.quotedList table.names)]

def listen (surroundings : Surroundings) (config : Service.Config) : Stage Transport.Listener := do
  let configured ← Stage.ofExcept .service
    (Transport.Listener.configure surroundings config.address config.certificate config.key)
  if configured.isSelfSigned then
    note .warn .transport "using self-signed certificate, not for production use" []
  let listener ← Stage.ofExcept .service configured.takeAddress
  note .info .transport "QUIC transport bound" [("addr", listener.address.text)]
  return listener

def startingMessage : String := "worker server starting"

/-- Serves at an address until an interrupt comes, and then stops. -/
def serveUntilInterrupt (config : Service.Config) (listener : Transport.Listener) : Stage Unit := do
  let address := ("addr", listener.address.text)
  note .info .service "worker listening" [address, ("workers", toString config.pool.workers)]
  note .info .service startingMessage [address]
  note .info .service "shutdown requested" []
  note .info .service "closing QUIC endpoint" []
  note .info .service "worker server stopped" []
  note .info .pool "worker pool stopped" []

/-- The master key of a run, from the source that its options name. -/
def takeKey (surroundings : Surroundings) (o : Options) : Stage MasterKey := do
  note .info .service "keyhose worker starting" []
  loadKey surroundings (← chooseKeySource o)

/-- The operations of a run over its master key. `delay` is the time that the entropy source takes
to answer first. -/
def openTable {σ : Type} (source : Entropy σ) (delay : Elapsed) (o : Options) (key : MasterKey) :
    Stage (Table σ) := do
  Stage.ofExcept .derivation (Entropy.ready delay o.entropyTimeout)
  let deriver ← Stage.ofExcept .derivation (Secret.Deriver.build key o.service.derivation)
  registerOperations deriver source

def serveTable {σ : Type} (surroundings : Surroundings) (o : Options) (table : Table σ) :
    Stage Unit := do
  startPool o.service.pool table
  serveUntilInterrupt o.service (← listen surroundings o.service)

def serve {σ : Type} (surroundings : Surroundings) (source : Entropy σ) (delay : Elapsed)
    (o : Options) : Stage Unit := do
  let key ← takeKey surroundings o
  let table ← openTable source delay o key
  serveTable surroundings o table

/-!
What a run of the program leaves behind: its exit code, the entries that its log
lets through, and its other lines.
-/

structure Report where
  code : UInt8
  log : List Entry
  /-- Lines on standard output. -/
  lines : List String
  /-- Lines on standard error. -/
  complaints : List String

namespace Report

def listening (r : Report) : Bool := r.log.any fun e => e.message = startingMessage

def ofText (lines : List String) : Report := ⟨0, [], lines, []⟩

def ofUsageError (e : UsageError) : Report :=
  ⟨2, [], [], ["error: " ++ e.message, "", usageLine, "", "For more information, try '--help'."]⟩

/-- A run that is broken off. An empty line stands before the reason. -/
def ofBreak (log : List Entry) (complaints : List String) (reason : String) : Report :=
  ⟨101, log, [], complaints ++ ["", reason]⟩

def threadsVariable : String := "TOKIO_WORKER_THREADS"

/-- Whether the variable tells of no number of threads that a run can have. -/
def lacksThreads (surroundings : Surroundings) : Bool :=
  (surroundings.value? threadsVariable).any fun value =>
    match (Text.decode? value).map fun text => Decimal.readCount text.toList with
    | some (.ok count) => count = 0
    | _ => true

def ofRun (filter : Filter) (ended : Except StartFault Unit) (log : List Entry) : Report :=
  let admitted := log.filter filter.admits
  if filter.isTorn then ofBreak [] filter.complaints "a directive cannot be cut inside a character"
  else
    match ended with
    | .ok () => ⟨0, admitted, [], filter.complaints⟩
    | .error (.capacity fault) => ofBreak admitted filter.complaints fault.reason
    | .error fault => ⟨1, admitted, [], filter.complaints ++ ["Error: " ++ fault.outline]⟩

/-- The report of a run with these words on its command line. -/
def ofArguments {σ : Type} (surroundings : Surroundings) (source : Entropy σ) (delay : Elapsed)
    (words : List String) : Report :=
  if lacksThreads surroundings then ofBreak [] [] "the number of threads cannot be used"
  else
    match Request.ofArguments words with
    | .error e => ofUsageError e
    | .ok .help => ofText helpLines
    | .ok .version => ofText [versionLine]
    | .ok (.serve options) =>
      let (ended, log) := (serve surroundings source delay options).run.run []
      ofRun (Filter.choose (surroundings.value? Filter.variableName) options.logFilter) ended log

end Report

end DerivationPool.CommandLine
