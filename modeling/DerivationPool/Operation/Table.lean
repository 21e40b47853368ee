import DerivationPool.Decimal
import DerivationPool.Derivation
import DerivationPool.Entropy
import DerivationPool.Message.Schema
import DerivationPool.Text.Display

/-!
Jobs, the operations they are for, and the table of operations. A job ends in its whole output
or in one of the errors here, never in a part of the output.
-/
namespace DerivationPool

inductive JobError where
  | unknownOperation (name : String)
  | invalidJob (text : String)
  | derivation (error : DerivationError)
  | encoding (error : MessageError)
  | timedOut (elapsed : Elapsed)
  | poolClosed
  | workerPanicked
  deriving DecidableEq, Repr

namespace JobError

def kind : JobError → String
  | unknownOperation _ => "unknown_operation"
  | invalidJob _ => "invalid_job"
  | derivation error => error.kind
  | encoding _ => "encoding_failure"
  | timedOut _ => "timed_out"
  | poolClosed => "pool_closed"
  | workerPanicked => "worker_panicked"

def message : JobError → String
  | unknownOperation name => "unknown operation: " ++ name
  | invalidJob text => "invalid job: " ++ text
  | derivation error => "derivation failed: " ++ error.message
  | encoding error => "encoding failed: " ++ error.text
  | timedOut elapsed => "job timed out after " ++ elapsed.text
  | poolClosed => "worker pool is closed"
  | workerPanicked => "worker panicked while running job"

/-- Whether the same job may succeed if it is submitted again. -/
def transient : JobError → Bool
  | derivation error => error.transient
  | timedOut _ | poolClosed => true
  | unknownOperation _ | invalidJob _ | encoding _ | workerPanicked => false

end JobError

abbrev Outcome := Except JobError Bytes

/-!
Operations: what a worker does with a job. Operations may share a state, such as
that of an entropy source; a run takes the state to the next. A run may panic, and
it may wait for a signal from outside before it gets anywhere.
-/

/-- One unit of work, with the number that the pool gave it. -/
structure Job where
  id : UInt64
  data : Bytes
  deriving DecidableEq, Repr

structure Operation (σ : Type) where
  run : Job → σ → Attempt Outcome × σ
  /-- What a caller is told when the job overruns the time it has. -/
  timeoutError : Elapsed → JobError
  /-- Whether a run from this state waits for a signal first. -/
  waits : Job → σ → Bool

namespace Operation

variable {σ : Type}

def ofFunction (f : Job → Outcome) : Operation σ where
  run job state := (.returned (f job), state)
  timeoutError := .timedOut
  waits _ _ := false

def echo : Operation σ := ofFunction fun job => .ok job.data

def double : Operation σ := ofFunction fun job => .ok (job.data ++ job.data)

def reverse : Operation σ := ofFunction fun job => .ok job.data.reverse

def jobNumber : Operation σ :=
  ofFunction fun job => .ok ((Nat.toDigits 10 job.id.toNat).map fun c => UInt8.ofNat c.toNat)

def const (output : Bytes) : Operation σ := ofFunction fun _ => .ok output

def fail (error : JobError) : Operation σ := ofFunction fun _ => .error error

def panic : Operation σ where
  run _ state := (.panicked, state)
  timeoutError := .timedOut
  waits _ _ := false

def gate : Operation σ := { echo with waits := fun _ _ => true }

end Operation

/-!
The table of operations by name, in the order of the names. A name is registered
once: neither an empty name nor one that is taken changes the table.
-/

inductive RegisterError where
  | emptyName
  | duplicate (name : String)
  deriving DecidableEq, Repr

def RegisterError.reason : RegisterError → String
  | emptyName => "operation name must not be empty"
  | duplicate name => "operation '" ++ name ++ "' is already registered"

structure Table (σ : Type) where
  entries : List (String × Operation σ)

namespace Table

variable {σ : Type}

def empty : Table σ := ⟨[]⟩

def get? (table : Table σ) (name : String) : Option (Operation σ) := table.entries.lookup name

def contains (table : Table σ) (name : String) : Bool := (table.get? name).isSome

def names (table : Table σ) : List String := table.entries.map Prod.fst

def size (table : Table σ) : Nat := table.entries.length

def isEmpty (table : Table σ) : Bool := table.entries.isEmpty

/-- Puts an entry in front of the first that has a greater name. -/
def insertEntry (entry : String × Operation σ) :
    List (String × Operation σ) → List (String × Operation σ)
  | [] => [entry]
  | first :: rest =>
    if entry.1 < first.1 then entry :: first :: rest else first :: insertEntry entry rest

def register (table : Table σ) (name : String) (operation : Operation σ) :
    Except RegisterError (Table σ) :=
  if name = "" then .error .emptyName
  else if table.contains name then .error (.duplicate name)
  else .ok ⟨insertEntry (name, operation) table.entries⟩

def outline (table : Table σ) : String :=
  Text.outline "OperationTable" [("operations", Text.quotedList table.names)] .whole

@[simp] theorem get?_empty (name : String) : (empty : Table σ).get? name = none := rfl

@[simp] theorem length_names (table : Table σ) : table.names.length = table.size := by
  simp [names, size]

end Table

end DerivationPool
