import DerivationPool.Decimal
import DerivationPool.Operation.Table

/-!
Pools, from their size to their state. The size says how many jobs run at a time, how many wait
in the queue, and how long one may take. None of them may be zero, and a machine has room for
only so many workers and places in the queue.
-/
namespace DerivationPool.Pool

structure Config where
  workers : Nat
  queueDepth : Nat
  jobTimeout : Elapsed
  deriving DecidableEq, Repr

inductive ConfigFault where
  | noWorkers | noQueue | noTime
  deriving DecidableEq, Repr

def ConfigFault.reason : ConfigFault → String
  | noWorkers => "workers must be at least 1"
  | noQueue => "queue depth must be at least 1"
  | noTime => "job timeout must be non-zero"

inductive CapacityFault where
  | queue | workers
  deriving DecidableEq, Repr

def CapacityFault.reason : CapacityFault → String
  | queue => "a queue cannot count so many places"
  | workers => "memory cannot hold so many workers"

/-- Why a pool does not start. A fault of the configuration is reported. Where there is no room,
whoever starts the pool breaks off. -/
inductive StartFault where
  | config (fault : ConfigFault)
  | capacity (fault : CapacityFault)
  deriving DecidableEq, Repr

namespace Config

/-- The most places that a queue can count. -/
def queueLimit : Nat := 1 <<< 61 - 1

/-- The most workers whose handles, of eight bytes each, memory can hold. -/
def workerLimit : Nat := 1 <<< 60 - 1

def standard : Config := ⟨10, 1024, .ofMillis 5000⟩

def validate (config : Config) : Except ConfigFault Unit :=
  if config.workers = 0 then .error .noWorkers
  else if config.queueDepth = 0 then .error .noQueue
  else if config.jobTimeout.nanos = 0 then .error .noTime
  else .ok ()

def allocate (config : Config) : Except CapacityFault Unit :=
  if queueLimit < config.queueDepth then .error .queue
  else if workerLimit < config.workers then .error .workers
  else .ok ()

def prepare (config : Config) : Except StartFault Unit :=
  match config.validate, config.allocate with
  | .error fault, _ => .error (.config fault)
  | .ok (), .error fault => .error (.capacity fault)
  | .ok (), .ok () => .ok ()

theorem validate_eq_ok_iff (config : Config) :
    config.validate = .ok () ↔
      0 < config.workers ∧ 0 < config.queueDepth ∧ 0 < config.jobTimeout.nanos := by
  grind [validate]

theorem allocate_eq_ok_iff (config : Config) :
    config.allocate = .ok () ↔
      config.queueDepth ≤ queueLimit ∧ config.workers ≤ workerLimit := by
  grind [allocate]

theorem prepare_eq_ok_iff (config : Config) :
    config.prepare = .ok () ↔ config.validate = .ok () ∧ config.allocate = .ok () := by
  unfold prepare
  cases config.validate with
  | error fault => simp
  | ok _ => cases config.allocate <;> simp

end Config

/-!
The state of a pool. A call of a registered operation becomes a dispatch. It first
waits for space in the queue, then in the queue for a worker. A worker that has
taken a dispatch is bound to it until the operation has returned, also when the
caller was told long before that the job overran its time.
-/

/-- A job on its way, with the number of the call that made it. -/
structure Dispatch (σ : Type) where
  call : Nat
  operation : Operation σ
  job : Job

/-- What a worker is doing. The result of an operation is there once it took effect, and the
operation is over when its worker is idle again. -/
inductive Worker (σ : Type) where
  | idle
  | running (dispatch : Dispatch σ) (result : Option (Attempt Outcome))
  /-- The job overran its time and its caller has been answered. -/
  | held (dispatch : Dispatch σ) (result : Option (Attempt Outcome))
  | exited

namespace Worker

variable {σ : Type}

def busy : Worker σ → Bool
  | running _ _ | held _ _ => true
  | idle | exited => false

def hasExited : Worker σ → Bool
  | exited => true
  | _ => false

end Worker

structure State (σ : Type) where
  config : Config
  table : Table σ
  /-- What the operations share. -/
  shared : σ
  /-- The number of the next job. -/
  nextJob : UInt64
  /-- The number of the next call. -/
  nextCall : Nat
  /-- The callers that wait for space in the queue, first come first. -/
  waiting : List (Dispatch σ)
  queue : List (Dispatch σ)
  workers : List (Worker σ)
  stopping : Bool
  /-- The calls whose callers no longer wait for an answer. -/
  departed : List Nat

namespace State

variable {σ : Type}

def initial (config : Config) (table : Table σ) (shared : σ) : State σ where
  config
  table
  shared
  nextJob := 1
  nextCall := 0
  waiting := []
  queue := []
  workers := List.replicate config.workers .idle
  stopping := false
  departed := []

/-- A pool starts only from a configuration without a fault that there is room for. Of what is run
in it two things are taken for granted. An operation that panics unwinds, so that its worker is told
of it and goes on; and the error for a job that overran its time is a value, which is there whenever
it is asked for. -/
def start (config : Config) (table : Table σ) (shared : σ) : Except StartFault (State σ) :=
  config.prepare.map fun _ => initial config table shared

theorem start_eq_ok_iff {config : Config} {table : Table σ} {shared : σ} {s : State σ} :
    start config table shared = .ok s ↔
      config.validate = .ok () ∧ config.allocate = .ok () ∧ s = initial config table shared := by
  rw [← and_assoc, ← Config.prepare_eq_ok_iff, start]
  cases config.prepare with
  | error fault =>
    constructor
    · intro h
      cases h
    · intro h
      cases h.1
  | ok _ =>
    constructor
    · intro h
      cases h
      exact ⟨rfl, rfl⟩
    · rintro ⟨-, rfl⟩
      rfl

def closed (s : State σ) : Bool := s.workers.all Worker.hasExited

def inProgress (s : State σ) : Nat := s.workers.countP Worker.busy

end State

end DerivationPool.Pool
