import DerivationPool.Decimal
import DerivationPool.Service.Handler
import DerivationPool.Text.Classes
import DerivationPool.Text.Display
import DerivationPool.Text.Utf8

/-!
What can be set on the command line: the names of the settings, what their values may be, what
holds where a setting is not given, and the texts that tell of all this.
-/
namespace DerivationPool.CommandLine

structure Options where
  service : Service.Config
  /-- The path of a file that holds the master key. -/
  keyFile : Option String
  /-- The name of a variable that holds the master key. -/
  keyVariable : Option String
  entropyTimeout : Elapsed
  logFilter : String
  deriving DecidableEq, Repr

def Options.standard : Options := ⟨.standard, none, none, .ofMillis 10000, "info"⟩

inductive Setting where
  | address | certificate | key | workers | queueDepth | jobTimeout | entropyTimeout
  | keyFile | keyVariable | info | logFilter
  deriving DecidableEq, Repr

namespace Setting

/-- The settings in the order of the help text. -/
def all : List Setting :=
  [address, certificate, key, workers, queueDepth, jobTimeout, entropyTimeout, keyFile,
    keyVariable, info, logFilter]

def long : Setting → String
  | address => "bind"
  | certificate => "cert"
  | key => "key"
  | workers => "workers"
  | queueDepth => "queue-depth"
  | jobTimeout => "job-timeout-ms"
  | entropyTimeout => "entropy-timeout-ms"
  | keyFile => "master-key-file"
  | keyVariable => "master-key-env"
  | info => "hkdf-info"
  | logFilter => "log-level"

def short? : Setting → Option Char
  | address => some 'b'
  | certificate => some 'c'
  | key => some 'k'
  | workers => some 'w'
  | _ => none

def help : Setting → String
  | address => "Address to bind to"
  | certificate => "Path to TLS certificate (PEM format)"
  | key => "Path to TLS private key (PEM format)"
  | workers => "Number of concurrent workers"
  | queueDepth => "Jobs that may wait for a free worker"
  | jobTimeout => "Per-job timeout in milliseconds"
  | entropyTimeout => "How long to wait for the OS entropy source at startup, in milliseconds"
  | keyFile => "File holding the raw master key bytes (wins over --master-key-env)"
  | keyVariable => "Environment variable holding the hex-encoded master key"
  | info => "HKDF info (context) string for derive_secret"
  | logFilter => "Log level (trace, debug, info, warn, error)"

/-- The word that stands for the value: the name in capitals. -/
def placeholder (s : Setting) : String :=
  String.ofList (s.long.toList.map fun c => if c = '-' then '_' else c.toUpper)

def label (s : Setting) : String := "--" ++ s.long ++ " <" ++ s.placeholder ++ ">"

/-- The setting without which this one is not accepted. -/
def companion? : Setting → Option Setting
  | certificate => some key
  | key => some certificate
  | _ => none

def standardText? (s : Setting) : Option String :=
  let o := Options.standard
  match s with
  | address => some o.service.address
  | certificate => o.service.certificate
  | key => o.service.key
  | workers => some (toString o.service.pool.workers)
  | queueDepth => some (toString o.service.pool.queueDepth)
  | jobTimeout => some (toString o.service.pool.jobTimeout.millis)
  | entropyTimeout => some (toString o.entropyTimeout.millis)
  | keyFile => o.keyFile
  | keyVariable => o.keyVariable
  | info => some (Text.decodeLossy o.service.derivation.info)
  | logFilter => some o.logFilter

end Setting

inductive ValueFault where
  | missing
  | count (fault : Decimal.CountFault)
  deriving DecidableEq, Repr

/-- A path has at least one character. -/
def pathValue (text : String) : Except ValueFault String :=
  if text = "" then .error .missing else .ok text

def countValue (text : String) : Except ValueFault Nat :=
  (Decimal.readCount text.toList).mapError .count

def spanValue (text : String) : Except ValueFault Elapsed := (countValue text).map .ofMillis

def Options.set (o : Options) (s : Setting) (text : String) : Except ValueFault Options := do
  match s with
  | .address => return { o with service.address := text }
  | .certificate => return { o with service.certificate := some (← pathValue text) }
  | .key => return { o with service.key := some (← pathValue text) }
  | .workers => return { o with service.pool.workers := ← countValue text }
  | .queueDepth => return { o with service.pool.queueDepth := ← countValue text }
  | .jobTimeout => return { o with service.pool.jobTimeout := ← spanValue text }
  | .entropyTimeout => return { o with entropyTimeout := ← spanValue text }
  | .keyFile => return { o with keyFile := some (← pathValue text) }
  | .keyVariable => return { o with keyVariable := some text }
  | .info => return { o with service.derivation.info := Text.encode text }
  | .logFilter => return { o with logFilter := text }

/-!
The texts that a command line can ask for.
-/

def programName : String := "keyhose-worker"

def versionLine : String := programName ++ " 0.1.0"

def usageLine : String := "Usage: " ++ programName ++ " [OPTIONS]"

def switchNames (short : Option Char) (long : String) : String :=
  match short with
  | some letter => "  -" ++ String.ofList [letter] ++ ", --" ++ long
  | none => "      --" ++ long

def helpLine (text : String) : String := "          " ++ text

/-- A value as the help text shows it: in quotes if it is empty or has blanks. -/
def shownValue (text : String) : String :=
  if text = "" || text.toList.any Text.isBlank then Text.quoted text else text

def settingHelp (s : Setting) : List String :=
  let standard :=
    match s.standardText? with
    | some text => " [default: " ++ shownValue text ++ "]"
    | none => ""
  [switchNames s.short? s.long ++ " <" ++ s.placeholder ++ ">", helpLine (s.help ++ standard)]

def helpLines : List String :=
  ["HKDF secret derivation worker pool", "", usageLine, "", "Options:"] ++
  Setting.all.flatMap settingHelp ++
  [switchNames (some 'h') "help", helpLine "Print help",
    switchNames (some 'V') "version", helpLine "Print version"]

end DerivationPool.CommandLine
