import DerivationPool.CommandLine.Startup

/-!
The program itself: it looks up the files and variables that its options name,
probes the entropy source of the system, and prints the report of the run. The
interrupt is taken to come as soon as the service listens, so no job is run and no
secret is drawn.
-/
namespace DerivationPool.CommandLine

def Options.paths (o : Options) : List String :=
  [o.keyFile, o.service.certificate, o.service.key].filterMap id

/-- The paths and the variables that a run looks up: those that the command line names, and the
variables of the threads and of the log. -/
def lookedUpBy (words : List String) : List String × List String :=
  let names := [Report.threadsVariable, Log.Filter.variableName]
  match Request.ofArguments words with
  | .ok (.serve o) => (o.paths, names ++ o.keyVariable.toList)
  | _ => ([], names)

def faultOf : IO.Error → FileFault
  | .noFileOrDirectory .. => .missing
  | .permissionDenied .. => .denied
  | .inappropriateType .. => .isDirectory
  | e => .other e.toString

def readNamedFile (path : String) : IO (String × Except FileFault Bytes) := do
  try
    return (path, .ok (← IO.FS.readBinFile path).toList)
  catch e => return (path, .error (faultOf e))

def readNamedVariable (name : String) : IO (Option (String × Bytes)) := do
  return (← IO.getEnv name).map fun value => (name, Text.encode value)

def gather (words : List String) : IO Surroundings := do
  let (paths, names) := lookedUpBy words
  let files ← paths.mapM readNamedFile
  let environment ← names.filterMapM readNamedVariable
  return ⟨environment, fun path => (files.lookup path).getD (.error .missing)⟩

def probe : IO Elapsed := do
  let before ← IO.monoNanosNow
  let _ ← IO.getRandomBytes 1
  return ⟨(← IO.monoNanosNow) - before⟩

end DerivationPool.CommandLine

open DerivationPool CommandLine in
def main (words : List String) : IO UInt32 := do
  let report := Report.ofArguments (← gather words) Entropy.numbered (← probe) words
  for entry in report.log do IO.println entry.text
  for line in report.lines do IO.println line
  for line in report.complaints do IO.eprintln line
  return report.code.toUInt32
