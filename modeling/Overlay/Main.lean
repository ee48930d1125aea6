import Overlay.CommandLine.Run

/-!
# The program

Collects what a run may read, runs, and writes what the run leaves behind.
-/

namespace Overlay.CommandLine

/-- The variables that a run reads. -/
def runVariables : List String :=
  [configVariable, filterVariable] ++
    Config.Override.all.map Config.Override.variable

/-- The bytes of a file, if it can be read. -/
def fileBytes? (path : String) : IO (Option (List UInt8)) := do
  try
    let bytes ← IO.FS.readBinFile path
    return some bytes.toList
  catch _ => return none

/-- Writes what a run leaves behind. -/
def write (r : Report) : IO UInt32 := do
  for line in r.output do
    IO.println line
  for line in r.errors do
    IO.eprintln line
  return r.exit

end Overlay.CommandLine

open Overlay CommandLine in
/-- The program. -/
def main (arguments : List String) : IO UInt32 := do
  let settings ← runVariables.mapM fun name => do
    let value ← IO.getEnv name
    return (name, value.map fun s => Utf8.encode s.toList)
  match plan arguments fun name => (settings.find? fun v => v.1 = name).bind (·.2) with
  | .done r => write r
  | .load path next => write (next (← fileBytes? path))
