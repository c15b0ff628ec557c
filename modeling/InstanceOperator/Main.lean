import InstanceOperator.Crd.Definition
import InstanceOperator.Startup

/-!
# The command line

With the argument `crdgen` the manifest of the custom resource is printed. Otherwise the operator
starts up from the variables of its process.
-/

namespace InstanceOperator.CommandLine

/-- The variables that the operator reads. -/
def variableNames : List String :=
  Startup.filterVariable :: Setting.all.map Setting.name

def printManifest : IO UInt32 := do
  IO.print Crd.manifest
  return 0

/-- Start up and say what came of it. -/
def startUp : IO UInt32 := do
  let vars ← variableNames.mapM fun name => do return (name, ← IO.getEnv name)
  let (lines, report) := Startup.transcript fun name => (vars.lookup name).join
  for line in lines do
    IO.println line
  IO.eprintln report
  return 1

end InstanceOperator.CommandLine

/-- Run the program. -/
def main (args : List String) : IO UInt32 :=
  if args = ["crdgen"] then InstanceOperator.CommandLine.printManifest
  else InstanceOperator.CommandLine.startUp
