import InstanceOperator.Config.Load
import InstanceOperator.Log.Filter
import InstanceOperator.Text.Quoted

/-!
# Starting up

What the operator does from its start up to the point where it looks for a cluster: it loads its
configuration and writes it to the log.
-/

namespace InstanceOperator.Startup

structure Line where
  level : Level := .info
  target : String := "instance_controller"
  message : String
deriving DecidableEq, Repr

/-- The text of a line; of a message of several lines only the first counts. -/
def Line.text (l : Line) : String :=
  l.level.name ++ " " ++ l.target ++ ": " ++ (l.message.splitOn "\n").headD ""

/-- The lines that show a configuration. -/
def configLines (c : Config) : List Line :=
  [{ message := "Configuration:" },
   { message := "  Namespace: " ++ c.ns.getD "all namespaces" },
   { message := "  Concurrency: " ++ toString c.concurrency.toNat },
   { message := "  Debounce: " ++ c.debounce.text },
   { message := "  Pass timeout: " ++ c.passTimeout.text },
   { message := "  Backoff: " ++ c.backoffMin.text ++ " .. " ++ c.backoffMax.text },
   { message := "  Drift policy: " ++ c.driftPolicy.name },
   { message := "  Metrics port: " ++ toString c.metricsPort.toNat }]

/-- How starting up ends while no cluster is in reach. -/
inductive Failure where
  | config (fault : ConfigFault)
  | noCluster
deriving DecidableEq, Repr

def Failure.report : Failure → String
  | .config fault => "Error: InvalidConfig(" ++ Text.quoted fault.message ++ ")"
  | .noCluster => "Error: Kube(..)"

/-- The lines written while starting up, and how it ends. -/
def run (config : Except ConfigFault Config) : List Line × Failure :=
  let first : Line := { message := "Starting IntermineInstance Controller" }
  match config with
  | .error fault => ([first], .config fault)
  | .ok c =>
    (first :: configLines c
      ++ [{ target := "instance_controller::controller"
            message := "Initializing IntermineInstance Controller" }],
     .noCluster)

/-- The variable that holds the log filter. -/
def filterVariable : String := "RUST_LOG"

/-- The log filter; without one that reads, everything down to notices of the lowest urgency is
shown. -/
def filter (lookup : Lookup) : Log.Filter :=
  ((lookup filterVariable).bind Log.Filter.read?).getD (Log.Filter.level .info)

/-- What is shown of starting up: the lines of the log and the error report. -/
def transcript (lookup : Lookup) : List String × String :=
  let (lines, failure) := run (Config.load lookup)
  ((lines.filter fun l => (filter lookup).shows l.level l.target).map Line.text, failure.report)

end InstanceOperator.Startup
