import InstanceOperator.Dispatch.Dispatcher
import InstanceOperator.Rehearsal.Flight

/-!
# The operator at work on a cluster

The dispatcher, the passes and a server of a cluster together, over a span of simulated time. The
dispatcher lists the instances at the beginning and then follows the changes of the cluster; at the
end of the span it starts no further pass, and those under way run to their end. Times are in
milliseconds.
-/

namespace InstanceOperator.Rehearsal

/-- An object of the cluster that the operator deals with. -/
inductive ClusterObject where
  /-- An instance of the custom resource. -/
  | custom (i : Instance)
  | dependent (d : Dependent)
deriving DecidableEq

namespace ClusterObject

def path : ClusterObject → String
  | .custom i => i.path
  | .dependent d => d.path

def toJson : ClusterObject → Json
  | .custom i => i.toJson
  | .dependent d => d.toJson

def ns : ClusterObject → String
  | .custom i => i.metadata.ns.getD ""
  | .dependent d => d.key.ns

def name : ClusterObject → String
  | .custom i => i.metadata.name.getD ""
  | .dependent d => d.key.name

/-- The plural name of the objects of its kind. -/
def plural : ClusterObject → String
  | .custom _ => instancePlural
  | .dependent d => d.kind.plural

/-- Read an object of the server by its kind. -/
def ofJson? (j : Json) : Option ClusterObject :=
  match (j.get? "kind").bind Json.str? with
  | none => none
  | some name =>
    if name = instanceKind then (Instance.ofJson? j).map .custom
    else (Kind.ofName? name).bind fun k => (Dependent.ofJson? k j).map .dependent

end ClusterObject

/-- What is watched: the instances, or the dependents of a kind. -/
inductive Watched where
  | instances
  | dependents (kind : Kind)
deriving DecidableEq, Repr

namespace Watched

def all : List Watched :=
  .instances :: Kind.ordered.map .dependents

/-- The plural name of what is watched. -/
def plural : Watched → String
  | .instances => instancePlural
  | .dependents kind => kind.plural

/-- The path of the collection that is watched. -/
def path (ns : Option String) : Watched → String
  | .instances => instanceCollection ns
  | .dependents kind => kind.collection ns

end Watched

/-- What an object belongs to. -/
def ClusterObject.watched : ClusterObject → Watched
  | .custom _ => .instances
  | .dependent d => .dependents d.kind

/-- Something that happens to the cluster from outside. -/
inductive Happening where
  /-- The server has listed a collection; its changes are followed from now on. -/
  | listed (what : Watched)
  /-- An object has been added or modified. -/
  | stored (t : ClusterObject)
  /-- An object has been deleted. -/
  | dropped (t : ClusterObject)
deriving DecidableEq

/-- What had come about when the span of time was over. -/
structure Snapshot where
  sent : List Sent
  metrics : Metrics
deriving DecidableEq

structure Watch where
  config : Config
  world : World
  dispatcher : Dispatcher
  flights : List Flight := []
  /-- What is still to happen, and when, the earliest first. -/
  agenda : List (Nat × Happening)
  /-- The collections whose changes are followed. -/
  following : List Watched := []
  /-- The end of the span of time. -/
  deadline : Nat
  /-- What had come about at the end of the span. -/
  atEnd : Option Snapshot := none
  /-- Whether the operator has broken off. -/
  brokenOff : Bool := false

namespace Watch

/-! ## Happenings -/

/-- Whether the changes of an object reach the dispatcher. -/
def follows (w : Watch) (t : ClusterObject) : Bool :=
  w.following.contains t.watched && (w.config.ns.isNone || w.config.ns = some t.ns)

/-- The objects on the server, in the order of their paths. -/
def objects (w : Watch) : List ClusterObject :=
  (w.world.server.objects.entries.mergeSort fun a b => a.1 ≤ b.1).filterMap
    fun e => ClusterObject.ofJson? e.2

/-- The listed instances as they reach the dispatcher. -/
def listedInstances (w : Watch) : List Incoming :=
  w.objects.filterMap fun t => match t with
    | .custom i => if w.follows t then some (.applied i) else none
    | .dependent _ => none

/-- How the change of an object reaches the dispatcher. -/
def incoming (t : ClusterObject) (gone : Bool) : Incoming :=
  match t with
  | .custom i => if gone then .deleted i else .applied i
  | .dependent d => .touched d

/-- Tell the dispatcher of a change that it follows. -/
def tell (w : Watch) (t : ClusterObject) (gone : Bool) : Watch :=
  if w.follows t then { w with dispatcher := w.dispatcher.receive (incoming t gone) } else w

def changeServer (w : Watch) (f : ApiServer → ApiServer) : Watch :=
  { w with world := { w.world with server := f w.world.server } }

def happen (w : Watch) : Happening → Watch
  | .listed what =>
    let w := { w with following := what :: w.following }
    if what = .instances then
      { w with dispatcher :=
          { w.listedInstances.foldl Dispatcher.receive w.dispatcher with synced := true } }
    else w
  | .stored t => (w.changeServer (·.put t.path t.toJson)).tell t false
  | .dropped t => (w.changeServer (·.drop t.path)).tell t true

/-! ## Passes -/

def write (w : Watch) (n : Notice) : Watch :=
  { w with world := { w.world with books := w.world.books.write n }.dateNotices }

/-- Do what follows the end of a pass of an instance. -/
def land (w : Watch) (subject : InstanceName) (failed : Bool) (settled : Action × Books) : Watch :=
  let w := { w with
    world := { w.world with books := settled.2 }.dateNotices
    dispatcher := w.dispatcher.finish subject }
  let w := if failed then w.write (.passFailed subject) else w
  match settled.1 with
  | .awaitChange => w
  | .requeue delay =>
    { w with
      dispatcher := w.dispatcher.receive (.again subject (w.world.now + delay.toMillis)) }

/-- Keep a pass under way, or do what follows its end. -/
def carryOn (w : Watch) (subject : InstanceName) (known : Instance) (key : ObjectKey)
    (started : Nat) (progress : Progress × World) : Watch :=
  let w := { w with world := progress.2.dateNotices }
  match progress.1 with
  | .waits deadline call rest waiting =>
    { w with flights :=
        w.flights ++ [⟨subject, known, key, started, deadline, call, rest, waiting⟩] }
  | .ended result =>
    let books := w.world.books.endPass result (Duration.ofMillis (w.world.now - started))
    w.land subject (result matches .error _) (books.settlePass known key result)

def start (w : Watch) (subject : InstanceName) (i : Instance) : Watch :=
  match i.passKey with
  | .error cause => w.land subject true (w.world.books.settleFailure i cause)
  | .ok key =>
    match (Instant.ofMillis? w.world.now).bind
        (startPass w.config.passTimeout w.config.driftPolicy key) with
    | some p => w.carryOn subject i key w.world.now (World.advance key p w.world)
    | none => { w with brokenOff := true }

/-- Go on with the first pass to which something happens by now. -/
def resume? (w : Watch) : Option Watch :=
  match w.flights.findIdx? (·.wake ≤ w.world.now) with
  | none => none
  | some n =>
    match w.flights[n]? with
    | none => none
    | some f =>
      some ({ w with flights := w.flights.eraseIdx n }.carryOn f.subject f.known f.key f.started
        (w.world.resume f))

/-- Let the dispatcher name the next instance whose pass is due by now. -/
def nextPass (w : Watch) : Option (InstanceName × Option Instance) × Watch :=
  let (next, dispatcher) := w.dispatcher.next? w.world.now
  (next, { w with dispatcher })

/-! ## Time -/

/-- The earliest of some times. -/
def earliest : List Nat → Option Nat
  | [] => none
  | t :: ts => some (ts.foldl min t)

/-- When something happens next to a pass under way. -/
def nextWake? (w : Watch) : Option Nat :=
  earliest (w.flights.map Flight.wake)

/-- When something happens next at all. -/
def nextTime? (w : Watch) : Option Nat :=
  earliest ((w.flights.map Flight.wake)
    ++ (w.agenda.head?.map (·.1)).toList
    ++ w.dispatcher.dueAt?.toList)

def moveTo (w : Watch) (time : Nat) : Watch :=
  { w with world := { w.world with now := time } }

/-- End the span of time. -/
def close (w : Watch) : Watch :=
  { w.moveTo w.deadline with
    atEnd := some { sent := w.world.sent, metrics := w.world.books.metrics } }

/-- A step while nothing happens from outside: a pass goes on, or one starts, or time passes. -/
def stepInside (w : Watch) : Watch :=
  -- passes under way go first, so that what they leave is seen by those that start
  match w.resume? with
  | some w => w
  | none =>
    match w.nextPass with
    | (some (subject, some i), w) => w.start subject i
    | (some (subject, none), w) => w.write (.unknownInstance subject)
    | (none, w) =>
      match w.nextTime? with
      | some time => if time ≤ w.deadline then w.moveTo time else w.close
      | none => w.close

/-- A step within the span of time. -/
def stepOpen (w : Watch) : Watch :=
  match w.agenda with
  | (time, h) :: rest =>
    if time ≤ w.world.now then { w with agenda := rest }.happen h else w.stepInside
  | [] => w.stepInside

/-- A step after the span of time, if a pass is still under way. -/
def stepClosed? (w : Watch) : Option Watch :=
  match w.resume? with
  | some w => some w
  | none => w.nextWake?.map w.moveTo

/-- Run to the end, in a bounded number of steps. -/
def run : Nat → Watch → Watch
  | 0, w => w
  | fuel + 1, w =>
    if w.brokenOff then w
    else match w.atEnd with
      | none => run fuel w.stepOpen
      | some _ =>
        match w.stepClosed? with
        | some w => run fuel w
        | none => w.write .watchStopped

/-! ## Beginning -/

/-- When a collection is listed, if ever, and the rules that are left. -/
def listing (what : Watched) (rules : List Rule) : Option Nat × List Rule :=
  match Rule.take? .list what.plural "" rules with
  | (none, _) => (some 0, rules)
  | (some rule, rules) => (if rule.ending = .normal then some rule.delay else none, rules)

/-- Put something on the agenda, behind what happens at the same time. -/
def plan (time : Nat) (h : Happening) : List (Nat × Happening) → List (Nat × Happening)
  | [] => [(time, h)]
  | (t, g) :: rest => if time < t then (time, h) :: (t, g) :: rest else (t, g) :: plan time h rest

/-- The rehearsal at its beginning. -/
def initial (config : Config) (objects : List ClusterObject) (rules : List Rule)
    (happenings : List (Nat × Happening)) (deadline : Nat) : Watch :=
  let (openings, rules) := Watched.all.foldl
    (fun (s : List (Nat × Happening) × List Rule) what =>
      let (time, rules) := listing what s.2
      (s.1 ++ (time.map (·, Happening.listed what)).toList, rules))
    ([], rules)
  let agenda := (openings ++ happenings).foldl (fun agenda e => plan e.1 e.2 agenda) []
  let server : ApiServer := objects.foldl (fun s t => s.put t.path t.toJson) {}
  let books : Books := { tracker := { min := config.backoffMin, max := config.backoffMax } }
  let w : Watch :=
    { config, agenda, deadline
      world := { server := server, rules, books }
      dispatcher :=
        { concurrency := config.concurrency.toNat
          scheduler := { debounce := config.debounce.toMillis } } }
  w.write .watchStarted

/-- The greatest number of steps of a rehearsal. -/
def stepLimit : Nat := 1000000

/-- A whole rehearsal. -/
def rehearse (config : Config) (objects : List ClusterObject) (rules : List Rule)
    (happenings : List (Nat × Happening)) (deadline : Nat) : Watch :=
  run stepLimit (initial config objects rules happenings deadline)

end Watch

end InstanceOperator.Rehearsal
