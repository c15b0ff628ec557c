import InstanceOperator.Dispatch.Handler
import InstanceOperator.Rehearsal.Rule

/-!
# Passes under way

How a pass runs against a server of a cluster that may take its time. A pass goes on until a call
has to wait; it is then under way until the server answers or the time of the pass runs out. Times
are in milliseconds.
-/

namespace InstanceOperator.Rehearsal

/-- A request that was sent. -/
structure Sent where
  time : Nat
  /-- The instance that it was sent for. -/
  key : ObjectKey
  method : String
  target : String
  /-- The name of the object that was posted. -/
  posted : Option String
deriving DecidableEq

def Sent.text (s : Sent) : String :=
  s.method ++ " " ++ s.target ++ (s.posted.map (" " ++ ·)).getD ""

/-- The surroundings of the passes. -/
structure World where
  now : Nat := 0
  server : ApiServer
  rules : List Rule
  books : Books
  /-- The requests sent, the latest first. -/
  sent : List Sent := []
  /-- The notices written and when, the latest first. -/
  log : List (Nat × Notice) := []
deriving DecidableEq

/-- What is left of a call that waits: the server's ending, or nothing if it is silent. -/
structure Waiting where
  request : Request
  ending : Ending
  /-- When the server comes to its ending. -/
  readyAt : Nat
deriving DecidableEq

namespace World

/-- Enter a trace that a pass left. -/
def enter (w : World) (e : Effect) : World :=
  { w with books := w.books.enter e }

/-- Date the notices that have been written. -/
def dateNotices (w : World) : World :=
  { w with
    log := (w.books.log.map (w.now, ·)).reverse ++ w.log
    books := { w.books with log := [] } }

def noteRequest (w : World) (key : ObjectKey) (c : Call) (r : Request) : World :=
  let posted := match c with
    | .create d => some d.key.name
    | _ => none
  { w with
    sent := { time := w.now, key, method := r.method, target := r.target.text, posted } :: w.sent }

/-- Store a posted object, as a rule may have it. -/
def storePosted (w : World) : Call → World
  | .create d => { w with server := w.server.put d.path d.toJson }
  | _ => w

/-- The result of a call to which the server answers now. -/
def conclude (w : World) (c : Call) (waiting : Waiting) : c.Result × World :=
  match waiting.ending.reply? w.server waiting.request with
  | some (reply, server) => (c.receive .whole reply, { w with server })
  | none => (.error c.expired, w)

/-- Make a call: its result if there is one at once, or what it waits for. -/
def call (w : World) (key : ObjectKey) (c : Call) : (c.Result ⊕ Waiting) × World :=
  match c.request with
  | .error e => (.inl (c.classify (.error e)), w)
  | .ok request =>
    let w := w.noteRequest key c request
    let (verb, plural, name) := Rule.subject c
    match Rule.take? verb plural name w.rules with
    | (none, _) =>
      let (result, w) := w.conclude c { request, ending := .normal, readyAt := w.now }
      (.inl result, w)
    | (some rule, rules) =>
      let w := { w with rules }
      let w := if rule.stores then w.storePosted c else w
      let waiting : Waiting := { request, ending := rule.ending, readyAt := w.now + rule.delay }
      if rule.delay = 0 ∧ rule.ending ≠ .silence then
        let (result, w) := w.conclude c waiting
        (.inl result, w)
      else (.inr waiting, w)

end World

/-- A pass that waits for the result of a call. -/
structure Flight where
  subject : InstanceName
  /-- The instance as it was known when the pass began. -/
  known : Instance
  key : ObjectKey
  started : Nat
  /-- When the call is given up. -/
  deadline : Instant
  call : Call
  rest : call.Result → Program PassEnd
  waiting : Waiting

/-- Whether the call of a pass is answered in time. -/
def Flight.inTime (f : Flight) : Bool :=
  f.waiting.ending ≠ .silence && f.waiting.readyAt ≤ f.deadline.toMillis

/-- When something happens to a pass. -/
def Flight.wake (f : Flight) : Nat :=
  if f.inTime then f.waiting.readyAt else f.deadline.toMillis

/-- How far a pass has come. -/
inductive Progress where
  | ended (result : PassEnd)
  | waits (deadline : Instant) (call : Call) (rest : call.Result → Program PassEnd)
      (waiting : Waiting)

/-- Run a pass until it ends or a call has to wait. -/
def World.advance (key : ObjectKey) : Program PassEnd → World → Progress × World
  | .done result, w => (.ended result, w)
  | .emit e rest, w => World.advance key rest (w.enter e)
  | .ask deadline c rest, w =>
    match w.call key c with
    | (.inl result, w) => World.advance key (rest result) w
    | (.inr waiting, w) => (.waits deadline c rest waiting, w)

/-- Go on with a pass to which something happens. -/
def World.resume (w : World) (f : Flight) : Progress × World :=
  if f.inTime then
    let (result, w) := w.conclude f.call f.waiting
    World.advance f.key (f.rest result) w
  else World.advance f.key (f.rest (.error f.call.expired)) w

end InstanceOperator.Rehearsal
