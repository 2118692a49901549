import DebugLink.Session.Act

/-!
# Session: a script played from its first step to its last

`Session.run` plays a script on a new connection. After the action of a step everything runs until
nothing is left to do, unless the step is in a rush, and then what can be seen is reported.
-/

namespace DebugLink

namespace Session

variable (session : Session)

/-- What can be seen of the connection. -/
def snapshot : Snapshot :=
  let connection := session.connection
  { connected := !connection.dead
    suspended := connection.scope.active
    epoch := connection.scope.epoch
    pending := connection.pending.length
    sent := connection.sent
    idle := connection.idle
    objects := connection.leases.size
    disposals := connection.disposals.counts.length
    pendingResumes := connection.scope.resumes.length
    cached := connection.scope.size
    subscribers := connection.feed.registered.length }

/-- What is reported of a step with its answer and the calls that have finished. -/
def report (answer : Answer) (done : List FinishedCall) : Report :=
  let flow := session.connection.feed.flow
  { answer
    done
    notices := session.connection.notices
    visits := session.visits
    wire := session.outlet.wire
    snapshot := if session.handles.isEmpty then none else some session.snapshot
    held := flow.held
    net := flow.net
    writes := session.outlet.writes
    closes := session.outlet.closes }

/-- The session with nothing to report. -/
def afresh : Session :=
  { session.withConnection { session.connection with notices := [] } with
    visits := []
    outlet := { session.outlet with wire := [] } }

/-- Plays one step. -/
def play (step : Step) : Report × Session :=
  let (answer, session) := session.afresh.act step.action
  if step.rush then (session.report answer [], session)
  else
    let (done, session) := session.settle step.untilWrites
    (session.report answer done, session)

/-- Plays steps one after the other. -/
def playAll : List Step → Session → List Report
  | [], _ => []
  | step :: steps, session =>
    let (report, session) := session.play step
    report :: playAll steps session

/-- Plays a script on a new connection. -/
def run (config : Config) (streaming : Bool) (script : List Step) : List Report :=
  playAll script (.ofConfig config streaming)

end Session

end DebugLink
