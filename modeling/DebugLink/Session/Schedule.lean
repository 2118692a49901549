import DebugLink.Session.State

/-!
# Session.Schedule: who runs when

There is one thread for the tasks. They run in the order in which they were woken, each until it has
to wait; one that is woken goes to the end of the queue. So that no task keeps the others waiting
for long, one that has taken `turnLimit` messages rests, even if no further message is there. It is
woken again when no other task can go on or after `roundLength` turns; of several the last to rest
is woken first. When no task can go on at all, the unfinished calls are polled in the order in which
they were started, and if any of them finishes the tasks run again. Other threads make progress only
where the script waits for them.
-/

namespace DebugLink.Session

variable (session : Session)

/-! ## Values -/

/-- A cached value as its user sees it. -/
def showValue : StoredValue → ShownValue
  | .number n => .number n
  | .text s | .other _ s _ => .text s
  | .leases ids =>
    match ids.head?.bind session.connection.leases.lease? with
    | some lease => .lease lease.object lease.retained
    | none => .lease 0 0

/-- The value of a kind that an offer makes. A lease is acquired for it. -/
def supply (kind : ValueKind) (offer : Except Failure Offer) :
    Except Failure StoredValue × Session :=
  match offer, kind with
  | .error failure, _ => (.error failure, session)
  | .ok offer, .number => (.ok (.number offer.number), session)
  | .ok offer, .text => (.ok (.text offer.text), session)
  | .ok offer, .other type => (.ok (.other type offer.text []), session)
  | .ok offer, .leases =>
    match session.connection.acquire offer.number with
    | (some lease, connection) => (.ok (.leases [lease]), session.withConnection connection)
    | (none, _) => (.error (.wireFormat (.other "null object")), session)

/-- Computes a value, stores it if it is not too late, shows it to its user and drops it. -/
def compute (key : String) (kind : ValueKind) (stamp : Stamp)
    (offer : Except Failure Offer) : Answer × Session :=
  match session.supply kind offer with
  | (.error failure, session) => (.value (.error failure) true, session)
  | (.ok value, session) =>
    let session := session.performAfter (session.connection.store key stamp value)
    (.value (.ok (session.showValue value)) true, session.perform [.discard [value]])

/-! ## Calls -/

/-- Finishes a call whose outcome is known. -/
def finishCall (call : Call) (outcome : Except Failure Bytes) : Answer × Session :=
  let (result, works, connection) := call.finish outcome session.connection
  (.ofResult result, session.performAfter (works, connection))

/-- Polls a call: its answer, if it has come to its end. -/
def pollCall (call : RunningCall) : Option Answer × Session :=
  match call.stage with
  | .finished answer => (some answer, session)
  | .awaiting request receipt =>
    match receipt.poll .task session.connection with
    | none => (none, session)
    | some outcome =>
      let (answer, session) := session.finishCall request outcome
      (some answer, session.releaseHandle)
  | .probing probe =>
    match session.connection.measurement? probe with
    | none => (none, session)
    | some (.ok ()) => (some .measured, session)
    | some (.error failure) => (some (.failure failure), session)
  | .computing _ _ _ none => (none, session)
  | .computing key kind stamp (some offer) =>
    let (answer, session) := session.compute key kind stamp offer
    (some answer, session.releaseHandle)

/-- Polls calls one after the other. Those that have come to their end are taken out. -/
def pollCalls : List RunningCall → Session → List FinishedCall × Session
  | [], session => ([], session)
  | call :: rest, session =>
    match session.pollCall call with
    | (none, session) => pollCalls rest session
    | (some answer, session) =>
      let (done, session) := pollCalls rest
        { session with calls := session.calls.filter (·.serial != call.serial) }
      ({ serial := call.serial, name := call.name, answer } :: done, session)

/-! ## Visits -/

/-- Runs user code on the dispatcher. Its handle on the connection is dropped afterwards. -/
def runVisit (visit : Visit) : Session :=
  let caller : Caller := .dispatcher session.connection.name
  let (answer, session) : Answer × Session := match visit with
    | .await call =>
      match session.begin call with
      | (.error failure, session) => session.finishCall call (.error failure)
      | (.ok receipt, session) =>
        match receipt.poll caller session.connection with
        | some outcome => session.finishCall call outcome
        | none => (.pending, session)
    | .block command data =>
      match session.issue command data with
      | (.error failure, session) => (.failure failure, session)
      | (.ok receipt, session) =>
        (((receipt.wait caller session.connection).map .ofOutcome).getD .pending, session)
    | .attach name command data =>
      match session.issue command data with
      | (.error failure, session) => (.failure failure, session)
      | (.ok receipt, session) =>
        (.issued receipt.id, session.addContinuation name receipt .hand false)
  { session with visits := session.visits ++ [answer] }.releaseHandle

/-! ## Tasks -/

/-- The session after so many messages have been taken. -/
def spend (messages : Nat) : Session :=
  { session with allowance := session.allowance - messages }

/-- The writer takes a step. -/
def stepWriter : Session :=
  if !session.engine.writerWork.isEmpty then
    { session with engine := session.engine.performWriter }
  else match session.engine.writer with
    | .receiving => { session.spend 1 with engine := session.engine.take }
    | .writing _ frame =>
      let (result, outlet) := session.outlet.write frame
      { session with engine := session.engine.wrote result, outlet }
    | .closing => { session with engine := session.engine.shut, outlet := session.outlet.close }
    | .draining => { session.spend 1 with engine := session.engine.drain }
    | .exited => session

/-- The reader goes, with the visits that wait and the handles that they hold. -/
def dropInlet : Session :=
  (List.range session.inlet.visits).foldl (fun session _ => session.releaseHandle)
    { session with inlet := .gone }

/-- The dispatcher reads what arrives next, unless its turn is over. Visits belong to the reading:
those in front are run in between, and what follows them is taken in even if one of them has closed
the connection. -/
def receiveFrom : List Arrival → Session → Session
  | [], session => { session with inlet := .packets [] }
  | arrival :: queue, session =>
    if session.allowance = 0 then { session with inlet := .packets (arrival :: queue) }
    else
      let session := { session.spend 1 with inlet := .packets queue }
      match arrival with
      | .reception reception => { session with engine := session.engine.received reception }
      | .visit visit => receiveFrom queue (session.runVisit visit)

/-- The dispatcher reads on in a stream, with the chunks that its turn allows. -/
def receiveStream (limit : Nat) (reader : FrameReader) (bytes : Bytes) (source : Source) :
    Session :=
  let (outcome, reader, left) := reader.read limit (.bytes bytes :: source.take session.allowance)
  let (bytes, left) : Bytes × Source := match left with
    | .bytes bytes :: left => (bytes, left)
    | left => ([], left)
  let rest := left ++ source.drop session.allowance
  let session :=
    { session.spend (source.length - rest.length) with inlet := .stream limit reader bytes rest }
  match outcome.reception? with
  | some reception => { session with engine := session.engine.received reception }
  | none => session

/-- The dispatcher takes a step. It would rather stop than read. -/
def stepDispatcher : Session :=
  if !session.engine.dispatcherWork.isEmpty then
    { session with engine := session.engine.performDispatcher }
  else if !session.reading then session.dropInlet
  else if session.connection.closed then
    { session with engine := session.engine.stopDispatcher }
  else match session.inlet with
    | .packets queue => receiveFrom queue session
    | .stream limit reader bytes source => session.receiveStream limit reader bytes source
    | .gone => session

/-- The flow loop takes a step. It would rather stop than wake up. -/
def stepFlow : Session :=
  { session with
    engine :=
      if !session.engine.flowWork.isEmpty then session.engine.performFlow
      else if session.engine.flowLoop != .waiting then session.engine.advanceFlow
      else if session.connection.closed then session.engine.stopFlow
      else session.engine.wakeFlow }

/-- A continuation whose outcome is there is given to the worker pool. -/
def stepContinuation (serial : Nat) : Session :=
  match session.jobStage? serial with
  | some (.awaiting receipt continuation) =>
    match receipt.poll .task session.connection with
    | some outcome =>
      { session.setJob serial (.queued outcome continuation) with
        pool := session.pool.submit serial }
    | none => session
  | _ => session

/-- A task takes a step. -/
def stepTask : Task → Session
  | .writer => session.stepWriter
  | .dispatcher => session.stepDispatcher
  | .flowLoop => session.stepFlow
  | .continuation serial => session.stepContinuation serial
  | .attendant _ => session

/-- Whether a task has come to the point where it would take a message or wait for one. -/
def wantsMessage : Task → Bool
  | .writer =>
    session.engine.writerWork.isEmpty &&
      (session.engine.writer = .receiving || session.engine.writer = .draining)
  | .dispatcher => session.engine.dispatcherWork.isEmpty && session.reading
  | .flowLoop | .continuation _ | .attendant _ => false

/-- The turn of the first task is over. With the last turn of a round the tasks that rest are
woken. -/
def endTurn : Session :=
  let session := { session with allowance := turnLimit, turns := session.turns + 1 }
  if session.turns < roundLength then session
  else { session with tasks := session.tasks ++ session.resting, resting := [], turns := 0 }

/-- Lets the tasks run until none can go on, for `fuel` steps at most. -/
def runTasksFor : (fuel : Nat) → Session → Session
  | 0, session => session
  | fuel + 1, session =>
    match session.tasks with
    | [] =>
      let session := { session with tasks := session.resting, resting := [], turns := 0 }
      if session.tasks.isEmpty then session else runTasksFor fuel session
    | task :: rest =>
      if session.allowance = 0 && session.wantsMessage task then
        runTasksFor fuel { session with tasks := rest, resting := task :: session.resting }.endTurn
      else if !session.ready task then runTasksFor fuel { session with tasks := rest }.endTurn
      else runTasksFor fuel (session.stepTask task).wake

/-- How many steps there may be: so many for everything that can set something off, once. -/
def effort : Nat :=
  let connection := session.connection
  let clones := connection.leases.live.foldl (fun n lease => n + lease.clones) 0
  64 * (1 + session.inlet.size + connection.outbound.length + connection.pending.length + clones +
    connection.disposals.counts.length + session.jobs.length + session.tasks.length)

/-- Lets the tasks run until none can go on. -/
def runTasks : Session :=
  runTasksFor session.effort session

/-! ## Threads -/

/-- A job has come to its end, and drops its handle on the connection if it has one. -/
def finishJob (serial : Nat) (answer : Answer) : Session :=
  let holdsHandle := session.jobs.any fun job => job.serial == serial && job.holdsHandle
  let session := session.setJob serial (.finished answer)
  if holdsHandle then session.releaseHandle else session

/-- A continuation has come to its end and gives its worker back. -/
def finishContinuation (serial : Nat) (answer : Answer) : Session :=
  let session := session.finishJob serial answer
  { session with pool := (session.pool.finish (· == serial)).2 }

/-- Runs a continuation that has a worker. -/
def runContinuation (serial : Nat) (outcome : Except Failure Bytes) (continuation : Continuation) :
    Session :=
  match continuation with
  | .hand => session.finishContinuation serial (.ofOutcome outcome)
  | .crash message => session.finishContinuation serial (.crashed message)
  | .nest command data =>
    match session.issue command data with
    | (.ok receipt, session) => session.setJob serial (.nested outcome receipt)
    | (.error failure, session) =>
      session.finishContinuation serial (.both outcome (.error failure))

/-- The thread of a job, if it has one, goes on as far as it can. -/
def advanceJob (job : Job) : Session :=
  match job.stage with
  | .awaiting .. | .finished _ => session
  | .waiting receipt =>
    match receipt.wait .thread session.connection with
    | some outcome => session.finishJob job.serial (.ofOutcome outcome)
    | none => session
  | .starting command data =>
    match session.issue command data with
    | (.ok receipt, session) => session.setJob job.serial (.blocked receipt)
    | (.error failure, session) => session.finishJob job.serial (.failure failure)
  | .blocked receipt =>
    match receipt.wait .thread session.connection with
    | some outcome => session.finishJob job.serial (.ofOutcome outcome)
    | none => session
  | .queued outcome continuation =>
    if session.pool.running.contains job.serial then
      session.runContinuation job.serial outcome continuation
    else session
  | .nested outcome receipt =>
    match receipt.wait .thread session.connection with
    | some answer => session.finishContinuation job.serial (.both outcome answer)
    | none => session

/-- Every thread goes on as far as it can, and then the tasks. -/
def advanceJobs : Session :=
  (session.jobs.foldl advanceJob session).runTasks

/-- Lets threads and tasks run until the goal is reached or none can go on. A job has at most three
stages before it finishes, and each round brings at least one job further. -/
def runThreads (goal : Session → Bool) : Session :=
  (List.range (3 * session.jobs.length + 2)).foldl
    (fun session _ => if goal session then session else session.advanceJobs) session

/-- Whether so many packets are written and counted as sent. -/
def hasWritten (packets : Nat) : Bool :=
  session.outlet.writes ≥ packets && session.connection.sent ≥ packets

/-- Whether a job has come to its end. -/
def hasFinished (serial : Nat) : Bool :=
  match session.jobStage? serial with
  | some (.finished _) => true
  | _ => false

/-! ## A whole step -/

/-- Lets tasks run and calls be polled until no call finishes, `rounds` times at most. -/
def settleFor : (rounds : Nat) → Session → List FinishedCall × Session
  | 0, session => ([], session)
  | rounds + 1, session =>
    let session := session.runTasks
    match pollCalls session.calls session with
    | ([], session) => ([], session)
    | (done, session) =>
      let (more, session) := settleFor rounds session
      (done ++ more, session)

/-- Lets tasks run and calls be polled until no call finishes. If packets are waited for, threads
run after that, and then everything again. The calls that have finished are in the order in which
they were started. -/
def settle (packets : Option Nat) : List FinishedCall × Session :=
  let rounds := session.calls.length + 1
  let (done, session) := settleFor rounds session
  let (more, session) := match packets with
    | some packets => settleFor rounds (session.runThreads (·.hasWritten packets))
    | none => ([], session)
  ((done ++ more).mergeSort fun a b => decide (a.serial ≤ b.serial), session)

end DebugLink.Session
