import DebugLink.Session.Schedule

/-!
# Session.Act: what the steps of a script do

Each action changes the session at once and has an answer; what it sets off happens afterwards. What
is kept under a name that is taken replaces what was there, which is then dropped.
-/

namespace DebugLink.Session

variable (session : Session)

/-- Does something that needs a handle on the connection. -/
def withHandle (act : Answer × Session) : Answer × Session :=
  if session.handles.isEmpty then (.noConnection, session) else act

/-- Does something with what is kept under a name. -/
def withName {α : Type} (names : Names α) (name : String) (act : α → Answer × Session) :
    Answer × Session :=
  match names.get? name with
  | some value => act value
  | none => (.noSuchName, session)

/-- The debuggee does something to the inlet. Answered is whether anybody still reads. -/
def onInlet (f : Inlet → Inlet) : Answer × Session :=
  if session.reading then (.flag true, { session with inlet := f session.inlet }.wake)
  else (.flag false, session)

/-! ## Commands -/

/-- Issues a command and keeps the receipt. -/
def issueNamed (name : String) (command : Command) (data : Bytes) : Answer × Session :=
  let (issued, session) := session.issue command data
  (.ofIssued issued, match issued with
    | .ok receipt => { session with replies := Names.put session.replies name receipt }
    | .error _ => session)

/-- Polls a reply. Its receipt is used up by an outcome. -/
def awaitNamed (name : String) : Answer × Session :=
  session.withName session.replies name fun receipt =>
    match receipt.poll .task session.connection with
    | some outcome =>
      (.ofOutcome outcome, { session with replies := Names.erase session.replies name })
    | none => (.pending, session)

/-- Uses up a receipt. -/
def consumeReply (name : String) (act : Receipt → Session → Answer × Session) :
    Answer × Session :=
  session.withName session.replies name fun receipt =>
    act receipt { session with replies := Names.erase session.replies name }

/-- The answer of a task that blocks. -/
def blockTask (receipt : Receipt) : Answer :=
  ((receipt.wait .task session.connection).map .ofOutcome).getD .pending

/-- Starts a call. Its command is issued at once; if that fails the call is over. -/
def startCall (name : String) (call : Call) : Session :=
  match session.begin call with
  | (.ok receipt, session) => session.retainHandle.addCall name (.awaiting call receipt)
  | (.error failure, session) =>
    let (answer, session) := session.finishCall call (.error failure)
    session.addCall name (.finished answer)

/-- Waits for a job with everything else running. -/
def join (name : String) : Answer × Session :=
  match Names.get? session.joins name with
  | none => (.noSuchName, session)
  | some serial =>
    let session := session.runThreads (·.hasFinished serial)
    match session.jobStage? serial with
    | some (.finished answer) =>
      (answer, { session with joins := Names.erase session.joins name })
    | _ => (.pending, session)

/-! ## Cached values -/

/-- A value that was found, shown to its user and dropped. -/
def showFound (value : StoredValue) : Answer × Session :=
  (.value (.ok (session.showValue value)) false, session.perform [.discard [value]])

/-- Looks a value up, or computes it at once. -/
def cache (key : String) (kind : ValueKind) (offer : Except Failure Offer) : Answer × Session :=
  match session.connection.lookup key kind with
  | (some value, connection) => (session.withConnection connection).showFound value
  | (none, _) => session.compute key kind session.connection.scope.stamp offer

/-- Looks a value up, or begins to compute it. -/
def beginCache (name key : String) (kind : ValueKind) : Answer × Session :=
  match session.connection.lookup key kind with
  | (some value, connection) =>
    let (answer, session) := (session.withConnection connection).showFound value
    (answer, { session with suppliers := Names.put session.suppliers name session.next,
                            next := session.next + 1 })
  | (none, _) =>
    let stamp := session.connection.scope.stamp
    let serial := session.next
    let session := session.retainHandle.addCall name (.computing key kind stamp none)
    (.computing, { session with suppliers := Names.put session.suppliers name serial })

/-- Offers a value to a computation. Answered is whether it still waited. -/
def endCache (name : String) (offer : Except Failure Offer) : Answer × Session :=
  session.withName session.suppliers name fun serial =>
    let session := { session with suppliers := Names.erase session.suppliers name }
    match session.callStage? serial with
    | some (.computing key kind stamp none) =>
      (.flag true, session.setCall serial (.computing key kind stamp (some offer)))
    | _ => (.flag false, session)

/-! ## Leases -/

/-- Drops a clone of a lease. -/
def dropLease (lease : LeaseId) : Session :=
  session.perform [.release lease]

/-- Keeps a lease under a name. -/
def keepLease (name : String) (lease : LeaseId) : Session :=
  let old := Names.get? session.leases name
  let session := { session with leases := Names.put session.leases name lease }
  match old with
  | some old => session.dropLease old
  | none => session

/-- Acquires a lease, and keeps it or drops it. -/
def acquire (object : ObjectId) (name : Option String) : Answer × Session :=
  match session.connection.acquire object with
  | (none, _) => (.noLease, session)
  | (some lease, connection) =>
    let session := session.withConnection connection
    let retained := ((connection.leases.lease? lease).map (·.retained)).getD 0
    (.lease object retained, match name with
      | some name => session.keepLease name lease
      | none => session.dropLease lease)

/-- Describes a lease. -/
def showLease (lease : LeaseId) : Answer :=
  match session.connection.leases.lease? lease with
  | some lease => .leaseDetails lease.object lease.retained
  | none => .nothing

/-! ## Events -/

/-- The session with its feed changed. -/
def withFeed (feed : EventFeed) : Session :=
  (session.withConnection { session.connection with feed }).wake

/-- Keeps a new subscription under a name. -/
def subscribe (name : String) : Answer × Session :=
  let (id, feed) := session.connection.feed.subscribe
  let feed := match Names.get? session.subscriptions name with
    | some old => feed.drop old
    | none => feed
  (.depth 0,
    { session.withFeed feed with subscriptions := Names.put session.subscriptions name id })

/-- The widths at which a user decodes events. -/
def userSizes : IdSizes :=
  if session.handles.isEmpty then .initial else session.connection.idSizes

/-- A user decodes a batch that it has received. An event of an unknown kind is reported. -/
def decodeBatch (batch : EventBatch) (depth : Nat) : Answer × Session :=
  let events := batch.parse session.userSizes
  (.received { batch, events, depth },
    match events.toOption.bind (·.unknownKind?) with
    | some kind => session.withConnection (session.connection.report (.unsupportedEvent kind))
    | none => session)

/-- Takes the next delivery of a subscription. -/
def receive (id : SubscriptionId) (waiting : Answer) : Answer × Session :=
  let (delivery, feed) := session.connection.feed.receive id session.engine.alive
  let session := session.withFeed feed
  match delivery with
  | some (.events batch) => session.decodeBatch batch (feed.depth id)
  | some .disconnected => (.disconnected, session)
  | none => (if (feed.find? id).any (·.registered) then waiting else .nothing, session)

/-! ## All actions -/

/-- What an action does at once, and what it answers. -/
def act (action : Action) : Answer × Session :=
  match action with
  | .deliver bytes => session.onInlet (.deliver bytes)
  | .hangUp => session.onInlet .finish
  | .failRead failure => session.onInlet (.fail failure)
  | .visit visit =>
    session.withHandle <|
      let session := if session.reading && session.inlet.runsVisits then session.retainHandle
        else session
      session.onInlet (.visit visit)
  | .failWrite failure =>
    (.ok, { session with outlet := session.outlet.failWrite failure })
  | .failClose failure =>
    (.ok, { session with outlet := { session.outlet with closeFailure := some failure } })
  | .stall on => (.ok, { session with outlet := { session.outlet with stalled := on } }.wake)
  | .settle => (.ok, session)
  | .issue name command data => session.withHandle (session.issueNamed name command data)
  | .await name => session.awaitNamed name
  | .wait name =>
    session.consumeReply name fun receipt session => (session.blockTask receipt, session)
  | .dropReply name => session.consumeReply name fun _ session => (.ok, session)
  | .waitOnThread name =>
    session.consumeReply name fun receipt session =>
      (.ok, session.addJob name (.waiting receipt) false)
  | .attach name continuation =>
    session.withHandle <| session.consumeReply name fun receipt session =>
      (.ok, session.addContinuation name receipt continuation true)
  | .blockHere command data =>
    session.withHandle <|
      match session.issue command data with
      | (.error failure, session) => (.failure failure, session)
      | (.ok receipt, session) => (session.blockTask receipt, session)
  | .blockOnThread name command data =>
    session.withHandle (.ok, session.addJob name (.starting command data) true)
  | .join name => session.join name
  | .call name call => session.withHandle (.ok, session.startCall name call)
  | .measure name =>
    session.withHandle <|
      let (probe, connection) := session.connection.probe
      (.ok, (session.withConnection connection).addCall name (.probing probe))
  | .dropCall name =>
    if session.calls.any (·.name == name) then (.ok, session.dropCallsNamed name)
    else (.noSuchName, session)
  | .cache key kind offer => session.withHandle (session.cache key kind offer)
  | .beginCache name key kind => session.withHandle (session.beginCache name key kind)
  | .endCache name offer => session.endCache name offer
  | .noteSuspended =>
    session.withHandle <|
      let session := session.perform [.suspended]
      (.flag session.connection.scope.active, session)
  | .invalidate =>
    session.withHandle (.ok, session.performAfter session.connection.invalidate)
  | .acquire object name => session.withHandle (session.acquire object name)
  | .cloneLease name copy =>
    session.withName session.leases name fun lease =>
      (.ok, (session.withConnection (session.connection.cloneAll [lease])).keepLease copy lease)
  | .dropLease name =>
    session.withName session.leases name fun lease =>
      (.ok, { session with leases := Names.erase session.leases name }.dropLease lease)
  | .showLease name => session.withName session.leases name fun lease =>
      (session.showLease lease, session)
  | .sameLease a b =>
    session.withName session.leases a fun first => session.withName session.leases b fun second =>
      (.flag (first == second), session)
  | .flush => session.withHandle (.ok, session.perform [.flush])
  | .setIdSizes sizes =>
    session.withHandle <|
      match sizes with
      | .ok idSizes =>
        (.idSizes idSizes, session.withConnection { session.connection with idSizes })
      | .error fault => (.failure (.wireFormat fault), session)
  | .idSizes => session.withHandle (.idSizes session.connection.idSizes, session)
  | .subscribe name => session.withHandle (session.subscribe name)
  | .receive name => session.withName session.subscriptions name (session.receive · .pending)
  | .tryReceive name => session.withName session.subscriptions name (session.receive · .nothing)
  | .depth name =>
    session.withName session.subscriptions name fun id =>
      (.depth (session.connection.feed.depth id), session)
  | .dropSubscription name =>
    session.withName session.subscriptions name fun id =>
      (.ok, { session.withFeed (session.connection.feed.drop id) with
              subscriptions := Names.erase session.subscriptions name })
  | .hold => (.ok, { session with engine := session.engine.updateFlow .hold }.wake)
  | .release => (.ok, { session with engine := session.engine.updateFlow .release }.wake)
  | .cloneHandle name =>
    session.withHandle <|
      if session.handles.contains name then (.ok, session)
      else (.ok, { session.retainHandle with handles := session.handles ++ [name] })
  | .dropHandle name =>
    if session.handles.contains name then
      (.ok, { session with handles := session.handles.filter (· != name) }.releaseHandle)
    else (.noSuchName, session)
  | .close => session.withHandle (.ok, session.perform [.close])
  | .describe => session.withHandle (.text session.connection.describe, session)
  | .unknown => session.withHandle (.unknownAction, session)

end DebugLink.Session
