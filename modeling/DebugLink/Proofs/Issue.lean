import DebugLink.Proofs.World

/-!
# Issue: what issuing a command does, written out

`Connection.issue` registers a request, ends the scope if need be, and queues a packet. The
equations below say what comes of it on a dead connection (`issue_of_dead`), on one whose writer
takes messages (`issue_of_open`) and on one whose writer has stopped (`issue_of_closed`).
-/

namespace DebugLink

namespace Connection

variable (connection : Connection) (command : Command) (data : Bytes)

/-- The receipt of the next command. -/
def nextReceipt : Receipt :=
  { connection := connection.name, id := connection.nextId, serial := connection.issued }

/-- The request of the next command. -/
def nextRequest : Request :=
  { id := connection.nextId, serial := connection.issued, command, probes := connection.probes }

/-- The message to the writer for the next command. -/
def nextMessage : Message :=
  .frame connection.nextId
    (CommandPacket.encode ⟨connection.nextId, command.set, command.number, data⟩)

/-- What goes when a command is issued. -/
def evicted : List Work :=
  if command.resumes then [.discard connection.scope.contents] else []

/-- The requests that are still pending under the id of the next command. -/
def replaced : List Request :=
  connection.pending.filter (·.id == connection.nextId)

/-- The connection with the next command registered and its packet not queued. -/
def enrol : Connection :=
  { connection with
    nextId := idAfter connection.nextId
    probes := []
    pending := connection.pending.filter (·.id != connection.nextId) ++
      [connection.nextRequest command]
    scope := if command.resumes then connection.scope.expectResume connection.nextId
      else connection.scope
    outcomes := connection.outcomes ++
      connection.replaced.map fun old => (old.serial, .error .disconnected)
    measurements := connection.measurements ++
      connection.replaced.flatMap fun old => old.probes.map (·, .error .disconnected)
    notices := if command.resumes then connection.notices ++
      [.scopeInvalidated (connection.scope.expectResume connection.nextId).epoch]
      else connection.notices }

/-- The connection with the next command registered and its packet queued. -/
def send : Connection :=
  { connection.enrol command with
    issued := connection.issued + 1
    outbound := connection.outbound ++ [connection.nextMessage command data] }

theorem foldl_settle (old : List Request) (outcome : Except Failure Bytes)
    (measured : Except Failure Unit) :
    old.foldl (fun connection old => connection.settle old outcome measured) connection =
      { connection with
        outcomes := connection.outcomes ++ old.map fun request => (request.serial, outcome)
        measurements := connection.measurements ++
          old.flatMap fun request => request.probes.map (·, measured) } := by
  induction old generalizing connection with
  | nil => simp
  | cons request old ih =>
    rw [List.foldl_cons, ih]
    simp [settle]

theorem register_next :
    register { connection with nextId := idAfter connection.nextId, probes := [] }
      (connection.nextRequest command) =
      { connection with
        nextId := idAfter connection.nextId
        probes := []
        pending := connection.pending.filter (·.id != connection.nextId) ++
          [connection.nextRequest command]
        outcomes := connection.outcomes ++
          connection.replaced.map fun old => (old.serial, .error .disconnected)
        measurements := connection.measurements ++
          connection.replaced.flatMap fun old => old.probes.map (·, .error .disconnected) } := by
  rw [register, foldl_settle]
  rfl

variable {connection command data}

theorem issue_of_dead (dead : connection.dead = true) :
    connection.issue command data = (.error .disconnected, [], connection) := by
  simp [issue, dead]

theorem issue_of_open (live : connection.dead = false) (accepts : connection.outboundOpen = true) :
    connection.issue command data =
      (.ok connection.nextReceipt, connection.evicted command ++ [.countSent],
        connection.send command data) := by
  have registered := register_next connection command
  rw [nextRequest] at registered
  rw [issue, if_neg (by simp [live])]
  simp only [registered]
  cases resumes : command.resumes <;>
    simp [leaveScope, report, accepts, evicted, send, enrol, nextRequest, nextReceipt,
      nextMessage, resumes]

theorem issue_of_closed (live : connection.dead = false)
    (refuses : connection.outboundOpen = false) :
    connection.issue command data =
      (.error .disconnected, connection.evicted command,
        { ((connection.enrol command).take connection.nextId).2 with
          measurements := (connection.enrol command).measurements ++
            connection.probes.map (·, .error .disconnected) }) := by
  have registered := register_next connection command
  rw [nextRequest] at registered
  rw [issue, if_neg (by simp [live])]
  simp only [registered]
  cases resumes : command.resumes <;>
    simp [leaveScope, report, refuses, evicted, take, enrol, nextRequest, resumes]

theorem issueEntries_of_dead (dead : connection.dead = true) :
    connection.issueEntries command data = [] := by
  simp [issueEntries, issue_of_dead dead]

theorem issueEntries_of_open (live : connection.dead = false)
    (accepts : connection.outboundOpen = true) :
    connection.issueEntries command data = [.issued connection.nextReceipt command data] := by
  simp [issueEntries, issue_of_open live accepts]

end Connection

end DebugLink
