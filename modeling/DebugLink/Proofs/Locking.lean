import DebugLink.Proofs.Issue

/-!
# Locking: what a call chain locks

The requests, the scope and the leases of a connection are behind one lock and the batch of
disposals is behind another. Neither lets in who holds it already. A cached value may own the last
clones of leases, and who drops it reclaims them, queues what they retained, sends the batch if it
is full, and for that issues a command: each of these takes a lock. So whoever drops a value under a
lock may be locked out for good (`hasty_locked_out`).

A `Program` is what a routine does step by step, with every lock that it takes and every value that
it drops, and `Routine.body` has one for each routine. A `Chain` performs programs that call each
other. It holds the locks as flags, and others may change the connection between any two of its
steps.

* Every program takes a lock only while it holds none, and gives it back before it calls anything
  (`Routine.sound_body`).
* The calls end, because each goes to a routine of a lower `Routine.rank`. A command may drop values
  and a value may cause a command, but that one only disposes of objects: it drops nothing.
* A chain that nobody comes in between does what `Connection.run` makes of the same pieces of work
  (`Routine.effect_body`).

Main statement: `Routine.never_locked_out`.
-/

namespace DebugLink

/-- The locks of a connection. -/
inductive Lock
  /-- Over the requests, the scope and the leases. -/
  | state
  /-- Over the batch of disposals. -/
  | disposals
  deriving DecidableEq, Repr

/-- Something that can be called. -/
inductive Routine
  | issue (command : Command) (data : Bytes)
  | replied (reply : ReplyPacket)
  | abandon (id : UInt32) (failure : Failure)
  | invalidate
  | store (key : String) (stamp : Stamp) (value : StoredValue)
  /-- Cached values are dropped. -/
  | discard (values : List StoredValue)
  /-- A clone of a lease is dropped. -/
  | release (lease : LeaseId)
  | reclaim (object : ObjectId) (retained : UInt32)
  | flush
  | disconnect
  | close
  /-- Whatever is done in one go under a lock: a suspension is noted, a value is looked up, a lease
  is acquired, a probe is added, something is counted. -/
  | visit (lock : Lock) (change : Connection → Connection)

/-- What a routine does, step by step. -/
inductive Program
  | done
  | lock (lock : Lock) (next : Program)
  | unlock (lock : Lock) (next : Program)
  /-- Changes the connection, and goes on by what it was before. -/
  | act (change : Connection → Connection) (next : Connection → Program)
  | call (routine : Routine) (next : Program)

/-- The values that go if the scope ends, if there is anything to invalidate. -/
def Scope.lapsing {α : Type} (scope : Scope α) : Option (List α) :=
  if scope.dormant then none else some scope.contents

/-- Queues the packet of a request. If the writer takes no messages any more, the request is
withdrawn. -/
def Connection.post (request : Request) (data : Bytes) (connection : Connection) : Connection :=
  if connection.outboundOpen then
    let packet : CommandPacket :=
      ⟨request.id, request.command.set, request.command.number, data⟩
    { connection with
      issued := connection.issued + 1
      outbound := connection.outbound ++ [.frame request.id packet.encode] }
  else
    let connection := (connection.take request.id).2
    { connection with
      measurements := connection.measurements ++
        request.probes.map (·, .error .disconnected) }

/-! ## The routines -/

namespace Program

/-- Looks at the connection. -/
def look (next : Connection → Program) : Program :=
  .act id next

/-- Changes the connection several times. -/
def acts (changes : List (Connection → Connection)) (next : Program) : Program :=
  changes.foldr (fun change next => .act change fun _ => next) next

/-- Calls one routine after the other. -/
def calls (routines : List Routine) (next : Program) : Program :=
  routines.foldr .call next

/-- Drops values that were evicted, if any were. -/
def drop (evicted : Option (List StoredValue)) (next : Program) : Program :=
  match evicted with
  | some values => .call (.discard values) next
  | none => next

/-- The last part of issuing a command: its request is registered, and values may be evicted. They
are dropped when the lock is given back. -/
def send (request : Request) (data : Bytes) (evicted : Option (List StoredValue)) : Program :=
  .act (·.post request data) fun connection =>
    .unlock .state <| drop evicted <|
      if connection.outboundOpen then acts [fun c => { c with sent := c.sent + 1 }] .done else .done

/-- The request is registered before its packet can be written, and the packet is queued under the
same lock, so that packets are written in the order of their ids. -/
def issue (command : Command) (data : Bytes) : Program :=
  .lock .state <| look fun connection =>
    if connection.dead then .unlock .state .done
    else
      let request : Request :=
        { id := connection.nextId, serial := connection.issued, command,
          probes := connection.probes }
      acts [fun c => { c with nextId := Connection.idAfter c.nextId, probes := [] },
          (·.register request)] <|
        if command.resumes then
          .act (·.leaveScope request.id |>.2) fun connection =>
            send request data (some connection.scope.contents)
        else send request data none

def replied (reply : ReplyPacket) : Program :=
  .lock .state <| .act (·.take reply.id |>.2) fun connection =>
    .unlock .state <|
      match connection.request? reply.id with
      | some request => acts [(·.settle request reply.result (.ok ()))] (.call .flush .done)
      | none => acts [(·.report (.unknownReply reply.id))] (.call .flush .done)

def abandon (id : UInt32) (failure : Failure) : Program :=
  .lock .state <| .act (·.take id |>.2) fun connection =>
    .unlock .state <|
      match connection.request? id with
      | some request => acts [(·.settle request (.error failure) (.error .disconnected))] .done
      | none => .done

def invalidate : Program :=
  .lock .state <| .act (·.invalidate.2) fun connection =>
    .unlock .state <| drop connection.scope.lapsing .done

/-- What is dropped is the value that was replaced, or the one that came too late. -/
def store (key : String) (stamp : Stamp) (value : StoredValue) : Program :=
  .lock .state <| .act (·.store key stamp value |>.2) fun connection =>
    .unlock .state <| .call (.discard (connection.scope.store key stamp value).1) .done

def discard (values : List StoredValue) : Program :=
  calls ((values.flatMap StoredValue.owned).map .release) .done

/-- Clones are counted without a lock. -/
def release (lease : LeaseId) : Program :=
  .act (fun c => { c with leases := (c.leases.drop lease).2 }) fun connection =>
    match (connection.leases.drop lease).1 with
    | some gone => .call (.reclaim gone.object gone.retained) .done
    | none => .done

def reclaim (object : ObjectId) (retained : UInt32) : Program :=
  .lock .state <|
    .act (fun c => { c with leases := c.leases.prune object }) fun connection =>
    .unlock .state <|
      if connection.dead ∨ connection.shuttingDown then .done
      else
        .lock .disposals <|
          .act (fun c => { c with disposals := c.disposals.push object retained }) fun connection =>
          .unlock .disposals <|
            if (connection.disposals.push object retained).isFull then .call .flush .done
            else .done

/-- The batch is taken under its own lock, and the widths are read under the other. -/
def flush : Program :=
  .lock .disposals <| look fun connection =>
    if connection.disposals.counts.isEmpty then .unlock .disposals .done
    else
      .act (fun c => { c with disposals := c.disposals.clear }) fun before =>
      .unlock .disposals <| .lock .state <| look fun connection =>
        .unlock .state <|
          if connection.shuttingDown ∨ connection.dead then .done
          else
            .call (.issue .disposeObjects
              (disposePayload connection.idSizes.object before.disposals.counts)) .done

/-- The last part of a disconnect, which holds no lock but that of the batch for a moment: what was
pending fails, and the connection is marked as closed. -/
def farewell (requests : List Request) : Program :=
  acts (requests.map fun request =>
    (·.settle request (.error .disconnected) (.error .disconnected))) <|
  .lock .disposals <| acts [fun c => { c with disposals := c.disposals.clear }] <|
  .unlock .disposals <|
    acts [fun c => { c with feed := c.feed.close }, fun c => { c with closed := true },
      fun c => { c with
        outbound := if c.outboundOpen then c.outbound ++ [.close] else c.outbound }] .done

/-- Everything is taken out under the lock. Values are dropped and requests fail after it. -/
def disconnect : Program :=
  .lock .state <| look fun connection =>
    if connection.dead then .unlock .state .done
    else
      acts [fun c => { c with dead := true },
          fun c => { c with leases := c.leases.clear },
          fun c => { c with
            measurements := c.measurements ++ c.probes.map (·, .error .disconnected)
            probes := [] }] <|
        .act (fun c => { c with pending := [] }) fun before =>
        acts [fun c => { c with scope := { c.scope with resumes := [] } }] <|
        .act (·.invalidate.2) fun connection =>
        .unlock .state <| drop connection.scope.lapsing <| farewell before.pending

def close : Program :=
  .lock .state <| look fun connection =>
    if connection.dead then .unlock .state .done
    else
      acts [fun c => { c with shuttingDown := true }] <|
        .unlock .state <| .call .disconnect .done

end Program

namespace Routine

/-- What a routine does. -/
def body : Routine → Program
  | issue command data => .issue command data
  | replied reply => .replied reply
  | abandon id failure => .abandon id failure
  | invalidate => .invalidate
  | store key stamp value => .store key stamp value
  | discard values => .discard values
  | release lease => .release lease
  | reclaim object retained => .reclaim object retained
  | flush => .flush
  | disconnect => .disconnect
  | close => .close
  | visit lock change => .lock lock (.act change fun _ => .unlock lock .done)

end Routine

/-! ## Chains of calls -/

/-- Which locks a chain holds. -/
structure Locks where
  state : Bool := false
  disposals : Bool := false
  deriving DecidableEq, Repr

namespace Locks

def has (held : Locks) : Lock → Bool
  | .state => held.state
  | .disposals => held.disposals

def set (held : Locks) (value : Bool) : Lock → Locks
  | .state => { held with state := value }
  | .disposals => { held with disposals := value }

end Locks

/-- Programs that have called each other, the last first, and the locks that they hold. -/
structure Chain where
  held : Locks := {}
  stack : List Program

namespace Chain

/-- A routine is called. -/
def start (routine : Routine) : Chain where
  stack := [routine.body]

/-- All calls have ended and no lock is held. -/
def ended : Chain where
  stack := []

/-- The lock that a chain requests next. -/
def requests? (chain : Chain) : Option Lock :=
  match chain.stack with
  | .lock lock _ :: _ => some lock
  | _ => none

/-- The next step. A chain that requests a lock that it holds is stuck. -/
def step (chain : Chain) (connection : Connection) : Chain × Connection :=
  match chain.stack with
  | [] => (chain, connection)
  | .done :: rest => (⟨chain.held, rest⟩, connection)
  | .lock lock next :: rest =>
    if chain.held.has lock then (chain, connection)
    else (⟨chain.held.set true lock, next :: rest⟩, connection)
  | .unlock lock next :: rest => (⟨chain.held.set false lock, next :: rest⟩, connection)
  | .act change next :: rest => (⟨chain.held, next connection :: rest⟩, change connection)
  | .call routine next :: rest => (⟨chain.held, routine.body :: next :: rest⟩, connection)

/-- So many steps. Before each of them others change the connection. -/
def run (others : Nat → Connection → Connection) (chain : Chain) (connection : Connection) :
    Nat → Chain × Connection
  | 0 => (chain, connection)
  | n + 1 =>
    let before := run others chain connection n
    before.1.step (others n before.2)

end Chain

/-! ## No lock is requested under a lock -/

namespace Routine

/-- Where a routine stands among those that call each other. -/
def rank : Routine → Nat
  | issue command _ => if command.resumes then 5 else 0
  | visit .. | abandon .. => 0
  | flush => 1
  | reclaim .. | replied _ => 2
  | release _ => 3
  | discard _ => 4
  | invalidate | store .. | disconnect => 5
  | close => 6

theorem rank_le (routine : Routine) : routine.rank ≤ 6 := by
  cases routine with
  | issue command data =>
    rw [rank]
    split <;> decide
  | _ => simp only [rank]; omega

end Routine

namespace Program

/-- With these locks held the program requests a lock only if it holds none, calls only routines of
a lower rank and only if it holds none, and ends with none. -/
def Sound (rank : Nat) : Program → Locks → Prop
  | .done, held => held = {}
  | .lock l next, held => held = {} ∧ next.Sound rank (held.set true l)
  | .unlock l next, held => held.has l = true ∧ next.Sound rank (held.set false l)
  | .act _ next, held => ∀ connection, (next connection).Sound rank held
  | .call routine next, held => held = {} ∧ routine.rank < rank ∧ next.Sound rank held

variable {rank : Nat} {next : Program} {held : Locks}

@[simp]
theorem sound_act {change : Connection → Connection} {next : Connection → Program} :
    (Program.act change next).Sound rank held ↔ ∀ connection, (next connection).Sound rank held :=
  Iff.rfl

@[simp]
theorem sound_acts {changes : List (Connection → Connection)} :
    (acts changes next).Sound rank held ↔ next.Sound rank held := by
  induction changes with
  | nil => rfl
  | cons change changes ih =>
    exact ⟨fun sound => ih.mp (sound (.ofConfig {})), fun sound _ => ih.mpr sound⟩

theorem sound_calls {routines : List Routine} (below : ∀ r ∈ routines, r.rank < rank)
    (sound : next.Sound rank {}) : (calls routines next).Sound rank {} := by
  induction routines with
  | nil => exact sound
  | cons routine routines ih =>
    obtain ⟨first, others⟩ := List.forall_mem_cons.mp below
    exact ⟨rfl, first, ih others⟩

theorem sound_drop {evicted : Option (List StoredValue)} (above : evicted.isSome → 4 < rank)
    (sound : next.Sound rank {}) : (drop evicted next).Sound rank {} := by
  cases evicted with
  | none => exact sound
  | some values => exact ⟨rfl, above rfl, sound⟩

theorem sound_done : Program.done.Sound rank {} :=
  rfl

theorem sound_ite {condition : Prop} [Decidable condition] {first second : Program}
    (pos : condition → first.Sound rank held) (neg : ¬condition → second.Sound rank held) :
    (if condition then first else second).Sound rank held := by
  split
  · exact pos ‹_›
  · exact neg ‹_›

theorem sound_send {request : Request} {data : Bytes} {evicted : Option (List StoredValue)}
    (above : evicted.isSome → 4 < rank) :
    (send request data evicted).Sound rank { state := true } :=
  fun _ => ⟨rfl, sound_drop above
    (sound_ite (fun _ => sound_acts.mpr sound_done) fun _ => sound_done)⟩

theorem sound_issue (command : Command) (data : Bytes) :
    (issue command data).Sound (Routine.issue command data).rank {} := by
  refine ⟨rfl, fun connection => sound_ite (fun _ => ⟨rfl, sound_done⟩) fun _ => ?_⟩
  refine sound_acts.mpr (sound_ite (fun resumes => ?_) fun _ => sound_send nofun)
  exact fun _ => sound_send fun _ => by simp [Routine.rank, resumes]

theorem sound_replied (reply : ReplyPacket) : (replied reply).Sound 2 {} := by
  refine ⟨rfl, fun connection => ⟨rfl, ?_⟩⟩
  split <;> exact sound_acts.mpr ⟨rfl, Nat.one_lt_two, sound_done⟩

theorem sound_abandon (id : UInt32) (failure : Failure) : (abandon id failure).Sound 0 {} := by
  refine ⟨rfl, fun connection => ⟨rfl, ?_⟩⟩
  split
  · exact sound_acts.mpr sound_done
  · exact sound_done

theorem sound_invalidate : invalidate.Sound 5 {} :=
  ⟨rfl, fun _ => ⟨rfl, sound_drop (fun _ => Nat.lt_succ_self 4) sound_done⟩⟩

theorem sound_store (key : String) (stamp : Stamp) (value : StoredValue) :
    (store key stamp value).Sound 5 {} :=
  ⟨rfl, fun _ => ⟨rfl, rfl, Nat.lt_succ_self 4, sound_done⟩⟩

theorem sound_discard (values : List StoredValue) : (discard values).Sound 4 {} := by
  refine sound_calls (fun routine mem => ?_) sound_done
  obtain ⟨lease, -, rfl⟩ := List.mem_map.mp mem
  exact Nat.lt_succ_self 3

theorem sound_release (lease : LeaseId) : (release lease).Sound 3 {} := by
  intro connection
  dsimp only
  split
  · exact ⟨rfl, Nat.lt_succ_self 2, sound_done⟩
  · exact sound_done

theorem sound_reclaim (object : ObjectId) (retained : UInt32) :
    (reclaim object retained).Sound 2 {} := by
  refine ⟨rfl, fun _ => ⟨rfl, sound_ite (fun _ => sound_done) fun _ => ⟨rfl, fun _ => ⟨rfl, ?_⟩⟩⟩⟩
  exact sound_ite (fun _ => ⟨rfl, Nat.one_lt_two, sound_done⟩) fun _ => sound_done

theorem sound_flush : flush.Sound 1 {} := by
  refine ⟨rfl, fun _ => sound_ite (fun _ => ⟨rfl, sound_done⟩) fun _ _ => ⟨rfl, rfl, fun _ => ?_⟩⟩
  exact ⟨rfl, sound_ite (fun _ => sound_done) fun _ => ⟨rfl, Nat.zero_lt_one, sound_done⟩⟩

theorem sound_farewell (requests : List Request) : (farewell requests).Sound rank {} :=
  sound_acts.mpr ⟨rfl, sound_acts.mpr ⟨rfl, sound_acts.mpr sound_done⟩⟩

theorem sound_disconnect : disconnect.Sound 5 {} := by
  refine ⟨rfl, fun _ => sound_ite (fun _ => ⟨rfl, sound_done⟩) fun _ => sound_acts.mpr ?_⟩
  refine fun before => sound_acts.mpr fun connection => ⟨rfl, ?_⟩
  exact sound_drop (fun _ => Nat.lt_succ_self 4) (sound_farewell before.pending)

theorem sound_close : close.Sound 6 {} := by
  refine ⟨rfl, fun _ => sound_ite (fun _ => ⟨rfl, sound_done⟩) fun _ => sound_acts.mpr ⟨rfl, ?_⟩⟩
  exact ⟨rfl, Nat.lt_succ_self 5, sound_done⟩

end Program

/-- Every routine keeps the order: locks one at a time, calls to lower routines without a lock. -/
theorem Routine.sound_body (routine : Routine) : routine.body.Sound routine.rank {} := by
  cases routine with
  | issue command data => exact Program.sound_issue command data
  | replied reply => exact Program.sound_replied reply
  | abandon id failure => exact Program.sound_abandon id failure
  | invalidate => exact Program.sound_invalidate
  | store key stamp value => exact Program.sound_store key stamp value
  | discard values => exact Program.sound_discard values
  | release lease => exact Program.sound_release lease
  | reclaim object retained => exact Program.sound_reclaim object retained
  | flush => exact Program.sound_flush
  | disconnect => exact Program.sound_disconnect
  | close => exact Program.sound_close
  | visit lock change => cases lock <;> exact ⟨rfl, fun _ => ⟨rfl, rfl⟩⟩

/-- Programs that wait for those that they have called: each has a rank of its own, above those of
all that are on top of it. -/
inductive Layered : Nat → List Program → Prop
  | nil {rank : Nat} (low : rank ≤ 6) : Layered rank []
  | cons {rank above : Nat} {program : Program} {rest : List Program} (higher : rank < above)
      (sound : program.Sound above {}) (below : Layered above rest) : Layered rank (program :: rest)

theorem Layered.add_length_le {rank : Nat} {stack : List Program} (layered : Layered rank stack) :
    rank + stack.length ≤ 6 := by
  induction layered with
  | nil low => exact low
  | cons higher sound below ih => rw [List.length_cons]; omega

namespace Chain

/-- The program on top keeps the order with the locks that are held, and the others hold none. -/
inductive Sound : Chain → Prop
  | ended : Sound ended
  | going {held : Locks} {rank : Nat} {program : Program} {rest : List Program}
      (sound : program.Sound rank held) (below : Layered rank rest) : Sound ⟨held, program :: rest⟩

namespace Sound

variable {chain : Chain}

theorem start (routine : Routine) : (start routine).Sound :=
  going routine.sound_body (.nil routine.rank_le)

/-- What waits goes on once what it has called has ended. -/
theorem resume {rank : Nat} {rest : List Program} (below : Layered rank rest) :
    Sound ⟨{}, rest⟩ := by
  cases below with
  | nil => exact ended
  | cons higher sound below => exact going sound below

theorem step (sound : chain.Sound) (connection : Connection) :
    (chain.step connection).1.Sound := by
  cases sound with
  | ended => exact ended
  | @going held rank program rest sound below =>
    cases program with
    | done =>
      obtain rfl : held = {} := sound
      exact resume below
    | lock l next =>
      obtain ⟨rfl, sound⟩ := sound
      cases l <;> exact going sound below
    | unlock l next => exact going sound.2 below
    | act change next => exact going (sound connection) below
    | call routine next =>
      -- The program that calls is the first of those that wait.
      obtain ⟨rfl, lower, sound⟩ := sound
      exact going routine.sound_body (.cons lower sound below)

theorem run (sound : chain.Sound) (others : Nat → Connection → Connection)
    (connection : Connection) (n : Nat) : (chain.run others connection n).1.Sound := by
  induction n with
  | zero => exact sound
  | succ n ih => exact ih.step _

/-- Who requests a lock holds none. -/
theorem held_of_requests (sound : chain.Sound) {lock : Lock}
    (requests : chain.requests? = some lock) : chain.held = {} := by
  cases sound with
  | ended => rfl
  | @going held rank program rest sound below =>
    cases program with
    | lock l next => exact sound.1
    | _ => cases requests

/-- However many values are dropped, the calls are not nested more deeply than that. -/
theorem length_le (sound : chain.Sound) : chain.stack.length ≤ 7 := by
  cases sound with
  | ended => exact Nat.zero_le 7
  | @going held rank program rest sound below =>
    have := below.add_length_le
    simp only [List.length_cons]
    omega

theorem eq_ended (sound : chain.Sound) (empty : chain.stack = []) : chain = .ended := by
  cases sound with
  | ended => rfl
  | going sound below => cases empty

end Sound

end Chain

/-! ## The calls end -/

namespace Chain

/-- A chain that goes on comes to be another, whatever the connection is. -/
def Later (later earlier : Chain) : Prop :=
  earlier.stack ≠ [] ∧ ∃ connection, later = (earlier.step connection).1

/-- The chain ends, whatever others do to the connection. -/
def Ends (chain : Chain) : Prop :=
  Acc Later chain

theorem Ends.of_step {chain : Chain} (next : ∀ connection, (chain.step connection).1.Ends) :
    chain.Ends := by
  refine Acc.intro chain ?_
  rintro later ⟨-, connection, rfl⟩
  exact next connection

theorem ends_ended : ended.Ends :=
  .of_step fun _ => Acc.intro _ fun _ later => absurd rfl later.1

/-- A program ends if what it may call does. -/
theorem ends_of_sound {rank : Nat}
    (called : ∀ routine : Routine, routine.rank < rank → ∀ rest, Ends ⟨{}, rest⟩ →
      Ends ⟨{}, routine.body :: rest⟩)
    {rest : List Program} (after : Ends ⟨{}, rest⟩) (program : Program) {held : Locks}
    (sound : program.Sound rank held) : Ends ⟨held, program :: rest⟩ := by
  -- By induction on what is left of the program. A call ends before what comes after it goes on.
  refine .of_step fun connection => ?_
  induction program generalizing held connection with
  | done =>
    obtain rfl : held = {} := sound
    exact after
  | lock l next ih =>
    obtain ⟨rfl, sound⟩ := sound
    cases l <;> exact .of_step (ih sound)
  | unlock l next ih => exact .of_step (ih sound.2)
  | act change next ih => exact .of_step (ih connection (sound connection))
  | call routine next ih =>
    obtain ⟨rfl, lower, sound⟩ := sound
    exact called routine lower (next :: rest) (.of_step (ih sound))

theorem ends_body (routine : Routine) (rest : List Program) (after : Ends ⟨{}, rest⟩) :
    Ends ⟨{}, routine.body :: rest⟩ := by
  -- By induction on the rank: a routine calls only lower ones.
  induction rank : routine.rank using Nat.strongRecOn generalizing routine rest with
  | ind n ih =>
    subst rank
    exact ends_of_sound (fun called lower rest after => ih _ lower called rest after rfl) after _
      routine.sound_body

/-- The first step and then the others. -/
theorem run_succ (others : Nat → Connection → Connection) (chain : Chain) (connection : Connection)
    (n : Nat) :
    chain.run others connection (n + 1) =
      (chain.step (others 0 connection)).1.run (fun i => others (i + 1))
        (chain.step (others 0 connection)).2 n := by
  induction n with
  | zero => rfl
  | succ n ih => rw [run, ih]; rfl

theorem Ends.exists_run {chain : Chain} (ends : chain.Ends)
    (others : Nat → Connection → Connection) (connection : Connection) :
    ∃ n, (chain.run others connection n).1.stack = [] := by
  induction ends generalizing others connection with
  | intro chain _ ih =>
    by_cases empty : chain.stack = []
    · exact ⟨0, empty⟩
    · obtain ⟨n, last⟩ := ih _ ⟨empty, others 0 connection, rfl⟩ (fun i => others (i + 1))
        (chain.step (others 0 connection)).2
      exact ⟨n + 1, by rw [run_succ]; exact last⟩

end Chain

/-! ## What comes of it -/

namespace Routine

/-- What a routine comes to, told by the pieces of work that it is made of. -/
def outcome : Routine → Connection → Connection
  | issue command data, connection =>
    (connection.issue command data).2.2.run (connection.issue command data).2.1
  | replied reply, connection => connection.run [.replied reply]
  | abandon id failure, connection => connection.run [.abandon id failure]
  | invalidate, connection => connection.invalidate.2.run connection.invalidate.1
  | store key stamp value, connection =>
    (connection.store key stamp value).2.run (connection.store key stamp value).1
  | discard values, connection => connection.run [.discard values]
  | release lease, connection => connection.run [.release lease]
  | reclaim object retained, connection => connection.run [.reclaim object retained]
  | flush, connection => connection.run [.flush]
  | disconnect, connection => connection.run [.disconnect]
  | close, connection => connection.run [.close]
  | visit _ change, connection => change connection

end Routine

namespace Program

/-- What a program comes to, if what it calls comes to its outcome. -/
def effect : Program → Connection → Connection
  | .done, connection => connection
  | .lock _ next, connection => next.effect connection
  | .unlock _ next, connection => next.effect connection
  | .act change next, connection => (next connection).effect (change connection)
  | .call routine next, connection => next.effect (routine.outcome connection)

variable {connection : Connection} {next : Program}

theorem effect_acts (changes : List (Connection → Connection)) :
    (acts changes next).effect connection =
      next.effect (changes.foldl (fun connection change => change connection) connection) := by
  induction changes generalizing connection with
  | nil => rfl
  | cons change changes ih => exact ih

theorem effect_drop (values : Option (List StoredValue)) :
    (drop values next).effect connection =
      next.effect (connection.run (values.map Work.discard).toList) := by
  cases values with
  | none => rw [Option.map_none, Option.toList_none, Connection.run_nil]; rfl
  | some values => rfl

theorem effect_send (request : Request) (data : Bytes) (values : Option (List StoredValue)) :
    (send request data values).effect connection =
      (connection.post request data).run ((values.map Work.discard).toList ++
        if connection.outboundOpen then [.countSent] else []) := by
  have dropped := @effect_drop (connection.post request data)
    (if connection.outboundOpen then acts [fun c => { c with sent := c.sent + 1 }] .done
      else .done) values
  refine dropped.trans ?_
  rw [Connection.run_append]
  split
  · exact (@Connection.run_singleton_of_quiet .countSent _ rfl).symm
  · exact (Connection.run_nil _).symm

theorem effect_calls (routines : List Routine) :
    (calls routines next).effect connection =
      next.effect (routines.foldl (fun connection routine => routine.outcome connection)
        connection) := by
  induction routines generalizing connection with
  | nil => rfl
  | cons routine routines ih => exact ih

theorem effect_ite {condition : Prop} [Decidable condition] (first second : Program) :
    (if condition then first else second).effect connection =
      if condition then first.effect connection else second.effect connection := by
  split <;> rfl

theorem effect_issue_of_live (live : connection.dead = false) (command : Command) (data : Bytes) :
    (issue command data).effect connection =
      ((connection.enrol command).post (connection.nextRequest command) data).run
        (connection.evicted command ++ if connection.outboundOpen then [.countSent] else []) := by
  rw [issue, look]
  simp only [effect, id]
  rw [if_neg (by simp [live]), effect_acts]
  refine (congrArg (effect _) (connection.register_next command)).trans ?_
  rw [effect_ite, Connection.evicted]
  split
  · next resumes =>
    rw [effect, effect_send]
    simp only [Connection.enrol, resumes, if_true]
    rfl
  · next stays =>
    rw [effect_send]
    simp only [Connection.enrol, stays]
    rfl

theorem effect_issue (command : Command) (data : Bytes) :
    (issue command data).effect connection =
      (Routine.issue command data).outcome connection := by
  rw [Routine.outcome]
  rcases connection.dead.eq_false_or_eq_true with dead | live
  · rw [Connection.issue_of_dead dead, Connection.run_nil]
    simp only [issue, look, effect, id, dead, if_true]
  · rw [effect_issue_of_live live]
    rcases connection.outboundOpen.eq_false_or_eq_true with accepts | refuses
    · have posted : (connection.enrol command).post (connection.nextRequest command) data =
          connection.send command data := if_pos accepts
      rw [Connection.issue_of_open live accepts, if_pos accepts, posted]
    · have posted : (connection.enrol command).post (connection.nextRequest command) data =
          { ((connection.enrol command).take connection.nextId).2 with
            measurements := (connection.enrol command).measurements ++
              connection.probes.map (·, .error .disconnected) } :=
        if_neg (by rw [Connection.enrol, refuses]; exact Bool.false_ne_true)
      rw [Connection.issue_of_closed live refuses, if_neg (by simp [refuses]), List.append_nil,
        posted]

theorem effect_replied (reply : ReplyPacket) :
    (replied reply).effect connection = (Routine.replied reply).outcome connection := by
  rw [Routine.outcome, Connection.run_cons, List.append_nil, Connection.perform,
    Connection.replied, replied]
  simp only [effect, Connection.take]
  cases connection.request? reply.id with
  | none => rfl
  | some request => exact (Connection.run_cons (.resolve request reply) [.flush] _).symm

theorem effect_abandon (id : UInt32) (failure : Failure) :
    (abandon id failure).effect connection = (Routine.abandon id failure).outcome connection := by
  rw [Routine.outcome, Connection.run_cons, Connection.perform, abandon]
  simp only [effect, Connection.take]
  cases connection.request? id with
  | none => exact (Connection.run_nil _).symm
  | some request => exact (@Connection.run_singleton_of_quiet (.fail request failure) _ rfl).symm

theorem effect_lapse (next : Program) :
    (drop connection.scope.lapsing next).effect connection.invalidate.2 =
      next.effect (connection.invalidate.2.run connection.invalidate.1) := by
  rw [effect_drop, Scope.lapsing, Connection.invalidate]
  split <;> rfl

theorem effect_invalidate :
    invalidate.effect connection = Routine.invalidate.outcome connection :=
  effect_lapse .done

theorem effect_discard (values : List StoredValue) :
    (discard values).effect connection = (Routine.discard values).outcome connection := by
  rw [Routine.outcome, Connection.run_cons, List.append_nil, Connection.perform, discard,
    effect_calls]
  generalize values.flatMap StoredValue.owned = leases
  induction leases generalizing connection with
  | nil => exact (Connection.run_nil connection).symm
  | cons lease leases ih =>
    rw [List.map_cons, List.map_cons, List.foldl_cons, ih]
    exact (Connection.run_append [.release lease] _ connection).symm

theorem effect_release (lease : LeaseId) :
    (release lease).effect connection = (Routine.release lease).outcome connection := by
  rw [Routine.outcome, Connection.run_cons, Connection.perform, release]
  simp only [effect]
  rcases connection.leases.drop lease with ⟨_ | gone, leases⟩
  · exact (Connection.run_nil _).symm
  · rfl

theorem effect_reclaim (object : ObjectId) (retained : UInt32) :
    (reclaim object retained).effect connection =
      (Routine.reclaim object retained).outcome connection := by
  rw [Routine.outcome, Connection.run_cons, Connection.perform, Connection.reclaim, reclaim]
  simp only [effect, effect_ite]
  split
  · exact (Connection.run_nil _).symm
  · rw [List.append_nil, Connection.run_cons, Connection.perform]
    simp only
    split
    · rfl
    · exact (Connection.run_nil _).symm

theorem effect_flush : flush.effect connection = Routine.flush.outcome connection := by
  rw [Routine.outcome, Connection.run_cons, List.append_nil, Connection.perform, flush, look]
  simp only [effect, effect_ite, id]
  split
  · exact (Connection.run_nil _).symm
  · rw [Connection.run_cons, List.append_nil, Connection.perform]
    simp only [look, effect, effect_ite, id]
    split
    · exact (Connection.run_nil _).symm
    · exact ((Connection.run_cons ..).trans (by rw [List.append_nil]; rfl)).symm

theorem effect_farewell (requests : List Request) :
    (farewell requests).effect connection =
      connection.run (requests.map (.fail · .disconnected) ++
        [.clearDisposals, .closeFeed, .markClosed, .queueClose]) := by
  rw [farewell, effect_acts]
  induction requests generalizing connection with
  | nil =>
    symm
    calc connection.run [.clearDisposals, .closeFeed, .markClosed, .queueClose]
      _ = (connection.perform .clearDisposals).2.run [.closeFeed, .markClosed, .queueClose] :=
        Connection.run_cons_of_quiet rfl
      _ = ((connection.perform .clearDisposals).2.perform .closeFeed).2.run
          [.markClosed, .queueClose] := Connection.run_cons_of_quiet rfl
      _ = (((connection.perform .clearDisposals).2.perform .closeFeed).2.perform .markClosed).2.run
          [.queueClose] := Connection.run_cons_of_quiet rfl
      _ = _ := Connection.run_singleton_of_quiet rfl
  | cons request requests ih =>
    rw [List.map_cons, List.foldl_cons, ih, List.map_cons, List.cons_append]
    exact (@Connection.run_cons_of_quiet (.fail request .disconnected) _ connection rfl).symm

theorem effect_disconnect :
    disconnect.effect connection = Routine.disconnect.outcome connection := by
  rw [Routine.outcome, Connection.run_cons, List.append_nil, Connection.perform,
    Connection.disconnect, disconnect, look]
  simp only [effect, effect_ite, id]
  split
  · exact (Connection.run_nil _).symm
  · rw [List.append_assoc, Connection.run_append, ← effect_farewell]
    exact effect_lapse (farewell connection.pending)

theorem effect_close : close.effect connection = Routine.close.outcome connection := by
  rw [Routine.outcome, Connection.run_cons, Connection.perform, close, look]
  simp only [effect, effect_ite]
  split
  · exact (Connection.run_nil _).symm
  · rfl

end Program

/-- A routine comes to what its pieces of work come to. -/
theorem Routine.effect_body (routine : Routine) (connection : Connection) :
    routine.body.effect connection = routine.outcome connection := by
  cases routine with
  | issue command data => exact Program.effect_issue command data
  | replied reply => exact Program.effect_replied reply
  | abandon id failure => exact Program.effect_abandon id failure
  | invalidate => exact Program.effect_invalidate
  | store key stamp value => rfl
  | discard values => exact Program.effect_discard values
  | release lease => exact Program.effect_release lease
  | reclaim object retained => exact Program.effect_reclaim object retained
  | flush => exact Program.effect_flush
  | disconnect => exact Program.effect_disconnect
  | close => exact Program.effect_close
  | visit lock change => rfl

namespace Chain

/-- What a chain comes to, if what its programs call comes to its outcome. -/
def outcome (chain : Chain) (connection : Connection) : Connection :=
  chain.stack.foldl (fun connection program => program.effect connection) connection

theorem outcome_step (chain : Chain) (connection : Connection) :
    (chain.step connection).1.outcome (chain.step connection).2 = chain.outcome connection := by
  obtain ⟨held, stack⟩ := chain
  cases stack with
  | nil => rfl
  | cons program rest =>
    cases program with
    | done => rfl
    | lock l next =>
      simp only [step]
      split <;> rfl
    | unlock l next => rfl
    | act change next => rfl
    | call routine next =>
      exact congrArg (fun connection => rest.foldl _ (next.effect connection))
        (routine.effect_body connection)

/-- While nobody comes in between, a chain comes to the same all along. -/
theorem outcome_run (chain : Chain) (connection : Connection) (n : Nat) :
    (chain.run (fun _ => id) connection n).1.outcome (chain.run (fun _ => id) connection n).2 =
      chain.outcome connection := by
  induction n with
  | zero => rfl
  | succ n ih => exact (outcome_step ..).trans ih

/-- A chain that requests a lock that it holds never goes on. -/
theorem run_of_locked_out {chain : Chain} {lock : Lock} (requests : chain.requests? = some lock)
    (holds : chain.held.has lock = true) (others : Nat → Connection → Connection)
    (connection : Connection) (n : Nat) : (chain.run others connection n).1 = chain := by
  induction n with
  | zero => rfl
  | succ n ih =>
    obtain ⟨held, stack⟩ := chain
    obtain ⟨next, rest, rfl⟩ : ∃ next rest, stack = .lock lock next :: rest := by
      rw [requests?] at requests
      split at requests
      · next l next rest same =>
        obtain rfl := Option.some.inj requests
        exact ⟨next, rest, same⟩
      · cases requests
    simp only [run, ih, step]
    rw [if_pos holds]

end Chain

/-- Whatever is called and whatever others do meanwhile, no lock is requested by who holds one,
calls are nested seven deep at most, and they end. If nobody comes in between they come to what
the pieces of work come to. -/
theorem Routine.never_locked_out (routine : Routine) :
    (∀ (others : Nat → Connection → Connection) (connection : Connection),
      let run := Chain.run others (.start routine) connection
      (∀ n lock, (run n).1.requests? = some lock → (run n).1.held = {}) ∧
      (∀ n, (run n).1.stack.length ≤ 7) ∧
      ∃ n, (run n).1 = .ended) ∧
    ∀ connection, ∃ n, Chain.run (fun _ => id) (.start routine) connection n =
      (.ended, routine.outcome connection) := by
  have sound := fun others connection => (Chain.Sound.start routine).run others connection
  have ended : ∀ others connection, ∃ n, (Chain.run others (.start routine) connection n).1 =
      .ended := by
    intro others connection
    obtain ⟨n, last⟩ := (Chain.ends_body routine [] Chain.ends_ended).exists_run others connection
    exact ⟨n, (sound others connection n).eq_ended last⟩
  refine ⟨fun others connection => ⟨fun n lock => ?_, fun n => ?_, ended others connection⟩,
    fun connection => ?_⟩
  · exact (sound others connection n).held_of_requests
  · exact (sound others connection n).length_le
  · obtain ⟨n, last⟩ := ended (fun _ => id) connection
    have same := Chain.outcome_run (.start routine) connection n
    rw [last] at same
    exact ⟨n, Prod.ext last (same.trans (routine.effect_body connection))⟩

/-! ## Dropped under the lock -/

/-- The scope is invalidated by someone who drops what was evicted before the lock is given back. -/
def Program.hasty : Program :=
  .lock .state <| .act (·.invalidate.2) fun connection =>
    drop connection.scope.lapsing <| .unlock .state .done

/-- A connection with one value, which owns the only clone of a lease. -/
def Connection.laden : Connection :=
  { Connection.ofConfig {} with
    scope := { active := true, values := [("frames", .leases [0])] }
    leases := { live := [{ id := 0, object := 7, retained := 1, clones := 1 }]
                entries := [(7, 0)], next := 1 } }

/-- The value is reclaimed, which takes the lock that is still held. Nothing comes after that. -/
theorem hasty_locked_out :
    ∃ n, let chain := (Chain.run (fun _ => id) ⟨{}, [.hasty]⟩ Connection.laden n).1
      chain.requests? = some .state ∧ chain.held.state = true ∧
      ∀ others connection m, (chain.run others connection m).1 = chain := by
  have stuck : let chain := (Chain.run (fun _ => id) ⟨{}, [.hasty]⟩ Connection.laden 6).1
      chain.requests? = some .state ∧ chain.held.state = true := ⟨rfl, rfl⟩
  exact ⟨6, stuck.1, stuck.2, Chain.run_of_locked_out stuck.1 stuck.2⟩

end DebugLink
