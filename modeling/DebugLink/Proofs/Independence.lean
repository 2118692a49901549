import DebugLink.Proofs.Dispatch
import DebugLink.Proofs.Suspension
import Mathlib.Data.List.Flatten
import Mathlib.Data.List.Nodup
import Mathlib.Data.List.Pairwise

/-!
# Independence: packets that may come in either order

A reply settles its own request, and a batch of events concerns the feed and the scope. So packets
that have nothing to do with each other can be dispatched in either order, and the connection is
the same but for the order in which outcomes were recorded and what was reported (`Agrees`).

What two replies may have in common is the command that sends the disposals: the first of them
issues it, whichever that is. It takes the probes that wait and the next id, so both orders come to
the same unless one of the replies carries that id. An outcome is found by the number of its request
and a measurement by its probe, so it matters that no two pending requests share one (`Orderly`).

Main statement: `World.dispatch_comm`.
-/

namespace DebugLink

/-- Two blocks without a common key can come in either order. -/
theorem lookup_swap {α β : Type} [BEq α] [LawfulBEq α] {first second : List (α × β)}
    (apart : ∀ entry ∈ first, ∀ other ∈ second, entry.1 ≠ other.1) (earlier : List (α × β))
    (key : α) :
    (earlier ++ first ++ second).lookup key = (earlier ++ second ++ first).lookup key := by
  simp only [List.lookup_append, Option.or_assoc]
  congr 1
  cases found : first.lookup key with
  | none => simp
  | some value =>
    have none : second.lookup key = none := by
      refine List.lookup_eq_none_iff.mpr fun other mem => ?_
      obtain ⟨before, after, rfl, -⟩ := List.lookup_eq_some_iff.mp found
      simpa using apart (key, value) (by simp) other mem
    simp [none]

namespace Connection

variable {before after connection : Connection}

/-! ## Requests and probes are told apart -/

/-- The probes that wait: of pending requests, and for the next command. -/
def waiters (connection : Connection) : List ProbeId :=
  connection.pending.flatMap (·.probes) ++ connection.probes

/-- No two pending requests have the same number, and no probe waits twice. -/
structure Orderly (connection : Connection) : Prop where
  serials : (connection.pending.map (·.serial)).Nodup
  numbered : ∀ request ∈ connection.pending, request.serial < connection.issued
  single : connection.waiters.Nodup
  counted : ∀ probe ∈ connection.waiters, probe < connection.nextProbe

theorem Orderly.serial_ne (orderly : connection.Orderly) {request other : Request}
    (mem : request ∈ connection.pending) (mem' : other ∈ connection.pending)
    (differs : request.id ≠ other.id) : request.serial ≠ other.serial :=
  fun same => differs (congrArg _ (List.inj_on_of_nodup_map orderly.serials mem mem' same))

theorem Orderly.probes_disjoint (orderly : connection.Orderly) {request other : Request}
    (mem : request ∈ connection.pending) (mem' : other ∈ connection.pending)
    (differs : request.id ≠ other.id) : request.probes.Disjoint other.probes := by
  have pending := (List.nodup_append.mp orderly.single).1
  have : Std.Symm (Function.onFun List.Disjoint Request.probes) :=
    ⟨fun _ _ disjoint _ mem mem' => disjoint mem' mem⟩
  exact (List.nodup_flatMap.mp pending).2.forall mem mem' (mt (congrArg _) differs)

/-- Nothing begins to wait. -/
structure Shrinks (before after : Connection) : Prop where
  pending : after.pending.Sublist before.pending
  probes : after.probes.Sublist before.probes
  issued : after.issued = before.issued
  nextProbe : after.nextProbe = before.nextProbe

theorem Shrinks.of_same (pending : after.pending = before.pending)
    (probes : after.probes = before.probes) (issued : after.issued = before.issued)
    (nextProbe : after.nextProbe = before.nextProbe) : before.Shrinks after :=
  ⟨pending ▸ .refl _, probes ▸ .refl _, issued, nextProbe⟩

theorem Shrinks.trans {last : Connection} (first : before.Shrinks after)
    (second : after.Shrinks last) : before.Shrinks last :=
  ⟨second.pending.trans first.pending, second.probes.trans first.probes,
    second.issued.trans first.issued, second.nextProbe.trans first.nextProbe⟩

theorem Orderly.shrinks (orderly : before.Orderly) (shrinks : before.Shrinks after) :
    after.Orderly := by
  have waiters : after.waiters.Sublist before.waiters :=
    (shrinks.pending.flatMap _).append shrinks.probes
  refine ⟨(shrinks.pending.map _).nodup orderly.serials, fun request mem => ?_,
    waiters.nodup orderly.single, fun probe mem => ?_⟩
  · rw [shrinks.issued]
    exact orderly.numbered request (shrinks.pending.mem mem)
  · rw [shrinks.nextProbe]
    exact orderly.counted probe (waiters.mem mem)

/-- The next command takes the next number and the probes that wait for it. -/
theorem Orderly.enrol (orderly : connection.Orderly) (command : Command) :
    Orderly { connection.enrol command with issued := connection.issued + 1 } := by
  have kept : (connection.pending.filter (·.id != connection.nextId)).Sublist connection.pending :=
    List.filter_sublist
  have waiters : waiters { connection.enrol command with issued := connection.issued + 1 } =
      (connection.pending.filter (·.id != connection.nextId)).flatMap (·.probes) ++
        connection.probes := by
    simp [Connection.waiters, Connection.enrol, nextRequest]
  have fewer : ((connection.pending.filter (·.id != connection.nextId)).flatMap (·.probes) ++
      connection.probes).Sublist connection.waiters :=
    (kept.flatMap _).append (.refl _)
  refine ⟨?_, fun request mem => ?_, waiters ▸ fewer.nodup orderly.single, fun probe mem => ?_⟩
  · show ((connection.pending.filter (·.id != connection.nextId) ++
      [connection.nextRequest command]).map (·.serial)).Nodup
    rw [List.map_append, List.map_singleton]
    refine List.Nodup.append ((kept.map _).nodup orderly.serials) (List.nodup_singleton _) ?_
    rw [List.disjoint_singleton]
    rintro mem
    obtain ⟨request, mem, same⟩ := List.mem_map.mp mem
    exact Nat.ne_of_lt (orderly.numbered request (kept.mem mem)) same
  · obtain mem | mem := List.mem_append.mp mem
    · exact Nat.lt_succ_of_lt (orderly.numbered request (kept.mem mem))
    · rw [List.mem_singleton.mp mem]
      exact Nat.lt_succ_self _
  · rw [waiters] at mem
    exact orderly.counted probe (fewer.mem mem)

theorem Orderly.issue (orderly : connection.Orderly) (command : Command) (data : Bytes) :
    (connection.issue command data).2.2.Orderly := by
  rcases connection.dead.eq_false_or_eq_true with dead | live
  · rw [issue_of_dead dead]
    exact orderly
  · rcases connection.outboundOpen.eq_false_or_eq_true with accepts | refuses
    · rw [issue_of_open live accepts]
      exact (orderly.enrol command).shrinks (.of_same rfl rfl rfl rfl)
    · -- The command is withdrawn, and its number stays the next.
      rw [issue_of_closed live refuses]
      refine orderly.shrinks ⟨?_, List.nil_sublist _, rfl, rfl⟩
      simp only [take, Connection.enrol, List.filter_append]
      simp [nextRequest]

theorem Orderly.probe (orderly : connection.Orderly) : connection.probe.2.Orderly := by
  simp only [Connection.probe]
  split
  · exact ⟨orderly.serials, orderly.numbered, orderly.single,
      fun probe mem => Nat.lt_succ_of_lt (orderly.counted probe mem)⟩
  · have waiters : waiters { connection with
        nextProbe := connection.nextProbe + 1
        probes := connection.probes ++ [connection.nextProbe] } =
        connection.waiters ++ [connection.nextProbe] := by
      simp [Connection.waiters]
    refine ⟨orderly.serials, orderly.numbered, ?_, fun probe mem => ?_⟩
    · rw [waiters]
      refine orderly.single.append (List.nodup_singleton _) ?_
      rw [List.disjoint_singleton]
      exact fun mem => absurd (orderly.counted _ mem) (Nat.lt_irrefl _)
    · rw [waiters] at mem
      obtain mem | mem := List.mem_append.mp mem
      · exact Nat.lt_succ_of_lt (orderly.counted probe mem)
      · rw [List.mem_singleton.mp mem]
        exact Nat.lt_succ_self _

theorem shrinks_invalidate : connection.Shrinks connection.invalidate.2 := by
  unfold invalidate
  split <;> exact .of_same rfl rfl rfl rfl

theorem Orderly.perform (orderly : connection.Orderly) (work : Work) :
    (connection.perform work).2.Orderly := by
  cases work with
  | dispose payload => exact orderly.issue .disposeObjects payload
  | replied reply =>
    refine orderly.shrinks ?_
    simp only [Connection.perform, replied, take]
    cases connection.request? reply.id <;> exact ⟨List.filter_sublist, .refl _, rfl, rfl⟩
  | abandon id failure =>
    refine orderly.shrinks ?_
    simp only [Connection.perform, take]
    cases connection.request? id <;> exact ⟨List.filter_sublist, .refl _, rfl, rfl⟩
  | disconnect =>
    refine orderly.shrinks ?_
    simp only [Connection.perform, disconnect]
    split
    · exact .of_same rfl rfl rfl rfl
    · refine Shrinks.trans ?_ shrinks_invalidate
      exact ⟨List.nil_sublist _, List.nil_sublist _, rfl, rfl⟩
  | suspended | release | reclaim | flush | sendBatch | close =>
    refine orderly.shrinks ?_
    simp only [Connection.perform, noteSuspended, reclaim]
    repeat' split
    all_goals exact .of_same rfl rfl rfl rfl
  | _ => exact orderly.shrinks (.of_same rfl rfl rfl rfl)

end Connection

theorem Deed.orderly {engine : Engine} {used left : List Work} {entries : List Entry}
    {after : Connection} (deed : Deed engine used entries left after)
    (orderly : engine.connection.Orderly) : after.Orderly := by
  cases deed with
  | perform work => exact orderly.perform work
  | issue command data notices =>
    have reported : Connection.Orderly { engine.connection with notices } :=
      orderly.shrinks (.of_same rfl rfl rfl rfl)
    exact reported.issue command data
  | probe => exact orderly.probe
  | store n key stamp value =>
    refine orderly.shrinks ?_
    simp only [Connection.store]
    split <;> exact .of_same rfl rfl rfl rfl
  | invalidate => exact orderly.shrinks Connection.shrinks_invalidate
  | _ => exact orderly.shrinks (.of_same rfl rfl rfl rfl)

theorem World.orderly_play (config : Config) (moves : List Move) :
    (play config moves).connection.Orderly := by
  refine play_induction (P := fun _ world => world.connection.Orderly)
    ⟨.nil, nofun, .nil, nofun⟩ ?_ moves
  intro moves move orderly
  obtain ⟨used, entries, left, deed, -⟩ := does_step (tidy_play config moves) move
  exact deed.orderly orderly

namespace Connection

variable {connection connection' : Connection}

/-! ## Connections that agree -/

/-- All of a connection but its scope and what it has told. -/
def bare (connection : Connection) : Connection :=
  { connection with scope := {}, outcomes := [], measurements := [], notices := [] }

/-- Requests that are settled alike. -/
structure Verdict where
  requests : List Request
  outcome : Except Failure Bytes
  measured : Except Failure Unit

def Verdict.outcomes (verdict : Verdict) : List (Nat × Except Failure Bytes) :=
  verdict.requests.map fun request => (request.serial, verdict.outcome)

def Verdict.measurements (verdict : Verdict) : List (ProbeId × Except Failure Unit) :=
  verdict.requests.flatMap fun request => request.probes.map (·, verdict.measured)

/-- Two connections hand everybody the same outcomes and have all else in common but the scope and
what was reported: the requests, the leases, the disposals, the subscriptions with their queues, the
flow control and the packets that were issued. -/
structure Agrees (connection connection' : Connection) : Prop where
  outcome : ∀ receipt, connection.outcome? receipt = connection'.outcome? receipt
  measurement : ∀ probe, connection.measurement? probe = connection'.measurement? probe
  bare : connection.bare = connection'.bare

namespace Agrees

variable {before last : Connection}

theorem symm (agrees : connection.Agrees connection') : connection'.Agrees connection :=
  ⟨fun receipt => (agrees.outcome receipt).symm, fun probe => (agrees.measurement probe).symm,
    agrees.bare.symm⟩

theorem trans (first : connection.Agrees connection') (second : connection'.Agrees last) :
    connection.Agrees last :=
  ⟨fun receipt => (first.outcome receipt).trans (second.outcome receipt),
    fun probe => (first.measurement probe).trans (second.measurement probe),
    first.bare.trans second.bare⟩

theorem of_eq (outcomes : connection.outcomes = connection'.outcomes)
    (measurements : connection.measurements = connection'.measurements)
    (bare : connection.bare = connection'.bare) : connection.Agrees connection' :=
  ⟨fun receipt => by rw [outcome?, outcomes, outcome?],
    fun probe => by rw [measurement?, measurements, measurement?], bare⟩

/-- Some requests are settled, and others with other ids, in one order or in the other. -/
theorem of_settled (orderly : before.Orderly) (first second : Verdict)
    (mem : first.requests ⊆ before.pending) (mem' : second.requests ⊆ before.pending)
    (apart : ∀ request ∈ first.requests, ∀ other ∈ second.requests, request.id ≠ other.id)
    (outcomes : connection.outcomes = before.outcomes ++ first.outcomes ++ second.outcomes)
    (outcomes' : connection'.outcomes = before.outcomes ++ second.outcomes ++ first.outcomes)
    (measurements : connection.measurements =
      before.measurements ++ first.measurements ++ second.measurements)
    (measurements' : connection'.measurements =
      before.measurements ++ second.measurements ++ first.measurements)
    (bare : connection.bare = connection'.bare) : connection.Agrees connection' := by
  refine ⟨fun receipt => ?_, fun probe => ?_, bare⟩
  · rw [outcome?, outcome?, outcomes, outcomes']
    refine lookup_swap ?_ _ _
    simp only [Verdict.outcomes, List.forall_mem_map]
    exact fun request known other known' =>
      orderly.serial_ne (mem known) (mem' known') (apart request known other known')
  · rw [measurement?, measurement?, measurements, measurements']
    refine lookup_swap ?_ _ _
    simp only [Verdict.measurements, List.mem_flatMap, List.mem_map]
    rintro _ ⟨request, known, probe, waits, rfl⟩ _ ⟨other, known', probe', waits', rfl⟩ rfl
    exact orderly.probes_disjoint (mem known) (mem' known') (apart request known other known')
      waits waits'

end Agrees

/-- A change that depends on nothing that was told, and only adds to that. -/
structure Appends (change : Connection → Connection) : Prop where
  bare : ∀ connection, (change connection).bare = (change connection.bare).bare
  outcomes : ∀ connection,
    (change connection).outcomes = connection.outcomes ++ (change connection.bare).outcomes
  measurements : ∀ connection, (change connection).measurements =
    connection.measurements ++ (change connection.bare).measurements

theorem Agrees.map {change : Connection → Connection} (agrees : connection.Agrees connection')
    (appends : Appends change) : (change connection).Agrees (change connection') where
  outcome receipt := by
    rw [outcome?, outcome?, appends.outcomes, appends.outcomes connection', List.lookup_append,
      List.lookup_append, agrees.bare]
    exact congrArg (Option.or · _) (agrees.outcome receipt)
  measurement probe := by
    rw [measurement?, measurement?, appends.measurements, appends.measurements connection',
      List.lookup_append, List.lookup_append, agrees.bare]
    exact congrArg (Option.or · _) (agrees.measurement probe)
  bare := by rw [appends.bare, appends.bare connection', agrees.bare]

theorem Appends.ite {p : Connection → Prop} [DecidablePred p] {f g : Connection → Connection}
    (first : Appends f) (second : Appends g)
    (bare : ∀ connection, p connection.bare ↔ p connection) :
    Appends fun connection => if p connection then f connection else g connection := by
  constructor <;> intro connection <;> by_cases holds : p connection
  · simpa [holds, bare] using first.bare connection
  · simpa [holds, bare] using second.bare connection
  · simpa [holds, bare] using first.outcomes connection
  · simpa [holds, bare] using second.outcomes connection
  · simpa [holds, bare] using first.measurements connection
  · simpa [holds, bare] using second.measurements connection

theorem appends_flushed : Appends flushed := by
  have same : Appends fun connection => connection :=
    ⟨fun _ => rfl, fun _ => (List.append_nil _).symm, fun _ => (List.append_nil _).symm⟩
  have cleared : Appends fun connection =>
      { connection with disposals := connection.disposals.clear } :=
    ⟨fun _ => rfl, fun _ => (List.append_nil _).symm, fun _ => (List.append_nil _).symm⟩
  have disposed : Appends disposed :=
    ⟨fun _ => rfl, fun _ => rfl, fun _ => rfl⟩
  exact same.ite (cleared.ite disposed fun _ => .rfl) fun _ => .rfl

/-! ## Changes that can be made in either order -/

theorem request?_mem {id : UInt32} : (connection.request? id).toList ⊆ connection.pending :=
  fun _ mem => List.mem_of_find?_eq_some (Option.mem_toList.mp mem)

theorem id_of_request? {id : UInt32} {request : Request}
    (mem : request ∈ (connection.request? id).toList) : request.id = id := by
  simpa using List.find?_some (Option.mem_toList.mp mem)

/-- A request is found whether or not those with another id are pending. -/
theorem find?_filter_ne {requests : List Request} {id other : UInt32} (differs : id ≠ other) :
    (requests.filter (·.id != other)).find? (·.id == id) = requests.find? (·.id == id) := by
  rw [List.find?_filter]
  congr 1
  funext request
  by_cases same : request.id = id <;> simp [same, differs]

theorem request?_answered {reply : ReplyPacket} {id : UInt32} (differs : id ≠ reply.id) :
    (connection.answered reply).request? id = connection.request? id :=
  find?_filter_ne differs

/-- A reply's request is settled by it. -/
def verdict (reply : ReplyPacket) (connection : Connection) : Verdict :=
  ⟨(connection.request? reply.id).toList, reply.result, .ok ()⟩

theorem verdict_answered {reply other : ReplyPacket} (differs : other.id ≠ reply.id) :
    (connection.answered reply).verdict other = connection.verdict other := by
  rw [verdict, request?_answered differs, verdict]

/-- Two replies settle their requests in either order. -/
theorem Orderly.answered_comm (orderly : connection.Orderly) {reply other : ReplyPacket}
    (differs : reply.id ≠ other.id) :
    ((connection.answered reply).answered other).Agrees
      ((connection.answered other).answered reply) := by
  refine .of_settled orderly (connection.verdict reply) (connection.verdict other) request?_mem
    request?_mem (fun request mem request' mem' => ?_) ?_ ?_ ?_ ?_ ?_
  · rw [id_of_request? mem, id_of_request? mem']
    exact differs
  · rw [← verdict_answered differs.symm]
    rfl
  · rw [← verdict_answered differs]
    rfl
  · rw [← verdict_answered differs.symm]
    rfl
  · rw [← verdict_answered differs]
    rfl
  · simp only [answered, bare, List.filter_filter, Bool.and_comm]

/-- A reply settles its request before or after the disposals are sent, unless the command that
sends them gets its id. -/
theorem Orderly.answered_disposed (orderly : connection.Orderly) {reply : ReplyPacket}
    (other : reply.id ≠ connection.nextId) :
    (connection.disposed.answered reply).Agrees (connection.answered reply).disposed := by
  have found : connection.disposed.verdict reply = connection.verdict reply := by
    have pending : connection.disposed.pending =
        connection.pending.filter (·.id != connection.nextId) ++
          [connection.nextRequest .disposeObjects] := rfl
    rw [verdict, verdict, request?, request?, pending, List.find?_append, find?_filter_ne other,
      List.find?_singleton, if_neg (by simpa [nextRequest] using other.symm), Option.or_none]
  have replaced : (connection.answered reply).replaced = connection.replaced := by
    show (connection.pending.filter (·.id != reply.id)).filter (·.id == connection.nextId) =
      connection.pending.filter (·.id == connection.nextId)
    rw [List.filter_filter]
    refine List.filter_congr fun request _ => ?_
    by_cases same : request.id = connection.nextId <;> simp [same, other.symm]
  refine .of_settled orderly ⟨connection.replaced, .error .disconnected, .error .disconnected⟩
    (connection.verdict reply) (List.filter_subset_self _) request?_mem
    (fun request mem request' mem' => ?_) ?_ ?_ ?_ ?_ ?_
  · rw [id_of_request? mem', eq_of_beq (List.mem_filter.mp mem).2]
    exact other.symm
  · rw [← found]
    rfl
  · rw [← replaced]
    rfl
  · rw [← found]
    rfl
  · rw [← replaced]
    rfl
  · have pending : (connection.pending.filter (·.id != connection.nextId) ++
        [connection.nextRequest .disposeObjects]).filter (·.id != reply.id) =
        (connection.pending.filter (·.id != reply.id)).filter (·.id != connection.nextId) ++
          [connection.nextRequest .disposeObjects] := by
      have kept : (connection.nextRequest .disposeObjects).id ≠ reply.id := other.symm
      simp [List.filter_filter, Bool.and_comm, kept]
    exact congrArg (fun pending => bare { connection.disposed with pending }) pending

theorem Orderly.answered_flushed (orderly : connection.Orderly) {reply : ReplyPacket}
    (other : reply.id ≠ connection.nextId) :
    (connection.flushed.answered reply).Agrees (connection.answered reply).flushed := by
  by_cases none : connection.disposals.counts.isEmpty
  · rw [flushed_of_none none, flushed_of_none (by exact none)]
    exact .of_eq rfl rfl rfl
  · by_cases down : connection.shuttingDown ∨ connection.dead
    · rw [flushed_of_down none down, flushed_of_down (by exact none) (by exact down)]
      exact .of_eq rfl rfl rfl
    · rw [flushed_of_up none down, flushed_of_up (by exact none) (by exact down)]
      exact orderly.answered_disposed other

/-- Once the disposals are sent there are none. -/
theorem flushed_flushed : connection.flushed.flushed = connection.flushed := by
  have none : connection.flushed.disposals.counts.isEmpty := by
    rw [flushed]
    split
    · assumption
    · split <;> rfl
  exact flushed_of_none none

/-- Two replies in one order and in the other. -/
theorem Orderly.effect_answer_comm (orderly : connection.Orderly) {reply other : ReplyPacket}
    (differs : reply.id ≠ other.id) (known : reply.id ≠ connection.nextId)
    (known' : other.id ≠ connection.nextId) :
    ((Inbound.answer other).effect ((Inbound.answer reply).effect connection)).Agrees
      ((Inbound.answer reply).effect ((Inbound.answer other).effect connection)) := by
  -- The disposals may as well be sent when both requests are settled.
  have late {first second : ReplyPacket} (known : second.id ≠ connection.nextId) :
      ((connection.answered first).flushed.answered second).flushed.Agrees
        ((connection.answered first).answered second).flushed := by
    have settled : (connection.answered first).Orderly :=
      orderly.shrinks ⟨List.filter_sublist, .refl _, rfl, rfl⟩
    have flushed := (settled.answered_flushed known).map appends_flushed
    rwa [flushed_flushed] at flushed
  exact ((late known').trans ((orderly.answered_comm differs).map appends_flushed)).trans
    (late known).symm

/-- A reply before and after a batch of events. -/
theorem effect_events_comm (reply : ReplyPacket) (batch : EventBatch) :
    ((Inbound.events batch).effect ((Inbound.answer reply).effect connection)).Agrees
      ((Inbound.answer reply).effect ((Inbound.events batch).effect connection)) := by
  -- The disposals have no part in the feed, and only the scope is changed by both packets.
  have last : (Inbound.answer reply).effect ((Inbound.events batch).effect connection) =
      { (connection.answered reply).flushed with
        scope := ((connection.announced batch).answered reply).scope
        feed := (connection.answered reply).flushed.feed.publish batch } :=
    @flushed_change (connection.answered reply)
      (fun settled => { settled with
        scope := ((connection.announced batch).answered reply).scope
        feed := settled.feed.publish batch }) rfl rfl rfl rfl
  rw [last]
  exact .of_eq rfl rfl rfl

/-! ## The scope -/

theorem scope_answer (reply : ReplyPacket) :
    ((Inbound.answer reply).effect connection).scope = connection.scope.complete reply.id :=
  scope_flushed

theorem scope_events (batch : EventBatch) :
    ((Inbound.events batch).effect connection).scope =
      if batch.suspendPolicy = suspendAllPolicy then connection.scope.suspend
      else connection.scope :=
  rfl

end Connection

namespace Scope

variable {α : Type} {scope : Scope α}

theorem complete_comm (id other : UInt32) :
    (scope.complete id).complete other = (scope.complete other).complete id := by
  simp only [complete, List.filter_filter, Bool.and_comm]

theorem complete_of_not_mem {id : UInt32} (unknown : id ∉ scope.resumes) :
    scope.complete id = scope := by
  have kept : scope.resumes.filter (· != id) = scope.resumes :=
    List.filter_eq_self.mpr fun other mem => bne_iff_ne.mpr fun same => unknown (same ▸ mem)
  rw [complete, kept]

/-- A reply that the scope does not await makes no difference to whether a suspension is
believed. -/
theorem suspend_complete {id : UInt32} (unknown : id ∉ scope.resumes) :
    (scope.complete id).suspend = scope.suspend.complete id := by
  rw [complete_of_not_mem unknown, complete_of_not_mem (by rwa [resumes_suspend])]

end Scope

/-- A packet that is no reply and no event packet with a payload. -/
def Unusable (frame : Bytes) : Prop :=
  (∃ fault, Packet.decode frame = .error fault) ∨
    ∃ packet, Packet.decode frame = .ok (.command packet) ∧
      (packet.commandSet ≠ Command.events ∨ packet.data = [])

theorem Unusable.ofFrame {frame : Bytes} (unusable : Unusable frame) :
    Inbound.ofFrame frame = .unusable := by
  obtain ⟨fault, decoded⟩ | ⟨packet, decoded, other | empty⟩ := unusable
  · rw [Inbound.ofFrame, decoded]
  · rw [Inbound.ofFrame, decoded]
    exact if_neg other
  · rw [Inbound.ofFrame, decoded]
    simp only [EventBatch.ofPacket, empty]
    split <;> rfl

namespace Inbound

variable {frame : Bytes}

theorem ofFrame_reply {reply : ReplyPacket} (decoded : Packet.decode frame = .ok (.reply reply)) :
    ofFrame frame = .answer reply := by
  rw [ofFrame, decoded]

theorem ofFrame_events {packet : CommandPacket} {batch : EventBatch}
    (decoded : Packet.decode frame = .ok (.command packet))
    (set : packet.commandSet = Command.events) (read : EventBatch.ofPacket packet = .ok batch) :
    ofFrame frame = .events batch := by
  rw [ofFrame, decoded]
  simp only [if_pos set, read]

end Inbound

namespace Connection

variable {connection : Connection}

theorem Accepts.effect (accepts : connection.Accepts) (inbound : Inbound) :
    (inbound.effect connection).Accepts := by
  cases inbound with
  | answer reply =>
    have answered : (connection.answered reply).Accepts := accepts
    exact answered.flushed
  | events batch => exact accepts
  | unusable => exact accepts

/-- Apart from what is reported, two packets have their effects one after the other. -/
theorem dispatch_dispatch (accepts : connection.Accepts) (frame other : Bytes) :
    ∃ notices, (connection.dispatch frame).dispatch other =
      { (Inbound.ofFrame other).effect ((Inbound.ofFrame frame).effect connection) with
        notices } := by
  obtain ⟨notices, first⟩ := dispatch_eq accepts frame
  have accepts' : (connection.dispatch frame).Accepts := by
    rw [first]
    exact accepts.effect _
  obtain ⟨notices', second⟩ := dispatch_eq accepts' other
  exact ⟨notices', by rw [second, first, effect_notices]⟩

theorem scope_dispatch_dispatch (accepts : connection.Accepts) (frame other : Bytes) :
    ((connection.dispatch frame).dispatch other).scope =
      ((Inbound.ofFrame other).effect ((Inbound.ofFrame frame).effect connection)).scope := by
  obtain ⟨notices, dispatched⟩ := dispatch_dispatch accepts frame other
  rw [dispatched]

theorem Agrees.dispatch (accepts : connection.Accepts) {frame other : Bytes}
    (agrees : ((Inbound.ofFrame other).effect ((Inbound.ofFrame frame).effect connection)).Agrees
      ((Inbound.ofFrame frame).effect ((Inbound.ofFrame other).effect connection))) :
    ((connection.dispatch frame).dispatch other).Agrees
      ((connection.dispatch other).dispatch frame) := by
  obtain ⟨notices, dispatched⟩ := dispatch_dispatch accepts frame other
  obtain ⟨notices', dispatched'⟩ := dispatch_dispatch accepts other frame
  rw [dispatched, dispatched']
  exact ⟨agrees.outcome, agrees.measurement, agrees.bare⟩

end Connection

namespace World

/-- Packets that come in one after the other, on a connection that anything may have happened to.
Two replies with different ids, neither of which is the id of the next command, can be dispatched in
either order, and so can a reply and a batch of events. All that may come out differently is the
scope, if the batch says that the debuggee is suspended and a command that resumes it awaits just
this reply. A packet that is of no use changes nothing. -/
theorem dispatch_comm (config : Config) (moves : List Move) (frame frame' : Bytes) :
    let world := play config moves
    let connection := world.connection
    let first := (connection.dispatch frame).dispatch frame'
    let second := (connection.dispatch frame').dispatch frame
    (∀ reply reply', Packet.decode frame = .ok (.reply reply) →
      Packet.decode frame' = .ok (.reply reply') → reply.id ≠ reply'.id →
      reply.id ≠ connection.nextId → reply'.id ≠ connection.nextId →
      first.Agrees second ∧ first.scope = second.scope) ∧
    (∀ reply packet batch, Packet.decode frame = .ok (.reply reply) →
      Packet.decode frame' = .ok (.command packet) → packet.commandSet = Command.events →
      EventBatch.ofPacket packet = .ok batch →
      first.Agrees second ∧ (first.scope = second.scope ∨
        batch.suspendPolicy = suspendAllPolicy ∧ ∃ issue ∈ issues world.journal,
          issue.2.resumes ∧ issue.1.id = reply.id ∧ fate issue.1 world.journal = none)) ∧
    (Unusable frame → ∃ notices, connection.dispatch frame = { connection with notices }) := by
  intro world connection first second
  have accepts : connection.Accepts := (shutdown_play config moves).accepts
  have orderly : connection.Orderly := orderly_play config moves
  have scope : first.scope = _ := Connection.scope_dispatch_dispatch accepts frame frame'
  have scope' : second.scope = _ := Connection.scope_dispatch_dispatch accepts frame' frame
  refine ⟨?_, ?_, fun unusable => ?_⟩
  · intro reply reply' decoded decoded' differs known known'
    have answer := Inbound.ofFrame_reply decoded
    have answer' := Inbound.ofFrame_reply decoded'
    refine ⟨.dispatch accepts ?_, ?_⟩
    · rw [answer, answer']
      exact orderly.effect_answer_comm differs known known'
    · rw [scope, scope', answer, answer']
      simp only [Connection.scope_answer, Scope.complete_comm]
  · intro reply packet batch decoded decoded' set read
    have answer := Inbound.ofFrame_reply decoded
    have events := Inbound.ofFrame_events decoded' set read
    refine ⟨.dispatch accepts ?_, ?_⟩
    · rw [answer, events]
      exact Connection.effect_events_comm reply batch
    · rw [scope, scope', answer, events, Connection.scope_answer, Connection.scope_events,
        Connection.scope_events, Connection.scope_answer]
      by_cases all : batch.suspendPolicy = suspendAllPolicy
      · by_cases awaited : reply.id ∈ connection.scope.resumes
        · exact .inr ⟨all, (awaited_play config moves reply.id).mp awaited⟩
        · rw [if_pos all, if_pos all]
          exact .inl (Scope.suspend_complete awaited)
      · rw [if_neg all, if_neg all]
        exact .inl rfl
  · obtain ⟨notices, dispatched⟩ := Connection.dispatch_eq accepts frame
    exact ⟨notices, by rw [dispatched, unusable.ofFrame]; rfl⟩

/-- A command that is measured and one that resumes the debuggee are outstanding, and an object
waits to be given back. -/
def owing : List Move :=
  [.start .measure, .start (.call .version), .start (.call .resumeAll), .start (.acquire 7),
    .start (.dropLease 0), .advance 4 .task, .advance 4 .task, .advance 4 .task]

/-- Both commands can be answered in either order, and the first answer gives the object back. Only
the one that tells whether the debuggee runs and an event that says that it does not make different
scopes. -/
theorem dispatch_comm_owing :
    let connection := (play {} owing).connection
    let version := ReplyPacket.encode ⟨1, 0, []⟩
    let resumed := ReplyPacket.encode ⟨2, 0, []⟩
    let stopped := CommandPacket.encode ⟨500, Command.events, 100, [suspendAllPolicy, 0]⟩
    ((connection.dispatch version).dispatch resumed).Agrees
        ((connection.dispatch resumed).dispatch version) ∧
      ((connection.dispatch version).dispatch resumed).pending.map (·.command) =
        [.disposeObjects] ∧
      ((connection.dispatch resumed).dispatch stopped).Agrees
        ((connection.dispatch stopped).dispatch resumed) ∧
      ((connection.dispatch resumed).dispatch stopped).scope.active = true ∧
      ((connection.dispatch stopped).dispatch resumed).scope.active = false ∧
      ∃ notices, connection.dispatch [] = { connection with notices } := by
  intro connection version resumed stopped
  have next : connection.nextId = 3 := by rfl
  have answer : Packet.decode version = .ok (.reply ⟨1, 0, []⟩) := by decide +kernel
  have answer' : Packet.decode resumed = .ok (.reply ⟨2, 0, []⟩) := by decide +kernel
  have event : Packet.decode stopped =
      .ok (.command ⟨500, Command.events, 100, [suspendAllPolicy, 0]⟩) := by decide +kernel
  obtain ⟨replies, -, -⟩ := dispatch_comm {} owing version resumed
  obtain ⟨-, events, -⟩ := dispatch_comm {} owing resumed stopped
  obtain ⟨-, -, useless⟩ := dispatch_comm {} owing [] []
  obtain ⟨agrees, -⟩ := replies _ _ answer answer' (by decide) (next ▸ by decide)
    (next ▸ by decide)
  obtain ⟨agrees', -⟩ := events _ _ ⟨500, suspendAllPolicy, [0]⟩ answer' event rfl rfl
  exact ⟨agrees, by decide +kernel, agrees', by decide +kernel, by decide +kernel,
    useless (.inl ⟨.packetTooShort 0, rfl⟩)⟩

end World

end DebugLink
