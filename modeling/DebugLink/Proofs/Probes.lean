import DebugLink.Proofs.Correlation
import DebugLink.Proofs.Independence
import DebugLink.Proofs.Teardown

/-!
# Probes: a probe is in one place

A probe waits for the next command, travels with the request of that command, and is measured when
the request is settled, or given up. So it is in the list of those that wait, or with one pending
request, or its result is known; the result may have been handed out, or a piece of work that
remains to be performed hands it out (`World.measured`).

Seen by the probes there are five kinds of moves, and a `ProbeStep` is one of them: one is handed
out, a command takes those that wait, a verdict falls on an id, the connection is torn down, or
nothing happens. Each of them moves probes from place to place, and makes none and loses none
(`mustered_play`), in runs of any length.
-/

namespace DebugLink

/-- The probe that an entry says was handed out. -/
def Entry.probe? : Entry → Option ProbeId
  | .probed probe => some probe
  | _ => none

/-- What an entry says of the probes that travel under an id: a reply measures its round trip. -/
def Entry.timing? (id : UInt32) : Entry → Option (Except Failure Unit)
  | .performed (.replied reply) => if reply.id = id then some (.ok ()) else none
  | .performed (.abandon other _) => if other = id then some (.error .disconnected) else none
  | .tornDown => some (.error .disconnected)
  | _ => none

/-- The probes that were handed out. -/
def probesOf (journal : List Entry) : List ProbeId :=
  journal.filterMap Entry.probe?

/-- Whether an entry is of no command, of no verdict and of no probe. -/
def Entry.Mute (entry : Entry) : Prop :=
  entry.Silent ∧ entry.probe? = none

/-- What a piece of work makes known of the probes of its request. -/
def Work.measures : Work → List (ProbeId × Except Failure Unit)
  | .resolve request _ => request.probes.map (·, .ok ())
  | .fail request _ => request.probes.map (·, .error .disconnected)
  | _ => []

/-- The part of a connection that says where the probes are that are not measured. -/
structure Roster where
  name : Nat
  issued : Nat
  nextProbe : ProbeId
  probes : List ProbeId
  pending : List Request

/-- The probes that are not measured: of pending requests, and for the next command. -/
def Roster.waiters (roster : Roster) : List ProbeId :=
  roster.pending.flatMap (·.probes) ++ roster.probes

theorem Entry.mute_of_aside {entry : Entry} (aside : entry.aside) (other : entry.probe? = none) :
    entry.Mute :=
  ⟨Entry.silent_of_aside aside, other⟩

/-- A verdict on an id is one on the probes that travel under it. -/
theorem Entry.timing_eq_none_iff {entry : Entry} {id : UInt32} :
    entry.timing? id = none ↔ entry.verdict? id = none := by
  cases entry with
  | performed work => cases work <;> simp [Entry.timing?, Entry.verdict?]
  | _ => simp [Entry.timing?, Entry.verdict?]

theorem probesOf_append (journal entries : List Entry) :
    probesOf (journal ++ entries) = probesOf journal ++ probesOf entries :=
  List.filterMap_append

theorem probesOf_of_mute {entries : List Entry} (mute : ∀ entry ∈ entries, entry.Mute) :
    probesOf entries = [] :=
  List.filterMap_eq_nil_iff.mpr fun entry mem => (mute entry mem).2

theorem Work.measures_of_free {work : Work} (free : work.free) : work.measures = [] := by
  cases work <;> first | rfl | simp [Work.free] at free

theorem measures_of_free {works : List Work} (free : ∀ work ∈ works, work.free) :
    works.flatMap Work.measures = [] :=
  List.flatMap_eq_nil_iff.mpr fun work mem => Work.measures_of_free (free work mem)

namespace Connection

variable {connection before after : Connection}

def roster (connection : Connection) : Roster where
  name := connection.name
  issued := connection.issued
  nextProbe := connection.nextProbe
  probes := connection.probes
  pending := connection.pending

/-- Two connections agree on where the probes are and on what was measured. -/
structure Spares (before after : Connection) : Prop where
  roster : after.roster = before.roster
  measurements : after.measurements = before.measurements

theorem spares_perform {work : Work} (aside : work.aside) :
    connection.Spares (connection.perform work).2 := by
  cases work <;> simp only [Work.aside, Bool.false_eq_true] at aside <;>
    simp only [perform, Connection.reclaim]
  case release => split <;> exact ⟨rfl, rfl⟩
  case reclaim => split <;> exact ⟨rfl, rfl⟩
  case flush => split <;> exact ⟨rfl, rfl⟩
  case sendBatch => split <;> exact ⟨rfl, rfl⟩
  case close => split <;> exact ⟨rfl, rfl⟩
  all_goals exact ⟨rfl, rfl⟩

theorem spares_noteSuspended : connection.Spares connection.noteSuspended := by
  simp only [noteSuspended]
  split
  · exact ⟨rfl, rfl⟩
  · split <;> exact ⟨rfl, rfl⟩

theorem spares_invalidate : connection.Spares connection.invalidate.2 := by
  unfold invalidate
  split <;> exact ⟨rfl, rfl⟩

theorem spares_store (key : String) (stamp : Stamp) (value : StoredValue) :
    connection.Spares (connection.store key stamp value).2 := by
  unfold store
  simp only
  split <;> exact ⟨rfl, rfl⟩

/-- What a verdict moves are the requests under an id. -/
theorem spares_replied (reply : ReplyPacket) :
    (connection.take reply.id).2.Spares (connection.perform (.replied reply)).2 := by
  simp only [perform, replied, take]
  cases connection.request? reply.id <;> exact ⟨rfl, rfl⟩

theorem spares_abandon (id : UInt32) (failure : Failure) :
    (connection.take id).2.Spares (connection.perform (.abandon id failure)).2 := by
  simp only [perform, take]
  cases connection.request? id <;> exact ⟨rfl, rfl⟩

theorem probe_of_dead (dead : connection.dead = true) :
    connection.probe.2 = { connection with
      nextProbe := connection.nextProbe + 1
      measurements := connection.measurements ++ [(connection.nextProbe, .error .disconnected)] } :=
  if_pos dead

theorem probe_of_live (live : connection.dead = false) :
    connection.probe.2 = { connection with
      nextProbe := connection.nextProbe + 1
      probes := connection.probes ++ [connection.nextProbe] } :=
  if_neg (by simp [live])

/-- With the connection all probes are given up, those that wait at once. -/
theorem disconnect_probes (live : connection.dead = false) :
    connection.disconnect.2.roster = { connection.roster with probes := [], pending := [] } ∧
      connection.disconnect.2.measurements =
        connection.measurements ++ connection.probes.map (·, .error .disconnected) := by
  rw [disconnect, if_neg (by simp [live])]
  exact ⟨spares_invalidate.roster, spares_invalidate.measurements⟩

theorem disconnect_measures (live : connection.dead = false) :
    connection.disconnect.1.flatMap Work.measures =
      (connection.pending.flatMap (·.probes)).map (·, .error .disconnected) := by
  rw [disconnect, if_neg (by simp [live])]
  simp only [List.flatMap_append]
  rw [measures_of_free fun work mem => Work.free_of_aside (invalidate_aside work mem),
    List.flatMap_map, List.map_flatMap, List.nil_append]
  exact List.append_nil _

end Connection

namespace World

variable {world world' : World}

/-- What became of the probes that were measured, handed out or not. -/
def measured (world : World) : List (ProbeId × Except Failure Unit) :=
  world.connection.measurements ++ world.works.flatMap Work.measures

/-- What one step does to the probes. -/
inductive ProbeStep (world world' : World) : Prop
  | quiet {entries : List Entry} (journal : world'.journal = world.journal ++ entries)
    (mute : ∀ entry ∈ entries, entry.Mute)
    (roster : world'.connection.roster = world.connection.roster)
    (measured : world'.measured.Perm world.measured)
  | register (live : world.connection.dead = false)
    (journal : world'.journal = world.journal ++ [.probed world.connection.nextProbe])
    (roster : world'.connection.roster = { world.connection.roster with
      nextProbe := world.connection.nextProbe + 1
      probes := world.connection.probes ++ [world.connection.nextProbe] })
    (measured : world'.measured.Perm world.measured)
  /-- The connection is dead, and there will be no command. -/
  | late (dead : world.connection.dead = true)
    (journal : world'.journal = world.journal ++ [.probed world.connection.nextProbe])
    (roster : world'.connection.roster =
      { world.connection.roster with nextProbe := world.connection.nextProbe + 1 })
    (measured : world'.measured.Perm
      (world.measured ++ [(world.connection.nextProbe, .error .disconnected)]))
  | issue {entries : List Entry} (command : Command) (data : Bytes)
    (live : world.connection.dead = false)
    (journal : world'.journal =
      world.journal ++ (entries ++ [.issued world.connection.nextReceipt command data]))
    (mute : ∀ entry ∈ entries, entry.Mute)
    (roster : world'.connection.roster = (world.connection.send command data).roster)
    (measured : world'.measured.Perm (world.measured ++
      (world.connection.replaced.flatMap (·.probes)).map (·, .error .disconnected)))
  /-- A verdict falls on an id. -/
  | decide {entry : Entry} (id : UInt32) (result : Except Failure Unit)
    (journal : world'.journal = world.journal ++ [entry]) (issue : entry.issue? = none)
    (probe : entry.probe? = none) (last : entry.last = false)
    (timing : ∀ other, entry.timing? other = if id = other then some result else none)
    (roster : world'.connection.roster = (world.connection.take id).2.roster)
    (measured : world'.measured.Perm (world.measured ++
      ((world.connection.request? id).toList.flatMap (·.probes)).map (·, result)))
  | down (live : world.connection.dead = false)
    (journal : world'.journal = world.journal ++ [.performed .disconnect, .tornDown])
    (roster : world'.connection.roster =
      { world.connection.roster with probes := [], pending := [] })
    (measured : world'.measured.Perm (world.measured ++
      world.connection.waiters.map (·, .error .disconnected)))

/-- Measurements are known anew by the pieces that a step leaves behind, less those it uses up. -/
theorem measured_perm {before used left after : List Work}
    {new : List (ProbeId × Except Failure Unit)}
    (works : world.works = before ++ used ++ after)
    (works' : world'.works = before ++ left ++ after)
    (change : (world'.connection.measurements ++ left.flatMap Work.measures).Perm
      (world.connection.measurements ++ used.flatMap Work.measures ++ new)) :
    world'.measured.Perm (world.measured ++ new) := by
  rw [measured, measured, works, works']
  simp only [List.flatMap_append]
  exact perm_replaced change

/-- A result may pass from a piece of work to the connection without any becoming known. -/
theorem measured_same {before used left after : List Work}
    (works : world.works = before ++ used ++ after)
    (works' : world'.works = before ++ left ++ after)
    (change : (world'.connection.measurements ++ left.flatMap Work.measures).Perm
      (world.connection.measurements ++ used.flatMap Work.measures)) :
    world'.measured.Perm world.measured := by
  rw [← List.append_nil (world.connection.measurements ++ _)] at change
  have same := measured_perm works works' change
  rwa [List.append_nil] at same

/-- A command that is issued takes the probes that wait, whoever issues it. -/
theorem probeStep_issue (front : List Entry) (notices : List Notice)
    {before used after : List Work} {command : Command} {data : Bytes}
    (accepts : world.connection.dead = false → world.connection.outboundOpen = true)
    (mute : ∀ entry ∈ front, entry.Mute) (none : used.flatMap Work.measures = [])
    (connection : world'.connection = ({ world.connection with notices }.issue command data).2.2)
    (journal : world'.journal =
      world.journal ++ (front ++ { world.connection with notices }.issueEntries command data))
    (works : world.works = before ++ used ++ after)
    (works' : world'.works =
      before ++ ({ world.connection with notices }.issue command data).2.1 ++ after) :
    ProbeStep world world' := by
  rcases world.connection.dead.eq_false_or_eq_true with dead | live
  · have dead' : { world.connection with notices }.dead = true := dead
    rw [Connection.issue_of_dead dead'] at connection works'
    rw [Connection.issueEntries_of_dead dead', List.append_nil] at journal
    exact .quiet journal mute (by rw [connection]; rfl)
      (measured_same works works' (by rw [connection, none]; exact .refl _))
  · have live' : { world.connection with notices }.dead = false := live
    have accepts' : { world.connection with notices }.outboundOpen = true := accepts live
    rw [Connection.issue_of_open live' accepts'] at connection works'
    rw [Connection.issueEntries_of_open live' accepts'] at journal
    refine .issue command data live journal mute (by rw [connection]; rfl) ?_
    have free : ∀ work ∈ { world.connection with notices }.evicted command ++ [.countSent],
        work.free := by
      intro work mem
      obtain evicted | counted := List.mem_append.mp mem
      · exact Work.free_of_aside (Connection.evicted_aside command work evicted)
      · rw [List.mem_singleton.mp counted]
        rfl
    apply measured_perm works works'
    rw [connection, none, measures_of_free free, List.append_nil, List.append_nil,
      List.map_flatMap]
    exact .refl _

/-- A step that leaves the probes alone. -/
theorem probeStep_quiet {used entries left} (spares : world.connection.Spares world'.connection)
    (journal : world'.journal = world.journal ++ entries) (mute : ∀ entry ∈ entries, entry.Mute)
    (replaced : Replaced world world' used left)
    (same : left.flatMap Work.measures = used.flatMap Work.measures) : ProbeStep world world' := by
  obtain ⟨before, after, works, works'⟩ := replaced.works
  refine .quiet journal mute spares.roster (measured_same works works' ?_)
  rw [spares.measurements, same]

/-- A piece of work does one of these things to the probes. -/
theorem probeStep_perform {work : Work}
    (accepts : world.connection.dead = false → world.connection.outboundOpen = true)
    (connection : world'.connection = (world.connection.perform work).2)
    (journal : world'.journal = world.journal ++ world.connection.workEntries work)
    (replaced : Replaced world world' [work] (world.connection.perform work).1) :
    ProbeStep world world' := by
  obtain ⟨before, after, works, works'⟩ := replaced.works
  have pieces (aside : work.aside)
      (entries : world.connection.workEntries work = [.performed work]) :
      ProbeStep world world' := by
    refine probeStep_quiet (connection ▸ Connection.spares_perform aside) journal ?_ replaced ?_
    · rw [entries]
      exact List.forall_mem_singleton.mpr (Entry.mute_of_aside (Entry.aside_performed aside) rfl)
    · rw [measures_of_free, measures_of_free]
      · simpa using Work.free_of_aside aside
      · intro left mem
        obtain aside | rfl | ⟨payload, rfl⟩ := Connection.perform_aside aside left mem
        · exact Work.free_of_aside aside
        · rfl
        · rfl
  -- What a piece of work has handed out it need not hand out any more.
  have settled (request : Request) (outcome : Except Failure Bytes) (result : Except Failure Unit)
      (after : world.connection.perform work =
        ([], world.connection.settle request outcome result))
      (journal : world'.journal = world.journal ++ [.performed work])
      (measures : work.measures = request.probes.map (·, result))
      (mute : (Entry.performed work).Mute) :
      ProbeStep world world' := by
    rw [after] at connection works'
    refine .quiet journal (List.forall_mem_singleton.mpr mute) (by rw [connection]; rfl)
      (measured_same works works' ?_)
    rw [connection]
    simp [Connection.settle, measures]
  cases work with
  | replied reply =>
    obtain ⟨left, -⟩ := world.connection.perform_replied reply
    have spares := world.connection.spares_replied reply
    refine .decide reply.id (.ok ()) journal rfl rfl rfl (fun _ => rfl)
      (connection ▸ spares.roster) (measured_perm works works' ?_)
    rw [connection, spares.measurements, left]
    cases world.connection.request? reply.id <;> simp [Work.measures, Connection.take]
  | abandon id failure =>
    obtain ⟨left, -⟩ := world.connection.perform_abandon id failure
    have spares := world.connection.spares_abandon id failure
    refine .decide id (.error .disconnected) journal rfl rfl rfl (fun _ => rfl)
      (connection ▸ spares.roster) (measured_perm works works' ?_)
    rw [connection, spares.measurements, left]
    cases world.connection.request? id <;> simp [Work.measures, Connection.take]
  | resolve request reply =>
    exact settled request _ (.ok ()) rfl journal rfl ⟨⟨rfl, fun _ => rfl⟩, rfl⟩
  | fail request failure =>
    exact settled request _ (.error .disconnected) rfl journal rfl ⟨⟨rfl, fun _ => rfl⟩, rfl⟩
  | suspended =>
    exact probeStep_quiet (connection ▸ Connection.spares_noteSuspended) journal
      (List.forall_mem_singleton.mpr ⟨⟨rfl, fun _ => rfl⟩, rfl⟩) replaced rfl
  | dispose payload =>
    exact probeStep_issue _ world.connection.notices accepts
      (List.forall_mem_singleton.mpr (Entry.mute_of_aside rfl rfl)) rfl connection journal works
      works'
  | disconnect =>
    rcases world.connection.dead.eq_false_or_eq_true with dead | live
    · have still : world.connection.disconnect = ([], world.connection) := if_pos dead
      have none : (world.connection.perform .disconnect).1 = [] := congrArg (·.1) still
      have entries : world.connection.workEntries .disconnect = [.performed .disconnect] := by
        simp [Connection.workEntries, dead]
      refine probeStep_quiet ?_ journal ?_ replaced (by rw [none]; rfl)
      · rw [connection, Connection.perform, still]
        exact ⟨rfl, rfl⟩
      · rw [entries]
        exact List.forall_mem_singleton.mpr (Entry.mute_of_aside rfl rfl)
    · have entries : world.connection.workEntries .disconnect =
          [.performed .disconnect, .tornDown] := by simp [Connection.workEntries, live]
      obtain ⟨roster, measurements⟩ := Connection.disconnect_probes live
      refine .down live (entries ▸ journal) (connection ▸ roster) (measured_perm works works' ?_)
      have left : (world.connection.perform .disconnect).1 = world.connection.disconnect.1 := rfl
      have after : (world.connection.perform .disconnect).2 = world.connection.disconnect.2 := rfl
      rw [connection, after, left, measurements, Connection.disconnect_measures live,
        Connection.waiters, List.map_append, List.append_assoc]
      simp only [List.flatMap_cons, List.flatMap_nil, Work.measures, List.append_nil]
      exact List.perm_append_comm.append_left _
  | queueClose =>
    exact probeStep_quiet (connection ▸ ⟨rfl, rfl⟩) journal
      (List.forall_mem_singleton.mpr ⟨⟨rfl, fun _ => rfl⟩, rfl⟩) replaced rfl
  | publish batch => exact pieces rfl rfl
  | discard values => exact pieces rfl rfl
  | release lease => exact pieces rfl rfl
  | reclaim object retained => exact pieces rfl rfl
  | queueDisposal object retained => exact pieces rfl rfl
  | flush => exact pieces rfl rfl
  | sendBatch counts => exact pieces rfl rfl
  | countSent => exact pieces rfl rfl
  | close => exact pieces rfl rfl
  | clearDisposals => exact pieces rfl rfl
  | closeFeed => exact pieces rfl rfl
  | markClosed => exact pieces rfl rfl

/-- What a move does to the probes. -/
theorem Does.probeStep (does : Does world world')
    (accepts : world.connection.dead = false → world.connection.outboundOpen = true) :
    ProbeStep world world' := by
  obtain ⟨used, entries, left, deed, journal, replaced⟩ := does
  have quiet (spares : world.connection.Spares world'.connection)
      (mute : ∀ entry ∈ entries, entry.Mute)
      (same : left.flatMap Work.measures = used.flatMap Work.measures) :
      ProbeStep world world' := probeStep_quiet spares journal mute replaced same
  have plainly (plain : ∀ entry ∈ entries, entry.plain) : ∀ entry ∈ entries, entry.Mute := by
    intro entry mem
    have plain := plain entry mem
    refine Entry.mute_of_aside (Entry.aside_of_plain plain) ?_
    cases entry <;> first | rfl | cases plain
  obtain ⟨before, after, works, works'⟩ := replaced.works
  generalize same : world'.connection = connection at deed
  cases deed with
  | perform work => exact probeStep_perform accepts same journal replaced
  | issue command data notices =>
    exact probeStep_issue [] notices accepts (by simp) rfl same journal works works'
  | adopt notices idSizes handles feed plain arrive =>
    exact quiet (same ▸ ⟨rfl, rfl⟩) (plainly plain)
      (measures_of_free fun work mem => Work.free_of_arrives (arrive work mem))
  | fail failure notices writing =>
    exact quiet (same ▸ ⟨rfl, rfl⟩) (plainly (List.forall_mem_singleton.mpr rfl)) rfl
  | @take message rest notices receiving first =>
    refine quiet (same ▸ ⟨rfl, rfl⟩) ?_ rfl
    cases message with
    | frame id bytes => exact List.forall_mem_singleton.mpr ⟨⟨rfl, fun _ => rfl⟩, rfl⟩
    | close => exact List.forall_mem_nil _
  | drain draining idle =>
    refine quiet (same ▸ ⟨rfl, rfl⟩) (List.forall_mem_nil _) ?_
    rcases world.engine.connection.outbound.head? with _ | _ | _ <;> rfl
  | cloneAll ids plain => exact quiet (same ▸ ⟨rfl, rfl⟩) (plainly plain) rfl
  | acquire object =>
    exact quiet (same ▸ ⟨rfl, rfl⟩) (List.forall_mem_singleton.mpr ⟨⟨rfl, fun _ => rfl⟩, rfl⟩) rfl
  | probe =>
    rcases world.connection.dead.eq_false_or_eq_true with dead | live
    · have none : world.connection.probe.2 = _ := Connection.probe_of_dead dead
      have after : world'.connection = world.connection.probe.2 := same
      rw [none] at after
      refine .late dead journal (by rw [after]; rfl) (measured_perm works works' ?_)
      rw [after]
      simp
    · have some : world.connection.probe.2 = _ := Connection.probe_of_live live
      have after : world'.connection = world.connection.probe.2 := same
      rw [some] at after
      refine .register live journal (by rw [after]; rfl) (measured_same works works' ?_)
      rw [after]
  | store n key stamp value =>
    exact quiet (same ▸ Connection.spares_store key stamp value)
      (List.forall_mem_singleton.mpr ⟨⟨rfl, fun _ => rfl⟩, rfl⟩) rfl
  | invalidate =>
    exact quiet (same ▸ Connection.spares_invalidate)
      (List.forall_mem_singleton.mpr ⟨⟨rfl, fun _ => rfl⟩, rfl⟩)
      (measures_of_free fun work mem => Work.free_of_aside (Connection.invalidate_aside work mem))

theorem probeStep_play (config : Config) (moves : List Move) (move : Move) :
    ProbeStep (play config moves) ((play config moves).step move) :=
  (does_step (tidy_play config moves) move).probeStep (shutdown_play config moves).accepts

/-! ## None is made and none is lost -/

/-- Every probe that was handed out waits or was measured, and no two of them are one. -/
structure Mustered (world : World) : Prop where
  handed : probesOf world.journal = List.range world.connection.nextProbe
  kept : (world.connection.waiters ++ world.measured.map (·.1)).Perm (probesOf world.journal)

namespace Mustered

/-- Probes come to those that wait, and pass from these to those that were measured. -/
theorem advance (mustered : Mustered world) (fresh passed : List ProbeId)
    (result : Except Failure Unit)
    (journal : probesOf world'.journal = probesOf world.journal ++ fresh)
    (handed : probesOf world'.journal = List.range world'.connection.nextProbe)
    (waiters : (world.connection.waiters ++ fresh).Perm (world'.connection.waiters ++ passed))
    (measured : world'.measured.Perm (world.measured ++ passed.map (·, result))) :
    Mustered world' := by
  have known := measured.map (·.1)
  rw [List.map_append, List.map_map] at known
  have same : passed.map ((·.1) ∘ fun probe => (probe, result)) = passed := List.map_id' passed
  rw [same] at known
  refine ⟨handed, ?_⟩
  have kept := mustered.kept
  rw [journal]
  rw [List.perm_iff_count] at kept waiters known ⊢
  intro probe
  have kept := kept probe
  have waiters := waiters probe
  have known := known probe
  simp only [List.count_append] at kept waiters known ⊢
  omega

/-- Taking out the requests under an id leaves the probes of the others. -/
theorem perm_flatMap_filter (pending : List Request) (id : UInt32) :
    (pending.flatMap (·.probes)).Perm ((pending.filter (·.id != id)).flatMap (·.probes) ++
      (pending.filter (·.id == id)).flatMap (·.probes)) := by
  rw [← List.flatMap_append]
  refine .flatMap_right _ (.symm ?_)
  have parts := List.filter_append_perm (fun request : Request => request.id != id) pending
  simpa [bne] using parts

theorem step (mustered : Mustered world) (settled : Settled world)
    (step : ProbeStep world world') : Mustered world' := by
  have same {roster : Roster} (roster' : world'.connection.roster = roster) :
      world'.connection.nextProbe = roster.nextProbe ∧
        world'.connection.waiters = roster.waiters :=
    ⟨congrArg Roster.nextProbe roster', congrArg Roster.waiters roster'⟩
  cases step with
  | quiet journal mute roster measured =>
    obtain ⟨next, waiters⟩ := same roster
    have none : probesOf world'.journal = probesOf world.journal ++ [] := by
      rw [journal, probesOf_append, probesOf_of_mute mute]
    refine mustered.advance [] [] (.ok ()) none ?_ ?_ (by simpa using measured)
    · rw [none, List.append_nil, next]
      exact mustered.handed
    · rw [waiters]
      exact .refl _
  | register live journal roster measured =>
    obtain ⟨next, waiters⟩ := same roster
    have one : probesOf world'.journal =
        probesOf world.journal ++ [world.connection.nextProbe] := by
      rw [journal, probesOf_append]
      rfl
    refine mustered.advance _ [] (.ok ()) one ?_ ?_ (by simpa using measured)
    · rw [one, mustered.handed, next, List.range_succ]
    · rw [waiters, List.append_nil, Connection.waiters, List.append_assoc]
      exact .refl _
  | late dead journal roster measured =>
    obtain ⟨next, waiters⟩ := same roster
    have one : probesOf world'.journal =
        probesOf world.journal ++ [world.connection.nextProbe] := by
      rw [journal, probesOf_append]
      rfl
    refine mustered.advance _ [world.connection.nextProbe] (.error .disconnected) one ?_ ?_
      measured
    · rw [one, mustered.handed, next, List.range_succ]
    · rw [waiters]
      exact .refl _
  | issue command data live journal mute roster measured =>
    obtain ⟨next, waiters⟩ := same roster
    have none : probesOf world'.journal = probesOf world.journal ++ [] := by
      rw [journal, probesOf_append, probesOf_append, probesOf_of_mute mute]
      rfl
    refine mustered.advance [] _ (.error .disconnected) none ?_ ?_ measured
    · rw [none, List.append_nil, next]
      exact mustered.handed
    · have taken : world'.connection.waiters =
          (world.connection.pending.filter (·.id != world.connection.nextId)).flatMap (·.probes) ++
            world.connection.probes := by
        rw [waiters]
        simp [Roster.waiters, Connection.roster, Connection.send, Connection.enrol,
          Connection.nextRequest]
      rw [taken, List.append_nil, Connection.waiters, List.append_assoc]
      refine ((perm_flatMap_filter _ world.connection.nextId).append_right _).trans ?_
      rw [List.append_assoc]
      exact List.perm_append_comm.append_left _
  | decide id result journal issue probe last timing roster measured =>
    obtain ⟨next, waiters⟩ := same roster
    have none : probesOf world'.journal = probesOf world.journal ++ [] := by
      rw [journal, probesOf_append]
      simp [probesOf, probe]
    refine mustered.advance [] _ result none ?_ ?_ measured
    · rw [none, List.append_nil, next]
      exact mustered.handed
    · rw [waiters, List.append_nil, ← settled.filter_id id, Connection.waiters]
      refine ((perm_flatMap_filter _ id).append_right _).trans ?_
      rw [List.append_assoc]
      refine (List.perm_append_comm.append_left _).trans ?_
      rw [← List.append_assoc]
      exact .refl _
  | down live journal roster measured =>
    obtain ⟨next, waiters⟩ := same roster
    have none : probesOf world'.journal = probesOf world.journal ++ [] := by
      rw [journal, probesOf_append]
      rfl
    refine mustered.advance [] _ (.error .disconnected) none ?_ ?_ measured
    · rw [none, List.append_nil, next]
      exact mustered.handed
    · rw [waiters, List.append_nil]
      exact .refl _

/-- The next probe was not handed out before. -/
theorem fresh (mustered : Mustered world) :
    world.connection.nextProbe ∉ probesOf world.journal := by
  rw [mustered.handed, List.mem_range]
  exact Nat.lt_irrefl _

/-- A probe is in just one place. -/
theorem nodup (mustered : Mustered world) :
    (world.connection.waiters ++ world.measured.map (·.1)).Nodup := by
  rw [mustered.kept.nodup_iff, mustered.handed]
  exact List.nodup_range

/-- A probe that was handed out and does not wait was measured. -/
theorem waits_or_measured (mustered : Mustered world) {probe : ProbeId}
    (mem : probe ∈ probesOf world.journal) :
    probe ∈ world.connection.waiters ∨ ∃ result, (probe, result) ∈ world.measured := by
  rw [← mustered.kept.mem_iff, List.mem_append] at mem
  refine mem.imp_right fun mem => ?_
  obtain ⟨⟨_, result⟩, found, rfl⟩ := List.mem_map.mp mem
  exact ⟨result, found⟩

/-- What was handed out for a probe is found under it. -/
theorem measurement_of_mem (mustered : Mustered world) {probe : ProbeId}
    {result : Except Failure Unit} (mem : (probe, result) ∈ world.connection.measurements) :
    world.connection.measurement? probe = some result := by
  have distinct := (List.nodup_append.mp mustered.nodup).2.1
  rw [measured, List.map_append, List.nodup_append] at distinct
  exact lookup_eq_of_nodup distinct.1 mem

end Mustered

theorem mustered_play (config : Config) (moves : List Move) :
    Mustered (play config moves) := by
  refine play_induction (P := fun _ world => Mustered world) ?_ ?_ moves
  · exact ⟨rfl, .refl _⟩
  · intro moves move mustered
    exact mustered.step (settled_play config moves) (probeStep_play config moves move)

/-- What was measured once was measured ever after. -/
theorem mem_measured_step {known : ProbeId × Except Failure Unit} (step : ProbeStep world world')
    (mem : known ∈ world.measured) : known ∈ world'.measured := by
  cases step with
  | quiet journal mute roster measured => exact measured.mem_iff.mpr mem
  | register live journal roster measured => exact measured.mem_iff.mpr mem
  | late dead journal roster measured =>
    exact measured.mem_iff.mpr (List.mem_append_left _ mem)
  | issue command data live journal mute roster measured =>
    exact measured.mem_iff.mpr (List.mem_append_left _ mem)
  | decide id result journal issue probe last timing roster measured =>
    exact measured.mem_iff.mpr (List.mem_append_left _ mem)
  | down live journal roster measured =>
    exact measured.mem_iff.mpr (List.mem_append_left _ mem)

theorem mem_measured_play (config : Config) (moves more : List Move)
    {known : ProbeId × Except Failure Unit} (mem : known ∈ (play config moves).measured) :
    known ∈ (play config (moves ++ more)).measured := by
  induction more using List.reverseRecOn with
  | nil => rwa [List.append_nil]
  | append_singleton more move ih =>
    rw [← List.append_assoc, play_append]
    exact mem_measured_step (probeStep_play config (moves ++ more) move) ih

/-- What was measured is handed out in the end: whoever holds the piece of work performs it. -/
theorem exists_measurement (config : Config) (moves : List Move) :
    ∃ more : List Move, (∀ move ∈ more, performs move) ∧
      ∀ known ∈ (play config moves).measured,
        (play config (moves ++ more)).connection.measurement? known.1 = some known.2 := by
  obtain ⟨more, performing, none⟩ := exists_idle_play config moves
  refine ⟨more, performing, fun known mem => ?_⟩
  have later := mem_measured_play config moves more mem
  rw [measured, none, List.flatMap_nil, List.append_nil] at later
  exact (mustered_play config (moves ++ more)).measurement_of_mem later

end World

end DebugLink
