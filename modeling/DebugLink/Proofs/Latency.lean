import DebugLink.Proofs.Probes
import Mathlib.Data.List.TakeWhile

/-!
# Latency: what becomes of a probe

A journal says which command a probe travels with, which is the next that was issued (`carrier?`),
and what became of the probe (`reading?`): of what comes first, a reply to the command, its end
without one, or the end of the connection. A probe without a command waits as long as the
connection is up.

As long as no id has been given twice, the probes are where the journal says (`Timed`).

Main statement: `probes_resolve`.
-/

namespace DebugLink

/-- What happened from the moment on in which a probe was handed out. -/
def onward (probe : ProbeId) (journal : List Entry) : List Entry :=
  journal.dropWhile fun entry => entry.probe? != some probe

/-- The next command that was issued after a probe was handed out. -/
def carrier? (probe : ProbeId) (journal : List Entry) : Option Receipt :=
  (receipts (onward probe journal)).head?

/-- What became of the probes that travel with a command. -/
def trip? (receipt : Receipt) (journal : List Entry) : Option (Except Failure Unit) :=
  (since receipt journal).findSome? (Entry.timing? receipt.id)

/-- What became of a probe: that of its command, or nothing if none came before the end. -/
def reading? (probe : ProbeId) (journal : List Entry) : Option (Except Failure Unit) :=
  match carrier? probe journal with
  | some receipt => trip? receipt journal
  | none => if journal.any Entry.last then some (.error .disconnected) else none

variable {journal entries : List Entry} {probe : ProbeId} {receipt : Receipt}

/-! ## What a journal says later on -/

theorem onward_append (mem : probe ∈ probesOf journal) :
    onward probe (journal ++ entries) = onward probe journal ++ entries := by
  obtain ⟨entry, mem, handed⟩ := List.mem_filterMap.mp mem
  have some : onward probe journal ≠ [] := by
    intro none
    have passed := List.dropWhile_eq_nil_iff.mp none entry mem
    simp [handed] at passed
  rw [onward, List.dropWhile_append, if_neg]
  · rfl
  · rw [List.isEmpty_iff]
    exact some

theorem carrier_append (mem : probe ∈ probesOf journal) :
    carrier? probe (journal ++ entries) =
      (carrier? probe journal).or (receipts entries).head? := by
  rw [carrier?, onward_append mem, receipts_append, List.head?_append, carrier?]

theorem mem_receipts_of_carrier (travels : carrier? probe journal = some receipt) :
    receipt ∈ receipts journal := by
  have sub : (receipts (onward probe journal)).Sublist (receipts journal) :=
    ((List.dropWhile_suffix _).sublist.filterMap _).map _
  exact sub.mem (List.mem_of_head? travels)

theorem trip_append (mem : receipt ∈ receipts journal) :
    trip? receipt (journal ++ entries) =
      (trip? receipt journal).or (entries.findSome? (Entry.timing? receipt.id)) := by
  rw [trip?, since_append_of_mem mem, List.findSome?_append, trip?]

/-- The probes of a command know what became of them when the command has met its fate. -/
theorem trip_eq_none_iff : trip? receipt journal = none ↔ fate receipt journal = none := by
  rw [trip?, fate, List.findSome?_eq_none_iff, List.findSome?_eq_none_iff]
  exact forall₂_congr fun entry _ => Entry.timing_eq_none_iff

theorem Entry.timing_of_silent {entry : Entry} (silent : entry.Silent) (id : UInt32) :
    entry.timing? id = none :=
  Entry.timing_eq_none_iff.mpr (silent.2 id)

theorem Entry.last_of_silent {entry : Entry} (silent : entry.Silent) : entry.last = false := by
  cases entry with
  | tornDown => exact absurd (silent.2 0) nofun
  | _ => rfl

theorem reading_of_carrier (travels : carrier? probe journal = some receipt) :
    reading? probe journal = trip? receipt journal := by
  rw [reading?, travels]

theorem reading_of_none (waits : carrier? probe journal = none) :
    reading? probe journal =
      if journal.any Entry.last then some (.error .disconnected) else none := by
  rw [reading?, waits]

/-- What is of no command and no verdict tells nothing of a probe that was handed out before. -/
theorem carrier_quiet (mem : probe ∈ probesOf journal) (issues : issues entries = []) :
    carrier? probe (journal ++ entries) = carrier? probe journal := by
  rw [carrier_append mem, receipts, issues]
  exact Option.or_none

theorem reading_quiet (mem : probe ∈ probesOf journal)
    (silent : ∀ entry ∈ entries, entry.Silent) :
    reading? probe (journal ++ entries) = reading? probe journal := by
  have same := carrier_quiet mem (issues_of_silent silent)
  cases travels : carrier? probe journal with
  | some receipt =>
    rw [reading_of_carrier (same.trans travels), reading_of_carrier travels,
      trip_append (mem_receipts_of_carrier travels), List.findSome?_eq_none_iff.mpr, Option.or_none]
    exact fun entry mem => Entry.timing_of_silent (silent entry mem) _
  | none =>
    have none : entries.any Entry.last = false := by
      rw [List.any_eq_false]
      exact fun entry mem => by simp [Entry.last_of_silent (silent entry mem)]
    rw [reading_of_none (same.trans travels), reading_of_none travels, List.any_append, none,
      Bool.or_false]

/-- With the connection all probes are given up that have not been measured. -/
theorem reading_down (mem : probe ∈ probesOf journal) :
    reading? probe (journal ++ [.performed .disconnect, .tornDown]) =
      (reading? probe journal).or (some (.error .disconnected)) := by
  have same : carrier? probe (journal ++ [.performed .disconnect, .tornDown]) = _ :=
    carrier_quiet mem rfl
  cases travels : carrier? probe journal with
  | some receipt =>
    rw [reading_of_carrier (same.trans travels), reading_of_carrier travels,
      trip_append (mem_receipts_of_carrier travels)]
    rfl
  | none =>
    rw [reading_of_none (same.trans travels), reading_of_none travels, List.any_append]
    cases journal.any Entry.last <;> rfl

/-- A probe that is handed out now has no command yet. -/
theorem carrier_fresh (fresh : probe ∉ probesOf journal) :
    carrier? probe (journal ++ [.probed probe]) = none := by
  have passed : journal.dropWhile (fun entry => entry.probe? != some probe) = [] := by
    refine List.dropWhile_eq_nil_iff.mpr fun entry mem => ?_
    rw [bne_iff_ne]
    intro handed
    exact fresh (List.mem_filterMap.mpr ⟨entry, mem, handed⟩)
  rw [carrier?, onward, List.dropWhile_append, passed, List.isEmpty_nil, if_pos rfl,
    List.dropWhile_cons_of_neg]
  · rfl
  · simp [Entry.probe?]

theorem reading_fresh (fresh : probe ∉ probesOf journal) :
    reading? probe (journal ++ [.probed probe]) =
      if journal.any Entry.last then some (.error .disconnected) else none := by
  have none : [Entry.probed probe].any Entry.last = false := rfl
  rw [reading_of_none (carrier_fresh fresh), List.any_append, none, Bool.or_false]

namespace World

variable {world world' : World}

theorem Shutdown.any_last (shutdown : Shutdown world) :
    world.journal.any Entry.last = world.connection.dead := by
  rw [Bool.eq_iff_iff, shutdown.died, List.any_eq_true]
  constructor
  · intro found
    obtain ⟨entry, mem, last⟩ := found
    cases entry with
    | tornDown => exact mem
    | _ => cases last
  · intro mem
    exact ⟨.tornDown, mem, rfl⟩

/-- The probes are where the journal says. -/
structure Timed (world : World) : Prop where
  waiting : world.connection.probes = (probesOf world.journal).filter fun probe =>
    (carrier? probe world.journal).isNone && (reading? probe world.journal).isNone
  riding : ∀ request ∈ world.connection.pending,
    request.probes = (probesOf world.journal).filter fun probe =>
      carrier? probe world.journal == some (request.receipt world.connection.name)
  measured : ∀ probe result, (probe, result) ∈ world.measured ↔
    probe ∈ probesOf world.journal ∧ reading? probe world.journal = some result

namespace Timed

theorem of_waiting (timed : Timed world) (mem : probe ∈ world.connection.probes) :
    probe ∈ probesOf world.journal ∧ carrier? probe world.journal = none ∧
      reading? probe world.journal = none := by
  rw [timed.waiting, List.mem_filter, Bool.and_eq_true, Option.isNone_iff_eq_none,
    Option.isNone_iff_eq_none] at mem
  exact mem

theorem mem_request (timed : Timed world) {request : Request}
    (pending : request ∈ world.connection.pending) :
    probe ∈ request.probes ↔ probe ∈ probesOf world.journal ∧
      carrier? probe world.journal = some (request.receipt world.connection.name) := by
  rw [timed.riding request pending, List.mem_filter, beq_iff_eq]

/-- A probe that waits has not been measured. -/
theorem of_waiter (timed : Timed world) (correlated : Correlated world)
    (mem : probe ∈ world.connection.waiters) :
    probe ∈ probesOf world.journal ∧ reading? probe world.journal = none := by
  obtain riding | waiting := List.mem_append.mp mem
  · obtain ⟨request, pending, mem⟩ := List.mem_flatMap.mp riding
    obtain ⟨handed, travels⟩ := (timed.mem_request pending).mp mem
    refine ⟨handed, ?_⟩
    rw [reading_of_carrier travels, trip_eq_none_iff]
    exact (correlated.of_mem_pending pending).2
  · obtain ⟨handed, -, unread⟩ := timed.of_waiting waiting
    exact ⟨handed, unread⟩

/-- Some results become known. -/
theorem known (timed : Timed world) (passed : List ProbeId) (result : Except Failure Unit)
    (measured : world'.measured.Perm (world.measured ++ passed.map (·, result)))
    (same : probesOf world'.journal = probesOf world.journal)
    (unread : ∀ probe ∈ passed,
      probe ∈ probesOf world.journal ∧ reading? probe world.journal = none)
    (later : ∀ probe ∈ probesOf world.journal, reading? probe world'.journal =
      (reading? probe world.journal).or (if probe ∈ passed then some result else none))
    (probe : ProbeId) (reading : Except Failure Unit) :
    (probe, reading) ∈ world'.measured ↔
      probe ∈ probesOf world'.journal ∧ reading? probe world'.journal = some reading := by
  rw [measured.mem_iff, List.mem_append, timed.measured, same]
  constructor
  · rintro (⟨mem, read⟩ | mem)
    · refine ⟨mem, ?_⟩
      rw [later probe mem, read, Option.some_or]
    · obtain ⟨other, passes, pair⟩ := List.mem_map.mp mem
      obtain ⟨rfl, rfl⟩ := Prod.mk.inj pair
      obtain ⟨mem, none⟩ := unread other passes
      refine ⟨mem, ?_⟩
      rw [later other mem, none, Option.none_or, if_pos passes]
  · rintro ⟨mem, read⟩
    rw [later probe mem] at read
    cases before : reading? probe world.journal with
    | some known =>
      rw [before, Option.some_or] at read
      exact .inl ⟨mem, read⟩
    | none =>
      rw [before, Option.none_or] at read
      split at read
      · next passes =>
        obtain rfl := Option.some.inj read
        exact .inr (List.mem_map_of_mem passes)
      · cases read

/-- Some probes are measured, and no probe and no command comes. -/
theorem settle (timed : Timed world) {entries : List Entry} (passed : List ProbeId)
    (result : Except Failure Unit) (journal : world'.journal = world.journal ++ entries)
    (none : probesOf entries = []) (issues : issues entries = [])
    (name : world'.connection.name = world.connection.name)
    (pending : ∀ request ∈ world'.connection.pending, request ∈ world.connection.pending)
    (probes : world'.connection.probes = world.connection.probes.filter (· ∉ passed))
    (unread : ∀ probe ∈ passed,
      probe ∈ probesOf world.journal ∧ reading? probe world.journal = .none)
    (later : ∀ probe ∈ probesOf world.journal, reading? probe world'.journal =
      (reading? probe world.journal).or (if probe ∈ passed then some result else .none))
    (measured : world'.measured.Perm (world.measured ++ passed.map (·, result))) :
    Timed world' := by
  have same : probesOf world'.journal = probesOf world.journal := by
    rw [journal, probesOf_append, none, List.append_nil]
  have carrier {probe} (mem : probe ∈ probesOf world.journal) :
      carrier? probe world'.journal = carrier? probe world.journal := by
    rw [journal, carrier_quiet mem issues]
  refine ⟨?_, ?_, timed.known passed result measured same unread later⟩
  · rw [probes, timed.waiting, List.filter_filter, same]
    refine List.filter_congr fun probe mem => ?_
    rw [carrier mem, later probe mem]
    by_cases passes : probe ∈ passed <;> simp [passes]
  · intro request mem
    rw [timed.riding request (pending request mem), same, name]
    refine List.filter_congr fun probe mem => ?_
    rw [carrier mem]

/-- Nothing happens to the probes. -/
theorem quiet (timed : Timed world) {entries : List Entry}
    (journal : world'.journal = world.journal ++ entries)
    (mute : ∀ entry ∈ entries, entry.Mute)
    (roster : world'.connection.roster = world.connection.roster)
    (measured : world'.measured.Perm world.measured) : Timed world' := by
  have silent : ∀ entry ∈ entries, entry.Silent := fun entry mem => (mute entry mem).1
  refine timed.settle [] (.ok ()) journal (probesOf_of_mute mute) (issues_of_silent silent)
    (congrArg Roster.name roster) ?_ ?_ nofun ?_ (by simpa using measured)
  · have pending : world'.connection.pending = world.connection.pending :=
      congrArg Roster.pending roster
    intro request mem
    rwa [pending] at mem
  · have probes : world'.connection.probes = world.connection.probes :=
      congrArg Roster.probes roster
    rw [probes]
    exact (List.filter_eq_self.mpr fun _ _ => by simp).symm
  · intro probe mem
    rw [journal, reading_quiet mem silent, if_neg List.not_mem_nil, Option.or_none]

/-- A verdict falls on an id, and on the probes that travel under it. -/
theorem decide (timed : Timed world) (settled : Settled world) (correlated : Correlated world)
    {entry : Entry} (id : UInt32) (result : Except Failure Unit)
    (journal : world'.journal = world.journal ++ [entry]) (issue : entry.issue? = none)
    (handed : entry.probe? = none) (last : entry.last = false)
    (timing : ∀ other, entry.timing? other = if id = other then some result else none)
    (roster : world'.connection.roster = (world.connection.take id).2.roster)
    (measured : world'.measured.Perm (world.measured ++
      ((world.connection.request? id).toList.flatMap (·.probes)).map (·, result))) :
    Timed world' := by
  have pending : world'.connection.pending = world.connection.pending.filter (·.id != id) :=
    congrArg Roster.pending roster
  have probes : world'.connection.probes = world.connection.probes :=
    congrArg Roster.probes roster
  -- Those that are measured travel with the request that is pending under the id.
  have passes_iff (probe) : probe ∈ (world.connection.request? id).toList.flatMap (·.probes) ↔
      ∃ request ∈ world.connection.pending, request.id = id ∧ probe ∈ request.probes := by
    rw [← settled.filter_id id, List.mem_flatMap]
    simp only [List.mem_filter, beq_iff_eq, and_assoc]
  refine timed.settle _ result journal ?_ ?_ (congrArg Roster.name roster) ?_ ?_ ?_ ?_ measured
  · simp [probesOf, handed]
  · simp [issues, issue]
  · intro request mem
    rw [pending] at mem
    exact (List.mem_filter.mp mem).1
  · rw [probes]
    refine (List.filter_eq_self.mpr fun probe mem => decide_eq_true ?_).symm
    intro passes
    obtain ⟨request, waits, -, rides⟩ := (passes_iff probe).mp passes
    have travels := ((timed.mem_request waits).mp rides).2
    rw [(timed.of_waiting mem).2.1] at travels
    cases travels
  · intro probe passes
    obtain ⟨request, waits, -, rides⟩ := (passes_iff probe).mp passes
    apply timed.of_waiter correlated
    exact List.mem_append_left _ (List.mem_flatMap.mpr ⟨request, waits, rides⟩)
  · intro probe mem
    have same : carrier? probe world'.journal = carrier? probe world.journal := by
      rw [journal, carrier_quiet mem]
      simp [issues, issue]
    cases travels : carrier? probe world.journal with
    | none =>
      have stays : ¬ probe ∈ (world.connection.request? id).toList.flatMap (·.probes) := by
        intro passes
        obtain ⟨request, waits, -, rides⟩ := (passes_iff probe).mp passes
        rw [((timed.mem_request waits).mp rides).2] at travels
        cases travels
      rw [reading_of_none (same.trans travels), reading_of_none travels, if_neg stays,
        Option.or_none, journal, List.any_append, List.any_cons, last, List.any_nil, Bool.or_self,
        Bool.or_false]
    | some receipt =>
      have issued := mem_receipts_of_carrier travels
      rw [reading_of_carrier (same.trans travels), reading_of_carrier travels, journal,
        trip_append issued, List.findSome?_singleton, timing]
      cases before : trip? receipt world.journal with
      | some known => rw [Option.some_or, Option.some_or]
      | none =>
        have hit : id = receipt.id ↔
            probe ∈ (world.connection.request? id).toList.flatMap (·.probes) := by
          rw [passes_iff]
          constructor
          · intro hit
            obtain ⟨request, waits, rfl⟩ :=
              correlated.exists_pending issued (trip_eq_none_iff.mp before)
            exact ⟨request, waits, hit.symm, (timed.mem_request waits).mpr ⟨mem, travels⟩⟩
          · intro passes
            obtain ⟨request, waits, hit, rides⟩ := passes
            have travels' := ((timed.mem_request waits).mp rides).2
            rw [travels] at travels'
            rw [Option.some.inj travels', ← hit]
            rfl
        simp only [Option.none_or, hit]

/-- The connection is torn down, and every probe that has not been measured is given up. -/
theorem down (timed : Timed world) (mustered : Mustered world) (correlated : Correlated world)
    (journal : world'.journal = world.journal ++ [.performed .disconnect, .tornDown])
    (roster : world'.connection.roster =
      { world.connection.roster with probes := [], pending := [] })
    (measured : world'.measured.Perm (world.measured ++
      world.connection.waiters.map (·, .error .disconnected))) : Timed world' := by
  have pending : world'.connection.pending = [] := congrArg Roster.pending roster
  have probes : world'.connection.probes = [] := congrArg Roster.probes roster
  refine timed.settle world.connection.waiters (.error .disconnected) journal rfl rfl
    (congrArg Roster.name roster) ?_ ?_ ?_ ?_ measured
  · intro request mem
    rw [pending] at mem
    cases mem
  · rw [probes]
    symm
    rw [List.filter_eq_nil_iff]
    intro probe mem
    have waits : probe ∈ world.connection.waiters := List.mem_append_right _ mem
    simpa using waits
  · intro probe mem
    exact timed.of_waiter correlated mem
  · intro probe mem
    rw [journal, reading_down mem]
    cases before : reading? probe world.journal with
    | some known => rw [Option.some_or, Option.some_or]
    | none =>
      have waits : probe ∈ world.connection.waiters := by
        obtain waits | ⟨result, measured⟩ := mustered.waits_or_measured mem
        · exact waits
        · rw [((timed.measured _ _).mp measured).2] at before
          cases before
      rw [if_pos waits]

/-- A command takes the probes that wait. -/
theorem issue (timed : Timed world) (correlated : Correlated world) (numbered : Numbered world)
    (shutdown : Shutdown world) (few : world'.connection.issued < UInt32.size)
    {entries : List Entry} (command : Command) (data : Bytes)
    (live : world.connection.dead = false)
    (journal : world'.journal =
      world.journal ++ (entries ++ [.issued world.connection.nextReceipt command data]))
    (mute : ∀ entry ∈ entries, entry.Mute)
    (roster : world'.connection.roster = (world.connection.send command data).roster)
    (measured : world'.measured.Perm (world.measured ++
      (world.connection.replaced.flatMap (·.probes)).map (·, .error .disconnected))) :
    Timed world' := by
  have name : world'.connection.name = world.connection.name := congrArg Roster.name roster
  have issued : world'.connection.issued = world.connection.issued + 1 :=
    congrArg Roster.issued roster
  have probes : world'.connection.probes = [] := congrArg Roster.probes roster
  have pending : world'.connection.pending =
      world.connection.pending.filter (·.id != world.connection.nextId) ++
        [world.connection.nextRequest command] := congrArg Roster.pending roster
  have silent : ∀ entry ∈ entries, entry.Silent := fun entry mem => (mute entry mem).1
  have same : probesOf world'.journal = probesOf world.journal := by
    rw [journal, probesOf_append, probesOf_append, probesOf_of_mute mute]
    exact List.append_nil _
  have replaced := correlated.replaced_eq_nil numbered (issued ▸ few)
  have fresh := numbered.fresh
  have unread {probe} (waits : carrier? probe world.journal = none) :
      reading? probe world.journal = none := by
    rw [reading_of_none waits, shutdown.any_last, live]
    rfl
  have carrier {probe} (mem : probe ∈ probesOf world.journal) :
      carrier? probe world'.journal =
        (carrier? probe world.journal).or (some world.connection.nextReceipt) := by
    rw [journal, carrier_append mem, receipts_append, receipts_of_silent silent]
    rfl
  have reading {probe} (mem : probe ∈ probesOf world.journal) :
      reading? probe world'.journal = reading? probe world.journal := by
    cases travels : carrier? probe world.journal with
    | some receipt =>
      have later : carrier? probe world'.journal = some receipt := by
        rw [carrier mem, travels, Option.some_or]
      have none : entries.findSome? (Entry.timing? receipt.id) = none :=
        List.findSome?_eq_none_iff.mpr fun entry mem => Entry.timing_of_silent (silent entry mem) _
      rw [reading_of_carrier later, reading_of_carrier travels, journal,
        trip_append (mem_receipts_of_carrier travels), List.findSome?_append, none]
      exact Option.or_none
    | none =>
      have later : carrier? probe world'.journal = some world.connection.nextReceipt := by
        rw [carrier mem, travels, Option.none_or]
      rw [unread travels, reading_of_carrier later, trip_eq_none_iff, journal]
      refine fate_issued ?_ command data
      rw [receipts_append, receipts_of_silent silent, List.append_nil]
      exact fresh
  refine ⟨?_, ?_, ?_⟩
  · rw [probes, same]
    symm
    rw [List.filter_eq_nil_iff]
    intro probe mem
    rw [carrier mem]
    cases carrier? probe world.journal <;> simp
  · intro request mem
    rw [same, name]
    rw [pending, List.mem_append, List.mem_singleton] at mem
    obtain kept | rfl := mem
    · have waits := (List.mem_filter.mp kept).1
      have other : world.connection.nextReceipt ≠ request.receipt world.connection.name := by
        intro next
        exact fresh (next ▸ (correlated.of_mem_pending waits).1)
      rw [timed.riding request waits]
      refine List.filter_congr fun probe mem => ?_
      rw [carrier mem]
      cases carrier? probe world.journal <;> simp [other]
    · show world.connection.probes = _
      rw [timed.waiting]
      refine List.filter_congr fun probe mem => ?_
      have receipt : (world.connection.nextRequest command).receipt world.connection.name =
          world.connection.nextReceipt := rfl
      rw [carrier mem, receipt]
      cases travels : carrier? probe world.journal with
      | none => simp [unread travels]
      | some other =>
        have before : other ≠ world.connection.nextReceipt := by
          intro next
          exact fresh (next ▸ mem_receipts_of_carrier travels)
        simp [before]
  · refine timed.known [] (.error .disconnected) (by simpa [replaced] using measured) same nofun ?_
    intro probe mem
    rw [reading mem, if_neg List.not_mem_nil, Option.or_none]

/-- A probe is handed out, and its reading is known at once or not at all. -/
theorem hand (timed : Timed world) (mustered : Mustered world)
    (reading : Option (Except Failure Unit))
    (journal : world'.journal = world.journal ++ [.probed world.connection.nextProbe])
    (read : reading? world.connection.nextProbe world'.journal = reading)
    (name : world'.connection.name = world.connection.name)
    (pending : world'.connection.pending = world.connection.pending)
    (probes : world'.connection.probes = world.connection.probes ++
      if reading.isNone then [world.connection.nextProbe] else [])
    (measured : world'.measured.Perm
      (world.measured ++ (reading.map (world.connection.nextProbe, ·)).toList)) :
    Timed world' := by
  have waits : carrier? world.connection.nextProbe world'.journal = none := by
    rw [journal]
    exact carrier_fresh mustered.fresh
  have handed : probesOf world'.journal =
      probesOf world.journal ++ [world.connection.nextProbe] := by
    rw [journal, probesOf_append]
    rfl
  have silent : ∀ entry ∈ [Entry.probed world.connection.nextProbe], entry.Silent :=
    List.forall_mem_singleton.mpr ⟨rfl, fun _ => rfl⟩
  have carrier {probe} (mem : probe ∈ probesOf world.journal) :
      carrier? probe world'.journal = carrier? probe world.journal := by
    rw [journal, carrier_quiet mem rfl]
  have same {probe} (mem : probe ∈ probesOf world.journal) :
      reading? probe world'.journal = reading? probe world.journal := by
    rw [journal, reading_quiet mem silent]
  refine ⟨?_, ?_, ?_⟩
  · rw [probes, handed, List.filter_append, timed.waiting]
    congr 1
    · refine List.filter_congr fun probe mem => ?_
      rw [carrier mem, same mem]
    · rw [List.filter_singleton, waits, read]
      cases reading <;> rfl
  · intro request mem
    rw [pending] at mem
    rw [timed.riding request mem, handed, name, List.filter_append, List.filter_singleton, waits]
    symm
    refine (List.append_nil _).trans (List.filter_congr fun probe mem => ?_)
    rw [carrier mem]
  · intro probe result
    rw [measured.mem_iff, List.mem_append, timed.measured, handed, List.mem_append,
      List.mem_singleton]
    constructor
    · intro known
      obtain ⟨mem, known⟩ | now := known
      · exact ⟨.inl mem, (same mem).trans known⟩
      · rw [Option.mem_toList] at now
        obtain ⟨result, given, pair⟩ := Option.map_eq_some_iff.mp now
        obtain ⟨rfl, rfl⟩ := Prod.mk.inj pair
        exact ⟨.inr rfl, read.trans given⟩
    · intro known
      obtain ⟨mem | rfl, known⟩ := known
      · exact .inl ⟨mem, (same mem).symm.trans known⟩
      · rw [read] at known
        rw [known]
        exact .inr (List.mem_singleton_self _)

/-- The probes stay where the journal says. -/
theorem step (timed : Timed world) (mustered : Mustered world) (settled : Settled world)
    (correlated : Correlated world) (numbered : Numbered world) (shutdown : Shutdown world)
    (few : world'.connection.issued < UInt32.size) (step : ProbeStep world world') :
    Timed world' := by
  cases step with
  | quiet journal mute roster measured => exact timed.quiet journal mute roster measured
  | register live journal roster measured =>
    refine timed.hand mustered none journal ?_ (congrArg Roster.name roster)
      (congrArg Roster.pending roster) (congrArg Roster.probes roster) (by simpa using measured)
    rw [journal, reading_fresh mustered.fresh, shutdown.any_last, live]
    rfl
  | late dead journal roster measured =>
    refine timed.hand mustered (some (.error .disconnected)) journal ?_
      (congrArg Roster.name roster) (congrArg Roster.pending roster) ?_ measured
    · rw [journal, reading_fresh mustered.fresh, shutdown.any_last, dead]
      rfl
    · rw [Option.isNone_some]
      exact (congrArg Roster.probes roster).trans (List.append_nil _).symm
  | issue command data live journal mute roster measured =>
    exact timed.issue correlated numbered shutdown few command data live journal mute roster
      measured
  | decide id result journal issue probe last timing roster measured =>
    exact timed.decide settled correlated id result journal issue probe last timing roster
      measured
  | down live journal roster measured =>
    exact timed.down mustered correlated journal roster measured

end Timed

theorem timed_play (config : Config) (moves : List Move)
    (few : (play config moves).connection.issued < UInt32.size) : Timed (play config moves) := by
  induction moves using List.reverseRecOn with
  | nil =>
    refine ⟨rfl, nofun, fun probe result => ?_⟩
    simp [ofConfig, measured, works, others, connection, Connection.ofConfig, probesOf]
  | append_singleton moves move ih =>
    have fewer := Nat.lt_of_le_of_lt (issued_le (turns_play config moves move).request)
      (play_append config moves move ▸ few)
    rw [play_append] at few ⊢
    exact (ih fewer).step (mustered_play config moves) (settled_play config moves)
      (correlated_play config moves fewer) (numbered_play config moves)
      (shutdown_play config moves) few (probeStep_play config moves move)

namespace Timed

/-- A probe waits just if it was handed out and has not been measured. -/
theorem mem_waiters_iff (timed : Timed world) (mustered : Mustered world)
    (correlated : Correlated world) :
    probe ∈ world.connection.waiters ↔
      probe ∈ probesOf world.journal ∧ reading? probe world.journal = none := by
  constructor
  · exact timed.of_waiter correlated
  · rintro ⟨mem, unread⟩
    obtain waits | ⟨result, measured⟩ := mustered.waits_or_measured mem
    · exact waits
    · rw [((timed.measured _ _).mp measured).2] at unread
      cases unread

/-- It is counted once then, and else not at all. -/
theorem count_waiters (timed : Timed world) (mustered : Mustered world)
    (correlated : Correlated world) (mem : probe ∈ probesOf world.journal) :
    world.connection.waiters.count probe =
      if (reading? probe world.journal).isNone then 1 else 0 := by
  have distinct := (List.nodup_append.mp mustered.nodup).1
  have waits : probe ∈ world.connection.waiters ↔ _ := timed.mem_waiters_iff mustered correlated
  split
  · next unread =>
    exact List.count_eq_one_of_mem distinct
      (waits.mpr ⟨mem, Option.isNone_iff_eq_none.mp unread⟩)
  · next read =>
    refine List.count_eq_zero_of_not_mem fun member => read ?_
    exact Option.isNone_iff_eq_none.mpr (waits.mp member).2

end Timed

/-- In a run that issues no more commands than there are ids, a probe that was handed out on a live
connection waits until the next command is issued, which takes all that wait, and travels with that
command. It is measured when the command is answered, and given up if the command ends without a
reply, or the connection ends, before that; on a dead connection it is given up at once. Until then
it is in just one place. What became of it is handed out once, as soon as the pieces of work that
are left are performed. -/
theorem probes_resolve (config : Config) (moves : List Move)
    (few : (play config moves).connection.issued < UInt32.size) :
    let world := play config moves
    let connection := world.connection
    let journal := world.journal
    (probesOf journal).Nodup ∧
    (connection.dead = false → (world.step (.start .measure)).connection.probes =
      connection.probes ++ [connection.nextProbe]) ∧
    (connection.dead = true → (world.step (.start .measure)).connection.measurement?
      connection.nextProbe = some (.error .disconnected)) ∧
    connection.probes = (probesOf journal).filter (fun probe =>
      (carrier? probe journal).isNone && (reading? probe journal).isNone) ∧
    (∀ request ∈ connection.pending,
      request.receipt connection.name ∈ receipts journal ∧
      request.probes = (probesOf journal).filter fun probe =>
        carrier? probe journal == some (request.receipt connection.name)) ∧
    (∀ probe ∈ probesOf journal, connection.waiters.count probe =
      if (reading? probe journal).isNone then 1 else 0) ∧
    (∀ probe result, (probe, result) ∈ world.measured ↔
      probe ∈ probesOf journal ∧ reading? probe journal = some result) ∧
    (world.measured.map (·.1)).Nodup ∧
    (∀ probe result, connection.measurement? probe = some result →
      reading? probe journal = some result) ∧
    ∃ more : List Move, (∀ move ∈ more, performs move) ∧
      ∀ probe ∈ probesOf journal, ∀ result, reading? probe journal = some result →
        (play config (moves ++ more)).connection.measurement? probe = some result := by
  intro world connection journal
  have mustered : Mustered world := mustered_play config moves
  have correlated : Correlated world := correlated_play config moves few
  have timed : Timed world := timed_play config moves few
  refine ⟨?_, ?_, ?_, timed.waiting, ?_, ?_, timed.measured, ?_, ?_, ?_⟩
  · rw [mustered.handed]
    exact List.nodup_range
  · intro live
    have after : (world.step (.start .measure)).connection = connection.probe.2 := rfl
    rw [after, Connection.probe_of_live live]
  · intro dead
    have after : (world.step (.start .measure)).connection = connection.probe.2 := rfl
    have later := mustered_play config (moves ++ [.start .measure])
    rw [play_append] at later
    apply later.measurement_of_mem
    rw [after, Connection.probe_of_dead dead]
    exact List.mem_append_right _ (List.mem_singleton_self _)
  · intro request pending
    exact ⟨(correlated.of_mem_pending pending).1, timed.riding request pending⟩
  · intro probe mem
    exact timed.count_waiters mustered correlated mem
  · exact (List.nodup_append.mp mustered.nodup).2.1
  · intro probe result found
    obtain ⟨before, after, eq, -⟩ := List.lookup_eq_some_iff.mp found
    refine ((timed.measured probe result).mp (List.mem_append_left _ ?_)).2
    rw [show world.connection.measurements = _ from eq]
    simp
  · obtain ⟨more, performing, handed⟩ := exists_measurement config moves
    refine ⟨more, performing, fun probe mem result read => ?_⟩
    exact handed (probe, result) ((timed.measured probe result).mpr ⟨mem, read⟩)

/-- A probe that a command of the flow loop takes from under its caller, one whose command is still
unanswered when the debuggee closes the transport, one that waits then, and one that comes late. -/
def soundings : List Move :=
  [.start .measure, .start .hold, .advance 1 .task, .wakeFlow, .advanceFlow, .advanceFlow,
    .advanceFlow, .start .measure, .start (.call .version), .start .measure,
    .receive (.frame (ReplyPacket.encode ⟨1, 0, []⟩)), .performDispatcher, .performDispatcher,
    .performDispatcher, .receive .finished, .performDispatcher, .start .measure]

theorem probes_resolve_soundings :
    let world := play {} soundings
    world.connection.issued < UInt32.size ∧ probesOf world.journal = [0, 1, 2, 3] ∧
      carrier? 0 world.journal = some ⟨0, 1, 0⟩ ∧ carrier? 1 world.journal = some ⟨0, 2, 1⟩ ∧
      carrier? 2 world.journal = none ∧
      (0, .ok ()) ∈ world.measured ∧ (1, .error .disconnected) ∈ world.measured ∧
      (2, .error .disconnected) ∈ world.measured ∧ (3, .error .disconnected) ∈ world.measured := by
  intro world
  have few : world.connection.issued < UInt32.size := by decide +kernel
  have handed : probesOf world.journal = [0, 1, 2, 3] := rfl
  obtain ⟨-, -, -, -, -, -, measured, -⟩ := probes_resolve {} soundings few
  have known (probe : ProbeId) (result : Except Failure Unit) (mem : probe ∈ [0, 1, 2, 3])
      (read : reading? probe world.journal = some result) : (probe, result) ∈ world.measured :=
    (measured probe result).mpr ⟨by rwa [handed], read⟩
  exact ⟨few, handed, rfl, rfl, rfl, known 0 _ (by simp) rfl, known 1 _ (by simp) rfl,
    known 2 _ (by simp) rfl, known 3 _ (by simp) rfl⟩

end World

end DebugLink
