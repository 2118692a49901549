import DebugLink.Proofs.Journal
import DebugLink.Proofs.Shutdown

/-!
# Requests: what a turn does to the requests

Seen by the requests there are only four kinds of turns: nothing happens, a command is issued, a
verdict falls on an id, or the connection is torn down. A `RequestStep` is one of them. It tells
what becomes of the `Ledger`, which is all of a connection that says which requests are pending,
and of the outcomes that were handed to callers or wait to be (`World.owed`).
-/

namespace DebugLink

namespace Scope

variable {α : Type} {scope : Scope α}

@[simp]
theorem resumes_suspend : scope.suspend.resumes = scope.resumes := by
  unfold suspend; split <;> rfl

@[simp]
theorem resumes_invalidate : scope.invalidate.resumes = scope.resumes := by
  unfold invalidate; split <;> rfl

@[simp]
theorem resumes_shutdown : scope.shutdown.resumes = [] :=
  resumes_invalidate

@[simp]
theorem resumes_store (key : String) (stamp : Stamp) (value : α) :
    (scope.store key stamp value).2.resumes = scope.resumes := by
  unfold store; split <;> rfl

end Scope

/-- The part of a connection that numbers the commands and says which are pending. -/
structure Ledger where
  name : Nat
  nextId : UInt32
  issued : Nat
  pending : List Request
  resumes : List UInt32
  dead : Bool

namespace Connection

variable {before after : Connection}

def ledger (connection : Connection) : Ledger where
  name := connection.name
  nextId := connection.nextId
  issued := connection.issued
  pending := connection.pending
  resumes := connection.scope.resumes
  dead := connection.dead

theorem Keeps.ledger (keeps : before.Keeps after) : after.ledger = before.ledger := by
  rw [Connection.ledger, Connection.ledger, keeps.name, keeps.nextId, keeps.issued, keeps.pending,
    keeps.scope, keeps.dead]

end Connection

/-- The outcome that a piece of work hands to the caller of a request, by the request's number. -/
def Work.owes? (work : Work) : Option (Nat × Except Failure Bytes) :=
  work.settles?.map fun (request, outcome) => (request.serial, outcome)

/-- Whether an entry is of no command that was issued and of no verdict. -/
def Entry.Silent (entry : Entry) : Prop :=
  entry.issue? = none ∧ ∀ id, entry.verdict? id = none

theorem Entry.silent_of_aside {entry : Entry} (aside : entry.aside) : entry.Silent := by
  cases entry with
  | issued receipt command data => simp [Entry.aside] at aside
  | tornDown => simp [Entry.aside] at aside
  | performed work =>
    refine ⟨rfl, fun id => ?_⟩
    cases work <;> first | rfl | simp [Entry.aside, Work.aside] at aside
  | _ => exact ⟨rfl, fun _ => rfl⟩

theorem issues_of_silent {entries : List Entry} (silent : ∀ entry ∈ entries, entry.Silent) :
    issues entries = [] :=
  List.filterMap_eq_nil_iff.mpr fun entry mem => (silent entry mem).1

theorem receipts_of_silent {entries : List Entry} (silent : ∀ entry ∈ entries, entry.Silent) :
    receipts entries = [] := by
  rw [receipts, issues_of_silent silent]; rfl

/-- Silent entries change no fate. -/
theorem fate_quiet {receipt : Receipt} {journal entries : List Entry}
    (mem : receipt ∈ receipts journal) (silent : ∀ entry ∈ entries, entry.Silent) :
    fate receipt (journal ++ entries) = fate receipt journal := by
  rw [fate_append mem, List.findSome?_eq_none_iff.mpr fun entry mem => (silent entry mem).2 _,
    Option.or_none]

theorem fate_issue {receipt : Receipt} {journal entries : List Entry} {command : Command}
    {data : Bytes} {other : Receipt} (mem : receipt ∈ receipts journal)
    (silent : ∀ entry ∈ entries, entry.Silent) :
    fate receipt (journal ++ (entries ++ [.issued other command data])) = fate receipt journal := by
  rw [fate_append mem, List.findSome?_append,
    List.findSome?_eq_none_iff.mpr fun entry mem => (silent entry mem).2 _]
  exact Option.or_none

/-- What is new where some elements take the place of others is new in the whole. -/
theorem perm_replaced {α : Type} {known known' before used left after new : List α}
    (change : (known' ++ left).Perm (known ++ used ++ new)) :
    (known' ++ (before ++ left ++ after)).Perm (known ++ (before ++ used ++ after) ++ new) := by
  classical
  rw [List.perm_iff_count] at change ⊢
  intro element
  have change := change element
  simp only [List.count_append] at change ⊢
  omega

theorem Work.owes_of_free {work : Work} (free : work.free) : work.owes? = none := by
  cases work <;> first | rfl | simp [Work.free] at free

namespace World

variable {world world' : World}

/-- The outcomes of requests that were handed to their callers or wait to be. -/
def owed (world : World) : List (Nat × Except Failure Bytes) :=
  world.connection.outcomes ++ world.works.filterMap Work.owes?

/-- What one step does to the requests. -/
inductive RequestStep (world world' : World) : Prop
  | quiet {entries : List Entry} (journal : world'.journal = world.journal ++ entries)
    (silent : ∀ entry ∈ entries, entry.Silent)
    (ledger : world'.connection.ledger = world.connection.ledger)
    (owed : world'.owed.Perm world.owed)
  | issue {entries : List Entry} (command : Command) (data : Bytes)
    (live : world.connection.dead = false)
    (journal : world'.journal =
      world.journal ++ (entries ++ [.issued world.connection.nextReceipt command data]))
    (silent : ∀ entry ∈ entries, entry.Silent)
    (ledger : world'.connection.ledger = (world.connection.send command data).ledger)
    (owed : world'.owed.Perm (world.owed ++
      world.connection.replaced.map fun request => (request.serial, .error .disconnected)))
  /-- A verdict falls on an id. -/
  | decide {entry : Entry} (id : UInt32) (outcome : Except Failure Bytes)
    (journal : world'.journal = world.journal ++ [entry]) (issue : entry.issue? = none)
    (verdict : ∀ other, entry.verdict? other = if id = other then some outcome else none)
    (ledger : world'.connection.ledger = (world.connection.take id).2.ledger)
    (owed : world'.owed.Perm (world.owed ++
      ((world.connection.request? id).map fun request => (request.serial, outcome)).toList))
  | down (live : world.connection.dead = false)
    (journal : world'.journal = world.journal ++ [.performed .disconnect, .tornDown])
    (ledger : world'.connection.ledger =
      { world.connection.ledger with pending := [], resumes := [], dead := true })
    (owed : world'.owed.Perm (world.owed ++
      world.connection.pending.map fun request => (request.serial, .error .disconnected)))

/-- Outcomes are owed anew by the pieces that a turn leaves behind, less those it uses up. -/
theorem owed_perm {before used left after : List Work}
    {new : List (Nat × Except Failure Bytes)}
    (works : world.works = before ++ used ++ after)
    (works' : world'.works = before ++ left ++ after)
    (change : (world'.connection.outcomes ++ left.filterMap Work.owes?).Perm
      (world.connection.outcomes ++ used.filterMap Work.owes? ++ new)) :
    world'.owed.Perm (world.owed ++ new) := by
  rw [owed, owed, works, works']
  simp only [List.filterMap_append]
  exact perm_replaced change

theorem owes_of_free {works : List Work} (free : ∀ work ∈ works, work.free) :
    works.filterMap Work.owes? = [] :=
  List.filterMap_eq_nil_iff.mpr fun work mem => Work.owes_of_free (free work mem)

/-- What every turn does to the requests. -/
theorem Turns.request (turns : Turns world world') : RequestStep world world' := by
  obtain ⟨used, entries, left, turn, journal, replaced⟩ := turns
  obtain ⟨before, after, works, works'⟩ := replaced.works
  -- An outcome may move from a piece of work to the connection, but none comes up.
  have still (silent : ∀ entry ∈ entries, entry.Silent)
      (ledger : world'.connection.ledger = world.connection.ledger)
      (change : (world'.connection.outcomes ++ left.filterMap Work.owes?).Perm
        (world.connection.outcomes ++ used.filterMap Work.owes?)) : RequestStep world world' := by
    refine .quiet journal silent ledger ?_
    simpa using @owed_perm _ _ _ _ _ _ [] works works' (by simpa using change)
  cases turn with
  | aside keeps calm quiet free =>
    apply still (fun entry mem => Entry.silent_of_aside (quiet entry mem)) keeps.ledger
    rw [owes_of_free free, owes_of_free fun work mem => Work.free_of_calm (calm work mem),
      keeps.outcomes]
    rfl
  | issue command data origin live keeps =>
    refine .issue command data live journal ?_ keeps.ledger (owed_perm works works' ?_)
    · rcases origin with rfl | rfl
      · simp
      · simp [Entry.Silent, Entry.issue?, Entry.verdict?]
    · have none : used.filterMap Work.owes? = [] := by rcases origin with rfl | rfl <;> rfl
      rw [none, owes_of_free fun work mem => Work.free_of_aside (Turn.mem_issue_left mem),
        keeps.outcomes, List.append_nil, List.append_nil]
      rfl
  | replied reply keeps =>
    refine .decide reply.id reply.result journal rfl (fun other => rfl) keeps.ledger
      (owed_perm works works' ?_)
    have found : world.engine.connection.request? reply.id = world.connection.request? reply.id :=
      rfl
    rw [keeps.outcomes, found]
    cases world.connection.request? reply.id <;>
      simp [List.filterMap_cons, Work.owes?, Work.settles?, Connection.take, connection]
  | abandon id failure keeps =>
    refine .decide id (.error failure) journal rfl (fun other => rfl) keeps.ledger
      (owed_perm works works' ?_)
    have found : world.engine.connection.request? id = world.connection.request? id := rfl
    rw [keeps.outcomes, found]
    cases world.connection.request? id <;>
      simp [List.filterMap_cons, Work.owes?, Work.settles?, Connection.take, connection]
  | @settle work _ request outcome settles keeps =>
    refine still ?_ keeps.ledger ?_
    · cases work <;> simp [Work.settles?] at settles <;>
        simp [Entry.Silent, Entry.issue?, Entry.verdict?]
    · rw [keeps.outcomes]
      have owes : [work].filterMap Work.owes? = [(request.serial, outcome)] := by
        simp [Work.owes?, settles]
      rw [owes]
      simp [connection]
  | suspended keeps =>
    refine still (by simp [Entry.Silent, Entry.issue?, Entry.verdict?]) ?_
      (by rw [keeps.outcomes]; exact .refl _)
    rw [keeps.ledger, Connection.ledger, Scope.resumes_suspend]
    rfl
  | disconnect evicted live aside keeps =>
    refine .down live journal ?_ (owed_perm works works' ?_)
    · rw [keeps.ledger, Connection.ledger, Scope.resumes_shutdown]
      rfl
    · rw [keeps.outcomes, List.filterMap_append, List.filterMap_append,
        owes_of_free fun work mem => Work.free_of_aside (aside work mem), List.filterMap_map]
      simp [List.filterMap_cons, Work.owes?, Work.settles?, Function.comp_def, connection]
  | queueClose keeps =>
    exact still (by simp [Entry.Silent, Entry.issue?, Entry.verdict?]) keeps.ledger
      (by rw [keeps.outcomes]; exact .refl _)
  | fail failure writing keeps =>
    exact still (by simp [Entry.Silent, Entry.issue?, Entry.verdict?]) keeps.ledger
      (by rw [keeps.outcomes]; exact .refl _)
  | @take message rest _ receiving first keeps =>
    refine still ?_ keeps.ledger (by rw [keeps.outcomes]; exact .refl _)
    cases message <;> simp [Message.entries, Entry.Silent, Entry.issue?, Entry.verdict?]
  | drain draining idle keeps =>
    apply still (by simp) keeps.ledger
    rw [keeps.outcomes]
    rcases world.engine.connection.outbound.head? with _ | _ | _ <;> exact .refl _
  | store n key stamp value keeps =>
    refine still (by simp [Entry.Silent, Entry.issue?, Entry.verdict?]) ?_
      (by rw [keeps.outcomes]; exact .refl _)
    rw [keeps.ledger, Connection.ledger, Scope.resumes_store]
    rfl
  | invalidate aside keeps =>
    refine still (by simp [Entry.Silent, Entry.issue?, Entry.verdict?]) ?_ ?_
    · rw [keeps.ledger, Connection.ledger, Scope.resumes_invalidate]
      rfl
    · rw [keeps.outcomes, owes_of_free fun work mem => Work.free_of_aside (aside work mem)]
      exact .refl _

end World

end DebugLink
