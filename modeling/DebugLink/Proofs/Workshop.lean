import Mathlib.Algebra.Group.Action.Defs
import Mathlib.Algebra.Order.BigOperators.Group.List
import Mathlib.Algebra.Order.Ring.Nat
import Mathlib.Data.List.Induction
import DebugLink.JobPool
import DebugLink.Failure

/-!
# Workshop: the permits of a job pool

`JobPool` says which jobs run once things are quiet. Here a pool is what it is made of: a semaphore
with one permit for each worker, and jobs that acquire one, take it along to a thread of their own
and give it back when they are through. All of that takes time. A job may have a permit and not have
begun, or have ended and still have its permit, or have given it back and not have told its
submitter, while others are submitted, run and end.

* A permit is free or held by one job (`InLine`). Whatever a job ends with, its permit goes on.
* The jobs that wait are the ones that were submitted last, in the order of their submission.
* The journal has each job's life so far, every stage once (`Recorded`).
* A `JobPool` that is told of submissions and ends as they happen has the first unfinished jobs
  running (`Mirrored`).

Main statement: `Workshop.first_come_first_run`.
-/

namespace DebugLink

/-! ## Semaphores -/

/-- What a workshop needs of a semaphore. It is never closed, so everyone who waits gets a permit in
the end. -/
structure Semaphore where
  State : Type
  /-- None for more permits than a semaphore can have. -/
  new? (permits : Nat) : Option State
  /-- Takes a permit for a job, or lets it wait if there is none. -/
  acquire (job : Nat) (state : State) : Bool × State
  /-- Gives a permit back. The job that gets it, if one has waited. -/
  release (state : State) : Option Nat × State
  available (state : State) : Nat

/-- Permits are handed out first come, first served. -/
structure Semaphore.Fair (semaphore : Semaphore) where
  /-- The jobs that wait, the first that came first. -/
  waiting : semaphore.State → List Nat
  isSome_new (permits : Nat) : (semaphore.new? permits).isSome ↔ permits ≤ JobPool.limit
  new {permits : Nat} {state : semaphore.State} (created : semaphore.new? permits = some state) :
    semaphore.available state = permits ∧ waiting state = []
  acquire_free {state : semaphore.State} (job : Nat) (free : semaphore.available state ≠ 0) :
    (semaphore.acquire job state).1 = true ∧
    semaphore.available (semaphore.acquire job state).2 = semaphore.available state - 1 ∧
    waiting (semaphore.acquire job state).2 = waiting state
  acquire_taken {state : semaphore.State} (job : Nat) (taken : semaphore.available state = 0) :
    (semaphore.acquire job state).1 = false ∧
    semaphore.available (semaphore.acquire job state).2 = 0 ∧
    waiting (semaphore.acquire job state).2 = waiting state ++ [job]
  release_next {state : semaphore.State} {job : Nat} {others : List Nat}
    (waits : waiting state = job :: others) :
    (semaphore.release state).1 = some job ∧
    semaphore.available (semaphore.release state).2 = semaphore.available state ∧
    waiting (semaphore.release state).2 = others
  release_none {state : semaphore.State} (idle : waiting state = []) :
    (semaphore.release state).1 = none ∧
    semaphore.available (semaphore.release state).2 = semaphore.available state + 1 ∧
    waiting (semaphore.release state).2 = []

namespace Semaphore

/-- A number of free permits and a queue. -/
structure Permits where
  free : Nat
  queue : List Nat := []

/-- A semaphore that counts its permits. -/
def counting : Semaphore where
  State := Permits
  new? permits := if permits ≤ JobPool.limit then some { free := permits } else none
  acquire job state :=
    if state.free = 0 then (false, { state with queue := state.queue ++ [job] })
    else (true, { state with free := state.free - 1 })
  release state :=
    match state.queue with
    | job :: others => (some job, { state with queue := others })
    | [] => (none, { state with free := state.free + 1 })
  available state := state.free

end Semaphore

/-! ## The life of a job -/

/-- How a job ends. -/
inductive JobEnd (α : Type)
  | value (result : α)
  | panic (message : String)
  deriving DecidableEq, Repr

/-- What is found when a thread is joined. -/
inductive Joined (α : Type)
  | ended (outcome : JobEnd α)
  /-- The job never began. This happens only if the whole program goes down. -/
  | cancelled
  deriving DecidableEq, Repr

/-- What a submitter gets. -/
inductive Reward (α : Type)
  | result (result : Except Failure α)
  | panic (message : String)
  deriving Repr

/-- A panic goes on in the submitter. -/
def Joined.reward {α : Type} : Joined α → Reward α
  | .ended (.value result) => .result (.ok result)
  | .ended (.panic message) => .panic message
  | .cancelled =>
    .result (.error (.misuse (.other "Continuation cancelled by runtime shutdown")))

namespace Workshop

/-- Where a job is. -/
inductive Phase (α : Type)
  | queued
  /-- It has a permit and has not begun. -/
  | called
  | working
  /-- It has ended and still has its permit. -/
  | leaving (outcome : JobEnd α)
  | gone (outcome : JobEnd α)
  /-- Its submitter knows. -/
  | told (outcome : JobEnd α)
  deriving DecidableEq, Repr

/-- What is recorded of a job. -/
inductive Entry (α : Type)
  | submitted (job : Nat)
  | began (job : Nat)
  | ended (job : Nat) (outcome : JobEnd α)
  | gaveBack (job : Nat)
  | told (job : Nat) (reward : Reward α)
  deriving Repr

/-- What may happen next. -/
inductive Move (α : Type)
  | submit
  | start (job : Nat)
  | finish (job : Nat) (outcome : JobEnd α)
  | leave (job : Nat)
  | tell (job : Nat)
  deriving DecidableEq, Repr

variable {α : Type}

def Move.submits : Move α → Bool
  | submit => true
  | _ => false

/-- The move comes by itself. Submissions and ends do not. -/
def Move.settles : Move α → Bool
  | start _ | leave _ | tell _ => true
  | submit | finish _ _ => false

namespace Phase

def isWorking : Phase α → Bool
  | working => true
  | _ => false

/-- The job has not ended. -/
def unfinished : Phase α → Bool
  | queued | called | working => true
  | leaving _ | gone _ | told _ => false

/-- The job has a permit. -/
def holds : Phase α → Bool
  | called | working | leaving _ => true
  | queued | gone _ | told _ => false

end Phase

def Entry.job : Entry α → Nat
  | submitted job | began job | ended job _ | gaveBack job | told job _ => job

/-- All that is ever recorded of a job that ends so. -/
def life (job : Nat) (outcome : JobEnd α) : List (Entry α) :=
  [.submitted job, .began job, .ended job outcome, .gaveBack job,
    .told job (Joined.ended outcome).reward]

/-- What is recorded of a job by the time it is there. -/
def Phase.record (job : Nat) : Phase α → List (Entry α)
  | queued | called => [.submitted job]
  | working => [.submitted job, .began job]
  | leaving outcome => [.submitted job, .began job, .ended job outcome]
  | gone outcome => [.submitted job, .began job, .ended job outcome, .gaveBack job]
  | told outcome => life job outcome

/-- The numbers of the jobs that are in some of the phases. -/
def select (selected : Phase α → Bool) (first : Nat) : List (Phase α) → List Nat
  | [] => []
  | phase :: phases =>
    if selected phase then first :: select selected (first + 1) phases
    else select selected (first + 1) phases

end Workshop

/-- A pool with its permits. Jobs have the numbers of their submissions. -/
structure Workshop (semaphore : Semaphore) (α : Type) where
  size : Nat
  permits : semaphore.State
  phases : List (Workshop.Phase α) := []
  journal : List (Workshop.Entry α) := []

/-- The journal is told to a pool, submissions and ends. -/
def JobPool.follow {α : Type} (pool : JobPool Nat) : Workshop.Entry α → JobPool Nat
  | .submitted job => pool.submit job
  | .ended job _ => (pool.finish (· == job)).2
  | _ => pool

namespace Workshop

variable {semaphore : Semaphore} {α : Type}

/-- A workshop in which nothing has happened. -/
def new? (semaphore : Semaphore) (α : Type) (size : Nat) : Option (Workshop semaphore α) :=
  (semaphore.new? size).map fun permits => { size, permits }

section

variable (workshop : Workshop semaphore α)

/-- A job is submitted. It has a permit at once or waits for one. -/
def submit : Workshop semaphore α :=
  let job := workshop.phases.length
  let acquired := semaphore.acquire job workshop.permits
  { workshop with
    permits := acquired.2
    phases := workshop.phases ++ [if acquired.1 then .called else .queued]
    journal := workshop.journal ++ [.submitted job] }

/-- A job goes on to another phase. -/
def pass (job : Nat) (phase : Phase α) (entry : Entry α) : Workshop semaphore α :=
  { workshop with
    phases := workshop.phases.set job phase
    journal := workshop.journal ++ [entry] }

/-- A permit is given back, and a job that has waited may get it. -/
def release : Workshop semaphore α :=
  let released := semaphore.release workshop.permits
  { workshop with
    permits := released.2
    phases := match released.1 with
      | some next => workshop.phases.set next .called
      | none => workshop.phases }

/-- What cannot happen changes nothing. -/
def step : Move α → Workshop semaphore α
  | .submit => workshop.submit
  | .start job =>
    match workshop.phases[job]? with
    | some .called => workshop.pass job .working (.began job)
    | _ => workshop
  | .finish job outcome =>
    match workshop.phases[job]? with
    | some .working => workshop.pass job (.leaving outcome) (.ended job outcome)
    | _ => workshop
  | .leave job =>
    match workshop.phases[job]? with
    | some (.leaving outcome) => (workshop.pass job (.gone outcome) (.gaveBack job)).release
    | _ => workshop
  | .tell job =>
    match workshop.phases[job]? with
    | some (.gone outcome) =>
      workshop.pass job (.told outcome) (.told job (Joined.ended outcome).reward)
    | _ => workshop

def run (moves : List (Move α)) : Workshop semaphore α :=
  moves.foldl step workshop

/-- Nothing changes any more but by submissions and by jobs that end. -/
def Quiet : Prop :=
  ∀ move : Move α, move.settles = true → workshop.step move = workshop

/-- The jobs that run. -/
def running : List Nat :=
  select Phase.isWorking 0 workshop.phases

/-- The jobs that have not ended. -/
def unfinished : List Nat :=
  select Phase.unfinished 0 workshop.phases

/-- The number of idle workers. -/
def available : Nat :=
  semaphore.available workshop.permits

/-- What is recorded of a job. -/
def record (job : Nat) : List (Entry α) :=
  workshop.journal.filter (·.job == job)

/-- The pool that is told what happens. -/
def pool : JobPool Nat :=
  workshop.journal.foldl JobPool.follow { size := workshop.size }

end

/-! ## What a move does -/

/-- A job goes on to its next phase, and that is recorded. -/
inductive Next (job : Nat) : Phase α → Entry α → Phase α → Prop
  | start : Next job .called (.began job) .working
  | finish (outcome : JobEnd α) : Next job .working (.ended job outcome) (.leaving outcome)
  | leave (outcome : JobEnd α) : Next job (.leaving outcome) (.gaveBack job) (.gone outcome)
  | tell (outcome : JobEnd α) :
    Next job (.gone outcome) (.told job (Joined.ended outcome).reward) (.told outcome)

/-- What a move does. Permits change hands in two of the cases. -/
inductive Step (workshop : Workshop semaphore α) : Move α → Workshop semaphore α → Prop
  | still (move : Move α) : Step workshop move workshop
  | submit : Step workshop .submit workshop.submit
  | pass {move : Move α} {job : Nat} {old new : Phase α} {entry : Entry α}
      (own : move.submits = false) (phase : workshop.phases[job]? = some old)
      (next : Next job old entry new) (keeps : new.holds = old.holds) :
      Step workshop move (workshop.pass job new entry)
  | leave {job : Nat} {outcome : JobEnd α}
      (phase : workshop.phases[job]? = some (.leaving outcome)) :
      Step workshop (.leave job) (workshop.pass job (.gone outcome) (.gaveBack job)).release

theorem step_step (workshop : Workshop semaphore α) (move : Move α) :
    Step workshop move (workshop.step move) := by
  cases move with
  | submit => exact .submit
  | start job =>
    rw [step]
    split
    · next phase => exact .pass rfl phase .start rfl
    · exact .still _
  | finish job outcome =>
    rw [step]
    split
    · next phase => exact .pass rfl phase (.finish outcome) rfl
    · exact .still _
  | leave job =>
    rw [step]
    split
    · next phase => exact .leave phase
    · exact .still _
  | tell job =>
    rw [step]
    split
    · next outcome phase => exact .pass rfl phase (.tell outcome) rfl
    · exact .still _

/-! ## Jobs by their phases -/

section

variable {selected : Phase α → Bool} {first job : Nat} {phases : List (Phase α)} {old new : Phase α}

theorem select_append (more : List (Phase α)) :
    select selected first (phases ++ more) =
      select selected first phases ++ select selected (first + phases.length) more := by
  induction phases generalizing first with
  | nil => rfl
  | cons phase phases ih =>
    simp only [List.cons_append, select, ih, List.length_cons]
    rw [Nat.add_right_comm, ← Nat.add_assoc]
    split <;> rfl

theorem length_select :
    (select selected first phases).length =
      (phases.map fun phase => (selected phase).toNat).sum := by
  induction phases generalizing first with
  | nil => rfl
  | cons phase phases ih =>
    rw [select, List.map_cons, List.sum_cons]
    split
    · next yes => rw [List.length_cons, ih, yes, Bool.toNat_true, Nat.add_comm]
    · next no => rw [ih, Bool.eq_false_of_not_eq_true no, Bool.toNat_false, Nat.zero_add]

theorem select_congr {other : Phase α → Bool}
    (same : ∀ phase ∈ phases, selected phase = other phase) :
    select selected first phases = select other first phases := by
  induction phases generalizing first with
  | nil => rfl
  | cons phase phases ih =>
    obtain ⟨head, tail⟩ := List.forall_mem_cons.mp same
    rw [select, select, head, ih tail]

theorem select_replicate {phase : Phase α} (yes : selected phase = true) (count : Nat) :
    select selected first (List.replicate count phase) = List.range' first count := by
  induction count generalizing first with
  | zero => rfl
  | succ count ih => rw [List.replicate_succ, select, if_pos yes, ih, List.range'_succ]

theorem select_replicate_of_not {phase : Phase α} (no : selected phase = false) (count : Nat) :
    select selected first (List.replicate count phase) = [] := by
  induction count generalizing first with
  | zero => rfl
  | succ count ih => rw [List.replicate_succ, select, if_neg (by simp [no]), ih]

theorem le_of_mem_select (mem : job ∈ select selected first phases) : first ≤ job := by
  induction phases generalizing first with
  | nil => cases mem
  | cons phase phases ih =>
    rw [select] at mem
    split at mem
    · rcases List.mem_cons.mp mem with rfl | mem
      · exact Nat.le_refl _
      · exact Nat.le_of_succ_le (ih mem)
    · exact Nat.le_of_succ_le (ih mem)

theorem mem_select : first + job ∈ select selected first phases ↔
    (phases[job]?).any selected = true := by
  induction phases generalizing first job with
  | nil => simp [select]
  | cons phase phases ih =>
    have later : first ∉ select selected (first + 1) phases :=
      fun mem => absurd (le_of_mem_select mem) (Nat.not_succ_le_self first)
    cases job with
    | zero =>
      rw [select]
      split
      · next yes => simp [yes]
      · next no => simpa [no] using later
    | succ job =>
      have shifted := @ih (first + 1) job
      rw [Nat.add_right_comm, Nat.add_assoc] at shifted
      rw [select]
      split
      · simp [shifted]
      · simpa using shifted

theorem mem_select_iff : job ∈ select selected 0 phases ↔
    ∃ phase, phases[job]? = some phase ∧ selected phase = true := by
  have all := @mem_select _ selected 0 job phases
  rw [Nat.zero_add] at all
  rw [all, Option.any_eq_true]

theorem sum_set (weight : Phase α → Nat) (phase : phases[job]? = some old) :
    ((phases.set job new).map weight).sum + weight old =
      (phases.map weight).sum + weight new := by
  induction phases generalizing job with
  | nil => cases phase
  | cons head phases ih =>
    cases job with
    | zero =>
      obtain rfl : head = old := Option.some.inj phase
      simp only [List.set_cons_zero, List.map_cons, List.sum_cons]
      omega
    | succ job =>
      have rest := ih phase
      simp only [List.set_cons_succ, List.map_cons, List.sum_cons]
      omega

/-- A job that stays among the selected ones. -/
theorem select_set_of_same (phase : phases[job]? = some old) (same : selected new = selected old) :
    select selected first (phases.set job new) = select selected first phases := by
  induction phases generalizing first job with
  | nil => rfl
  | cons head phases ih =>
    cases job with
    | zero =>
      obtain rfl : head = old := Option.some.inj phase
      rw [List.set_cons_zero, select, select, same]
    | succ job => rw [List.set_cons_succ, select, select, ih phase]

/-- A job that is not selected any more. -/
theorem select_set_of_lost (phase : phases[job]? = some old) (was : selected old = true)
    (lost : selected new = false) :
    select selected first (phases.set job new) =
      (select selected first phases).erase (first + job) := by
  induction phases generalizing first job with
  | nil => cases phase
  | cons head phases ih =>
    cases job with
    | zero =>
      obtain rfl : head = old := Option.some.inj phase
      simp [select, was, lost]
    | succ job =>
      have rest := @ih (first + 1) job phase
      rw [Nat.add_right_comm, Nat.add_assoc] at rest
      rw [List.set_cons_succ, select, select]
      split
      · rw [List.erase_cons_tail (by simp), rest]
      · exact rest

end

/-! ## Permits and the queue -/

/-- Some jobs were served and the others wait behind them. Every permit is free or held by a job,
and none is free while a job waits. -/
structure InLine (fair : semaphore.Fair) (workshop : Workshop semaphore α)
    (served : List (Phase α)) (behind : Nat) : Prop where
  phases : workshop.phases = served ++ List.replicate behind .queued
  none_queued : ∀ phase ∈ served, phase ≠ .queued
  waiting : fair.waiting workshop.permits = List.range' served.length behind
  permits : workshop.available + (served.map (·.holds.toNat)).sum = workshop.size
  idle : behind = 0 ∨ workshop.available = 0

theorem Next.ne_queued {job : Nat} {old new : Phase α} {entry : Entry α}
    (next : Next job old entry new) : old ≠ .queued ∧ new ≠ .queued := by
  cases next <;> exact ⟨nofun, nofun⟩

variable {fair : semaphore.Fair} {workshop : Workshop semaphore α} {served : List (Phase α)}
  {behind job : Nat}

/-- A job that is called holds one permit. -/
theorem held_called : ([.called].map fun phase : Phase α => phase.holds.toNat).sum = 1 :=
  rfl

theorem InLine.fresh {size : Nat} (opened : new? semaphore α size = some workshop) :
    InLine fair workshop [] 0 := by
  obtain ⟨permits, created, rfl⟩ := Option.map_eq_some_iff.mp opened
  obtain ⟨available, waiting⟩ := fair.new created
  exact ⟨rfl, nofun, waiting, available, .inl rfl⟩

theorem ne_queued_set {new : Phase α} (others : ∀ phase ∈ served, phase ≠ .queued)
    (ne : new ≠ .queued) : ∀ phase ∈ served.set job new, phase ≠ .queued := by
  intro phase mem
  rcases List.mem_or_eq_of_mem_set mem with mem | rfl
  · exact others phase mem
  · exact ne

theorem ne_queued_append {new : Phase α} (others : ∀ phase ∈ served, phase ≠ .queued)
    (ne : new ≠ .queued) : ∀ phase ∈ served ++ [new], phase ≠ .queued := by
  intro phase mem
  rcases List.mem_append.mp mem with mem | mem
  · exact others phase mem
  · rwa [List.mem_singleton.mp mem]

/-- A job that does not wait was served. -/
theorem InLine.served_of_phase (line : InLine fair workshop served behind) {old : Phase α}
    (phase : workshop.phases[job]? = some old) (ne : old ≠ .queued) : served[job]? = some old := by
  rw [line.phases, List.getElem?_append] at phase
  split at phase
  · exact phase
  · exact absurd (List.eq_of_mem_replicate (List.mem_of_getElem? phase)) ne

theorem InLine.submit (line : InLine fair workshop served behind) :
    ∃ served behind, InLine fair workshop.submit served behind := by
  by_cases taken : semaphore.available workshop.permits = 0
  · -- The job waits behind all others.
    obtain ⟨granted, available, waiting⟩ := fair.acquire_taken workshop.phases.length taken
    refine ⟨served, behind + 1, ?_, line.none_queued, ?_, ?_, .inr available⟩
    · simp only [Workshop.submit, granted, Bool.false_eq_true, if_false]
      rw [line.phases, List.append_assoc, List.replicate_succ']
    · refine waiting.trans ?_
      rw [line.waiting, List.range'_concat, line.phases]
      simp
    · have permits := line.permits
      rw [Workshop.available] at permits ⊢
      exact (congrArg (· + _) (available.trans taken.symm)).trans permits
  · -- As a permit is free no other job waits, and the job is served next.
    obtain ⟨granted, available, waiting⟩ := fair.acquire_free workshop.phases.length taken
    obtain rfl : behind = 0 := line.idle.resolve_right taken
    refine ⟨served ++ [.called], 0, ?_, ne_queued_append line.none_queued nofun, ?_, ?_, .inl rfl⟩
    · simp only [Workshop.submit, granted, if_true]
      rw [line.phases, List.replicate_zero, List.append_nil, List.append_nil]
    · exact waiting.trans line.waiting
    · have permits := line.permits
      rw [Workshop.available] at permits ⊢
      simp only [Workshop.submit, available, List.map_append, List.sum_append, held_called]
      omega

theorem set_served {new : Phase α} (line : InLine fair workshop served behind)
    (within : job < served.length) :
    workshop.phases.set job new = served.set job new ++ List.replicate behind .queued := by
  rw [line.phases, List.set_append_left _ _ within]

theorem InLine.pass (line : InLine fair workshop served behind) {old new : Phase α}
    {entry : Entry α} (phase : workshop.phases[job]? = some old) (next : Next job old entry new)
    (keeps : new.holds = old.holds) :
    InLine fair (workshop.pass job new entry) (served.set job new) behind := by
  have found := line.served_of_phase phase next.ne_queued.1
  obtain ⟨within, -⟩ := List.getElem?_eq_some_iff.mp found
  have counted := @sum_set _ _ _ _ new (·.holds.toNat) found
  rw [keeps, Nat.add_right_cancel_iff] at counted
  have others := @ne_queued_set _ _ job new line.none_queued next.ne_queued.2
  refine ⟨set_served line within, others, ?_, ?_, line.idle⟩
  · rw [List.length_set]
    exact line.waiting
  · rw [counted]
    exact line.permits

/-- A permit that is given back goes to the first job that waits. -/
theorem InLine.leave (line : InLine fair workshop served behind) {outcome : JobEnd α}
    (phase : workshop.phases[job]? = some (.leaving outcome)) :
    ∃ served behind,
      InLine fair (workshop.pass job (.gone outcome) (.gaveBack job)).release served behind := by
  have found := line.served_of_phase phase nofun
  obtain ⟨within, -⟩ := List.getElem?_eq_some_iff.mp found
  have counted : ((served.set job (.gone outcome)).map (·.holds.toNat)).sum + 1 =
      (served.map (·.holds.toNat)).sum + 0 := sum_set _ found
  have permits := line.permits
  have others := @ne_queued_set _ _ job (.gone outcome) line.none_queued nofun
  cases behind with
  | zero =>
    obtain ⟨given, available, waiting⟩ := fair.release_none line.waiting
    refine ⟨served.set job (.gone outcome), 0, ?_, others, waiting, ?_, .inl rfl⟩
    · simp only [release, Workshop.pass, given]
      exact set_served line within
    · rw [Workshop.available] at permits ⊢
      simp only [release, Workshop.pass, available]
      omega
  | succ behind =>
    -- The permit never gets free: the first of the jobs that wait has it at once.
    obtain ⟨given, available, waiting⟩ := fair.release_next line.waiting
    refine ⟨served.set job (.gone outcome) ++ [.called], behind, ?_,
      ne_queued_append others nofun, ?_, ?_, ?_⟩
    · simp only [release, Workshop.pass, given]
      rw [set_served line within]
      simp [List.replicate_succ]
    · simp only [release, Workshop.pass, waiting]
      simp
    · rw [Workshop.available] at permits ⊢
      simp only [release, Workshop.pass, available, List.map_append, List.sum_append, held_called]
      omega
    · exact .inr (available.trans (line.idle.resolve_left nofun))

theorem InLine.step (line : InLine fair workshop served behind) {move : Move α}
    {later : Workshop semaphore α} (step : Step workshop move later) :
    ∃ served behind, InLine fair later served behind := by
  cases step with
  | still => exact ⟨served, behind, line⟩
  | submit => exact line.submit
  | pass own phase next keeps => exact ⟨_, _, line.pass phase next keeps⟩
  | leave phase => exact line.leave phase

/-- At most one of the jobs that wait is called. -/
inductive Called (phases : List (Phase α)) : List (Phase α) → Prop
  | none : Called phases phases
  | next {job : Nat} (phase : phases[job]? = some .queued) :
    Called phases (phases.set job .called)

theorem InLine.called (line : InLine fair workshop served behind) {outcome : JobEnd α}
    (phase : workshop.phases[job]? = some (.leaving outcome)) (entry : Entry α) :
    Called (workshop.pass job (.gone outcome) entry).phases
      (workshop.pass job (.gone outcome) entry).release.phases := by
  obtain ⟨within, -⟩ := List.getElem?_eq_some_iff.mp (line.served_of_phase phase nofun)
  cases behind with
  | zero =>
    simp only [release, Workshop.pass, (fair.release_none line.waiting).1]
    exact .none
  | succ behind =>
    simp only [release, Workshop.pass, (fair.release_next line.waiting).1]
    refine .next ?_
    rw [set_served line within, List.getElem?_append_right (by rw [List.length_set])]
    simp

/-! ## The journal -/

/-- How many entries there are of a job by the time it is there. -/
def Phase.stages (phase : Phase α) : Nat :=
  (phase.record 0).length

/-- What is recorded of a job. There is nothing of one that was not submitted. -/
def past (phases : List (Phase α)) (job : Nat) : List (Entry α) :=
  (phases[job]?).elim [] (Phase.record job)

/-- The journal has every job's life so far and nothing else. -/
structure Recorded (workshop : Workshop semaphore α) : Prop where
  record (job : Nat) : workshop.record job = past workshop.phases job
  length : workshop.journal.length = (workshop.phases.map Phase.stages).sum

theorem Next.record {old new : Phase α} {entry : Entry α} (next : Next job old entry new) :
    new.record job = old.record job ++ [entry] := by
  cases next <;> rfl

theorem Next.job_eq {old new : Phase α} {entry : Entry α} (next : Next job old entry new) :
    entry.job = job := by
  cases next <;> rfl

theorem Next.stages {old new : Phase α} {entry : Entry α} (next : Next job old entry new) :
    new.stages = old.stages + 1 := by
  cases next <;> rfl

theorem past_set {phases : List (Phase α)} {old new : Phase α} (phase : phases[job]? = some old)
    (other : Nat) :
    past (phases.set job new) other =
      if job = other then new.record job else past phases other := by
  obtain ⟨within, -⟩ := List.getElem?_eq_some_iff.mp phase
  rw [past, List.getElem?_set, if_pos within]
  split
  · next same =>
    subst same
    rfl
  · rfl

theorem past_append (phases : List (Phase α)) (new : Phase α) (job : Nat) :
    past (phases ++ [new]) job =
      past phases job ++ if phases.length = job then new.record job else [] := by
  rw [past, past, List.getElem?_append]
  split
  · next within => rw [if_neg (Nat.ne_of_gt within), List.append_nil]
  · next beyond =>
    rw [List.getElem?_eq_none (Nat.le_of_not_lt beyond)]
    split
    · next same => subst same; simp
    · rw [List.getElem?_eq_none (by rw [List.length_singleton]; omega)]
      rfl

theorem Called.past {phases later : List (Phase α)} (called : Called phases later) (job : Nat) :
    past later job = past phases job := by
  cases called with
  | none => rfl
  | @next other phase =>
    rw [past_set phase]
    split
    · next same => rw [← same, Workshop.past, phase]; rfl
    · rfl

theorem Called.stages {phases later : List (Phase α)} (called : Called phases later) :
    (later.map Phase.stages).sum = (phases.map Phase.stages).sum := by
  cases called with
  | none => rfl
  | @next job phase =>
    have counted : ((phases.set job .called).map Phase.stages).sum + 1 =
        (phases.map Phase.stages).sum + 1 := sum_set Phase.stages phase
    exact Nat.add_right_cancel counted

theorem Called.unfinished {phases later : List (Phase α)} (called : Called phases later) :
    select Phase.unfinished 0 later = select Phase.unfinished 0 phases := by
  cases called with
  | none => rfl
  | next phase => exact select_set_of_same phase rfl

theorem filter_journal (journal : List (Entry α)) (entry : Entry α) (job : Nat) :
    (journal ++ [entry]).filter (·.job == job) =
      journal.filter (·.job == job) ++ if entry.job = job then [entry] else [] := by
  rw [List.filter_append, List.filter_singleton]
  congr 1
  simp

theorem Recorded.pass (recorded : Recorded workshop) {old new : Phase α} {entry : Entry α}
    (phase : workshop.phases[job]? = some old) (next : Next job old entry new) :
    Recorded (workshop.pass job new entry) where
  record other := by
    have before := recorded.record other
    rw [Workshop.record] at before ⊢
    simp only [Workshop.pass]
    rw [filter_journal, before, past_set phase, next.job_eq]
    split
    · next same => rw [← same, past, phase, next.record]; rfl
    · rw [List.append_nil]
  length := by
    have counted := @sum_set _ _ _ _ new Phase.stages phase
    rw [next.stages] at counted
    simp only [Workshop.pass, List.length_append, List.length_singleton, recorded.length]
    omega

theorem Recorded.release (recorded : Recorded workshop)
    (called : Called workshop.phases workshop.release.phases) : Recorded workshop.release where
  record job := (recorded.record job).trans (called.past job).symm
  length := recorded.length.trans called.stages.symm

theorem Recorded.submit (recorded : Recorded workshop) : Recorded workshop.submit where
  record job := by
    have before := recorded.record job
    rw [Workshop.record] at before ⊢
    simp only [Workshop.submit]
    rw [filter_journal, before, past_append, Entry.job]
    congr 1
    split
    · next same =>
      subst same
      split <;> rfl
    · rfl
  length := by
    simp only [Workshop.submit, List.length_append, List.length_singleton, recorded.length,
      List.map_append, List.sum_append]
    split <;> rfl

theorem Recorded.fresh {size : Nat} (opened : new? semaphore α size = some workshop) :
    Recorded workshop := by
  obtain ⟨permits, -, rfl⟩ := Option.map_eq_some_iff.mp opened
  exact ⟨fun _ => rfl, rfl⟩

theorem Recorded.step (recorded : Recorded workshop) (line : InLine fair workshop served behind)
    {move : Move α} {later : Workshop semaphore α} (step : Step workshop move later) :
    Recorded later := by
  cases step with
  | still => exact recorded
  | submit => exact recorded.submit
  | pass own phase next => exact recorded.pass phase next
  | leave phase =>
    exact (recorded.pass phase (.leave _)).release (line.called phase _)

end Workshop

/-! ## The pool that is told -/

namespace JobPool

/-- The first jobs run, as many as there are workers, and the others wait. -/
def serving (size : Nat) (unfinished : List Nat) : JobPool Nat where
  size
  running := unfinished.take size
  waiting := unfinished.drop size

theorem fill_eq_serving {pool : JobPool Nat} (bounded : pool.Bounded) :
    pool.fill = serving pool.size (pool.running ++ pool.waiting) := by
  rw [fill, serving, available, List.take_append, List.drop_append,
    List.take_of_length_le bounded, List.drop_of_length_le bounded, List.nil_append]

variable {size job : Nat} {unfinished : List Nat}

theorem bounded_serving : (serving size unfinished).Bounded :=
  List.length_take_le size unfinished

theorem serving_submit : (serving size unfinished).submit job =
    serving size (unfinished ++ [job]) := by
  have filled := @fill_eq_serving
    { serving size unfinished with waiting := (serving size unfinished).waiting ++ [job] }
    bounded_serving
  refine filled.trans ?_
  simp only [serving, ← List.append_assoc, List.take_append_drop]

theorem serving_finish (runs : job ∈ unfinished.take size) :
    ((serving size unfinished).finish (· == job)).2 = serving size (unfinished.erase job) := by
  have filled := fill_eq_serving ((@bounded_serving size unfinished).eraseP (· == job))
  have split := List.erase_append_left (unfinished.drop size) runs
  rw [List.take_append_drop, List.erase_eq_eraseP' job (unfinished.take size)] at split
  exact filled.trans (congrArg (serving size) split.symm)

end JobPool

namespace Workshop

variable {semaphore : Semaphore} {α : Type} {fair : semaphore.Fair}
  {workshop : Workshop semaphore α} {served : List (Phase α)} {behind job : Nat}

/-- A job that runs is one of the first that have not ended, because it has a permit and they
have waited for one longer than all that wait. -/
theorem InLine.mem_take (line : InLine fair workshop served behind)
    (phase : workshop.phases[job]? = some .working) :
    job ∈ workshop.unfinished.take workshop.size := by
  have few : (select Phase.unfinished 0 served).length ≤ workshop.size := by
    have permits := line.permits
    have fewer : (served.map (·.unfinished.toNat)).sum ≤ (served.map (·.holds.toNat)).sum := by
      refine List.sum_le_sum fun phase mem => ?_
      have ne := line.none_queued phase mem
      cases phase with
      | queued => exact absurd rfl ne
      | _ => simp [Phase.unfinished, Phase.holds]
    rw [length_select]
    omega
  have mem : job ∈ select Phase.unfinished 0 served :=
    mem_select_iff.mpr ⟨_, line.served_of_phase phase nofun, rfl⟩
  rw [Workshop.unfinished, line.phases, select_append, List.take_append, List.take_of_length_le few]
  exact List.mem_append_left _ mem

theorem pool_pass (job : Nat) (new : Phase α) (entry : Entry α) :
    (workshop.pass job new entry).pool = workshop.pool.follow entry := by
  rw [pool, Workshop.pass, List.foldl_append]
  rfl

/-- The pool that is told has the same jobs running and waiting. -/
def Mirrored (workshop : Workshop semaphore α) : Prop :=
  workshop.pool = .serving workshop.size workshop.unfinished

theorem Mirrored.fresh {size : Nat} (opened : new? semaphore α size = some workshop) :
    workshop.Mirrored := by
  obtain ⟨permits, -, rfl⟩ := Option.map_eq_some_iff.mp opened
  simp [Mirrored, pool, Workshop.unfinished, select, JobPool.serving]

theorem Mirrored.submit (mirrored : workshop.Mirrored) : workshop.submit.Mirrored := by
  rw [Mirrored] at mirrored ⊢
  have more : workshop.submit.unfinished = workshop.unfinished ++ [workshop.phases.length] := by
    simp only [Workshop.unfinished, Workshop.submit, select_append, Nat.zero_add]
    split <;> rfl
  have told : workshop.submit.pool = workshop.pool.submit workshop.phases.length := by
    rw [pool, Workshop.submit, List.foldl_append]
    rfl
  rw [told, mirrored, more, JobPool.serving_submit]
  rfl

/-- A job ends, or the pool is told nothing that concerns it. -/
theorem Next.ends_or {old new : Phase α} {entry : Entry α} (next : Next job old entry new) :
    (∃ outcome, old = .working ∧ entry = .ended job outcome ∧ new = .leaving outcome) ∨
      (new.unfinished = old.unfinished ∧ ∀ pool : JobPool Nat, pool.follow entry = pool) := by
  cases next with
  | finish outcome => exact .inl ⟨outcome, rfl, rfl, rfl⟩
  | _ => exact .inr ⟨rfl, fun _ => rfl⟩

theorem Mirrored.pass (mirrored : workshop.Mirrored) (line : InLine fair workshop served behind)
    {old new : Phase α} {entry : Entry α} (phase : workshop.phases[job]? = some old)
    (next : Next job old entry new) : (workshop.pass job new entry).Mirrored := by
  rw [Mirrored] at mirrored ⊢
  rw [pool_pass, mirrored]
  obtain ⟨outcome, rfl, rfl, rfl⟩ | ⟨stays, aside⟩ := next.ends_or
  · have fewer : (workshop.pass job (.leaving outcome) (.ended job outcome)).unfinished =
        workshop.unfinished.erase job := by
      rw [Workshop.unfinished, Workshop.pass, select_set_of_lost phase rfl rfl, Nat.zero_add]
      rfl
    rw [fewer]
    exact JobPool.serving_finish (line.mem_take phase)
  · rw [aside]
    exact congrArg (JobPool.serving workshop.size) (select_set_of_same phase stays).symm

theorem Mirrored.release (mirrored : workshop.Mirrored)
    (called : Called workshop.phases workshop.release.phases) : workshop.release.Mirrored := by
  rw [Mirrored] at mirrored ⊢
  exact mirrored.trans (congrArg (JobPool.serving workshop.size) called.unfinished.symm)

theorem Mirrored.step (mirrored : workshop.Mirrored) (line : InLine fair workshop served behind)
    {move : Move α} {later : Workshop semaphore α} (step : Step workshop move later) :
    later.Mirrored := by
  cases step with
  | still => exact mirrored
  | submit => exact mirrored.submit
  | pass own phase next => exact mirrored.pass line phase next
  | leave phase => exact (mirrored.pass line phase (.leave _)).release (line.called phase _)

/-! ## All that holds in a run -/

/-- What holds however jobs are submitted, run and end. -/
structure Kept (fair : semaphore.Fair) (workshop : Workshop semaphore α) : Prop where
  line : ∃ served behind, InLine fair workshop served behind
  recorded : Recorded workshop
  mirrored : workshop.Mirrored

theorem Kept.step (kept : Kept fair workshop) (move : Move α) :
    Kept fair (workshop.step move) := by
  obtain ⟨served, behind, line⟩ := kept.line
  have step := workshop.step_step move
  exact ⟨line.step step, kept.recorded.step line step, kept.mirrored.step line step⟩

theorem run_append (workshop : Workshop semaphore α) (moves more : List (Move α)) :
    workshop.run (moves ++ more) = (workshop.run moves).run more :=
  List.foldl_append

theorem Kept.run (kept : Kept fair workshop) (moves : List (Move α)) :
    Kept fair (workshop.run moves) := by
  induction moves using List.reverseRecOn with
  | nil => exact kept
  | append_singleton moves move ih =>
    rw [run_append]
    exact ih.step move

theorem Kept.fresh {size : Nat} (opened : new? semaphore α size = some workshop) :
    Kept fair workshop :=
  ⟨⟨_, _, .fresh opened⟩, .fresh opened, .fresh opened⟩

theorem Step.size {move : Move α} {later : Workshop semaphore α} (step : Step workshop move later) :
    later.size = workshop.size := by
  cases step <;> rfl

theorem pass_ne (new : Phase α) (entry : Entry α) : workshop.pass job new entry ≠ workshop := by
  intro same
  have longer := congrArg (·.journal.length) same
  simp [Workshop.pass] at longer

theorem pass_release_ne (new : Phase α) (entry : Entry α) :
    (workshop.pass job new entry).release ≠ workshop := by
  intro same
  have longer := congrArg (·.journal.length) same
  simp [Workshop.pass, release] at longer

theorem stages_le (phase : Phase α) : phase.stages ≤ 5 := by
  cases phase <;> simp [Phase.stages, Phase.record, life]

theorem Recorded.length_le (recorded : Recorded workshop) :
    workshop.journal.length ≤ 5 * workshop.phases.length := by
  have most := List.sum_le_card_nsmul (workshop.phases.map Phase.stages) 5 (by
    intro stages mem
    obtain ⟨phase, -, rfl⟩ := List.mem_map.mp mem
    exact stages_le phase)
  rw [List.length_map, smul_eq_mul, Nat.mul_comm] at most
  exact recorded.length.trans_le most

/-- Once things are quiet every job waits, works or is done with. -/
theorem Quiet.phase (quiet : workshop.Quiet) {phase : Phase α} (mem : phase ∈ workshop.phases) :
    phase = .queued ∨ phase = .working ∨ ∃ outcome, phase = .told outcome := by
  obtain ⟨job, found⟩ := List.mem_iff_getElem?.mp mem
  have start := quiet (.start job) rfl
  have leave := quiet (.leave job) rfl
  have tell := quiet (.tell job) rfl
  simp only [step, found] at start leave tell
  cases phase with
  | queued => exact .inl rfl
  | called => exact absurd start (pass_ne _ _)
  | working => exact .inr (.inl rfl)
  | leaving outcome => exact absurd leave (pass_release_ne _ _)
  | gone outcome => exact absurd tell (pass_ne _ _)
  | told outcome => exact .inr (.inr ⟨outcome, rfl⟩)

/-- The jobs that were served and have not ended work, and the others wait. -/
theorem InLine.unfinished (line : InLine fair workshop served behind) (quiet : workshop.Quiet) :
    workshop.unfinished = workshop.running ++ List.range' served.length behind ∧
      workshop.available + workshop.running.length = workshop.size := by
  have settled : ∀ phase ∈ served, phase = .working ∨ ∃ outcome, phase = .told outcome :=
    fun phase mem => (quiet.phase (line.phases ▸ List.mem_append_left _ mem)).resolve_left
      (line.none_queued phase mem)
  have running : workshop.running = select Phase.isWorking 0 served := by
    rw [Workshop.running, line.phases, select_append, select_replicate_of_not rfl, List.append_nil]
  have same : select Phase.unfinished 0 served = select Phase.isWorking 0 served := by
    refine select_congr fun phase mem => ?_
    obtain rfl | ⟨outcome, rfl⟩ := settled phase mem <;> rfl
  have held : (served.map (·.holds.toNat)).sum = workshop.running.length := by
    rw [running, length_select]
    refine congrArg List.sum (List.map_congr_left fun phase mem => ?_)
    obtain rfl | ⟨outcome, rfl⟩ := settled phase mem <;> rfl
  constructor
  · rw [Workshop.unfinished, line.phases, select_append, select_replicate rfl, same, running,
      Nat.zero_add]
  · rw [← held]
    exact line.permits

/-- A workshop with one worker. -/
def single : Workshop .counting Nat where
  size := 1
  permits := { free := 1 }

end Workshop

end DebugLink
