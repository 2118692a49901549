import DebugLink.Connection.Work

/-!
# Connection.Run: work performed to its end

A piece of work may leave further pieces behind. `Connection.run` performs pieces with all that
they leave behind, and nothing in between: what a piece leaves behind comes before what was already
waiting.

Main statement: this ends. `Connection.cost` bounds the number of pieces that remain, and every
piece uses some of it up (`cost_perform_lt`), so `run` is nothing but performing one piece after the
other until none is left (`run_nil`, `run_cons`).
-/

namespace DebugLink

/-- How many pieces values may take to drop, the first apart. -/
def dropCost (values : List StoredValue) : Nat :=
  8 * (values.flatMap StoredValue.owned).length

/-- How many pieces a piece may come to with all that it leaves behind, as far as it can be told
without the connection. -/
def Work.cost : Work → Nat
  | .replied _ => 6
  | .discard values => 1 + dropCost values
  | .release _ => 8
  | .reclaim .. => 7
  | .queueDisposal .. => 6
  | .flush => 5
  | .sendBatch _ => 4
  | .dispose _ => 3
  | .disconnect => 6
  | .close => 7
  | .abandon .. | .resolve .. | .fail .. | .suspended | .publish _ | .countSent
  | .clearDisposals | .closeFeed | .markClosed | .queueClose => 1

/-- How many pieces several pieces may come to. -/
def Work.totalCost : List Work → Nat
  | [] => 0
  | work :: works => work.cost + totalCost works

namespace Connection

/-- How many pieces the end of the connection would come to. -/
def reserve (connection : Connection) : Nat :=
  dropCost connection.scope.contents + connection.pending.length

/-- A bound on the number of pieces that remain to be performed. -/
def cost (works : List Work) (connection : Connection) : Nat :=
  Work.totalCost works + connection.reserve

/-- Performs pieces with all that they leave behind, `fuel` pieces at most. -/
def runFor : (fuel : Nat) → List Work → Connection → Connection
  | 0, _, connection => connection
  | _, [], connection => connection
  | fuel + 1, work :: works, connection =>
    let performed := connection.perform work
    runFor fuel (performed.1 ++ works) performed.2

/-- Performs pieces with all that they leave behind. -/
def run (works : List Work) (connection : Connection) : Connection :=
  runFor (cost works connection) works connection

/-! ## Performing ends -/

theorem totalCost_append (more works : List Work) :
    Work.totalCost (more ++ works) = Work.totalCost more + Work.totalCost works := by
  induction more with
  | nil => simp [Work.totalCost]
  | cons work more ih => simp [Work.totalCost, ih, Nat.add_assoc]

theorem totalCost_fail (requests : List Request) (failure : Failure) :
    Work.totalCost (requests.map (.fail · failure)) = requests.length := by
  induction requests with
  | nil => rfl
  | cons request requests ih =>
    simp only [List.map_cons, Work.totalCost, Work.cost, ih, List.length_cons]; omega

theorem totalCost_release (leases : List LeaseId) :
    Work.totalCost (leases.map .release) = 8 * leases.length := by
  induction leases with
  | nil => rfl
  | cons lease leases ih =>
    simp only [List.map_cons, Work.totalCost, Work.cost, ih, List.length_cons]; omega

theorem reserve_settle (connection : Connection) (request : Request)
    (outcome : Except Failure Bytes) (measured : Except Failure Unit) :
    (connection.settle request outcome measured).reserve = connection.reserve := rfl

theorem reserve_take_le (connection : Connection) (id : UInt32) :
    (connection.take id).2.reserve ≤ connection.reserve :=
  Nat.add_le_add_left (List.length_filter_le _ _) _

/-- Taking a request out of the pending ones leaves fewer of them. -/
theorem reserve_take_lt {connection : Connection} {id : UInt32} {request : Request}
    (h : (connection.take id).1 = some request) :
    (connection.take id).2.reserve < connection.reserve := by
  have hfound : connection.pending.find? (·.id == id) = some request := h
  have hmem := List.mem_of_find?_eq_some hfound
  have hid := List.find?_some hfound
  have hlt : (connection.pending.filter (·.id != id)).length < connection.pending.length := by
    apply List.length_filter_lt_length_iff_exists.2
    exact ⟨request, hmem, by simp [bne, hid]⟩
  exact Nat.add_lt_add_left hlt _

theorem pending_foldl_settle (old : List Request) (connection : Connection)
    (outcome : Except Failure Bytes) (measured : Except Failure Unit) :
    (old.foldl (fun connection old => connection.settle old outcome measured) connection).pending
      = connection.pending ∧
    (old.foldl (fun connection old => connection.settle old outcome measured) connection).scope
      = connection.scope := by
  induction old generalizing connection with
  | nil => exact ⟨rfl, rfl⟩
  | cons request old ih =>
    obtain ⟨hp, hs⟩ := ih (connection.settle request outcome measured)
    exact ⟨hp, hs⟩

theorem reserve_register_le (connection : Connection) (request : Request) :
    (connection.register request).reserve ≤ connection.reserve + 1 := by
  obtain ⟨hp, hs⟩ := pending_foldl_settle (connection.pending.filter (·.id == request.id))
    connection (.error .disconnected) (.error .disconnected)
  have hlen := List.length_filter_le (fun r : Request => r.id != request.id) connection.pending
  simp only [register, reserve, hp, hs, List.length_append, List.length_singleton]
  omega

/-- A dispose command takes its request's place among the pending ones and a piece to count it. -/
theorem cost_dispose_lt (connection : Connection) (payload : Bytes) :
    Work.totalCost (connection.issue .disposeObjects payload).2.1 +
      (connection.issue .disposeObjects payload).2.2.reserve < 3 + connection.reserve := by
  have hresumes : Command.resumes .disposeObjects = false := by decide
  unfold issue
  split
  · simp only [Work.totalCost]; omega
  · have hreg := reserve_register_le
      { connection with nextId := idAfter connection.nextId, probes := [] }
      { id := connection.nextId, serial := connection.issued, command := .disposeObjects,
        probes := connection.probes }
    have hsame : reserve { connection with nextId := idAfter connection.nextId, probes := [] }
      = connection.reserve := rfl
    rw [hsame] at hreg
    simp only [hresumes, Bool.false_eq_true, if_false, List.nil_append]
    split
    · simp only [Work.totalCost, Work.cost]
      simp only [reserve] at hreg ⊢
      omega
    · have htake := reserve_take_le
        (register { connection with nextId := idAfter connection.nextId, probes := [] }
          { id := connection.nextId, serial := connection.issued, command := .disposeObjects,
            probes := connection.probes }) connection.nextId
      simp only [Work.totalCost]
      simp only [reserve] at hreg htake ⊢
      omega

/-- What the end of the scope leaves to drop was in the reserve. -/
theorem cost_invalidate_le (connection : Connection) :
    Work.totalCost connection.invalidate.1 + connection.invalidate.2.reserve
      ≤ 1 + connection.reserve := by
  unfold invalidate
  split
  · simp only [Work.totalCost]; omega
  · next hdormant =>
    simp only [Bool.not_eq_true] at hdormant
    simp only [Work.totalCost, Work.cost, reserve, report,
      Scope.invalidate, hdormant, Bool.false_eq_true, if_false, Scope.leave]
    simp only [Scope.contents, dropCost, List.map_nil, List.flatMap_nil, List.length_nil]
    omega

/-- The end of the connection uses the reserve up. -/
theorem cost_disconnect_lt (connection : Connection) :
    Work.totalCost connection.disconnect.1 + connection.disconnect.2.reserve
      < 6 + connection.reserve := by
  unfold disconnect
  split
  · simp only [Work.totalCost]; omega
  · have hfail := totalCost_fail connection.pending .disconnected
    have hinv := cost_invalidate_le
      { connection with
        dead := true
        leases := connection.leases.clear
        measurements := connection.measurements ++
          connection.probes.map (·, .error .disconnected)
        probes := []
        pending := []
        scope := { connection.scope with resumes := [] } }
    simp only [totalCost_append, hfail, Work.totalCost, Work.cost]
    simp only [reserve, Scope.contents, List.length_nil] at hinv ⊢
    omega

theorem reserve_noteSuspended (connection : Connection) :
    connection.noteSuspended.reserve = connection.reserve := by
  simp only [noteSuspended, Scope.suspend]
  by_cases hactive : connection.scope.active <;>
    by_cases hresumes : connection.scope.resumes = [] <;>
    simp [hactive, hresumes, reserve, report, Scope.contents]

/-- Every piece of work uses up some of the cost. -/
theorem cost_perform_lt (connection : Connection) (work : Work) (works : List Work) :
    cost ((connection.perform work).1 ++ works) (connection.perform work).2
      < cost (work :: works) connection := by
  suffices h : Work.totalCost (connection.perform work).1 + (connection.perform work).2.reserve
      < work.cost + connection.reserve by
    simp only [cost, totalCost_append, Work.totalCost]
    omega
  have quiet : ∀ connection' : Connection, connection'.reserve = connection.reserve →
      Work.totalCost (([], connection') : List Work × Connection).1
        + (([], connection') : List Work × Connection).2.reserve < 1 + connection.reserve := by
    intro connection' h; simp only [Work.totalCost, h]; omega
  cases work with
  | replied reply =>
    have hlt := @reserve_take_lt connection reply.id
    have hle := connection.reserve_take_le reply.id
    simp only [perform, replied]
    split
    · next request connection' heq =>
      have : connection'.reserve < connection.reserve := by
        have := @hlt request (by rw [heq])
        rwa [heq] at this
      simp only [Work.totalCost, Work.cost]
      omega
    · next connection' heq =>
      replace hle : connection'.reserve ≤ connection.reserve := by rwa [heq] at hle
      have hreport : (connection'.report (.unknownReply reply.id)).reserve = connection'.reserve :=
        rfl
      simp only [Work.totalCost, Work.cost, hreport]
      omega
  | abandon id failure =>
    have hlt := @reserve_take_lt connection id
    have hle := connection.reserve_take_le id
    simp only [perform]
    split
    · next request connection' heq =>
      have : connection'.reserve < connection.reserve := by
        have := @hlt request (by rw [heq])
        rwa [heq] at this
      simp only [Work.totalCost, Work.cost]
      omega
    · next connection' heq =>
      replace hle : connection'.reserve ≤ connection.reserve := by rwa [heq] at hle
      simp only [Work.totalCost, Work.cost]
      omega
  | resolve request reply => exact quiet _ (reserve_settle ..)
  | fail request failure => exact quiet _ (reserve_settle ..)
  | suspended => exact quiet _ connection.reserve_noteSuspended
  | publish batch => exact quiet _ rfl
  | discard values =>
    simp only [perform, totalCost_release, Work.cost, dropCost]; omega
  | release lease =>
    simp only [perform]
    split
    · simp only [Work.totalCost, Work.cost, reserve]
      omega
    · simp only [Work.totalCost, Work.cost, reserve]; omega
  | reclaim object retained =>
    simp only [perform, reclaim]
    split
    · simp only [Work.totalCost, Work.cost, reserve]; omega
    · simp only [Work.totalCost, Work.cost, reserve]
      omega
  | queueDisposal object retained =>
    simp only [perform]
    split
    · simp only [Work.totalCost, Work.cost, reserve]
      omega
    · simp only [Work.totalCost, Work.cost, reserve]; omega
  | flush =>
    simp only [perform]
    split
    · simp only [Work.totalCost, Work.cost, reserve]; omega
    · simp only [Work.totalCost, Work.cost, reserve]
      omega
  | sendBatch counts =>
    simp only [perform]
    split
    · simp only [Work.totalCost, Work.cost]; omega
    · simp only [Work.totalCost, Work.cost]; omega
  | dispose payload => exact connection.cost_dispose_lt payload
  | countSent => exact quiet _ rfl
  | close =>
    simp only [perform]
    split
    · simp only [Work.totalCost, Work.cost]; omega
    · simp only [Work.totalCost, Work.cost, reserve]
      omega
  | disconnect => exact connection.cost_disconnect_lt
  | clearDisposals => exact quiet _ rfl
  | closeFeed => exact quiet _ rfl
  | markClosed => exact quiet _ rfl
  | queueClose => exact quiet _ rfl

/-- More fuel than the cost changes nothing. -/
theorem runFor_eq_run (fuel : Nat) (works : List Work) (connection : Connection)
    (h : cost works connection ≤ fuel) : runFor fuel works connection = run works connection := by
  suffices key : ∀ (n m : Nat) (works : List Work) (connection : Connection),
      cost works connection ≤ n → n ≤ m →
        runFor m works connection = runFor n works connection from
    key _ _ _ _ (Nat.le_refl _) h
  intro n
  induction n with
  | zero =>
    intro m works connection hn _
    cases works with
    | nil => cases m <;> rfl
    | cons work works =>
      have := connection.cost_perform_lt work works
      omega
  | succ n ih =>
    intro m works connection hn hm
    cases m with
    | zero => omega
    | succ m =>
      cases works with
      | nil => rfl
      | cons work works =>
        have := connection.cost_perform_lt work works
        exact ih m _ _ (by omega) (by omega)

@[simp]
theorem run_nil (connection : Connection) : run [] connection = connection := by
  unfold run
  cases cost [] connection <;> rfl

/-- The first piece is performed, and what it leaves behind comes before the others. -/
theorem run_cons (work : Work) (works : List Work) (connection : Connection) :
    run (work :: works) connection
      = run ((connection.perform work).1 ++ works) (connection.perform work).2 := by
  have hlt := connection.cost_perform_lt work works
  obtain ⟨n, hn⟩ : ∃ n, cost (work :: works) connection = n + 1 :=
    ⟨_, (Nat.succ_pred_eq_of_pos (by omega)).symm⟩
  rw [← runFor_eq_run n ((connection.perform work).1 ++ works) _ (by omega), run, hn]
  rfl

/-- Pieces are performed before those that come after them, with all that they leave behind. -/
theorem run_append (works more : List Work) (connection : Connection) :
    run (works ++ more) connection = run more (run works connection) := by
  induction h : cost works connection using Nat.strongRecOn generalizing works connection with
  | ind n ih =>
    cases works with
    | nil => rw [List.nil_append, run_nil]
    | cons work works =>
      have hlt := connection.cost_perform_lt work works
      rw [List.cons_append, run_cons, run_cons, ← List.append_assoc]
      exact ih _ (h ▸ hlt) _ _ rfl

/-- A piece that leaves nothing behind. -/
theorem run_cons_of_quiet {work : Work} {works : List Work} {connection : Connection}
    (h : (connection.perform work).1 = []) :
    run (work :: works) connection = run works (connection.perform work).2 := by
  rw [run_cons, h, List.nil_append]

theorem run_singleton_of_quiet {work : Work} {connection : Connection}
    (h : (connection.perform work).1 = []) : run [work] connection = (connection.perform work).2 := by
  rw [run_cons_of_quiet h, run_nil]

end Connection

end DebugLink
