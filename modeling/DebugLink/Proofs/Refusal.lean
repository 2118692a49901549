import DebugLink.Proofs.Callers

/-!
# Refusal: who waits on the dispatcher is refused at once, and nobody else notices

Code that runs on the dispatcher of a connection cannot wait there for a reply, which only the
dispatcher would deliver. Whether it awaits the reply or blocks, it is told so at once, and has done
with its command (`step_refused`). By then the command has been issued, and the connection is left
as it is. Two worlds that differ only in what was recorded before and in callers that have done
(`Alike`) go on alike, whatever the moves. So all that follows is as if the caller had just dropped
what it waited for (`alike_refused`).
-/

namespace DebugLink

/-- Whether a call closes the connection even if its command fails. -/
def Call.closes : Call → Bool
  | dispose | exit _ => true
  | _ => false

/-- What is told to whoever waits for a reply on the dispatcher that would deliver it. -/
def Receipt.refusal (receipt : Receipt) : Failure :=
  .misuse (.waitOnDispatcher receipt.id)

/-- A call whose command fails leaves the connection alone. -/
theorem Call.finish_error {call : Call} (stays : call.closes = false) (failure : Failure)
    (connection : Connection) :
    (call.finish (.error failure) connection).2 = ([], connection) := by
  cases call <;> first | rfl | cases stays

/-- A refusal is passed on by every call. -/
theorem Call.finish_refusal (call : Call) (receipt : Receipt) (connection : Connection) :
    (call.finish (.error receipt.refusal) connection).1 = .error receipt.refusal := by
  cases call <;> rfl

/-- Whether a caller has done with its operation. -/
def Activity.Rests (activity : Activity) : Prop :=
  activity = {} ∨ ∃ call issued, activity = ⟨[], .concluding call issued⟩

namespace World

variable {world : World} {n : Nat} {activity : Activity}

/-! ## A caller that has done -/

/-- A caller that rests makes no move any more. -/
theorem step_rests (found : world.activities[n]? = some activity) (rests : activity.Rests)
    {move : Move} (moves : mover? move = some n) : world.step move = world := by
  cases move with
  | advance m caller | block m caller =>
    cases moves
    obtain rfl | ⟨call, issued, rfl⟩ := rests <;> simp only [step, goOn, found]
  | supply m result =>
    cases moves
    obtain rfl | ⟨call, issued, rfl⟩ := rests <;> simp only [step, supply, found]
  | cancel m =>
    cases moves
    obtain rfl | ⟨call, issued, rfl⟩ := rests <;> simp only [step, cancel, found]
  | _ => cases moves

/-- Others do not touch what a caller is doing. -/
theorem getElem_step (found : world.activities[n]? = some activity) {move : Move}
    (other : mover? move ≠ some n) : (world.step move).activities[n]? = some activity := by
  have caller {m : Nat} (moves : mover? move = some m) :
      (world.step move).activities[n]? = some activity := by
    have differs : m ≠ n := by
      rintro rfl
      exact other moves
    have made := @callerStep world _ _ moves
    generalize world.step move = world' at made ⊢
    cases made with
    | still => exact found
    | _ => exact (List.getElem?_set_ne differs).trans found
  cases move with
  | start operation =>
    refine (List.getElem?_append_left ?_).trans found
    exact (List.getElem?_eq_some_iff.mp found).1
  | advance m _ => exact caller rfl
  | block m _ => exact caller rfl
  | supply m _ => exact caller rfl
  | cancel m => exact caller rfl
  | _ => exact found

/-- A caller that rests does so ever after. -/
theorem getElem_foldl_step (found : world.activities[n]? = some activity) (rests : activity.Rests)
    (moves : List Move) : (moves.foldl step world).activities[n]? = some activity := by
  induction moves generalizing world with
  | nil => exact found
  | cons move moves ih =>
    apply ih
    by_cases own : mover? move = some n
    · rw [step_rests found rests own]
      exact found
    · exact getElem_step found own

/-! ## Two worlds that go on alike -/

/-- Two worlds that differ at most in what was recorded before and in callers that have done. -/
structure Alike (past past' : List Entry) (world world' : World) : Prop where
  engine : world'.engine = world.engine
  length : world'.activities.length = world.activities.length
  activities : ∀ n : Nat, world'.activities[n]? = world.activities[n]? ∨
    (∃ activity : Activity, world.activities[n]? = some activity ∧ activity.Rests) ∧
      ∃ activity : Activity, world'.activities[n]? = some activity ∧ activity.Rests
  journal : ∃ rest, world.journal = past ++ rest ∧ world'.journal = past' ++ rest

namespace Alike

variable {past past' : List Entry} {world' : World}

theorem connection (alike : Alike past past' world world') :
    world'.connection = world.connection :=
  congrArg Engine.connection alike.engine

theorem record (alike : Alike past past' world world') (engine : Engine) (entries : List Entry) :
    Alike past past' (world.record engine entries) (world'.record engine entries) := by
  obtain ⟨rest, journal, journal'⟩ := alike.journal
  refine ⟨rfl, alike.length, alike.activities, rest ++ entries, ?_, ?_⟩
  · rw [← List.append_assoc, ← journal]
    rfl
  · rw [← List.append_assoc, ← journal']
    rfl

theorem recordCaller (alike : Alike past past' world world') (n : Nat) (activity : Activity)
    (entries : List Entry) (connection : Connection) :
    Alike past past' (world.recordCaller n activity entries connection)
      (world'.recordCaller n activity entries connection) := by
  obtain ⟨rest, journal, journal'⟩ := alike.journal
  refine ⟨?_, ?_, fun m => ?_, rest ++ entries, ?_, ?_⟩
  · simp only [World.recordCaller, alike.engine]
  · simp only [World.recordCaller, List.length_set, alike.length]
  · simp only [World.recordCaller, List.getElem?_set, alike.length]
    by_cases same : n = m
    · exact .inl (by rw [if_pos same, if_pos same])
    · rw [if_neg same, if_neg same]
      exact alike.activities m
  · rw [← List.append_assoc, ← journal]
    rfl
  · rw [← List.append_assoc, ← journal']
    rfl

theorem start (alike : Alike past past' world world') (operation : Operation) :
    Alike past past' (world.start operation) (world'.start operation) := by
  obtain ⟨rest, journal, journal'⟩ := alike.journal
  have begun : world'.connection.start world'.activities.length operation =
      world.connection.start world.activities.length operation := by
    rw [alike.connection, alike.length]
  simp only [World.start, begun]
  generalize world.connection.start world.activities.length operation = begun
  obtain ⟨entries, activity, connection⟩ := begun
  refine ⟨?_, ?_, fun m => ?_, rest ++ entries, ?_, ?_⟩
  · simp only [alike.engine]
  · simp only [List.length_append, alike.length]
  · by_cases old : m < world.activities.length
    · rw [List.getElem?_append_left (alike.length ▸ old), List.getElem?_append_left old]
      exact alike.activities m
    · rw [List.getElem?_append_right (by rw [alike.length]; omega),
        List.getElem?_append_right (by omega), alike.length]
      exact .inl rfl
  · rw [journal, List.append_assoc]
  · rw [journal', List.append_assoc]

/-- Callers that have done stay where they are. -/
theorem rest (alike : Alike past past' world world') {move : Move} (moves : mover? move = some n)
    (goes : world'.activities[n]? = world.activities[n]? →
      Alike past past' (world.step move) (world'.step move)) :
    Alike past past' (world.step move) (world'.step move) := by
  obtain same | ⟨⟨activity, found, rests⟩, activity', found', rests'⟩ := alike.activities n
  · exact goes same
  · rw [step_rests found rests moves, step_rests found' rests' moves]
    exact alike

/-- What a caller does that has not done depends on nothing in which the worlds differ. -/
theorem goOn (alike : Alike past past' world world')
    (same : world'.activities[n]? = world.activities[n]?)
    (poll : Receipt → Option (Except Failure Bytes)) :
    Alike past past' (world.goOn n poll) (world'.goOn n poll) := by
  simp only [World.goOn, same, alike.connection]
  split
  · exact alike
  · exact alike.recordCaller _ _ _ _
  · split
    · exact alike
    · exact alike.recordCaller _ _ _ _
  · exact alike.recordCaller _ _ _ _
  · exact alike.recordCaller _ _ _ _
  · exact alike.recordCaller _ _ _ _
  · exact alike

theorem supply (alike : Alike past past' world world')
    (same : world'.activities[n]? = world.activities[n]?) (result : Except Failure StoredValue) :
    Alike past past' (world.supply n result) (world'.supply n result) := by
  simp only [World.supply, same, alike.connection]
  split
  · exact alike.recordCaller _ _ _ _
  · split
    · exact alike.recordCaller _ _ _ _
    · exact alike
  · exact alike

theorem cancel (alike : Alike past past' world world')
    (same : world'.activities[n]? = world.activities[n]?) :
    Alike past past' (world.cancel n) (world'.cancel n) := by
  simp only [World.cancel, same, alike.connection]
  split
  · exact alike.recordCaller _ _ _ _
  · exact alike.recordCaller _ _ _ _
  · exact alike

theorem step (alike : Alike past past' world world') (move : Move) :
    Alike past past' (world.step move) (world'.step move) := by
  cases move with
  | start operation => exact alike.start operation
  | advance n caller =>
    refine alike.rest rfl fun same => ?_
    simp only [World.step, alike.connection]
    exact alike.goOn same _
  | block n caller =>
    refine alike.rest rfl fun same => ?_
    simp only [World.step, alike.connection]
    exact alike.goOn same _
  | supply n result => exact alike.rest rfl fun same => alike.supply same result
  | cancel n => exact alike.rest rfl fun same => alike.cancel same
  | _ =>
    simp only [World.step, takeEntries, wroteEntries, flowEntries, alike.connection, alike.engine]
    exact alike.record _ _

theorem run (alike : Alike past past' world world') (moves : List Move) :
    Alike past past' (moves.foldl World.step world) (moves.foldl World.step world') := by
  induction moves generalizing world world' with
  | nil => exact alike
  | cons move moves ih => exact ih (alike.step move)

end Alike

/-! ## Who is refused -/

variable {call : Call} {receipt : Receipt}

/-- A caller whose call fails has done, and leaves the connection alone. -/
theorem goOn_failed {issued : Except Failure Receipt} {failure : Failure}
    {poll : Receipt → Option (Except Failure Bytes)}
    (found : world.activities[n]? = some ⟨[], .calling call issued⟩) (stays : call.closes = false)
    (polled : outcomeOf poll issued = some (.error failure)) :
    world.goOn n poll = world.recordCaller n ⟨[], .concluding call issued⟩
      (outcomeEntries (.error failure) issued) world.connection := by
  have ended := Call.finish_error stays failure world.connection
  simp only [goOn, found, polled, ended]

/-- Whoever waits on the dispatcher, by awaiting the reply or by blocking, is refused at once. -/
theorem step_refused (found : world.activities[n]? = some ⟨[], .calling call (.ok receipt)⟩)
    (stays : call.closes = false) {wait : Move}
    (waits : wait = .advance n (.dispatcher receipt.connection) ∨
      wait = .block n (.dispatcher receipt.connection)) :
    world.step wait = world.recordCaller n ⟨[], .concluding call (.ok receipt)⟩
      [.answered receipt (.error receipt.refusal)] world.connection := by
  obtain rfl | rfl := waits
  · exact goOn_failed found stays (if_pos rfl)
  · exact goOn_failed found stays (if_pos rfl)

theorem step_cancel {issued : Except Failure Receipt}
    (found : world.activities[n]? = some ⟨[], .calling call issued⟩) :
    world.step (.cancel n) = world.recordCaller n {} [] world.connection := by
  simp only [step, cancel, found]

/-- A caller that is refused goes as one that drops what it waited for. -/
theorem alike_refused (found : world.activities[n]? = some ⟨[], .calling call (.ok receipt)⟩)
    (stays : call.closes = false) {wait : Move}
    (waits : wait = .advance n (.dispatcher receipt.connection) ∨
      wait = .block n (.dispatcher receipt.connection)) :
    Alike (world.journal ++ [.answered receipt (.error receipt.refusal)]) world.journal
      (world.step wait) (world.step (.cancel n)) := by
  rw [step_refused found stays waits, step_cancel found]
  have here : n < world.activities.length := (List.getElem?_eq_some_iff.mp found).1
  refine ⟨rfl, ?_, fun m => ?_, [], ?_, ?_⟩
  · simp only [recordCaller, List.length_set]
  · simp only [recordCaller, List.getElem?_set]
    by_cases same : n = m
    · rw [if_pos same, if_pos same, if_pos here, if_pos here]
      exact .inr ⟨⟨_, rfl, .inr ⟨call, .ok receipt, rfl⟩⟩, _, rfl, .inl rfl⟩
    · rw [if_neg same, if_neg same]
      exact .inl rfl
  · rw [List.append_nil]
    rfl
  · rfl

end World

end DebugLink
