import DebugLink.Proofs.Issue

/-!
# Keeps: what leaves the requests alone

Most of what happens to a connection concerns neither its requests nor its scope nor the queue to
the writer. `Connection.Keeps` says that two connections agree on all of these. The pieces of work
that keep them are those `Work.aside`, and a piece that they leave behind is one of them again, or
disconnects, or disposes (`perform_aside`). What any piece may leave behind is told by
`Work.follows`: never a reply or a suspension (`perform_follows`), for these come from outside.
-/

namespace DebugLink

/-- Whether a piece of work leaves the requests, the scope and the queue to the writer alone. -/
def Work.aside : Work → Bool
  | .publish _ | .discard _ | .release _ | .reclaim .. | .queueDisposal .. | .flush | .sendBatch _
  | .countSent | .close | .clearDisposals | .closeFeed | .markClosed => true
  | .replied _ | .abandon .. | .resolve .. | .fail .. | .suspended | .dispose _ | .disconnect
  | .queueClose => false

/-- Whether a piece of work can come of another piece. -/
def Work.follows : Work → Bool
  | .replied _ | .abandon .. | .suspended | .publish _ | .close => false
  | _ => true

namespace Connection

/-- Two connections have the same requests, outcomes, scope and queue to the writer. -/
structure Keeps (before after : Connection) : Prop where
  name : after.name = before.name
  pending : after.pending = before.pending
  scope : after.scope = before.scope
  nextId : after.nextId = before.nextId
  issued : after.issued = before.issued
  dead : after.dead = before.dead
  outbound : after.outbound = before.outbound
  outboundOpen : after.outboundOpen = before.outboundOpen
  outcomes : after.outcomes = before.outcomes

variable {connection before after last : Connection}

/-- Two connections that agree on everything that counts. -/
theorem Keeps.of_same
    (same : (after.name, after.pending, after.scope, after.nextId, after.issued, after.dead,
      after.outbound, after.outboundOpen, after.outcomes) =
      (before.name, before.pending, before.scope, before.nextId, before.issued, before.dead,
        before.outbound, before.outboundOpen, before.outcomes)) : before.Keeps after := by
  simp only [Prod.mk.injEq] at same
  obtain ⟨name, pending, scope, nextId, issued, dead, outbound, outboundOpen, outcomes⟩ := same
  exact ⟨name, pending, scope, nextId, issued, dead, outbound, outboundOpen, outcomes⟩

theorem Keeps.refl : connection.Keeps connection :=
  .of_same rfl

theorem Keeps.trans (first : before.Keeps after) (second : after.Keeps last) :
    before.Keeps last where
  name := second.name.trans first.name
  pending := second.pending.trans first.pending
  scope := second.scope.trans first.scope
  nextId := second.nextId.trans first.nextId
  issued := second.issued.trans first.issued
  dead := second.dead.trans first.dead
  outbound := second.outbound.trans first.outbound
  outboundOpen := second.outboundOpen.trans first.outboundOpen
  outcomes := second.outcomes.trans first.outcomes

theorem keeps_report (notice : Notice) : connection.Keeps (connection.report notice) :=
  .of_same rfl

theorem keeps_probe : connection.Keeps connection.probe.2 := by
  simp only [probe]
  split <;> exact .of_same rfl

/-- A piece of work aside keeps the requests. -/
theorem keeps_perform {work : Work} (aside : work.aside) :
    connection.Keeps (connection.perform work).2 := by
  cases work <;> simp only [Work.aside, Bool.false_eq_true] at aside <;>
    simp only [perform, Connection.reclaim]
  case release => split <;> exact .of_same rfl
  case reclaim => split <;> exact .of_same rfl
  case flush => split <;> exact .of_same rfl
  case sendBatch => split <;> exact .refl
  case close => split <;> exact .of_same rfl
  all_goals exact .of_same rfl

/-- What a piece of work aside leaves behind is aside too, or tears the connection down or
disposes of objects. -/
theorem perform_aside {work : Work} (aside : work.aside) :
    ∀ left ∈ (connection.perform work).1,
      left.aside ∨ left = .disconnect ∨ ∃ payload, left = .dispose payload := by
  cases work <;> simp only [Work.aside, Bool.false_eq_true] at aside <;>
    simp only [perform, Connection.reclaim]
  case release => split <;> simp [Work.aside]
  case reclaim => split <;> simp [Work.aside]
  case queueDisposal => split <;> simp [Work.aside]
  case flush => split <;> simp [Work.aside]
  case sendBatch => split <;> simp [Work.aside]
  case close => split <;> simp [Work.aside]
  case discard values =>
    intro left mem
    obtain ⟨lease, -, rfl⟩ := List.mem_map.mp mem
    exact .inl rfl
  all_goals simp

/-- Nothing but values goes when a command is issued. -/
theorem mem_evicted {command : Command} {work : Work} (mem : work ∈ connection.evicted command) :
    ∃ values, work = .discard values := by
  unfold evicted at mem
  split at mem
  · exact ⟨_, List.mem_singleton.mp mem⟩
  · cases mem

theorem mem_invalidate {work : Work} (mem : work ∈ connection.invalidate.1) :
    ∃ values, work = .discard values := by
  unfold invalidate at mem
  split at mem
  · cases mem
  · exact ⟨_, List.mem_singleton.mp mem⟩

theorem evicted_aside (command : Command) : ∀ work ∈ connection.evicted command, work.aside := by
  intro work mem
  obtain ⟨values, rfl⟩ := mem_evicted mem
  rfl

theorem invalidate_aside : ∀ work ∈ connection.invalidate.1, work.aside := by
  intro work mem
  obtain ⟨values, rfl⟩ := mem_invalidate mem
  rfl

/-! ## What can come of a piece of work -/

theorem invalidate_follows : ∀ work ∈ connection.invalidate.1, work.follows := by
  intro work mem
  obtain ⟨values, rfl⟩ := mem_invalidate mem
  rfl

theorem issue_follows (command : Command) (data : Bytes) :
    ∀ work ∈ (connection.issue command data).2.1, work.follows := by
  rcases connection.dead.eq_false_or_eq_true with dead | live
  · simp [issue_of_dead dead]
  · rcases connection.outboundOpen.eq_false_or_eq_true with accepts | refuses
    · rw [issue_of_open live accepts]
      intro work mem
      rcases List.mem_append.mp mem with evicted | counted
      · obtain ⟨values, rfl⟩ := mem_evicted evicted
        rfl
      · rw [List.mem_singleton.mp counted]; rfl
    · rw [issue_of_closed live refuses]
      intro work mem
      obtain ⟨values, rfl⟩ := mem_evicted mem
      rfl

theorem disconnect_follows : ∀ work ∈ connection.disconnect.1, work.follows := by
  unfold disconnect
  split
  · simp
  · intro work mem
    simp only [List.mem_append, List.mem_map, List.mem_cons, List.not_mem_nil, or_false] at mem
    obtain (mem | ⟨request, -, rfl⟩) | rfl | rfl | rfl | rfl := mem
    · exact invalidate_follows work mem
    all_goals rfl

/-- No reply, no suspension and no batch comes of a piece of work. -/
theorem perform_follows (work : Work) : ∀ left ∈ (connection.perform work).1, left.follows := by
  cases work <;> simp only [perform, Connection.reclaim]
  case replied reply => simp only [replied]; split <;> simp [Work.follows]
  case abandon => split <;> simp [Work.follows]
  case release => split <;> simp [Work.follows]
  case reclaim => split <;> simp [Work.follows]
  case queueDisposal => split <;> simp [Work.follows]
  case flush => split <;> simp [Work.follows]
  case sendBatch => split <;> simp [Work.follows]
  case close => split <;> simp [Work.follows]
  case dispose payload => exact issue_follows .disposeObjects payload
  case disconnect => exact disconnect_follows
  case discard values =>
    intro left mem
    obtain ⟨lease, -, rfl⟩ := List.mem_map.mp mem
    rfl
  all_goals simp

end Connection

end DebugLink
