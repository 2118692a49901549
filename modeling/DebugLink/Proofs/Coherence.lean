import DebugLink.Proofs.Passage
import DebugLink.Proofs.Suspension

/-!
# Coherence: what is under way between an engine and a debuggee

Whether an engine may believe what it is told of a suspension depends only on what is under way: the
commands that were issued and not answered in one direction, the signals that it has not acted on
in the other. A `View` is that, and a `View.Step` what a step of either end does to it.

`View.Coherent` says which views can come up. The news of a suspension may be out of date, because a
command that lets the debuggee run crosses it; but then the engine awaits the reply to that
command, and it acts on the news before it acts on the reply. Every step keeps this
(`View.Coherent.step`).
-/

namespace DebugLink

/-- What is under way between an engine and a debuggee, and what either believes. -/
@[ext]
structure View where
  suspended : Bool
  scope : Scope StoredValue
  /-- The commands that were issued and are not answered. -/
  commands : List CommandPacket
  /-- The signals that the engine has not acted on, oldest first. -/
  signals : List Signal
  /-- The ids of all commands that were issued. -/
  issued : List UInt32

/-- The id of the command that was answered. -/
def Signal.answered? : Signal → Option UInt32
  | .replied id => some id
  | .stopped => none

namespace View

/-- A step of either end, seen from between them. -/
inductive Step (view : View) : View → Prop
  /-- Nothing bears on the suspension. Commands may be given up, and the scope may end. -/
  | quiet {scope : Scope StoredValue} {commands : List CommandPacket}
    (resumes : scope.resumes = view.scope.resumes)
    (active : scope.active = true → view.scope.active = true)
    (rest : commands.Sublist view.commands) : Step view { view with scope, commands }
  | issue (command : Command) (id : UInt32) (packet : Option CommandPacket)
    (fresh : id ∉ view.issued) (written : ∀ p ∈ packet, p.id = id ∧ p.asks = command) :
    Step view
      { view with
        scope := if command.resumes then view.scope.expectResume id else view.scope
        commands := view.commands ++ packet.toList
        issued := view.issued ++ [id] }
  /-- The engine acts on a reply. -/
  | settle (id : UInt32) {rest : List Signal} (first : view.signals = .replied id :: rest) :
    Step view { view with scope := view.scope.complete id, signals := rest }
  /-- The engine acts on the news of a suspension. -/
  | believe {rest : List Signal} (first : view.signals = .stopped :: rest) :
    Step view { view with scope := view.scope.suspend, signals := rest }
  | run {packet : CommandPacket} (opened : packet ∈ view.commands)
    (resumes : packet.asks.resumes = true) : Step view { view with suspended := false }
  | halt : Step view { view with suspended := true }
  | answer {packet : CommandPacket} {commands : List CommandPacket}
    (rest : view.commands.Perm (packet :: commands)) :
    Step view { view with commands, signals := view.signals ++ [.replied packet.id] }
  | tell (suspended : view.suspended = true) :
    Step view { view with signals := view.signals ++ [.stopped] }

theorem Step.still {view : View} : Step view view :=
  .quiet rfl id (.refl _)

/-- The ids of the commands that are not settled: those under way, and those whose replies are. -/
def ids (view : View) : List UInt32 :=
  view.commands.map (·.id) ++ view.signals.filterMap Signal.answered?

/-- What either end believes fits what is under way. -/
structure Coherent (view : View) : Prop where
  nodup : view.ids.Nodup
  issued : ∀ id ∈ view.ids, id ∈ view.issued
  awaited : ∀ packet ∈ view.commands, packet.asks.resumes = true → packet.id ∈ view.scope.resumes
  /-- News of a suspension is true, or comes before a reply that the engine awaits. -/
  news : ∀ before after, view.signals = before ++ .stopped :: after →
    view.suspended = true ∨ ∃ id ∈ view.scope.resumes, .replied id ∉ before
  active : view.scope.active = true → view.scope.resumes = [] ∧ view.suspended = true

namespace Coherent

variable {view view' : View}

/-- A command under way and the reply to one have different ids. -/
theorem ne_of_mem (coherent : Coherent view) {packet : CommandPacket} {id : UInt32}
    (mem : packet ∈ view.commands) (answered : .replied id ∈ view.signals) : packet.id ≠ id := by
  have disjoint := List.disjoint_of_nodup_append coherent.nodup
  intro same
  apply disjoint (List.mem_map_of_mem mem)
  exact List.mem_filterMap.mpr ⟨_, answered, congrArg some same.symm⟩

theorem quiet (coherent : Coherent view) {scope : Scope StoredValue}
    {commands : List CommandPacket} (resumes : scope.resumes = view.scope.resumes)
    (active : scope.active = true → view.scope.active = true)
    (rest : commands.Sublist view.commands) : Coherent { view with scope, commands } := by
  have fewer : (View.ids { view with scope, commands }).Sublist view.ids :=
    (rest.map _).append (.refl _)
  refine ⟨fewer.nodup coherent.nodup, fun id mem => coherent.issued id (fewer.subset mem), ?_, ?_,
    ?_⟩
  · intro packet mem lets
    rw [resumes]
    exact coherent.awaited packet (rest.subset mem) lets
  · intro before after split
    rw [resumes]
    exact coherent.news before after split
  · intro now
    rw [resumes]
    exact coherent.active (active now)

/-- A command that is issued is awaited if it lets the debuggee run. -/
theorem issue (coherent : Coherent view) (command : Command) (id : UInt32)
    (packet : Option CommandPacket) (fresh : id ∉ view.issued)
    (written : ∀ p ∈ packet, p.id = id ∧ p.asks = command) :
    Coherent { view with
      scope := if command.resumes then view.scope.expectResume id else view.scope
      commands := view.commands ++ packet.toList
      issued := view.issued ++ [id] } := by
  have grown {other : UInt32} (mem : other ∈ view.scope.resumes) :
      other ∈ (if command.resumes then view.scope.expectResume id else view.scope).resumes := by
    split
    · exact Scope.mem_expectResume.mpr (.inl mem)
    · exact mem
  have ids : ((view.commands ++ packet.toList).map (·.id) ++
      view.signals.filterMap Signal.answered?).Perm ((packet.toList.map (·.id)) ++ view.ids) := by
    rw [List.map_append, View.ids, ← List.append_assoc]
    exact List.perm_append_comm.append_right _
  have same : ∀ other ∈ packet.toList.map (·.id), other = id := by
    intro other mem
    obtain ⟨p, here, rfl⟩ := List.mem_map.mp mem
    exact (written p (Option.mem_toList.mp here)).1
  refine ⟨?_, ?_, ?_, ?_, ?_⟩
  · refine ids.nodup_iff.mpr (List.Nodup.append ?_ coherent.nodup ?_)
    · cases packet <;> simp
    · intro other here there
      rw [same other here] at there
      exact fresh (coherent.issued id there)
  · intro other mem
    obtain here | there := List.mem_append.mp (ids.subset mem)
    · rw [same other here]
      exact List.mem_append_right _ (List.mem_singleton_self _)
    · exact List.mem_append_left _ (coherent.issued other there)
  · intro p mem lets
    obtain before | now := List.mem_append.mp mem
    · exact grown (coherent.awaited p before lets)
    · obtain ⟨rfl, rfl⟩ := written p (Option.mem_toList.mp now)
      simp only [lets, if_true]
      exact Scope.mem_expectResume.mpr (.inr rfl)
  · intro before after split
    refine (coherent.news before after split).imp_right ?_
    rintro ⟨other, waits, unanswered⟩
    exact ⟨other, grown waits, unanswered⟩
  · intro active
    cases resumes : command.resumes
    · simp only [resumes] at active ⊢
      exact coherent.active active
    · simp [resumes, Scope.expectResume, Scope.leave] at active

/-- A reply settles its command, and the news behind it is judged without that. -/
theorem settle (coherent : Coherent view) (id : UInt32) {rest : List Signal}
    (first : view.signals = .replied id :: rest) :
    Coherent { view with scope := view.scope.complete id, signals := rest } := by
  have fewer : (View.ids { view with scope := view.scope.complete id, signals := rest }).Sublist
      view.ids := by
    rw [View.ids, View.ids, first]
    exact (List.Sublist.refl _).append ((List.sublist_cons_self _ _).filterMap _)
  have kept {other : UInt32} (waits : other ∈ view.scope.resumes) (different : other ≠ id) :
      other ∈ (view.scope.complete id).resumes := by
    rw [Scope.complete, List.mem_filter]
    exact ⟨waits, by simpa using different⟩
  refine ⟨fewer.nodup coherent.nodup, fun id mem => coherent.issued id (fewer.subset mem), ?_, ?_,
    ?_⟩
  · -- The command that is settled is not under way, for its reply was.
    intro packet mem lets
    refine kept (coherent.awaited packet mem lets) (coherent.ne_of_mem mem ?_)
    rw [first]
    exact List.mem_cons_self
  · intro before after split
    have split : view.signals = (.replied id :: before) ++ .stopped :: after :=
      first.trans (congrArg (.replied id :: ·) split)
    refine (coherent.news _ after split).imp_right ?_
    rintro ⟨other, waits, unanswered⟩
    rw [List.mem_cons, not_or] at unanswered
    exact ⟨other, kept waits fun same => unanswered.1 (by rw [same]), unanswered.2⟩
  · intro active
    obtain ⟨none, suspended⟩ := coherent.active active
    refine ⟨?_, suspended⟩
    rw [Scope.complete, none]
    rfl

/-- News that is first of all is true if no reply is awaited. -/
theorem believe (coherent : Coherent view) {rest : List Signal}
    (first : view.signals = .stopped :: rest) :
    Coherent { view with scope := view.scope.suspend, signals := rest } := by
  have ids : View.ids { view with scope := view.scope.suspend, signals := rest } = view.ids := by
    rw [View.ids, View.ids, first]; rfl
  refine ⟨ids ▸ coherent.nodup, fun id mem => coherent.issued id (ids ▸ mem), ?_, ?_, ?_⟩
  · intro packet mem lets
    rw [Scope.resumes_suspend]
    exact coherent.awaited packet mem lets
  · intro before after split
    have split : view.signals = (.stopped :: before) ++ .stopped :: after :=
      first.trans (congrArg (.stopped :: ·) split)
    rw [Scope.resumes_suspend]
    refine (coherent.news _ after split).imp_right ?_
    rintro ⟨other, waits, unanswered⟩
    exact ⟨other, waits, fun mem => unanswered (List.mem_cons_of_mem _ mem)⟩
  · intro active
    rw [Scope.resumes_suspend]
    -- No reply comes before this news, so none that is awaited could be why it is out of date.
    obtain active | none := (World.active_suspend view.scope).mp active
    · exact coherent.active active
    · refine ⟨none, (coherent.news [] rest first).resolve_right ?_⟩
      rintro ⟨id, waits, -⟩
      rw [none] at waits
      cases waits

/-- If the debuggee starts to run, a reply is awaited that it has not sent. -/
theorem run (coherent : Coherent view) {packet : CommandPacket} (opened : packet ∈ view.commands)
    (resumes : packet.asks.resumes = true) : Coherent { view with suspended := false } := by
  have waits := coherent.awaited packet opened resumes
  refine ⟨coherent.nodup, coherent.issued, coherent.awaited, ?_, ?_⟩
  · -- Whatever news is under way is out of date now; the reply that says so is not sent yet.
    intro before after split
    refine .inr ⟨packet.id, waits, fun mem => coherent.ne_of_mem opened ?_ rfl⟩
    rw [split]
    exact List.mem_append_left _ mem
  · intro active
    rw [(coherent.active active).1] at waits
    cases waits

theorem answer (coherent : Coherent view) {packet : CommandPacket} {commands : List CommandPacket}
    (rest : view.commands.Perm (packet :: commands)) :
    Coherent { view with commands, signals := view.signals ++ [.replied packet.id] } := by
  have ids : (View.ids { view with
      commands, signals := view.signals ++ [.replied packet.id] }).Perm view.ids := by
    have all := rest.map (·.id)
    rw [View.ids, View.ids, List.filterMap_append, ← List.append_assoc]
    refine .trans ?_ (all.symm.append_right _)
    exact List.perm_append_singleton _ _
  refine ⟨ids.nodup_iff.mpr coherent.nodup, fun id mem => coherent.issued id (ids.subset mem), ?_,
    ?_, coherent.active⟩
  · intro other mem lets
    exact coherent.awaited other (rest.mem_iff.mpr (List.mem_cons_of_mem _ mem)) lets
  · -- The reply is behind all news, so it comes before none.
    intro before after split
    rcases List.eq_nil_or_concat after with rfl | ⟨after, last, rfl⟩
    · exact absurd (List.append_inj' split rfl).2 (by simp)
    · have split : view.signals ++ [.replied packet.id] =
          (before ++ .stopped :: after) ++ [last] :=
        split.trans (by simp)
      exact coherent.news before after (List.append_inj' split rfl).1

/-- Every step of either end keeps what is believed in line with what is under way. -/
theorem step (coherent : Coherent view) (step : Step view view') : Coherent view' := by
  cases step with
  | quiet resumes active rest => exact coherent.quiet resumes active rest
  | issue command id packet fresh written => exact coherent.issue command id packet fresh written
  | settle id first => exact coherent.settle id first
  | believe first => exact coherent.believe first
  | run opened resumes => exact coherent.run opened resumes
  | halt =>
    exact ⟨coherent.nodup, coherent.issued, coherent.awaited, fun _ _ _ => .inl rfl,
      fun active => ⟨(coherent.active active).1, rfl⟩⟩
  | answer rest => exact coherent.answer rest
  | tell suspended =>
    have ids : View.ids { view with signals := view.signals ++ [.stopped] } = view.ids := by
      simp [View.ids, List.filterMap_cons, Signal.answered?]
    exact ⟨ids ▸ coherent.nodup, fun id mem => coherent.issued id (ids ▸ mem), coherent.awaited,
      fun _ _ _ => .inl suspended, coherent.active⟩

end Coherent

end View

end DebugLink
