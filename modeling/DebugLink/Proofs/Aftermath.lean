import DebugLink.Proofs.Freshness
import DebugLink.Proofs.Passage
import DebugLink.Proofs.Suspension
import DebugLink.Proofs.Teardown

/-!
# Aftermath: the scope of a connection that was torn down

The teardown leaves a scope that is not active. Whether it stays so is not up to the connection:
reports of a suspension are weighed against the resuming commands that await their replies, and a
dead connection has none of these left, so it believes every report (`Turn.believes`). After one
report, by a caller or by an event that was still read, values are stored and found again.

Main statement: `barren_iff`.
-/

namespace DebugLink

theorem Scope.active_shutdown {α : Type} (scope : Scope α) :
    scope.shutdown.active = false := by
  unfold Scope.shutdown Scope.invalidate
  split
  · next dormant =>
    simp only [Scope.dormant, Bool.and_eq_true, Bool.not_eq_true'] at dormant
    exact dormant.1
  · rfl

/-- A connection that awaits no resuming command believes every report of a suspension, and nothing
else makes its scope active. -/
theorem Turn.believes {engine : Engine} {used left : List Work} {entries : List Entry}
    {after : Connection} (turn : Turn engine used entries left after)
    (none : engine.connection.scope.resumes = []) :
    .performed .suspended ∈ entries ∧ after.scope.active = true ∨
      .performed .suspended ∉ entries ∧
        (after.scope.active = true → engine.connection.scope.active = true) := by
  have other {scope : Scope StoredValue} (silent : .performed .suspended ∉ entries)
      (scope' : after.scope = scope)
      (active : scope.active = true → engine.connection.scope.active = true) :
      .performed .suspended ∈ entries ∧ after.scope.active = true ∨
        .performed .suspended ∉ entries ∧
          (after.scope.active = true → engine.connection.scope.active = true) := by
    rw [scope']
    exact .inr ⟨silent, active⟩
  cases turn with
  | suspended keeps =>
    refine .inl ⟨List.mem_singleton_self _, ?_⟩
    rw [keeps.scope]
    exact (World.active_suspend _).mpr (.inr none)
  | aside keeps calm quiet free =>
    refine other (fun mem => ?_) keeps.scope id
    exact absurd (quiet _ mem) (by simp [Entry.aside, Work.aside])
  | issue command data origin live keeps =>
    refine other ?_ keeps.scope fun active => ?_
    · obtain rfl | rfl := origin <;> simp
    · dsimp only [Connection.send, Connection.enrol] at active
      cases resumes : command.resumes with
      | true => simp [resumes, Scope.expectResume, Scope.leave] at active
      | false => simpa [resumes] using active
  | replied reply keeps => exact other (by simp) keeps.scope id
  | abandon id failure keeps => exact other (by simp) keeps.scope fun active => active
  | @settle work _ request outcome settles keeps =>
    refine other ?_ keeps.scope id
    cases work <;> simp [Work.settles?] at settles <;> simp
  | disconnect evicted live aside keeps =>
    refine other (by simp) keeps.scope fun active => ?_
    rw [Scope.active_shutdown] at active
    cases active
  | queueClose keeps => exact other (by simp) keeps.scope id
  | fail failure writing keeps => exact other (by simp) keeps.scope id
  | @take message rest _ receiving first keeps =>
    refine other ?_ keeps.scope id
    cases message <;> simp [Message.entries]
  | drain draining idle keeps => exact other (by simp) keeps.scope id
  | store n key stamp value keeps => exact other (by simp) keeps.scope Scope.active_store
  | invalidate aside keeps => exact other (by simp) keeps.scope Scope.active_invalidate

namespace World

/-- The scope is not active, holds no values, and nobody finds one. -/
structure Barren (world : World) : Prop where
  inactive : world.connection.scope.active = false
  empty : world.connection.scope.values = []
  misses : ∀ key kind, (world.connection.lookup key kind).1 = none

/-- A scope that is not active is barren. -/
theorem barren_of_inactive (config : Config) (moves : List Move)
    (inactive : (play config moves).connection.scope.active = false) :
    Barren (play config moves) := by
  refine ⟨inactive, sound_play config moves inactive, fun key kind => ?_⟩
  cases found : ((play config moves).connection.lookup key kind).1 with
  | none => rfl
  | some value =>
    rw [(mem_values_of_lookup found).1] at inactive
    cases inactive

/-- The move that tears a connection down leaves its scope barren. -/
theorem barren_of_died (config : Config) (moves : List Move) (move : Move)
    (live : (play config moves).connection.dead = false)
    (died : (play config (moves ++ [move])).connection.dead = true) :
    Barren (play config (moves ++ [move])) := by
  apply barren_of_inactive
  obtain ⟨used, entries, left, turn, -⟩ := turns_play config moves move
  rw [play_append] at died ⊢
  obtain ⟨-, same⟩ | ⟨-, -, -, -, scope⟩ := turn.lasts
  · rw [same] at died
    exact absurd (died.symm.trans live) (by simp)
  · rw [scope]
    exact Scope.active_shutdown _

/-- The scope of a connection that was torn down stays barren just until somebody reports a
suspension. -/
theorem barren_iff (config : Config) (moves more : List Move) (move : Move)
    (live : (play config moves).connection.dead = false)
    (died : (play config (moves ++ [move])).connection.dead = true) :
    ∃ during, (play config (moves ++ [move] ++ more)).journal =
        (play config (moves ++ [move])).journal ++ during ∧
      ((∀ later, later <+: more → Barren (play config (moves ++ [move] ++ later))) ↔
        .performed .suspended ∉ during) := by
  induction more using List.reverseRecOn with
  | nil =>
    refine ⟨[], by simp, iff_of_true (fun later pre => ?_) List.not_mem_nil⟩
    rw [List.prefix_nil.mp pre, List.append_nil]
    exact barren_of_died config moves move live died
  | append_singleton more next ih =>
    obtain ⟨during, journal, barren⟩ := ih
    obtain ⟨used, entries, left, turn, journal', -⟩ :=
      turns_play config (moves ++ [move] ++ more) next
    have dead : (play config (moves ++ [move] ++ more)).connection.dead = true :=
      (congrArg Ledger.dead (ledger_of_dead config (moves ++ [move]) more died)).trans died
    have none := resumes_of_dead config (moves ++ [move] ++ more) dead
    rw [← play_append, List.append_assoc] at journal'
    refine ⟨during ++ entries, by rw [journal', journal, List.append_assoc], ?_⟩
    rw [List.mem_append, not_or, ← barren]
    constructor
    · intro stays
      refine ⟨fun later pre => stays later (pre.trans (List.prefix_append _ _)), fun mem => ?_⟩
      obtain ⟨-, active⟩ | ⟨unreported, -⟩ := turn.believes none
      · have inactive := (stays (more ++ [next]) List.prefix_rfl).inactive
        rw [← List.append_assoc, play_append, active] at inactive
        cases inactive
      · exact unreported mem
    · rintro ⟨stayed, unreported⟩ later pre
      obtain rfl | pre := List.prefix_concat_iff.mp pre
      · rw [← List.append_assoc]
        apply barren_of_inactive
        rw [play_append]
        obtain ⟨mem, -⟩ | ⟨-, active⟩ := turn.believes none
        · exact absurd mem unreported
        · exact Bool.eq_false_iff.mpr fun now =>
            Bool.eq_false_iff.mp (stayed more List.prefix_rfl).inactive (active now)
      · exact stayed later pre

/-- A caller closes the connection, and goes on until only the teardown is left to perform. -/
def brink : List Move :=
  [.start .close, .advance 0 .task]

/-- A value is computed for the connection that was torn down. -/
def overdue : List Move :=
  [.start (.cache "frames" .number), .supply 1 (.ok (.number 3)), .advance 1 .task]

theorem barren_overdue :
    (play {} brink).connection.dead = false ∧
      (play {} (brink ++ [.advance 0 .task])).connection.dead = true ∧
      Barren (play {} (brink ++ [.advance 0 .task] ++ overdue)) := by
  have live : (play {} brink).connection.dead = false := rfl
  have died : (play {} (brink ++ [.advance 0 .task])).connection.dead = true := rfl
  obtain ⟨during, journal, barren⟩ := barren_iff {} brink overdue (.advance 0 .task) live died
  have journal' : (play {} (brink ++ [.advance 0 .task] ++ overdue)).journal =
      (play {} (brink ++ [.advance 0 .task])).journal ++
        [.missed 1 "frames" .number ⟨0, false⟩, .stored 1 "frames" (.number 3) false,
          .performed (.discard [.number 3])] := rfl
  refine ⟨live, died, barren.mpr ?_ overdue List.prefix_rfl⟩
  rw [← List.append_cancel_left (journal'.symm.trans journal)]
  simp

/-- A suspension of the connection that was torn down is reported, and a value is computed. -/
def revived : List Move :=
  [.start .noteSuspended, .advance 1 .task, .start (.cache "frames" .number),
    .supply 2 (.ok (.number 3))]

/-- The dispatcher, which has not seen the end yet, reads of a suspension of the whole debuggee. -/
def lateNews : List Move :=
  [.receive (.frame
      (CommandPacket.encode ⟨7, Command.events, 100, [suspendAllPolicy, 0, 0, 0, 0]⟩)),
    .performDispatcher]

theorem not_barren_revived :
    (play {} brink).connection.dead = false ∧
      (play {} (brink ++ [.advance 0 .task])).connection.dead = true ∧
      ¬Barren (play {} (brink ++ [.advance 0 .task] ++ revived)) ∧
      ((play {} (brink ++ [.advance 0 .task] ++ revived)).connection.lookup "frames" .number).1 =
        some (.number 3) ∧
      ¬Barren (play {} (brink ++ [.advance 0 .task] ++ lateNews)) := by
  refine ⟨rfl, rfl, fun barren => ?_, by decide +kernel, fun barren => ?_⟩
  · exact absurd barren.inactive (by decide +kernel)
  · exact absurd barren.inactive (by decide +kernel)

end World

end DebugLink
