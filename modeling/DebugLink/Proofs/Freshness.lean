import DebugLink.Proofs.Callers

/-!
# Freshness: a value that is found was computed in the period that still lasts

The epoch of the scope never goes back, and it moves on whenever the scope begins or ends
(`ScopeStep`). So if the scope is active and later the epoch is the same, the scope was active all
the while, and nothing happened that would have ended it (`period_play`). The values of a scope
were all looked for and stored by callers within the period it is in (`kept_play`): a computation
that began before it has a stamp that is not honoured any more, and the values of earlier periods
are gone.
-/

namespace DebugLink

/-- Whether an entry is of something that ends the scope if it is active. -/
def Entry.ends : Entry → Bool
  | .issued _ command _ => command.resumes
  | .invalidated | .tornDown => true
  | _ => false

theorem Entry.ends_of_aside {entry : Entry} (aside : entry.aside) : entry.ends = false := by
  cases entry <;> first | rfl | simp [Entry.aside] at aside

/-- What one step does to the scope and to its values. -/
inductive ScopeStep (scope : Scope StoredValue) (entries : List Entry)
    (scope' : Scope StoredValue) : Prop
  | keep (active : scope'.active = scope.active) (epoch : scope'.epoch = scope.epoch)
    (values : scope'.values = scope.values)
    (calm : ∀ entry ∈ entries, entry.ends → scope.active = false ∧ entry.issue? = none)
  | enter (inactive : scope.active = false) (active : scope'.active = true)
    (epoch : scope'.epoch = scope.epoch + 1) (values : scope'.values = scope.values)
  | leave (inactive : scope'.active = false) (epoch : scope'.epoch = scope.epoch + 1)
    (values : scope'.values = [])
  | put {n : Nat} {key : String} {stamp : Stamp} {value : StoredValue}
    (honoured : scope.honours stamp = true) (stores : entries = [.stored n key value true])
    (after : scope' = scope.put key value)

namespace ScopeStep

variable {scope scope' : Scope StoredValue} {entries : List Entry}

/-- The epoch never goes back. -/
theorem epoch_le (step : ScopeStep scope entries scope') : scope.epoch ≤ scope'.epoch := by
  cases step with
  | keep active epoch values calm => omega
  | enter inactive active epoch values => omega
  | leave inactive epoch values => omega
  | put honoured stores after => rw [after]; exact Nat.le_refl _

/-- The epoch moves on when the scope begins or ends. -/
theorem epoch_lt_of_change (step : ScopeStep scope entries scope')
    (change : scope'.active ≠ scope.active) : scope.epoch < scope'.epoch := by
  cases step with
  | keep active epoch values calm => exact absurd active change
  | enter inactive active epoch values => omega
  | leave inactive epoch values => omega
  | put honoured stores after => rw [after] at change; exact absurd rfl change

/-- The epoch moves on when a resuming command is issued. -/
theorem epoch_lt_of_issue (step : ScopeStep scope entries scope') {receipt : Receipt}
    {command : Command} {data : Bytes} (mem : .issued receipt command data ∈ entries)
    (resumes : command.resumes = true) : scope.epoch < scope'.epoch := by
  cases step with
  | keep active epoch values calm => exact absurd (calm _ mem resumes).2 (by simp [Entry.issue?])
  | enter inactive active epoch values => omega
  | leave inactive epoch values => omega
  | put honoured stores after => simp [stores] at mem

/-- An active scope whose epoch stays stays active, and nothing ends it. -/
theorem period (step : ScopeStep scope entries scope') (active : scope.active = true)
    (same : scope'.epoch = scope.epoch) :
    scope'.active = true ∧ ∀ entry ∈ entries, entry.ends = false := by
  cases step with
  | keep kept epoch values calm =>
    refine ⟨kept.trans active, fun entry mem => Bool.eq_false_iff.mpr fun ends => ?_⟩
    have inactive := (calm entry mem ends).1
    rw [active] at inactive
    cases inactive
  | enter inactive active epoch values => omega
  | leave inactive epoch values => omega
  | put honoured stores after =>
    rw [after, stores]
    exact ⟨active, by simp [Entry.ends]⟩

theorem sound (step : ScopeStep scope entries scope') (sound : scope.Sound) : scope'.Sound := by
  intro inactive
  cases step with
  | keep active epoch values calm => exact values.trans (sound (active.symm.trans inactive))
  | enter _ active epoch values => rw [active] at inactive; cases inactive
  | leave _ epoch values => exact values
  | put honoured stores after =>
    rw [after] at inactive
    have active : scope.active = true := by
      simp only [Scope.honours, Bool.and_eq_true] at honoured
      exact honoured.2
    rw [show (scope.put _ _).active = scope.active from rfl, active] at inactive
    cases inactive

/-- Invalidating a scope that is active, or holds values, ends it. -/
theorem invalidate (resumes : List UInt32) (silent : ∀ entry ∈ entries, entry.issue? = none) :
    ScopeStep scope entries (Scope.invalidate { scope with resumes }) := by
  unfold Scope.invalidate
  split
  · next dormant =>
    refine .keep rfl rfl rfl fun entry mem _ => ⟨?_, silent entry mem⟩
    simp only [Scope.dormant, Bool.and_eq_true, Bool.not_eq_true'] at dormant
    exact dormant.1
  · exact .leave rfl rfl rfl

end ScopeStep

/-- What every turn does to the scope. -/
theorem Turn.scopeStep {engine : Engine} {used left : List Work} {entries : List Entry}
    {after : Connection} (turn : Turn engine used entries left after) :
    ScopeStep engine.connection.scope entries after.scope := by
  have keep {scope : Scope StoredValue} (scope' : after.scope = scope)
      (active : scope.active = engine.connection.scope.active)
      (epoch : scope.epoch = engine.connection.scope.epoch)
      (values : scope.values = engine.connection.scope.values)
      (calm : ∀ entry ∈ entries, entry.ends = false) :
      ScopeStep engine.connection.scope entries after.scope := by
    rw [scope']
    refine .keep active epoch values fun entry mem ends => ?_
    rw [calm entry mem] at ends
    cases ends
  cases turn with
  | aside keeps calm quiet free =>
    exact keep keeps.scope rfl rfl rfl fun entry mem => Entry.ends_of_aside (quiet entry mem)
  | @issue used _ command data origin live keeps =>
    have scope' : after.scope = (engine.connection.send command data).scope := keeps.scope
    rw [scope', Connection.send, Connection.enrol]
    cases resumes : command.resumes with
    | true => exact .leave rfl rfl rfl
    | false =>
      refine .keep rfl rfl rfl fun entry mem ends => ?_
      obtain mem | last := List.mem_append.mp mem
      · obtain ⟨work, -, rfl⟩ := List.mem_map.mp mem
        cases ends
      · rw [List.mem_singleton.mp last, Entry.ends, resumes] at ends
        cases ends
  | replied reply keeps => exact keep keeps.scope rfl rfl rfl (by simp [Entry.ends])
  | abandon id failure keeps => exact keep keeps.scope rfl rfl rfl (by simp [Entry.ends])
  | settle settles keeps => exact keep keeps.scope rfl rfl rfl (by simp [Entry.ends])
  | suspended keeps =>
    have scope' : after.scope = engine.connection.scope.suspend := keeps.scope
    rw [scope']
    unfold Scope.suspend
    split
    · exact .keep rfl rfl rfl (by simp [Entry.ends])
    · next begins =>
      exact .enter (Bool.eq_false_iff.mpr (not_or.mp begins).1) rfl rfl rfl
  | disconnect evicted live aside keeps =>
    have scope' : after.scope = engine.connection.scope.shutdown := keeps.scope
    rw [scope']
    exact .invalidate [] (by simp [Entry.issue?])
  | queueClose keeps => exact keep keeps.scope rfl rfl rfl (by simp [Entry.ends])
  | fail failure writing keeps => exact keep keeps.scope rfl rfl rfl (by simp [Entry.ends])
  | @take message rest _ receiving first keeps =>
    apply keep keeps.scope rfl rfl rfl
    cases message <;> simp [Message.entries, Entry.ends]
  | drain draining idle keeps => exact keep keeps.scope rfl rfl rfl (by simp)
  | store n key stamp value keeps =>
    have scope' : after.scope = (engine.connection.scope.store key stamp value).2 := keeps.scope
    rw [scope']
    unfold Scope.store
    split
    · next honoured => exact .put honoured (by rw [honoured]) rfl
    · exact .keep rfl rfl rfl (by simp [Entry.ends])
  | invalidate aside keeps =>
    have scope' : after.scope = engine.connection.scope.invalidate := keeps.scope
    rw [scope']
    exact .invalidate engine.connection.scope.resumes (by simp [Entry.issue?])

namespace World

variable {world : World}

theorem scope_step (config : Config) (moves : List Move) (move : Move) :
    ∃ entries, ((play config moves).step move).journal = (play config moves).journal ++ entries ∧
      ScopeStep (play config moves).connection.scope entries
        ((play config moves).step move).connection.scope := by
  obtain ⟨used, entries, left, turn, journal, -⟩ := turns_play config moves move
  exact ⟨entries, journal, turn.scopeStep⟩

/-- A scope that is not active holds no values. -/
theorem sound_play (config : Config) (moves : List Move) :
    (play config moves).connection.scope.Sound := by
  induction moves using List.reverseRecOn with
  | nil => exact fun _ => rfl
  | append_singleton moves move ih =>
    obtain ⟨entries, -, step⟩ := scope_step config moves move
    rw [play_append]
    exact step.sound ih

theorem epoch_le_play (config : Config) (moves more : List Move) :
    (play config moves).connection.scope.epoch ≤
      (play config (moves ++ more)).connection.scope.epoch := by
  induction more using List.reverseRecOn with
  | nil => simp
  | append_singleton more move ih =>
    obtain ⟨entries, -, step⟩ := scope_step config (moves ++ more) move
    rw [← List.append_assoc, play_append]
    exact Nat.le_trans ih step.epoch_le

/-- The scope was active from some moves on, and nothing has ended it since. -/
structure Lasts (config : Config) (moves more : List Move) : Prop where
  active : ∀ later, later <+: more →
    (play config (moves ++ later)).connection.scope.active = true ∧
      (play config (moves ++ later)).connection.scope.epoch =
        (play config moves).connection.scope.epoch
  calm : ∃ during, (play config (moves ++ more)).journal = (play config moves).journal ++ during ∧
    ∀ entry ∈ during, entry.ends = false

/-- If the epoch is the same, it is the same period. -/
theorem period_play (config : Config) (moves more : List Move)
    (active : (play config moves).connection.scope.active = true)
    (same : (play config (moves ++ more)).connection.scope.epoch =
      (play config moves).connection.scope.epoch) : Lasts config moves more := by
  induction more using List.reverseRecOn with
  | nil =>
    refine ⟨fun later pre => ?_, [], by simp, by simp⟩
    rw [List.prefix_nil.mp pre, List.append_nil]
    exact ⟨active, rfl⟩
  | append_singleton more move ih =>
    obtain ⟨entries, journal, step⟩ := scope_step config (moves ++ more) move
    rw [← play_append, List.append_assoc] at journal step
    -- Between the two ends the epoch cannot have been another.
    have before : (play config (moves ++ more)).connection.scope.epoch =
        (play config moves).connection.scope.epoch :=
      Nat.le_antisymm (same ▸ step.epoch_le) (epoch_le_play config moves more)
    obtain ⟨lasts, during, journal', calm⟩ := ih before
    obtain ⟨still, quiet⟩ := step.period (lasts more (List.prefix_refl more)).1
      (same.trans before.symm)
    refine ⟨fun later pre => ?_, during ++ entries, ?_, ?_⟩
    · obtain rfl | pre := List.prefix_concat_iff.mp pre
      · exact ⟨still, same⟩
      · exact lasts later pre
    · rw [journal, journal', List.append_assoc]
    · rw [List.forall_mem_append]
      exact ⟨calm, quiet⟩

/-! ## Computations -/

/-- A caller begins to compute a value only if it has found none. -/
theorem computing_start {connection : Connection} {n : Nat} {operation : Operation}
    {works : List Work} {key : String} {kind : ValueKind} {stamp : Stamp}
    (begun : (connection.start n operation).2.1 = ⟨works, .computing key kind stamp⟩) :
    operation = .cache key kind ∧ (connection.lookup key kind).1 = none ∧
      stamp = connection.scope.stamp := by
  cases operation with
  | cache key' kind' =>
    simp only [Connection.start, Connection.lookup] at begun
    cases found : connection.scope.value? key' (·.kind == kind') with
    | some value => simp [found] at begun
    | none =>
      simp only [found] at begun
      obtain ⟨-, rfl, rfl, rfl⟩ :
          _ ∧ key' = key ∧ kind' = kind ∧ connection.scope.stamp = stamp := by
        simpa using begun
      exact ⟨rfl, by simp [Connection.lookup, found], rfl⟩
  | receive id =>
    simp only [Connection.start] at begun
    split at begun <;> simp at begun
  | _ => simp [Connection.start] at begun

/-- A caller that computes a value after somebody has gone on did so before. -/
theorem CallerStep.computing {move : Move} {m n : Nat} {world' : World} {works : List Work}
    {key : String} {kind : ValueKind} {stamp : Stamp} (step : CallerStep world move m world')
    (computing : world'.activities[n]? = some ⟨works, .computing key kind stamp⟩) :
    ∃ works', world.activities[n]? = some ⟨works', .computing key kind stamp⟩ := by
  -- Whoever has gone on computes nothing afterwards, unless it performed a piece.
  have others {next : Activity}
      (computing : (world.activities.set m next)[n]? = some ⟨works, .computing key kind stamp⟩)
      (new : m = n → next = ⟨works, .computing key kind stamp⟩ →
        ∃ works', world.activities[n]? = some ⟨works', .computing key kind stamp⟩) :
      ∃ works', world.activities[n]? = some ⟨works', .computing key kind stamp⟩ := by
    rw [List.getElem?_set] at computing
    split at computing
    · next here =>
      split at computing
      · exact new here (Option.some.inj computing)
      · cases computing
    · exact ⟨works, computing⟩
  cases step with
  | still => exact ⟨works, computing⟩
  | performed found =>
    refine others computing fun here same => ?_
    obtain ⟨-, rfl⟩ := Activity.mk.inj same
    exact ⟨_, here ▸ found⟩
  | told found polled => exact others computing fun _ same => by cases same
  | rested feed found rests =>
    refine others computing fun _ same => ?_
    rcases rests with rfl | rfl <;> cases same
  | stored supplies found fits => exact others computing fun _ same => by cases same

/-- A caller that computes a value after a step did so before, unless it has just begun to. -/
theorem computing_step {move : Move} {n : Nat} {works : List Work} {key : String}
    {kind : ValueKind} {stamp : Stamp}
    (computing : (world.step move).activities[n]? = some ⟨works, .computing key kind stamp⟩) :
    (∃ works', world.activities[n]? = some ⟨works', .computing key kind stamp⟩) ∨
      move = .start (.cache key kind) ∧ n = world.activities.length ∧
        (world.connection.lookup key kind).1 = none ∧ stamp = world.connection.scope.stamp := by
  cases move with
  | start operation =>
    simp only [step, start, List.getElem?_append] at computing
    split at computing
    · exact .inl ⟨works, computing⟩
    · next past =>
      rw [List.getElem?_singleton] at computing
      split at computing
      · obtain ⟨rfl, missed, rfl⟩ := computing_start (Option.some.inj computing)
        exact .inr ⟨rfl, by omega, missed, rfl⟩
      · cases computing
  | advance m caller => exact .inl ((callerStep rfl).computing computing)
  | block m caller => exact .inl ((callerStep rfl).computing computing)
  | supply m result => exact .inl ((callerStep rfl).computing computing)
  | cancel m => exact .inl ((callerStep rfl).computing computing)
  | _ => exact .inl ⟨works, computing⟩

/-- Who computes a value has looked for it once, and has the stamp of that time. -/
theorem computing_play (config : Config) (moves : List Move) {n : Nat} {works : List Work}
    {key : String} {kind : ValueKind} {stamp : Stamp}
    (computing : (play config moves).activities[n]? = some ⟨works, .computing key kind stamp⟩) :
    ∃ before between, moves = before ++ .start (.cache key kind) :: between ∧
      n = (play config before).activities.length ∧
      ((play config before).connection.lookup key kind).1 = none ∧
      stamp = (play config before).connection.scope.stamp := by
  induction moves using List.reverseRecOn generalizing works with
  | nil => simp [ofConfig] at computing
  | append_singleton moves move ih =>
    rw [play_append] at computing
    obtain ⟨works', computing⟩ | ⟨rfl, rfl, missed, rfl⟩ := computing_step computing
    · obtain ⟨before, between, rfl, number, missed, same⟩ := ih computing
      exact ⟨before, between ++ [move], by simp, number, missed, same⟩
    · exact ⟨moves, [], rfl, rfl, missed, rfl⟩

/-! ## Values -/

/-- A caller has looked for a value under a key in the period that lasts, has found none, and has
stored the value that it then computed. -/
def Kept (config : Config) (moves : List Move) (key : String) (value : StoredValue) : Prop :=
  ∃ before between after caller stamp,
    moves = (before ++ .start (.cache key value.kind) :: between) ++
      .supply caller (.ok value) :: after ∧
    caller = (play config before).activities.length ∧
    ((play config before).connection.lookup key value.kind).1 = none ∧
    stamp = (play config before).connection.scope.stamp ∧
    (play config (before ++ .start (.cache key value.kind) :: between)).activities[caller]? =
      some ⟨[], .computing key value.kind stamp⟩ ∧
    stamp.storable = true ∧ stamp.epoch = (play config moves).connection.scope.epoch

theorem Kept.append {config : Config} {moves : List Move} {key : String} {value : StoredValue}
    (kept : Kept config moves key value) {move : Move}
    (same : ((play config moves).step move).connection.scope.epoch =
      (play config moves).connection.scope.epoch) : Kept config (moves ++ [move]) key value := by
  obtain ⟨before, between, after, caller, stamp, rfl, number, missed, stamped, computing, storable,
    epoch⟩ := kept
  refine ⟨before, between, after ++ [move], caller, stamp, by simp, number, missed, stamped,
    computing, storable, ?_⟩
  rw [play_append, same]
  exact epoch

/-- Every value was stored in the period that lasts, by a caller that had looked for it then. -/
theorem kept_play (config : Config) (moves : List Move) {key : String} {value : StoredValue}
    (mem : (key, value) ∈ (play config moves).connection.scope.values) :
    Kept config moves key value := by
  induction moves using List.reverseRecOn with
  | nil => simp [ofConfig, connection, Connection.ofConfig] at mem
  | append_singleton moves move ih =>
    obtain ⟨entries, journal, step⟩ := scope_step config moves move
    rw [play_append] at mem
    cases step with
    | keep active epoch values calm => exact (ih (values ▸ mem)).append epoch
    | enter inactive active epoch values =>
      rw [values, sound_play config moves inactive] at mem
      cases mem
    -- The values of a period that has ended are gone.
    | leave inactive epoch values => rw [values] at mem; cases mem
    | @put n key' stamp value' honoured stores after =>
      have epoch : ((play config moves).step move).connection.scope.epoch =
          (play config moves).connection.scope.epoch := by rw [after]; rfl
      rw [after] at mem
      obtain old | new := List.mem_append.mp mem
      · exact (ih (List.mem_filter.mp old).1).append epoch
      · -- The value was stored just now, by the caller whose computation has come to its end.
        obtain ⟨rfl, rfl⟩ := Prod.mk.inj (List.mem_singleton.mp new)
        obtain ⟨entries', journal', own⟩ := (play config moves).own_step move
        have recorded : .stored n key value true ∈ entries' := by
          rw [← List.append_cancel_left (journal.symm.trans journal'), stores]
          exact List.mem_singleton_self _
        cases own _ recorded rfl with
        | stored supplies computing fits honoured =>
          subst supplies fits
          obtain ⟨before, between, rfl, number, missed, rfl⟩ :=
            computing_play config moves computing
          simp only [Scope.honours, Bool.and_eq_true, beq_iff_eq] at honoured
          refine ⟨before, between, [], n, _, by simp, number, missed, rfl, computing,
            honoured.1.1, ?_⟩
          rw [play_append, epoch]
          exact honoured.1.2

/-! ## Hits -/

/-- What is found is one of the values of an active scope, and of the kind that was asked for. -/
theorem mem_values_of_lookup {connection : Connection} {key : String} {kind : ValueKind}
    {value : StoredValue} (hit : (connection.lookup key kind).1 = some value) :
    connection.scope.active = true ∧ (key, value) ∈ connection.scope.values ∧
      value.kind = kind := by
  have found : connection.scope.value? key (·.kind == kind) = some value := by
    unfold Connection.lookup at hit
    split at hit
    · next found => rw [found]; exact hit
    · cases hit
  unfold Scope.value? at found
  split at found
  · next active =>
    obtain ⟨found, fits⟩ := Option.filter_eq_some_iff.mp found
    obtain ⟨before, after, eq, -⟩ := List.lookup_eq_some_iff.mp found
    exact ⟨active, by rw [eq]; simp, eq_of_beq fits⟩
  · cases found

/-- No hit is stale. -/
theorem fresh_hits (config : Config) (moves : List Move) :
    let scope := (play config moves).connection.scope
    (∀ key kind value, ((play config moves).connection.lookup key kind).1 = some value →
      value.kind = kind ∧ ∃ before between after caller,
        moves = (before ++ .start (.cache key kind) :: between) ++
          .supply caller (.ok value) :: after ∧
        caller = (play config before).activities.length ∧
        ((play config before).connection.lookup key kind).1 = none ∧
        (play config (before ++ .start (.cache key kind) :: between)).activities[caller]? =
          some ⟨[], .computing key kind (play config before).connection.scope.stamp⟩ ∧
        Lasts config before
          (.start (.cache key kind) :: between ++ .supply caller (.ok value) :: after)) ∧
    (scope.active = false → scope.values = []) ∧
    (∀ activity ∈ (play config moves).activities, ∀ key kind stamp,
      activity.stage = .computing key kind stamp → stamp.storable = true →
        stamp.epoch = scope.epoch → scope.active = true) ∧
    (∀ move, ∃ entries,
      ((play config moves).step move).journal = (play config moves).journal ++ entries ∧
      scope.epoch ≤ ((play config moves).step move).connection.scope.epoch ∧
      ((∃ receipt command data, .issued receipt command data ∈ entries ∧ command.resumes) ∨
          ((play config moves).step move).connection.scope.active ≠ scope.active →
        scope.epoch < ((play config moves).step move).connection.scope.epoch)) := by
  intro scope
  refine ⟨fun key kind value hit => ?_, sound_play config moves, ?_, fun move => ?_⟩
  · obtain ⟨active, mem, rfl⟩ := mem_values_of_lookup hit
    refine ⟨rfl, ?_⟩
    -- It was stored with the stamp of its lookup, and the epoch is still that of the stamp.
    obtain ⟨before, between, after, caller, stamp, eq, number, missed, rfl, computing, storable,
      epoch⟩ := kept_play config moves mem
    refine ⟨before, between, after, caller, eq, number, missed, computing, ?_⟩
    rw [List.append_assoc] at eq
    exact period_play config before _ storable (by rw [← eq]; exact epoch.symm)
  · rintro ⟨works, _⟩ mem key kind stamp rfl storable epoch
    obtain ⟨n, found⟩ := List.mem_iff_getElem?.mp mem
    obtain ⟨before, between, rfl, -, -, rfl⟩ := computing_play config moves found
    exact ((period_play config before _ storable epoch.symm).active _ (List.prefix_refl _)).1
  · obtain ⟨entries, journal, step⟩ := scope_step config moves move
    refine ⟨entries, journal, step.epoch_le, ?_⟩
    rintro (⟨receipt, command, data, mem, resumes⟩ | change)
    · exact step.epoch_lt_of_issue mem resumes
    · exact step.epoch_lt_of_change change

/-- A value is computed and stored while the debuggee is suspended, and found. -/
example : ((play {} [.start .noteSuspended, .advance 0 .task, .start (.cache "frames" .number),
    .supply 1 (.ok (.number 3))]).connection.lookup "frames" .number).1 = some (.number 3) := by
  decide +kernel

end World

end DebugLink
