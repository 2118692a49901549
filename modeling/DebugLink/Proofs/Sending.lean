import DebugLink.Proofs.Wire

/-!
# Sending: the commands reach the transport in order, each once

Packets are queued in the order in which their commands are issued, and `Wire` says that the writer
hands them over from the front. So what has been handed over is always the beginning of what was
issued, and the ids count up from one. Every command that is issued leaves one piece that counts it
(`Deed.sent`), and its request is pending before anybody can see its packet (`Turn.registered`): a
debuggee that answers what it was handed finds a request for each of its replies.

Main statement: `sent_in_order`.
-/

namespace DebugLink

/-- Each reply answers a packet that was handed over before and did not fail to be written, and none
answers a packet that was answered before. -/
def AnswersWritten (journal : List Entry) : Prop :=
  ∀ before reply after, journal = before ++ .performed (.replied reply) :: after →
    (∃ frame, .handed reply.id frame ∈ before) ∧
      (∀ failure, .wrote reply.id (.error failure) ∉ before) ∧
      ∀ other, .performed (.replied other) ∈ before → other.id ≠ reply.id

/-- Packets carry the ids of their receipts. -/
theorem ids_packets (journal : List Entry) :
    (packets journal).map (·.1) = (receipts journal).map (·.id) := by
  induction journal with
  | nil => rfl
  | cons entry rest ih =>
    rw [packets_cons, List.map_append, ih, ← List.singleton_append, receipts_append,
      List.map_append]
    cases entry <;> rfl

/-! ## How many commands were counted -/

namespace Connection

variable {connection : Connection}

/-- Whatever is issued leaves one piece that counts it. -/
theorem sent_issue (command : Command) (data : Bytes) :
    (connection.issue command data).2.2.sent = connection.sent ∧
      (connection.issue command data).2.1.count .countSent =
        (packets (connection.issueEntries command data)).length := by
  have evicted : (connection.evicted command).count .countSent = 0 := by
    refine List.count_eq_zero.mpr fun mem => ?_
    obtain ⟨values, eq⟩ := mem_evicted mem
    cases eq
  rcases connection.dead.eq_false_or_eq_true with dead | live
  · rw [issue_of_dead dead, issueEntries_of_dead dead]
    exact ⟨rfl, rfl⟩
  · rcases connection.outboundOpen.eq_false_or_eq_true with accepts | refuses
    · rw [issue_of_open live accepts, issueEntries_of_open live accepts, List.count_append, evicted]
      exact ⟨rfl, rfl⟩
    · rw [issueEntries, issue_of_closed live refuses, evicted]
      exact ⟨rfl, rfl⟩

theorem sent_invalidate :
    connection.invalidate.2.sent = connection.sent ∧
      connection.invalidate.1.count .countSent = 0 := by
  refine ⟨?_, List.count_eq_zero.mpr fun mem => ?_⟩
  · unfold invalidate
    split <;> rfl
  · obtain ⟨values, eq⟩ := mem_invalidate mem
    cases eq

theorem sent_disconnect :
    connection.disconnect.2.sent = connection.sent ∧
      connection.disconnect.1.count .countSent = 0 := by
  unfold disconnect
  split
  · exact ⟨rfl, rfl⟩
  · refine ⟨sent_invalidate.1, ?_⟩
    have fails : (connection.pending.map (Work.fail · .disconnected)).count .countSent = 0 := by
      rw [List.count_eq_zero]
      simp
    simp [List.count_append, sent_invalidate.2, fails]

/-- Other pieces neither count a command nor leave one to be counted. -/
theorem sent_other {work : Work} (counts : work ≠ .countSent)
    (disposes : ∀ payload, work ≠ .dispose payload) :
    (connection.perform work).2.sent = connection.sent ∧
      (connection.perform work).1.count .countSent = 0 := by
  cases work with
  | countSent => exact absurd rfl counts
  | dispose payload => exact absurd rfl (disposes payload)
  | disconnect => exact sent_disconnect
  | replied reply =>
    refine ⟨?_, ?_⟩
    · simp only [perform, replied, take]
      cases connection.request? reply.id <;> rfl
    · rw [(perform_replied reply).1]
      cases connection.request? reply.id <;> simp
  | abandon id failure =>
    refine ⟨?_, ?_⟩
    · simp only [perform, take]
      cases connection.request? id <;> rfl
    · rw [(perform_abandon id failure).1]
      cases connection.request? id <;> simp
  | suspended =>
    refine ⟨?_, rfl⟩
    simp only [perform, noteSuspended]
    split
    · rfl
    · split <;> rfl
  | discard values => exact ⟨rfl, List.count_eq_zero.mpr (by simp [perform])⟩
  | release lease =>
    simp only [perform]
    split <;> exact ⟨rfl, rfl⟩
  | reclaim object retained =>
    simp only [perform, reclaim]
    split <;> exact ⟨rfl, rfl⟩
  | queueDisposal object retained =>
    simp only [perform]
    split <;> simp
  | flush =>
    simp only [perform]
    split <;> exact ⟨rfl, rfl⟩
  | sendBatch counts =>
    simp only [perform]
    split <;> exact ⟨rfl, rfl⟩
  | close =>
    simp only [perform]
    split <;> exact ⟨rfl, rfl⟩
  | resolve request reply => exact ⟨rfl, rfl⟩
  | fail request failure => exact ⟨rfl, rfl⟩
  | publish batch => exact ⟨rfl, rfl⟩
  | clearDisposals => exact ⟨rfl, rfl⟩
  | closeFeed => exact ⟨rfl, rfl⟩
  | markClosed => exact ⟨rfl, rfl⟩
  | queueClose => exact ⟨rfl, rfl⟩

/-- A piece of work counts a command, issues one, or does neither. -/
theorem sent_perform (work : Work) :
    (connection.perform work).2.sent + (connection.perform work).1.count .countSent =
      connection.sent + [work].count .countSent +
        (packets (connection.workEntries work)).length := by
  by_cases counts : work = .countSent
  · rw [counts]; rfl
  by_cases disposes : ∃ payload, work = .dispose payload
  · obtain ⟨payload, rfl⟩ := disposes
    obtain ⟨sent, counted⟩ := connection.sent_issue .disposeObjects payload
    simp only [perform, sent, counted, workEntries, packets_cons]
    rfl
  · rw [not_exists] at disposes
    obtain ⟨sent, none⟩ := connection.sent_other counts disposes
    rw [sent, none, (Offline.of_work connection disposes).packets, List.count_singleton,
      if_neg (by simpa using counts)]
    rfl

theorem sent_store (key : String) (stamp : Stamp) (value : StoredValue) :
    (connection.store key stamp value).2.sent = connection.sent := by
  simp only [store]
  split <;> rfl

theorem sent_probe : connection.probe.2.sent = connection.sent := by
  simp only [probe]
  split <;> rfl

end Connection

/-- The pieces that count a command are as many as the commands that were issued and not
counted. -/
theorem Deed.sent {engine : Engine} {used left : List Work} {entries : List Entry}
    {after : Connection} (deed : Deed engine used entries left after) :
    after.sent + left.count .countSent =
      engine.connection.sent + used.count .countSent + (packets entries).length := by
  have plain (plain : ∀ entry ∈ entries, entry.plain) : packets entries = [] := by
    refine List.filterMap_eq_nil_iff.mpr fun entry mem => ?_
    have calm := plain entry mem
    cases entry <;> first | rfl | cases calm
  cases deed with
  | perform work => exact engine.connection.sent_perform work
  | issue command data notices =>
    obtain ⟨sent, counted⟩ := { engine.connection with notices }.sent_issue command data
    rw [sent, counted]
    rfl
  | adopt notices idSizes handles feed quiet arrive =>
    have none : left.count .countSent = 0 :=
      List.count_eq_zero.mpr fun mem => by cases arrive _ mem
    rw [plain quiet, none]
    rfl
  | fail failure notices writing => rfl
  | @take message rest notices receiving first => cases message <;> rfl
  | drain draining idle =>
    rcases engine.connection.outbound.head? with _ | _ | _ <;> simp [Message.givenUp]
  | cloneAll ids quiet => rw [plain quiet]; rfl
  | acquire object => rfl
  | probe => rw [Connection.sent_probe]; rfl
  | store n key stamp value => rw [Connection.sent_store]; rfl
  | invalidate =>
    obtain ⟨sent, none⟩ := engine.connection.sent_invalidate
    rw [sent, none]
    rfl

/-- A packet is queued together with its request. -/
theorem Turn.registered {engine : Engine} {used left : List Work} {entries : List Entry}
    {after : Connection} (turn : Turn engine used entries left after) {id : UInt32}
    {bytes : Bytes} (queued : .frame id bytes ∈ after.outbound) :
    .frame id bytes ∈ engine.connection.outbound ∨ ∃ request ∈ after.pending, request.id = id := by
  cases turn with
  | issue command data origin live keeps =>
    rw [keeps.outbound] at queued
    obtain old | new := List.mem_append.mp queued
    · exact .inl old
    · obtain ⟨rfl, -⟩ := Message.frame.inj (List.mem_singleton.mp new)
      refine .inr ⟨engine.connection.nextRequest command, ?_, rfl⟩
      rw [keeps.pending]
      exact List.mem_append_right _ (List.mem_singleton_self _)
  | queueClose keeps =>
    rw [keeps.outbound] at queued
    dsimp only at queued
    split at queued
    · exact .inl (by simpa using queued)
    · exact .inl queued
  | take receiving first keeps =>
    rw [keeps.outbound] at queued
    rw [first]
    exact .inl (List.mem_cons_of_mem _ queued)
  | drain draining idle keeps =>
    rw [keeps.outbound] at queued
    exact .inl (List.mem_of_mem_tail queued)
  | aside keeps => exact .inl (keeps.outbound ▸ queued)
  | replied reply keeps => exact .inl (keeps.outbound ▸ queued)
  | abandon id failure keeps => exact .inl (keeps.outbound ▸ queued)
  | settle settles keeps => exact .inl (keeps.outbound ▸ queued)
  | suspended keeps => exact .inl (keeps.outbound ▸ queued)
  | disconnect evicted live aside keeps => exact .inl (keeps.outbound ▸ queued)
  | fail failure writing keeps => exact .inl (keeps.outbound ▸ queued)
  | store n key stamp value keeps => exact .inl (keeps.outbound ▸ queued)
  | invalidate aside keeps => exact .inl (keeps.outbound ▸ queued)

namespace World

theorem counted_play (config : Config) (moves : List Move) :
    let world := play config moves
    world.connection.sent + world.works.count .countSent = (packets world.journal).length := by
  refine play_induction (P := fun _ world => world.connection.sent + world.works.count .countSent =
    (packets world.journal).length) rfl (fun moves move ih => ?_) moves
  obtain ⟨used, entries, left, deed, journal, replaced⟩ := does_step (tidy_play config moves) move
  obtain ⟨before, after, works, works'⟩ := replaced.works
  have sent := deed.sent
  rw [works] at ih
  rw [works', journal, packets_append]
  simp only [List.count_append, List.length_append] at ih ⊢
  rw [connection] at ih
  omega

/-! ## What the debuggee can answer -/

/-- A step issues no fewer commands than were issued before. -/
theorem issued_le_play (config : Config) (moves more : List Move) :
    (play config moves).connection.issued ≤ (play config (moves ++ more)).connection.issued := by
  induction more using List.reverseRecOn with
  | nil => simp
  | append_singleton more move ih =>
    rw [← List.append_assoc, play_append]
    exact Nat.le_trans ih (issued_le (turns_play config (moves ++ more) move).request)

/-- What was handed over is the packet of a command that was issued. -/
theorem Wired.issued_of_handed {world : World} (wired : Wired world) {id : UInt32}
    (mem : id ∈ (handed world.journal).map (·.1)) :
    ∃ receipt ∈ receipts world.journal, receipt.id = id := by
  obtain ⟨dropped, ordered, -⟩ := wired.ordered
  rw [← List.mem_map, ← ids_packets, ordered, List.map_append, List.map_append]
  exact List.mem_append_left _ (List.mem_append_left _ mem)

/-- A debuggee that answers what it was handed finds a request for its reply, as long as the
connection is up. -/
theorem request_of_handed (config : Config) (moves : List Move) {id : UInt32} {frame : Bytes}
    (few : (play config moves).connection.issued < UInt32.size)
    (up : (play config moves).connection.dead = false)
    (handed : .handed id frame ∈ (play config moves).journal)
    (unfailed : ∀ failure, .wrote id (.error failure) ∉ (play config moves).journal)
    (unanswered : ∀ reply, .performed (.replied reply) ∈ (play config moves).journal →
      reply.id ≠ id) :
    ∃ request, (play config moves).connection.request? id = some request := by
  have passed : (id, frame) ∈ DebugLink.handed (play config moves).journal :=
    List.mem_filterMap.mpr ⟨_, handed, rfl⟩
  obtain ⟨receipt, mem, rfl⟩ :=
    (wired_play config moves).issued_of_handed (List.mem_map_of_mem passed)
  have undecided : fate receipt (play config moves).journal = none := by
    rw [← Option.not_isSome_iff_eq_none]
    intro decided
    obtain ⟨reply, answered, same⟩ := reply_of_decided config moves up unfailed decided
    exact unanswered reply (since_suffix.subset answered) same
  obtain ⟨request, waits, same⟩ :=
    ((correlated_play config moves few).pending_iff receipt.id).mpr ⟨receipt, mem, rfl, undecided⟩
  rw [← Option.isSome_iff_exists, Connection.request?, List.find?_isSome]
  exact ⟨request, waits, beq_iff_eq.mpr same⟩

/-! ## The order on the wire -/

/-- The ids of the packets count up from one, as long as there are no more of them than ids. -/
theorem ids_count (config : Config) (moves : List Move)
    (few : (play config moves).connection.issued < UInt32.size) :
    (packets (play config moves).journal).map (·.1.toNat) =
      List.range' 1 (play config moves).connection.issued := by
  have ids := congrArg (List.map UInt32.toNat) (ids_packets (play config moves).journal)
  rw [(numbered_play config moves).receipts, List.map_map, List.map_map, List.map_map] at ids
  refine ids.trans ?_
  rw [List.range'_eq_map_range]
  refine List.map_congr_left fun serial mem => ?_
  rw [List.mem_range] at mem
  have below : serial < UInt32.size - 1 := by omega
  simp only [Function.comp_apply, Connection.receiptOf, toNat_idOf, Nat.mod_eq_of_lt below]
  omega

namespace Wired

variable {world : World}

/-- Unless a packet fails to be written, none is given up. -/
theorem packets_eq (wired : Wired world)
    (unfailed : ∀ id failure, .wrote id (.error failure) ∉ world.journal) :
    packets world.journal = handed world.journal ++ world.connection.unsent := by
  obtain ⟨dropped, ordered, none⟩ := wired.ordered
  cases present : world.engine.writer.past with
  | false => rw [ordered, none present, List.append_nil]
  | true =>
    -- The transport was closed, and before that everything was handed over.
    have ended := wired.ended
    rw [countP_fails_eq_zero.mpr unfailed, present, if_pos rfl] at ended
    have all := (wired.closing (.inr (countP_closes_pos.mp (by omega)))).2
    rw [← all, List.append_assoc, List.self_eq_append_right, List.append_eq_nil_iff] at ordered
    rw [← all, ordered.2, List.append_nil]

/-- Whoever closes the transport has failed to write no packet. -/
theorem unfailed (wired : Wired world)
    (closing : world.engine.writer = .closing ∨ .shut ∈ world.journal) :
    ∀ id failure, .wrote id (.error failure) ∉ world.journal := by
  obtain closing | shut := closing
  · intro id failure failed
    cases wired.not_ended (by rw [closing]; rfl) _ failed
  · have ended := wired.ended
    have closes := countP_closes_pos.mpr shut
    refine countP_fails_eq_zero.mp ?_
    split at ended <;> omega

/-- Whoever closes the transport has written every packet. -/
theorem results_eq (wired : Wired world)
    (closing : world.engine.writer = .closing ∨ .shut ∈ world.journal) :
    results world.journal = (packets world.journal).map fun packet => (packet.1, .ok ()) := by
  have current : world.engine.writer.current? = none := by
    cases phase : world.engine.writer with
    | writing id bytes =>
      rw [phase] at closing
      exact absurd (closing.resolve_left (by simp)) (wired.not_shut (by rw [phase]; rfl))
    | _ => rfl
  have ok : ∀ result ∈ results world.journal, (result.1, .ok ()) = result := by
    intro result mem
    obtain ⟨entry, here, found⟩ := List.mem_filterMap.mp mem
    cases entry with
    | wrote id result =>
      obtain rfl := Option.some.inj found
      cases result with
      | ok _ => rfl
      | error failure => exact absurd here (wired.unfailed closing id failure)
    | _ => cases found
  have written := wired.written
  rw [current, Option.toList_none, List.append_nil, (wired.closing closing).2] at written
  calc results world.journal
      = (results world.journal).map fun result => (result.1, .ok ()) :=
        ((List.map_congr_left ok).trans (List.map_id _)).symm
    _ = ((results world.journal).map (·.1)).map fun id => (id, .ok ()) := by
        rw [List.map_map]; rfl
    _ = (packets world.journal).map fun packet => (packet.1, .ok ()) := by
        rw [← written, List.map_map]; rfl

end Wired

/-- In a run that issues no more commands than there are ids: the packets of the commands carry the
ids from one on, in the order in which they were issued; what was handed to the transport is the
beginning of them, and ends for good when one cannot be written. Unless that happens nothing is
lost, and before the transport is closed every packet is written. Every command is counted as sent
once its caller gets that far, its request is pending when its packet is queued, and if the debuggee
answers only what it was handed, and nothing twice, each reply finds its request as long as the
connection is up. -/
theorem sent_in_order (config : Config) (moves : List Move)
    (few : (play config moves).connection.issued < UInt32.size) :
    let world := play config moves
    let journal := world.journal
    (packets journal).map (·.1.toNat) = List.range' 1 world.connection.issued ∧
    handed journal <+: packets journal ∧
    (∀ before id failure after, journal = before ++ .wrote id (.error failure) :: after →
      handed after = []) ∧
    ((∀ id failure, .wrote id (.error failure) ∉ journal) →
      packets journal = handed journal ++ world.connection.unsent) ∧
    (world.engine.writer = .closing ∨ .shut ∈ journal →
      results journal = (packets journal).map fun packet => (packet.1, .ok ())) ∧
    world.connection.sent + world.works.count .countSent = (packets journal).length ∧
    (∀ move id bytes, .frame id bytes ∈ (world.step move).connection.outbound →
      .frame id bytes ∈ world.connection.outbound ∨
        ∃ request ∈ (world.step move).connection.pending, request.id = id) ∧
    (AnswersWritten journal → ∀ earlier reply rest, earlier ++ [.performDispatcher] <+: moves →
      (play config earlier).engine.dispatcherWork = .replied reply :: rest →
        (play config earlier).connection.dead = false →
          ∃ request, (play config earlier).connection.request? reply.id = some request) := by
  intro world journal
  have wired : Wired world := wired_play config moves
  refine ⟨ids_count config moves few, ?_, fun _ _ _ _ split => wired.handed_after split rfl,
    wired.packets_eq, wired.results_eq, counted_play config moves, ?_, ?_⟩
  · obtain ⟨dropped, ordered, -⟩ := wired.ordered
    exact ⟨dropped ++ world.connection.unsent, by rw [ordered, List.append_assoc]⟩
  · intro move id bytes queued
    obtain ⟨used, entries, left, turn, -⟩ := turns_play config moves move
    exact turn.registered queued
  · rintro answers earlier reply rest ⟨more, rfl⟩ first up
    have few' : (play config earlier).connection.issued < UInt32.size := by
      have le := issued_le_play config earlier ([.performDispatcher] ++ more)
      rw [← List.append_assoc] at le
      exact Nat.lt_of_le_of_lt le few
    obtain ⟨later, grown⟩ := journal_grows config (earlier ++ [.performDispatcher]) more
    rw [play_append, journal_performDispatcher first, List.append_assoc] at grown
    obtain ⟨⟨frame, handed⟩, unfailed, unanswered⟩ := answers _ reply later grown.symm
    exact request_of_handed config earlier few' up handed unfailed unanswered

/-- Two commands are issued. The first is written and answered, and the second cannot be written. -/
def halfway : List Move :=
  [.start (.call .version), .start (.call .resumeAll), .take, .wrote (.ok ()),
    .receive (.frame (ReplyPacket.encode ⟨1, 0, []⟩)), .performDispatcher, .take,
    .wrote (.error (.stream (.other "broken"))), .start (.call .version)]

theorem sent_in_order_halfway :
    let world := play {} halfway
    world.connection.issued < UInt32.size ∧
      (packets world.journal).map (·.1.toNat) = [1, 2, 3] ∧
      handed world.journal = (packets world.journal).take 2 ∧
      world.connection.sent + world.works.count .countSent = 3 ∧
      AnswersWritten world.journal ∧
      ∃ request, (play {} (halfway.take 5)).connection.request? 1 = some request := by
  intro world
  have few : world.connection.issued < UInt32.size := by decide +kernel
  have told : world.journal =
      [.issued ⟨0, 1, 0⟩ .version [], .issued ⟨0, 2, 1⟩ .resume [],
        .handed 1 (CommandPacket.encode ⟨1, 1, 1, []⟩), .wrote 1 (.ok ()),
        .performed (.replied ⟨1, 0, []⟩), .handed 2 (CommandPacket.encode ⟨2, 1, 9, []⟩),
        .wrote 2 (.error (.stream (.other "broken"))), .issued ⟨0, 3, 2⟩ .version []] := rfl
  have answers : AnswersWritten world.journal := by
    rw [told]
    intro before reply after split
    simp [List.cons_eq_append_iff] at split
    obtain ⟨rfl, rfl, -⟩ := split
    exact ⟨⟨_, by simp; rfl⟩, by simp, by simp⟩
  obtain ⟨ids, beginning, -, -, -, counted, -, found⟩ := sent_in_order {} halfway few
  refine ⟨few, ids, ?_, counted.trans rfl, answers, ?_⟩
  · exact List.prefix_iff_eq_take.mp beginning
  · exact found answers (halfway.take 5) ⟨1, 0, []⟩ [] ⟨halfway.drop 6, rfl⟩ rfl rfl

end World

end DebugLink
