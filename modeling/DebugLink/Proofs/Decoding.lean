import DebugLink.Engine
import DebugLink.Proofs.Composite

/-!
# Decoding: what a payload can make its reader do

A payload may declare up to `2 ^ 31 - 1` events however short it is. But an event has a kind and a
request, which are five bytes, so no more events are read than the payload has room for. Only an
event of an unknown kind ends a set before its count, and it is the last one. What is left of a
payload then is not looked at (`EventSet.ReadFrom`).

The connection looks at nothing but the first byte of a payload before it passes it on. It is the
policy that its readers find.

Main statement: `EventSet.parse_bounded`.
-/

namespace DebugLink

namespace Reader.Listed

variable {sizes : IdSizes} {count : Nat} {events : List Event} {bytes : Bytes}

/-- No more events are listed than were declared. -/
theorem length_le (listed : Listed sizes count events bytes) : events.length ≤ count := by
  induction listed with
  | done => exact Nat.le_refl 0
  | cut requestId unknown => exact Nat.succ_le_succ (Nat.zero_le _)
  | next fits rest ih => exact Nat.succ_le_succ ih

/-- Every event takes five bytes at least. -/
theorem room (listed : Listed sizes count events bytes) : 5 * events.length ≤ bytes.length := by
  have request (requestId : Int32) : (Payload.putInt32 requestId).length = 4 :=
    Bytes.length_ofNat 4 _
  induction listed with
  | done => exact Nat.le_refl 0
  | cut requestId unknown =>
    rw [List.length_append, request]
    exact Nat.le_refl 5
  | @next count events bytes report fits rest ih =>
    have fields : report.layout sizes = report.happening.kind ::
        (Payload.putInt32 report.requestId ++ report.happening.layout sizes) := rfl
    simp only [List.length_append, fields, List.length_cons, request]
    omega

/-- Fewer events than were declared are listed only if the last is of an unknown kind. -/
theorem length_eq_or (listed : Listed sizes count events bytes) :
    events.length = count ∨ ∃ event kind, events.getLast? = some event ∧
      event.details = .unknown kind := by
  induction listed with
  | done => exact .inl rfl
  | @cut count kind requestId unknown => exact .inr ⟨_, kind, rfl, rfl⟩
  | @next count events bytes report fits rest ih =>
    obtain whole | ⟨event, kind, last, unknown⟩ := ih
    · left
      rw [List.length_cons, whole]
    · right
      refine ⟨event, kind, ?_, unknown⟩
      rw [List.getLast?_cons, last]
      rfl

/-- Before the last event all kinds are known. -/
theorem known (listed : Listed sizes count events bytes) :
    ∀ event ∈ events.dropLast, ∀ kind, event.details ≠ .unknown kind := by
  induction listed with
  | done => simp
  | cut requestId unknown => simp
  | @next count events bytes report fits rest ih =>
    intro event mem
    cases events with
    | nil => cases mem
    | cons second events =>
      rw [List.dropLast_cons_cons, List.mem_cons] at mem
      obtain rfl | mem := mem
      · exact report.happening.details_ne_unknown
      · exact ih event mem

/-- What is reported as unknown is the event's own kind, and is none of those that are known. -/
theorem unknown (listed : Listed sizes count events bytes) :
    ∀ event ∈ events, ∀ kind, event.details = .unknown kind →
      event.kind = kind ∧ kind ∉ Happening.kinds := by
  induction listed with
  | done => simp
  | cut requestId unknown =>
    intro event mem kind same
    obtain rfl := List.mem_singleton.mp mem
    obtain rfl := EventDetails.unknown.inj same
    exact ⟨rfl, unknown⟩
  | @next count events bytes report fits rest ih =>
    intro event mem kind same
    obtain rfl | mem := List.mem_cons.mp mem
    · exact absurd same (report.happening.details_ne_unknown kind)
    · exact ih event mem kind same

end Reader.Listed

namespace EventSet

/-- The number of events that a payload declares. -/
def declared (data : Bytes) : Int32 :=
  (UInt32.ofNat (Bytes.toNat ((data.drop 1).take 4))).toInt32

theorem declared_layout (policy : UInt8) (count : Int32) (listed : Bytes) :
    declared ([policy] ++ (Payload.putInt32 count ++ listed)) = count := by
  have length : (Payload.putInt32 count).length = 4 := Bytes.length_ofNat 4 _
  have field : (Payload.putInt32 count ++ listed).take 4 = Payload.putInt32 count := by
    rw [← length, List.take_left]
  rw [declared, List.singleton_append, List.drop_succ_cons, List.drop_zero, field,
    Payload.putInt32, Payload.ofNat_toNat_putUInt32, Int32.toInt32_toUInt32]

/-- What holds of a set that was read from a payload, whoever made the payload. -/
structure ReadFrom (sizes : IdSizes) (data : Bytes) (set : EventSet) : Prop where
  policy : data.head? = some set.suspendPolicy
  few : set.events.length ≤ (declared data).toInt
  room : 5 + 5 * set.events.length ≤ data.length
  whole : set.events.length = (declared data).toInt ∨ ∃ kind, set.unknownKind? = some kind
  known : ∀ event ∈ set.events.dropLast, ∀ kind, event.details ≠ .unknown kind
  unknown : ∀ event ∈ set.events, ∀ kind, event.details = .unknown kind →
    event.kind = kind ∧ kind ∉ Happening.kinds
  trailing : ∀ more, parse (data ++ more) sizes = .ok set

theorem readFrom_of_parse {sizes : IdSizes} {data : Bytes} {set : EventSet}
    (read : parse data sizes = .ok set) : ReadFrom sizes data set := by
  have recognizes := Reader.recognizes_eventSet sizes
  obtain ⟨bytes, rest, spelled, rfl⟩ := recognizes.of_parse read
  obtain ⟨count, listed, small, lists, rfl⟩ := id spelled
  -- The count is small enough to be the one that the payload declares.
  have declares : (declared ([set.suspendPolicy] ++
      (Payload.putInt32 (Int32.ofNat count) ++ listed) ++ rest)).toInt = count := by
    rw [List.append_assoc, List.append_assoc, declared_layout]
    exact Int32.toInt_ofNat_of_lt small
  constructor
  · rfl
  · rw [declares]
    exact Int.ofNat_le.mpr lists.length_le
  · have room := lists.room
    have length : (Payload.putInt32 (Int32.ofNat count)).length = 4 := Bytes.length_ofNat 4 _
    simp only [List.length_append, List.length_singleton, length]
    omega
  · rw [declares]
    obtain same | ⟨event, kind, last, unknown⟩ := lists.length_eq_or
    · exact .inl (congrArg Nat.cast same)
    · right
      obtain ⟨number, requestId, details⟩ := event
      refine ⟨kind, ?_⟩
      rw [unknownKind?, last, show details = .unknown kind from unknown]
  · exact lists.known
  · exact lists.unknown
  · intro more
    rw [List.append_assoc]
    exact recognizes.parse_append spelled (rest ++ more)

end EventSet

namespace EventBatch

/-- A batch has the payload of its packet, whose first byte is the policy. -/
theorem of_ofPacket {packet : CommandPacket} {batch : EventBatch}
    (accepted : ofPacket packet = .ok batch) :
    batch.data = packet.data ∧ packet.data.head? = some batch.suspendPolicy := by
  unfold ofPacket at accepted
  split at accepted
  · cases accepted
  · next policy rest data =>
    cases accepted
    rw [data]
    exact ⟨rfl, rfl⟩

/-- Whoever reads a batch finds the policy that the connection has looked at. -/
theorem suspendPolicy_eq {batch : EventBatch} {sizes : IdSizes} {set : EventSet}
    (read : batch.parse sizes = .ok set) : set.suspendPolicy = batch.suspendPolicy :=
  (Option.some.inj (EventSet.readFrom_of_parse read).policy).symm

end EventBatch

/-- What is left to do for a packet with a batch: the debuggee is taken to be suspended if the
batch says so. -/
theorem Connection.suspended_of_accept {connection : Connection} {frame : Bytes}
    {batch : EventBatch} (publishes : .publish batch ∈ (connection.accept frame).1) :
    .suspended ∈ (connection.accept frame).1 ↔ batch.suspendPolicy = suspendAllPolicy := by
  unfold accept at publishes ⊢
  split at publishes
  · cases publishes
  · simp at publishes
  · split at publishes
    · split at publishes
      · cases publishes
      · next events read batch' accepted =>
        have same : batch' = batch := by
          dsimp only at publishes
          split at publishes <;> simpa [eq_comm] using publishes
        subst same
        simp only [if_pos events]
        split <;> simp [*]
    · cases publishes

namespace EventSet

/-- A payload is refused, or no more events are read from it than it declares and than it has room
for at five bytes each. All that it declares are read, unless the last is of an unknown kind, and
no other is. What follows an accepted payload makes no difference. A batch has the policy that is
found in its payload, and when it arrives the debuggee is taken to be suspended just if that policy
says so. -/
theorem parse_bounded (sizes : IdSizes) :
    (∀ data, (∃ fault, parse data sizes = .error fault) ∨
      ∃ set, parse data sizes = .ok set ∧ ReadFrom sizes data set) ∧
    (∀ packet batch, EventBatch.ofPacket packet = .ok batch →
      batch.data = packet.data ∧ packet.data.head? = some batch.suspendPolicy ∧
      ∀ set, parse packet.data sizes = .ok set → set.suspendPolicy = batch.suspendPolicy) ∧
    ∀ (connection : Connection) frame batch, .publish batch ∈ (connection.accept frame).1 →
      ∀ set, batch.parse sizes = .ok set →
        (.suspended ∈ (connection.accept frame).1 ↔ set.suspendPolicy = suspendAllPolicy) := by
  refine ⟨?_, ?_, ?_⟩
  · intro data
    cases read : parse data sizes with
    | error fault => exact .inl ⟨fault, rfl⟩
    | ok set => exact .inr ⟨set, rfl, readFrom_of_parse read⟩
  · intro packet batch accepted
    obtain ⟨data, policy⟩ := EventBatch.of_ofPacket accepted
    refine ⟨data, policy, fun set read => ?_⟩
    rw [← data] at read
    exact EventBatch.suspendPolicy_eq read
  · intro connection frame batch publishes set read
    rw [Connection.suspended_of_accept publishes, EventBatch.suspendPolicy_eq read]

/-- A payload that declares `2 ^ 31 - 1` events. The second is of an unknown kind, and what is left
is of no event. -/
def boast : Bytes :=
  [2, 0x7f, 0xff, 0xff, 0xff, 99, 0, 0, 0, 7, 77, 0, 0, 0, 8, 1, 2, 3]

/-- What is read of it. -/
def boasted : EventSet :=
  ⟨2, [⟨99, 7, .vmDeath⟩, ⟨77, 8, .unknown 77⟩]⟩

theorem accept_boast (connection : Connection) :
    (connection.accept (CommandPacket.encode ⟨5, Command.events, 100, boast⟩)).1 =
      [.suspended, .publish ⟨5, 2, boast.tail⟩] := by
  have read : Packet.decode (CommandPacket.encode ⟨5, Command.events, 100, boast⟩) =
      .ok (.command ⟨5, Command.events, 100, boast⟩) := by
    rw [CommandPacket.encode, Packet.decode_layout, if_neg (by decide), if_neg (by decide)]
  rw [Connection.accept, read]
  rfl

/-- Of that payload two events are read, whatever follows it, and the debuggee is suspended. -/
theorem parse_bounded_boast :
    (declared boast).toInt = 2147483647 ∧ parse boast .initial = .ok boasted ∧
      ReadFrom .initial boast boasted ∧ boast.head? = some 2 ∧
      .suspended ∈ ((Connection.ofConfig {}).accept
        (CommandPacket.encode ⟨5, Command.events, 100, boast⟩)).1 := by
  have read : parse boast .initial = .ok boasted := rfl
  obtain ⟨reads, peeks, suspends⟩ := parse_bounded .initial
  have from_boast : ReadFrom .initial boast boasted := by
    obtain ⟨fault, failed⟩ | ⟨set, same, from_set⟩ := reads boast
    · rw [read] at failed
      cases failed
    · rw [read] at same
      cases same
      exact from_set
  refine ⟨rfl, read, from_boast,
    (peeks ⟨5, Command.events, 100, boast⟩ ⟨5, 2, boast.tail⟩ rfl).2.1, ?_⟩
  refine (suspends (Connection.ofConfig {}) _ ⟨5, 2, boast.tail⟩ ?_ boasted read).mpr rfl
  rw [accept_boast]
  exact List.mem_cons_of_mem _ List.mem_cons_self

end EventSet

end DebugLink
