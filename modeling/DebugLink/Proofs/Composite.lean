import DebugLink.Event
import DebugLink.Proofs.Grammar

/-!
# Composite: the layout of composite event packets

What the debuggee reports is a list of `Report`s, each of one of the ten known kinds. A report has
more to it than the event that is made of it: tags, and where an exception would have been caught
if it were (`Report.event`). Its layout is its kind, its request and the fields of its kind, with
every id at the width agreed on, which the id has to fit.

`Reader.recognizes_event` says that the reader of an event takes the layouts of reports and, of an
unknown kind, the kind and the request alone. Such an event ends the set, so a set is spelled by
reports up to the count or up to the first event of an unknown kind (`Listed`).

Main statement: `EventSet.parse_reports`.
-/

namespace DebugLink

/-- The ids that can be written at a width. -/
def IdSize.Holds (size : IdSize) (id : UInt64) : Prop :=
  id.toNat < Bytes.place size.bytes

instance (size : IdSize) (id : UInt64) : Decidable (size.Holds id) :=
  inferInstanceAs (Decidable (_ < _))

namespace Location

/-- The ids of a location fit their widths. -/
def Fits (sizes : IdSizes) (location : Location) : Prop :=
  sizes.referenceType.Holds location.classId ∧ sizes.method.Holds location.methodId

instance (sizes : IdSizes) (location : Location) : Decidable (location.Fits sizes) :=
  inferInstanceAs (Decidable (_ ∧ _))

def layout (sizes : IdSizes) (location : Location) : Bytes :=
  [location.typeTag] ++ (Payload.putId sizes.referenceType location.classId ++
    (Payload.putId sizes.method location.methodId ++ Payload.putUInt64 location.index))

end Location

/-- What the debuggee reports of each kind, with all that it sends. -/
inductive Happening
  | step (thread : ObjectId) (location : Location)
  | breakpoint (thread : ObjectId) (location : Location)
  | exception (thread : ObjectId) (thrownAt : Location) (tag : UInt8) (thrown : ObjectId)
      (caughtAt : Location)
  | threadStart (thread : ObjectId)
  | threadDeath (thread : ObjectId)
  | classPrepare (thread : ObjectId) (tag : UInt8) (refType : ReferenceTypeId)
      (signature : String) (status : Int32)
  | methodEntry (thread : ObjectId) (location : Location)
  | methodExit (thread : ObjectId) (location : Location)
  | vmStart (thread : ObjectId)
  | vmDeath

namespace Happening

/-- The number of each kind. -/
def kind : Happening → UInt8
  | step .. => 1
  | breakpoint .. => 2
  | exception .. => 4
  | threadStart _ => 6
  | threadDeath _ => 7
  | classPrepare .. => 8
  | methodEntry .. => 40
  | methodExit .. => 41
  | vmStart _ => 90
  | vmDeath => 99

/-- The numbers that are known. -/
def kinds : List UInt8 :=
  [1, 2, 4, 6, 7, 8, 40, 41, 90, 99]

/-- The fields of each kind. -/
def layout (sizes : IdSizes) : Happening → Bytes
  | step thread location | breakpoint thread location
  | methodEntry thread location | methodExit thread location =>
    Payload.putId sizes.object thread ++ location.layout sizes
  | exception thread thrownAt tag thrown caughtAt =>
    Payload.putId sizes.object thread ++ (thrownAt.layout sizes ++ ([tag] ++
      (Payload.putId sizes.object thrown ++ caughtAt.layout sizes)))
  | threadStart thread | threadDeath thread | vmStart thread => Payload.putId sizes.object thread
  | classPrepare thread tag refType signature status =>
    Payload.putId sizes.object thread ++ ([tag] ++ (Payload.putId sizes.referenceType refType ++
      (Payload.putText signature ++ Payload.putInt32 status)))
  | vmDeath => []

/-- The ids fit their widths, and the size of a signature fits its field. -/
def Fits (sizes : IdSizes) : Happening → Prop
  | step thread location | breakpoint thread location
  | methodEntry thread location | methodExit thread location =>
    sizes.object.Holds thread ∧ location.Fits sizes
  | exception thread thrownAt _ thrown caughtAt =>
    sizes.object.Holds thread ∧ thrownAt.Fits sizes ∧ sizes.object.Holds thrown ∧
      caughtAt.Fits sizes
  | threadStart thread | threadDeath thread | vmStart thread => sizes.object.Holds thread
  | classPrepare thread _ refType signature _ =>
    sizes.object.Holds thread ∧ sizes.referenceType.Holds refType ∧
      (Utf8.encode signature.toList).length < UInt32.size
  | vmDeath => True

instance (sizes : IdSizes) : (happening : Happening) → Decidable (happening.Fits sizes)
  | step .. | breakpoint .. | methodEntry .. | methodExit .. => inferInstanceAs (Decidable (_ ∧ _))
  | exception .. | classPrepare .. => inferInstanceAs (Decidable (_ ∧ _ ∧ _))
  | threadStart _ | threadDeath _ | vmStart _ => inferInstanceAs (Decidable (IdSize.Holds _ _))
  | vmDeath => inferInstanceAs (Decidable True)

/-- What is made of a report. Tags are left out, and so is the place where an exception will be
caught if it has no class. -/
def details : Happening → EventDetails
  | step thread location => .step thread location
  | breakpoint thread location => .breakpoint thread location
  | exception thread thrownAt _ thrown caughtAt =>
    .exception thread thrownAt thrown (if caughtAt.classId = 0 then none else some caughtAt)
  | threadStart thread => .threadStart thread
  | threadDeath thread => .threadDeath thread
  | classPrepare thread _ refType signature status =>
    .classPrepare thread refType signature status
  | methodEntry thread location => .methodEntry thread location
  | methodExit thread location => .methodExit thread location
  | vmStart thread => .vmStart thread
  | vmDeath => .vmDeath

theorem details_ne_unknown (happening : Happening) (kind : UInt8) :
    happening.details ≠ .unknown kind := by
  intro same
  cases happening <;> cases same

end Happening

/-- A report and the request that it answers. -/
structure Report where
  requestId : Int32
  happening : Happening

namespace Report

variable (sizes : IdSizes) (report : Report)

def layout : Bytes :=
  [report.happening.kind] ++ (Payload.putInt32 report.requestId ++ report.happening.layout sizes)

def event : Event :=
  ⟨report.happening.kind, report.requestId, report.happening.details⟩

end Report

namespace Reader

variable (sizes : IdSizes)

/-! ## One event -/

theorem recognizes_location :
    Recognizes (location sizes) fun location bytes =>
      location.Fits sizes ∧ bytes = location.layout sizes := by
  refine (recognizes_uint8.bind fun typeTag => (recognizes_id sizes.referenceType).bind
    fun classId => (recognizes_id sizes.method).bind fun methodId => recognizes_uint64.bind
    fun index => recognizes_pure (Location.mk typeTag classId methodId index)).congr
    fun location bytes => ⟨?_, ?_⟩
  · rintro ⟨typeTag, _, _, rfl, ⟨classId, _, _, ⟨holds, rfl⟩, ⟨methodId, _, _, ⟨holds', rfl⟩,
      ⟨index, _, _, rfl, ⟨rfl, rfl⟩, rfl⟩, rfl⟩, rfl⟩, rfl⟩
    refine ⟨⟨holds, holds'⟩, ?_⟩
    rw [List.append_nil]
    rfl
  · rintro ⟨⟨holds, holds'⟩, rfl⟩
    refine ⟨location.typeTag, _, _, rfl, ⟨location.classId, _, _, ⟨holds, rfl⟩,
      ⟨location.methodId, _, _, ⟨holds', rfl⟩, ⟨location.index, _, _, rfl, ⟨rfl, rfl⟩, rfl⟩,
      rfl⟩, rfl⟩, ?_⟩
    rw [List.append_nil]
    rfl

theorem recognizes_threadAndLocation (build : ObjectId → Location → EventDetails) :
    Recognizes (threadAndLocation sizes build) fun details bytes =>
      ∃ thread location, (sizes.object.Holds thread ∧ location.Fits sizes) ∧
        details = build thread location ∧
        bytes = Payload.putId sizes.object thread ++ location.layout sizes := by
  refine ((recognizes_id sizes.object).bind fun thread => (recognizes_location sizes).bind
    fun location => recognizes_pure (build thread location)).congr fun details bytes => ⟨?_, ?_⟩
  · rintro ⟨thread, _, _, ⟨holds, rfl⟩, ⟨location, _, _, ⟨fits, rfl⟩, ⟨rfl, rfl⟩, rfl⟩, rfl⟩
    refine ⟨thread, location, ⟨holds, fits⟩, rfl, ?_⟩
    rw [List.append_nil]
  · rintro ⟨thread, location, ⟨holds, fits⟩, rfl, rfl⟩
    refine ⟨thread, _, _, ⟨holds, rfl⟩, ⟨location, _, _, ⟨fits, rfl⟩, ⟨rfl, rfl⟩, rfl⟩, ?_⟩
    rw [List.append_nil]

theorem recognizes_thread (build : ObjectId → EventDetails) :
    Recognizes (build <$> id sizes.object) fun details bytes =>
      ∃ thread, sizes.object.Holds thread ∧ details = build thread ∧
        bytes = Payload.putId sizes.object thread := by
  refine ((recognizes_id sizes.object).convert build).congr fun details bytes => ⟨?_, ?_⟩
  · rintro ⟨thread, ⟨holds, rfl⟩, rfl⟩
    exact ⟨thread, holds, rfl, rfl⟩
  · rintro ⟨thread, holds, rfl, rfl⟩
    exact ⟨thread, ⟨holds, rfl⟩, rfl⟩

theorem recognizes_exceptionDetails :
    Recognizes (exceptionDetails sizes) fun details bytes =>
      ∃ thread thrownAt tag thrown caughtAt,
        (Happening.exception thread thrownAt tag thrown caughtAt).Fits sizes ∧
        details = (Happening.exception thread thrownAt tag thrown caughtAt).details ∧
        bytes = (Happening.exception thread thrownAt tag thrown caughtAt).layout sizes := by
  refine ((recognizes_id sizes.object).bind fun thread => (recognizes_location sizes).bind
    fun thrownAt => recognizes_uint8.bind fun tag => (recognizes_id sizes.object).bind
    fun thrown => (recognizes_location sizes).bind fun caughtAt => recognizes_pure
      (Happening.exception thread thrownAt tag thrown caughtAt).details).congr
    fun details bytes => ⟨?_, ?_⟩
  · rintro ⟨thread, _, _, ⟨holds, rfl⟩, ⟨thrownAt, _, _, ⟨fits, rfl⟩, ⟨tag, _, _, rfl,
      ⟨thrown, _, _, ⟨holds', rfl⟩, ⟨caughtAt, _, _, ⟨fits', rfl⟩, ⟨rfl, rfl⟩, rfl⟩, rfl⟩,
      rfl⟩, rfl⟩, rfl⟩
    refine ⟨thread, thrownAt, tag, thrown, caughtAt, ⟨holds, fits, holds', fits'⟩, rfl, ?_⟩
    rw [List.append_nil]
    rfl
  · rintro ⟨thread, thrownAt, tag, thrown, caughtAt, ⟨holds, fits, holds', fits'⟩, rfl, rfl⟩
    refine ⟨thread, _, _, ⟨holds, rfl⟩, ⟨thrownAt, _, _, ⟨fits, rfl⟩, ⟨tag, _, _, rfl,
      ⟨thrown, _, _, ⟨holds', rfl⟩, ⟨caughtAt, _, _, ⟨fits', rfl⟩, ⟨rfl, rfl⟩, rfl⟩, rfl⟩,
      rfl⟩, rfl⟩, ?_⟩
    rw [List.append_nil]
    rfl

theorem recognizes_classPrepareDetails :
    Recognizes (classPrepareDetails sizes) fun details bytes =>
      ∃ thread tag refType signature status,
        (Happening.classPrepare thread tag refType signature status).Fits sizes ∧
        details = (Happening.classPrepare thread tag refType signature status).details ∧
        bytes = (Happening.classPrepare thread tag refType signature status).layout sizes := by
  refine ((recognizes_id sizes.object).bind fun thread => recognizes_uint8.bind fun tag =>
    (recognizes_id sizes.referenceType).bind fun refType => recognizes_text.bind fun signature =>
    recognizes_int32.bind fun status => recognizes_pure
      (Happening.classPrepare thread tag refType signature status).details).congr
    fun details bytes => ⟨?_, ?_⟩
  · rintro ⟨thread, _, _, ⟨holds, rfl⟩, ⟨tag, _, _, rfl, ⟨refType, _, _, ⟨holds', rfl⟩,
      ⟨signature, _, _, ⟨short, rfl⟩, ⟨status, _, _, rfl, ⟨rfl, rfl⟩, rfl⟩, rfl⟩, rfl⟩, rfl⟩, rfl⟩
    refine ⟨thread, tag, refType, signature, status, ⟨holds, holds', short⟩, rfl, ?_⟩
    rw [List.append_nil]
    rfl
  · rintro ⟨thread, tag, refType, signature, status, ⟨holds, holds', short⟩, rfl, rfl⟩
    refine ⟨thread, _, _, ⟨holds, rfl⟩, ⟨tag, _, _, rfl, ⟨refType, _, _, ⟨holds', rfl⟩,
      ⟨signature, _, _, ⟨short, rfl⟩, ⟨status, _, _, rfl, ⟨rfl, rfl⟩, rfl⟩, rfl⟩, rfl⟩, rfl⟩, ?_⟩
    rw [List.append_nil]
    rfl

theorem eventDetails_of_unknown {kind : UInt8} (unknown : kind ∉ Happening.kinds) :
    eventDetails sizes kind = pure (.unknown kind) := by
  have is_known {n : Nat} (same : kind.toNat = n) (known : UInt8.ofNat n ∈ Happening.kinds) :
      False := by
    rw [← same, UInt8.ofNat_toNat] at known
    exact unknown known
  rw [eventDetails]
  split
  all_goals first | rfl | exact (is_known ‹_› (by decide)).elim

/-- Of a known kind the fields are taken, of any other nothing. -/
theorem recognizes_eventDetails (kind : UInt8) :
    Recognizes (eventDetails sizes kind) fun details bytes =>
      (∃ happening : Happening, kind = happening.kind ∧ happening.Fits sizes ∧
        details = happening.details ∧ bytes = happening.layout sizes) ∨
      kind ∉ Happening.kinds ∧ details = .unknown kind ∧ bytes = [] where
  complete := by
    rintro details bytes (⟨happening, rfl, fits, rfl, rfl⟩ | ⟨unknown, rfl, rfl⟩)
    · cases happening with
      | step thread location =>
        exact (recognizes_threadAndLocation sizes .step).complete ⟨_, _, fits, rfl, rfl⟩
      | breakpoint thread location =>
        exact (recognizes_threadAndLocation sizes .breakpoint).complete ⟨_, _, fits, rfl, rfl⟩
      | exception thread thrownAt tag thrown caughtAt =>
        exact (recognizes_exceptionDetails sizes).complete ⟨_, _, _, _, _, fits, rfl, rfl⟩
      | threadStart thread =>
        exact (recognizes_thread sizes .threadStart).complete ⟨_, fits, rfl, rfl⟩
      | threadDeath thread =>
        exact (recognizes_thread sizes .threadDeath).complete ⟨_, fits, rfl, rfl⟩
      | classPrepare thread tag refType signature status =>
        exact (recognizes_classPrepareDetails sizes).complete ⟨_, _, _, _, _, fits, rfl, rfl⟩
      | methodEntry thread location =>
        exact (recognizes_threadAndLocation sizes .methodEntry).complete ⟨_, _, fits, rfl, rfl⟩
      | methodExit thread location =>
        exact (recognizes_threadAndLocation sizes .methodExit).complete ⟨_, _, fits, rfl, rfl⟩
      | vmStart thread => exact (recognizes_thread sizes .vmStart).complete ⟨_, fits, rfl, rfl⟩
      | vmDeath => exact (recognizes_pure EventDetails.vmDeath).complete ⟨rfl, rfl⟩
    · rw [eventDetails_of_unknown sizes unknown]
      exact reads_pure _
  sound := by
    intro buffer details rest read
    by_cases known : kind ∈ Happening.kinds
    · simp only [Happening.kinds, List.mem_cons, List.not_mem_nil, or_false] at known
      obtain rfl | rfl | rfl | rfl | rfl | rfl | rfl | rfl | rfl | rfl := known
      · obtain ⟨bytes, ⟨thread, location, fits, rfl, rfl⟩, split⟩ :=
          (recognizes_threadAndLocation sizes .step).sound read
        exact ⟨_, .inl ⟨.step thread location, rfl, fits, rfl, rfl⟩, split⟩
      · obtain ⟨bytes, ⟨thread, location, fits, rfl, rfl⟩, split⟩ :=
          (recognizes_threadAndLocation sizes .breakpoint).sound read
        exact ⟨_, .inl ⟨.breakpoint thread location, rfl, fits, rfl, rfl⟩, split⟩
      · obtain ⟨bytes, ⟨thread, thrownAt, tag, thrown, caughtAt, fits, rfl, rfl⟩, split⟩ :=
          (recognizes_exceptionDetails sizes).sound read
        exact ⟨_, .inl ⟨.exception thread thrownAt tag thrown caughtAt, rfl, fits, rfl, rfl⟩, split⟩
      · obtain ⟨bytes, ⟨thread, holds, rfl, rfl⟩, split⟩ :=
          (recognizes_thread sizes .threadStart).sound read
        exact ⟨_, .inl ⟨.threadStart thread, rfl, holds, rfl, rfl⟩, split⟩
      · obtain ⟨bytes, ⟨thread, holds, rfl, rfl⟩, split⟩ :=
          (recognizes_thread sizes .threadDeath).sound read
        exact ⟨_, .inl ⟨.threadDeath thread, rfl, holds, rfl, rfl⟩, split⟩
      · obtain ⟨bytes, ⟨thread, tag, refType, signature, status, fits, rfl, rfl⟩, split⟩ :=
          (recognizes_classPrepareDetails sizes).sound read
        exact ⟨_, .inl ⟨.classPrepare thread tag refType signature status, rfl, fits, rfl, rfl⟩,
          split⟩
      · obtain ⟨bytes, ⟨thread, location, fits, rfl, rfl⟩, split⟩ :=
          (recognizes_threadAndLocation sizes .methodEntry).sound read
        exact ⟨_, .inl ⟨.methodEntry thread location, rfl, fits, rfl, rfl⟩, split⟩
      · obtain ⟨bytes, ⟨thread, location, fits, rfl, rfl⟩, split⟩ :=
          (recognizes_threadAndLocation sizes .methodExit).sound read
        exact ⟨_, .inl ⟨.methodExit thread location, rfl, fits, rfl, rfl⟩, split⟩
      · obtain ⟨bytes, ⟨thread, holds, rfl, rfl⟩, split⟩ :=
          (recognizes_thread sizes .vmStart).sound read
        exact ⟨_, .inl ⟨.vmStart thread, rfl, holds, rfl, rfl⟩, split⟩
      · obtain ⟨bytes, ⟨rfl, rfl⟩, split⟩ := (recognizes_pure EventDetails.vmDeath).sound read
        exact ⟨_, .inl ⟨.vmDeath, rfl, trivial, rfl, rfl⟩, split⟩
    · rw [eventDetails_of_unknown sizes known] at read
      obtain ⟨bytes, ⟨rfl, rfl⟩, split⟩ := (recognizes_pure _).sound read
      exact ⟨_, .inr ⟨known, rfl, rfl⟩, split⟩

/-- An event is the layout of a report, or it is of an unknown kind. -/
theorem recognizes_event :
    Recognizes (event sizes) fun event bytes =>
      (∃ report : Report, report.happening.Fits sizes ∧ event = report.event ∧
        bytes = report.layout sizes) ∨
      ∃ kind requestId, kind ∉ Happening.kinds ∧ event = ⟨kind, requestId, .unknown kind⟩ ∧
        bytes = [kind] ++ Payload.putInt32 requestId := by
  refine (recognizes_uint8.bind fun kind => recognizes_int32.bind fun requestId =>
    (recognizes_eventDetails sizes kind).bind fun details =>
    recognizes_pure (Event.mk kind requestId details)).congr fun event bytes => ⟨?_, ?_⟩
  · rintro ⟨kind, _, _, rfl, ⟨requestId, _, _, rfl, ⟨details, _, _, read, ⟨rfl, rfl⟩, rfl⟩, rfl⟩,
      rfl⟩
    rw [List.append_nil]
    obtain ⟨happening, rfl, fits, rfl, rfl⟩ | ⟨unknown, rfl, rfl⟩ := read
    · exact .inl ⟨⟨requestId, happening⟩, fits, rfl, rfl⟩
    · refine .inr ⟨kind, requestId, unknown, rfl, ?_⟩
      rw [List.append_nil]
  · rintro (⟨⟨requestId, happening⟩, fits, rfl, rfl⟩ | ⟨kind, requestId, unknown, rfl, rfl⟩)
    · refine ⟨happening.kind, _, _, rfl, ⟨requestId, _, _, rfl, ⟨happening.details, _, _,
        .inl ⟨happening, rfl, fits, rfl, rfl⟩, ⟨rfl, rfl⟩, rfl⟩, rfl⟩, ?_⟩
      rw [List.append_nil]
      rfl
    · refine ⟨kind, _, _, rfl, ⟨requestId, _, _, rfl, ⟨.unknown kind, _, _,
        .inr ⟨unknown, rfl, rfl⟩, ⟨rfl, rfl⟩, rfl⟩, rfl⟩, ?_⟩
      rw [List.append_nil, List.append_nil]

/-! ## A set of events -/

/-- Up to so many events, one behind the other. One of an unknown kind is the last. -/
inductive Listed (sizes : IdSizes) : Nat → List Event → Bytes → Prop
  | done : Listed sizes 0 [] []
  | cut {count : Nat} {kind : UInt8} (requestId : Int32) (unknown : kind ∉ Happening.kinds) :
    Listed sizes (count + 1) [⟨kind, requestId, .unknown kind⟩]
      ([kind] ++ Payload.putInt32 requestId)
  | next {count : Nat} {events : List Event} {bytes : Bytes} {report : Report}
    (fits : report.happening.Fits sizes) (rest : Listed sizes count events bytes) :
    Listed sizes (count + 1) (report.event :: events) (report.layout sizes ++ bytes)

/-- What is read behind an event, before the rest is known to be what is listed. -/
theorem recognizes_behind {reader : Reader (List Event)} {listed : List Event → Bytes → Prop}
    (rest : Recognizes reader listed) (event : Event) :
    Recognizes (match event.details with
      | .unknown _ => return [event]
      | _ => return event :: (← reader)) fun events bytes =>
        (∃ kind, event.details = .unknown kind) ∧ events = [event] ∧ bytes = [] ∨
          (∀ kind, event.details ≠ .unknown kind) ∧
            ∃ events', listed events' bytes ∧ events = event :: events' := by
  split
  · next kind unknown =>
    refine (recognizes_pure [event]).congr fun events bytes => ⟨?_, ?_⟩
    · intro last
      exact .inl ⟨⟨kind, unknown⟩, last⟩
    · rintro (⟨-, last⟩ | ⟨known, -⟩)
      · exact last
      · exact absurd unknown (known kind)
  · next known =>
    refine (rest.bind fun events => recognizes_pure (event :: events)).congr
      fun events bytes => ⟨?_, ?_⟩
    · rintro ⟨events', _, _, spelled, ⟨rfl, rfl⟩, rfl⟩
      rw [List.append_nil]
      exact .inr ⟨known, events', spelled, rfl⟩
    · rintro (⟨⟨kind, unknown⟩, -⟩ | ⟨-, events', spelled, rfl⟩)
      · exact absurd unknown (known kind)
      · exact ⟨events', _, _, spelled, ⟨rfl, rfl⟩, (List.append_nil _).symm⟩

theorem recognizes_events (count : Nat) : Recognizes (events sizes count) (Listed sizes count) := by
  induction count with
  | zero =>
    refine (recognizes_pure []).congr fun events bytes => ⟨?_, ?_⟩
    · rintro ⟨rfl, rfl⟩
      exact .done
    · intro listed
      cases listed
      exact ⟨rfl, rfl⟩
  | succ count ih =>
    refine ((recognizes_event sizes).bind (recognizes_behind ih)).congr
      fun events bytes => ⟨?_, ?_⟩
    · rintro ⟨event, _, _, ⟨report, fits, rfl, rfl⟩ | ⟨kind, requestId, unknown, rfl, rfl⟩,
        ⟨⟨kind', unknown'⟩, rfl, rfl⟩ | ⟨known, events', listed, rfl⟩, rfl⟩
      · exact absurd unknown' (report.happening.details_ne_unknown kind')
      · exact .next fits listed
      · rw [List.append_nil]
        exact .cut requestId unknown
      · exact absurd rfl (known kind)
    · intro listed
      cases listed with
      | cut requestId unknown =>
        refine ⟨_, _, _, .inr ⟨_, requestId, unknown, rfl, rfl⟩, .inl ⟨⟨_, rfl⟩, rfl, rfl⟩, ?_⟩
        rw [List.append_nil]
      | next fits rest =>
        exact ⟨_, _, _, .inl ⟨_, fits, rfl, rfl⟩,
          .inr ⟨Happening.details_ne_unknown _, _, rest, rfl⟩, rfl⟩

/-- The counts that are no negative numbers. -/
theorem exists_count {count : Int32} (counts : ¬count < 0) :
    ∃ n < 2147483648, count = Int32.ofNat n := by
  have least : 0 ≤ count.toInt := by
    rw [Int32.lt_iff_toInt_lt] at counts
    exact Int.not_lt.mp counts
  have most : count.toInt < 2147483648 := count.toInt_lt
  refine ⟨count.toInt.toNat, by omega, ?_⟩
  rw [← Int32.toInt_inj, Int32.toInt_ofNat_of_lt (by omega), Int.toNat_of_nonneg least]

theorem counts_ofNat {n : Nat} (few : n < 2147483648) :
    ¬Int32.ofNat n < 0 ∧ (Int32.ofNat n).toInt.toNat = n := by
  have same : (Int32.ofNat n).toInt = n := Int32.toInt_ofNat_of_lt few
  rw [Int32.lt_iff_toInt_lt, same]
  exact ⟨Int.not_lt.mpr (Int.natCast_nonneg n), Int.toNat_natCast n⟩

/-- The payload of a packet: the policy, a count that is no negative number, and the events. -/
theorem recognizes_eventSet :
    Recognizes (eventSet sizes) fun set bytes =>
      ∃ count listed, count < 2147483648 ∧ Listed sizes count set.events listed ∧
        bytes = [set.suspendPolicy] ++ (Payload.putInt32 (Int32.ofNat count) ++ listed) := by
  have counted (policy : UInt8) (count : Int32) :
      Recognizes (if count < 0 then
          throw (.negativeEventCount count.toInt) >>= fun _ : Unit =>
            events sizes count.toInt.toNat >>= fun events => pure (EventSet.mk policy events)
        else events sizes count.toInt.toNat >>= fun events => pure (EventSet.mk policy events))
        fun set bytes => ¬count < 0 ∧ set.suspendPolicy = policy ∧
          Listed sizes count.toInt.toNat set.events bytes := by
    by_cases negative : count < 0
    · rw [if_pos negative]
      refine ((recognizes_throw _).bind fun _ => (recognizes_events sizes _).bind
        fun events => recognizes_pure (EventSet.mk policy events)).congr fun set bytes => ⟨?_, ?_⟩
      · rintro ⟨_, _, _, none, -⟩
        exact none.elim
      · rintro ⟨counts, -⟩
        exact absurd negative counts
    · rw [if_neg negative]
      refine ((recognizes_events sizes _).bind
        fun events => recognizes_pure (EventSet.mk policy events)).congr fun set bytes => ⟨?_, ?_⟩
      · rintro ⟨events, _, _, listed, ⟨rfl, rfl⟩, rfl⟩
        rw [List.append_nil]
        exact ⟨negative, rfl, listed⟩
      · rintro ⟨-, rfl, listed⟩
        exact ⟨set.events, _, _, listed, ⟨rfl, rfl⟩, (List.append_nil _).symm⟩
  refine (recognizes_uint8.bind fun policy => recognizes_int32.bind fun count =>
    counted policy count).congr fun set bytes => ⟨?_, ?_⟩
  · rintro ⟨policy, _, _, rfl, ⟨count, _, listed, rfl, ⟨counts, rfl, spelled⟩, rfl⟩, rfl⟩
    obtain ⟨n, few, rfl⟩ := exists_count counts
    rw [(counts_ofNat few).2] at spelled
    exact ⟨n, listed, few, spelled, rfl⟩
  · rintro ⟨count, listed, few, spelled, rfl⟩
    obtain ⟨counts, same⟩ := counts_ofNat few
    refine ⟨set.suspendPolicy, _, _, rfl, ⟨Int32.ofNat count, _, listed, rfl, ⟨counts, rfl, ?_⟩,
      rfl⟩, rfl⟩
    rwa [same]

end Reader

namespace Report

/-- The payload in which reports are sent. -/
def packed (sizes : IdSizes) (policy : UInt8) (reports : List Report) : Bytes :=
  [policy] ++ (Payload.putInt32 (Int32.ofNat reports.length) ++
    reports.flatMap (Report.layout sizes))

variable {sizes : IdSizes} {reports : List Report}

theorem listed (fits : ∀ report ∈ reports, report.happening.Fits sizes) :
    Reader.Listed sizes reports.length (reports.map Report.event)
      (reports.flatMap (Report.layout sizes)) := by
  induction reports with
  | nil => exact .done
  | cons report reports ih =>
    rw [List.forall_mem_cons] at fits
    exact .next fits.1 (ih fits.2)

/-- If all kinds are known then reports were listed. -/
theorem exists_of_listed {count : Nat} {events : List Event} {bytes : Bytes}
    (listed : Reader.Listed sizes count events bytes)
    (known : ∀ event ∈ events, ∀ kind, event.details ≠ .unknown kind) :
    ∃ reports : List Report, (∀ report ∈ reports, report.happening.Fits sizes) ∧
      reports.length = count ∧ events = reports.map Report.event ∧
      bytes = reports.flatMap (Report.layout sizes) := by
  induction listed with
  | done => exact ⟨[], by simp, rfl, rfl, rfl⟩
  | cut requestId unknown => exact absurd rfl (known _ (List.mem_singleton_self _) _)
  | @next count events bytes report fits rest ih =>
    rw [List.forall_mem_cons] at known
    obtain ⟨reports, all, rfl, rfl, rfl⟩ := ih known.2
    exact ⟨report :: reports, List.forall_mem_cons.mpr ⟨fits, all⟩, rfl, rfl, rfl⟩

end Report

namespace EventSet

/-- At all widths, reports whose ids fit are read from their payload as their events, in order and
with the policy, whatever follows the payload; and a payload that was cut short is refused. If no
event of an unknown kind is read, what was read begins with the payload of such reports. -/
theorem parse_reports (sizes : IdSizes) :
    (∀ (policy : UInt8) (reports : List Report), reports.length < 2147483648 →
      (∀ report ∈ reports, report.happening.Fits sizes) →
      (∀ trailing, parse (Report.packed sizes policy reports ++ trailing) sizes =
        .ok ⟨policy, reports.map Report.event⟩) ∧
      ∀ front, front <+: Report.packed sizes policy reports →
        front ≠ Report.packed sizes policy reports → ∃ fault, parse front sizes = .error fault) ∧
    ∀ (data : Bytes) (set : EventSet), parse data sizes = .ok set →
      (∀ event ∈ set.events, ∀ kind, event.details ≠ .unknown kind) →
      ∃ (reports : List Report) (trailing : Bytes), reports.length < 2147483648 ∧
        (∀ report ∈ reports, report.happening.Fits sizes) ∧
        set.events = reports.map Report.event ∧
        data = Report.packed sizes set.suspendPolicy reports ++ trailing := by
  have recognizes := Reader.recognizes_eventSet sizes
  refine ⟨fun policy reports few fits => ?_, fun data set read known => ?_⟩
  · have spelled : ∃ count listed, count < 2147483648 ∧
        Reader.Listed sizes count (reports.map Report.event) listed ∧
        Report.packed sizes policy reports =
          [policy] ++ (Payload.putInt32 (Int32.ofNat count) ++ listed) :=
      ⟨reports.length, _, few, Report.listed fits, rfl⟩
    refine ⟨fun trailing => ?_, fun front begins short => ?_⟩
    · exact recognizes.parse_append (a := ⟨policy, reports.map Report.event⟩) spelled trailing
    · exact recognizes.fails_of_prefix (a := ⟨policy, reports.map Report.event⟩) spelled begins short
  · obtain ⟨_, trailing, ⟨count, listed, few, spelled, rfl⟩, split⟩ := recognizes.of_parse read
    obtain ⟨reports, fits, rfl, events, rfl⟩ := Report.exists_of_listed spelled known
    exact ⟨reports, trailing, few, fits, events, split⟩

/-- Widths of two and four bytes. -/
def narrow : IdSizes := ⟨.two, .two, .two, .four, .two⟩

/-- An exception that nothing will catch, and a class whose name has two bytes for a letter. -/
def reported : List Report :=
  [⟨3, .exception 9 ⟨1, 70000, 2, 5⟩ 76 40 ⟨0, 0, 0, 0⟩⟩, ⟨-1, .classPrepare 9 1 70001 "Lé;" 7⟩]

theorem parse_reports_narrow :
    reported.length < 2147483648 ∧ (∀ report ∈ reported, report.happening.Fits narrow) ∧
      parse (Report.packed narrow 2 reported ++ [7]) narrow =
        .ok ⟨2, reported.map Report.event⟩ ∧
      (∃ fault, parse ((Report.packed narrow 2 reported).take 60) narrow = .error fault) ∧
      ∃ (reports : List Report) (trailing : Bytes), reports.length < 2147483648 ∧
        (∀ report ∈ reports, report.happening.Fits narrow) ∧
        reported.map Report.event = reports.map Report.event ∧
        Report.packed narrow 2 reported ++ [7] = Report.packed narrow 2 reports ++ trailing := by
  obtain ⟨written, read⟩ := parse_reports narrow
  have few : reported.length < 2147483648 := by decide
  have fits : ∀ report ∈ reported, report.happening.Fits narrow := by decide
  obtain ⟨whole, cut⟩ := written 2 reported few fits
  have known : ∀ event ∈ reported.map Report.event, ∀ kind, event.details ≠ .unknown kind := by
    intro event mem kind
    obtain ⟨report, -, rfl⟩ := List.mem_map.mp mem
    exact report.happening.details_ne_unknown kind
  have short : (Report.packed narrow 2 reported).take 60 ≠ Report.packed narrow 2 reported := by
    decide
  exact ⟨few, fits, whole [7], cut _ (List.take_prefix _ _) short, read _ _ (whole [7]) known⟩

end EventSet

end DebugLink
