import DebugLink.Proofs.World

/-!
# Journal: what a journal says of a request

The receipts of all commands that were issued can be read off a journal (`receipts`), and so can
the fate of each: the first verdict on its id behind the entry of its issue. There are three kinds
of verdicts: a reply with the id has come in, the command was given up, or the connection was torn
down.
-/

namespace DebugLink

theorem filterMap_cons_toList {α β : Type} (f : α → Option β) (a : α) (list : List α) :
    (a :: list).filterMap f = (f a).toList ++ list.filterMap f := by
  cases image : f a <;> simp [image]

/-- What stands somewhere in a list that has grown is one of the old elements or one of the new. -/
theorem split_append {α : Type} {list more before after : List α} {a : α}
    (split : list ++ more = before ++ a :: after) :
    (∃ rest, list = before ++ a :: rest ∧ after = rest ++ more) ∨
      ∃ added, before = list ++ added ∧ more = added ++ a :: after := by
  obtain ⟨added, eq, new⟩ | ⟨rest, eq, tail⟩ := List.append_eq_append_iff.mp split
  · exact .inr ⟨added, eq, new⟩
  · cases rest with
    | nil => exact .inr ⟨[], by rw [eq, List.append_nil, List.append_nil], tail.symm⟩
    | cons first rest =>
      obtain ⟨rfl, rfl⟩ := List.cons.inj tail
      exact .inl ⟨rest, eq, rfl⟩

theorem split_concat {α : Type} {list before after : List α} {last a : α}
    (split : list ++ [last] = before ++ a :: after) :
    (∃ rest, list = before ++ a :: rest ∧ after = rest ++ [last]) ∨
      before = list ∧ a = last ∧ after = [] := by
  obtain old | ⟨added, eq, new⟩ := split_append split
  · exact .inl old
  · cases added with
    | nil =>
      obtain ⟨rfl, rfl⟩ := List.cons.inj new
      exact .inr ⟨eq.trans (List.append_nil _), rfl, rfl⟩
    | cons first added => cases added <;> cases new

/-- The command that an entry says was issued, with its receipt. -/
def Entry.issue? : Entry → Option (Receipt × Command)
  | .issued receipt command _ => some (receipt, command)
  | _ => none

/-- What an entry says about the outcome of every request that is pending under an id. -/
def Entry.verdict? (id : UInt32) : Entry → Option (Except Failure Bytes)
  | .performed (.replied reply) => if reply.id = id then some reply.result else none
  | .performed (.abandon other failure) => if other = id then some (.error failure) else none
  | .tornDown => some (.error .disconnected)
  | _ => none

/-- The commands that were issued, with their receipts. -/
def issues (journal : List Entry) : List (Receipt × Command) :=
  journal.filterMap Entry.issue?

/-- The receipts of the commands that were issued. -/
def receipts (journal : List Entry) : List Receipt :=
  (issues journal).map (·.1)

/-- What happened after the command with a receipt was issued. -/
def since (receipt : Receipt) : List Entry → List Entry
  | [] => []
  | entry :: rest => if entry.issue?.map (·.1) = some receipt then rest else since receipt rest

/-- The outcome that a journal gives the command with a receipt, if it was decided. -/
def fate (receipt : Receipt) (journal : List Entry) : Option (Except Failure Bytes) :=
  (since receipt journal).findSome? (Entry.verdict? receipt.id)

variable {journal entries : List Entry} {receipt : Receipt}

@[simp]
theorem issues_append : issues (journal ++ entries) = issues journal ++ issues entries :=
  List.filterMap_append

@[simp]
theorem receipts_append : receipts (journal ++ entries) = receipts journal ++ receipts entries := by
  simp [receipts]

theorem mem_receipts {command : Command} (mem : (receipt, command) ∈ issues journal) :
    receipt ∈ receipts journal :=
  List.mem_map_of_mem mem

theorem since_suffix : since receipt journal <:+ journal := by
  induction journal with
  | nil => exact List.suffix_refl _
  | cons entry rest ih =>
    rw [since]
    split
    · exact List.suffix_cons entry rest
    · exact ih.trans (List.suffix_cons entry rest)

theorem since_append_of_mem (mem : receipt ∈ receipts journal) :
    since receipt (journal ++ entries) = since receipt journal ++ entries := by
  induction journal with
  | nil => simp [receipts, issues] at mem
  | cons entry rest ih =>
    rw [List.cons_append, since, since]
    split
    · rfl
    · next other =>
      apply ih
      rw [receipts, issues, List.filterMap_cons] at mem
      split at mem
      · exact mem
      · next issue found =>
        obtain rfl | mem := List.mem_cons.mp mem
        · simp [found] at other
        · exact mem

theorem since_append_of_not_mem (fresh : receipt ∉ receipts journal) :
    since receipt (journal ++ entries) = since receipt entries := by
  induction journal with
  | nil => rfl
  | cons entry rest ih =>
    rw [← List.singleton_append, receipts_append, List.mem_append, not_or] at fresh
    rw [List.cons_append, since, if_neg, ih fresh.2]
    intro found
    obtain ⟨issue, issued, rfl⟩ := Option.map_eq_some_iff.mp found
    exact fresh.1 (by simpa [receipts, issues] using ⟨issue.2, issued⟩)

/-- A verdict counts only if there was none before. -/
theorem fate_append (mem : receipt ∈ receipts journal) :
    fate receipt (journal ++ entries) =
      (fate receipt journal).or (entries.findSome? (Entry.verdict? receipt.id)) := by
  rw [fate, since_append_of_mem mem, List.findSome?_append, fate]

/-- To give a command up is a verdict, which counts if there was none before. -/
theorem fate_abandoned (mem : receipt ∈ receipts journal) (failure : Failure) :
    fate receipt (journal ++ .performed (.abandon receipt.id failure) :: entries) =
      (fate receipt journal).or (some (.error failure)) := by
  rw [fate_append mem, List.findSome?_cons, Entry.verdict?, if_pos rfl]

/-- A command that has just been issued has no fate yet. -/
theorem fate_issued (fresh : receipt ∉ receipts (journal ++ entries)) (command : Command)
    (data : Bytes) :
    fate receipt (journal ++ (entries ++ [.issued receipt command data])) = none := by
  rw [fate, ← List.append_assoc, since_append_of_not_mem fresh]
  simp [since, Entry.issue?]

/-- What an entry says that gives a verdict on one id. -/
theorem findSome_verdict {entry : Entry} {id : UInt32} {outcome : Except Failure Bytes}
    (verdict : ∀ other, entry.verdict? other = if id = other then some outcome else none)
    (other : UInt32) :
    [entry].findSome? (Entry.verdict? other) = if other == id then some outcome else none := by
  rw [List.findSome?_singleton, verdict]
  by_cases same : id = other
  · rw [if_pos same, if_pos (beq_iff_eq.mpr same.symm)]
  · rw [if_neg same, if_neg fun eq => same (eq_of_beq eq).symm]

/-- What was decided stays decided. -/
theorem fate_of_decided {outcome : Except Failure Bytes} (mem : receipt ∈ receipts journal)
    (decided : fate receipt journal = some outcome) :
    fate receipt (journal ++ entries) = some outcome := by
  rw [fate_append mem, decided, Option.some_or]

end DebugLink
