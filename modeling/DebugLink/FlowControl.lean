import DebugLink.Command

/-!
# FlowControl: asking the debuggee to hold its events

When event queues grow too deep the debuggee is asked to hold its events, and when they have
drained it is asked to release them. Between the two watermarks nothing changes.

Requests are counted, not sent: `hold` adds one to a net count, `release` takes one away, and each
stores a wake-up for the flow loop. The loop takes a wake-up, reads the count, subtracts what it
has read, and sends at most one command for it. A request that comes in between stays in the count,
and its wake-up is still there when the loop waits again.
-/

namespace DebugLink

/-- The watermark policy and the requests that have not been acted upon. -/
structure FlowControl where
  high : Nat
  low : Nat
  /-- Whether the policy holds events. -/
  held : Bool := false
  /-- Requests to hold less requests to release. -/
  net : Int32 := 0
  /-- Whether a wake-up for the loop is stored. One is all that can be. -/
  woken : Bool := false
  deriving DecidableEq, Repr

namespace FlowControl

variable (flow : FlowControl)

/-- Changes the net count, without a wake-up. -/
def bump (amount : Int32) : FlowControl :=
  { flow with net := flow.net + amount }

/-- Stores a wake-up. -/
def wake : FlowControl :=
  { flow with woken := true }

/-- Asks for events to be held. -/
def hold : FlowControl :=
  (flow.bump 1).wake

/-- Asks for events to be released. -/
def release : FlowControl :=
  (flow.bump (-1)).wake

/-- Applies the policy to the depth of the deepest queue. -/
def onDepth (depth : Nat) : FlowControl :=
  if depth > flow.high then
    if flow.held then flow else hold { flow with held := true }
  else if depth < flow.low then
    if flow.held then release { flow with held := false } else flow
  else flow

end FlowControl

/-- Where the flow loop stands between two of its steps. -/
inductive FlowLoop
  /-- It waits for a wake-up, or for the connection to be closed. -/
  | waiting
  /-- It has taken a wake-up. -/
  | awake
  /-- It has read the count. -/
  | loaded (net : Int32)
  /-- It has subtracted what it had read, which was not zero. -/
  | captured (net : Int32)
  | stopped
  deriving DecidableEq, Repr

/-- The command that a net count asks for. -/
def FlowControl.command (net : Int32) : Command :=
  if net > 0 then .holdEvents else .releaseEvents

end DebugLink
