import DebugLink.Event
import DebugLink.FlowControl

/-!
# EventFeed: event batches handed out to subscriptions

Every subscription has a queue of its own, from which it receives the batches that were published
since it was made, in order. When the feed is closed each queue gets one last delivery that says
so, and a subscription that is made later gets only that one.

A subscription's depth is the number of batches published to it and not yet received. The feed
applies the watermark policy of `FlowControl` to the largest depth after everything that may have
changed it: a batch, a reception, the end of a subscription.
-/

namespace DebugLink

/-- What a subscription receives. -/
inductive Delivery
  | events (batch : EventBatch)
  /-- The connection is gone; nothing follows. -/
  | disconnected
  deriving DecidableEq, Repr

/-- The identity of a subscription. -/
abbrev SubscriptionId := Nat

/-- A subscription that its owner has not dropped. -/
structure Subscription where
  id : SubscriptionId
  queue : List Delivery := []
  depth : Nat := 0
  /-- Whether the feed still hands batches to it. -/
  registered : Bool := true
  deriving DecidableEq, Repr

/-- A subscription with one more batch in its queue. -/
def Subscription.push (subscription : Subscription) (batch : EventBatch) : Subscription :=
  { subscription with
    queue := subscription.queue ++ [.events batch], depth := subscription.depth + 1 }

/-- The subscriptions of a connection, in the order in which they were made. -/
structure EventFeed where
  flow : FlowControl
  subscriptions : List Subscription := []
  next : SubscriptionId := 0
  closed : Bool := false
  deriving DecidableEq, Repr

namespace EventFeed

variable (feed : EventFeed)

/-- The subscription with an identity. -/
def find? (id : SubscriptionId) : Option Subscription :=
  feed.subscriptions.find? (·.id == id)

/-- Changes the subscription with an identity. -/
def update (id : SubscriptionId) (f : Subscription → Subscription) : EventFeed :=
  { feed with subscriptions := feed.subscriptions.map fun s => if s.id = id then f s else s }

/-- The subscriptions that are handed batches. -/
def registered : List Subscription :=
  feed.subscriptions.filter (·.registered)

/-- The largest depth of a registered subscription. -/
def deepest : Nat :=
  feed.registered.foldl (fun deepest s => max deepest s.depth) 0

/-- Applies the watermark policy. -/
def applyPolicy : EventFeed :=
  { feed with flow := feed.flow.onDepth feed.deepest }

/-- Makes a subscription. -/
def subscribe : SubscriptionId × EventFeed :=
  let subscription : Subscription :=
    if feed.closed then { id := feed.next, queue := [.disconnected], registered := false }
    else { id := feed.next }
  (feed.next,
    { feed with subscriptions := feed.subscriptions ++ [subscription], next := feed.next + 1 })

/-- Hands a batch to every registered subscription. A closed feed hands out nothing. -/
def publish (batch : EventBatch) : EventFeed :=
  if feed.closed then feed
  else applyPolicy
    { feed with subscriptions := feed.subscriptions.map fun s =>
        if s.registered then s.push batch else s }

/-- Hands out the last deliveries. -/
def close : EventFeed :=
  if feed.closed then feed
  else
    { feed with
      closed := true
      subscriptions := feed.subscriptions.map fun s =>
        if s.registered then { s with queue := s.queue ++ [.disconnected], registered := false }
        else s }

/-- Takes the next delivery out of a queue. The depth does not change yet. -/
def pop (id : SubscriptionId) : Option Delivery × EventFeed :=
  match (feed.find? id).map (·.queue) with
  | some (delivery :: rest) => (some delivery, feed.update id fun s => { s with queue := rest })
  | _ => (none, feed)

/-- Takes a received batch out of a subscription's depth. The policy is not applied yet. -/
def countReceived (id : SubscriptionId) : EventFeed :=
  feed.update id fun s => { s with depth := s.depth - 1 }

/-- The next delivery of a subscription, if there is one. A received batch is taken out of the
depth, and then the policy is applied, unless nobody is left to answer for it. -/
def receive (id : SubscriptionId) (alive : Bool) : Option Delivery × EventFeed :=
  match feed.pop id with
  | (some (.events batch), feed) =>
    let feed := feed.countReceived id
    (some (.events batch), if alive then feed.applyPolicy else feed)
  | other => other

/-- Ends a subscription. The policy is applied if the feed still handed batches to it. -/
def drop (id : SubscriptionId) : EventFeed :=
  let left := { feed with subscriptions := feed.subscriptions.filter (·.id != id) }
  if (feed.find? id).any (·.registered) then left.applyPolicy else left

/-- The depth of a subscription. -/
def depth (id : SubscriptionId) : Nat :=
  ((feed.find? id).map (·.depth)).getD 0

end EventFeed

end DebugLink
