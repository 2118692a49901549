import DebugLink.Packet

/-!
# Config: the settings of a connection

`Config.validate` refuses settings that no connection can run with; of several faults it reports
the first in the order of the checks.
-/

namespace DebugLink

/-- The settings of a connection. Sizes and counts are below `2 ^ 64`. -/
structure Config where
  /-- How many dropped objects are collected before they are disposed of. -/
  disposeThreshold : Nat := 50
  /-- Above this queue depth the debuggee is asked to hold events. -/
  highWatermark : Nat := 10000
  /-- Below this queue depth held events are released. -/
  lowWatermark : Nat := 100
  /-- How many continuations run at once. -/
  workers : Nat := 4
  /-- The largest packet that is read, ten mebibytes unless set. -/
  maxPacketSize : Nat := 10 * 1024 * 1024
  /-- The identifier widths until the debuggee reports its own. -/
  idSizes : IdSizes := IdSizes.initial
  deriving DecidableEq, Repr

/-- Whether a connection can run with the settings. -/
def Config.validate (config : Config) : Except ConfigFault Unit :=
  if config.disposeThreshold = 0 then .error .noDisposeThreshold
  else if config.lowWatermark ≥ config.highWatermark then
    .error (.watermarksCrossed config.lowWatermark config.highWatermark)
  else if config.workers = 0 then .error .noWorkers
  else if config.maxPacketSize < headerLength then
    .error (.packetSizeBelowHeader config.maxPacketSize)
  else .ok ()

end DebugLink
