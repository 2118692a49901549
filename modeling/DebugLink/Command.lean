import DebugLink.Packet

/-!
# Command: the commands the engine knows by number

A command is named by the number of its set and its number within the set. The engine itself sends
commands to the virtual machine as a whole and to single threads; of the others it only has to know
which ones let the debuggee run (`Command.resumes`).
-/

namespace DebugLink

/-- A command by its two numbers. -/
structure Command where
  set : UInt8
  number : UInt8
  deriving DecidableEq, Repr

/-- What a command packet asks for. -/
def CommandPacket.asks (packet : CommandPacket) : Command :=
  ⟨packet.commandSet, packet.command⟩

namespace Command

/-- The set of commands to the virtual machine. -/
def virtualMachine : UInt8 := 1

/-- The set of commands to a thread. -/
def threadReference : UInt8 := 11

/-- The set of the commands that the debuggee sends. -/
def events : UInt8 := 64

def version : Command := ⟨virtualMachine, 1⟩
def dispose : Command := ⟨virtualMachine, 6⟩
def idSizes : Command := ⟨virtualMachine, 7⟩
def suspend : Command := ⟨virtualMachine, 8⟩
def resume : Command := ⟨virtualMachine, 9⟩
def exit : Command := ⟨virtualMachine, 10⟩
def disposeObjects : Command := ⟨virtualMachine, 14⟩
def holdEvents : Command := ⟨virtualMachine, 15⟩
def releaseEvents : Command := ⟨virtualMachine, 16⟩
def redefineClasses : Command := ⟨virtualMachine, 18⟩
def invokeClassMethod : Command := ⟨3, 3⟩
def newInstance : Command := ⟨3, 4⟩
def invokeInterfaceMethod : Command := ⟨5, 1⟩
def invokeMethod : Command := ⟨9, 6⟩
def suspendThread : Command := ⟨threadReference, 2⟩
def resumeThread : Command := ⟨threadReference, 3⟩
def popFrames : Command := ⟨16, 4⟩

/-- The commands that let the debuggee run, or may. -/
def resuming : List Command :=
  [resume, redefineClasses, invokeClassMethod, newInstance, invokeInterfaceMethod, invokeMethod,
    resumeThread, popFrames]

/-- Whether a command lets the debuggee run. -/
def resumes (command : Command) : Bool :=
  resuming.contains command

end Command

/-- The suspend policy of an event that stopped every thread. -/
def suspendAllPolicy : UInt8 := 2

end DebugLink
