-- Everything that can stop a resolution: a failure of the name or import itself, or a fault
-- of the machine and its files.

import SourceNames.Failure
import SourceNames.Disk.Host
import SourceNames.Json.Reader
import SourceNames.Text.Utf8

namespace SourceNames

/-- What stopped a resolution. A failure may have a cause, the failure it was told instead
of; the other faults come from files, their contents, and values out of range. -/
inductive Fault
  | failed (failure : Failure) (cause : Option Failure)
  | system (call : CallFault)
  | notUtf8 (fault : Utf8Fault)
  | notJson (fault : JsonFault)
  | notObject (kind : String)
  | yearOutOfRange (year : Int)
  | noRoot
  | rootMissing (root : Path)
  | noCapacity (capacity : Int)
  | linkLoop (path : Path)
  deriving DecidableEq, Repr

/-- A failure without a cause. -/
def Fault.of (f : Failure) : Fault := .failed f none

def Fault.label : Fault → String
  | .failed failure _ => failure.label
  | .system call => call.fault.label
  | .notUtf8 _ => "UnicodeDecodeError"
  | .notJson _ => "JSONDecodeError"
  | .notObject _ => "AttributeError"
  | .yearOutOfRange _ => "ValueError"
  | .noRoot => "TypeError"
  | .rootMissing _ => "ValueError"
  | .noCapacity _ => "ValueError"
  | .linkLoop _ => "RuntimeError"

def Fault.message : Fault → String
  | .failed failure _ => failure.message
  | .system call => call.message
  | .notUtf8 fault => fault.message
  | .notJson fault => fault.message
  | .notObject kind => s!"'{kind}' object has no attribute 'get'"
  | .yearOutOfRange year => s!"year {year} is out of range"
  | .noRoot => "expected str, bytes or os.PathLike object, not list"
  | .rootMissing root => s!"Root path does not exist: {root.text}"
  | .noCapacity capacity => s!"max_entries must be positive, got {capacity}"
  | .linkLoop path => s!"Symlink loop from {quoted path.text}"

/-- How a fault is to be met: as a resolution that failed, as something wrong with the
machine or its files, or not at all. -/
inductive FaultClass
  | resolution
  | environment
  | unforeseen
  deriving DecidableEq, Repr

def Fault.class : Fault → FaultClass
  | .failed _ _ => .resolution
  | .notObject _ | .linkLoop _ | .noRoot => .unforeseen
  | _ => .environment

/-- A question to the machine, its failed call a fault. -/
def onSystem {α : Type} (answer : Except CallFault α) : Except Fault α :=
  match answer with
  | .ok a => .ok a
  | .error call => .error (.system call)

end SourceNames
