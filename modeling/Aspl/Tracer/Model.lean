import Aspl.CoreAudio

/-! `Tracer`: the calls that begin or end an operation or log a message on one thread, the
counters of the thread, and the lines that are passed to `Print()`.
-/

namespace Aspl

open CoreAudio

inductive Tracer.Mode where
  | noop
  | stderr
  | syslog
  | custom
deriving DecidableEq

inductive Tracer.Style where
  | hierarchical
  | flat
deriving DecidableEq

structure Tracer.PropertyAddress where
  selector : UInt32
  scope : AudioObjectPropertyScope
  element : UInt32
deriving DecidableEq

/-- `Tracer::Operation`. A pointer is what it points to, or `none` if it is null. -/
structure Tracer.Operation where
  name : String
  flags : UInt32 := 0
  objectID : AudioObjectID := 0
  clientPID : Int32 := 0
  propertyAddress : Option Tracer.PropertyAddress := none
  qualifierDataSize : UInt32 := 0
  qualifierData : Option (List UInt8) := none
  inDataSize : UInt32 := 0
  inData : Option (List UInt8) := none
  outDataSize : Option UInt32 := none
  outData : Option (List UInt8) := none
deriving DecidableEq

/-- A tracer: its mode and style, the texts of `Strings.hpp`, and the answers of `ShouldIgnore()`,
which a subclass chooses.
-/
structure Tracer where
  mode : Tracer.Mode
  style : Tracer.Style
  propertySelectorToString : UInt32 → String
  propertyScopeToString : AudioObjectPropertyScope → String
  statusToString : Int32 → String
  shouldIgnore : Tracer.Operation → Bool

namespace Tracer

/-- The status of success. -/
def kAudioHardwareNoError : Int32 := 0

def depthSoftLimit : UInt32 := 10

def depthHardLimit : UInt32 := 1000

def maxMessageLen : Nat := 1024

/-- The counters of one thread. -/
structure ThreadLocalState where
  depthCounter : UInt32 := 0
  ignoreCounter : UInt32 := 0
deriving DecidableEq

/-- A text as the bytes of a `std::string`, since `vsnprintf()` may end it within a character. -/
abbrev Bytes := List UInt8

/-- The bytes of a text in UTF-8. -/
def bytes (text : String) : Bytes := text.toList.flatMap String.utf8EncodeChar

/-- The calls that a thread makes. A message is the text that its format expands to. -/
inductive Call where
  | operationBegin (operation : Operation)
  | message (text : Bytes)
  | operationEnd (operation : Operation) (status : Int32)
deriving DecidableEq

/-- The indentation of a line, in the hierarchical style only. -/
def indent (tracer : Tracer) (dashes : Nat) : String :=
  match tracer.style with
  | .hierarchical => "|".pushn '-' dashes ++ " "
  | .flat => ""

/-- The depth that a line shows, which does not grow past the soft limit. -/
def shownDepth (depth : UInt32) : UInt32 :=
  if depthSoftLimit < depth then depthSoftLimit else depth

/-- `Tracer::FormatOperationBegin()`. -/
def formatOperationBegin (tracer : Tracer) (op : Operation) (depth : UInt32) : Bytes :=
  bytes <|
  tracer.indent (shownDepth depth).toNat
  ++ op.name ++ " begin"
  ++ (op.propertyAddress.elim "" fun address =>
      " " ++ tracer.propertySelectorToString address.selector)
  ++ (if op.clientPID ≠ 0 then " clientPID=" ++ toString op.clientPID else "")
  ++ " objectID=" ++ toString op.objectID
  ++ (op.propertyAddress.elim "" fun address =>
      " scope=" ++ tracer.propertyScopeToString address.scope)
  ++ (if op.inDataSize ≠ 0 ∨ op.inData.isSome then " inSize=" ++ toString op.inDataSize else "")
  ++ (if op.qualifierDataSize ≠ 0 ∨ op.qualifierData.isSome then
        " qualSize=" ++ toString op.qualifierDataSize
      else "")

/-- `Tracer::FormatMessage()`: a message is indented one step more than its operation. -/
def formatMessage (tracer : Tracer) (message : Bytes) (depth : UInt32) : Bytes :=
  bytes (tracer.indent ((shownDepth depth).toNat + 1)) ++ message

/-- `Tracer::FormatOperationEnd()`. -/
def formatOperationEnd (tracer : Tracer) (op : Operation) (status : Int32) (depth : UInt32)
    : Bytes :=
  bytes <|
  tracer.indent (shownDepth depth).toNat
  ++ op.name ++ " end"
  ++ " status=" ++ tracer.statusToString status
  ++ (match op.outDataSize with
      | some size =>
          if status = kAudioHardwareNoError then " outSize=" ++ toString size else ""
      | none => "")

/-- The bytes that `vsnprintf()` leaves in a buffer of `MaxMessageLen` before its terminator. -/
def truncate (text : Bytes) : Bytes := text.take (maxMessageLen - 1)

/-- Printed where `OperationBegin()` finds the depth at the hard limit. -/
def recursionWarning : Bytes :=
  bytes "Tracer: detected unpaired OperationBegin/OperationEnd or infinite recursion"

/-- Printed where `OperationEnd()` finds the depth at zero. -/
def unpairedWarning : Bytes := bytes "Tracer: detected unpaired OperationBegin/OperationEnd"

/-- The thread is in an ignored operation. -/
def ThreadLocalState.isIgnoring (state : ThreadLocalState) : Bool :=
  state.ignoreCounter ≠ 0 && state.ignoreCounter ≤ state.depthCounter

/-- `Tracer::OperationBegin()`, with the lines it prints. -/
def operationBegin (tracer : Tracer) (op : Operation) (state : ThreadLocalState)
    : ThreadLocalState × List Bytes :=
  if tracer.mode = .noop then (state, [])
  else
    let below := state.depthCounter < depthHardLimit
    let deeper :=
      if below then { state with depthCounter := state.depthCounter + 1 } else state
    let warnings := if below then [] else [recursionWarning]
    if deeper.isIgnoring then (deeper, warnings)
    else if tracer.shouldIgnore op then
      ({ deeper with ignoreCounter := deeper.depthCounter }, warnings)
    else (deeper, warnings ++ [tracer.formatOperationBegin op deeper.depthCounter])

/-- `Tracer::Message()`. -/
def message (tracer : Tracer) (text : Bytes) (state : ThreadLocalState)
    : ThreadLocalState × List Bytes :=
  if tracer.mode = .noop then (state, [])
  else if state.isIgnoring then (state, [])
  else (state, [tracer.formatMessage (truncate text) state.depthCounter])

/-- `Tracer::OperationEnd()`. -/
def operationEnd (tracer : Tracer) (op : Operation) (status : Int32) (state : ThreadLocalState)
    : ThreadLocalState × List Bytes :=
  if tracer.mode = .noop then (state, [])
  else if state.isIgnoring then
    let ignoreCounter :=
      if state.depthCounter = state.ignoreCounter then 0 else state.ignoreCounter
    ({ depthCounter := state.depthCounter - 1, ignoreCounter }, [])
  else
    let line := tracer.formatOperationEnd op status state.depthCounter
    if state.depthCounter ≠ 0 then
      ({ state with depthCounter := state.depthCounter - 1 }, [line])
    else (state, [line, unpairedWarning])

/-- One call of a thread. -/
def perform (tracer : Tracer) (state : ThreadLocalState)
    : Call → ThreadLocalState × List Bytes
  | .operationBegin op => tracer.operationBegin op state
  | .message text => tracer.message text state
  | .operationEnd op status => tracer.operationEnd op status state

/-- The calls of a thread in order, with all lines they print. -/
def run (tracer : Tracer) : ThreadLocalState → List Call → ThreadLocalState × List Bytes
  | state, [] => (state, [])
  | state, call :: rest =>
      let first := tracer.perform state call
      let later := tracer.run first.1 rest
      (later.1, first.2 ++ later.2)

end Tracer

end Aspl
