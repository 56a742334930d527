import Mathlib.Data.List.Basic

/-! Byte-level framing: the v1 and v2 line parsers of command_parser.cpp and v2_parser.cpp,
and of protocol.cpp the detector of the exact ID-less `stop` line, the one pending v1 command
and the v2 request envelope.
A C string is the list of its bytes before the terminating NUL; a fixed buffer is
the list of the bytes written to it, and the length checks of the source bound it. -/

namespace CaseSorter.Firmware

abbrev Bytes := List UInt8

def ascii (s : String) : Bytes := s.toList.map fun c => UInt8.ofNat c.toNat

def lineFeed : UInt8 := 10
def carriageReturn : UInt8 := 13
def space : UInt8 := 32
def atSign : UInt8 := 64

def isDigit (b : UInt8) : Bool := 48 ≤ b && b ≤ 57

def digitValue (b : UInt8) : Nat := b.toNat - 48

def isPrintable (b : UInt8) : Bool := 32 ≤ b && b ≤ 126

def commandMaxLength : Nat := 40

inductive FrameResult
  | noFrame
  | frameReady
  | frameOverflow
  | frameInvalid
  deriving DecidableEq, Repr

structure CommandParser where
  buffer : Bytes
  overflowed : Bool
  invalid : Bool
  pendingCarriageReturn : Bool
  deriving DecidableEq, Repr

namespace CommandParser

def reset : CommandParser := ⟨[], false, false, false⟩

def append (p : CommandParser) (byte : UInt8) : CommandParser :=
  if p.buffer.length = commandMaxLength then { p with overflowed := true }
  else { p with buffer := p.buffer ++ [byte] }

def consume (p : CommandParser) (byte : UInt8) : CommandParser × FrameResult :=
  if p.overflowed then
    if byte = lineFeed then (reset, .frameOverflow) else (p, .noFrame)
  else if p.invalid then
    if byte = lineFeed then (reset, .frameInvalid) else (p, .noFrame)
  else if byte = lineFeed then ({ p with pendingCarriageReturn := false }, .frameReady)
  else
    let p := if p.pendingCarriageReturn then
        { p.append carriageReturn with pendingCarriageReturn := false }
      else p
    if p.overflowed then (p, .noFrame)
    else if byte = carriageReturn then ({ p with pendingCarriageReturn := true }, .noFrame)
    else if byte = 0 then ({ p with invalid := true }, .noFrame)
    else (p.append byte, .noFrame)

end CommandParser

/-- `PendingCommand`: the stored line, or `none` when it is not available. -/
structure PendingCommand where
  stored : Option Bytes
  deriving DecidableEq, Repr

namespace PendingCommand

def empty : PendingCommand := ⟨none⟩

def available (p : PendingCommand) : Bool := p.stored.isSome

def frame (p : PendingCommand) : Bytes := p.stored.getD []

def enqueue (p : PendingCommand) (frame : Bytes) : PendingCommand × Bool :=
  if p.available || commandMaxLength < frame.length then (p, false) else (⟨some frame⟩, true)

end PendingCommand

def v2MaxLineLength : Nat := 64

structure V2FrameParser where
  buffer : Bytes
  discardedResult : FrameResult
  pendingCarriageReturn : Bool
  deriving DecidableEq, Repr

namespace V2FrameParser

def reset : V2FrameParser := ⟨[], .noFrame, false⟩

def discard (p : V2FrameParser) (result : FrameResult) : V2FrameParser :=
  { p with discardedResult := result, pendingCarriageReturn := false }

def consume (p : V2FrameParser) (byte : UInt8) : V2FrameParser × FrameResult :=
  if p.discardedResult ≠ .noFrame then
    if byte = lineFeed then (reset, p.discardedResult) else (p, .noFrame)
  else if byte = lineFeed then ({ p with pendingCarriageReturn := false }, .frameReady)
  else if p.pendingCarriageReturn then (p.discard .frameInvalid, .noFrame)
  else if byte = carriageReturn then ({ p with pendingCarriageReturn := true }, .noFrame)
  else if !isPrintable byte then (p.discard .frameInvalid, .noFrame)
  else if p.buffer.length = v2MaxLineLength then (p.discard .frameOverflow, .noFrame)
  else ({ p with buffer := p.buffer ++ [byte] }, .noFrame)

end V2FrameParser

/-- States 0 to 4 count the matched bytes of `stop`, 5 is `stop` and one CR, 6 any
other line. -/
structure RawStopLineDetector where
  state : Nat
  deriving DecidableEq, Repr

namespace RawStopLineDetector

def reset : RawStopLineDetector := ⟨0⟩

def matchesNext (d : RawStopLineDetector) (byte : UInt8) : Bool :=
  (d.state = 0 ∧ byte = 115) ∨ (d.state = 1 ∧ byte = 116) ∨
    (d.state = 2 ∧ byte = 111) ∨ (d.state = 3 ∧ byte = 112)

def consume (d : RawStopLineDetector) (byte : UInt8) : RawStopLineDetector × Bool :=
  if d.state = 5 then (reset, byte = lineFeed)
  else if byte = lineFeed then (reset, d.state = 4)
  else if d.state = 4 ∧ byte = carriageReturn then (⟨5⟩, false)
  else if d.matchesNext byte then (⟨d.state + 1⟩, false)
  else (⟨6⟩, false)

end RawStopLineDetector

structure V2RequestEnvelope where
  requestId : Nat
  payload : Bytes
  explicitId : Bool
  deriving DecidableEq, Repr

inductive V2EnvelopeStatus
  | ready (envelope : V2RequestEnvelope)
  | badFrame
  | badId
  deriving DecidableEq, Repr

/-- The digits after `@`: their value and the bytes after them, or `none` as soon as
the value passes 65535. -/
def envelopeId : Bytes → Nat → Option (Nat × Bytes)
  | [], value => some (value, [])
  | b :: rest, value =>
    if isDigit b then
      let value := value * 10 + digitValue b
      if 65535 < value then none else envelopeId rest value
    else some (value, b :: rest)

def parseV2RequestEnvelope (frame : Bytes) : V2EnvelopeStatus :=
  if frame.length = 0 ∨ v2MaxLineLength < frame.length then .badFrame
  else if !frame.all isPrintable then .badFrame
  else if frame.head? ≠ some atSign then
    if frame.head? = some space ∨ frame.getLast? = some space then .badFrame
    else .ready ⟨0, frame, false⟩
  else
    match envelopeId frame.tail 0 with
    | none => .badId
    | some (value, rest) =>
      if rest.length = frame.tail.length ∨ value = 0 ∨ rest.head? ≠ some space then .badId
      else
        let payload := rest.tail
        if payload = [] ∨ payload.head? = some space ∨
          frame.getLast? = some space then .badFrame
        else .ready ⟨value, payload, true⟩

end CaseSorter.Firmware
