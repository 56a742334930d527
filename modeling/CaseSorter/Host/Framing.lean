import CaseSorter.Host.Parsing

/-! framing.py: the line reader of the host. Nothing in the source appends to `_pending`, so
what is kept between two calls is the partial line and the reason to discard it. -/

namespace CaseSorter.Host

inductive DiscardReason
  | bareCarriageReturn
  | nonPrintable
  | tooLong (limit : Nat)
  deriving DecidableEq, Repr

def DiscardReason.message : DiscardReason → String
  | .bareCarriageReturn => "bare CR in v2 line"
  | .nonPrintable => "invalid non-printable v2 byte"
  | .tooLong limit => s!"line exceeds {limit} bytes"

inductive FramingError
  | discarded (reason : DiscardReason)
  | nonAscii
  deriving DecidableEq, Repr

def FramingError.message : FramingError → String
  | .discarded reason => reason.message
  | .nonAscii => "non-ASCII protocol line"

/-- `decode("ascii")`. -/
def decodeAscii (payload : List UInt8) : Except FramingError Text :=
  if payload.all fun b => b < 128 then .ok (payload.map fun b => Char.ofNat b.toNat)
  else .error .nonAscii

structure LineReader where
  v1Limit : Nat
  v2Limit : Nat
  line : List UInt8
  discardedReason : Option DiscardReason
  deriving DecidableEq, Repr

namespace LineReader

def initial : LineReader := ⟨4096, 64, [], none⟩

def clear (r : LineReader) : LineReader := { r with line := [], discardedReason := none }

def limit (r : LineReader) (v2 : Bool) : Nat := if v2 then r.v2Limit else r.v1Limit

def payload (r : LineReader) : List UInt8 :=
  if r.line.getLast? = some 13 then r.line.dropLast else r.line

def append (r : LineReader) (byte : UInt8) (v2 : Bool) : LineReader :=
  if v2 && r.line.getLast? = some 13 then
    { r with discardedReason := some .bareCarriageReturn }
  else if v2 && byte ≠ 13 && (byte < 32 || 126 < byte) then
    { r with discardedReason := some .nonPrintable }
  else if r.limit v2 ≤ r.line.length && (!v2 || byte ≠ 13) then
    { r with discardedReason := some (.tooLong (r.limit v2)) }
  else { r with line := r.line ++ [byte] }

/-- One turn of the `for` loop, and what `read_line` returns or raises at a line feed. -/
def consume (r : LineReader) (byte : UInt8) (v2 : Bool) :
    LineReader × Option (Except FramingError Text) :=
  if byte = 10 then
    match r.discardedReason with
    | some reason => (r.clear, some (.error (.discarded reason)))
    | none => ({ r with line := [] }, some (decodeAscii r.payload))
  else if r.discardedReason.isSome then (r, none)
  else (r.append byte v2, none)

/-- `read_line` on the bytes that arrive before its deadline: the reader, the bytes that are
left, and the result, or nothing when it times out. -/
def readLine (r : LineReader) (v2 : Bool) :
    List UInt8 → LineReader × List UInt8 × Option (Except FramingError Text)
  | [] => (r, [], none)
  | byte :: rest =>
    match r.consume byte v2 with
    | (r, some result) => (r, rest, some result)
    | (r, none) => r.readLine v2 rest

end LineReader

end CaseSorter.Host
