import Mathlib.Data.List.DropRight

/-! The host's parsers and formatters for protocol v2: parsing.py, crc.py, errors.py and the
field readers of models.py. A Python string is the list of its code points; a dictionary is the
list of its items in the order of their insertion. -/

namespace CaseSorter.Host

abbrev Text := List Char

inductive ProtocolError
  | parse (message : String)
  | crc (message : String)
  deriving DecidableEq, Repr

/-- `str.isspace` of one character. -/
def isSpace (c : Char) : Bool :=
  (9 ≤ c.toNat && c.toNat ≤ 13) || (28 ≤ c.toNat && c.toNat ≤ 32) || c.toNat = 0x85 ||
    c.toNat = 0xA0 || c.toNat = 0x1680 || (0x2000 ≤ c.toNat && c.toNat ≤ 0x200A) ||
    c.toNat = 0x2028 || c.toNat = 0x2029 || c.toNat = 0x202F || c.toNat = 0x205F ||
    c.toNat = 0x3000

def strip (t : Text) : Text := (t.dropWhile isSpace).rdropWhile isSpace

def isAscii (t : Text) : Bool := t.all fun c => c.toNat < 128

def isPrintable (c : Char) : Bool := 0x20 ≤ c.toNat && c.toNat ≤ 0x7E

def isDigit (c : Char) : Bool := '0'.toNat ≤ c.toNat && c.toNat ≤ '9'.toNat

def isLetter (c : Char) : Bool :=
  ('A'.toNat ≤ c.toNat && c.toNat ≤ 'Z'.toNat) ||
    ('a'.toNat ≤ c.toNat && c.toNat ≤ 'z'.toNat)

/-- `repr` of a string of printable ASCII characters. -/
def repr (t : Text) : String :=
  let quote := if t.contains '\'' && !t.contains '"' then '"' else '\''
  let inner := t.flatMap fun c => if c = quote || c = '\\' then ['\\', c] else [c]
  String.ofList (quote :: inner ++ [quote])

/-- `int` of a string of decimal digits. -/
def int (digits : Text) : Nat := Nat.ofDigitChars 10 digits 0

def crcBit (crc : Nat) : Nat :=
  if crc &&& 0x8000 ≠ 0 then ((crc <<< 1) ^^^ 0x1021) &&& 0xFFFF else (crc <<< 1) &&& 0xFFFF

def crcByte (crc : Nat) (byte : Nat) : Nat :=
  (List.range 8).foldl (fun crc _ => crcBit crc) (crc ^^^ (byte <<< 8))

def crc16CcittFalse (t : Text) : Nat := (t.map Char.toNat).foldl crcByte 0xFFFF

def hexDigit (n : Nat) : Char := if n < 10 then Char.ofNat (48 + n) else Char.ofNat (55 + n)

def formatCrc (t : Text) : Text :=
  let crc := crc16CcittFalse t
  [hexDigit (crc / 4096 % 16), hexDigit (crc / 256 % 16), hexDigit (crc / 16 % 16),
    hexDigit (crc % 16)]

def appendCrc (frame : Text) : Except ProtocolError Text :=
  if isAscii frame then .ok (frame ++ '*' :: formatCrc frame)
  else .error (.parse "CRC frame must be ASCII")

/-- `frame.rpartition("*")` of a frame that holds one: what stands before the last. -/
def beforeStar (frame : Text) : Text :=
  (frame.reverse.dropWhile fun c => c ≠ '*').tail.reverse

def afterStar (frame : Text) : Text := (frame.reverse.takeWhile fun c => c ≠ '*').reverse

def isHexDigit (c : Char) : Bool := isDigit c || ('A'.toNat ≤ c.toNat && c.toNat ≤ 'F'.toNat)

def removeAndVerifyCrc (frame : Text) (required : Bool) : Except ProtocolError Text :=
  if !frame.contains '*' then
    if required then .error (.crc "CRC required but absent") else .ok frame
  else if !required then .error (.crc "CRC present while CRC is disabled")
  else
    let body := beforeStar frame
    let supplied := afterStar frame
    if supplied.length ≠ 4 || !supplied.all isHexDigit then .error (.crc "invalid CRC suffix")
    else if !isAscii body then .error (.crc "CRC frame must be ASCII")
    else if supplied ≠ formatCrc body then
      .error
        (.crc s!"bad CRC: expected {String.ofList (formatCrc body)}, got {String.ofList supplied}")
    else .ok body

def isUint (value : Text) : Bool :=
  value = ['0'] ||
    (value.head?.any (fun c => isDigit c && c ≠ '0') && value.all isDigit)

def uint (value : Text) (name : String) (minimum : Nat) (maximum : Option Nat) :
    Except ProtocolError Nat :=
  if !isUint value then .error (.parse s!"{name} must be an unsigned decimal integer")
  else if int value < minimum || maximum.any (fun m => m < int value) then
    .error (.parse s!"{name} is out of range")
  else .ok (int value)

def bit (value : Text) (name : String) : Except ProtocolError Bool :=
  if value ≠ ['0'] && value ≠ ['1'] then .error (.parse s!"{name} must be 0 or 1")
  else .ok (value = ['1'])

inductive ResponseKind
  | accepted
  | progress
  | data
  | done
  | error
  deriving DecidableEq, Repr

inductive EventKind
  | state
  | fault
  | reject
  deriving DecidableEq, Repr

abbrev Fields := List (Text × Text)

structure Response where
  requestId : Nat
  kind : ResponseKind
  fields : Fields := []
  code : Option Nat := none
  name : Option Text := none
  deriving DecidableEq, Repr

structure Event where
  sequence : Nat
  kind : EventKind
  fields : Fields := []
  code : Option Nat := none
  name : Option Text := none
  deriving DecidableEq, Repr

/-- `[A-Za-z][A-Za-z0-9_]*`. -/
def isName (t : Text) : Bool :=
  t.head?.any isLetter && t.all fun c => isLetter c || isDigit c || c = '_'

/-- The two parts of a token around its only `=`. -/
def splitField (token : Text) : Text × Text :=
  (token.takeWhile (· ≠ '='), (token.dropWhile (· ≠ '=')).tail)

def parseField (fields : Fields) (token : Text) : Except ProtocolError Fields :=
  if token.count '=' ≠ 1 then .error (.parse "expected key=value fields")
  else
    let (key, value) := splitField token
    if !isName key || value = [] || value.any isSpace then
      .error (.parse "invalid key=value field")
    else if fields.any (fun f => f.1 = key) then
      .error (.parse s!"duplicate field {String.ofList key}")
    else .ok (fields ++ [(key, value)])

def parseFields (text : Text) : Except ProtocolError Fields :=
  if text = [] then .ok [] else (text.splitOn ' ').foldlM parseField []

/-- `text.split(" ", 1)`: the head, and what stands after the first space. -/
def splitHead (text : Text) : Text × Text :=
  (text.takeWhile (· ≠ ' '), (text.dropWhile (· ≠ ' ')).tail)

/-- `_error`: the code, the name and the fields of an error, a fault or a rejection. -/
def errorForm (text : Text) : Except ProtocolError (Nat × Text × Fields) :=
  let (head, rest) := splitHead text
  match head.splitOn ':' with
  | [form, code, name] =>
    if (form ≠ "error".toList && form ≠ "fault".toList && form ≠ "reject".toList) ||
      !isName name then
      .error (.parse "invalid error/fault form")
    else do
      let value ← uint code "error code" 1 (some 65535)
      let fields ← parseFields rest
      return (value, name, fields)
  | _ => .error (.parse "invalid error/fault form")

def nonemptyFields (text : Text) : Except ProtocolError Fields :=
  if text = [] then .error (.parse "expected non-empty key=value fields") else parseFields text

def responseBody (requestId : Nat) (body : Text) : Except ProtocolError Response :=
  if body = "accepted".toList then .ok { requestId, kind := .accepted }
  else if "accepted:".toList.isPrefixOf body then
    (nonemptyFields (body.drop 9)).map fun fields => { requestId, kind := .accepted, fields }
  else if "progress:".toList.isPrefixOf body then
    (nonemptyFields (body.drop 9)).map fun fields => { requestId, kind := .progress, fields }
  else if "data:".toList.isPrefixOf body then
    (nonemptyFields (body.drop 5)).map fun fields => { requestId, kind := .data, fields }
  else if "done:".toList.isPrefixOf body then
    (nonemptyFields (body.drop 5)).map fun fields => { requestId, kind := .done, fields }
  else if body = "done".toList then .ok { requestId, kind := .done }
  else if "error:".toList.isPrefixOf body then
    (errorForm body).map fun (code, name, fields) =>
      { requestId, kind := .error, fields, code := some code, name := some name }
  else .error (.parse s!"unknown v2 response terminal/form: {repr body}")

/-- The number after the mark and the text after it, `@([0-9]+) (.+)`: both are there. -/
def numbered (body : Text) : Option (Text × Text) :=
  let digits := body.tail.takeWhile isDigit
  match body.tail.dropWhile isDigit with
  | ' ' :: rest => if digits = [] || rest = [] then none else some (digits, rest)
  | _ => none

def eventBody (sequence : Nat) (body event : Text) : Except ProtocolError Event :=
  if "state:".toList.isPrefixOf event then
    (nonemptyFields (event.drop 6)).map fun fields => { sequence, kind := .state, fields }
  else if "fault:".toList.isPrefixOf event || "reject:".toList.isPrefixOf event then
    (errorForm event).map fun (code, name, fields) =>
      { sequence, kind := if "fault:".toList.isPrefixOf event then .fault else .reject, fields
        code := some code, name := some name }
  else .error (.parse s!"unknown v2 frame form: {repr body}")

inductive Parsed
  | response (r : Response)
  | event (e : Event)
  | stopped
  deriving DecidableEq, Repr

def parseBody (body : Text) : Except ProtocolError Parsed :=
  if body.head? = some '@' then
    match numbered body with
    | none => .error (.parse "invalid correlated response")
    | some (digits, rest) => do
      let requestId ← uint digits "response id" 0 (some 65535)
      return .response (← responseBody requestId rest)
  else if body.head? = some '!' then
    match numbered body with
    | none => .error (.parse "invalid event")
    | some (digits, rest) => do
      let sequence ← uint digits "event sequence" 1 (some 65535)
      return .event (← eventBody sequence body rest)
  else .error (.parse s!"unknown v2 frame form: {repr body}")

/-- Parse a v2 response/event, or the sole permitted unframed `stopped` line. -/
def parseV2Line (line : Text) (crcRequired : Bool) : Except ProtocolError Parsed :=
  if !isAscii line then .error (.parse "invalid v2 frame bytes")
  else if line = [] || 64 < line.length || !line.all isPrintable then
    .error (.parse "invalid v2 frame bytes")
  else if line = "stopped".toList then .ok .stopped
  else removeAndVerifyCrc line crcRequired >>= parseBody

/-- Format a validated correlated v2 request. -/
def formatRequest (requestId : Nat) (command : Text) (crc : Bool) : Except ProtocolError Text :=
  if requestId < 1 || 65535 < requestId then .error (.parse "request ID must be 1..65535")
  else if command = [] || command ≠ strip command || command.contains '*' ||
      !command.all isPrintable then .error (.parse "invalid command whitespace")
  else
    let frame := '@' :: (toString requestId).toList ++ ' ' :: command
    if !isAscii frame then .error (.parse "v2 request must be ASCII")
    else
      (if crc then appendCrc frame else .ok frame) >>= fun formatted =>
        if 64 < formatted.length then .error (.parse "v2 request exceeds 64 bytes")
        else .ok formatted

end CaseSorter.Host
