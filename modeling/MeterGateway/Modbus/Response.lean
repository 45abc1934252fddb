import MeterGateway.Modbus.Request

/-!
Modbus RTU responses.  They carry no number of their request and are told by unit and function; the
length of one follows from its function code and, for a read, its byte count.
-/

namespace MeterGateway.Modbus

structure Response where
  unit : UInt8
  functionCode : UInt8
  payload : Bytes
  crcOk : Bool
  deriving DecidableEq

namespace Response

def leastLength : Nat := 4

/-- A wrong CRC is not an error but shown in the result. -/
def decode (bytes : Bytes) : Except CodecError Response :=
  if bytes.length < leastLength then .error (.truncated leastLength bytes.length)
  else
    match bytes with
    | unit :: functionCode :: rest =>
      let length := bytes.length - 2
      .ok {
        unit, functionCode
        payload := rest.take (rest.length - 2)
        crcOk := bytes.drop length = Checksum.crcTrailer (bytes.take length) }
    | _ => .error (.truncated leastLength bytes.length)

def isException (r : Response) : Bool := r.functionCode &&& exceptionFlag ≠ 0

def baseFunction (r : Response) : UInt8 := r.functionCode &&& 0x7F

def exceptionCode? (r : Response) : Option UInt8 := if r.isException then r.payload.head? else none

def answers (r : Response) (request : Request) : Bool :=
  r.unit = request.unit && r.baseFunction = request.function.code

def values (r : Response) : Bytes :=
  if r.isException then []
  else if isReadCode r.functionCode then r.payload.drop 1
  else r.payload

end Response

/-- The length of the response at the front of a stream: none when the function code gives none, and
unknown while the byte count is missing. -/
inductive Extent
  | unknown : Extent
  | none : Extent
  | known : Nat → Extent

def announcedLength (functionCode : UInt8) (rest : Bytes) : Extent :=
  if functionCode &&& exceptionFlag ≠ 0 then .known 5
  else if isReadCode functionCode then
    match rest with
    | [] => .unknown
    | count :: _ => .known (5 + count.toNat)
  else if isWriteCode functionCode then .known 8
  else .none

def scan (bytes : Bytes) : Scan :=
  match bytes with
  | _ :: functionCode :: rest =>
    match announcedLength functionCode rest with
    | .unknown => .incomplete
    | .none => .discard 1
    | .known total => if bytes.length < total then .incomplete else .frame total
  | _ => .incomplete

theorem announcedLength_pos {code : UInt8} {rest : Bytes} {n : Nat}
    (h : announcedLength code rest = .known n) : 5 ≤ n := by
  simp only [announcedLength] at h
  split at h
  · injection h; omega
  · split at h
    · split at h
      · injection h
      · injection h; omega
    · split at h
      · injection h; omega
      · injection h

theorem scan_fits (bytes : Bytes) : (scan bytes).Fits bytes.length := by
  unfold scan
  split
  · rename_i unit code rest
    split
    · trivial
    · simp [Scan.Fits]
    · rename_i total h
      have := announcedLength_pos h
      split
      · trivial
      · simp only [Scan.Fits]
        omega
  · trivial

end MeterGateway.Modbus
