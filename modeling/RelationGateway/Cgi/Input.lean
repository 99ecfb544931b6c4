import RelationGateway.Failure
import RelationGateway.Text.Numeral
import RelationGateway.Text.Trim

/-!
# Reading the body of a request

A body is read up to its declared length, and never more than one byte beyond the limit: that
byte tells that the limit is passed. Room for these bytes is set aside first.
-/

namespace RelationGateway.Cgi

/-- What a reader delivers: some bytes and then the end, or an error. -/
structure Source where
  /-- The bytes that can be read. -/
  bytes : List UInt8
  /-- The error that comes after them instead of the end. -/
  broken : Option String := none

/-- The declared length of a body; none, zero and what is no number declare no body. -/
def declaredLength (contentLength : Option String) : UInt64 :=
  match contentLength.bind fun s => Text.unsigned? Text.maxUnsigned64 (Text.trim s) with
  | some n => UInt64.ofNat n
  | none => 0

/-- The number of bytes to read of a body, in words of 64 bits. -/
def readLimit (declared maxBodySize : UInt64) : UInt64 := min declared (maxBodySize + 1)

/-- The body of a request. An error of the reader beyond the bytes to read is not noticed. -/
def readBody (source : Source) (contentLength : Option String) (maxBodySize : UInt64) :
    Except Failure (List UInt8) :=
  let declared := declaredLength contentLength
  if declared = 0 then .ok []
  else
    let limit := (readLimit declared maxBodySize).toNat
    -- An error is met only while bytes are still wanted.
    match source.broken with
    | some reason =>
      if source.bytes.length < limit then
        .error (.invalidRequest ("Failed to read request body: " ++ reason))
      else
        .ok (source.bytes.take limit)
    | none => .ok (source.bytes.take limit)

/-- The greatest number of bytes that room can be set aside for. -/
def maxCapacity : Nat := 1 <<< 63 - 1

/-- The body of a request, read into room that is set aside first for all the bytes to read. Where
there cannot be as much room, there is no answer at all. -/
def readReserved? (source : Source) (contentLength : Option String) (maxBodySize : UInt64) :
    Option (Except Failure (List UInt8)) :=
  if maxCapacity < (readLimit (declaredLength contentLength) maxBodySize).toNat then none
  else some (readBody source contentLength maxBodySize)

end RelationGateway.Cgi
