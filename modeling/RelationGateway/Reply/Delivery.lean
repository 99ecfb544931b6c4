import RelationGateway.Failure
import RelationGateway.Text.Utf8

/-!
# Delivering a response

A response is written out as bytes and then flushed. Either may fail, with the reason that the
receiver gives.
-/

namespace RelationGateway

/-- What takes the bytes of a response. -/
structure Receiver (m : Type → Type) where
  /-- Takes some bytes, or gives the reason why it cannot. -/
  write : List UInt8 → m (Except String Unit)
  /-- Passes on what it has taken, or gives the reason why it cannot. -/
  flush : m (Except String Unit)

/-- Writes a response to a receiver. -/
def Receiver.deliver {m : Type → Type} [Monad m] (receiver : Receiver m) (response : String) :
    m (Except Failure Unit) := do
  match ← receiver.write (Utf8.encode response) with
  | .error reason => return .error (.internal ("Failed to write response: " ++ reason))
  | .ok () =>
    match ← receiver.flush with
    | .error reason => return .error (.internal ("Failed to flush response: " ++ reason))
    | .ok () => return .ok ()

end RelationGateway
