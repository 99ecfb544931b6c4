import RelationGateway.Feed

/-!
# Expanders

Compressed bytes are expanded by a library. All that is used of it is that bytes come out of a body
one after the other, until they end or break off with a message.
-/

namespace RelationGateway.Gzip

/-- A library that expands compressed bytes. -/
structure Expander where
  /-- What comes out of compressed bytes: bytes, and then the end or a message on why there is
  none. -/
  feed : List UInt8 → Feed String
  /-- The first bytes that come out, or the message if it comes before them. -/
  read : (limit : Nat) → List UInt8 → Except String (List UInt8)
  /-- However many bytes are read, they are the first ones of what comes out. -/
  read_eq : ∀ limit compressed, read limit compressed = (feed compressed).read limit

end RelationGateway.Gzip
