import RelationGateway.Delimited
import RelationGateway.Form.Disposition
import RelationGateway.NameTable
import RelationGateway.Text.Trim
import RelationGateway.Text.Utf8

/-!
# Forms in parts

A form with files is sent as parts between boundary lines; the first line of the body is the
boundary. A part has headers, an empty line and a content. A part whose disposition names a
file is an upload, every other named part is a field.
-/

namespace RelationGateway.Form

/-- A file sent with a form. -/
structure Upload where
  /-- The name of the form field. -/
  name : String
  /-- The name that the client gave the file. -/
  filename : String
  /-- The media type of the content. -/
  mediaType : String
  /-- The content. -/
  content : List UInt8
deriving DecidableEq, Repr

/-- What a form in parts holds. -/
structure FormData where
  /-- The files, in order. -/
  uploads : List Upload := []
  /-- The fields; of two with one name the first counts. -/
  fields : NameTable .exact := .empty

/-- A part of a form. -/
structure Part where
  /-- The name of the form field. -/
  name : String
  /-- The name of the file, if the part is an upload. -/
  filename : Option String
  /-- The media type, if the part gives one. -/
  mediaType : Option String
  /-- The content. -/
  content : List UInt8
deriving DecidableEq, Repr

/-- A line break in bytes. -/
def lineBreak : List UInt8 := [13, 10]

/-- The end of the headers of a part in bytes. -/
def headersEnd : List UInt8 := [13, 10, 13, 10]

/-- The media type of an upload that gives none. -/
def defaultMediaType : String := "application/octet-stream"

/-- The header of a line, if the line has one. -/
def readHeader? (line : String) : Option (String × String) := do
  let (name, value) ← Text.cut? ":" line
  let name := Text.trim name
  if name.isEmpty then none else some (name, Text.trim value)

/-- The headers of a part; of two with one name the first counts. -/
def readHeaders (block : List UInt8) : NameTable .ignoringCase :=
  NameTable.ofList ((Text.segments "\r\n" (Utf8.decode block)).filterMap readHeader?)

/-- The bytes without a line break at their start. -/
def dropLeadingBreak (bytes : List UInt8) : List UInt8 :=
  if lineBreak.isPrefixOf bytes then bytes.drop lineBreak.length else bytes

/-- The bytes without a line break at their end. -/
def dropTrailingBreak (bytes : List UInt8) : List UInt8 :=
  if lineBreak.isSuffixOf bytes then bytes.take (bytes.length - lineBreak.length) else bytes

/-- The part that stands between two boundaries, if there is a named one. -/
def readPart? (chunk : List UInt8) : Option Part := do
  let (block, content) ← Delimited.cut? headersEnd (dropLeadingBreak chunk)
  let headers := readHeaders block
  let disposition ← headers.get? "Content-Disposition"
  let name ← parameter? disposition "name"
  some
    { name
      filename := parameter? disposition "filename"
      mediaType := (headers.get? "Content-Type").filter fun type => !type.isEmpty
      content := dropTrailingBreak content }

/-- The boundary of a body: its first line. -/
def boundary (body : List UInt8) : List UInt8 :=
  match Delimited.cut? lineBreak body with
  | some (line, _) => line
  | none => body

/-- The named parts of a body, in order. Without a boundary there are none. -/
def readParts (body : List UInt8) : List Part :=
  let line := boundary body
  if line.isEmpty then [] else (Delimited.segments line body).filterMap readPart?

/-- Adds a part to what a form holds. -/
def FormData.add (form : FormData) (part : Part) : FormData :=
  match part.filename with
  | some filename =>
    let upload : Upload :=
      { name := part.name
        filename
        mediaType := part.mediaType.getD defaultMediaType
        content := part.content }
    { form with uploads := form.uploads ++ [upload] }
  | none =>
    { form with fields := form.fields.insertIfAbsent part.name (Utf8.decode part.content) }

/-- What a body in parts holds. -/
def FormData.read (body : List UInt8) : FormData := (readParts body).foldl FormData.add {}

end RelationGateway.Form
