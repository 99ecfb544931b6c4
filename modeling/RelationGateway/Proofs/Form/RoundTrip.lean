import RelationGateway.Form.Parts
import RelationGateway.Proofs.Form.Disposition
import RelationGateway.Proofs.NameTable
import RelationGateway.Proofs.Text.Utf8

/-!
# Forms are read back

A form in parts is written with a boundary in front of each part and at the end. What the form
holds is read back from the body: the files as they are, and the first field of each name.

* `Item`, `Item.chunk`, `write`: what is sent, and the body that is written;
* `Item.Writable`: what the boundary and the items must not hold;
* `Item.Writable.readPart?_chunk`: a part is read back from what stands behind its boundary;
* `segments_write`: the boundary is found where it was written and nowhere else;
* `read_write`: a form is read back from its body.
-/

namespace RelationGateway.Form

/-- What is sent as one part of a form. -/
inductive Item where
  /-- A file. -/
  | file (name filename : String) (mediaType : Option String) (content : List UInt8)
  /-- A plain field. -/
  | field (name : String) (mediaType : Option String) (text : String)

/-- The line of a header. -/
def headerText (name value : String) : String := name ++ ": " ++ value

namespace Item

/-- The name of the form field. -/
def name : Item → String
  | file name _ _ _ => name
  | field name _ _ => name

/-- The name of the file, if it is one. -/
def filename : Item → Option String
  | file _ filename _ _ => some filename
  | field _ _ _ => none

/-- The media type, if it is given. -/
def mediaType : Item → Option String
  | file _ _ mediaType _ => mediaType
  | field _ mediaType _ => mediaType

/-- The content in bytes. -/
def content : Item → List UInt8
  | file _ _ _ content => content
  | field _ _ text => Utf8.encode text

/-- The lines of the headers. -/
def headerLines (item : Item) : List String :=
  headerText "Content-Disposition" (dispositionText item.name item.filename) ::
    item.mediaType.toList.map (headerText "Content-Type")

/-- What is written behind the boundary: a line break, the lines of the headers, an empty line,
the content and a line break. -/
def chunk (item : Item) : List UInt8 :=
  lineBreak ++ item.headerLines.flatMap (fun line => Utf8.encode line ++ lineBreak) ++ lineBreak ++
    item.content ++ lineBreak

/-- The upload that a file makes. -/
def upload? : Item → Option Upload
  | file name filename mediaType content =>
    some { name, filename, mediaType := mediaType.getD "application/octet-stream", content }
  | field _ _ _ => none

/-- The name and the text that a field makes. -/
def field? : Item → Option (String × String)
  | file _ _ _ _ => none
  | field name _ text => some (name, text)

/-- The item can be written with a boundary. -/
structure Writable (boundary : List UInt8) (item : Item) : Prop where
  /-- The name holds no quote and no line break. -/
  name : '"' ∉ item.name.toList ∧ Text.Unbroken item.name
  /-- Neither does the name of a file. -/
  filename : ∀ text ∈ item.filename, '"' ∉ text.toList ∧ Text.Unbroken text
  /-- A media type is not empty, holds no line break and has no blanks around it. -/
  mediaType : ∀ text ∈ item.mediaType, text ≠ "" ∧ Text.Unbroken text ∧ Text.Unpadded text
  /-- The boundary occurs in no header. -/
  header : ∀ line ∈ item.headerLines, ¬ boundary <:+: Utf8.encode line
  /-- The boundary does not occur in the content. -/
  content : ¬ boundary <:+: item.content

instance (boundary : List UInt8) (item : Item) : Decidable (item.Writable boundary) :=
  decidable_of_iff
    (('"' ∉ item.name.toList ∧ Text.Unbroken item.name) ∧
      (∀ text ∈ item.filename, '"' ∉ text.toList ∧ Text.Unbroken text) ∧
      (∀ text ∈ item.mediaType, text ≠ "" ∧ Text.Unbroken text ∧ Text.Unpadded text) ∧
      (∀ line ∈ item.headerLines, ¬ boundary <:+: Utf8.encode line) ∧
      ¬ boundary <:+: item.content)
    ⟨fun ⟨hname, hfilename, hmediaType, hheader, hcontent⟩ =>
      ⟨hname, hfilename, hmediaType, hheader, hcontent⟩,
      fun h => ⟨h.name, h.filename, h.mediaType, h.header, h.content⟩⟩

end Item

/-- The body of a form: each item behind the boundary, and the boundary with two hyphens and a
line break. -/
def write (boundary : List UInt8) (items : List Item) : List UInt8 :=
  items.flatMap (fun item => boundary ++ item.chunk) ++ boundary ++ Utf8.encode "--" ++ lineBreak

/-! ## Headers -/

/-- A line with a name and a value is read as the two. -/
theorem readHeader?_headerText (name value : String) (hcolon : ':' ∉ name.toList) (hne : name ≠ "")
    (hname : Text.Unpadded name) (hvalue : Text.Unpadded value) :
    readHeader? (headerText name value) = some (name, value) := by
  have hline : headerText name value = name ++ ":" ++ (" " ++ value) := by
    apply String.toList_inj.mp
    simp [headerText]
  have hcut : Text.cut? ":" (name ++ ":" ++ (" " ++ value)) = some (name, " " ++ value) :=
    Text.cut?_of_not_mem rfl hcolon _
  have hempty : name.isEmpty = false := by simpa using hne
  rw [readHeader?, hline, hcut]
  simp only [Option.bind_eq_bind, Option.bind_some, Text.trim_space_append, Text.trim_eq_self hname,
    Text.trim_eq_self hvalue, hempty, Bool.false_eq_true, if_false]

/-- Lines without line breaks are read as the headers of the lines. -/
theorem readHeaders_intercalate {lines : List String} (hlines : lines ≠ [])
    (hbreak : ∀ line ∈ lines, '\r' ∉ line.toList) :
    readHeaders (Utf8.encode (String.intercalate "\r\n" lines)) =
      NameTable.ofList (lines.filterMap readHeader?) := by
  -- No line holds the first character of a line break, so the lines are told apart by it.
  have hsegments : Text.segments "\r\n" (String.intercalate "\r\n" lines) = lines := by
    have hchars : "\r\n".toList = ['\r', '\n'] := rfl
    rw [Text.segments_eq_iff, String.toList_intercalate, hchars]
    exact Delimited.segments_intercalate (mt List.map_eq_nil_iff.mp hlines)
      (List.forall_mem_map.mpr hbreak) ['\n']
  rw [readHeaders, Utf8.decode_encode, hsegments]

/-- A written disposition has no blanks around it. -/
theorem unpadded_dispositionText (name : String) (filename : Option String) :
    Text.Unpadded (dispositionText name filename) := by
  have hstart : Text.Unpadded "form-data; name=\"" := by decide
  have hquote : Text.Unpadded "\"" := by decide
  have hname := hstart.enclose hquote (by decide) (by decide) name
  unfold dispositionText
  cases filename with
  | none => simpa using hname
  | some filename =>
    have hboth := hname.enclose hquote (by simp) (by decide) ("; filename=\"" ++ filename)
    simpa [String.append_assoc] using hboth

section Writable

variable {boundary : List UInt8} {item : Item}

/-- The headers of an item are read from its lines. -/
theorem Item.Writable.filterMap_readHeader? (h : item.Writable boundary) :
    item.headerLines.filterMap readHeader? =
      ("Content-Disposition", dispositionText item.name item.filename) ::
        item.mediaType.toList.map fun text => ("Content-Type", text) := by
  have hdisposition := readHeader?_headerText "Content-Disposition" _ (by decide) (by decide)
    (by decide) (unpadded_dispositionText item.name item.filename)
  have htype : (item.mediaType.toList.map (headerText "Content-Type")).filterMap readHeader? =
      item.mediaType.toList.map fun text => ("Content-Type", text) := by
    cases hmediaType : item.mediaType with
    | none => rfl
    | some text =>
      have hunpadded := (h.mediaType text hmediaType).2.2
      have hheader := readHeader?_headerText "Content-Type" text (by decide) (by decide)
        (by decide) hunpadded
      rw [Option.toList_some, List.map_singleton, List.filterMap_cons, hheader]
      rfl
  rw [headerLines, List.filterMap_cons, hdisposition, htype]

/-- No line of the headers of an item is broken. -/
theorem Item.Writable.unbroken (h : item.Writable boundary) :
    ∀ line ∈ item.headerLines, Text.Unbroken line := by
  have hheader {name value : String} (hname : Text.Unbroken name) (hvalue : Text.Unbroken value) :
      Text.Unbroken (headerText name value) :=
    (hname.append (by decide : Text.Unbroken ": ")).append hvalue
  refine List.forall_mem_cons.mpr ⟨hheader (by decide) ?_, List.forall_mem_map.mpr ?_⟩
  · have hname : Text.Unbroken ("form-data; name=\"" ++ item.name ++ "\"") :=
      ((by decide : Text.Unbroken "form-data; name=\"").append h.name.2).append (by decide)
    refine hname.append ?_
    cases hfilename : item.filename with
    | none => decide
    | some filename =>
      have hunbroken := (h.filename filename hfilename).2
      exact ((by decide : Text.Unbroken "; filename=\"").append hunbroken).append (by decide)
  · intro text htext
    exact hheader (by decide) (h.mediaType text (Option.mem_toList.mp htext)).2.1

/-- The disposition and the media type of an item are read back. -/
theorem Item.Writable.get?_readHeaders (h : item.Writable boundary) {block : List UInt8}
    (hblock : block = Utf8.encode (String.intercalate "\r\n" item.headerLines)) :
    (readHeaders block).get? "Content-Disposition" =
        some (dispositionText item.name item.filename) ∧
      (readHeaders block).get? "Content-Type" = item.mediaType := by
  have hsame (name : String) :
      (NameRule.ignoringCase.key name == NameRule.ignoringCase.key name) = true :=
    beq_self_eq_true _
  have hother : (NameRule.ignoringCase.key "Content-Disposition" ==
      NameRule.ignoringCase.key "Content-Type") = false :=
    beq_eq_false_iff_ne.mpr (mt Text.lower_eq_lower_iff.mp (by decide))
  -- The disposition comes first, and the media type has another name.
  have hlines : item.headerLines ≠ [] := List.cons_ne_nil _ _
  have hread := readHeaders_intercalate hlines
    fun line hline => (h.unbroken line hline).not_mem.1
  rw [hblock, hread, h.filterMap_readHeader?, NameTable.get?_ofList, NameTable.get?_ofList,
    List.find?_cons, List.find?_cons, hsame, hother]
  refine ⟨rfl, ?_⟩
  cases item.mediaType with
  | none => rfl
  | some text =>
    dsimp only
    rw [Option.toList_some, List.map_singleton, List.find?_cons, hsame]
    rfl

/-! ## Parts -/

/-- A line break at the start is dropped. -/
theorem dropLeadingBreak_append (bytes : List UInt8) :
    dropLeadingBreak (lineBreak ++ bytes) = bytes := by
  have hprefix : lineBreak.isPrefixOf (lineBreak ++ bytes) :=
    List.isPrefixOf_iff_prefix.mpr (List.prefix_append _ _)
  rw [dropLeadingBreak, if_pos hprefix, List.drop_left]

/-- A line break at the end is dropped, and only one. -/
theorem dropTrailingBreak_append (bytes : List UInt8) :
    dropTrailingBreak (bytes ++ lineBreak) = bytes := by
  have hsuffix : lineBreak.isSuffixOf (bytes ++ lineBreak) :=
    List.isSuffixOf_iff_suffix.mpr (List.suffix_append _ _)
  rw [dropTrailingBreak, if_pos hsuffix, List.length_append, Nat.add_sub_cancel, List.take_left]

/-- What is written behind a boundary is a line break, the lines of the headers with line breaks
between them, the end of the headers, the content and a line break. -/
theorem Item.chunk_eq (item : Item) :
    item.chunk = lineBreak ++ (lineBreak.intercalate (item.headerLines.map Utf8.encode) ++
      headersEnd ++ (item.content ++ lineBreak)) := by
  have hlines : item.headerLines.flatMap (fun line => Utf8.encode line ++ lineBreak) =
      lineBreak.intercalate (item.headerLines.map Utf8.encode) ++ lineBreak := by
    have hne : item.headerLines.map Utf8.encode ≠ [] := List.cons_ne_nil _ _
    rw [Delimited.intercalate_append_self _ hne, List.flatMap_map]
  have hend : headersEnd = lineBreak ++ lineBreak := rfl
  rw [Item.chunk, hlines, hend]
  simp only [List.append_assoc]

/-- The line of a header is not empty. -/
theorem headerText_ne_nil (name value : String) : (headerText name value).toList ≠ [] := by
  simp [headerText]

/-- The headers of an item end at the first empty line, whatever the content holds. -/
theorem Item.Writable.cut?_headersEnd (h : item.Writable boundary) (after : List UInt8) :
    Delimited.cut? headersEnd
        (lineBreak.intercalate (item.headerLines.map Utf8.encode) ++ headersEnd ++ after) =
      some (lineBreak.intercalate (item.headerLines.map Utf8.encode), after) := by
  have hne : item.headerLines.map Utf8.encode ≠ [] := List.cons_ne_nil _ _
  have hbreak : ∀ line ∈ item.headerLines.map Utf8.encode, 13 ∉ line :=
    List.forall_mem_map.mpr fun line hline hbyte =>
      (h.unbroken line hline).not_mem.1 (Utf8.mem_of_mem_encode hbyte (by decide))
  have hnil : ∀ line ∈ item.headerLines.map Utf8.encode, line ≠ [] := by
    refine List.forall_mem_map.mpr (List.forall_mem_cons.mpr ⟨?_, List.forall_mem_map.mpr ?_⟩)
    · exact Utf8.encode_ne_nil (headerText_ne_nil _ _)
    · exact fun text _ => Utf8.encode_ne_nil (headerText_ne_nil _ text)
  exact Delimited.cut?_blankLine (by decide) hne hbreak hnil after

/-- The part that an item is read as. -/
def Item.part (item : Item) : Part :=
  { name := item.name
    filename := item.filename
    mediaType := item.mediaType
    content := item.content }

/-- A part is read back from what stands behind its boundary. -/
theorem Item.Writable.readPart?_chunk (h : item.Writable boundary) :
    readPart? item.chunk = some item.part := by
  have hbreak : lineBreak = Utf8.encode "\r\n" := by decide
  have hblock : lineBreak.intercalate (item.headerLines.map Utf8.encode) =
      Utf8.encode (String.intercalate "\r\n" item.headerLines) := by
    rw [Utf8.encode_intercalate, hbreak]
  obtain ⟨hdisposition, htype⟩ := h.get?_readHeaders hblock
  obtain ⟨hname, hfilename⟩ := parameter?_dispositionText h.name.1
    fun text htext => (h.filename text htext).1
  -- An empty media type would be taken for none.
  have hkept : item.mediaType.filter (fun type => !type.isEmpty) = item.mediaType := by
    cases hmediaType : item.mediaType with
    | none => rfl
    | some text => exact Option.filter_some_pos (by simpa using (h.mediaType text hmediaType).1)
  rw [readPart?, chunk_eq, dropLeadingBreak_append, h.cut?_headersEnd]
  simp only [Option.bind_eq_bind, Option.bind_some, hdisposition, htype, hname, hfilename, hkept,
    dropTrailingBreak_append]
  rfl

/-! ## Boundaries -/

/-- The boundary does not occur in what is written behind it. -/
theorem Item.Writable.not_infix_chunk (h : item.Writable boundary) (hne : boundary ≠ [])
    (hcr : 13 ∉ boundary) (hlf : 10 ∉ boundary) : ¬ boundary <:+: item.chunk := by
  have hempty : ¬ boundary <:+: [] := fun hinfix => hne (List.infix_nil.mp hinfix)
  have hbreak {front back : List UInt8} (hfront : ¬ boundary <:+: front)
      (hback : ¬ boundary <:+: back) : ¬ boundary <:+: front ++ (lineBreak ++ back) :=
    Delimited.not_infix_append_cons hcr hfront (Delimited.not_infix_append_cons hlf hempty hback)
  have hheaders : ¬ boundary <:+: lineBreak.intercalate (item.headerLines.map Utf8.encode) :=
    Delimited.not_infix_intercalate hne hcr hlf (List.forall_mem_map.mpr h.header)
  have hcontent : ¬ boundary <:+: item.content ++ lineBreak := hbreak h.content hempty
  have hend : headersEnd = lineBreak ++ ([] ++ lineBreak) := rfl
  -- Four line breaks cut what is written into parts in none of which the boundary occurs.
  rw [chunk_eq, hend]
  simp only [List.append_assoc]
  exact hbreak hempty (hbreak hheaders (hbreak hempty hcontent))

/-- What is written behind a boundary ends where the next boundary is written. -/
theorem Item.Writable.cut?_chunk (h : item.Writable boundary) (hne : boundary ≠ [])
    (hcr : 13 ∉ boundary) (hlf : 10 ∉ boundary) (after : List UInt8) :
    Delimited.cut? boundary (item.chunk ++ boundary ++ after) = some (item.chunk, after) := by
  obtain ⟨front, hfront⟩ : ∃ front, item.chunk = front ++ [10] :=
    ⟨_, (List.append_assoc _ [13] [10]).symm⟩
  have hinfix := h.not_infix_chunk hne hcr hlf
  rw [hfront] at hinfix ⊢
  exact Delimited.cut?_of_not_isInfix hne hlf hinfix after

end Writable

section Boundary

variable {boundary : List UInt8} {items : List Item}

/-- The first item stands behind the first boundary. -/
theorem write_cons (boundary : List UInt8) (item : Item) (items : List Item) :
    write boundary (item :: items) = boundary ++ (item.chunk ++ write boundary items) := by
  simp only [write, List.flatMap_cons, List.append_assoc]

/-- The boundary is found where it was written and nowhere else: behind `front` stand what was
written for the items, one after the other, and what follows two hyphens. -/
theorem segments_write (hne : boundary ≠ []) (hcr : 13 ∉ boundary) (hlf : 10 ∉ boundary)
    (hitems : ∀ item ∈ items, item.Writable boundary) {front : List UInt8}
    (hfront : ∀ after, Delimited.cut? boundary (front ++ boundary ++ after) = some (front, after)) :
    Delimited.segments boundary (front ++ write boundary items) =
      front :: items.map Item.chunk ++
        Delimited.segments boundary (Utf8.encode "--" ++ lineBreak) := by
  -- What stands in front changes with each item, so the induction is over any of it.
  induction items generalizing front with
  | nil =>
    have hwrite : write boundary [] = boundary ++ (Utf8.encode "--" ++ lineBreak) := by
      simp only [write, List.flatMap_nil, List.nil_append, List.append_assoc]
    rw [hwrite, ← List.append_assoc, Delimited.segments_of_cut? (hfront _)]
    rfl
  | cons item rest ih =>
    obtain ⟨hitem, hrest⟩ := List.forall_mem_cons.mp hitems
    rw [write_cons, ← List.append_assoc, Delimited.segments_of_cut? (hfront _),
      ih hrest (hitem.cut?_chunk hne hcr hlf)]
    rfl

/-- Nothing behind the last boundary is a part. -/
theorem readPart?_eq_none {piece : List UInt8} (hpiece : piece <:+: Utf8.encode "--" ++ lineBreak) :
    readPart? piece = none := by
  have hsuffix : dropLeadingBreak piece <:+ piece := by
    unfold dropLeadingBreak
    split
    · exact List.drop_suffix _ _
    · exact List.suffix_rfl
  -- What is left is no longer than the end of the headers, and is not equal to it.
  have hend : ¬ headersEnd <:+: dropLeadingBreak piece := by
    intro hinfix
    have hall := hinfix.trans (hsuffix.isInfix.trans hpiece)
    exact absurd hall (by decide)
  rw [readPart?, Delimited.cut?_eq_none_iff.mpr (.inr hend)]
  rfl

/-- The boundary of a written form is its first line. Without items two hyphens belong to it. -/
theorem boundary_write (hcr : 13 ∉ boundary) (items : List Item) :
    Form.boundary (write boundary items) =
      if items.isEmpty then boundary ++ Utf8.encode "--" else boundary := by
  cases items with
  | nil =>
    have hline : 13 ∉ boundary ++ Utf8.encode "--" := by
      rw [List.mem_append, not_or]
      exact ⟨hcr, by decide⟩
    have hcut := Delimited.cut?_of_not_mem hline [10] []
    rw [List.append_nil] at hcut
    rw [Form.boundary, write, List.flatMap_nil, List.nil_append, lineBreak, hcut]
    rfl
  | cons item rest =>
    obtain ⟨after, hafter⟩ : ∃ after, write boundary (item :: rest) =
        boundary ++ [13, 10] ++ after := by
      rw [write_cons, Item.chunk_eq, List.append_assoc lineBreak, ← List.append_assoc boundary]
      exact ⟨_, rfl⟩
    rw [Form.boundary, hafter, lineBreak, Delimited.cut?_of_not_mem hcr [10] after]
    rfl

/-- The parts of a written form are those of its items. -/
theorem readParts_write (hne : boundary ≠ []) (hcr : 13 ∉ boundary) (hlf : 10 ∉ boundary)
    (hitems : ∀ item ∈ items, item.Writable boundary) :
    readParts (write boundary items) = items.map Item.part := by
  have hempty (line : List UInt8) {tail : List UInt8}
      (htail : tail <:+: Utf8.encode "--" ++ lineBreak) :
      (Delimited.segments line tail).filterMap readPart? = [] := by
    refine List.filterMap_eq_nil_iff.mpr fun piece hpiece => ?_
    exact readPart?_eq_none ((Delimited.infix_of_mem_segments hpiece).trans htail)
  have hfirst : readPart? [] = none := readPart?_eq_none List.nil_infix
  rw [readParts, boundary_write hcr]
  cases items with
  | nil =>
    -- The two hyphens are taken for a part of the boundary, behind which no part stands.
    have hline : boundary ++ Utf8.encode "--" ≠ [] := List.append_ne_nil_of_left_ne_nil hne _
    have hcut := Delimited.cut?_delimiter_append hline lineBreak
    have hwrite : write boundary [] = boundary ++ Utf8.encode "--" ++ lineBreak := by
      rw [write, List.flatMap_nil, List.nil_append]
    simp only [List.isEmpty_nil, if_true, List.isEmpty_eq_false_iff.mpr hline, Bool.false_eq_true,
      if_false]
    rw [hwrite, Delimited.segments_of_cut? hcut, List.filterMap_cons, hfirst,
      hempty _ (List.suffix_append _ _).isInfix]
    rfl
  | cons item rest =>
    have hfront : ∀ after, Delimited.cut? boundary ([] ++ boundary ++ after) = some ([], after) :=
      Delimited.cut?_delimiter_append hne
    have hread : ∀ written ∈ item :: rest,
        (readPart? ∘ Item.chunk) written = (some ∘ Item.part) written :=
      fun written hwritten => (hitems written hwritten).readPart?_chunk
    have hparts : ((item :: rest).map Item.chunk).filterMap readPart? =
        (item :: rest).map Item.part := by
      rw [List.filterMap_map, List.filterMap_congr hread, List.filterMap_eq_map]
    simp only [List.isEmpty_cons, Bool.false_eq_true, if_false, List.isEmpty_eq_false_iff.mpr hne]
    rw [← List.nil_append (write _ _), segments_write hne hcr hlf hitems hfront,
      List.filterMap_append, List.filterMap_cons, hfirst, hparts, hempty _ List.infix_rfl,
      List.append_nil]

end Boundary

/-! ## Forms -/

/-- Adding the parts of items adds the files, and the fields whose names are new. -/
theorem foldl_add (items : List Item) (form : FormData) :
    (items.map Item.part).foldl FormData.add form =
      { uploads := form.uploads ++ items.filterMap Item.upload?
        fields := (items.filterMap Item.field?).foldl
          (fun fields field => fields.insertIfAbsent field.1 field.2) form.fields } := by
  -- Uploads and fields are added to what the form holds, so the induction is over any form.
  induction items generalizing form with
  | nil =>
    rw [List.filterMap_nil, List.append_nil]
    rfl
  | cons item rest ih =>
    rw [List.map_cons, List.foldl_cons, ih]
    cases item with
    | file name filename mediaType content =>
      have hadd : form.add (Item.part (.file name filename mediaType content)) =
          { form with uploads := form.uploads ++
              [⟨name, filename, mediaType.getD defaultMediaType, content⟩] } := rfl
      rw [hadd, List.append_assoc]
      rfl
    | field name mediaType text =>
      have hadd : form.add (Item.part (.field name mediaType text)) =
          { form with fields := form.fields.insertIfAbsent name text } := by
        simp only [FormData.add, Item.part, Item.filename, Item.name, Item.content,
          Utf8.decode_encode]
      rw [hadd]
      rfl

/-- A form is read back from its body: the files in order as they are, and of the fields with one
name the first. -/
theorem read_write {boundary : List UInt8} (hne : boundary ≠ []) (hcr : 13 ∉ boundary)
    (hlf : 10 ∉ boundary) {items : List Item} (hitems : ∀ item ∈ items, item.Writable boundary) :
    (FormData.read (write boundary items)).uploads = items.filterMap Item.upload? ∧
      (FormData.read (write boundary items)).fields.toList =
        NameTable.firsts .exact (items.filterMap Item.field?) := by
  rw [FormData.read, readParts_write hne hcr hlf hitems, foldl_add]
  exact ⟨List.nil_append _, NameTable.toList_ofList _⟩

/-- A file with an odd name, whose content holds an empty line and ends with a line break, two
fields with one name, and an empty file. -/
def oddItems : List Item :=
  [.file "a;b=c" "d:e;.bin" none [0, 13, 10, 13, 10, 1, 13, 10],
    .field "t" none "one",
    .field "t" (some "text/plain") "two",
    .file "u" "" (some "image/png") []]

/-- Odd items are read back. -/
theorem read_write_oddItems :
    (∀ item ∈ oddItems, item.Writable [45, 45, 98]) ∧
      (FormData.read (write [45, 45, 98] oddItems)).uploads =
        [⟨"a;b=c", "d:e;.bin", "application/octet-stream", [0, 13, 10, 13, 10, 1, 13, 10]⟩,
          ⟨"u", "", "image/png", []⟩] ∧
      (FormData.read (write [45, 45, 98] oddItems)).fields.toList = [("t", "one")] := by
  have hitems : ∀ item ∈ oddItems, item.Writable [45, 45, 98] := by decide +kernel
  exact ⟨hitems, read_write (by decide) (by decide) (by decide) hitems⟩

end RelationGateway.Form
