import RelationGateway.Proofs.Accumulation
import RelationGateway.Proofs.Delimited.Spans
import RelationGateway.Proofs.Form.RoundTrip

/-!
# Where parts lie in a body

A body may be any bytes. It is read once more by places, with every slice and every difference
checked: no check fails, and the parts are those that are read without places. So each content is a
slice of the body, the slices do not overlap, and the boundary occurs in none.

* `Fault`, `checkedSlice`, `checkedCut`: accesses that may go beyond what is there;
* `Located`, `locatePart`, `locate`: the parts of a body with their places;
* `Located.Lies`: what is known of a part that lies in a span of the body;
* `locate_eq_ok`: no access goes beyond the body;
* `read_located`: whatever the body, what is read of it lies in it.
-/

namespace RelationGateway.Delimited

variable {α : Type} [BEq α] {delimiter list : List α}

/-- The first place where the delimiter occurs, found by trying one place after the other. -/
def place? (delimiter list : List α) : Option Nat :=
  (List.range (list.length + 1)).find? fun place => delimiter.isPrefixOf (list.drop place)

/-- A list is cut at the first place where the delimiter occurs. -/
theorem place?_eq [LawfulBEq α] (hdelimiter : delimiter ≠ []) (list : List α) :
    place? delimiter list = (cut? delimiter list).map fun cut => cut.1.length := by
  have hat {place : Nat} : delimiter.isPrefixOf (list.drop place) →
      ∃ after, list = list.take place ++ delimiter ++ after := by
    intro hprefix
    obtain ⟨after, hafter⟩ := List.isPrefixOf_iff_prefix.mp hprefix
    exact ⟨after, by rw [List.append_assoc, hafter, List.take_append_drop]⟩
  cases hcut : cut? delimiter list with
  | none =>
    have hwhole := (cut?_eq_none_iff.mp hcut).resolve_left hdelimiter
    rw [Option.map_none, place?, List.find?_eq_none]
    intro place _ hprefix
    obtain ⟨after, hlist⟩ := hat hprefix
    exact hwhole ⟨_, after, hlist.symm⟩
  | some cut =>
    obtain ⟨before, after⟩ := cut
    have hlist := eq_append_of_cut? hcut
    rw [Option.map_some, place?, List.find?_range_eq_some]
    refine ⟨?_, ?_, fun place hplace => ?_⟩
    · rw [hlist, List.append_assoc, List.drop_left, List.isPrefixOf_iff_prefix]
      exact List.prefix_append _ _
    · rw [hlist, List.mem_range]
      simp only [List.length_append]
      omega
    · -- An earlier place would leave less in front of the delimiter than the cut does.
      rw [Bool.not_eq_true']
      refine Bool.eq_false_iff.mpr fun hprefix => ?_
      obtain ⟨after', hlist'⟩ := hat hprefix
      have hle := length_le_of_cut? hcut _ _ hlist'
      have hbefore : before.length ≤ list.length := by
        rw [hlist]
        simp
      have hplace : place < before.length := hplace
      rw [List.length_take] at hle
      omega

end RelationGateway.Delimited

namespace RelationGateway.Form

open Delimited (slice)

/-! ## Checked accesses -/

/-- An access beyond what is there. -/
inductive Fault where
  /-- A slice whose places are not in order or not in the bytes. -/
  | slice (start stop length : Nat)
  /-- A difference that would be negative. -/
  | difference (m n : Nat)
deriving DecidableEq

/-- The bytes between two places, which must lie in order in the bytes. -/
def checkedSlice (bytes : List UInt8) (start stop : Nat) : Except Fault (List UInt8) :=
  if start ≤ stop ∧ stop ≤ bytes.length then .ok (slice bytes (start, stop))
  else .error (.slice start stop bytes.length)

/-- The difference of two numbers, of which the second must not be greater. -/
def checkedDifference (m n : Nat) : Except Fault Nat :=
  if n ≤ m then .ok (m - n) else .error (.difference m n)

/-- The bytes in front of the first occurrence of the delimiter and the bytes behind it. -/
def checkedCut (delimiter bytes : List UInt8) :
    Except Fault (Option (List UInt8 × List UInt8)) :=
  match Delimited.place? delimiter bytes with
  | none => return none
  | some place => do
    let before ← checkedSlice bytes 0 place
    let after ← checkedSlice bytes (place + delimiter.length) bytes.length
    return some (before, after)

theorem checkedSlice_eq_ok {bytes : List UInt8} {start stop : Nat} (horder : start ≤ stop)
    (hstop : stop ≤ bytes.length) :
    checkedSlice bytes start stop = .ok (slice bytes (start, stop)) :=
  if_pos ⟨horder, hstop⟩

theorem checkedDifference_eq_ok {m n : Nat} (h : n ≤ m) : checkedDifference m n = .ok (m - n) :=
  if_pos h

/-- Cutting goes nowhere beyond the bytes. -/
theorem checkedCut_eq_ok {delimiter : List UInt8} (hdelimiter : delimiter ≠ [])
    (bytes : List UInt8) :
    checkedCut delimiter bytes = .ok (Delimited.cut? delimiter bytes) := by
  rw [checkedCut, Delimited.place?_eq hdelimiter]
  cases hcut : Delimited.cut? delimiter bytes with
  | none => rfl
  | some cut =>
    -- The place is that of a cut, so what stands before and behind it lies in the bytes.
    obtain ⟨before, after⟩ := cut
    obtain rfl := Delimited.eq_append_of_cut? hcut
    have hbefore := Delimited.slice_append [] before (delimiter ++ after)
    have hafter := Delimited.slice_length (before ++ delimiter ++ after)
      (before.length + delimiter.length)
    rw [← List.length_append, List.drop_left, List.length_append] at hafter
    rw [List.nil_append, ← List.append_assoc, List.length_nil, Nat.zero_add] at hbefore
    rw [Option.map_some]
    dsimp only
    rw [checkedSlice_eq_ok (Nat.zero_le _) (by simp only [List.length_append]; omega),
      checkedSlice_eq_ok (by simp only [List.length_append]; omega) (Nat.le_refl _), hbefore,
      hafter]
    rfl

/-! ## Parts with their places -/

/-- A part, and where its headers and its content lie in the body. -/
structure Located where
  /-- The part. -/
  part : Part
  /-- The span of the headers. -/
  headers : Nat × Nat
  /-- The span of the content. -/
  content : Nat × Nat

/-- The part in what stands around it: every place is so much further. -/
def Located.shift (located : Located) (offset : Nat) : Located :=
  { located with
    headers := (offset + located.headers.1, offset + located.headers.2)
    content := (offset + located.content.1, offset + located.content.2) }

/-- The part that the headers of a block make of a content, if they name one. -/
def partOf? (block : List UInt8) : Option (List UInt8 → Part) := do
  let headers := readHeaders block
  let disposition ← headers.get? "Content-Disposition"
  let name ← parameter? disposition "name"
  some fun content =>
    { name
      filename := parameter? disposition "filename"
      mediaType := (headers.get? "Content-Type").filter fun type => !type.isEmpty
      content }

/-- Where the content of a part ends: in front of the line break at the end, if there is one. -/
def contentEnd (chunk rest : List UInt8) : Except Fault Nat :=
  if lineBreak.isSuffixOf rest then checkedDifference chunk.length lineBreak.length
  else .ok chunk.length

/-- Reads the part in what stands between two boundaries. -/
def locatePart (chunk : List UInt8) : Except Fault (Option Located) := do
  match ← checkedCut headersEnd chunk with
  | none => return none
  | some (block, rest) =>
    match partOf? block with
    | none => return none
    | some part =>
      let start ← checkedDifference chunk.length rest.length
      let stop ← contentEnd chunk rest
      let content ← checkedSlice chunk start stop
      return some ⟨part content, (0, block.length), (start, stop)⟩

/-- Reads the part at a span of the body, which may begin with a line break. -/
def locateAt (body : List UInt8) (span : Nat × Nat) : Except Fault (Option Located) := do
  let whole ← checkedSlice body span.1 span.2
  let skipped := if lineBreak.isPrefixOf whole then lineBreak.length else 0
  let chunk ← checkedSlice whole skipped whole.length
  let located ← locatePart chunk
  return located.map (·.shift (span.1 + skipped))

/-- Reads the parts of a body. -/
def locate (body : List UInt8) : Except Fault (List Located) := do
  let line :=
    match ← checkedCut lineBreak body with
    | some (line, _) => line
    | none => body
  if line.isEmpty then return []
  let located ← (Delimited.spans line body).mapM (locateAt body)
  return located.reduceOption

/-- A located part lies in a span of the body, its content behind its headers, and its names are
those of the disposition that the headers give. -/
structure Located.Lies (body : List UInt8) (span : Nat × Nat) (located : Located) : Prop where
  /-- The headers and then the content lie in the span. -/
  order : span.1 ≤ located.headers.1 ∧ located.headers.1 ≤ located.headers.2 ∧
    located.headers.2 ≤ located.content.1 ∧ located.content.1 ≤ located.content.2 ∧
    located.content.2 ≤ span.2
  /-- The content of the part is the slice of the body. -/
  content : located.part.content = slice body located.content
  /-- The headers have a disposition with the names of the part. -/
  disposition : ∃ text,
    (readHeaders (slice body located.headers)).get? "Content-Disposition" = some text ∧
      parameter? text "name" = some located.part.name ∧
      parameter? text "filename" = located.part.filename

/-- A part has the content that it is made of, and its names are those of the disposition of its
headers. -/
theorem partOf?_eq_some {block : List UInt8} {part : List UInt8 → Part}
    (h : partOf? block = some part) (content : List UInt8) :
    (part content).content = content ∧ ∃ text,
      (readHeaders block).get? "Content-Disposition" = some text ∧
        parameter? text "name" = some (part content).name ∧
        parameter? text "filename" = (part content).filename := by
  obtain ⟨text, htext, h⟩ := Option.bind_eq_some_iff.mp h
  obtain ⟨name, hname, h⟩ := Option.bind_eq_some_iff.mp h
  obtain rfl := Option.some.inj h
  exact ⟨rfl, text, htext, hname, rfl⟩

/-- The part behind a boundary, read without places. -/
theorem readPart?_eq (chunk : List UInt8) :
    readPart? chunk = (Delimited.cut? headersEnd (dropLeadingBreak chunk)).bind fun cut =>
      (partOf? cut.1).map fun part => part (dropTrailingBreak cut.2) := by
  rw [readPart?]
  refine Option.bind_congr fun cut _ => ?_
  obtain ⟨block, content⟩ := cut
  simp only [partOf?, Option.bind_eq_bind]
  cases (readHeaders block).get? "Content-Disposition" with
  | none => rfl
  | some text =>
    rw [Option.bind_some, Option.bind_some]
    cases parameter? text "name" <;> rfl

/-- A slice of a slice is a slice of the whole. -/
theorem slice_slice {bytes : List UInt8} {span inner : Nat × Nat}
    (hinner : inner.2 ≤ span.2 - span.1) :
    slice (slice bytes span) inner = slice bytes (span.1 + inner.1, span.1 + inner.2) := by
  have hmin : min (inner.2 - inner.1) (span.2 - span.1 - inner.1) =
      span.1 + inner.2 - (span.1 + inner.1) := by omega
  rw [slice, slice, slice, List.drop_take, List.take_take, List.drop_drop, hmin]

/-- The content of a part ends behind its start, and what stands between is the content. -/
theorem exists_contentEnd (front rest : List UInt8) :
    ∃ stop, contentEnd (front ++ rest) rest = .ok stop ∧ front.length ≤ stop ∧
      stop ≤ (front ++ rest).length ∧
      slice (front ++ rest) (front.length, stop) = dropTrailingBreak rest := by
  have hcontent (n : Nat) :
      slice (front ++ rest) (front.length, front.length + n) = rest.take n := by
    rw [slice, List.drop_left, Nat.add_sub_cancel_left]
  unfold contentEnd dropTrailingBreak
  split_ifs with hsuffix
  · have hlength := (List.isSuffixOf_iff_suffix.mp hsuffix).length_le
    have hstop : (front ++ rest).length - lineBreak.length =
        front.length + (rest.length - lineBreak.length) := by
      rw [List.length_append]
      omega
    rw [checkedDifference_eq_ok (by rw [List.length_append]; omega)]
    exact ⟨_, rfl, by omega, Nat.sub_le _ _, by rw [hstop, hcontent]⟩
  · refine ⟨_, rfl, ?_, Nat.le_refl _, ?_⟩
    · rw [List.length_append]
      omega
    · rw [List.length_append, hcontent, List.take_length]

/-- In what stands between two boundaries no access goes beyond it. -/
theorem locatePart_eq_ok (chunk : List UInt8) :
    ∃ found, locatePart chunk = .ok found ∧
      found.map (·.part) = ((Delimited.cut? headersEnd chunk).bind fun cut =>
        (partOf? cut.1).map fun part => part (dropTrailingBreak cut.2)) ∧
      ∀ located ∈ found, located.Lies chunk (0, chunk.length) := by
  rw [locatePart, checkedCut_eq_ok (by decide)]
  cases hcut : Delimited.cut? headersEnd chunk with
  | none => exact ⟨none, rfl, rfl, by simp⟩
  | some cut =>
    obtain ⟨block, rest⟩ := cut
    obtain rfl := Delimited.eq_append_of_cut? hcut
    cases hpart : partOf? block with
    | none =>
      simp only [bind, Except.bind, hpart]
      exact ⟨none, rfl, by simp [hpart], by simp⟩
    | some part =>
      -- The content begins behind the headers and their end, where the rest of the cut begins.
      obtain ⟨stop, hend, hstart, hstop, hcontent⟩ := exists_contentEnd (block ++ headersEnd) rest
      have hdifference : (block ++ headersEnd ++ rest).length - rest.length =
          (block ++ headersEnd).length := by
        rw [List.length_append, Nat.add_sub_cancel]
      simp only [bind, Except.bind, hpart, hend, hdifference, checkedSlice_eq_ok hstart hstop,
        hcontent, checkedDifference_eq_ok (List.length_append ▸ Nat.le_add_left _ _)]
      obtain ⟨hpartContent, hnames⟩ := partOf?_eq_some hpart (dropTrailingBreak rest)
      have hblock := Delimited.slice_append [] block (headersEnd ++ rest)
      rw [List.nil_append, ← List.append_assoc, List.length_nil, Nat.zero_add] at hblock
      refine ⟨_, rfl, by simp [hpart], fun located hlocated => ?_⟩
      obtain rfl := Option.some.inj hlocated
      rw [List.length_append] at hstart
      exact ⟨⟨Nat.le_refl _, Nat.zero_le _, by simp, by simpa using hstart, hstop⟩,
        hpartContent.trans hcontent.symm, by rwa [hblock]⟩

/-- A part that lies in a slice of a body lies in the body, the start of the slice further. -/
theorem Located.Lies.shift {body : List UInt8} {span inner : Nat × Nat} {located : Located}
    (h : located.Lies (slice body span) inner) (hinner : inner.2 ≤ span.2 - span.1) :
    (located.shift span.1).Lies body (span.1 + inner.1, span.1 + inner.2) := by
  obtain ⟨⟨hstart, hheaders, hbetween, hcontent, hstop⟩, hslice, hnames⟩ := h
  refine ⟨⟨?_, ?_, ?_, ?_, ?_⟩, ?_, ?_⟩
  · exact Nat.add_le_add_left hstart _
  · exact Nat.add_le_add_left hheaders _
  · exact Nat.add_le_add_left hbetween _
  · exact Nat.add_le_add_left hcontent _
  · exact Nat.add_le_add_left hstop _
  · exact hslice.trans (slice_slice (hstop.trans hinner))
  · rwa [slice_slice (by omega)] at hnames

/-- At a span of the body no access goes beyond it, and the part is the one that is read without
places. -/
theorem locateAt_eq_ok {body : List UInt8} {span : Nat × Nat} (horder : span.1 ≤ span.2)
    (hstop : span.2 ≤ body.length) :
    ∃ found, locateAt body span = .ok found ∧
      found.map (·.part) = readPart? (slice body span) ∧
      ∀ located ∈ found, located.Lies body span := by
  have hlength := Delimited.length_slice hstop
  -- The line break at the start is skipped by going on behind it.
  obtain ⟨skipped, hskipped, hskippedLe, hdrop⟩ : ∃ skipped,
      (if lineBreak.isPrefixOf (slice body span) then lineBreak.length else 0) = skipped ∧
        skipped ≤ span.2 - span.1 ∧
        dropLeadingBreak (slice body span) = (slice body span).drop skipped := by
    unfold dropLeadingBreak
    split_ifs with hprefix
    · have hle := (List.isPrefixOf_iff_prefix.mp hprefix).length_le
      exact ⟨_, rfl, by omega, rfl⟩
    · exact ⟨0, rfl, Nat.zero_le _, rfl⟩
  have hchunk : slice (slice body span) (skipped, (slice body span).length) =
      slice body (span.1 + skipped, span.2) := by
    have hend : span.1 + (span.2 - span.1) = span.2 := by omega
    rw [slice_slice (Nat.le_of_eq hlength), hlength, hend]
  have hchunkLength : (slice body (span.1 + skipped, span.2)).length =
      span.2 - (span.1 + skipped) := Delimited.length_slice hstop
  obtain ⟨found, hfound, hpart, hlies⟩ := locatePart_eq_ok (slice body (span.1 + skipped, span.2))
  refine ⟨found.map (·.shift (span.1 + skipped)), ?_, ?_, ?_⟩
  · have hwhole : checkedSlice body span.1 span.2 = .ok (slice body span) :=
      checkedSlice_eq_ok horder hstop
    rw [locateAt, hwhole]
    simp only [bind, Except.bind, hskipped]
    rw [checkedSlice_eq_ok (by omega) (Nat.le_refl _), hchunk]
    simp only [hfound]
    rfl
  · rw [readPart?_eq, hdrop, ← Delimited.slice_length, hchunk, ← hpart, Option.map_map]
    rfl
  · intro located hlocated
    obtain ⟨inner, hinner, rfl⟩ := Option.map_eq_some_iff.mp hlocated
    have hshift := (hlies inner hinner).shift (Nat.le_of_eq hchunkLength)
    obtain ⟨horder, hcontent, hnames⟩ := hshift
    refine ⟨⟨?_, horder.2.1, horder.2.2.1, horder.2.2.2.1, ?_⟩, hcontent, hnames⟩
    · exact (Nat.le_add_right _ _).trans horder.1
    · have hlast := horder.2.2.2.2
      rw [hchunkLength] at hlast
      exact hlast.trans (by show _ + _ ≤ _; omega)

/-! ## Bodies -/

/-- Steps that all succeed succeed together. -/
theorem mapM_eq_ok {α β ε : Type} {step : α → Except ε β} {result : α → β} {items : List α}
    (hstep : ∀ item ∈ items, step item = .ok (result item)) :
    items.mapM step = .ok (items.map result) := by
  induction items with
  | nil => rfl
  | cons item rest ih =>
    obtain ⟨hitem, hrest⟩ := List.forall_mem_cons.mp hstep
    rw [List.mapM_cons, hitem, ih hrest]
    rfl

/-- What lies in a slice inside another stands in that. -/
theorem slice_infix_slice {bytes : List UInt8} {span inner : Nat × Nat}
    (hstart : span.1 ≤ inner.1) (horder : inner.1 ≤ inner.2) (hstop : inner.2 ≤ span.2) :
    slice bytes inner <:+: slice bytes span := by
  have hinner : (span.1 + (inner.1 - span.1), span.1 + (inner.2 - span.1)) = inner :=
    Prod.ext (by dsimp only; omega) (by dsimp only; omega)
  have hslice := @slice_slice bytes span (inner.1 - span.1, inner.2 - span.1)
    (by dsimp only; omega)
  rw [hinner] at hslice
  rw [← hslice]
  exact Delimited.slice_infix _ _

/-- No access goes beyond the body, whatever its bytes are. The parts are those that are read without
places, they lie in the body one behind the other, and the boundary occurs in no content. -/
theorem locate_eq_ok (body : List UInt8) :
    ∃ located, locate body = .ok located ∧ located.map (·.part) = readParts body ∧
      (∀ found ∈ located, found.Lies body (0, body.length) ∧
        ¬ boundary body <:+: slice body found.content) ∧
      located.Pairwise fun found later => found.content.2 ≤ later.headers.1 := by
  have hline : (match Delimited.cut? lineBreak body with
      | some (line, _) => line
      | none => body) = boundary body := rfl
  rw [locate, checkedCut_eq_ok (by decide)]
  simp only [bind, Except.bind, hline]
  by_cases hempty : boundary body = []
  · refine ⟨[], ?_, ?_, by simp, .nil⟩
    · rw [if_pos (List.isEmpty_iff.mpr hempty)]
      rfl
    · rw [readParts, if_pos (List.isEmpty_iff.mpr hempty)]
      rfl
  · have hsplit := (Delimited.leftmostSplit_iff hempty).mpr
      (rfl : _ = Delimited.spans (boundary body) body)
    -- Every span has its result, so the results are those of the spans in their order.
    have hat : ∀ span ∈ Delimited.spans (boundary body) body, ∃ found,
        locateAt body span = .ok found ∧ found.map (·.part) = readPart? (slice body span) ∧
          ∀ located ∈ found, located.Lies body span :=
      fun span hspan => locateAt_eq_ok (hsplit.bounds span hspan).1 (hsplit.bounds span hspan).2
    choose! find hfind hpart hlies using hat
    refine ⟨(Delimited.spans (boundary body) body).filterMap find, ?_, ?_, ?_, ?_⟩
    · have hreduce : ((Delimited.spans (boundary body) body).map find).reduceOption =
          (Delimited.spans (boundary body) body).filterMap find := List.filterMap_map
      rw [if_neg (by simpa using hempty), mapM_eq_ok hfind]
      exact congrArg Except.ok hreduce
    · rw [readParts, if_neg (by simpa using hempty), Delimited.segments_eq_map_slice,
        List.filterMap_map, List.map_filterMap]
      exact List.filterMap_congr hpart
    · intro found hfound
      obtain ⟨span, hspan, hfound⟩ := List.mem_filterMap.mp hfound
      have hfoundLies := hlies span hspan found hfound
      obtain ⟨hstart, hheaders, hbetween, hcontent, hstop⟩ := hfoundLies.order
      have hbounds := hsplit.bounds span hspan
      refine ⟨⟨⟨Nat.zero_le _, hheaders, hbetween, hcontent, hstop.trans hbounds.2⟩,
        hfoundLies.content, hfoundLies.disposition⟩, fun hwithin => ?_⟩
      -- The boundary would occur in the piece that the content lies in.
      have hpiece : slice body span ∈ Delimited.segments (boundary body) body := by
        rw [Delimited.segments_eq_map_slice]
        exact List.mem_map_of_mem hspan
      exact Delimited.not_infix_of_mem_segments hempty hpiece
        (hwithin.trans (slice_infix_slice (by omega) hcontent hstop))
    · refine List.pairwise_filterMap.mpr (hsplit.increasing.imp_of_mem ?_)
      intro span later hspan hlater hbefore found hfound next hnext
      have hlast := (hlies span hspan found hfound).order.2.2.2.2
      have hfirst := (hlies later hlater next hnext).order.1
      omega

/-! ## What is read -/

/-- The upload that a part makes. -/
def Part.upload? (part : Part) : Option Upload :=
  part.filename.map fun filename =>
    { name := part.name
      filename
      mediaType := part.mediaType.getD defaultMediaType
      content := part.content }

/-- The name and the text that a part makes as a field. -/
def Part.field? (part : Part) : Option (String × String) :=
  if part.filename = none then some (part.name, Utf8.decode part.content) else none

/-- The uploads of a form are those that its parts make. -/
theorem uploads_read (body : List UInt8) :
    (FormData.read body).uploads = (readParts body).filterMap Part.upload? := by
  refine Accumulation.foldl_collect FormData.uploads Part.upload? (fun form part => ?_) _ {}
  rw [FormData.add, Part.upload?]
  cases part.filename with
  | none => exact (List.append_nil _).symm
  | some filename => rfl

/-- The fields of a form are the first ones of their names that its parts make. -/
theorem fields_read (body : List UInt8) :
    (FormData.read body).fields.toList =
      NameTable.firsts .exact ((readParts body).filterMap Part.field?) := by
  have hfold (parts : List Part) (form : FormData) : (parts.foldl FormData.add form).fields =
      (parts.filterMap Part.field?).foldl
        (fun fields field => fields.insertIfAbsent field.1 field.2) form.fields := by
    -- Fields are added to those that there are, so the induction is over any form.
    induction parts generalizing form with
    | nil => rfl
    | cons part rest ih =>
      rw [List.foldl_cons, ih, List.filterMap_cons, FormData.add, Part.field?]
      cases part.filename <;> rfl
  rw [FormData.read, hfold]
  exact NameTable.toList_ofList _

/-- A part makes one upload or one field. -/
theorem length_uploads_add_size_fields_le (body : List UInt8) :
    (FormData.read body).uploads.length + (FormData.read body).fields.size ≤
      (readParts body).length := by
  -- A part with a file name is no field, and one without is no upload.
  have hone (parts : List Part) : (parts.filterMap Part.upload?).length +
      (parts.filterMap Part.field?).length = parts.length := by
    induction parts with
    | nil => rfl
    | cons part rest ih =>
      rw [List.filterMap_cons, List.filterMap_cons, Part.upload?, Part.field?]
      cases part.filename <;> simp <;> omega
  have hfields := (NameTable.firsts_sublist .exact
    ((readParts body).filterMap Part.field?)).length_le
  have hsize : (FormData.read body).fields.size = (FormData.read body).fields.toList.length := rfl
  rw [hsize, fields_read, uploads_read, ← hone (readParts body)]
  omega

/-- The boundary stands at the beginning of the body. -/
theorem boundary_prefix (body : List UInt8) : boundary body <+: body := by
  rw [boundary]
  split
  next line rest hcut =>
    exact ⟨lineBreak ++ rest, by rw [Delimited.eq_append_of_cut? hcut, List.append_assoc]⟩
  next => exact List.prefix_rfl

/-- There are no more parts than there are occurrences of the boundary without overlaps. -/
theorem length_readParts_lt {body : List UInt8} (hempty : boundary body ≠ []) :
    (readParts body).length < (Delimited.spans (boundary body) body).length := by
  obtain ⟨after, hbody⟩ := boundary_prefix body
  have hcut : Delimited.cut? (boundary body) body = some ([], after) := by
    have hcut := Delimited.cut?_delimiter_append hempty after
    rwa [hbody] at hcut
  have hlength : (Delimited.segments (boundary body) body).length =
      (Delimited.spans (boundary body) body).length := by
    rw [Delimited.segments_eq_map_slice, List.length_map]
  -- Nothing stands in front of the first boundary, so the first piece is no part.
  have hfirst : readPart? [] = none := readPart?_eq_none List.nil_infix
  rw [readParts, if_neg (by simpa using hempty), ← hlength, Delimited.segments_of_cut? hcut,
    List.filterMap_cons, hfirst]
  exact Nat.lt_succ_of_le (List.length_filterMap_le _ _)

/-- Whatever the bytes of a body are, all that is read of it lies in it. Reading it by places goes
nowhere beyond it, and the parts that are found make the uploads and the fields. Their contents are
slices of the body one behind the other, in none of which the boundary occurs, and their names are
those of the dispositions of their headers: with a file name they are uploads, without one fields. A
body without a boundary holds nothing, and no body holds more than its boundaries. -/
theorem read_located (body : List UInt8) :
    ∃ located, locate body = .ok located ∧
      (FormData.read body).uploads = located.filterMap (·.part.upload?) ∧
      (FormData.read body).fields.toList =
        NameTable.firsts .exact (located.filterMap (·.part.field?)) ∧
      (∀ found ∈ located, found.Lies body (0, body.length) ∧
        ¬ boundary body <:+: slice body found.content) ∧
      (located.Pairwise fun found later => found.content.2 ≤ later.headers.1) ∧
      (boundary body = [] →
        (FormData.read body).uploads = [] ∧ (FormData.read body).fields.toList = []) ∧
      ∃ places : List Nat, (∀ place ∈ places, boundary body <+: body.drop place) ∧
        (places.Pairwise fun place later => place + (boundary body).length ≤ later) ∧
        (FormData.read body).uploads.length + (FormData.read body).fields.size ≤
          places.length := by
  obtain ⟨located, hlocate, hparts, hlies, hapart⟩ := locate_eq_ok body
  have hcount := length_uploads_add_size_fields_le body
  refine ⟨located, hlocate, ?_, ?_, hlies, hapart, fun hempty => ?_, ?_⟩
  · rw [uploads_read, ← hparts, List.filterMap_map]
    rfl
  · rw [fields_read, ← hparts, List.filterMap_map]
    rfl
  · have hnone : readParts body = [] := by
      rw [readParts, if_pos (List.isEmpty_iff.mpr hempty)]
    rw [uploads_read, fields_read, hnone]
    exact ⟨rfl, rfl⟩
  · by_cases hempty : boundary body = []
    · have hnone : readParts body = [] := by
        rw [readParts, if_pos (List.isEmpty_iff.mpr hempty)]
      rw [hnone] at hcount
      exact ⟨[], by simp, .nil, hcount⟩
    · obtain ⟨places, hlength, hat, hplaces⟩ := Delimited.exists_occurrences hempty body
      have hlt := length_readParts_lt hempty
      exact ⟨places, hat, hplaces, by omega⟩

end RelationGateway.Form
