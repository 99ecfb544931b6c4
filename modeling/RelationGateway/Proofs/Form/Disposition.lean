import RelationGateway.Form.Disposition
import RelationGateway.Proofs.Delimited
import RelationGateway.Proofs.Text.Basic

/-!
# Written dispositions

A disposition is written as a type and parameters with their values in quotes. The parameters are
read back from it, whatever the values hold. The disposition of a part has a name and perhaps the
name of a file.

* `Whole`, `dispositionPieces_intercalate`: pieces with closed quotes are told apart by the
  semicolons between them;
* `Quotable`, `parameter?_intercalate`: what may be written as a parameter is read back;
* `writeDisposition`, `parameter?_writeDisposition`: any disposition with parameters;
* `dispositionText`, `parameter?_dispositionText`: the disposition of a part.
-/

namespace RelationGateway.Form

/-! ## Pieces -/

/-- The text is read as one piece: its quotes are closed, and no semicolon stands outside them. -/
def Whole (piece : String) : Prop :=
  ∀ scan : DispositionScan, scan.quoted = false →
    piece.toList.foldl DispositionScan.feed scan =
      { scan with piece := piece.toList.reverse ++ scan.piece }

/-- Characters that are no quotes are read into the open piece, semicolons only inside quotes. -/
theorem foldl_feed_plain {chars : List Char} (hquote : '"' ∉ chars) (scan : DispositionScan)
    (hsemicolon : scan.quoted = true ∨ ';' ∉ chars) :
    chars.foldl DispositionScan.feed scan = { scan with piece := chars.reverse ++ scan.piece } := by
  induction chars generalizing scan with
  | nil => rfl
  | cons c rest ih =>
    obtain ⟨hc, hrest⟩ := not_or.mp (mt List.mem_cons.mpr hquote)
    have hfeed : scan.feed c = { scan with piece := c :: scan.piece } := by
      have hclose : (c == ';' && !scan.quoted) = false := by
        rcases hsemicolon with hquoted | hsemicolon
        · rw [hquoted, Bool.not_true, Bool.and_false]
        · have hne : c ≠ ';' := fun heq => hsemicolon (heq ▸ List.mem_cons_self)
          rw [beq_eq_false_iff_ne.mpr hne, Bool.false_and]
      have hopen : (c == '"') = false := beq_eq_false_iff_ne.mpr (Ne.symm hc)
      simp only [DispositionScan.feed, hopen, hclose, Bool.false_eq_true, if_false]
    have hsemicolon' : scan.quoted = true ∨ ';' ∉ rest :=
      hsemicolon.imp_right fun h => mt (List.mem_cons_of_mem c) h
    rw [List.foldl_cons, hfeed, ih hrest { scan with piece := c :: scan.piece } hsemicolon',
      List.reverse_cons, List.append_assoc]
    rfl

/-- A text without quotes and semicolons is one piece. -/
theorem whole_of_not_mem {piece : String} (hquote : '"' ∉ piece.toList)
    (hsemicolon : ';' ∉ piece.toList) : Whole piece :=
  fun scan _ => foldl_feed_plain hquote scan (.inr hsemicolon)

/-- A parameter with its value in quotes, after a space. -/
def parameterText (name value : String) : String := " " ++ (name ++ "=" ++ ("\"" ++ value ++ "\""))

/-- A parameter is one piece, whatever its value holds between the quotes. -/
theorem whole_parameterText {name value : String} (hname : '"' ∉ name.toList)
    (hsemicolon : ';' ∉ name.toList) (hvalue : '"' ∉ value.toList) :
    Whole (parameterText name value) := by
  intro scan hscan
  have hchars : (parameterText name value).toList =
      (' ' :: name.toList ++ ['=']) ++ ('"' :: (value.toList ++ ['"'])) := by
    simp only [parameterText, String.toList_append, List.append_assoc]
    rfl
  have hbefore : '"' ∉ ' ' :: name.toList ++ ['='] ∧ ';' ∉ ' ' :: name.toList ++ ['='] := by
    simp [hname, hsemicolon]
  rw [hchars, List.foldl_append, foldl_feed_plain hbefore.1 scan (.inr hbefore.2),
    List.foldl_cons, List.foldl_append]
  -- The first quote opens the quotation, in which semicolons do not count, the last closes it.
  rw [foldl_feed_plain hvalue _ (.inl (by simp [DispositionScan.feed, hscan]))]
  simp [DispositionScan.feed, hscan]

/-- Pieces with semicolons between them are read as the pieces. -/
theorem dispositionPieces_intercalate {pieces : List String} (hpieces : pieces ≠ [])
    (hwhole : ∀ piece ∈ pieces, Whole piece) :
    dispositionPieces (String.intercalate ";" pieces) = pieces := by
  -- The closed pieces are kept in reverse, so the induction is over any of them.
  have hscan (closed : List String) :
      let scan := (String.intercalate ";" pieces).toList.foldl DispositionScan.feed { closed }
      (scan.pieceText :: scan.closed).reverse = closed.reverse ++ pieces := by
    induction pieces generalizing closed with
    | nil => exact absurd rfl hpieces
    | cons piece rest ih =>
      obtain ⟨hpiece, hrest⟩ := List.forall_mem_cons.mp hwhole
      cases rest with
      | nil =>
        dsimp only
        rw [String.intercalate_singleton, hpiece { closed } rfl]
        simp [DispositionScan.pieceText]
      | cons next rest =>
        have hclose : DispositionScan.feed { closed, piece := piece.toList.reverse ++ [] } ';' =
            { closed := piece :: closed } := by
          simp [DispositionScan.feed, DispositionScan.pieceText]
        have hih := ih (List.cons_ne_nil _ _) hrest (piece :: closed)
        have hchars : (String.intercalate ";" (piece :: next :: rest)).toList =
            piece.toList ++ ';' :: (String.intercalate ";" (next :: rest)).toList := by
          rw [String.intercalate_cons_cons, String.toList_append, String.toList_append]
          simp
        dsimp only at hih ⊢
        rw [hchars, List.foldl_append, hpiece { closed } rfl, List.foldl_cons, hclose, hih,
          List.reverse_cons, List.append_assoc]
        rfl
  exact hscan []

/-! ## Parameters -/

/-- The text holds no sign of the notation. -/
def Signless (text : String) : Prop := ∀ sign ∈ [';', '"', '='], sign ∉ text.toList

instance (text : String) : Decidable (Signless text) :=
  List.decidableBAll (fun sign => sign ∉ text.toList) [';', '"', '=']

/-- The parameter, a name and a value, can be written with its value in quotes. -/
structure Quotable (parameter : String × String) : Prop where
  /-- The name holds no sign of the notation. -/
  name : Signless parameter.1
  /-- The name has no blanks around it. -/
  unpadded : Text.Unpadded parameter.1
  /-- The value holds no quote. -/
  value : '"' ∉ parameter.2.toList

/-- A parameter has its value under its name and under no other. -/
theorem pieceValue?_parameterText (key : String) {name : String} (value : String)
    (hname : '=' ∉ name.toList) (hunpadded : Text.Unpadded name) :
    pieceValue? key (parameterText name value) =
      if Text.sameIgnoringCase name key then some value else none := by
  have hquote : Text.Unpadded "\"" := by decide
  have hequals : Text.Unpadded "=" := by decide
  -- The quotes keep the blanks at the ends of the value.
  have hquoted : Text.Unpadded ("\"" ++ value ++ "\"") :=
    hquote.enclose hquote (by decide) (by decide) value
  have hparameter : Text.Unpadded (name ++ "=" ++ ("\"" ++ value ++ "\"")) :=
    (hunpadded.append hequals).append hquoted
  have hcut : Text.cut? "=" (name ++ "=" ++ ("\"" ++ value ++ "\"")) =
      some (name, "\"" ++ value ++ "\"") := Text.cut?_of_not_mem rfl hname _
  rw [pieceValue?, parameterText, Text.trim_space_append, Text.trim_eq_self hparameter, hcut]
  simp only [Option.bind_eq_bind, Option.bind_some, Text.trim_eq_self hunpadded,
    Text.trim_eq_self hquoted, Text.unenclosed_enclosed]

/-- A text without `=` is no parameter. -/
theorem pieceValue?_of_not_mem (key : String) {piece : String} (h : '=' ∉ piece.toList) :
    pieceValue? key piece = none := by
  have hcut : Text.cut? "=" (Text.trim piece) = none :=
    Text.cut?_eq_none_iff.mpr
      (Delimited.cut?_eq_none_of_not_mem (mt Text.mem_of_mem_trim h) [])
  rw [pieceValue?, hcut]
  rfl

/-- Of a type and parameters with semicolons between them, the first parameter with the wanted name
gives the value. -/
theorem parameter?_intercalate {type : String} (htype : Signless type)
    {parameters : List (String × String)} (hparameters : ∀ p ∈ parameters, Quotable p)
    (key : String) :
    parameter? (String.intercalate ";" (type :: parameters.map fun p => parameterText p.1 p.2))
        key = (parameters.find? (Text.sameIgnoringCase ·.1 key)).map (·.2) := by
  have hwhole : ∀ piece ∈ type :: parameters.map fun p => parameterText p.1 p.2, Whole piece := by
    refine List.forall_mem_cons.mpr ⟨?_, List.forall_mem_map.mpr fun p hp => ?_⟩
    · exact whole_of_not_mem (htype _ (by simp)) (htype _ (by simp))
    · have hp := hparameters p hp
      exact whole_parameterText (hp.name _ (by simp)) (hp.name _ (by simp)) hp.value
  have hnone : pieceValue? key type = none := pieceValue?_of_not_mem key (htype _ (by simp))
  rw [parameter?, dispositionPieces_intercalate (List.cons_ne_nil _ _) hwhole,
    List.findSome?_cons, hnone]
  clear hwhole
  induction parameters with
  | nil => rfl
  | cons p rest ih =>
    obtain ⟨hp, hrest⟩ := List.forall_mem_cons.mp hparameters
    rw [List.map_cons, List.findSome?_cons, List.find?_cons,
      pieceValue?_parameterText key p.2 (hp.name _ (by simp)) hp.unpadded]
    cases Text.sameIgnoringCase p.1 key with
    | true => rfl
    | false => exact ih hrest

/-! ## Written dispositions -/

/-- The disposition of a type with parameters. -/
def writeDisposition (type : String) (parameters : List (String × String)) : String :=
  type ++ String.join (parameters.map fun p => "; " ++ p.1 ++ "=\"" ++ p.2 ++ "\"")

/-- A written disposition is its type and its parameters with semicolons between. -/
theorem writeDisposition_eq (type : String) (parameters : List (String × String)) :
    writeDisposition type parameters =
      String.intercalate ";" (type :: parameters.map fun p => parameterText p.1 p.2) := by
  have hsemicolon : "; " = ";" ++ " " := by decide
  have hquote : "=\"" = "=" ++ "\"" := by decide
  rw [← Text.append_join_map, writeDisposition, List.map_map]
  refine congrArg (type ++ String.join ·) (List.map_congr_left fun p _ => ?_)
  simp only [Function.comp_apply, parameterText, hsemicolon, hquote, String.append_assoc]

/-- A parameter is read from a written disposition as it was written, whatever the values of the
parameters hold. It is the first one with the wanted name, in whatever letters, and without one
there is none. -/
theorem parameter?_writeDisposition {type : String} (htype : Signless type)
    {parameters : List (String × String)} (hparameters : ∀ p ∈ parameters, Quotable p)
    (key : String) :
    parameter? (writeDisposition type parameters) key =
      (parameters.find? (Text.sameIgnoringCase ·.1 key)).map (·.2) := by
  rw [writeDisposition_eq, parameter?_intercalate htype hparameters]

/-- Parameters whose values look like other parameters, and one with a repeated name. -/
def imitations : List (String × String) :=
  [("name", " a\u2003; filename=evil.sh "), ("", "; name="), ("NAME", "b"), ("file*", "=")]

/-- What the values look like is no parameter. -/
theorem parameter?_writeDisposition_imitations :
    writeDisposition "x" imitations =
        "x; name=\" a\u2003; filename=evil.sh \"; =\"; name=\"; NAME=\"b\"; file*=\"=\"" ∧
      (∀ p ∈ imitations, Quotable p) ∧
      parameter? (writeDisposition "x" imitations) "Name" = some " a\u2003; filename=evil.sh " ∧
      parameter? (writeDisposition "x" imitations) "filename" = none := by
  have hquotable : ∀ p ∈ imitations, Quotable p := by
    have hall : ∀ p ∈ imitations, Signless p.1 ∧ Text.Unpadded p.1 ∧ '"' ∉ p.2.toList := by decide
    exact fun p hp => ⟨(hall p hp).1, (hall p hp).2.1, (hall p hp).2.2⟩
  have hread (key : String) := parameter?_writeDisposition (by decide : Signless "x") hquotable key
  have hname : Text.sameIgnoringCase "name" "Name" := Text.sameIgnoringCase_iff.mpr (by decide)
  have hfirst : imitations.find? (Text.sameIgnoringCase ·.1 "Name") = imitations.head? :=
    List.find?_cons_of_pos hname
  have hnone : ∀ p ∈ imitations, ¬ Text.sameIgnoringCase p.1 "filename" := by
    simp only [Text.sameIgnoringCase_iff]
    decide
  refine ⟨?_, hquotable, ?_, ?_⟩
  · rw [← String.toList_inj]
    simp only [writeDisposition, imitations, String.toList_append, String.toList_join,
      List.map_cons, List.map_nil, List.flatMap_cons, List.flatMap_nil]
    decide
  · rw [hread, hfirst]
    rfl
  · rw [hread, List.find?_eq_none.mpr hnone, Option.map_none]

/-- The disposition of a part with a name and perhaps the name of a file. -/
def dispositionText (name : String) (filename : Option String) : String :=
  "form-data; name=\"" ++ name ++ "\"" ++
    filename.elim "" fun filename => "; filename=\"" ++ filename ++ "\""

/-- The parameters of a part. -/
def partParameters (name : String) (filename : Option String) : List (String × String) :=
  ("name", name) :: filename.toList.map ("filename", ·)

/-- The disposition of a part is written with its parameters. -/
theorem dispositionText_eq (name : String) (filename : Option String) :
    dispositionText name filename =
      writeDisposition "form-data" (partParameters name filename) := by
  -- The texts that are written are taken apart at the signs of the notation.
  have hstart : "form-data; name=\"" = "form-data" ++ ("; " ++ "name" ++ "=\"") := by
    rw [← String.toList_inj]
    simp only [String.toList_append]
    decide
  have hnext : "; filename=\"" = "; " ++ "filename" ++ "=\"" := by
    rw [← String.toList_inj]
    simp only [String.toList_append]
    decide
  unfold dispositionText writeDisposition partParameters
  cases filename with
  | none =>
    simp only [hstart, Option.elim_none, Option.toList_none, List.map_nil, List.map_cons,
      String.join_cons, String.join_nil, String.append_assoc, String.append_empty]
  | some filename =>
    simp only [hstart, hnext, Option.elim_some, Option.toList_some, List.map_nil, List.map_cons,
      String.join_cons, String.join_nil, String.append_assoc, String.append_empty]

/-- A written disposition has the parameters that it is written with. -/
theorem parameter?_dispositionText {name : String} {filename : Option String}
    (hname : '"' ∉ name.toList) (hfilename : ∀ text ∈ filename, '"' ∉ text.toList) :
    parameter? (dispositionText name filename) "name" = some name ∧
      parameter? (dispositionText name filename) "filename" = filename := by
  have hnames : ∀ key ∈ ["name", "filename"], Signless key ∧ Text.Unpadded key := by decide
  have hquotable {key value : String} (hkey : key ∈ ["name", "filename"])
      (hvalue : '"' ∉ value.toList) : Quotable (key, value) :=
    ⟨(hnames key hkey).1, (hnames key hkey).2, hvalue⟩
  have hparameters : ∀ p ∈ partParameters name filename, Quotable p := by
    refine List.forall_mem_cons.mpr ⟨hquotable (by simp) hname, ?_⟩
    exact List.forall_mem_map.mpr fun text htext =>
      hquotable (by simp) (hfilename text (Option.mem_toList.mp htext))
  have hread (key : String) : parameter? (dispositionText name filename) key =
      ((partParameters name filename).find? (Text.sameIgnoringCase ·.1 key)).map (·.2) := by
    rw [dispositionText_eq, writeDisposition_eq, parameter?_intercalate (by decide) hparameters]
  have hsame (key : String) : Text.sameIgnoringCase key key = true := beq_self_eq_true _
  have hother : Text.sameIgnoringCase "name" "filename" = false := by
    rw [← Bool.not_eq_true, Text.sameIgnoringCase_iff]
    decide
  rw [hread, hread]
  cases filename <;> simp [partParameters, hsame, hother]

end RelationGateway.Form
