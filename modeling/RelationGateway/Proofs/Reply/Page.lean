import RelationGateway.Proofs.Accumulation
import RelationGateway.Proofs.Reply.Response

/-!
# What a page says

The message of a failure may be any text, also one that looks like a page or like the head of a
response. It is written into the page with entities, and it is read back from there as the text that
it is, between the same tags whatever it holds.

* `entities`, `unescape`: the signs that are written as entities, and how a text is read back;
* `Escapes`, `escapes_escape`: no sign of a page stands in a text that is written for one, and it is
  read back;
* `readTags?`, `readTags?_writeTags`: the tags of a page with the texts behind them are read back;
* `response_faithful`: what an error page holds.
-/

namespace RelationGateway.Page

/-! ## Entities -/

/-- The signs that are written as entities, each with its entity. -/
def entities : List (Char × String) :=
  [('&', "&amp;"), ('<', "&lt;"), ('>', "&gt;"), ('"', "&quot;"), ('\'', "&#39;")]

/-- A character is written as its entity, or as itself if it has none. -/
theorem escapeChar_cases (c : Char) :
    (∃ entity, (c, entity) ∈ entities ∧ escapeChar c = entity.toList) ∨
      c ∉ entities.map (·.1) ∧ escapeChar c = [c] := by
  by_cases h : c ∈ entities.map (·.1)
  · obtain ⟨⟨sign, entity⟩, hentity, rfl⟩ := List.mem_map.mp h
    have hwritten : ∀ pair ∈ entities, escapeChar pair.1 = pair.2.toList := by decide
    exact .inl ⟨entity, hentity, hwritten _ hentity⟩
  · refine .inr ⟨h, ?_⟩
    unfold escapeChar
    split
    -- A character without an entity is met by the last case alone.
    case h_6 => rfl
    all_goals exact absurd (by decide) h

/-- The characters with the entities replaced by their signs, from the left. -/
def unescapeChars : List Char → List Char
  | '&' :: 'a' :: 'm' :: 'p' :: ';' :: rest => '&' :: unescapeChars rest
  | '&' :: 'l' :: 't' :: ';' :: rest => '<' :: unescapeChars rest
  | '&' :: 'g' :: 't' :: ';' :: rest => '>' :: unescapeChars rest
  | '&' :: 'q' :: 'u' :: 'o' :: 't' :: ';' :: rest => '"' :: unescapeChars rest
  | '&' :: '#' :: '3' :: '9' :: ';' :: rest => '\'' :: unescapeChars rest
  | c :: rest => c :: unescapeChars rest
  | [] => []

/-- The text with the entities replaced by their signs. -/
def unescape (s : String) : String := String.ofList (unescapeChars s.toList)

example : unescape "&lt;b&gt; &amp;lt; &unknown;" = "<b> &lt; &unknown;" := by decide +kernel

/-- An entity at the start is replaced by its sign. -/
theorem unescapeChars_entity {pair : Char × String} (hpair : pair ∈ entities) (rest : List Char) :
    unescapeChars (pair.2.toList ++ rest) = pair.1 :: unescapeChars rest := by
  simp only [entities, List.mem_cons, List.not_mem_nil, or_false] at hpair
  rcases hpair with rfl | rfl | rfl | rfl | rfl <;> rfl

/-- What is no ampersand begins no entity. -/
theorem unescapeChars_cons {c : Char} (hc : c ≠ '&') (rest : List Char) :
    unescapeChars (c :: rest) = c :: unescapeChars rest := by
  rw [unescapeChars] <;> exact fun _ heq => absurd heq hc

/-- What is written for some characters is read back. -/
theorem unescapeChars_flatMap_escapeChar (chars : List Char) :
    unescapeChars (chars.flatMap escapeChar) = chars := by
  induction chars with
  | nil => rfl
  | cons c rest ih =>
    rw [List.flatMap_cons]
    rcases escapeChar_cases c with ⟨entity, hentity, hc⟩ | ⟨hplain, hc⟩
    · rw [hc, unescapeChars_entity hentity, ih]
    · have hne : c ≠ '&' := fun heq => hplain (heq ▸ by decide)
      rw [hc, List.singleton_append, unescapeChars_cons hne, ih]

/-- What is written for a text is read back. -/
theorem unescape_escape (s : String) : unescape (escape s) = s := by
  rw [unescape, escape, String.toList_ofList, unescapeChars_flatMap_escapeChar,
    String.ofList_toList]

/-- Texts one behind the other are written one behind the other. -/
theorem escape_append (s t : String) : escape (s ++ t) = escape s ++ escape t := by
  rw [escape, String.toList_append, List.flatMap_append, String.ofList_append]
  rfl

/-- No entity holds a sign but its ampersand. -/
theorem entity_eq {pair : Char × String} (hpair : pair ∈ entities) :
    ∃ name, pair.2.toList = '&' :: name ∧ ∀ sign ∈ entities.map (·.1), sign ∉ name := by
  have hall : ∀ pair ∈ entities, pair.2.toList.head? = some '&' ∧
      ∀ other ∈ entities, other.1 ∉ pair.2.toList.tail := by decide
  obtain ⟨hhead, htail⟩ := hall pair hpair
  exact ⟨_, (List.cons_head?_tail hhead).symm, List.forall_mem_map.mpr htail⟩

/-- The signs of a page, but for the one that begins an entity. -/
def markup : List Char := ['<', '>', '"', '\'']

/-- No sign of a page is written for a character. -/
theorem not_mem_escapeChar {sign : Char} (hsign : sign ∈ markup) (c : Char) :
    sign ∉ escapeChar c := by
  have hmarkup : markup ⊆ entities.map (·.1) ∧ '&' ∉ markup := by decide
  have hmem : sign ∈ entities.map (·.1) := hmarkup.1 hsign
  have hne : sign ≠ '&' := fun heq => hmarkup.2 (heq ▸ hsign)
  rcases escapeChar_cases c with ⟨entity, hentity, hc⟩ | ⟨hplain, hc⟩
  · obtain ⟨name, hname, hnone⟩ := entity_eq hentity
    rw [hc, hname]
    exact List.not_mem_cons_of_ne_of_not_mem hne (hnone sign hmem)
  · rw [hc, List.mem_singleton]
    rintro rfl
    exact hplain hmem

/-- An ampersand that is written for a character begins an entity. -/
theorem entity_of_escapeChar_eq {c : Char} {left right : List Char}
    (h : escapeChar c = left ++ '&' :: right) :
    ∃ pair ∈ entities, pair.2.toList = '&' :: right := by
  rcases escapeChar_cases c with ⟨entity, hentity, hc⟩ | ⟨hplain, hc⟩
  · obtain ⟨name, hname, hnone⟩ := entity_eq hentity
    refine ⟨_, hentity, ?_⟩
    rw [hc, hname] at h
    cases left with
    | nil => rw [hname, h, List.nil_append]
    | cons d left =>
      -- A second ampersand would stand in the rest of the entity.
      have hmem : '&' ∈ name := (List.cons.inj h).2 ▸ by simp
      exact absurd hmem (hnone '&' (by decide))
  · have hmem : '&' ∈ escapeChar c := h ▸ by simp
    rw [hc, List.mem_singleton] at hmem
    exact absurd (hmem ▸ by decide) hplain

/-- The text is written for another one so that no sign of a page is left, and it is read back. -/
structure Escapes (text written : String) : Prop where
  /-- No sign of a page stands in it. -/
  not_mem : ∀ sign ∈ markup, sign ∉ written.toList
  /-- Every ampersand begins an entity. -/
  entity : ∀ before after, written.toList = before ++ '&' :: after →
    ∃ pair ∈ entities, pair.2.toList <+: '&' :: after
  /-- With the entities replaced by their signs it is the text. -/
  unescape_eq : unescape written = text

/-- A text is written for a page so that no sign of a page is left. -/
theorem escapes_escape (text : String) : Escapes text (escape text) where
  not_mem sign hsign := by
    rw [escape, String.toList_ofList, List.mem_flatMap]
    rintro ⟨c, -, hc⟩
    exact not_mem_escapeChar hsign c hc
  entity before after heq := by
    rw [escape, String.toList_ofList] at heq
    obtain ⟨_, c, rest, left, right, -, hc, -, rfl⟩ :=
      Accumulation.exists_of_flatMap_eq_append_cons heq
    obtain ⟨pair, hpair, hentity⟩ := entity_of_escapeChar_eq hc
    exact ⟨pair, hpair, rest.flatMap escapeChar, by rw [hentity]; rfl⟩
  unescape_eq := unescape_escape text

/-! ## Tags -/

/-- A tag with the text behind it. -/
def writeTag (tag : String × String) : String := "<" ++ (tag.1 ++ ">" ++ escape tag.2)

/-- The tag of a piece of a page and the text behind it. -/
def readTag? (piece : String) : Option (String × String) :=
  (Text.cut? ">" piece).map fun (tag, text) => (tag, unescape text)

/-- The tags of a page, each with the text behind it. Nothing stands in front of the first one. -/
def readTags? (page : String) : Option (List (String × String)) :=
  match Text.segments "<" page with
  | "" :: pieces => pieces.mapM readTag?
  | _ => none

/-- The tag holds no sign that ends a tag or begins one. -/
def IsTag (tag : String) : Prop := '<' ∉ tag.toList ∧ '>' ∉ tag.toList

instance (tag : String) : Decidable (IsTag tag) := inferInstanceAs (Decidable (_ ∧ _))

/-- A tag is read back with the text behind it, whatever that holds. -/
theorem readTag?_writeTag {tag : String × String} (htag : IsTag tag.1) :
    readTag? (tag.1 ++ ">" ++ escape tag.2) = some tag := by
  have hcut : Text.cut? ">" (tag.1 ++ ">" ++ escape tag.2) = some (tag.1, escape tag.2) :=
    Text.cut?_of_not_mem rfl htag.2 _
  rw [readTag?, hcut, Option.map_some]
  exact congrArg (fun text => some (tag.1, text)) (unescape_escape tag.2)

/-- A page is cut in front of its tags and nowhere else. -/
theorem segments_writeTags {tags : List (String × String)} (htags : ∀ tag ∈ tags, IsTag tag.1) :
    Text.segments "<" (String.join (tags.map writeTag)) =
      "" :: tags.map fun tag => tag.1 ++ ">" ++ escape tag.2 := by
  refine (Text.segments_singleton_eq_iff rfl).mpr ⟨List.cons_ne_nil _ _, ?_, ?_⟩
  · -- No tag holds the sign that begins one, and what is written for a text does not either.
    refine List.forall_mem_cons.mpr ⟨by decide, List.forall_mem_map.mpr fun tag htag => ?_⟩
    have hclose : '<' ∉ ">".toList := by decide
    have htext := (escapes_escape tag.2).not_mem '<' (by decide)
    simp only [String.toList_append, List.mem_append, not_or]
    exact ⟨⟨(htags tag htag).1, hclose⟩, htext⟩
  · rw [← Text.append_join_map, List.map_map]
    exact String.empty_append

/-- Tags are read back with the texts behind them. -/
theorem readTags?_writeTags {tags : List (String × String)} (htags : ∀ tag ∈ tags, IsTag tag.1) :
    readTags? (String.join (tags.map writeTag)) = some tags := by
  rw [readTags?, segments_writeTags htags]
  change (tags.map fun tag => tag.1 ++ ">" ++ escape tag.2).mapM readTag? = some tags
  induction tags with
  | nil => rfl
  | cons tag rest ih =>
    obtain ⟨htag, hrest⟩ := List.forall_mem_cons.mp htags
    rw [List.map_cons, List.mapM_cons, readTag?_writeTag htag, ih hrest]
    rfl

/-- The tags of an error page with a title and a message. -/
def pageTags (title message : String) : List (String × String) :=
  [("!DOCTYPE html", "\n"), ("html", ""), ("head", ""), ("title", title), ("/title", ""),
    ("/head", ""), ("body", ""), ("h1", title), ("/h1", ""), ("p", message), ("/p", ""),
    ("/body", ""), ("/html", "\n")]

/-- An error page is written tag by tag. -/
theorem page_eq (title message : String) :
    page title message = String.join ((pageTags title message).map writeTag) := by
  have hempty : escape "" = "" := by decide
  have hline : escape "\n" = "\n" := by decide
  apply String.toList_inj.mp
  unfold page pageTags writeTag
  simp only [hempty, hline, List.map_cons, List.map_nil, String.toList_append, String.toList_join,
    List.flatMap_cons, List.flatMap_nil, List.append_assoc]
  rfl

/-- The tags of an error page are no texts. -/
theorem isTag_pageTags (title message : String) :
    ∀ tag ∈ pageTags title message, IsTag tag.1 := by
  have hnames : ∀ name ∈ (pageTags "" "").map (·.1), IsTag name := by decide
  exact fun tag htag => hnames tag.1 (List.mem_map_of_mem (f := (·.1)) htag)

/-! ## Responses -/

/-- A failed request is answered with three lines, up to the first empty line whatever the message
holds, and then with a page that has the same tags for all messages. The title and the message are
the texts between these tags. A text is written into a page so that no sign of a page is left in it
but the ampersands of entities, and so that it is read back. No two texts are written alike, and
texts one behind the other are written one behind the other. -/
theorem response_faithful (status : UInt16) (message : String) :
    Delimited.FirstCut "\r\n\r\n".toList (response status message).toList
        (String.intercalate "\r\n" ["Status: " ++ Http.statusTitle status,
          "Content-Type: text/html", "Connection: close"]).toList
        ("<!DOCTYPE html>\n<html><head><title>" ++ escape (Http.statusTitle status) ++
          "</title></head><body><h1>" ++ escape (Http.statusTitle status) ++ "</h1><p>" ++
          escape message ++ "</p></body></html>\n").toList ∧
      Response.StatusLine status ("Status: " ++ Http.statusTitle status) ∧
      readTags? (page (Http.statusTitle status) message) =
        some (pageTags (Http.statusTitle status) message) ∧
      (∀ text, Escapes text (escape text)) ∧
      Function.Injective escape ∧
      ∀ front back, escape (front ++ back) = escape front ++ escape back := by
  have hread (title : String) : readTags? (page title message) = some (pageTags title message) := by
    rw [page_eq, readTags?_writeTags (isTag_pageTags title message)]
  have hinverse : Function.LeftInverse unescape escape := unescape_escape
  exact ⟨Response.firstCut_page status message, Response.statusLine_statusLine status, hread _,
    escapes_escape, hinverse.injective, escape_append⟩

end RelationGateway.Page
