import Mathlib.Data.List.TakeWhile
import RelationGateway.Cgi.Environment
import RelationGateway.Proofs.Delimited
import RelationGateway.Proofs.NameTable
import RelationGateway.Proofs.Text.Basic

/-!
# Blocks of variables are read back

A block that was written is read as the variables that it was made of, in their order. Of a value
its first line is kept, without the blanks at its end.

* `kept`: what is kept of a variable;
* `read_write_eq`: reading a block that was written;
* `headLine`, `read_write_headLine`: no value makes, hides or changes another variable.
-/

namespace RelationGateway.Cgi

/-! ## Names -/

/-- A character of a name is no blank, no line feed, no `=` and no question mark. -/
theorem plain_of_inName {c : Char} (h : inName c) : ¬ Text.isBlank c ∧ c ∉ ['\n', '=', '?'] := by
  have hascii : c.toNat < 127 := by
    rcases Bool.or_eq_true_iff.mp h with h | h
    · exact Text.toNat_lt_of_isAlphanum h
    · rw [beq_iff_eq.mp h]
      decide
  have hall : ∀ c : Char, c.toNat < 127 → inName c → ¬ Text.isBlank c ∧ c ∉ ['\n', '=', '?'] :=
    Text.forall_toNat_lt (by decide)
  exact hall c hascii h

/-- The name of a variable is not empty. -/
theorem exists_of_isVariableName {name : String} (h : isVariableName name) :
    ∃ c rest, name.toList = c :: rest ∧ ∀ d ∈ c :: rest, inName d := by
  unfold isVariableName at h
  cases hname : name.toList with
  | nil =>
    rw [hname] at h
    cases h
  | cons c rest =>
    rw [hname] at h
    obtain ⟨hbegins, hrest⟩ := Bool.and_eq_true_iff.mp h
    refine ⟨c, rest, rfl, List.forall_mem_cons.mpr ⟨?_, List.all_eq_true.mp hrest⟩⟩
    -- What may begin a name may stand in it.
    rcases Bool.or_eq_true_iff.mp hbegins with hc | hc
    · simp [inName, Char.isAlphanum, hc]
    · simp [inName, hc]

theorem not_mem_of_isVariableName {name : String} (h : isVariableName name) {c : Char}
    (hc : c ∈ ['\n', '=', '?']) : c ∉ name.toList := by
  obtain ⟨d, rest, hname, hall⟩ := exists_of_isVariableName h
  intro hmem
  exact (plain_of_inName (hall c (hname ▸ hmem))).2 hc

/-! ## Lines -/

/-- A first line holds no line feed. -/
theorem not_mem_firstLine (value : String) : '\n' ∉ (firstLine value).toList := by
  unfold firstLine
  split
  next line rest hcut =>
    have hline : '\n' ∉ line.toList := Text.not_mem_of_cut? rfl hcut
    cases hdrop : Text.dropTail? "\r" line with
    | none => exact hline
    | some front =>
      rw [Text.dropTail?_eq_some_iff.mp hdrop, String.toList_append] at hline
      exact mt (List.mem_append_left _) hline
  next hcut => exact Text.not_mem_of_cut?_eq_none rfl hcut

/-- A text begins with its first line. -/
theorem firstLine_prefix (value : String) : (firstLine value).toList <+: value.toList := by
  unfold firstLine
  split
  next line rest hcut =>
    have hline : line.toList <+: value.toList := by
      rw [Text.eq_append_of_cut? hcut, String.append_assoc, String.toList_append]
      exact List.prefix_append _ _
    cases hdrop : Text.dropTail? "\r" line with
    | none => exact hline
    | some front =>
      refine List.IsPrefix.trans ?_ hline
      rw [Text.dropTail?_eq_some_iff.mp hdrop, String.toList_append]
      exact List.prefix_append _ _
  next => exact List.prefix_rfl

/-- A text without line feeds is its first line. -/
theorem firstLine_eq_self {value : String} (h : '\n' ∉ value.toList) : firstLine value = value := by
  have hcut : Text.cut? "\n" value = none :=
    Text.cut?_eq_none_iff.mpr (Delimited.cut?_eq_none_of_not_mem h [])
  rw [firstLine, hcut]

/-- What is kept of a variable. -/
def kept (pair : String × String) : String × String :=
  (pair.1, Text.trimEnd (firstLine pair.2))

@[simp]
theorem fst_kept (pair : String × String) : (kept pair).1 = pair.1 := by rw [kept]

@[simp]
theorem snd_kept (pair : String × String) :
    (kept pair).2 = Text.trimEnd (firstLine pair.2) := by rw [kept]

/-- Of a value that is found by its name the same is kept. -/
theorem lookup_map_kept (vars : List (String × String)) (name : String) :
    (vars.map kept).lookup name =
      (vars.lookup name).map fun value => Text.trimEnd (firstLine value) := by
  induction vars with
  | nil => rfl
  | cons pair rest ih =>
    rw [List.map_cons, List.lookup_cons, List.lookup_cons, fst_kept, snd_kept, ih]
    cases name == pair.1 <;> rfl

/-- The line of a variable, without the line feed in front of it. -/
def lineOf (pair : String × String) : String := pair.1 ++ "=" ++ firstLine pair.2

/-- A variable is read from its line as it is kept. -/
theorem readLine?_lineOf {pair : String × String} (h : isVariableName pair.1) :
    readLine? (lineOf pair) = some (kept pair) := by
  have htrim : Text.trim (lineOf pair) =
      pair.1 ++ "=" ++ Text.trimEnd (firstLine pair.2) := by
    -- A name begins without a blank, and `=` is none, so nothing but the value is trimmed.
    have hhead : ∀ c ∈ (lineOf pair).toList.head?, ¬ Text.isBlank c := by
      obtain ⟨d, rest, hname, hall⟩ := exists_of_isVariableName h
      intro c hc
      rw [lineOf, String.toList_append, String.toList_append, hname] at hc
      obtain rfl : d = c := Option.some.inj hc
      exact (plain_of_inName (hall d List.mem_cons_self)).1
    rw [Text.trim_eq_trimEnd hhead, lineOf, Text.trimEnd_append rfl (by decide)]
  have hcut : Text.cut? "=" (Text.trim (lineOf pair)) = some (kept pair) := by
    have hname : '=' ∉ pair.1.toList := not_mem_of_isVariableName h (by simp)
    rw [htrim]
    exact Text.cut?_of_not_mem rfl hname _
  rw [readLine?, hcut, Option.filter_some]
  exact if_pos h

/-! ## Blocks -/

/-- A block is a banner line and a line of each variable. -/
theorem segments_write {vars : List (String × String)}
    (hvalid : ∀ pair ∈ vars, isVariableName pair.1) :
    Text.segments "\n" (write vars) = banner :: vars.map lineOf := by
  have hunbroken {pair : String × String} (hpair : pair ∈ vars) : '\n' ∉ (lineOf pair).toList := by
    rw [lineOf, String.toList_append, String.toList_append]
    simp only [List.mem_append, not_or]
    exact ⟨⟨not_mem_of_isVariableName (hvalid pair hpair) (by simp), by decide⟩,
      not_mem_firstLine pair.2⟩
  have hlines : vars.map writeLine = (vars.map lineOf).map ("\n" ++ ·) := by
    simp [writeLine, lineOf, Function.comp_def, String.append_assoc]
  refine (Text.segments_singleton_eq_iff rfl).mpr ⟨List.cons_ne_nil _ _, ?_, ?_⟩
  · exact List.forall_mem_cons.mpr ⟨by decide, List.forall_mem_map.mpr fun _ => hunbroken⟩
  · rw [← Text.append_join_map, write, hlines]

/-- A block of variables with names of variables is read as what is kept of them. -/
theorem read_write_eq {vars : List (String × String)}
    (hvalid : ∀ pair ∈ vars, isVariableName pair.1) : read (write vars) = vars.map kept := by
  rw [read, segments_write hvalid, List.drop_one, List.tail_cons, List.filterMap_map,
    ← List.filterMap_eq_map]
  refine List.filterMap_congr fun pair hpair => ?_
  rw [Function.comp_apply, Function.comp_apply, readLine?_lineOf (hvalid pair hpair)]

/-! ## Values -/

/-- The text in front of its first line feed. -/
def headLine (value : String) : String := String.ofList (value.toList.takeWhile (· != '\n'))

/-- No character of a line is a line feed. -/
theorem bne_lineFeed {line : String} (h : '\n' ∉ line.toList) {c : Char} (hc : c ∈ line.toList) :
    (c != '\n') = true :=
  bne_iff_ne.mpr (ne_of_mem_of_not_mem hc h)

theorem headLine_eq_self {value : String} (h : '\n' ∉ value.toList) : headLine value = value := by
  rw [headLine, List.takeWhile_eq_self_iff.mpr fun _ => bne_lineFeed h, String.ofList_toList]

theorem headLine_append {line : String} (h : '\n' ∉ line.toList) (rest : String) :
    headLine (line ++ "\n" ++ rest) = line := by
  rw [headLine, String.append_assoc, String.toList_append,
    List.takeWhile_append_of_pos fun _ => bne_lineFeed h]
  simp

/-- A carriage return at the end of the first line is blank, so with the blanks at its end the line
loses it too. -/
theorem trimEnd_firstLine (value : String) :
    Text.trimEnd (firstLine value) = Text.trimEnd (headLine value) := by
  unfold firstLine
  split
  next line rest hcut =>
    have hline : headLine value = line := by
      rw [Text.eq_append_of_cut? hcut]
      exact headLine_append (Text.not_mem_of_cut? rfl hcut) rest
    rw [hline]
    cases hdrop : Text.dropTail? "\r" line with
    | none => rfl
    | some front =>
      rw [Text.dropTail?_eq_some_iff.mp hdrop, Option.getD_some]
      exact (Text.trimEnd_append_of_isBlank rfl (by decide) front).symm
  next hcut => rw [headLine_eq_self (Text.not_mem_of_cut?_eq_none rfl hcut)]

theorem kept_eq (pair : String × String) :
    kept pair = (pair.1, Text.trimEnd (headLine pair.2)) := by
  rw [kept, trimEnd_firstLine]

/-- Variables are read as they were written, in their order and none more, each with the text of
its value in front of the first line feed, without the blanks at its end. A name has the first
value that was written under it. Another value of one variable changes what is read of that variable
alone. -/
theorem read_write_headLine {vars : List (String × String)}
    (hvalid : ∀ pair ∈ vars, isVariableName pair.1) :
    read (write vars) = vars.map (fun pair => (pair.1, Text.trimEnd (headLine pair.2))) ∧
      (∀ name, (NameTable.ofList (read (write vars)) : NameTable .exact).get? name =
        (vars.lookup name).map fun value => Text.trimEnd (headLine value)) ∧
      ∀ (i : Nat) (hi : i < vars.length) (value : String),
        read (write (vars.set i (vars[i].1, value))) =
          (read (write vars)).set i (vars[i].1, Text.trimEnd (headLine value)) := by
  refine ⟨?_, fun name => ?_, fun i hi value => ?_⟩
  · rw [read_write_eq hvalid]
    exact List.map_congr_left fun pair _ => kept_eq pair
  · rw [NameTable.get?_ofList_eq_lookup, read_write_eq hvalid, lookup_map_kept]
    simp only [trimEnd_firstLine]
  · have hset : ∀ pair ∈ vars.set i (vars[i].1, value), isVariableName pair.1 := by
      intro pair hpair
      rcases List.mem_or_eq_of_mem_set hpair with hpair | rfl
      · exact hvalid pair hpair
      · exact hvalid vars[i] (List.getElem_mem hi)
    rw [read_write_eq hset, read_write_eq hvalid, List.map_set, kept_eq]

/-- A value with a line of its own makes no variable of it, and blanks beyond ASCII are trimmed. -/
theorem read_write_headLine_ownLine :
    let vars := [("HTTP_X", "a\r\nREMOTE_USER=root"), ("_Y9", " =\u2003\r"), ("HTTP_X", "b")]
    (∀ pair ∈ vars, isVariableName pair.1) ∧
      read (write vars) = [("HTTP_X", "a"), ("_Y9", " ="), ("HTTP_X", "b")] ∧
      (NameTable.ofList (read (write vars)) : NameTable .exact).get? "HTTP_X" = some "a" ∧
      (NameTable.ofList (read (write vars)) : NameTable .exact).get? "REMOTE_USER" = none ∧
      read (write (vars.set 1 ("_Y9", "\nHTTP_X=c"))) = (read (write vars)).set 1 ("_Y9", "") := by
  intro vars
  have hvalid : ∀ pair ∈ vars, isVariableName pair.1 := by decide
  obtain ⟨hread, hget, hset⟩ := read_write_headLine hvalid
  exact ⟨hvalid, hread, hget "HTTP_X", hget "REMOTE_USER", hset 1 (by decide) "\nHTTP_X=c"⟩

end RelationGateway.Cgi
