import Mathlib.Data.List.Basic
import Tabula.Proofs.Succeeding
import Tabula.Proofs.Template.Parts

/-!
# What a criterion is analyzed to

`Template.analyze` makes a shape and bindings of a criterion, and `Template` makes a text of the
shape. Both follow the parts of the criterion: the text is what the parts print, the bindings are
the values in them under the names of their places, and what is printed can be read back.

* `analyzeCondition_eq_ok`: the criteria that are accepted.
* `Writes`, `WritesAll`: parts with their text and their bindings, and lists of such.
* `analyze_writes`: the slots of an accepted criterion.
-/

namespace Tabula

namespace Template

open Sql

/-! ## Characters of columns and operators -/

/-- A column begins like a name, and there are only such characters and a point in it. -/
structure IsColumn (cs : List Char) : Prop where
  /-- how it begins -/
  start : ∃ c, cs.head? = some c ∧ isNameStart c
  /-- what is in it -/
  all : ∀ c ∈ cs, isNameChar c ∨ c = '.'

/-- An identifier is a column. -/
theorem isColumn_of_isIdentifier {cs : List Char} (h : isIdentifier cs) : IsColumn cs := by
  refine ⟨?_, fun c hc => .inl (all_of_isIdentifier h c hc)⟩
  cases cs with
  | nil => cases h
  | cons d cs =>
    simp only [isIdentifier, Bool.and_eq_true] at h
    exact ⟨d, rfl, h.1⟩

/-- What passes the check of column names is a column. -/
theorem isColumn_of_isColumnName {column : String} (h : isColumnName column) :
    IsColumn column.toList := by
  simp only [isColumnName] at h
  split at h
  · exact isColumn_of_isIdentifier h
  · -- behind the identifier stands a point, and behind that another one
    rename_i d rest hdrop
    simp only [Bool.and_eq_true] at h
    have hsplit := List.takeWhile_append_dropWhile (p := (· ≠ '.')) (l := column.toList)
    -- the character at which the first identifier ends is the point
    have hd : d = '.' := by
      have := List.head?_dropWhile_not (· ≠ '.') column.toList
      rw [hdrop] at this
      simpa using this
    rw [hdrop, hd] at hsplit
    obtain ⟨⟨c, hc, hstart⟩, hall⟩ := isColumn_of_isIdentifier h.1
    rw [← hsplit]
    refine ⟨⟨c, by rw [List.head?_append, hc]; rfl, hstart⟩, ?_⟩
    intro e he
    -- the characters of both identifiers can stand in a column, and so can the point
    rcases List.mem_append.mp he with he | he
    · exact hall e he
    · rcases List.mem_cons.mp he with rfl | he
      · exact .inr rfl
      · exact .inl (all_of_isIdentifier h.2 e he)

/-- No character of a column has a meaning to the scan. -/
theorem IsColumn.isPlain {cs : List Char} (h : IsColumn cs) : ∀ c ∈ cs, isPlain c := by
  intro c hc
  rcases h.all c hc with hc | rfl
  · exact isPlain_of_isNameChar hc
  · decide

/-- Neither has a character of an operator. -/
theorem isPlain_of_mem_operator {op : Operator} {c : Char} (h : c ∈ op.text.toList) :
    isPlain c := by
  have hall : op.text.toList.all isPlain := by cases op <;> decide
  exact List.all_eq_true.mp hall c h

/-! ## Accepted criteria -/

/-- A condition is accepted. -/
structure Accepts (column : String) (condition : Condition) (op : Operator) : Prop where
  /-- the column can be written -/
  column : isColumnName column
  /-- the operator is supported -/
  operator : Operator.ofText? condition.operator = some op
  /-- the operands are as the operator needs them -/
  operands : Condition.fits op condition.operands

/-- What the check lets pass names a column. -/
theorem checkColumn_eq_ok {column : String} {u : Unit} (h : checkColumn column = .ok u) :
    isColumnName column := by
  rw [checkColumn] at h
  split at h
  · assumption
  · cases h

/-- **The conditions that are accepted**, with their shapes and bindings. -/
theorem analyzeCondition_eq_ok {g c : Nat} {column : String} {condition : Condition}
    {s : ConditionShape} {bs : List (String × Value)}
    (h : analyzeCondition g c column condition = .ok (s, bs)) :
    ∃ op, Accepts column condition op ∧ s = ⟨column, op, condition.values.length⟩ ∧
      bs = (placeholders g c s).zip condition.values := by
  obtain ⟨_, hcolumn, h⟩ := bind_eq_ok.mp h
  obtain ⟨op, hvalidate, h⟩ := bind_eq_ok.mp h
  obtain ⟨op', hparse, hfits⟩ := bind_eq_ok.mp hvalidate
  rw [Operator.parse] at hparse
  split at hparse
  · -- the operator is one of the list and the operands fit it
    rename_i op'' hop
    cases hparse
    split at hfits
    · rename_i hoperands
      cases hfits
      cases h
      exact ⟨op, ⟨checkColumn_eq_ok hcolumn, hop, hoperands⟩, rfl, rfl⟩
    · -- the operands do not fit
      cases hfits
  · -- there is no such operator
    cases hparse

/-- What operands an operator can have. -/
theorem fits_cases {op : Operator} {operands : List Operand} (h : Condition.fits op operands) :
    (op.isRange ∧ ∃ low high, operands = [.scalar low, .scalar high]) ∨
    (op.isRange = false ∧ op.isMembership ∧ ∃ vs, operands = [.list vs]) ∨
    (op.isRange = false ∧ op.isMembership = false ∧ ∃ v, operands = [.scalar v]) := by
  unfold Condition.fits at h
  -- a range has two scalars
  by_cases hrange : op.isRange
  · rw [if_pos hrange, Bool.and_eq_true, beq_iff_eq, List.all_eq_true] at h
    obtain ⟨hlength, hscalar⟩ := h
    obtain ⟨a, b, rfl⟩ := List.length_eq_two.mp hlength
    have ha := hscalar a List.mem_cons_self
    have hb := hscalar b (List.mem_cons_of_mem a List.mem_cons_self)
    cases a with
    | list vs => cases ha
    | scalar low =>
      cases b with
      | list vs => cases hb
      | scalar high => exact .inl ⟨hrange, low, high, rfl⟩
  · rw [if_neg hrange] at h
    -- a membership has a list that is not empty
    by_cases hmember : op.isMembership
    · rw [if_pos hmember] at h
      split at h
      · exact .inr (.inl ⟨by simpa using hrange, hmember, _, rfl⟩)
      · cases h
    · -- any other operator has one scalar
      rw [if_neg hmember, Bool.and_eq_true, beq_iff_eq, List.all_eq_true] at h
      obtain ⟨hlength, hscalar⟩ := h
      obtain ⟨a, rfl⟩ := List.length_eq_one_iff.mp hlength
      have ha := hscalar a List.mem_cons_self
      cases a with
      | list vs => cases ha
      | scalar v => exact .inr (.inr ⟨by simpa using hrange, by simpa using hmember, v, rfl⟩)

/-! ## Parts with their text and their bindings -/

/-- The end of a text bounds a name. -/
theorem bounds_nil : Bounds [] := by
  intro c h
  cases h

/-- Two texts that bound a name bound it one behind the other. -/
theorem bounds_append {a b : List Char} (ha : Bounds a) (hb : Bounds b) : Bounds (a ++ b) := by
  cases a with
  | nil => exact hb
  | cons c a => exact ha

/-- Parts print a text and hold some bindings. In front of a text that does not go on with a name
they can be read back. -/
structure Writes (ps : List Part) (text : List Char) (bindings : List (String × Value)) : Prop where
  /-- what is printed -/
  source : ps.flatMap Part.source = text
  /-- the values that are held -/
  bindings : ps.filterMap Part.binding? = bindings
  /-- what is printed can be read back -/
  legible : ∀ rest, Bounds rest → Legible (ps.map Part.piece) rest

/-- The parts have the source of their pieces. -/
theorem flatMap_piece (ps : List Part) :
    (ps.map Part.piece).flatMap Piece.source = ps.flatMap Part.source := by
  rw [List.flatMap_map]
  rfl

namespace Writes

variable {ps qs : List Part} {t u : List Char} {bs cs : List (String × Value)}

/-- No part writes nothing and binds nothing. -/
theorem nil : Writes [] [] [] := ⟨rfl, rfl, fun _ _ => trivial⟩

/-- A plain text in front is a part that binds nothing. -/
theorem text {text : List Char} (htext : ∀ c ∈ text, isPlain c) (h : Writes ps t bs) :
    Writes (.text text :: ps) (text ++ t) bs := by
  refine ⟨?_, ?_, ?_⟩
  · rw [List.flatMap_cons, h.source]
    rfl
  · rw [List.filterMap_cons_none rfl, h.bindings]
  · intro rest hrest
    exact ⟨htext, h.legible rest hrest⟩

/-- A placeholder in front is a part that binds its name. -/
theorem value (v : Value) (place : Place) (ht : Bounds t) (h : Writes ps t bs) :
    Writes (.value v place :: ps) (':' :: place.name.toList ++ t) ((place.name, v) :: bs) := by
  refine ⟨?_, ?_, ?_⟩
  · rw [List.flatMap_cons, h.source]
    rfl
  · have hbinding : (Part.value v place).binding? = some (place.name, v) := rfl
    rw [List.filterMap_cons_some hbinding, h.bindings]
  · intro rest hrest
    refine ⟨place.isIdentifier_name, ?_, h.legible rest hrest⟩
    rw [flatMap_piece, h.source]
    exact bounds_append ht hrest

/-- Two lists of parts one behind the other write both texts and bind both lists. -/
theorem append (hu : Bounds u) (h : Writes ps t bs) (h' : Writes qs u cs) :
    Writes (ps ++ qs) (t ++ u) (bs ++ cs) := by
  refine ⟨?_, ?_, ?_⟩
  · rw [List.flatMap_append, h.source, h'.source]
  · rw [List.filterMap_append, h.bindings, h'.bindings]
  · intro rest hrest
    rw [List.map_append, legible_append, flatMap_piece, h'.source]
    exact ⟨h.legible _ (bounds_append hu hrest), h'.legible rest hrest⟩

end Writes

/-- A list of parts with the text of each and all bindings. -/
inductive WritesAll : List (List Part) → List (List Char) → List (String × Value) → Prop where
  /-- there are none -/
  | nil : WritesAll [] [] []
  /-- one more in front -/
  | cons {ps : List Part} {t : List Char} {bs : List (String × Value)} {pss : List (List Part)}
      {ts : List (List Char)} {cs : List (String × Value)} (h : Writes ps t bs)
      (hs : WritesAll pss ts cs) : WritesAll (ps :: pss) (t :: ts) (bs ++ cs)

/-- A text can stand behind parts. -/
structure IsDelimiter (delimiter : String) : Prop where
  /-- it is plain -/
  plain : ∀ c ∈ delimiter.toList, isPlain c
  /-- a name ends in front of it -/
  ends : ∃ c cs, delimiter.toList = c :: cs ∧ isNameChar c = false

/-- A plain text that does not go on with a name can stand behind parts. -/
theorem IsDelimiter.of_all {delimiter : String} {c : Char} {cs : List Char}
    (hplain : delimiter.toList.all isPlain) (heq : delimiter.toList = c :: cs)
    (hc : isNameChar c = false) : IsDelimiter delimiter :=
  ⟨List.all_eq_true.mp hplain, c, cs, heq, hc⟩

/-- A delimiter ends the name in front of it. -/
theorem IsDelimiter.bounds {delimiter : String} (h : IsDelimiter delimiter) (rest : List Char) :
    Bounds (delimiter.toList ++ rest) := by
  obtain ⟨c, cs, heq, hc⟩ := h.ends
  rw [heq]
  intro d hd
  cases hd
  exact hc

/-- Parts with delimiters between them write the texts with the delimiters between them. -/
theorem WritesAll.separated {pss : List (List Part)} {ts : List (List Char)}
    {bs : List (String × Value)} {separator : String} (hsep : IsDelimiter separator)
    (h : WritesAll pss ts bs) :
    Writes (separated separator pss) (separator.toList.intercalate ts) bs := by
  induction h with
  | nil => exact .nil
  | @cons ps t bs pss ts cs h hs ih =>
    cases hs with
    | nil =>
      rw [Template.separated, List.intercalate_singleton, List.intercalate_singleton,
        List.append_nil]
      exact h
    | cons h' hs =>
      rw [Template.separated, List.intercalate_cons_cons, List.intercalate_cons_cons,
        List.append_assoc, List.append_assoc]
      exact h.append (hsep.bounds _) (ih.text hsep.plain)

/-- An opening bracket is plain. -/
theorem isPlain_of_mem_open : ∀ c ∈ "(".toList, isPlain c := by
  simp [isPlain, isQuote]

/-- There are no texts exactly if there are no parts. -/
theorem WritesAll.eq_nil_iff {pss : List (List Part)} {ts : List (List Char)}
    {bs : List (String × Value)} (h : WritesAll pss ts bs) : pss = [] ↔ ts = [] := by
  cases h <;> simp

/-- The word between conditions delimits. -/
theorem isDelimiter_and : IsDelimiter " AND " := .of_all (by decide) rfl (by decide)

/-- The word between groups delimits. -/
theorem isDelimiter_or : IsDelimiter " OR " := .of_all (by decide) rfl (by decide)

/-- A comma delimits. -/
theorem isDelimiter_comma : IsDelimiter ", " := .of_all (by decide) rfl (by decide)

/-- A closing bracket delimits. -/
theorem isDelimiter_close : IsDelimiter ")" := .of_all (by decide) rfl (by decide)

/-! ## Conditions -/

/-- The characters of joined texts are joined characters. -/
theorem toList_joined (separator : String) (texts : List String) :
    (joined separator texts).toList = separator.toList.intercalate (texts.map String.toList) :=
  String.toList_intercalate

/-- What holds of all characters of some texts and of what is put between them. -/
theorem forall_mem_joined {p : Char → Prop} {separator : String} {texts : List String}
    (hseparator : ∀ c ∈ separator.toList, p c) (h : ∀ text ∈ texts, ∀ c ∈ text.toList, p c) :
    ∀ c ∈ (joined separator texts).toList, p c := by
  intro c hc
  rw [toList_joined] at hc
  rcases mem_intercalate hc with hc | ⟨cs, hcs, hc⟩
  · exact hseparator c hc
  · obtain ⟨text, htext, rfl⟩ := List.mem_map.mp hcs
    exact h text htext c hc

/-- The operands of a list, numbered from `k` on. -/
theorem writesAll_operands (g c : Nat) (vs : List Value) (k : Nat) :
    WritesAll ((vs.zipIdx k).map fun (v, k) => [.value v (.operand g c k)])
      ((List.range' k vs.length).map fun k => ':' :: (operandName g c k).toList)
      (((List.range' k vs.length).map (operandName g c)).zip vs) := by
  induction vs generalizing k with
  | nil => exact .nil
  | cons v vs ih =>
    have hvalue := Writes.value v (.operand g c k) bounds_nil .nil
    rw [List.append_nil] at hvalue
    exact .cons hvalue (ih (k + 1))

/-- The text of the values of a condition. -/
def operandsText (g c : Nat) (s : ConditionShape) : List Char :=
  let names := (placeholders g c s).map fun name => ':' :: name.toList
  if s.operator.isRange then " AND ".toList.intercalate names
  else if s.operator.isMembership then "(".toList ++ (", ".toList.intercalate names ++ ")".toList)
  else [].intercalate names

/-- A condition is its column, its operator and its operands. -/
theorem toList_conditionText (g c : Nat) (s : ConditionShape) :
    (conditionText g c s).toList =
      (s.column ++ " " ++ s.operator.text ++ " ").toList ++ operandsText g c s := by
  have hnames (separator : String) :
      (joined separator ((placeholders g c s).map (":" ++ ·))).toList =
        separator.toList.intercalate ((placeholders g c s).map fun name => ':' :: name.toList) := by
    rw [toList_joined, List.map_map]
    simp [Function.comp_def]
  rw [conditionText, String.toList_append, operandsText]
  congr 1
  split
  · exact hnames _
  · split
    · rw [String.toList_append, String.toList_append, hnames, List.append_assoc]
    · exact hnames _

/-- The parts of a condition write its text and bind its placeholders. -/
theorem writes_condition {g c : Nat} {column : String} {condition : Condition}
    {s : ConditionShape} {bs : List (String × Value)}
    (h : analyzeCondition g c column condition = .ok (s, bs)) :
    Writes (conditionParts g c column condition) (conditionText g c s).toList bs := by
  obtain ⟨op, ⟨hcolumn, hop, hfits⟩, rfl, rfl⟩ := analyzeCondition_eq_ok h
  have hplain : ∀ ch ∈ (column ++ " " ++ op.text ++ " ").toList, isPlain ch := by
    intro ch hch
    simp only [String.toList_append, List.mem_append] at hch
    rcases hch with ((hch | hch) | hch) | hch
    · exact (isColumn_of_isColumnName hcolumn).isPlain ch hch
    · cases List.mem_singleton.mp hch
      decide
    · exact isPlain_of_mem_operator hch
    · cases List.mem_singleton.mp hch
      decide
  rw [toList_conditionText, conditionParts, hop, Option.elim_some]
  refine .text hplain ?_
  -- the operands that fit the operator are of the form that decides the parts
  rcases fits_cases hfits with ⟨hrange, low, high, hoperands⟩ | ⟨hrange, hmember, vs, hoperands⟩ |
    ⟨hrange, hmember, v, hoperands⟩
  · have hvalues : condition.values = [low, high] := by
      simp [Condition.values, hoperands, Operand.values]
    have hhigh := Writes.value high (.operand g c 1) bounds_nil .nil
    have hlow := Writes.value low (.operand g c 0) (isDelimiter_and.bounds _)
      (hhigh.text isDelimiter_and.plain)
    simpa [hoperands, hvalues, operandsText, placeholders, hrange, List.range, List.range.loop,
      Place.name] using hlow
  · have hvalues : condition.values = vs := by
      simp [Condition.values, hoperands, Operand.values]
    have hlist := (writesAll_operands g c vs 0).separated isDelimiter_comma
    have hclosed :=
      hlist.append (isDelimiter_close.bounds _) (Writes.nil.text isDelimiter_close.plain)
    have hwhole := hclosed.text isPlain_of_mem_open
    simpa [hoperands, hvalues, operandsText, placeholders, hrange, hmember, List.range_eq_range',
      Function.comp_def] using hwhole
  · have hvalues : condition.values = [v] := by
      simp [Condition.values, hoperands, Operand.values]
    have hvalue := Writes.value v (.single g c) bounds_nil .nil
    simpa [hoperands, hvalues, operandsText, placeholders, hrange, hmember, Place.name] using hvalue

/-! ## Groups -/

/-- The parts of the conditions of a group write their texts, one by one. -/
theorem writesAll_conditions {g c : Nat} {conditions : List (String × Condition)}
    {ss : List ConditionShape} {bs : List (String × Value)}
    (h : analyzeConditions g c conditions = .ok (ss, bs)) :
    WritesAll ((conditions.zipIdx c).map fun (e, c) => conditionParts g c e.1 e.2)
      ((ss.zipIdx c).map fun (s, c) => (conditionText g c s).toList) bs := by
  induction conditions generalizing c ss bs with
  | nil =>
    cases h
    exact .nil
  | cons e conditions ih =>
    obtain ⟨⟨s, bs₁⟩, hfirst, h⟩ := bind_eq_ok.mp h
    obtain ⟨⟨ss, bs₂⟩, hrest, h⟩ := bind_eq_ok.mp h
    cases h
    exact .cons (writes_condition hfirst) (ih hrest)

/-- The parts of a group write its text. -/
theorem writes_group {g : Nat} {group : WhereGroup} {ss : List ConditionShape}
    {bs : List (String × Value)} (h : analyzeConditions g 0 group.entries = .ok (ss, bs)) :
    Writes (groupParts g group) (groupText g ss).toList bs := by
  have hlist := (writesAll_conditions h).separated isDelimiter_and
  have hclosed :=
    hlist.append (isDelimiter_close.bounds _) (Writes.nil.text isDelimiter_close.plain)
  have hwhole := hclosed.text isPlain_of_mem_open
  have htext : (groupText g ss).toList = "(".toList ++ (" AND ".toList.intercalate
      ((ss.zipIdx 0).map fun (s, c) => (conditionText g c s).toList) ++ (")".toList ++ [])) := by
    rw [groupText, String.toList_append, String.toList_append, toList_joined, List.map_map,
      List.append_nil, List.append_assoc]
    rfl
  rw [htext]
  simpa [groupParts] using hwhole

/-- The parts of the groups write their texts, one by one. -/
theorem writesAll_groups {g : Nat} {groups : List WhereGroup} {ss : List (List ConditionShape)}
    {bs : List (String × Value)} (h : analyzeGroups g groups = .ok (ss, bs)) :
    WritesAll ((groups.zipIdx g).map fun (group, g) => groupParts g group)
      ((ss.zipIdx g).map fun (s, g) => (groupText g s).toList) bs := by
  induction groups generalizing g ss bs with
  | nil =>
    cases h
    exact .nil
  | cons group groups ih =>
    rw [analyzeGroups] at h
    split at h
    · cases h
    obtain ⟨⟨s, bs₁⟩, hfirst, h⟩ := bind_eq_ok.mp h
    obtain ⟨⟨ss, bs₂⟩, hrest, h⟩ := bind_eq_ok.mp h
    cases h
    exact .cons (writes_group hfirst) (ih hrest)

/-- The parts of a condition as a whole write the text that stands for it. -/
theorem writes_where {groups : List WhereGroup} {ss : List (List ConditionShape)}
    {bs : List (String × Value)} (h : analyzeGroups 0 groups = .ok (ss, bs)) :
    Writes (whereParts groups) (whereText ss).toList bs := by
  cases groups with
  | nil =>
    -- without groups the text is a tautology
    cases h
    have hplain : "1 = 1".toList.all isPlain := by decide
    exact Writes.nil.text (List.all_eq_true.mp hplain)
  | cons group groups =>
    have hall := writesAll_groups h
    cases ss with
    | nil => cases hall
    | cons s ss =>
      -- the text is that of the groups, one after the other
      have htext : (whereText (s :: ss)).toList = " OR ".toList.intercalate
          (((s :: ss).zipIdx 0).map fun (s, g) => (groupText g s).toList) := by
        rw [whereText, if_neg (by simp), toList_joined, List.map_map]
        rfl
      rw [htext]
      exact hall.separated isDelimiter_or

/-! ## Values -/

/-- The entries, numbered from `i` on. -/
theorem writesAll_values (type : QueryType) {entries : List (String × Value)}
    (h : ∀ e ∈ entries, isColumnName e.1) (i : Nat) :
    WritesAll ((entries.zipIdx i).map fun (e, i) =>
        if type = .insert then [.value e.2 (.written i)]
        else [.text (e.1 ++ " = ").toList, .value e.2 (.written i)])
      (((entries.map Prod.fst).zipIdx i).map fun (column, i) =>
        (if type = .insert then ":" ++ valueName i else column ++ " = :" ++ valueName i).toList)
      (((entries.map Prod.snd).zipIdx i).map fun (v, i) => (valueName i, v)) := by
  induction entries generalizing i with
  | nil => exact .nil
  | cons e entries ih =>
    obtain ⟨hcolumn, hentries⟩ := List.forall_mem_cons.mp h
    have hvalue := Writes.value e.2 (.written i) bounds_nil .nil
    -- in an update the column and the equals sign stand in front
    have hplain : ∀ ch ∈ (e.1 ++ " = ").toList, isPlain ch := by
      intro ch hch
      rw [String.toList_append, List.mem_append] at hch
      rcases hch with hch | hch
      · exact (isColumn_of_isColumnName hcolumn).isPlain ch hch
      · have hall : " = ".toList.all isPlain := by decide
        exact List.all_eq_true.mp hall ch hch
    have hassigned := hvalue.text hplain
    change WritesAll (_ :: _) (_ :: _) ([(valueName i, e.2)] ++ _)
    refine .cons ?_ (ih hentries (i + 1))
    -- an insertion lists the placeholders alone
    by_cases htype : type = .insert
    · simpa [htype, Place.name] using hvalue
    · simpa [htype, Place.name] using hassigned

/-- The parts of written values write the text that stands for them. -/
theorem writes_values (type : QueryType) {values : Dict Value}
    (h : ∀ column ∈ values.keys, isColumnName column) :
    Writes (valuesParts type values) (valuesText type values.keys).toList
      (values.values.zipIdx.map fun (v, i) => (valueName i, v)) := by
  have hentries : ∀ e ∈ values.entries, isColumnName e.1 := fun e he =>
    h e.1 (List.mem_map_of_mem he)
  have hall := (writesAll_values type hentries 0).separated isDelimiter_comma
  rw [valuesText, toList_joined, List.map_map]
  exact hall

/-! ## Criteria -/

/-- All columns name columns if none of them is refused. -/
theorem forM_checkColumn_eq_ok {columns : List String} {u : Unit}
    (h : columns.forM checkColumn = .ok u) : ∀ column ∈ columns, isColumnName column := by
  induction columns with
  | nil => simp
  | cons column columns ih =>
    obtain ⟨_, hfirst, hrest⟩ := bind_eq_ok.mp h
    exact List.forall_mem_cons.mpr ⟨checkColumn_eq_ok hfirst, ih hrest⟩

/-- An entry that no other contradicts is found. -/
theorem find?_foldl_insert {k : String} {v : Value} {es : List (String × Value)} {d : Dict Value}
    (hes : ∀ e ∈ es, e.1 = k → e.2 = v) (h : (∃ e ∈ es, e.1 = k) ∨ d.find? k = some v) :
    (es.foldl (fun d e => d.insert e.1 e.2) d).find? k = some v := by
  -- on the entries: a key keeps its value unless an entry of the key is put in, and all these agree
  induction es generalizing d with
  | nil =>
    rcases h with ⟨e, he, -⟩ | h
    · cases he
    · exact h
  | cons e es ih =>
    obtain ⟨hfirst, hrest⟩ := List.forall_mem_cons.mp hes
    rw [List.foldl_cons]
    refine ih hrest ?_
    rw [Dict.find?_insert]
    -- the entry is put in under the key
    by_cases hk : e.1 = k
    · rw [if_pos hk, hfirst hk]
      exact .inr rfl
    · rw [if_neg hk]
      rcases h with ⟨e', he', hk'⟩ | h
      · rcases List.mem_cons.mp he' with rfl | he'
        · -- the entry that is under the key cannot be this one
          exact absurd hk' hk
        · exact .inl ⟨e', he', hk'⟩
      · exact .inr h

/-- A binding is that of a part. -/
theorem exists_of_mem_bindings {ps : List Part} {b : String × Value}
    (h : b ∈ ps.filterMap Part.binding?) :
    ∃ place, .value b.2 place ∈ ps ∧ b.1 = place.name := by
  obtain ⟨p, hp, hb⟩ := List.mem_filterMap.mp h
  cases p with
  | text cs => cases hb
  | value v place =>
    cases hb
    exact ⟨place, hp, rfl⟩

/-- Every binding of a slot is under the name of a place, with the value of that place. -/
theorem Writes.exists_place {type : QueryType} {c : Criterion} {slot : Slot} {text : List Char}
    {bs : List (String × Value)} (h : Writes (slot.parts type c) text bs) :
    ∀ b ∈ bs, ∃ place, b.1 = place.name ∧ valueAt? c place = some b.2 := by
  intro b hb
  rw [← h.bindings] at hb
  obtain ⟨place, hmem, hname⟩ := exists_of_mem_bindings hb
  exact ⟨place, hname, valueAt?_of_mem hmem⟩

/-- A place has one value only, so nothing is lost in the set. -/
theorem find?_of_places {c : Criterion} {bs : List (String × Value)}
    (h : ∀ b ∈ bs, ∃ place, b.1 = place.name ∧ valueAt? c place = some b.2) :
    ∀ b ∈ bs, (Dict.ofList bs).find? b.1 = some b.2 := by
  intro b hb
  refine find?_foldl_insert (fun e he hname => ?_) (.inl ⟨b, hb, rfl⟩)
  obtain ⟨p, hp, hpv⟩ := h b hb
  obtain ⟨q, hq, hqv⟩ := h e he
  have hpq : q = p := Place.name_injective (by rw [← hq, ← hp, hname])
  rw [hpq, hpv] at hqv
  exact (Option.some.inj hqv).symm

/-- The columns that are written are one part without a placeholder. -/
theorem writes_columns {columns : List String} (h : ∀ column ∈ columns, isColumnName column) :
    Writes [.text (joined ", " columns).toList] (joined ", " columns).toList [] := by
  have hplain : ∀ ch ∈ (joined ", " columns).toList, isPlain ch :=
    forall_mem_joined isDelimiter_comma.plain fun column hcolumn =>
      (isColumn_of_isColumnName (h column hcolumn)).isPlain
  have hwrites := Writes.nil.text hplain
  rw [List.append_nil] at hwrites
  exact hwrites

/-- A criterion is accepted: it has a shape and a set of parameters. -/
structure Analyzed (t : Template) (c : Criterion) (s : Shape) (set : ParameterSet) : Prop where
  /-- the columns that are written -/
  columns : s.columns = c.values.keys
  /-- they can be written -/
  valid : ∀ column ∈ c.values.keys, isColumnName column
  /-- the template wants what the criterion has -/
  fits : t.checkFit s = .ok ()
  /-- there are groups in both or in none -/
  groups : s.groups = [] ↔ c.groups = []
  /-- the parts of every slot print its text, and the set has their values -/
  writes : ∀ slot : Slot, ∃ bs,
    Writes (slot.parts t.queryType c) (slot.text t.queryType s).toList bs ∧
      ∀ b ∈ bs, set.find? b.1 = some b.2

/-- **What a criterion is analyzed to.** -/
theorem analyze_writes {t : Template} {c : Criterion} {s : Shape} {set : ParameterSet}
    (h : t.analyze c = .ok (s, set)) : Analyzed t c s set := by
  obtain ⟨⟨groups, bs⟩, hgroups, h⟩ := bind_eq_ok.mp h
  obtain ⟨_, hcolumns, h⟩ := bind_eq_ok.mp h
  obtain ⟨_, hfit, h⟩ := bind_eq_ok.mp h
  cases h
  have hvalid := forM_checkColumn_eq_ok hcolumns
  -- the condition is written before the values, and the names of both are apart by their letters
  have hwhere : Writes (Slot.condition.parts t.queryType c) (whereText groups).toList bs :=
    writes_where hgroups
  have hvalues : Writes (Slot.values.parts t.queryType c) _ _ := writes_values t.queryType hvalid
  have hfind := find?_of_places fun b hb =>
    (List.mem_append.mp hb).elim (hwhere.exists_place b) (hvalues.exists_place b)
  refine ⟨rfl, hvalid, hfit, ?_, fun slot => ?_⟩
  · -- without groups there are no texts of groups
    have := (writesAll_groups hgroups).eq_nil_iff
    simpa using this.symm
  · cases slot with
    -- columns bind nothing; values and the condition bind what the set holds
    | columns => exact ⟨[], writes_columns hvalid, by simp⟩
    | values => exact ⟨_, hvalues, fun b hb => hfind b (List.mem_append_right _ hb)⟩
    | condition => exact ⟨_, hwhere, fun b hb => hfind b (List.mem_append_left _ hb)⟩

end Template

end Tabula
