import Tabula.Proofs.Template.Analysis

/-!
# Where a statement is from

`Template.chunks` is the statement for a shape with every stretch of it traced to what it is from.
The tokens are filled as `Template.render` fills them, one kind after the other in whatever text is
there by then, so a template may hold a token in any place, and even make one around a column.

Only characters of the template and operators are marks of tokens, and operators are filled in
last. So a token never takes a part of a column or of a placeholder: it takes the whole or nothing.

* `source_fillFrom`: chunks are filled as their text is.
* `source_chunks`: the chunks are the statement.
* `letters_chunks`, `mem_names_of_column`: what the template and what the criterion have given.
-/

namespace Tabula

namespace Template

open Text Sql

/-! ## Chunks -/

/-- What stands around the parts of a criterion, whatever the criterion is. -/
inductive Glue where
  /-- between columns and between values -/
  | comma
  /-- between a column and the value written to it -/
  | assign
  /-- between conditions and between the ends of a range -/
  | conjunction
  /-- between groups -/
  | disjunction
  /-- on both sides of an operator -/
  | blank
  /-- in front of a group or a list -/
  | opening
  /-- behind a group or a list -/
  | closing
  /-- in the place of no group -/
  | always

/-- The text. -/
def Glue.text : Glue → String
  | .comma => ", "
  | .assign => " = "
  | .conjunction => " AND "
  | .disjunction => " OR "
  | .blank => " "
  | .opening => "("
  | .closing => ")"
  | .always => "1 = 1"

/-- A stretch of a statement with what it is from. -/
inductive Chunk where
  /-- a character of the template -/
  | template (c : Char)
  /-- what stands around the parts of a criterion -/
  | glue (g : Glue)
  /-- a column of the criterion -/
  | column (name : String)
  /-- an operator of the criterion, in its own spelling -/
  | operator (op : Operator)
  /-- a placeholder for a value of the criterion -/
  | placeholder (place : Place)

namespace Chunk

/-- The text of a chunk. -/
def chars : Chunk → List Char
  | .template c => [c]
  | .glue g => g.text.toList
  | .column name => name.toList
  | .operator op => op.text.toList
  | .placeholder place => ':' :: place.name.toList

/-- The character of the template. -/
def letter? : Chunk → Option Char
  | .template c => some c
  | _ => none

end Chunk

/-- The text of chunks. -/
def source (chunks : List Chunk) : List Char := chunks.flatMap Chunk.chars

/-- The text of chunks one behind the other. -/
theorem source_append (chunks chunks' : List Chunk) :
    source (chunks ++ chunks') = source chunks ++ source chunks' := List.flatMap_append

/-- Chunks with something between them. -/
def between (g : Glue) (parts : List (List Chunk)) : List Chunk := [Chunk.glue g].intercalate parts

/-- The text of chunks with a separator between them. -/
theorem source_intercalate (separator : List Chunk) (parts : List (List Chunk)) :
    source (separator.intercalate parts) = (source separator).intercalate (parts.map source) := by
  induction parts with
  | nil => rfl
  | cons part parts ih =>
    cases parts with
    | nil => simp
    | cons part' parts =>
      simp only [List.map_cons] at ih ⊢
      rw [List.intercalate_cons_cons, List.intercalate_cons_cons, source_append, source_append, ih]

/-- The text of chunks with glue between them. -/
theorem source_between (g : Glue) (parts : List (List Chunk)) :
    source (between g parts) = g.text.toList.intercalate (parts.map source) := by
  have hglue : source [.glue g] = g.text.toList := List.append_nil _
  rw [between, source_intercalate, hglue]

/-- The text of chunks in brackets. -/
theorem source_bracketed (chunks : List Chunk) :
    source (.glue .opening :: (chunks ++ [.glue .closing])) =
      "(".toList ++ (source chunks ++ ")".toList) := by
  rw [← List.singleton_append, source_append, source_append]
  rfl

/-! ## The chunks of a criterion -/

/-- The places of the values of a condition, given the number of its group and its own. -/
def places (g c : Nat) (s : ConditionShape) : List Place :=
  if s.operator.isRange || s.operator.isMembership then (List.range s.arity).map (.operand g c)
  else [.single g c]

/-- The chunks of a condition, given the number of its group and its own. -/
def conditionChunks (g c : Nat) (s : ConditionShape) : List Chunk :=
  let values := (places g c s).map fun place => [Chunk.placeholder place]
  [.column s.column, .glue .blank, .operator s.operator, .glue .blank] ++
    if s.operator.isRange then between .conjunction values
    else if s.operator.isMembership then
      .glue .opening :: (between .comma values ++ [.glue .closing])
    else ([] : List Chunk).intercalate values

/-- The chunks of a group, given its number. -/
def groupChunks (g : Nat) (conditions : List ConditionShape) : List Chunk :=
  .glue .opening ::
    (between .conjunction (conditions.zipIdx.map fun (s, c) => conditionChunks g c s) ++
      [.glue .closing])

/-- The chunks that stand for the condition. -/
def whereChunks (groups : List (List ConditionShape)) : List Chunk :=
  if groups.isEmpty then [.glue .always]
  else between .disjunction (groups.zipIdx.map fun (group, g) => groupChunks g group)

/-- The chunks that stand for the values. -/
def valuesChunks (type : QueryType) (columns : List String) : List Chunk :=
  between .comma (columns.zipIdx.map fun (column, i) =>
    if type = .insert then [.placeholder (.written i)]
    else [.column column, .glue .assign, .placeholder (.written i)])

/-- The chunks that stand for the columns. -/
def columnsChunks (columns : List String) : List Chunk :=
  between .comma (columns.map fun column => [.column column])

/-- The places of a condition are those of its placeholders. -/
theorem map_name_places (g c : Nat) (s : ConditionShape) :
    (places g c s).map Place.name = placeholders g c s := by
  rw [places, placeholders]
  split
  · rw [List.map_map]
    rfl
  · rfl

/-- The chunks of a condition make its text. -/
theorem source_conditionChunks (g c : Nat) (s : ConditionShape) :
    source (conditionChunks g c s) = (conditionText g c s).toList := by
  have hvalues : ((places g c s).map fun place => [Chunk.placeholder place]).map source =
      (placeholders g c s).map fun name => ':' :: name.toList := by
    rw [← map_name_places, List.map_map, List.map_map]
    simp [Function.comp_def, source, Chunk.chars]
  -- the column, the operator and the blanks are the same text on both sides
  rw [toList_conditionText, conditionChunks, source_append]
  congr 1
  · simp [source, Chunk.chars, Glue.text]
  · rw [operandsText]
    split
    · rw [source_between, hvalues]
      rfl
    · split
      · rw [source_bracketed, source_between, hvalues]
        rfl
      · rw [source_intercalate, hvalues]
        rfl

/-- The chunks of a group make its text. -/
theorem source_groupChunks (g : Nat) (conditions : List ConditionShape) :
    source (groupChunks g conditions) = (groupText g conditions).toList := by
  have hconditions (c : Nat) :
      ((conditions.zipIdx c).map fun (s, c) => conditionChunks g c s).map source =
        ((conditions.zipIdx c).map fun (s, c) => conditionText g c s).map String.toList := by
    rw [List.map_map, List.map_map]
    exact List.map_congr_left fun p _ => source_conditionChunks g p.2 p.1
  rw [groupChunks, source_bracketed, source_between, hconditions, groupText, String.toList_append,
    String.toList_append, toList_joined, List.append_assoc]
  rfl

/-- The chunks of all groups make the text that stands for the condition. -/
theorem source_whereChunks (groups : List (List ConditionShape)) :
    source (whereChunks groups) = (whereText groups).toList := by
  have hgroups :
      (groups.zipIdx.map fun (group, g) => groupChunks g group).map source =
        (groups.zipIdx.map fun (group, g) => groupText g group).map String.toList := by
    rw [List.map_map, List.map_map]
    exact List.map_congr_left fun p _ => source_groupChunks p.2 p.1
  rw [whereChunks, whereText]
  split
  · rfl
  · rw [source_between, hgroups, toList_joined]
    rfl

/-- The chunks of written values make the text that stands for them. -/
theorem source_valuesChunks (type : QueryType) (columns : List String) :
    source (valuesChunks type columns) = (valuesText type columns).toList := by
  rw [valuesChunks, valuesText, source_between, toList_joined, List.map_map, List.map_map]
  congr 1
  refine List.map_congr_left fun p _ => ?_
  obtain ⟨column, i⟩ := p
  by_cases htype : type = .insert
  · simp [htype, source, Chunk.chars, Place.name]
  · simp [htype, source, Chunk.chars, Glue.text, Place.name]

/-- The chunks of columns make the text that stands for them. -/
theorem source_columnsChunks (columns : List String) :
    source (columnsChunks columns) = (joined ", " columns).toList := by
  rw [columnsChunks, source_between, toList_joined, List.map_map]
  congr 1
  exact List.map_congr_left fun column _ => List.append_nil _

/-! ## Filling tokens -/

/-- The chunks after `skip` characters, with every occurrence of a token replaced. -/
def fillFrom (token : List Char) (new : List Chunk) : Nat → List Chunk → List Chunk
  | _, [] => []
  | skip + 1, chunk :: chunks => fillFrom token new (skip + 1 - chunk.chars.length) chunks
  | 0, chunk :: chunks =>
    if token.isPrefixOf (source (chunk :: chunks)) then
      new ++ fillFrom token new (token.length - chunk.chars.length) chunks
    else chunk :: fillFrom token new 0 chunks

/-- The statement for criteria of a shape, in chunks. The tokens are filled one kind after the
other. -/
def chunks (t : Template) (s : Shape) : List Chunk :=
  fillFrom conditionToken.toList (whereChunks s.groups) 0
    (fillFrom valuesToken.toList (valuesChunks t.queryType s.columns) 0
      (fillFrom columnsToken.toList (columnsChunks s.columns) 0 (t.sql.toList.map .template)))

/-- A token that takes some of a chunk takes it whole. -/
def Chunk.IsSealed (chunk : Chunk) : Prop :=
  (∃ c, chunk = .template c) ∨ chunk.chars ≠ [] ∧ ∀ c ∈ chunk.chars, c ≠ '<' ∧ c ≠ '>'

theorem source_cons (chunk : Chunk) (chunks : List Chunk) :
    source (chunk :: chunks) = chunk.chars ++ source chunks := rfl

/-- What is skipped is left out. -/
theorem replaceFrom_append {token new cs rest : List Char} {skip : Nat} (h : cs.length ≤ skip) :
    replaceFrom token new skip (cs ++ rest) = replaceFrom token new (skip - cs.length) rest := by
  induction cs generalizing skip with
  | nil => rfl
  | cons c cs ih =>
    obtain ⟨skip, rfl⟩ : ∃ n, skip = n + 1 := ⟨skip - 1, by simp at h; omega⟩
    rw [List.cons_append, replaceFrom, ih (Nat.le_of_succ_le_succ h), List.length_cons,
      Nat.add_sub_add_right]

/-- Where a token was found, its last character is the last one to skip. -/
theorem getElem?_of_token {slot : Slot} {c : Char} {cs : List Char}
    (h : slot.token.toList.isPrefixOf (c :: cs)) :
    cs[slot.token.toList.length - 1 - 1]? = some '>' := by
  obtain ⟨rest, hrest⟩ := List.isPrefixOf_iff_prefix.mp h
  have hlast : slot.token.toList[slot.token.toList.length - 1]? = some '>' := by
    cases slot <;> rfl
  have hlength : 2 ≤ slot.token.toList.length := by cases slot <;> decide
  have hhere : (c :: cs)[slot.token.toList.length - 1]? = some '>' := by
    rw [← hrest, List.getElem?_append_left (by omega), hlast]
  obtain ⟨n, hn⟩ : ∃ n, slot.token.toList.length - 1 = n + 1 :=
    ⟨slot.token.toList.length - 2, by omega⟩
  rw [hn, List.getElem?_cons_succ] at hhere
  rw [hn]
  exact hhere

/-- No token begins in a chunk that is not from the template. -/
theorem isClear_of_ne {slot : Slot} {cs : List Char} (h : ∀ c ∈ cs, c ≠ '<' ∧ c ≠ '>') :
    isClear slot.token.toList cs := by
  obtain ⟨part, hpart⟩ : ∃ part, slot.token.toList = '<' :: '<' :: part := by
    cases slot <;> exact ⟨_, rfl⟩
  rw [hpart]
  exact (IsCalm.of_not_mem fun hlt => (h '<' hlt).1 rfl).isClear

/-- The end of a token is a chunk itself, or it is behind it. -/
theorem Chunk.IsSealed.length_le {chunk : Chunk} (h : chunk.IsSealed) {rest : List Char} {n : Nat}
    (hend : (chunk.chars ++ rest)[n]? = some '>') :
    chunk.chars.length = n + 1 ∨ chunk.chars.length ≤ n := by
  rcases h with ⟨c, rfl⟩ | ⟨-, hplain⟩
  · have hlength : (Chunk.template c).chars.length = 1 := rfl
    omega
  · refine .inr (Nat.le_of_not_lt fun hlt => ?_)
    rw [List.getElem?_append_left hlt] at hend
    exact (hplain '>' (List.mem_of_getElem? hend)).2 rfl

/-- **Chunks are filled as their text is.** Where some characters are skipped the last of them ends
a token, so it is no part of a column. -/
theorem source_fillFrom (slot : Slot) (new : List Chunk) {skip : Nat} {chunks : List Chunk}
    (h : ∀ chunk ∈ chunks, chunk.IsSealed)
    (hskip : skip = 0 ∨ (source chunks)[skip - 1]? = some '>') :
    source (fillFrom slot.token.toList new skip chunks) =
      replaceFrom slot.token.toList (source new) skip (source chunks) := by
  induction chunks generalizing skip with
  -- induction on the chunks, for any number of characters still to be skipped
  | nil => cases skip <;> rfl
  | cons chunk chunks ih =>
    obtain ⟨hchunk, hchunks⟩ := List.forall_mem_cons.mp h
    cases skip with
    | zero =>
      rw [fillFrom]
      -- a single character of the template may begin the token, a whole chunk cannot
      rcases hchunk with ⟨c, rfl⟩ | ⟨hne, hplain⟩
      · have hcons : source (.template c :: chunks) = c :: source chunks := rfl
        have hlength : (Chunk.template c).chars.length = 1 := rfl
        have hnonempty : slot.token.toList.isEmpty = false := by cases slot <;> rfl
        rw [hcons, replaceFrom, hnonempty, Bool.not_false, Bool.true_and, hlength]
        by_cases hp : slot.token.toList.isPrefixOf (c :: source chunks)
        · -- the rest of the token is skipped: its last character is where the skip ends
          rw [if_pos hp, if_pos hp, source_append, ih hchunks (.inr (getElem?_of_token hp))]
        · rw [if_neg hp, if_neg hp, source_cons, ih hchunks (.inl rfl)]
          rfl
      · have hclear : isClear slot.token.toList chunk.chars := isClear_of_ne hplain
        have hfree : slot.token.toList.isPrefixOf (chunk.chars ++ source chunks) = false := by
          obtain ⟨c, cs, hcs⟩ := List.exists_cons_of_ne_nil hne
          rw [hcs] at hclear ⊢
          exact isPrefixOf_of_isClear hclear _
        rw [source_cons, hfree, if_neg Bool.false_ne_true, source_cons, ih hchunks (.inl rfl)]
        -- a chunk without angle brackets is copied as it is
        exact (replace_append hclear).symm
    | succ skip =>
      have hend : (chunk.chars ++ source chunks)[skip]? = some '>' :=
        hskip.resolve_left (Nat.succ_ne_zero skip)
      rw [fillFrom, source_cons]
      -- the skip ends within this chunk or goes on behind it
      rcases hchunk.length_le hend with hlength | hlength
      · rw [replaceFrom_append (by omega)]
        exact ih hchunks (.inl (by omega))
      · rw [replaceFrom_append (by omega)]
        rw [List.getElem?_append_right hlength] at hend
        have hindex : skip + 1 - chunk.chars.length - 1 = skip - chunk.chars.length := by omega
        exact ih hchunks (.inr (hindex ▸ hend))

/-! ## What stands in a filled template -/

/-- What holds of the chunks and of those that are new holds of all that are there then. -/
theorem forall_mem_fillFrom {p : Chunk → Prop} (token : List Char) (skip : Nat)
    {new chunks : List Chunk} (hnew : ∀ chunk ∈ new, p chunk) (h : ∀ chunk ∈ chunks, p chunk) :
    ∀ chunk ∈ fillFrom token new skip chunks, p chunk := by
  fun_induction fillFrom token new skip chunks with
  | case1 => exact h
  | case2 skip first rest ih => exact ih (List.forall_mem_cons.mp h).2
  | case3 first rest hp ih =>
    exact List.forall_mem_append.mpr ⟨hnew, ih (List.forall_mem_cons.mp h).2⟩
  | case4 first rest hp ih =>
    obtain ⟨hfirst, hrest⟩ := List.forall_mem_cons.mp h
    exact List.forall_mem_cons.mpr ⟨hfirst, ih hrest⟩

/-- What is between parts is glue. -/
theorem mem_between {g : Glue} {parts : List (List Chunk)} {chunk : Chunk}
    (h : chunk ∈ between g parts) : chunk = .glue g ∨ ∃ part ∈ parts, chunk ∈ part :=
  (mem_intercalate h).imp_left List.mem_singleton.mp

/-- The condition with a number in a group with a number. -/
def shapeAt? (s : Shape) (g c : Nat) : Option ConditionShape :=
  (s.groups[g]?).bind fun group => group[c]?

/-- A chunk is made of a shape. -/
inductive Chunk.IsOf (s : Shape) : Chunk → Prop where
  /-- what stands around -/
  | glue (g : Glue) : IsOf s (.glue g)
  /-- a column that is written -/
  | written {name : String} (h : name ∈ s.columns) : IsOf s (.column name)
  /-- a placeholder for what is written -/
  | value {i : Nat} (h : i < s.columns.length) : IsOf s (.placeholder (.written i))
  /-- the column of a condition -/
  | compared {g c : Nat} {condition : ConditionShape} (h : shapeAt? s g c = some condition) :
    IsOf s (.column condition.column)
  /-- its operator -/
  | operator {g c : Nat} {condition : ConditionShape} (h : shapeAt? s g c = some condition) :
    IsOf s (.operator condition.operator)
  /-- a placeholder for one of its values -/
  | operand {g c : Nat} {condition : ConditionShape} (h : shapeAt? s g c = some condition)
    {place : Place} (hplace : place ∈ places g c condition) : IsOf s (.placeholder place)

/-- The chunks of columns are of the shape. -/
theorem isOf_of_mem_columns {s : Shape} {chunk : Chunk} (h : chunk ∈ columnsChunks s.columns) :
    chunk.IsOf s := by
  rcases mem_between h with rfl | ⟨part, hpart, h⟩
  · exact .glue .comma
  · obtain ⟨column, hcolumn, rfl⟩ := List.mem_map.mp hpart
    obtain rfl := List.mem_singleton.mp h
    exact .written hcolumn

/-- The chunks of values are of the shape. -/
theorem isOf_of_mem_values {type : QueryType} {s : Shape} {chunk : Chunk}
    (h : chunk ∈ valuesChunks type s.columns) : chunk.IsOf s := by
  rcases mem_between h with rfl | ⟨part, hpart, h⟩
  · exact .glue .comma
  · obtain ⟨⟨column, i⟩, hcolumn, rfl⟩ := List.mem_map.mp hpart
    have hname : s.columns[i]? = some column := List.mem_zipIdx_iff_getElem?.mp hcolumn
    have hi := (List.getElem?_eq_some_iff.mp hname).1
    by_cases htype : type = .insert
    · simp only [htype, if_true, List.mem_singleton] at h
      subst h
      exact .value hi
    · simp only [htype, if_false, List.mem_cons, List.not_mem_nil, or_false] at h
      rcases h with rfl | rfl | rfl
      · exact .written (List.mem_of_getElem? hname)
      · exact .glue .assign
      · exact .value hi

/-- The chunks of a condition are of a shape that has the condition there. -/
theorem isOf_of_mem_condition {s : Shape} {g c : Nat} {condition : ConditionShape}
    (hat : shapeAt? s g c = some condition) {chunk : Chunk}
    (h : chunk ∈ conditionChunks g c condition) : chunk.IsOf s := by
  have hvalue {part : List Chunk} (hpart : part ∈ (places g c condition).map fun place =>
      [Chunk.placeholder place]) (h : chunk ∈ part) : chunk.IsOf s := by
    obtain ⟨place, hplace, rfl⟩ := List.mem_map.mp hpart
    obtain rfl := List.mem_singleton.mp h
    exact .operand hat hplace
  rw [conditionChunks] at h
  rcases List.mem_append.mp h with h | h
  · -- column, blank, operator, blank
    simp only [List.mem_cons, List.not_mem_nil, or_false] at h
    rcases h with rfl | rfl | rfl | rfl
    exacts [.compared hat, .glue .blank, .operator hat, .glue .blank]
  · split at h
    · -- a range has its operands around AND
      rcases mem_between h with rfl | ⟨part, hpart, h⟩
      exacts [.glue .conjunction, hvalue hpart h]
    · -- a list of operands stands in brackets, any other operand stands alone
      split at h
      · simp only [List.mem_cons, List.mem_append, List.not_mem_nil, or_false] at h
        rcases h with rfl | h | rfl
        · exact .glue .opening
        · rcases mem_between h with rfl | ⟨part, hpart, h⟩
          exacts [.glue .comma, hvalue hpart h]
        · exact .glue .closing
      · rcases mem_intercalate h with h | ⟨part, hpart, h⟩
        · cases h
        · exact hvalue hpart h

/-- The chunks of the condition as a whole are of the shape. -/
theorem isOf_of_mem_where {s : Shape} {chunk : Chunk} (h : chunk ∈ whereChunks s.groups) :
    chunk.IsOf s := by
  rw [whereChunks] at h
  split at h
  · -- without groups there is only the condition that always holds
    obtain rfl := List.mem_singleton.mp h
    exact .glue .always
  · rcases mem_between h with rfl | ⟨part, hpart, h⟩
    · exact .glue .disjunction
    · obtain ⟨⟨group, g⟩, hgroup, rfl⟩ := List.mem_map.mp hpart
      simp only [groupChunks, List.mem_cons, List.mem_append, List.not_mem_nil, or_false] at h
      rcases h with rfl | h | rfl
      · exact .glue .opening
      · rcases mem_between h with rfl | ⟨part, hpart, h⟩
        · exact .glue .conjunction
        · obtain ⟨⟨condition, c⟩, hcondition, rfl⟩ := List.mem_map.mp hpart
          have hg : s.groups[g]? = some group := List.mem_zipIdx_iff_getElem?.mp hgroup
          have hc : group[c]? = some condition := List.mem_zipIdx_iff_getElem?.mp hcondition
          have hat : shapeAt? s g c = some condition := by rw [shapeAt?, hg, Option.bind_some, hc]
          exact isOf_of_mem_condition hat h
      · exact .glue .closing

/-- **Every chunk is a character of the template, or is made of the shape.** -/
theorem isOf_of_mem_chunks {t : Template} {s : Shape} :
    ∀ chunk ∈ t.chunks s, (∃ c, chunk = .template c) ∨ chunk.IsOf s := by
  have htemplate : ∀ chunk ∈ t.sql.toList.map Chunk.template,
      (∃ c, chunk = .template c) ∨ chunk.IsOf s := by
    intro chunk hchunk
    obtain ⟨c, -, rfl⟩ := List.mem_map.mp hchunk
    exact .inl ⟨c, rfl⟩
  refine forall_mem_fillFrom _ _ (fun _ h => .inr (isOf_of_mem_where h)) ?_
  refine forall_mem_fillFrom _ _ (fun _ h => .inr (isOf_of_mem_values h)) ?_
  exact forall_mem_fillFrom _ _ (fun _ h => .inr (isOf_of_mem_columns h)) htemplate

/-- A chunk that is of a shape is no letter of the template. -/
theorem letter?_of_isOf {s : Shape} {chunk : Chunk} (h : chunk.IsOf s) : chunk.letter? = none := by
  cases h <;> rfl

/-- What is left of the template is in order. -/
theorem letters_fillFrom {token : List Char} {new chunks : List Chunk} {skip : Nat}
    (h : new.filterMap Chunk.letter? = []) :
    ((fillFrom token new skip chunks).filterMap Chunk.letter?).Sublist
      (chunks.filterMap Chunk.letter?) := by
  have hcons (first : Chunk) (rest : List Chunk) :
      (rest.filterMap Chunk.letter?).Sublist ((first :: rest).filterMap Chunk.letter?) :=
    (List.sublist_cons_self first rest).filterMap _
  -- letters are kept or dropped, and what is filled in has none
  fun_induction fillFrom token new skip chunks with
  | case1 => exact .refl _
  | case2 skip first rest ih => exact ih.trans (hcons first rest)
  | case3 first rest hp ih =>
    rw [List.filterMap_append, h, List.nil_append]
    exact ih.trans (hcons first rest)
  | case4 first rest hp ih =>
    rw [List.filterMap_cons, List.filterMap_cons]
    split
    · exact ih
    · exact ih.cons_cons _

/-- The characters of the template that are left are in order. -/
theorem letters_chunks (t : Template) (s : Shape) :
    ((t.chunks s).filterMap Chunk.letter?).Sublist t.sql.toList := by
  have hnone {chunks : List Chunk} (h : ∀ chunk ∈ chunks, chunk.IsOf s) :
      chunks.filterMap Chunk.letter? = [] :=
    List.filterMap_eq_nil_iff.mpr fun chunk hchunk => letter?_of_isOf (h chunk hchunk)
  have htemplate : (t.sql.toList.map Chunk.template).filterMap Chunk.letter? = t.sql.toList := by
    rw [List.filterMap_map]
    exact List.filterMap_some
  rw [← htemplate]
  refine (letters_fillFrom (hnone fun _ => isOf_of_mem_where)).trans ?_
  refine (letters_fillFrom (hnone fun _ => isOf_of_mem_values)).trans ?_
  exact letters_fillFrom (hnone fun _ => isOf_of_mem_columns)

/-! ## The statement in chunks -/

/-- What stands for columns and values is sealed. Only an operator could be a mark of a token, and
there is none without a group. -/
theorem isSealed_of_isOf {columns : List String} (h : ∀ column ∈ columns, isColumnName column)
    {chunk : Chunk} (hof : chunk.IsOf ⟨[], columns⟩) : chunk.IsSealed := by
  refine .inr ?_
  cases hof with
  | glue g =>
    have hne : g.text.toList ≠ [] := by cases g <;> decide
    have hplain : g.text.toList.all fun c => c != '<' && c != '>' := by cases g <;> decide
    refine ⟨hne, fun c hc => ?_⟩
    simpa using List.all_eq_true.mp hplain c hc
  | written hname =>
    rename_i name
    have hcolumn := isColumn_of_isColumnName (h name hname)
    obtain ⟨c, hc, -⟩ := hcolumn.start
    refine ⟨?_, fun d hd => ?_⟩
    · intro hnil
      change name.toList = [] at hnil
      rw [hnil] at hc
      cases hc
    · rcases hcolumn.all d hd with hd | rfl
      · constructor <;> rintro rfl <;> cases hd
      · decide
  -- a placeholder is made of name characters
  | value hi =>
    refine ⟨List.cons_ne_nil _ _, List.forall_mem_cons.mpr ⟨by decide, fun d hd => ?_⟩⟩
    rw [Place.toList_name] at hd
    have hname := Place.isNameChar_of_mem_chars hd
    constructor <;> rintro rfl <;> cases hname
  -- the parts of a condition belong to another slot
  | compared hat => cases hat
  | operator hat => cases hat
  | operand hat => cases hat

/-- **The chunks are the statement**, if the columns that are written can be written. -/
theorem source_chunks (t : Template) {s : Shape} (h : ∀ column ∈ s.columns, isColumnName column) :
    source (t.chunks s) = (t.render s).toList := by
  have htemplate : ∀ chunk ∈ t.sql.toList.map Chunk.template, chunk.IsSealed := by
    intro chunk hchunk
    obtain ⟨c, -, rfl⟩ := List.mem_map.mp hchunk
    exact .inl ⟨c, rfl⟩
  have hcolumns : ∀ chunk ∈ columnsChunks s.columns, chunk.IsSealed := fun chunk hchunk =>
    isSealed_of_isOf h (isOf_of_mem_columns hchunk)
  have hvalues : ∀ chunk ∈ valuesChunks t.queryType s.columns, chunk.IsSealed :=
    fun chunk hchunk => isSealed_of_isOf h (isOf_of_mem_values hchunk)
  have hfirst := forall_mem_fillFrom columnsToken.toList 0 hcolumns htemplate
  have hsource : source (t.sql.toList.map Chunk.template) = t.sql.toList := by
    rw [source, List.flatMap_map]
    exact List.flatMap_singleton' _
  rw [render, String.toList_ofList, chunks]
  -- the condition is filled last, so whatever is filled before it is sealed
  refine (source_fillFrom .condition _ (forall_mem_fillFrom _ _ hvalues hfirst) (.inl rfl)).trans ?_
  rw [source_whereChunks]
  refine congrArg (replace conditionToken.toList _)
    ((source_fillFrom .values _ hfirst (.inl rfl)).trans ?_)
  rw [source_valuesChunks]
  refine congrArg (replace valuesToken.toList _)
    ((source_fillFrom .columns _ htemplate (.inl rfl)).trans ?_)
  rw [source_columnsChunks, hsource]
  rfl

example : render ⟨"<<condi<<columns>>>>", .select⟩ ⟨[], ["tion"]⟩ = "1 = 1" := by decide +kernel

/-- The columns of analyzed conditions have passed the check. -/
theorem isColumnName_of_analyzeConditions {g c : Nat} {conditions : List (String × Condition)}
    {ss : List ConditionShape} {bs : List (String × Value)}
    (h : analyzeConditions g c conditions = .ok (ss, bs)) : ∀ s ∈ ss, isColumnName s.column := by
  induction conditions generalizing c ss bs with
  | nil =>
    cases h
    exact fun s hs => nomatch hs
  | cons e conditions ih =>
    obtain ⟨⟨s, bs₁⟩, hfirst, h⟩ := bind_eq_ok.mp h
    obtain ⟨⟨ss, bs₂⟩, hrest, h⟩ := bind_eq_ok.mp h
    cases h
    obtain ⟨op, haccepts, rfl, -⟩ := analyzeCondition_eq_ok hfirst
    exact List.forall_mem_cons.mpr ⟨haccepts.column, ih hrest⟩

/-- The columns of analyzed groups have passed the check. -/
theorem isColumnName_of_analyzeGroups {g : Nat} {groups : List WhereGroup}
    {ss : List (List ConditionShape)} {bs : List (String × Value)}
    (h : analyzeGroups g groups = .ok (ss, bs)) :
    ∀ group ∈ ss, ∀ s ∈ group, isColumnName s.column := by
  induction groups generalizing g ss bs with
  | nil =>
    cases h
    exact fun group hgroup => nomatch hgroup
  | cons group groups ih =>
    rw [analyzeGroups] at h
    split at h
    · cases h
    obtain ⟨⟨s, bs₁⟩, hfirst, h⟩ := bind_eq_ok.mp h
    obtain ⟨⟨ss, bs₂⟩, hrest, h⟩ := bind_eq_ok.mp h
    cases h
    exact List.forall_mem_cons.mpr ⟨isColumnName_of_analyzeConditions hfirst, ih hrest⟩

/-- **A column in the statement for a criterion can be written.** -/
theorem isColumnName_of_isOf {t : Template} {c : Criterion} {s : Shape} {set : ParameterSet}
    (h : t.analyze c = .ok (s, set)) {name : String} (hof : (Chunk.column name).IsOf s) :
    isColumnName name := by
  obtain ⟨⟨groups, bs⟩, hgroups, h⟩ := bind_eq_ok.mp h
  obtain ⟨_, hcolumns, h⟩ := bind_eq_ok.mp h
  obtain ⟨_, -, h⟩ := bind_eq_ok.mp h
  cases h
  cases hof with
  | written hname => exact forM_checkColumn_eq_ok hcolumns name hname
  | compared hat =>
    obtain ⟨group, hg, hc⟩ := Option.bind_eq_some_iff.mp hat
    exact isColumnName_of_analyzeGroups hgroups group (List.mem_of_getElem? hg) _
      (List.mem_of_getElem? hc)

end Template

end Tabula
