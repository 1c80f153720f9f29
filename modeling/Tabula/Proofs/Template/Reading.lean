import Tabula.Proofs.Template.Analysis

/-!
# Reading a statement for a criterion

The statement for a criterion is its layout with the parts of the criterion in the slots. Scanned,
that text falls into these parts again, so no value is lost or hidden in a quotation, and no name
runs into the text behind it.

* `Layout.IsWellFormed`, `Layout.IsSeparated`: the templates this is true of.
* `Reads`: parts that a text is scanned into, with a lemma for a fragment and one for a slot.
* `Layout.reads`: the whole of a layout.
-/

namespace Tabula

namespace Template

open Sql

/-! ## Layouts whose parts can be told apart -/

namespace Layout

/-- The fragments of a layout do not interfere with what stands in its slots. If `shared`, a block
comment in them may begin with `/*` and a slash. -/
structure IsWellFormed (shared : Bool) (l : Layout) : Prop where
  /-- a fragment closes what it opens and has no placeholder of its own -/
  closed : ∀ fragment ∈ l.fragments, isClosed shared .code fragment
  /-- there is no dollar sign -/
  dollar : ∀ fragment ∈ l.fragments, '$' ∉ fragment
  /-- no token begins in a fragment -/
  calm : ∀ fragment ∈ l.fragments, Text.IsCalm fragment
  /-- what stands in a slot does not go on behind it -/
  bounds : ∀ p ∈ l.rest, Bounds p.2

instance (shared : Bool) (l : Layout) : Decidable (l.IsWellFormed shared) :=
  decidable_of_iff ((∀ fragment ∈ l.fragments, isClosed shared .code fragment ∧ '$' ∉ fragment ∧
      Text.IsCalm fragment) ∧ ∀ p ∈ l.rest, Bounds p.2)
    ⟨fun h => ⟨fun f hf => (h.1 f hf).1, fun f hf => (h.1 f hf).2.1, fun f hf => (h.1 f hf).2.2,
      h.2⟩, fun h => ⟨fun f hf => ⟨h.closed f hf, h.dollar f hf, h.calm f hf⟩, h.bounds⟩⟩

/-- Between the values and the next slot there is a fragment, unless that slot does not begin like a
name: it holds values that are inserted, or the condition of a criterion with groups. -/
def IsSeparated (type : QueryType) (c : Criterion) (rest : List (Slot × List Char)) : Prop :=
  ∀ before next after, rest = before ++ (.values, []) :: next :: after →
    (next.1 = .values ∧ type = .insert) ∨ (next.1 = .condition ∧ c.groups ≠ [])

theorem isSeparated_of_notMem {type : QueryType} {c : Criterion} {rest : List (Slot × List Char)}
    (h : (.values, []) ∉ rest) : IsSeparated type c rest := by
  rintro before next after rfl
  exact absurd (List.mem_append_right before List.mem_cons_self) h

/-- The parts of some slots and of the fragments behind them. -/
def restParts (type : QueryType) (c : Criterion) (rest : List (Slot × List Char)) : List Part :=
  rest.flatMap fun p => p.1.parts type c ++ [.text p.2]

/-- The parts of a layout for a criterion. -/
def parts (type : QueryType) (c : Criterion) (l : Layout) : List Part :=
  .text l.head :: restParts type c l.rest

end Layout

/-! ## What a text is scanned into -/

/-- Behind each value of some parts no name goes on. -/
def Ended : List Part → Prop
  | [] => True
  | .text _ :: ps => Ended ps
  | .value _ _ :: ps => Bounds (ps.flatMap Part.source) ∧ Ended ps

theorem ended_append {ps qs : List Part} (h : Legible (ps.map Part.piece) (qs.flatMap Part.source))
    (hqs : Ended qs) : Ended (ps ++ qs) := by
  induction ps with
  | nil => exact hqs
  | cons p ps ih =>
    cases p with
    | text cs => exact ih h.2
    | value v place =>
      obtain ⟨-, hbounds, hrest⟩ := h
      rw [flatMap_piece, ← List.flatMap_append] at hbounds
      exact ⟨hbounds, ih hrest⟩

/-- A text is scanned into parts. -/
structure Reads (ps : List Part) (cs : List Char) : Prop where
  /-- it is what the parts print -/
  source : ps.flatMap Part.source = cs
  /-- it is cut into their pieces -/
  cut : Piece.cut cs = (ps.map Part.piece).flatMap Piece.split
  /-- every name in it ends -/
  ended : Ended ps

namespace Reads

variable {ps : List Part} {cs : List Char}

theorem nil : Reads [] [] := ⟨rfl, Piece.cut_nil, trivial⟩

/-- A fragment in front. -/
theorem fragment {fragment : List Char} (hclosed : isClosed false .code fragment)
    (hdollar : '$' ∉ fragment) (hapart : Apart cs) (h : Reads ps cs) :
    Reads (.text fragment :: ps) (fragment ++ cs) := by
  refine ⟨?_, ?_, h.ended⟩
  · rw [List.flatMap_cons, h.source]
    rfl
  · have := cut_closed hclosed trivial hdollar hapart
    rw [Region.cut_code] at this
    rw [this, h.cut]
    rfl

/-- A slot in front. -/
theorem slot {qs : List Part} {t : List Char} {bs : List (String × Value)} (hqs : Writes qs t bs)
    (hlegible : Legible (qs.map Part.piece) cs) (h : Reads ps cs) :
    Reads (qs ++ ps) (t ++ cs) := by
  refine ⟨?_, ?_, ?_⟩
  · rw [List.flatMap_append, hqs.source, h.source]
  · have := cut_legible hlegible
    rw [flatMap_piece, hqs.source] at this
    rw [this, h.cut, List.map_append, List.flatMap_append]
  · refine ended_append ?_ h.ended
    rw [h.source]
    exact hlegible

end Reads

/-! ## How a slot begins and ends -/

theorem head?_intercalate {sep cs : List Char} {css : List (List Char)} {c : Char}
    (h : cs.head? = some c) : (sep.intercalate (cs :: css)).head? = some c := by
  cases css with
  | nil => rw [List.intercalate_singleton, h]
  | cons ds css =>
    rw [List.intercalate_cons_cons, List.head?_append, List.head?_append, h]
    rfl

theorem head?_columns {columns : List String} (hne : columns ≠ [])
    (h : ∀ column ∈ columns, isColumnName column) :
    ∃ c, (joined ", " columns).toList.head? = some c ∧ isNameStart c := by
  cases columns with
  | nil => exact absurd rfl hne
  | cons column columns =>
    obtain ⟨c, hc, hstart⟩ := (isColumn_of_isColumnName (h column List.mem_cons_self)).start
    rw [toList_joined]
    exact ⟨c, head?_intercalate hc, hstart⟩

theorem head?_values (type : QueryType) {columns : List String} (hne : columns ≠ [])
    (h : ∀ column ∈ columns, isColumnName column) :
    ∃ c, (valuesText type columns).toList.head? = some c ∧
      if type = .insert then c = ':' else isNameStart c := by
  cases columns with
  | nil => exact absurd rfl hne
  | cons column columns =>
    rw [valuesText, toList_joined]
    by_cases htype : type = .insert
    · refine ⟨':', head?_intercalate ?_, by rw [if_pos htype]⟩
      simp [htype]
    · obtain ⟨c, hc, hstart⟩ := (isColumn_of_isColumnName (h column List.mem_cons_self)).start
      refine ⟨c, head?_intercalate ?_, by rwa [if_neg htype]⟩
      simp [htype, hc]

theorem head?_where (groups : List (List ConditionShape)) :
    (whereText groups).toList.head? = some (if groups = [] then '1' else '(') := by
  cases groups with
  | nil => rfl
  | cons group groups =>
    rw [whereText, if_neg (by simp), toList_joined]
    refine head?_intercalate ?_
    simp [groupText]

theorem ne_lt_of_mem_column {column : String} {d : Char} (h : isColumnName column)
    (hd : d ∈ column.toList) : d ≠ '<' := by
  rintro rfl
  rcases (isColumn_of_isColumnName h).all _ hd with hd | hd
  · exact absurd hd (by decide)
  · exact absurd hd (by decide)

theorem lt_notMem_columns {columns : List String} (h : ∀ column ∈ columns, isColumnName column) :
    '<' ∉ (joined ", " columns).toList := by
  intro hlt
  exact forall_mem_joined (p := (· ≠ '<')) (by simp)
    (fun column hcolumn _ => ne_lt_of_mem_column (h column hcolumn)) _ hlt rfl

theorem ne_lt_of_mem_valueName {i : Nat} {d : Char} (hd : d ∈ (valueName i).toList) : d ≠ '<' := by
  rintro rfl
  have hname : (valueName i).toList = (Place.written i).chars := Place.toList_name (.written i)
  rw [hname] at hd
  exact absurd (Place.isNameChar_of_mem_chars hd) (by decide)

theorem lt_notMem_values {type : QueryType} {columns : List String}
    (h : ∀ column ∈ columns, isColumnName column) : '<' ∉ (valuesText type columns).toList := by
  intro hlt
  refine forall_mem_joined (p := (· ≠ '<')) (by simp) ?_ _ hlt rfl
  intro text htext d hd
  obtain ⟨⟨column, i⟩, hcolumn, rfl⟩ := List.mem_map.mp htext
  simp only at hd
  split at hd
  · rw [String.toList_append, List.mem_append] at hd
    rcases hd with hd | hd
    · cases List.mem_singleton.mp hd
      decide
    · exact ne_lt_of_mem_valueName hd
  · rw [String.toList_append, String.toList_append, List.mem_append, List.mem_append] at hd
    rcases hd with (hd | hd) | hd
    · exact ne_lt_of_mem_column (h column (List.fst_mem_of_mem_zipIdx hcolumn)) hd
    · have hall : " = :".toList.all (· != '<') := by decide
      simpa using List.all_eq_true.mp hall d hd
    · exact ne_lt_of_mem_valueName hd

theorem separated_ends (separator : String) {p : Part} {pss : List (List Part)} (hne : pss ≠ [])
    (h : ∀ ps ∈ pss, ∃ qs, ps = qs ++ [p]) : ∃ qs, separated separator pss = qs ++ [p] := by
  induction pss with
  | nil => exact absurd rfl hne
  | cons ps pss ih =>
    obtain ⟨hps, hpss⟩ := List.forall_mem_cons.mp h
    cases pss with
    | nil =>
      rw [separated, List.intercalate_singleton]
      exact hps
    | cons qs pss =>
      obtain ⟨rs, hrs⟩ := ih (List.cons_ne_nil qs pss) hpss
      rw [separated] at hrs
      rw [separated, List.intercalate_cons_cons, hrs, ← List.append_assoc]
      exact ⟨_, rfl⟩

/-- The condition ends in text. -/
theorem whereParts_ends (groups : List WhereGroup) :
    ∃ ps t, whereParts groups = ps ++ [.text t] ∧ t ≠ [] := by
  rw [whereParts]
  split
  · exact ⟨[], _, rfl, by simp⟩
  · rename_i hne
    have hgroups : ∀ ps ∈ groups.zipIdx.map fun e => groupParts e.2 e.1,
        ∃ qs, ps = qs ++ [.text ")".toList] := by
      intro ps hps
      obtain ⟨e, -, rfl⟩ := List.mem_map.mp hps
      exact ⟨_ :: _, rfl⟩
    obtain ⟨qs, hqs⟩ := separated_ends " OR " (by simpa using hne) hgroups
    exact ⟨qs, _, hqs, by simp⟩

/-- Whether pieces can be read back depends on how the text behind them begins. -/
theorem legible_congr {ps : List Piece} {c : Char} {xs : List Char} (ys : List Char)
    (h : Legible ps (c :: xs)) : Legible ps (c :: ys) := by
  induction ps with
  | nil => trivial
  | cons p ps ih =>
    cases p with
    | verbatim text => exact ⟨h.1, ih h.2⟩
    | placeholder name =>
      obtain ⟨hname, hbounds, hrest⟩ := h
      refine ⟨hname, ?_, ih hrest⟩
      intro d hd
      refine hbounds d ?_
      rw [List.head?_append] at hd ⊢
      exact hd

/-- What ends in text can be read back in front of any text. -/
theorem Writes.legible_of_ends {ps : List Part} {text t : List Char} {bs : List (String × Value)}
    (h : Writes (ps ++ [Part.text t]) text bs) (hne : t ≠ []) (rest : List Char) :
    Legible ((ps ++ [Part.text t]).map Part.piece) rest := by
  obtain ⟨c, cs, rfl⟩ := List.exists_cons_of_ne_nil hne
  have hends := h.legible [] bounds_nil
  rw [List.map_append, legible_append] at hends ⊢
  obtain ⟨hbefore, htext⟩ := hends
  exact ⟨legible_congr _ hbefore, htext.1, trivial⟩

/-! ## The parts of a layout -/

namespace Analyzed

variable {t : Template} {c : Criterion} {s : Shape} {set : ParameterSet} {slot : Slot}

/-- A slot opens no comment with the text in front of it. -/
theorem apart (h : Analyzed t c s set) (hslot : slot = .condition ∨ s.columns ≠ [])
    (rest : List Char) : Apart ((slot.text t.queryType s).toList ++ rest) := by
  have hvalid : ∀ column ∈ s.columns, isColumnName column := h.columns ▸ h.valid
  have hstart {d : Char} (hd : isNameStart d) : d ≠ '-' ∧ d ≠ '*' := by
    constructor <;>
    · rintro rfl
      exact absurd hd (by decide)
  cases slot with
  | columns =>
    obtain ⟨d, hd, hname⟩ := head?_columns (hslot.resolve_left (by simp)) hvalid
    intro e he
    rw [Slot.text, List.head?_append, hd] at he
    cases he
    exact hstart hname
  | values =>
    obtain ⟨d, hd, hname⟩ := head?_values t.queryType (hslot.resolve_left (by simp)) hvalid
    intro e he
    rw [Slot.text, List.head?_append, hd] at he
    cases he
    split at hname
    · rw [hname]
      decide
    · exact hstart hname
  | condition =>
    intro e he
    rw [Slot.text, List.head?_append, head?_where] at he
    cases he
    split <;> decide

/-- A name ends in front of values that are inserted, and of the condition of a criterion with
groups. -/
theorem bounds (h : Analyzed t c s set)
    (hslot : (slot = .values ∧ t.queryType = .insert ∧ s.columns ≠ []) ∨
      (slot = .condition ∧ c.groups ≠ [])) (rest : List Char) :
    Bounds ((slot.text t.queryType s).toList ++ rest) := by
  have hvalid : ∀ column ∈ s.columns, isColumnName column := h.columns ▸ h.valid
  intro e he
  rcases hslot with ⟨rfl, htype, hne⟩ | ⟨rfl, hne⟩
  · obtain ⟨d, hd, hcolon⟩ := head?_values t.queryType hne hvalid
    rw [Slot.text, List.head?_append, hd] at he
    cases he
    rw [if_pos htype] at hcolon
    rw [hcolon]
    decide
  · rw [Slot.text, List.head?_append, head?_where, if_neg fun hs => hne (h.groups.mp hs)] at he
    cases he
    decide

/-- The parts of a slot can be read back; those of the values only where a name ends. -/
theorem legible (h : Analyzed t c s set) {rest : List Char} (hrest : slot = .values → Bounds rest) :
    Legible ((slot.parts t.queryType c).map Part.piece) rest := by
  obtain ⟨bs, hwrites, -⟩ := h.writes slot
  cases slot with
  | columns => exact ⟨(hwrites.legible [] bounds_nil).1, trivial⟩
  | values => exact hwrites.legible rest (hrest rfl)
  | condition =>
    obtain ⟨ps, u, hps, hne⟩ := whereParts_ends c.groups
    rw [Slot.parts, hps] at hwrites ⊢
    exact hwrites.legible_of_ends hne rest

end Analyzed

namespace Layout

variable {t : Template} {c : Criterion} {s : Shape} {set : ParameterSet}

/-- What fills some slots, with the fragments behind them. -/
def restText (type : QueryType) (s : Shape) (rest : List (Slot × List Char)) : List Char :=
  rest.flatMap fun p => (p.1.text type s).toList ++ p.2

theorem apart_rest (h : Analyzed t c s set) {rest : List (Slot × List Char)}
    (hcolumns : ∀ p ∈ rest, p.1 = .condition ∨ s.columns ≠ []) :
    Apart (restText t.queryType s rest) := by
  cases rest with
  | nil =>
    intro e he
    cases he
  | cons p rest =>
    rw [restText, List.flatMap_cons, List.append_assoc]
    exact h.apart (hcolumns p List.mem_cons_self) _

/-- Slots are read in front of the end, given that a name ends behind values. -/
theorem reads_rest (h : Analyzed t c s set) {rest : List (Slot × List Char)}
    (hclosed : ∀ p ∈ rest, isClosed false .code p.2) (hdollar : ∀ p ∈ rest, '$' ∉ p.2)
    (hbounds : ∀ p ∈ rest, Bounds p.2)
    (hcolumns : ∀ p ∈ rest, p.1 = .condition ∨ s.columns ≠ [])
    (hseparated : IsSeparated t.queryType c rest) :
    Reads (restParts t.queryType c rest) (restText t.queryType s rest) := by
  induction rest with
  | nil => exact .nil
  | cons p rest ih =>
    obtain ⟨slot, fragment⟩ := p
    obtain ⟨hclosed, hclosed'⟩ := List.forall_mem_cons.mp hclosed
    obtain ⟨hdollar, hdollar'⟩ := List.forall_mem_cons.mp hdollar
    obtain ⟨hbounds, hbounds'⟩ := List.forall_mem_cons.mp hbounds
    obtain ⟨-, hcolumns'⟩ := List.forall_mem_cons.mp hcolumns
    have hseparated' : IsSeparated t.queryType c rest := by
      rintro before next after rfl
      exact hseparated ((slot, fragment) :: before) next after rfl
    have hrest := ih hclosed' hdollar' hbounds' hcolumns' hseparated'
    have hapart := apart_rest h hcolumns'
    -- behind the values a name ends: in the fragment, or in the next slot if it is empty
    have hends : slot = .values → Bounds (fragment ++ restText t.queryType s rest) := by
      rintro rfl
      cases fragment with
      | cons d fragment => exact hbounds
      | nil =>
        cases rest with
        | nil => exact bounds_nil
        | cons q rest =>
          have hnext := hseparated [] q rest rfl
          rw [List.nil_append, restText, List.flatMap_cons, List.append_assoc]
          refine h.bounds (hnext.imp_left ?_) _
          rintro ⟨hvalues, htype⟩
          refine ⟨hvalues, htype, (hcolumns' q List.mem_cons_self).resolve_left ?_⟩
          simp [hvalues]
    obtain ⟨bs, hwrites, -⟩ := h.writes slot
    have hslot := (hrest.fragment hclosed hdollar hapart).slot hwrites (h.legible hends)
    rw [restParts, restText, List.flatMap_cons, List.flatMap_cons, List.append_assoc,
      List.append_assoc]
    exact hslot

/-! ### The statement for a criterion -/

theorem contains_append (part before after : List Char) :
    Text.contains part (before ++ (part ++ after)) := by
  induction before with
  | nil =>
    cases part with
    | nil => cases after <;> simp [Text.contains]
    | cons c part => simp [Text.contains]
  | cons c before ih => simp [Text.contains, ih]

/-- A template has the tokens of its slots. -/
theorem has_token {l : Layout} {p : Slot × List Char} (hp : p ∈ l.rest) (type : QueryType) :
    Template.has ⟨l.text, type⟩ p.1.token := by
  obtain ⟨before, after, hrest⟩ := List.append_of_mem hp
  rw [has, text, fillWith, hrest, String.toList_ofList, List.flatMap_append, List.flatMap_cons,
    List.append_assoc, ← List.append_assoc l.head]
  exact contains_append _ _ _

/-- A template that wants values gets some. -/
theorem columns_ne_nil {t : Template} {s : Shape} (h : t.checkFit s = .ok ())
    (hwants : t.has valuesToken || t.has columnsToken) : s.columns ≠ [] := by
  intro hnil
  rw [checkFit, hwants, hnil] at h
  cases h

/-- **The statement for a criterion is scanned into the parts of the criterion.** -/
theorem reads {l : Layout} (hl : l.IsWellFormed false) {type : QueryType}
    (h : Analyzed ⟨l.text, type⟩ c s set) (hseparated : IsSeparated type c l.rest) :
    Reads (l.parts type c) (Template.render ⟨l.text, type⟩ s).toList := by
  obtain ⟨hclosed, hclosed'⟩ := List.forall_mem_cons.mp hl.closed
  obtain ⟨hdollar, hdollar'⟩ := List.forall_mem_cons.mp hl.dollar
  have hcolumns : ∀ p ∈ l.rest, p.1 = .condition ∨ s.columns ≠ [] := by
    rintro ⟨slot, fragment⟩ hp
    have htoken := has_token hp type
    cases slot with
    | columns => exact .inr (columns_ne_nil h.fits (by simp_all [Slot.token]))
    | values => exact .inr (columns_ne_nil h.fits (by simp_all [Slot.token]))
    | condition => exact .inl rfl
  have hrest := reads_rest h (fun p hp => hclosed' p.2 (List.mem_map_of_mem hp))
    (fun p hp => hdollar' p.2 (List.mem_map_of_mem hp)) hl.bounds hcolumns hseparated
  have hapart := apart_rest h hcolumns
  have hvalid : ∀ column ∈ s.columns, isColumnName column := h.columns ▸ h.valid
  have hclear :
      ∀ slot : Slot, ∀ fragment ∈ l.fragments, Text.isClear slot.token.toList fragment := by
    intro slot fragment hfragment
    cases slot with
    | _ => exact (hl.calm fragment hfragment).isClear
  rw [render_text hclear (lt_notMem_columns hvalid) (lt_notMem_values hvalid),
    String.toList_ofList]
  exact hrest.fragment hclosed hdollar hapart

end Layout

end Template

end Tabula
