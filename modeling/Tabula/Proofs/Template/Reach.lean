import Mathlib.Data.List.Forall2
import Mathlib.Data.List.Induction
import Tabula.Procedure.Statement
import Tabula.Proofs.Distinct
import Tabula.Proofs.Sql.Substitution
import Tabula.Proofs.Template.Reading

/-!
# Criteria reach the database

What a compiled template says and binds, against the criteria it was compiled for: each number in
the final statement stands where a value of the criterion stands in its layout, and points to that
value.

* `Shows`: a text with numbers that point to the values of some parts.
* `reaches_of_analyzed`: a criterion reaches the database.
* `StatementSet.compile_reaches`: every set of every statement comes from a criterion and reaches
  the database, and every criterion does.
-/

namespace Tabula

namespace Template

open Sql

/-! ## Numbers in the place of names -/

/-- A part with its value numbered by the position of its name. -/
def Part.numbered (style : PlaceholderStyle) (names : List String) (p : Part) : List Char :=
  p.piece.numbered style names

/-- A text is what some parts print, with numbers for their values. Each number stands in `bound`
for the value, and it ends there. -/
inductive Shows (style : PlaceholderStyle) (bound : List Value) : List Part → List Char → Prop where
  /-- the end -/
  | nil : Shows style bound [] []
  /-- text in front -/
  | text {cs t : List Char} {ps : List Part} (h : Shows style bound ps t) :
    Shows style bound (.text cs :: ps) (cs ++ t)
  /-- a value in front -/
  | value {n : Nat} {v : Value} {place : Place} {t : List Char} {ps : List Part} (hn : 1 ≤ n)
    (hv : bound[n - 1]? = some v) (ht : Bounds t) (h : Shows style bound ps t) :
    Shows style bound (.value v place :: ps) (style.mark :: Nat.toDigits 10 n ++ t)

theorem bounds_numbered (style : PlaceholderStyle) (names : List String) {ps : List Part}
    (h : Bounds (ps.flatMap Part.source)) : Bounds (ps.flatMap (Part.numbered style names)) := by
  induction ps with
  | nil => exact bounds_nil
  | cons p ps ih =>
    rw [List.flatMap_cons] at h ⊢
    cases p with
    | text cs =>
      cases cs with
      | nil => exact ih h
      | cons c cs => exact h
    | value v place =>
      intro c hc
      cases hc
      cases style <;> rfl

/-- Numbers point to the values that were bound for the names. -/
theorem shows_of_valuesOf {style : PlaceholderStyle} {names : List String} {set : ParameterSet}
    {bound : List Value} (hbound : NamedStatement.valuesOf set names = .ok bound) {ps : List Part}
    (hps : ∀ b ∈ ps.filterMap Part.binding?, b.1 ∈ names ∧ set.find? b.1 = some b.2)
    (hended : Ended ps) : Shows style bound ps (ps.flatMap (Part.numbered style names)) := by
  induction ps with
  | nil => exact .nil
  | cons p ps ih =>
    rw [List.flatMap_cons]
    cases p with
    | text cs => exact .text (ih hps hended)
    -- a value is shown by its mark and its number, and under the number stands the value
    | value v place =>
      have hbinding : (Part.value v place).binding? = some (place.name, v) := rfl
      rw [List.filterMap_cons_some hbinding] at hps
      obtain ⟨⟨hname, hfind⟩, hps⟩ := List.forall_mem_cons.mp hps
      have hnumbered : Part.numbered style names (.value v place) =
          style.mark :: Nat.toDigits 10 (names.idxOf place.name + 1) := by
        rw [Part.numbered, Part.piece, Piece.numbered, String.ofList_toList]
      rw [hnumbered]
      refine .value (Nat.le_add_left 1 _) ?_ (bounds_numbered style names hended.1)
        (ih hps hended.2)
      rw [Nat.add_sub_cancel, NamedStatement.getElem?_of_valuesOf hbound hname, hfind]

/-! ## A criterion -/

/-- A criterion reaches the database with a set for a statement: whatever the mark is, the set can
be bound, and the final statement shows the layout with the values of the criterion in it. -/
def Reaches (l : Layout) (type : QueryType) (c : Criterion) (sql : String) (set : ParameterSet) :
    Prop :=
  ∀ style, ∃ bound, (NamedStatement.compile sql style).bind set = .ok bound ∧
    Shows style bound (l.parts type c) (NamedStatement.compile sql style).sql.toList

/-- The values of a layout are in the set. -/
theorem Analyzed.find?_parts {l : Layout} {type : QueryType} {c : Criterion} {s : Shape}
    {set : ParameterSet} (h : Analyzed ⟨l.text, type⟩ c s set) :
    ∀ b ∈ (l.parts type c).filterMap Part.binding?, set.find? b.1 = some b.2 := by
  intro b hb
  rw [Layout.parts, List.filterMap_cons_none rfl, Layout.restParts, List.filterMap_flatMap] at hb
  obtain ⟨⟨slot, fragment⟩, -, hb⟩ := List.mem_flatMap.mp hb
  rw [List.filterMap_append, List.filterMap_cons_none rfl, List.filterMap_nil,
    List.append_nil] at hb
  obtain ⟨bs, hwrites, hfind⟩ := h.writes slot
  rw [hwrites.bindings] at hb
  exact hfind b hb

/-- The names of a statement are those of the parts that it is scanned into. -/
theorem Reads.mem_names {ps : List Part} {sql : String} (h : Reads ps sql.toList)
    (style : PlaceholderStyle) (name : String) : name ∈ (NamedStatement.compile sql style).names ↔
      name ∈ (ps.filterMap Part.binding?).map Prod.fst := by
  have hcut := h.cut
  rw [Piece.cut] at hcut
  have hnames : (Piece.scan sql.toList).filterMap Piece.name? =
      (ps.filterMap Part.binding?).map Prod.fst := by
    rw [← filterMap_name?_split, hcut, filterMap_name?_split, List.filterMap_map,
      List.map_filterMap]
    congr 1
    funext p
    cases p with
    | text cs => rfl
    | value v place => simp [Part.piece, Piece.name?, Part.binding?]
  rw [← hnames]
  exact List.mem_eraseDups

/-- The final statement is what the parts print, with numbers for their values. -/
theorem Reads.numbered {ps : List Part} {sql : String} (h : Reads ps sql.toList)
    (style : PlaceholderStyle) : (NamedStatement.compile sql style).sql.toList =
      ps.flatMap (Part.numbered style (NamedStatement.compile sql style).names) := by
  have hcut := h.cut
  rw [Piece.cut] at hcut
  rw [NamedStatement.compile, String.toList_ofList, ← flatMap_numbered_split, hcut,
    flatMap_numbered_split, List.flatMap_map]
  rfl

/-- An accepted criterion reaches the database with the set and the statement made of it. -/
theorem reaches_of_analyzed {l : Layout} (hl : l.IsWellFormed false) {type : QueryType}
    {c : Criterion} {s : Shape} {set : ParameterSet} (h : Analyzed ⟨l.text, type⟩ c s set)
    (hseparated : Layout.IsSeparated type c l.rest) :
    Reaches l type c (Template.render ⟨l.text, type⟩ s) set := by
  intro style
  have hreads := Layout.reads hl h hseparated
  have hnames := hreads.mem_names style
  have hall : ∀ name ∈ (NamedStatement.compile (Template.render ⟨l.text, type⟩ s) style).names,
      (set.find? name).isSome := by
    intro name hname
    obtain ⟨b, hb, rfl⟩ := List.mem_map.mp ((hnames name).mp hname)
    rw [h.find?_parts b hb]
    rfl
  obtain ⟨bound, hbound⟩ := NamedStatement.exists_valuesOf hall
  refine ⟨bound, hbound, ?_⟩
  rw [hreads.numbered]
  refine shows_of_valuesOf hbound (fun b hb => ⟨?_, h.find?_parts b hb⟩) hreads.ended
  exact (hnames b.1).mpr (List.mem_map_of_mem hb)

/-! ## Sets by shape -/

/-- A set is filed behind the others of its shape, or with a shape that was not there. -/
theorem fileUnder_map {shapes : List Shape} (hnodup : shapes.Nodup) {f : Shape → List ParameterSet}
    {s : Shape} (hf : s ∉ shapes → f s = []) (set : ParameterSet) :
    fileUnder s set (shapes.map fun s' => (s', f s')) =
      (shapes ++ if s ∈ shapes then [] else [s]).map fun s' =>
        (s', if s = s' then f s' ++ [set] else f s') := by
  induction shapes with
  | nil => simp [fileUnder, hf]
  | cons a shapes ih =>
    obtain ⟨ha, hnodup⟩ := List.nodup_cons.mp hnodup
    rw [List.map_cons, fileUnder]
    -- the shape is the first one filed, or it is filed further on
    by_cases has : a = s
    · subst has
      have hrest : ∀ b ∈ shapes, (b, f b) = (b, if a = b then f b ++ [set] else f b) := by
        intro b hb
        have hab : a ≠ b := by
          rintro rfl
          exact ha hb
        rw [if_neg hab]
      simp [List.map_congr_left hrest]
    · have hf' : s ∉ shapes → f s = [] := fun hs => hf fun hmem =>
        (List.mem_cons.mp hmem).elim (fun heq => has heq.symm) hs
      rw [if_neg has, ih hnodup hf']
      simp [Ne.symm has]

/-- **The sets of each shape in their order**, the shapes in the order of their first appearance. -/
theorem byShape_eq (analyzed : List (Shape × ParameterSet)) :
    byShape analyzed = (analyzed.map Prod.fst).eraseDups.map fun s =>
      (s, (analyzed.filter fun a => a.1 = s).map Prod.snd) := by
  induction analyzed using List.reverseRecOn with
  -- by the last set: it is filed behind all others
  | nil => rfl
  | append_singleton analyzed a ih =>
    have hfile : byShape (analyzed ++ [a]) = fileUnder a.1 a.2 (byShape analyzed) := by
      rw [byShape, List.foldl_append]
      rfl
    -- a shape that is new has no sets yet
    have hnew (h : a.1 ∉ (analyzed.map Prod.fst).eraseDups) :
        (analyzed.filter fun b => b.1 = a.1).map Prod.snd = [] := by
      rw [List.map_eq_nil_iff, List.filter_eq_nil_iff]
      intro b hb hba
      refine h (List.mem_eraseDups.mpr ?_)
      rw [← of_decide_eq_true hba]
      exact List.mem_map_of_mem hb
    have hshapes : (analyzed ++ [a]).map Prod.fst = analyzed.map Prod.fst ++ [a.1] :=
      List.map_append
    rw [hfile, ih, fileUnder_map (nodup_eraseDups _) hnew, hshapes, eraseDups_concat]
    simp only [List.mem_eraseDups]
    refine List.map_congr_left fun s _ => ?_
    rw [List.filter_append, List.map_append]
    by_cases hs : a.1 = s
    · simp [hs]
    · simp [hs]

/-- Sets are filed under their shapes, and none is lost. -/
theorem mem_byShape {analyzed : List (Shape × ParameterSet)} {s : Shape} {set : ParameterSet} :
    (∃ sets, (s, sets) ∈ byShape analyzed ∧ set ∈ sets) ↔ (s, set) ∈ analyzed := by
  rw [byShape_eq]
  constructor
  · rintro ⟨sets, hs, hset⟩
    obtain ⟨s', -, heq⟩ := List.mem_map.mp hs
    cases heq
    obtain ⟨a, ha, rfl⟩ := List.mem_map.mp hset
    obtain ⟨hmem, has⟩ := List.mem_filter.mp ha
    rwa [← of_decide_eq_true has]
  · intro h
    refine ⟨_, List.mem_map_of_mem (List.mem_eraseDups.mpr (List.mem_map_of_mem h)), ?_⟩
    exact List.mem_map_of_mem (List.mem_filter.mpr ⟨h, decide_eq_true rfl⟩)

/-- There is no shape that nothing is filed under. -/
theorem ne_nil_of_mem_byShape {analyzed : List (Shape × ParameterSet)} {s : Shape}
    {sets : List ParameterSet} (h : (s, sets) ∈ byShape analyzed) : sets ≠ [] := by
  rw [byShape_eq] at h
  obtain ⟨s', hs, heq⟩ := List.mem_map.mp h
  cases heq
  obtain ⟨a, ha, rfl⟩ := List.mem_map.mp (List.mem_eraseDups.mp hs)
  exact List.ne_nil_of_mem (List.mem_map_of_mem (List.mem_filter.mpr ⟨ha, decide_eq_true rfl⟩))

theorem exists_of_forall₂ {α β : Type} {r : α → β → Prop} {xs : List α} {ys : List β}
    (h : List.Forall₂ r xs ys) : (∀ y ∈ ys, ∃ x ∈ xs, r x y) ∧ ∀ x ∈ xs, ∃ y ∈ ys, r x y := by
  induction h with
  | nil => simp
  | @cons x y xs ys hxy _ ih =>
    obtain ⟨hleft, hright⟩ := ih
    constructor
    · intro y' hy'
      rcases List.mem_cons.mp hy' with rfl | hy'
      · exact ⟨x, List.mem_cons_self, hxy⟩
      · exact (hleft y' hy').imp fun x' hx' => hx'.imp_left (List.mem_cons_of_mem x)
    · intro x' hx'
      rcases List.mem_cons.mp hx' with rfl | hx'
      · exact ⟨y, List.mem_cons_self, hxy⟩
      · exact (hright x' hx').imp fun y' hy' => hy'.imp_left (List.mem_cons_of_mem y)

/-- A set of a statement is made of a criterion, and the statement is the one for its shape. -/
def Makes (t : Template) (c : Criterion) (batch : Batch) (set : ParameterSet) : Prop :=
  ∃ s, t.analyze c = .ok (s, set) ∧ batch.sql = t.render s

section

variable {t : Template} {criteria : List Criterion} {batches : List Batch}

/-- Criteria have statements if there are any and each is analyzed. -/
theorem compile_eq_ok_iff : t.compile criteria = .ok batches ↔ criteria ≠ [] ∧
    ∃ analyzed, criteria.mapM t.analyze = .ok analyzed ∧
      batches = (byShape analyzed).map fun (s, sets) => ⟨t.render s, sets⟩ := by
  rw [compile]
  cases criteria with
  | nil => exact iff_of_false (fun h => by cases h) fun h => h.1 rfl
  | cons c criteria =>
    rw [if_neg (by simp)]
    constructor
    · intro h
      obtain ⟨analyzed, hanalyzed, h⟩ := bind_eq_ok.mp h
      cases h
      exact ⟨List.cons_ne_nil _ _, analyzed, hanalyzed, rfl⟩
    · rintro ⟨-, analyzed, hanalyzed, rfl⟩
      exact bind_eq_ok.mpr ⟨analyzed, hanalyzed, rfl⟩

theorem compile_makes (h : t.compile criteria = .ok batches) :
    (∀ batch ∈ batches, ∀ set ∈ batch.sets, ∃ c ∈ criteria, Makes t c batch set) ∧
      ∀ c ∈ criteria, ∃ batch ∈ batches, ∃ set ∈ batch.sets, Makes t c batch set := by
  obtain ⟨-, analyzed, hanalyzed, rfl⟩ := compile_eq_ok_iff.mp h
  obtain ⟨hmade, hused⟩ := exists_of_forall₂ (forall₂_of_mapM hanalyzed)
  constructor
  · intro batch hbatch set hset
    obtain ⟨⟨s, sets⟩, hs, rfl⟩ := List.mem_map.mp hbatch
    obtain ⟨c, hc, hcs⟩ := hmade (s, set) (mem_byShape.mp ⟨sets, hs, hset⟩)
    exact ⟨c, hc, s, hcs, rfl⟩
  · intro c hc
    obtain ⟨⟨s, set⟩, ha, hcs⟩ := hused c hc
    obtain ⟨sets, hs, hset⟩ := mem_byShape.mpr ha
    exact ⟨_, List.mem_map_of_mem hs, set, hset, s, hcs, rfl⟩

/-- Every statement has a set. -/
theorem sets_ne_nil (h : t.compile criteria = .ok batches) {batch : Batch}
    (hbatch : batch ∈ batches) : batch.sets ≠ [] := by
  obtain ⟨-, analyzed, -, rfl⟩ := compile_eq_ok_iff.mp h
  obtain ⟨⟨s, sets⟩, hs, rfl⟩ := List.mem_map.mp hbatch
  exact ne_nil_of_mem_byShape hs

end

end Template

namespace StatementSet

open Template

/-- **Criteria reach the database unaltered.** Every set of every compiled statement is made of a
criterion, and of every criterion such a set is made. Whatever the mark is, the set can be bound,
and each number in the final statement points to the value of the criterion that stands there. The
fragments of the template close what they open, and a name ends behind each slot of values. -/
theorem compile_reaches {l : Template.Layout} (hl : l.IsWellFormed false) {p : StatementSet}
    (hp : p.template.sql = l.text) {batches : List Batch} (h : p.compile = .ok batches) :
    (∀ batch ∈ batches, ∀ set ∈ batch.sets, ∃ c ∈ p.criteria, Makes p.template c batch set ∧
      (Template.Layout.IsSeparated p.template.queryType c l.rest →
        Reaches l p.template.queryType c batch.sql set)) ∧
    ∀ c ∈ p.criteria, ∃ batch ∈ batches, ∃ set ∈ batch.sets, Makes p.template c batch set ∧
      (Template.Layout.IsSeparated p.template.queryType c l.rest →
        Reaches l p.template.queryType c batch.sql set) := by
  have htemplate : p.template = ⟨l.text, p.template.queryType⟩ := by rw [← hp]
  have hreaches {c : Criterion} {batch : Batch} {set : ParameterSet}
      (hmakes : Makes p.template c batch set)
      (hseparated : Template.Layout.IsSeparated p.template.queryType c l.rest) :
      Reaches l p.template.queryType c batch.sql set := by
    obtain ⟨s, hanalyze, hsql⟩ := hmakes
    rw [hsql, htemplate]
    rw [htemplate] at hanalyze
    exact reaches_of_analyzed hl (analyze_writes hanalyze) hseparated
  obtain ⟨hmade, hused⟩ := compile_makes h
  -- every set of the statement was made of a criterion
  constructor
  · intro batch hbatch set hset
    obtain ⟨c, hc, hmakes⟩ := hmade batch hbatch set hset
    exact ⟨c, hc, hmakes, hreaches hmakes⟩
  · -- every criterion made a set
    intro c hc
    obtain ⟨batch, hbatch, set, hset, hmakes⟩ := hused c hc
    exact ⟨batch, hbatch, set, hset, hmakes, hreaches hmakes⟩

/-- An update of rows by their key, for two criteria of one shape and one without a group. -/
def updating : StatementSet where
  template := ⟨"UPDATE t SET <<values>> WHERE <<condition>>", .update⟩
  criteria :=
    [(({} : Criterion).withValue "n" (.int 1)).withCondition "id" (.isIn [.int 2, .int 3]),
      (({} : Criterion).withValue "n" (.int 4)).withCondition "id" (.isIn [.int 5, .int 6]),
      ({} : Criterion).withValue "n" .null]

/-- The layout of its template. -/
def updatingLayout : Template.Layout :=
  ⟨"UPDATE t SET ".toList, [(.values, " WHERE ".toList), (.condition, [])]⟩

theorem compile_reaches_updating : ∃ batches, updating.compile = .ok batches ∧
    updatingLayout.IsWellFormed false ∧
    ∀ c ∈ updating.criteria, ∃ batch ∈ batches, ∃ set ∈ batch.sets,
      Makes updating.template c batch set ∧ Reaches updatingLayout .update c batch.sql set := by
  have hl : updatingLayout.IsWellFormed false := by decide
  obtain ⟨batches, h⟩ : ∃ batches, updating.compile = .ok batches :=
    ⟨_, by with_unfolding_all rfl⟩
  refine ⟨batches, h, hl, ?_⟩
  intro c hc
  obtain ⟨batch, hbatch, set, hset, hmakes, hreaches⟩ :=
    (compile_reaches hl (by with_unfolding_all rfl) h).2 c hc
  exact ⟨batch, hbatch, set, hset, hmakes,
    hreaches (Template.Layout.isSeparated_of_notMem (by decide))⟩

/-- A statement whose values run into the column behind them. -/
def running : StatementSet where
  template := ⟨"INSERT INTO t (<<columns>>) VALUES (<<values>><<columns>>)", .insert⟩
  criteria := [({} : Criterion).withValue "n" (.int 1)]

/-- The layout of its template. -/
def runningLayout : Template.Layout :=
  ⟨"INSERT INTO t (".toList,
    [(.columns, ") VALUES (".toList), (.values, []), (.columns, ")".toList)]⟩

/-- A statement behind a comment that begins with a slash. -/
def commented : StatementSet where
  template := ⟨"/*/ :a */ SELECT * FROM t WHERE <<condition>>", .select⟩
  criteria := [{}]

/-- The layout of its template. -/
def commentedLayout : Template.Layout :=
  ⟨"/*/ :a */ SELECT * FROM t WHERE ".toList, [(.condition, [])]⟩

/-- **Without a fragment behind it, the name of a value goes on with what follows**, and no value is
found for the longer name. A comment that begins with a slash ends in front of its text. -/
theorem compile_not_reaches :
    (runningLayout.IsWellFormed true ∧ running.template.sql = runningLayout.text ∧
      running.compile =
        .ok [⟨"INSERT INTO t (n) VALUES (:v0n)", [Dict.empty.insert "v0" (.int 1)]⟩] ∧
      (NamedStatement.compile "INSERT INTO t (n) VALUES (:v0n)" .dollar).bind
        (Dict.empty.insert "v0" (.int 1)) = .error (.missingParameter "v0n")) ∧
    commentedLayout.IsWellFormed true ∧ commented.template.sql = commentedLayout.text ∧
      commented.compile = .ok [⟨"/*/ :a */ SELECT * FROM t WHERE 1 = 1", [.empty]⟩] ∧
      (NamedStatement.compile "/*/ :a */ SELECT * FROM t WHERE 1 = 1" .dollar).bind .empty =
        .error (.missingParameter "a") := by
  refine ⟨⟨by decide, ?_, ?_, ?_⟩, by decide, ?_, ?_, ?_⟩ <;> with_unfolding_all rfl

end StatementSet

end Tabula
