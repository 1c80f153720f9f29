import Tabula.Proofs.Procedure.Singly
import Tabula.Proofs.Template.Noninterference

/-!
# Criteria by shape

What the statement of a criterion says depends on its shape, which can be read off the criterion
without a template: `Criterion.shape?`. So compiling a queue of criteria is grouping it by shape,
and what becomes of a criterion is what becomes of it alone.

* `shape?_of_analyze`: the shape that a template finds is the one the criterion has.
* `compile_eq_error_iff`: a queue is refused for its first criterion that is refused alone.
* `StatementSet.Serves`: a statement is for the criteria of a shape, in their order.
* `StatementSet.compile_groups`: all of it together, and for the queue in any order.
-/

namespace Tabula

/-! ## The shape of a criterion -/

/-- The shape of a condition on a column, if its operator is supported. -/
def Condition.shape? (column : String) (c : Condition) : Option ConditionShape :=
  (Operator.ofText? c.operator).map fun op => ⟨column, op, c.values.length⟩

/-- The shapes of conditions on columns. -/
def conditionShapes? (entries : List (String × Condition)) : Option (List ConditionShape) :=
  entries.mapM fun entry => entry.2.shape? entry.1

/-- The shape of a criterion: of each alternative the columns with their operators and how many
values they are compared with, and the columns that are written. -/
def Criterion.shape? (c : Criterion) : Option Shape :=
  (c.groups.mapM fun group => conditionShapes? group.entries).map fun groups =>
    ⟨groups, c.values.keys⟩

example : (({} : Criterion).withCondition "n" (.between (.int 1) (.int 5))).shape? =
    some ⟨[[⟨"n", .between, 2⟩]], []⟩ := by decide +kernel

namespace Template

variable {t : Template} {c : Criterion} {s : Shape} {set : ParameterSet} {e : Error}

theorem shape?_of_analyzeCondition {g i : Nat} {column : String} {condition : Condition}
    {s : ConditionShape} {bs : List (String × Value)}
    (h : analyzeCondition g i column condition = .ok (s, bs)) :
    condition.shape? column = some s := by
  obtain ⟨op, haccepts, rfl, -⟩ := analyzeCondition_eq_ok h
  rw [Condition.shape?, haccepts.operator]
  rfl

theorem conditionShapes?_of_analyzeConditions {g i : Nat} {entries : List (String × Condition)}
    {ss : List ConditionShape} {bs : List (String × Value)}
    (h : analyzeConditions g i entries = .ok (ss, bs)) : conditionShapes? entries = some ss := by
  rw [conditionShapes?]
  induction entries generalizing i ss bs with
  | nil =>
    cases h
    rfl
  | cons entry entries ih =>
    obtain ⟨⟨s, bs₁⟩, hfirst, h⟩ := bind_eq_ok.mp h
    obtain ⟨⟨ss, bs₂⟩, hrest, h⟩ := bind_eq_ok.mp h
    cases h
    rw [List.mapM_cons, shape?_of_analyzeCondition hfirst, ih hrest]
    rfl

theorem mapM_of_analyzeGroups {g : Nat} {groups : List WhereGroup}
    {ss : List (List ConditionShape)} {bs : List (String × Value)}
    (h : analyzeGroups g groups = .ok (ss, bs)) :
    (groups.mapM fun group => conditionShapes? group.entries) = some ss := by
  induction groups generalizing g ss bs with
  | nil =>
    cases h
    rfl
  | cons group groups ih =>
    rw [analyzeGroups] at h
    split at h
    · cases h
    obtain ⟨⟨s, bs₁⟩, hfirst, h⟩ := bind_eq_ok.mp h
    obtain ⟨⟨ss, bs₂⟩, hrest, h⟩ := bind_eq_ok.mp h
    cases h
    rw [List.mapM_cons, conditionShapes?_of_analyzeConditions hfirst, ih hrest]
    rfl

/-- **The shape that a template finds is the one the criterion has**, whatever the template is. -/
theorem shape?_of_analyze (h : t.analyze c = .ok (s, set)) : c.shape? = some s := by
  obtain ⟨⟨groups, bs⟩, hgroups, h⟩ := bind_eq_ok.mp h
  obtain ⟨_, -, h⟩ := bind_eq_ok.mp h
  obtain ⟨_, -, h⟩ := bind_eq_ok.mp h
  cases h
  rw [Criterion.shape?, mapM_of_analyzeGroups hgroups]
  rfl

theorem shape?_eq_shapeOf (h : (t.analyze c).isOk) : c.shape? = t.shapeOf c := by
  rw [shapeOf]
  rcases ha : t.analyze c with e | ⟨s, set⟩
  · rw [ha] at h
    cases h
  · exact shape?_of_analyze ha

/-! ## A criterion alone -/

/-- A criterion alone is compiled to one statement with one set. -/
theorem compile_singleton (t : Template) (c : Criterion) :
    t.compile [c] = (t.pairOf c).map fun x => [⟨x.1, [x.2]⟩] := by
  rw [compile, if_neg (by simp), List.mapM_cons, pairOf]
  rcases t.analyze c with e | a <;> rfl

theorem compile_singleton_eq_error : t.compile [c] = .error e ↔ t.analyze c = .error e := by
  rw [compile_singleton, pairOf]
  rcases t.analyze c with e' | a <;> simp [Except.map, bind, Except.bind, pure, Except.pure]

theorem isOk_compile_singleton : (t.compile [c]).isOk = (t.analyze c).isOk := by
  rw [compile_singleton, pairOf]
  rcases t.analyze c with e' | a <;> rfl

theorem compile_singleton_eq_ok {sql : String} :
    t.compile [c] = .ok [⟨sql, [set]⟩] ↔ t.pairOf c = .ok (sql, set) := by
  rw [compile_singleton]
  rcases t.pairOf c with e | x
  · simp [Except.map]
  · simp [Except.map, Prod.ext_iff]

/-! ## A queue -/

variable {criteria : List Criterion} {batches : List Batch}

/-- **A queue is refused for its first criterion that is refused alone.** -/
theorem compile_eq_error_iff (hne : criteria ≠ []) : t.compile criteria = .error e ↔
    ∃ before c after, criteria = before ++ c :: after ∧
      (∀ b ∈ before, (t.compile [b]).isOk) ∧ t.compile [c] = .error e := by
  have hmapM : t.compile criteria = .error e ↔ criteria.mapM t.analyze = .error e := by
    rw [compile, if_neg (by simpa using hne)]
    rcases criteria.mapM t.analyze with e' | analyzed
    · exact ⟨fun h => by cases h; rfl, fun h => by cases h; rfl⟩
    · exact iff_of_false (fun h => by cases h) (fun h => by cases h)
  rw [hmapM, mapM_eq_error]
  simp only [isOk_compile_singleton, compile_singleton_eq_error]

theorem compile_eq_ok_iff_batchesOf : t.compile criteria = .ok batches ↔ criteria ≠ [] ∧
    ∃ analyzed, criteria.mapM t.analyze = .ok analyzed ∧ batches = t.batchesOf analyzed := by
  simp only [compile_eq_ok_iff, map_byShape]

theorem filterMap_shape? {analyzed : List (Shape × ParameterSet)}
    (h : List.Forall₂ (fun c a => t.analyze c = .ok a) criteria analyzed) :
    criteria.filterMap Criterion.shape? = analyzed.map Prod.fst := by
  induction h with
  | nil => rfl
  | cons hc _ ih => rw [List.filterMap_cons_some (shape?_of_analyze hc), List.map_cons, ih]

/-- Two runs have the same statements in some order, each with the same sets in some order. -/
def SameStatements (batches batches' : List Batch) : Prop :=
  ∃ bs, batches'.Perm bs ∧
    List.Forall₂ (fun b b' : Batch => b.sql = b'.sql ∧ b.sets.Perm b'.sets) batches bs

theorem sameStatements_batchesOf (t : Template) {analyzed analyzed' : List (Shape × ParameterSet)}
    (h : analyzed.Perm analyzed') :
    SameStatements (t.batchesOf analyzed) (t.batchesOf analyzed') := by
  have hshapes : (analyzed'.map Prod.fst).eraseDups.Perm (analyzed.map Prod.fst).eraseDups := by
    refine (List.perm_ext_iff_of_nodup (nodup_eraseDups _) (nodup_eraseDups _)).mpr fun s => ?_
    rw [List.mem_eraseDups, List.mem_eraseDups, (h.map Prod.fst).mem_iff]
  refine ⟨_, hshapes.map _, ?_⟩
  rw [batchesOf, List.forall₂_map_left_iff, List.forall₂_map_right_iff, List.forall₂_same]
  exact fun s _ => ⟨rfl, (h.filter _).map _⟩

end Template

namespace StatementSet

open Template

variable {p : StatementSet} {batches : List Batch}

/-- A statement serves the criteria of a shape: it is the one that each of them has alone, and its
sets are theirs, in their order. -/
structure Serves (p : StatementSet) (s : Shape) (b : Batch) : Prop where
  /-- the text is that of the shape -/
  sql : b.sql = p.template.render s
  /-- the sets are those of the criteria of this shape -/
  sets : List.Forall₂ (fun c set => (p.alone c).compile = .ok [⟨b.sql, [set]⟩])
    (p.criteria.filter fun c => c.shape? = some s) b.sets

theorem serves_batchesOf {analyzed : List (Shape × ParameterSet)}
    (h : p.criteria.mapM p.template.analyze = .ok analyzed) :
    List.Forall₂ p.Serves (p.criteria.filterMap Criterion.shape?).eraseDups
      (p.template.batchesOf analyzed) := by
  have hforall := forall₂_of_mapM h
  rw [filterMap_shape? hforall, batchesOf, List.forall₂_map_right_iff, List.forall₂_same]
  refine fun s _ => ⟨rfl, ?_⟩
  have hfilter : (p.criteria.filter fun c => c.shape? = some s) =
      p.criteria.filter fun c => p.template.shapeOf c = some s := by
    refine List.filter_congr fun c hc => ?_
    obtain ⟨a, -, hanalyze⟩ := (exists_of_forall₂ hforall).2 c hc
    rw [shape?_eq_shapeOf (t := p.template) (by rw [hanalyze]; rfl)]
  have hpairs := forall₂_of_mapM (mapM_filter_shape hforall s)
  rw [List.forall₂_map_right_iff] at hpairs
  rw [hfilter, List.forall₂_map_right_iff]
  exact hpairs.imp fun c a hpair => compile_singleton_eq_ok.mpr hpair

theorem length_sets (h : p.compile = .ok batches) :
    (batches.flatMap Batch.sets).length = p.criteria.length := by
  obtain ⟨-, -, hpairs⟩ := compile_pairs h
  have hlength := (forall₂_of_mapM hpairs).length_eq
  rw [(p.template.perm_inBatchOrder p.criteria).length_eq] at hlength
  rw [hlength]
  simp only [List.length_flatMap, Batch.pairs, List.length_map]

/-- **Compiling is the stable grouping by shape.** A queue is refused if and only if one of its
criteria is refused alone, with the error of the first of them. Otherwise there is one statement for
each shape, in the order of first appearance, with the sets of the criteria of this shape in their
order, and nothing else. In another order the queue has the same statements, with the same sets. -/
theorem compile_groups (hne : p.criteria ≠ []) :
    ((∃ e, p.compile = .error e) ↔ ∃ c ∈ p.criteria, ∃ e, (p.alone c).compile = .error e) ∧
    (∀ e, p.compile = .error e ↔ ∃ before c after, p.criteria = before ++ c :: after ∧
      (∀ b ∈ before, (p.alone b).compile.isOk) ∧ (p.alone c).compile = .error e) ∧
    ∀ batches, p.compile = .ok batches →
      List.Forall₂ p.Serves (p.criteria.filterMap Criterion.shape?).eraseDups batches ∧
      (batches.flatMap Batch.sets).length = p.criteria.length ∧
      ∀ q : StatementSet, q.template = p.template → p.criteria.Perm q.criteria →
        ∃ batches', q.compile = .ok batches' ∧ SameStatements batches batches' := by
  refine ⟨⟨?_, ?_⟩, fun e => compile_eq_error_iff hne, fun batches h => ?_⟩
  · rintro ⟨e, h⟩
    obtain ⟨before, c, after, hsplit, -, hc⟩ := (compile_eq_error_iff hne).mp h
    exact ⟨c, by rw [hsplit]; simp, e, hc⟩
  · rintro ⟨c, hc, e, hrefused⟩
    rcases hp : p.compile with e' | batches
    · exact ⟨e', rfl⟩
    · -- in a queue that is compiled every criterion is analyzed
      obtain ⟨-, analyzed, hanalyzed, -⟩ := compile_eq_ok_iff.mp hp
      obtain ⟨a, -, ha⟩ := (exists_of_forall₂ (forall₂_of_mapM hanalyzed)).2 c hc
      have hanalyze : p.template.analyze c = .error e := compile_singleton_eq_error.mp hrefused
      rw [hanalyze] at ha
      cases ha
  · obtain ⟨-, analyzed, hanalyzed, rfl⟩ := compile_eq_ok_iff_batchesOf.mp h
    refine ⟨serves_batchesOf hanalyzed, length_sets h, fun q ht hperm => ?_⟩
    obtain ⟨analyzed', hanalyzed', hperm'⟩ := mapM_perm hperm hanalyzed
    refine ⟨_, ?_, sameStatements_batchesOf p.template hperm'⟩
    have hqne : q.criteria ≠ [] := fun hnil => hne (hnil ▸ hperm).eq_nil
    exact compile_eq_ok_iff_batchesOf.mpr ⟨hqne, analyzed', ht ▸ hanalyzed', by rw [ht]⟩

/-- Three criteria of two shapes, the last of the shape of the first. -/
def queued : StatementSet where
  template := ⟨"SELECT * FROM t WHERE <<condition>>", .select⟩
  criteria :=
    [({} : Criterion).withCondition "id" (.eq (.int 1)),
      ({} : Criterion).withCondition "id" (.compare ">" (.int 9)),
      ({} : Criterion).withCondition "id" (.eq (.int 2))]

theorem compile_groups_queued : queued.criteria ≠ [] ∧ ∃ batches batches',
    queued.compile = .ok batches ∧
    batches.map Batch.sql =
      ["SELECT * FROM t WHERE (id = :w0_0)", "SELECT * FROM t WHERE (id > :w0_0)"] ∧
    List.Forall₂ queued.Serves [⟨[[⟨"id", .eq, 1⟩]], []⟩, ⟨[[⟨"id", .gt, 1⟩]], []⟩] batches ∧
    (batches.flatMap Batch.sets).length = 3 ∧
    StatementSet.compile { queued with criteria := queued.criteria.reverse } = .ok batches' ∧
    SameStatements batches batches' := by
  have hne : queued.criteria ≠ [] := List.cons_ne_nil _ _
  obtain ⟨batches, h, hsql⟩ : ∃ batches, queued.compile = .ok batches ∧ batches.map Batch.sql =
      ["SELECT * FROM t WHERE (id = :w0_0)", "SELECT * FROM t WHERE (id > :w0_0)"] :=
    ⟨_, by with_unfolding_all rfl, by with_unfolding_all rfl⟩
  have hshapes : (queued.criteria.filterMap Criterion.shape?).eraseDups =
      [⟨[[⟨"id", .eq, 1⟩]], []⟩, ⟨[[⟨"id", .gt, 1⟩]], []⟩] := by decide +kernel
  obtain ⟨hserves, hlength, hreorder⟩ := (compile_groups hne).2.2 batches h
  obtain ⟨batches', h', hsame⟩ := hreorder { queued with criteria := queued.criteria.reverse } rfl
    (List.reverse_perm _).symm
  exact ⟨hne, batches, batches', h, hsql, hshapes ▸ hserves, hlength, h', hsame⟩

end StatementSet

end Tabula
