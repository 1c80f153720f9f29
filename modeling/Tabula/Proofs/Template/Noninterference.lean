import Tabula.Proofs.Template.Provenance
import Tabula.Proofs.Template.Reach

/-!
# The values of criteria stay out of the text

Two lists of criteria are alike if they differ in their values only, and in how operators are
spelled. A template compiles both or none, and to the same statements, each for the same criteria.

The argument follows the analysis: of alike criteria every step ends alike (`EndsAlike`), and the
shapes it makes are the same. The text is made of the shapes, and it is traced chunk by chunk.

* `analyze_alike`: alike criteria have one shape.
* `Assigns`: which criterion a set of a statement is made of.
* `StatementSet.compile_alike`: two runs, and what is in the text.
-/

namespace Tabula

/-! ## Criteria that differ in their values -/

/-- Two spellings have the same words, but for the case of their ASCII letters. -/
def Operator.SpelledAlike (raw raw' : String) : Prop :=
  (Text.words raw.toList).map (List.map Char.toUpper) =
    (Text.words raw'.toList).map (List.map Char.toUpper)

instance (raw raw' : String) : Decidable (Operator.SpelledAlike raw raw') :=
  inferInstanceAs (Decidable (_ = _))

/-- Operands are of one structure: two values, or two lists of one length. -/
inductive Operand.Alike : Operand → Operand → Prop where
  /-- two values -/
  | scalar (v w : Value) : Alike (.scalar v) (.scalar w)
  /-- two lists -/
  | list {vs ws : List Value} (h : vs.length = ws.length) : Alike (.list vs) (.list ws)

/-- Conditions differ in the values of their operands, and in how the operator is spelled. -/
structure Condition.Alike (c d : Condition) : Prop where
  /-- the operators are spelled alike -/
  operator : Operator.SpelledAlike c.operator d.operator
  /-- the operands are of one structure -/
  operands : List.Forall₂ Operand.Alike c.operands d.operands

/-- Conditions of one column that are alike. -/
def AlikeOn (e f : String × Condition) : Prop := e.1 = f.1 ∧ e.2.Alike f.2

/-- Criteria have conditions on the same columns, write the same columns, and differ in values. -/
structure Criterion.Alike (c d : Criterion) : Prop where
  /-- the groups are alike, condition by condition -/
  groups : List.Forall₂ (fun g h => List.Forall₂ AlikeOn g.entries h.entries) c.groups d.groups
  /-- the same columns are written -/
  columns : c.values.keys = d.values.keys

/-! ## Runs that end alike -/

/-- Errors are the same, but for how an operator is spelled. -/
inductive Error.Alike : Error → Error → Prop where
  /-- one error -/
  | refl (e : Error) : Alike e e
  /-- an operator that is not supported, in two spellings -/
  | operator {raw raw' : String} (h : Operator.SpelledAlike raw raw') :
    Alike (.unsupportedOperator raw) (.unsupportedOperator raw')

/-- Two runs both fail, with alike errors, or both succeed, with results that are related. -/
inductive EndsAlike {α β : Type} (r : α → β → Prop) : Except Error α → Except Error β → Prop where
  /-- both fail -/
  | error {e e' : Error} (h : e.Alike e') : EndsAlike r (.error e) (.error e')
  /-- both succeed -/
  | ok {a : α} {b : β} (h : r a b) : EndsAlike r (.ok a) (.ok b)

theorem isEmpty_of_forall₂ {α β : Type} {r : α → β → Prop} {xs : List α} {ys : List β}
    (h : List.Forall₂ r xs ys) : xs.isEmpty = ys.isEmpty := by
  cases h <;> rfl

namespace EndsAlike

variable {α β γ δ : Type} {r : α → β → Prop} {r' : γ → δ → Prop}

/-- A run ends like itself. -/
theorem refl (x : Except Error α) : EndsAlike Eq x x := by
  cases x with
  | error e => exact .error (.refl e)
  | ok a => exact .ok rfl

/-- Runs that go on alike end alike. -/
theorem bind {x : Except Error α} {y : Except Error β} (h : EndsAlike r x y)
    {f : α → Except Error γ} {g : β → Except Error δ}
    (hf : ∀ a b, r a b → EndsAlike r' (f a) (g b)) : EndsAlike r' (x >>= f) (y >>= g) := by
  cases h with
  | error h => exact .error h
  | ok h => exact hf _ _ h

/-- What both come to is what each comes to. -/
theorem with_eq {x : Except Error α} {y : Except Error β} (h : EndsAlike r x y) :
    EndsAlike (fun a b => x = .ok a ∧ y = .ok b ∧ r a b) x y := by
  cases h with
  | error h => exact .error h
  | ok h => exact .ok ⟨rfl, rfl, h⟩

/-- So do runs over lists that are related element by element. -/
theorem mapM {xs : List α} {ys : List β} (h : List.Forall₂ r xs ys) {f : α → Except Error γ}
    {g : β → Except Error δ} (hf : ∀ a b, r a b → EndsAlike r' (f a) (g b)) :
    EndsAlike (List.Forall₂ r') (xs.mapM f) (ys.mapM g) := by
  induction h with
  | nil => exact .ok .nil
  | cons hab _ ih =>
    rw [List.mapM_cons, List.mapM_cons]
    refine (hf _ _ hab).bind fun c d hcd => ?_
    exact ih.bind fun cs ds hrest => .ok (.cons hcd hrest)

end EndsAlike

/-! ## Conditions -/

/-- The operator of a spelling is that of all spellings that are alike. -/
theorem Operator.normalize_alike {raw raw' : String} (h : SpelledAlike raw raw') :
    normalize raw = normalize raw' := by
  have hcapital (words : List (List Char)) : (words.intersperse [' ']).flatten.map Char.toUpper =
      ((words.map (List.map Char.toUpper)).intersperse [' ']).flatten := by
    induction words with
    | nil => rfl
    | cons w words ih =>
      cases words with
      | nil => simp
      | cons w' words => simpa using ih
  rw [normalize, normalize, hcapital, hcapital, h]

theorem Operator.parse_alike {raw raw' : String} (h : SpelledAlike raw raw') :
    EndsAlike Eq (parse raw) (parse raw') := by
  have hof : ofText? raw' = ofText? raw := by
    rw [ofText?, ofText?, normalize_alike h]
  rw [parse, parse, hof]
  split
  · exact .ok rfl
  · exact .error (.operator h)

namespace Condition

variable {os os' : List Operand}

theorem all_isScalar_alike (h : List.Forall₂ Operand.Alike os os') :
    os.all Operand.isScalar = os'.all Operand.isScalar := by
  induction h with
  | nil => rfl
  | cons hfirst _ ih =>
    rw [List.all_cons, List.all_cons, ih]
    cases hfirst <;> rfl

/-- Whether operands fit an operator is a matter of their structure. -/
theorem fits_alike (h : List.Forall₂ Operand.Alike os os') (op : Operator) :
    fits op os = fits op os' := by
  unfold fits
  rw [all_isScalar_alike h, h.length_eq]
  by_cases hrange : op.isRange
  · rw [if_pos hrange, if_pos hrange]
  rw [if_neg hrange, if_neg hrange]
  by_cases hmember : op.isMembership
  · rw [if_pos hmember, if_pos hmember]
    -- a list has to be the only operand, and not be empty
    cases h with
    | nil => rfl
    | cons hfirst hrest =>
      cases hfirst with
      | scalar v w => rfl
      | @list vs ws hlength =>
        cases vs <;> cases ws <;> first | cases hrest <;> rfl | simp at hlength
  · rw [if_neg hmember, if_neg hmember]

theorem length_values_alike (h : List.Forall₂ Operand.Alike os os') :
    (os.flatMap Operand.values).length = (os'.flatMap Operand.values).length := by
  induction h with
  | nil => rfl
  | cons hfirst _ ih =>
    rw [List.flatMap_cons, List.flatMap_cons, List.length_append, List.length_append, ih]
    cases hfirst with
    | scalar v w => rfl
    | list hlength =>
      rw [Operand.values, Operand.values, hlength]

theorem validate_alike {c d : Condition} (h : c.Alike d) (column : String) :
    EndsAlike Eq (c.validate column) (d.validate column) := by
  refine (Operator.parse_alike h.operator).bind ?_
  rintro op _ rfl
  rw [fits_alike h.operands]
  exact .refl _

end Condition

namespace Template

open Sql

/-! ## Criteria -/

/-- Two analyses have come to one shape. -/
def SameShape {σ β : Type} (a b : σ × β) : Prop := a.1 = b.1

theorem analyzeCondition_alike {c d : Condition} (h : c.Alike d) (g i : Nat) (column : String) :
    EndsAlike SameShape (analyzeCondition g i column c) (analyzeCondition g i column d) := by
  refine (EndsAlike.refl (checkColumn column)).bind fun _ _ _ => ?_
  refine (Condition.validate_alike h column).bind ?_
  rintro op _ rfl
  have hlength : c.values.length = d.values.length := Condition.length_values_alike h.operands
  refine .ok ?_
  rw [SameShape, hlength]

theorem analyzeConditions_alike {es fs : List (String × Condition)}
    (h : List.Forall₂ AlikeOn es fs) (g i : Nat) :
    EndsAlike SameShape (analyzeConditions g i es) (analyzeConditions g i fs) := by
  induction h generalizing i with
  | nil => exact .ok rfl
  | @cons e f _ _ hfirst _ ih =>
    obtain ⟨column, c⟩ := e
    obtain ⟨column', d⟩ := f
    obtain ⟨rfl : column = column', hcd⟩ := hfirst
    refine (analyzeCondition_alike hcd g i column).bind ?_
    rintro ⟨s, bs⟩ ⟨_, bs'⟩ ⟨⟩
    refine (ih (i + 1)).bind ?_
    rintro ⟨ss, cs⟩ ⟨_, cs'⟩ ⟨⟩
    exact .ok rfl

theorem analyzeGroups_alike {gs hs : List WhereGroup}
    (h : List.Forall₂ (fun g h => List.Forall₂ AlikeOn g.entries h.entries) gs hs) (i : Nat) :
    EndsAlike SameShape (analyzeGroups i gs) (analyzeGroups i hs) := by
  induction h generalizing i with
  | nil => exact .ok rfl
  | @cons g h _ _ hfirst _ ih =>
    have hempty : g.isEmpty = h.isEmpty := isEmpty_of_forall₂ hfirst
    rw [analyzeGroups, analyzeGroups, hempty]
    split
    · exact .error (.refl _)
    · refine (analyzeConditions_alike hfirst i 0).bind ?_
      rintro ⟨s, bs⟩ ⟨_, bs'⟩ ⟨⟩
      refine (ih (i + 1)).bind ?_
      rintro ⟨ss, cs⟩ ⟨_, cs'⟩ ⟨⟩
      exact .ok rfl

/-- **Alike criteria have one shape.** -/
theorem analyze_alike (t : Template) {c d : Criterion} (h : c.Alike d) :
    EndsAlike SameShape (t.analyze c) (t.analyze d) := by
  refine (analyzeGroups_alike h.groups 0).bind ?_
  rintro ⟨groups, bs⟩ ⟨_, bs'⟩ ⟨⟩
  rw [← h.columns]
  refine (EndsAlike.refl _).bind fun _ _ _ => ?_
  exact (EndsAlike.refl _).bind fun _ _ _ => .ok rfl

/-! ## Statements and their criteria -/

/-- The criteria whose statement has a number, given the number of the statement of each. -/
def assignedTo (k : Nat) (criteria : List Criterion) (numbers : List Nat) : List Criterion :=
  ((criteria.zip numbers).filter fun p => p.2 = k).map Prod.fst

/-- Each criterion has a statement, and the sets of a statement are made of its criteria, in their
order. -/
structure Assigns (t : Template) (criteria : List Criterion) (batches : List Batch)
    (numbers : List Nat) : Prop where
  /-- there is a number for each criterion -/
  length : numbers.length = criteria.length
  /-- it is that of a statement -/
  bound : ∀ k ∈ numbers, k < batches.length
  /-- the sets of a statement are made of its criteria -/
  sets : ∀ k batch, batches[k]? = some batch →
    List.Forall₂ (fun c set => Makes t c batch set) (assignedTo k criteria numbers) batch.sets

/-- The statements for what criteria are analyzed to. -/
def batchesOf (t : Template) (analyzed : List (Shape × ParameterSet)) : List Batch :=
  (analyzed.map Prod.fst).eraseDups.map fun s =>
    ⟨t.render s, (analyzed.filter fun a => a.1 = s).map Prod.snd⟩

/-- The number of the statement of each criterion. -/
def numbersOf (shapes : List Shape) : List Nat := shapes.map fun s => shapes.eraseDups.idxOf s

theorem map_byShape (t : Template) (analyzed : List (Shape × ParameterSet)) :
    ((byShape analyzed).map fun (s, sets) => (⟨t.render s, sets⟩ : Batch)) =
      t.batchesOf analyzed := by
  rw [byShape_eq, List.map_map]
  rfl

/-- The criteria with a number are those of a shape, if that is what the number says. -/
theorem forall₂_assignedTo {t : Template} {criteria : List Criterion}
    {analyzed : List (Shape × ParameterSet)}
    (h : List.Forall₂ (fun c a => t.analyze c = .ok a) criteria analyzed) (number : Shape → Nat)
    {k : Nat} {s : Shape} (hk : ∀ a ∈ analyzed, number a.1 = k ↔ a.1 = s) :
    List.Forall₂ (fun c set => t.analyze c = .ok (s, set))
      (assignedTo k criteria (analyzed.map fun a => number a.1))
      ((analyzed.filter fun a => a.1 = s).map Prod.snd) := by
  induction h with
  | nil => exact .nil
  | @cons c a criteria analyzed hfirst _ ih =>
    obtain ⟨hhere, hrest⟩ := List.forall_mem_cons.mp hk
    have ih := ih hrest
    obtain ⟨s', set⟩ := a
    by_cases hs : s' = s
    · subst hs
      have hnumber : number s' = k := hhere.mpr rfl
      simp only [assignedTo, List.map_cons, List.zip_cons_cons, List.filter_cons, hnumber,
        decide_true, if_true] at ih ⊢
      exact .cons hfirst ih
    · have hnumber : number s' ≠ k := fun heq => hs (hhere.mp heq)
      simp only [assignedTo, List.map_cons, List.zip_cons_cons, List.filter_cons, hnumber, hs,
        decide_false] at ih ⊢
      exact ih

/-- **What criteria are analyzed to is assigned by its shapes.** -/
theorem assigns_batchesOf {t : Template} {criteria : List Criterion}
    {analyzed : List (Shape × ParameterSet)}
    (h : List.Forall₂ (fun c a => t.analyze c = .ok a) criteria analyzed) :
    Assigns t criteria (t.batchesOf analyzed) (numbersOf (analyzed.map Prod.fst)) := by
  refine ⟨?_, fun k hk => ?_, fun k batch hbatch => ?_⟩
  · rw [numbersOf, List.length_map, List.length_map, h.length_eq]
  · obtain ⟨s, hs, rfl⟩ := List.mem_map.mp hk
    rw [batchesOf, List.length_map]
    exact List.idxOf_lt_length_of_mem (List.mem_eraseDups.mpr hs)
  · rw [batchesOf, List.getElem?_map, Option.map_eq_some_iff] at hbatch
    obtain ⟨s, hs, rfl⟩ := hbatch
    obtain ⟨hlt, rfl⟩ := List.getElem?_eq_some_iff.mp hs
    have hk : ∀ a ∈ analyzed, (analyzed.map Prod.fst).eraseDups.idxOf a.1 = k ↔
        a.1 = (analyzed.map Prod.fst).eraseDups[k] := by
      intro a ha
      constructor
      · rintro rfl
        exact (List.getElem_idxOf hlt).symm
      · intro heq
        rw [heq]
        exact (nodup_eraseDups _).idxOf_getElem k hlt
    rw [numbersOf, List.map_map]
    have hsets := forall₂_assignedTo h (fun s => (analyzed.map Prod.fst).eraseDups.idxOf s) hk
    exact hsets.imp fun c set hanalyze => ⟨_, hanalyze, rfl⟩

/-- Two runs have compiled the same text, each statement for the same criteria. -/
def SameText (t : Template) (cs ds : List Criterion) (batches batches' : List Batch) : Prop :=
  batches.map Batch.sql = batches'.map Batch.sql ∧
    ∃ numbers, Assigns t cs batches numbers ∧ Assigns t ds batches' numbers

/-- **Alike criteria are compiled to the same text.** -/
theorem compile_endsAlike (t : Template) {cs ds : List Criterion}
    (h : List.Forall₂ Criterion.Alike cs ds) :
    EndsAlike (SameText t cs ds) (t.compile cs) (t.compile ds) := by
  rw [compile, compile, isEmpty_of_forall₂ h]
  split
  · exact .error (.refl _)
  refine (EndsAlike.mapM h fun _ _ => analyze_alike t).with_eq.bind ?_
  rintro analyzed analyzed' ⟨hcs, hds, hsame⟩
  have hshapes : analyzed.map Prod.fst = analyzed'.map Prod.fst := by
    rw [← List.forall₂_eq_eq_eq, List.forall₂_map_left_iff, List.forall₂_map_right_iff]
    exact hsame
  have hassigned := assigns_batchesOf (forall₂_of_mapM hcs)
  have hassigned' := assigns_batchesOf (forall₂_of_mapM hds)
  rw [← hshapes] at hassigned'
  refine .ok ?_
  rw [map_byShape, map_byShape]
  refine ⟨?_, _, hassigned, hassigned'⟩
  simp only [batchesOf, List.map_map, Function.comp_def, hshapes]

/-- A statement is traced to the template and to a shape: it is in chunks, the characters of the
template that are left are in order, any other chunk is made of the shape, and columns can be
written. -/
structure Traced (t : Template) (s : Shape) (sql : String) : Prop where
  /-- the chunks are the statement -/
  source : sql.toList = source (t.chunks s)
  /-- the template -/
  template : ((t.chunks s).filterMap Chunk.letter?).Sublist t.sql.toList
  /-- the criterion -/
  shape : ∀ chunk ∈ t.chunks s, (∃ c, chunk = .template c) ∨ chunk.IsOf s
  /-- its columns -/
  columns : ∀ name, .column name ∈ t.chunks s → isColumnName name

theorem traced_render {t : Template} {c : Criterion} {s : Shape} {set : ParameterSet}
    (h : t.analyze c = .ok (s, set)) : Traced t s (t.render s) := by
  have hwritten : ∀ column ∈ s.columns, isColumnName column := fun column hcolumn =>
    isColumnName_of_isOf h (.written hcolumn)
  refine ⟨(source_chunks t hwritten).symm, letters_chunks t s, isOf_of_mem_chunks, ?_⟩
  intro name hname
  rcases isOf_of_mem_chunks _ hname with ⟨c, hc⟩ | hof
  · cases hc
  · exact isColumnName_of_isOf h hof

end Template

namespace StatementSet

open Template

/-- **The values of criteria stay out of the text.** Two sets with one template compile alike
criteria both or not at all: with alike errors, or to the same text, each statement for the same
criteria. And the text is traced: what a criterion has given to it are columns that can be written,
operators in their own spelling, and placeholders. -/
theorem compile_alike {p q : StatementSet} (ht : p.template = q.template)
    (hc : List.Forall₂ Criterion.Alike p.criteria q.criteria) :
    EndsAlike (SameText p.template p.criteria q.criteria) p.compile q.compile ∧
      ∀ batches, p.compile = .ok batches → ∀ batch ∈ batches, ∃ c ∈ p.criteria, ∃ s set,
        p.template.analyze c = .ok (s, set) ∧ Traced p.template s batch.sql := by
  constructor
  · rw [StatementSet.compile, StatementSet.compile, ← ht]
    exact compile_endsAlike p.template hc
  · intro batches h batch hbatch
    obtain ⟨set, hset⟩ := List.exists_mem_of_ne_nil _ (sets_ne_nil h hbatch)
    obtain ⟨c, hmem, s, hanalyze, hsql⟩ := (compile_makes h).1 batch hbatch set hset
    rw [hsql]
    exact ⟨c, hmem, s, set, hanalyze, traced_render hanalyze⟩

/-- A change of the rows in a range that have none of some values, and one of all rows. -/
def changing (spelling : String) (low high : Value) (bs : List Value) (n : Value) :
    StatementSet where
  template := ⟨"UPDATE t SET <<values>> WHERE <<condition>>", .update⟩
  criteria :=
    [{ groups := [⟨[("a", .between low high), ("b", ⟨spelling, [.list bs]⟩)],
         List.pairwise_pair.mpr (show "a" < "b" by decide)⟩]
       values := .ofList [("n", n)] },
      { values := .ofList [("n", n)] }]

/-- Values as they are meant. -/
def harmless : StatementSet :=
  changing "NOT IN" (.int 1) (.int 5) [.text "TX", .text "OK"] (.int 7)

/-- Values that would be statements, were they text. -/
def hostile : StatementSet :=
  changing " not  In" (.text "0 OR 1 = 1") .null [.text "') OR ('' = '", .text "<<values>>"]
    (.text "0; DROP TABLE t")

theorem alike_hostile : List.Forall₂ Criterion.Alike harmless.criteria hostile.criteria := by
  have hspelled : Operator.SpelledAlike "NOT IN" " not  In" := by decide
  refine .cons ⟨.cons ?_ .nil, rfl⟩ (.cons ⟨.nil, rfl⟩ .nil)
  refine .cons ⟨rfl, rfl, ?_⟩ (.cons ⟨rfl, hspelled, ?_⟩ .nil)
  · exact .cons (.scalar _ _) (.cons (.scalar _ _) .nil)
  · exact .cons (.list rfl) .nil

theorem compile_alike_hostile : ∃ batches batches', harmless.compile = .ok batches ∧
    hostile.compile = .ok batches' ∧ harmless.template = hostile.template ∧
    List.Forall₂ Criterion.Alike harmless.criteria hostile.criteria ∧
    batches.map Batch.sql =
      ["UPDATE t SET n = :v0 WHERE (a BETWEEN :w0_0_0 AND :w0_0_1 AND b NOT IN (:w0_1_0, :w0_1_1))",
        "UPDATE t SET n = :v0 WHERE 1 = 1"] ∧
    SameText harmless.template harmless.criteria hostile.criteria batches batches' ∧
    ∀ batch ∈ batches, ∃ c ∈ harmless.criteria, ∃ s set,
      harmless.template.analyze c = .ok (s, set) ∧ Traced harmless.template s batch.sql := by
  obtain ⟨hends, htraced⟩ := compile_alike (p := harmless) (q := hostile) rfl alike_hostile
  obtain ⟨batches, hb, hsql⟩ : ∃ batches, harmless.compile = .ok batches ∧ batches.map Batch.sql =
      ["UPDATE t SET n = :v0 WHERE (a BETWEEN :w0_0_0 AND :w0_0_1 AND b NOT IN (:w0_1_0, :w0_1_1))",
        "UPDATE t SET n = :v0 WHERE 1 = 1"] :=
    ⟨_, by with_unfolding_all rfl, by with_unfolding_all rfl⟩
  rw [hb] at hends
  rcases hh : hostile.compile with e | batches'
  · rw [hh] at hends
    cases hends
  · rw [hh] at hends
    cases hends with
    | ok hsame => exact ⟨batches, batches', hb, rfl, rfl, alike_hostile, hsql, hsame, htraced _ hb⟩

end StatementSet

end Tabula
