import Tabula.Proofs.Predicate.Rendered

/-!
# The condition among other predicates

A template can put the token for the condition next to other predicates. Its text is filled in there
as it is, and read again with all that stands around it. If the condition is one operand, or nothing
around it binds more than `OR`, that is the predicate of the template with the condition in its
place; between groups an `AND` or a `NOT` takes the nearest of them only.

* `Formula.fill`: a formula in the place of the condition of another one.
* `lex_filled`, `read_filled`: what a filled template is cut into, and read as.
* `StatementSet.compile_among`: the conditions of compiled statements among other predicates.
-/

namespace Tabula

namespace Predicate

/-! ## A formula in the place of a condition -/

theorem or3_assoc (a b c : Option Bool) :
    Sqlite.or3 a (Sqlite.or3 b c) = Sqlite.or3 (Sqlite.or3 a b) c := by
  rcases a with _ | _ | _ <;> rcases b with _ | _ | _ <;> rcases c with _ | _ | _ <;> rfl

/-- Lexemes with others in the place of the condition. -/
def fillLexemes (filling : List Lexeme) (ls : List Lexeme) : List Lexeme :=
  ls.flatMap fun l => if l = .condition then filling else [l]

theorem fillLexemes_append (filling ls ls' : List Lexeme) :
    fillLexemes filling (ls ++ ls') = fillLexemes filling ls ++ fillLexemes filling ls' :=
  List.flatMap_append

theorem fillLexemes_of_notMem {filling ls : List Lexeme} (h : .condition ∉ ls) :
    fillLexemes filling ls = ls := by
  induction ls with
  | nil => rfl
  | cons l ls ih =>
    have hl : l ≠ .condition := (List.ne_of_not_mem_cons h).symm
    rw [fillLexemes, List.flatMap_cons, if_neg hl, ← fillLexemes,
      ih (List.not_mem_of_not_mem_cons h)]
    rfl

theorem condition_notMem_of_foldlM {p q : Progress} {ls : List Lexeme}
    (h : ls.foldlM Progress.take p = some q) : Lexeme.condition ∉ ls := by
  induction ls generalizing p with
  | nil => simp
  | cons l ls ih =>
    obtain ⟨p', hp', h⟩ := Option.bind_eq_some_iff.mp h
    rintro hmem
    rcases List.mem_cons.mp hmem with rfl | hmem
    · cases hp'
    · exact ih h hmem

namespace Formula

/-- A disjunction behind a formula. The alternatives are joined from the left. -/
def orElse (f : Formula) : Formula → Formula
  | or g h => or (f.orElse g) h
  | g => or f g

/-- The formula with another one in the place of the condition. -/
def fill (f q : Formula) : Formula :=
  match f with
  | condition => q
  | nested f => nested (f.fill q)
  | not f => not (f.fill q)
  | and f g => and (f.fill q) (g.fill q)
  | or f g => (f.fill q).orElse (g.fill q)
  | f => f

/-- No `AND` or `NOT` takes the place of the condition for an operand, unless it is in
parentheses. -/
def isLoose : Formula → Bool
  | nested f => f.isLoose
  | not f => f ≠ condition && f.isLoose
  | and f g => f ≠ condition && g ≠ condition && f.isLoose && g.isLoose
  | or f g => f.isLoose && g.isLoose
  | _ => true

variable {f g q : Formula}

theorem lexemes_orElse (f g : Formula) :
    (f.orElse g).lexemes = f.lexemes ++ .keyword .or :: g.lexemes := by
  induction g with
  | or g h ihg => simp [orElse, lexemes, ihg]
  | _ => rfl

theorem isProper_orElse (hf : f.IsProper) (hg : g.IsProper) : (f.orElse g).IsProper := by
  induction g with
  | or g h ihg => exact ⟨ihg hg.1, hg.2.1, hg.2.2⟩
  | _ => exact ⟨hf, hg, by simp [rank]⟩

theorem rank_orElse (f g : Formula) : (f.orElse g).rank = 1 := by
  cases g <;> rfl

theorem truth_orElse (f g : Formula) (p : List Lexeme → Option Bool) (c : Option Bool) :
    (f.orElse g).truth p c = Sqlite.or3 (f.truth p c) (g.truth p c) := by
  induction g with
  | or g h ihg =>
    rw [orElse, truth, ihg, ← or3_assoc]
    rfl
  | _ => rfl

/-- A formula without a place of a condition does not look like it has one. -/
theorem condition_notMem (h : f.IsProper) (hclosed : f.isClosed) :
    Lexeme.condition ∉ f.lexemes := by
  -- on the formula: only a condition is not closed, and what is read as a comparison has none
  induction f with
  | simple ls => exact condition_notMem_of_foldlM h.1.2
  | compound f ls ih =>
    have := ih h.1 hclosed
    have := condition_notMem_of_foldlM h.2.2.2
    simp_all [lexemes]
  | condition => cases hclosed
  | nested f ih =>
    have := ih h hclosed
    simp_all [lexemes]
  | not f ih =>
    have := ih h.1 hclosed
    simp_all [lexemes]
  | and f g ihf ihg =>
    obtain ⟨hf, hg⟩ := (Bool.and_eq_true _ _).mp hclosed
    have := ihf h.1 hf
    have := ihg h.2.1 hg
    simp_all [lexemes]
  | or f g ihf ihg =>
    obtain ⟨hf, hg⟩ := (Bool.and_eq_true _ _).mp hclosed
    have := ihf h.1 hf
    have := ihg h.2.1 hg
    simp_all [lexemes]

theorem lexemes_fill (h : f.IsProper) :
    (f.fill q).lexemes = fillLexemes q.lexemes f.lexemes := by
  -- on the formula: filling goes where the lexemes show the condition
  induction f with
  | simple ls => exact (fillLexemes_of_notMem (condition_notMem_of_foldlM h.1.2)).symm
  -- behind a closed formula nothing is filled
  | compound f ls =>
    exact (fillLexemes_of_notMem (condition_notMem (f := compound f ls) h h.2.1)).symm
  | condition => simp [fill, fillLexemes, lexemes]
  | nested f ih =>
    rw [fill, lexemes, ih h]
    exact congrArg (Lexeme.opening :: ·) (fillLexemes_append q.lexemes f.lexemes [.closing]).symm
  | not f ih =>
    rw [fill, lexemes, ih h.1]
    rfl
  | and f g ihf ihg =>
    rw [fill, lexemes, ihf h.1, ihg h.2.1, lexemes, fillLexemes_append]
    rfl
  | or f g ihf ihg =>
    rw [fill, lexemes_orElse, ihf h.1, ihg h.2.1, lexemes, fillLexemes_append]
    rfl

theorem truth_fill (f : Formula) (p : List Lexeme → Option Bool) (c : Option Bool) :
    (f.fill q).truth p c = f.truth p (q.truth p c) := by
  induction f with
  | simple ls => rfl
  | compound f ls => rfl
  | condition => rfl
  | nested f ih => exact ih
  | not f ih => exact congrArg Sqlite.not3 ih
  | and f g ihf ihg => exact congrArg₂ Sqlite.and3 ihf ihg
  | or f g ihf ihg => rw [fill, truth_orElse, ihf, ihg, truth]

/-- What is put in binds as much as the place of the condition, or it is not put in at once. -/
theorem rank_fill (h : q.rank = 4 ∨ f ≠ condition) : (f.fill q).rank = f.rank := by
  cases f with
  | condition => exact h.resolve_right (by simp)
  | or f g => exact rank_orElse _ _
  | _ => rfl

/-- **Put in where nothing binds it apart, a formula keeps another one in the grammar.** -/
theorem isProper_fill (hq : q.IsProper) (h : f.IsProper) (hloose : q.rank = 4 ∨ f.isLoose) :
    (f.fill q).IsProper := by
  -- on the formula: a side takes a filling that binds as closely as the side has to
  induction f with
  | simple ls => exact h
  | compound f ls => exact h
  | condition => exact hq
  | nested f ih => exact ih h hloose
  | not f ih =>
    -- behind a negation nothing may bind less than it
    simp only [isLoose, Bool.and_eq_true, decide_eq_true_eq] at hloose
    refine ⟨ih h.1 (hloose.imp_right And.right), ?_⟩
    rw [rank_fill (hloose.imp_right And.left)]
    exact h.2
  | and f g ihf ihg =>
    simp only [isLoose, Bool.and_eq_true, decide_eq_true_eq] at hloose
    obtain ⟨hf, hg, hrankf, hrankg⟩ := h
    refine ⟨ihf hf (hloose.imp_right fun hl => hl.1.2), ihg hg (hloose.imp_right fun hl => hl.2),
      ?_, ?_⟩
    · rwa [rank_fill (hloose.imp_right fun hl => hl.1.1.1)]
    · rwa [rank_fill (hloose.imp_right fun hl => hl.1.1.2)]
  | or f g ihf ihg =>
    -- a disjunction takes any filling, as one more alternative
    simp only [isLoose, Bool.and_eq_true] at hloose
    exact isProper_orElse (ihf h.1 (hloose.imp_right And.left))
      (ihg h.2.1 (hloose.imp_right And.right))

end Formula

end Predicate

namespace Template

open Predicate Text

/-! ## Layouts with a condition in them -/

namespace Layout

/-- A layout behind some fragments. -/
def behind (m : Layout) : List Char → List (Slot × List Char) → Layout
  | head, [] => ⟨head ++ m.head, m.rest⟩
  | head, (slot, fragment) :: rest =>
    ⟨head, (slot, (m.behind fragment rest).head) :: (m.behind fragment rest).rest⟩

/-- A layout behind another one: the fragments between them are one. -/
instance : Append Layout := ⟨fun l m => m.behind l.head l.rest⟩

theorem fillWith_append (l m : Layout) (f : Slot → List Char) :
    (l ++ m).fillWith f = l.fillWith f ++ m.fillWith f := by
  obtain ⟨head, rest⟩ := l
  change (m.behind head rest).fillWith f = _
  induction rest generalizing head with
  | nil => simp [behind, fillWith]
  | cons p rest ih =>
    have := ih p.2
    simp_all [behind, fillWith]

/-- The lexemes of a predicate with slots for the condition in it. -/
def lexemesFrom? : List Char → List (Slot × List Char) → Option (List Lexeme)
  | head, [] => lex head
  | head, (_, fragment) :: rest => do
    return (← lex head) ++ .condition :: (← lexemesFrom? fragment rest)

/-- The formula of a predicate with slots for the condition in it. -/
def formula? (l : Layout) : Option Formula := (lexemesFrom? l.head l.rest).bind parse

/-- A word ends at the end of a text. -/
def EndsInside (cs : List Char) : Prop := ∀ c ∈ cs.getLast?, isWordChar c = false

/-- No word goes on in a slot. -/
def SetOff : List Char → List (Slot × List Char) → Prop
  | _, [] => True
  | head, (_, fragment) :: rest =>
    EndsInside head ∧ EndsWord fragment ∧ (fragment = [] → rest = []) ∧ SetOff fragment rest

/-- No word goes on in a slot of a layout. -/
def IsSetOff (l : Layout) : Prop := SetOff l.head l.rest

/-- **A predicate with its slots filled is cut into its own lexemes**, with those of the condition
in their place. Only if there are no groups words have to end there. -/
theorem lex_filled {groups : List (List ConditionShape)} {filling : List Lexeme}
    (hlexes : Lexes (fun rest => groups = [] → EndsWord rest) (whereText groups).toList filling)
    {rest : List (Slot × List Char)} {head : List Char} {ls : List Lexeme}
    (h : lexemesFrom? head rest = some ls) (hsetoff : groups = [] → SetOff head rest) :
    lex (head ++ rest.flatMap fun p => (whereText groups).toList ++ p.2) =
      some (fillLexemes filling ls) := by
  induction rest generalizing head ls with
  | nil =>
    rw [fillLexemes_of_notMem (condition_notMem_lexFrom h), List.flatMap_nil, List.append_nil]
    exact h
  | cons p rest ih =>
    obtain ⟨slot, fragment⟩ := p
    obtain ⟨ls₁, hhead, h⟩ := Option.bind_eq_some_iff.mp h
    obtain ⟨ls₂, hrest, h⟩ := Option.bind_eq_some_iff.mp h
    cases h
    have hends (hg : groups = []) :
        EndsWord (fragment ++ rest.flatMap fun p => (whereText groups).toList ++ p.2) := by
      obtain ⟨-, hfragment, hempty, -⟩ := hsetoff hg
      cases fragment with
      | nil => simp [hempty rfl, EndsWord]
      | cons c fragment => exact hfragment
    have hbehind := hlexes _ _ hends (ih hrest fun hg => (hsetoff hg).2.2.2)
    have hfilled : fillLexemes filling (ls₁ ++ .condition :: ls₂) =
        ls₁ ++ (filling ++ fillLexemes filling ls₂) := by
      rw [fillLexemes_append, fillLexemes_of_notMem (condition_notMem_lexFrom hhead)]
      rfl
    rw [List.flatMap_cons, List.append_assoc, hfilled]
    -- groups begin with a parenthesis, in front of which all ends; no groups are a word
    have hd := head?_where groups
    obtain ⟨d, text, htext⟩ : ∃ d text, (whereText groups).toList = d :: text := by
      cases htext : (whereText groups).toList with
      | nil => simp [htext] at hd
      | cons d text => exact ⟨d, text, rfl⟩
    rw [htext] at hd hbehind ⊢
    by_cases hg : groups = []
    · rw [if_pos hg] at hd
      cases hd
      exact lex_append_word rfl hhead (hsetoff hg).1 hbehind
    · rw [if_neg hg] at hd
      cases hd
      exact lex_append_opening hhead hbehind

/-- A layout with its slots filled for criteria of a shape. -/
def filled (type : QueryType) (s : Shape) (l : Layout) : List Char :=
  l.fillWith fun slot => (slot.text type s).toList

/-- A predicate with its slots filled is read as its formula, with that of the condition in its
place. -/
theorem read_filled {part : Layout} {f q : Formula} (hslots : ∀ p ∈ part.rest, p.1 = .condition)
    (hf : part.formula? = some f) {type : QueryType} {s : Shape} (hq : q.IsProper)
    (hlexes : Lexes (fun rest => s.groups = [] → EndsWord rest) (whereText s.groups).toList
      q.lexemes)
    (hloose : q.rank = 4 ∨ f.isLoose) (hsetoff : s.groups = [] → part.IsSetOff) :
    read (part.filled type s) = some (f.fill q) := by
  obtain ⟨ls, hls, hf⟩ := Option.bind_eq_some_iff.mp hf
  obtain ⟨hproper, rfl⟩ := parse_eq_some_iff.mp hf
  have hfilled : part.filled type s =
      part.head ++ part.rest.flatMap fun p => (whereText s.groups).toList ++ p.2 := by
    -- all slots of this part are for the condition
    have hrest {rest : List (Slot × List Char)} (h : ∀ p ∈ rest, p.1 = .condition) :
        (rest.flatMap fun p => (p.1.text type s).toList ++ p.2) =
          rest.flatMap fun p => (whereText s.groups).toList ++ p.2 := by
      refine List.flatMap_congr fun p hp => ?_
      rw [h p hp]
      rfl
    rw [filled, fillWith, hrest hslots]
  rw [hfilled, Predicate.read, lex_filled hlexes hls hsetoff, ← Formula.lexemes_fill hproper]
  exact parse_eq_some_iff.mpr ⟨Formula.isProper_fill hq hproper hloose, rfl⟩

/-- A predicate with slots for the condition is open to a criterion: it binds none of its groups
apart, and without groups no word goes on in a slot. -/
def IsOpenTo (part : Layout) (f : Formula) (c : Criterion) : Prop :=
  (c.groups.length ≤ 1 ∨ f.isLoose) ∧ (c.groups = [] → part.IsSetOff)

end Layout

/-- A statement is a template with its slots filled, and the predicate in it is read, with a set
bound, as that of the template with a criterion in the place of the condition. -/
def ReadsAmong (front part back : Layout) (f : Formula) (t : Template) (c : Criterion)
    (batch : Batch) (set : ParameterSet) : Prop :=
  ∃ s, t.analyze c = .ok (s, set) ∧
    batch.sql.toList =
      front.filled t.queryType s ++ part.filled t.queryType s ++ back.filled t.queryType s ∧
    ∃ g, read (part.filled t.queryType s) = some g ∧
      ∀ (I : Interpretation) (condition : Option Bool), I.parameters = set → I.IsSane →
        g.truth I.predicate condition = f.truth I.predicate (c.truth I)

theorem Makes.readsAmong {front part back : Layout} {f : Formula} {t : Template}
    (hclear : ∀ slot : Slot, ∀ fragment ∈ (front ++ part ++ back).fragments,
      isClear slot.token.toList fragment)
    (hslots : ∀ p ∈ part.rest, p.1 = .condition) (hf : part.formula? = some f)
    (ht : t.sql = (front ++ part ++ back).text) {c : Criterion} {batch : Batch}
    {set : ParameterSet} (h : Makes t c batch set) (hfree : c.NamesColumns)
    (hopen : part.IsOpenTo f c) : ReadsAmong front part back f t c batch set := by
  obtain ⟨s, hanalyze, hsql⟩ := h
  obtain ⟨hloose, hsetoff⟩ := hopen
  obtain ⟨bs, hmeans, hfind⟩ := exists_means hanalyze hfree
  have hanalyzed := analyze_writes hanalyze
  have hvalid : ∀ column ∈ s.columns, isColumnName column := hanalyzed.columns ▸ hanalyzed.valid
  -- the template is its parts, so that it is rendered part by part
  have htemplate : t = ⟨(front ++ part ++ back).text, t.queryType⟩ := by rw [← ht]
  refine ⟨s, hanalyze, ?_, (f.fill (whereFormula s.groups)), ?_, ?_⟩
  · rw [hsql, htemplate, Layout.render_text hclear (lt_notMem_columns hvalid)
      (lt_notMem_values hvalid), String.toList_ofList, Layout.fillWith_append,
      Layout.fillWith_append]
    rfl
  · -- the condition fits where it stands, or it could not be read there as a whole
    refine Layout.read_filled hslots hf hmeans.proper (fun rest ls hends => hmeans.lexes rest ls
      fun hg => hends (hanalyzed.groups.mpr hg)) ?_ fun hg => hsetoff (hanalyzed.groups.mp hg)
    rw [← length_groups hanalyze] at hloose
    exact hloose.imp_left rank_whereFormula
  · -- the truth of the whole is that of the part with the truth of the condition in it
    intro I condition hset hsane
    have hbinds : I.Binds bs := by
      rw [Interpretation.Binds, hset]
      exact hfind
    rw [Formula.truth_fill, hmeans.truth I condition hsane hbinds]

end Template

namespace StatementSet

open Template Predicate

/-- **Among other predicates the condition means the criterion** as long as it is one operand there:
it has one group at most, or no `AND` or `NOT` takes it for an operand without parentheses of its
own. Without groups it also has to be set off from words. Every set of every compiled statement is
made of a criterion, and of every criterion such a set is made; then the statement is the template
with its slots filled, and whatever the operators and the other predicates are, its predicate is
true where that of the template is with the criterion in the place of the condition. -/
theorem compile_among {front part back : Template.Layout} {f : Formula}
    (hclear : ∀ slot : Slot, ∀ fragment ∈ (front ++ part ++ back).fragments,
      Text.isClear slot.token.toList fragment)
    (hslots : ∀ p ∈ part.rest, p.1 = .condition) (hf : part.formula? = some f) {p : StatementSet}
    (hp : p.template.sql = (front ++ part ++ back).text) {batches : List Batch}
    (h : p.compile = .ok batches) (hfree : ∀ c ∈ p.criteria, c.NamesColumns) :
    (∀ batch ∈ batches, ∀ set ∈ batch.sets, ∃ c ∈ p.criteria, Makes p.template c batch set ∧
      (part.IsOpenTo f c → ReadsAmong front part back f p.template c batch set)) ∧
    ∀ c ∈ p.criteria, ∃ batch ∈ batches, ∃ set ∈ batch.sets, Makes p.template c batch set ∧
      (part.IsOpenTo f c → ReadsAmong front part back f p.template c batch set) := by
  obtain ⟨hmade, hused⟩ := compile_makes h
  constructor
  · -- every set of every batch was made of a criterion
    intro batch hbatch set hset
    obtain ⟨c, hc, hmakes⟩ := hmade batch hbatch set hset
    exact ⟨c, hc, hmakes, hmakes.readsAmong hclear hslots hf hp (hfree c hc)⟩
  · -- every criterion made a set of a batch
    intro c hc
    obtain ⟨batch, hbatch, set, hset, hmakes⟩ := hused c hc
    exact ⟨batch, hbatch, set, hset, hmakes, hmakes.readsAmong hclear hslots hf hp (hfree c hc)⟩

/-- An update of two kinds of rows of one tenant that are not done; in one template the condition
stands in parentheses. -/
def sheltering : StatementSet where
  template :=
    ⟨"UPDATE t SET <<values>> WHERE NOT done = 1 AND tenant = 5 AND (<<condition>>);", .update⟩
  criteria :=
    [((({} : Criterion).withValue "n" (.int 1)).withCondition "n" (.eq (.int 2))).orElse
      |>.withCondition "n" (.between (.int 5) (.int 9))]

/-- What its template has in front of the predicate. -/
def shelteringFront : Template.Layout := ⟨"UPDATE t SET ".toList, [(.values, " WHERE ".toList)]⟩

/-- The predicate of its template. -/
def shelteringPart : Template.Layout :=
  ⟨"NOT done = 1 AND tenant = 5 AND (".toList, [(.condition, ")".toList)]⟩

theorem compile_among_sheltering : ∃ f batches, shelteringPart.formula? = some f ∧
    sheltering.compile = .ok batches ∧ ∀ c ∈ sheltering.criteria, ∃ batch ∈ batches,
      ∃ set ∈ batch.sets, Makes sheltering.template c batch set ∧
        ReadsAmong shelteringFront shelteringPart ⟨";".toList, []⟩ f sheltering.template c batch
          set := by
  -- columns of the criteria are no keywords
  have hfree : ∀ c ∈ sheltering.criteria, c.NamesColumns := by
    with_unfolding_all decide
  obtain ⟨batches, h⟩ : ∃ batches, sheltering.compile = .ok batches :=
    ⟨_, by with_unfolding_all rfl⟩
  obtain ⟨f, hf, hloose⟩ : ∃ f, shelteringPart.formula? = some f ∧ f.isLoose :=
    ⟨_, by with_unfolding_all rfl, by with_unfolding_all rfl⟩
  have hclear : ∀ slot : Slot,
      ∀ fragment ∈ (shelteringFront ++ shelteringPart ++ ⟨";".toList, []⟩).fragments,
        Text.isClear slot.token.toList fragment := by
    -- no fragment runs into a token
    intro slot
    cases slot <;> with_unfolding_all decide
  refine ⟨f, batches, hf, h, fun c hc => ?_⟩
  have hslots : ∀ p ∈ shelteringPart.rest, p.1 = .condition := by with_unfolding_all decide
  obtain ⟨batch, hbatch, set, hset, hmakes, hreads⟩ :=
    (compile_among hclear hslots hf (by with_unfolding_all rfl) h hfree).2 c hc
  refine ⟨batch, hbatch, set, hset, hmakes, hreads ⟨.inr hloose, ?_⟩⟩
  obtain rfl := List.mem_singleton.mp hc
  rintro ⟨⟩

/-- Rows of two kinds. -/
def kinds : Criterion :=
  (({} : Criterion).withCondition "n" (.eq (.int 1))).orElse.withCondition "n" (.eq (.int 2))

/-- Rows of one tenant and of two kinds; in the template nothing is put around the condition. -/
def widening : StatementSet where
  template := ⟨"SELECT * FROM t WHERE tenant = 5 AND <<condition>>", .select⟩
  criteria := [kinds]

/-- The predicate of its template. -/
def wideningPart : Template.Layout := ⟨"tenant = 5 AND ".toList, [(.condition, [])]⟩

/-- What its condition is bound to. -/
def widened : ParameterSet := (Dict.empty.insert "w0_0" (.int 1)).insert "w1_0" (.int 2)

/-- No rows, and no blank in front of the condition. -/
def negating : StatementSet where
  template := ⟨"SELECT * FROM t WHERE NOT<<condition>>", .select⟩
  criteria := [{}]

/-- The predicate of its template. -/
def negatingPart : Template.Layout := ⟨"NOT".toList, [(.condition, [])]⟩

/-- A column with the name of a connective. -/
def joining : StatementSet where
  template := ⟨"SELECT * FROM t WHERE <<condition>>", .select⟩
  criteria := [({} : Criterion).withCondition "and" (.eq (.int 1))]

/-- Values of a row are compared for equality, and nothing is known of other predicates. -/
def comparing (row : String → Value) (set : ParameterSet) : Interpretation where
  operator
    | .eq, v, [w] => some (v == w)
    | _, _, _ => none
  column := row
  parameters := set
  other _ := none

/-- A row of the second kind that another tenant has. -/
def foreign : Interpretation :=
  comparing (fun column => if column = "n" then .int 2 else .int 6) widened

/-- A row of ones. -/
def ones : Interpretation := comparing (fun _ => .int 1) .empty

/-- The predicate that two words are equal. -/
def equation (left right : String) : Formula :=
  .simple (Comparison.lexemes ⟨left.toList, .eq, [right.toList]⟩)

/-- **An `AND` takes the first of two groups only**, and the row of another tenant is selected by
the second one. Without a blank `NOT` and a condition that holds of all rows are a name, and the row
of ones is selected. A column with the name of a connective is none. -/
theorem compile_not_among :
    (widening.template.sql = "SELECT * FROM t WHERE " ++ wideningPart.text ∧
      widening.compile = .ok
        [⟨"SELECT * FROM t WHERE tenant = 5 AND (n = :w0_0) OR (n = :w1_0)", [widened]⟩] ∧
      wideningPart.formula? = some (.and (equation "tenant" "5") .condition) ∧
      Predicate.read "tenant = 5 AND (n = :w0_0) OR (n = :w1_0)".toList =
        some (.or (.and (equation "tenant" "5") (.nested (equation "n" ":w0_0")))
          (.nested (equation "n" ":w1_0"))) ∧
      foreign.IsSane ∧
      (Formula.or (.and (equation "tenant" "5") (.nested (equation "n" ":w0_0")))
        (.nested (equation "n" ":w1_0"))).truth foreign.predicate none = some true ∧
      (Formula.and (equation "tenant" "5") .condition).truth foreign.predicate
        (kinds.truth foreign) = some false) ∧
    (negating.template.sql = "SELECT * FROM t WHERE " ++ negatingPart.text ∧
      negating.compile = .ok [⟨"SELECT * FROM t WHERE NOT1 = 1", [.empty]⟩] ∧
      negatingPart.formula? = some (.not .condition) ∧
      Predicate.read "NOT1 = 1".toList = some (equation "NOT1" "1") ∧
      ones.IsSane ∧ (equation "NOT1" "1").truth ones.predicate none = some true ∧
      (Formula.not .condition).truth ones.predicate (({} : Criterion).truth ones) =
        some false) ∧
    joining.compile = .ok
        [⟨"SELECT * FROM t WHERE (and = :w0_0)", [Dict.empty.insert "w0_0" (.int 1)]⟩] ∧
      Predicate.read "(and = :w0_0)".toList = none := by
  refine ⟨⟨?_, ?_, ?_, ?_, ?_, ?_, ?foreign⟩, ⟨?_, ?_, ?_, ?_, ?_, ?_, ?_⟩, ?_, ?_⟩
  case foreign =>
    have hkinds : kinds.truth foreign = some true := by with_unfolding_all rfl
    rw [hkinds]
    -- everything else is read off the statement
    with_unfolding_all rfl
  all_goals with_unfolding_all rfl

end StatementSet

end Tabula
