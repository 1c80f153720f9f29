import Tabula.Proofs.Predicate.Meaning
import Tabula.Proofs.Template.Reach

/-!
# What the text of a condition means

The text that stands for a condition is read as a disjunction of groups in parentheses, each of them
a conjunction of comparisons, and over the parameters of the criterion it is true where the
criterion is. `Means` ties a text to the formula that it is read as, the bindings that it needs and
its truth; `MeansAll` does so for a list of texts, and follows `Template.analyzeGroups`.

* `MeansAll.chain`: texts with a connective between them.
* `means_condition`, `means_group`, `means_where`: a condition, a group, and all of it.
* `StatementSet.compile_means`: the conditions of compiled statements.
-/

namespace Tabula

namespace Template

open Predicate Sql

/-! ## Texts and their lexemes -/

/-- In front of a text of some kind, a text is cut into lexemes. -/
def Lexes (before : List Char → Prop) (text : List Char) (ls : List Lexeme) : Prop :=
  ∀ rest ls', before rest → lex rest = some ls' → lex (text ++ rest) = some (ls ++ ls')

/-- A word ends in front of a text. -/
def EndsWord (rest : List Char) : Prop := ∀ c ∈ rest.head?, isWordChar c = false

/-- A character that is not of a word ends one. -/
theorem endsWord_cons {c : Char} (h : isWordChar c = false) (rest : List Char) :
    EndsWord (c :: rest) := by
  rintro _ ⟨⟩
  exact h

/-- A text can stand between others, and is cut into lexemes by itself. -/
structure Separates (before : List Char → Prop) (separator : List Char) (ls : List Lexeme) :
    Prop where
  /-- what stands in front of it ends -/
  ends : ∀ rest, before (separator ++ rest)
  /-- its lexemes -/
  lexes : Lexes (fun _ => True) separator ls

/-- A word that is no keyword. -/
structure IsWord (w : List Char) : Prop where
  /-- there are characters -/
  ne_nil : w ≠ []
  /-- all of them can be in words -/
  all : w.all isWordChar
  /-- it is no keyword -/
  free : Keyword.of? w = none

/-- A word is one lexeme, wherever a word can end. -/
theorem IsWord.lexes {w : List Char} (h : IsWord w) : Lexes EndsWord w [.word w] := by
  intro rest ls hends hrest
  have hlex := lex_word w h.ne_nil h.all hends hrest
  rwa [Lexeme.ofWord, h.free] at hlex

/-- What can stand in a name can stand in a word. -/
theorem isWordChar_of_isNameChar {c : Char} (h : isNameChar c) : isWordChar c := by
  simp [isWordChar, h]

/-- A column that is no keyword is a word. -/
theorem isWord_column {column : String} (h : isColumnName column)
    (hfree : Keyword.of? column.toList = none) : IsWord column.toList := by
  obtain ⟨⟨c, hc, -⟩, hall⟩ := isColumn_of_isColumnName h
  refine ⟨?_, List.all_eq_true.mpr fun d hd => ?_, hfree⟩
  · intro hnil
    rw [hnil] at hc
    cases hc
  · rcases hall d hd with hd | rfl
    · exact isWordChar_of_isNameChar hd
    · rfl

/-- A placeholder is a word. -/
theorem isWord_placeholder (p : Place) : IsWord (':' :: p.name.toList) := by
  refine ⟨by simp, ?_, ?_⟩
  · rw [Place.toList_name]
    exact List.all_eq_true.mpr (List.forall_mem_cons.mpr
      ⟨rfl, fun c hc => isWordChar_of_isNameChar (Place.isNameChar_of_mem_chars hc)⟩)
  · have hcolon : Char.toUpper ':' = ':' := rfl
    simp [Keyword.of?, Keyword.text, hcolon]

/-- The placeholders of a condition are names of places. -/
theorem exists_place_of_mem {g c : Nat} {s : ConditionShape} {name : String}
    (h : name ∈ placeholders g c s) : ∃ p : Place, name = p.name := by
  rw [placeholders] at h
  split at h
  · obtain ⟨k, -, rfl⟩ := List.mem_map.mp h
    exact ⟨.operand g c k, rfl⟩
  · exact ⟨.single g c, List.mem_singleton.mp h⟩

/-- The words of the placeholders of a condition. -/
def placeholderWords (g c : Nat) (s : ConditionShape) : List (List Char) :=
  (placeholders g c s).map fun name => ':' :: name.toList

/-- The placeholders of a condition are words. -/
theorem isWord_of_mem {g c : Nat} {s : ConditionShape} {w : List Char}
    (h : w ∈ placeholderWords g c s) : IsWord w := by
  obtain ⟨name, hname, rfl⟩ := List.mem_map.mp h
  obtain ⟨p, rfl⟩ := exists_place_of_mem hname
  exact isWord_placeholder p

/-- The word between conditions is one lexeme. -/
theorem separates_and : Separates EndsWord " AND ".toList [.keyword .and] where
  ends rest := endsWord_cons rfl _
  lexes rest ls _ h := lex_blank (lex_word ['A', 'N', 'D'] (by simp) rfl
    (endsWord_cons rfl rest) (lex_blank h))

/-- The word between groups is one lexeme. -/
theorem separates_or : Separates (fun _ => True) " OR ".toList [.keyword .or] where
  ends _ := trivial
  lexes rest ls _ h := lex_blank (lex_word ['O', 'R'] (by simp) rfl
    (endsWord_cons rfl rest) (lex_blank h))

/-- The operands of a membership are words with commas between them, up to the closing bracket. -/
theorem lexes_listed {ws : List (List Char)} (h : ∀ w ∈ ws, IsWord w) :
    Lexes (fun _ => True) (", ".toList.intercalate ws ++ ")".toList) (Comparison.listed ws) := by
  intro rest ls _ hrest
  induction ws with
  | nil => exact lex_closing hrest
  | cons w ws ih =>
    obtain ⟨hw, hws⟩ := List.forall_mem_cons.mp h
    cases ws with
    | nil =>
      rw [List.intercalate_singleton, List.append_assoc]
      exact hw.lexes _ _ (endsWord_cons rfl rest) (lex_closing hrest)
    | cons v ws =>
      have htail := lex_comma (lex_blank (ih hws))
      rw [List.intercalate_cons_cons, List.append_assoc, List.append_assoc, List.append_assoc]
      exact hw.lexes _ _ (endsWord_cons rfl _) (by simpa using htail)

/-- The spelling of an operator is read as its keywords or its sign. -/
theorem lexes_operator (op : Operator) {rest : List Char} {ls : List Lexeme}
    (h : lex rest = some ls) :
    lex (op.text.toList ++ ' ' :: rest) = some (operatorLexemes op ++ ls) := by
  have hblank := lex_blank h
  -- behind a sign and behind a word there is a blank
  have hsymbol (cs : List Char) (hne : cs ≠ []) (hcs : cs.all isPlainSign) :
      lex (cs ++ ' ' :: rest) = some (.symbol cs :: ls) :=
    lex_symbol cs hne hcs (by rintro _ ⟨⟩; rfl) hblank
  have hword (cs : List Char) {rest : List Char} {ls : List Lexeme} (hne : cs ≠ [])
      (hcs : cs.all isWordChar) (h : lex (' ' :: rest) = some ls) :
      lex (cs ++ ' ' :: rest) = some (.ofWord cs :: ls) :=
    lex_word cs hne hcs (endsWord_cons rfl rest) h
  have hnot (cs : List Char) (hne : cs ≠ []) (hcs : cs.all isWordChar) :
      lex (['N', 'O', 'T'] ++ ' ' :: (cs ++ ' ' :: rest)) =
        some (.ofWord ['N', 'O', 'T'] :: .ofWord cs :: ls) :=
    hword ['N', 'O', 'T'] (by simp) rfl (lex_blank (hword cs hne hcs hblank))
  cases op with
  | eq => exact hsymbol ['='] (by simp) rfl
  | gt => exact hsymbol ['>'] (by simp) rfl
  | lt => exact hsymbol ['<'] (by simp) rfl
  | ge => exact hsymbol ['>', '='] (by simp) rfl
  | le => exact hsymbol ['<', '='] (by simp) rfl
  | ne => exact hsymbol ['<', '>'] (by simp) rfl
  | between => exact hword Keyword.between.text (by simp [Keyword.text]) rfl hblank
  | notBetween => exact hnot Keyword.between.text (by simp [Keyword.text]) rfl
  | isIn => exact hword Keyword.isIn.text (by simp [Keyword.text]) rfl hblank
  | notIn => exact hnot Keyword.isIn.text (by simp [Keyword.text]) rfl
  | like => exact hword Keyword.like.text (by simp [Keyword.text]) rfl hblank
  | notLike => exact hnot Keyword.like.text (by simp [Keyword.text]) rfl

/-! ## Conditions -/

/-- The comparison that a condition is, given the number of its group and its own. -/
def comparison (g c : Nat) (s : ConditionShape) : Comparison :=
  ⟨s.column.toList, s.operator, placeholderWords g c s⟩

/-- A condition has as many values as its operator takes. -/
theorem isFit_comparison (g c : Nat) (column : String) {condition : Condition} {op : Operator}
    (h : Condition.fits op condition.operands) :
    Comparison.IsFit op (placeholderWords g c ⟨column, op, condition.values.length⟩) := by
  have hvalues : condition.values = condition.operands.flatMap Operand.values := rfl
  rcases fits_cases h with ⟨hrange, low, high, hoperands⟩ | ⟨hrange, hmember, vs, hoperands⟩ |
    ⟨hrange, hmember, v, hoperands⟩
  · simp [Comparison.IsFit, placeholderWords, placeholders, hrange, hvalues, hoperands,
      Operand.values]
  · -- a list without members is not accepted
    have hne : vs ≠ [] := by
      rintro rfl
      simp [Condition.fits, hrange, hmember, hoperands] at h
    simpa [Comparison.IsFit, placeholderWords, placeholders, hrange, hmember, hvalues, hoperands,
      Operand.values] using hne
  · simp [Comparison.IsFit, placeholderWords, placeholders, hrange, hmember]

/-- A condition that fits its operator has a placeholder for each value. -/
theorem length_placeholders {g c : Nat} {column : String} {condition : Condition} {op : Operator}
    (h : Condition.fits op condition.operands) :
    (placeholders g c ⟨column, op, condition.values.length⟩).length = condition.values.length := by
  rw [placeholders]
  rcases fits_cases h with ⟨hrange, -⟩ | ⟨-, hmember, -⟩ | ⟨hrange, hmember, v, hoperands⟩
  · simp [hrange]
  · simp [hmember]
  · simp [hrange, hmember, Condition.values, hoperands, Operand.values]

/-- The text of the operands is read as what the grammar has for the operator. -/
theorem lexes_operands {g c : Nat} {s : ConditionShape}
    (h : Comparison.IsFit s.operator (placeholderWords g c s)) :
    Lexes EndsWord (operandsText g c s)
      (Comparison.operandLexemes s.operator (placeholderWords g c s)) := by
  intro rest ls hends hrest
  have hwords : ∀ w ∈ placeholderWords g c s, IsWord w := fun w => isWord_of_mem
  have htext : operandsText g c s =
      if s.operator.isRange then " AND ".toList.intercalate (placeholderWords g c s)
      else if s.operator.isMembership then
        '(' :: (", ".toList.intercalate (placeholderWords g c s) ++ ")".toList)
      else [].intercalate (placeholderWords g c s) := rfl
  rw [htext]
  unfold Comparison.IsFit at h
  unfold Comparison.operandLexemes
  generalize placeholderWords g c s = ws at h hwords
  by_cases hrange : s.operator.isRange
  · rw [if_pos hrange] at h ⊢
    rw [if_pos hrange]
    -- a fit range has two operands
    obtain ⟨low, high, rfl⟩ := List.length_eq_two.mp h
    have hlow := (hwords low (by simp)).lexes
    have hhigh := (hwords high (by simp)).lexes rest ls hends hrest
    have hand := separates_and.lexes _ _ trivial hhigh
    rw [List.intercalate_cons_cons, List.intercalate_singleton, List.append_assoc,
      List.append_assoc]
    exact hlow _ _ (separates_and.ends _) hand
  · rw [if_neg hrange] at h ⊢
    rw [if_neg hrange]
    by_cases hmember : s.operator.isMembership
    · rw [if_pos hmember, if_pos hmember]
      exact lex_opening (lexes_listed hwords rest ls trivial hrest)
    · rw [if_neg hmember] at h ⊢
      rw [if_neg hmember]
      -- every other fit comparison has one
      obtain ⟨w, rfl⟩ := List.length_eq_one_iff.mp h
      rw [List.intercalate_singleton]
      exact (hwords w (by simp)).lexes rest ls hends hrest

/-- The text of a condition is cut into the lexemes of its comparison. -/
theorem lexes_condition {g c : Nat} {s : ConditionShape} (hcolumn : IsWord s.column.toList)
    (h : Comparison.IsFit s.operator (placeholderWords g c s)) :
    Lexes EndsWord (conditionText g c s).toList (comparison g c s).lexemes := by
  intro rest ls hends hrest
  have hoperator := lexes_operator s.operator (lexes_operands h rest ls hends hrest)
  have hwhole := hcolumn.lexes _ _ (endsWord_cons rfl _) (lex_blank hoperator)
  rw [toList_conditionText]
  simpa [comparison, Comparison.lexemes] using hwhole

/-! ## Texts with what they mean -/

/-- A text is read as a formula that binds so much, and with some bindings it is true where
something is. -/
structure Means (before : List Char → Prop) (r : Nat) (text : List Char) (f : Formula)
    (bs : List (String × Value)) (m : Interpretation → Option Bool) : Prop where
  /-- how it is cut -/
  lexes : Lexes before text f.lexemes
  /-- the formula is one of the grammar -/
  proper : f.IsProper
  /-- it binds -/
  rank : r ≤ f.rank
  /-- it has no place of a condition -/
  closed : f.isClosed
  /-- its truth -/
  truth : ∀ (I : Interpretation) (condition : Option Bool), I.IsSane → I.Binds bs →
    f.truth I.predicate condition = m I

/-- What binds so much binds less, too. -/
theorem Means.of_le {before : List Char → Prop} {r r' : Nat} {text : List Char} {f : Formula}
    {bs : List (String × Value)} {m : Interpretation → Option Bool} (hr : r ≤ r')
    (h : Means before r' text f bs m) : Means before r text f bs m :=
  { h with rank := Nat.le_trans hr h.rank }

/-- A list of texts with the formula of each, all bindings, and the truth of each. -/
inductive MeansAll (before : List Char → Prop) : List (List Char) → List Formula →
    List (String × Value) → List (Interpretation → Option Bool) → Prop where
  /-- there are none -/
  | nil : MeansAll before [] [] [] []
  /-- one more in front -/
  | cons {t : List Char} {f : Formula} {bs : List (String × Value)}
    {m : Interpretation → Option Bool} {ts : List (List Char)} {fs : List Formula}
    {bs' : List (String × Value)} {ms : List (Interpretation → Option Bool)}
    (h : Means before 4 t f bs m) (hs : MeansAll before ts fs bs' ms) :
    MeansAll before (t :: ts) (f :: fs) (bs ++ bs') (m :: ms)

/-- A connective joins formulas to one that binds so much. -/
structure Joins (join : Formula → Formula → Formula) (l : Lexeme)
    (op : Option Bool → Option Bool → Option Bool) (r : Nat) : Prop where
  /-- what it looks like -/
  lexemes : ∀ f g, (join f g).lexemes = f.lexemes ++ l :: g.lexemes
  /-- what it can join -/
  proper : ∀ f g : Formula, f.IsProper → r ≤ f.rank → g.IsProper → 4 ≤ g.rank →
    (join f g).IsProper
  /-- how much it binds -/
  rank : ∀ f g, (join f g).rank = r
  /-- there is no place of a condition in it but in what it joins -/
  closed : ∀ f g : Formula, (join f g).isClosed = (f.isClosed && g.isClosed)
  /-- its truth -/
  truth : ∀ (f g : Formula) p c, (join f g).truth p c = op (f.truth p c) (g.truth p c)

/-- Conditions are joined as a conjunction. -/
theorem joins_and : Joins .and (.keyword .and) Sqlite.and3 2 where
  lexemes _ _ := rfl
  proper _ _ hf hrankf hg hrankg := ⟨hf, hg, hrankf, Nat.le_of_succ_le hrankg⟩
  rank _ _ := rfl
  closed _ _ := rfl
  truth _ _ _ _ := rfl

/-- Groups are joined as a disjunction. -/
theorem joins_or : Joins .or (.keyword .or) Sqlite.or3 1 where
  lexemes _ _ := rfl
  proper _ _ hf _ hg hrankg := ⟨hf, hg, by omega⟩
  rank _ _ := rfl
  closed _ _ := rfl
  truth _ _ _ _ := rfl

variable {before : List Char → Prop}

/-- A separator put between two texts by hand. -/
theorem intercalate_append (sep a b : List Char) (ts : List (List Char)) :
    sep.intercalate ((a ++ (sep ++ b)) :: ts) = sep.intercalate (a :: b :: ts) := by
  cases ts with
  | nil => simp [List.intercalate_cons_cons]
  | cons t ts => simp [List.intercalate_cons_cons]

/-- **Texts with a connective between them are read as the formulas joined**, from the left. -/
theorem MeansAll.chain {join : Formula → Formula → Formula} {l : Lexeme}
    {op : Option Bool → Option Bool → Option Bool} {r : Nat} (hjoins : Joins join l op r)
    {separator : List Char} (hsep : Separates before separator [l]) {t : List Char} {f : Formula}
    {bs bs' : List (String × Value)} {m : Interpretation → Option Bool} {ts : List (List Char)}
    {fs : List Formula} {ms : List (Interpretation → Option Bool)} (h : Means before r t f bs m)
    (hs : MeansAll before ts fs bs' ms) :
    Means before r (separator.intercalate (t :: ts)) (fs.foldl join f) (bs ++ bs')
      fun I => (ms.map (· I)).foldl op (m I) := by
  induction hs generalizing t f bs m with
  | nil =>
    rw [List.intercalate_singleton, List.append_nil]
    exact h
  | @cons u g cs n ts fs cs' ms hfirst hs ih =>
    -- the first two texts with the connective between them are one, and the others follow it
    have hjoined : Means before r (t ++ (separator ++ u)) (join f g) (bs ++ cs)
        fun I => op (m I) (n I) := by
      refine ⟨?_, hjoins.proper f g h.proper h.rank hfirst.proper hfirst.rank, ?_, ?_, ?_⟩
      · intro rest ls hends hrest
        have hu := hsep.lexes _ _ trivial (hfirst.lexes rest ls hends hrest)
        have ht := h.lexes _ _ (hsep.ends _) hu
        rw [hjoins.lexemes]
        simpa using ht
      · exact Nat.le_of_eq (hjoins.rank f g).symm
      · rw [hjoins.closed, h.closed, hfirst.closed]
        rfl
      · intro I condition hsane hbinds
        obtain ⟨hf, hg⟩ := List.forall_mem_append.mp hbinds
        rw [hjoins.truth, h.truth I condition hsane hf, hfirst.truth I condition hsane hg]
    have hchain := ih hjoined
    rw [intercalate_append, List.append_assoc] at hchain
    exact hchain

/-! ## Conditions, groups and all of it -/

/-- A name does not begin with a digit. -/
theorem isDigit_of_isNameStart {c : Char} (h : isNameStart c) : c.isDigit = false := by
  -- letters and the underscore stand behind the digits
  have hbehind : 65 ≤ c.val := by
    rcases (Bool.or_eq_true _ _).mp h with halpha | hunderscore
    · rcases (Bool.or_eq_true _ _).mp halpha with hupper | hlower
      · exact (of_decide_eq_true hupper).1
      · have hlower := of_decide_eq_true ((Bool.and_eq_true _ _).mp hlower).1
        exact Nat.le_trans (by decide) hlower
    · rw [of_decide_eq_true hunderscore]
      decide
  have hdigit : c.isDigit = (decide (c.val ≥ 48) && decide (c.val ≤ 57)) := rfl
  have hend : ¬c.val ≤ 57 := fun hend => absurd (Nat.le_trans hbehind hend) (by decide)
  rw [hdigit, decide_eq_false hend, Bool.and_false]

/-- A column has the value that the interpretation gives it. -/
theorem value?_column {column : String} (h : isColumnName column) (I : Interpretation) :
    I.value? column.toList = some (I.column column) := by
  obtain ⟨⟨c, hc, hstart⟩, -⟩ := isColumn_of_isColumnName h
  obtain ⟨cs, hcs⟩ : ∃ cs, column.toList = c :: cs := by
    cases hlist : column.toList with
    | nil => simp [hlist] at hc
    | cons d cs =>
      rw [hlist] at hc
      cases hc
      exact ⟨cs, rfl⟩
  have hcolon : c ≠ ':' := by
    rintro rfl
    exact absurd hstart (by decide)
  rw [hcs, Interpretation.value?]
  · rw [List.all_cons, isDigit_of_isNameStart hstart, Bool.false_and, if_neg Bool.false_ne_true,
      ← hcs, String.ofList_toList]
  · simp [hcolon]

/-- A placeholder has the value that is bound to it. -/
theorem value?_placeholder (I : Interpretation) (name : String) :
    I.value? (':' :: name.toList) = I.parameters.find? name := by
  rw [Interpretation.value?, String.ofList_toList]

/-- Placeholders bound to some values have these values. -/
theorem mapM_value? {I : Interpretation} {names : List String} {vs : List Value}
    (hlength : names.length = vs.length) (h : I.Binds (names.zip vs)) :
    (names.map fun name => ':' :: name.toList).mapM I.value? = some vs := by
  induction names generalizing vs with
  | nil =>
    rw [List.eq_nil_of_length_eq_zero hlength.symm]
    rfl
  | cons name names ih =>
    obtain ⟨v, vs, rfl⟩ := List.exists_cons_of_length_eq_add_one hlength.symm
    obtain ⟨hfirst, hrest⟩ := List.forall_mem_cons.mp h
    rw [List.map_cons, List.mapM_cons, value?_placeholder, hfirst,
      ih (Nat.succ.inj hlength) hrest]
    rfl

/-- **A condition is read as its comparison.** -/
theorem means_condition {g c : Nat} {column : String} {condition : Condition} {s : ConditionShape}
    {bs : List (String × Value)} (h : analyzeCondition g c column condition = .ok (s, bs))
    (hfree : Keyword.of? column.toList = none) :
    Means EndsWord 4 (conditionText g c s).toList (.simple (comparison g c s).lexemes) bs
      fun I => Criterion.conditionTruth I column condition := by
  obtain ⟨op, ⟨hcolumn, hop, hfits⟩, rfl, rfl⟩ := analyzeCondition_eq_ok h
  have hfit := isFit_comparison g c column hfits
  refine ⟨lexes_condition (isWord_column hcolumn hfree) hfit, Comparison.isProper_simple hfit,
    Nat.le_refl 4, rfl, ?_⟩
  intro I _ _ hbinds
  have htruth := Interpretation.predicate_comparison
    (c := comparison g c ⟨column, op, condition.values.length⟩) hfit (value?_column hcolumn I)
    (mapM_value? (length_placeholders hfits) hbinds)
  rw [Formula.truth, htruth, Criterion.conditionTruth, hop]
  rfl

/-- What is true does not matter in a conjunction. -/
theorem and3_true (t : Option Bool) : Sqlite.and3 (some true) t = t := by
  cases t with
  | none => rfl
  | some b => cases b <;> rfl

/-- What is false does not matter in a disjunction. -/
theorem or3_false (t : Option Bool) : Sqlite.or3 (some false) t = t := by
  cases t with
  | none => rfl
  | some b => cases b <;> rfl

/-- The formulas of the conditions of a group, numbered from `c` on. -/
def conditionFormulas (g c : Nat) (ss : List ConditionShape) : List Formula :=
  (ss.zipIdx c).map fun (s, c) => .simple (comparison g c s).lexemes

/-- The texts of the conditions of a group mean what the conditions say. -/
theorem meansAll_conditions {g c : Nat} {conditions : List (String × Condition)}
    {ss : List ConditionShape} {bs : List (String × Value)}
    (h : analyzeConditions g c conditions = .ok (ss, bs))
    (hfree : ∀ e ∈ conditions, Keyword.of? e.1.toList = none) :
    MeansAll EndsWord ((ss.zipIdx c).map fun (s, c) => (conditionText g c s).toList)
      (conditionFormulas g c ss) bs
      (conditions.map fun e I => Criterion.conditionTruth I e.1 e.2) := by
  induction conditions generalizing c ss bs with
  | nil =>
    cases h
    exact .nil
  | cons e conditions ih =>
    obtain ⟨⟨s, bs₁⟩, hfirst, h⟩ := bind_eq_ok.mp h
    obtain ⟨⟨ss, bs₂⟩, hrest, h⟩ := bind_eq_ok.mp h
    cases h
    obtain ⟨hfree, hfree'⟩ := List.forall_mem_cons.mp hfree
    exact .cons (means_condition hfirst hfree) (ih hrest hfree')

/-- Formulas with a connective between them. -/
def chain (join : Formula → Formula → Formula) : List Formula → Formula
  | [] => .condition
  | f :: fs => fs.foldl join f

/-- The formula of a group, given its number. -/
def groupFormula (g : Nat) (ss : List ConditionShape) : Formula :=
  .nested (chain .and (conditionFormulas g 0 ss))

/-- **A group is read as a conjunction in parentheses.** -/
theorem means_group {g : Nat} {group : WhereGroup} {ss : List ConditionShape}
    {bs : List (String × Value)} (hne : group.entries ≠ [])
    (h : analyzeConditions g 0 group.entries = .ok (ss, bs))
    (hfree : ∀ e ∈ group.entries, Keyword.of? e.1.toList = none) :
    Means (fun _ => True) 4 (groupText g ss).toList (groupFormula g ss) bs
      fun I => Criterion.groupTruth I group := by
  have hall := meansAll_conditions h hfree
  have htext : (groupText g ss).toList = '(' :: (" AND ".toList.intercalate
      ((ss.zipIdx 0).map fun (s, c) => (conditionText g c s).toList) ++ ")".toList) := by
    rw [groupText, String.toList_append, String.toList_append, toList_joined, List.map_map]
    rfl
  rw [htext]
  -- a group is not empty: its first condition opens the chain
  obtain ⟨e, entries, hentries⟩ := List.exists_cons_of_ne_nil hne
  rw [hentries] at hall
  rw [groupFormula]
  generalize (ss.zipIdx 0).map _ = ts at hall
  generalize conditionFormulas g 0 ss = fs at hall
  cases hall with
  | cons hfirst hrest =>
    have hchain := hrest.chain joins_and separates_and (.of_le (by decide) hfirst)
    refine ⟨?_, hchain.proper, Nat.le_refl 4, hchain.closed, ?_⟩
    · -- the brackets around the chain read as one closed formula
      intro rest ls _ hrest
      have hinside := hchain.lexes _ _ (endsWord_cons rfl rest) (lex_closing hrest)
      have hwhole := lex_opening hinside
      simpa [chain, Formula.lexemes] using hwhole
    · -- AND over the conditions from left to right, beginning with true
      intro I condition hsane hbinds
      have htruth := hchain.truth I condition hsane hbinds
      rw [Formula.truth, chain, htruth, Criterion.groupTruth, hentries]
      rw [List.map_cons, List.foldl_cons, and3_true, List.map_map]
      rfl

/-- The formulas of groups, numbered from `g` on. -/
def groupFormulas (g : Nat) (ss : List (List ConditionShape)) : List Formula :=
  (ss.zipIdx g).map fun (s, g) => groupFormula g s

/-- The texts of the groups mean what the groups say. -/
theorem meansAll_groups {g : Nat} {groups : List WhereGroup} {ss : List (List ConditionShape)}
    {bs : List (String × Value)} (h : analyzeGroups g groups = .ok (ss, bs))
    (hfree : ∀ group ∈ groups, ∀ e ∈ group.entries, Keyword.of? e.1.toList = none) :
    MeansAll (fun _ => True) ((ss.zipIdx g).map fun (s, g) => (groupText g s).toList)
      (groupFormulas g ss) bs (groups.map fun group I => Criterion.groupTruth I group) := by
  induction groups generalizing g ss bs with
  | nil =>
    cases h
    exact .nil
  | cons group groups ih =>
    rw [analyzeGroups] at h
    split at h
    · cases h
    rename_i hne
    -- the first group, with its bindings, and the other groups behind it
    obtain ⟨⟨s, bs₁⟩, hfirst, h⟩ := bind_eq_ok.mp h
    obtain ⟨⟨ss, bs₂⟩, hrest, h⟩ := bind_eq_ok.mp h
    cases h
    obtain ⟨hfree, hfree'⟩ := List.forall_mem_cons.mp hfree
    exact .cons (means_group (by simpa [Dict.isEmpty] using hne) hfirst hfree) (ih hrest hfree')

/-- The formula of no groups: one is equal to one. -/
def anyFormula : Formula := .simple (Comparison.lexemes ⟨['1'], .eq, [['1']]⟩)

/-- The formula of all groups. -/
def whereFormula (ss : List (List ConditionShape)) : Formula :=
  if ss.isEmpty then anyFormula else chain .or (groupFormulas 0 ss)

/-- One group, or none, is an operand by itself. -/
theorem rank_whereFormula {ss : List (List ConditionShape)} (h : ss.length ≤ 1) :
    (whereFormula ss).rank = 4 := by
  match ss with
  | [] => rfl
  | [s] => rfl

/-- The text that stands for no group is true. -/
theorem means_any : Means EndsWord 4 "1 = 1".toList anyFormula [] fun _ => some true := by
  have hfit : Comparison.IsFit .eq [['1']] := rfl
  refine ⟨?_, Comparison.isProper_simple hfit, Nat.le_refl 4, rfl, ?_⟩
  · intro rest ls hends hrest
    have hone {rest : List Char} {ls : List Lexeme} (hends : EndsWord rest)
        (h : lex rest = some ls) : lex ('1' :: rest) = some (.word ['1'] :: ls) :=
      lex_word ['1'] (by simp) rfl hends h
    have hright := lexes_operator .eq (hone hends hrest)
    exact hone (endsWord_cons rfl _) (lex_blank hright)
  · intro I _ hsane _
    exact (Interpretation.predicate_comparison (I := I) (c := ⟨['1'], .eq, [['1']]⟩) hfit rfl
      rfl).trans hsane

/-- **The text of a condition is read as a disjunction of its groups.** A word has to end behind it
only if there are no groups. -/
theorem means_where {c : Criterion} {ss : List (List ConditionShape)} {bs : List (String × Value)}
    (h : analyzeGroups 0 c.groups = .ok (ss, bs)) (hfree : c.NamesColumns) :
    Means (fun rest => c.groups = [] → EndsWord rest) 1 (whereText ss).toList (whereFormula ss) bs
      fun I => c.truth I := by
  have hall := meansAll_groups h hfree
  cases hgroups : c.groups with
  | nil =>
    -- without groups the statement says 1 = 1
    rw [hgroups] at h
    cases h
    obtain ⟨hlexes, hproper, -, hclosed, htruth⟩ := means_any
    refine ⟨fun rest ls hends => hlexes rest ls (hends rfl), hproper, by decide, hclosed, ?_⟩
    intro I condition hsane hbinds
    rw [Criterion.truth, hgroups]
    exact htruth I condition hsane hbinds
  | cons group groups =>
    rw [hgroups] at hall
    cases ss with
    | nil => cases hall
    | cons s ss =>
      have htext : (whereText (s :: ss)).toList = " OR ".toList.intercalate
          (((s :: ss).zipIdx 0).map fun (s, g) => (groupText g s).toList) := by
        rw [whereText, if_neg (by simp), toList_joined, List.map_map]
        rfl
      rw [htext]
      have hformula : whereFormula (s :: ss) = chain .or (groupFormulas 0 (s :: ss)) := rfl
      rw [hformula]
      generalize ((s :: ss).zipIdx 0).map _ = ts at hall
      generalize groupFormulas 0 (s :: ss) = fs at hall
      cases hall with
      | cons hfirst hrest =>
        have hchain := hrest.chain joins_or separates_or (.of_le (by decide) hfirst)
        refine ⟨fun rest ls _ => hchain.lexes rest ls trivial, hchain.proper, hchain.rank,
          hchain.closed, ?_⟩
        -- OR over the groups from left to right, beginning with false
        intro I condition hsane hbinds
        have htruth := hchain.truth I condition hsane hbinds
        rw [chain, htruth, Criterion.truth, hgroups, List.map_cons, List.foldl_cons, or3_false,
          List.map_map]
        rfl

/-! ## Criteria -/

/-- A text that means something is read as its formula. -/
theorem Means.read {r : Nat} {text : List Char} {f : Formula} {bs : List (String × Value)}
    {m : Interpretation → Option Bool} (h : Means before r text f bs m) (hbefore : before []) :
    read text = some f := by
  have hlex := h.lexes [] [] hbefore rfl
  rw [List.append_nil, List.append_nil] at hlex
  rw [Predicate.read, hlex]
  exact parse_eq_some_iff.mpr ⟨h.proper, rfl⟩

/-- Each group has a shape. -/
theorem length_analyzeGroups {g : Nat} {groups : List WhereGroup} {ss : List (List ConditionShape)}
    {bs : List (String × Value)} (h : analyzeGroups g groups = .ok (ss, bs)) :
    ss.length = groups.length := by
  induction groups generalizing g ss bs with
  | nil =>
    cases h
    rfl
  | cons group groups ih =>
    rw [analyzeGroups] at h
    split at h
    · cases h
    obtain ⟨⟨s, bs₁⟩, -, h⟩ := bind_eq_ok.mp h
    obtain ⟨⟨ss, bs₂⟩, hrest, h⟩ := bind_eq_ok.mp h
    cases h
    rw [List.length_cons, List.length_cons, ih hrest]

/-- A shape has as many groups as the criterion. -/
theorem length_groups {t : Template} {c : Criterion} {s : Shape} {set : ParameterSet}
    (h : t.analyze c = .ok (s, set)) : s.groups.length = c.groups.length := by
  obtain ⟨⟨groups, bs⟩, hgroups, h⟩ := bind_eq_ok.mp h
  obtain ⟨_, -, h⟩ := bind_eq_ok.mp h
  obtain ⟨_, -, h⟩ := bind_eq_ok.mp h
  cases h
  exact length_analyzeGroups hgroups

/-- The set of an accepted criterion binds what the text of its condition needs. -/
theorem exists_means {t : Template} {c : Criterion} {s : Shape} {set : ParameterSet}
    (h : t.analyze c = .ok (s, set)) (hfree : c.NamesColumns) :
    ∃ bs, Means (fun rest => c.groups = [] → EndsWord rest) 1 (whereText s.groups).toList
      (whereFormula s.groups) bs (fun I => c.truth I) ∧ ∀ b ∈ bs, set.find? b.1 = some b.2 := by
  obtain ⟨bs', hwrites', hfind⟩ := (analyze_writes h).writes .condition
  obtain ⟨⟨groups, bs⟩, hgroups, h⟩ := bind_eq_ok.mp h
  obtain ⟨_, -, h⟩ := bind_eq_ok.mp h
  obtain ⟨_, -, h⟩ := bind_eq_ok.mp h
  cases h
  have hwrites : Writes (whereParts c.groups) (whereText groups).toList bs := writes_where hgroups
  have hbs : bs' = bs := hwrites'.bindings.symm.trans hwrites.bindings
  exact ⟨bs, means_where hgroups hfree, hbs ▸ hfind⟩

/-- The text that stands for the condition in a statement is read as a predicate, and over a set it
is true where a criterion is. -/
def ReadsCondition (t : Template) (c : Criterion) (batch : Batch) (set : ParameterSet) : Prop :=
  ∃ s, t.analyze c = .ok (s, set) ∧ batch.sql = t.render s ∧
    ∃ f, read (whereText s.groups).toList = some f ∧
      ∀ (I : Interpretation) (condition : Option Bool), I.parameters = set → I.IsSane →
        f.truth I.predicate condition = c.truth I

/-- A statement made of a criterion is read with the condition of the criterion in it. -/
theorem Makes.readsCondition {t : Template} {c : Criterion} {batch : Batch} {set : ParameterSet}
    (h : Makes t c batch set) (hfree : c.NamesColumns) : ReadsCondition t c batch set := by
  obtain ⟨s, hanalyze, hsql⟩ := h
  obtain ⟨bs, hmeans, hfind⟩ := exists_means hanalyze hfree
  refine ⟨s, hanalyze, hsql, whereFormula s.groups, hmeans.read fun _ => ?_, ?_⟩
  · simp [EndsWord]
  · intro I condition hset hsane
    refine hmeans.truth I condition hsane ?_
    rw [Interpretation.Binds, hset]
    exact hfind

end Template

namespace StatementSet

open Template Predicate

/-- **By itself the text of a condition means the criterion.** Every set of every compiled statement
is made of a criterion, and of every criterion such a set is made; and whatever the operators do, as
long as one is equal to one, the text that stands for the condition is read as a predicate that is
true of a row, with the set bound, where one of the groups of the criterion is, or there is none. -/
theorem compile_means {p : StatementSet} {batches : List Batch} (h : p.compile = .ok batches)
    (hfree : ∀ c ∈ p.criteria, c.NamesColumns) :
    (∀ batch ∈ batches, ∀ set ∈ batch.sets, ∃ c ∈ p.criteria,
      ReadsCondition p.template c batch set) ∧
    ∀ c ∈ p.criteria, ∃ batch ∈ batches, ∃ set ∈ batch.sets,
      ReadsCondition p.template c batch set := by
  obtain ⟨hmade, hused⟩ := compile_makes h
  constructor
  · intro batch hbatch set hset
    obtain ⟨c, hc, hmakes⟩ := hmade batch hbatch set hset
    exact ⟨c, hc, hmakes.readsCondition (hfree c hc)⟩
  · intro c hc
    obtain ⟨batch, hbatch, set, hset, hmakes⟩ := hused c hc
    exact ⟨batch, hbatch, set, hset, hmakes.readsCondition (hfree c hc)⟩

/-- Rows within a range and in one of two states, or in none of two cities; and all rows. -/
def ranging : StatementSet where
  template := ⟨"SELECT * FROM t WHERE <<condition>>", .select⟩
  criteria :=
    [((({} : Criterion).withCondition "n" (.between (.int 1) (.int 5))).withCondition "t.state"
        (.isIn [.text "TX", .text "OK"])).orElse.withCondition "city"
          (.notIn [.text "Austin", .text "Dallas"]),
      {}]

/-- A template whose criteria use ranges and memberships, in two groups and in none. -/
theorem compile_means_ranging : ∃ batches, ranging.compile = .ok batches ∧
    (∀ c ∈ ranging.criteria, c.NamesColumns) ∧
    ∀ c ∈ ranging.criteria, ∃ batch ∈ batches, ∃ set ∈ batch.sets,
      ReadsCondition ranging.template c batch set := by
  have hfree : ∀ c ∈ ranging.criteria, c.NamesColumns := by
    with_unfolding_all decide
  obtain ⟨batches, h⟩ : ∃ batches, ranging.compile = .ok batches :=
    ⟨_, by with_unfolding_all rfl⟩
  exact ⟨batches, h, hfree, (compile_means h hfree).2⟩

end StatementSet

end Tabula
