import Tabula.Criteria.Criterion
import Tabula.Proofs.Predicate.Grammar
import Tabula.Sqlite.Evaluation
import Tabula.Text.Numeral

/-!
# What a predicate means

A formula is true, false or neither, given what its predicates are. A `Comparison` is a predicate of
the form that conditions have: a word, one of the twelve operators, and words for its operands. An
`Interpretation` says what the operators do, over a row and bound parameters; a predicate of any
other form may be anything.

* `Comparison.of?_lexemes`, `Comparison.isProper_simple`: a comparison is found in its lexemes, and
  is one predicate.
* `Interpretation.predicate_comparison`: what a comparison with bound operands is.
* `Criterion.truth`: what a criterion asks for, by its groups.
-/

namespace Tabula

namespace Predicate

open Sqlite (and3 or3 not3)

/-! ## Formulas -/

/-- The truth of a formula, given that of predicates and that of the condition in its place. -/
def Formula.truth (predicate : List Lexeme → Option Bool) (condition : Option Bool) :
    Formula → Option Bool
  | .simple ls => predicate ls
  | .compound f ls => predicate (.opening :: (f.lexemes ++ .closing :: ls))
  | .condition => condition
  | .nested f => f.truth predicate condition
  | .not f => not3 (f.truth predicate condition)
  | .and f g => and3 (f.truth predicate condition) (g.truth predicate condition)
  | .or f g => or3 (f.truth predicate condition) (g.truth predicate condition)

/-! ## Comparisons -/

/-- The lexemes of an operator. -/
def operatorLexemes : Operator → List Lexeme
  | .eq => [.symbol ['=']]
  | .gt => [.symbol ['>']]
  | .lt => [.symbol ['<']]
  | .ge => [.symbol ['>', '=']]
  | .le => [.symbol ['<', '=']]
  | .ne => [.symbol ['<', '>']]
  | .between => [.keyword .between]
  | .notBetween => [.keyword .not, .keyword .between]
  | .isIn => [.keyword .isIn]
  | .notIn => [.keyword .not, .keyword .isIn]
  | .like => [.keyword .like]
  | .notLike => [.keyword .not, .keyword .like]

/-- A word compared with others. -/
structure Comparison where
  /-- what is compared -/
  left : List Char
  /-- the operator -/
  operator : Operator
  /-- the operands -/
  operands : List (List Char)

namespace Comparison

/-- Words with commas between them, and a parenthesis behind them. -/
def listed : List (List Char) → List Lexeme
  | [] => [.closing]
  | [w] => [.word w, .closing]
  | w :: ws => .word w :: .symbol [','] :: listed ws

/-- The lexemes of some operands. -/
def operandLexemes (op : Operator) (ws : List (List Char)) : List Lexeme :=
  if op.isRange then (ws.map Lexeme.word).intersperse (.keyword .and)
  else if op.isMembership then .opening :: listed ws
  else ws.map Lexeme.word

/-- The lexemes of a comparison. -/
def lexemes (c : Comparison) : List Lexeme :=
  .word c.left :: (operatorLexemes c.operator ++ operandLexemes c.operator c.operands)

/-- The words with commas between them, in front of a parenthesis that ends all. -/
def listed? : List Lexeme → Option (List (List Char))
  | [.word w, .closing] => some [w]
  | .word w :: .symbol [','] :: ls => (listed? ls).map (w :: ·)
  | _ => none

/-- The operands that some lexemes are. -/
def operands? (op : Operator) (ls : List Lexeme) : Option (List (List Char)) :=
  if op.isRange then
    match ls with
    | [.word low, .keyword .and, .word high] => some [low, high]
    | _ => none
  else if op.isMembership then
    match ls with
    | .opening :: ls => listed? ls
    | _ => none
  else
    match ls with
    | [.word w] => some [w]
    | _ => none

/-- The comparison that some lexemes are. -/
def of? : List Lexeme → Option Comparison
  | .word left :: ls => do
    let op ← Operator.all.find? fun op => (operatorLexemes op).isPrefixOf ls
    return ⟨left, op, ← operands? op (ls.drop (operatorLexemes op).length)⟩
  | _ => none

/-- The operands are as many as the operator takes. -/
def IsFit (op : Operator) (ws : List (List Char)) : Prop :=
  if op.isRange then ws.length = 2 else if op.isMembership then ws ≠ [] else ws.length = 1

theorem listed?_listed {ws : List (List Char)} (h : ws ≠ []) : listed? (listed ws) = some ws := by
  induction ws with
  | nil => exact absurd rfl h
  | cons w ws ih =>
    cases ws with
    | nil => rfl
    | cons v ws =>
      rw [listed, listed?, ih (List.cons_ne_nil v ws)]
      · rfl
      · simp

theorem operands?_operandLexemes {op : Operator} {ws : List (List Char)} (h : IsFit op ws) :
    operands? op (operandLexemes op ws) = some ws := by
  unfold IsFit at h
  unfold operands? operandLexemes
  split
  · rename_i hrange
    rw [if_pos hrange] at h
    obtain ⟨low, high, rfl⟩ := List.length_eq_two.mp h
    rfl
  · rename_i hrange
    rw [if_neg hrange] at h
    split
    · rename_i hmember
      rw [if_pos hmember] at h
      exact listed?_listed h
    · rename_i hmember
      rw [if_neg hmember] at h
      obtain ⟨w, rfl⟩ := List.length_eq_one_iff.mp h
      rfl

/-- No operator begins like another one and goes on behind it. -/
theorem find?_operatorLexemes (op : Operator) (ls : List Lexeme) :
    (Operator.all.find? fun other =>
      (operatorLexemes other).isPrefixOf (operatorLexemes op ++ ls)) = some op := by
  cases op <;> simp [Operator.all, operatorLexemes, List.isPrefixOf]

/-- **A comparison is found in its lexemes.** -/
theorem of?_lexemes {c : Comparison} (h : IsFit c.operator c.operands) :
    of? c.lexemes = some c := by
  rw [lexemes, of?, find?_operatorLexemes]
  simp [operands?_operandLexemes h]

/-- Behind an operator a range waits for its second end, if it is one. -/
theorem foldlM_operatorLexemes (op : Operator) :
    (operatorLexemes op).foldlM Progress.take ({} : Progress) =
      some { ranges := if op.isRange then 1 else 0 } := by
  cases op <;> rfl

theorem foldlM_listed (ws : List (List Char)) :
    (listed ws).foldlM Progress.take ({ depth := 1 } : Progress) = some {} := by
  induction ws with
  | nil => rfl
  | cons w ws ih =>
    cases ws with
    | nil => rfl
    | cons v ws => exact ih

theorem foldlM_operandLexemes {op : Operator} {ws : List (List Char)} (h : IsFit op ws) :
    (operandLexemes op ws).foldlM Progress.take
      ({ ranges := if op.isRange then 1 else 0 } : Progress) = some {} := by
  unfold IsFit at h
  unfold operandLexemes
  by_cases hrange : op.isRange
  · rw [if_pos hrange] at h
    obtain ⟨low, high, rfl⟩ := List.length_eq_two.mp h
    -- the `AND` between the ends is the one that the range waits for
    rw [if_pos hrange, if_pos hrange]
    rfl
  · rw [if_neg hrange] at h
    rw [if_neg hrange, if_neg hrange]
    by_cases hmember : op.isMembership
    · rw [if_pos hmember]
      exact foldlM_listed ws
    · rw [if_neg hmember] at h
      obtain ⟨w, rfl⟩ := List.length_eq_one_iff.mp h
      rw [if_neg hmember]
      rfl

/-- **A comparison is one predicate**: an `AND` in it belongs to its range. -/
theorem isProper_simple {c : Comparison} (h : IsFit c.operator c.operands) :
    (Formula.simple c.lexemes).IsProper := by
  refine ⟨⟨by simp [lexemes], ?_⟩, ?_⟩
  · rw [lexemes, List.foldlM_cons]
    change (operatorLexemes c.operator ++ operandLexemes c.operator c.operands).foldlM
      Progress.take ({} : Progress) = some {}
    rw [List.foldlM_append, foldlM_operatorLexemes]
    exact foldlM_operandLexemes h
  · rintro _ ⟨⟩
    rfl

end Comparison

/-! ## Interpretations -/

/-- What predicates are over a row. -/
structure Interpretation where
  /-- an operator applied to a value and its operands -/
  operator : Operator → Value → List Value → Option Bool
  /-- the row -/
  column : String → Value
  /-- the parameters -/
  parameters : ParameterSet
  /-- a predicate that is no comparison of known values -/
  other : List Lexeme → Option Bool

namespace Interpretation

/-- The value of a word: a parameter that is bound, a number or a column. -/
def value? (I : Interpretation) : List Char → Option Value
  | ':' :: name => I.parameters.find? (String.ofList name)
  | cs =>
    if cs.all Char.isDigit then
      if fitsUnsigned 63 (Text.digitsValue cs) then some (.int (.ofNat (Text.digitsValue cs)))
      else none
    else some (I.column (String.ofList cs))

/-- The truth of a comparison, if its values are known. -/
def comparison? (I : Interpretation) (c : Comparison) : Option (Option Bool) := do
  return I.operator c.operator (← I.value? c.left) (← c.operands.mapM I.value?)

/-- The truth of a predicate. -/
def predicate (I : Interpretation) (ls : List Lexeme) : Option Bool :=
  ((Comparison.of? ls).bind I.comparison?).getD (I.other ls)

/-- One is equal to one. -/
def IsSane (I : Interpretation) : Prop := I.operator .eq (.int 1) [.int 1] = some true

/-- The parameters have some values. -/
def Binds (I : Interpretation) (bs : List (String × Value)) : Prop :=
  ∀ b ∈ bs, I.parameters.find? b.1 = some b.2

theorem predicate_comparison {I : Interpretation} {c : Comparison} {v : Value} {vs : List Value}
    (hfit : Comparison.IsFit c.operator c.operands) (hleft : I.value? c.left = some v)
    (hoperands : c.operands.mapM I.value? = some vs) :
    I.predicate c.lexemes = I.operator c.operator v vs := by
  rw [predicate, Comparison.of?_lexemes hfit, Option.bind_some, comparison?, hleft, hoperands]
  rfl

end Interpretation

end Predicate

/-! ## Criteria -/

namespace Criterion

open Sqlite (and3 or3)
open Predicate (Interpretation)

/-- No column of a condition is a keyword. -/
def NamesColumns (c : Criterion) : Prop :=
  ∀ group ∈ c.groups, ∀ e ∈ group.entries, Predicate.Keyword.of? e.1.toList = none

instance (c : Criterion) : Decidable c.NamesColumns :=
  inferInstanceAs (Decidable (∀ group ∈ c.groups, ∀ e ∈ group.entries,
    Predicate.Keyword.of? e.1.toList = none))

/-- The truth of a condition on a column. -/
def conditionTruth (I : Interpretation) (column : String) (c : Condition) : Option Bool :=
  (Operator.ofText? c.operator).bind fun op => I.operator op (I.column column) c.values

/-- The truth of a group: all of its conditions hold. -/
def groupTruth (I : Interpretation) (g : WhereGroup) : Option Bool :=
  (g.entries.map fun e => conditionTruth I e.1 e.2).foldl and3 (some true)

/-- The truth of a criterion: one of its groups holds, or there is none. -/
def truth (I : Interpretation) (c : Criterion) : Option Bool :=
  if c.groups.isEmpty then some true else (c.groups.map (groupTruth I)).foldl or3 (some false)

end Criterion

end Tabula
