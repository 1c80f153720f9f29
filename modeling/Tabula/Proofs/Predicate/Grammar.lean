import Tabula.Proofs.Predicate.Lexeme

/-!
# The grammar of predicates

A `Formula` is a predicate with the connectives in it as a tree. `AND` binds more than `OR`, `NOT`
binds more than `AND`, and what stands between two connectives is read as a whole: the `AND` of a
range, what stands in the parentheses behind a word, and a choice are parts of it. Parentheses in
front of which there is no word are taken for those of a formula until something else follows them.

`parse` reads lexemes from the left to the right with a stack, and `Formula.lexemes` is what a
formula looks like.

* `lexemes_of_parse`: what is read looks like the lexemes, and is a formula of the grammar.
* `parse_lexemes`: a formula of the grammar is read from what it looks like.
* `parse_eq_some_iff`: so lexemes have one formula at most, which is the one that is read.
-/

namespace Tabula.Predicate

/-! ## Formulas -/

/-- A predicate as a tree. -/
inductive Formula where
  /-- a predicate without a connective -/
  | simple (ls : List Lexeme)
  /-- a predicate that begins with parentheses -/
  | compound (f : Formula) (ls : List Lexeme)
  /-- the place of a condition -/
  | condition
  /-- a formula in parentheses -/
  | nested (f : Formula)
  /-- a negation -/
  | not (f : Formula)
  /-- a conjunction -/
  | and (f g : Formula)
  /-- a disjunction -/
  | or (f g : Formula)
  deriving DecidableEq

/-- How far a predicate has been read: how many parentheses and choices are open, and how many
ranges wait for their second end. -/
structure Progress where
  /-- what is open -/
  depth : Nat := 0
  /-- the ranges -/
  ranges : Nat := 0
  deriving DecidableEq

/-- How a lexeme goes on with a predicate, if it belongs to it. -/
def Progress.take (p : Progress) : Lexeme → Option Progress
  | .condition => none
  | .opening | .keyword .choice => some { p with depth := p.depth + 1 }
  | .closing | .keyword .chosen =>
    if p.depth = 0 then none else some { p with depth := p.depth - 1 }
  | .keyword .and =>
    if p.depth ≠ 0 then some p
    else if p.ranges ≠ 0 then some { p with ranges := p.ranges - 1 }
    else none
  | .keyword .or => if p.depth ≠ 0 then some p else none
  | .keyword .between => if p.depth ≠ 0 then some p else some { p with ranges := p.ranges + 1 }
  | _ => some p

/-- Lexemes that are one predicate, or the end of one. -/
def IsWhole (ls : List Lexeme) : Prop :=
  ls ≠ [] ∧ ls.foldlM Progress.take ({} : Progress) = some {}

/-- A lexeme in front of a predicate is not a part of it. -/
def Lexeme.isAhead (l : Lexeme) : Bool := l = .opening || l = .keyword .not

namespace Formula

/-- What a formula looks like. -/
def lexemes : Formula → List Lexeme
  | simple ls => ls
  | compound f ls => .opening :: (f.lexemes ++ .closing :: ls)
  | condition => [.condition]
  | nested f => .opening :: (f.lexemes ++ [.closing])
  | not f => .keyword .not :: f.lexemes
  | and f g => f.lexemes ++ .keyword .and :: g.lexemes
  | or f g => f.lexemes ++ .keyword .or :: g.lexemes

/-- How much the outermost connective binds. -/
def rank : Formula → Nat
  | or _ _ => 1
  | and _ _ => 2
  | not _ => 3
  | _ => 4

/-- There is no place of a condition. -/
def isClosed : Formula → Bool
  | simple _ => true
  | compound f _ => f.isClosed
  | condition => false
  | nested f => f.isClosed
  | not f => f.isClosed
  | and f g => f.isClosed && g.isClosed
  | or f g => f.isClosed && g.isClosed

/-- A formula of the grammar: every connective binds less than those inside of it, and on its right
less than itself. -/
def IsProper : Formula → Prop
  | simple ls => IsWhole ls ∧ ∀ l ∈ ls.head?, l.isAhead = false
  | compound f ls => f.IsProper ∧ f.isClosed ∧ IsWhole ls
  | condition => True
  | nested f => f.IsProper
  | not f => f.IsProper ∧ 3 ≤ f.rank
  | and f g => f.IsProper ∧ g.IsProper ∧ 2 ≤ f.rank ∧ 3 ≤ g.rank
  | or f g => f.IsProper ∧ g.IsProper ∧ 2 ≤ g.rank

end Formula

/-! ## Reading -/

/-- An operand that is being read. -/
inductive Operand where
  /-- there is nothing yet -/
  | none
  /-- it is complete, unless it turns out to begin a predicate -/
  | whole (f : Formula)
  /-- a predicate, perhaps behind parentheses -/
  | begun (front : Option Formula) (ls : List Lexeme) (p : Progress)

namespace Operand

/-- A predicate, perhaps behind a formula in parentheses. -/
def predicate (front : Option Formula) (ls : List Lexeme) : Formula :=
  match front with
  | Option.none => .simple ls
  | some f => .compound f ls

/-- The operand with one more lexeme, if it belongs to it. -/
def take : Operand → Lexeme → Option Operand
  | .none, .condition => some (.whole .condition)
  | .none, l =>
    if l.isAhead then Option.none else (Progress.take {} l).map (.begun Option.none [l])
  | .whole (.nested f), l =>
    if f.isClosed then (Progress.take {} l).map (.begun (some f) [l]) else Option.none
  | .whole _, _ => Option.none
  | .begun front ls p, l => (p.take l).map (.begun front (ls ++ [l]))

/-- The formula of an operand, if it is complete. -/
def formula? : Operand → Option Formula
  | .none => Option.none
  | .whole f => some f
  | .begun front ls p =>
    if p = {} then some (predicate front ls) else Option.none

end Operand

/-- What has been read since a parenthesis: a disjunction, then a conjunction, negations and an
operand. -/
structure Frame where
  /-- what stands in front of the last `OR` -/
  alternatives : Option Formula := none
  /-- what stands between that and the last `AND` -/
  conjuncts : Option Formula := none
  /-- how many `NOT` stand behind that -/
  negations : Nat := 0
  /-- what stands behind these -/
  operand : Operand := .none

namespace Frame

/-- A formula behind negations. -/
def negate (f : Formula) : Nat → Formula
  | 0 => f
  | n + 1 => .not (negate f n)

/-- The operand with the negations in front of it. -/
def negated? (fr : Frame) : Option Formula := fr.operand.formula?.map (negate · fr.negations)

/-- The conjunction up to here. -/
def conjunction? (fr : Frame) : Option Formula :=
  fr.negated?.map fun f => fr.conjuncts.elim f (.and · f)

/-- The disjunction up to here. -/
def disjunction? (fr : Frame) : Option Formula :=
  fr.conjunction?.map fun f => fr.alternatives.elim f (.or · f)

end Frame

/-- What has been read. -/
structure Stack where
  /-- the innermost parentheses -/
  frame : Frame := {}
  /-- those around them -/
  outer : List Frame := []

namespace Stack

/-- The stack with something else in the innermost parentheses. -/
def withFrame (s : Stack) (fr : Frame) : Stack := { s with frame := fr }

/-- A connective, an opening parenthesis or a closing one. -/
def connect (s : Stack) : Lexeme → Option Stack
  | .keyword .and => do
    return s.withFrame { alternatives := s.frame.alternatives, conjuncts := ← s.frame.conjunction? }
  | .keyword .or => do return s.withFrame { alternatives := ← s.frame.disjunction? }
  | .keyword .not =>
    match s.frame.operand with
    | .none => some (s.withFrame { s.frame with negations := s.frame.negations + 1 })
    | _ => none
  | .opening =>
    match s.frame.operand with
    | .none => some ⟨{}, s.frame :: s.outer⟩
    | _ => none
  | .closing =>
    match s.outer with
    | [] => none
    | fr :: outer => do
      return ⟨{ fr with operand := .whole (.nested (← s.frame.disjunction?)) }, outer⟩
  | _ => none

/-- One more lexeme. -/
def step (s : Stack) (l : Lexeme) : Option Stack :=
  match s.frame.operand.take l with
  | some o => some (s.withFrame { s.frame with operand := o })
  | none => s.connect l

/-- The formula, if nothing is open. -/
def formula? (s : Stack) : Option Formula :=
  match s.outer with
  | [] => s.frame.disjunction?
  | _ :: _ => none

end Stack

/-- The formula of some lexemes. -/
def parse (ls : List Lexeme) : Option Formula :=
  (ls.foldlM Stack.step ({} : Stack)).bind Stack.formula?

/-- The formula of a text. -/
def read (cs : List Char) : Option Formula := (lex cs).bind parse

example : read "NOT a = 1 AND n BETWEEN 2 AND 3 OR (b IN (4, 5))".toList =
    some (.or (.and (.not (.simple [.word ['a'], .symbol ['='], .word ['1']]))
        (.simple [.word ['n'], .keyword .between, .word ['2'], .keyword .and, .word ['3']]))
      (.nested (.simple [.word ['b'], .keyword .isIn, .opening, .word ['4'], .symbol [','],
        .word ['5'], .closing]))) := by
  cbv

/-! ## What is read looks like the lexemes -/

variable {f g : Formula} {l : Lexeme} {ls : List Lexeme}

/-- A formula of the grammar that binds so much and looks like some lexemes. -/
structure Formula.Shows (r : Nat) (f : Formula) (ls : List Lexeme) : Prop where
  /-- it is one of the grammar -/
  proper : f.IsProper
  /-- it binds -/
  rank : r ≤ f.rank
  /-- what it looks like -/
  lexemes : f.lexemes = ls

namespace Operand

/-- What an operand looks like. -/
def lexemes : Operand → List Lexeme
  | .none => []
  | .whole f => f.lexemes
  | .begun front ls _ => (predicate front ls).lexemes

/-- An operand that can have been read. -/
def IsProper : Operand → Prop
  | .none => True
  | .whole f => f.IsProper ∧ f.rank = 4
  | .begun front ls p => ls ≠ [] ∧ ls.foldlM Progress.take ({} : Progress) = some p ∧
    match front with
    | Option.none => ∀ l ∈ ls.head?, l.isAhead = false
    | some f => f.IsProper ∧ f.isClosed

variable {o o' : Operand}

/-- The formula that has been read so far shows what was read. -/
theorem IsProper.shows (h : o.IsProper) (hf : o.formula? = some f) : f.Shows 4 o.lexemes := by
  cases o with
  | none => cases hf
  | whole g =>
    cases hf
    exact ⟨h.1, Nat.le_of_eq h.2.symm, rfl⟩
  | begun front ls p =>
    rw [formula?] at hf
    split at hf
    · rename_i hp
      cases hf
      subst hp
      obtain ⟨hne, hls, hfront⟩ := h
      cases front with
      | none => exact ⟨⟨⟨hne, hls⟩, hfront⟩, Nat.le_refl 4, rfl⟩
      | some g => exact ⟨⟨hfront.1, hfront.2, hne, hls⟩, Nat.le_refl 4, rfl⟩
    · cases hf

/-- Reading one lexeme is one step. -/
theorem foldlM_singleton {p q : Progress} (h : p.take l = some q) :
    [l].foldlM Progress.take p = some q := by
  rw [List.foldlM_cons, h]
  rfl

/-- What belongs to an operand is put behind it. -/
theorem IsProper.take (h : o.IsProper) (ho : o.take l = some o') :
    o'.IsProper ∧ o'.lexemes = o.lexemes ++ [l] := by
  cases o with
  | none =>
    by_cases hl : l = .condition
    · subst hl
      cases ho
      exact ⟨⟨trivial, rfl⟩, rfl⟩
    · rw [Operand.take] at ho
      · split at ho
        · cases ho
        · rename_i hahead
          obtain ⟨p, hp, rfl⟩ := Option.map_eq_some_iff.mp ho
          refine ⟨⟨by simp, foldlM_singleton hp, ?_⟩, rfl⟩
          rintro _ ⟨⟩
          simpa using hahead
      · exact hl
  | whole f =>
    cases f with
    | nested f =>
      rw [Operand.take] at ho
      split at ho
      · rename_i hclosed
        obtain ⟨p, hp, rfl⟩ := Option.map_eq_some_iff.mp ho
        exact ⟨⟨by simp, foldlM_singleton hp, h.1, hclosed⟩,
          by simp [lexemes, predicate, Formula.lexemes]⟩
      · cases ho
    | _ => cases ho
  | begun front ls p =>
    obtain ⟨q, hq, rfl⟩ := Option.map_eq_some_iff.mp ho
    obtain ⟨hne, hls, hfront⟩ := h
    refine ⟨⟨by simp, ?_, ?_⟩, ?_⟩
    · rw [List.foldlM_append, hls]
      exact foldlM_singleton hq
    · cases front with
      | none => rwa [List.head?_append_of_ne_nil _ hne]
      | some f => exact hfront
    · cases front <;> simp [lexemes, predicate, Formula.lexemes]

end Operand

namespace Frame

/-- What has been read since a parenthesis. -/
def lexemes (fr : Frame) : List Lexeme :=
  fr.alternatives.elim [] (fun f => f.lexemes ++ [.keyword .or]) ++
    (fr.conjuncts.elim [] (fun f => f.lexemes ++ [.keyword .and]) ++
      (List.replicate fr.negations (.keyword .not) ++ fr.operand.lexemes))

/-- A frame that can have been read. -/
structure IsProper (fr : Frame) : Prop where
  /-- what stands in front of `OR` -/
  alternatives : ∀ f ∈ fr.alternatives, f.IsProper
  /-- what stands in front of `AND` -/
  conjuncts : ∀ f ∈ fr.conjuncts, f.IsProper ∧ 2 ≤ f.rank
  /-- what stands behind these -/
  operand : fr.operand.IsProper

/-- A negation inside of negations is one more of them. -/
theorem negate_not (f : Formula) (n : Nat) : negate f (n + 1) = negate (.not f) n := by
  induction n with
  | zero => rfl
  | succ n ih => exact congrArg Formula.not ih

/-- Nothing has been read at first. -/
theorem isProper_empty : ({} : Frame).IsProper := ⟨by simp, by simp, trivial⟩

/-- A negated formula shows its negations in front. -/
theorem shows_negate (h : f.Shows 3 ls) (n : Nat) :
    (negate f n).Shows 3 (List.replicate n (.keyword .not) ++ ls) := by
  induction n with
  | zero => exact h
  | succ n ih =>
    exact ⟨⟨ih.proper, ih.rank⟩, Nat.le_refl 3, congrArg (Lexeme.keyword .not :: ·) ih.lexemes⟩

variable {fr : Frame}

/-- What a frame holds with its negations shows them and the operand. -/
theorem IsProper.negated (h : fr.IsProper) (hf : fr.negated? = some f) :
    f.Shows 3 (List.replicate fr.negations (.keyword .not) ++ fr.operand.lexemes) := by
  obtain ⟨g, hg, rfl⟩ := Option.map_eq_some_iff.mp hf
  have hshows := h.operand.shows hg
  exact shows_negate ⟨hshows.proper, Nat.le_of_succ_le hshows.rank, hshows.lexemes⟩ _

/-- What a frame holds up to a conjunction shows everything behind the last disjunction. -/
theorem IsProper.conjunction (h : fr.IsProper) (hf : fr.conjunction? = some f) :
    f.Shows 2 (fr.conjuncts.elim [] (fun f => f.lexemes ++ [.keyword .and]) ++
      (List.replicate fr.negations (.keyword .not) ++ fr.operand.lexemes)) := by
  obtain ⟨g, hg, rfl⟩ := Option.map_eq_some_iff.mp hf
  obtain ⟨hproper, hrank, hlexemes⟩ := h.negated hg
  have hconjuncts := h.conjuncts
  cases hc : fr.conjuncts with
  | none => exact ⟨hproper, Nat.le_of_succ_le hrank, hlexemes⟩
  | some c =>
    obtain ⟨hproper', hrank'⟩ := hconjuncts c hc
    refine ⟨⟨hproper', hproper, hrank', hrank⟩, Nat.le_refl 2, ?_⟩
    simp [Formula.lexemes, hlexemes]

/-- What a frame holds as a whole shows all that it has read. -/
theorem IsProper.disjunction (h : fr.IsProper) (hf : fr.disjunction? = some f) :
    f.IsProper ∧ f.lexemes = fr.lexemes := by
  obtain ⟨g, hg, rfl⟩ := Option.map_eq_some_iff.mp hf
  obtain ⟨hproper, hrank, hlexemes⟩ := h.conjunction hg
  have halternatives := h.alternatives
  rw [lexemes, ← hlexemes]
  cases ha : fr.alternatives with
  | none => exact ⟨hproper, rfl⟩
  | some a => exact ⟨⟨halternatives a ha, hproper, hrank⟩, by simp [Formula.lexemes]⟩

end Frame

namespace Stack

/-- What has been read in front of the innermost parentheses. -/
def enclosing : List Frame → List Lexeme
  | [] => []
  | fr :: outer => enclosing outer ++ (fr.lexemes ++ [.opening])

/-- What has been read. -/
def lexemes (s : Stack) : List Lexeme := enclosing s.outer ++ s.frame.lexemes

/-- A stack that can have been read. -/
structure IsProper (s : Stack) : Prop where
  /-- the innermost parentheses -/
  frame : s.frame.IsProper
  /-- those around them, in which nothing stands in front of an operand -/
  outer : ∀ fr ∈ s.outer, fr.IsProper ∧ fr.operand = .none

variable {s s' : Stack}

/-- A joining word is taken up behind what was read. -/
theorem IsProper.connect (h : s.IsProper) (hs : s.connect l = some s') :
    s'.IsProper ∧ s'.lexemes = s.lexemes ++ [l] := by
  unfold Stack.connect at hs
  split at hs
  · -- what stands in front of `AND` is a conjunction
    obtain ⟨f, hf, hs⟩ := Option.bind_eq_some_iff.mp hs
    cases hs
    obtain ⟨hproper, hrank, hlexemes⟩ := h.frame.conjunction hf
    refine ⟨⟨⟨h.frame.alternatives, ?_, trivial⟩, h.outer⟩, ?_⟩
    · rintro _ ⟨⟩
      exact ⟨hproper, hrank⟩
    · simp [lexemes, Frame.lexemes, withFrame, Operand.lexemes, hlexemes]
  · -- what stands in front of `OR` is all
    obtain ⟨f, hf, hs⟩ := Option.bind_eq_some_iff.mp hs
    cases hs
    obtain ⟨hproper, hlexemes⟩ := h.frame.disjunction hf
    refine ⟨⟨⟨?_, by simp [withFrame], trivial⟩, h.outer⟩, ?_⟩
    · rintro _ ⟨⟩
      exact hproper
    · simp [lexemes, withFrame, Operand.lexemes, hlexemes, Frame.lexemes.eq_1 { alternatives := _ }]
  · -- `NOT` stands in front of an operand
    split at hs
    · rename_i hnone
      cases hs
      refine ⟨⟨⟨h.frame.alternatives, h.frame.conjuncts, h.frame.operand⟩, h.outer⟩, ?_⟩
      simp [lexemes, Frame.lexemes, withFrame, hnone, Operand.lexemes, List.replicate_succ']
    · cases hs
  · -- so does a parenthesis, and what stands in it is read by itself
    split at hs
    · rename_i hnone
      cases hs
      refine ⟨⟨Frame.isProper_empty, List.forall_mem_cons.mpr ⟨⟨h.frame, hnone⟩, h.outer⟩⟩, ?_⟩
      simp [lexemes, enclosing, Frame.lexemes, Operand.lexemes]
    · cases hs
  · -- all of that is an operand where the parenthesis was opened
    split at hs
    · cases hs
    · rename_i fr outer houter
      obtain ⟨f, hf, hs⟩ := Option.bind_eq_some_iff.mp hs
      cases hs
      obtain ⟨hproper, hlexemes⟩ := h.frame.disjunction hf
      have hall := h.outer
      rw [houter] at hall
      obtain ⟨⟨hframe, hnone⟩, hall⟩ := List.forall_mem_cons.mp hall
      refine ⟨⟨⟨hframe.alternatives, hframe.conjuncts, hproper, rfl⟩, hall⟩, ?_⟩
      simp [lexemes, enclosing, houter, Frame.lexemes, Operand.lexemes, Formula.lexemes, hnone,
        hlexemes]
  · cases hs

/-- **Every lexeme is put behind what has been read.** -/
theorem IsProper.step (h : s.IsProper) (hs : s.step l = some s') :
    s'.IsProper ∧ s'.lexemes = s.lexemes ++ [l] := by
  rw [Stack.step] at hs
  split at hs
  · rename_i o ho
    cases hs
    obtain ⟨hproper, hlexemes⟩ := h.frame.operand.take ho
    refine ⟨⟨⟨h.frame.alternatives, h.frame.conjuncts, hproper⟩, h.outer⟩, ?_⟩
    simp [lexemes, Frame.lexemes, withFrame, hlexemes]
  · exact h.connect hs

/-- Whatever is read is taken up in order. -/
theorem IsProper.run (h : s.IsProper) (hs : ls.foldlM Stack.step s = some s') :
    s'.IsProper ∧ s'.lexemes = s.lexemes ++ ls := by
  induction ls generalizing s with
  | nil =>
    cases hs
    exact ⟨h, (List.append_nil _).symm⟩
  | cons l ls ih =>
    obtain ⟨t, ht, hs⟩ := Option.bind_eq_some_iff.mp hs
    obtain ⟨hproper, hlexemes⟩ := h.step ht
    obtain ⟨hproper', hlexemes'⟩ := ih hproper hs
    refine ⟨hproper', ?_⟩
    rw [hlexemes', hlexemes, List.append_assoc]
    rfl

end Stack

/-- **What is read is a formula of the grammar that looks like the lexemes.** -/
theorem lexemes_of_parse (h : parse ls = some f) : f.IsProper ∧ f.lexemes = ls := by
  obtain ⟨s, hs, hf⟩ := Option.bind_eq_some_iff.mp h
  obtain ⟨hproper, hlexemes⟩ := Stack.IsProper.run ⟨Frame.isProper_empty, by simp⟩ hs
  rw [Stack.formula?] at hf
  split at hf
  · rename_i houter
    obtain ⟨hf, hshown⟩ := hproper.frame.disjunction hf
    refine ⟨hf, hshown.trans ?_⟩
    simpa [Stack.lexemes, Stack.enclosing, houter, Frame.lexemes, Operand.lexemes] using hlexemes
  · cases hf

/-! ## What a formula looks like is read as it -/

/-- Where an operand can stand the formula is read as one. -/
def ReadsOperand (f : Formula) : Prop :=
  ∀ s : Stack, s.frame.operand = .none → ∃ o, o.formula? = some f ∧
    f.lexemes.foldlM Stack.step s = some (s.withFrame { s.frame with operand := o })

/-- Behind negations the formula is read. -/
def ReadsNegation (f : Formula) : Prop :=
  ∀ s : Stack, s.frame.operand = .none → ∃ fr,
    f.lexemes.foldlM Stack.step s = some (s.withFrame fr) ∧
    fr.negated? = some (Frame.negate f s.frame.negations) ∧
      fr.conjuncts = s.frame.conjuncts ∧ fr.alternatives = s.frame.alternatives

/-- Behind `OR` the formula is read. -/
def ReadsConjunction (f : Formula) : Prop :=
  ∀ (s : Stack) (a : Option Formula), s.frame = { alternatives := a } → ∃ fr,
    f.lexemes.foldlM Stack.step s = some (s.withFrame fr) ∧
    fr.conjunction? = some f ∧ fr.alternatives = a

/-- Behind a parenthesis the formula is read. -/
def ReadsDisjunction (f : Formula) : Prop :=
  ∀ outer, ∃ fr, f.lexemes.foldlM Stack.step ⟨{}, outer⟩ = some ⟨fr, outer⟩ ∧
    fr.disjunction? = some f

/-- The formula is read wherever it can stand. -/
structure Readable (f : Formula) : Prop where
  /-- behind a parenthesis -/
  disjunction : ReadsDisjunction f
  /-- behind `OR` -/
  conjunction : 2 ≤ f.rank → ReadsConjunction f
  /-- behind `NOT` -/
  negation : 3 ≤ f.rank → ReadsNegation f

/-- What is read as a conjunction is read as a disjunction. -/
theorem ReadsConjunction.disjunction (h : ReadsConjunction f) : ReadsDisjunction f := by
  intro outer
  obtain ⟨fr, hrun, hf, ha⟩ := h ⟨{}, outer⟩ none rfl
  refine ⟨fr, hrun, ?_⟩
  rw [Frame.disjunction?, hf, ha]
  rfl

/-- What is read as a negation is read as a conjunction. -/
theorem ReadsNegation.conjunction (h : ReadsNegation f) : ReadsConjunction f := by
  intro s a hs
  obtain ⟨fr, hrun, hf, hc, ha⟩ := h s (by rw [hs])
  rw [hs] at hf hc ha
  refine ⟨fr, hrun, ?_, ha⟩
  rw [Frame.conjunction?, hf, hc]
  rfl

/-- What is read as an operand is read as a negation. -/
theorem ReadsOperand.negation (h : ReadsOperand f) : ReadsNegation f := by
  intro s hs
  obtain ⟨o, hf, hrun⟩ := h s hs
  exact ⟨_, hrun, by rw [Frame.negated?, hf]; rfl, rfl, rfl⟩

/-- A conjunction that is read as one can be read. -/
theorem Readable.of_conjunction (h : ReadsConjunction f) (hrank : f.rank = 2) : Readable f :=
  ⟨h.disjunction, fun _ => h, fun hf => by omega⟩

/-- A negation that is read as one can be read. -/
theorem Readable.of_negation (h : ReadsNegation f) : Readable f :=
  ⟨h.conjunction.disjunction, fun _ => h.conjunction, fun _ => h⟩

/-- Behind a complete operand there is a connective. -/
theorem take_of_complete {o : Operand} (ho : o.formula? = some f)
    (hl : Progress.take {} l = none) : o.take l = none := by
  cases o with
  | none => cases ho
  | whole g =>
    cases g with
    | nested g => simp [Operand.take, hl]
    | _ => rfl
  | begun front ls p =>
    rw [Operand.formula?] at ho
    split at ho
    · rename_i hp
      subst hp
      simp [Operand.take, hl]
    · cases ho

/-- A connective is read behind a complete operand. -/
theorem step_of_complete {s : Stack} (ho : s.frame.operand.formula? = some f)
    (hl : Progress.take {} l = none) : s.step l = s.connect l := by
  rw [Stack.step, take_of_complete ho hl]

/-- A frame with a conjunction has an operand. -/
theorem Frame.exists_operand_of_conjunction {fr : Frame} (h : fr.conjunction? = some f) :
    ∃ g, fr.operand.formula? = some g := by
  obtain ⟨_, h, -⟩ := Option.map_eq_some_iff.mp h
  obtain ⟨g, h, -⟩ := Option.map_eq_some_iff.mp h
  exact ⟨g, h⟩

/-- A frame with a disjunction has an operand. -/
theorem Frame.exists_operand_of_disjunction {fr : Frame} (h : fr.disjunction? = some f) :
    ∃ g, fr.operand.formula? = some g := by
  obtain ⟨_, h, -⟩ := Option.map_eq_some_iff.mp h
  exact Frame.exists_operand_of_conjunction h

/-- Reading goes lexeme by lexeme. -/
theorem run_cons {s t : Stack} (h : s.step l = some t) (ls : List Lexeme) :
    (l :: ls).foldlM Stack.step s = ls.foldlM Stack.step t := by
  rw [List.foldlM_cons, h]
  rfl

/-- Reading on from where reading has come to. -/
theorem run_append {s t : Stack} (h : ls.foldlM Stack.step s = some t) (ls' : List Lexeme) :
    (ls ++ ls').foldlM Stack.step s = ls'.foldlM Stack.step t := by
  rw [List.foldlM_append, h]
  rfl

/-- Lexemes that belong to a predicate are put behind it. -/
theorem run_begun {front : Option Formula} {done : List Lexeme} {p q : Progress} {s : Stack}
    (hs : s.frame.operand = .begun front done p) (h : ls.foldlM Progress.take p = some q) :
    ls.foldlM Stack.step s =
      some (s.withFrame { s.frame with operand := .begun front (done ++ ls) q }) := by
  induction ls generalizing done p s with
  | nil =>
    cases h
    rw [List.append_nil, ← hs]
    rfl
  | cons l ls ih =>
    obtain ⟨p', hp', h⟩ := Option.bind_eq_some_iff.mp h
    have hstep : s.step l =
        some (s.withFrame { s.frame with operand := .begun front (done ++ [l]) p' }) := by
      rw [Stack.step, hs, Operand.take, hp']
      rfl
    rw [run_cons hstep, ih rfl h, List.append_assoc]
    rfl

/-- A predicate is read behind an operand that takes its first lexeme. -/
theorem run_whole (front : Option Formula) {s : Stack} (h : IsWhole ls)
    (htake : ∀ l ∈ ls.head?, ∀ p, Progress.take {} l = some p →
      s.frame.operand.take l = some (.begun front [l] p)) :
    ∃ o : Operand, o.formula? = some (Operand.predicate front ls) ∧
      ls.foldlM Stack.step s = some (s.withFrame { s.frame with operand := o }) := by
  obtain ⟨hne, hrun⟩ := h
  obtain ⟨l, ls, rfl⟩ := List.exists_cons_of_ne_nil hne
  obtain ⟨p, hp, hrun⟩ := Option.bind_eq_some_iff.mp hrun
  have hstep : s.step l = some (s.withFrame { s.frame with operand := .begun front [l] p }) := by
    rw [Stack.step, htake l rfl p hp]
  refine ⟨.begun front (l :: ls) {}, by rw [Operand.formula?, if_pos rfl], ?_⟩
  rw [run_cons hstep]
  exact run_begun (s := s.withFrame { s.frame with operand := .begun front [l] p }) rfl hrun

/-- What stands in parentheses is read as an operand. -/
theorem run_nested {s : Stack} (h : ReadsDisjunction f) (hs : s.frame.operand = .none)
    (rest : List Lexeme) :
    (Lexeme.opening :: (f.lexemes ++ .closing :: rest)).foldlM Stack.step s =
      rest.foldlM Stack.step (s.withFrame { s.frame with operand := .whole (.nested f) }) := by
  have hopen : s.step .opening = some ⟨{}, s.frame :: s.outer⟩ := by
    rw [Stack.step, hs]
    simp [Operand.take, Lexeme.isAhead, Stack.connect, hs]
  obtain ⟨fr, hrun, hf⟩ := h (s.frame :: s.outer)
  obtain ⟨g, hg⟩ := Frame.exists_operand_of_disjunction hf
  have hclose : Stack.step ⟨fr, s.frame :: s.outer⟩ .closing =
      some (s.withFrame { s.frame with operand := .whole (.nested f) }) := by
    rw [step_of_complete hg rfl, Stack.connect]
    simp [hf, Stack.withFrame]
  rw [run_cons hopen, run_append hrun, run_cons hclose]

/-- A comparison is read as an operand. -/
theorem readsOperand_simple (h : (Formula.simple ls).IsProper) : ReadsOperand (.simple ls) := by
  intro s hs
  obtain ⟨hwhole, hahead⟩ := h
  refine run_whole none hwhole fun l hl p hp => ?_
  have hne : l ≠ .condition := by
    rintro rfl
    cases hp
  rw [hs, Operand.take, hahead l hl, if_neg Bool.false_ne_true, hp]
  · rfl
  · exact hne

/-- Whatever is read as a disjunction is read as an operand in brackets. -/
theorem readsOperand_nested (h : ReadsDisjunction f) : ReadsOperand (.nested f) :=
  fun _ hs => ⟨_, rfl, run_nested h hs []⟩

/-- A closed formula with whole lexemes behind it is read as an operand. -/
theorem readsOperand_compound (h : ReadsDisjunction f) (hclosed : f.isClosed)
    (hwhole : IsWhole ls) : ReadsOperand (.compound f ls) := by
  intro s hs
  obtain ⟨o, ho, hrun⟩ := run_whole (some f)
    (s := s.withFrame { s.frame with operand := .whole (.nested f) }) hwhole fun l _ p hp => by
      simp [Stack.withFrame, Operand.take, hclosed, hp]
  exact ⟨o, ho, (run_nested h hs ls).trans hrun⟩

/-- A negation of what is read as a negation is read as one. -/
theorem readsNegation_not (h : ReadsNegation f) : ReadsNegation (.not f) := by
  intro s hs
  have hstep : s.step (.keyword .not) =
      some (s.withFrame { s.frame with negations := s.frame.negations + 1 }) := by
    rw [Stack.step, hs]
    simp [Operand.take, Lexeme.isAhead, Stack.connect, hs]
  obtain ⟨fr, hrun, hf, hc, ha⟩ :=
    h (s.withFrame { s.frame with negations := s.frame.negations + 1 }) hs
  refine ⟨fr, ?_, ?_, hc, ha⟩
  · rw [Formula.lexemes, run_cons hstep]
    exact hrun
  · rw [hf]
    exact congrArg some (Frame.negate_not f _)

/-- A conjunction is read with its right side binding more closely. -/
theorem readsConjunction_and (hf : ReadsConjunction f) (hg : ReadsNegation g) :
    ReadsConjunction (.and f g) := by
  intro s a hs
  obtain ⟨fr, hrun, hfr, ha⟩ := hf s a hs
  obtain ⟨e, he⟩ := Frame.exists_operand_of_conjunction hfr
  have hstep : (s.withFrame fr).step (.keyword .and) =
      some (s.withFrame { alternatives := a, conjuncts := some f }) := by
    rw [step_of_complete he rfl, Stack.connect]
    simp [Stack.withFrame, hfr, ha]
  obtain ⟨fr', hrun', hfr', hc, ha'⟩ :=
    hg (s.withFrame { alternatives := a, conjuncts := some f }) rfl
  refine ⟨fr', ?_, ?_, ha'⟩
  · rw [Formula.lexemes, run_append hrun, run_cons hstep]
    exact hrun'
  · rw [Frame.conjunction?, hfr', hc]
    rfl

/-- A disjunction is read with its right side binding more closely. -/
theorem readsDisjunction_or (hf : ReadsDisjunction f) (hg : ReadsConjunction g) :
    ReadsDisjunction (.or f g) := by
  intro outer
  obtain ⟨fr, hrun, hfr⟩ := hf outer
  obtain ⟨e, he⟩ := Frame.exists_operand_of_disjunction hfr
  have hstep : Stack.step ⟨fr, outer⟩ (.keyword .or) =
      some ⟨{ alternatives := some f }, outer⟩ := by
    rw [step_of_complete he rfl, Stack.connect]
    simp [Stack.withFrame, hfr]
  obtain ⟨fr', hrun', hfr', ha⟩ := hg ⟨{ alternatives := some f }, outer⟩ (some f) rfl
  refine ⟨fr', ?_, ?_⟩
  · rw [Formula.lexemes, run_append hrun, run_cons hstep]
    exact hrun'
  · rw [Frame.disjunction?, hfr', ha]
    rfl

/-- A formula of the grammar is read wherever it can stand. -/
theorem readable (h : f.IsProper) : Readable f := by
  induction f with
  | simple ls => exact .of_negation (readsOperand_simple h).negation
  | compound f ls ih =>
    obtain ⟨hf, hclosed, hwhole⟩ := h
    exact .of_negation (readsOperand_compound (ih hf).disjunction hclosed hwhole).negation
  | condition =>
    have hcondition : ReadsOperand .condition := by
      intro s hs
      refine ⟨.whole .condition, rfl, ?_⟩
      rw [Formula.lexemes, List.foldlM_cons, Stack.step, hs]
      rfl
    exact .of_negation hcondition.negation
  | nested f ih => exact .of_negation (readsOperand_nested (ih h).disjunction).negation
  | not f ih => exact .of_negation (readsNegation_not ((ih h.1).negation h.2))
  | and f g ihf ihg =>
    obtain ⟨hf, hg, hrankf, hrankg⟩ := h
    exact .of_conjunction
      (readsConjunction_and ((ihf hf).conjunction hrankf) ((ihg hg).negation hrankg)) rfl
  | or f g ihf ihg =>
    obtain ⟨hf, hg, hrank⟩ := h
    -- behind `OR` and `NOT` a disjunction stands in parentheses only, and then it is nested
    have hor := readsDisjunction_or (ihf hf).disjunction ((ihg hg).conjunction hrank)
    exact ⟨hor, by simp [Formula.rank], by simp [Formula.rank]⟩

/-- **A formula of the grammar is read from what it looks like.** -/
theorem parse_lexemes (h : f.IsProper) : parse f.lexemes = some f := by
  obtain ⟨fr, hrun, hf⟩ := (readable h).disjunction []
  rw [parse, hrun]
  exact hf

/-- **Lexemes have one formula at most.** -/
theorem parse_eq_some_iff : parse ls = some f ↔ f.IsProper ∧ f.lexemes = ls :=
  ⟨lexemes_of_parse, fun h => h.2 ▸ parse_lexemes h.1⟩

end Tabula.Predicate
