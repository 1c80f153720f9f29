import Tabula.Proofs.Sql.Passing

/-!
# Block comments

Read by pairs, a comment opens with `/*` and ends with the `*/` that is its own. The scan goes back
to the star of the opening pair, so that `/*/` is a comment by itself. Any other comment is passed
over.

* `Closes`: where a comment ends, by pairs of characters.
* `IsComment`: a comment, which may be left open by the text.
* `passes_comment_iff`: which comments are passed over.
-/

namespace Tabula

namespace Sql

variable {body rest cs : List Char} {depth : Nat}

/-! ## Comments by pairs -/

/-- Read from inside a comment, with so many others open around it, a text ends where the outermost
of them is closed. Each pair that opens or closes a comment uses up both of its characters. -/
inductive Closes : Nat → List Char → Prop where
  /-- the outermost is closed -/
  | last : Closes 0 ['*', '/']
  /-- an inner one is closed -/
  | inner {depth : Nat} {cs : List Char} (h : Closes depth cs) :
    Closes (depth + 1) ('*' :: '/' :: cs)
  /-- one more is opened -/
  | opening {depth : Nat} {cs : List Char} (h : Closes (depth + 1) cs) :
    Closes depth ('/' :: '*' :: cs)
  /-- a character that begins no pair -/
  | other {depth : Nat} {c : Char} {cs : List Char}
    (hclose : ¬(c = '*' ∧ cs.head? = some '/')) (hopen : ¬(c = '/' ∧ cs.head? = some '*'))
    (h : Closes depth cs) : Closes depth (c :: cs)

theorem Closes.ne_nil (h : Closes depth body) : body ≠ [] := by
  cases h <;> exact List.cons_ne_nil _ _

theorem Closes.blockBody_eq (h : Closes depth body) (rest : List Char) :
    blockBody depth (body ++ rest) = (body, rest) := by
  induction h with
  | last => rfl
  | inner h ih =>
    rw [List.cons_append, List.cons_append, blockBody, ih]
    rfl
  | opening h ih =>
    rw [List.cons_append, List.cons_append, blockBody, ih]
    rfl
  | @other depth c cs hclose hopen h ih =>
    -- the text goes on, so the next character is one of the comment
    have hhead : (cs ++ rest).head? = cs.head? := List.head?_append_of_ne_nil _ h.ne_nil
    rw [List.cons_append, blockBody, ih]
    · rfl
    · rintro tail rfl htail
      rw [htail] at hhead
      exact hclose ⟨rfl, hhead.symm⟩
    · rintro tail rfl htail
      rw [htail] at hhead
      exact hopen ⟨rfl, hhead.symm⟩

/-- A comment that the scan finds an end of is closed there. -/
theorem closes_of_blockBody (h : (blockBody depth cs).2 ≠ []) :
    Closes depth (blockBody depth cs).1 := by
  fun_induction blockBody depth cs with
  | case1 => exact absurd rfl h
  | case2 cs => exact .last
  | case3 cs d ih => exact .inner (ih h)
  | case4 depth cs ih => exact .opening (ih h)
  | case5 depth c cs hclose hopen ih =>
    have hwhole := whole_blockBody depth cs
    rw [Span.whole] at hwhole
    have hcloses := ih h
    have hhead : ((blockBody depth cs).1 ++ (blockBody depth cs).2).head? =
        (blockBody depth cs).1.head? := List.head?_append_of_ne_nil _ hcloses.ne_nil
    rw [hwhole] at hhead
    refine .other ?_ ?_ hcloses
    · rintro ⟨rfl, hslash⟩
      obtain ⟨tail, htail⟩ := List.head?_eq_some_iff.mp (hhead.trans hslash)
      exact hclose tail rfl htail
    · rintro ⟨rfl, hstar⟩
      obtain ⟨tail, htail⟩ := List.head?_eq_some_iff.mp (hhead.trans hstar)
      exact hopen tail rfl htail

/-- A text stands behind a comment, the inside of which is given with the pair that closes it. A
comment that nothing closes is all there is. -/
def IsComment (body rest : List Char) : Prop :=
  Closes 0 body ∨ rest = [] ∧ ∀ front, front <+: body → ¬Closes 0 front

theorem IsComment.blockBody_eq (h : IsComment body rest) :
    blockBody 0 (body ++ rest) = (body, rest) := by
  rcases h with h | ⟨rfl, hopen⟩
  · exact h.blockBody_eq rest
  · have hwhole := whole_blockBody 0 body
    rw [Span.whole] at hwhole
    have hnil : (blockBody 0 body).2 = [] :=
      Decidable.byContradiction fun hne => hopen _ ⟨_, hwhole⟩ (closes_of_blockBody hne)
    rw [hnil, List.append_nil] at hwhole
    rw [List.append_nil, ← hnil, ← Prod.eta (blockBody 0 body), hwhole]

theorem IsComment.head?_append (h : IsComment body rest) : (body ++ rest).head? = body.head? := by
  rcases h with h | ⟨rfl, -⟩
  · exact List.head?_append_of_ne_nil _ h.ne_nil
  · rw [List.append_nil]

/-! ## The scan at a comment -/

theorem first_slash (cs : List Char) :
    Piece.first '/' ('*' :: '/' :: cs) = (.verbatim ['/', '*', '/'], cs) := by
  simp [Piece.first, Piece.kept, blockBody]

theorem IsComment.passes (h : IsComment body rest) (hslash : body.head? ≠ some '/') :
    Passes ('/' :: '*' :: body) rest := by
  refine .of_first ?_
  rw [List.cons_append, first_comment (h.head?_append ▸ hslash), h.blockBody_eq]
  rfl

/-- Behind `/*/`, nothing is open. -/
theorem passes_slash_iff (body rest : List Char) :
    Passes ('/' :: '*' :: '/' :: body) rest ↔ Passes body rest := by
  constructor
  · rintro ⟨ps, hps, hnames⟩
    have hne : ps ≠ [] := by
      rintro rfl
      have := congrArg List.length hps.source
      simp at this
      omega
    obtain ⟨tail, rfl, htail⟩ := hps.of_cons (first_slash (body ++ rest)) hne
    exact ⟨tail, htail, (List.forall_mem_cons.mp hnames).2⟩
  · exact Passes.append ['/', '*', '/'] (.of_first (first_slash _))

/-- **A comment is passed over, and so copied, exactly if it does not begin with `/*/`**, or what is
behind these three characters is itself passed over: they are taken for a comment, and nothing is
open behind them. -/
theorem passes_comment_iff {sql : String} {ps : List Piece} (hcomment : IsComment body rest)
    (hfinds : Finds sql.toList ps ('/' :: '*' :: body ++ rest)) :
    (Passes ('/' :: '*' :: body) rest ↔ (body.head? = some '/' → Passes body.tail rest)) ∧
      (Passes ('/' :: '*' :: body) rest →
        ∀ style, Copies sql style ps ('/' :: '*' :: body) rest) ∧
      (body.head? = some '/' →
        Finds sql.toList (ps ++ [.verbatim ['/', '*', '/']]) (body.tail ++ rest)) := by
  refine ⟨?_, fun h => h.copies hfinds, fun hslash => ?_⟩
  · by_cases hslash : body.head? = some '/'
    · obtain ⟨tail, rfl⟩ := List.head?_eq_some_iff.mp hslash
      rw [passes_slash_iff]
      exact ⟨fun h _ => h, fun h => h rfl⟩
    · exact ⟨fun _ h => absurd h hslash, fun _ => hcomment.passes hslash⟩
  · obtain ⟨tail, rfl⟩ := List.head?_eq_some_iff.mp hslash
    exact hfinds.trans (.single (first_slash _))

/-- A comment with another one in it, in front of a placeholder. -/
theorem passes_comment_iff_nested :
    IsComment " :b /* ' */ */".toList ":a".toList ∧
      Finds "/* :b /* ' */ */:a".toList [] ('/' :: '*' :: " :b /* ' */ */".toList ++ ":a".toList) ∧
      Passes "/* :b /* ' */ */".toList ":a".toList ∧
      Copies "/* :b /* ' */ */:a" .dollar [] "/* :b /* ' */ */".toList ":a".toList := by
  have hcloses : Closes 0 (blockBody 0 " :b /* ' */ */:a".toList).1 :=
    closes_of_blockBody (by decide)
  have hcomment : IsComment " :b /* ' */ */".toList ":a".toList := .inl hcloses
  have hfinds := Finds.refl "/* :b /* ' */ */:a".toList
  have hpasses := (passes_comment_iff hcomment hfinds).1.mpr fun h => by simp at h
  exact ⟨hcomment, hfinds, hpasses, (passes_comment_iff hcomment hfinds).2.1 hpasses .dollar⟩

/-- A comment that is not passed over: a name inside it is listed. -/
theorem names_comment_slash :
    IsComment "/ :a */".toList " SELECT 1".toList ∧
      Finds "/*/ :a */ SELECT 1".toList [] ('/' :: '*' :: "/ :a */".toList ++ " SELECT 1".toList) ∧
      (NamedStatement.compile "/*/ :a */ SELECT 1" .question).names = ["a"] ∧
      ¬Copies "/*/ :a */ SELECT 1" .question [] "/*/ :a */".toList " SELECT 1".toList ∧
      ¬Passes "/*/ :a */".toList " SELECT 1".toList := by
  have hcloses : Closes 0 (blockBody 0 "/ :a */ SELECT 1".toList).1 :=
    closes_of_blockBody (by decide)
  have hfinds := Finds.refl "/*/ :a */ SELECT 1".toList
  have hnames : (NamedStatement.compile "/*/ :a */ SELECT 1" .question).names = ["a"] := by
    decide +kernel
  have hcopies : ¬Copies "/*/ :a */ SELECT 1" .question [] "/*/ :a */".toList
      " SELECT 1".toList := by
    intro h
    have hnone : placeholderNames ([] ++ Piece.scan " SELECT 1".toList) = [] := by decide +kernel
    have := h.names
    rw [hnames, hnone] at this
    cases this
  exact ⟨.inl hcloses, hfinds, hnames, hcopies, fun h => hcopies (h.copies hfinds .question)⟩

end Sql

end Tabula
