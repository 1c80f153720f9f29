import Tabula.Proofs.Sql.Passing

/-!
# Numbered text is settled

Read again, a text with its placeholders numbered is cut into the same pieces. Where a placeholder
was, there are a mark and digits, each of them a piece by itself. So to number it again, with
whatever marks, does nothing.

A mark that is a dollar sign could be taken for the end of a tag that is open in front of it. That
is why the text must not have one of its own then.

* `Piece.settled`: what a piece is read as again.
* `scan_numbered`: the pieces of a numbered text.
* `compile_compile`: numbering twice.
-/

namespace Tabula

namespace Sql

variable {style : PlaceholderStyle} {names : List String} {cs rest : List Char} {ps : List Piece}

/-- What is read where a piece has been numbered. -/
def Piece.settled (style : PlaceholderStyle) (names : List String) : Piece → List Piece
  | .verbatim text => [.verbatim text]
  | .placeholder name => left (numbered style names (.placeholder name))

theorem name?_of_mem_settled {p q : Piece} (h : q ∈ p.settled style names) : q.name? = none := by
  cases p with
  | verbatim text =>
    cases List.mem_singleton.mp h
    rfl
  | placeholder name => exact name?_of_mem_left h

/-! ## What stands behind a piece -/

/-- A numbered text begins as the text does, or with a mark. -/
theorem head?_numbered {c : Char}
    (h : ((Piece.scan rest).flatMap (Piece.numbered style names)).head? = some c) :
    rest.head? = some c ∨ c = '?' ∨ c = '$' := by
  cases rest with
  | nil => simp [Piece.scan] at h
  | cons d rest =>
    rcases hfirst : Piece.first d rest with ⟨p, back⟩
    obtain ⟨tail, hp⟩ := source_eq_cons hfirst
    rw [Piece.scan, hfirst, List.flatMap_cons] at h
    cases p with
    | verbatim text =>
      have htext : text = d :: tail := hp
      rw [htext] at h
      exact .inl h
    | placeholder name =>
      cases style with
      | question => exact .inr (.inl (Option.some.inj h).symm)
      | dollar => exact .inr (.inr (Option.some.inj h).symm)

/-- Up to the first question mark, a numbered text is the text. -/
theorem prefix_of_prefix_numbered {tag : List Char} (hmark : '?' ∉ tag)
    (h : tag <+: ps.flatMap (Piece.numbered .question names)) :
    tag <+: ps.flatMap Piece.source := by
  induction ps generalizing tag with
  | nil => exact h
  | cons p ps ih =>
    rw [List.flatMap_cons] at h ⊢
    cases p with
    | verbatim text =>
      rcases prefix_append_cases h with h | ⟨more, rfl, hmore⟩
      · exact h.trans (List.prefix_append _ _)
      · refine (List.prefix_append_right_inj text).mpr (ih ?_ hmore)
        exact fun h => hmark (List.mem_append_right text h)
    | placeholder name =>
      cases tag with
      | nil => exact List.nil_prefix
      | cons c tag =>
        obtain ⟨rfl, -⟩ := List.cons_prefix_cons.mp h
        exact absurd List.mem_cons_self hmark

/-- No tag ends in a text with numbered placeholders where none has ended before. -/
theorem dollarTag?_numbered (h : dollarTag? rest = none) :
    dollarTag? ((Piece.scan rest).flatMap (Piece.numbered .question names)) = none := by
  rw [dollarTag?_eq_none_iff] at h ⊢
  intro tag htag hprefix
  have := prefix_of_prefix_numbered (htag.notMem (by decide) (by decide)) hprefix
  rw [Piece.source_scan] at this
  exact h tag htag this

/-- A number behind a dollar sign is no tag. -/
theorem dollarTag?_toDigits (n : Nat) (cs : List Char) :
    dollarTag? (Nat.toDigits 10 n ++ cs) = none := by
  obtain ⟨d, ds, hdigits⟩ := List.exists_cons_of_ne_nil (Nat.toDigits_ne_nil (n := n) (b := 10))
  have hd : d.isDigit := isDigit_of_mem (hdigits ▸ List.mem_cons_self)
  rw [hdigits, dollarTag?_eq_none_iff]
  rintro tag (rfl | htag) hprefix
  · obtain ⟨rfl, -⟩ := List.cons_prefix_cons.mp hprefix
    exact absurd hd (by decide)
  · cases tag with
    | nil => cases htag
    | cons c tag =>
      obtain ⟨rfl, -⟩ := List.cons_prefix_cons.mp hprefix
      simp only [isIdentifier, Bool.and_eq_true] at htag
      rw [isDigit_of_isNameStart htag.1] at hd
      cases hd

/-- A mark and its number are read character by character. -/
theorem finds_numbered (name rest : List Char) :
    Finds (Piece.numbered style names (.placeholder name) ++ rest)
      (Piece.settled style names (.placeholder name)) rest := by
  have hdigits : ∀ c ∈ Nat.toDigits 10 (names.idxOf (String.ofList name) + 1), isPlain c :=
    fun c hc => isPlain_of_isNameChar (isNameChar_of_isDigit (isDigit_of_mem hc))
  have hmark : Piece.first style.mark
      (Nat.toDigits 10 (names.idxOf (String.ofList name) + 1) ++ rest) =
        (.verbatim [style.mark],
          Nat.toDigits 10 (names.idxOf (String.ofList name) + 1) ++ rest) := by
    cases style with
    | question => exact first_of_plain (by decide) _
    | dollar =>
      change Piece.first '$' _ = _
      rw [Piece.first, dollarTag?_toDigits]
      rfl
  exact .cons hmark (finds_left hdigits)

/-! ## Reading a numbered text -/

/-- **A numbered text is read as it was**, with a mark and digits for each placeholder. -/
theorem scan_numbered (h : style = .dollar → '$' ∉ cs) :
    Piece.scan ((Piece.scan cs).flatMap (Piece.numbered style names)) =
      (Piece.scan cs).flatMap (Piece.settled style names) := by
  -- by the recursion of the scan: each piece is found again in front of what is numbered behind it
  fun_induction Piece.scan cs with
  | case1 => rw [List.flatMap_nil, List.flatMap_nil, Piece.scan]
  | case2 c cs ih =>
    rcases hfirst : Piece.first c cs with ⟨p, rest⟩
    have hsource := Piece.source_first c cs
    rw [hfirst] at hsource ih
    have hrest : style = .dollar → '$' ∉ rest := fun hstyle hmem =>
      h hstyle (hsource ▸ List.mem_append_right _ hmem)
    rw [List.flatMap_cons, List.flatMap_cons, ← ih hrest]
    cases p with
    | placeholder name => exact (finds_numbered name _).scan
    | verbatim text =>
      obtain ⟨tail, rfl⟩ : ∃ tail, text = c :: tail := source_eq_cons hfirst
      refine (Finds.single (first_of_successor hfirst ?_ rfl)).scan
      refine ⟨fun hnil => ?_, fun d => head?_numbered, fun hdollar => ?_⟩
      · rw [hnil, Piece.scan, List.flatMap_nil]
      · rw [hdollar] at hfirst hsource
        cases style with
        | question => exact dollarTag?_numbered (dollarTag?_eq_none_of_first hfirst)
        | dollar => exact absurd (hsource ▸ List.mem_cons_self) (h rfl)

/-! ## Numbering twice -/

/-- **A numbered statement is settled.** It is read as the statement that was numbered, with a mark
and digits for each placeholder, so to number it again changes nothing and finds no name. If the
mark is a dollar sign, the statement must not have had one. -/
theorem compile_compile {sql : String} (h : style = .dollar → '$' ∉ sql.toList) :
    Piece.scan (NamedStatement.compile sql style).sql.toList = (Piece.scan sql.toList).flatMap
        (Piece.settled style (NamedStatement.compile sql style).names) ∧
      ∀ other, NamedStatement.compile (NamedStatement.compile sql style).sql other =
        ⟨(NamedStatement.compile sql style).sql, []⟩ := by
  have hscan : Piece.scan (NamedStatement.compile sql style).sql.toList =
      (Piece.scan sql.toList).flatMap
        (Piece.settled style (NamedStatement.compile sql style).names) := by
    rw [NamedStatement.compile, String.toList_ofList]
    exact scan_numbered h
  refine ⟨hscan, compile_of_verbatim ?_⟩
  rw [hscan]
  intro p hp
  obtain ⟨q, -, hq⟩ := List.mem_flatMap.mp hp
  exact name?_of_mem_settled hq

/-- Placeholders next to each other and to a cast. -/
theorem compile_compile_adjacent :
    '$' ∉ ":a:b::int".toList ∧
      (NamedStatement.compile ":a:b::int" .dollar).sql = "$1$2::int" ∧
      NamedStatement.compile (NamedStatement.compile ":a:b::int" .dollar).sql .question =
        ⟨(NamedStatement.compile ":a:b::int" .dollar).sql, []⟩ := by
  have hdollar : '$' ∉ ":a:b::int".toList := by decide
  exact ⟨hdollar, by decide +kernel, (compile_compile fun _ => hdollar).2 .question⟩

-- a dollar sign in front of a mark makes a quotation, and the one that has been there closes it
example : (NamedStatement.compile "$:a $$ :b" .dollar).sql = "$$1 $$ :b" := by decide +kernel
example : (NamedStatement.compile "$$1 $$ :b" .dollar).names = ["b"] := by decide +kernel

end Sql

end Tabula
