import Tabula.Proofs.Sql.Passing

/-!
# Quotations, comments of a line and casts

The constructs in which no placeholder is looked for, each told by its text and by what stands
behind it. One that the text does not close reaches to its end. The scan passes over all of them,
and it does not matter to the text around a quotation what is quoted.

* `Construct`: the constructs, without the scan.
* `Construct.passes`: they are passed over.
* `cut_quotation`: a quotation in front of any text.
* `constructs_pass`: all of it together.
-/

namespace Tabula

namespace Sql

variable {cs rest text content : List Char} {mark : Char}

/-! ## Constructs -/

/-- A content with the mark that it is quoted in doubled. -/
def doubled (mark : Char) (content : List Char) : List Char :=
  content.flatMap fun c => if c = mark then [mark, mark] else [c]

/-- A content in quotation marks. -/
def quotation (mark : Char) (content : List Char) : List Char :=
  mark :: (doubled mark content ++ [mark])

/-- What opens and closes a dollar quotation with a tag. -/
def dollarMark (tag : List Char) : List Char := '$' :: tag ++ ['$']

/-- A construct that a text stands behind. -/
inductive Construct : List Char → List Char → Prop where
  /-- a quotation, the marks inside of which are doubled; a mark behind it would be one of them -/
  | quoted {mark : Char} {rest : List Char} (hmark : isQuote mark) (content : List Char)
    (hrest : rest.head? ≠ some mark) : Construct (quotation mark content) rest
  /-- a comment with the end of its line -/
  | line {text : List Char} (rest : List Char) (htext : '\n' ∉ text) :
    Construct ('-' :: '-' :: text ++ ['\n']) rest
  /-- a dollar quotation; it ends where its mark first occurs again -/
  | dollar {tag text : List Char} (rest : List Char) (htag : IsTag tag)
    (hfirst : ∀ i < text.length, ¬dollarMark tag <+: (text ++ dollarMark tag).drop i) :
    Construct (dollarMark tag ++ text ++ dollarMark tag) rest
  /-- a cast, with as much of the name behind it as one likes -/
  | cast {name : List Char} (rest : List Char) (hname : ∀ c ∈ name, isNameChar c) :
    Construct (':' :: ':' :: name) rest
  /-- a quotation that is left open -/
  | openQuoted {mark : Char} {text : List Char} (hmark : isQuote mark)
    (hopen : ∀ content rest, rest.head? ≠ some mark →
      text ≠ doubled mark content ++ mark :: rest) : Construct (mark :: text) []
  /-- a comment in the last line -/
  | openLine {text : List Char} (htext : '\n' ∉ text) : Construct ('-' :: '-' :: text) []
  /-- a dollar quotation that is left open -/
  | openDollar {tag text : List Char} (htag : IsTag tag) (hopen : ¬dollarMark tag <:+: text) :
    Construct (dollarMark tag ++ text) []

/-! ## Quotations -/

theorem doubled_cons_self (mark : Char) (content : List Char) :
    doubled mark (mark :: content) = mark :: mark :: doubled mark content := by
  simp [doubled]

theorem doubled_cons_of_ne {c : Char} (h : c ≠ mark) (content : List Char) :
    doubled mark (c :: content) = c :: doubled mark content := by
  simp [doubled, h]

/-- **A quotation in front of any text** is kept by characters, and the text is cut as if it stood
alone. If it begins with the mark, that is no matter: the mark opens a quotation again. -/
theorem cut_quotation (hmark : isQuote mark) (content rest : List Char) :
    Piece.cut (quotation mark content ++ rest) =
      left (quotation mark content) ++ Piece.cut rest := by
  have hbody : (Region.quoted mark).cut (doubled mark content ++ mark :: rest) =
      left (doubled mark content ++ [mark]) ++ Piece.cut rest := by
    induction content with
    | nil => exact cut_quoted_mark hmark rest
    | cons c content ih =>
      by_cases hc : c = mark
      · subst hc
        rw [doubled_cons_self, List.cons_append, List.cons_append, cut_quoted_mark hmark,
          cut_quote hmark, ih]
        rfl
      · rw [doubled_cons_of_ne hc, List.cons_append, cut_quoted_of_ne hc, ih]
        rfl
  rw [quotation, List.cons_append, List.append_assoc, List.singleton_append, cut_quote hmark, hbody]
  rfl

theorem quotedBody_doubled (content : List Char) (hrest : rest.head? ≠ some mark) :
    quotedBody mark (doubled mark content ++ mark :: rest) =
      (doubled mark content ++ [mark], rest) := by
  induction content with
  | nil =>
    cases rest with
    | nil => rfl
    | cons d rest =>
      have hd : d ≠ mark := fun heq => hrest (congrArg some heq)
      change quotedBody mark (mark :: d :: rest) = _
      rw [quotedBody, if_pos rfl, if_neg hd]
      rfl
  | cons c content ih =>
    by_cases hc : c = mark
    · subst hc
      rw [doubled_cons_self, List.cons_append, List.cons_append, quotedBody, if_pos rfl, if_pos rfl,
        ih]
      rfl
    · rw [doubled_cons_of_ne hc, List.cons_append]
      obtain ⟨d, tail, htail⟩ : ∃ d tail, doubled mark content ++ mark :: rest = d :: tail :=
        List.exists_cons_of_ne_nil (by simp)
      rw [htail, quotedBody, if_neg hc, ← htail, ih]
      rfl

/-- A quotation that the scan finds an end of has doubled marks up to there. -/
theorem doubled_of_quotedBody (h : (quotedBody mark cs).2 ≠ []) :
    (∃ content, (quotedBody mark cs).1 = doubled mark content ++ [mark]) ∧
      (quotedBody mark cs).2.head? ≠ some mark := by
  fun_induction quotedBody mark cs with
  | case1 => exact absurd rfl h
  | case2 c => exact absurd rfl h
  | case3 cs ih =>
    obtain ⟨⟨content, hcontent⟩, hrest⟩ := ih h
    refine ⟨⟨mark :: content, ?_⟩, hrest⟩
    rw [doubled_cons_self, Span.prepend, hcontent]
    rfl
  | case4 d cs hd => exact ⟨⟨[], rfl⟩, fun heq => hd (Option.some.inj heq)⟩
  | case5 c d cs hc ih =>
    obtain ⟨⟨content, hcontent⟩, hrest⟩ := ih h
    refine ⟨⟨c :: content, ?_⟩, hrest⟩
    rw [doubled_cons_of_ne hc, Span.prepend, hcontent]
    rfl

theorem quotedBody_of_open (hopen : ∀ content rest, rest.head? ≠ some mark →
    cs ≠ doubled mark content ++ mark :: rest) : quotedBody mark cs = (cs, []) := by
  have hwhole := whole_quotedBody mark cs
  rw [Span.whole] at hwhole
  have hnil : (quotedBody mark cs).2 = [] := by
    refine Decidable.byContradiction fun hne => ?_
    obtain ⟨⟨content, hcontent⟩, hrest⟩ := doubled_of_quotedBody hne
    refine hopen content _ hrest ?_
    rw [hcontent, List.append_assoc] at hwhole
    exact hwhole.symm
  rw [hnil, List.append_nil] at hwhole
  exact Prod.ext hwhole hnil

/-! ## Comments of a line -/

theorem lineBody_of_notMem (h : '\n' ∉ text) (rest : List Char) :
    lineBody (text ++ '\n' :: rest) = (text ++ ['\n'], rest) := by
  induction text with
  | nil => rfl
  | cons c text ih =>
    have hc : c ≠ '\n' := (List.ne_of_not_mem_cons h).symm
    rw [List.cons_append, lineBody, if_neg hc, ih (List.not_mem_of_not_mem_cons h)]
    rfl

theorem lineBody_of_open (h : '\n' ∉ text) : lineBody text = (text, []) := by
  induction text with
  | nil => rfl
  | cons c text ih =>
    have hc : c ≠ '\n' := (List.ne_of_not_mem_cons h).symm
    rw [lineBody, if_neg hc, ih (List.not_mem_of_not_mem_cons h)]
    rfl

/-! ## Dollar quotations -/

theorem closedBody_of_first {closer : List Char}
    (h : ∀ i < text.length, ¬closer <+: (text ++ closer).drop i) (rest : List Char) :
    closedBody closer (text ++ closer ++ rest) = (text ++ closer, rest) := by
  induction text with
  | nil => exact closedBody_closer closer rest
  | cons c text ih =>
    have hc : ¬closer.isPrefixOf (c :: (text ++ closer ++ rest)) := by
      rw [List.isPrefixOf_iff_prefix]
      intro hc
      -- it would lie within the text up to its end
      have hlength : closer.length ≤ (c :: (text ++ closer)).length := by
        simp only [List.length_cons, List.length_append]
        omega
      exact h 0 (Nat.zero_lt_succ _)
        (List.prefix_of_prefix_length_le hc (List.prefix_append (c :: (text ++ closer)) rest)
          hlength)
    have htext : ∀ i < text.length, ¬closer <+: (text ++ closer).drop i := fun i hi =>
      h (i + 1) (Nat.succ_lt_succ hi)
    rw [List.cons_append, List.cons_append, closedBody, if_neg hc, ih htext]
    rfl

theorem closedBody_of_open {closer : List Char} (h : ¬closer <:+: text) :
    closedBody closer text = (text, []) := by
  induction text with
  | nil => rfl
  | cons c text ih =>
    have hc : ¬closer.isPrefixOf (c :: text) := fun hc =>
      h (List.isPrefixOf_iff_prefix.mp hc).isInfix
    have htext : ¬closer <:+: text := fun ht => h (ht.trans (List.suffix_cons c text).isInfix)
    rw [closedBody, if_neg hc, ih htext]
    rfl

theorem passes_dollar {tag body : List Char} (htag : IsTag tag)
    (h : closedBody (dollarMark tag) (body ++ rest) = (body, rest)) :
    Passes (dollarMark tag ++ body) rest := by
  have htext : dollarMark tag ++ body = '$' :: (tag ++ '$' :: body) := by simp [dollarMark]
  rw [htext]
  refine .of_first ?_
  rw [List.append_assoc, List.cons_append, Piece.first, htag.dollarTag?_eq]
  change Piece.kept (dollarMark tag) (closedBody (dollarMark tag) (body ++ rest)) = _
  rw [h, Piece.kept, htext]

/-! ## Constructs -/

/-- **The scan passes over every construct.** -/
theorem Construct.passes {stretch : List Char} (h : Construct stretch rest) :
    Passes stretch rest := by
  cases h with
  | quoted hmark content hrest =>
    refine .of_first ?_
    rw [first_quote hmark, List.append_assoc, List.singleton_append,
      quotedBody_doubled content hrest]
    rfl
  | line rest htext =>
    refine .of_first ?_
    change Piece.first '-' ('-' :: (_ ++ ['\n'] ++ rest)) = _
    rw [first_line, List.append_assoc, List.singleton_append, lineBody_of_notMem htext]
    rfl
  | dollar rest htag hfirst =>
    rw [List.append_assoc]
    exact passes_dollar htag (closedBody_of_first hfirst rest)
  | cast rest hname =>
    refine Passes.append [':', ':'] (.of_first rfl) (passes_of_plain fun c hc => ?_)
    exact isPlain_of_isNameChar (hname c hc)
  | openQuoted hmark hopen =>
    refine .of_first ?_
    rw [List.append_nil, first_quote hmark, quotedBody_of_open hopen]
    rfl
  | openLine htext =>
    refine .of_first ?_
    rw [List.append_nil, first_line, lineBody_of_open htext]
    rfl
  | openDollar htag hopen =>
    refine passes_dollar htag ?_
    rw [List.append_nil]
    exact closedBody_of_open hopen

/-! ## The text around a construct -/

/-- **Constructs are copied, and no placeholder is found in them.** Where nothing is open, a
construct is passed over. Content that is quoted with its marks doubled does not matter to the text
around it, which is rewritten in the same way whatever is quoted. -/
theorem constructs_pass {sql : String} {ps : List Piece} :
    (∀ stretch rest, Construct stretch rest → Finds sql.toList ps (stretch ++ rest) →
      Passes stretch rest ∧ ∀ style, Copies sql style ps stretch rest) ∧
      ∀ mark content rest, isQuote mark → Finds sql.toList ps (quotation mark content ++ rest) →
        ∀ other style, Copies
          (String.ofList (ps.flatMap Piece.source ++ quotation mark other ++ rest)) style ps
          (quotation mark other) rest := by
  refine ⟨fun stretch rest h hfinds => ⟨h.passes, h.passes.copies hfinds⟩, ?_⟩
  intro mark content rest hmark hfinds other
  have hother : Finds (ps.flatMap Piece.source ++ quotation mark other ++ rest) ps
      (quotation mark other ++ rest) := by
    rw [List.append_assoc]
    exact hfinds.change hmark _
  refine copies_of_cut ?_
  rw [String.toList_ofList, hother.cut, cut_quotation hmark]

/-- A quotation between placeholders, and another one in its place. -/
theorem constructs_pass_quotation :
    Construct (quotation '\'' "it's :b".toList) ":c".toList ∧
      Finds ":a'it''s :b':c".toList [.placeholder ['a']]
        (quotation '\'' "it's :b".toList ++ ":c".toList) ∧
      Passes (quotation '\'' "it's :b".toList) ":c".toList ∧
      Copies ":a'it''s :b':c" .dollar [.placeholder ['a']] (quotation '\'' "it's :b".toList)
        ":c".toList ∧
      Copies (String.ofList (":a".toList ++ quotation '\'' "--'".toList ++ ":c".toList)) .dollar
        [.placeholder ['a']] (quotation '\'' "--'".toList) ":c".toList := by
  have hquoted : Construct (quotation '\'' "it's :b".toList) ":c".toList :=
    .quoted rfl _ (by decide)
  have hfinds : Finds ":a'it''s :b':c".toList [.placeholder ['a']]
      (quotation '\'' "it's :b".toList ++ ":c".toList) := .single rfl
  obtain ⟨hpasses, hcopies⟩ := constructs_pass.1 _ _ hquoted hfinds
  exact ⟨hquoted, hfinds, hpasses, hcopies .dollar,
    constructs_pass.2 _ _ _ rfl hfinds "--'".toList .dollar⟩

end Sql

end Tabula
