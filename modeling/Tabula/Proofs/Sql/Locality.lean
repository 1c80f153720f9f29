import Tabula.Proofs.Sql.Region

/-!
# How far the scan looks ahead

A piece is found by its own text and by how the text behind it begins. So it is found again in front
of another text, if that one does not go on with what the piece could take in.

* `quotedBody_append` and so on: where a region ends does not depend on what is behind its end.
* `first_of_successor`: a piece in front of another text, if that is a `Successor`.
-/

namespace Tabula.Sql

variable {cs rest : List Char}

/-! ## Ends of regions

A region that is closed ends there in front of any text. One that is not closed has nothing behind
it. -/

/-- Where a quotation ends does not depend on what follows, unless that begins with the mark. -/
theorem quotedBody_append {mark : Char} (hnil : (quotedBody mark cs).2 = [] → rest = [])
    (hmark : rest.head? = some mark → (quotedBody mark cs).2.head? = some mark) :
    quotedBody mark ((quotedBody mark cs).1 ++ rest) = ((quotedBody mark cs).1, rest) := by
  fun_induction quotedBody mark cs with
  | case1 =>
    rw [hnil rfl]
    rfl
  | case2 c =>
    rw [hnil rfl]
    rfl
  | case3 cs ih =>
    rw [Span.prepend, List.append_assoc, List.cons_append, List.cons_append, List.nil_append,
      quotedBody, if_pos rfl, if_pos rfl, ih hnil hmark]
    rfl
  | case4 d cs hd =>
    cases rest with
    | nil => rfl
    | cons e rest =>
      have he : e ≠ mark := by
        rintro rfl
        exact hd (Option.some.inj (hmark rfl))
      rw [List.singleton_append, quotedBody, if_pos rfl, if_neg he]
  | case5 c d cs hc ih =>
    have ih := ih hnil hmark
    rw [Span.prepend, List.append_assoc, List.singleton_append]
    cases hrest : (quotedBody mark (d :: cs)).1 ++ rest with
    | nil =>
      obtain ⟨hbody, rfl⟩ := List.append_eq_nil_iff.mp hrest
      rw [hbody]
      rfl
    | cons e es =>
      rw [quotedBody, if_neg hc, ← hrest, ih]
      rfl

/-- Where a line ends does not depend on what follows. -/
theorem lineBody_append (hnil : (lineBody cs).2 = [] → rest = []) :
    lineBody ((lineBody cs).1 ++ rest) = ((lineBody cs).1, rest) := by
  fun_induction lineBody cs with
  | case1 =>
    rw [hnil rfl]
    rfl
  | case2 cs => rfl
  | case3 c cs hc ih =>
    rw [Span.prepend, List.append_assoc, List.singleton_append, lineBody, if_neg hc, ih hnil]
    rfl

/-- A block comment has something in it if something follows its opener. -/
theorem eq_nil_of_blockBody {depth : Nat} (h : (blockBody depth cs).1 = []) : cs = [] := by
  fun_cases blockBody depth cs with
  | case1 => rfl
  | _ => simp_all [blockBody, Span.prepend]

/-- Where a block comment ends does not depend on what follows. -/
theorem blockBody_append {depth : Nat} (hnil : (blockBody depth cs).2 = [] → rest = []) :
    blockBody depth ((blockBody depth cs).1 ++ rest) = ((blockBody depth cs).1, rest) := by
  fun_induction blockBody depth cs with
  | case1 =>
    rw [hnil rfl]
    rfl
  | case2 cs => rfl
  | case3 cs d ih =>
    rw [Span.prepend, List.append_assoc, List.cons_append, List.cons_append, List.nil_append,
      blockBody, ih hnil]
    rfl
  | case4 depth cs ih =>
    rw [Span.prepend, List.append_assoc, List.cons_append, List.cons_append, List.nil_append,
      blockBody, ih hnil]
    rfl
  | case5 depth c cs hclose hopen ih =>
    -- the next character is the one that has been there
    have hnext {d : Char} {tail : List Char} (h : (blockBody depth cs).1 ++ rest = d :: tail) :
        ∃ tail, cs = d :: tail := by
      have hwhole := whole_blockBody depth cs
      rw [Span.whole] at hwhole
      rcases hbody : (blockBody depth cs).1 with _ | ⟨e, body⟩
      · have hcs := eq_nil_of_blockBody hbody
        subst hcs
        rw [hnil rfl] at h
        cases h
      · rw [hbody, List.cons_append] at h hwhole
        cases h
        exact ⟨_, hwhole.symm⟩
    rw [Span.prepend, List.append_assoc, List.singleton_append, blockBody, ih hnil]
    · rfl
    · rintro tail rfl h
      obtain ⟨tail, rfl⟩ := hnext h
      exact hclose tail rfl rfl
    · rintro tail rfl h
      obtain ⟨tail, rfl⟩ := hnext h
      exact hopen tail rfl rfl

/-- What closes a region closes it where it is met at once. -/
theorem closedBody_closer (closer rest : List Char) :
    closedBody closer (closer ++ rest) = (closer, rest) := by
  rcases h : closer ++ rest with _ | ⟨c, cs⟩
  · obtain ⟨rfl, rfl⟩ := List.append_eq_nil_iff.mp h
    rfl
  · have hprefix : closer.isPrefixOf (c :: cs) :=
      List.isPrefixOf_iff_prefix.mpr (h ▸ List.prefix_append closer rest)
    rw [closedBody, if_pos hprefix, ← h, List.take_left, List.drop_left]

/-- What is closed holds the whole closer. -/
theorem length_le_of_closedBody {closer : List Char} (h : (closedBody closer cs).2 ≠ []) :
    closer.length ≤ (closedBody closer cs).1.length := by
  fun_induction closedBody closer cs with
  | case1 => exact absurd rfl h
  | case2 c cs hcloser =>
    have := (List.isPrefixOf_iff_prefix.mp hcloser).length_le
    simp only [List.length_take, Nat.min_eq_left this, Nat.le_refl]
  | case3 c cs hcloser ih =>
    have := ih h
    rw [Span.prepend, List.length_append]
    omega

/-- Where a dollar quotation ends does not depend on what follows. -/
theorem closedBody_append {closer : List Char} (hnil : (closedBody closer cs).2 = [] → rest = []) :
    closedBody closer ((closedBody closer cs).1 ++ rest) = ((closedBody closer cs).1, rest) := by
  fun_induction closedBody closer cs with
  | case1 =>
    rw [hnil rfl]
    rfl
  | case2 c cs hcloser =>
    rw [← List.prefix_iff_eq_take.mp (List.isPrefixOf_iff_prefix.mp hcloser)]
    exact closedBody_closer closer rest
  | case3 c cs hcloser ih =>
    have hwhole := whole_closedBody closer cs
    rw [Span.whole] at hwhole
    -- an earlier end would lie within the text up to the end that was found
    have hnot : ¬closer.isPrefixOf (c :: ((closedBody closer cs).1 ++ rest)) := by
      rw [List.isPrefixOf_iff_prefix] at hcloser ⊢
      rw [← List.cons_append]
      intro h
      refine hcloser ?_
      rw [← hwhole, ← List.cons_append]
      by_cases hend : (closedBody closer cs).2 = []
      · rw [hend]
        rwa [hnil hend] at h
      · have hlength := length_le_of_closedBody hend
        have hfront : closer <+: c :: (closedBody closer cs).1 :=
          List.prefix_of_prefix_length_le h (List.prefix_append _ _)
            (Nat.le_succ_of_le hlength)
        exact hfront.trans (List.prefix_append _ _)
    rw [Span.prepend, List.append_assoc, List.singleton_append, closedBody, if_neg hnot, ih hnil]
    rfl

/-! ## Tags -/

/-- A tag of a dollar quotation: nothing, or an identifier. -/
def IsTag (tag : List Char) : Prop := tag = [] ∨ isIdentifier tag

/-- What is found for a tag is one. -/
theorem isTag_of_dollarTag? {tag : List Char} (h : dollarTag? cs = some (tag, rest)) :
    IsTag tag := by
  simp only [dollarTag?] at h
  split at h
  · split at h
    · cases h
    · rename_i hdigit
      cases h
      have hall := List.all_takeWhile (p := isNameChar) (l := cs)
      revert hdigit hall
      cases cs.takeWhile isNameChar with
      | nil => exact fun _ _ => .inl rfl
      | cons c tag =>
        intro hdigit hall
        refine .inr ?_
        simp only [List.all_cons, Bool.and_eq_true] at hall
        simp only [List.head?_cons, Option.any_some] at hdigit
        have hc : isNameStart c := by
          have := hall.1
          simp only [isNameChar, Char.isAlphanum] at this
          simpa [isNameStart, hdigit] using this
        simp [isIdentifier, hc, hall.2]
  · cases h

/-- A name does not begin with a digit. -/
theorem isDigit_of_isNameStart {c : Char} (h : isNameStart c) : c.isDigit = false := by
  simp only [isNameStart, Bool.or_eq_true, decide_eq_true_eq] at h
  rcases h with h | rfl
  · have hlarge : '9'.val < c.val := by
      rcases Bool.or_eq_true_iff.mp h with hupper | hlower
      · exact UInt32.lt_of_lt_of_le (by decide) (of_decide_eq_true hupper).1
      · exact UInt32.lt_of_lt_of_le (by decide)
          (of_decide_eq_true (Bool.and_eq_true_iff.mp hlower).1)
    refine Bool.eq_false_iff.mpr fun hdigit => UInt32.not_le.mpr hlarge ?_
    exact of_decide_eq_true (Bool.and_eq_true_iff.mp hdigit).2
  · rfl

/-- A tag consists of what can stand in a name. -/
theorem IsTag.all {tag : List Char} (h : IsTag tag) : ∀ c ∈ tag, isNameChar c := by
  rcases h with rfl | h
  · exact List.forall_mem_nil _
  · exact all_of_isIdentifier h

/-- A tag with its dollar sign is found. -/
theorem IsTag.dollarTag?_eq {tag : List Char} (h : IsTag tag) (rest : List Char) :
    dollarTag? (tag ++ '$' :: rest) = some (tag, rest) := by
  have hends : Bounds ('$' :: rest) := by
    rintro c hc
    cases hc
    rfl
  obtain ⟨htake, hdrop⟩ := takeWhile_append_of_bounds (List.all_eq_true.mpr h.all) hends
  have hdigit : tag.head?.any Char.isDigit = false := by
    rcases h with rfl | h
    · rfl
    · cases tag with
      | nil => rfl
      | cons c tag =>
        simp only [isIdentifier, Bool.and_eq_true] at h
        exact isDigit_of_isNameStart h.1
  simp only [dollarTag?, htake, hdrop, hdigit]
  rfl

/-- What cannot be in a tag is not in what a tag and its end are. -/
theorem IsTag.notMem {tag : List Char} (h : IsTag tag) {c : Char} (hname : isNameChar c = false)
    (hdollar : c ≠ '$') : c ∉ tag ++ ['$'] := by
  rw [List.mem_append, List.mem_singleton]
  rintro (hc | hc)
  · rw [h.all c hc] at hname
    cases hname
  · exact hdollar hc

/-- None is found exactly if the text begins with no tag and its dollar sign. -/
theorem dollarTag?_eq_none_iff :
    dollarTag? cs = none ↔ ∀ tag, IsTag tag → ¬(tag ++ ['$'] <+: cs) := by
  constructor
  · rintro h tag htag ⟨rest, rfl⟩
    rw [List.append_assoc, List.singleton_append, htag.dollarTag?_eq] at h
    cases h
  · intro h
    rcases hcs : dollarTag? cs with _ | ⟨tag, rest⟩
    · rfl
    · refine absurd ?_ (h tag (isTag_of_dollarTag? hcs))
      exact ⟨rest, by rw [dollarTag?_eq_some hcs, List.append_assoc, List.singleton_append]⟩

/-- A dollar sign on its own has no tag behind it. -/
theorem dollarTag?_eq_none_of_first {c : Char}
    (h : Piece.first c cs = (.verbatim ['$'], rest)) : dollarTag? rest = none := by
  have hsource := Piece.source_first c cs
  rw [h] at hsource
  obtain ⟨rfl, rfl⟩ : '$' = c ∧ rest = cs := List.cons.inj hsource
  rcases htag : dollarTag? rest with _ | ⟨tag, body⟩
  · rfl
  · rw [Piece.first, htag] at h
    simp [Piece.kept] at h

/-! ## Pieces -/

/-- The first piece begins with the first character. -/
theorem source_eq_cons {c : Char} {p : Piece} (h : Piece.first c cs = (p, rest)) :
    ∃ tail, p.source = c :: tail := by
  have hsource := Piece.source_first c cs
  have hne := Piece.source_first_ne_nil c cs
  rw [h] at hsource hne
  obtain ⟨d, tail, hd⟩ := List.exists_cons_of_ne_nil hne
  rw [hd] at hsource
  exact ⟨tail, by rw [hd, (List.cons.inj hsource).1]⟩

/-- A text can stand behind a piece in the place of another one: it goes on like it, or with a mark,
and opens no dollar quotation where none was. -/
structure Successor (p : Piece) (rest rest' : List Char) : Prop where
  /-- the end of the text stays the end -/
  nil : rest = [] → rest' = []
  /-- it goes on with the same character or with a mark -/
  head : ∀ c, rest'.head? = some c → rest.head? = some c ∨ c = '?' ∨ c = '$'
  /-- behind a dollar sign that stands for itself, there is no end of a tag -/
  dollar : p = .verbatim ['$'] → dollarTag? rest' = none

/-- A character that begins something stands behind the piece only if it has stood there. -/
theorem Successor.head?_eq {p : Piece} {rest' : List Char} (h : Successor p rest rest') {c : Char}
    (hc : rest'.head? = some c) (hmark : c ≠ '?') (hdollar : c ≠ '$') : rest.head? = some c := by
  rcases h.head c hc with h | h | h
  · exact h
  · exact absurd h hmark
  · exact absurd h hdollar

/-- A name that ends in front of the one text ends in front of the other. -/
theorem Successor.bounds {p : Piece} {rest' : List Char} (h : Successor p rest rest')
    (hrest : Bounds rest) : Bounds rest' := by
  intro c hc
  rcases h.head c hc with hsame | rfl | rfl
  · exact hrest c hsame
  · rfl
  · rfl

/-- Behind a name something bounds it. -/
theorem bounds_dropWhile (cs : List Char) : Bounds (cs.dropWhile isNameChar) := by
  intro c hc
  have := List.head?_dropWhile_not isNameChar cs
  rw [Option.mem_def.mp hc] at this
  simpa using this

/-- The text of a comment goes on with its star. -/
theorem exists_blockBody_star (cs : List Char) :
    ∃ body, (blockBody 0 ('*' :: cs)).1 = '*' :: body := by
  have hwhole := whole_blockBody 0 ('*' :: cs)
  rw [Span.whole] at hwhole
  rcases hbody : (blockBody 0 ('*' :: cs)).1 with _ | ⟨c, body⟩
  · cases eq_nil_of_blockBody hbody
  · rw [hbody, List.cons_append] at hwhole
    exact ⟨body, by rw [(List.cons.inj hwhole).1]⟩

/-- **A piece is found again in front of another text.** -/
theorem first_of_successor {c : Char} {p : Piece} {cs' rest' : List Char}
    (hfirst : Piece.first c cs = (p, rest)) (h : Successor p rest rest')
    (hcs : c :: cs' = p.source ++ rest') : Piece.first c cs' = (p, rest') := by
  -- by what begins with the character; the regions first, each up to its own end
  fun_cases Piece.first c cs
  case case1 =>
    cases hfirst
    obtain rfl : cs' = (quotedBody '\'' cs).1 ++ rest' := (List.cons.inj hcs).2
    rw [Piece.first.eq_1, quotedBody_append h.nil fun hc => h.head?_eq hc (by decide) (by decide)]
    rfl
  case case2 =>
    cases hfirst
    obtain rfl : cs' = (quotedBody '"' cs).1 ++ rest' := (List.cons.inj hcs).2
    rw [Piece.first.eq_2, quotedBody_append h.nil fun hc => h.head?_eq hc (by decide) (by decide)]
    rfl
  case case3 cs =>
    cases hfirst
    obtain rfl : cs' = (lineBody ('-' :: cs)).1 ++ rest' := (List.cons.inj hcs).2
    have hbody := lineBody_append h.nil
    have hstart : (lineBody ('-' :: cs)).1 = '-' :: (lineBody cs).1 := rfl
    rw [hstart, List.cons_append] at hbody ⊢
    change Piece.kept ['-'] (lineBody _) = _
    rw [hbody, ← hstart]
    rfl
  case case4 cs =>
    cases hfirst
    obtain rfl : cs' = (blockBody 0 ('*' :: cs)).1 ++ rest' := (List.cons.inj hcs).2
    have hbody := blockBody_append h.nil
    obtain ⟨body, hstart⟩ := exists_blockBody_star cs
    rw [hstart, List.cons_append] at hbody ⊢
    change Piece.kept ['/'] (blockBody 0 _) = _
    rw [hbody, ← hstart]
    rfl
  case case5 tag rest htag =>
    rw [Piece.first, htag] at hfirst
    cases hfirst
    obtain rfl : cs' = tag ++ '$' :: ((closedBody ('$' :: tag ++ ['$']) rest).1 ++ rest') := by
      have := (List.cons.inj hcs).2
      simpa using this
    rw [Piece.first, (isTag_of_dollarTag? htag).dollarTag?_eq]
    change Piece.kept _ (closedBody _ _) = _
    rw [closedBody_append h.nil]
    rfl
  case case6 htag =>
    -- a dollar sign that begins no tag
    rw [Piece.first, htag] at hfirst
    cases hfirst
    obtain rfl : cs' = rest' := (List.cons.inj hcs).2
    rw [Piece.first, h.dollar rfl]
  case case7 rest =>
    cases hfirst
    obtain rfl : cs' = ':' :: rest' := (List.cons.inj hcs).2
    rfl
  case case8 d ds hcast hd =>
    -- a placeholder
    rw [Piece.first, if_pos hd] at hfirst
    · cases hfirst
      obtain rfl : cs' = d :: (ds.takeWhile isNameChar ++ rest') := (List.cons.inj hcs).2
      obtain ⟨htake, hdrop⟩ :=
        takeWhile_append_of_bounds List.all_takeWhile (h.bounds (bounds_dropWhile ds))
      rw [Piece.first, if_pos hd, htake, hdrop]
      rintro rfl
      exact absurd hd (by decide)
    · exact hcast
  case case9 d ds hcast hd =>
    -- a colon that begins nothing
    rw [Piece.first, if_neg hd] at hfirst
    · cases hfirst
      obtain rfl : cs' = rest' := (List.cons.inj hcs).2
      cases cs' with
      | nil => rfl
      | cons e es =>
        have he : isNameStart e = false ∧ e ≠ ':' := by
          rcases h.head e rfl with hsame | rfl | rfl
          · cases hsame
            exact ⟨by simpa using hd, fun heq => hcast heq⟩
          · exact ⟨rfl, by decide⟩
          · exact ⟨rfl, by decide⟩
        rw [Piece.first, if_neg (by simp [he.1])]
        exact he.2
    · exact hcast
  case case10 hsingle hdouble hdollar hline hblock _ hname =>
    -- any other character
    rw [Piece.first] at hfirst
    · cases hfirst
      obtain rfl : cs' = rest' := (List.cons.inj hcs).2
      -- what would make more of the character than a piece has not stood behind it
      have hnext {d : Char} (hd : cs'.head? = some d) (hmark : d ≠ '?') (hsign : d ≠ '$') :
          ∃ tail, cs = d :: tail := List.head?_eq_some_iff.mp (h.head?_eq hd hmark hsign)
      by_cases hcolon : c = ':'
      · subst hcolon
        cases cs with
        | nil =>
          rw [h.nil rfl]
          rfl
        | cons d tail => exact (hname d tail rfl rfl).elim
      · have hquote : ¬isQuote c := by
          simp only [isQuote, Bool.or_eq_true, decide_eq_true_eq]
          exact fun h => h.elim hsingle hdouble
        refine first_eq_single hquote hdollar hcolon (fun hc hd => ?_) fun hc hd => ?_
        · obtain ⟨tail, rfl⟩ := hnext hd (by decide) (by decide)
          exact hline tail hc rfl
        · obtain ⟨tail, rfl⟩ := hnext hd (by decide) (by decide)
          exact hblock tail hc rfl
    all_goals assumption

end Tabula.Sql
