import Tabula.Criteria.Operator
import Tabula.Sql.Named

/-!
# Regions of a statement

A text that closes every quotation and every comment that it opens leaves the scan where it found
it: what stands behind it is cut into the pieces it would be cut into by itself. `Piece.cut` are the
pieces of a text with what is left as it stands taken apart into characters, so that this can be
said by an equation.

* `isClosed`: which texts close what they open. It reads a text by regions and knows no pieces.
* `cut_closed`: such a text in front of another one.
* `cut_legible`: plain text with placeholders in it, in front of another one.
-/

namespace Tabula.Sql

/-! ## Texts that close what they open -/

/-- Where in a statement a character stands. -/
inductive Region where
  /-- outside of quotations and comments -/
  | code
  /-- in a quotation, up to the next mark of its kind -/
  | quoted (mark : Char)
  /-- in a comment that ends with the line -/
  | line
  /-- in a block comment, with so many others open around it -/
  | block (depth : Nat)

/-- A mark that opens a quotation. -/
def isQuote (c : Char) : Bool := c = '\'' || c = '"'

/-- Read from a region on, a text closes everything that is open and that it opens, and has no colon
outside. A mark that is doubled closes a quotation and opens it again. In front of a comment and in
a block comment, characters are used up by pairs. Unless `shared`, no block comment begins with
`/*` and a slash. -/
def isClosed (shared : Bool) : Region → List Char → Bool
  | .code, [] => true
  | .code, '-' :: '-' :: cs => isClosed shared .line cs
  | .code, '/' :: '*' :: cs => (shared || cs.head? ≠ some '/') && isClosed shared (.block 0) cs
  | .code, c :: cs =>
    if isQuote c then isClosed shared (.quoted c) cs
    else c ≠ ':' && isClosed shared .code cs
  | .quoted mark, c :: cs => isClosed shared (if c = mark then .code else .quoted mark) cs
  | .line, c :: cs => isClosed shared (if c = '\n' then .code else .line) cs
  | .block depth, '*' :: '/' :: cs =>
    match depth with
    | 0 => isClosed shared .code cs
    | d + 1 => isClosed shared (.block d) cs
  | .block depth, '/' :: '*' :: cs => isClosed shared (.block (depth + 1)) cs
  | .block depth, _ :: cs => isClosed shared (.block depth) cs
  | _, [] => false

/-! ## Pieces by characters -/

/-- A piece, with what is left as it stands taken apart into characters. -/
def Piece.split : Piece → List Piece
  | .verbatim text => text.map fun c => .verbatim [c]
  | .placeholder name => [.placeholder name]

/-- The pieces of a text, by characters where it is left as it stands. -/
def Piece.cut (cs : List Char) : List Piece := (scan cs).flatMap split

/-- Numbering does not see how text is split. -/
theorem flatMap_numbered_split (style : PlaceholderStyle) (names : List String) (ps : List Piece) :
    (ps.flatMap Piece.split).flatMap (Piece.numbered style names) =
      ps.flatMap (Piece.numbered style names) := by
  induction ps with
  | nil => rfl
  | cons p ps ih =>
    rw [List.flatMap_cons, List.flatMap_append, List.flatMap_cons, ih]
    cases p with
    | verbatim text =>
      congr 1
      simp [Piece.split, Piece.numbered, List.flatMap_map]
    | placeholder name => simp [Piece.split]

/-- Neither do the names of the placeholders. -/
theorem filterMap_name?_split (ps : List Piece) :
    (ps.flatMap Piece.split).filterMap Piece.name? = ps.filterMap Piece.name? := by
  induction ps with
  | nil => rfl
  | cons p ps ih =>
    rw [List.flatMap_cons, List.filterMap_append, ih]
    cases p with
    | verbatim text =>
      rw [List.filterMap_cons_none rfl, Piece.split, List.filterMap_map]
      simp [Function.comp_def, Piece.name?]
    | placeholder name => rfl

/-- Some characters that are left as they stand. -/
def left (cs : List Char) : List Piece := cs.map fun c => .verbatim [c]

@[simp] theorem left_nil : left [] = [] := rfl

@[simp] theorem left_cons (c : Char) (cs : List Char) : left (c :: cs) = .verbatim [c] :: left cs :=
  rfl

namespace Piece

@[simp] theorem cut_nil : cut [] = [] := by
  simp [cut, scan]

/-- The first piece and the rest are cut one after the other. -/
theorem cut_cons (c : Char) (cs : List Char) :
    cut (c :: cs) = (first c cs).1.split ++ cut (first c cs).2 := by
  rw [cut, scan, List.flatMap_cons]
  rfl

/-- A piece that is kept. -/
theorem cut_kept {c : Char} {cs : List Char} {opener : List Char} {body : Span}
    (h : first c cs = kept opener body) :
    cut (c :: cs) = left opener ++ (left body.1 ++ cut body.2) := by
  rw [cut_cons, h, kept, split, List.map_append, List.append_assoc]
  rfl

/-- A character that is a piece by itself. -/
theorem cut_single {c : Char} {cs : List Char} (h : first c cs = (.verbatim [c], cs)) :
    cut (c :: cs) = .verbatim [c] :: cut cs := by
  rw [cut_cons, h]
  rfl

end Piece

/-! ## Closed texts -/

/-- The text from a region on up to where it ends. -/
def Region.body : Region → List Char → Span
  | .code, cs => ([], cs)
  | .quoted mark, cs => quotedBody mark cs
  | .line, cs => lineBody cs
  | .block depth, cs => blockBody depth cs

/-- What is left from a region on, and the pieces behind it. -/
def Region.cut (region : Region) (cs : List Char) : List Piece :=
  left (region.body cs).1 ++ Piece.cut (region.body cs).2

/-- Outside of everything a text is cut into its pieces. -/
theorem Region.cut_code (cs : List Char) : Region.code.cut cs = Piece.cut cs := rfl

/-- A region that a text can be in. -/
def Region.IsProper : Region → Prop
  | .quoted mark => isQuote mark
  | _ => True

/-- A character that opens nothing is a piece by itself. -/
theorem first_eq_single {c : Char} {cs : List Char} (hquote : ¬isQuote c) (hdollar : c ≠ '$')
    (hcolon : c ≠ ':') (hline : c = '-' → cs.head? ≠ some '-')
    (hblock : c = '/' → cs.head? ≠ some '*') : Piece.first c cs = (.verbatim [c], cs) := by
  simp only [isQuote, Bool.or_eq_true, decide_eq_true_eq, not_or] at hquote
  fun_cases Piece.first c cs
  case case3 => exact absurd rfl (hline rfl)
  case case4 => exact absurd rfl (hblock rfl)
  all_goals simp_all

/-! ## One character of a region -/

/-- A quotation mark begins a quoted text. -/
theorem first_quote {mark : Char} (h : isQuote mark) (cs : List Char) :
    Piece.first mark cs = Piece.kept [mark] (quotedBody mark cs) := by
  simp only [isQuote, Bool.or_eq_true, decide_eq_true_eq] at h
  rcases h with rfl | rfl
  · exact Piece.first.eq_1 cs
  · exact Piece.first.eq_2 cs

/-- Behind a quotation mark a text is cut as inside of it. -/
theorem cut_quote {mark : Char} (h : isQuote mark) (cs : List Char) :
    Piece.cut (mark :: cs) = .verbatim [mark] :: (Region.quoted mark).cut cs :=
  Piece.cut_kept (first_quote h cs)

/-- Two dashes begin a comment. -/
theorem first_line (cs : List Char) :
    Piece.first '-' ('-' :: cs) = Piece.kept ['-', '-'] (lineBody cs) := rfl

/-- Behind two dashes a text is cut as inside of a line. -/
theorem cut_comment_line (cs : List Char) :
    Piece.cut ('-' :: '-' :: cs) = left ['-', '-'] ++ Region.line.cut cs :=
  Piece.cut_kept (first_line cs)

/-- The star of `/*` is read once more, which only matters in front of a slash. -/
theorem first_comment {cs : List Char} (h : cs.head? ≠ some '/') :
    Piece.first '/' ('*' :: cs) = Piece.kept ['/', '*'] (blockBody 0 cs) := by
  have hbody : blockBody 0 ('*' :: cs) = (blockBody 0 cs).prepend ['*'] := by
    rw [blockBody]
    · rintro tail - rfl
      exact h rfl
    · rintro tail hslash
      cases hslash
  change Piece.kept ['/'] (blockBody 0 ('*' :: cs)) = _
  rw [hbody]
  rfl

/-- Behind the opener of a block comment a text is cut as inside of it. A slash right behind would
share the star of the opener. -/
theorem cut_comment_block {cs : List Char} (h : cs.head? ≠ some '/') :
    Piece.cut ('/' :: '*' :: cs) = left ['/', '*'] ++ (Region.block 0).cut cs :=
  Piece.cut_kept (first_comment h)

/-- Inside of a quotation anything but the mark stays inside. -/
theorem cut_quoted_of_ne {mark c : Char} (h : c ≠ mark) (cs : List Char) :
    (Region.quoted mark).cut (c :: cs) = .verbatim [c] :: (Region.quoted mark).cut cs := by
  cases cs with
  | nil => simp [Region.cut, Region.body, quotedBody]
  | cons d cs =>
    simp only [Region.cut, Region.body]
    rw [quotedBody, if_neg h]
    rfl

/-- A mark closes a quotation. If it is doubled, that opens it again. -/
theorem cut_quoted_mark {mark : Char} (h : isQuote mark) (cs : List Char) :
    (Region.quoted mark).cut (mark :: cs) = .verbatim [mark] :: Piece.cut cs := by
  cases cs with
  | nil => simp [Region.cut, Region.body, quotedBody]
  | cons d cs =>
    simp only [Region.cut, Region.body]
    rw [quotedBody, if_pos rfl]
    by_cases hd : d = mark
    · subst hd
      rw [if_pos rfl, cut_quote h]
      rfl
    · rw [if_neg hd]
      rfl

/-- A line ends with its line break. -/
theorem cut_line (c : Char) (cs : List Char) :
    Region.line.cut (c :: cs) =
      .verbatim [c] :: (if c = '\n' then Region.code else .line).cut cs := by
  simp only [Region.cut, Region.body]
  rw [lineBody]
  split <;> rfl

/-- A closer leaves the innermost comment. -/
theorem cut_block_close (depth : Nat) (cs : List Char) :
    (Region.block depth).cut ('*' :: '/' :: cs) =
      left ['*', '/'] ++ (match depth with | 0 => Region.code | d + 1 => .block d).cut cs := by
  cases depth with
  | zero =>
    simp only [Region.cut, Region.body, blockBody]
    rfl
  | succ d =>
    simp only [Region.cut, Region.body, blockBody]
    rfl

/-- An opener enters one more comment. -/
theorem cut_block_open (depth : Nat) (cs : List Char) :
    (Region.block depth).cut ('/' :: '*' :: cs) =
      left ['/', '*'] ++ (Region.block (depth + 1)).cut cs := by
  simp only [Region.cut, Region.body]
  rw [blockBody]
  rfl

/-- Anything else stays inside of a block comment. -/
theorem cut_block_other {c : Char} {cs : List Char} (depth : Nat)
    (hclose : ∀ tail, c = '*' → cs = '/' :: tail → False)
    (hopen : ∀ tail, c = '/' → cs = '*' :: tail → False) :
    (Region.block depth).cut (c :: cs) = .verbatim [c] :: (Region.block depth).cut cs := by
  simp only [Region.cut, Region.body]
  rw [blockBody]
  · rfl
  · exact hclose
  · exact hopen

/-! ## Closed texts -/

/-- A text does not complete a pair that opens a comment. -/
def Apart (cs : List Char) : Prop := ∀ c ∈ cs.head?, c ≠ '-' ∧ c ≠ '*'

/-- **A text that closes what it opens is left as it stands**, and the text behind it is cut as if
it stood alone. -/
theorem cut_closed {region : Region} {cs rest : List Char} (h : isClosed false region cs)
    (hproper : region.IsProper) (hdollar : '$' ∉ cs) (hapart : Apart rest) :
    region.cut (cs ++ rest) = left cs ++ Piece.cut rest := by
  fun_induction isClosed false region cs with
  | case1 => rfl
  | case2 cs ih =>
    have := ih h trivial (by simp_all)
    rw [Region.cut_code, List.cons_append, List.cons_append, cut_comment_line, this]
    rfl
  | case3 cs ih =>
    simp only [Bool.false_or, Bool.and_eq_true, decide_eq_true_eq] at h
    have hslash : (cs ++ rest).head? ≠ some '/' := by
      cases cs with
      | nil => cases h.2
      | cons c cs => exact h.1
    have := ih h.2 trivial (by simp_all)
    rw [Region.cut_code, List.cons_append, List.cons_append, cut_comment_block hslash, this]
    rfl
  | case4 c cs _ _ hquote ih =>
    have := ih h hquote (by simp_all)
    rw [Region.cut_code, List.cons_append, cut_quote hquote, this]
    rfl
  | case5 c cs hline hblock hquote ih =>
    simp only [Bool.and_eq_true, decide_eq_true_eq] at h
    have hsingle : Piece.first c (cs ++ rest) = (.verbatim [c], cs ++ rest) := by
      refine first_eq_single hquote (List.ne_of_not_mem_cons hdollar).symm h.1 ?_ ?_
      · rintro rfl
        cases cs with
        | nil => exact fun hr => (hapart _ hr).1 rfl
        | cons d cs => simpa using hline
      · rintro rfl
        cases cs with
        | nil => exact fun hr => (hapart _ hr).2 rfl
        | cons d cs => simpa using hblock
    have := ih h.2 trivial (by simp_all)
    rw [Region.cut_code] at this
    rw [Region.cut_code, List.cons_append, Piece.cut_single hsingle, this]
    rfl
  | case6 mark c cs ih =>
    by_cases hc : c = mark
    · subst hc
      rw [if_pos rfl] at h ih
      have := ih h trivial (by simp_all)
      rw [Region.cut_code] at this
      rw [List.cons_append, cut_quoted_mark hproper, this]
      rfl
    · rw [if_neg hc] at h ih
      have := ih h hproper (by simp_all)
      rw [List.cons_append, cut_quoted_of_ne hc, this]
      rfl
  | case7 c cs ih =>
    have hline : (if c = '\n' then Region.code else .line).IsProper := by split <;> trivial
    rw [List.cons_append, cut_line, ih h hline (by simp_all)]
    rfl
  | case8 cs ih =>
    have := ih h trivial (by simp_all)
    rw [List.cons_append, List.cons_append, cut_block_close, this]
    rfl
  | case9 cs d ih =>
    have := ih h trivial (by simp_all)
    rw [List.cons_append, List.cons_append, cut_block_close, this]
    rfl
  | case10 depth cs ih =>
    have := ih h trivial (by simp_all)
    rw [List.cons_append, List.cons_append, cut_block_open, this]
    rfl
  | case11 depth c cs hclose hopen ih =>
    have hne : cs ≠ [] := by
      rintro rfl
      cases h
    have := ih h trivial (by simp_all)
    rw [List.cons_append, cut_block_other, this]
    · rfl
    · cases cs with
      | nil => exact absurd rfl hne
      | cons d cs => simpa using hclose
    · cases cs with
      | nil => exact absurd rfl hne
      | cons d cs => simpa using hopen
  | case12 => cases h

/-! ## Plain text with placeholders in it -/

/-- A character that has no meaning to the scan. -/
def isPlain (c : Char) : Bool :=
  !isQuote c && c ≠ '$' && c ≠ ':' && c ≠ '-' && c ≠ '/' && c ≠ '*'

/-- What can stand in a name is plain. -/
theorem isPlain_of_isNameChar {c : Char} (h : isNameChar c) : isPlain c := by
  have hne {d : Char} (hd : isNameChar d = false) : c ≠ d := by
    rintro rfl
    rw [h] at hd
    cases hd
  have hquote : isQuote c = false := by
    simp [isQuote, hne (d := '\'') (by decide), hne (d := '"') (by decide)]
  simp [isPlain, hquote, hne (d := '$') (by decide), hne (d := ':') (by decide),
    hne (d := '-') (by decide), hne (d := '/') (by decide), hne (d := '*') (by decide)]

/-- What a name can begin with can stand in it. -/
theorem isNameChar_of_isNameStart {c : Char} (h : isNameStart c) : isNameChar c := by
  simp only [isNameStart, isNameChar, Char.isAlphanum, Bool.or_eq_true] at h ⊢
  rcases h with h | h
  · exact .inl (.inl h)
  · exact .inr h

/-- A digit can stand in a name. -/
theorem isNameChar_of_isDigit {c : Char} (h : c.isDigit) : isNameChar c := by
  simp [isNameChar, Char.isAlphanum, h]

/-- A natural is written in digits. -/
theorem isDigit_of_mem {n : Nat} {c : Char} (h : c ∈ Nat.toDigits 10 n) : c.isDigit :=
  Nat.isDigit_of_mem_toDigits (by decide) (by decide) h

/-- An identifier consists of what can stand in a name. -/
theorem all_of_isIdentifier {cs : List Char} (h : isIdentifier cs) : ∀ c ∈ cs, isNameChar c := by
  cases cs with
  | nil => cases h
  | cons d cs =>
    simp only [isIdentifier, Bool.and_eq_true, List.all_eq_true] at h
    exact List.forall_mem_cons.mpr ⟨isNameChar_of_isNameStart h.1, h.2⟩

/-- A text does not go on with a name that stands in front of it. -/
def Bounds (cs : List Char) : Prop := ∀ c ∈ cs.head?, isNameChar c = false

instance (cs : List Char) : Decidable (Bounds cs) :=
  decidable_of_iff (cs.head?.all fun c => !isNameChar c) (by cases cs <;> simp [Bounds])

/-- Pieces can be read back in front of a text: what is left as it stands is plain, and every
placeholder is an identifier that ends there. -/
def Legible : List Piece → List Char → Prop
  | [], _ => True
  | .verbatim text :: ps, rest => (∀ c ∈ text, isPlain c) ∧ Legible ps rest
  | .placeholder name :: ps, rest =>
    isIdentifier name ∧ Bounds (ps.flatMap Piece.source ++ rest) ∧ Legible ps rest

/-- Pieces are legible in front of others if both are, the first in front of the second. -/
theorem legible_append {ps qs : List Piece} {rest : List Char} :
    Legible (ps ++ qs) rest ↔ Legible ps (qs.flatMap Piece.source ++ rest) ∧ Legible qs rest := by
  induction ps with
  | nil => simp [Legible]
  | cons p ps ih =>
    cases p with
    | verbatim text => simp [Legible, ih, and_assoc]
    | placeholder name => simp [Legible, ih, and_assoc]

/-- A plain character is a piece of its own. -/
theorem first_of_plain {c : Char} (h : isPlain c) (cs : List Char) :
    Piece.first c cs = (.verbatim [c], cs) := by
  simp only [isPlain, Bool.and_eq_true, Bool.not_eq_true', decide_eq_true_eq] at h
  obtain ⟨⟨⟨⟨⟨hquote, hdollar⟩, hcolon⟩, hline⟩, hblock⟩, -⟩ := h
  exact first_eq_single (by simp [hquote]) hdollar hcolon (fun h => absurd h hline)
    fun h => absurd h hblock

/-- Plain text is cut into its characters, whatever follows. -/
theorem cut_plain {text rest : List Char} (h : ∀ c ∈ text, isPlain c) :
    Piece.cut (text ++ rest) = left text ++ Piece.cut rest := by
  induction text with
  | nil => rfl
  | cons c text ih =>
    obtain ⟨hc, htext⟩ := List.forall_mem_cons.mp h
    rw [List.cons_append, Piece.cut_single (first_of_plain hc _), ih htext]
    rfl

/-- A name ends where its bound begins. -/
theorem takeWhile_append_of_bounds {name rest : List Char} (h : name.all isNameChar)
    (hrest : Bounds rest) : (name ++ rest).takeWhile isNameChar = name ∧
      (name ++ rest).dropWhile isNameChar = rest := by
  have hstop : rest.takeWhile isNameChar = [] ∧ rest.dropWhile isNameChar = rest := by
    cases rest with
    | nil => exact ⟨rfl, rfl⟩
    | cons c rest => simp [hrest c rfl]
  have hname : ∀ c ∈ name, isNameChar c := List.all_eq_true.mp h
  rw [List.takeWhile_append_of_pos hname, List.dropWhile_append_of_pos hname, hstop.1, hstop.2]
  exact ⟨List.append_nil name, rfl⟩

/-- A colon and an identifier are a placeholder, if something bounds the identifier. -/
theorem cut_placeholder {name rest : List Char} (h : isIdentifier name) (hrest : Bounds rest) :
    Piece.cut (':' :: name ++ rest) = .placeholder name :: Piece.cut rest := by
  cases name with
  | nil => cases h
  | cons d name =>
    simp only [isIdentifier, Bool.and_eq_true] at h
    obtain ⟨htake, hdrop⟩ := takeWhile_append_of_bounds h.2 hrest
    have hd : d ≠ ':' := by
      rintro rfl
      exact absurd h.1 (by decide)
    have hfirst : Piece.first ':' (d :: (name ++ rest)) = (.placeholder (d :: name), rest) := by
      rw [Piece.first, if_pos h.1, htake, hdrop]
      exact hd
    rw [List.cons_append, List.cons_append, Piece.cut_cons, hfirst]
    rfl

/-- **Legible pieces are read back**, and the text behind them is cut as if it stood alone. -/
theorem cut_legible {ps : List Piece} {rest : List Char} (h : Legible ps rest) :
    Piece.cut (ps.flatMap Piece.source ++ rest) = ps.flatMap Piece.split ++ Piece.cut rest := by
  induction ps with
  | nil => rfl
  | cons p ps ih =>
    rw [List.flatMap_cons, List.flatMap_cons, List.append_assoc, List.append_assoc]
    cases p with
    | verbatim text =>
      rw [← ih h.2]
      exact cut_plain h.1
    | placeholder name =>
      rw [← ih h.2.2]
      exact cut_placeholder h.1 h.2.1

end Tabula.Sql
