/-!
# Statements in pieces

`Piece.scan` cuts the text of a statement into pieces. A piece is either a named placeholder, a
colon with an identifier behind it, or text that is to be left as it stands: a quoted text, a
comment, a dollar-quoted text, the `::` of a cast, or any other single character. What is left open
at the end of the text reaches to the end.

Every function that finds the end of a piece answers a `Span`, the part that belongs to the piece
and the rest. Nothing is lost (`source_scan`): the sources of the pieces are the text.
-/

namespace Tabula.Sql

/-- A text cut in two. -/
abbrev Span := List Char × List Char

namespace Span

/-- The text that was cut. -/
def whole (s : Span) : List Char := s.1 ++ s.2

/-- More text in front. -/
def prepend (cs : List Char) (s : Span) : Span := (cs ++ s.1, s.2)

@[simp] theorem whole_mk (a b : List Char) : whole (a, b) = a ++ b := rfl

@[simp] theorem whole_prepend (cs : List Char) (s : Span) :
    (s.prepend cs).whole = cs ++ s.whole := by
  simp [prepend, whole]

end Span

/-- A character that an identifier can begin with. -/
def isNameStart (c : Char) : Bool := c.isAlpha || c = '_'

/-- A character inside an identifier. -/
def isNameChar (c : Char) : Bool := c.isAlphanum || c = '_'

/-! ## Where a piece ends -/

/-- The text behind an opening quotation mark up to the closing one (`State::SingleQuoted`). A
doubled mark is a mark inside. -/
def quotedBody (q : Char) : List Char → Span
  | [] => ([], [])
  | [c] => ([c], [])
  | c :: d :: cs =>
    if c = q then
      if d = q then (quotedBody q cs).prepend [c, d] else ([c], d :: cs)
    else (quotedBody q (d :: cs)).prepend [c]

/-- The text of a line with its end (`State::LineComment`). -/
def lineBody : List Char → Span
  | [] => ([], [])
  | c :: cs => if c = '\n' then ([c], cs) else (lineBody cs).prepend [c]

/-- The text up to the end of a block comment, where `depth` comments are open around it. A pair of
characters that opens or closes a comment is used up by it. The depth has no bound here;
`State::BlockComment` counts in 32 bits, which is enough below eight gigabytes of text. -/
def blockBody : Nat → List Char → Span
  | _, [] => ([], [])
  | depth, '*' :: '/' :: cs =>
    match depth with
    | 0 => (['*', '/'], cs)
    | d + 1 => (blockBody d cs).prepend ['*', '/']
  | depth, '/' :: '*' :: cs => (blockBody (depth + 1) cs).prepend ['/', '*']
  | depth, c :: cs => (blockBody depth cs).prepend [c]

/-- The tag behind a dollar sign, and the text after the dollar sign that ends it
(`try_start_dollar_quote`). A tag does not begin with a digit. -/
def dollarTag? (cs : List Char) : Option (List Char × List Char) :=
  let tag := cs.takeWhile isNameChar
  match cs.dropWhile isNameChar with
  | '$' :: rest => if tag.head?.any Char.isDigit then none else some (tag, rest)
  | _ => none

/-- The text up to the first occurrence of a closing mark, the mark included
(`State::DollarQuoted`). -/
def closedBody (closer : List Char) : List Char → Span
  | [] => ([], [])
  | c :: cs =>
    if closer.isPrefixOf (c :: cs) then
      ((c :: cs).take closer.length, (c :: cs).drop closer.length)
    else (closedBody closer cs).prepend [c]

@[simp] theorem whole_quotedBody (q : Char) (cs : List Char) : (quotedBody q cs).whole = cs := by
  fun_induction quotedBody q cs <;> simp_all

@[simp] theorem whole_lineBody (cs : List Char) : (lineBody cs).whole = cs := by
  fun_induction lineBody cs <;> simp_all

@[simp] theorem whole_blockBody (depth : Nat) (cs : List Char) :
    (blockBody depth cs).whole = cs := by
  fun_induction blockBody depth cs <;> simp_all

@[simp] theorem whole_closedBody (closer cs : List Char) :
    (closedBody closer cs).whole = cs := by
  fun_induction closedBody closer cs <;> simp_all

/-- The tag, its two dollar signs and the rest are the text. -/
theorem dollarTag?_eq_some {cs tag rest : List Char} (h : dollarTag? cs = some (tag, rest)) :
    cs = tag ++ '$' :: rest := by
  simp only [dollarTag?] at h
  split at h
  · split at h
    · cases h
    · simp only [Option.some.injEq, Prod.mk.injEq] at h
      rename_i hd _
      rw [← h.1, ← h.2, ← hd, List.takeWhile_append_dropWhile]
  · cases h

/-! ## Pieces -/

/-- A piece of a statement. -/
inductive Piece where
  /-- text that is left as it stands -/
  | verbatim (text : List Char)
  /-- a named placeholder -/
  | placeholder (name : List Char)
  deriving DecidableEq

namespace Piece

/-- The text of a piece. -/
def source : Piece → List Char
  | .verbatim text => text
  | .placeholder name => ':' :: name

/-- The piece that begins with some characters, and the rest. -/
def kept (opener : List Char) (body : Span) : Piece × List Char :=
  (.verbatim (opener ++ body.1), body.2)

/-- The piece at the start of a text that begins with a given character, and the rest
(`State::Normal`). -/
def first (c : Char) (cs : List Char) : Piece × List Char :=
  match c, cs with
  | '\'', _ => kept ['\''] (quotedBody '\'' cs)
  | '"', _ => kept ['"'] (quotedBody '"' cs)
  | '-', '-' :: _ => kept ['-'] (lineBody cs)
  | '/', '*' :: _ => kept ['/'] (blockBody 0 cs)
  | '$', _ =>
    match dollarTag? cs with
    | some (tag, rest) =>
      kept ('$' :: tag ++ ['$']) (closedBody ('$' :: tag ++ ['$']) rest)
    | none => (.verbatim ['$'], cs)
  | ':', ':' :: rest => (.verbatim [':', ':'], rest)
  | ':', d :: rest =>
    if isNameStart d then
      (.placeholder (d :: rest.takeWhile isNameChar), rest.dropWhile isNameChar)
    else (.verbatim [':'], d :: rest)
  | c, cs => (.verbatim [c], cs)

/-- The first piece and the rest are the text. -/
theorem source_first (c : Char) (cs : List Char) :
    (first c cs).1.source ++ (first c cs).2 = c :: cs := by
  have quoted := whole_quotedBody
  have line := whole_lineBody cs
  have block := whole_blockBody 0 cs
  have closed := whole_closedBody
  simp only [Span.whole] at quoted line block closed
  fun_cases first c cs
  case case5 tag rest h =>
    have := closed ('$' :: tag ++ ['$']) rest
    simp_all [kept, source, dollarTag?_eq_some h]
  all_goals simp_all [kept, source]

/-- The first piece holds a character at least. -/
theorem source_first_ne_nil (c : Char) (cs : List Char) : (first c cs).1.source ≠ [] := by
  fun_cases first c cs <;> simp_all [kept, source]

/-- The rest is shorter than the text. -/
theorem length_first (c : Char) (cs : List Char) : (first c cs).2.length ≤ cs.length := by
  have h := congrArg List.length (source_first c cs)
  have := List.length_pos_iff.mpr (source_first_ne_nil c cs)
  simp only [List.length_append, List.length_cons] at h
  omega

/-- The pieces of a text. -/
def scan : List Char → List Piece
  | [] => []
  | c :: cs => (first c cs).1 :: scan (first c cs).2
termination_by cs => cs.length
decreasing_by
  have := length_first c cs
  simp only [List.length_cons]
  omega

/-- The sources of the pieces are the text. -/
theorem source_scan (cs : List Char) : (scan cs).flatMap source = cs := by
  fun_induction scan cs with
  | case1 => rfl
  | case2 c cs ih => rw [List.flatMap_cons, ih, source_first]

/-- The name of a placeholder. -/
def name? : Piece → Option String
  | .verbatim _ => none
  | .placeholder name => some (String.ofList name)

end Piece

end Tabula.Sql
