import Mathlib.Data.List.Basic
import Tabula.Sql.Piece

/-!
# Lexemes of a predicate

The text of a predicate is cut into lexemes: keywords, words, operators, quotations and parentheses;
blanks and comments stand between them. A lexeme ends where the next one begins, so what a text is
cut into can be said from its end on.

* `lex`: the lexemes of a text that closes what it opens.
* `lexFrom_append`: a text in front of another one.
* `lex_word`, `lex_symbol`: a word or an operator in front of a text that does not go on with it.
-/

namespace Tabula.Predicate

/-! ## Lexemes -/

/-- A word with a part in the grammar. -/
inductive Keyword where
  /-- joins two conditions of which both must hold, and the ends of a range -/
  | and
  /-- joins two conditions of which one must hold -/
  | or
  /-- turns a condition, or what follows it in a predicate -/
  | not
  /-- begins a range -/
  | between
  /-- begins a list -/
  | isIn
  /-- begins a pattern -/
  | like
  /-- opens a choice -/
  | choice
  /-- closes a choice -/
  | chosen
  deriving DecidableEq

namespace Keyword

/-- The spelling of a keyword in capitals. -/
def text : Keyword → List Char
  | .and => ['A', 'N', 'D']
  | .or => ['O', 'R']
  | .not => ['N', 'O', 'T']
  | .between => ['B', 'E', 'T', 'W', 'E', 'E', 'N']
  | .isIn => ['I', 'N']
  | .like => ['L', 'I', 'K', 'E']
  | .choice => ['C', 'A', 'S', 'E']
  | .chosen => ['E', 'N', 'D']

/-- The keyword that a word is, in large or in small letters. -/
def of? (cs : List Char) : Option Keyword :=
  [and, or, not, between, isIn, like, choice, chosen].find? fun k => k.text == cs.map Char.toUpper

end Keyword

/-- A lexeme. -/
inductive Lexeme where
  /-- a keyword -/
  | keyword (k : Keyword)
  /-- a name, a number or a placeholder -/
  | word (cs : List Char)
  /-- an operator or a mark of punctuation -/
  | symbol (cs : List Char)
  /-- what stands between two marks -/
  | quoted (mark : Char) (cs : List Char)
  /-- a parenthesis that opens -/
  | opening
  /-- a parenthesis that closes -/
  | closing
  /-- the place of a condition -/
  | condition
  deriving DecidableEq

/-- The lexeme of a word. -/
def Lexeme.ofWord (cs : List Char) : Lexeme :=
  match Keyword.of? cs with
  | some k => .keyword k
  | none => .word cs

/-! ## Characters -/

/-- A character of a name, a number or a placeholder. All beyond ASCII count as letters. -/
def isWordChar (c : Char) : Bool :=
  Sql.isNameChar c || ['.', ':', '$', '?', '@', '#'].contains c || c.toNat ≥ 0x80

/-- A mark that opens a quotation. -/
def isMark (c : Char) : Bool := c = '\'' || c = '"' || c = '\x60'

/-- A character of an operator. -/
def isSign (c : Char) : Bool :=
  !(c.isWhitespace || ['(', ')', ',', ';'].contains c || isMark c || isWordChar c)

/-- A character of an operator with which no comment opens behind another one. -/
def isPlainSign (c : Char) : Bool := isSign c && c != '-' && c != '*'

/-! ## Cutting -/

/-- What has been begun and can go on. -/
inductive Begun where
  /-- nothing -/
  | nothing
  /-- a word -/
  | word (cs : List Char)
  /-- an operator -/
  | symbol (cs : List Char)
  /-- a quotation -/
  | quoted (mark : Char) (cs : List Char)
  /-- a comment that ends with the line -/
  | line
  /-- a block comment, with so many others open around it, and its last character -/
  | block (depth : Nat) (last : Char)

/-- The lexeme of some signs, if there are any. -/
def ofSigns (cs : List Char) : List Lexeme := if cs = [] then [] else [.symbol cs]

namespace Begun

/-- What is begun by a character behind a lexeme, with the lexeme that it is by itself. -/
def first (c : Char) : List Lexeme × Begun :=
  if c.isWhitespace then ([], .nothing)
  else if c = '(' then ([.opening], .nothing)
  else if c = ')' then ([.closing], .nothing)
  else if c = ',' || c = ';' then ([.symbol [c]], .nothing)
  else if isMark c then ([], .quoted c [])
  else if isWordChar c then ([], .word [c])
  else ([], .symbol [c])

/-- How a character goes on, with the lexemes that are complete then. -/
def next : Begun → Char → List Lexeme × Begun
  | .nothing, c => first c
  | .word cs, c =>
    if isWordChar c then ([], .word (cs ++ [c])) else (.ofWord cs :: (first c).1, (first c).2)
  | .symbol cs, c =>
    if isSign c then
      if c = '-' && cs.getLast? = some '-' then (ofSigns cs.dropLast, .line)
      else if c = '*' && cs.getLast? = some '/' then (ofSigns cs.dropLast, .block 0 ' ')
      else ([], .symbol (cs ++ [c]))
    else (.symbol cs :: (first c).1, (first c).2)
  | .quoted mark cs, c =>
    if c = mark then ([.quoted mark cs], .nothing) else ([], .quoted mark (cs ++ [c]))
  | .line, c => ([], if c = '\n' then .nothing else .line)
  | .block depth last, c =>
    if last = '*' && c = '/' then
      ([], match depth with | 0 => .nothing | d + 1 => .block d ' ')
    else if last = '/' && c = '*' then ([], .block (depth + 1) ' ')
    else ([], .block depth c)

/-- The last lexeme of a text. Quotations and comments do not end by themselves. -/
def finish : Begun → Option (List Lexeme)
  | .nothing => some []
  | .word cs => some [.ofWord cs]
  | .symbol cs => some [.symbol cs]
  | _ => none

/-- What has been begun at the end of a text. -/
def after (b : Begun) (cs : List Char) : Begun := cs.foldl (fun b c => (b.next c).2) b

/-- A character does not belong to what has been begun. -/
def endsAt : Begun → Char → Bool
  | .nothing, _ => true
  | .word _, c => !isWordChar c
  | .symbol _, c => !isSign c
  | _, _ => false

end Begun

/-- The lexemes of a text behind something that has been begun. -/
def lexFrom : Begun → List Char → Option (List Lexeme)
  | b, [] => b.finish
  | b, c :: cs => (lexFrom (b.next c).2 cs).map ((b.next c).1 ++ ·)

/-- The lexemes of a text, if it closes what it opens. -/
def lex (cs : List Char) : Option (List Lexeme) := lexFrom .nothing cs

/-! ## A text in front of another one -/

variable {b : Begun} {cs rest : List Char} {ls ls' : List Lexeme}

theorem next_of_endsAt {c : Char} (hfinish : b.finish = some ls) (h : b.endsAt c) :
    b.next c = (ls ++ (Begun.first c).1, (Begun.first c).2) := by
  cases b with
  | nothing =>
    cases hfinish
    rfl
  | word cs =>
    cases hfinish
    rw [Begun.next, if_neg (by simpa [Begun.endsAt] using h)]
    rfl
  | symbol cs =>
    cases hfinish
    rw [Begun.next, if_neg (by simpa [Begun.endsAt] using h)]
    rfl
  | quoted mark cs => cases hfinish
  | line => cases hfinish
  | block depth last => cases hfinish

/-- What has been begun is complete in front of a text that it does not go on with. -/
theorem lexFrom_of_endsAt (hfinish : b.finish = some ls) (h : ∀ c ∈ rest.head?, b.endsAt c)
    (hrest : lex rest = some ls') : lexFrom b rest = some (ls ++ ls') := by
  cases rest with
  | nil =>
    cases hrest
    rw [List.append_nil]
    exact hfinish
  | cons c rest =>
    obtain ⟨tail, htail, rfl⟩ := Option.map_eq_some_iff.mp hrest
    rw [lexFrom, next_of_endsAt hfinish (h c rfl)]
    simp only [Begun.next] at htail ⊢
    rw [htail, Option.map_some, List.append_assoc]

theorem exists_finish (h : lexFrom b cs = some ls) : ∃ last, (b.after cs).finish = some last := by
  induction cs generalizing b ls with
  | nil => exact ⟨ls, h⟩
  | cons c cs ih =>
    obtain ⟨tail, htail, -⟩ := Option.map_eq_some_iff.mp h
    exact ih htail

/-- **A text in front of another one is cut into its own lexemes**, if its last lexeme does not go
on in the other one. -/
theorem lexFrom_append (h : lexFrom b cs = some ls)
    (hends : ∀ c ∈ rest.head?, (b.after cs).endsAt c) (hrest : lex rest = some ls') :
    lexFrom b (cs ++ rest) = some (ls ++ ls') := by
  induction cs generalizing b ls with
  | nil => exact lexFrom_of_endsAt h hends hrest
  | cons c cs ih =>
    obtain ⟨tail, htail, rfl⟩ := Option.map_eq_some_iff.mp h
    rw [List.cons_append, lexFrom, ih htail hends, Option.map_some, List.append_assoc]

/-- A word has been begun by its characters. -/
theorem isWordChar_of_after {w : List Char} (hne : cs ≠ [])
    (h : Begun.after .nothing cs = .word w) : ∃ c ∈ cs.getLast?, isWordChar c := by
  obtain ⟨front, c, rfl⟩ := List.eq_nil_or_concat cs |>.resolve_left hne
  refine ⟨c, by simp, ?_⟩
  have hfirst (c : Char) (w : List Char) (h : (Begun.first c).2 = .word w) : isWordChar c := by
    unfold Begun.first at h
    split_ifs at h with _ _ _ _ _ hc
    exact hc
  rw [List.concat_eq_append, Begun.after, List.foldl_append] at h
  change (Begun.next (Begun.after .nothing front) c).2 = .word w at h
  -- whatever is begun in front of the last character, only a word goes on as one
  generalize Begun.after .nothing front = b at h
  cases b with
  | nothing => exact hfirst c w h
  | word cs =>
    simp only [Begun.next] at h
    split_ifs at h with hc
    · exact hc
    · exact hfirst c w h
  | symbol cs =>
    simp only [Begun.next] at h
    split_ifs at h
    exact hfirst c w h
  | quoted mark cs =>
    simp only [Begun.next] at h
    split_ifs at h
  | line =>
    simp only [Begun.next] at h
    split_ifs at h
  | block depth last =>
    simp only [Begun.next] at h
    split_ifs at h
    cases depth <;> cases h

/-! ## Lexemes in front of a text -/

theorem lexFrom_word {w : List Char} (hcs : cs.all isWordChar) :
    lexFrom (.word w) (cs ++ rest) = lexFrom (.word (w ++ cs)) rest := by
  induction cs generalizing w with
  | nil => rw [List.nil_append, List.append_nil]
  | cons c cs ih =>
    obtain ⟨hc, hcs⟩ := (Bool.and_eq_true _ _).mp hcs
    rw [List.cons_append, lexFrom, Begun.next, if_pos hc, ih hcs, List.append_assoc]
    exact Option.map_id'

/-- **A word in front of a text that does not go on with it.** -/
theorem lex_word (cs : List Char) (hne : cs ≠ []) (hcs : cs.all isWordChar)
    (hends : ∀ c ∈ rest.head?, isWordChar c = false) (hrest : lex rest = some ls) :
    lex (cs ++ rest) = some (.ofWord cs :: ls) := by
  obtain ⟨c, cs, rfl⟩ := List.exists_cons_of_ne_nil hne
  obtain ⟨hc, hcs⟩ := (Bool.and_eq_true _ _).mp hcs
  have hfirst : Begun.first c = ([], .word [c]) := by
    -- what begins anything else is no character of a word
    have hword {d : Char} (hd : isWordChar d = false) : c ≠ d := by
      rintro rfl
      rw [hc] at hd
      cases hd
    have hblank : c.isWhitespace = false := by
      simp [Char.isWhitespace, hword (d := ' ') (by decide), hword (d := '\t') (by decide),
        hword (d := '\r') (by decide), hword (d := '\n') (by decide)]
    have hmark : isMark c = false := by
      simp [isMark, hword (d := '\'') (by decide), hword (d := '"') (by decide),
        hword (d := '\x60') (by decide)]
    simp [Begun.first, hblank, hmark, hc, hword (d := '(') (by decide),
      hword (d := ')') (by decide), hword (d := ',') (by decide), hword (d := ';') (by decide)]
  have hrest := lexFrom_of_endsAt (b := .word ([c] ++ cs)) rfl
    (fun d hd => by simp [Begun.endsAt, hends d hd]) hrest
  rw [List.cons_append, lex, lexFrom, Begun.next, hfirst, lexFrom_word hcs, hrest]
  rfl

theorem lexFrom_symbol {w : List Char} (hcs : cs.all isPlainSign) :
    lexFrom (.symbol w) (cs ++ rest) = lexFrom (.symbol (w ++ cs)) rest := by
  induction cs generalizing w with
  | nil => rw [List.nil_append, List.append_nil]
  | cons c cs ih =>
    obtain ⟨hc, hcs⟩ := (Bool.and_eq_true _ _).mp hcs
    obtain ⟨hsign, hline, hblock⟩ : isSign c ∧ c ≠ '-' ∧ c ≠ '*' := by
      simpa [isPlainSign, and_assoc] using hc
    have hnext : Begun.next (.symbol w) c = ([], .symbol (w ++ [c])) := by
      simp [Begun.next, hsign, hline, hblock]
    rw [List.cons_append, lexFrom, hnext, ih hcs, List.append_assoc]
    exact Option.map_id'

/-- An operator that opens no comment, in front of a text that does not go on with it. -/
theorem lex_symbol (cs : List Char) (hne : cs ≠ []) (hcs : cs.all isPlainSign)
    (hends : ∀ c ∈ rest.head?, isSign c = false) (hrest : lex rest = some ls) :
    lex (cs ++ rest) = some (.symbol cs :: ls) := by
  obtain ⟨c, cs, rfl⟩ := List.exists_cons_of_ne_nil hne
  obtain ⟨hc, hcs⟩ := (Bool.and_eq_true _ _).mp hcs
  obtain ⟨⟨hsign, -⟩, -⟩ := (Bool.and_eq_true _ _).mp hc |>.imp_left (Bool.and_eq_true _ _).mp
  have hfirst : Begun.first c = ([], .symbol [c]) := by
    simp only [isSign, Bool.not_eq_true', Bool.or_eq_false_iff, List.contains_eq_mem,
      List.mem_cons, List.not_mem_nil, or_false, decide_eq_false_iff_not, not_or] at hsign
    obtain ⟨⟨⟨hblank, hopen, hclose, hcomma, hend⟩, hmark⟩, hword⟩ := hsign
    simp [Begun.first, hblank, hopen, hclose, hcomma, hend, hmark, hword]
  have hrest := lexFrom_of_endsAt (b := .symbol ([c] ++ cs)) rfl
    (fun d hd => by simp [Begun.endsAt, hends d hd]) hrest
  rw [List.cons_append, lex, lexFrom, Begun.next, hfirst, lexFrom_symbol hcs, hrest]
  rfl

/-- A character that is complete by itself, in front of a text. -/
theorem lex_single (c : Char) (ls' : List Lexeme) (hfirst : Begun.first c = (ls', .nothing))
    (h : lex rest = some ls) : lex (c :: rest) = some (ls' ++ ls) := by
  rw [lex] at h
  rw [lex, lexFrom, Begun.next, hfirst, h]
  rfl

theorem lex_blank (h : lex rest = some ls) : lex (' ' :: rest) = some ls :=
  lex_single ' ' [] rfl h

theorem lex_opening (h : lex rest = some ls) : lex ('(' :: rest) = some (.opening :: ls) :=
  lex_single '(' [.opening] rfl h

theorem lex_closing (h : lex rest = some ls) : lex (')' :: rest) = some (.closing :: ls) :=
  lex_single ')' [.closing] rfl h

theorem lex_comma (h : lex rest = some ls) : lex (',' :: rest) = some (.symbol [','] :: ls) :=
  lex_single ',' [.symbol [',']] rfl h

/-- A text in front of a parenthesis ends there. -/
theorem lex_append_opening (h : lex cs = some ls) (hrest : lex ('(' :: rest) = some ls') :
    lex (cs ++ '(' :: rest) = some (ls ++ ls') := by
  refine lexFrom_append h (fun c hc => ?_) hrest
  cases hc
  obtain ⟨last, hlast⟩ := exists_finish h
  generalize Begun.after .nothing cs = b at hlast ⊢
  cases b with
  | nothing => rfl
  | word cs => rfl
  | symbol cs => rfl
  | quoted mark cs => cases hlast
  | line => cases hlast
  | block depth last => cases hlast

/-- A text that does not end like a word ends in front of a word. -/
theorem lex_append_word {d : Char} (hd : isWordChar d) (h : lex cs = some ls)
    (hends : ∀ c ∈ cs.getLast?, isWordChar c = false) (hrest : lex (d :: rest) = some ls') :
    lex (cs ++ d :: rest) = some (ls ++ ls') := by
  refine lexFrom_append h (fun c hc => ?_) hrest
  cases hc
  obtain ⟨last, hlast⟩ := exists_finish h
  rcases List.eq_nil_or_concat cs with rfl | ⟨front, c, rfl⟩
  · rfl
  -- operators end in front of a word, so no word must have been begun
  have hword (w : List Char) : Begun.after .nothing (front.concat c) ≠ .word w := by
    intro hafter
    obtain ⟨e, he, hw⟩ := isWordChar_of_after (by simp) hafter
    rw [hends e he] at hw
    cases hw
  generalize Begun.after .nothing (front.concat c) = b at hlast hword ⊢
  cases b with
  | nothing => rfl
  | word cs => exact absurd rfl (hword cs)
  | symbol cs => simp [Begun.endsAt, isSign, hd]
  | quoted mark cs => cases hlast
  | line => cases hlast
  | block depth last => cases hlast

/-! ## Texts have no place of a condition -/

theorem condition_notMem_next (b : Begun) (c : Char) : Lexeme.condition ∉ (b.next c).1 := by
  have hword (cs : List Char) : Lexeme.condition ≠ .ofWord cs := by
    rw [Lexeme.ofWord]
    split <;> simp
  have hfirst : Lexeme.condition ∉ (Begun.first c).1 := by
    unfold Begun.first
    split_ifs <;> simp
  cases b with
  | nothing => exact hfirst
  | word cs =>
    simp only [Begun.next]
    split_ifs <;> simp [hword, hfirst]
  | symbol cs =>
    simp only [Begun.next]
    split_ifs <;> simp [hfirst, ofSigns]
  | quoted mark cs =>
    simp only [Begun.next]
    split_ifs <;> simp
  | line => simp [Begun.next]
  | block depth last =>
    simp only [Begun.next]
    split_ifs <;> simp

theorem condition_notMem_lexFrom {b : Begun} {cs : List Char} {ls : List Lexeme}
    (h : lexFrom b cs = some ls) : Lexeme.condition ∉ ls := by
  induction cs generalizing b ls with
  | nil =>
    cases b with
    | word cs =>
      cases h
      rw [Lexeme.ofWord]
      split <;> simp
    | _ => cases h <;> simp
  | cons c cs ih =>
    obtain ⟨tail, htail, rfl⟩ := Option.map_eq_some_iff.mp h
    simp [condition_notMem_next, ih htail]

end Tabula.Predicate
