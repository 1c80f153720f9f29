import Mathlib.Data.List.Basic
import Tabula.Proofs.Sql.Locality

/-!
# What the scan passes over

Between two pieces the scan knows of nothing that is open. `Finds` says what it has found when it is
there. A stretch of text that it finds no placeholder in, up to a place where nothing is open, is
copied, and the text behind it is rewritten as if it stood there alone.

* `Passes`: no placeholder is found in a stretch, and nothing is open behind it.
* `Copies`: what numbering makes of a text with a stretch that is copied.
* `Passes.copies`: from the one to the other.
* `Finds.change`: what is found in front of a quotation does not depend on what is quoted.
-/

namespace Tabula

namespace Sql

variable {cs rest rest' stretch : List Char} {ps qs : List Piece}

/-! ## The scan under way -/

/-- Some pieces are found in a text, one behind the other, and a text is left. -/
inductive Finds : List Char → List Piece → List Char → Prop where
  /-- nothing has been looked for -/
  | refl (cs : List Char) : Finds cs [] cs
  /-- a piece, and more of them behind it -/
  | cons {c : Char} {cs rest rest' : List Char} {p : Piece} {ps : List Piece}
    (hfirst : Piece.first c cs = (p, rest)) (hps : Finds rest ps rest') :
    Finds (c :: cs) (p :: ps) rest'

/-- What is found and what is left are the text. -/
theorem Finds.source (h : Finds cs ps rest) : cs = ps.flatMap Piece.source ++ rest := by
  induction h with
  | refl cs => rfl
  | @cons c cs rest rest' p ps hfirst hps ih =>
    have hsource := Piece.source_first c cs
    rw [hfirst] at hsource
    rw [List.flatMap_cons, List.append_assoc, ← ih, hsource]

/-- What is found is scanned, and what is left behind it. -/
theorem Finds.scan (h : Finds cs ps rest) : Piece.scan cs = ps ++ Piece.scan rest := by
  induction h with
  | refl cs => rfl
  | cons hfirst hps ih => rw [Piece.scan, hfirst, ih, List.cons_append]

/-- Finding on where finding has come to. -/
theorem Finds.trans (h : Finds cs ps rest) (h' : Finds rest qs rest') :
    Finds cs (ps ++ qs) rest' := by
  induction h with
  | refl cs => exact h'
  | cons hfirst hps ih => exact .cons hfirst (ih h')

/-- The first piece is found. -/
theorem Finds.single {c : Char} {p : Piece} (h : Piece.first c cs = (p, rest)) :
    Finds (c :: cs) [p] rest := .cons h (.refl rest)

/-- What is left after a piece is left after all the pieces up to it. -/
theorem Finds.of_cons {c : Char} {p : Piece} (hfirst : Piece.first c cs = (p, rest))
    (h : Finds (c :: cs) qs rest') (hne : qs ≠ []) :
    ∃ tail, qs = p :: tail ∧ Finds rest tail rest' := by
  cases h with
  | refl => exact absurd rfl hne
  | cons hfirst' hps =>
    rw [hfirst] at hfirst'
    cases hfirst'
    exact ⟨_, rfl, hps⟩

/-- What is found is cut, and what is left behind it. -/
theorem Finds.cut (h : Finds cs ps rest) :
    Piece.cut cs = ps.flatMap Piece.split ++ Piece.cut rest := by
  rw [Piece.cut, h.scan, List.flatMap_append]
  rfl

/-! ## Passing over a stretch -/

/-- A stretch in front of a text is passed over: no placeholder is found in it, and nothing is open
behind it. -/
def Passes (stretch rest : List Char) : Prop :=
  ∃ ps, Finds (stretch ++ rest) ps rest ∧ ∀ p ∈ ps, p.name? = none

/-- A stretch that is the first piece, and no placeholder, passes. -/
theorem Passes.of_first {c : Char} {text : List Char}
    (h : Piece.first c (text ++ rest) = (.verbatim (c :: text), rest)) : Passes (c :: text) rest :=
  ⟨_, .single h, List.forall_mem_singleton.mpr rfl⟩

/-- A stretch behind a front that passes in front of it. -/
theorem Passes.append (front : List Char) (hfront : Passes front (stretch ++ rest))
    (h : Passes stretch rest) : Passes (front ++ stretch) rest := by
  obtain ⟨ps, hps, hnames⟩ := hfront
  obtain ⟨qs, hqs, hnames'⟩ := h
  refine ⟨ps ++ qs, ?_, List.forall_mem_append.mpr ⟨hnames, hnames'⟩⟩
  rw [List.append_assoc]
  exact hps.trans hqs

/-- Plain text is found character by character. -/
theorem finds_left {text : List Char} (h : ∀ c ∈ text, isPlain c) :
    Finds (text ++ rest) (left text) rest := by
  induction text with
  | nil => exact .refl rest
  | cons c text ih =>
    obtain ⟨hc, htext⟩ := List.forall_mem_cons.mp h
    exact .cons (first_of_plain hc _) (ih htext)

/-- What is left as it stands has no names. -/
theorem name?_of_mem_left {text : List Char} {p : Piece} (h : p ∈ left text) : p.name? = none := by
  obtain ⟨c, -, rfl⟩ := List.mem_map.mp h
  rfl

/-- Plain text passes. -/
theorem passes_of_plain {text : List Char} (h : ∀ c ∈ text, isPlain c) : Passes text rest :=
  ⟨left text, finds_left h, fun _ => name?_of_mem_left⟩

/-- Pieces without names are split into their characters. -/
theorem flatMap_split_of_verbatim (h : ∀ p ∈ ps, p.name? = none) :
    ps.flatMap Piece.split = left (ps.flatMap Piece.source) := by
  induction ps with
  | nil => rfl
  | cons p ps ih =>
    obtain ⟨hp, hps⟩ := List.forall_mem_cons.mp h
    rw [List.flatMap_cons, List.flatMap_cons, ih hps]
    cases p with
    | verbatim text => simp only [left, Piece.split, Piece.source, List.map_append]
    | placeholder name => cases hp

/-- A stretch that passes is left as it stands. -/
theorem Passes.cut (h : Passes stretch rest) :
    Piece.cut (stretch ++ rest) = left stretch ++ Piece.cut rest := by
  obtain ⟨ps, hps, hnames⟩ := h
  have hsource : stretch = ps.flatMap Piece.source := List.append_cancel_right hps.source
  rw [hps.cut, flatMap_split_of_verbatim hnames, ← hsource]

/-! ## Copying -/

/-- Numbering copies a stretch that stands behind some pieces and in front of a text. The names are
those of the pieces and of the text, which both are numbered. -/
structure Copies (sql : String) (style : PlaceholderStyle) (ps : List Piece)
    (stretch rest : List Char) : Prop where
  /-- no name is inside the stretch -/
  names : (NamedStatement.compile sql style).names = placeholderNames (ps ++ Piece.scan rest)
  /-- all of the stretch is there as it was -/
  text : (NamedStatement.compile sql style).sql.toList =
    ps.flatMap (Piece.numbered style (NamedStatement.compile sql style).names) ++ stretch ++
      (Piece.scan rest).flatMap
        (Piece.numbered style (NamedStatement.compile sql style).names)

/-- There is no name in what is left as it stands. -/
theorem filterMap_name?_left (text : List Char) : (left text).filterMap Piece.name? = [] :=
  List.filterMap_eq_nil_iff.mpr fun _ => name?_of_mem_left

/-- Numbering leaves what is left as it stands. -/
theorem flatMap_numbered_left (style : PlaceholderStyle) (names : List String)
    (text : List Char) : (left text).flatMap (Piece.numbered style names) = text := by
  simp [left, List.flatMap_map, Piece.numbered]

/-- Numbering sees no more of a text than its characters and placeholders. -/
theorem copies_of_cut {sql : String}
    (h : Piece.cut sql.toList = ps.flatMap Piece.split ++ (left stretch ++ Piece.cut rest))
    (style : PlaceholderStyle) : Copies sql style ps stretch rest := by
  constructor
  · rw [NamedStatement.compile, placeholderNames, ← filterMap_name?_split, ← Piece.cut, h,
      List.filterMap_append, List.filterMap_append, filterMap_name?_left, Piece.cut,
      filterMap_name?_split, filterMap_name?_split, List.nil_append, ← List.filterMap_append]
    rfl
  · have htext : (NamedStatement.compile sql style).sql.toList = (Piece.scan sql.toList).flatMap
        (Piece.numbered style (NamedStatement.compile sql style).names) := String.toList_ofList
    rw [htext, ← flatMap_numbered_split, ← Piece.cut, h, List.flatMap_append, List.flatMap_append,
      flatMap_numbered_left, Piece.cut, flatMap_numbered_split, flatMap_numbered_split,
      List.append_assoc]

/-- **What is passed over is copied.** -/
theorem Passes.copies {sql : String} (h : Passes stretch rest)
    (hfinds : Finds sql.toList ps (stretch ++ rest)) (style : PlaceholderStyle) :
    Copies sql style ps stretch rest :=
  copies_of_cut (by rw [hfinds.cut, h.cut]) style

/-- Numbering leaves a piece without a name. -/
theorem numbered_of_verbatim {p : Piece} (h : p.name? = none) (style : PlaceholderStyle)
    (names : List String) : p.numbered style names = p.source := by
  cases p with
  | verbatim text => rfl
  | placeholder name => cases h

/-- A statement without a placeholder stays as it is. -/
theorem compile_of_verbatim {sql : String} (h : ∀ p ∈ Piece.scan sql.toList, p.name? = none)
    (style : PlaceholderStyle) : NamedStatement.compile sql style = ⟨sql, []⟩ := by
  have hnames : placeholderNames (Piece.scan sql.toList) = [] := by
    rw [placeholderNames, List.filterMap_eq_nil_iff.mpr h, List.eraseDups_nil]
  have htext : (Piece.scan sql.toList).flatMap (Piece.numbered style []) = sql.toList := by
    rw [List.flatMap_congr fun p hp => numbered_of_verbatim (h p hp) style [], Piece.source_scan]
  rw [NamedStatement.compile, hnames, htext, String.ofList_toList]

/-! ## In front of a quotation -/

/-- The start of two texts is one of the first, or the first and a start of the second. -/
theorem prefix_append_cases {tag front back : List Char} (h : tag <+: front ++ back) :
    tag <+: front ∨ ∃ more, tag = front ++ more ∧ more <+: back := by
  rcases List.prefix_or_prefix_of_prefix h (List.prefix_append front back) with h' | h'
  · exact .inl h'
  · obtain ⟨more, rfl⟩ := h'
    exact .inr ⟨more, rfl, (List.prefix_append_right_inj front).mp h⟩

/-- A tag without a mark that a text with the mark in it begins with ends in front of the mark. -/
theorem prefix_of_prefix_append_cons {tag front back : List Char} {mark : Char} (hmark : mark ∉ tag)
    (h : tag <+: front ++ mark :: back) : tag <+: front := by
  rcases prefix_append_cases h with h | ⟨more, rfl, hmore⟩
  · exact h
  · cases more with
    | nil => exact ⟨[], by rw [List.append_nil, List.append_nil]⟩
    | cons c more =>
      obtain ⟨rfl, -⟩ := List.cons_prefix_cons.mp hmore
      simp at hmark

/-- A quotation is not looked through for the end of a tag. -/
theorem dollarTag?_change {front text : List Char} {mark : Char} (hmark : isQuote mark)
    (h : dollarTag? (front ++ mark :: text) = none) (text' : List Char) :
    dollarTag? (front ++ mark :: text') = none := by
  have hquote : isNameChar mark = false ∧ mark ≠ '$' := by
    simp only [isQuote, Bool.or_eq_true, decide_eq_true_eq] at hmark
    rcases hmark with rfl | rfl
    · exact ⟨rfl, by decide⟩
    · exact ⟨rfl, by decide⟩
  rw [dollarTag?_eq_none_iff] at h ⊢
  intro tag htag hprefix
  have hfront := prefix_of_prefix_append_cons (htag.notMem hquote.1 hquote.2) hprefix
  exact h tag htag (hfront.trans (List.prefix_append _ _))

/-- **What is found in front of a quotation does not depend on what stands from there on.** -/
theorem Finds.change {mark : Char} {text : List Char} (hmark : isQuote mark)
    (h : Finds cs ps (mark :: text)) (text' : List Char) :
    Finds (ps.flatMap Piece.source ++ mark :: text') ps (mark :: text') := by
  generalize hend : mark :: text = back at h
  induction h with
  | refl cs => exact .refl _
  | @cons c cs rest back p ps hfirst hps ih =>
    subst hend
    have hrest := hps.source
    have hsuccessor : Successor p rest (ps.flatMap Piece.source ++ mark :: text') := by
      refine ⟨fun hnil => ?_, fun d hd => .inl ?_, fun hdollar => ?_⟩
      · rw [hnil] at hrest
        simp at hrest
      · rw [List.head?_append, List.head?_cons] at hd
        rw [hrest, List.head?_append, List.head?_cons, hd]
      · subst hdollar
        exact dollarTag?_change hmark (hrest ▸ dollarTag?_eq_none_of_first hfirst) text'
    obtain ⟨tail, hp⟩ := source_eq_cons hfirst
    rw [List.flatMap_cons, hp, List.cons_append, List.cons_append]
    refine .cons (first_of_successor hfirst hsuccessor ?_) (ih rfl)
    rw [hp, List.cons_append, List.append_assoc]

end Sql

end Tabula
