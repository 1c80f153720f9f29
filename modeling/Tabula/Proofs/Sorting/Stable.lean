import Tabula.Proofs.Model.Call
import Tabula.Proofs.Model.Reconcile
import Tabula.Proofs.Results.Lookup
import Tabula.Proofs.Sorting.Comparison

/-!
# Sorting is stable

Which of two rows belongs in front is said without a comparison of rows: `SortMode.Below` of values,
where two texts are in their natural order by their tokens, `SortKey.Puts` of what two rows hold in
the column of a key, `InFront` of rows and some keys, and `Tied` if it is neither.
Where the keys make an order of the rows, a sort puts no row behind one that it belongs in front of,
and leaves the rows that are tied in their order; there is only one such list.

* `compareRows_eq_lt`, `compareRows_eq_eq`: what the comparison says.
* `insertDescending_inOrder`, `filter_insertDescending`: what one insertion keeps.
* `sortRows_inOrder`, `filter_sortRows`: what a sort does.
* `eq_of_inOrder`: there is no other list like that.
* `Model.sort_stable`: the sort of a model.
-/

namespace Tabula

/-! ## Which row belongs in front -/

/-- In the natural mode a text comes before another by its tokens. Other values are in the order of
the comparison itself. -/
def Value.NaturallyPrecedes : Value → Value → Prop
  | .text s, .text t =>
    List.compareLex Text.Token.compare (Text.tokens s.toList) (Text.tokens t.toList) = .lt
  | u, v => SortMode.natural.compareValues u v = .lt

/-- In a mode a value that is not null comes before another: by its number, by its text, or by its
text in lower case. -/
def SortMode.Precedes : SortMode → Value → Value → Prop
  | .natural, u, v => u.NaturallyPrecedes v
  | .numeric, u, v => u.numeric.totalKey < v.numeric.totalKey
  | .string, u, v => u.display < v.display
  | .locale, u, v => Text.lowercase u.display < Text.lowercase v.display ∨
    Text.lowercase u.display = Text.lowercase v.display ∧ u.display < v.display
  | .caseInsensitive, u, v => Text.lowercase u.display < Text.lowercase v.display

/-- In a mode a value is below another. Null is below everything else. -/
def SortMode.Below (m : SortMode) (u v : Value) : Prop :=
  v.isNull = false ∧ (u.isNull ∨ m.Precedes u v)

/-- By a key a row belongs in front of another. What is missing counts as null. -/
def SortKey.Puts (k : SortKey) (a b : Row) : Prop :=
  match k.direction with
  | .asc => k.mode.Below (a.cell k.column) (b.cell k.column)
  | .desc => k.mode.Below (b.cell k.column) (a.cell k.column)

/-- By some keys a row belongs in front of another. -/
inductive InFront : List SortKey → Row → Row → Prop
  /-- the first key says so -/
  | first {k : SortKey} {ks : List SortKey} {a b : Row} (h : k.Puts a b) : InFront (k :: ks) a b
  /-- the first key does not tell them apart, and the others say so -/
  | later {k : SortKey} {ks : List SortKey} {a b : Row} (h : ¬k.Puts a b) (h' : ¬k.Puts b a)
    (hrest : InFront ks a b) : InFront (k :: ks) a b

/-- No key tells two rows apart. -/
def Tied (keys : List SortKey) (a b : Row) : Prop := ∀ k ∈ keys, ¬k.Puts a b ∧ ¬k.Puts b a

/-- Texts are compared by code points. -/
theorem compareText_eq_lt {s t : String} : compareText s t = .lt ↔ s < t :=
  compareOfLessAndEq_eq_lt

/-- Only equal texts compare equal. -/
theorem compareText_eq_eq {s t : String} : compareText s t = .eq ↔ s = t := by
  rw [compareText, compareOfLessAndEq]
  grind

/-- The natural comparison puts one value first exactly if it precedes the other naturally. -/
theorem SortMode.natural_eq_lt {u v : Value} :
    natural.compareValues u v = .lt ↔ u.NaturallyPrecedes v := by
  rw [Value.NaturallyPrecedes.eq_def]
  split
  · rw [← naturalCompare_eq]
    rfl
  · rfl

/-- A comparison puts one value first exactly if it precedes the other. -/
theorem SortMode.compareValues_eq_lt {m : SortMode} {u v : Value} :
    m.compareValues u v = .lt ↔ m.Precedes u v := by
  cases m with
  | natural => exact natural_eq_lt
  | numeric => exact Int.compare_eq_lt
  | string => exact compareText_eq_lt
  | locale =>
    rw [compareValues, Precedes, Ordering.then_eq_lt, compareText_eq_lt, compareText_eq_eq,
      compareText_eq_lt]
  | caseInsensitive => exact compareText_eq_lt

/-- A comparison puts one value first exactly if it is below the other, nulls included. -/
theorem SortMode.compare_eq_lt {m : SortMode} {u v : Value} :
    m.compare u v = .lt ↔ m.Below u v := by
  rw [SortMode.compare, Below, ← compareValues_eq_lt]
  cases u.isNull <;> cases v.isNull <;> simp

/-- A comparison by a key puts first the row that the key puts in front. -/
theorem SortKey.compare_eq_lt {k : SortKey} {a b : Row} : k.compare a b = .lt ↔ k.Puts a b := by
  rw [SortKey.compare, Puts, Row.getOrNull_eq_cell, Row.getOrNull_eq_cell]
  cases k.direction with
  | asc => exact SortMode.compare_eq_lt
  | desc =>
    change (k.mode.compare (a.cell k.column) (b.cell k.column)).swap = .lt ↔
      k.mode.Below (b.cell k.column) (a.cell k.column)
    rw [← SortMode.compare_eq_swap, SortMode.compare_eq_lt]

/-- Two rows compare equal by a key exactly if it puts neither in front. -/
theorem SortKey.compare_eq_eq {k : SortKey} {a b : Row} :
    k.compare a b = .eq ↔ ¬k.Puts a b ∧ ¬k.Puts b a := by
  rw [← compare_eq_lt, ← compare_eq_lt, k.compare_eq_swap a b]
  cases k.compare a b <;> decide

/-- The first key decides, or if it puts neither in front the others. -/
theorem inFront_cons {k : SortKey} {ks : List SortKey} {a b : Row} :
    InFront (k :: ks) a b ↔ k.Puts a b ∨ (¬k.Puts a b ∧ ¬k.Puts b a) ∧ InFront ks a b := by
  constructor
  · intro h
    cases h with
    | first h => exact .inl h
    | later h h' hrest => exact .inr ⟨⟨h, h'⟩, hrest⟩
  · rintro (h | ⟨⟨h, h'⟩, hrest⟩)
    · exact .first h
    · exact .later h h' hrest

/-- A comparison puts first the row that is in front. -/
theorem compareRows_eq_lt {keys : List SortKey} {a b : Row} :
    compareRows keys a b = .lt ↔ InFront keys a b := by
  induction keys with
  | nil => exact ⟨nofun, nofun⟩
  | cons k ks ih =>
    rw [compareRows, Ordering.then_eq_lt, inFront_cons, SortKey.compare_eq_lt,
      SortKey.compare_eq_eq, ih]

/-- Two rows compare equal exactly if they are tied. -/
theorem compareRows_eq_eq {keys : List SortKey} {a b : Row} :
    compareRows keys a b = .eq ↔ Tied keys a b := by
  induction keys with
  | nil => exact ⟨fun _ => nofun, fun _ => rfl⟩
  | cons k ks ih =>
    rw [compareRows, Ordering.then_eq_eq, SortKey.compare_eq_eq, ih, Tied, Tied,
      List.forall_mem_cons]

instance (keys : List SortKey) (a b : Row) : Decidable (InFront keys a b) :=
  decidable_of_iff _ compareRows_eq_lt

instance (keys : List SortKey) (a b : Row) : Decidable (Tied keys a b) :=
  decidable_of_iff _ compareRows_eq_eq

/-- A row is not in front of another exactly if the other compares as less or equal. -/
theorem not_inFront {keys : List SortKey} {a b : Row} :
    ¬InFront keys a b ↔ (compareRows keys b a).isLE := by
  rw [← compareRows_eq_lt, compareRows_eq_swap keys a b]
  cases compareRows keys a b <;> decide

/-- Two rows are not each in front of the other. -/
theorem InFront.asymm {keys : List SortKey} {a b : Row} (h : InFront keys a b) :
    ¬InFront keys b a := by
  rw [not_inFront, compareRows_eq_lt.mpr h]
  rfl

/-- Of two tied rows neither is in front. -/
theorem Tied.not_inFront {keys : List SortKey} {a b : Row} (h : Tied keys a b) :
    ¬InFront keys a b := by
  rw [← compareRows_eq_lt, compareRows_eq_eq.mpr h]
  nofun

/-- A row is tied with itself. -/
theorem Tied.refl (keys : List SortKey) (a : Row) : Tied keys a a :=
  compareRows_eq_eq.mp (compareRows_self keys a)

/-- Rows are tied with each other. -/
theorem Tied.symm {keys : List SortKey} {a b : Row} (h : Tied keys a b) : Tied keys b a :=
  fun k hk => (h k hk).symm

/-- Of two rows one belongs in front, or they are tied. -/
theorem tied_of_not_inFront {keys : List SortKey} {a b : Row} (h : ¬InFront keys a b)
    (h' : ¬InFront keys b a) : Tied keys a b := by
  rw [← compareRows_eq_lt] at h
  rw [Tabula.not_inFront] at h'
  rw [← compareRows_eq_eq]
  cases hc : compareRows keys a b <;> simp_all

/-- No row stands behind one that it belongs in front of. -/
def InOrder (keys : List SortKey) (rows : List Row) : Prop :=
  rows.Pairwise fun a b => ¬InFront keys b a

/-- No row belongs in front of the first. -/
theorem InOrder.not_inFront_head {keys : List SortKey} {a x : Row} {l : List Row}
    (h : InOrder keys (a :: l)) (hx : x ∈ a :: l) : ¬InFront keys x a := by
  rcases List.mem_cons.mp hx with rfl | hx
  · exact (Tied.refl keys x).not_inFront
  · exact (List.pairwise_cons.mp h).1 x hx

/-- A row is tied with itself, so it is wherever the same rows are tied with it. -/
theorem mem_of_filter_tied {keys : List SortKey} {a : Row} {l l' : List Row} (ha : a ∈ l)
    (h : l.filter (Tied keys a ·) = l'.filter (Tied keys a ·)) : a ∈ l' := by
  have hin : a ∈ l.filter (Tied keys a ·) :=
    List.mem_filter.mpr ⟨ha, decide_eq_true (Tied.refl keys a)⟩
  rw [h] at hin
  exact (List.mem_filter.mp hin).1

/-- **Rows are in order in one way only, if those that are tied keep theirs.** -/
theorem eq_of_inOrder {keys : List SortKey} {rows l l' : List Row} (hl : l ⊆ rows)
    (hl' : l' ⊆ rows) (h : InOrder keys l) (h' : InOrder keys l')
    (htied : ∀ q ∈ rows, l.filter (Tied keys q ·) = l'.filter (Tied keys q ·)) : l = l' := by
  induction l generalizing l' with
  | nil =>
    cases l' with
    | nil => rfl
    | cons b l' =>
      have hb : b ∈ rows := hl' List.mem_cons_self
      cases mem_of_filter_tied List.mem_cons_self (htied b hb).symm
  | cons a l ih =>
    obtain ⟨ha, hl⟩ := List.cons_subset.mp hl
    cases l' with
    | nil => cases mem_of_filter_tied List.mem_cons_self (htied a ha)
    | cons b l' =>
      obtain ⟨hb, htail'⟩ := List.cons_subset.mp hl'
      -- each of the first rows is in the other list too, so they are tied
      have hab : Tied keys a b := tied_of_not_inFront
        (h'.not_inFront_head (mem_of_filter_tied List.mem_cons_self (htied a ha)))
        (h.not_inFront_head (mem_of_filter_tied List.mem_cons_self (htied b hb).symm))
      have hsame := htied a ha
      simp only [List.filter_cons, Tied.refl, hab, decide_true, if_true] at hsame
      obtain ⟨rfl, -⟩ := List.cons.inj hsame
      refine congrArg (a :: ·) (ih hl htail' (List.pairwise_cons.mp h).2
        (List.pairwise_cons.mp h').2 fun q hq => ?_)
      have hrest := htied q hq
      rw [List.filter_cons, List.filter_cons] at hrest
      split at hrest
      · exact (List.cons.inj hrest).2
      · exact hrest

/-! ## Sorting -/

section

variable {keys : List SortKey} {rows : List Row}
  [htrans : Std.TransCmp fun a b : {r // r ∈ rows} => compareRows keys a b]

include htrans

/-- Not being in front is transitive where the keys order the rows. -/
theorem not_inFront_trans {a b c : Row} (ha : a ∈ rows) (hb : b ∈ rows) (hc : c ∈ rows)
    (hab : ¬InFront keys a b) (hbc : ¬InFront keys b c) : ¬InFront keys a c := by
  rw [not_inFront] at *
  exact htrans.isLE_trans (a := ⟨c, hc⟩) (b := ⟨b, hb⟩) (c := ⟨a, ha⟩) hbc hab

/-- Being tied is transitive where the keys order the rows. -/
theorem Tied.trans {a b c : Row} (ha : a ∈ rows) (hb : b ∈ rows) (hc : c ∈ rows)
    (hab : Tied keys a b) (hbc : Tied keys b c) : Tied keys a c :=
  tied_of_not_inFront (not_inFront_trans ha hb hc hab.not_inFront hbc.not_inFront)
    (not_inFront_trans hc hb ha hbc.symm.not_inFront hab.symm.not_inFront)

/-- A row is put in its place. -/
theorem insertDescending_inOrder {r : Row} {sorted : List Row} (hr : r ∈ rows)
    (hsorted : sorted ⊆ rows) (h : sorted.Pairwise fun a b => ¬InFront keys a b) :
    (insertDescending keys r sorted).Pairwise fun a b => ¬InFront keys a b := by
  induction sorted with
  | nil => exact List.pairwise_singleton _ _
  | cons s rest ih =>
    obtain ⟨hs, hrest⟩ := List.cons_subset.mp hsorted
    obtain ⟨hhead, htail⟩ := List.pairwise_cons.mp h
    rw [insertDescending]
    split
    next hlt =>
      -- `r` comes in front of `s`, and goes on to its place among the rest
      have hfront : InFront keys r s := compareRows_eq_lt.mp (eq_of_beq hlt)
      refine List.pairwise_cons.mpr ⟨fun x hx => ?_, ih hrest htail⟩
      rcases List.mem_cons.mp ((insertDescending_perm keys r rest).mem_iff.mp hx) with rfl | hx
      · exact hfront.asymm
      · exact hhead x hx
    next hlt =>
      -- `r` stays here: `s` and all behind it are not in front of it
      have hrs : ¬InFront keys r s := fun hfront =>
        hlt (beq_iff_eq.mpr (compareRows_eq_lt.mpr hfront))
      refine List.pairwise_cons.mpr ⟨fun x hx => ?_, h⟩
      rcases List.mem_cons.mp hx with rfl | hx
      · exact hrs
      · exact not_inFront_trans hr hs (hrest hx) hrs (hhead x hx)

/-- A row is put in front of the rows that it is tied with. -/
theorem filter_insertDescending {q r : Row} {sorted : List Row} (hq : q ∈ rows) (hr : r ∈ rows)
    (hsorted : sorted ⊆ rows) :
    (insertDescending keys r sorted).filter (Tied keys q ·) =
      (r :: sorted).filter (Tied keys q ·) := by
  induction sorted with
  | nil => rfl
  | cons s rest ih =>
    obtain ⟨hs, hrest⟩ := List.cons_subset.mp hsorted
    rw [insertDescending]
    split
    next hlt =>
      have hfront : InFront keys r s := compareRows_eq_lt.mp (eq_of_beq hlt)
      rw [List.filter_cons, ih hrest]
      -- among rows tied with `q` nothing moves past its equals
      by_cases hqs : Tied keys q s
      · have hqr : ¬Tied keys q r := fun hqr =>
          (Tied.trans hr hq hs hqr.symm hqs).not_inFront hfront
        simp [hqs, hqr]
      · simp [List.filter_cons, hqs]
    next => rfl

/-- Rows that are put in one after the other are in their places, and the later of two that are tied
stands in front. -/
theorem foldl_insertDescending {l sorted : List Row} (hl : l ⊆ rows) (hsorted : sorted ⊆ rows)
    (h : sorted.Pairwise fun a b => ¬InFront keys a b) :
    (l.foldl (fun sorted r => insertDescending keys r sorted) sorted).Pairwise
        (fun a b => ¬InFront keys a b) ∧
      ∀ q ∈ rows,
        (l.foldl (fun sorted r => insertDescending keys r sorted) sorted).filter (Tied keys q ·) =
          (l.reverse ++ sorted).filter (Tied keys q ·) := by
  induction l generalizing sorted with
  | nil => exact ⟨h, fun _ _ => rfl⟩
  | cons r l ih =>
    obtain ⟨hr, hl⟩ := List.cons_subset.mp hl
    have hnext : insertDescending keys r sorted ⊆ rows := fun x hx =>
      List.cons_subset.mpr ⟨hr, hsorted⟩ ((insertDescending_perm keys r sorted).mem_iff.mp hx)
    obtain ⟨horder, hfilter⟩ := ih hl hnext (insertDescending_inOrder hr hsorted h)
    refine ⟨horder, fun q hq => ?_⟩
    rw [List.foldl_cons, hfilter q hq, List.filter_append, filter_insertDescending hq hr hsorted,
      ← List.filter_append, List.reverse_cons, List.append_assoc, List.singleton_append]

/-- A sort puts rows in order. -/
theorem sortRows_inOrder {l : List Row} (hl : l ⊆ rows) : InOrder keys (sortRows keys l) :=
  List.pairwise_reverse.mpr
    (foldl_insertDescending hl (List.nil_subset rows) List.Pairwise.nil).1

/-- A sort leaves rows that are tied in their order. -/
theorem filter_sortRows {q : Row} {l : List Row} (hq : q ∈ rows) (hl : l ⊆ rows) :
    (sortRows keys l).filter (Tied keys q ·) = l.filter (Tied keys q ·) := by
  rw [sortRows, List.filter_reverse,
    (foldl_insertDescending hl (List.nil_subset rows) List.Pairwise.nil).2 q hq, List.append_nil,
    List.filter_reverse, List.reverse_reverse]

/-- Rows that have been sorted stay as they are. -/
theorem sortRows_sortRows {l : List Row} (hl : l ⊆ rows) :
    sortRows keys (sortRows keys l) = sortRows keys l := by
  have hsorted : sortRows keys l ⊆ rows := fun _ hx =>
    hl ((sortRows_perm keys l).mem_iff.mp hx)
  exact eq_of_inOrder (fun _ hx => hsorted ((sortRows_perm keys _).mem_iff.mp hx)) hsorted
    (sortRows_inOrder hsorted) (sortRows_inOrder hl) fun _ hq => filter_sortRows hq hsorted

end

/-! ## Models -/

/-- Texts and null. -/
def Value.isTextOrNull : Value → Bool
  | .text _ | .null => true
  | _ => false

/-- Texts and nulls are not measured. -/
theorem Value.measure?_of_isTextOrNull {v : Value} (h : v.isTextOrNull) : v.measure? = none := by
  cases v <;> first | rfl | cases h

/-- Texts and nulls do not clash. -/
theorem SortKey.not_clashes {k : SortKey} {rows : List Row}
    (h : k.mode = .natural → ∀ r ∈ rows, (r.cell k.column).isTextOrNull) :
    ¬k.Clashes rows := by
  have hmeasure {u v w : Value} (hu : u.isTextOrNull) : ¬Clash u v w := by
    rintro (hr | ⟨hm, -⟩)
    · obtain ⟨i, j, x, rfl, -⟩ := areRounded_iff.mp hr
      cases hu
    · have hsome := hm.1
      rw [Value.measure?_of_isTextOrNull hu] at hsome
      cases hsome
  rintro ⟨hmode, a, ha, b, -, c, -, hclash⟩
  rw [Row.getOrNull_eq_cell] at hclash
  exact hmeasure (h hmode a ha) hclash

namespace Model

/-- Sorting fails with the first of the keys whose column is not there. -/
theorem sort_error {m : Model} {front back : List SortKey} {k : SortKey}
    (hfront : ∀ k' ∈ front, k'.column ∈ m.columns) (hk : k.column ∉ m.columns) :
    m.sort (front ++ k :: back) = .error (.unknownColumn k.column) := by
  have hfind : (front ++ k :: back).find? (fun k => !m.columns.contains k.column) = some k :=
    List.find?_eq_some_iff_append.mpr ⟨by simpa using hk, front, back, rfl, by simpa using hfront⟩
  rw [sort, hfind]

/-- Sorting by columns that are there changes the rows only. -/
theorem sort_ok {m : Model} {keys : List SortKey} (h : ∀ k ∈ keys, k.column ∈ m.columns) :
    m.sort keys = .ok { m with data := sortRows keys m.data } := by
  have hfind : keys.find? (fun k => !m.columns.contains k.column) = none :=
    List.find?_eq_none.mpr (by simpa using h)
  rw [sort, hfind]

/-- **The sort of a model.** If a column to sort by is not one of the model, the call ends in an
error that names the first one, and the model stays as it is. If all are, and the columns of the
keys in the natural mode hold texts and null only, the rows are put in order: there are the same
rows, none behind one that it belongs in front of, and those that are tied as they were. Another
sort changes nothing. -/
theorem sort_stable (m : Model) (keys : List SortKey) :
    ((∃ k ∈ keys, k.column ∉ m.columns) → ∃ front k back, keys = front ++ k :: back ∧
      (∀ k' ∈ front, k'.column ∈ m.columns) ∧ k.column ∉ m.columns ∧
      m.sort keys = .error (.unknownColumn k.column) ∧
      ∀ {β : Type} [Backend β] (s : Session β), (m.perform (.sort keys)).run s =
        ((failWith (.unknownColumn k.column), m), s)) ∧
    ((∀ k ∈ keys, k.column ∈ m.columns) →
      (∀ k ∈ keys, k.mode = .natural → ∀ r ∈ m.data, (r.cell k.column).isTextOrNull) →
      ∃ data, m.sort keys = .ok { m with data } ∧ data.Perm m.data ∧ InOrder keys data ∧
        (∀ r ∈ m.data, data.filter (Tied keys r ·) = m.data.filter (Tied keys r ·)) ∧
        ({ m with data } : Model).sort keys = .ok { m with data }) := by
  constructor
  · rintro ⟨k, hk, hmissing⟩
    have hfind : (keys.find? fun k => !m.columns.contains k.column).isSome :=
      List.find?_isSome.mpr ⟨k, hk, by simpa using hmissing⟩
    obtain ⟨first, hfirst⟩ := Option.isSome_iff_exists.mp hfind
    -- the first key without a column is the one reported
    obtain ⟨hmiss, front, back, rfl, hhits⟩ := List.find?_eq_some_iff_append.mp hfirst
    have hfront : ∀ k' ∈ front, k'.column ∈ m.columns := by simpa using hhits
    have hfirst : first.column ∉ m.columns := by simpa using hmiss
    refine ⟨front, first, back, rfl, hfront, hfirst, sort_error hfront hfirst, fun s => ?_⟩
    rw [perform, sort_error hfront hfirst]
    rfl
  · intro hcolumns htexts
    -- with texts alone under natural keys the comparison is an order on these rows
    have htrans : Std.TransCmp fun a b : {r // r ∈ m.data} => compareRows keys a b :=
      transCmp_compareRows fun k hk => SortKey.not_clashes (htexts k hk)
    refine ⟨sortRows keys m.data, sort_ok hcolumns, sortRows_perm keys m.data,
      sortRows_inOrder (List.Subset.refl m.data),
      fun r hr => filter_sortRows hr (List.Subset.refl m.data), ?_⟩
    have hagain : sortRows keys (sortRows keys m.data) = sortRows keys m.data :=
      sortRows_sortRows (List.Subset.refl m.data)
    refine (sort_ok (by exact hcolumns)).trans ?_
    simp only [hagain]

/-- A model of some files. Two names are the same but for a zero and two but for a capital, the file
4 has no name, and the file 6 has two, of which the last is that of the file 1. -/
def shelf : Model where
  select := .routine (.stub { name := "files" })
  columns := ["id", "name", "n"]
  data := [.ofPairs [("id", .int 1), ("name", .text "file2"), ("n", .int 2)],
    .ofPairs [("id", .int 2), ("name", .text "File10"), ("n", .text " 0.5 ")],
    .ofPairs [("id", .int 3), ("name", .text "file02"), ("n", .float (Double.ofInt 1))],
    .ofPairs [("id", .int 4), ("n", .int 7)],
    .ofPairs [("id", .int 5), ("name", .text "file10"), ("n", .bool true)],
    .ofPairs [("id", .int 6), ("name", .text "file9"), ("name", .text "file2"), ("n", .int 2)]]

/-- The greatest name first, in one of the modes, and then the least number. -/
def byName (mode : SortMode) : List SortKey :=
  [{ column := "name", direction := .desc, mode }, { column := "n", mode := .numeric }]

/-- The files in the order of their names. The file without a name comes last, and those that no key
tells apart stay as they were. -/
def filesByName : SortMode → List Value
  | .natural => [.int 5, .int 3, .int 1, .int 6, .int 2, .int 4]
  | .numeric => [.int 2, .int 3, .int 5, .int 1, .int 6, .int 4]
  | .string => [.int 1, .int 6, .int 5, .int 3, .int 2, .int 4]
  | .locale => [.int 1, .int 6, .int 5, .int 2, .int 3, .int 4]
  | .caseInsensitive => [.int 1, .int 6, .int 2, .int 5, .int 3, .int 4]

/-- The files by their names in each mode, and by a column that they have not. -/
theorem sort_stable_shelf :
    shelf.sort (byName .natural ++ [{ column := "size" }]) = .error (.unknownColumn "size") ∧
    ∀ mode, ∃ data, shelf.sort (byName mode) = .ok { shelf with data } ∧ data.Perm shelf.data ∧
      InOrder (byName mode) data ∧ data.map (·.cell "id") == filesByName mode := by
  constructor
  · obtain ⟨front, k, back, hkeys, -, hk, herror, -⟩ :=
      (sort_stable shelf (byName .natural ++ [{ column := "size" }])).1
        ⟨{ column := "size" }, by simp, by decide⟩
    have hmem : k ∈ byName .natural ++ [{ column := "size" }] := by simp [hkeys]
    have hsize : ∀ k ∈ byName .natural ++ [{ column := "size" }], k.column ∉ shelf.columns →
        k.column = "size" := by
      decide
    rw [herror, hsize k hmem hk]
  · intro mode
    have hcolumns : ∀ k ∈ byName mode, k.column ∈ shelf.columns := by cases mode <;> decide
    have htexts : ∀ k ∈ byName mode, k.mode = .natural →
        ∀ r ∈ shelf.data, (r.cell k.column).isTextOrNull := by
      cases mode <;> decide +kernel
    -- the theorem gives a permutation in order, and evaluation tells which
    obtain ⟨data, hsort, hperm, horder, -⟩ := (sort_stable shelf (byName mode)).2 hcolumns htexts
    have hdata : data = sortRows (byName mode) shelf.data :=
      congrArg Model.data (Except.ok.inj (hsort.symm.trans (sort_ok hcolumns)))
    refine ⟨data, hsort, hperm, horder, ?_⟩
    rw [hdata]
    cases mode <;> decide +kernel

end Model

end Tabula
