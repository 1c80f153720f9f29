import Mathlib.Data.List.Forall2
import Mathlib.Data.List.Perm.Basic
import Mathlib.Logic.Relation
import Tabula.Model.Basic
import Tabula.Proofs.Results.Equality

/-!
# Reconciling is the exact difference

The two tables of a reconciliation count rows that a hash table takes for one (`twins`). What a
change of a table means is said of every row at once. So the rows that stay are as many of each kind
as both lists have, and the rows that are inserted make up for the rest.

* `Tally.count_add`, `Tally.count_take?`: what one change of a table means for every row.
* `Claims`, `claimRows_claims`: the first pass; `twins_leftRows`: the second pass.
* `reconcile_isExact`: what both come to, where the hash agrees with equality.
-/

namespace Tabula

/-! ## Tables -/

/-- How many rows a hash table takes for a row. -/
def twins (r : Row) (rows : List Row) : Nat := rows.countP fun s => s.isTwin r

@[simp] theorem twins_nil (r : Row) : twins r [] = 0 := rfl

@[simp] theorem twins_cons (r s : Row) (rows : List Row) :
    twins r (s :: rows) = twins r rows + if s.isTwin r then 1 else 0 :=
  List.countP_cons

namespace Tally

variable {r s : Row}

/-- A table does not tell rows apart that it takes for one. -/
theorem count_congr (h : r.isTwin s) (t : Tally) : t.count r = t.count s := by
  induction t with
  | nil => rfl
  | cons p t ih =>
    obtain ⟨k, n⟩ := p
    rw [count, count, Row.isTwin_congr_right h, ih]

theorem count_add (r s : Row) (t : Tally) :
    (t.add r).count s = t.count s + if r.isTwin s then 1 else 0 := by
  induction t with
  | nil =>
    rw [add, count, count]
    split <;> rfl
  | cons p t ih =>
    obtain ⟨k, n⟩ := p
    rw [add]
    by_cases hr : k.isTwin r
    · rw [if_pos hr, count, count, Row.isTwin_congr_left hr]
      split <;> rfl
    · rw [if_neg hr, count, count, ih]
      by_cases hs : k.isTwin s
      · have hrs : ¬r.isTwin s := fun h => hr (Row.isTwin_trans hs (Row.isTwin_symm h))
        rw [if_pos hs, if_pos hs, if_neg hrs, Nat.add_zero]
      · rw [if_neg hs, if_neg hs]

/-- A row cannot be taken if none is counted. -/
theorem count_of_take?_none {t : Tally} (h : t.take? r = none) : t.count r = 0 := by
  induction t with
  | nil => rfl
  | cons p t ih =>
    obtain ⟨k, n⟩ := p
    rw [take?] at h
    rw [count]
    by_cases hr : k.isTwin r
    · rw [if_pos hr] at h ⊢
      by_cases hn : n = 0
      · exact hn
      · rw [if_neg hn] at h
        cases h
    · rw [if_neg hr, Option.map_eq_none_iff] at h
      rw [if_neg hr]
      exact ih h

/-- Otherwise it is counted once less afterwards. -/
theorem count_take? {t t' : Tally} (h : t.take? r = some t') (s : Row) :
    t.count s = t'.count s + if r.isTwin s then 1 else 0 := by
  induction t generalizing t' with
  | nil => cases h
  | cons p t ih =>
    obtain ⟨k, n⟩ := p
    rw [take?] at h
    by_cases hr : k.isTwin r
    · rw [if_pos hr] at h
      by_cases hn : n = 0
      · rw [if_pos hn] at h
        cases h
      · rw [if_neg hn] at h
        cases h
        rw [count, count, Row.isTwin_congr_left hr]
        split
        · omega
        · rfl
    · rw [if_neg hr, Option.map_eq_some_iff] at h
      obtain ⟨t'', ht, rfl⟩ := h
      rw [count, count, ih ht]
      by_cases hs : k.isTwin s
      · have hrs : ¬r.isTwin s := fun h => hr (Row.isTwin_trans hs (Row.isTwin_symm h))
        rw [if_pos hs, if_pos hs, if_neg hrs, Nat.add_zero]
      · rw [if_neg hs, if_neg hs]

theorem count_ofRows (r : Row) (rows : List Row) : (ofRows rows).count r = twins r rows := by
  have hfold (t : Tally) :
      (rows.foldl (fun t r => add r t) t).count r = t.count r + twins r rows := by
    induction rows generalizing t with
    | nil => rfl
    | cons s rows ih =>
      rw [List.foldl_cons, ih, count_add, twins_cons]
      omega
  rw [ofRows, hfold, count, Nat.zero_add]

end Tally

/-! ## The two passes -/

/-- What the first pass makes of the rows of a snapshot. -/
structure Claims (old : List Row) (available matched : Tally) (c : Claimed) : Prop where
  /-- the rows that stay are in order -/
  survivors : c.survivors.Sublist old
  /-- so are those that go -/
  deleted : c.deleted.Sublist old
  /-- no row is lost -/
  perm : (c.survivors ++ c.deleted).Perm old
  /-- as many stay of each kind as are there and available -/
  least : ∀ r, twins r c.survivors = min (twins r old) (available.count r)
  /-- and they are counted -/
  matched : ∀ r, c.matched.count r = matched.count r + twins r c.survivors

theorem claimRows_claims (old : List Row) (available matched : Tally) :
    Claims old available matched (claimRows old available matched) := by
  induction old generalizing available matched with
  | nil =>
    rw [claimRows]
    exact ⟨.refl _, .refl _, .refl _, fun r => by simp, fun r => rfl⟩
  | cons r old ih =>
    rw [claimRows]
    rcases ht : available.take? r with _ | left
    · have h := ih available matched
      refine ⟨h.survivors.cons r, h.deleted.cons_cons r, ?_, fun s => ?_, h.matched⟩
      · exact List.perm_middle.trans (h.perm.cons r)
      · have hr := Tally.count_of_take?_none ht
        by_cases hs : r.isTwin s
        · rw [Tally.count_congr hs] at hr
          rw [h.least, hr, Nat.min_zero, Nat.min_zero]
        · rw [h.least, twins_cons, if_neg hs, Nat.add_zero]
    · -- the row takes one from what is available, and so does every row like it
      have h := ih left (matched.add r)
      refine ⟨h.survivors.cons_cons r, h.deleted.cons r, h.perm.cons r, fun s => ?_, fun s => ?_⟩
      · rw [twins_cons, twins_cons, h.least, Tally.count_take? ht]
        omega
      · rw [h.matched, Tally.count_add, twins_cons]
        omega

theorem leftRows_sublist (fresh : List Row) (matched : Tally) :
    (leftRows fresh matched).Sublist fresh := by
  induction fresh generalizing matched with
  | nil => exact .refl _
  | cons r fresh ih =>
    rw [leftRows]
    split
    · exact (ih _).cons r
    · exact (ih matched).cons_cons r

/-- As many rows are left of each kind as there are more than twins were found. -/
theorem twins_leftRows (fresh : List Row) (matched : Tally) (s : Row) :
    twins s (leftRows fresh matched) = twins s fresh - matched.count s := by
  induction fresh generalizing matched with
  | nil => rw [leftRows, twins_nil, Nat.zero_sub]
  | cons r fresh ih =>
    rw [leftRows]
    rcases ht : matched.take? r with _ | rest
    · have hr := Tally.count_of_take?_none ht
      rw [twins_cons, twins_cons, ih]
      by_cases hs : r.isTwin s
      · rw [Tally.count_congr hs] at hr
        rw [hr, Nat.sub_zero, Nat.sub_zero]
      · rw [if_neg hs, Nat.add_zero, Nat.add_zero]
    · simp only [twins_cons, ih, Tally.count_take? ht]
      omega

/-! ## Where the hash agrees with equality -/

/-- Rows are equal but for their order. -/
def SameRows (rows rows' : List Row) : Prop :=
  ∃ mid, rows.Perm mid ∧ List.Forall₂ (fun a b => a == b) mid rows'

/-- Equal rows among some have the same key. -/
def HashAgrees (rows : List Row) : Prop := ∀ a ∈ rows, ∀ b ∈ rows, a == b → a.hashKey = b.hashKey

theorem SameRows.count_eq {rows rows' : List Row} (h : SameRows rows rows') (r : Row) :
    rows.count r = rows'.count r := by
  obtain ⟨mid, hperm, hall⟩ := h
  rw [hperm.count_eq]
  clear hperm
  induction hall with
  | nil => rfl
  | cons hab _ ih =>
    rw [List.count_cons, List.count_cons, ih, BEq.congr_left hab]

/-- Rows that are counted alike are equal but for their order. -/
theorem sameRows_of_count {rows rows' : List Row} (h : ∀ r, rows.count r = rows'.count r) :
    SameRows rows rows' := by
  induction rows' generalizing rows with
  | nil =>
    cases rows with
    | nil => exact ⟨[], .refl _, .nil⟩
    | cons r rows =>
      have hr := h r
      rw [List.count_cons, if_pos (BEq.refl r)] at hr
      cases hr
  | cons r rows' ih =>
    have hpos : 0 < rows.count r := by
      rw [h, List.count_cons, if_pos (BEq.refl r)]
      exact Nat.succ_pos _
    -- some row is equal to the first one, though perhaps not the same
    obtain ⟨x, hx, hxr⟩ := List.countP_pos_iff.mp hpos
    obtain ⟨front, back, rfl⟩ := List.append_of_mem hx
    have hcount (s : Row) : (front ++ back).count s = rows'.count s := by
      have hs := h s
      rw [List.perm_middle.count_eq, List.count_cons, List.count_cons, BEq.congr_left hxr] at hs
      exact Nat.add_right_cancel hs
    obtain ⟨mid, hperm, hall⟩ := ih hcount
    exact ⟨x :: mid, List.perm_middle.trans (hperm.cons x), .cons hxr hall⟩

/-- A row is counted as one of the rows is that are there, or it is not there at all. -/
theorem HashAgrees.count {rows : List Row} (h : HashAgrees rows) (r : Row) :
    (∃ a, ∀ xs ⊆ rows, xs.count r = twins a xs) ∨ ∀ xs ⊆ rows, xs.count r = 0 := by
  by_cases hr : ∃ a ∈ rows, a == r
  · obtain ⟨a, ha, har⟩ := hr
    refine .inl ⟨a, fun xs hxs => List.countP_congr fun x hx => ?_⟩
    rw [← BEq.congr_right har, Row.isTwin_iff]
    exact ⟨fun hxa => ⟨h x (hxs hx) a ha hxa, hxa⟩, And.right⟩
  · exact .inr fun xs hxs => List.countP_eq_zero.mpr fun x hx hxr => hr ⟨x, hxs hx, hxr⟩

/-! ## Sorting -/

theorem insertDescending_perm (keys : List SortKey) (r : Row) (rows : List Row) :
    (insertDescending keys r rows).Perm (r :: rows) := by
  induction rows with
  | nil => exact .refl _
  | cons s rows ih =>
    rw [insertDescending]
    split
    · exact (ih.cons s).trans (.swap r s rows)
    · exact .refl _

/-- Sorting puts rows in another order. -/
theorem sortRows_perm (keys : List SortKey) (rows : List Row) : (sortRows keys rows).Perm rows := by
  have hfold (sorted : List Row) :
      (rows.foldl (fun sorted r => insertDescending keys r sorted) sorted).Perm
        (rows ++ sorted) := by
    induction rows generalizing sorted with
    | nil => exact .refl _
    | cons r rows ih =>
      refine (ih _).trans ?_
      exact ((insertDescending_perm keys r sorted).append_left rows).trans List.perm_middle
  have hall := hfold []
  rw [List.append_nil] at hall
  exact (List.reverse_perm _).trans hall

/-! ## Reconciling -/

/-- The rows of an old snapshot and fresh rows come apart: some old rows are kept, some fresh ones
are new, and some old ones are gone. -/
structure Parts (old fresh kept new gone : List Row) : Prop where
  /-- the rows that are kept stay in order -/
  survivors : kept.Sublist old
  /-- so do those that are new -/
  inserted : new.Sublist fresh
  /-- so do those that are gone -/
  deleted : gone.Sublist old
  /-- no row of the old snapshot is lost -/
  perm : (kept ++ gone).Perm old
  /-- as many are kept of each kind as there are in both -/
  least : ∀ r, kept.count r = min (old.count r) (fresh.count r)
  /-- as many are new as are missing -/
  rest : ∀ r, new.count r = fresh.count r - kept.count r

/-- **Both passes, counted by equality.** -/
theorem reconcile_parts {old fresh : List Row} (h : HashAgrees (old ++ fresh)) :
    ∃ kept, (reconcile old fresh).1 = kept ++ (reconcile old fresh).2.inserted ∧
      Parts old fresh kept (reconcile old fresh).2.inserted (reconcile old fresh).2.deleted := by
  have hc := claimRows_claims old (.ofRows fresh) []
  have hleft := twins_leftRows fresh (claimRows old (.ofRows fresh) []).matched
  have hsub := leftRows_sublist fresh (claimRows old (.ofRows fresh) []).matched
  have hold : old ⊆ old ++ fresh := List.subset_append_left old fresh
  have hfresh : fresh ⊆ old ++ fresh := List.subset_append_right old fresh
  have hsurvivors := List.Subset.trans hc.survivors.subset hold
  refine ⟨(claimRows old (.ofRows fresh) []).survivors, rfl, hc.survivors, hsub, hc.deleted,
    hc.perm, fun r => ?_, fun r => ?_⟩
  -- a row that is equal to none of the rows is counted nowhere
  · rcases h.count r with ⟨a, ha⟩ | hnone
    · rw [ha _ hsurvivors, ha _ hold, ha _ hfresh, hc.least, Tally.count_ofRows]
    · rw [hnone _ hsurvivors, hnone _ hold, Nat.zero_min]
  · have hinserted := List.Subset.trans hsub.subset hfresh
    rcases h.count r with ⟨a, ha⟩ | hnone
    · rw [ha _ hsurvivors, ha _ hfresh]
      refine (ha _ hinserted).trans ?_
      rw [hleft, hc.matched, Tally.count, Nat.zero_add]
    · rw [hnone _ hsurvivors, hnone _ hfresh]
      exact hnone _ hinserted

/-- What stays and what is inserted are the fresh rows. -/
theorem Parts.whole {old fresh kept new gone : List Row}
    (h : Parts old fresh kept new gone) : SameRows (kept ++ new) fresh := by
  refine sameRows_of_count fun r => ?_
  rw [List.count_append, h.rest, h.least]
  omega

/-- What is kept and what is gone count up to the old snapshot. -/
theorem Parts.count_old {old fresh kept new gone : List Row} (h : Parts old fresh kept new gone)
    (r : Row) : kept.count r + gone.count r = old.count r := by
  rw [← List.count_append, h.perm.count_eq]

/-- No new row is equal to one that is gone. -/
theorem Parts.apart {old fresh kept new gone : List Row} (h : Parts old fresh kept new gone) :
    ∀ a ∈ new, ∀ b ∈ gone, ¬a == b := by
  intro a ha b hb hab
  have hnew : 0 < new.count a := List.countP_pos_iff.mpr ⟨a, ha, BEq.refl a⟩
  have hgone : 0 < gone.count a := List.countP_pos_iff.mpr ⟨b, hb, BEq.symm hab⟩
  have hold := h.count_old a
  rw [h.rest, h.least] at hnew
  rw [h.least] at hold
  omega

/-- Where the rows are the same nothing is different. -/
theorem Parts.same {old fresh kept new gone : List Row} (h : Parts old fresh kept new gone)
    (hs : ∀ r, old.count r = fresh.count r) : kept = old ∧ new = [] ∧ gone = [] := by
  have hnone {xs : List Row} (hxs : ∀ r, xs.count r = 0) : xs = [] := by
    refine List.eq_nil_iff_forall_not_mem.mpr fun r hr => ?_
    exact List.countP_eq_zero.mp (hxs r) r hr (BEq.refl r)
  have hnew : new = [] := hnone fun r => by
    rw [h.rest, h.least, hs]
    omega
  have hgone : gone = [] := hnone fun r => by
    have hold := h.count_old r
    rw [h.least, hs] at hold
    omega
  subst hgone
  have hlength := h.perm.length_eq
  rw [List.append_nil] at hlength
  exact ⟨h.survivors.eq_of_length hlength, hnew, rfl⟩

/-- **Rows that are the same make no difference.** -/
theorem reconcile_of_count {old fresh : List Row} (h : HashAgrees (old ++ fresh))
    (hs : ∀ r, old.count r = fresh.count r) : reconcile old fresh = (old, {}) := by
  obtain ⟨kept, hdata, hp⟩ := reconcile_parts h
  obtain ⟨rfl, hinserted, hdeleted⟩ := hp.same hs
  rw [hinserted, List.append_nil] at hdata
  refine Prod.ext hdata ?_
  rcases hr : (reconcile kept fresh).2 with ⟨i, d⟩
  rw [hr] at hinserted hdeleted
  obtain rfl : i = [] := hinserted
  obtain rfl : d = [] := hdeleted
  rfl

/-- What agrees on some rows agrees on fewer. -/
theorem HashAgrees.mono {rows rows' : List Row} (h : HashAgrees rows) (hsub : rows' ⊆ rows) :
    HashAgrees rows' :=
  fun a ha b hb => h a (hsub ha) b (hsub hb)

/-- Once reconciled, rows stay as they are, in whatever order they are put. -/
theorem reconcile_again {old fresh rows : List Row} (h : HashAgrees (old ++ fresh))
    (hrows : rows.Perm (reconcile old fresh).1) : reconcile rows fresh = (rows, {}) := by
  obtain ⟨kept, hdata, hp⟩ := reconcile_parts h
  have hdataSub : (reconcile old fresh).1 ⊆ old ++ fresh := by
    rw [hdata]
    exact List.append_subset.mpr
      ⟨List.Subset.trans hp.survivors.subset (List.subset_append_left old fresh),
        List.Subset.trans hp.inserted.subset (List.subset_append_right old fresh)⟩
  refine reconcile_of_count (h.mono ?_) fun r => ?_
  · exact List.append_subset.mpr ⟨List.Subset.trans hrows.subset hdataSub,
      List.subset_append_right old fresh⟩
  · rw [hrows.count_eq, hdata]
    exact hp.whole.count_eq r

namespace Model

/-- A model is put in order. -/
def Sorts (m m' : Model) : Prop := ∃ keys, m.sort keys = .ok m'

/-- However often a model is put in order, it has the same rows. -/
theorem perm_of_sorts {m m' : Model} (h : Relation.ReflTransGen Sorts m m') :
    ∃ data, data.Perm m.data ∧ m' = { m with data } := by
  induction h with
  | refl => exact ⟨m.data, .refl _, rfl⟩
  | tail before sorts ih =>
    obtain ⟨data, hperm, rfl⟩ := ih
    obtain ⟨keys, hkeys⟩ := sorts
    rw [sort] at hkeys
    split at hkeys
    · cases hkeys
    · cases hkeys
      exact ⟨sortRows keys data, (sortRows_perm keys data).trans hperm, rfl⟩

/-- The rows that a refresh leaves are refreshed to themselves, in whatever order they are put. -/
theorem refresh_again {m m' : Model} {fetched : ResultSet} (h : HashAgrees (m.data ++ fetched.rows))
    (hs : Relation.ReflTransGen Sorts (m.refresh fetched).1 m') :
    m'.refresh fetched = (m', {}) := by
  obtain ⟨data, hperm, rfl⟩ := perm_of_sorts hs
  have hagain : reconcile data fetched.rows = (data, {}) := reconcile_again h hperm
  rw [refresh, hagain]
  refine Prod.ext ?_ rfl
  simp only [refresh]
  split <;> rfl

end Model

/-- **A reconciliation is the exact difference.** Where the hash agrees with equality, as many old
rows are kept of each kind as there are in both lists, the rest of them is gone, the rest of the
fresh ones is new, and the snapshot has the fresh rows. If the rows were the same nothing is
different, and so it is when the same rows are fetched again, however the snapshot has been sorted
since. -/
theorem reconcile_exact {old fresh data : List Row} {changes : RowChanges}
    (h : HashAgrees (old ++ fresh)) (hr : reconcile old fresh = (data, changes)) :
    (∃ kept, data = kept ++ changes.inserted ∧
        Parts old fresh kept changes.inserted changes.deleted) ∧
      SameRows data fresh ∧
      (∀ a ∈ changes.inserted, ∀ b ∈ changes.deleted, ¬a == b) ∧
      (SameRows old fresh → data = old ∧ changes = {}) ∧
      (∀ rows, rows.Perm data → reconcile rows fresh = (rows, {})) ∧
      ∀ (m : Model) (fetched : ResultSet), m.data = old → fetched.rows = fresh →
        ∀ m', Relation.ReflTransGen Model.Sorts (m.refresh fetched).1 m' →
          m'.refresh fetched = (m', {}) := by
  obtain ⟨kept, hdata, hp⟩ := reconcile_parts h
  rw [hr] at hdata hp
  refine ⟨⟨kept, hdata, hp⟩, ?_, hp.apart, fun hs => ?_, fun rows hrows => ?_, ?_⟩
  · obtain rfl : data = kept ++ changes.inserted := hdata
    exact hp.whole
  · have hsame := reconcile_of_count h hs.count_eq
    rw [hr] at hsame
    exact Prod.mk.inj hsame
  · exact reconcile_again h (by rw [hr]; exact hrows)
  · rintro m fetched rfl rfl m' hs
    exact Model.refresh_again h hs

/-- A row with one number. -/
def rowOf (n : Int64) : Row := .ofPairs [("n", .int n)]

/-- Rows that are repeated, and in another order. -/
theorem reconcile_exact_repeated :
    HashAgrees ([rowOf 1, rowOf 2, rowOf 1] ++ [rowOf 3, rowOf 1]) ∧
      reconcile [rowOf 1, rowOf 2, rowOf 1] [rowOf 3, rowOf 1] =
        ([rowOf 1, rowOf 3], { inserted := [rowOf 3], deleted := [rowOf 2, rowOf 1] }) ∧
      SameRows [rowOf 1, rowOf 3] [rowOf 3, rowOf 1] := by
  have hagrees : HashAgrees ([rowOf 1, rowOf 2, rowOf 1] ++ [rowOf 3, rowOf 1]) := by
    unfold HashAgrees
    with_unfolding_all decide
  have hrun : reconcile [rowOf 1, rowOf 2, rowOf 1] [rowOf 3, rowOf 1] =
      ([rowOf 1, rowOf 3], { inserted := [rowOf 3], deleted := [rowOf 2, rowOf 1] }) := by
    with_unfolding_all rfl
  exact ⟨hagrees, hrun, (reconcile_exact hagrees hrun).2.1⟩

end Tabula
