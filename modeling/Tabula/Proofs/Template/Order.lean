import Mathlib.Data.List.Perm.Basic
import Tabula.Proofs.Template.Reach

/-!
# The order in which criteria run

Criteria of one shape run together, and the shapes come in the order of their first appearance. So
the sets of the compiled statements are those of the criteria in another order,
`Template.inBatchOrder`: it is stable within a shape, and nothing is lost or added.

* `Template.compile_pairs`: compiling takes the criteria in this order.
* `Template.perm_inBatchOrder`: it is a permutation.
-/

namespace Tabula

/-! ## Groups in the order of their first appearance -/

section

variable {α δ : Type} [DecidableEq δ]

theorem eraseDups_map {ζ : Type} [DecidableEq ζ] {f : δ → ζ} (hf : Function.Injective f)
    (xs : List δ) : (xs.map f).eraseDups = xs.eraseDups.map f := by
  induction xs using List.reverseRecOn with
  | nil => rfl
  | append_singleton xs x ih =>
    rw [List.map_append, List.map_singleton, eraseDups_concat, eraseDups_concat, ih,
      List.map_append]
    by_cases hx : x ∈ xs
    · rw [if_pos hx, if_pos (List.mem_map_of_mem hx), List.map_nil]
    · rw [if_neg hx, if_neg (by simpa [hf.eq_iff] using hx), List.map_singleton]

/-- The elements group by group, the groups in the order of their first appearance. -/
def inGroups (key : α → δ) (xs : List α) : List α :=
  (xs.map key).eraseDups.flatMap fun k => xs.filter fun x => key x = k

theorem perm_flatMap_filter (key : α → δ) (xs : List α) {ks : List δ} (hks : ks.Nodup) :
    (ks.flatMap fun k => xs.filter fun x => key x = k).Perm (xs.filter fun x => key x ∈ ks) := by
  induction ks with
  | nil => simp
  | cons k ks ih =>
    obtain ⟨hk, hnodup⟩ := List.nodup_cons.mp hks
    -- the group of the first key, and what is in the groups of the others
    have hsplit := List.filter_append_perm (fun x => decide (key x = k))
      (xs.filter fun x => key x ∈ k :: ks)
    have hgroup : (xs.filter fun x => key x ∈ k :: ks).filter (fun x => key x = k) =
        xs.filter fun x => key x = k := by
      rw [List.filter_filter]
      refine List.filter_congr fun x _ => ?_
      by_cases hx : key x = k <;> simp [hx]
    have hothers : (xs.filter fun x => key x ∈ k :: ks).filter (fun x => !decide (key x = k)) =
        xs.filter fun x => key x ∈ ks := by
      rw [List.filter_filter]
      refine List.filter_congr fun x _ => ?_
      by_cases hx : key x = k
      · simp [hx, hk]
      · simp [hx]
    rw [hgroup, hothers] at hsplit
    rw [List.flatMap_cons]
    exact ((ih hnodup).append_left _).trans hsplit

/-- **Nothing is lost or added.** -/
theorem perm_inGroups (key : α → δ) (xs : List α) : (inGroups key xs).Perm xs := by
  refine (perm_flatMap_filter key xs (nodup_eraseDups _)).trans ?_
  rw [List.filter_eq_self.mpr]
  intro x hx
  exact decide_eq_true (List.mem_eraseDups.mpr (List.mem_map_of_mem hx))

end

/-! ## Criteria -/

/-- A statement with each of its sets. -/
def Batch.pairs (b : Batch) : List (String × ParameterSet) := b.sets.map fun set => (b.sql, set)

namespace Template

/-- The shape of a criterion, if it has one. -/
def shapeOf (t : Template) (c : Criterion) : Option Shape := (t.analyze c).toOption.map Prod.fst

/-- The statement of a criterion with its set. -/
def pairOf (t : Template) (c : Criterion) : Except Error (String × ParameterSet) := do
  let (s, set) ← t.analyze c
  return (t.render s, set)

/-- Criteria in the order in which they run. -/
def inBatchOrder (t : Template) (criteria : List Criterion) : List Criterion :=
  inGroups t.shapeOf criteria

theorem perm_inBatchOrder (t : Template) (criteria : List Criterion) :
    (t.inBatchOrder criteria).Perm criteria :=
  perm_inGroups t.shapeOf criteria

variable {t : Template} {criteria : List Criterion} {batches : List Batch}

theorem pairOf_eq_ok {c : Criterion} {x : String × ParameterSet} :
    t.pairOf c = .ok x ↔ ∃ a, t.analyze c = .ok a ∧ x = (t.render a.1, a.2) := by
  rw [pairOf, bind_eq_ok]
  constructor
  · rintro ⟨a, ha, h⟩
    cases h
    exact ⟨a, ha, rfl⟩
  · rintro ⟨a, ha, rfl⟩
    exact ⟨a, ha, rfl⟩

theorem mapM_filter_shape {analyzed : List (Shape × ParameterSet)}
    (h : List.Forall₂ (fun c a => t.analyze c = .ok a) criteria analyzed) (s : Shape) :
    (criteria.filter fun c => t.shapeOf c = some s).mapM t.pairOf =
      .ok ((analyzed.filter fun a => a.1 = s).map fun a => (t.render s, a.2)) := by
  induction h with
  | nil => rfl
  | @cons c a criteria analyzed hca _ ih =>
    have hshape : t.shapeOf c = some a.1 := by
      rw [shapeOf, hca]
      rfl
    rw [List.filter_cons, List.filter_cons, hshape]
    by_cases ha : a.1 = s
    · rw [if_pos (decide_eq_true (congrArg some ha)), if_pos (decide_eq_true ha), List.map_cons]
      exact mapM_cons_eq_ok.mpr ⟨_, _, pairOf_eq_ok.mpr ⟨a, hca, by rw [ha]⟩, ih, rfl⟩
    · rw [if_neg (by simpa using ha), if_neg (by simpa using ha)]
      exact ih

/-- **The sets of the statements are those of the criteria in the order of the batches**, and no
statement is without one. -/
theorem compile_pairs (h : t.compile criteria = .ok batches) :
    criteria ≠ [] ∧ (∀ b ∈ batches, b.sets ≠ []) ∧
      (t.inBatchOrder criteria).mapM t.pairOf = .ok (batches.flatMap Batch.pairs) := by
  obtain ⟨hne, analyzed, hanalyzed, hbatches⟩ := compile_eq_ok_iff.mp h
  refine ⟨hne, fun b => sets_ne_nil h, ?_⟩
  have hforall := forall₂_of_mapM hanalyzed
  have hshapes : criteria.map t.shapeOf = (analyzed.map Prod.fst).map some := by
    clear h hanalyzed hne hbatches
    induction hforall with
    | nil => rfl
    | cons hca _ ih =>
      rw [List.map_cons, List.map_cons, List.map_cons, ih, shapeOf, hca]
      rfl
  rw [inBatchOrder, inGroups, hshapes, eraseDups_map fun _ _ => Option.some.inj, hbatches,
    byShape_eq, List.map_map, List.flatMap_map, List.flatMap_map]
  -- shape by shape
  generalize (analyzed.map Prod.fst).eraseDups = shapes
  induction shapes with
  | nil => rfl
  | cons s shapes ih =>
    rw [List.flatMap_cons, List.flatMap_cons]
    refine mapM_append_eq_ok.mpr ⟨_, _, mapM_filter_shape hforall s, ih, ?_⟩
    simp only [Function.comp_apply, Batch.pairs, List.map_map]
    rfl

/-- There is a statement. -/
theorem ne_nil_of_compile (h : t.compile criteria = .ok batches) : batches ≠ [] := by
  obtain ⟨hne, -, hps⟩ := compile_pairs h
  rintro rfl
  have hlength := (forall₂_of_mapM hps).length_eq
  rw [(t.perm_inBatchOrder criteria).length_eq] at hlength
  exact hne (List.eq_nil_of_length_eq_zero hlength)

/-- Some criteria compile if each of them has a statement. -/
theorem exists_compile {pairs : List (String × ParameterSet)} (hne : criteria ≠ [])
    (h : criteria.mapM t.pairOf = .ok pairs) : ∃ batches, t.compile criteria = .ok batches := by
  obtain ⟨analyzed, hanalyzed, -⟩ := mapM_bind_eq_ok.mp h
  exact ⟨_, compile_eq_ok_iff.mpr ⟨hne, analyzed, hanalyzed, rfl⟩⟩

end Template

end Tabula
