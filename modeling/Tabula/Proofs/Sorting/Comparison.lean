import Mathlib.Order.Defs.Unbundled
import Tabula.Proofs.Double.Nearest
import Tabula.Proofs.Sorting.Natural

/-!
# Comparing values and rows

In every mode but the natural one all values are compared in one way, by a number or by a text, and
null comes first. In the natural mode two integers, two numbers and two points of time are each
compared in a way of their own and all other values by their texts. Where two values that are
compared in one way stand in another order by the other, and a third value stands between them, the
order is none: `Clash` says which values these are.

* `isLE_trans_of_not_splits`: two comparisons in one are transitive where none splits the other.
* `splits_nearest_iff`: integers are split by the number that both are rounded to.
* `SortMode.transCmp_iff`, `SortKey.transCmp_iff`: exactly where nothing clashes there is an order.
* `circles_iff`: rows that are in order round and round clash by some key.
* `compareRows_orders`: what this says of rows and lists of keys.
-/

namespace Tabula

/-! ## Comparisons that are orders -/

section

variable {α β : Type} {c d : α → α → Ordering}

/-- Things are in order if what is compared of them is. -/
theorem transCmp_comap [Std.TransCmp c] (f : β → α) : Std.TransCmp fun a b => c (f a) (f b) where
  eq_swap := Std.OrientedCmp.eq_swap
  isLE_trans := Std.TransCmp.isLE_trans

/-- What stands between two things tells how they compare. -/
theorem compare_of_between [Std.TransCmp c] {u v w : α} (hu : (c u w).isLE) (hv : (c w v).isLE) :
    c u v = (c u w).then (c w v) := by
  cases h : c u w with
  | lt => exact Std.TransCmp.lt_of_lt_of_isLE h hv
  | eq => exact Std.TransCmp.congr_left h
  | gt =>
    rw [h] at hu
    cases hu

/-- One thing stands between two others. -/
def Between (d : α → α → Ordering) (u v w : α) : Prop :=
  (d u w).isLE ∧ (d w v).isLE ∨ (d v w).isLE ∧ (d w u).isLE

/-- Two things compare otherwise in one way than in another, by which a third stands between
them. -/
def Splits (c d : α → α → Ordering) (u v w : α) : Prop := c u v ≠ d u v ∧ Between d u v w

instance (u v w : α) : Decidable (Splits c d u v w) :=
  inferInstanceAs (Decidable (_ ∧ (_ ∧ _ ∨ _ ∧ _)))

/-- Two orders that agree agree the other way round. -/
theorem compare_swap_congr [Std.OrientedCmp c] [Std.OrientedCmp d] {u v : α} (h : c u v = d u v) :
    c v u = d v u :=
  calc c v u = (c u v).swap := Std.OrientedCmp.eq_swap
    _ = (d u v).swap := congrArg Ordering.swap h
    _ = d v u := Std.OrientedCmp.eq_swap.symm

/-- Where two orders agree with a third thing they agree, if it stands between. -/
theorem not_splits [Std.TransCmp c] [Std.TransCmp d] {u v w : α} (hu : c u w = d u w)
    (hv : c v w = d v w) : ¬Splits c d u v w := by
  have hu' : c w u = d w u := compare_swap_congr hu
  have hv' : c w v = d w v := compare_swap_congr hv
  rintro ⟨hne, ⟨h, h'⟩ | ⟨h, h'⟩⟩
  · have hc := compare_of_between (c := c) (hu ▸ h) (hv' ▸ h')
    rw [hu, hv', ← compare_of_between h h'] at hc
    exact hne hc
  · have hc := compare_of_between (c := c) (hv ▸ h) (hu' ▸ h')
    rw [hv, hu', ← compare_of_between h h'] at hc
    exact hne (compare_swap_congr hc)

/-- Some pairs are compared in a way of their own and all others in another way. That is transitive
if each way is and no pair of the first kind is split. -/
theorem isLE_trans_of_not_splits [Std.TransCmp d] {e : α → α → Prop} {p : α → Prop}
    (symm : ∀ {u v}, e u v → e v u) (trans : ∀ {u v w}, e u v → e v w → e u w)
    (inner : ∀ {u v w}, p u → p v → p w → e u v → e v w →
      (c u v).isLE → (c v w).isLE → (c u w).isLE)
    (outer : ∀ {u v}, p u → p v → ¬e u v → c u v = d u v)
    (apart : ∀ {u v w}, p u → p v → p w → e u v → ¬e u w → ¬Splits c d u v w)
    {u v w : α} (pu : p u) (pv : p v) (pw : p w) (huv : (c u v).isLE) (hvw : (c v w).isLE) :
    (c u w).isLE := by
  have htrans {a b x : α} : (d a b).isLE → (d b x).isLE → (d a x).isLE := Std.TransCmp.isLE_trans
  have hgt {a b : α} (h : ¬(d a b).isLE) : (d b a).isLE := by
    have hswap : d b a = (d a b).swap := Std.OrientedCmp.eq_swap
    rw [hswap]
    cases hab : d a b <;> simp_all
  have hsame {a b x : α} (pa : p a) (pb : p b) (px : p x) (h : e a b) (h' : ¬e a x)
      (hbetween : Between d a b x) : c a b = d a b := by
    by_contra hne
    exact apart pa pb px h h' ⟨hne, hbetween⟩
  by_cases h₁ : e u v
  · by_cases h₂ : e v w
    · exact inner pu pv pw h₁ h₂ huv hvw
    · -- `u` and `v` are a pair: if `w` stood below `u` it would split them
      have h₃ : ¬e u w := fun h => h₂ (trans (symm h₁) h)
      rw [outer pv pw h₂] at hvw
      rw [outer pu pw h₃]
      by_contra h
      rw [hsame pu pv pw h₁ h₃ (.inr ⟨hvw, hgt h⟩)] at huv
      exact h (htrans huv hvw)
  · rw [outer pu pv h₁] at huv
    by_cases h₂ : e v w
    · -- `v` and `w` are
      have h₃ : ¬e u w := fun h => h₁ (trans h (symm h₂))
      rw [outer pu pw h₃]
      by_contra h
      rw [hsame pv pw pu h₂ (fun h => h₁ (symm h)) (.inr ⟨hgt h, huv⟩)] at hvw
      exact h (htrans huv hvw)
    · rw [outer pv pw h₂] at hvw
      by_cases h₃ : e u w
      · -- `u` and `w` are, and `v` stands between them
        rw [hsame pu pw pv h₃ h₁ (.inl ⟨huv, hvw⟩)]
        exact htrans huv hvw
      · rw [outer pu pw h₃]
        exact htrans huv hvw

end

instance : Std.TransCmp compareText :=
  inferInstanceAs (Std.TransCmp fun s t : String => compare s t)

instance : Std.TransCmp Double.totalCompare := transCmp_comap (c := compare) Double.totalKey

instance : Std.TransCmp Timestamp.compare := by
  have hfields : Std.TransCmp fun a b : List Int => compareOfLessAndEq a b :=
    Std.TransOrd.compareOfLessAndEq_of_lt_trans_of_lt_iff List.lt_trans fun x y => by
      constructor
      · intro h
        exact ⟨List.lt_asymm h, fun heq => List.lt_irrefl _ (heq ▸ h)⟩
      · rintro ⟨h, hne⟩
        by_contra h'
        exact hne (List.le_antisymm (List.not_lt.mp h) (List.not_lt.mp h'))
  exact transCmp_comap (c := fun a b => compareOfLessAndEq a b) Timestamp.fields

/-! ## Values -/

/-- What the natural mode compares in ways of their own. -/
inductive Measure where
  /-- numbers -/
  | number
  /-- points of time -/
  | time
  deriving DecidableEq

namespace Value

/-- The measure of a value, if it has one. -/
def measure? : Value → Option Measure
  | .int _ => some .number
  | .float _ => some .number
  | .timestamp _ => some .time
  | _ => none

/-- Two values are of one measure. -/
def AreMeasured (u v : Value) : Prop := u.measure?.isSome ∧ u.measure? = v.measure?

/-- Two values are integers. -/
def AreWhole (u v : Value) : Prop := u.asInt?.isSome ∧ v.asInt?.isSome

/-- The natural order of the texts of two values. -/
def compareTexts (u v : Value) : Ordering :=
  naturalCompare u.display.toList v.display.toList

instance (u v : Value) : Decidable (AreMeasured u v) := inferInstanceAs (Decidable (_ ∧ _))

instance : Std.TransCmp compareTexts :=
  transCmp_comap (c := naturalCompare) fun v : Value => v.display.toList

/-- Values are measured together in either order. -/
theorem AreMeasured.symm {u v : Value} (h : AreMeasured u v) : AreMeasured v u :=
  ⟨h.2 ▸ h.1, h.2.symm⟩

/-- Values that are measured by one measure each are measured by the same. -/
theorem AreMeasured.trans {u v w : Value} (h : AreMeasured u v) (h' : AreMeasured v w) :
    AreMeasured u w :=
  ⟨h.1, h.2.trans h'.2⟩

/-- Two integers are so in either order. -/
theorem AreWhole.symm {u v : Value} (h : AreWhole u v) : AreWhole v u := ⟨h.2, h.1⟩

/-- The outer two of three integers are integers. -/
theorem AreWhole.trans {u v w : Value} (h : AreWhole u v) (h' : AreWhole v w) : AreWhole u w :=
  ⟨h.1, h'.2⟩

/-- Two integers, with their numbers. -/
theorem AreWhole.cases {u v : Value} (h : AreWhole u v) : ∃ i j, u = .int i ∧ v = .int j := by
  have hint {v : Value} (h : v.asInt?.isSome) : ∃ i, v = .int i := by
    cases v <;> first | exact ⟨_, rfl⟩ | cases h
  obtain ⟨i, rfl⟩ := hint h.1
  obtain ⟨j, rfl⟩ := hint h.2
  exact ⟨i, j, rfl, rfl⟩

/-- Integers and floating-point numbers are measured as numbers. -/
theorem measure?_eq_number {v : Value} :
    v.measure? = some .number ↔ (∃ i, v = .int i) ∨ ∃ x, v = .float x := by
  cases v <;> simp [measure?]

/-- Timestamps are measured as points of time. -/
theorem measure?_eq_time {v : Value} : v.measure? = some .time ↔ ∃ t, v = .timestamp t := by
  cases v <;> simp [measure?]

/-- Values of one measure are numbers or points of time. -/
theorem AreMeasured.cases {u v : Value} (h : AreMeasured u v) :
    (u.measure? = some .number ∧ v.measure? = some .number) ∨
      ∃ s t, u = .timestamp s ∧ v = .timestamp t := by
  obtain ⟨hu, huv⟩ := h
  obtain ⟨m, hm⟩ := Option.isSome_iff_exists.mp hu
  rw [hm] at huv
  cases m with
  | number => exact .inl ⟨hm, huv.symm⟩
  | time =>
    obtain ⟨s, rfl⟩ := measure?_eq_time.mp hm
    obtain ⟨t, rfl⟩ := measure?_eq_time.mp huv.symm
    exact .inr ⟨s, t, rfl, rfl⟩

end Value

open Value (AreMeasured AreWhole)

namespace SortMode

/-- In every mode but the natural one there is an order of all values. -/
theorem transCmp_compareValues {m : SortMode} (h : m ≠ .natural) :
    Std.TransCmp m.compareValues := by
  cases m with
  | natural => exact absurd rfl h
  | numeric => exact transCmp_comap (c := Double.totalCompare) Value.numeric
  | string => exact transCmp_comap (c := compareText) Value.display
  | locale =>
    have hlower := transCmp_comap (c := compareText) fun v : Value => Text.lowercase v.display
    have hplain := transCmp_comap (c := compareText) Value.display
    exact inferInstanceAs (Std.TransCmp (compareLex _ _))
  | caseInsensitive =>
    exact transCmp_comap (c := compareText) fun v : Value => Text.lowercase v.display

instance : Std.TransCmp numeric.compareValues := transCmp_compareValues nofun

/-- Values that are not of one measure are compared by their texts. -/
theorem natural_of_not_areMeasured {u v : Value} (h : ¬AreMeasured u v) :
    natural.compareValues u v = u.compareTexts v := by
  cases u <;> cases v <;> first | exact absurd ⟨rfl, rfl⟩ h | rfl

/-- Numbers that are not both integers are compared as floating-point numbers. -/
theorem natural_of_not_areWhole {u v : Value} (hu : u.measure? = some .number)
    (hv : v.measure? = some .number) (h : ¬AreWhole u v) :
    natural.compareValues u v = numeric.compareValues u v := by
  rcases Value.measure?_eq_number.mp hu with ⟨i, rfl⟩ | ⟨x, rfl⟩ <;>
    rcases Value.measure?_eq_number.mp hv with ⟨j, rfl⟩ | ⟨y, rfl⟩
  · exact absurd ⟨rfl, rfl⟩ h
  · rfl
  · rfl
  · rfl

/-- Comparing two values the other way round gives the other order. -/
theorem compareValues_eq_swap (m : SortMode) (u v : Value) :
    m.compareValues v u = (m.compareValues u v).swap := by
  by_cases hm : m = .natural
  · subst hm
    by_cases h : AreMeasured u v
    · rcases h.cases with ⟨hu, hv⟩ | ⟨s, t, rfl, rfl⟩
      · by_cases hw : AreWhole u v
        · obtain ⟨i, j, rfl, rfl⟩ := hw.cases
          exact (Std.OrientedCmp.eq_swap :
            Ord.compare j.toInt i.toInt = (Ord.compare i.toInt j.toInt).swap)
        · rw [natural_of_not_areWhole hu hv hw, natural_of_not_areWhole hv hu fun h => hw h.symm]
          exact Std.OrientedCmp.eq_swap
      · exact (Std.OrientedCmp.eq_swap : t.compare s = (s.compare t).swap)
    · rw [natural_of_not_areMeasured h, natural_of_not_areMeasured fun h' => h h'.symm]
      exact Std.OrientedCmp.eq_swap
  · have := transCmp_compareValues hm
    exact Std.OrientedCmp.eq_swap

/-- Values that are not null are compared as values. -/
theorem compare_of_isNull {m : SortMode} {u v : Value} (hu : u.isNull = false)
    (hv : v.isNull = false) : m.compare u v = m.compareValues u v := by
  rw [SortMode.compare, hu, hv]

/-- Comparing two values the other way round gives the other order, nulls included. -/
theorem compare_eq_swap (m : SortMode) (u v : Value) : m.compare v u = (m.compare u v).swap := by
  rw [SortMode.compare, SortMode.compare]
  cases u.isNull <;> cases v.isNull
  · exact m.compareValues_eq_swap u v
  · rfl
  · rfl
  · rfl

/-- Null is below everything, so only what is not null counts. -/
theorem compare_isLE_trans {m : SortMode} {u v w : Value}
    (h : u.isNull = false → v.isNull = false → w.isNull = false →
      (m.compareValues u v).isLE → (m.compareValues v w).isLE → (m.compareValues u w).isLE)
    (huv : (m.compare u v).isLE) (hvw : (m.compare v w).isLE) : (m.compare u w).isLE := by
  rw [SortMode.compare] at huv hvw ⊢
  cases hu : u.isNull <;> cases hv : v.isNull <;> cases hw : w.isNull <;>
    rw [hu, hv] at huv <;> rw [hv, hw] at hvw
  case false.false.false => exact h hu hv hw huv hvw
  all_goals first | rfl | cases huv | cases hvw

end SortMode

/-! ## Where the natural mode is no order -/

open SortMode (natural numeric)

/-- Two integers compare as the nearest numbers do, if these are two. -/
theorem compare_toInt_ne_iff {i j : Int64} :
    compare i.toInt j.toInt ≠
        compare (Double.ofInt i.toInt).totalKey (Double.ofInt j.toInt).totalKey ↔
      i ≠ j ∧ (Double.ofInt i.toInt).totalKey = (Double.ofInt j.toInt).totalKey := by
  have hne : i ≠ j ↔ i.toInt ≠ j.toInt := not_congr Int64.toInt_inj.symm
  rw [hne]
  rcases lt_trichotomy i.toInt j.toInt with h | h | h
  · have hle := Double.totalKey_ofInt_le h.le
    rw [Int.compare_eq_lt.mpr h, ne_comm, ne_eq, Int.compare_eq_lt]
    omega
  · rw [h]
    simp
  · have hle := Double.totalKey_ofInt_le h.le
    rw [Int.compare_eq_gt.mpr h, ne_comm, ne_eq, Int.compare_eq_gt]
    omega

/-- Two integers are split by a number exactly if both are rounded to it. -/
theorem splits_nearest_iff {i j : Int64} {x : Double} :
    Splits natural.compareValues numeric.compareValues (.int i) (.int j) (.float x) ↔
      i ≠ j ∧ Double.ofInt i.toInt = x ∧ Double.ofInt j.toInt = x := by
  have hkey (n : ℤ) : (Double.ofInt n).totalKey = x.totalKey ↔ Double.ofInt n = x :=
    ⟨Double.totalKey_injective, congrArg Double.totalKey⟩
  rw [← hkey, ← hkey]
  have hbetween : Between numeric.compareValues (.int i) (.int j) (.float x) ↔
      (Double.ofInt i.toInt).totalKey ≤ x.totalKey ∧ x.totalKey ≤ (Double.ofInt j.toInt).totalKey ∨
        (Double.ofInt j.toInt).totalKey ≤ x.totalKey ∧
          x.totalKey ≤ (Double.ofInt i.toInt).totalKey := by
    -- orders of doubles are orders of their keys
    simp only [← Int.isLE_compare]
    rfl
  have hne : natural.compareValues (.int i) (.int j) ≠ numeric.compareValues (.int i) (.int j) ↔
      i ≠ j ∧ (Double.ofInt i.toInt).totalKey = (Double.ofInt j.toInt).totalKey :=
    compare_toInt_ne_iff
  rw [Splits, hbetween, hne, and_assoc]
  refine and_congr_right fun _ => ?_
  omega

/-- Two integers that are not the same are rounded to one number. -/
def areRounded : Value → Value → Value → Bool
  | .int i, .int j, .float x =>
    i != j && Double.ofInt i.toInt == x && Double.ofInt j.toInt == x
  | _, _, _ => false

/-- Three values of which the natural mode makes no order: two integers and the number that both
are rounded to, or two values of one measure, and between their texts one of another kind, while
their texts stand otherwise than they do. -/
def Clash (u v w : Value) : Prop :=
  areRounded u v w ∨
    AreMeasured u v ∧ ¬AreMeasured u w ∧ w.isNull = false ∧
      Splits natural.compareValues Value.compareTexts u v w

instance (u v w : Value) : Decidable (Clash u v w) :=
  inferInstanceAs (Decidable (_ ∨ _ ∧ _ ∧ _ ∧ _))

/-- What is measured is not null. -/
theorem Value.isNull_of_measure? {v : Value} (h : v.measure?.isSome) : v.isNull = false := by
  cases v <;> first | rfl | cases h

/-- Two different integers and the floating-point number that both are rounded to. -/
theorem areRounded_iff {u v w : Value} :
    areRounded u v w ↔ ∃ i j x, u = .int i ∧ v = .int j ∧ w = .float x ∧
      i ≠ j ∧ Double.ofInt i.toInt = x ∧ Double.ofInt j.toInt = x := by
  constructor
  · intro h
    rw [areRounded.eq_def] at h
    split at h
    · simp only [Bool.and_eq_true, bne_iff_ne, beq_iff_eq, and_assoc] at h
      exact ⟨_, _, _, rfl, rfl, rfl, h⟩
    · cases h
  · rintro ⟨i, j, x, rfl, rfl, rfl, hne, hi, hj⟩
    simp [areRounded, hne, hi, hj]

namespace SortMode

variable {q : Value → Prop}

/-- Numbers that do not clash are in order. -/
theorem natural_isLE_trans_number (apart : ∀ {u v w}, q u → q v → q w → ¬Clash u v w)
    {u v w : Value} (hu : q u) (hv : q v) (hw : q w) (mu : u.measure? = some .number)
    (mv : v.measure? = some .number) (mw : w.measure? = some .number)
    (huv : (natural.compareValues u v).isLE) (hvw : (natural.compareValues v w).isLE) :
    (natural.compareValues u w).isLE := by
  refine isLE_trans_of_not_splits (d := numeric.compareValues) (e := AreWhole)
    (p := fun v => q v ∧ v.measure? = some .number) AreWhole.symm AreWhole.trans ?_ ?_ ?_
    ⟨hu, mu⟩ ⟨hv, mv⟩ ⟨hw, mw⟩ huv hvw
  · -- whole numbers are ordered as integers
    intro a b c _ _ _ hab hbc
    obtain ⟨i, j, rfl, rfl⟩ := hab.cases
    obtain ⟨_, k, -, rfl⟩ := hbc.cases
    exact (Std.TransCmp.isLE_trans : (Ord.compare i.toInt j.toInt).isLE →
      (Ord.compare j.toInt k.toInt).isLE → (Ord.compare i.toInt k.toInt).isLE)
  · intro a b pa pb
    exact natural_of_not_areWhole pa.2 pb.2
  · -- a float splits two whole numbers only if both are rounded to it
    intro a b c pa pb pc hab hac hsplits
    obtain ⟨i, j, rfl, rfl⟩ := hab.cases
    rcases Value.measure?_eq_number.mp pc.2 with ⟨k, rfl⟩ | ⟨x, rfl⟩
    · exact hac ⟨rfl, rfl⟩
    · exact apart pa.1 pb.1 pc.1
        (.inl (areRounded_iff.mpr ⟨_, _, _, rfl, rfl, rfl, splits_nearest_iff.mp hsplits⟩))

/-- Values that do not clash are in order. -/
theorem natural_isLE_trans (apart : ∀ {u v w}, q u → q v → q w → ¬Clash u v w) {u v w : Value}
    (hu : q u) (hv : q v) (hw : q w) (nu : u.isNull = false) (nv : v.isNull = false)
    (nw : w.isNull = false) (huv : (natural.compareValues u v).isLE)
    (hvw : (natural.compareValues v w).isLE) : (natural.compareValues u w).isLE := by
  refine isLE_trans_of_not_splits (d := Value.compareTexts) (e := AreMeasured)
    (p := fun v => q v ∧ v.isNull = false) AreMeasured.symm AreMeasured.trans ?_ ?_ ?_
    ⟨hu, nu⟩ ⟨hv, nv⟩ ⟨hw, nw⟩ huv hvw
  · -- measured values are both numbers or both texts
    intro a b c pa pb pc hab hbc
    rcases hab.cases with ⟨ha, hb⟩ | ⟨s, t, rfl, rfl⟩
    · exact natural_isLE_trans_number apart pa.1 pb.1 pc.1 ha hb (hbc.2 ▸ hb)
    · rcases hbc.cases with ⟨hb, -⟩ | ⟨_, r, -, rfl⟩
      · cases hb
      · exact (Std.TransCmp.isLE_trans : (s.compare t).isLE → (t.compare r).isLE →
          (s.compare r).isLE)
  · intro a b _ _
    exact natural_of_not_areMeasured
  · intro a b c pa pb pc hab hac hsplits
    exact apart pa.1 pb.1 pc.1 (.inr ⟨hab, hac, pc.2, hsplits⟩)

/-- Where there is an order nothing clashes. -/
theorem not_clash [Std.TransCmp fun u v : Subtype q => natural.compare u v] {u v w : Value}
    (hu : q u) (hv : q v) (hw : q w) : ¬Clash u v w := by
  -- two transitive orders that agree on `w` are not split by it
  have hsplits (d : Value → Value → Ordering) [Std.TransCmp d] (nu : u.isNull = false)
      (nv : v.isNull = false) (nw : w.isNull = false)
      (huw : natural.compareValues u w = d u w) (hvw : natural.compareValues v w = d v w) :
      ¬Splits natural.compareValues d u v w := by
    have := transCmp_comap (c := d) fun x : Subtype q => x.1
    have hnot := not_splits (c := fun a b : Subtype q => natural.compare a b)
      (d := fun a b : Subtype q => d a b) (u := ⟨u, hu⟩) (v := ⟨v, hv⟩) (w := ⟨w, hw⟩)
      ((compare_of_isNull nu nw).trans huw) ((compare_of_isNull nv nw).trans hvw)
    rintro ⟨hne, hbetween⟩
    refine hnot ⟨?_, hbetween⟩
    change natural.compare u v ≠ d u v
    rw [compare_of_isNull nu nv]
    exact hne
  rintro (h | ⟨huv, huw, nw, h⟩)
  · obtain ⟨i, j, x, rfl, rfl, rfl, hij⟩ := areRounded_iff.mp h
    exact hsplits numeric.compareValues rfl rfl rfl rfl rfl (splits_nearest_iff.mpr hij)
  · refine hsplits Value.compareTexts (Value.isNull_of_measure? huv.1)
      (Value.isNull_of_measure? huv.symm.1) nw (natural_of_not_areMeasured huw) ?_ h
    exact natural_of_not_areMeasured fun h => huw (huv.trans h)

/-- **A mode makes an order of some values exactly if none of them clash.** -/
theorem transCmp_iff (m : SortMode) (q : Value → Prop) :
    (Std.TransCmp fun u v : Subtype q => m.compare u v) ↔
      (m = .natural → ∀ u v w, q u → q v → q w → ¬Clash u v w) := by
  constructor
  · rintro h rfl u v w hu hv hw
    exact not_clash hu hv hw
  · intro h
    refine { eq_swap := m.compare_eq_swap _ _, isLE_trans := ?_ }
    intro u v w
    refine compare_isLE_trans fun nu nv nw => ?_
    by_cases hm : m = .natural
    · subst hm
      exact natural_isLE_trans (fun hu hv hw => h rfl _ _ _ hu hv hw) u.2 v.2 w.2 nu nv nw
    · have := transCmp_compareValues hm
      exact Std.TransCmp.isLE_trans

end SortMode

/-! ## Rows -/

/-- An order is transitive in both directions or in none. -/
theorem SortDirection.transCmp_apply_iff {α : Type} (d : SortDirection) (c : α → α → Ordering) :
    (Std.TransCmp fun a b => d.apply (c a b)) ↔ Std.TransCmp c := by
  have hswap (c : α → α → Ordering) (h : Std.TransCmp c) :
      Std.TransCmp fun a b => (c a b).swap := by
    have heq : (fun a b => (c a b).swap) = fun a b => c b a := by
      funext a b
      exact Std.OrientedCmp.eq_swap.symm
    rw [heq]
    exact Std.TransCmp.opposite
  cases d with
  | asc => rfl
  | desc =>
    refine ⟨fun h => ?_, hswap c⟩
    have h' := hswap _ h
    simp only [SortDirection.apply, Ordering.swap_swap] at h'
    exact h'

/-- A direction turns around with the order. -/
theorem SortDirection.apply_swap (d : SortDirection) (o : Ordering) :
    d.apply o.swap = (d.apply o).swap := by
  cases d <;> rfl

namespace SortKey

/-- The natural mode makes no order of what some rows hold in the column of a key. -/
def Clashes (k : SortKey) (rows : List Row) : Prop :=
  k.mode = .natural ∧ ∃ a ∈ rows, ∃ b ∈ rows, ∃ c ∈ rows,
    Clash (a.getOrNull k.column) (b.getOrNull k.column) (c.getOrNull k.column)

instance (k : SortKey) (rows : List Row) : Decidable (k.Clashes rows) :=
  inferInstanceAs (Decidable (_ ∧ _))

/-- Comparing two rows by a key the other way round gives the other order. -/
theorem compare_eq_swap (k : SortKey) (a b : Row) : k.compare b a = (k.compare a b).swap := by
  rw [SortKey.compare, SortKey.compare, SortMode.compare_eq_swap, SortDirection.apply_swap]

/-- **A key makes an order of rows exactly if what they hold does not clash.** -/
theorem transCmp_iff (k : SortKey) (rows : List Row) :
    (Std.TransCmp fun a b : {r // r ∈ rows} => k.compare a b) ↔ ¬k.Clashes rows := by
  -- the values that the rows hold in the column
  let q : Value → Prop := fun v => ∃ r ∈ rows, r.getOrNull k.column = v
  have hvalues : (Std.TransCmp fun a b : {r // r ∈ rows} =>
        k.mode.compare (a.1.getOrNull k.column) (b.1.getOrNull k.column)) ↔
      Std.TransCmp fun u v : Subtype q => k.mode.compare u v := by
    constructor
    · intro h
      refine { eq_swap := k.mode.compare_eq_swap _ _, isLE_trans := ?_ }
      rintro ⟨_, a, ha, rfl⟩ ⟨_, b, hb, rfl⟩ ⟨_, c, hc, rfl⟩
      exact h.isLE_trans (a := ⟨a, ha⟩) (b := ⟨b, hb⟩) (c := ⟨c, hc⟩)
    · intro h
      exact transCmp_comap (c := fun u v : Subtype q => k.mode.compare u v)
        fun r : {r // r ∈ rows} => ⟨r.1.getOrNull k.column, r, r.2, rfl⟩
  refine (k.direction.transCmp_apply_iff _).trans (hvalues.trans ((k.mode.transCmp_iff q).trans ?_))
  constructor
  · rintro h ⟨hmode, a, ha, b, hb, c, hc, hclash⟩
    exact h hmode _ _ _ ⟨a, ha, rfl⟩ ⟨b, hb, rfl⟩ ⟨c, hc, rfl⟩ hclash
  · rintro h hmode _ _ _ ⟨a, ha, rfl⟩ ⟨b, hb, rfl⟩ ⟨c, hc, rfl⟩ hclash
    exact h ⟨hmode, a, ha, b, hb, c, hc, hclash⟩

end SortKey

/-- Comparing two rows the other way round gives the other order. -/
theorem compareRows_eq_swap (keys : List SortKey) (a b : Row) :
    compareRows keys b a = (compareRows keys a b).swap := by
  induction keys with
  | nil => rfl
  | cons k ks ih => rw [compareRows, compareRows, ih, k.compare_eq_swap a b, Ordering.swap_then]

/-- A row compares equal to itself. -/
theorem compareRows_self (keys : List SortKey) (r : Row) : compareRows keys r r = .eq := by
  have h := compareRows_eq_swap keys r r
  cases hr : compareRows keys r r <;> rw [hr] at h <;> first | rfl | cases h

/-- Keys of which each makes an order make one together. -/
theorem transCmp_compareRows {keys : List SortKey} {rows : List Row}
    (h : ∀ k ∈ keys, ¬k.Clashes rows) :
    Std.TransCmp fun a b : {r // r ∈ rows} => compareRows keys a b := by
  induction keys with
  | nil => exact { eq_swap := rfl, isLE_trans := fun _ _ => rfl }
  | cons k ks ih =>
    have hk := (k.transCmp_iff rows).mpr (h k List.mem_cons_self)
    have hks := ih fun k' hk' => h k' (List.mem_cons_of_mem k hk')
    exact inferInstanceAs (Std.TransCmp (compareLex
      (fun a b : {r // r ∈ rows} => k.compare a b)
      fun a b : {r // r ∈ rows} => compareRows ks a b))

/-- Keys behind others decide where the others do not. -/
theorem compareRows_append (front back : List SortKey) (a b : Row) :
    compareRows (front ++ back) a b = (compareRows front a b).then (compareRows back a b) := by
  induction front with
  | nil => rfl
  | cons k ks ih => rw [List.cons_append, compareRows, compareRows, ih, Ordering.then_assoc]

/-- By some keys three rows are in order round and round. -/
def Circles (keys : List SortKey) (a b c : Row) : Prop :=
  (compareRows keys a b).isLE ∧ (compareRows keys b c).isLE ∧ compareRows keys c a = .lt

instance (keys : List SortKey) (a b c : Row) : Decidable (Circles keys a b c) :=
  inferInstanceAs (Decidable (_ ∧ _ ∧ _))

/-- Some keys tell no row of three from another. -/
def Level (keys : List SortKey) (a b c : Row) : Prop :=
  compareRows keys a b = .eq ∧ compareRows keys b c = .eq ∧ compareRows keys c a = .eq

instance (keys : List SortKey) (a b c : Row) : Decidable (Level keys a b c) :=
  inferInstanceAs (Decidable (_ ∧ _ ∧ _))

/-- Keys that tell no row of three from another do not matter for whether these circle. -/
theorem circles_append {front back : List SortKey} {a b c : Row} (h : Level front a b c) :
    Circles (front ++ back) a b c ↔ Circles back a b c := by
  simp only [Circles, compareRows_append, h.1, h.2.1, h.2.2, Ordering.eq_then]

/-- The first key that tells two of three rows apart clashes if they are in order round and
round. -/
theorem clashes_of_circles {k : SortKey} {ks : List SortKey} {a b c : Row}
    (h : Circles (k :: ks) a b c) (hne : ¬Level [k] a b c) : k.Clashes [a, b, c] := by
  by_contra hclash
  have htrans := (k.transCmp_iff [a, b, c]).mpr hclash
  -- a row that is not above by all keys is not above by the first
  have hfirst {x y : Row} (h : (compareRows (k :: ks) x y).isLE) : (k.compare x y).isLE := by
    rw [compareRows] at h
    cases hxy : k.compare x y <;> rw [hxy] at h <;> first | rfl | exact h
  have hab := hfirst h.1
  have hbc := hfirst h.2.1
  have hca := hfirst (Ordering.isLE_of_eq_lt h.2.2)
  have hle {x y z : Row} (hx : x ∈ [a, b, c]) (hy : y ∈ [a, b, c]) (hz : z ∈ [a, b, c]) :
      (k.compare x y).isLE → (k.compare y z).isLE → (k.compare x z).isLE :=
    htrans.isLE_trans (a := ⟨x, hx⟩) (b := ⟨y, hy⟩) (c := ⟨z, hz⟩)
  -- neither way above the other means equal
  have heq {x y : Row} (h : (k.compare x y).isLE) (h' : (k.compare y x).isLE) :
      compareRows [k] x y = .eq := by
    rw [k.compare_eq_swap x y] at h'
    rw [compareRows, compareRows, Ordering.then_eq]
    cases hxy : k.compare x y <;> simp_all
  refine hne ⟨heq hab (hle ?_ ?_ ?_ hbc hca), heq hbc (hle ?_ ?_ ?_ hca hab),
    heq hca (hle ?_ ?_ ?_ hab hbc)⟩ <;> simp

/-- Rows are in order round and round exactly if they clash by the first key that tells two of them
apart, and the keys after it do not undo that. -/
theorem circles_iff {keys : List SortKey} {a b c : Row} :
    Circles keys a b c ↔ ∃ front k back, keys = front ++ k :: back ∧ Level front a b c ∧
      k.Clashes [a, b, c] ∧ Circles (k :: back) a b c := by
  constructor
  · intro h
    induction keys with
    | nil => cases h.2.2
    | cons k ks ih =>
      by_cases hk : Level [k] a b c
      · obtain ⟨front, k', back, rfl, hlevel, hrest⟩ := ih ((circles_append hk).mp h)
        refine ⟨k :: front, k', back, rfl, ?_, hrest⟩
        simp only [Level, compareRows, Ordering.then_eq] at hk ⊢
        rw [hk.1, hk.2.1, hk.2.2]
        exact hlevel
      · exact ⟨[], k, ks, rfl, ⟨rfl, rfl, rfl⟩, clashes_of_circles h hk, h⟩
  · rintro ⟨front, k, back, rfl, hlevel, -, h⟩
    exact (circles_append hlevel).mpr h

/-- Rows are in a transitive order if no three of them circle. -/
theorem transCmp_compareRows_iff {keys : List SortKey} {rows : List Row} :
    (Std.TransCmp fun a b : {r // r ∈ rows} => compareRows keys a b) ↔
      ∀ a ∈ rows, ∀ b ∈ rows, ∀ c ∈ rows, ¬Circles keys a b c := by
  constructor
  · rintro htrans a ha b hb c hc ⟨hab, hbc, hca⟩
    have hac : (compareRows keys a c).isLE :=
      htrans.isLE_trans (a := ⟨a, ha⟩) (b := ⟨b, hb⟩) (c := ⟨c, hc⟩) hab hbc
    rw [compareRows_eq_swap, hca] at hac
    cases hac
  · intro h
    refine { eq_swap := compareRows_eq_swap keys _ _, isLE_trans := ?_ }
    intro a b c hab hbc
    rw [compareRows_eq_swap]
    by_contra hca
    refine h a a.2 b b.2 c c.2 ⟨hab, hbc, ?_⟩
    cases hc : compareRows keys c a <;> rw [hc] at hca <;> simp_all

/-- **The order of rows.** Whatever the keys, the comparison of two rows the other way round is the
reverse, and a row is equal to itself. One key makes an order of rows exactly if it does not clash
on them, and keys of which none clashes make one together. Otherwise they make one exactly if no
three rows that clash by a key, and that the keys before it do not tell apart, are in order round
and round by the keys from it on. -/
theorem compareRows_orders (rows : List Row) :
    (∀ keys a b, compareRows keys a a = .eq ∧
      compareRows keys b a = (compareRows keys a b).swap) ∧
    (∀ keys : List SortKey, (∀ k ∈ keys, ¬k.Clashes rows) →
      Std.TransCmp fun a b : {r // r ∈ rows} => compareRows keys a b) ∧
    (∀ k : SortKey, (Std.TransCmp fun a b : {r // r ∈ rows} => compareRows [k] a b) ↔
      ¬k.Clashes rows) ∧
    ∀ keys : List SortKey, (Std.TransCmp fun a b : {r // r ∈ rows} => compareRows keys a b) ↔
      ∀ a ∈ rows, ∀ b ∈ rows, ∀ c ∈ rows, ¬∃ front k back, keys = front ++ k :: back ∧
        Level front a b c ∧ k.Clashes [a, b, c] ∧ Circles (k :: back) a b c := by
  refine ⟨fun keys a b => ⟨compareRows_self keys a, compareRows_eq_swap keys a b⟩,
    fun _ => transCmp_compareRows, fun k => ?_, fun keys => ?_⟩
  · simp only [compareRows, Ordering.then_eq]
    exact k.transCmp_iff rows
  · simp only [← circles_iff]
    exact transCmp_compareRows_iff

/-- A row with one value. -/
def Value.inRow (v : Value) : Row := .ofPairs [("n", v)]

/-- Numbers, a text and null, between which nothing clashes. -/
def mixed : List Row :=
  [.int 3, .float (Double.ofInt 10), .text "x", .null, .int (-4)].map Value.inRow

/-- The natural order first, and then the reversed one of the texts. -/
def twice : List SortKey :=
  [{ column := "n" }, { column := "n", direction := .desc, mode := .string }]

/-- Rows with numbers, texts and nulls by two keys. -/
theorem compareRows_orders_mixed :
    (∀ k ∈ twice, ¬k.Clashes mixed) ∧
      Std.TransCmp fun a b : {r // r ∈ mixed} => compareRows twice a b := by
  have h : ∀ k ∈ twice, ¬k.Clashes mixed := by decide +kernel
  exact ⟨h, (compareRows_orders mixed).2.1 twice h⟩

/-- Two integers, and between them the number that both are rounded to. -/
def rounded : List Row :=
  [.int 9007199254740993, .float (Double.ofInt 9007199254740992), .int 9007199254740992].map
    Value.inRow

/-- Two integers and the number that both are rounded to are no order, and a sort leaves the greater
integer in front of the smaller. Nor are two negative integers and a text between theirs. -/
theorem compareRows_circles :
    Circles [{ column := "n" }] rounded[0] rounded[1] rounded[2] ∧
      sortRows [{ column := "n" }] rounded = rounded ∧
      Circles [{ column := "n" }] (Value.inRow (.int (-2))) (Value.inRow (.int (-1)))
        (Value.inRow (.text "-1x")) := by
  refine ⟨by decide +kernel, ?_, by decide +kernel⟩
  with_unfolding_all rfl

end Tabula
