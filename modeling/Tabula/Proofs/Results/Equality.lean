import Tabula.Results.Row

/-!
# Equality of rows

Floating-point numbers in JSON are compared as numbers, so two rows can be equal that are not the
same: their zeros can differ in the sign. What is equal is the same with every zero made positive
(`Json.settled`, `Value.settled`, `Row.settled`), and so equality is an equivalence.

* `Json.beq_iff`, `Value.beq_iff`, `Row.beq_iff`: what is equal.
* `Row.isTwin_iff`: what a hash table takes for one.
-/

namespace Tabula

/-! ## Numbers -/

namespace Double

/-- The number, with zero made positive. -/
def settled (x : Double) : Double := if x.magnitude = 0 then .zero else x

theorem isFinite_settled {x : Double} (h : x.isFinite) : x.settled.isFinite := by
  rw [settled]
  split
  · decide
  · exact h

theorem magnitude_settled (x : Double) : x.settled.magnitude = x.magnitude := by
  rw [settled]
  split
  case isTrue hx =>
    rw [hx]
    decide
  case isFalse => rfl

theorem isNaN_of_isFinite {x : Double} (h : x.isFinite) : x.isNaN = false := by
  simp only [isFinite, isNaN, decide_eq_true_eq, decide_eq_false_iff_not] at h ⊢
  omega

/-- Numbers that are the same once settled are the same, or both zero. -/
theorem settled_eq_iff {x y : Double} :
    x.settled = y.settled ↔ x = y ∨ x.magnitude = 0 ∧ y.magnitude = 0 := by
  constructor
  · -- settling keeps the magnitude, so both are zero or neither is
    intro h
    have hmag : x.magnitude = y.magnitude := by
      rw [← magnitude_settled x, h, magnitude_settled]
    by_cases hx₀ : x.magnitude = 0
    · exact .inr ⟨hx₀, hmag ▸ hx₀⟩
    · rw [settled, settled, if_neg hx₀, if_neg (hmag ▸ hx₀)] at h
      exact .inl h
  · rintro (rfl | ⟨hx₀, hy₀⟩)
    · rfl
    · rw [settled, settled, if_pos hx₀, if_pos hy₀]

/-- Finite numbers are equal as numbers if they are the same or both zero. -/
theorem sameNumber_iff {x y : Double} (hx : x.isFinite) (hy : y.isFinite) :
    x.sameNumber y ↔ x.settled = y.settled := by
  simp only [sameNumber, isNaN_of_isFinite hx, isNaN_of_isFinite hy, Bool.not_false, Bool.true_and,
    Bool.or_eq_true, Bool.and_eq_true, beq_iff_eq, settled_eq_iff]

end Double

/-! ## JSON -/

namespace JsonNumber

/-- The number, with zero made positive. -/
def settled : JsonNumber → JsonNumber
  | .whole n => .whole n
  | .real x h => .real x.settled (Double.isFinite_settled h)

theorem beq_iff (a b : JsonNumber) : a == b ↔ a.settled = b.settled := by
  cases a with
  | whole m =>
    cases b with
    | whole n =>
      have hbeq : (whole m == whole n) = (m == n) := rfl
      rw [hbeq, beq_iff_eq, settled, settled, whole.injEq]
    | real y hy => exact ⟨nofun, nofun⟩
  | real x hx =>
    cases b with
    | whole n => exact ⟨nofun, nofun⟩
    | real y hy =>
      refine (Double.sameNumber_iff hx hy).trans ⟨fun h => ?_, JsonNumber.real.inj⟩
      simp only [settled, h]

end JsonNumber

namespace Json

mutual

/-- The value, with every zero made positive. -/
def settled : Json → Json
  | .null => .null
  | .bool b => .bool b
  | .number n => .number n.settled
  | .string s => .string s
  | .array items => .array (settledItems items)
  | .object fields => .object (settledFields fields)

/-- The items of an array, with every zero made positive. -/
def settledItems : List Json → List Json
  | [] => []
  | j :: js => settled j :: settledItems js

/-- The fields of an object, with every zero made positive. -/
def settledFields : List (String × Json) → List (String × Json)
  | [] => []
  | (k, j) :: fields => (k, settled j) :: settledFields fields

end

mutual

/-- Values are equal if they are the same up to the signs of zeros. -/
theorem beq_iff : ∀ a b : Json, a.beq b ↔ a.settled = b.settled
  | .null, b => by cases b <;> simp [beq, settled]
  | .bool x, b => by cases b <;> simp [beq, settled]
  | .number m, b => by cases b <;> simp [beq, settled, JsonNumber.beq_iff]
  | .string s, b => by cases b <;> simp [beq, settled]
  | .array as, b => by cases b <;> simp [beq, settled, beqItems_iff as]
  | .object as, b => by cases b <;> simp [beq, settled, beqFields_iff as]

/-- So are the items of arrays. -/
theorem beqItems_iff : ∀ as bs : List Json, beqItems as bs ↔ settledItems as = settledItems bs
  | [], bs => by cases bs <;> simp [beqItems, settledItems]
  | a :: as, bs => by cases bs <;> simp [beqItems, settledItems, beq_iff a, beqItems_iff as]

/-- So are the fields of objects. -/
theorem beqFields_iff : ∀ as bs : List (String × Json),
    beqFields as bs ↔ settledFields as = settledFields bs
  | [], bs => by cases bs <;> simp [beqFields, settledFields]
  | (k, a) :: as, bs => by
    cases bs <;> simp [beqFields, settledFields, beq_iff a, beqFields_iff as, and_assoc]

end

end Json

/-! ## Values -/

namespace Value

/-- The value, with every zero in JSON made positive. -/
def settled : Value → Value
  | .json j => .json j.settled
  | v => v

theorem beq_iff (a b : Value) : a == b ↔ a.settled = b.settled := by
  have hbeq : (a == b) = a.beq b := rfl
  rw [hbeq]
  cases a with
  | json j =>
    cases b with
    | json k => exact (Json.beq_iff j k).trans ⟨congrArg _, Value.json.inj⟩
    | _ => exact ⟨nofun, nofun⟩
  | _ => cases b <;> simp [beq, settled]

/-- Equality is an equivalence. -/
instance : EquivBEq Value where
  rfl := (beq_iff _ _).mpr rfl
  symm h := (beq_iff _ _).mpr ((beq_iff _ _).mp h).symm
  trans h h' := (beq_iff _ _).mpr (((beq_iff _ _).mp h).trans ((beq_iff _ _).mp h'))

end Value

/-! ## Rows -/

namespace Row

/-- The names, and the values with every zero in JSON made positive. -/
def settled (r : Row) : List String × List Value := (r.columns.names, r.values.map Value.settled)

theorem beq_values_iff (as bs : List Value) :
    as == bs ↔ as.map Value.settled = bs.map Value.settled := by
  induction as generalizing bs with
  | nil => cases bs <;> simp
  | cons a as ih =>
    cases bs with
    | nil => simp
    | cons b bs =>
      rw [List.cons_beq_cons, Bool.and_eq_true, Value.beq_iff, ih, List.map_cons, List.map_cons,
        List.cons.injEq]

theorem beq_iff (a b : Row) : a == b ↔ a.settled = b.settled := by
  have hbeq : (a == b) = (a.columns.names == b.columns.names && a.values == b.values) := rfl
  rw [hbeq, Bool.and_eq_true, beq_iff_eq, beq_values_iff, settled, settled, Prod.mk.injEq]

/-- Equality is an equivalence. -/
instance : EquivBEq Row where
  rfl := (beq_iff _ _).mpr rfl
  symm h := (beq_iff _ _).mpr ((beq_iff _ _).mp h).symm
  trans h h' := (beq_iff _ _).mpr (((beq_iff _ _).mp h).trans ((beq_iff _ _).mp h'))

/-- What a hash table takes for one has equal keys, and is equal. -/
theorem isTwin_iff {a b : Row} : a.isTwin b ↔ a.hashKey = b.hashKey ∧ a == b := by
  rw [isTwin, Bool.and_eq_true, beq_iff_eq]

theorem isTwin_symm {a b : Row} (h : a.isTwin b) : b.isTwin a := by
  obtain ⟨hk, he⟩ := isTwin_iff.mp h
  exact isTwin_iff.mpr ⟨hk.symm, BEq.symm he⟩

theorem isTwin_trans {a b c : Row} (h : a.isTwin b) (h' : b.isTwin c) : a.isTwin c := by
  obtain ⟨hk, he⟩ := isTwin_iff.mp h
  obtain ⟨hk', he'⟩ := isTwin_iff.mp h'
  exact isTwin_iff.mpr ⟨hk.trans hk', BEq.trans he he'⟩

/-- Rows that are taken for one are not told apart. -/
theorem isTwin_congr_left {a b : Row} (h : a.isTwin b) (c : Row) : a.isTwin c = b.isTwin c :=
  Bool.eq_iff_iff.mpr ⟨isTwin_trans (isTwin_symm h), isTwin_trans h⟩

theorem isTwin_congr_right {a b : Row} (h : a.isTwin b) (c : Row) : c.isTwin a = c.isTwin b :=
  Bool.eq_iff_iff.mpr ⟨fun ha => isTwin_trans ha h, fun hb => isTwin_trans hb (isTwin_symm h)⟩

end Row

end Tabula
