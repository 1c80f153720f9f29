import Tabula.Proofs.Double.Nearest
import Tabula.Proofs.Json.Crossing
import Tabula.Proofs.Results.Equality
import Tabula.Value.Wire

/-!
# Values that survive the wire

On the wire a value is JSON of its own, so values of different kinds can become one: a point of time
becomes a string, bytes become an array of numbers, and a number that is not finite becomes `null`.
And JSON that is no array and no object is read as one of the scalar kinds.

* `Value.ofJson_toJson_beq_iff`: which values come back.
* `Value.crosses`: and which ones over a draft.
-/

namespace Tabula

/-! ## Numbers beyond words with a sign -/

namespace Double

theorem isFinite_ofMagnitude {bits : Nat} (h : bits < Format.binary64.infinity) :
    (ofMagnitude false bits).isFinite := by
  have hsign : Format.binary64.infinity < Format.binary64.signBit := by decide
  rw [isFinite, magnitude_ofMagnitude (Nat.lt_trans h hsign)]
  exact decide_eq_true h

/-- Rounding a natural of 64 bits drops eleven of them if the highest is set. -/
theorem round_lt {m : Nat} (hle : 2 ^ 63 ≤ m) (hlt : m < 2 ^ 64) :
    Format.binary64.round m 1 < Format.binary64.infinity := by
  have hinfinity : Format.binary64.infinity = 2047 * 2 ^ 52 := by decide
  have hlog : m.log2 = 63 := (Nat.log2_eq_iff (by omega)).mpr ⟨hle, hlt⟩
  obtain ⟨-, hsignificand⟩ := significand_bounds (m := m) (by omega)
  rw [round_eq (by omega), hlog, hinfinity]
  omega

/-- A natural of 64 bits that has the highest one is near to a finite number. -/
theorem isFinite_ofInt {n : Int} (hle : 2 ^ 63 ≤ n) (hlt : n < 2 ^ 64) : (ofInt n).isFinite := by
  have hsign : decide (n < 0) = false := decide_eq_false (by omega)
  rw [ofInt, ofQuotient, hsign]
  exact isFinite_ofMagnitude (round_lt (by omega) (by omega))

end Double

/-- The value is an array or an object. -/
def Json.isContainer : Json → Bool
  | .array _ => true
  | .object _ => true
  | _ => false

namespace Value

/-- The value can be held: its JSON can be. -/
def IsHeld : Value → Prop
  | .json j => j.IsHeld
  | _ => True

/-- The value comes back from the wire: it is no point of time and no bytes, a floating-point number
only if it is finite, and JSON only if it is an array or an object. -/
def Survives : Value → Prop
  | .float x => x.isFinite
  | .timestamp _ => False
  | .json j => j.isContainer
  | .blob _ => False
  | _ => True

variable {v : Value} {j : Json}

/-- What survives is the same when it comes back. -/
theorem ofJson_toJson (h : v.Survives) : ofJson v.toJson = v := by
  cases v with
  | int i =>
    rw [toJson, Json.ofInt, ofJson, JsonNumber.toValue, if_pos (fitsSigned_toInt i),
      Int64.ofInt_toInt]
  | float x =>
    have hx : x.isFinite := h
    rw [toJson, JsonNumber.ofDouble?, dif_pos hx]
    rfl
  | json j =>
    cases j with
    | array => rfl
    | object => rfl
    | _ => cases h
  | timestamp t => cases h
  | blob bytes => cases h
  | _ => rfl

/-- **Which values come back from the wire.** -/
theorem ofJson_toJson_beq_iff (v : Value) : ofJson v.toJson == v ↔ v.Survives := by
  refine ⟨fun h => ?_, fun h => by rw [ofJson_toJson h]; exact BEq.rfl⟩
  cases v with
  | int i => trivial
  | text s => trivial
  | bool b => trivial
  | null => trivial
  | float x =>
    by_cases hx : x.isFinite
    · exact hx
    · rw [toJson, JsonNumber.ofDouble?, dif_neg hx] at h
      cases h
  | json j =>
    cases j with
    | array => rfl
    | object => rfl
    | number n =>
      rw [toJson, ofJson, JsonNumber.toValue.eq_def] at h
      repeat split at h
      all_goals cases h
    | _ => cases h
  | timestamp t => cases h
  | blob bytes => cases h

theorem isHeld_toJson (h : v.IsHeld) : v.toJson.IsHeld := by
  have hword (i : Int64) : (Json.ofInt i.toInt).IsHeld :=
    .number ⟨i.le_toInt, Int.lt_trans i.toInt_lt (by decide)⟩
  have hbyte (b : UInt8) : (Json.ofInt b.toNat).IsHeld := by
    have := b.toNat_lt
    exact .number ⟨by omega, by omega⟩
  cases v with
  | int i => exact hword i
  | float x =>
    rw [toJson]
    rcases hx : JsonNumber.ofDouble? x with _ | n
    · exact .null
    · exact .number (JsonNumber.isHeld_ofDouble? hx)
  | text s => exact .string s
  | bool b => exact .bool b
  | timestamp t => exact .string t.text
  | null => exact .null
  | json j => exact h
  | blob bytes => exact .array (List.forall_mem_map.mpr fun b _ => hbyte b)

/-- What a number is read as can be held, and survives. -/
theorem survives_toValue {n : JsonNumber} (h : n.IsHeld) :
    n.toValue.IsHeld ∧ n.toValue.Survives := by
  cases n with
  | whole n =>
    obtain ⟨hle, hlt⟩ := h
    rw [JsonNumber.toValue]
    split
    · exact ⟨trivial, trivial⟩
    case isFalse hfits =>
      have hpow : Nat.pow 2 (64 - 1) = 2 ^ 63 := rfl
      simp only [fitsSigned, hpow, Bool.and_eq_true, decide_eq_true_eq] at hfits
      exact ⟨trivial, Double.isFinite_ofInt (by omega) hlt⟩
  | real x hx => exact ⟨trivial, hx⟩

/-- What JSON is read as can be held, and survives. -/
theorem survives_ofJson (h : j.IsHeld) : (ofJson j).IsHeld ∧ (ofJson j).Survives := by
  cases j with
  | number n =>
    cases h with
    | number h => exact survives_toValue h
  | array items => exact ⟨h, rfl⟩
  | object fields => exact ⟨h, rfl⟩
  | _ => exact ⟨trivial, trivial⟩

theorem decode_ofJson (h : v.IsHeld) : decode (.ofJson v.toJson) = .ok (ofJson v.toJson) := by
  rw [decode, Draft.toJson?_ofJson (isHeld_toJson h)]
  rfl

/-- **Values cross the wire.** -/
theorem crosses : Crosses toJson decode IsHeld Survives where
  back v hv := ⟨_, decode_ofJson hv, ofJson_toJson_beq_iff v⟩
  same v hv hsurvives := (decode_ofJson hv).trans (congrArg _ (ofJson_toJson hsurvives))
  decoded d v hd hv := by
    obtain ⟨j, hj, rfl⟩ := map_eq_ok.mp hv
    exact survives_ofJson (Draft.isHeld_of_toJson? hd hj)

end Value

end Tabula
