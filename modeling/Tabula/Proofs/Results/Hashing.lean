import Mathlib.Data.List.Pairwise
import Tabula.Proofs.Distinct
import Tabula.Proofs.Model.Reconcile
import Tabula.Results.ResultSet

/-!
# Equality and hash keys

A hash table files a JSON value under its text, in which a zero keeps its sign. Equality does not
see that sign. So equal values have equal keys only if they are the same (`Value.hashKey_eq_iff`),
and a hash table takes two rows for one only if they are (`Row.isTwin_iff_eq`): it removes repeated
rows, and counts rows, up to identity.

* `Json.eq_of_chars`: of values that are equal, the text tells the one from the other.
* `ResultSet.pairwise_dedup_iff`: when no two of the rows are equal that are left.
* `mem_deleted_iff`, `mem_inserted_iff`: which rows are reported as removed and as added.
* `hashing_exact`: all of it.
-/

namespace Tabula

/-! ## Zeros -/

namespace Double

/-- A number is its sign and its magnitude. -/
theorem ext_sign {x y : Double} (hs : x.isNegative = y.isNegative)
    (hm : x.magnitude = y.magnitude) : x = y := by
  have hbit : Format.binary64.signBit = 2 ^ 63 := by decide
  have hx := x.bits.toNat_lt
  have hy := y.bits.toNat_lt
  simp only [isNegative, magnitude, hbit, decide_eq_decide, ge_iff_le] at hs hm
  have hbits : x.bits.toNat = y.bits.toNat := by omega
  exact congrArg Double.mk (UInt64.toNat_inj.mp hbits)

/-- The text of a zero. -/
theorem text_of_magnitude {x : Double} (h : x.magnitude = 0) :
    wireLayout.text x = if x.isNegative then ['-', '0', '.', '0'] else ['0', '.', '0'] := by
  have hfinite : x.isFinite := by
    rw [isFinite, h]
    decide
  have hinfinite : x.isInfinite = false := by
    rw [isInfinite, h]
    decide
  have hnan := isNaN_of_isFinite hfinite
  simp only [Layout.text, hnan, hinfinite, h, Bool.false_eq_true, if_false, if_true]
  rfl

end Double

/-! ## The text tells equal values apart -/

/-- Numbers that are equal and begin one text are the same. -/
theorem JsonNumber.eq_of_chars {m n : JsonNumber} {r r' : List Char} (hs : m.settled = n.settled)
    (hc : m.chars ++ r = n.chars ++ r') : m = n ∧ r = r' := by
  cases m with
  | whole m =>
    cases n with
    | whole n =>
      obtain rfl := JsonNumber.whole.inj hs
      exact ⟨rfl, List.append_cancel_left hc⟩
    | real y hy => cases hs
  | real x hx =>
    cases n with
    | whole n => cases hs
    | real y hy =>
      rcases Double.settled_eq_iff.mp (JsonNumber.real.inj hs) with rfl | ⟨hx₀, hy₀⟩
      · exact ⟨rfl, List.append_cancel_left hc⟩
      · -- two zeros; only one of the signs could begin the text
        rw [chars, chars, Double.text_of_magnitude hx₀, Double.text_of_magnitude hy₀] at hc
        have hsign : x.isNegative = y.isNegative := by
          cases hxs : x.isNegative <;> cases hys : y.isNegative <;> simp [hxs, hys] at hc ⊢
        obtain rfl := Double.ext_sign hsign (hx₀.trans hy₀.symm)
        exact ⟨rfl, List.append_cancel_left hc⟩

theorem commas_cons_cons (a b : List Char) (parts : List (List Char)) :
    commas (a :: b :: parts) = a ++ ',' :: commas (b :: parts) := rfl

theorem commas_singleton (a : List Char) : commas [a] = a := List.append_nil a

namespace Json

mutual

/-- Values that are equal and begin one text are the same. -/
theorem eq_of_chars : ∀ (a b : Json) {r r' : List Char}, a.settled = b.settled →
    a.chars ++ r = b.chars ++ r' → a = b ∧ r = r'
  | .null, b, r, r', hs, hc => by
    cases b <;> simp only [settled, reduceCtorEq] at hs
    exact ⟨rfl, List.append_cancel_left hc⟩
  | .bool x, b, r, r', hs, hc => by
    cases b <;> simp only [settled, reduceCtorEq, bool.injEq] at hs
    subst hs
    exact ⟨rfl, List.append_cancel_left hc⟩
  | .number m, b, r, r', hs, hc => by
    cases b <;> simp only [settled, reduceCtorEq, number.injEq] at hs
    obtain ⟨rfl, hr⟩ := JsonNumber.eq_of_chars hs hc
    exact ⟨rfl, hr⟩
  | .string s, b, r, r', hs, hc => by
    cases b <;> simp only [settled, reduceCtorEq, string.injEq] at hs
    subst hs
    exact ⟨rfl, List.append_cancel_left hc⟩
  | .array as, b, r, r', hs, hc => by
    cases b <;> simp only [settled, reduceCtorEq, array.injEq] at hs
    simp only [chars, List.cons_append, List.append_assoc, List.cons.injEq, true_and] at hc
    obtain ⟨rfl, hr⟩ := items_eq_of_chars as _ hs hc
    exact ⟨rfl, List.tail_eq_of_cons_eq hr⟩
  | .object as, b, r, r', hs, hc => by
    cases b <;> simp only [settled, reduceCtorEq, object.injEq] at hs
    simp only [chars, List.cons_append, List.append_assoc, List.cons.injEq, true_and] at hc
    obtain ⟨rfl, hr⟩ := fields_eq_of_chars as _ hs hc
    exact ⟨rfl, List.tail_eq_of_cons_eq hr⟩

/-- So are the items of arrays. -/
theorem items_eq_of_chars : ∀ (as bs : List Json) {r r' : List Char},
    settledItems as = settledItems bs →
    commas (itemChars as) ++ r = commas (itemChars bs) ++ r' → as = bs ∧ r = r'
  | [], [], r, r', _, hc => ⟨rfl, hc⟩
  | [], _ :: _, _, _, hs, _ => by cases hs
  | _ :: _, [], _, _, hs, _ => by cases hs
  | [a], [b], r, r', hs, hc => by
    simp only [itemChars, commas_singleton] at hc
    obtain ⟨rfl, hr⟩ := eq_of_chars a b (List.head_eq_of_cons_eq hs) hc
    exact ⟨rfl, hr⟩
  | [_], _ :: _ :: _, _, _, hs, _ => by simp [settledItems] at hs
  | _ :: _ :: _, [_], _, _, hs, _ => by simp [settledItems] at hs
  | a :: a' :: as, b :: b' :: bs, r, r', hs, hc => by
    simp only [itemChars, commas_cons_cons, List.append_assoc, List.cons_append] at hc
    obtain ⟨rfl, hrest⟩ := eq_of_chars a b (List.head_eq_of_cons_eq hs) hc
    obtain ⟨hitems, hr⟩ := items_eq_of_chars (a' :: as) (b' :: bs)
      (List.tail_eq_of_cons_eq hs) (List.tail_eq_of_cons_eq hrest)
    exact ⟨by rw [hitems], hr⟩

/-- So are the fields of objects. -/
theorem fields_eq_of_chars : ∀ (as bs : List (String × Json)) {r r' : List Char},
    settledFields as = settledFields bs →
    commas (fieldChars as) ++ r = commas (fieldChars bs) ++ r' → as = bs ∧ r = r'
  | [], [], r, r', _, hc => ⟨rfl, hc⟩
  | [], _ :: _, _, _, hs, _ => by cases hs
  | _ :: _, [], _, _, hs, _ => by cases hs
  | [(k, a)], [(l, b)], r, r', hs, hc => by
    obtain ⟨rfl, hab⟩ := Prod.mk.inj (List.head_eq_of_cons_eq hs)
    simp only [fieldChars, commas_singleton, List.append_assoc] at hc
    obtain ⟨rfl, hr⟩ := eq_of_chars a b hab
      (List.tail_eq_of_cons_eq (List.append_cancel_left hc))
    exact ⟨rfl, hr⟩
  | [_], _ :: _ :: _, _, _, hs, _ => by simp [settledFields] at hs
  | _ :: _ :: _, [_], _, _, hs, _ => by simp [settledFields] at hs
  | (k, a) :: a' :: as, (l, b) :: b' :: bs, r, r', hs, hc => by
    obtain ⟨rfl, hab⟩ := Prod.mk.inj (List.head_eq_of_cons_eq hs)
    simp only [fieldChars, commas_cons_cons, List.append_assoc, List.cons_append] at hc
    obtain ⟨rfl, hrest⟩ := eq_of_chars a b hab
      (List.tail_eq_of_cons_eq (List.append_cancel_left hc))
    obtain ⟨hfields, hr⟩ := fields_eq_of_chars (a' :: as) (b' :: bs)
      (List.tail_eq_of_cons_eq hs) (List.tail_eq_of_cons_eq hrest)
    exact ⟨by rw [hfields], hr⟩

end

end Json

/-! ## Keys -/

namespace Value

/-- Equal values have equal keys only if they are the same. -/
theorem hashKey_eq_iff {a b : Value} (h : a == b) : a.hashKey = b.hashKey ↔ a = b := by
  refine ⟨fun hk => ?_, congrArg hashKey⟩
  have hs := (beq_iff a b).mp h
  cases a with
  | json j =>
    cases b <;> simp only [settled, reduceCtorEq] at hs
    have htext : j.chars = _ := String.ofList_inj.mp (HashKey.json.inj hk)
    have hchars := congrArg (· ++ ([] : List Char)) htext
    obtain ⟨rfl, -⟩ := Json.eq_of_chars j _ (Value.json.inj hs) hchars
    rfl
  | _ => cases b <;> first | exact hs | cases hs

end Value

namespace Row

theorem values_eq_of_hashKey {as bs : List Value} (h : as == bs)
    (hk : as.map Value.hashKey = bs.map Value.hashKey) : as = bs := by
  induction as generalizing bs with
  | nil => exact (List.map_eq_nil_iff.mp hk.symm).symm
  | cons a as ih =>
    cases bs with
    | nil => cases hk
    | cons b bs =>
      rw [List.cons_beq_cons, Bool.and_eq_true] at h
      obtain ⟨hhead, htail⟩ := List.cons.inj hk
      rw [(Value.hashKey_eq_iff h.1).mp hhead, ih h.2 htail]

/-- Equal rows have equal keys only if they are the same. -/
theorem hashKey_eq_iff {a b : Row} (h : a == b) : a.hashKey = b.hashKey ↔ a = b := by
  refine ⟨fun hk => ?_, congrArg hashKey⟩
  obtain ⟨hnames, hkeys⟩ := Prod.mk.inj hk
  have hbeq : (a == b) = (a.columns.names == b.columns.names && a.values == b.values) := rfl
  rw [hbeq, Bool.and_eq_true] at h
  exact congrArg₂ Row.mk (Columns.ext_names hnames) (values_eq_of_hashKey h.2 hkeys)

/-- A hash table takes two rows for one only if they are. -/
theorem isTwin_iff_eq {a b : Row} : a.isTwin b ↔ a = b := by
  rw [isTwin_iff]
  constructor
  · rintro ⟨hk, he⟩
    exact (hashKey_eq_iff he).mp hk
  · rintro rfl
    exact ⟨rfl, BEq.refl a⟩

end Row

/-! ## Repeated rows -/

namespace ResultSet

/-- No two rows are equal that are left, exactly if equal rows were the same. -/
theorem pairwise_dedup_iff (s : ResultSet) :
    s.dedup.rows.Pairwise (fun a b => ¬a == b) ↔
      ∀ a ∈ s.rows, ∀ b ∈ s.rows, a == b → a = b := by
  obtain ⟨hnodup, hmem⟩ := nodup_eraseDupsBy Row.isTwin_iff_eq s.rows
  constructor
  · intro hp a ha b hb hab
    by_contra hne
    have hsymm : Std.Symm fun a b : Row => ¬a == b := ⟨fun a b hab hba => hab (BEq.symm hba)⟩
    exact hp.forall ((hmem a).mpr ha) ((hmem b).mpr hb) hne hab
  · intro h
    refine hnodup.imp_of_mem fun ha hb hne hab => hne ?_
    exact h _ ((hmem _).mp ha) _ ((hmem _).mp hb) hab

end ResultSet

/-! ## Rows that were removed and added -/

theorem twins_pos_iff {r : Row} {rows : List Row} : 0 < twins r rows ↔ r ∈ rows := by
  rw [twins, List.countP_pos_iff]
  simp only [Row.isTwin_iff_eq, exists_eq_right]

/-- The rows that are removed are those of which there were more. -/
theorem mem_deleted_iff {old fresh : List Row} {r : Row} :
    r ∈ (reconcile old fresh).2.deleted ↔ twins r fresh < twins r old := by
  have hc := claimRows_claims old (.ofRows fresh) []
  have hperm := hc.perm.countP_eq fun s => s.isTwin r
  rw [List.countP_append] at hperm
  have hleast := hc.least r
  rw [Tally.count_ofRows] at hleast
  rw [← twins_pos_iff]
  change 0 < twins r (claimRows old (.ofRows fresh) []).deleted ↔ _
  change twins r _ + twins r _ = twins r old at hperm
  omega

/-- The rows that are added are those of which there are more now. -/
theorem mem_inserted_iff {old fresh : List Row} {r : Row} :
    r ∈ (reconcile old fresh).2.inserted ↔ twins r old < twins r fresh := by
  have hc := claimRows_claims old (.ofRows fresh) []
  have hleast := hc.least r
  rw [Tally.count_ofRows] at hleast
  have hmatched := hc.matched r
  rw [Tally.count, Nat.zero_add] at hmatched
  rw [← twins_pos_iff]
  change 0 < twins r (leftRows fresh (claimRows old (.ofRows fresh) []).matched) ↔ _
  rw [twins_leftRows, hmatched]
  omega

/-- What a snapshot has after a reconciliation are the fresh rows. -/
theorem mem_reconcile_iff {old fresh : List Row} {r : Row} :
    r ∈ (reconcile old fresh).1 ↔ r ∈ fresh := by
  have hc := claimRows_claims old (.ofRows fresh) []
  have hleast := hc.least r
  rw [Tally.count_ofRows] at hleast
  have hmatched := hc.matched r
  rw [Tally.count, Nat.zero_add] at hmatched
  rw [← twins_pos_iff, ← twins_pos_iff]
  change 0 < twins r (_ ++ leftRows fresh (claimRows old (.ofRows fresh) []).matched) ↔ _
  rw [twins, List.countP_append, ← twins, ← twins, twins_leftRows, hmatched]
  omega

/-- **Equality and hash keys.** Equality is an equivalence, and equal values have equal keys exactly
if they are the same: they may differ in the signs of the zeros of their JSON. So after `dedup` no
two rows are equal exactly if equal rows were the same. And a row is reported as removed while an
equal one is reported as added exactly if the two are not the same, and there was more of the one
before and is more of the other now. -/
theorem hashing_exact (a b : Value) (r t : Row) (s : ResultSet) (old fresh : List Row) :
    (EquivBEq Value ∧ (a == b → (a.hashKey = b.hashKey ↔ a = b))) ∧
      (EquivBEq Row ∧ (r == t → (r.hashKey = t.hashKey ↔ r = t))) ∧
      (s.dedup.rows.Pairwise (fun x y => ¬x == y) ↔
        ∀ x ∈ s.rows, ∀ y ∈ s.rows, x == y → x = y) ∧
      ((∃ d ∈ (reconcile old fresh).2.deleted, ∃ i ∈ (reconcile old fresh).2.inserted, d == i) ↔
        ∃ d i, d == i ∧ d ≠ i ∧ twins d fresh < twins d old ∧ twins i old < twins i fresh) := by
  refine ⟨⟨inferInstance, Value.hashKey_eq_iff⟩, ⟨inferInstance, Row.hashKey_eq_iff⟩,
    s.pairwise_dedup_iff, ?_, ?_⟩
  · rintro ⟨d, hd, i, hi, hdi⟩
    rw [mem_deleted_iff] at hd
    rw [mem_inserted_iff] at hi
    refine ⟨d, i, hdi, ?_, hd, hi⟩
    rintro rfl
    omega
  · rintro ⟨d, i, hdi, -, hd, hi⟩
    exact ⟨d, mem_deleted_iff.mpr hd, i, mem_inserted_iff.mpr hi, hdi⟩

/-- An array of a zero. -/
def zeroes (negative : Bool) : Value :=
  .json (.array [.number (.real (.ofMagnitude negative 0) (by cases negative <;> decide))])

/-- A row of it. -/
def zeroRow (negative : Bool) : Row := .ofPairs [("j", zeroes negative)]

/-- Zeros of both signs are equal and have two keys. So two rows of them are left of a set, and one
is reported as removed while the other is reported as added. -/
theorem hashing_signedZeros :
    (zeroes true == zeroes false ∧ (zeroes true).hashKey ≠ (zeroes false).hashKey) ∧
      (zeroRow true == zeroRow false ∧ (zeroRow true).hashKey ≠ (zeroRow false).hashKey) ∧
      (ResultSet.dedup { rows := [zeroRow true, zeroRow false] }).rows =
        [zeroRow true, zeroRow false] ∧
      (reconcile [zeroRow true] [zeroRow false]).2.deleted = [zeroRow true] ∧
      (reconcile [zeroRow true] [zeroRow false]).2.inserted = [zeroRow false] := by
  refine ⟨⟨?_, ?_⟩, ⟨?_, ?_⟩, ?_, ?_, ?_⟩
  any_goals with_unfolding_all decide
  all_goals with_unfolding_all rfl

end Tabula
