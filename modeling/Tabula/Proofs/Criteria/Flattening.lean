import Mathlib.Data.List.Nodup
import Tabula.Criteria.Criterion
import Tabula.Proofs.Template.Analysis

/-!
# Criteria as sets of parameters

A statement written by hand takes a criterion as one set: the values that it writes, and on top of
them the operands that its only group compares columns with. A column that is both written and
compared has one place in the set only, and the operand takes it.

* `Criterion.toParameterSet_eq_error_iff`: what is refused, and with which error.
* `Criterion.isFlat_of_toParameterSet`: what the set has for every column otherwise.
* `Criterion.IsFlat.keeps_iff`: when nothing of the criterion is lost.
-/

namespace Tabula

/-- A dictionary has one entry of a key at most. -/
theorem Dict.eq_of_mem_entries {α : Type} {d : Dict α} {e e' : String × α} (he : e ∈ d.entries)
    (he' : e' ∈ d.entries) (hkey : e.1 = e'.1) : e = e' := by
  have hkeys : (d.entries.map Prod.fst).Nodup := by
    rw [List.Nodup, List.pairwise_map]
    exact d.ascending.imp fun {a b} (hlt : a.1 < b.1) (heq : a.1 = b.1) =>
      String.lt_irrefl b.1 (heq ▸ hlt)
  exact List.inj_on_of_nodup_map hkeys he he' hkey

namespace Condition

variable {c : Condition} {column : String}

/-- The error for a condition that compares a column otherwise than for equality. -/
def notEquality (op : Operator) (column : String) : Error :=
  .invalidInput ("parameter sets only take '=' conditions, got " ++ op.text ++ " on " ++ column)

/-- What is wrong with a condition on a column if it is no equality. -/
inductive Refuses (column : String) (c : Condition) : Error → Prop
  /-- the operator is not supported, or the operands do not fit it -/
  | invalid {e : Error} (h : c.validate column = .error e) : Refuses column c e
  /-- it compares otherwise -/
  | other {op : Operator} (h : c.validate column = .ok op) (hop : op ≠ .eq) :
    Refuses column c (notEquality op column)

/-- The value that a condition compares a column with for equality. A valid equality has exactly
one. -/
def equal (column : String) (c : Condition) : Except Error Value := do
  let op ← c.validate column
  if op = .eq then return c.values.headD .null else throw (notEquality op column)

theorem exists_scalar (h : c.validate column = .ok .eq) : ∃ v, c.operands = [.scalar v] := by
  obtain ⟨op, -, h⟩ := bind_eq_ok.mp h
  by_cases hfits : fits op c.operands
  · rw [if_pos hfits] at h
    cases h
    match hops : c.operands with
    | [.scalar v] => exact ⟨v, rfl⟩
    | [] | [.list _] | _ :: _ :: _ => simp [hops, fits, Operator.isRange, Operator.isMembership,
        Operand.isScalar] at hfits
  · rw [if_neg hfits] at h
    cases h

theorem equal_eq_ok_iff {v : Value} :
    c.equal column = .ok v ↔ c.validate column = .ok .eq ∧ c.operands = [.scalar v] := by
  constructor
  · intro h
    obtain ⟨op, hop, h⟩ := bind_eq_ok.mp h
    by_cases heq : op = .eq
    · subst heq
      obtain ⟨w, hw⟩ := exists_scalar hop
      rw [if_pos rfl, values, hw] at h
      cases h
      exact ⟨hop, hw⟩
    · rw [if_neg heq] at h
      cases h
  · rintro ⟨hop, hv⟩
    rw [equal, hop, values, hv]
    rfl

theorem isOk_equal_iff : (c.equal column).isOk ↔ c.validate column = .ok .eq := by
  constructor
  · intro h
    rcases heq : c.equal column with e | v
    · rw [heq] at h
      cases h
    · exact (equal_eq_ok_iff.mp heq).1
  · intro h
    obtain ⟨v, hv⟩ := exists_scalar h
    rw [equal_eq_ok_iff.mpr ⟨h, hv⟩]
    rfl

theorem equal_eq_error_iff {e : Error} : c.equal column = .error e ↔ c.Refuses column e := by
  constructor
  · intro h
    rw [equal] at h
    rcases hop : c.validate column with e' | op
    · rw [hop] at h
      cases h
      exact .invalid hop
    · by_cases heq : op = .eq
      · -- an equality is not refused
        simp only [hop, heq] at h
        cases h
      · rw [hop] at h
        change (if op = .eq then _ else _) = _ at h
        rw [if_neg heq] at h
        cases h
        exact .other hop heq
  · intro h
    cases h with
    | invalid h =>
      rw [equal, h]
      rfl
    | other h hop =>
      rw [equal, h]
      exact if_neg hop

end Condition

namespace Criterion

/-! ## What is refused -/

/-- A condition of a group with its column, as the operand that it gives the column. -/
def pair (e : String × Condition) : Except Error (String × Value) :=
  (fun v => (e.1, v)) <$> e.2.equal e.1

/-- Conditions are put into a set when all of them have been found to be equalities. -/
theorem addEqualities_eq (set : ParameterSet) (es : List (String × Condition)) :
    addEqualities set es = (fun ps : List (String × Value) =>
      ps.foldl (fun s p => s.insert p.1 p.2) set) <$> es.mapM pair := by
  induction es generalizing set with
  | nil => rfl
  | cons e es ih =>
    obtain ⟨column, c⟩ := e
    rw [addEqualities, List.mapM_cons, pair]
    -- the first condition that is no equality ends it
    rcases hequal : c.equal column with e | v
    · cases Condition.equal_eq_error_iff.mp hequal with
      | invalid h => rw [h]; rfl
      | other h hop => rw [h]; exact if_neg hop
    · obtain ⟨hop, hv⟩ := Condition.equal_eq_ok_iff.mp hequal
      rw [hop]
      change addEqualities _ es = _
      rw [Condition.values, hv, ih]
      change _ = Functor.map _ ((es.mapM pair) >>= fun ps => pure ((column, v) :: ps))
      cases es.mapM pair <;> rfl

theorem pair_eq_ok_iff {e : String × Condition} {p : String × Value} :
    pair e = .ok p ↔ e.2.equal e.1 = .ok p.2 ∧ p.1 = e.1 := by
  rw [pair, map_eq_ok]
  constructor
  · rintro ⟨v, hv, rfl⟩
    exact ⟨hv, rfl⟩
  · rintro ⟨hv, hname⟩
    exact ⟨p.2, hv, Prod.ext hname.symm rfl⟩

theorem pair_eq_error_iff {e : String × Condition} {x : Error} :
    pair e = .error x ↔ e.2.Refuses e.1 x := by
  rw [← Condition.equal_eq_error_iff, pair]
  cases e.2.equal e.1 <;> simp [Functor.map, Except.map]

theorem isOk_pair_iff {e : String × Condition} :
    (pair e).isOk ↔ e.2.validate e.1 = .ok .eq := by
  rw [← Condition.isOk_equal_iff, pair]
  cases e.2.equal e.1 <;> rfl

/-- What is wrong with a criterion if it is no set. -/
inductive Refuses (c : Criterion) : Error → Prop
  /-- there are alternatives -/
  | alternatives (h : 1 < c.groups.length) :
    Refuses c (.invalidInput "parameter sets take at most one where group")
  /-- a condition is no equality; it is the first one, in the order of the columns -/
  | condition {g : WhereGroup} {before after : List (String × Condition)} {column : String}
    {condition : Condition} {e : Error} (hgroup : c.groups = [g])
    (hentries : g.entries = before ++ (column, condition) :: after)
    (hbefore : ∀ x ∈ before, x.2.validate x.1 = .ok .eq) (hcondition : condition.Refuses column e) :
    Refuses c e

/-- All conditions are equalities and hold together. -/
structure IsPlain (c : Criterion) : Prop where
  /-- there are no alternatives -/
  single : c.groups.length ≤ 1
  /-- every condition is an equality -/
  equalities : ∀ g ∈ c.groups, ∀ e ∈ g.entries, e.2.validate e.1 = .ok .eq

theorem toParameterSet_single {c : Criterion} {g : WhereGroup} (h : c.groups = [g]) :
    c.toParameterSet = (fun ps : List (String × Value) =>
      ps.foldl (fun s p => s.insert p.1 p.2) c.values) <$> g.entries.mapM pair := by
  rw [toParameterSet, h]
  exact addEqualities_eq _ _

/-- **A criterion is refused if it has alternatives or a condition that is no equality.** -/
theorem toParameterSet_eq_error_iff {c : Criterion} {e : Error} :
    c.toParameterSet = .error e ↔ c.Refuses e := by
  constructor
  · intro h
    match hgroups : c.groups with
    | [] =>
      rw [toParameterSet, hgroups] at h
      cases h
    | [g] =>
      rw [toParameterSet_single hgroups] at h
      rcases hpairs : g.entries.mapM pair with x | ps
      · rw [hpairs] at h
        cases h
        -- the first entry that is refused, and those before it are not
        obtain ⟨before, entry, after, hentries, hbefore, hentry⟩ := mapM_eq_error.mp hpairs
        exact .condition hgroups hentries (fun y hy => isOk_pair_iff.mp (hbefore y hy))
          (pair_eq_error_iff.mp hentry)
      · rw [hpairs] at h
        cases h
    | _ :: _ :: gs =>
      rw [toParameterSet, hgroups] at h
      cases h
      exact .alternatives (by simp [hgroups])
  · intro h
    cases h with
    | alternatives h =>
      -- fewer than two groups are no alternatives
      match hgroups : c.groups with
      | [] | [_] => simp [hgroups] at h
      | _ :: _ :: _ => rw [toParameterSet, hgroups]
    | condition hgroup hentries hbefore hcondition =>
      have hpairs := mapM_eq_error.mpr ⟨_, _, _, hentries,
        fun y hy => isOk_pair_iff.mpr (hbefore y hy), pair_eq_error_iff.mpr hcondition⟩
      rw [toParameterSet_single hgroup, hpairs]
      rfl

/-- **Every other criterion becomes a set.** -/
theorem isOk_toParameterSet_iff {c : Criterion} : c.toParameterSet.isOk ↔ c.IsPlain := by
  match hgroups : c.groups with
  | [] =>
    rw [toParameterSet, hgroups]
    exact iff_of_true rfl ⟨by simp [hgroups], by simp [hgroups]⟩
  | [g] =>
    rw [toParameterSet_single hgroups]
    constructor
    · intro h
      refine ⟨by simp [hgroups], ?_⟩
      rcases hpairs : g.entries.mapM pair with x | ps
      · rw [hpairs] at h
        cases h
      · rw [hgroups, List.forall_mem_singleton]
        intro e he
        obtain ⟨p, -, hp⟩ := exists_mem_of_mapM hpairs he
        exact (Condition.equal_eq_ok_iff.mp (pair_eq_ok_iff.mp hp).1).1
    · rintro ⟨-, hequalities⟩
      rw [hgroups, List.forall_mem_singleton] at hequalities
      rcases hpairs : g.entries.mapM pair with x | ps
      · -- the refused entry is one of the group's, and those are equalities
        obtain ⟨_, e, _, hentries, -, he⟩ := mapM_eq_error.mp hpairs
        have hok := isOk_pair_iff.mpr (hequalities e (by simp [hentries]))
        rw [he] at hok
        cases hok
      · rfl
  | _ :: _ :: _ =>
    rw [toParameterSet, hgroups]
    exact iff_of_false Bool.false_ne_true fun h => absurd h.single (by simp [hgroups])

/-! ## What there is in the set -/

/-- A set has of every column that is compared the operand, and of any other the value that is
written, if there is one. -/
structure IsFlat (c : Criterion) (set : ParameterSet) : Prop where
  /-- a column that is compared -/
  compared : ∀ g ∈ c.groups, ∀ e ∈ g.entries,
    ∃ v, e.2.operands = [.scalar v] ∧ set.find? e.1 = some v
  /-- another column -/
  others : ∀ column, (∀ g ∈ c.groups, column ∉ g.keys) → set.find? column = c.values.find? column

theorem find?_foldl_insert_of_ne {column : String} {ps : List (String × Value)} {d : ParameterSet}
    (h : ∀ p ∈ ps, p.1 ≠ column) :
    (ps.foldl (fun s p => s.insert p.1 p.2) d).find? column = d.find? column := by
  induction ps generalizing d with
  | nil => rfl
  | cons p ps ih =>
    obtain ⟨hfirst, hrest⟩ := List.forall_mem_cons.mp h
    rw [List.foldl_cons, ih hrest, Dict.find?_insert, if_neg hfirst]

theorem isFlat_of_toParameterSet {c : Criterion} {set : ParameterSet}
    (h : c.toParameterSet = .ok set) : c.IsFlat set := by
  match hgroups : c.groups with
  | [] =>
    rw [toParameterSet, hgroups] at h
    cases h
    exact ⟨by simp [hgroups], fun _ _ => rfl⟩
  | [g] =>
    rw [toParameterSet_single hgroups, map_eq_ok] at h
    obtain ⟨ps, hps, rfl⟩ := h
    constructor
    · intro g' hg e he
      rw [hgroups, List.mem_singleton] at hg
      subst hg
      obtain ⟨p, hp, hpair⟩ := exists_mem_of_mapM hps he
      obtain ⟨hequal, hname⟩ := pair_eq_ok_iff.mp hpair
      refine ⟨p.2, (Condition.equal_eq_ok_iff.mp hequal).2,
        Template.find?_foldl_insert ?_ (.inl ⟨p, hp, hname⟩)⟩
      -- no other condition of the group is on this column
      intro p' hp' hname'
      obtain ⟨e', he', hpair'⟩ := exists_of_mem_mapM hps hp'
      obtain rfl := Dict.eq_of_mem_entries he' he ((pair_eq_ok_iff.mp hpair').2.symm.trans hname')
      exact congrArg Prod.snd (Except.ok.inj (hpair'.symm.trans hpair))
    · intro column hcolumn
      refine find?_foldl_insert_of_ne fun p hp hname => ?_
      obtain ⟨e, he, hpair⟩ := exists_of_mem_mapM hps hp
      have hkey : e.1 = column := (pair_eq_ok_iff.mp hpair).2.symm.trans hname
      exact hcolumn g (by simp [hgroups]) (hkey ▸ List.mem_map_of_mem he)
  | _ :: _ :: _ =>
    rw [toParameterSet, hgroups] at h
    cases h

/-! ## What is lost -/

/-- A set has all that a criterion says: what is written, what is compared, and nothing else. -/
structure Keeps (c : Criterion) (set : ParameterSet) : Prop where
  /-- every column that is written has its value -/
  written : ∀ column v, c.values.find? column = some v → set.find? column = some v
  /-- every column that is compared has its operand -/
  compared : ∀ g ∈ c.groups, ∀ e ∈ g.entries,
    ∃ v, e.2.operands = [.scalar v] ∧ set.find? e.1 = some v
  /-- there are no other columns -/
  only : ∀ column, set.find? column ≠ none →
    c.values.find? column ≠ none ∨ ∃ g ∈ c.groups, column ∈ g.keys

/-- No column is written with one value and compared with another. -/
def Agrees (c : Criterion) : Prop :=
  ∀ g ∈ c.groups, ∀ e ∈ g.entries, ∀ v w, e.2.operands = [.scalar v] →
    c.values.find? e.1 = some w → w = v

theorem Keeps.agrees {c : Criterion} {set : ParameterSet} (h : c.Keeps set) : c.Agrees := by
  intro g hg e he v w hv hw
  obtain ⟨v', hv', hset⟩ := h.compared g hg e he
  obtain rfl : v = v' := by simpa using hv.symm.trans hv'
  exact Option.some.inj ((h.written _ _ hw).symm.trans hset)

/-- **A value that is written is in the set if its column is compared with no other value.** -/
theorem IsFlat.find?_eq_iff {c : Criterion} {set : ParameterSet} (h : c.IsFlat set)
    {column : String} {v : Value} (hv : c.values.find? column = some v) :
    set.find? column = some v ↔
      ∀ g ∈ c.groups, ∀ e ∈ g.entries, e.1 = column → e.2.operands = [.scalar v] := by
  constructor
  · intro hset g hg e he hcolumn
    obtain ⟨w, hw, hfound⟩ := h.compared g hg e he
    rw [hcolumn, hset] at hfound
    rw [hw, Option.some.inj hfound]
  · intro hcompared
    by_cases hcolumn : ∃ g ∈ c.groups, column ∈ g.keys
    · obtain ⟨g, hg, hkey⟩ := hcolumn
      obtain ⟨e, he, rfl⟩ := List.mem_map.mp hkey
      obtain ⟨w, hw, hfound⟩ := h.compared g hg e he
      obtain rfl : w = v := by simpa using hw.symm.trans (hcompared g hg e he rfl)
      exact hfound
    · rw [h.others column fun g hg hkey => hcolumn ⟨g, hg, hkey⟩, hv]

/-- **Nothing is lost if no column is written with one value and compared with another.** -/
theorem IsFlat.keeps_iff {c : Criterion} {set : ParameterSet} (h : c.IsFlat set) :
    c.Keeps set ↔ c.Agrees := by
  refine ⟨Keeps.agrees, fun hagrees => ⟨fun column w hw => ?_, h.compared, fun column hne => ?_⟩⟩
  · refine (h.find?_eq_iff hw).mpr fun g hg e he hcolumn => ?_
    obtain ⟨v, hv, -⟩ := h.compared g hg e he
    rw [hv, hagrees g hg e he v w hv (hcolumn ▸ hw)]
  · by_cases hcolumn : ∃ g ∈ c.groups, column ∈ g.keys
    · exact .inr hcolumn
    · rw [h.others column fun g hg hkey => hcolumn ⟨g, hg, hkey⟩] at hne
      exact .inl hne

end Criterion

end Tabula
