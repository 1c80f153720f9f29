import Tabula.Criteria.Criterion
import Tabula.Proofs.Value.Wire

/-!
# Criteria that survive the wire

On the wire an array is a list of operands, so a single operand must not be one. Apart from that an
operand comes back if its values do, a condition if its operands do, and so on up to a combined
change. Whatever was decoded comes back as it is.

* `Condition.ofItems_items`: which conditions come back.
* `Criterion.crosses`, `Diff.crosses`: which criteria and combined changes do.
* `wire_exact`: all of it.
-/

namespace Tabula

/-! ## Equality -/

/-- Equality of operands. -/
def Operand.beq : Operand → Operand → Bool
  | .scalar v, .scalar w => v == w
  | .list vs, .list ws => vs == ws
  | _, _ => false

instance : BEq Operand := ⟨Operand.beq⟩

instance : BEq Condition := ⟨fun a b => a.operator == b.operator && a.operands == b.operands⟩

instance : BEq Criterion := ⟨fun a b => a.groups == b.groups && a.values == b.values⟩

instance : BEq Diff := ⟨fun a b => a.select == b.select && a.update == b.update &&
  a.insert == b.insert && a.delete == b.delete⟩

/-! ## Operands -/

/-- The value is an array of JSON. -/
def Value.isArray : Value → Bool
  | .json (.array _) => true
  | _ => false

theorem Value.toJson_ne_array {v : Value} (h : v.Survives) (ha : v.isArray = false)
    (items : List Json) : v.toJson ≠ .array items := by
  intro hitems
  cases v with
  | float x =>
    have hx : x.isFinite := h
    rw [toJson, JsonNumber.ofDouble?, dif_pos hx] at hitems
    cases hitems
  | json j =>
    obtain rfl : j = .array items := hitems
    cases ha
  | blob bytes => cases h
  | _ => cases hitems

namespace Operand

/-- The values can be held. -/
def IsHeld : Operand → Prop
  | .scalar v => v.IsHeld
  | .list vs => ∀ v ∈ vs, v.IsHeld

/-- The values survive, and a single one is no array. -/
def Survives : Operand → Prop
  | .scalar v => v.Survives ∧ v.isArray = false
  | .list vs => ∀ v ∈ vs, v.Survives

variable {o : Operand} {j : Json}

theorem ofJson_of_ne_array (h : ∀ items, j ≠ .array items) : ofJson j = .scalar (.ofJson j) := by
  cases j with
  | array items => exact absurd rfl (h items)
  | _ => rfl

/-- What survives is the same when it comes back. -/
theorem ofJson_toJson (h : o.Survives) : ofJson o.toJson = o := by
  cases o with
  | scalar v =>
    obtain ⟨hv, ha⟩ := h
    rw [toJson, ofJson_of_ne_array (Value.toJson_ne_array hv ha), Value.ofJson_toJson hv]
  | list vs =>
    rw [toJson, ofJson, List.map_map]
    exact congrArg list ((List.map_congr_left fun v hv => Value.ofJson_toJson (h v hv)).trans
      (List.map_id vs))

/-- **Which operands come back.** -/
theorem ofJson_toJson_beq_iff (o : Operand) : ofJson o.toJson == o ↔ o.Survives := by
  cases o with
  | scalar v =>
    by_cases hj : ∃ items, v.toJson = .array items
    · -- a list comes back
      obtain ⟨items, hitems⟩ := hj
      have hlist : ofJson (toJson (.scalar v)) = .list (items.map Value.ofJson) :=
        congrArg ofJson hitems
      rw [hlist]
      exact iff_of_false Bool.false_ne_true fun h => Value.toJson_ne_array h.1 h.2 items hitems
    · have ha : v.isArray = false := by
        refine Bool.eq_false_iff.mpr fun ha => hj ?_
        cases v with
        | json j =>
          cases j with
          | array items => exact ⟨items, rfl⟩
          | _ => cases ha
        | _ => cases ha
      rw [toJson, ofJson_of_ne_array fun items h => hj ⟨items, h⟩]
      exact (Value.ofJson_toJson_beq_iff v).trans ⟨fun h => ⟨h, ha⟩, And.left⟩
  | list vs =>
    rw [toJson, ofJson, List.map_map]
    refine beq_iff_of_forall₂ (List.forall₂_map_right_iff.mpr ?_)
    exact List.forall₂_same.mpr fun v _ => Value.ofJson_toJson_beq_iff v

theorem isHeld_toJson (h : o.IsHeld) : o.toJson.IsHeld := by
  cases o with
  | scalar v => exact Value.isHeld_toJson h
  | list vs => exact .array (List.forall_mem_map.mpr fun v hv => Value.isHeld_toJson (h v hv))

/-- What JSON is read as can be held, and survives. -/
theorem survives_ofJson (h : j.IsHeld) : (ofJson j).IsHeld ∧ (ofJson j).Survives := by
  by_cases hj : ∃ items, j = .array items
  · obtain ⟨items, rfl⟩ := hj
    cases h with
    | array h =>
      exact ⟨List.forall_mem_map.mpr fun j hj => (Value.survives_ofJson (h j hj)).1,
        List.forall_mem_map.mpr fun j hj => (Value.survives_ofJson (h j hj)).2⟩
  · obtain ⟨hheld, hsurvives⟩ := Value.survives_ofJson h
    rw [ofJson_of_ne_array fun items h => hj ⟨items, h⟩]
    refine ⟨hheld, hsurvives, ?_⟩
    cases j with
    | array items => exact absurd ⟨items, rfl⟩ hj
    | number n =>
      rw [Value.ofJson, JsonNumber.toValue.eq_def]
      repeat split
      all_goals rfl
    | _ => rfl

end Operand

/-! ## Conditions -/

namespace Condition

/-- The values can be held. -/
def IsHeld (c : Condition) : Prop := ∀ o ∈ c.operands, o.IsHeld

/-- The operands survive. -/
def Survives (c : Condition) : Prop := ∀ o ∈ c.operands, o.Survives

/-- The items of the JSON array of a condition. -/
def items (c : Condition) : List Json := .string c.operator :: c.operands.map Operand.toJson

variable {c : Condition}

/-- **Which conditions come back.** -/
theorem ofItems_items (c : Condition) :
    ∃ c', ofItems c.items = .ok c' ∧ (c' == c ↔ c.Survives) := by
  refine ⟨_, rfl, ?_⟩
  change (c.operator == c.operator && _ == c.operands) = true ↔ _
  rw [beq_self_eq_true, Bool.true_and, List.map_map]
  refine beq_iff_of_forall₂ (List.forall₂_map_right_iff.mpr ?_)
  exact List.forall₂_same.mpr fun o _ => Operand.ofJson_toJson_beq_iff o

/-- What survives is the same when it comes back. -/
theorem ofItems_of_survives (h : c.Survives) : ofItems c.items = .ok c := by
  have hoperands : (c.operands.map Operand.toJson).map Operand.ofJson = c.operands := by
    rw [List.map_map]
    exact (List.map_congr_left fun o ho => Operand.ofJson_toJson (h o ho)).trans (List.map_id _)
  rw [items, ofItems, hoperands]

theorem decode_ofJson (h : c.IsHeld) : decode (.ofJson c.toJson) = ofItems c.items := by
  have hitems : c.items.mapM (fun j => Draft.toJson? (.ofJson j)) = .ok c.items :=
    mapM_of_forall₂ (List.forall₂_same.mpr (List.forall_mem_cons.mpr ⟨rfl,
      List.forall_mem_map.mpr fun o ho => Draft.toJson?_ofJson (Operand.isHeld_toJson (h o ho))⟩))
  have htoList : Draft.toList? Draft.toJson? (.ofJson c.toJson) = .ok c.items := by
    have := Draft.toList?_ofJson.mpr hitems
    rwa [List.map_id'] at this
  rw [decode, htoList]
  rfl

/-- **Conditions cross the wire.** -/
theorem crosses : Crosses toJson decode IsHeld Survives where
  back c hc := by
    rw [decode_ofJson hc]
    exact ofItems_items c
  same c hc hsurvives := (decode_ofJson hc).trans (ofItems_of_survives hsurvives)
  decoded d c hd hc := by
    obtain ⟨js, hjs, hitems⟩ := bind_eq_ok.mp hc
    obtain ⟨ds, rfl, hall⟩ := Draft.toList?_eq_ok.mp hjs
    cases hd with
    | array _ hds =>
      have hheld (j : Json) (hj : j ∈ js) : j.IsHeld := by
        obtain ⟨d, hmem, hdecode⟩ := exists_of_mem_mapM hall hj
        exact Draft.isHeld_of_toJson? (hds d hmem) hdecode
      rw [ofItems.eq_def] at hitems
      split at hitems
      case h_1 => cases hitems
      case h_2 operator operands =>
        cases hitems
        have heach (j : Json) (hj : j ∈ operands) := Operand.survives_ofJson
          (hheld j (List.mem_cons_of_mem _ hj))
        exact ⟨List.forall_mem_map.mpr fun j hj => (heach j hj).1,
          List.forall_mem_map.mpr fun j hj => (heach j hj).2⟩
      case h_3 => cases hitems

end Condition

/-! ## Criteria -/

/-- A part of a record is filled if it has not been found before. -/
theorem Draft.fill_eq_ok {α σ : Type} {found : Option α} {value : Except Mismatch α}
    {record : Option α → σ} {s : σ} : (do return record (← once found value)) = Except.ok s ↔
      found = none ∧ ∃ a, value = .ok a ∧ record (some a) = s := by
  cases found with
  | some a => exact ⟨nofun, nofun⟩
  | none =>
    cases value with
    | error e => exact ⟨nofun, nofun⟩
    | ok a =>
      constructor
      · exact fun h => ⟨rfl, a, rfl, Except.ok.inj h⟩
      · rintro ⟨-, _, h, hs⟩
        cases h
        exact congrArg _ hs

namespace Criterion

/-- The values can be held. -/
def IsHeld (c : Criterion) : Prop :=
  (∀ g ∈ c.groups, ∀ e ∈ g.entries, e.2.IsHeld) ∧ ∀ e ∈ c.values.entries, e.2.IsHeld

/-- The conditions and the values survive. -/
def Survives (c : Criterion) : Prop :=
  (∀ g ∈ c.groups, ∀ e ∈ g.entries, e.2.Survives) ∧ ∀ e ∈ c.values.entries, e.2.Survives

variable {c : Criterion}

/-- A criterion is decoded from its groups and its values. -/
theorem decode_ofJson {gs : List WhereGroup} {vs : Dict Value}
    (hgs : Draft.toList? decodeGroup (.ofJson (.array (c.groups.map fun g =>
      .object (g.entries.map fun e => (e.1, e.2.toJson))))) = .ok gs)
    (hvs : Dict.ofList <$> Draft.toFields? Value.decode (.ofJson (.object
      (c.values.entries.map fun e => (e.1, e.2.toJson)))) = .ok vs) :
    decode (.ofJson c.toJson) = .ok ⟨gs, vs⟩ := by
  have hwhere : decodeField {} "where" (.ofJson (.array (c.groups.map fun g =>
      .object (g.entries.map fun e => (e.1, e.2.toJson))))) = .ok { groups := some gs } := by
    rw [decodeField, if_pos rfl]
    exact Draft.fill_eq_ok.mpr ⟨rfl, gs, hgs, rfl⟩
  have hvalues : decodeField { groups := some gs } "values" (.ofJson (.object
      (c.values.entries.map fun e => (e.1, e.2.toJson)))) =
        .ok { groups := some gs, values := some vs } := by
    rw [decodeField, if_neg (by decide)]
    exact Draft.fill_eq_ok.mpr ⟨rfl, vs, hvs, rfl⟩
  refine bind_eq_ok.mpr ⟨{ groups := some gs, values := some vs }, ?_, rfl⟩
  refine bind_eq_ok.mpr ⟨_, ?_, rfl⟩
  refine bind_eq_ok.mpr ⟨_, hwhere, ?_⟩
  exact bind_eq_ok.mpr ⟨_, hvalues, rfl⟩

/-- The criterion of what has been found. -/
def Found.criterion (f : Found) : Criterion := ⟨f.groups.getD [], f.values.getD .empty⟩

theorem Found.survives_of_decodeField {f f' : Found} {name : String} {d : Draft} (hd : d.IsHeld)
    (h : decodeField f name d = .ok f') (hf : f.criterion.IsHeld ∧ f.criterion.Survives) :
    f'.criterion.IsHeld ∧ f'.criterion.Survives := by
  obtain ⟨⟨hgs, hvs⟩, hgs', hvs'⟩ := hf
  rw [decodeField] at h
  split at h
  · obtain ⟨-, gs, hdecode, rfl⟩ := Draft.fill_eq_ok.mp h
    obtain ⟨hheld, hsurvives⟩ := Condition.crosses.dict.list.decoded d gs hd hdecode
    exact ⟨⟨hheld, hvs⟩, hsurvives, hvs'⟩
  · obtain ⟨-, vs, hdecode, rfl⟩ := Draft.fill_eq_ok.mp h
    obtain ⟨hheld, hsurvives⟩ := Value.crosses.dict.decoded d vs hd hdecode
    exact ⟨⟨hgs, hheld⟩, hgs', hsurvives⟩

theorem Found.survives_default :
    (criterion {}).IsHeld ∧ (criterion {}).Survives :=
  ⟨⟨fun _ h => absurd h List.not_mem_nil, fun _ h => absurd h List.not_mem_nil⟩,
    fun _ h => absurd h List.not_mem_nil, fun _ h => absurd h List.not_mem_nil⟩

/-- **Criteria cross the wire.** -/
theorem crosses : Crosses toJson decode IsHeld Survives where
  back c hc := by
    obtain ⟨gs, hgs, hgroups⟩ := Condition.crosses.dict.list.back c.groups hc.1
    obtain ⟨vs, hvs, hvalues⟩ := Value.crosses.dict.back c.values hc.2
    refine ⟨⟨gs, vs⟩, decode_ofJson hgs hvs, ?_⟩
    change (gs == c.groups && vs == c.values) = true ↔ _
    rw [Bool.and_eq_true, hgroups, hvalues, Survives]
  same c hc hsurvives := decode_ofJson (Condition.crosses.dict.list.same c.groups hc.1 hsurvives.1)
    (Value.crosses.dict.same c.values hc.2 hsurvives.2)
  decoded d c hd hc := by
    obtain ⟨f, hf, hc⟩ := bind_eq_ok.mp hc
    cases hc
    exact Draft.toRecord?_invariant (P := fun f : Found =>
      f.criterion.IsHeld ∧ f.criterion.Survives) hd
      (fun _ _ _ _ => Found.survives_of_decodeField) Found.survives_default hf

end Criterion

/-! ## Combined changes -/

namespace Diff

/-- All criteria. -/
def criteria (d : Diff) : List Criterion := d.select ++ d.update ++ d.insert ++ d.delete

/-- The values can be held. -/
def IsHeld (d : Diff) : Prop := ∀ c ∈ d.criteria, c.IsHeld

/-- The criteria survive. -/
def Survives (d : Diff) : Prop := ∀ c ∈ d.criteria, c.Survives

variable {d : Diff}

theorem forall_mem_criteria {P : Criterion → Prop} : (∀ c ∈ d.criteria, P c) ↔
    (∀ c ∈ d.select, P c) ∧ (∀ c ∈ d.update, P c) ∧ (∀ c ∈ d.insert, P c) ∧
      ∀ c ∈ d.delete, P c := by
  rw [criteria, List.forall_mem_append, List.forall_mem_append, List.forall_mem_append, and_assoc,
    and_assoc]

/-- The fields of the JSON value are decoded one after the other. -/
theorem decode_ofJson {d' : Diff}
    (hselect : Criterion.decodeList (.ofJson (Criterion.listToJson d.select)) = .ok d'.select)
    (hupdate : Criterion.decodeList (.ofJson (Criterion.listToJson d.update)) = .ok d'.update)
    (hinsert : Criterion.decodeList (.ofJson (Criterion.listToJson d.insert)) = .ok d'.insert)
    (hdelete : Criterion.decodeList (.ofJson (Criterion.listToJson d.delete)) = .ok d'.delete) :
    decode (.ofJson d.toJson) = .ok d' := by
  -- each field finds its own part empty, and leaves the parts behind it so
  let found : Found := ⟨some d'.select, some d'.update, some d'.insert, some d'.delete⟩
  have hfirst : decodeField {} "select" (.ofJson (Criterion.listToJson d.select)) =
      .ok { found with update := none, insert := none, delete := none } := by
    rw [decodeField]
    exact Draft.fill_eq_ok.mpr ⟨rfl, _, hselect, rfl⟩
  have hsecond : decodeField { found with update := none, insert := none, delete := none }
      "update" (.ofJson (Criterion.listToJson d.update)) =
        .ok { found with insert := none, delete := none } := by
    rw [decodeField]
    exact Draft.fill_eq_ok.mpr ⟨rfl, _, hupdate, rfl⟩
  have hthird : decodeField { found with insert := none, delete := none }
      "insert" (.ofJson (Criterion.listToJson d.insert)) = .ok { found with delete := none } := by
    rw [decodeField]
    exact Draft.fill_eq_ok.mpr ⟨rfl, _, hinsert, rfl⟩
  have hlast : decodeField { found with delete := none }
      "delete" (.ofJson (Criterion.listToJson d.delete)) = .ok found := by
    rw [decodeField.eq_4 _ _ _ (by decide) (by decide) (by decide)]
    exact Draft.fill_eq_ok.mpr ⟨rfl, _, hdelete, rfl⟩
  refine bind_eq_ok.mpr ⟨found, ?_, rfl⟩
  refine bind_eq_ok.mpr ⟨_, ?_, rfl⟩
  refine bind_eq_ok.mpr ⟨_, hfirst, ?_⟩
  refine bind_eq_ok.mpr ⟨_, hsecond, ?_⟩
  refine bind_eq_ok.mpr ⟨_, hthird, ?_⟩
  exact bind_eq_ok.mpr ⟨_, hlast, rfl⟩

/-- The combined change of what has been found. -/
def Found.diff (f : Found) : Diff :=
  ⟨f.select.getD [], f.update.getD [], f.insert.getD [], f.delete.getD []⟩

theorem Found.survives_of_decodeField {f f' : Found} {name : String} {d : Draft} (hd : d.IsHeld)
    (h : decodeField f name d = .ok f') (hf : ∀ c ∈ f.diff.criteria, c.IsHeld ∧ c.Survives) :
    ∀ c ∈ f'.diff.criteria, c.IsHeld ∧ c.Survives := by
  have hlist {cs : List Criterion} (h : Criterion.decodeList d = .ok cs) :
      ∀ c ∈ cs, c.IsHeld ∧ c.Survives := by
    obtain ⟨hheld, hsurvives⟩ := Criterion.crosses.list.decoded d cs hd h
    exact fun c hc => ⟨hheld c hc, hsurvives c hc⟩
  obtain ⟨hselect, hupdate, hinsert, hdelete⟩ := forall_mem_criteria.mp hf
  rw [decodeField.eq_def] at h
  -- whatever the name is, one of the four lists is the decoded one
  split at h
  all_goals obtain ⟨-, cs, hdecode, rfl⟩ := Draft.fill_eq_ok.mp h
  · exact forall_mem_criteria.mpr ⟨hlist hdecode, hupdate, hinsert, hdelete⟩
  · exact forall_mem_criteria.mpr ⟨hselect, hlist hdecode, hinsert, hdelete⟩
  · exact forall_mem_criteria.mpr ⟨hselect, hupdate, hlist hdecode, hdelete⟩
  · exact forall_mem_criteria.mpr ⟨hselect, hupdate, hinsert, hlist hdecode⟩

/-- **Combined changes cross the wire.** -/
theorem crosses : Crosses toJson decode IsHeld Survives where
  back d hd := by
    obtain ⟨hselect, hupdate, hinsert, hdelete⟩ := forall_mem_criteria.mp hd
    obtain ⟨select, hs, hseq⟩ := Criterion.crosses.list.back d.select hselect
    obtain ⟨update, hu, hueq⟩ := Criterion.crosses.list.back d.update hupdate
    obtain ⟨insert, hi, hieq⟩ := Criterion.crosses.list.back d.insert hinsert
    obtain ⟨delete, he, heeq⟩ := Criterion.crosses.list.back d.delete hdelete
    refine ⟨⟨select, update, insert, delete⟩, decode_ofJson hs hu hi he, ?_⟩
    change (select == d.select && update == d.update && insert == d.insert &&
      delete == d.delete) = true ↔ _
    rw [Bool.and_eq_true, Bool.and_eq_true, Bool.and_eq_true, hseq, hueq, hieq, heeq, Survives,
      forall_mem_criteria, and_assoc, and_assoc]
  same d hd hsurvives := by
    obtain ⟨hselect, hupdate, hinsert, hdelete⟩ := forall_mem_criteria.mp hd
    obtain ⟨hselect', hupdate', hinsert', hdelete'⟩ := forall_mem_criteria.mp hsurvives
    exact decode_ofJson (Criterion.crosses.list.same _ hselect hselect')
      (Criterion.crosses.list.same _ hupdate hupdate')
      (Criterion.crosses.list.same _ hinsert hinsert')
      (Criterion.crosses.list.same _ hdelete hdelete')
  decoded d c hd hc := by
    obtain ⟨f, hf, hc⟩ := bind_eq_ok.mp hc
    cases hc
    have hall := Draft.toRecord?_invariant (P := fun f : Found =>
      ∀ c ∈ f.diff.criteria, c.IsHeld ∧ c.Survives) hd
      (fun _ _ _ _ => Found.survives_of_decodeField) (fun _ h => absurd h List.not_mem_nil) hf
    exact ⟨fun c hc => (hall c hc).1, fun c hc => (hall c hc).2⟩

end Diff

/-! ## All of it -/

/-- **What survives the wire.** A value comes back equal if and only if it survives; a condition, if
and only if its operands do; a criterion and a combined change, if and only if all that is in them
does. Whatever was decoded comes back as it is, from a text as well as from a JSON value. -/
theorem wire_exact :
    (∀ v : Value, Value.ofJson v.toJson == v ↔ v.Survives) ∧
      (∀ c : Condition, ∃ c', Condition.ofItems c.items = .ok c' ∧ (c' == c ↔ c.Survives)) ∧
      (∀ c : Criterion, c.IsHeld →
        ∃ c', Criterion.decode (.ofJson c.toJson) = .ok c' ∧ (c' == c ↔ c.Survives)) ∧
      (∀ d : Diff, d.IsHeld →
        ∃ d', Diff.decode (.ofJson d.toJson) = .ok d' ∧ (d' == d ↔ d.Survives)) ∧
      (∀ d : Draft, d.IsHeld →
        (∀ v, Value.decode d = .ok v → Value.decode (.ofJson v.toJson) = .ok v) ∧
        (∀ c, Condition.decode d = .ok c → Condition.decode (.ofJson c.toJson) = .ok c) ∧
        (∀ c, Criterion.decode d = .ok c → Criterion.decode (.ofJson c.toJson) = .ok c) ∧
        ∀ c, Diff.decode d = .ok c → Diff.decode (.ofJson c.toJson) = .ok c) ∧
      (∀ text, (Draft.read text).1.IsHeld) ∧ ∀ j : Json, j.IsHeld → (Draft.ofJson j).IsHeld :=
  ⟨Value.ofJson_toJson_beq_iff, Condition.ofItems_items, Criterion.crosses.back, Diff.crosses.back,
    fun _ hd => ⟨fun _ => Value.crosses.again hd, fun _ => Condition.crosses.again hd,
      fun _ => Criterion.crosses.again hd, fun _ => Diff.crosses.again hd⟩,
    Draft.isHeld_read, fun _ => Draft.isHeld_ofJson⟩

/-- A criterion with a list that has an array among its items, and with a value. -/
def carrying (v : Value) : Criterion :=
  (({} : Criterion).withCondition "tags"
    (.isIn [.json (.array [.string "a", .null]), .float .zero])).withValue "payload" v

theorem isHeld_carrying {v : Value} (h : v.IsHeld) : (carrying v).IsHeld := by
  have harray : (Json.array [.string "a", .null]).IsHeld :=
    .array (List.forall_mem_cons.mpr ⟨.string "a", List.forall_mem_singleton.mpr .null⟩)
  have hoperand : (Operand.list [.json (.array [.string "a", .null]), .float .zero]).IsHeld :=
    List.forall_mem_cons.mpr ⟨harray, List.forall_mem_singleton.mpr trivial⟩
  exact ⟨List.forall_mem_singleton.mpr (List.forall_mem_singleton.mpr
    (List.forall_mem_singleton.mpr hoperand)), List.forall_mem_singleton.mpr h⟩

theorem survives_carrying {v : Value} : (carrying v).Survives ↔ v.Survives := by
  have hzero : Double.zero.isFinite := by decide
  have hoperand : (Operand.list [.json (.array [.string "a", .null]), .float .zero]).Survives :=
    List.forall_mem_cons.mpr ⟨rfl, List.forall_mem_singleton.mpr hzero⟩
  refine ⟨fun h => h.2 ("payload", v) List.mem_cons_self, fun h => ⟨?_, ?_⟩⟩
  · exact List.forall_mem_singleton.mpr (List.forall_mem_singleton.mpr
      (List.forall_mem_singleton.mpr hoperand))
  · exact List.forall_mem_singleton.mpr h

/-- With an object it comes back, with bytes it does not. And a condition that was decoded comes
back. -/
theorem wire_exact_carrying :
    ((carrying (.json (.object [("k", .null)]))).IsHeld ∧
      ∃ c, Criterion.decode (.ofJson (carrying (.json (.object [("k", .null)]))).toJson) = .ok c ∧
        c == carrying (.json (.object [("k", .null)]))) ∧
      ((carrying (.blob [1])).IsHeld ∧
        ∃ c, Criterion.decode (.ofJson (carrying (.blob [1])).toJson) = .ok c ∧
          ¬c == carrying (.blob [1])) ∧
      (Diff.IsHeld { insert := [carrying .null] } ∧
        ∃ d, Diff.decode (.ofJson (Diff.toJson { insert := [carrying .null] })) = .ok d ∧
          d == { insert := [carrying .null] }) ∧
      Condition.decode (.ofJson (Condition.eq (.int 1)).toJson) = .ok (Condition.eq (.int 1)) := by
  have hobject : (carrying (.json (.object [("k", .null)]))).IsHeld :=
    isHeld_carrying (.object (List.forall_mem_singleton.mpr .null) (List.pairwise_singleton _ _))
  have hblob : (carrying (.blob [1])).IsHeld := isHeld_carrying trivial
  have hdiff : Diff.IsHeld { insert := [carrying .null] } :=
    List.forall_mem_singleton.mpr (isHeld_carrying trivial)
  have hdraft : (Draft.array [.string "=", .number (.whole 1)] true).IsHeld :=
    .array true (List.forall_mem_cons.mpr ⟨.string "=", List.forall_mem_singleton.mpr
      (.number ⟨by decide, by decide⟩)⟩)
  obtain ⟨-, -, hcriterion, hdiffs, hdecoded, -, -⟩ := wire_exact
  obtain ⟨c, hc, heq⟩ := hcriterion _ hobject
  obtain ⟨c', hc', heq'⟩ := hcriterion _ hblob
  obtain ⟨d, hd, heqd⟩ := hdiffs _ hdiff
  refine ⟨⟨hobject, c, hc, heq.mpr (survives_carrying.mpr rfl)⟩,
    ⟨hblob, c', hc', fun h => survives_carrying.mp (heq'.mp h)⟩,
    ⟨hdiff, d, hd, heqd.mpr (List.forall_mem_singleton.mpr (survives_carrying.mpr trivial))⟩, ?_⟩
  exact (hdecoded _ hdraft).2.1 (Condition.eq (.int 1)) rfl

end Tabula
