import Tabula.Proofs.Json.Held

/-!
# What crosses the wire

Things that are sent are encoded as JSON, and decoded from it. `Crosses` says of a kind of things
which of them come back as they were, and that whatever was decoded is one of these. Lists and
dictionaries of things cross the wire as the things do.

* `Crosses.list`, `Crosses.dict`: lists and dictionaries.
-/

namespace Tabula

variable {α : Type}

section

variable {toJson : α → Json} {decode : Draft → Except Mismatch α}

theorem Draft.toList?_ofJson {as bs : List α} :
    toList? decode (ofJson (.array (as.map toJson))) = .ok bs ↔
      as.mapM (fun a => decode (ofJson (toJson a))) = .ok bs := by
  rw [toList?_eq_ok]
  simp only [ofJson, ofItems_eq_map, List.map_map, array.injEq, and_true, exists_eq_left',
    List.mapM_map]
  rfl

theorem Draft.toFields?_ofJson {es es' : List (String × α)} :
    toFields? decode (ofJson (.object (es.map fun e => (e.1, toJson e.2)))) = .ok es' ↔
      es.mapM (fun e => field? decode (some e.1, ofJson (toJson e.2))) = .ok es' := by
  rw [toFields?_eq_ok]
  simp only [ofJson, ofFields_eq_map, List.map_map, object.injEq, and_true, exists_eq_left',
    List.mapM_map]
  rfl

end

variable [BEq α]

/-- Things of a kind cross the wire. Those that can be held come back, and equal to what they were
if and only if they survive; then they are the same. -/
structure Crosses (toJson : α → Json) (decode : Draft → Except Mismatch α)
    (IsHeld Survives : α → Prop) : Prop where
  /-- what comes back is equal if it survives, and only then -/
  back : ∀ a, IsHeld a → ∃ b, decode (.ofJson (toJson a)) = .ok b ∧ (b == a ↔ Survives a)
  /-- what survives comes back as it is -/
  same : ∀ a, IsHeld a → Survives a → decode (.ofJson (toJson a)) = .ok a
  /-- what was decoded can be held, and survives -/
  decoded : ∀ d a, d.IsHeld → decode d = .ok a → IsHeld a ∧ Survives a

theorem beq_iff_of_forall₂ {Survives : α → Prop} {as bs : List α}
    (h : List.Forall₂ (fun a b => (b == a ↔ Survives a)) as bs) :
    bs == as ↔ ∀ a ∈ as, Survives a := by
  induction h with
  | nil => exact iff_of_true rfl nofun
  | cons hab _ ih => rw [List.cons_beq_cons, Bool.and_eq_true, hab, ih, List.forall_mem_cons]

namespace Crosses

variable {toJson : α → Json} {decode : Draft → Except Mismatch α} {IsHeld Survives : α → Prop}

/-- What was decoded comes back as it is. -/
theorem again (h : Crosses toJson decode IsHeld Survives) {d : Draft} (hd : d.IsHeld) {a : α}
    (ha : decode d = .ok a) : decode (.ofJson (toJson a)) = .ok a :=
  h.same a (h.decoded d a hd ha).1 (h.decoded d a hd ha).2

/-- **Lists cross the wire** as their items do. -/
theorem list (h : Crosses toJson decode IsHeld Survives) :
    Crosses (fun as => .array (as.map toJson)) (Draft.toList? decode) (fun as => ∀ a ∈ as, IsHeld a)
      (fun as => ∀ a ∈ as, Survives a) where
  back as has := by
    obtain ⟨bs, hbs⟩ := exists_forall₂ fun a ha => h.back a (has a ha)
    exact ⟨bs, Draft.toList?_ofJson.mpr (mapM_of_forall₂ (hbs.imp fun _ _ hb => hb.1)),
      beq_iff_of_forall₂ (hbs.imp fun _ _ hb => hb.2)⟩
  same as has hsurvives := Draft.toList?_ofJson.mpr (mapM_of_forall₂ (List.forall₂_same.mpr
    fun a ha => h.same a (has a ha) (hsurvives a ha)))
  decoded d as hd has := by
    obtain ⟨ds, rfl, hall⟩ := Draft.toList?_eq_ok.mp has
    cases hd with
    | array _ hds =>
      have heach (a : α) (ha : a ∈ as) : IsHeld a ∧ Survives a := by
        obtain ⟨d, hmem, hdecode⟩ := exists_of_mem_mapM hall ha
        exact h.decoded d a (hds d hmem) hdecode
      exact ⟨fun a ha => (heach a ha).1, fun a ha => (heach a ha).2⟩

/-- **Dictionaries cross the wire** as their values do. -/
theorem dict (h : Crosses toJson decode IsHeld Survives) :
    Crosses (fun d : Dict α => .object (d.entries.map fun e => (e.1, toJson e.2)))
      (fun d => Dict.ofList <$> d.toFields? decode) (fun d => ∀ e ∈ d.entries, IsHeld e.2)
      (fun d => ∀ e ∈ d.entries, Survives e.2) where
  back d hd := by
    obtain ⟨es, hes⟩ : ∃ es : List (String × α), List.Forall₂ (fun e e' => e'.1 = e.1 ∧
        decode (.ofJson (toJson e.2)) = .ok e'.2 ∧ (e'.2 == e.2 ↔ Survives e.2)) d.entries es :=
      exists_forall₂ fun e he =>
        (h.back e.2 (hd e he)).imp' (fun b => (e.1, b)) fun b hb => ⟨rfl, hb⟩
    -- the keys are those of a dictionary, so that they are in order already
    have hkeys : es.map Prod.fst = d.entries.map Prod.fst := by
      have hsame := hes.imp fun _ _ he => he.1.symm
      exact (List.forall₂_eq_eq_eq ▸ List.forall₂_map_left_iff.mpr
        (List.forall₂_map_right_iff.mpr hsame) : _ = _).symm
    have hascending : es.Pairwise fun a b => a.1 < b.1 := by
      rw [← List.pairwise_map (R := (· < ·)) (f := Prod.fst), hkeys, List.pairwise_map]
      exact d.ascending
    refine ⟨Dict.ofList es, map_eq_ok.mpr ⟨es, Draft.toFields?_ofJson.mpr (mapM_of_forall₂
      (hes.imp fun _ _ he => Draft.field?_eq_ok.mpr ⟨congrArg some he.1.symm, he.2.1⟩)), rfl⟩, ?_⟩
    change (Dict.ofList es).entries == d.entries ↔ _
    rw [Dict.ofList_entries hascending]
    refine beq_iff_of_forall₂ (hes.imp fun e e' he => ?_)
    change (e'.1 == e.1 && e'.2 == e.2) = true ↔ _
    rw [he.1, beq_self_eq_true, Bool.true_and]
    exact he.2.2
  same d hd hsurvives := by
    refine map_eq_ok.mpr ⟨d.entries, Draft.toFields?_ofJson.mpr (mapM_of_forall₂
      (List.forall₂_same.mpr fun e he => Draft.field?_eq_ok.mpr
        ⟨rfl, h.same e.2 (hd e he) (hsurvives e he)⟩)), ?_⟩
    exact Dict.ext (Dict.ofList_entries d.ascending)
  decoded d a hd ha := by
    obtain ⟨es, hes, rfl⟩ := map_eq_ok.mp ha
    obtain ⟨fs, rfl, hall⟩ := Draft.toFields?_eq_ok.mp hes
    cases hd with
    | object _ hfs =>
      have heach (e : String × α) (he : e ∈ (Dict.ofList es).entries) :
          IsHeld e.2 ∧ Survives e.2 := by
        obtain ⟨f, hmem, hdecode⟩ := exists_of_mem_mapM hall (Dict.mem_of_mem_ofList he)
        exact h.decoded f.2 e.2 (hfs f hmem) (Draft.field?_eq_ok.mp hdecode).2
      exact ⟨fun e he => (heach e he).1, fun e he => (heach e he).2⟩

end Crosses

end Tabula
