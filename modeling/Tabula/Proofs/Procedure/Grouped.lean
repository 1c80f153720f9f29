import Tabula.Proofs.Procedure.Singly
import Tabula.Proofs.Results.Combining

/-!
# Criteria that are read together

Criteria are grouped by shape, and each group is sent at once. If the backend looks every statement
with its values up in a table and changes nothing, that cannot be told from running each criterion
alone: it succeeds where all of them do, and what is read is the same, in some order.

* `AnswersFrom`, `AnswersFrom.stepwise`: backends that look everything up.
* `StatementSet.execute_like_each`: together and one by one.
-/

namespace Tabula

/-! ## Backends that look everything up -/

/-- The reply that a table gives to several errands: the first error, if there is one. -/
def Reply.ofLookup : Except Error (List ResultSet) → Reply
  | .ok rs => .done rs
  | .error e => .failed e

/-- Backends have tables with a result set or an error for each statement with its values. They
answer from these, change nothing, and fire no token. -/
structure AnswersFrom {β : Type} [Backend β] (type : QueryType)
    (table : β → Errand → Except Error ResultSet) : Prop where
  /-- what they reply -/
  reply : ∀ (b : β) (sql : String) (sets : List (List Value)),
    (Backend.answer b (.sets sql sets type)).reply =
      .ofLookup ((errands sql sets).mapM (table b))
  /-- they stay what they are -/
  backend : ∀ (b : β) (sql : String) (sets : List (List Value)),
    (Backend.answer b (.sets sql sets type)).backend = b
  /-- nothing else happens -/
  fired : ∀ (b : β) (sql : String) (sets : List (List Value)),
    (Backend.answer b (.sets sql sets type)).fired = []

/-- To look something up is a step that changes nothing. -/
def lookUp {β : Type} (table : β → Errand → Except Error ResultSet) (x : Errand) (b : β) :
    Option (ResultSet × β) :=
  (table b x).toOption.map fun r => (r, b)

variable {β : Type} {table : β → Errand → Except Error ResultSet}

theorem lookUp_eq_some {x : Errand} {b b' : β} {r : ResultSet} :
    lookUp table x b = some (r, b') ↔ table b x = .ok r ∧ b' = b := by
  rw [lookUp]
  rcases table b x with e | r'
  · simp [Except.toOption]
  · simp [Except.toOption, eq_comm]

/-- A walk looks everything up, and nothing changes on it. -/
theorem walk_lookUp {xs : List Errand} {b b' : β} {rs : List ResultSet} :
    walk (lookUp table) xs b = some (rs, b') ↔ xs.mapM (table b) = .ok rs ∧ b' = b := by
  induction xs generalizing rs with
  | nil =>
    rw [walk]
    constructor
    · intro h
      cases h
      exact ⟨rfl, rfl⟩
    · rintro ⟨h, rfl⟩
      cases h
      rfl
  | cons x xs ih =>
    rw [walk, mapM_cons_eq_ok]
    constructor
    · intro h
      obtain ⟨⟨r, b₁⟩, hx, h⟩ := Option.bind_eq_some_iff.mp h
      obtain ⟨⟨rs', b₂⟩, hxs, h⟩ := Option.map_eq_some_iff.mp h
      cases h
      obtain ⟨hr, rfl⟩ := lookUp_eq_some.mp hx
      obtain ⟨hrs, rfl⟩ := ih.mp hxs
      exact ⟨⟨r, rs', hr, hrs, rfl⟩, rfl⟩
    · rintro ⟨⟨r, rs', hr, hrs, rfl⟩, rfl⟩
      simp only [lookUp_eq_some.mpr ⟨hr, rfl⟩, Option.bind_some, ih.mpr ⟨hrs, rfl⟩,
        Option.map_some]

variable [Backend β] {type : QueryType}

/-- **Backends that look everything up go one step at a time.** -/
theorem AnswersFrom.stepwise (h : AnswersFrom type table) :
    Stepwise β type id id (lookUp table) where
  fired := h.fired
  done b sql sets rs _ hreply := by
    rw [h.reply] at hreply
    rcases hlook : (errands sql sets).mapM (table b) with e | rs'
    · rw [hlook] at hreply
      cases hreply
    · rw [hlook] at hreply
      cases hreply
      -- a backend with fixed answers is left as it was by each of them
      rw [List.map_id, h.backend]
      exact walk_lookUp.mpr ⟨hlook, rfl⟩
  walked b sql sets _ hwalk := by
    obtain ⟨⟨rs, b'⟩, hwalk⟩ := Option.isSome_iff_exists.mp hwalk
    have hlook : (errands sql sets).mapM (table b) = .ok rs := (walk_lookUp.mp hwalk).1
    refine ⟨rs, ?_⟩
    rw [h.reply, hlook]
    rfl

omit [Backend β] in
/-- A walk in another order gives the same in another order. -/
theorem Goes.perm_lookUp {style : PlaceholderStyle} {ps qs : List (String × ParameterSet)}
    {b b' : β} {rs : List ResultSet} (hperm : ps.Perm qs)
    (h : Goes (lookUp table) style ps b rs b') :
    ∃ rs', Goes (lookUp table) style qs b rs' b ∧ rs.Perm rs' := by
  obtain ⟨xs, hxs, hwalk⟩ := h
  obtain ⟨hrs, -⟩ := walk_lookUp.mp hwalk
  obtain ⟨ys, hys, hperm₁⟩ := mapM_perm hperm hxs
  obtain ⟨rs', hrs', hperm₂⟩ := mapM_perm hperm₁ hrs
  exact ⟨rs', ⟨ys, hys, walk_lookUp.mpr ⟨hrs', rfl⟩⟩, hperm₂⟩

/-! ## Together and one by one -/

namespace StatementSet

variable {p p' : StatementSet} {s s' : Session β} {r : ResultSet} {rs : List ResultSet}

/-- What runs runs over a connection that is open. -/
theorem isOpen_of_execute (h : AnswersFrom p.template.queryType table)
    (hrun : p.execute.run s = ((.ok r, p'), s')) :
    ∃ c b, p.connection = some c ∧ s.IsOpen c b := by
  obtain ⟨c, hc⟩ := connection_of_execute hrun
  obtain ⟨-, b, b', ps, rs, -, hw, -⟩ := exists_walk_of_execute h.stepwise hc hrun
  exact ⟨c, b, hc, hw.before⟩

theorem isOpen_of_executeEach (h : AnswersFrom p.template.queryType table) {cs : List Criterion}
    (hne : cs ≠ []) (hrun : (p.executeEach cs).run s = (.ok rs, s')) :
    ∃ c b, p.connection = some c ∧ s.IsOpen c b := by
  cases cs with
  | nil => exact absurd rfl hne
  | cons x cs =>
    rw [executeEach] at hrun
    obtain ⟨⟨o₁, p₁⟩, t, h₁, hrun⟩ := Action.bind_eq hrun
    rcases o₁ with halt | r
    · cases (Action.pure_eq hrun).1
    · exact isOpen_of_execute (p := p.alone x) h h₁

/-- What was run together can be run one by one, and gives the same. -/
theorem executeEach_of_execute (h : AnswersFrom p.template.queryType table)
    (hk : p.combination.IsUnion) (hrun : p.execute.run s = ((.ok r, p'), s')) :
    ∃ rs s', (p.executeEach p.criteria).run s = (.ok rs, s') ∧
      r.Same (p.combination.shape (combine rs)) := by
  obtain ⟨c, hc⟩ := connection_of_execute hrun
  obtain ⟨-, b, b', ps, rs₀, hps, hw, hcollapse⟩ := exists_walk_of_execute h.stepwise hc hrun
  obtain ⟨qs, hqs, hperm⟩ := mapM_perm (Template.perm_inBatchOrder _ _) hps
  have hgoes := hw.goes
  rw [List.map_id] at hgoes
  obtain ⟨rs₁, hgoes₁, hperm₁⟩ := hgoes.perm_lookUp hperm
  obtain ⟨rs, t, hall⟩ := executeEach_of_walk h.stepwise hc hw.before hqs hgoes₁
  obtain ⟨b₂, qs₂, rs₂, hqs₂, hw₂, rfl⟩ := exists_walk_of_executeEach h.stepwise hc hw.before hall
  rw [hqs] at hqs₂
  cases hqs₂
  -- what came back one by one is what the table gives
  have hgoes₂ := hw₂.goes
  rw [List.map_id] at hgoes₂
  obtain ⟨rfl, -⟩ := hgoes₁.unique hgoes₂
  rw [collapse_of_isUnion hk] at hcollapse
  cases hcollapse
  exact ⟨_, t, hall, collapse_shaped hk hperm₁⟩

/-- What was run one by one can be run together. -/
theorem execute_of_executeEach (h : AnswersFrom p.template.queryType table)
    (hk : p.combination.IsUnion) (hne : p.criteria ≠ [])
    (hrun : (p.executeEach p.criteria).run s = (.ok rs, s')) :
    ∃ r p' s', p.execute.run s = ((.ok r, p'), s') := by
  obtain ⟨c, b, hc, hs⟩ := isOpen_of_executeEach h hne hrun
  obtain ⟨b', ps, rs₀, hps, hw, rfl⟩ := exists_walk_of_executeEach h.stepwise hc hs hrun
  obtain ⟨qs, hqs, hperm⟩ := mapM_perm (Template.perm_inBatchOrder _ _).symm hps
  have hgoes := hw.goes
  rw [List.map_id] at hgoes
  obtain ⟨rs₁, hgoes₁, -⟩ := hgoes.perm_lookUp hperm
  obtain ⟨rs, b₁, p', t, htogether, -⟩ := execute_of_walk h.stepwise hc hs hne hqs hgoes₁
  have hsettle : settle (.ok rs) p.combination = .ok (p.combination.shape (combine rs)) := by
    change outcomeOf (collapse rs p.combination) = _
    rw [collapse_of_isUnion hk]
    rfl
  exact ⟨_, p', t, hsettle ▸ htogether⟩

/-- **Criteria that are read together are read like one by one.** If the backend looks everything
up, they can be read together if and only if each of them can be read alone. And then the rows are
those of the single result sets put together, each as often as there, or, as a union, each once; the
counts agree, and the keys are the same. -/
theorem execute_like_each (h : AnswersFrom p.template.queryType table)
    (hk : p.combination.IsUnion) (hne : p.criteria ≠ []) (s : Session β) :
    ((p.execute.run s).1.1.isOk ↔ ((p.executeEach p.criteria).run s).1.isOk) ∧
      ∀ r rs, (p.execute.run s).1.1 = .ok r → ((p.executeEach p.criteria).run s).1 = .ok rs →
        ∃ m, collapse rs p.combination = .ok m ∧ r.rows.Perm m.rows ∧
          (p.combination = .union → r.rows.Nodup) ∧ r.affected = m.affected ∧
          r.keys.Perm m.keys := by
  constructor
  · constructor
    · intro hok
      -- one call for all against a call for each, first from left to right
      obtain ⟨r, hr⟩ := exists_of_isOk hok
      obtain ⟨rs, t, hall, -⟩ := executeEach_of_execute h hk (run_of_answer hr)
      rw [hall]
      rfl
    · intro hok
      obtain ⟨rs, hrs⟩ := exists_of_isOk hok
      obtain ⟨r, p', t, htogether⟩ := execute_of_executeEach h hk hne (Prod.ext hrs rfl)
      rw [htogether]
      rfl
  · intro r rs hr hrs
    obtain ⟨rs', t, hall, hsame⟩ := executeEach_of_execute h hk (run_of_answer hr)
    rw [hall] at hrs
    cases hrs
    refine ⟨_, collapse_of_isUnion hk _, hsame.rows, fun hunion => ?_, hsame.affected,
      hsame.keys⟩
    -- only the union without duplicates is without duplicates
    rw [hunion] at hsame
    exact hsame.rows.nodup_iff.mpr (ResultSet.nodup_dedup _)

end StatementSet

/-! ## A backend that is its table -/

/-- A backend that is nothing but a table. -/
structure Tabled where
  /-- the table -/
  table : Errand → Except Error ResultSet

instance : Backend Tabled where
  engine _ := .sqlite
  answer b
    | .batch _ => { reply := .done [], backend := b }
    | .sets sql sets _ => { reply := .ofLookup ((errands sql sets).mapM b.table), backend := b }
  interrupt b := b
  engine_answer b r := by cases r <;> rfl
  engine_interrupt _ := rfl

theorem Tabled.answersFrom (type : QueryType) : AnswersFrom type Tabled.table where
  reply _ _ _ := rfl
  backend _ _ _ := rfl
  fired _ _ _ := rfl

/-- A connection to a table with one row for each value, for whatever statement. -/
def Tabled.echoing : Session Tabled :=
  { connections := [{ backend := ⟨fun x => .ok
      { rows := x.values.map fun v => .ofPairs [("n", v)], affected := x.values.length }⟩ }] }

namespace StatementSet

/-- Three criteria of two shapes, of which two find the same row. -/
def reading : StatementSet where
  connection := some 0
  template := ⟨"SELECT n FROM t WHERE <<condition>>", .select⟩
  combination := .union
  criteria :=
    [({} : Criterion).withCondition "a" (.eq (.int 1)),
      ({} : Criterion).withCondition "b" (.between (.int 1) (.int 2)),
      ({} : Criterion).withCondition "a" (.eq (.int 3))]

theorem execute_like_each_reading : reading.combination.IsUnion ∧ reading.criteria ≠ [] ∧
    ∃ r rs m, (reading.execute.run Tabled.echoing).1.1 = .ok r ∧
      ((reading.executeEach reading.criteria).run Tabled.echoing).1 = .ok rs ∧
      collapse rs .union = .ok m ∧ r.rows.Perm m.rows ∧ r.rows.Nodup ∧ r.affected = m.affected ∧
      r.keys.Perm m.keys := by
  have hk : reading.combination.IsUnion := .inr rfl
  have hne : reading.criteria ≠ [] := List.cons_ne_nil _ _
  obtain ⟨hiff, hsame⟩ :=
    execute_like_each (p := reading) (Tabled.answersFrom .select) hk hne Tabled.echoing
  have hok : (reading.execute.run Tabled.echoing).1.1.isOk := by decide +kernel
  obtain ⟨r, hr⟩ := exists_of_isOk hok
  obtain ⟨rs, hrs⟩ := exists_of_isOk (hiff.mp hok)
  obtain ⟨m, hm, hrows, hnodup, haffected, hkeys⟩ := hsame r rs hr hrs
  exact ⟨hk, hne, r, rs, m, hr, hrs, hm, hrows, hnodup rfl, haffected, hkeys⟩

end StatementSet

end Tabula
