import Tabula.Proofs.Procedure.Preparing
import Tabula.Proofs.Session.Open
import Tabula.Proofs.Template.Order

/-!
# Statements with one list of values at a time

A statement is sent once with all of its lists of values. A backend is `Stepwise` if it goes through
the lists one after the other, so that what it holds and what it replies depend on the single
`Errand`s only, however they were sent. Then criteria that are run together (`StatementSet.execute`)
and criteria that are run one by one (`StatementSet.executeEach`) are two walks over errands, in the
order of the batches and in the order of the queue.

* `Session.execute_walks`, `StatementSet.runBatches_walks`: what runs is a walk.
* `StatementSet.exists_walk_of_execute`, `execute_of_walk`: criteria together, both ways.
* `StatementSet.exists_walk_of_executeEach`, `executeEach_of_walk`: criteria one by one, both ways.
-/

namespace Tabula

variable {β γ ρ : Type}

/-! ## Backends that go one step at a time -/

/-- A statement with the marks of a driver in it, and the values to run it with once. -/
structure Errand where
  /-- the statement -/
  sql : String
  /-- the values, in the order of the marks -/
  values : List Value

/-- What becomes of something on a walk over errands, and what each of them gives. The walk ends
where an errand fails. -/
def walk (step : Errand → γ → Option (ρ × γ)) : List Errand → γ → Option (List ρ × γ)
  | [], g => some ([], g)
  | x :: xs, g =>
    (step x g).bind fun (r, g) => (walk step xs g).map fun (rs, g) => (r :: rs, g)

theorem walk_append (step : Errand → γ → Option (ρ × γ)) (xs ys : List Errand) (g : γ) :
    walk step (xs ++ ys) g =
      (walk step xs g).bind fun (rs, g) => (walk step ys g).map fun (ss, g) => (rs ++ ss, g) := by
  induction xs generalizing g with
  | nil =>
    rw [List.nil_append, walk]
    rcases hys : walk step ys g with _ | ⟨ss, g'⟩ <;> simp [hys]
  | cons x xs ih =>
    rw [List.cons_append, walk, walk]
    rcases step x g with _ | ⟨r, g₁⟩
    · rfl
    · simp only [Option.bind_some, ih]
      rcases walk step xs g₁ with _ | ⟨rs, g₂⟩
      · rfl
      · simp only [Option.bind_some, Option.map_some]
        rcases walk step ys g₂ with _ | ⟨ss, g₃⟩ <;> rfl

theorem walk_append_eq_some {step : Errand → γ → Option (ρ × γ)} {xs ys : List Errand} {g g' : γ}
    {os : List ρ} : walk step (xs ++ ys) g = some (os, g') ↔
      ∃ rs ss g₁, walk step xs g = some (rs, g₁) ∧ walk step ys g₁ = some (ss, g') ∧
        os = rs ++ ss := by
  rw [walk_append]
  constructor
  · intro h
    obtain ⟨⟨rs, g₁⟩, hxs, h⟩ := Option.bind_eq_some_iff.mp h
    obtain ⟨⟨ss, g₂⟩, hys, h⟩ := Option.map_eq_some_iff.mp h
    cases h
    exact ⟨rs, ss, g₁, hxs, hys, rfl⟩
  · rintro ⟨rs, ss, g₁, hxs, hys, rfl⟩
    simp only [hxs, Option.bind_some, hys, Option.map_some]

/-- A walk over one errand is a step. -/
theorem walk_singleton {step : Errand → γ → Option (ρ × γ)} {x : Errand} {g g' : γ}
    {os : List ρ} : walk step [x] g = some (os, g') ↔ ∃ r, step x g = some (r, g') ∧ os = [r] := by
  rw [walk]
  constructor
  · intro h
    obtain ⟨⟨r, g₁⟩, hx, h⟩ := Option.bind_eq_some_iff.mp h
    cases h
    exact ⟨r, hx, rfl⟩
  · rintro ⟨r, hx, rfl⟩
    rw [hx]
    rfl

/-- Every errand gives one thing. -/
theorem length_of_walk {step : Errand → γ → Option (ρ × γ)} {xs : List Errand} {g g' : γ}
    {os : List ρ} (h : walk step xs g = some (os, g')) : os.length = xs.length := by
  induction xs generalizing g os with
  | nil =>
    cases h
    rfl
  | cons x xs ih =>
    obtain ⟨⟨r, g₁⟩, -, h⟩ := Option.bind_eq_some_iff.mp h
    obtain ⟨⟨rs, g₂⟩, hxs, h⟩ := Option.map_eq_some_iff.mp h
    cases h
    rw [List.length_cons, List.length_cons, ih hxs]

/-- The errands of a statement. -/
def errands (sql : String) (sets : List (List Value)) : List Errand := sets.map (⟨sql, ·⟩)

/-- Backends run a statement for its lists of values one after the other. What such a backend holds
(its `contents`) and what is seen of its result sets (their `view`) is a matter of single steps. -/
structure Stepwise (β : Type) [Backend β] (type : QueryType) (contents : β → γ)
    (view : ResultSet → ρ) (step : Errand → γ → Option (ρ × γ)) : Prop where
  /-- no token fires at somebody else's hands -/
  fired : ∀ (b : β) (sql : String) (sets : List (List Value)),
    (Backend.answer b (.sets sql sets type)).fired = []
  /-- what is done is a walk -/
  done : ∀ (b : β) (sql : String) (sets : List (List Value)) (rs : List ResultSet), sets ≠ [] →
    (Backend.answer b (.sets sql sets type)).reply = .done rs →
      walk step (errands sql sets) (contents b) =
        some (rs.map view, contents (Backend.answer b (.sets sql sets type)).backend)
  /-- and every walk can be done -/
  walked : ∀ (b : β) (sql : String) (sets : List (List Value)), sets ≠ [] →
    (walk step (errands sql sets) (contents b)).isSome →
      ∃ rs, (Backend.answer b (.sets sql sets type)).reply = .done rs

/-! ## Walks -/

/-- How placeholders are marked for a backend. -/
def Backend.style [Backend β] (b : β) : PlaceholderStyle := (Backend.engine b).placeholderStyle

/-- A set bound to a statement. -/
def errandOf (style : PlaceholderStyle) (x : String × ParameterSet) : Except Error Errand := do
  let named := NamedStatement.compile x.1 style
  return ⟨named.sql, ← named.bind x.2⟩

theorem errandOf_eq_ok {style : PlaceholderStyle} {x : String × ParameterSet} {e : Errand} :
    errandOf style x = .ok e ↔ ∃ values,
      (NamedStatement.compile x.1 style).bind x.2 = .ok values ∧
        e = ⟨(NamedStatement.compile x.1 style).sql, values⟩ := by
  rw [errandOf, bind_eq_ok]
  constructor
  · rintro ⟨values, hvalues, h⟩
    cases h
    exact ⟨values, hvalues, rfl⟩
  · rintro ⟨values, hvalues, rfl⟩
    exact ⟨values, hvalues, rfl⟩

/-- Binding a statement for its sets makes its errands. -/
theorem mapM_errandOf_eq_ok {style : PlaceholderStyle} {sql : String} {sets : List ParameterSet}
    {xs : List Errand} : (sets.map fun set => (sql, set)).mapM (errandOf style) = .ok xs ↔
      ∃ bound, sets.mapM (NamedStatement.compile sql style).bind = .ok bound ∧
        xs = errands (NamedStatement.compile sql style).sql bound := by
  induction sets generalizing xs with
  | nil =>
    constructor
    · intro h
      cases h
      exact ⟨[], rfl, rfl⟩
    · rintro ⟨bound, hbound, rfl⟩
      cases hbound
      rfl
  | cons set sets ih =>
    rw [List.map_cons, mapM_cons_eq_ok]
    constructor
    · rintro ⟨x, xs, hx, hxs, rfl⟩
      obtain ⟨values, hvalues, rfl⟩ := errandOf_eq_ok.mp hx
      obtain ⟨bound, hbound, rfl⟩ := ih.mp hxs
      exact ⟨values :: bound, mapM_cons_eq_ok.mpr ⟨_, _, hvalues, hbound, rfl⟩, rfl⟩
    · rintro ⟨_, hall, rfl⟩
      obtain ⟨values, bound, hvalues, hbound, rfl⟩ := mapM_cons_eq_ok.mp hall
      exact ⟨_, _, errandOf_eq_ok.mpr ⟨values, hvalues, rfl⟩, ih.mpr ⟨bound, hbound, rfl⟩, rfl⟩

/-- What becomes of something on the walk over statements with their sets. -/
def Goes (step : Errand → γ → Option (ρ × γ)) (style : PlaceholderStyle)
    (ps : List (String × ParameterSet)) (g : γ) (os : List ρ) (g' : γ) : Prop :=
  ∃ xs, ps.mapM (errandOf style) = .ok xs ∧ walk step xs g = some (os, g')

namespace Goes

variable {step : Errand → γ → Option (ρ × γ)} {style : PlaceholderStyle}
  {ps qs : List (String × ParameterSet)} {g g' : γ} {os : List ρ}

theorem nil : Goes step style [] g [] g := ⟨[], rfl, rfl⟩

theorem append_iff : Goes step style (ps ++ qs) g os g' ↔
    ∃ rs ss g₁, Goes step style ps g rs g₁ ∧ Goes step style qs g₁ ss g' ∧ os = rs ++ ss := by
  constructor
  · rintro ⟨_, hbound, hwalk⟩
    obtain ⟨xs, ys, hxs, hys, rfl⟩ := mapM_append_eq_ok.mp hbound
    obtain ⟨rs, ss, g₁, hrs, hss, rfl⟩ := walk_append_eq_some.mp hwalk
    exact ⟨rs, ss, g₁, ⟨xs, hxs, hrs⟩, ⟨ys, hys, hss⟩, rfl⟩
  · rintro ⟨rs, ss, g₁, ⟨xs, hxs, hrs⟩, ⟨ys, hys, hss⟩, rfl⟩
    exact ⟨xs ++ ys, mapM_append_eq_ok.mpr ⟨xs, ys, hxs, hys, rfl⟩,
      walk_append_eq_some.mpr ⟨rs, ss, g₁, hrs, hss, rfl⟩⟩

theorem cons_iff {x : String × ParameterSet} : Goes step style (x :: qs) g os g' ↔
    ∃ rs ss g₁, Goes step style [x] g rs g₁ ∧ Goes step style qs g₁ ss g' ∧ os = rs ++ ss := by
  rw [← append_iff]
  rfl

/-- There is one walk only. -/
theorem unique {os' : List ρ} {g'' : γ} (h : Goes step style ps g os g')
    (h' : Goes step style ps g os' g'') : os = os' ∧ g' = g'' := by
  obtain ⟨xs, hxs, hwalk⟩ := h
  obtain ⟨xs', hxs', hwalk'⟩ := h'
  rw [hxs] at hxs'
  cases hxs'
  rw [hwalk] at hwalk'
  cases hwalk'
  exact ⟨rfl, rfl⟩

theorem length (h : Goes step style ps g os g') : os.length = ps.length := by
  obtain ⟨xs, hxs, hwalk⟩ := h
  rw [length_of_walk hwalk, (forall₂_of_mapM hxs).length_eq]

end Goes

/-! ## Statements over a connection -/

section

variable [Backend β] {type : QueryType} {contents : β → γ} {view : ResultSet → ρ}
  {step : Errand → γ → Option (ρ × γ)}

/-- Statements with their sets have run over a connection, and this is what came back: it was open
and it is open, and its backend went over them. -/
structure Session.Walks (contents : β → γ) (view : ResultSet → ρ)
    (step : Errand → γ → Option (ρ × γ)) (s : Session β) (c : Nat) (b : β)
    (ps : List (String × ParameterSet)) (rs : List ResultSet) (b' : β) (s' : Session β) :
    Prop where
  /-- it was open -/
  before : s.IsOpen c b
  /-- the statements bind, and the backend goes over them -/
  goes : Goes step (Backend.style b) ps (contents b) (rs.map view) (contents b')
  /-- it is open -/
  after : s'.IsOpen c b'
  /-- placeholders are marked as they were -/
  style : Backend.style b' = Backend.style b

namespace Session

variable {s s' t : Session β} {c : Nat} {b b' b'' : β} {sql : String} {sets : List ParameterSet}
  {rs rs' : List ResultSet} {ps qs : List (String × ParameterSet)} {os : List ρ} {g : γ}

theorem Walks.nil (hs : s.IsOpen c b) : s.Walks contents view step c b [] [] b s :=
  ⟨hs, .nil, hs, rfl⟩

theorem Walks.append (h : s.Walks contents view step c b ps rs b' t)
    (h' : t.Walks contents view step c b' qs rs' b'' s') :
    s.Walks contents view step c b (ps ++ qs) (rs ++ rs') b'' s' :=
  ⟨h.before, Goes.append_iff.mpr ⟨_, _, _, h.goes, h.style ▸ h'.goes, List.map_append⟩, h'.after,
    h'.style.trans h.style⟩

theorem style_answer (b : β) (q : Request) :
    Backend.style (Backend.answer b q).backend = Backend.style b := by
  rw [Backend.style, Backend.engine_answer, Backend.style]

theorem bindAll_of_ne_nil {n : NamedStatement} (hne : sets ≠ []) :
    n.bindAll sets = sets.mapM n.bind := by
  cases sets with
  | nil => exact absurd rfl hne
  | cons set sets => rfl

theorem ne_nil_of_mapM {α δ ε : Type} {f : α → Except ε δ} {xs : List α} {ys : List δ}
    (h : xs.mapM f = .ok ys) (hne : xs ≠ []) : ys ≠ [] := by
  have hlength := (forall₂_of_mapM h).length_eq
  rintro rfl
  exact hne (List.eq_nil_of_length_eq_zero hlength)

/-- **A statement that has run is a walk over its sets.** -/
theorem execute_walks (hstep : Stepwise β type contents view step) (hne : sets ≠ [])
    (h : (execute c sql sets type).run s = (.ok rs, s')) :
    ∃ b b', s.Walks contents view step c b (sets.map fun set => (sql, set)) rs b' s' := by
  obtain ⟨b, _, bound, hs, rfl, hbound, hreply, hs'⟩ := isOpen_of_execute h
  rw [bindAll_of_ne_nil hne] at hbound
  exact ⟨b, _, hs, ⟨_, mapM_errandOf_eq_ok.mpr ⟨bound, hbound, rfl⟩,
    hstep.done b _ bound rs (ne_nil_of_mapM hbound hne) hreply⟩, hs', style_answer b _⟩

/-- A walk over the sets of a statement can be run. -/
theorem execute_of_goes (hstep : Stepwise β type contents view step) (hne : sets ≠ [])
    (hs : s.IsOpen c b)
    (h : Goes step (Backend.style b) (sets.map fun set => (sql, set)) (contents b) os g) :
    ∃ rs s', (execute c sql sets type).run s = (.ok rs, s') := by
  obtain ⟨xs, hxs, hwalk⟩ := h
  obtain ⟨bound, hbound, rfl⟩ := mapM_errandOf_eq_ok.mp hxs
  obtain ⟨rs, hreply⟩ := hstep.walked b _ bound (ne_nil_of_mapM hbound hne) (by rw [hwalk]; rfl)
  obtain ⟨s', hrun⟩ := sendGuarded_of_isOpen hs (hstep.fired b _ bound) hreply
  rw [← bindAll_of_ne_nil hne, Backend.style] at hbound
  refine ⟨rs, s', ?_⟩
  rw [execute, Action.run_get_bind, hs.engine?]
  simp only [hbound]
  exact hrun

end Session

namespace StatementSet

variable {s s' : Session β} {c : Nat} {b : β} {batches : List Batch} {rs : List ResultSet}
  {os : List ρ} {g : γ}

/-- **So are several statements.** -/
theorem runBatches_walks (hstep : Stepwise β type contents view step)
    (hne : ∀ x ∈ batches, x.sets ≠ []) (hs : s.IsOpen c b)
    (h : (runBatches (some c) type batches).run s = (.ok rs, s')) :
    ∃ b', s.Walks contents view step c b (batches.flatMap Batch.pairs) rs b' s' := by
  induction batches generalizing s b rs with
  | nil =>
    obtain ⟨hrs, rfl⟩ := Action.pure_eq h
    cases hrs
    exact ⟨b, .nil hs⟩
  | cons x batches ih =>
    rw [runBatches] at h
    obtain ⟨o₁, t, h₁, h⟩ := Action.bind_eq h
    rcases o₁ with halt | sets
    · cases (Action.pure_eq h).1
    obtain ⟨o₂, t', h₂, h⟩ := Action.bind_eq h
    obtain ⟨hrs, rfl⟩ := Action.pure_eq h
    rcases o₂ with halt | sets'
    · cases hrs
    cases hrs
    -- the first batch begins where the connection is, and the others where it leaves it
    obtain ⟨b₀, b₁, hw⟩ := Session.execute_walks hstep (hne x List.mem_cons_self) h₁
    obtain rfl := hw.before.unique hs
    obtain ⟨b₂, hw'⟩ := ih (fun y hy => hne y (List.mem_cons_of_mem x hy)) hw.after h₂
    exact ⟨b₂, hw.append hw'⟩

theorem runBatches_of_goes (hstep : Stepwise β type contents view step)
    (hne : ∀ x ∈ batches, x.sets ≠ []) (hs : s.IsOpen c b)
    (h : Goes step (Backend.style b) (batches.flatMap Batch.pairs) (contents b) os g) :
    ∃ rs s', (runBatches (some c) type batches).run s = (.ok rs, s') := by
  induction batches generalizing s b os g with
  | nil => exact ⟨[], s, rfl⟩
  | cons x batches ih =>
    rw [List.flatMap_cons] at h
    obtain ⟨os₁, os₂, g₁, hfirst, hrest, rfl⟩ := Goes.append_iff.mp h
    have hx := hne x List.mem_cons_self
    obtain ⟨rs, t, h₁⟩ := Session.execute_of_goes hstep hx hs hfirst
    obtain ⟨b₀, b₁, hw⟩ := Session.execute_walks hstep hx h₁
    -- the walk begins in `b` and goes the way that was given
    obtain rfl := hw.before.unique hs
    obtain ⟨-, hg⟩ := hw.goes.unique hfirst
    rw [← hg, ← hw.style] at hrest
    obtain ⟨rs', s', h₂⟩ := ih (fun y hy => hne y (List.mem_cons_of_mem x hy)) hw.after hrest
    refine ⟨rs ++ rs', s', ?_⟩
    rw [runBatches, Action.run_bind _ h₁]
    simp only
    rw [Action.run_bind _ h₂]
    rfl

/-- Where a statement has run the connection was open. -/
theorem isOpen_of_runBatches (hstep : Stepwise β type contents view step)
    (hne : ∀ x ∈ batches, x.sets ≠ []) (hsome : batches ≠ [])
    (h : (runBatches (some c) type batches).run s = (.ok rs, s')) : ∃ b, s.IsOpen c b := by
  cases batches with
  | nil => exact absurd rfl hsome
  | cons x batches =>
    rw [runBatches] at h
    obtain ⟨o₁, t, h₁, h⟩ := Action.bind_eq h
    rcases o₁ with halt | sets
    · cases (Action.pure_eq h).1
    · obtain ⟨b, b', hw⟩ := Session.execute_walks hstep (hne x List.mem_cons_self) h₁
      exact ⟨b, hw.before⟩

end StatementSet

end

/-! ## Criteria together and one by one -/

namespace StatementSet

variable [Backend β]

/-- The same template with nothing but one criterion. -/
def alone (p : StatementSet) (c : Criterion) : StatementSet := { p with criteria := [c] }

/-- Runs the template with one criterion after the other, each alone, until one fails. -/
def executeEach (p : StatementSet) : List Criterion → Action β (Outcome (List ResultSet))
  | [] => return .ok []
  | c :: cs => do
    match ← (p.alone c).execute with
    | (.error h, _) => return .error h
    | (.ok r, _) => return (← executeEach p cs).map (r :: ·)

variable {contents : β → γ} {view : ResultSet → ρ} {step : Errand → γ → Option (ρ × γ)}
  {p p' : StatementSet} {s s' : Session β} {c : Nat} {b : β} {batches : List Batch}
  {cs : List Criterion} {ps : List (String × ParameterSet)} {rs : List ResultSet} {r : ResultSet}
  {os : List ρ} {g : γ}

/-- Nothing runs without a connection. -/
theorem connection_of_execute (h : p.execute.run s = ((.ok r, p'), s')) :
    ∃ c, p.connection = some c := by
  rcases hc : p.connection with _ | c
  · rcases hb : p.compile with e | batches
    · rw [execute, hb] at h
      cases (Action.pure_eq h).1
    · simp only [execute, hb, hc] at h
      cases batches with
      | nil => exact absurd rfl (Template.ne_nil_of_compile hb)
      | cons x batches => cases (Action.pure_eq h).1
  · exact ⟨c, rfl⟩

/-- **Criteria that have run together are a walk in the order of the batches.** -/
theorem walks_of_runBatches (hstep : Stepwise β p.template.queryType contents view step)
    (hb : p.compile = .ok batches)
    (h : (runBatches (some c) p.template.queryType batches).run s = (.ok rs, s')) :
    ∃ b b' ps, (p.template.inBatchOrder p.criteria).mapM p.template.pairOf = .ok ps ∧
      s.Walks contents view step c b ps rs b' s' := by
  obtain ⟨-, hne, hps⟩ := Template.compile_pairs hb
  obtain ⟨b, hs⟩ := isOpen_of_runBatches hstep hne (Template.ne_nil_of_compile hb) h
  obtain ⟨b', hw⟩ := runBatches_walks hstep hne hs h
  exact ⟨b, b', _, hps, hw⟩

theorem exists_walk_of_execute (hstep : Stepwise β p.template.queryType contents view step)
    (hc : p.connection = some c) (h : p.execute.run s = ((.ok r, p'), s')) :
    p.criteria ≠ [] ∧
      ∃ b b' ps rs, (p.template.inBatchOrder p.criteria).mapM p.template.pairOf = .ok ps ∧
        s.Walks contents view step c b ps rs b' s' ∧ collapse rs p.combination = .ok r := by
  rcases hb : p.compile with e | batches
  · rw [execute, hb] at h
    cases (Action.pure_eq h).1
  obtain ⟨sets, h₁, hsettle⟩ := execute_settles hc hb h
  rcases sets with halt | rs
  · -- a failure among the batches fails the whole execution
    cases hsettle
  obtain ⟨b, b', ps, hps, hw⟩ := walks_of_runBatches hstep hb h₁
  refine ⟨(Template.compile_pairs hb).1, b, b', ps, rs, hps, hw, ?_⟩
  change Except.ok r = outcomeOf (collapse rs p.combination) at hsettle
  rcases hcollapse : collapse rs p.combination with e | r'
  · rw [hcollapse] at hsettle
    cases hsettle
  · rw [hcollapse] at hsettle
    cases hsettle
    rfl

/-- A walk in the order of the batches can be run. -/
theorem execute_of_walk (hstep : Stepwise β p.template.queryType contents view step)
    (hc : p.connection = some c) (hs : s.IsOpen c b) (hne : p.criteria ≠ [])
    (hps : (p.template.inBatchOrder p.criteria).mapM p.template.pairOf = .ok ps)
    (h : Goes step (Backend.style b) ps (contents b) os g) :
    ∃ rs b' p' s', p.execute.run s = ((settle (.ok rs) p.combination, p'), s') ∧
      s.Walks contents view step c b ps rs b' s' := by
  -- whether criteria compile is no matter of their order
  obtain ⟨qs, hqs, -⟩ := mapM_perm (Template.perm_inBatchOrder _ _) hps
  obtain ⟨batches, hb⟩ := Template.exists_compile hne hqs
  obtain ⟨-, hsets, hps'⟩ := Template.compile_pairs hb
  rw [hps] at hps'
  cases hps'
  obtain ⟨rs, t, h₁⟩ := runBatches_of_goes hstep hsets hs h
  obtain ⟨b', hw⟩ := runBatches_walks hstep hsets hs h₁
  have hrun : p.execute.run s = ((p.execute.run s).1, (p.execute.run s).2) := rfl
  obtain ⟨sets, h₂, hsettle⟩ := execute_settles hc hb hrun
  rw [h₁] at h₂
  cases h₂
  exact ⟨rs, b', (p.execute.run s).1.2, _, Prod.ext (Prod.ext hsettle rfl) rfl, hw⟩

/-- What one errand gives is always brought down to one result set. -/
theorem collapse_singleton (r : ResultSet) (k : Combination) :
    collapse [r] k = .ok (k.shape r) := by
  rw [collapse, if_neg (by simp)]
  rfl

theorem inBatchOrder_singleton (t : Template) (c : Criterion) : t.inBatchOrder [c] = [c] :=
  List.perm_singleton.mp (Template.perm_inBatchOrder t [c])

/-- **Criteria that have run one by one are a walk in the order of the queue.** -/
theorem exists_walk_of_executeEach (hstep : Stepwise β p.template.queryType contents view step)
    (hc : p.connection = some c) (hs : s.IsOpen c b)
    (h : (p.executeEach cs).run s = (.ok rs, s')) :
    ∃ b' ps rs₀, cs.mapM p.template.pairOf = .ok ps ∧
      s.Walks contents view step c b ps rs₀ b' s' ∧ rs = rs₀.map p.combination.shape := by
  induction cs generalizing s b rs with
  | nil =>
    obtain ⟨hrs, rfl⟩ := Action.pure_eq h
    cases hrs
    exact ⟨b, [], [], rfl, .nil hs, rfl⟩
  | cons x cs ih =>
    rw [executeEach] at h
    obtain ⟨⟨o₁, p₁⟩, t, h₁, h⟩ := Action.bind_eq h
    rcases o₁ with halt | r
    · cases (Action.pure_eq h).1
    obtain ⟨o₂, t', h₂, h⟩ := Action.bind_eq h
    obtain ⟨hrs, rfl⟩ := Action.pure_eq h
    rcases o₂ with halt | rs'
    · cases hrs
    cases hrs
    obtain ⟨-, b₀, b₁, ps, rs₀, hps, hw, hcollapse⟩ :=
      exists_walk_of_execute (p := p.alone x) hstep hc h₁
    obtain rfl := hw.before.unique hs
    obtain ⟨b₂, qs, rs₁, hqs, hw', rfl⟩ := ih hw.after h₂
    change (p.template.inBatchOrder [x]).mapM p.template.pairOf = .ok ps at hps
    rw [inBatchOrder_singleton] at hps
    refine ⟨b₂, ps ++ qs, rs₀ ++ rs₁, ?_, hw.append hw', ?_⟩
    · change ([x] ++ cs).mapM p.template.pairOf = .ok (ps ++ qs)
      exact mapM_append_eq_ok.mpr ⟨ps, qs, hps, hqs, rfl⟩
    · -- one criterion is one errand, which gives one result set
      obtain ⟨r₀, rfl⟩ : ∃ r₀, rs₀ = [r₀] := by
        rw [← List.length_eq_one_iff, ← List.length_map, hw.goes.length,
          ← (forall₂_of_mapM hps).length_eq, List.length_singleton]
      rw [collapse_singleton] at hcollapse
      cases hcollapse
      rfl

/-- A walk in the order of the queue can be run one by one. -/
theorem executeEach_of_walk (hstep : Stepwise β p.template.queryType contents view step)
    (hc : p.connection = some c) (hs : s.IsOpen c b) (hps : cs.mapM p.template.pairOf = .ok ps)
    (h : Goes step (Backend.style b) ps (contents b) os g) :
    ∃ rs s', (p.executeEach cs).run s = (.ok rs, s') := by
  induction cs generalizing s b ps os g with
  | nil => exact ⟨[], s, rfl⟩
  | cons x cs ih =>
    change ([x] ++ cs).mapM p.template.pairOf = .ok ps at hps
    obtain ⟨us, vs, hus, hvs, rfl⟩ := mapM_append_eq_ok.mp hps
    obtain ⟨os₁, os₂, g₁, hfirst, hrest, rfl⟩ := Goes.append_iff.mp h
    rw [← inBatchOrder_singleton p.template x] at hus
    obtain ⟨rs, b', p', t, h₁, hw⟩ :=
      execute_of_walk (p := p.alone x) hstep hc hs (List.cons_ne_nil x []) hus hfirst
    rw [inBatchOrder_singleton] at hus
    -- a set of its own makes one batch with one result
    obtain ⟨r₀, rfl⟩ : ∃ r₀, rs = [r₀] := by
      rw [← List.length_eq_one_iff, ← List.length_map, hw.goes.length,
        ← (forall₂_of_mapM hus).length_eq, List.length_singleton]
    obtain ⟨-, hg⟩ := hw.goes.unique hfirst
    rw [← hg, ← hw.style] at hrest
    obtain ⟨rs', s', h₂⟩ := ih hw.after hvs hrest
    have hsettle : settle (.ok [r₀]) (p.alone x).combination = .ok (p.combination.shape r₀) := by
      change outcomeOf (collapse [r₀] p.combination) = _
      rw [collapse_singleton]
      rfl
    rw [hsettle] at h₁
    refine ⟨p.combination.shape r₀ :: rs', s', ?_⟩
    rw [executeEach, Action.run_bind _ h₁]
    simp only
    rw [Action.run_bind _ h₂]
    rfl

end StatementSet

end Tabula
