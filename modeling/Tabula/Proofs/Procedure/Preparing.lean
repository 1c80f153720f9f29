import Tabula.Proofs.Sql.Substitution
import Tabula.Proofs.Succeeding
import Tabula.Proofs.Transaction.Step

/-!
# What preparing a procedure finds

A procedure is prepared to find the faults of its input before anything is sent. What it finds stops
the execution at once, with the same error. But it does not find everything: a query is not bound,
and a template with criteria is compiled without binding its statements. So a placeholder without a
value can stop an execution in the middle.

* `Session.Stops`: how far statements run that are bound one after the other.
* `Routine.execute_stops`: executing a procedure runs its statements so.
* `Routine.execute_of_prepare`: when an execution finds a fault that preparing did not find.
-/

namespace Tabula

/-! ## Errors -/

/-- A time limit is no matter of the input. -/
theorem Error.category_timedOut (d : Duration) : (Error.timedOut d).category = .execution := by
  simp [category, code]

/-- A name without a value is a matter of the input. -/
theorem Error.category_missingParameter (name : String) :
    (Error.missingParameter name).category = .compilation := by
  simp [category, code]

variable {β : Type} [Backend β]

/-- What a backend refuses it refuses with an error of execution. -/
def IsDriver (β : Type) [Backend β] : Prop :=
  ∀ (b : β) (r : Request) (e : Error),
    (Backend.answer b r).reply = .failed e → e.category = .execution

namespace Session

variable {s s' : Session β} {e : Error} {limit : Option Duration} {token : Option Token}

omit [Backend β] in
/-- Waiting fails with an error of execution. -/
theorem category_wait (h : (wait limit token).run s = (.failed e, s')) :
    e.category = .execution := by
  -- without an alarm in time the waiting ends by the limit, if there is one
  have hlapsed (h : Halt.failed e = limit.elim .stuck fun d => .failed (.timedOut d)) :
      e.category = .execution := by
    rcases limit with _ | d
    · cases h
    · cases h
      exact Error.category_timedOut d
  simp only [wait, Action.run_get_bind] at h
  split at h
  · rw [Action.run_ite] at h
    split at h
    · simp only [Action.run_set_bind, Action.run_ite] at h
      split at h
      · -- the watcher: the step is dropped where it stands
        cases (Action.pure_eq h).1
      · split at h
        · -- the token that is listened to
          cases (Action.pure_eq h).1
          rfl
        · exact hlapsed (Action.pure_eq h).1
    · exact hlapsed (Action.pure_eq h).1
  · exact hlapsed (Action.pure_eq h).1
  · cases (Action.pure_eq h).1

omit [Backend β] in
/-- So does waiting for a reply, if the driver fails with none but such errors. -/
theorem category_await {r : Reply} (hr : ∀ e, r = .failed e → e.category = .execution)
    (h : (await r limit token).run s = (failWith e, s')) : e.category = .execution := by
  simp only [await, Action.run_get_bind, Action.run_ite] at h
  split at h
  · cases (Action.pure_eq h).1
  · split at h
    · cases (Action.pure_eq h).1
      rfl
    · cases r with
      | done sets => cases (Action.pure_eq h).1
      | failed e' =>
        cases (Action.pure_eq h).1
        exact hr e rfl
      | never =>
        obtain ⟨halt, t, h₁, h⟩ := Action.bind_eq h
        cases (Action.pure_eq h).1
        exact category_wait h₁

variable {c : Nat}

/-- **On a connection that is there a round trip fails with an error of execution.** -/
theorem category_sendGuarded (hdriver : IsDriver β) (hc : (s.engine? c).isSome) {r : Request}
    (h : (sendGuarded c r).run s = (failWith e, s')) : e.category = .execution := by
  cases guarded_sendGuarded h with
  | missing hconn =>
    rw [engine?_eq_none.mpr hconn] at hc
    cases hc
  | givenUp => rfl
  | @sent conn _ t _ _ hawait =>
    exact category_await (fun e => hdriver conn.backend r e) hawait

/-- So does entering a transaction. -/
theorem category_begin (hdriver : IsDriver β) (hc : (s.engine? c).isSome)
    (h : (begin c).run s = (failWith e, s')) : e.category = .execution := by
  rw [begin, Action.run_get_bind, Action.run_ite] at h
  split at h
  · obtain ⟨o, t, h₁, h⟩ := Action.bind_eq h
    rcases o with halt | sets
    · obtain ⟨heq, rfl⟩ := Action.pure_eq h
      cases heq
      exact category_sendGuarded hdriver hc h₁
    · cases (Action.pure_eq h).1
  · cases (Action.pure_eq h).1

end Session

/-! ## Binding -/

namespace NamedStatement

variable {n : NamedStatement} {set : ParameterSet} {sets : List ParameterSet} {e : Error}

/-- A set does not bind if it has no value for a placeholder, and the error is for the first one. -/
theorem bind_eq_error_iff : n.bind set = .error e ↔
    ∃ name, n.names.find? (fun name => (set.find? name).isNone) = some name ∧
      e = .missingParameter name := by
  rcases hfind : n.names.find? fun name => (set.find? name).isNone with _ | name
  · have hall : ∀ name ∈ n.names, (set.find? name).isSome := fun name hname => by
      simpa [Option.isSome_iff_ne_none] using List.find?_eq_none.mp hfind name hname
    obtain ⟨vs, hvs⟩ := exists_valuesOf hall
    simp [bind, hvs]
  · rw [bind, valuesOf_eq_error hfind]
    constructor
    · intro h
      cases h
      exact ⟨name, rfl, rfl⟩
    · rintro ⟨_, hname, rfl⟩
      cases hname
      rfl

/-- Binding fails for want of a value for one of the names. -/
theorem bind_eq_error (h : n.bind set = .error e) :
    ∃ name ∈ n.names, set.find? name = none ∧ e = .missingParameter name := by
  obtain ⟨name, hfind, rfl⟩ := bind_eq_error_iff.mp h
  exact ⟨name, List.mem_of_find?_eq_some hfind, by simpa using List.find?_some hfind, rfl⟩

/-- For want of a value binding fails. -/
theorem exists_bind_eq_error {name : String} (hname : name ∈ n.names)
    (h : set.find? name = none) : ∃ e, n.bind set = .error e := by
  rcases hb : n.bind set with e | vs
  · exact ⟨e, rfl⟩
  · have hv := getElem?_of_valuesOf hb hname
    rw [h, List.getElem?_eq_none_iff] at hv
    have hlength := congrArg List.length (valuesOf_eq_ok_iff.mp hb)
    rw [List.length_map, List.length_map] at hlength
    exact absurd (List.idxOf_lt_length_of_mem hname) (by omega)

/-- No set counts as one without values. -/
def setsOf (sets : List ParameterSet) : List ParameterSet :=
  if sets.isEmpty then [.empty] else sets

/-- All sets are bound, or one without values if there is none. -/
theorem bindAll_eq_mapM (n : NamedStatement) (sets : List ParameterSet) :
    n.bindAll sets = (setsOf sets).mapM n.bind := by
  rcases sets with _ | ⟨set, sets⟩
  · simp [bindAll, setsOf]
  · rfl

/-- All sets bind unless one does not. -/
theorem bindAll_eq_error (h : n.bindAll sets = .error e) :
    ∃ set ∈ setsOf sets, n.bind set = .error e := by
  rw [bindAll_eq_mapM] at h
  generalize setsOf sets = sets at h ⊢
  induction sets with
  | nil => cases h
  | cons set sets ih =>
    rw [List.mapM_cons] at h
    rcases hb : n.bind set with e' | vs
    · -- the first set leaves a name out
      rw [hb] at h
      cases h
      exact ⟨set, List.mem_cons_self, hb⟩
    · -- the first set is bound, so it is one of the others
      rcases hrest : sets.mapM n.bind with e' | vss
      · rw [hb, hrest] at h
        cases h
        obtain ⟨set', hset', he⟩ := ih hrest
        exact ⟨set', List.mem_cons_of_mem set hset', he⟩
      · rw [hb, hrest] at h
        cases h

/-- If a set cannot be bound, the sets cannot. -/
theorem exists_bindAll_eq_error (hset : set ∈ setsOf sets) (h : n.bind set = .error e) :
    ∃ e, n.bindAll sets = .error e := by
  rw [bindAll_eq_mapM]
  generalize setsOf sets = sets at hset ⊢
  induction sets with
  | nil => cases hset
  | cons set' sets ih =>
    rw [List.mapM_cons]
    rcases hb : n.bind set' with e' | vs
    · exact ⟨e', rfl⟩
    · rcases List.mem_cons.mp hset with rfl | hset
      · rw [hb] at h
        cases h
      · obtain ⟨e', he'⟩ := ih hset
        rw [he']
        exact ⟨e', rfl⟩

end NamedStatement

namespace Session

variable {s s' : Session β} {e : Error} {c : Nat}

/-- Some set of a statement has no value for one of its placeholders. -/
def LeavesOut (style : PlaceholderStyle) (sql : String) (sets : List ParameterSet) : Prop :=
  ∃ set ∈ NamedStatement.setsOf sets,
    ∃ name ∈ (NamedStatement.compile sql style).names, set.find? name = none

variable {style : PlaceholderStyle} {sql : String} {sets : List ParameterSet} {type : QueryType}

/-- A statement has no request if its sets cannot be bound. -/
theorem statement_eq_error : statement style sql sets type = .error e ↔
    (NamedStatement.compile sql style).bindAll sets = .error e := by
  rw [statement]
  rcases (NamedStatement.compile sql style).bindAll sets with e' | bound
  · exact ⟨fun h => congrArg Except.error (Except.error.inj h), fun h =>
      congrArg Except.error (Except.error.inj h)⟩
  · constructor <;> intro h <;> cases h

/-- What does not bind lacks a value. -/
theorem category_statement (h : statement style sql sets type = .error e) :
    e.category = .compilation := by
  obtain ⟨set, -, hb⟩ := NamedStatement.bindAll_eq_error (statement_eq_error.mp h)
  obtain ⟨name, -, -, rfl⟩ := NamedStatement.bind_eq_error hb
  exact Error.category_missingParameter name

/-- That is so if one of the sets leaves a name out. -/
theorem exists_statement_eq_error :
    (∃ e, statement style sql sets type = .error e) ↔ LeavesOut style sql sets := by
  constructor
  · rintro ⟨e, h⟩
    obtain ⟨set, hset, hb⟩ := NamedStatement.bindAll_eq_error (statement_eq_error.mp h)
    obtain ⟨name, hname, hnone, -⟩ := NamedStatement.bind_eq_error hb
    exact ⟨set, hset, name, hname, hnone⟩
  · rintro ⟨set, hset, name, hname, hnone⟩
    obtain ⟨e, hb⟩ := NamedStatement.exists_bind_eq_error hname hnone
    obtain ⟨e', h⟩ := NamedStatement.exists_bindAll_eq_error hset hb
    exact ⟨e', statement_eq_error.mpr h⟩

/-! ## Statements one after the other -/

/-- How far statements run, each as it is bound or with what binding it fails with, and what was
exchanged. -/
inductive Stops (c : Nat) : List (Except Error Request) → Outcome Unit → List Exchange → Prop
  /-- all have run -/
  | done : Stops c [] (.ok ()) []
  /-- the next one does not bind -/
  | fault {e : Error} {rest : List (Except Error Request)} (category : e.category = .compilation) :
    Stops c (.error e :: rest) (failWith e) []
  /-- the next one does not succeed, or is not sent at all -/
  | broken {q : Request} {rest : List (Except Error Request)} {h : Halt} {xs : List Exchange}
    (sent : xs = [] ∨ xs = [⟨c, q, .error h⟩])
    (category : ∀ e, h = .failed e → e.category = .execution) :
    Stops c (.ok q :: rest) (.error h) xs
  /-- it has run -/
  | ran {q : Request} {sets : List ResultSet} {rest : List (Except Error Request)}
    {o : Outcome Unit} {xs : List Exchange} (behind : Stops c rest o xs) :
    Stops c (.ok q :: rest) o (⟨c, q, .ok sets⟩ :: xs)

namespace Stops

variable {x : Except Error Request} {xs : List (Except Error Request)} {o : Outcome Unit}
  {h : Halt} {ys zs : List Exchange}

/-- A request that fails stops everything behind it. -/
theorem stop (hx : Stops c [x] (.error h) ys) : Stops c (x :: xs) (.error h) ys := by
  cases hx with
  | fault category => exact .fault category
  | broken sent category => exact .broken sent category
  | ran behind => cases behind

/-- Behind a request that succeeds the others go on. -/
theorem cons (hx : Stops c [x] (.ok ()) ys) (hxs : Stops c xs o zs) :
    Stops c (x :: xs) o (ys ++ zs) := by
  cases hx with
  | ran behind =>
    cases behind
    exact .ran hxs

/-- **Statements stop with a fault** exactly if the statements in front of it have run and it does
not bind. -/
theorem fault_iff (hs : Stops c xs o ys) :
    (o = failWith e ∧ e.category = .compilation) ↔
      (∃ rest, xs = ys.map (fun y => .ok y.request) ++ .error e :: rest) ∧
        ∀ y ∈ ys, y.ending.isOk := by
  induction hs with
  -- nothing was sent, and nothing is at fault
  | done =>
    refine iff_of_false (fun h => nomatch h.1) fun h => ?_
    obtain ⟨⟨rest, heq⟩, -⟩ := h
    cases heq
  -- the binding failed: it is the first thing at fault, and nothing was sent for it
  | @fault e' rest category =>
    constructor
    · rintro ⟨h, -⟩
      cases h
      exact ⟨⟨rest, rfl⟩, by simp⟩
    · rintro ⟨⟨rest', heq⟩, -⟩
      cases heq
      exact ⟨rfl, category⟩
  -- a request was sent and failed, which is no error of compilation
  | @broken q rest h xs sent category =>
    refine iff_of_false (fun hf => ?_) fun hf => ?_
    · obtain ⟨heq, hcompilation⟩ := hf
      rw [category e (Except.error.inj heq)] at hcompilation
      cases hcompilation
    · obtain ⟨⟨rest', heq⟩, hok⟩ := hf
      rcases sent with rfl | rfl
      · cases heq
      · exact absurd (hok _ (List.mem_singleton_self _)) Bool.false_ne_true
  -- behind a request that was answered the rest decides
  | @ran q sets rest o xs behind ih =>
    rw [ih]
    simp only [List.map_cons, List.cons_append, List.cons.injEq, true_and, List.forall_mem_cons]
    exact and_congr_right fun _ => (and_iff_right rfl).symm

end Stops

/-- **A statement is bound and then sent**, and it stops there if it does not succeed. -/
theorem execute_stops (hdriver : IsDriver β) (hc : (s.engine? c).isSome)
    {o : Outcome (List ResultSet)} (h : (execute c sql sets type).run s = (o, s')) :
    ∃ ms, s.Leads ms s.depth s' ∧
      Stops c [statement (s.styleOf c) sql sets type] (o.map fun _ => ()) (exchanges ms) := by
  rw [execute, Action.run_get_bind] at h
  obtain ⟨engine, he⟩ := Option.isSome_iff_exists.mp hc
  have hstyle : s.styleOf c = engine.placeholderStyle := by
    rw [styleOf, he, Option.elim_some]
  simp only [he] at h
  -- nothing is sent unless all sets are bound
  rcases hb : (NamedStatement.compile sql engine.placeholderStyle).bindAll sets with e | bound
  · have hst : statement (s.styleOf c) sql sets type = .error e :=
      statement_eq_error.mpr (hstyle ▸ hb)
    rw [hb] at h
    obtain ⟨rfl, rfl⟩ := Action.pure_eq h
    rw [hst]
    exact ⟨[], .refl _, .fault (category_statement hst)⟩
  · rw [hb] at h
    obtain ⟨ms, hms, hl⟩ := sendGuarded_run h
    have hst : statement (s.styleOf c) sql sets type =
        .ok (.sets (NamedStatement.compile sql engine.placeholderStyle).sql bound type) := by
      rw [statement, hstyle, hb]
      rfl
    rw [hst]
    refine ⟨ms, hl, ?_⟩
    -- the request failed, be it that it was not sent for a token that had fired
    rcases o with halt | results
    · refine .broken ?_ fun e he => category_sendGuarded hdriver hc (he ▸ h)
      exact hms.sent.elim (fun hx => .inr hx.2) fun hx => .inl hx.1
    · -- the request was answered
      rcases hms.sent with ⟨-, hx⟩ | ⟨-, e, heq⟩
      · rw [hx]
        exact .ran .done
      · cases heq

end Session

namespace StatementSet

/-- Compiled statements are sent one after the other, up to the first that fails. -/
theorem runBatches_stops (hdriver : IsDriver β) {c : Nat} {type : QueryType}
    {batches : List Batch} {s s' : Session β} (hc : (s.engine? c).isSome)
    {o : Outcome (List ResultSet)} (h : (runBatches (some c) type batches).run s = (o, s')) :
    ∃ ms, s.Leads ms s.depth s' ∧
      Session.Stops c (requests (s.styleOf c) type batches) (o.map fun _ => ()) (exchanges ms) := by
  induction batches generalizing s o with
  | nil =>
    obtain ⟨rfl, rfl⟩ := Action.pure_eq h
    exact ⟨[], .refl _, .done⟩
  | cons b batches ih =>
    rw [runBatches] at h
    obtain ⟨o₁, t, h₁, h⟩ := Action.bind_eq h
    obtain ⟨ms, hl, hms⟩ := Session.execute_stops hdriver hc h₁
    -- the first batch fails, and nothing of the others is sent
    rcases o₁ with halt | sets
    · obtain ⟨rfl, rfl⟩ := Action.pure_eq h
      exact ⟨ms, hl, hms.stop⟩
    · obtain ⟨o₂, t', h₂, h⟩ := Action.bind_eq h
      obtain ⟨rfl, rfl⟩ := Action.pure_eq h
      -- the engine is the same behind the first batch, so the others are bound the same way
      obtain ⟨ns, hl', hns⟩ := ih (by rw [hl.engine]; exact hc) h₂
      rw [hl.styleOf] at hns
      rw [hl.depth] at hl'
      have hmap : ((o₂.map (sets ++ ·)).map fun _ => ()) = o₂.map fun _ => () := by
        cases o₂ <;> rfl
      refine ⟨ms ++ ns, hl.trans hl', ?_⟩
      rw [hmap, exchanges_append]
      exact hms.cons hns

end StatementSet

/-- To bring result sets down to one is no matter of compilation. -/
theorem settle_eq_failWith {o : Outcome (List ResultSet)} {k : Combination} {e : Error} :
    (settle o k = failWith e ∧ e.category = .compilation) ↔
      ((o.map fun _ => ()) = failWith e ∧ e.category = .compilation) := by
  rcases o with halt | sets
  · exact and_congr_left fun _ => ⟨fun h => congrArg Except.error (Except.error.inj h),
      fun h => congrArg Except.error (Except.error.inj h)⟩
  · refine iff_of_false (fun h => ?_) fun h => nomatch h.1
    obtain ⟨h, hcategory⟩ := h
    change outcomeOf (collapse sets k) = failWith e at h
    rw [collapse] at h
    split at h
    · cases h
      cases hcategory
    · cases h

/-- A query settles what its statement answers. -/
theorem Query.execute_settles {q q' : Query} {c : Nat} (hc : q.connection = some c)
    {s s' : Session β} {o : Outcome ResultSet} (h : q.execute.run s = ((o, q'), s')) :
    ∃ sets, (Session.execute c q.sql [] q.type).run s = (sets, s') ∧
      o = settle sets q.combination := by
  simp only [Query.execute, hc] at h
  obtain ⟨sets, t, h₁, h⟩ := Action.bind_eq h
  rcases hs : settle sets q.combination with halt | rs
  · rw [hs] at h
    obtain ⟨ho, rfl⟩ := Action.pure_eq h
    exact ⟨sets, h₁, (congrArg Prod.fst ho).trans hs.symm⟩
  · rw [hs] at h
    obtain ⟨ho, rfl⟩ := Action.pure_eq h
    exact ⟨sets, h₁, (congrArg Prod.fst ho).trans hs.symm⟩

/-- So does a prepared statement. -/
theorem PreparedStatement.execute_settles {p p' : PreparedStatement} {c : Nat}
    (hc : p.connection = some c) {s s' : Session β} {o : Outcome ResultSet}
    (h : p.execute.run s = ((o, p'), s')) :
    ∃ sets, (Session.execute c p.sql p.sets p.type).run s = (sets, s') ∧
      o = settle sets p.combination := by
  rw [PreparedStatement.execute] at h
  obtain ⟨⟨sets, p₁⟩, t, h₁, h⟩ := Action.bind_eq h
  rw [PreparedStatement.executeArray] at h₁
  obtain ⟨sets', t', h₂, h₁⟩ := Action.bind_eq h₁
  simp only [PreparedStatement.run, hc] at h₂
  -- no result sets
  rcases sets' with halt | sets'
  · obtain ⟨hp, rfl⟩ := Action.pure_eq h₁
    cases hp
    obtain ⟨ho, rfl⟩ := Action.pure_eq h
    exact ⟨_, h₂, congrArg Prod.fst ho⟩
  · obtain ⟨hp, rfl⟩ := Action.pure_eq h₁
    cases hp
    -- the result sets cannot be brought down to one
    rcases hs : settle (.ok sets') p.combination with halt | rs
    · simp only [hs] at h
      obtain ⟨ho, rfl⟩ := Action.pure_eq h
      exact ⟨_, h₂, (congrArg Prod.fst ho).trans hs.symm⟩
    · simp only [hs] at h
      obtain ⟨ho, rfl⟩ := Action.pure_eq h
      exact ⟨_, h₂, (congrArg Prod.fst ho).trans hs.symm⟩

/-- What can be prepared can be compiled. -/
theorem StatementSet.exists_compile {p : StatementSet} (h : p.prepare = .ok ()) :
    ∃ batches, p.compile = .ok batches := by
  rw [StatementSet.prepare] at h
  rcases hb : p.compile with e | batches
  · rw [hb] at h
    cases h
  · exact ⟨batches, rfl⟩

/-- What cannot be prepared cannot be compiled, for the same reason. -/
theorem StatementSet.compile_eq_error {p : StatementSet} {e : Error} (h : p.prepare = .error e) :
    p.compile = .error e := by
  rw [StatementSet.prepare] at h
  rcases hb : p.compile with e' | batches
  · rw [hb] at h
    cases h
    rfl
  · rw [hb] at h
    cases h

/-- A template settles what its statements answer, once it is compiled. -/
theorem StatementSet.execute_settles {p p' : StatementSet} {c : Nat} (hc : p.connection = some c)
    {batches : List Batch} (hb : p.compile = .ok batches) {s s' : Session β}
    {o : Outcome ResultSet} (h : p.execute.run s = ((o, p'), s')) :
    ∃ sets, (runBatches (some c) p.template.queryType batches).run s = (sets, s') ∧
      o = settle sets p.combination := by
  simp only [StatementSet.execute, hb, hc] at h
  obtain ⟨sets, t, h₁, h⟩ := Action.bind_eq h
  rcases hs : settle sets p.combination with halt | rs
  · rw [hs] at h
    obtain ⟨ho, rfl⟩ := Action.pure_eq h
    exact ⟨sets, h₁, (congrArg Prod.fst ho).trans hs.symm⟩
  · rw [hs] at h
    obtain ⟨ho, rfl⟩ := Action.pure_eq h
    exact ⟨sets, h₁, (congrArg Prod.fst ho).trans hs.symm⟩

namespace Routine

variable {r r' : Routine} {c : Nat} {s s' : Session β} {o : Outcome ResultSet} {e : Error}

omit [Backend β] in
/-- What runs as one kind of procedure has run as itself. -/
theorem map_execute_run {α σ τ : Type} {x : Action β (α × σ)} {f : σ → τ} {a : α} {b : τ}
    (h : ((do return (← x).map id f) : Action β (α × τ)).run s = ((a, b), s')) :
    ∃ b', x.run s = ((a, b'), s') ∧ f b' = b := by
  obtain ⟨⟨a', b'⟩, t, h₁, h⟩ := Action.bind_eq h
  obtain ⟨hab, rfl⟩ := Action.pure_eq h
  cases hab
  exact ⟨b', h₁, rfl⟩

/-- **A procedure that was prepared runs its statements one after the other**, and fails for a
reason of compilation only with them. -/
theorem execute_stops (hdriver : IsDriver β) (hr : r.IsPlain) (hc : r.connection = some c)
    (he : (s.engine? c).isSome) (hp : (r.prepare.run s).1 = .ok ())
    (h : r.execute.run s = ((o, r'), s')) :
    ∃ ms o₁, s.Leads ms s.depth s' ∧
      Session.Stops c (r.statements (s.styleOf c)) o₁ (exchanges ms) ∧
      ∀ e, (o = failWith e ∧ e.category = .compilation) ↔
        (o₁ = failWith e ∧ e.category = .compilation) := by
  cases r with
  | query q =>
    obtain ⟨q', h₁, -⟩ := map_execute_run h
    obtain ⟨sets, h₂, rfl⟩ := Query.execute_settles hc h₁
    obtain ⟨ms, hl, hms⟩ := Session.execute_stops hdriver he h₂
    exact ⟨ms, _, hl, hms, fun e => settle_eq_failWith⟩
  | prepared p =>
    obtain ⟨p', h₁, -⟩ := map_execute_run h
    obtain ⟨sets, h₂, rfl⟩ := PreparedStatement.execute_settles hc h₁
    obtain ⟨ms, hl, hms⟩ := Session.execute_stops hdriver he h₂
    exact ⟨ms, _, hl, hms, fun e => settle_eq_failWith⟩
  | set p =>
    obtain ⟨p', h₁, -⟩ := map_execute_run h
    obtain ⟨batches, hb⟩ := StatementSet.exists_compile hp
    obtain ⟨sets, h₂, rfl⟩ := StatementSet.execute_settles hc hb h₁
    obtain ⟨ms, hl, hms⟩ := StatementSet.runBatches_stops hdriver he h₂
    have hst : (set p).statements (s.styleOf c) =
        StatementSet.requests (s.styleOf c) p.template.queryType batches := by
      rw [statements, hb]
    rw [hst]
    exact ⟨ms, _, hl, hms, fun e => settle_eq_failWith⟩
  | stub s => exact hr.elim

/-- **What preparing finds stops the execution at once**: nothing is sent and nothing changes. -/
theorem execute_of_prepare_error (hr : r.IsPlain) (hc : r.connection = some c)
    (hp : (r.prepare.run s).1 = .error e) : r.execute.run s = ((failWith e, r), s) := by
  cases r with
  -- a query has nothing to prepare
  | query q => cases hp
  | prepared p =>
    have hconn : p.connection = some c := hc
    rw [prepare, PreparedStatement.prepare, Action.run_get_bind, hconn, Option.bind_some] at hp
    -- without a connection that is there nothing is bound
    rcases he : s.engine? c with _ | engine
    · rw [he] at hp
      cases hp
    · rw [he] at hp
      rcases hb : (NamedStatement.compile p.sql engine.placeholderStyle).bindAll p.sets with
        e' | bound
      · simp only [hb] at hp
        cases hp
        -- `execute` binds the same sets for the same engine before it sends anything
        have hrun : p.run.run s = (failWith e, s) := by
          rw [PreparedStatement.run, hconn]
          change (Session.execute c p.sql p.sets p.type).run s = _
          rw [Session.execute, Action.run_get_bind]
          simp only [he, hb]
          rfl
        have harray : p.executeArray.run s = ((failWith e, p), s) := by
          rw [PreparedStatement.executeArray, Action.run_bind _ hrun]
          rfl
        have hexecute : p.execute.run s = ((failWith e, p), s) := by
          rw [PreparedStatement.execute, Action.run_bind _ harray]
          rfl
        rw [execute, Action.run_bind _ hexecute]
        rfl
      · simp only [hb] at hp
        cases hp
  | set p =>
    -- what cannot be compiled is not run
    have hexecute : p.execute.run s = ((failWith e, p), s) := by
      rw [StatementSet.execute, StatementSet.compile_eq_error hp]
      rfl
    rw [execute, Action.run_bind _ hexecute]
    rfl
  | stub s => exact hr.elim

/-! ## Faults that are not found -/

/-- Preparing a procedure looks past a placeholder without a value: that of a query, and that of a
statement that a template was compiled to. -/
def LooksPast (style : PlaceholderStyle) : Routine → Prop
  | .query q => Session.LeavesOut style q.sql []
  | .prepared _ => False
  | .set s =>
    ∃ batches, s.compile = .ok batches ∧ ∃ b ∈ batches, Session.LeavesOut style b.sql b.sets
  | .stub _ => False

/-- The statements of a procedure that was prepared bind unless it was looked past one. -/
theorem exists_fault_iff (he : (s.engine? c).isSome) (hc : r.connection = some c)
    (hp : (r.prepare.run s).1 = .ok ()) :
    (∃ e, .error e ∈ r.statements (s.styleOf c)) ↔ r.LooksPast (s.styleOf c) := by
  -- a procedure with one statement has no other to fail at
  have hfirst {x : Except Error Request} : (∃ e, .error e ∈ [x]) ↔ ∃ e, x = .error e := by
    simp only [List.mem_singleton, eq_comm]
  cases r with
  | query q => exact hfirst.trans Session.exists_statement_eq_error
  | prepared p =>
    refine hfirst.trans (iff_of_false ?_ not_false)
    -- what `prepare` bound can be bound
    rintro ⟨e, h⟩
    have hconn : p.connection = some c := hc
    obtain ⟨engine, hengine⟩ := Option.isSome_iff_exists.mp he
    rw [Session.statement_eq_error, Session.styleOf, hengine, Option.elim_some] at h
    rw [prepare, PreparedStatement.prepare, Action.run_get_bind, hconn, Option.bind_some,
      hengine] at hp
    simp only [h] at hp
    cases hp
  | set p =>
    obtain ⟨batches, hb⟩ := StatementSet.exists_compile hp
    -- `prepare` has compiled the statements and bound none of them
    simp only [statements, LooksPast, hb, StatementSet.requests, Except.ok.injEq,
      exists_eq_left', List.mem_map]
    constructor
    · rintro ⟨e, b, hmem, he⟩
      exact ⟨b, hmem, Session.exists_statement_eq_error.mp ⟨e, he⟩⟩
    · rintro ⟨b, hmem, hleaves⟩
      obtain ⟨e, he⟩ := Session.exists_statement_eq_error.mpr hleaves
      exact ⟨e, b, hmem, he⟩
  | stub s => exact iff_of_false (by simp [statements]) not_false

/-- Its statements have run up to one that does not bind. -/
def FailsBehind (style : PlaceholderStyle) (r : Routine) (xs : List Exchange) (e : Error) : Prop :=
  (∃ rest, r.statements style = xs.map (fun x => .ok x.request) ++ .error e :: rest) ∧
    ∀ x ∈ xs, x.ending.isOk

/-- Whether a procedure can be prepared depends on the engines of the connections only. -/
theorem prepare_congr {t : Session β} (hr : r.IsPlain) (h : s.engine? = t.engine?) :
    (r.prepare.run s).1 = (r.prepare.run t).1 := by
  cases r with
  | query q => rfl
  | prepared p =>
    rw [prepare, PreparedStatement.prepare, Action.run_get_bind, Action.run_get_bind, h]
    split <;> rfl
  | set p => rfl
  | stub s => exact hr.elim

end Routine

namespace Transaction

/-- Touching a connection fails with an error of execution. -/
theorem category_touch (hdriver : IsDriver β) {t t' : Transaction} {c : Nat} {s s' : Session β}
    (he : (s.engine? c).isSome) {e : Error} (h : (t.touch c).run s = ((failWith e, t'), s')) :
    e.category = .execution := by
  rw [touch, Action.run_ite] at h
  split at h
  · cases (Action.pure_eq h).1
  · obtain ⟨o, s₁, h₁, h⟩ := Action.bind_eq h
    rcases o with halt | ⟨⟨⟩⟩
    · obtain ⟨ho, rfl⟩ := Action.pure_eq h
      cases ho
      exact Session.category_begin hdriver he h₁
    · cases (Action.pure_eq h).1

/-- **A step fails for a reason of compilation** before anything is sent, if preparing finds it, and
otherwise behind the beginning of the transaction and the statements in front. -/
theorem runStep_compilation (hdriver : IsDriver β) {t t' : Transaction} {i c : Nat} {r : Routine}
    (hr : r.IsPlain) (hi : t.steps[i]? = some (.routine r)) (hc : r.connection = some c)
    {s s' : Session β} (he : (s.engine? c).isSome) {e : Error} (hcat : e.category = .compilation)
    (h : (t.runStep i).run s = ((failWith e, t'), s')) :
    (r.prepare.run s).1 = .error e ∧ s' = s.mark (.prepared i) ∨
      (r.prepare.run s).1 = .ok () ∧ ∃ ms ns, s'.trace = s.trace ++ .prepared i :: (ms ++ ns) ∧
        (∀ x ∈ exchanges ms, x.request.control? = some .begin) ∧
        r.FailsBehind (s.styleOf c) (exchanges ns) e := by
  -- errors of execution are other errors
  have hother {e' : Error} (h' : e'.category = .execution) : e ≠ e' := by
    rintro rfl
    rw [h'] at hcat
    cases hcat
  rw [runStep, Action.run_get_bind, Action.run_ite] at h
  split at h
  · cases (Action.pure_eq h).1
    exact absurd rfl (hother rfl)
  · simp only [hi, runRoutine, hc, Action.run_modify_bind] at h
    obtain ⟨o₁, s₁, h₁, h⟩ := Action.bind_eq h
    obtain rfl := Routine.prepare_run hr h₁
    have hp : (r.prepare.run s).1 = o₁ := by
      rw [← Routine.prepare_mark hr s (.prepared i), h₁]
    have hm := s.leads_mark (.prepared i)
    rcases o₁ with e' | ⟨⟨⟩⟩
    · obtain ⟨ho, rfl⟩ := Action.pure_eq h
      cases ho
      exact .inl ⟨hp, rfl⟩
    · obtain ⟨⟨o₂, t₂⟩, s₂, h₂, h⟩ := Action.bind_eq h
      obtain ⟨ms, d, touched, htouch, rfl, hl⟩ := touch_run h₂
      have hl₂ := hm.trans hl
      rcases o₂ with halt | ⟨⟨⟩⟩
      · obtain ⟨ho, rfl⟩ := Action.pure_eq h
        cases ho
        exact absurd rfl (hother (category_touch hdriver (by rw [hm.engine]; exact he) h₂))
      · obtain ⟨⟨o₃, r'⟩, s₃, h₃, h⟩ := Action.bind_eq h
        rw [Action.run_modify_bind] at h
        obtain ⟨hrec, rfl⟩ := Action.pure_eq h
        obtain rfl : o₃ = failWith e := by
          rcases o₃ with halt | rs
          · exact congrArg Except.error (Except.error.inj (congrArg Prod.fst hrec)).symm
          · cases congrArg Prod.fst hrec
        have hcut : isCancelled (failWith e : Outcome ResultSet) ≠ true := by
          intro hcut
          cases e with
          | cancelled => exact hother rfl rfl
          | _ => cases hcut
        rw [if_neg hcut]
        rcases watched_run h₃ with ⟨-, ho, -, -⟩ | ⟨-, o₄, u, h₄, rfl, ho⟩
        · cases ho
          exact absurd rfl (hother rfl)
        obtain rfl : o₄ = failWith e := by
          rcases ho with ⟨-, ho⟩ | ⟨rfl, ho⟩
          · exact ho.symm
          · split at ho
            · cases ho
              exact absurd rfl (hother rfl)
            · cases ho
        -- it is executed under the eyes of the watcher, behind a mark
        rw [executeAs, Action.run_modify_bind] at h₄
        have hw := (Session.leads_watcher s₂ t.token).trans (Session.leads_mark
          { s₂ with watcher := t.token } (.executed i c (s₂.depth c)))
        have hall := hl₂.trans hw
        obtain ⟨ns, o₅, hl₃, hns, ho₅⟩ := Routine.execute_stops hdriver hr hc
          (by rw [hall.engine]; exact he) ((Routine.prepare_congr hr hall.engine).trans hp) h₄
        rw [hall.styleOf] at hns
        refine .inr ⟨hp, ms, .executed i c (s₂.depth c) :: ns, ?_, htouch.control?, ?_⟩
        · change u.trace = _
          rw [hl₃.trace, hall.trace]
          simp
        · exact hns.fault_iff.mp ((ho₅ e).mp ⟨rfl, hcat⟩)

end Transaction

namespace Routine

variable {r : Routine} {c : Nat} {s : Session β}

/-- **What preparing a procedure is good for.** What it finds stops the execution at once, with the
same error. If it finds nothing, the execution fails for a reason of compilation exactly if it comes
to a statement that does not bind, the ones in front of it having run; and there is such a statement
exactly if preparing looked past a placeholder without a value. In a transaction that is so behind
the `BEGIN`. -/
theorem execute_of_prepare (hdriver : IsDriver β) (hr : r.IsPlain) (hc : r.connection = some c)
    (he : (s.engine? c).isSome) :
    (∀ e, (r.prepare.run s).1 = .error e → r.execute.run s = ((failWith e, r), s)) ∧
      ((r.prepare.run s).1 = .ok () →
        ((∃ e, .error e ∈ r.statements (s.styleOf c)) ↔ r.LooksPast (s.styleOf c)) ∧
          ∀ o r' s', r.execute.run s = ((o, r'), s') → ∃ ms, s.Leads ms s.depth s' ∧
            ∀ e, (o = failWith e ∧ e.category = .compilation) ↔
              r.FailsBehind (s.styleOf c) (exchanges ms) e) ∧
      ∀ (t t' : Transaction) (i : Nat) (s' : Session β) (e : Error),
        t.steps[i]? = some (.routine r) → e.category = .compilation →
        (t.runStep i).run s = ((failWith e, t'), s') →
          (r.prepare.run s).1 = .error e ∧ s' = s.mark (.prepared i) ∨
            (r.prepare.run s).1 = .ok () ∧
              ∃ ms ns, s'.trace = s.trace ++ .prepared i :: (ms ++ ns) ∧
                (∀ x ∈ exchanges ms, x.request.control? = some .begin) ∧
                r.FailsBehind (s.styleOf c) (exchanges ns) e := by
  refine ⟨fun e hp => execute_of_prepare_error hr hc hp, fun hp => ⟨exists_fault_iff he hc hp,
    fun o r' s' h => ?_⟩, fun t t' i s' e hi hcat h =>
      Transaction.runStep_compilation hdriver hr hi hc he hcat h⟩
  obtain ⟨ms, o₁, hl, hms, ho⟩ := execute_stops hdriver hr hc he hp h
  exact ⟨ms, hl, fun e => (ho e).trans hms.fault_iff⟩

/-- A template with a placeholder of its own, named like one that it is given for a second column,
and two rows, of which only the first has a second column. -/
def lacking : Routine := .set
  { connection := some 0
    template := ⟨"INSERT INTO t (n, <<columns>>) VALUES (:v1, <<values>>)", .insert⟩
    criteria := [(({} : Criterion).withValue "a" (.int 1)).withValue "b" (.int 2),
      ({} : Criterion).withValue "a" (.int 3)] }

/-- Something failed for a reason of compilation. -/
def isMisfit {α : Type} : Outcome α → Bool
  | .error (.failed e) => e.category = .compilation
  | _ => false

omit [Backend β] in
/-- A misfit is an error of compilation. -/
theorem exists_of_isMisfit {α : Type} {o : Outcome α} (h : isMisfit o) :
    ∃ e, o = failWith e ∧ e.category = .compilation := by
  rcases o with (e | _) | a
  · exact ⟨e, rfl, of_decide_eq_true h⟩
  · cases h
  · cases h

/-- A template whose second set leaves a name out can be prepared all the same. -/
theorem prepare_lacking : (lacking.prepare.run Willing.pair).1 = .ok () := by
  have hok : (lacking.prepare.run Willing.pair).1.isOk := by decide +kernel
  obtain ⟨⟨⟩, h⟩ := exists_of_isOk hok
  exact h

/-- It can be prepared. But its execution fails for want of a value, when the row with two columns
has been sent. -/
theorem execute_not_of_prepare_lacking :
    (lacking.prepare.run Willing.pair).1 = .ok () ∧
      (∃ e, (lacking.execute.run Willing.pair).1.1 = failWith e ∧ e.category = .compilation) ∧
      (exchanges (lacking.execute.run Willing.pair).2.trace).length = 1 :=
  ⟨prepare_lacking, exists_of_isMisfit (by decide +kernel), by decide +kernel⟩

/-- Preparing has looked past the placeholder. -/
theorem execute_of_prepare_lacking : IsDriver Willing ∧ lacking.IsPlain ∧
    lacking.connection = some 0 ∧ (Willing.pair.engine? 0).isSome ∧ lacking.LooksPast .question ∧
      ∃ ms e, Willing.pair.Leads ms Willing.pair.depth (lacking.execute.run Willing.pair).2 ∧
        lacking.FailsBehind .question (exchanges ms) e := by
  have hdriver : IsDriver Willing := nofun
  have hplain : lacking.IsPlain := trivial
  obtain ⟨e, ho, hcat⟩ : ∃ e, (lacking.execute.run Willing.pair).1.1 = failWith e ∧
      e.category = .compilation := exists_of_isMisfit (by decide +kernel)
  obtain ⟨hlooks, hbehind⟩ :=
    (execute_of_prepare (s := Willing.pair) hdriver hplain rfl rfl).2.1 prepare_lacking
  obtain ⟨ms, hl, hms⟩ := hbehind _ _ _ (run_of_answer ho)
  have hfails := (hms e).mp ⟨rfl, hcat⟩
  obtain ⟨⟨rest, hst⟩, -⟩ := id hfails
  have hmem : .error e ∈ lacking.statements .question := hst ▸ by simp
  exact ⟨hdriver, hplain, rfl, rfl, hlooks.mp ⟨e, hmem⟩, ms, e, hl, hfails⟩

end Routine

end Tabula
