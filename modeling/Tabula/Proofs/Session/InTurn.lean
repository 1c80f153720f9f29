import Tabula.Proofs.Sqlite.Driver
import Tabula.Session.Opening

/-!
# Lists of values in turn

A backend is asked to run a statement for several lists of values at once. What it answers is what
it would answer if it were asked for one list after the other, up to the first that fails: each
result set is that of one list alone, and behind a failure nothing runs. An embedded database is
asked again as it is then; a server has the statement prepared, with the answers of the runs that
are left.

* `Store.InTurn`: the answer for several lists, made of answers for one.
* `Store.answer_inTurn`: both engines answer in turn, whatever driver runs the statements.
* `Store.isAnswer_of_done`: whatever they reply, each result set is an answer.
-/

namespace Tabula

/-! ## Answers for one list and for several -/

/-- An answer for some lists of values, with that for another one in front. The statement was
prepared for that one, so it is not prepared anew. -/
def Answer.behind {β : Type} (a : Answer β) (r : ResultSet) (notices : List Notice) : Answer β :=
  { a with reply := a.reply.behind r, notices := notices ++ a.notices.tail }

/-- The answer for one list of values. -/
def Backend.alone {β : Type} [Backend β] (sql : String) (type : QueryType) (b : β)
    (v : List Value) : Answer β :=
  Backend.answer b (.sets sql [v] type)

open Backend (alone)

/-! ## Embedded databases -/

namespace Sqlite.Handle

variable {δ : Type} [Driver δ] {h : Handle δ} {sql : String} {type : QueryType} {v : List Value}
  {rs : List ResultSet}

/-- Behind a list that fails, or that does not end, nothing runs. -/
theorem answer_stopped (hready : h.waiting = none) (hreply : (alone sql type h v).reply.IsStopped)
    (rest : List (List Value)) :
    Backend.answer h (.sets sql (v :: rest) type) = alone sql type h v := by
  rw [alone, answer_of_ready hready] at hreply ⊢
  rw [answer_of_ready hready]
  exact congrArg answered (Driver.executeSets_stopped hreply rest)

/-- Behind a list that has run the others run on what the database is then. -/
theorem answer_next [LawfulDriver δ] (hreply : (alone sql type h v).reply = .done rs) :
    ∃ r, rs = [r] ∧ ∀ v' rest,
      Backend.answer h (.sets sql (v :: v' :: rest) type) =
        (Backend.answer (alone sql type h v).backend (.sets sql (v' :: rest) type)).behind r
          (alone sql type h v).notices := by
  generalize hleft : (alone sql type h v).backend = h'
  obtain ⟨hready, hready', hrun⟩ := answer_eq_done.mp ⟨hreply, hleft⟩
  obtain ⟨r, rfl, hnext⟩ := Driver.executeSets_next hrun
  refine ⟨r, rfl, fun v' rest => ?_⟩
  rw [alone, answer_of_ready hready, answer_of_ready hready, answer_of_ready hready', Driver.serve,
    Driver.serve, hnext]
  rcases Driver.executeSets h'.driver sql (v' :: rest) type with ⟨rs | e | _, d⟩ <;> rfl

end Sqlite.Handle

/-! ## The server -/

namespace Postgres

namespace Prepared

variable {p : Prepared} {type : QueryType} {runs : List Run} {v : List Value} {set : ResultSet}

/-- What a run answers is no matter of the answers of other runs. -/
theorem runAll_withRuns (others : List Run) (vs : List (List Value)) :
    ({ p with runs := others } : Prepared).runAll type runs vs = p.runAll type runs vs := by
  induction vs generalizing runs with
  | nil => rfl
  | cons v vs ih =>
    rw [runAll, runAll, ih]
    rfl

/-- A statement runs for one list, and then for the others. -/
theorem runAll_cons (p : Prepared) (v : List Value) (rest : List (List Value)) :
    p.runAll type runs (v :: rest) =
      match p.runAll type runs [v] with
      | (.ok rs, ns) => ((rs ++ ·) <$> (p.runAll type runs.tail rest).1,
          ns ++ (p.runAll type runs.tail rest).2)
      | (.error e, ns) => (.error e, ns) := by
  rcases hbind : p.bind v with e | cells
  · simp only [runAll, hbind]
  rcases hresult : p.result type (runs.headD default) with e | set
  · simp only [runAll, hbind, hresult]
  · simp only [runAll, hbind, hresult]
    rfl

theorem length_of_decodeFrom {i : Nat} {types : List ColumnType}
    {cells : List (Option (List UInt8))} {vs : List Value} (h : decodeFrom i types cells = .ok vs)
    (hlength : cells.length = types.length) : vs.length = types.length := by
  induction types generalizing i cells vs with
  | nil =>
    rw [List.length_eq_zero_iff.mp hlength] at h
    cases h
    rfl
  | cons t types ih =>
    obtain ⟨cell, cells, rfl⟩ := List.exists_cons_of_length_eq_add_one hlength
    rw [decodeFrom] at h
    split at h
    · obtain ⟨vs', hvs', h⟩ := bind_eq_ok.mp h
      cases h
      exact congrArg Nat.succ (ih hvs' (Nat.succ.inj hlength))
    · cases h

theorem isAnswer_result {run : Run} (h : p.result type run = .ok set) : set.IsAnswer type := by
  rw [result] at h
  by_cases hfits : p.fits run.rows
  · rw [hfits, Bool.not_true, if_neg Bool.false_ne_true] at h
    split at h
    · cases h
    by_cases hcolumns : p.columns.isEmpty
    · rw [if_pos hcolumns] at h
      cases h
      exact .counted
    · rw [if_neg hcolumns] at h
      obtain ⟨rows, hrows, h⟩ := bind_eq_ok.mp h
      cases h
      have hnames : p.columns ≠ [] := fun hnil => hcolumns (List.isEmpty_iff.mpr hnil)
      refine ResultSet.isAnswer_of_rows (fun hnil => hnames (List.map_eq_nil_iff.mp hnil))
        (fun vs hvs => ?_) rfl
      -- the row has a cell for each of the columns
      obtain ⟨cells, hcells, hdecode⟩ := exists_of_mem_mapM hrows hvs
      rw [fits, Bool.or_eq_true, or_iff_right hcolumns, List.all_eq_true] at hfits
      have hlength : cells.length = (p.columns.map Prod.snd).length := by
        rw [List.length_map]
        exact beq_iff_eq.mp (hfits cells hcells)
      rw [length_of_decodeFrom hdecode hlength, List.length_map]
      exact (List.length_map _).symm
  · rw [Bool.not_eq_true] at hfits
    rw [hfits] at h
    cases h

theorem runAll_singleton {rs : List ResultSet} {ns : List Notice}
    (h : p.runAll type runs [v] = (.ok rs, ns)) :
    ∃ r, rs = [r] ∧ p.result type (runs.headD default) = .ok r := by
  rcases hbind : p.bind v with e | cells
  · simp only [runAll, hbind] at h
    cases h
  rcases hresult : p.result type (runs.headD default) with e | set
  · simp only [runAll, hbind, hresult] at h
    cases h
  · simp only [runAll, hbind, hresult] at h
    cases h
    exact ⟨set, rfl, rfl⟩

theorem isAnswer_of_runAll {vs : List (List Value)} {rs : List ResultSet} {ns : List Notice}
    (h : p.runAll type runs vs = (.ok rs, ns)) : ∀ r ∈ rs, r.IsAnswer type := by
  induction vs generalizing runs rs ns with
  | nil =>
    cases h
    simp
  | cons v vs ih =>
    rw [runAll_cons] at h
    rcases hfirst : p.runAll type runs [v] with ⟨e | rs₁, ns₁⟩
    · rw [hfirst] at h
      cases h
    rcases hrest : p.runAll type runs.tail vs with ⟨e | rs₂, ns₂⟩
    · rw [hfirst, hrest] at h
      cases h
    rw [hfirst, hrest] at h
    cases h
    obtain ⟨r, rfl, hresult⟩ := runAll_singleton hfirst
    exact List.forall_mem_cons.mpr ⟨isAnswer_result hresult, ih hrest⟩

end Prepared

namespace Server

/-- The server, with the statement that it would prepare next prepared and run once already. -/
def further (s : Server) : Server :=
  match s.statements.headD (some {}) with
  | none => s
  | some p => { s with statements := some { p with runs := p.runs.tail } :: s.statements.tail }

variable {s : Server} {sql : String} {type : QueryType} {p : Prepared} {v : List Value}
  {sets : List (List Value)} {rs : List ResultSet} {e : Error}

/-- A statement that is refused is refused whatever it is to run for. -/
theorem answer_of_refused (h : ¬(isSendable sql ∧ (s.statements.headD (some {})).isSome)) :
    ∃ a e, a.reply = .failed e ∧ ∀ sets, Backend.answer s (.sets sql sets type) = a := by
  by_cases hsendable : isSendable sql
  · rcases hhead : s.statements.headD (some {}) with _ | p
    · refine ⟨{ reply := .failed refused, backend := { s with statements := s.statements.tail },
                notices := [.prepared sql] }, refused, rfl, fun sets => ?_⟩
      change s.answer _ = _
      simp only [answer, hsendable, Bool.not_true, Bool.false_eq_true, if_false]
      rw [hhead]
    · exact absurd ⟨hsendable, by rw [hhead]; rfl⟩ h
  · refine ⟨{ reply := .failed unsendable, backend := s }, unsendable, rfl, fun sets => ?_⟩
    change s.answer _ = _
    simp [answer, hsendable]

theorem answer_of_prepared (hsendable : isSendable sql)
    (hhead : s.statements.headD (some {}) = some p) (sets : List (List Value)) :
    Backend.answer s (.sets sql sets type) =
      { reply := replyOf (p.runAll type p.runs sets).1
        backend := { s with statements := s.statements.tail }
        notices := .prepared sql :: (p.runAll type p.runs sets).2 } := by
  change s.answer _ = _
  simp only [answer, hsendable, Bool.not_true, Bool.false_eq_true, if_false]
  rw [hhead]

theorem fired_answer (s : Server) (q : Request) : (Backend.answer s q).fired = [] := by
  change (s.answer q).fired = []
  cases q with
  | batch sql =>
    rw [answer]
    split <;> rfl
  | sets sql sets type =>
    rw [answer]
    split
    · rfl
    · dsimp only
      split <;> rfl

theorem further_of_prepared (hhead : s.statements.headD (some {}) = some p) :
    s.further =
      { s with statements := some { p with runs := p.runs.tail } :: s.statements.tail } := by
  rw [further, hhead]

/-- The server always answers. -/
theorem reply_ne_never : (Backend.answer s (.sets sql sets type)).reply ≠ .never := by
  intro h
  by_cases hhead : isSendable sql ∧ (s.statements.headD (some {})).isSome
  · obtain ⟨p, hp⟩ := Option.isSome_iff_exists.mp hhead.2
    rw [answer_of_prepared hhead.1 hp] at h
    cases hrun : (p.runAll type p.runs sets).1 <;> simp [hrun, replyOf] at h
  · obtain ⟨a, e, ha, hall⟩ := answer_of_refused hhead
    rw [hall, ha] at h
    cases h

theorem isAnswer_of_done (h : (Backend.answer s (.sets sql sets type)).reply = .done rs) :
    ∀ r ∈ rs, r.IsAnswer type := by
  by_cases hhead : isSendable sql ∧ (s.statements.headD (some {})).isSome
  · obtain ⟨p, hp⟩ := Option.isSome_iff_exists.mp hhead.2
    rw [answer_of_prepared hhead.1 hp] at h
    rcases hrun : p.runAll type p.runs sets with ⟨e' | rs', ns⟩
    · rw [hrun] at h
      cases h
    · rw [hrun] at h
      cases h
      exact Prepared.isAnswer_of_runAll hrun
  · obtain ⟨a, e, ha, hall⟩ := answer_of_refused hhead
    rw [hall, ha] at h
    cases h

/-- Behind a list that fails nothing is bound. -/
theorem answer_failed (h : (alone sql type s v).reply = .failed e) (rest : List (List Value)) :
    Backend.answer s (.sets sql (v :: rest) type) = alone sql type s v := by
  by_cases hhead : isSendable sql ∧ (s.statements.headD (some {})).isSome
  · obtain ⟨p, hp⟩ := Option.isSome_iff_exists.mp hhead.2
    rw [alone, answer_of_prepared hhead.1 hp] at h ⊢
    rw [answer_of_prepared hhead.1 hp, Prepared.runAll_cons]
    rcases hrun : p.runAll type p.runs [v] with ⟨e' | rs, ns⟩
    · rfl
    · rw [hrun] at h
      cases h
  · obtain ⟨a, e, -, hall⟩ := answer_of_refused hhead
    rw [alone, hall, hall]

/-- Behind a list that has run the others run with the answers that are left. -/
theorem answer_done (h : (alone sql type s v).reply = .done rs) :
    ∃ r, rs = [r] ∧ ∀ v' rest,
      Backend.answer s (.sets sql (v :: v' :: rest) type) =
        (Backend.answer s.further (.sets sql (v' :: rest) type)).behind r
          (alone sql type s v).notices := by
  by_cases hhead : isSendable sql ∧ (s.statements.headD (some {})).isSome
  · obtain ⟨p, hp⟩ := Option.isSome_iff_exists.mp hhead.2
    rw [alone, answer_of_prepared hhead.1 hp] at h
    rcases hrun : p.runAll type p.runs [v] with ⟨e' | rs', ns⟩
    · rw [hrun] at h
      cases h
    · rw [hrun] at h
      cases h
      obtain ⟨r, rfl, -⟩ := Prepared.runAll_singleton hrun
      refine ⟨r, rfl, fun v' rest => ?_⟩
      -- the statement is prepared as before, with the runs that are left
      have hfurther : s.further.statements.headD (some {}) =
          some { p with runs := p.runs.tail } := by
        rw [further_of_prepared hp]
        rfl
      rw [answer_of_prepared hhead.1 hfurther, further_of_prepared hp, Prepared.runAll_withRuns,
        alone, answer_of_prepared hhead.1 hp, answer_of_prepared hhead.1 hp,
        Prepared.runAll_cons, hrun]
      rcases p.runAll type p.runs.tail (v' :: rest) with ⟨e' | rs', ns'⟩ <;> rfl
  · obtain ⟨a, e, ha, hall⟩ := answer_of_refused hhead
    rw [alone, hall, ha] at h
    cases h

end Server

end Postgres

/-! ## Either engine -/

namespace Store

variable {δ : Type} [Sqlite.Driver δ] {sql : String} {type : QueryType} {b : Store δ}
  {v : List Value} {vs : List (List Value)} {a : Answer (Store δ)} {rs : List ResultSet} {e : Error}

/-- No token fires behind either engine. -/
theorem fired_answer (b : Store δ) (q : Request) : (Backend.answer b q).fired = [] := by
  cases b with
  | embedded h => exact Sqlite.Handle.fired_answer h q
  | server s => exact Postgres.Server.fired_answer s q

/-- What is asked for the other lists behind one: the database as it is then, or the server with the
statement prepared and the answers of the runs that are left. -/
def onward (sql : String) (type : QueryType) (b : Store δ) (v : List Value) : Store δ :=
  match b with
  | .embedded _ => (alone sql type b v).backend
  | .server s => .server s.further

/-- **The answer for several lists of values in turn.** -/
inductive InTurn (sql : String) (type : QueryType) :
    Store δ → List (List Value) → Answer (Store δ) → Prop
  /-- something runs in the database that does not end, and all lists wait behind it -/
  | busy {h : Sqlite.Handle δ} {queue : List Request} {vs : List (List Value)}
    (hwaiting : h.waiting = some queue) :
    InTurn sql type (.embedded h) vs
      { reply := .never
        backend := .embedded { h with waiting := some (queue ++ [.sets sql vs type]) } }
  /-- nothing does, but the first one does not end, and nothing is asked behind it -/
  | endless {h : Sqlite.Handle δ} {v : List Value} {rest : List (List Value)}
    (hready : h.waiting = none) (hreply : (alone sql type (Store.embedded h) v).reply = .never) :
    InTurn sql type (.embedded h) (v :: rest) (alone sql type (Store.embedded h) v)
  /-- the first one fails, and nothing is asked behind it -/
  | failed {b : Store δ} {v : List Value} {rest : List (List Value)} {e : Error}
    (hreply : (alone sql type b v).reply = .failed e) :
    InTurn sql type b (v :: rest) (alone sql type b v)
  /-- there is one list, and it has a result set -/
  | last {b : Store δ} {v : List Value} {r : ResultSet}
    (hreply : (alone sql type b v).reply = .done [r]) :
    InTurn sql type b [v] (alone sql type b v)
  /-- the first one has a result set, and the others follow -/
  | next {b : Store δ} {v v' : List Value} {rest : List (List Value)} {r : ResultSet}
    {a : Answer (Store δ)} (hreply : (alone sql type b v).reply = .done [r])
    (hrest : InTurn sql type (onward sql type b v) (v' :: rest) a) :
    InTurn sql type b (v :: v' :: rest) (a.behind r (alone sql type b v).notices)

/-- Behind a list that fails nothing is asked. -/
theorem answer_failed (h : (alone sql type b v).reply = .failed e) (rest : List (List Value)) :
    Backend.answer b (.sets sql (v :: rest) type) = alone sql type b v := by
  cases b with
  | embedded d =>
    have hready : d.waiting = none := by
      rcases hwaiting : d.waiting with _ | queue
      · rfl
      · change (alone sql type d v).reply = _ at h
        rw [alone, Sqlite.Handle.answer_of_waiting hwaiting] at h
        cases h
    exact congrArg (lift Store.embedded)
      (Sqlite.Handle.answer_stopped hready (h ▸ Reply.isStopped_failed e) rest)
  | server s => exact congrArg (lift Store.server) (Postgres.Server.answer_failed h rest)

/-- **One list has one result set, and behind it the others are asked.** -/
theorem answer_done [Sqlite.LawfulDriver δ] (h : (alone sql type b v).reply = .done rs) :
    ∃ r, rs = [r] ∧ ∀ v' rest,
      Backend.answer b (.sets sql (v :: v' :: rest) type) =
        (Backend.answer (onward sql type b v) (.sets sql (v' :: rest) type)).behind r
          (alone sql type b v).notices := by
  cases b with
  | embedded d =>
    obtain ⟨r, hrs, hnext⟩ := Sqlite.Handle.answer_next h
    exact ⟨r, hrs, fun v' rest => congrArg (lift Store.embedded) (hnext v' rest)⟩
  | server s =>
    obtain ⟨r, hrs, hnext⟩ := Postgres.Server.answer_done h
    exact ⟨r, hrs, fun v' rest => congrArg (lift Store.server) (hnext v' rest)⟩

/-- Without a reply, something runs in an embedded database that does not end. -/
theorem inTurn_of_never (h : (alone sql type b v).reply = .never) (rest : List (List Value)) :
    InTurn sql type b (v :: rest) (Backend.answer b (.sets sql (v :: rest) type)) := by
  cases b with
  | embedded d =>
    rcases hwaiting : d.waiting with _ | queue
    · have hwhole : Backend.answer (Store.embedded d) (.sets sql (v :: rest) type) =
          alone sql type (Store.embedded d) v :=
        congrArg (lift Store.embedded)
          (Sqlite.Handle.answer_stopped hwaiting (h ▸ Reply.isStopped_never) rest)
      rw [hwhole]
      exact .endless hwaiting h
    · have hwhole : Backend.answer (Store.embedded d) (.sets sql (v :: rest) type) = _ :=
        congrArg (lift Store.embedded)
          (Sqlite.Handle.answer_of_waiting hwaiting (.sets sql (v :: rest) type))
      rw [hwhole]
      exact .busy hwaiting
  | server s => exact absurd h Postgres.Server.reply_ne_never

/-- **Both engines answer in turn.** -/
theorem answer_inTurn [Sqlite.LawfulDriver δ] (b : Store δ) (v : List Value)
    (rest : List (List Value)) :
    InTurn sql type b (v :: rest) (Backend.answer b (.sets sql (v :: rest) type)) := by
  induction rest generalizing b v with
  | nil =>
    rcases hreply : (alone sql type b v).reply with rs | e | _
    · obtain ⟨r, rfl, -⟩ := answer_done hreply
      exact .last hreply
    · exact .failed hreply
    · exact inTurn_of_never hreply []
  | cons v' rest ih =>
    rcases hreply : (alone sql type b v).reply with rs | e | _
    · obtain ⟨r, rfl, hnext⟩ := answer_done hreply
      rw [hnext]
      exact .next hreply (ih _ v')
    · rw [answer_failed hreply]
      exact .failed hreply
    · exact inTurn_of_never hreply _

/-- There is a result set for each list. -/
theorem InTurn.length (h : InTurn sql type b vs a) (ha : a.reply = .done rs) :
    rs.length = vs.length := by
  induction h generalizing rs with
  | busy => cases ha
  | endless _ hreply | failed hreply =>
    rw [hreply] at ha
    cases ha
  | last hreply =>
    rw [hreply] at ha
    cases ha
    rfl
  | @next b v v' rest r a hreply hrest ih =>
    obtain ⟨rs', hothers, rfl⟩ := Reply.behind_eq_done.mp ha
    rw [List.length_cons, ih hothers, List.length_cons (a := v)]

/-- Whatever lists a statement is run for, each result set is an answer. -/
theorem isAnswer_of_done (h : (Backend.answer b (.sets sql vs type)).reply = .done rs) :
    ∀ r ∈ rs, r.IsAnswer type := by
  cases b with
  | embedded d =>
    obtain ⟨-, -, hrun⟩ := Sqlite.Handle.answer_eq_done.mp ⟨h, rfl⟩
    exact Sqlite.Driver.isAnswer_of_executeSets hrun
  | server s => exact Postgres.Server.isAnswer_of_done h

end Store

end Tabula
