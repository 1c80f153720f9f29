import Tabula.Proofs.Session.GivenUp
import Tabula.Proofs.Session.InTurn
import Tabula.Proofs.Sqlite.Stepwise

/-!
# What comes of executing

To execute a statement, all sets are bound before anything is sent. Then they go over the connection
at once, and the backend answers for one after the other. Its reply is passed on unless waiting for
it is given up; over a connection that was given up before nothing is sent.

* `NamedStatement.bindAll_eq_ok`, `NamedStatement.bindAll_eq_error_iff`: what binding sets gives.
* `Session.Ends`: how waiting for a reply ends.
* `Session.exchanged_sendGuarded`: what one request leaves behind.
* `Session.execute_in_turn`: what comes of a statement, on either engine.
-/

namespace Tabula

/-! ## Binding -/

namespace NamedStatement

variable {n : NamedStatement} {sets : List ParameterSet} {bound : List (List Value)} {e : Error}

/-- The values are those that a set has for the names, in order. -/
def Binds (n : NamedStatement) (set : ParameterSet) (vs : List Value) : Prop :=
  n.names.map set.find? = vs.map some

theorem isOk_bind_iff {set : ParameterSet} : (n.bind set).isOk ↔ ∃ vs, n.Binds set vs := by
  simp only [Binds, ← valuesOf_eq_ok_iff]
  constructor
  · intro h
    rcases hb : n.bind set with e | vs
    · rw [hb] at h
      cases h
    · exact ⟨vs, hb⟩
  · rintro ⟨vs, h⟩
    rw [bind, h]
    rfl

theorem length_setsOf (sets : List ParameterSet) : (setsOf sets).length = max 1 sets.length := by
  cases sets with
  | nil => rfl
  | cons set sets => simp [setsOf]

/-- Each set is bound to a list of its own. -/
theorem bindAll_eq_ok : n.bindAll sets = .ok bound ↔ List.Forall₂ n.Binds (setsOf sets) bound := by
  rw [bindAll_eq_mapM]
  exact ⟨fun h => (forall₂_of_mapM h).imp fun _ _ => valuesOf_eq_ok_iff.mp,
    fun h => mapM_of_forall₂ (h.imp fun _ _ => valuesOf_eq_ok_iff.mpr)⟩

/-- Of the sets that do not bind the first one is the error, with its first name. -/
theorem bindAll_eq_error_iff : n.bindAll sets = .error e ↔
    ∃ before set after name, setsOf sets = before ++ set :: after ∧
      (∀ earlier ∈ before, ∃ vs, n.Binds earlier vs) ∧
      n.names.find? (fun name => (set.find? name).isNone) = some name ∧
      e = .missingParameter name := by
  simp only [bindAll_eq_mapM, mapM_eq_error, isOk_bind_iff, bind_eq_error_iff]
  constructor
  · rintro ⟨before, set, after, hsets, hbefore, name, hname, he⟩
    exact ⟨before, set, after, name, hsets, hbefore, hname, he⟩
  · rintro ⟨before, set, after, name, hsets, hbefore, hname, he⟩
    exact ⟨before, set, after, hsets, hbefore, name, hname, he⟩

end NamedStatement

namespace Session

/-! ## Waiting -/

/-- How waiting for a reply ends, with a time limit and a token to listen to that has not fired, in
a step that was dropped or was not. -/
inductive Ends (limit : Option Duration) (token : Option Token) (dropped : Bool) :
    Reply → Outcome (List ResultSet) → Prop
  /-- a step that was dropped gets nothing -/
  | dropped {r : Reply} (hdropped : dropped) : Ends limit token dropped r (.error .stuck)
  /-- result sets are passed on -/
  | done {rs : List ResultSet} (hkept : ¬dropped) : Ends limit token dropped (.done rs) (.ok rs)
  /-- so is an error -/
  | failed {e : Error} (hkept : ¬dropped) : Ends limit token dropped (.failed e) (failWith e)
  /-- there is no reply, and nobody gives up, or the step is dropped meanwhile -/
  | stuck : Ends limit token dropped .never (.error .stuck)
  /-- there is no reply, and the token fires -/
  | cancelled (htoken : token.isSome) : Ends limit token dropped .never (failWith .cancelled)
  /-- there is no reply for so long -/
  | timedOut {d : Duration} (hlimit : limit = some d) :
    Ends limit token dropped .never (failWith (.timedOut d))

section Waiting

variable {β : Type} {s s' : Session β} {limit : Option Duration} {token : Option Token}
  {dropped : Bool} {r : Reply} {rs : List ResultSet} {o : Outcome (List ResultSet)} {halt : Halt}

theorem Ends.reply_of_ok (h : Ends limit token dropped r (.ok rs)) : r = .done rs := by
  cases h
  rfl

/-- Waiting changes only what has fired and what is going to. -/
theorem wait_ends (h : (wait limit token).run s = (halt, s')) :
    Ends limit token dropped .never (.error halt) ∧
      ∃ fired alarm, s' = { s with fired := fired, alarm := alarm } := by
  have hlate : Ends limit token dropped .never
      (.error (limit.elim .stuck fun d => .failed (.timedOut d))) := by
    cases limit with
    | none => exact .stuck
    | some d => exact .timedOut rfl
  simp only [wait, Action.run_get_bind] at h
  split at h
  next a _ =>
    rw [Action.run_ite] at h
    split at h
    · simp only [Action.run_set_bind, Action.run_ite] at h
      split at h
      · obtain ⟨rfl, rfl⟩ := Action.pure_eq h
        exact ⟨.stuck, _, _, rfl⟩
      split at h
      next htoken =>
        obtain ⟨rfl, rfl⟩ := Action.pure_eq h
        exact ⟨.cancelled (by rw [htoken]; rfl), _, _, rfl⟩
      next =>
        obtain ⟨rfl, rfl⟩ := Action.pure_eq h
        exact ⟨hlate, _, _, rfl⟩
    · simp only [Action.run_set_bind] at h
      obtain ⟨rfl, rfl⟩ := Action.pure_eq h
      exact ⟨hlate, _, _, rfl⟩
  next d _ =>
    obtain ⟨rfl, rfl⟩ := Action.pure_eq h
    exact ⟨hlate, _, _, rfl⟩
  next =>
    obtain ⟨rfl, rfl⟩ := Action.pure_eq h
    exact ⟨hlate, _, _, rfl⟩

theorem await_ends (h : (await r limit token).run s = (o, s')) (htoken : ¬s.hasFired token) :
    Ends limit token (s.hasFired s.watcher) r o ∧
      ∃ fired alarm, s' = { s with fired := fired, alarm := alarm } := by
  simp only [await, Action.run_get_bind, Action.run_ite, if_neg htoken] at h
  split at h
  next hdropped =>
    obtain ⟨rfl, rfl⟩ := Action.pure_eq h
    exact ⟨.dropped hdropped, _, _, rfl⟩
  next hkept =>
    cases r with
    | done rs =>
      obtain ⟨rfl, rfl⟩ := Action.pure_eq h
      exact ⟨.done hkept, _, _, rfl⟩
    | failed e =>
      obtain ⟨rfl, rfl⟩ := Action.pure_eq h
      exact ⟨.failed hkept, _, _, rfl⟩
    | never =>
      obtain ⟨halt, t, hwait, h⟩ := Action.bind_eq h
      obtain ⟨rfl, rfl⟩ := Action.pure_eq h
      exact wait_ends hwait

end Waiting

/-! ## One request -/

section Exchanged

variable {β : Type} [Backend β] {s s' : Session β} {c : Nat} {conn : Connection β} {r : Request}
  {o : Outcome (List ResultSet)}

/-- One request was sent over a connection and nothing else. Waiting for the reply ended in some
way, and if it was given up the backend was told to stop. -/
structure Exchanged (s : Session β) (c : Nat) (conn : Connection β) (r : Request)
    (o : Outcome (List ResultSet)) (s' : Session β) : Prop where
  /-- what comes of the reply -/
  ends : Ends conn.timeout conn.token (s.hasFired s.watcher) (Backend.answer conn.backend r).reply o
  /-- the backend is the one that answered, and it has been seen what was sent -/
  leaves : ∃ t, s' = (if isCutShort o then t.interrupt c else t) ∧
    t.connections =
      s.connections.set c { conn with backend := (Backend.answer conn.backend r).backend } ∧
    t.journal = s.journal ++ (Backend.answer conn.backend r).notices.map (.server c) ∧
    t.trace = s.trace ++ [.asked ⟨c, r, o⟩]

/-- **Over a connection that was not given up, one request is sent.** -/
theorem exchanged_sendGuarded (hconn : s.connections[c]? = some conn) (hopen : ¬s.IsGivenUp c)
    (hfired : (Backend.answer conn.backend r).fired = [])
    (hrun : (sendGuarded c r).run s = (o, s')) : s.Exchanged c conn r o s' := by
  have htoken : ¬s.hasFired conn.token := by rwa [IsGivenUp, tokenOf_of_getElem? hconn] at hopen
  cases guarded_sendGuarded hrun with
  | missing hmissing =>
    rw [hconn] at hmissing
    cases hmissing
  | givenUp hthere hgiven =>
    cases hconn.symm.trans hthere
    exact absurd hgiven htoken
  | sent hthere _ hawait =>
    cases hconn.symm.trans hthere
    rw [afterAnswer, foldl_see, hfired] at hawait
    obtain ⟨hends, fired, alarm, rfl⟩ := await_ends hawait htoken
    exact ⟨hends, _, rfl, rfl, rfl, rfl⟩

end Exchanged

/-! ## A statement -/

variable {δ : Type} [Sqlite.Driver δ] {s s' : Session (Store δ)} {c : Nat}
  {conn : Connection (Store δ)} {n : NamedStatement} {sets : List ParameterSet} {type : QueryType}
  {o : Outcome (List ResultSet)}

/-- What comes of a statement that is executed for some sets. -/
inductive Executes (s : Session (Store δ)) (c : Nat) (conn : Connection (Store δ))
    (n : NamedStatement) (sets : List ParameterSet) (type : QueryType) :
    Outcome (List ResultSet) → Session (Store δ) → Prop
  /-- a set does not bind, and the first such set is the error, with its first name; nothing is
  sent -/
  | unbound {before after : List ParameterSet} {set : ParameterSet} {name : String}
    (hsets : NamedStatement.setsOf sets = before ++ set :: after)
    (hbefore : ∀ earlier ∈ before, ∃ vs, n.Binds earlier vs)
    (hname : n.names.find? (fun name => (set.find? name).isNone) = some name) :
    Executes s c conn n sets type (failWith (.missingParameter name)) s
  /-- all sets bind, but the connection was given up; nothing is sent -/
  | givenUp {bound : List (List Value)}
    (hbound : List.Forall₂ n.Binds (NamedStatement.setsOf sets) bound) (hgiven : s.IsGivenUp c) :
    Executes s c conn n sets type (failWith .cancelled) (s.interrupt c)
  /-- all sets bind and are sent at once, and they are answered in turn -/
  | sent {bound : List (List Value)} {o : Outcome (List ResultSet)} {s' : Session (Store δ)}
    (hbound : List.Forall₂ n.Binds (NamedStatement.setsOf sets) bound) (hopen : ¬s.IsGivenUp c)
    (hsent : s.Exchanged c conn (.sets n.sql bound type) o s')
    (hanswer : Store.InTurn n.sql type conn.backend bound
      (Backend.answer conn.backend (.sets n.sql bound type))) :
    Executes s c conn n sets type o s'

/-- **There is a result set for each set**, and in each of an insertion the keys are the first
cells. -/
theorem Executes.answered {rs : List ResultSet} (h : Executes s c conn n sets type (.ok rs) s') :
    rs.length = max 1 sets.length ∧ ∀ r ∈ rs, r.KeysFirst type := by
  cases h with
  | @sent bound _ _ hbound hopen hsent hanswer =>
    have hreply := hsent.ends.reply_of_ok
    rw [hanswer.length hreply, ← hbound.length_eq, NamedStatement.length_setsOf]
    exact ⟨rfl, fun r hr => (Store.isAnswer_of_done hreply r hr).keysFirst⟩

variable [Sqlite.LawfulDriver δ]

theorem executes_of_execute {sql : String} (hconn : s.connections[c]? = some conn)
    (hrun : (execute c sql sets type).run s = (o, s')) :
    Executes s c conn (.compile sql (Backend.engine conn.backend).placeholderStyle) sets type
      o s' := by
  have hengine : s.engine? c = some (Backend.engine conn.backend) := by
    rw [engine?, hconn, Option.map_some]
  rw [execute, Action.run_get_bind, hengine] at hrun
  simp only at hrun
  generalize NamedStatement.compile sql (Backend.engine conn.backend).placeholderStyle = n at hrun ⊢
  rcases hbind : n.bindAll sets with e | bound
  · rw [hbind] at hrun
    obtain ⟨rfl, rfl⟩ := Action.pure_eq hrun
    obtain ⟨before, set, after, name, hsets, hbefore, hname, rfl⟩ :=
      NamedStatement.bindAll_eq_error_iff.mp hbind
    exact .unbound hsets hbefore hname
  rw [hbind] at hrun
  have hbound := NamedStatement.bindAll_eq_ok.mp hbind
  by_cases hgiven : s.IsGivenUp c
  · rw [sendGuarded_of_isGivenUp hgiven] at hrun
    cases hrun
    exact .givenUp hbound hgiven
  · refine .sent hbound hgiven
      (exchanged_sendGuarded hconn hgiven (Store.fired_answer _ _) hrun) ?_
    -- there is at least one list, even if there is no set
    cases bound with
    | nil =>
      have hlength := hbound.length_eq
      rw [NamedStatement.length_setsOf, List.length_nil] at hlength
      omega
    | cons v rest => exact Store.answer_inTurn conn.backend v rest

/-- **A statement is bound completely before it is sent, and answered set by set**, whatever driver
runs the statements of an embedded database. If a set does not bind, the first such set is the error
and nothing is sent; no set counts as an empty one. If all bind, nothing is sent over a connection
that was given up; over any other one request is sent, with a list of values for each set. The
backend answers for one list after the other, up to the first that fails or does not end, and what
it replies is passed on unless the step was dropped. A result set comes back for each set, and if an
insertion has columns the keys in it are the first cells. -/
theorem execute_in_turn (s : Session (Store δ)) (c : Nat) (conn : Connection (Store δ))
    (sql : String) (sets : List ParameterSet) (type : QueryType)
    (hconn : s.connections[c]? = some conn) :
    ∃ o s', (execute c sql sets type).run s = (o, s') ∧
      Executes s c conn (.compile sql (Backend.engine conn.backend).placeholderStyle) sets type
        o s' ∧
      ∀ rs, o = .ok rs → rs.length = max 1 sets.length ∧ ∀ r ∈ rs, r.KeysFirst type := by
  obtain ⟨o, s', hrun⟩ : ∃ o s', (execute c sql sets type).run s = (o, s') := ⟨_, _, rfl⟩
  have hexecutes := executes_of_execute hconn hrun
  refine ⟨o, s', hrun, hexecutes, ?_⟩
  rintro rs rfl
  exact hexecutes.answered

/-- A table without rows. -/
def vacant : Session (Store Sqlite.Database) :=
  let database : Sqlite.Database := { tables := [{ name := "t", columns := [{ name := "n" }] }] }
  { connections := [{ backend := .embedded { driver := database } }] }

/-- The values of two rows. -/
def twoRows : List ParameterSet := [.ofList [("n", .int 7)], .ofList [("n", .int 8)]]

/-- Two rows are inserted. -/
theorem execute_in_turn_vacant : ∃ o s',
    (execute 0 "INSERT INTO t (n) VALUES (:n) RETURNING n" twoRows .insert).run vacant = (o, s') ∧
      o.toOption.map (·.map ResultSet.keys) == some [[.int 7], [.int 8]] ∧
      ∃ conn, vacant.connections[0]? = some conn ∧
        Executes vacant 0 conn (.compile "INSERT INTO t (n) VALUES (:n) RETURNING n" .question)
          twoRows .insert o s' := by
  obtain ⟨o, s', hrun, hexecutes, -⟩ := execute_in_turn vacant 0 _
    "INSERT INTO t (n) VALUES (:n) RETURNING n" twoRows .insert rfl
  have hkeys : ((execute 0 "INSERT INTO t (n) VALUES (:n) RETURNING n" twoRows .insert).run
      vacant).1.toOption.map (·.map ResultSet.keys) == some [[.int 7], [.int 8]] := by
    decide +kernel
  rw [hrun] at hkeys
  exact ⟨o, s', hrun, hkeys, _, rfl, hexecutes⟩

/-- A connection to a database, whose token has fired. -/
def renounced : Session (Store Sqlite.Database) :=
  { connections := [{ backend := .embedded { driver := {} }, token := some 1 }], fired := [1] }

/-- All there is to bind is bound, and the database could answer, but nothing is sent. -/
theorem execute_renounced :
    (NamedStatement.compile "SELECT 1 AS a" .question).bindAll [] = .ok [[]] ∧
      (Backend.answer (Store.embedded { driver := ({} : Sqlite.Database) })
        (.sets "SELECT 1 AS a" [[]] .select)).reply matches .done [_] ∧
      ∃ s', (execute 0 "SELECT 1 AS a" [] .select).run renounced = (failWith .cancelled, s') ∧
        exchanges s'.trace = [] := by
  have hnames : (NamedStatement.compile "SELECT 1 AS a" .question).names = [] := by
    decide +kernel
  have hbind : (NamedStatement.compile "SELECT 1 AS a" .question).bindAll [] = .ok [[]] :=
    NamedStatement.bindAll_eq_ok.mpr (.cons (by rw [NamedStatement.Binds, hnames]; rfl) .nil)
  refine ⟨hbind, by decide +kernel, _, execute_of_not_leavesOut .select rfl ?_, rfl⟩
  rintro ⟨set, -, name, hname, -⟩
  rw [show renounced.styleOf 0 = .question from rfl, hnames] at hname
  cases hname

end Session

end Tabula
