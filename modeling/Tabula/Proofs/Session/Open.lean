import Tabula.Proofs.Session.RoundTrip

/-!
# Connections that are open

A reply comes back over a connection only if nobody has given it up, nor the step that is running.
Such a connection is open, and after the reply it still is; the backend behind it is the one that
answered. Over an open connection a request that the backend fulfills comes back.

* `Session.isOpen_of_sendGuarded`, `Session.isOpen_of_execute`: where a reply came back.
* `Session.sendGuarded_of_isOpen`: where a reply comes back.
-/

namespace Tabula

variable {β : Type}

namespace Session

variable [Backend β]

/-- Nothing stands in the way of statements over a connection, and this is the backend behind it. -/
structure IsOpen (s : Session β) (c : Nat) (b : β) : Prop where
  /-- it is there, and nobody has given it up -/
  connection : ∃ conn, s.connections[c]? = some conn ∧ conn.backend = b ∧
    s.hasFired conn.token = false
  /-- neither has anybody given up the step that is running -/
  watcher : s.hasFired s.watcher = false

variable {s s' : Session β} {c : Nat} {b b' : β} {q : Request} {rs : List ResultSet}

omit [Backend β] in
theorem IsOpen.unique (h : s.IsOpen c b) (h' : s.IsOpen c b') : b = b' := by
  obtain ⟨conn, hconn, rfl, -⟩ := h.connection
  obtain ⟨conn', hconn', rfl, -⟩ := h'.connection
  rw [hconn] at hconn'
  cases hconn'
  rfl

theorem IsOpen.engine? (h : s.IsOpen c b) : s.engine? c = some (Backend.engine b) := by
  obtain ⟨conn, hconn, rfl, -⟩ := h.connection
  rw [Session.engine?, hconn, Option.map_some]

omit [Backend β] in
/-- What has not fired in the end had not fired before. -/
theorem hasFired_of_append {s : Session β} {fired : List Token} {t : Option Token}
    (h : ({ s with fired := fired ++ s.fired } : Session β).hasFired t = false) :
    s.hasFired t = false := by
  cases t with
  | none => rfl
  | some t =>
    simp only [hasFired, Option.any_some, List.contains_eq_mem, decide_eq_false_iff_not,
      List.mem_append, not_or] at h ⊢
    exact h.2

omit [Backend β] in
/-- After an answer the backend is another one; of the rest only the journal, and what has fired. -/
theorem afterAnswer_eq (s : Session β) (c : Nat) (conn : Connection β) (a : Answer β) :
    ∃ j, s.afterAnswer c conn a = { s with
      connections := s.connections.set c { conn with backend := a.backend }
      journal := j
      fired := a.fired ++ s.fired } :=
  ⟨_, by rw [afterAnswer, foldl_see]; rfl⟩

omit [Backend β] in
/-- A reply is awaited if nobody has given up. -/
theorem await_eq_ok {r : Reply} {limit : Option Duration} {token : Option Token}
    (h : (await r limit token).run s = (.ok rs, s')) :
    r = .done rs ∧ s' = s ∧ s.hasFired s.watcher = false ∧ s.hasFired token = false := by
  simp only [await, Action.run_get_bind, Action.run_ite] at h
  split at h
  · cases (Action.pure_eq h).1
  · split at h
    · cases (Action.pure_eq h).1
    · cases r with
      | done sets =>
        obtain ⟨heq, rfl⟩ := Action.pure_eq h
        cases heq
        exact ⟨rfl, rfl, by simp_all, by simp_all⟩
      | failed e => cases (Action.pure_eq h).1
      | never =>
        obtain ⟨halt, t, -, h⟩ := Action.bind_eq h
        cases (Action.pure_eq h).1

omit [Backend β] in
theorem await_done {limit : Option Duration} {token : Option Token}
    (hw : s.hasFired s.watcher = false) (ht : s.hasFired token = false) :
    (await (.done rs) limit token).run s = (.ok rs, s) := by
  simp only [await, Action.run_get_bind, hw, ht, Bool.false_eq_true, if_false]
  rfl

/-- A reply is passed on if nothing has fired by then that is listened to. -/
theorem send_done {conn : Connection β} {limit : Option Duration} {token : Option Token}
    (hconn : s.connections[c]? = some conn)
    (hreply : (Backend.answer conn.backend q).reply = .done rs)
    (hw : (s.afterAnswer c conn (Backend.answer conn.backend q)).hasFired
      (s.afterAnswer c conn (Backend.answer conn.backend q)).watcher = false)
    (ht : (s.afterAnswer c conn (Backend.answer conn.backend q)).hasFired token = false) :
    (send c q limit token).run s =
      (.ok rs,
        (s.afterAnswer c conn (Backend.answer conn.backend q)).mark (.asked ⟨c, q, .ok rs⟩)) := by
  have hawait : (await (Backend.answer conn.backend q).reply limit token).run
      (s.afterAnswer c conn (Backend.answer conn.backend q)) =
        (.ok rs, s.afterAnswer c conn (Backend.answer conn.backend q)) := by
    rw [hreply]
    exact await_done hw ht
  rw [send, Action.run_get_bind, hconn]
  simp only [Action.run_set_bind]
  rw [Action.run_bind _ hawait]
  rfl

/-- **What comes back over a connection is the reply of an open one**, and it stays open. -/
theorem isOpen_of_sendGuarded (h : (sendGuarded c q).run s = (.ok rs, s')) :
    ∃ b, s.IsOpen c b ∧ (Backend.answer b q).reply = .done rs ∧
      s'.IsOpen c (Backend.answer b q).backend := by
  cases guarded_sendGuarded h with
  | @sent conn _ t hconn hfree hawait =>
    -- an answer only adds to what has fired, so nothing of it had fired before
    obtain ⟨hreply, rfl, hwatcher, htoken⟩ := await_eq_ok hawait
    obtain ⟨j, hj⟩ := afterAnswer_eq s c conn (Backend.answer conn.backend q)
    rw [hj] at hwatcher htoken ⊢
    refine ⟨conn.backend, ⟨⟨conn, hconn, rfl, by simpa using hfree⟩, hasFired_of_append hwatcher⟩,
      hreply, ⟨⟨{ conn with backend := (Backend.answer conn.backend q).backend }, ?_, rfl, htoken⟩,
        hwatcher⟩⟩
    exact (getElem?_withConnection hconn _ c).trans (if_pos rfl)

/-- **What comes back for a statement is the reply to one request**, with what all of its sets are
bound to. -/
theorem isOpen_of_execute {sql : String} {sets : List ParameterSet} {type : QueryType}
    (h : (execute c sql sets type).run s = (.ok rs, s')) :
    ∃ (b : β) (n : NamedStatement) (bound : List (List Value)), s.IsOpen c b ∧
      n = .compile sql (Backend.engine b).placeholderStyle ∧
      n.bindAll sets = .ok bound ∧
      (Backend.answer b (.sets n.sql bound type)).reply = .done rs ∧
      s'.IsOpen c (Backend.answer b (.sets n.sql bound type)).backend := by
  rw [execute, Action.run_get_bind] at h
  rcases he : s.engine? c with _ | engine
  · rw [he] at h
    cases (Action.pure_eq h).1
  simp only [he] at h
  rcases hbound : (NamedStatement.compile sql engine.placeholderStyle).bindAll sets with e | bound
  · rw [hbound] at h
    cases (Action.pure_eq h).1
  rw [hbound] at h
  obtain ⟨b, hs, hreply, hs'⟩ := isOpen_of_sendGuarded h
  rw [hs.engine?] at he
  cases he
  exact ⟨b, _, bound, hs, rfl, hbound, hreply, hs'⟩

/-- Over an open connection a reply comes back. -/
theorem sendGuarded_of_isOpen (hs : s.IsOpen c b) (hfired : (Backend.answer b q).fired = [])
    (hreply : (Backend.answer b q).reply = .done rs) :
    ∃ s', (sendGuarded c q).run s = (.ok rs, s') := by
  obtain ⟨conn, hconn, rfl, htoken⟩ := hs.connection
  obtain ⟨j, hj⟩ := afterAnswer_eq s c conn (Backend.answer conn.backend q)
  rw [hfired, List.nil_append] at hj
  have hunless : (sendUnlessFired c q conn).run s = (send c q conn.timeout conn.token).run s := by
    rw [sendUnlessFired, Action.run_get_bind, Action.run_ite, if_neg (by simp [htoken])]
  have hsend := hunless.trans
    (send_done hconn hreply (by rw [hj]; exact hs.watcher) (by rw [hj]; exact htoken))
  rw [sendGuarded, Action.run_get_bind, hconn]
  exact ⟨_, Action.run_bind _ hsend⟩

end Session

end Tabula
