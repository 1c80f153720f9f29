import Tabula.Proofs.Procedure.Preparing
import Tabula.Proofs.Session.Depth
import Tabula.Proofs.Session.Open

/-!
# Connections that were given up

A connection was given up when its token has fired. It stays so, whatever is called on it or on
others. Statements are no longer sent over it and no transaction of the database is entered, but the
transactions that are open can be left: that looks neither at the token nor at the time limit.

* `sparing_call`: over a connection that was given up a call sends nothing but the end of a
  transaction, and the connection stays given up.
* `blind_commit`, `blind_rollback`: transactions are left without regard to the token.
* `OnlyEnds`: what becomes of each call on a connection that was given up.
* `given_up_only_ends`: all of this after any calls.
-/

open Tabula.Action

namespace Tabula

variable {β α γ : Type}

/-- The request of an exchange is the end of a transaction. -/
def Exchange.IsEnd (x : Exchange) : Prop :=
  x.request = Control.commit.request ∨ x.request = Control.rollback.request

namespace Session

/-- The token that ends the round trips of a connection. -/
def tokenOf (s : Session β) (c : Nat) : Option Token := (s.connections[c]?).bind Connection.token

/-- The token of a connection has fired. -/
def IsGivenUp (s : Session β) (c : Nat) : Prop := s.hasFired (s.tokenOf c)

/-- The token of a connection that is there. -/
theorem tokenOf_of_getElem? {s : Session β} {c : Nat} {conn : Connection β}
    (h : s.connections[c]? = some conn) : s.tokenOf c = conn.token := by
  rw [tokenOf, h, Option.bind_some]

/-- There is a connection of a number that was given up. -/
theorem IsGivenUp.exists_connection {s : Session β} {c : Nat} (h : s.IsGivenUp c) :
    ∃ conn, s.connections[c]? = some conn ∧ s.hasFired conn.token := by
  rcases hc : s.connections[c]? with _ | conn
  · rw [IsGivenUp, tokenOf, hc] at h
    cases h
  · rw [IsGivenUp, tokenOf_of_getElem? hc] at h
    exact ⟨conn, rfl, h⟩

/-! ## What a call spares -/

/-- In a later session a connection has the same token, what had fired has fired, and if the
connection had been given up, nothing was sent over it but ends of transactions. -/
structure Spares (c : Nat) (s s' : Session β) : Prop where
  /-- the token is the same -/
  token : s'.tokenOf c = s.tokenOf c
  /-- none is taken back -/
  fired : s.fired ⊆ s'.fired
  /-- transactions are left at most -/
  sent : s.IsGivenUp c →
    ∃ ms, s'.trace = s.trace ++ ms ∧ ∀ x ∈ exchanges ms, x.connection = c → x.IsEnd

namespace Spares

variable {c : Nat} {s t u : Session β}

/-- A connection that is given up stays so. -/
theorem isGivenUp (h : Spares c s t) (hc : s.IsGivenUp c) : t.IsGivenUp c := by
  rw [IsGivenUp, hasFired, Option.any_eq_true] at hc ⊢
  obtain ⟨token, htoken, hfired⟩ := hc
  rw [List.contains_iff_mem] at hfired
  exact ⟨token, by rw [h.token, htoken], List.contains_iff_mem.mpr (h.fired hfired)⟩

/-- Nothing is sent at all. -/
theorem of_silent {ms : List Mark} (htoken : t.tokenOf c = s.tokenOf c)
    (hfired : s.fired ⊆ t.fired) (htrace : t.trace = s.trace ++ ms) (hms : exchanges ms = []) :
    Spares c s t :=
  ⟨htoken, hfired, fun _ => ⟨ms, htrace, by simp [hms]⟩⟩

/-- A session spares its own connection. -/
theorem refl (s : Session β) : Spares c s s :=
  .of_silent rfl (List.Subset.refl _) (List.append_nil _).symm rfl

/-- Sparing a connection twice is sparing it. -/
theorem trans (h : Spares c s t) (h' : Spares c t u) : Spares c s u := by
  refine ⟨h'.token.trans h.token, List.Subset.trans h.fired h'.fired, fun hc => ?_⟩
  obtain ⟨ms, hms, hends⟩ := h.sent hc
  obtain ⟨ns, hns, hends'⟩ := h'.sent (h.isGivenUp hc)
  refine ⟨ms ++ ns, by rw [hns, hms, List.append_assoc], ?_⟩
  rw [exchanges_append, List.forall_mem_append]
  exact ⟨hends, hends'⟩

instance : Std.Refl (Spares (β := β) c) := ⟨.refl⟩

instance : IsTrans (Session β) (Spares c) := ⟨fun _ _ _ => .trans⟩

end Spares

variable {c c' : Nat} {s : Session β}

/-- Another state of a connection with the same token. -/
theorem spares_withConnection {old new : Connection β} (h : s.connections[c']? = some old)
    (htoken : new.token = old.token) : Spares c s (s.withConnection c' new) := by
  refine .of_silent ?_ (List.Subset.refl _) (List.append_nil _).symm rfl
  rw [tokenOf, getElem?_withConnection h]
  by_cases hc : c' = c
  · subst hc
    rw [if_pos rfl, tokenOf_of_getElem? h]
    exact htoken
  · rw [if_neg hc, tokenOf]

/-- Depths are none of the things that are spared. -/
theorem spares_withDepth (s : Session β) (c' n : Nat) : Spares c s (s.withDepth c' n) := by
  rw [withDepth]
  split
  next conn hc => exact spares_withConnection hc rfl
  next => exact .refl s

/-- An answer changes the backend only, and tokens that have fired do not unfire. -/
theorem spares_afterAnswer {conn : Connection β} (h : s.connections[c']? = some conn)
    (a : Answer β) : Spares c s (s.afterAnswer c' conn a) := by
  obtain ⟨j, hj⟩ := afterAnswer_eq s c' conn a
  have hconn : Spares c s (s.withConnection c' { conn with backend := a.backend }) :=
    spares_withConnection h rfl
  rw [hj]
  exact .of_silent hconn.token (List.subset_append_right _ _) (List.append_nil _).symm rfl

/-- Neither does telling a backend to stop change the token or the engine. -/
theorem spares_interrupt [Backend β] (s : Session β) (c' : Nat) : Spares c s (s.interrupt c') := by
  have hmark (t : Session β) : Spares c t (t.mark (.interrupted c')) :=
    .of_silent rfl (List.Subset.refl _) rfl rfl
  rw [interrupt]
  refine .trans ?_ (hmark _)
  split
  next => exact .refl s
  next conn hc => exact spares_withConnection hc rfl

/-! ## Calls spare a connection that was given up -/

/-- Waiting sends nothing. -/
theorem sparing_wait (limit : Option Duration) (token : Option Token) :
    Along (Spares c) (wait limit token : Action β Halt) := by
  intro s
  simp only [wait, run_get_bind]
  split
  next a _ =>
    rw [run_ite]
    split
    · -- the alarm goes off, which only adds to what has fired
      have hfire : Spares c s { s.fire a.token with alarm := none } :=
        .of_silent rfl (List.subset_cons_self _ _) (List.append_nil _).symm rfl
      simp only [run_set_bind, run_ite]
      split
      · exact hfire
      · split <;> exact hfire
    · exact .of_silent rfl (List.Subset.refl _) (List.append_nil _).symm rfl
  next => exact .refl s
  next => exact .refl s

/-- Waiting spares every connection: it fires tokens and removes none. -/
theorem sparing_await (r : Reply) (limit : Option Duration) (token : Option Token) :
    Along (Spares c) (await r limit token : Action β (Outcome (List ResultSet))) := by
  intro s
  simp only [await, run_get_bind, run_ite]
  split
  · exact .refl s
  · split
    · exact .refl s
    · cases r with
      | done sets => exact .refl s
      | failed e => exact .refl s
      | never => exact (sparing_wait limit token).map Except.error s

variable [Backend β]

/-- A request is sent elsewhere, or it is the end of a transaction, or the connection was not given
up before. -/
theorem spares_send {c' : Nat} {r : Request} {s : Session β}
    (h : c' = c → (r = Control.commit.request ∨ r = Control.rollback.request) ∨ ¬s.IsGivenUp c)
    (limit : Option Duration) (token : Option Token) :
    Spares c s ((send c' r limit token).run s).2 := by
  rw [send, run_get_bind]
  rcases hc : s.connections[c']? with _ | conn
  · exact .refl s
  simp only [run_set_bind]
  obtain ⟨ending, t, ht⟩ : ∃ ending t, (await (Backend.answer conn.backend r).reply limit token).run
      (s.afterAnswer c' conn (Backend.answer conn.backend r)) = (ending, t) := ⟨_, _, rfl⟩
  have hawait := sparing_await (c := c) (Backend.answer conn.backend r).reply limit token
    (s.afterAnswer c' conn (Backend.answer conn.backend r))
  rw [ht] at hawait
  have htrace := (leads_afterAnswer hc r).trans
    (leads_await (Backend.answer conn.backend r).reply limit token _)
  rw [ht] at htrace
  have hspares := (spares_afterAnswer (c := c) hc (Backend.answer conn.backend r)).trans hawait
  rw [run_bind _ ht, run_modify_bind]
  refine ⟨hspares.token, hspares.fired, fun hgiven => ⟨[.asked ⟨c', r, ending⟩], ?_, ?_⟩⟩
  · exact congrArg (· ++ _) (htrace.trace.trans (List.append_nil _))
  · intro x hx hxc
    rw [exchanges_asked, exchanges_nil, List.mem_singleton] at hx
    subst hx
    exact (h hxc).resolve_right fun hnot => hnot hgiven

/-- The end of a transaction is sent without regard to the token. -/
theorem sparing_sendUnguarded {k : Control} (hk : k ≠ .begin) (c' : Nat) :
    Along (Spares c) (sendUnguarded c' k.request : Action β (Outcome (List ResultSet))) := by
  refine fun s => spares_send (fun _ => .inl ?_) none none
  cases k with
  | begin => exact absurd rfl hk
  | commit => exact .inl rfl
  | rollback => exact .inr rfl

/-- With regard to the token, nothing is sent once it has fired. -/
theorem sparing_sendGuarded (c' : Nat) (r : Request) :
    Along (Spares c) (sendGuarded c' r : Action β (Outcome (List ResultSet))) := by
  intro s
  rw [sendGuarded, run_get_bind]
  split
  next => exact .refl s
  next conn hc =>
    have hsend : Spares c s ((sendUnlessFired c' r conn).run s).2 := by
      rw [sendUnlessFired, run_get_bind, run_ite]
      split
      next => exact .refl s
      next hfree =>
        refine spares_send (fun hcc => .inr ?_) _ _
        rwa [IsGivenUp, ← hcc, tokenOf_of_getElem? hc]
    have hrest (ending : Outcome (List ResultSet)) :
        Along (Spares c) (do
          modify fun s : Session β => if isCutShort ending then s.interrupt c' else s
          return ending) := by
      refine (along_modify fun s => ?_).bind fun _ => along_pure _
      split
      · exact spares_interrupt s c'
      · exact .refl s
    exact hsend.trans (hrest _ _)

/-- `begin` spares every connection. -/
theorem sparing_begin (c' : Nat) : Along (Spares c) (begin c' : Action β (Outcome Unit)) := by
  refine along_get.bind fun s => ?_
  split
  · refine (sparing_sendGuarded c' _).bind fun o => ?_
    split
    · exact along_pure _
    · exact (along_modify fun s => spares_withDepth s c' 1).bind fun _ => along_pure _
  · exact (along_modify fun s => spares_withDepth s c' _).bind fun _ => along_pure _

/-- `commit` spares every connection. -/
theorem sparing_commit (c' : Nat) : Along (Spares c) (commit c' : Action β (Outcome Unit)) := by
  refine along_get.bind fun s => ?_
  split
  · exact along_pure _
  · refine (sparing_sendUnguarded (k := .commit) (by decide) c').bind fun o => ?_
    split
    · exact along_pure _
    · exact (along_modify fun s => spares_withDepth s c' 0).bind fun _ => along_pure _
  · exact (along_modify fun s => spares_withDepth s c' _).bind fun _ => along_pure _

/-- `rollback` spares every connection. -/
theorem sparing_rollback (c' : Nat) : Along (Spares c) (rollback c' : Action β (Outcome Unit)) := by
  refine along_get.bind fun s => ?_
  split
  · exact along_pure _
  · exact (along_modify fun s => spares_withDepth s c' 0).bind fun _ =>
      (sparing_sendUnguarded (k := .rollback) (by decide) c').map _

/-- Running a statement spares every connection. -/
theorem sparing_execute (c' : Nat) (sql : String) (sets : List ParameterSet) (type : QueryType) :
    Along (Spares c) (execute c' sql sets type : Action β (Outcome (List ResultSet))) := by
  refine along_get.bind fun s => ?_
  split
  · exact along_pure _
  · dsimp only
    split
    · exact along_pure _
    · exact sparing_sendGuarded c' _

omit [Backend β] in
/-- Answering changes nothing. -/
theorem sparing_answerOf (c' : Nat) (o : Outcome Unit) :
    Along (Spares c) (answerOf c' o : Action β (Outcome ConnectionAnswer)) := by
  refine along_get.bind fun s => ?_
  dsimp only
  split <;> exact along_pure _

/-- **Over a connection that was given up a call sends nothing but the end of a transaction.** -/
theorem sparing_call (k : ConnectionCall) :
    Along (Spares c) (call k : Action β (Outcome ConnectionAnswer)) := by
  cases k with
  | begin c' => exact (sparing_begin c').bind (sparing_answerOf c')
  | commit c' => exact (sparing_commit c').bind (sparing_answerOf c')
  | rollback c' => exact (sparing_rollback c').bind (sparing_answerOf c')
  | batch c' sql => exact ((sparing_sendGuarded c' _).map _).bind (sparing_answerOf c')
  | execute c' sql sets type =>
    refine (sparing_execute c' sql sets type).bind fun o => ?_
    split <;> exact along_pure _
  | info c' =>
    refine along_get.bind fun s => ?_
    split <;> exact along_pure _
  | report c' =>
    refine along_get.bind fun s => ?_
    split <;> exact along_pure _

/-! ## Calls on a connection that was given up -/

/-- **Nothing is sent**: the backend is told to stop, and that is all. -/
theorem sendGuarded_of_isGivenUp (h : s.IsGivenUp c) (r : Request) :
    (sendGuarded c r).run s = (failWith .cancelled, s.interrupt c) := by
  obtain ⟨conn, hconn, hfired⟩ := h.exists_connection
  have hsend : (sendUnlessFired c r conn).run s = (failWith .cancelled, s) := by
    rw [sendUnlessFired, run_get_bind, run_ite, if_pos hfired]
    rfl
  rw [sendGuarded, run_get_bind, hconn]
  exact run_bind _ hsend

/-- A batch over a connection that is given up fails as cancelled, and nothing is sent. -/
theorem batch_of_isGivenUp (h : s.IsGivenUp c) (sql : String) :
    (batch c sql).run s = (failWith .cancelled, s.interrupt c) :=
  run_bind _ (sendGuarded_of_isGivenUp h (.batch sql))

/-- A connection that is given up has an engine, and so a style of placeholders. -/
theorem IsGivenUp.exists_engine (h : s.IsGivenUp c) :
    ∃ engine, s.engine? c = some engine ∧ s.styleOf c = engine.placeholderStyle := by
  obtain ⟨conn, hconn, -⟩ := h.exists_connection
  have hengine : s.engine? c = some (Backend.engine conn.backend) := by
    rw [engine?, hconn, Option.map_some]
  exact ⟨_, hengine, by rw [styleOf, hengine, Option.elim_some]⟩

/-- Parameters are bound before the token is looked at. -/
theorem execute_of_leavesOut {sql : String} {sets : List ParameterSet} (type : QueryType)
    (h : s.IsGivenUp c) (hleft : LeavesOut (s.styleOf c) sql sets) :
    ∃ set ∈ NamedStatement.setsOf sets,
      ∃ name ∈ (NamedStatement.compile sql (s.styleOf c)).names, set.find? name = none ∧
        (execute c sql sets type).run s = (failWith (.missingParameter name), s) := by
  obtain ⟨engine, hengine, hstyle⟩ := h.exists_engine
  obtain ⟨e, he : statement _ _ _ type = _⟩ := exists_statement_eq_error.mpr hleft
  rw [statement_eq_error] at he
  obtain ⟨set, hset, hbind⟩ := NamedStatement.bindAll_eq_error he
  obtain ⟨name, hname, hnone, rfl⟩ := NamedStatement.bind_eq_error hbind
  refine ⟨set, hset, name, hname, hnone, ?_⟩
  rw [hstyle] at he
  rw [execute, run_get_bind, hengine]
  simp only [he]
  rfl

/-- A statement whose names are all bound fails as cancelled, and nothing is sent. -/
theorem execute_of_not_leavesOut {sql : String} {sets : List ParameterSet} (type : QueryType)
    (h : s.IsGivenUp c) (hleft : ¬LeavesOut (s.styleOf c) sql sets) :
    (execute c sql sets type).run s = (failWith .cancelled, s.interrupt c) := by
  obtain ⟨engine, hengine, hstyle⟩ := h.exists_engine
  rw [hstyle] at hleft
  rw [execute, run_get_bind, hengine]
  rcases hb : (NamedStatement.compile sql engine.placeholderStyle).bindAll sets with e | bound
  · have he : statement engine.placeholderStyle sql sets type = .error e :=
      statement_eq_error.mpr hb
    exact absurd (exists_statement_eq_error.mp ⟨e, he⟩) hleft
  · simp only [hb]
    exact sendGuarded_of_isGivenUp h _

/-- Entering the outermost transaction fails as cancelled. -/
theorem begin_of_isGivenUp (h : s.IsGivenUp c) (hd : s.depth c = 0) :
    (begin c).run s = (failWith .cancelled, s.interrupt c) := by
  rw [begin, run_get_bind, run_ite, if_pos hd]
  exact run_bind _ (sendGuarded_of_isGivenUp h _)

/-- Entering an inner transaction only counts, which no token can keep it from. -/
theorem begin_of_depth (hd : s.depth c ≠ 0) :
    (begin c).run s = (.ok (), s.withDepth c (s.depth c + 1)) := by
  rw [begin, run_get_bind, run_ite, if_neg hd]
  rfl

/-! ## Transactions are left without regard to the token -/

section Blind

omit [Backend β]

/-- The session with another token for a connection. -/
def withToken (s : Session β) (c : Nat) (token : Option Token) : Session β :=
  { s with connections := s.connections.modify c ({ · with token := token }) }

/-- An action does the same with any token for a connection. -/
def Blind (c : Nat) (x : Action β α) : Prop :=
  ∀ (s : Session β) (token : Option Token),
    x.run (s.withToken c token) = ((x.run s).1, (x.run s).2.withToken c token)

variable {token : Option Token} {conn new : Connection β}

/-- One blind action behind another is blind. -/
theorem Blind.bind {x : Action β α} {f : α → Action β γ} (hx : Blind c x)
    (hf : ∀ a, Blind c (f a)) : Blind c (x >>= f) := by
  intro s token
  rw [run_bind f (hx s token)]
  exact hf _ _ token

/-- Answering something at once looks at no token. -/
theorem blind_pure (a : α) : Blind c (pure a : Action β α) := fun _ _ => rfl

/-- A change of the session that commutes with setting a token is blind. -/
theorem blind_modify {g : Session β → Session β}
    (h : ∀ (s : Session β) (token : Option Token),
      g (s.withToken c token) = (g s).withToken c token) :
    Blind c (modify g : Action β PUnit) :=
  fun s token => Prod.ext rfl (h s token)

/-- Setting the token of a connection that is there puts in that connection with the token. -/
theorem withToken_eq (h : s.connections[c]? = some conn) (token : Option Token) :
    s.withToken c token = s.withConnection c { conn with token := token } := by
  rw [withToken, List.modify_eq_set_getElem?, h]
  rfl

/-- Of a connection that is not there no token can be set. -/
theorem withToken_eq_self (h : s.connections[c]? = none) (token : Option Token) :
    s.withToken c token = s := by
  rw [withToken, List.modify_eq_set_getElem?, h]
  rfl

/-- Of two states of a connection the later one stands. -/
theorem withConnection_withConnection (s : Session β) (c : Nat) (conn new : Connection β) :
    (s.withConnection c conn).withConnection c new = s.withConnection c new := by
  rw [withConnection, withConnection, withConnection, List.set_set]

/-- The token is put on a connection before or after another state is. -/
theorem withToken_withConnection (h : s.connections[c]? = some conn) (new : Connection β)
    (token : Option Token) :
    (s.withConnection c new).withToken c token =
      (s.withToken c token).withConnection c { new with token := token } := by
  rw [withToken_eq h, withConnection_withConnection,
    withToken_eq ((getElem?_withConnection h new c).trans (if_pos rfl)),
    withConnection_withConnection]

/-- The connection whose token was set, with that token. -/
theorem getElem?_withToken (h : s.connections[c]? = some conn) (token : Option Token) :
    (s.withToken c token).connections[c]? = some { conn with token := token } := by
  rw [withToken_eq h, getElem?_withConnection h, if_pos rfl]

/-- Setting a token leaves the depths. -/
theorem depth_withToken (s : Session β) (c : Nat) (token : Option Token) :
    (s.withToken c token).depth c = s.depth c := by
  rcases hc : s.connections[c]? with _ | conn
  · rw [withToken_eq_self hc]
  · rw [depth, depth, getElem?_withToken hc, hc]
    rfl

/-- Setting a token and setting a depth can be done in either order. -/
theorem withDepth_withToken (s : Session β) (c n : Nat) (token : Option Token) :
    (s.withToken c token).withDepth c n = (s.withDepth c n).withToken c token := by
  rcases hc : s.connections[c]? with _ | conn
  · rw [withToken_eq_self hc, withDepth, hc]
    exact (withToken_eq_self hc token).symm
  · rw [withDepth, getElem?_withToken hc, withDepth, hc]
    exact (withToken_withConnection hc { conn with depth := n } token).symm

end Blind

section Waiting

omit [Backend β]

variable (connections : List (Connection β)) (s : Session β)

/-- Waiting without a limit looks at no connection. -/
theorem wait_run_over :
    (wait none none).run { s with connections := connections } =
      (((wait none none).run s).1,
        { ((wait none none).run s).2 with connections := connections }) := by
  rcases s with ⟨_, fired, _ | a, watcher, journal, trace⟩
  · rfl
  · simp only [wait, run_get_bind, Option.all_none, if_true, run_set_bind, run_ite]
    split
    · rfl
    · split <;> rfl

/-- Waiting with nothing to listen to does not look at the connections. -/
theorem await_run_over (r : Reply) :
    (await r none none).run { s with connections := connections } =
      (((await r none none).run s).1,
        { ((await r none none).run s).2 with connections := connections }) := by
  have hfired : ({ s with connections := connections } : Session β).hasFired
      ({ s with connections := connections } : Session β).watcher = s.hasFired s.watcher := rfl
  simp only [await, run_get_bind, run_ite, hfired]
  split
  · rfl
  · cases r with
    | done sets => rfl
    | failed e => rfl
    | never => exact run_bind _ (wait_run_over connections s)

/-- So it changes none. -/
theorem connections_await (r : Reply) :
    ((await r none none).run s).2.connections = s.connections :=
  congrArg (fun p : Outcome (List ResultSet) × Session β => p.2.connections)
    (await_run_over s.connections s r)

end Waiting

omit [Backend β] in
/-- Waiting with nothing to listen to is blind. -/
theorem blind_await (c : Nat) (r : Reply) :
    Blind c (await r none none : Action β (Outcome (List ResultSet))) := by
  intro s token
  rw [withToken, await_run_over, withToken, connections_await]

omit [Backend β] in
/-- An answer is taken over the connection with the other token. -/
theorem afterAnswer_withToken (h : s.connections[c]? = some conn) (token : Option Token)
    (a : Answer β) :
    (s.withToken c token).afterAnswer c { conn with token := token } a =
      (s.afterAnswer c conn a).withToken c token := by
  have hsee (ns : List Notice) (s : Session β) :
      ns.foldl (fun s n => s.see (.server c n)) (s.withToken c token) =
        (ns.foldl (fun s n => s.see (.server c n)) s).withToken c token := by
    induction ns generalizing s with
    | nil => rfl
    | cons n ns ih => exact ih (s.see (.server c n))
  have hset := withToken_withConnection h { conn with backend := a.backend } token
  simp only [afterAnswer]
  rw [← hset, hsee]
  rfl

/-- A round trip that nothing but the backend can end. -/
theorem blind_sendUnguarded (c : Nat) (r : Request) :
    Blind c (sendUnguarded c r : Action β (Outcome (List ResultSet))) := by
  intro s token
  rcases hc : s.connections[c]? with _ | conn
  · have hrun : (sendUnguarded c r).run s = (failWith noConnection, s) := by
      rw [sendUnguarded, send, run_get_bind, hc]
      rfl
    rw [withToken_eq_self hc, hrun, withToken_eq_self hc]
  · have hrest : Blind c (do
        let ending ← await (β := β) (Backend.answer conn.backend r).reply none none
        modify (·.mark (.asked ⟨c, r, ending⟩))
        return ending) :=
      (blind_await c _).bind fun ending =>
        (blind_modify fun s token => rfl).bind fun _ => blind_pure _
    simp only [sendUnguarded, send, run_get_bind, run_set_bind, getElem?_withToken hc, hc]
    rw [afterAnswer_withToken hc]
    exact hrest _ token

/-- `commit` is blind: it listens to no token. -/
theorem blind_commit (c : Nat) : Blind c (commit c : Action β (Outcome Unit)) := by
  intro s token
  simp only [commit, run_get_bind, depth_withToken]
  split
  · rfl
  · refine (blind_sendUnguarded c _).bind (fun o => ?_) s token
    split
    · exact blind_pure _
    · exact (blind_modify fun s token => withDepth_withToken s c 0 token).bind fun _ => blind_pure _
  · exact ((blind_modify fun s token => withDepth_withToken s c _ token).bind
      fun _ => blind_pure _) s token

/-- `rollback` is blind: it listens to no token. -/
theorem blind_rollback (c : Nat) : Blind c (rollback c : Action β (Outcome Unit)) := by
  intro s token
  simp only [rollback, run_get_bind, run_ite, depth_withToken]
  split
  · rfl
  · exact ((blind_modify fun s token => withDepth_withToken s c 0 token).bind fun _ =>
      (blind_sendUnguarded c _).bind fun _ => blind_pure _) s token

/-! ## What is left to be done -/

/-- A transaction is left through the backend: it is asked for the end, and the depth goes by the
answer. If it can do that, it is done, unless a step is dropped meanwhile. -/
def LeavesThrough (k : Control) (c : Nat) (s : Session β) : Prop :=
  ∃ (conn : Connection β) (ending : Outcome (List ResultSet)) (s' : Session β),
    s.connections[c]? = some conn ∧
    (steer k c).run s = (ending.map fun _ => (), s') ∧
    s.Leads [.asked ⟨c, k.request, ending⟩]
      (Function.update s.depth c (k.depthAfter ending.isOk (s.depth c))) s' ∧
    (s.watcher = none → ∀ sets, (Backend.answer conn.backend k.request).reply = .done sets →
      ending.isOk)

/-- What becomes of the calls on a connection that was given up. -/
structure OnlyEnds (s : Session β) (c : Nat) : Prop where
  /-- a statement that leaves a value out fails for that -/
  unbound : ∀ sql sets type, LeavesOut (s.styleOf c) sql sets →
    ∃ set ∈ NamedStatement.setsOf sets,
      ∃ name ∈ (NamedStatement.compile sql (s.styleOf c)).names, set.find? name = none ∧
        (execute c sql sets type).run s = (failWith (.missingParameter name), s)
  /-- every other one is cancelled, and the backend is told to stop -/
  execute : ∀ sql sets type, ¬LeavesOut (s.styleOf c) sql sets →
    (execute c sql sets type).run s = (failWith .cancelled, s.interrupt c)
  /-- so are statements without parameters -/
  batch : ∀ sql, (batch c sql).run s = (failWith .cancelled, s.interrupt c)
  /-- and so is entering a transaction of the database -/
  outermost : s.depth c = 0 → (begin c).run s = (failWith .cancelled, s.interrupt c)
  /-- telling the backend to stop sends nothing, and the depths stay -/
  stopping : s.Leads [.interrupted c] s.depth (s.interrupt c)
  /-- inside of a transaction another one is only counted -/
  nested : s.depth c ≠ 0 → (begin c).run s = (.ok (), s.withDepth c (s.depth c + 1))
  /-- transactions are left as they would be without the token -/
  blind : ∀ k ∈ [Control.commit, .rollback], ∀ token,
    (steer k c).run (s.withToken c token) =
      (((steer k c).run s).1, ((steer k c).run s).2.withToken c token)
  /-- an inner one is only counted -/
  inner : ∀ n, s.depth c = n + 2 → (commit c).run s = (.ok (), s.withDepth c (n + 1))
  /-- the outermost one is left through the backend -/
  kept : s.depth c = 1 → LeavesThrough .commit c s
  /-- and so are all of them at once -/
  undone : s.depth c ≠ 0 → LeavesThrough .rollback c s

/-- A reply is passed on if no step can be dropped meanwhile. -/
theorem sendUnguarded_of_reply {r : Request} {conn : Connection β} {sets : List ResultSet}
    (hconn : s.connections[c]? = some conn) (hw : s.watcher = none)
    (hreply : (Backend.answer conn.backend r).reply = .done sets) :
    ∃ s', (sendUnguarded c r).run s = (.ok sets, s') := by
  obtain ⟨j, hj⟩ := afterAnswer_eq s c conn (Backend.answer conn.backend r)
  exact ⟨_, send_done hconn hreply (by rw [hj]; exact congrArg _ hw) rfl⟩

/-- The outermost transaction is left through the backend by `commit`. -/
theorem leavesThrough_commit (hd : s.depth c = 1) : LeavesThrough .commit c s := by
  obtain ⟨conn, hconn⟩ := getElem?_of_depth (s := s) (c := c) (by rw [hd]; exact Nat.one_ne_zero)
  obtain ⟨o, s', hrun⟩ : ∃ o s', (commit c).run s = (o, s') := ⟨_, _, rfl⟩
  -- if the backend can do it, that is what comes back
  have hanswered (hw : s.watcher = none) (sets : List ResultSet)
      (hreply : (Backend.answer conn.backend Control.commit.request).reply = .done sets) :
      o = .ok () := by
    obtain ⟨t, ht⟩ := sendUnguarded_of_reply hconn hw hreply
    rw [commit, run_get_bind, hd] at hrun
    have h := hrun.symm.trans (run_bind _ ht)
    exact congrArg Prod.fst h
  obtain ⟨ms, d, hcommits, hl⟩ := commit_run hrun
  cases hcommits with
  | closed closed => omega
  | nested level => omega
  | @kept sets level =>
    refine ⟨conn, .ok sets, s', hconn, hrun, ?_, fun _ _ _ => rfl⟩
    rw [hd]
    exact hl
  | @refused halt level =>
    refine ⟨conn, .error halt, s', hconn, hrun, ?_, fun hw sets hreply => ?_⟩
    · have hstay : Function.update s.depth c (s.depth c) = s.depth := Function.update_eq_self c _
      exact hstay.symm ▸ hl
    · cases hanswered hw sets hreply

/-- All transactions are left through the backend by `rollback`. -/
theorem leavesThrough_rollback (hd : s.depth c ≠ 0) : LeavesThrough .rollback c s := by
  obtain ⟨conn, hconn⟩ := getElem?_of_depth hd
  obtain ⟨o, s', hrun⟩ : ∃ o s', (rollback c).run s = (o, s') := ⟨_, _, rfl⟩
  have hanswered (hw : s.watcher = none) (sets : List ResultSet)
      (hreply : (Backend.answer conn.backend Control.rollback.request).reply = .done sets) :
      o = .ok () := by
    -- the depth is left before the backend is asked, which is the same one
    have hdown : s.withDepth c 0 = s.withConnection c { conn with depth := 0 } := by
      rw [withDepth, hconn]
    have hconn' : (s.withDepth c 0).connections[c]? = some { conn with depth := 0 } := by
      rw [hdown, getElem?_withConnection hconn, if_pos rfl]
    obtain ⟨t, ht⟩ := sendUnguarded_of_reply (s := s.withDepth c 0) hconn'
      (by rw [hdown]; exact hw) hreply
    rw [rollback, run_get_bind, run_ite, if_neg hd, run_modify_bind] at hrun
    have h := hrun.symm.trans (run_bind _ ht)
    exact congrArg Prod.fst h
  obtain ⟨ms, d, hback, hl⟩ := rollback_run hrun
  cases hback with
  | closed closed => exact absurd closed hd
  | @sent ending open_ =>
    refine ⟨conn, ending, s', hconn, hrun, hl, fun hw sets hreply => ?_⟩
    have hok := hanswered hw sets hreply
    cases ending with
    | ok sets => rfl
    | error halt => cases hok

/-- **What becomes of the calls on a connection that was given up.** -/
theorem onlyEnds_of_isGivenUp (h : s.IsGivenUp c) : s.OnlyEnds c where
  unbound sql sets type hleft := execute_of_leavesOut type h hleft
  execute sql sets type hleft := execute_of_not_leavesOut type h hleft
  batch := batch_of_isGivenUp h
  outermost := begin_of_isGivenUp h
  stopping := leads_interrupt s c
  nested := begin_of_depth
  blind k hk token := by
    simp only [List.mem_cons, List.not_mem_nil, or_false] at hk
    rcases hk with rfl | rfl
    · exact blind_commit c s token
    · exact blind_rollback c s token
  inner n hd := by
    rw [commit, run_get_bind, hd]
    rfl
  kept := leavesThrough_commit
  undone := leavesThrough_rollback

/-- The session after some calls, whatever became of them. -/
def callAll (ks : List ConnectionCall) (s : Session β) : Session β :=
  ks.foldl (fun s k => ((call k).run s).2) s

/-- However much is done in a session, every connection is spared. -/
theorem spares_callAll (ks : List ConnectionCall) (s : Session β) : Spares c s (callAll ks s) := by
  induction ks generalizing s with
  | nil => exact .refl s
  | cons k ks ih => exact (sparing_call k s).trans (ih _)

/-- **A connection that was given up sends nothing but ends of transactions.** Whatever is called on
it or on others, it stays given up, and all that is sent over it are commits and rollbacks. After
any calls a statement fails without being sent, no transaction of the database is entered, and the
transactions that are open are left as they would be without the token: inner ones by counting, and
the outermost one, or all at once, through the backend. -/
theorem given_up_only_ends (s : Session β) (c : Nat) (ks : List ConnectionCall)
    (h : s.IsGivenUp c) :
    (callAll ks s).IsGivenUp c ∧
      (∃ ms, (callAll ks s).trace = s.trace ++ ms ∧
        ∀ x ∈ exchanges ms, x.connection = c → x.IsEnd) ∧
      (callAll ks s).OnlyEnds c := by
  have hspares := spares_callAll (c := c) ks s
  exact ⟨hspares.isGivenUp h, hspares.sent h, onlyEnds_of_isGivenUp (hspares.isGivenUp h)⟩

/-- A connection that is two transactions deep, and whose token has fired. -/
def spent : Session Willing :=
  { connections := [{ backend := .willing, depth := 2, token := some 7 }], fired := [7] }

/-- One more is entered, a statement is cancelled, and all are undone; then none is entered. -/
theorem given_up_only_ends_spent :
    spent.IsGivenUp 0 ∧
      ∃ u, u = callAll [.begin 0, .batch 0 "DELETE FROM t", .rollback 0] spent ∧
        u.depth 0 = 0 ∧ (begin 0).run u = (failWith .cancelled, u.interrupt 0) ∧
        exchanges u.trace = [⟨0, Control.rollback.request, .ok [{}]⟩] := by
  have hgiven : spent.IsGivenUp 0 := rfl
  obtain ⟨-, -, hends⟩ := given_up_only_ends spent 0
    [.begin 0, .batch 0 "DELETE FROM t", .rollback 0] hgiven
  have hdepth : (callAll [.begin 0, .batch 0 "DELETE FROM t", .rollback 0] spent).depth 0 =
      0 := rfl
  exact ⟨hgiven, _, rfl, hdepth, hends.outermost hdepth, rfl⟩

end Session

end Tabula
