import Mathlib.Logic.Function.Basic
import Mathlib.Order.Defs.Unbundled
import Tabula.Session.Connection

/-!
# What a round trip does to a session

An action of a session is looked at through three things only: the marks that it adds to the trace,
the depths of the connections, and their engines. `Session.Leads` says what became of them, and each
call of a connection has one lemma that lists the ways it can go.

* `send_run`, `sendGuarded_run`: a round trip leaves one exchange at most and no depth changes.
* `guarded_sendGuarded`: the ways a guarded round trip can go, with the session that each leaves.
* `begin_run`, `commit_run`, `rollback_run`: what is sent, by the depth, and the depth afterwards.
* `execute_run`: a statement that runs is bound first and sent once.
-/

namespace Tabula

variable {β α γ : Type}

/-! ## Actions -/

namespace Action

@[simp] theorem run_get_bind (f : Session β → Action β α) (s : Session β) :
    (get >>= f).run s = (f s).run s := rfl

@[simp] theorem run_set_bind (t : Session β) (f : PUnit → Action β α) (s : Session β) :
    (set t >>= f).run s = (f ⟨⟩).run t := rfl

@[simp] theorem run_modify_bind (g : Session β → Session β) (f : PUnit → Action β α)
    (s : Session β) : (modify g >>= f).run s = (f ⟨⟩).run (g s) := rfl

@[simp] theorem run_ite (p : Prop) [Decidable p] (x y : Action β α) (s : Session β) :
    (if p then x else y).run s = if p then x.run s else y.run s := by
  split <;> rfl

/-- Inversion for two actions one after the other. -/
theorem bind_eq {x : Action β α} {f : α → Action β γ} {s s' : Session β} {b : γ}
    (h : (x >>= f).run s = (b, s')) :
    ∃ a t, x.run s = (a, t) ∧ (f a).run t = (b, s') :=
  ⟨_, _, rfl, h⟩

/-- Inversion for an action that does nothing. -/
theorem pure_eq {a b : α} {s s' : Session β} (h : (pure a : Action β α).run s = (b, s')) :
    b = a ∧ s' = s := by
  cases h
  exact ⟨rfl, rfl⟩

/-- What comes behind an action, given its run. -/
theorem run_bind {x : Action β α} (f : α → Action β γ) {s t : Session β} {a : α}
    (h : x.run s = (a, t)) : (x >>= f).run s = (f a).run t := by
  change (fun p : α × Session β => (f p.1).run p.2) (x.run s) = _
  rw [h]

/-- Wherever an action is run, it leads along a relation of sessions. -/
def Along (R : Session β → Session β → Prop) (x : Action β α) : Prop := ∀ s, R s (x.run s).2

section Along

variable {R : Session β → Session β → Prop}

/-- Answering something at once leads nowhere. -/
theorem along_pure [Std.Refl R] (a : α) : Along R (pure a : Action β α) := fun s => Std.Refl.refl s

/-- Neither does looking at the session. -/
theorem along_get [Std.Refl R] : Along R (get : Action β (Session β)) := fun s => Std.Refl.refl s

/-- Changing the session leads where the change leads. -/
theorem along_modify {g : Session β → Session β} (h : ∀ s, R s (g s)) :
    Along R (modify g : Action β PUnit) := h

/-- One action behind another leads where both of them lead, in turn. -/
theorem Along.bind [IsTrans (Session β) R] {x : Action β α} {f : α → Action β γ} (hx : Along R x)
    (hf : ∀ a, Along R (f a)) : Along R (x >>= f) :=
  fun s => IsTrans.trans _ _ _ (hx s) (hf _ _)

/-- What is made of the answer changes nothing about where an action leads. -/
theorem Along.map [Std.Refl R] [IsTrans (Session β) R] {x : Action β α} (hx : Along R x)
    (f : α → γ) : Along R (do return f (← x)) :=
  hx.bind fun _ => along_pure _

end Along

end Action

/-- A run by its answer. -/
theorem run_of_answer {α σ : Type} {x : Action β (α × σ)} {s : Session β} {a : α}
    (h : (x.run s).1.1 = a) : x.run s = ((a, (x.run s).1.2), (x.run s).2) :=
  Prod.ext (Prod.ext h rfl) rfl

/-! ## Traces -/

/-- The exchange that a mark records. -/
def Mark.exchange? : Mark → Option Exchange
  | .asked e => some e
  | _ => none

/-- A mark says something of a connection and nothing of a step. -/
def Mark.On (c : Nat) : Mark → Prop
  | .asked e => e.connection = c
  | .interrupted d => d = c
  | _ => False

/-- The exchanges among some marks, in order. -/
def exchanges (ms : List Mark) : List Exchange := ms.filterMap Mark.exchange?

@[simp] theorem exchanges_nil : exchanges [] = [] := rfl

@[simp] theorem exchanges_append (ms ns : List Mark) :
    exchanges (ms ++ ns) = exchanges ms ++ exchanges ns :=
  List.filterMap_append

@[simp] theorem exchanges_asked (e : Exchange) (ms : List Mark) :
    exchanges (.asked e :: ms) = e :: exchanges ms := rfl

@[simp] theorem exchanges_interrupted (c : Nat) (ms : List Mark) :
    exchanges (.interrupted c :: ms) = exchanges ms := rfl

@[simp] theorem exchanges_prepared (i : Nat) (ms : List Mark) :
    exchanges (.prepared i :: ms) = exchanges ms := rfl

@[simp] theorem exchanges_executed (i c n : Nat) (ms : List Mark) :
    exchanges (.executed i c n :: ms) = exchanges ms := rfl

@[simp] theorem exchanges_called (i : Nat) (ms : List Mark) :
    exchanges (.called i :: ms) = exchanges ms := rfl

/-- An exchange that a trace records is among its exchanges. -/
theorem mem_exchanges {ms : List Mark} {x : Exchange} (h : .asked x ∈ ms) : x ∈ exchanges ms :=
  List.mem_filterMap.mpr ⟨.asked x, h, rfl⟩

/-- What is said of one connection was asked there. -/
theorem connection_of_on {c : Nat} {ms : List Mark} (h : ∀ m ∈ ms, m.On c) :
    ∀ x ∈ exchanges ms, x.connection = c := by
  intro x hx
  obtain ⟨m, hm, hmx⟩ := List.mem_filterMap.mp hx
  have hon := h m hm
  cases m with
  | asked y =>
    cases hmx
    exact hon
  | _ => cases hmx

namespace Session

/-- A session became another one: it left some marks, its connections have certain depths, and their
engines are the same. -/
structure Leads (s : Session β) [Backend β] (ms : List Mark) (d : Nat → Nat) (s' : Session β) :
    Prop where
  /-- the marks stand behind those that were there -/
  trace : s'.trace = s.trace ++ ms
  /-- the depths afterwards -/
  depth : s'.depth = d
  /-- the engines stay -/
  engine : s'.engine? = s.engine?

variable [Backend β]

namespace Leads

/-- Doing nothing leads a session to itself, with no marks and the same depths. -/
theorem refl (s : Session β) : s.Leads [] s.depth s := ⟨by simp, rfl, rfl⟩

/-- What leads on leads from the start, with the marks of both parts in order. -/
theorem trans {s t u : Session β} {ms ns : List Mark} {d e : Nat → Nat}
    (h : s.Leads ms d t) (h' : t.Leads ns e u) : s.Leads (ms ++ ns) e u :=
  ⟨by rw [h'.trace, h.trace, List.append_assoc], h'.depth, h'.engine.trans h.engine⟩

/-- One more mark at the end of a trace. -/
theorem mark {s t : Session β} {ms : List Mark} {d : Nat → Nat} (h : s.Leads ms d t) (m : Mark) :
    s.Leads (ms ++ [m]) d (t.mark m) :=
  ⟨by rw [Session.mark, h.trace, List.append_assoc], h.depth, h.engine⟩

end Leads

/-- A mark changes nothing but the trace. -/
theorem leads_mark (s : Session β) (m : Mark) : s.Leads [m] s.depth (s.mark m) :=
  ⟨rfl, rfl, rfl⟩

/-- What is seen goes to the journal. -/
theorem leads_see (s : Session β) (e : Event) : s.Leads [] s.depth (s.see e) :=
  ⟨(List.append_nil _).symm, rfl, rfl⟩

/-! ## Waiting and sending -/

/-- Waiting leaves no mark. -/
theorem leads_wait (limit : Option Duration) (token : Option Token) (s : Session β) :
    s.Leads [] s.depth ((wait limit token).run s).2 := by
  simp only [wait, Action.run_get_bind]
  split
  · rw [Action.run_ite]
    split
    · simp only [Action.run_set_bind, Action.run_ite]
      split
      · exact ⟨(List.append_nil _).symm, rfl, rfl⟩
      · split <;> exact ⟨(List.append_nil _).symm, rfl, rfl⟩
    · exact ⟨(List.append_nil _).symm, rfl, rfl⟩
  · exact .refl s
  · exact .refl s

/-- Waiting for a reply leaves no marks and no depths behind. -/
theorem leads_await (r : Reply) (limit : Option Duration) (token : Option Token) (s : Session β) :
    s.Leads [] s.depth ((await r limit token).run s).2 := by
  simp only [await, Action.run_get_bind, Action.run_ite]
  split
  · exact .refl s
  · split
    · exact .refl s
    · cases r with
      | done sets => exact .refl s
      | failed e => exact .refl s
      | never => exact leads_wait limit token s

omit [Backend β] in
/-- What was sent on the way goes to the journal. -/
theorem foldl_see (c : Nat) (ns : List Notice) (s : Session β) :
    ns.foldl (fun s n => s.see (.server c n)) s =
      { s with journal := s.journal ++ ns.map (.server c) } := by
  induction ns generalizing s with
  | nil => rw [List.foldl_nil, List.map_nil, List.append_nil]
  | cons n ns ih =>
    rw [List.foldl_cons, ih, see, List.map_cons, List.append_assoc]
    rfl

omit [Backend β] in
/-- Only the connection that was put in is another one. -/
theorem getElem?_withConnection {s : Session β} {c : Nat} {old : Connection β}
    (h : s.connections[c]? = some old) (new : Connection β) (c' : Nat) :
    (s.withConnection c new).connections[c']? =
      if c = c' then some new else s.connections[c']? := by
  have hlt : c < s.connections.length := (List.getElem?_eq_some_iff.mp h).1
  rw [withConnection, List.getElem?_set, if_pos hlt]

/-- Another backend of the same engine changes neither a depth nor an engine. -/
theorem leads_withBackend {s : Session β} {c : Nat} {conn : Connection β}
    (h : s.connections[c]? = some conn) {b : β}
    (hb : Backend.engine b = Backend.engine conn.backend) :
    s.Leads [] s.depth (s.withConnection c { conn with backend := b }) := by
  have hget := getElem?_withConnection h { conn with backend := b }
  refine ⟨(List.append_nil _).symm, ?_, ?_⟩
  · funext c'
    simp only [depth]
    rw [hget c']
    by_cases hc : c = c'
    · subst hc
      rw [if_pos rfl, h]
      rfl
    · rw [if_neg hc]
  · funext c'
    simp only [engine?]
    rw [hget c']
    by_cases hc : c = c'
    · subst hc
      rw [if_pos rfl, h]
      exact congrArg some hb
    · rw [if_neg hc]

/-- An answer leaves no mark by itself, and it changes neither a depth nor an engine. -/
theorem leads_afterAnswer {s : Session β} {c : Nat} {conn : Connection β}
    (h : s.connections[c]? = some conn) (r : Request) :
    s.Leads [] s.depth (s.afterAnswer c conn (Backend.answer conn.backend r)) := by
  have hl := leads_withBackend h (Backend.engine_answer conn.backend r)
  rw [afterAnswer, foldl_see]
  exact ⟨hl.trace, hl.depth, hl.engine⟩

/-- Telling a backend to stop leaves a mark, and it changes neither a depth nor an engine. -/
theorem leads_interrupt (s : Session β) (c : Nat) :
    s.Leads [.interrupted c] s.depth (s.interrupt c) := by
  rw [interrupt]
  rcases hc : s.connections[c]? with _ | conn
  · exact leads_mark s _
  · exact (leads_withBackend hc (Backend.engine_interrupt conn.backend)).mark _

/-- Telling a backend to stop is one more mark. -/
theorem Leads.interrupt {s t : Session β} {ms : List Mark} {d : Nat → Nat} (h : s.Leads ms d t)
    (c : Nat) : s.Leads (ms ++ [.interrupted c]) d (t.interrupt c) := by
  have hi := leads_interrupt t c
  rw [h.depth] at hi
  exact h.trans hi

/-- There is a connection of a number if it has an engine. -/
theorem engine?_eq_none {s : Session β} {c : Nat} :
    s.engine? c = none ↔ s.connections[c]? = none := by
  simp only [engine?, Option.map_eq_none_iff]

/-- A request that is sent is one exchange, and no depth changes. -/
theorem send_run {c : Nat} {r : Request} {limit : Option Duration} {token : Option Token}
    {s s' : Session β} {o : Outcome (List ResultSet)}
    (h : (send c r limit token).run s = (o, s')) :
    (s.engine? c = none ∧ o = failWith noConnection ∧ s' = s) ∨
      ((s.engine? c).isSome ∧ s.Leads [.asked ⟨c, r, o⟩] s.depth s') := by
  rw [send, Action.run_get_bind] at h
  rcases hc : s.connections[c]? with _ | conn
  · -- there is no such connection
    rw [hc] at h
    obtain ⟨rfl, rfl⟩ := Action.pure_eq h
    exact .inl ⟨engine?_eq_none.mpr hc, rfl, rfl⟩
  · rw [hc] at h
    simp only [Action.run_set_bind] at h
    obtain ⟨o', t, ht, h⟩ := Action.bind_eq h
    rw [Action.run_modify_bind] at h
    obtain ⟨rfl, rfl⟩ := Action.pure_eq h
    have h₁ := leads_afterAnswer hc r
    have h₂ := leads_await (Backend.answer conn.backend r).reply limit token
      (s.afterAnswer c conn (Backend.answer conn.backend r))
    -- the answer is taken in, the client waits for it, and what it heard is noted
    rw [ht, h₁.depth] at h₂
    refine .inr ⟨by simp [engine?, hc], (h₁.trans h₂).mark _⟩

/-- What a guarded round trip leaves: its request was sent and ended like the whole, or nothing was
sent and it failed. -/
structure Trips (s : Session β) (c : Nat) (r : Request) (o : Outcome (List ResultSet))
    (ms : List Mark) : Prop where
  /-- nothing happens elsewhere -/
  on : ∀ m ∈ ms, m.On c
  /-- one request at most -/
  sent : (s.engine? c).isSome ∧ exchanges ms = [⟨c, r, o⟩] ∨ exchanges ms = [] ∧ ∃ e, o = failWith e

/-- Nothing was sent. -/
theorem Trips.unsent {s : Session β} {c : Nat} {r : Request} {e : Error} :
    s.Trips c r (failWith e) [] :=
  ⟨by simp, .inr ⟨rfl, e, rfl⟩⟩

/-- A round trip that was not renounced leaves the marks of a trip and no depth. -/
theorem sendUnlessFired_run {c : Nat} {r : Request} {conn : Connection β} {s s' : Session β}
    {o : Outcome (List ResultSet)} (h : (sendUnlessFired c r conn).run s = (o, s')) :
    ∃ ms, s.Trips c r o ms ∧ s.Leads ms s.depth s' := by
  rw [sendUnlessFired, Action.run_get_bind, Action.run_ite] at h
  by_cases hf : s.hasFired conn.token
  · rw [if_pos hf] at h
    obtain ⟨rfl, rfl⟩ := Action.pure_eq h
    exact ⟨[], .unsent, .refl _⟩
  · rw [if_neg hf] at h
    rcases send_run h with ⟨-, rfl, rfl⟩ | ⟨he, hl⟩
    · exact ⟨[], .unsent, .refl _⟩
    · exact ⟨_, ⟨by simp [Mark.On], .inl ⟨he, rfl⟩⟩, hl⟩

/-- The marks of a guarded round trip are those of a trip, and no depth changes. -/
theorem sendGuarded_run {c : Nat} {r : Request} {s s' : Session β}
    {o : Outcome (List ResultSet)} (h : (sendGuarded c r).run s = (o, s')) :
    ∃ ms, s.Trips c r o ms ∧ s.Leads ms s.depth s' := by
  rw [sendGuarded, Action.run_get_bind] at h
  rcases hc : s.connections[c]? with _ | conn
  · rw [hc] at h
    obtain ⟨rfl, rfl⟩ := Action.pure_eq h
    exact ⟨[], .unsent, .refl _⟩
  · rw [hc] at h
    obtain ⟨ending, t, ht, h⟩ := Action.bind_eq h
    rw [Action.run_modify_bind] at h
    obtain ⟨rfl, rfl⟩ := Action.pure_eq h
    -- a fired token interrupts the connection once the answer is settled
    obtain ⟨ms, hms, hl⟩ := sendUnlessFired_run ht
    split
    · refine ⟨ms ++ [.interrupted c], ⟨?_, ?_⟩, hl.interrupt c⟩
      · intro m hm
        rcases List.mem_append.mp hm with hm | hm
        · exact hms.on m hm
        · rw [List.mem_singleton.mp hm]
          rfl
      · rw [exchanges_append, exchanges_interrupted, exchanges_nil, List.append_nil]
        exact hms.sent
    · exact ⟨ms, hms, hl⟩

/-- What becomes of a guarded round trip. -/
inductive Guarded (s : Session β) (c : Nat) (r : Request) :
    Outcome (List ResultSet) → Session β → Prop
  /-- there is no such connection -/
  | missing (hconn : s.connections[c]? = none) : Guarded s c r (failWith noConnection) s
  /-- the token has fired, and nothing is sent -/
  | givenUp {conn : Connection β} (hconn : s.connections[c]? = some conn)
    (htoken : s.hasFired conn.token) : Guarded s c r (failWith .cancelled) (s.interrupt c)
  /-- the request is sent, and the reply is awaited -/
  | sent {conn : Connection β} {o : Outcome (List ResultSet)} {t : Session β}
    (hconn : s.connections[c]? = some conn) (htoken : ¬s.hasFired conn.token)
    (hawait : (await (Backend.answer conn.backend r).reply conn.timeout conn.token).run
      (s.afterAnswer c conn (Backend.answer conn.backend r)) = (o, t)) :
    Guarded s c r o
      (if isCutShort o then (t.mark (.asked ⟨c, r, o⟩)).interrupt c else t.mark (.asked ⟨c, r, o⟩))

/-- What a guarded round trip does is one of the cases of `Guarded`. -/
theorem guarded_sendGuarded {c : Nat} {r : Request} {s s' : Session β}
    {o : Outcome (List ResultSet)} (h : (sendGuarded c r).run s = (o, s')) :
    s.Guarded c r o s' := by
  rw [sendGuarded, Action.run_get_bind] at h
  rcases hconn : s.connections[c]? with _ | conn
  · rw [hconn] at h
    obtain ⟨rfl, rfl⟩ := Action.pure_eq h
    exact .missing hconn
  rw [hconn] at h
  obtain ⟨o, t, hsend, h⟩ := Action.bind_eq h
  rw [Action.run_modify_bind] at h
  obtain ⟨rfl, rfl⟩ := Action.pure_eq h
  rw [sendUnlessFired, Action.run_get_bind, Action.run_ite] at hsend
  by_cases htoken : s.hasFired conn.token
  · -- the token has fired before anything is sent
    rw [if_pos htoken] at hsend
    obtain ⟨rfl, rfl⟩ := Action.pure_eq hsend
    exact .givenUp hconn htoken
  · rw [if_neg htoken, send, Action.run_get_bind, hconn] at hsend
    simp only [Action.run_set_bind] at hsend
    obtain ⟨o, u, hawait, hsend⟩ := Action.bind_eq hsend
    rw [Action.run_modify_bind] at hsend
    obtain ⟨rfl, rfl⟩ := Action.pure_eq hsend
    exact .sent hconn htoken hawait

/-! ## Transactions of a connection -/

omit [Backend β] in
/-- There is a connection of a number whose depth is not zero. -/
theorem getElem?_of_depth {s : Session β} {c : Nat} (h : s.depth c ≠ 0) :
    ∃ conn, s.connections[c]? = some conn := by
  rcases hc : s.connections[c]? with _ | conn
  · rw [depth, hc] at h
    exact absurd rfl h
  · exact ⟨conn, rfl⟩

/-- The depth of a connection that is there can be set. -/
theorem leads_withDepth {s : Session β} {c : Nat} (h : (s.engine? c).isSome) (n : Nat) :
    s.Leads [] (Function.update s.depth c n) (s.withDepth c n) := by
  rcases hc : s.connections[c]? with _ | conn
  · rw [engine?_eq_none.mpr hc] at h
    cases h
  · have hw : s.withDepth c n = s.withConnection c { conn with depth := n } := by
      rw [withDepth, hc]
    have hget := getElem?_withConnection hc { conn with depth := n }
    rw [hw]
    refine ⟨(List.append_nil _).symm, ?_, ?_⟩
    · funext c'
      rw [depth, hget c']
      by_cases h' : c = c'
      · subst h'
        rw [if_pos rfl, Function.update_self]
        rfl
      · rw [if_neg h', Function.update_of_ne (Ne.symm h')]
        rfl
    · funext c'
      rw [engine?, hget c']
      by_cases h' : c = c'
      · subst h'
        rw [if_pos rfl, engine?, hc]
        rfl
      · -- other connections are left as they are
        rw [if_neg h']
        rfl

/-- A connection with an open transaction is there. -/
theorem isSome_engine?_of_depth {s : Session β} {c : Nat} (h : s.depth c ≠ 0) :
    (s.engine? c).isSome := by
  obtain ⟨conn, hc⟩ := getElem?_of_depth h
  simp [engine?, hc]

/-- The ways in which entering a transaction goes. -/
inductive Begins (depth : Nat → Nat) (c : Nat) : Outcome Unit → List Mark → (Nat → Nat) → Prop
  /-- inside of another transaction nothing is sent -/
  | nested (open_ : depth c ≠ 0) :
    Begins depth c (.ok ()) [] (Function.update depth c (depth c + 1))
  /-- the outermost one reaches the backend -/
  | opened {ms : List Mark} {sets : List ResultSet} (closed : depth c = 0)
    (on : ∀ m ∈ ms, m.On c) (sent : exchanges ms = [⟨c, Control.begin.request, .ok sets⟩]) :
    Begins depth c (.ok ()) ms (Function.update depth c 1)
  /-- there it can fail -/
  | refused {ms : List Mark} {h : Halt} (closed : depth c = 0)
    (on : ∀ m ∈ ms, m.On c) (sent : exchanges ms = [⟨c, Control.begin.request, .error h⟩]) :
    Begins depth c (.error h) ms depth
  /-- and it can fail before that -/
  | unsent {ms : List Mark} {e : Error} (closed : depth c = 0)
    (on : ∀ m ∈ ms, m.On c) (sent : exchanges ms = []) :
    Begins depth c (failWith e) ms depth

/-- What `begin` leaves in the trace is about its own connection. -/
theorem Begins.on {depth d : Nat → Nat} {c : Nat} {o : Outcome Unit} {ms : List Mark}
    (h : Begins depth c o ms d) : ∀ m ∈ ms, m.On c := by
  cases h with
  | nested open_ => simp
  | opened closed on sent => exact on
  | refused closed on sent => exact on
  | unsent closed on sent => exact on

/-- What `begin` does is one of the cases of `Begins`. -/
theorem begin_run {c : Nat} {s s' : Session β} {o : Outcome Unit}
    (h : (begin c).run s = (o, s')) : ∃ ms d, Begins s.depth c o ms d ∧ s.Leads ms d s' := by
  rw [begin, Action.run_get_bind, Action.run_ite] at h
  by_cases hd : s.depth c = 0
  · rw [if_pos hd] at h
    obtain ⟨o', t, ht, h⟩ := Action.bind_eq h
    obtain ⟨ms, hms, hl⟩ := sendGuarded_run ht
    rcases o' with halt | sets
    · obtain ⟨rfl, rfl⟩ := Action.pure_eq h
      rcases hms.sent with ⟨-, hx⟩ | ⟨hx, e, he⟩
      · exact ⟨ms, _, .refused hd hms.on hx, hl⟩
      · cases he
        exact ⟨ms, _, .unsent hd hms.on hx, hl⟩
    · simp only [Action.run_modify_bind] at h
      obtain ⟨rfl, rfl⟩ := Action.pure_eq h
      -- a request that was sent had a connection, so that its depth can be set
      rcases hms.sent with ⟨he, hx⟩ | ⟨-, e, he⟩
      · have hup := leads_withDepth (s := t) (c := c) (by rw [hl.engine]; exact he) 1
        rw [hl.depth] at hup
        have hl' := hl.trans hup
        rw [List.append_nil] at hl'
        exact ⟨ms, _, .opened hd hms.on hx, hl'⟩
      · cases he
  · rw [if_neg hd, Action.run_modify_bind] at h
    obtain ⟨rfl, rfl⟩ := Action.pure_eq h
    exact ⟨[], _, .nested hd, leads_withDepth (isSome_engine?_of_depth hd) _⟩

/-- A round trip that nothing but the backend can end, on a connection that is there. -/
theorem sendUnguarded_run {c : Nat} {r : Request} {s s' : Session β}
    {o : Outcome (List ResultSet)} (he : (s.engine? c).isSome)
    (h : (sendUnguarded c r).run s = (o, s')) : s.Leads [.asked ⟨c, r, o⟩] s.depth s' := by
  rcases send_run h with ⟨hn, -, -⟩ | ⟨-, hl⟩
  · rw [hn] at he
    cases he
  · exact hl

/-- The ways in which leaving a transaction goes. -/
inductive Commits (depth : Nat → Nat) (c : Nat) : Outcome Unit → List Mark → (Nat → Nat) → Prop
  /-- there is none -/
  | closed {e : Error} (closed : depth c = 0) : Commits depth c (failWith e) [] depth
  /-- an inner one is only counted -/
  | nested {n : Nat} (level : depth c = n + 2) :
    Commits depth c (.ok ()) [] (Function.update depth c (n + 1))
  /-- the outermost one reaches the backend -/
  | kept {sets : List ResultSet} (level : depth c = 1) :
    Commits depth c (.ok ()) [.asked ⟨c, Control.commit.request, .ok sets⟩]
      (Function.update depth c 0)
  /-- if that fails it is not left -/
  | refused {h : Halt} (level : depth c = 1) :
    Commits depth c (.error h) [.asked ⟨c, Control.commit.request, .error h⟩] depth

/-- What `commit` does is one of the cases of `Commits`. -/
theorem commit_run {c : Nat} {s s' : Session β} {o : Outcome Unit}
    (h : (commit c).run s = (o, s')) : ∃ ms d, Commits s.depth c o ms d ∧ s.Leads ms d s' := by
  rw [commit, Action.run_get_bind] at h
  rcases hd : s.depth c with _ | _ | n
  · -- there is nothing to commit
    simp only [hd] at h
    obtain ⟨rfl, rfl⟩ := Action.pure_eq h
    exact ⟨[], _, .closed hd, .refl _⟩
  · -- the outermost level: COMMIT goes out, and only a reply to it closes the level
    simp only [hd] at h
    have he := isSome_engine?_of_depth (s := s) (c := c) (by rw [hd]; exact Nat.one_ne_zero)
    obtain ⟨o', t, ht, h⟩ := Action.bind_eq h
    have hl := sendUnguarded_run he ht
    rcases o' with halt | sets
    · obtain ⟨rfl, rfl⟩ := Action.pure_eq h
      exact ⟨_, _, .refused hd, hl⟩
    · simp only [Action.run_modify_bind] at h
      obtain ⟨rfl, rfl⟩ := Action.pure_eq h
      have hup := leads_withDepth (s := t) (c := c) (by rw [hl.engine]; exact he) 0
      rw [hl.depth] at hup
      exact ⟨_, _, .kept hd, hl.trans hup⟩
  · -- an inner level is only counted down
    simp only [hd, Action.run_modify_bind] at h
    obtain ⟨rfl, rfl⟩ := Action.pure_eq h
    refine ⟨[], _, .nested hd, leads_withDepth (isSome_engine?_of_depth ?_) _⟩
    rw [hd]
    exact Nat.succ_ne_zero _

/-- The ways in which leaving all transactions goes. -/
inductive RollsBack (depth : Nat → Nat) (c : Nat) : Outcome Unit → List Mark → (Nat → Nat) → Prop
  /-- there is none -/
  | closed (closed : depth c = 0) : RollsBack depth c (.ok ()) [] depth
  /-- they are left in any case -/
  | sent {o : Outcome (List ResultSet)} (open_ : depth c ≠ 0) :
    RollsBack depth c (o.map fun _ => ()) [.asked ⟨c, Control.rollback.request, o⟩]
      (Function.update depth c 0)

/-- What `rollback` does is one of the cases of `RollsBack`. -/
theorem rollback_run {c : Nat} {s s' : Session β} {o : Outcome Unit}
    (h : (rollback c).run s = (o, s')) : ∃ ms d, RollsBack s.depth c o ms d ∧ s.Leads ms d s' := by
  rw [rollback, Action.run_get_bind, Action.run_ite] at h
  by_cases hd : s.depth c = 0
  · rw [if_pos hd] at h
    obtain ⟨rfl, rfl⟩ := Action.pure_eq h
    exact ⟨[], _, .closed hd, .refl _⟩
  · rw [if_neg hd, Action.run_modify_bind] at h
    obtain ⟨o', t, ht, h⟩ := Action.bind_eq h
    obtain ⟨rfl, rfl⟩ := Action.pure_eq h
    -- the depth is left before anything is sent, whatever becomes of that
    have he := isSome_engine?_of_depth hd
    have hdown := leads_withDepth he 0
    have hl := sendUnguarded_run (by rw [hdown.engine]; exact he) ht
    rw [hdown.depth] at hl
    exact ⟨_, _, .sent hd, hdown.trans hl⟩

/-- A transaction is entered or left over a connection. -/
def steer (k : Control) (c : Nat) : Action β (Outcome Unit) :=
  match k with
  | .begin => begin c
  | .commit => commit c
  | .rollback => rollback c

/-! ## Statements -/

/-- What a statement asks of a backend: it is bound for every set, or for none if that fails. -/
def statement (style : PlaceholderStyle) (sql : String) (sets : List ParameterSet)
    (type : QueryType) : Except Error Request :=
  let named := NamedStatement.compile sql style
  (named.bindAll sets).map fun bound => .sets named.sql bound type

/-- How placeholders are marked on a connection. -/
def styleOf (s : Session β) (c : Nat) : PlaceholderStyle :=
  (s.engine? c).elim .question Engine.placeholderStyle

/-- Connections keep their style of placeholders, because backends keep their engine. -/
theorem Leads.styleOf {s t : Session β} {ms : List Mark} {d : Nat → Nat} (h : s.Leads ms d t)
    (c : Nat) : t.styleOf c = s.styleOf c := by
  rw [Session.styleOf, Session.styleOf, h.engine]

/-- Statements ran over a connection: as many as were sent were sent in order, and if the run is to
be a success, all of them were sent and none failed. -/
structure Runs (c : Nat) (statements : List (Except Error Request)) (success : Prop)
    (ms : List Mark) : Prop where
  /-- nothing happens elsewhere -/
  on : ∀ m ∈ ms, m.On c
  /-- from the first one on -/
  sent : (exchanges ms).map (fun x => .ok x.request) <+: statements
  /-- up to the last one -/
  all : success → (exchanges ms).map (fun x => .ok x.request) = statements
  /-- and each with a reply -/
  answered : success → ∀ x ∈ exchanges ms, x.ending.isOk

namespace Runs

variable {c : Nat} {xs ys : List (Except Error Request)} {p q : Prop} {ms ns : List Mark}

omit [Backend β] in
/-- Nothing was sent, without success. -/
theorem none (h : ¬p) : Runs c xs p [] :=
  ⟨by simp, List.nil_prefix, fun hp => absurd hp h, fun hp => absurd hp h⟩

omit [Backend β] in
/-- What follows from the end of a run can take its place. -/
theorem imp (h : Runs c xs p ms) (hq : q → p) : Runs c xs q ms :=
  ⟨h.on, h.sent, fun h' => h.all (hq h'), fun h' => h.answered (hq h')⟩

omit [Backend β] in
/-- More statements would have followed, but it is no success. -/
theorem extend (h : Runs c xs p ms) (hq : ¬q) : Runs c (xs ++ ys) q ms :=
  ⟨h.on, h.sent.trans (List.prefix_append xs ys), fun h' => absurd h' hq, fun h' => absurd h' hq⟩

omit [Backend β] in
/-- More statements follow after a success. -/
theorem append (h : Runs c xs True ms) (h' : Runs c ys p ns) : Runs c (xs ++ ys) p (ms ++ ns) := by
  have hall := h.all trivial
  refine ⟨?_, ?_, ?_, ?_⟩
  · intro m hm
    exact (List.mem_append.mp hm).elim (h.on m) (h'.on m)
  · rw [exchanges_append, List.map_append, hall]
    exact (List.prefix_append_right_inj xs).mpr h'.sent
  · intro hp
    rw [exchanges_append, List.map_append, hall, h'.all hp]
  · intro hp x hx
    rw [exchanges_append] at hx
    exact (List.mem_append.mp hx).elim (h.answered trivial x) (h'.answered hp x)

omit [Backend β] in
/-- Telling the backend to stop sends nothing. -/
theorem interrupted (h : Runs c xs p ms) : Runs c xs p (ms ++ [.interrupted c]) := by
  have hx : exchanges (ms ++ [.interrupted c]) = exchanges ms := by
    rw [exchanges_append, exchanges_interrupted, exchanges_nil, List.append_nil]
  refine ⟨?_, hx ▸ h.sent, hx ▸ h.all, hx ▸ h.answered⟩
  intro m hm
  rcases List.mem_append.mp hm with hm | hm
  · exact h.on m hm
  · rw [List.mem_singleton.mp hm]
    rfl

end Runs

/-- **A statement is sent as it is bound**, or nothing is sent and it fails. -/
theorem execute_run {c : Nat} {sql : String} {sets : List ParameterSet} {type : QueryType}
    {s s' : Session β} {o : Outcome (List ResultSet)}
    (h : (execute c sql sets type).run s = (o, s')) :
    ∃ ms, Runs c [statement (s.styleOf c) sql sets type] o.isOk ms ∧ s.Leads ms s.depth s' := by
  rw [execute, Action.run_get_bind] at h
  rcases he : s.engine? c with _ | engine
  · rw [he] at h
    obtain ⟨rfl, rfl⟩ := Action.pure_eq h
    exact ⟨[], .none Bool.false_ne_true, .refl _⟩
  · simp only [he] at h
    -- all sets are bound before the first one is sent
    rcases hb : (NamedStatement.compile sql engine.placeholderStyle).bindAll sets with e | bound
    · rw [hb] at h
      obtain ⟨rfl, rfl⟩ := Action.pure_eq h
      exact ⟨[], .none Bool.false_ne_true, .refl _⟩
    · rw [hb] at h
      obtain ⟨ms, hms, hl⟩ := sendGuarded_run h
      refine ⟨ms, ?_, hl⟩
      rcases hms.sent with ⟨-, hx⟩ | ⟨hx, e, rfl⟩
      · have hst : statement (s.styleOf c) sql sets type =
            .ok (.sets (NamedStatement.compile sql engine.placeholderStyle).sql bound type) := by
          rw [statement, styleOf, he, Option.elim_some, hb]
          rfl
        have hall : (exchanges ms).map (fun x => Except.ok (ε := Error) x.request) =
            [statement (s.styleOf c) sql sets type] := by
          rw [hx, hst]
          rfl
        refine ⟨hms.on, hall ▸ List.prefix_rfl, fun _ => hall, fun ho x hx' => ?_⟩
        rw [hx] at hx'
        rw [List.mem_singleton.mp hx']
        exact ho
      · refine ⟨hms.on, ?_, fun ho => absurd ho Bool.false_ne_true,
          fun ho => absurd ho Bool.false_ne_true⟩
        rw [hx]
        exact List.nil_prefix

end Session

/-! ## A willing backend -/

/-- A backend that does nothing and replies to everything with one empty result set. -/
inductive Willing where
  /-- the only one -/
  | willing

instance : Backend Willing where
  engine _ := .sqlite
  answer b _ := { reply := .done [{}], backend := b }
  interrupt b := b
  engine_answer _ _ := rfl
  engine_interrupt _ := rfl

/-- Two connections to willing backends. -/
def Willing.pair : Session Willing :=
  { connections := [{ backend := .willing }, { backend := .willing }] }

end Tabula
