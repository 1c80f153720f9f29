import Mathlib.Data.List.Chain
import Mathlib.Data.List.DropRight
import Tabula.Proofs.Session.RoundTrip

/-!
# The depth of a connection and its transactions

A connection counts how deep it is in transactions, and asks the backend for something only at the
outermost level. A `Turn` is one call that enters or leaves a transaction, with the depths around it
and what was sent; `Steered` says which turns a connection can have taken, with anything else done
in between that leaves the depth. What a turn is sent for and where it leads follow from the depth
before it and from its success.

* `steer_obeys`: every turn obeys the rules.
* `Steered.balance`: the depth is what was entered less what was left since it was last zero.
* `Steered.exists_closes`: between two transactions of the database there is the end of one.
* `Steered.depth_agrees`: the depth and the statements agree.
-/

namespace Tabula

/-! ## Turns -/

/-- The depth at which a call reaches the backend. -/
def Control.IsOutermost (k : Control) (depth : Nat) : Prop :=
  match k with
  | .begin => depth = 0
  | .commit => depth = 1
  | .rollback => 0 < depth

/-- The depth after a call, by its success. -/
def Control.depthAfter (k : Control) (ok : Bool) (depth : Nat) : Nat :=
  match k with
  | .begin => if ok then depth + 1 else depth
  | .commit => if ok then depth - 1 else depth
  | .rollback => 0

theorem Control.request_injective {j k : Control} (h : j.request = k.request) : j = k := by
  cases j <;> cases k <;> first | rfl | simp [Control.request, Control.sql] at h

/-- A call that enters or leaves a transaction. -/
structure Turn where
  /-- what was called -/
  control : Control
  /-- the depth before -/
  before : Nat
  /-- what the backend was asked, and how that ended -/
  sent : List Exchange
  /-- how the call ended -/
  outcome : Outcome Unit
  /-- the depth afterwards -/
  after : Nat

namespace Turn

/-- The call succeeded. -/
def isOk (t : Turn) : Bool := t.outcome.isOk

/-- It was a call of some kind, and it succeeded. -/
def didDo (k : Control) (t : Turn) : Bool := t.control = k && t.isOk

/-- A control statement was sent, whatever became of it. -/
def Tried (t : Turn) (k : Control) : Prop := ∃ x ∈ t.sent, x.request = k.request

/-- A control statement was sent and succeeded. -/
def Ran (t : Turn) (k : Control) : Prop := ∃ x ∈ t.sent, x.request = k.request ∧ x.ending.isOk

/-- The rules of a turn on a connection. -/
structure Obeys (c : Nat) (t : Turn) : Prop where
  /-- nothing is sent but the statement of the call, over the connection -/
  sent : ∀ x ∈ t.sent, x.connection = c ∧ x.request = t.control.request
  /-- it is sent at the outermost level only -/
  outermost : t.sent ≠ [] → t.control.IsOutermost t.before
  /-- there it is sent, unless a transaction cannot be entered before that -/
  unsent : t.control.IsOutermost t.before → t.sent = [] → t.control = .begin ∧ t.isOk = false
  /-- the call succeeds if the statement does -/
  answered : ∀ x ∈ t.sent, x.ending.isOk = t.isOk
  /-- nothing is left that was not entered -/
  entered : t.control = .commit → t.isOk → t.before ≠ 0
  /-- where it leads -/
  after : t.after = t.control.depthAfter t.isOk t.before

namespace Obeys

variable {c : Nat} {t : Turn}

/-- A turn for which nothing is sent. -/
theorem of_silent {k : Control} {before after : Nat} {o : Outcome Unit}
    (hunsent : k.IsOutermost before → k = .begin ∧ o.isOk = false)
    (hentered : k = .commit → o.isOk → before ≠ 0)
    (hafter : after = k.depthAfter o.isOk before) : Obeys c ⟨k, before, [], o, after⟩ :=
  ⟨by simp, fun h => absurd rfl h, fun hout _ => hunsent hout, by simp, hentered, hafter⟩

/-- A turn for which its statement is sent. -/
theorem of_asked {k : Control} {before after : Nat} {ending : Outcome (List ResultSet)}
    {o : Outcome Unit} (hout : k.IsOutermost before) (hanswer : ending.isOk = o.isOk)
    (hentered : k = .commit → o.isOk → before ≠ 0)
    (hafter : after = k.depthAfter o.isOk before) :
    Obeys c ⟨k, before, [⟨c, k.request, ending⟩], o, after⟩ :=
  ⟨by simp, fun _ => hout, by simp, by simpa [isOk] using hanswer, hentered, hafter⟩

/-- What was sent says what was called, and at which depth. -/
theorem of_tried (h : t.Obeys c) {k : Control} (hk : t.Tried k) :
    t.control = k ∧ k.IsOutermost t.before := by
  obtain ⟨x, hx, hrequest⟩ := hk
  have hcontrol : t.control = k := Control.request_injective ((h.sent x hx).2.symm.trans hrequest)
  have hout := h.outermost (List.ne_nil_of_mem hx)
  rw [hcontrol] at hout
  exact ⟨hcontrol, hout⟩

/-- A transaction of the database leads from depth zero to depth one. -/
theorem of_ran_begin (h : t.Obeys c) (hran : t.Ran .begin) : t.before = 0 ∧ t.after = 1 := by
  obtain ⟨x, hx, hrequest, hok⟩ := hran
  obtain ⟨hcontrol, hzero⟩ := h.of_tried ⟨x, hx, hrequest⟩
  have hbefore : t.before = 0 := hzero
  have hafter := h.after
  rw [hcontrol, ← h.answered x hx, hok, hbefore] at hafter
  exact ⟨hbefore, hafter⟩

/-- At the outermost level a call is sent for, unless it cannot enter a transaction. -/
theorem exists_sent (h : t.Obeys c) (hout : t.control.IsOutermost t.before)
    (hcontrol : t.control ≠ .begin ∨ t.isOk) :
    ∃ x ∈ t.sent, x.request = t.control.request := by
  rcases hsent : t.sent with _ | ⟨x, xs⟩
  · obtain ⟨hbegin, hfailed⟩ := h.unsent hout hsent
    rcases hcontrol with hcontrol | hok
    · exact absurd hbegin hcontrol
    · rw [hfailed] at hok
      cases hok
  · have hx : x ∈ t.sent := by rw [hsent]; exact List.mem_cons_self
    exact ⟨x, List.mem_cons_self, (h.sent x hx).2⟩

/-- A call that succeeds at the outermost level does so by its statement. -/
theorem ran_of_isOk (h : t.Obeys c) (hok : t.isOk) (hout : t.control.IsOutermost t.before) :
    t.Ran t.control := by
  obtain ⟨x, hx, hrequest⟩ := h.exists_sent hout (.inr hok)
  exact ⟨x, hx, hrequest, by rw [h.answered x hx]; exact hok⟩

/-- Depth zero is come to by the end of a transaction of the database. -/
theorem closes (h : t.Obeys c) (hbefore : t.before ≠ 0) (hafter : t.after = 0) :
    t.Ran .commit ∨ t.Tried .rollback := by
  have hrule := h.after
  rw [hafter] at hrule
  cases hcontrol : t.control with
  | begin =>
    rw [hcontrol, Control.depthAfter] at hrule
    -- a BEGIN ends above zero
    split at hrule <;> omega
  | commit =>
    rw [hcontrol, Control.depthAfter] at hrule
    by_cases hok : t.isOk
    · rw [if_pos hok] at hrule
      have hout : t.control.IsOutermost t.before := by
        rw [hcontrol]
        show t.before = 1
        -- a successful commit ends at zero from the outermost level alone
        omega
      have hran := h.ran_of_isOk hok hout
      rw [hcontrol] at hran
      exact .inl hran
    · rw [if_neg hok] at hrule
      omega
  | rollback =>
    -- every rollback above zero is sent
    have hout : t.control.IsOutermost t.before := by
      rw [hcontrol]
      exact Nat.pos_of_ne_zero hbefore
    obtain ⟨x, hx, hrequest⟩ := h.exists_sent hout (.inl (by rw [hcontrol]; decide))
    rw [hcontrol] at hrequest
    exact .inr ⟨x, hx, hrequest⟩

/-- Away from depth zero, what a turn adds to the depth is what was entered less what was left. -/
theorem balance (h : t.Obeys c) (hafter : t.after ≠ 0) :
    t.after + (if t.didDo .commit then 1 else 0) =
      t.before + (if t.didDo .begin then 1 else 0) := by
  have hrule := h.after
  have hentered := h.entered
  cases hcontrol : t.control <;> cases hok : t.isOk <;>
    simp [hcontrol, hok, Control.depthAfter, didDo] at hrule hentered ⊢ <;> omega

end Obeys

/-- The turns since the depth was last zero. -/
def recent (ts : List Turn) : List Turn := ts.rtakeWhile fun t => t.after ≠ 0

/-- Between a turn that leads away from depth zero and one that begins there, depth zero is come
to. -/
theorem exists_return {t u : Turn} {mid : List Turn}
    (h : (t :: (mid ++ [u])).IsChain fun t u => t.after = u.before) (ht : t.after ≠ 0)
    (hu : u.before = 0) : ∃ v ∈ mid, v.before ≠ 0 ∧ v.after = 0 := by
  induction mid generalizing t with
  | nil =>
    obtain ⟨hnext, -⟩ := List.isChain_cons_cons.mp h
    exact absurd (hnext.trans hu) ht
  | cons v mid ih =>
    obtain ⟨hnext, hrest⟩ := List.isChain_cons_cons.mp h
    by_cases hv : v.after = 0
    · exact ⟨v, List.mem_cons_self, hnext ▸ ht, hv⟩
    · obtain ⟨w, hw, hreturn⟩ := ih hrest hv
      exact ⟨w, List.mem_cons_of_mem v hw, hreturn⟩

end Turn

/-! ## The turns of a connection -/

namespace Session

variable {β : Type} [Backend β] {c : Nat} {s s' : Session β} {ts : List Turn}

omit [Backend β] in
/-- A call that led from one session to another, as a turn. -/
def turn (c : Nat) (k : Control) (s : Session β) (o : Outcome Unit) (s' : Session β) : Turn :=
  ⟨k, s.depth c, exchanges (s'.trace.drop s.trace.length), o, s'.depth c⟩

theorem Leads.turn {ms : List Mark} {d : Nat → Nat} (h : s.Leads ms d s') (k : Control)
    (o : Outcome Unit) : Session.turn c k s o s' = ⟨k, s.depth c, exchanges ms, o, d c⟩ := by
  rw [Session.turn, h.trace, List.drop_left, h.depth]

omit [Backend β] in
theorem Begins.obeys {depth d : Nat → Nat} {o : Outcome Unit} {ms : List Mark}
    (h : Begins depth c o ms d) : (⟨.begin, depth c, exchanges ms, o, d c⟩ : Turn).Obeys c := by
  cases h with
  | nested open_ =>
    refine .of_silent (fun hout => absurd hout open_) nofun ?_
    simp [Control.depthAfter, Except.isOk, Except.toBool]
  | opened closed on sent =>
    rw [sent]
    refine .of_asked closed rfl nofun ?_
    simp [Control.depthAfter, Except.isOk, Except.toBool, closed]
  | refused closed on sent =>
    rw [sent]
    exact .of_asked closed rfl nofun rfl
  | unsent closed on sent =>
    rw [sent]
    exact .of_silent (fun _ => ⟨rfl, rfl⟩) nofun rfl

omit [Backend β] in
theorem Commits.obeys {depth d : Nat → Nat} {o : Outcome Unit} {ms : List Mark}
    (h : Commits depth c o ms d) : (⟨.commit, depth c, exchanges ms, o, d c⟩ : Turn).Obeys c := by
  cases h with
  | closed closed =>
    refine .of_silent (fun hout => ?_) nofun rfl
    rw [closed] at hout
    cases hout
  | nested level =>
    refine .of_silent (fun hout => ?_) (fun _ _ => ?_) ?_
    · rw [level] at hout
      cases hout
    · rw [level]
      exact Nat.succ_ne_zero _
    · rw [Function.update_self, level]
      rfl
  | kept level =>
    refine .of_asked level rfl (fun _ _ => ?_) ?_
    · rw [level]
      exact Nat.one_ne_zero
    · rw [Function.update_self, level]
      rfl
  | refused level => exact .of_asked level rfl nofun rfl

omit [Backend β] in
theorem RollsBack.obeys {depth d : Nat → Nat} {o : Outcome Unit} {ms : List Mark}
    (h : RollsBack depth c o ms d) :
    (⟨.rollback, depth c, exchanges ms, o, d c⟩ : Turn).Obeys c := by
  cases h with
  | closed closed =>
    refine .of_silent (fun hout => ?_) nofun closed
    rw [closed] at hout
    cases hout
  | @sent ending open_ =>
    refine .of_asked (Nat.pos_of_ne_zero open_) ?_ nofun (Function.update_self ..)
    cases ending <;> rfl

/-- **Every turn obeys the rules.** -/
theorem steer_obeys {k : Control} {o : Outcome Unit} (h : (steer k c).run s = (o, s')) :
    (turn c k s o s').Obeys c := by
  cases k with
  | begin =>
    obtain ⟨ms, d, hbegins, hl⟩ := begin_run h
    rw [hl.turn]
    exact hbegins.obeys
  | commit =>
    obtain ⟨ms, d, hcommits, hl⟩ := commit_run h
    rw [hl.turn]
    exact hcommits.obeys
  | rollback =>
    obtain ⟨ms, d, hback, hl⟩ := rollback_run h
    rw [hl.turn]
    exact hback.obeys

/-- The turns of a connection since it was opened, and the session after them. -/
inductive Steered (c : Nat) : List Turn → Session β → Prop where
  /-- no transaction has been entered yet -/
  | opened {s : Session β} (hdepth : s.depth c = 0) : Steered c [] s
  /-- one is entered or left -/
  | called {ts : List Turn} {s s' : Session β} {k : Control} {o : Outcome Unit}
    (h : Steered c ts s) (hrun : (steer k c).run s = (o, s')) :
    Steered c (ts ++ [turn c k s o s']) s'
  /-- something else is done, which leaves the depth -/
  | elsewhere {ts : List Turn} {s s' : Session β} (h : Steered c ts s)
    (hdepth : s'.depth c = s.depth c) : Steered c ts s'

/-- Calls one after the other: their turns, and the session after them. -/
def steerAll (c : Nat) : List Control → Session β → List Turn × Session β
  | [], s => ([], s)
  | k :: ks, s =>
    let (o, s') := (steer k c).run s
    let (ts, s'') := steerAll c ks s'
    (turn c k s o s' :: ts, s'')

namespace Steered

/-- Whatever is called, in whatever order, the turns are among those of the connection. -/
theorem of_steerAll (h : Steered c ts s) (ks : List Control) :
    Steered c (ts ++ (steerAll c ks s).1) (steerAll c ks s).2 := by
  induction ks generalizing ts s with
  | nil => rwa [steerAll, List.append_nil]
  | cons k ks ih =>
    have hcalled := ih (h.called (k := k) (Prod.eta ((steer k c).run s)).symm)
    rwa [List.append_assoc, List.singleton_append] at hcalled

theorem obeys (h : Steered c ts s) : ∀ t ∈ ts, t.Obeys c := by
  induction h with
  | opened hdepth => simp
  | called h hrun ih =>
    intro t ht
    rcases List.mem_append.mp ht with ht | ht
    · exact ih t ht
    · rw [List.mem_singleton.mp ht]
      exact steer_obeys hrun
  | elsewhere h hdepth ih => exact ih

/-- Each turn goes on from the depth of the one before, and the last one led to the depth that there
is. -/
theorem linked (h : Steered c ts s) :
    ts.IsChain (fun t u => t.after = u.before) ∧ ∀ t ∈ ts.getLast?, t.after = s.depth c := by
  induction h with
  | opened hdepth => simp
  | called h hrun ih =>
    obtain ⟨hchain, hlast⟩ := ih
    refine ⟨?_, by simp [turn]⟩
    refine hchain.append (.singleton _) fun t ht u hu => ?_
    cases hu
    exact hlast t ht
  | elsewhere h hdepth ih => exact ⟨ih.1, fun t ht => (ih.2 t ht).trans hdepth.symm⟩

/-- **Since the depth was last zero it has counted** what was entered less what was left. -/
theorem balance (h : Steered c ts s) :
    s.depth c + (Turn.recent ts).countP (Turn.didDo .commit) =
      (Turn.recent ts).countP (Turn.didDo .begin) := by
  induction h with
  | opened hdepth =>
    rw [hdepth]
    rfl
  | @called ts s s' k o h hrun ih =>
    by_cases hzero : s'.depth c = 0
    · -- after a call that ended at zero the count begins anew
      rw [Turn.recent, List.rtakeWhile_concat_neg _ _ _ (by simp [turn, hzero]), hzero]
      rfl
    · -- what the call adds to the counts is what it adds to the depth
      have hturn := (steer_obeys hrun).balance hzero
      simp only [turn] at hturn
      rw [Turn.recent, List.rtakeWhile_concat_pos _ _ _ (by simp [turn, hzero]), ← Turn.recent,
        List.countP_append, List.countP_append, List.countP_singleton, List.countP_singleton]
      simp only [turn]
      omega
  | elsewhere h hdepth ih => rw [hdepth, ih]

/-- **Between two transactions of the database there is the end of one.** -/
theorem exists_closes (h : Steered c ts s) {before mid after : List Turn} {t u : Turn}
    (hsplit : ts = before ++ t :: (mid ++ u :: after)) (ht : t.Ran .begin) (hu : u.Ran .begin) :
    ∃ v ∈ mid, v.Ran .commit ∨ v.Tried .rollback := by
  have hobeys {v : Turn} (hv : v ∈ t :: (mid ++ [u])) : v.Obeys c := by
    refine h.obeys v ?_
    rw [hsplit]
    simp only [List.mem_cons, List.mem_append, List.not_mem_nil, or_false] at hv ⊢
    tauto
  have hchain : (t :: (mid ++ [u])).IsChain fun t u => t.after = u.before := by
    have hwithin : ts = before ++ (t :: (mid ++ [u]) ++ after) := by simp [hsplit]
    exact (hwithin ▸ h.linked.1).right_of_append.left_of_append
  have hone := ((hobeys List.mem_cons_self).of_ran_begin ht).2
  have hzero := ((hobeys (by simp)).of_ran_begin hu).1
  obtain ⟨v, hv, hbefore, hafter⟩ := Turn.exists_return hchain (by omega) hzero
  exact ⟨v, hv, (hobeys (by simp [hv])).closes hbefore hafter⟩

/-- **The depth of a connection and its transactions agree.** A statement is sent for its own call
only: `BEGIN` at depth zero, `COMMIT` at depth one, `ROLLBACK` above zero; a call that succeeds at
that depth has succeeded by its statement. Between two `BEGIN`s that succeeded there is a `COMMIT`
that succeeded or a `ROLLBACK` that was tried. What cannot be entered or left leaves the depth,
rolling back leads to zero, and the depth is what was entered less what was left since it was last
zero. -/
theorem depth_agrees (h : Steered c ts s) :
    (∀ t ∈ ts, (∀ x ∈ t.sent, x.connection = c ∧ x.request = t.control.request) ∧
      (t.Tried .begin → t.before = 0) ∧ (t.Tried .commit → t.before = 1) ∧
      (t.Tried .rollback → 0 < t.before) ∧
      (t.isOk → t.control.IsOutermost t.before → t.Ran t.control)) ∧
    (∀ before t mid u after, ts = before ++ t :: (mid ++ u :: after) →
      t.Ran .begin → u.Ran .begin → ∃ v ∈ mid, v.Ran .commit ∨ v.Tried .rollback) ∧
    (∀ t ∈ ts, t.control ≠ .rollback → t.isOk = false → t.after = t.before) ∧
    (∀ t ∈ ts, t.control = .rollback → t.after = 0) ∧
    s.depth c + (Turn.recent ts).countP (Turn.didDo .commit) =
      (Turn.recent ts).countP (Turn.didDo .begin) := by
  refine ⟨?_, ?_, ?_, ?_, h.balance⟩
  · intro t ht
    have hobeys := h.obeys t ht
    exact ⟨hobeys.sent, fun hk => (hobeys.of_tried hk).2, fun hk => (hobeys.of_tried hk).2,
      fun hk => (hobeys.of_tried hk).2, hobeys.ran_of_isOk⟩
  · intro before t mid u after hsplit
    exact h.exists_closes hsplit
  · intro t ht hcontrol hok
    have hafter := (h.obeys t ht).after
    rw [hok] at hafter
    cases hk : t.control with
    | begin => rwa [hk] at hafter
    | commit => rwa [hk] at hafter
    | rollback => exact absurd hk hcontrol
  · intro t ht hcontrol
    have hafter := (h.obeys t ht).after
    rwa [hcontrol] at hafter

/-- A transaction inside of another one is entered and left, and entered again; all is undone, and
another transaction is entered. -/
def nested : List Turn × Session Willing :=
  steerAll 0 [.begin, .begin, .commit, .begin, .rollback, .begin] Willing.pair

theorem depth_agrees_nested :
    Steered 0 nested.1 nested.2 ∧ nested.1.map Turn.after = [1, 2, 1, 2, 0, 1] ∧
      (∀ t ∈ nested.1, t.control = .rollback → t.after = 0) ∧
      nested.2.depth 0 + (Turn.recent nested.1).countP (Turn.didDo .commit) =
        (Turn.recent nested.1).countP (Turn.didDo .begin) := by
  have hopened : Steered 0 [] Willing.pair := .opened rfl
  have hsteered : Steered 0 nested.1 nested.2 := by
    have hall := hopened.of_steerAll [.begin, .begin, .commit, .begin, .rollback, .begin]
    rwa [List.nil_append] at hall
  obtain ⟨-, -, -, hrollback, hbalance⟩ := hsteered.depth_agrees
  exact ⟨hsteered, by with_unfolding_all rfl, hrollback, hbalance⟩

end Steered

end Session

end Tabula
