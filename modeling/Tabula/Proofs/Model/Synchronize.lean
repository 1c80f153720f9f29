import Tabula.Proofs.Model.Call

/-!
# What a synchronization does, in order

A synchronization tries its writes one after the other. An `Attempt` is one of them with the
sessions around it: the procedure is cleared, fed and executed, or it does not come to that.
Sessions are handed on from one attempt to the next and then to the fetch, so a list of attempts
says all that happens.

* `WriteAllRun.attempts`: writes that are delayed are attempts of the procedures that there were.
* `CallRun.keeps_of_failed`: a call that fails keeps the snapshot.
* `synchronize_in_order`: a synchronization is attempts in order and one fetch.
-/

namespace Tabula

namespace Model

variable {β : Type} [Backend β]

/-! ## Attempts -/

/-- A procedure that was executed. -/
structure Execution (β : Type) where
  /-- the procedure -/
  procedure : Procedure
  /-- the session before -/
  before : Session β
  /-- what came of it -/
  outcome : Outcome ResultSet
  /-- the session afterwards -/
  after : Session β

/-- A write that was tried. -/
structure Attempt (β : Type) where
  /-- its kind -/
  kind : WriteKind
  /-- the rows -/
  rows : List Criterion
  /-- the session before -/
  before : Session β
  /-- the execution of its procedure, if it came to that -/
  executed : Option (Execution β)
  /-- what came of it -/
  outcome : Outcome ResultSet
  /-- the session afterwards -/
  after : Session β

/-- What is to be written. -/
def Attempt.write (a : Attempt β) : WriteKind × List Criterion := (a.kind, a.rows)

/-- The ways in which an attempt of the procedure for a kind of writes goes. -/
inductive Attempt.Of (writer? : WriteKind → Option Procedure) : Attempt β → Prop where
  /-- there is no procedure, and nothing is to be done -/
  | absent {kind : WriteKind} {rows : List Criterion} {s : Session β}
    (hwriter : writer? kind = none) : Of writer? ⟨kind, rows, s, none, .ok {}, s⟩
  /-- the procedure takes no input -/
  | refused {kind : WriteKind} {rows : List Criterion} {s : Session β} {p : Procedure} {e : Error}
    (hwriter : writer? kind = some p) (hinput : p.info.input = .none) :
    Of writer? ⟨kind, rows, s, none, failWith e, s⟩
  /-- it does not take these rows -/
  | unfed {kind : WriteKind} {rows : List Criterion} {s s₁ s' : Session β} {p p₁ p' : Procedure}
    {e : Error} (hwriter : writer? kind = some p) (hinput : p.info.input ≠ .none)
    (hclear : p.clear.run s = (p₁, s₁)) (hfeed : (p₁.feed rows).run s₁ = ((.error e, p'), s')) :
    Of writer? ⟨kind, rows, s, none, failWith e, s'⟩
  /-- it is executed with these rows only -/
  | executed {kind : WriteKind} {rows : List Criterion} {s s₁ s₂ s' : Session β}
    {p p₁ p₂ p' : Procedure} {o : Outcome ResultSet} (hwriter : writer? kind = some p)
    (hinput : p.info.input ≠ .none) (hclear : p.clear.run s = (p₁, s₁))
    (hfeed : (p₁.feed rows).run s₁ = ((.ok (), p₂), s₂))
    (hrun : p₂.execute.run s₂ = ((o, p'), s')) :
    Of writer? ⟨kind, rows, s, some ⟨p₂, s₂, o, s'⟩, o, s'⟩

/-- Sessions are handed on from one attempt to the next. -/
def Leads : Session β → List (Attempt β) → Session β → Prop
  | s, [], s' => s' = s
  | s, a :: as, s' => a.before = s ∧ Leads a.after as s'

/-- A procedure is cleared and fed and then executed, or it is not executed. -/
theorem attempt_of_runWriter {writer? : WriteKind → Option Procedure} {kind : WriteKind}
    {rows : List Criterion} {p p' : Procedure} {o : Outcome ResultSet} {s s' : Session β}
    (hwriter : writer? kind = some p) (hinput : p.info.input ≠ .none)
    (h : (runWriter p rows).run s = ((o, p'), s')) :
    ∃ x, Attempt.Of writer? ⟨kind, rows, s, x, o, s'⟩ := by
  obtain ⟨p₁, s₁, hclear, h⟩ := Action.bind_eq h
  obtain ⟨⟨fed, p₂⟩, s₂, hfeed, h⟩ := Action.bind_eq h
  cases fed with
  | error e =>
    obtain ⟨h, rfl⟩ := Action.pure_eq h
    cases h
    exact ⟨none, .unfed hwriter hinput hclear hfeed⟩
  | ok u => exact ⟨_, .executed hwriter hinput hclear hfeed h⟩

/-! ## What a call leaves as it is -/

/-- Another model has the same snapshot. -/
structure SameSnapshot (m m' : Model) : Prop where
  /-- the columns -/
  columns : m'.columns = m.columns
  /-- the rows -/
  data : m'.data = m.data
  /-- the last fetch -/
  fetches : m'.fetches = m.fetches
  /-- what was different then -/
  lastChanges : m'.lastChanges = m.lastChanges
  /-- whether fetching is delayed -/
  delaySelect : m'.delaySelect = m.delaySelect

/-- Nothing but the state and the procedure for a kind of writes is different. -/
structure SameButWriter (kind : WriteKind) (m m' : Model) : Prop where
  /-- the snapshot -/
  snapshot : SameSnapshot m m'
  /-- the procedure that fetches -/
  select : m'.select = m.select
  /-- the other procedures -/
  others : ∀ k ≠ kind, m'.writer? k = m.writer? k

omit [Backend β] in
theorem SameSnapshot.refl (m : Model) : SameSnapshot m m := ⟨rfl, rfl, rfl, rfl, rfl⟩

theorem SameSnapshot.trans {m m' m'' : Model} (h : SameSnapshot m m') (h' : SameSnapshot m' m'') :
    SameSnapshot m m'' :=
  ⟨h'.columns.trans h.columns, h'.data.trans h.data, h'.fetches.trans h.fetches,
    h'.lastChanges.trans h.lastChanges, h'.delaySelect.trans h.delaySelect⟩

theorem SameButWriter.trans {kind : WriteKind} {m m' m'' : Model} (h : SameButWriter kind m m')
    (h' : SameButWriter kind m' m'') : SameButWriter kind m m'' :=
  ⟨h.snapshot.trans h'.snapshot, h'.select.trans h.select,
    fun k hk => (h'.others k hk).trans (h.others k hk)⟩

theorem sameButWriter_written (kind : WriteKind) (m : Model) : SameButWriter kind m m.written := by
  have hwriter? (k : WriteKind) (state : ModelState) :
      ({ m with state } : Model).writer? k = m.writer? k := by cases k <;> rfl
  rw [written]
  split
  · exact ⟨.refl m, rfl, fun _ _ => rfl⟩
  · exact ⟨⟨rfl, rfl, rfl, rfl, rfl⟩, rfl, fun k _ => hwriter? k _⟩

theorem sameButWriter_withWriter (kind : WriteKind) (m : Model) (p : Procedure) :
    SameButWriter kind m (m.withWriter p kind) := by
  cases kind with
  | _ =>
    refine ⟨⟨rfl, rfl, rfl, rfl, rfl⟩, rfl, fun k hk => ?_⟩
    cases k <;> first | rfl | exact absurd rfl hk

variable {m m' : Model} {s s' : Session β} {es : List (Episode β)}

/-- What follows a write that is delayed leaves all as it is. -/
theorem AfterRun.of_delayed {r : ResultSet} {o : Outcome ResultSet}
    (h : AfterRun m r s o es m' s') (hdelay : m.delaySelect) :
    o = .ok r ∧ m' = m.written ∧ s' = s := by
  cases h with
  | delayed => exact ⟨rfl, rfl, rfl⟩
  | fetch hnow =>
    rw [hnow] at hdelay
    cases hdelay

/-- **A write that is delayed is an attempt**, or there is nothing to write. -/
theorem WriteRun.attempt {kind : WriteKind} {rows : List Criterion} {o : Outcome ResultSet}
    (h : WriteRun m kind rows s o es m' s') (hdelay : m.delaySelect) :
    SameButWriter kind m m' ∧
      (rows = [] ∧ s' = s ∧ o.isOk ∨
        rows ≠ [] ∧ ∃ x, Attempt.Of m.writer? ⟨kind, rows, s, x, o, s'⟩) := by
  cases h with
  | nothing hrows => exact ⟨⟨.refl m, rfl, fun _ _ => rfl⟩, .inl ⟨hrows, rfl, rfl⟩⟩
  | absent hrows hwriter hafter =>
    -- reloading is put off, so that nothing is sent after the write
    obtain ⟨rfl, rfl, rfl⟩ := hafter.of_delayed hdelay
    exact ⟨sameButWriter_written kind m, .inr ⟨hrows, none, .absent hwriter⟩⟩
  | refused hrows hwriter hinput =>
    exact ⟨⟨.refl m, rfl, fun _ _ => rfl⟩, .inr ⟨hrows, none, .refused hwriter hinput⟩⟩
  | failed hrows hwriter hinput hrun =>
    exact ⟨sameButWriter_withWriter kind m _,
      .inr ⟨hrows, attempt_of_runWriter hwriter hinput hrun⟩⟩
  | @done p p' r o es m' t s' hrows hwriter hinput hrun hafter =>
    have hsame := sameButWriter_withWriter kind m p'
    -- nothing is sent after a successful write either
    obtain ⟨rfl, rfl, rfl⟩ := hafter.of_delayed (hsame.snapshot.delaySelect.trans hdelay)
    exact ⟨hsame.trans (sameButWriter_written kind _),
      .inr ⟨hrows, attempt_of_runWriter hwriter hinput hrun⟩⟩

/-! ## Writes in order -/

/-- Those of some writes for which there is something to write. -/
def due (writes : List (WriteKind × List Criterion)) : List (WriteKind × List Criterion) :=
  writes.filter fun w => !w.2.isEmpty

/-- Some writes were tried in order and led from one session to another. -/
structure Attempts (writer? : WriteKind → Option Procedure)
    (writes : List (WriteKind × List Criterion)) (s : Session β) (o : Outcome Unit)
    (as : List (Attempt β)) (s' : Session β) : Prop where
  /-- each was tried with its procedure -/
  own : ∀ a ∈ as, a.Of writer?
  /-- those that are due were tried, from the first one on, and none twice -/
  order : as.map Attempt.write <+: due writes
  /-- nothing else happened -/
  leads : Leads s as s'
  /-- nothing was tried after a failure -/
  stops : ∀ a ∈ as.dropLast, a.outcome.isOk
  /-- without a failure all were tried -/
  all : o.isOk → as.map Attempt.write = due writes ∧ ∀ a ∈ as, a.outcome.isOk
  /-- the failure is that of the last one -/
  failed : ∀ h, o = .error h → ∃ a ∈ as.getLast?, a.outcome = .error h

omit [Backend β] in
theorem due_cons {kind : WriteKind} {rows : List Criterion}
    {rest : List (WriteKind × List Criterion)} (hrows : rows ≠ []) :
    due ((kind, rows) :: rest) = (kind, rows) :: due rest :=
  List.filter_cons_of_pos (by simpa using hrows)

namespace Attempts

variable {writer? : WriteKind → Option Procedure} {rest : List (WriteKind × List Criterion)}
  {o : Outcome Unit} {as : List (Attempt β)} {a : Attempt β}

theorem nil : Attempts writer? [] s (.ok ()) [] s where
  own := by simp
  order := List.nil_prefix
  leads := rfl
  stops := by simp
  all := fun _ => ⟨rfl, by simp⟩
  failed := nofun

/-- What is not due is not tried. -/
theorem skip (h : Attempts writer? rest s o as s') (kind : WriteKind) :
    Attempts writer? ((kind, []) :: rest) s o as s' where
  own := h.own
  order := h.order
  leads := h.leads
  stops := h.stops
  all := h.all
  failed := h.failed

/-- After a failure it is over. -/
theorem last (ha : a.Of writer?) (hrows : a.rows ≠ []) {halt : Halt}
    (hfailed : a.outcome = .error halt) :
    Attempts writer? (a.write :: rest) a.before (.error halt) [a] a.after where
  own := by simpa using ha
  order := by
    rw [Attempt.write, due_cons hrows]
    exact List.prefix_append [a.write] (due rest)
  leads := ⟨rfl, rfl⟩
  stops := by simp
  all := nofun
  failed := by
    rintro h hh
    cases hh
    exact ⟨a, rfl, hfailed⟩

/-- After a success it goes on. -/
theorem cons (ha : a.Of writer?) (hrows : a.rows ≠ []) (hok : a.outcome.isOk)
    (h : Attempts writer? rest a.after o as s') :
    Attempts writer? (a.write :: rest) a.before o (a :: as) s' where
  own := List.forall_mem_cons.mpr ⟨ha, h.own⟩
  order := by
    rw [Attempt.write, due_cons hrows, List.map_cons]
    exact (List.prefix_cons_inj a.write).mpr h.order
  leads := ⟨rfl, h.leads⟩
  stops := by
    intro b hb
    cases as with
    | nil => cases hb
    | cons c cs =>
      rw [List.dropLast_cons_cons] at hb
      -- the new attempt went well, and those behind it as they did before
      rcases List.mem_cons.mp hb with rfl | hb
      · exact hok
      · exact h.stops b hb
  all := by
    intro ho
    obtain ⟨hall, hoks⟩ := h.all ho
    rw [Attempt.write, due_cons hrows, List.map_cons, hall]
    exact ⟨rfl, List.forall_mem_cons.mpr ⟨hok, hoks⟩⟩
  failed := by
    intro halt ho
    obtain ⟨b, hb, hfailed⟩ := h.failed halt ho
    refine ⟨b, ?_, hfailed⟩
    -- the failed attempt is the last of those behind
    rw [List.getLast?_cons, Option.mem_def.mp hb]
    rfl

end Attempts

/-- An attempt depends on the procedure of its own kind only. -/
theorem Attempt.Of.congr {writer? other? : WriteKind → Option Procedure} {a : Attempt β}
    (h : a.Of writer?) (heq : writer? a.kind = other? a.kind) : a.Of other? := by
  cases h with
  | absent hwriter => exact .absent (heq ▸ hwriter)
  | refused hwriter hinput => exact .refused (heq ▸ hwriter) hinput
  | unfed hwriter hinput hclear hfeed => exact .unfed (heq ▸ hwriter) hinput hclear hfeed
  | executed hwriter hinput hclear hfeed hrun =>
    exact .executed (heq ▸ hwriter) hinput hclear hfeed hrun

/-- Attempts depend on the procedures of their own kinds only. -/
theorem Attempts.congr {writer? other? : WriteKind → Option Procedure}
    {writes : List (WriteKind × List Criterion)} {o : Outcome Unit} {as : List (Attempt β)}
    (h : Attempts writer? writes s o as s')
    (heq : ∀ kind ∈ writes.map Prod.fst, writer? kind = other? kind) :
    Attempts other? writes s o as s' where
  own := by
    intro a ha
    refine (h.own a ha).congr (heq a.kind ?_)
    have hdue : a.write ∈ due writes := h.order.subset (List.mem_map_of_mem ha)
    exact List.mem_map_of_mem (List.mem_filter.mp hdue).1
  order := h.order
  leads := h.leads
  stops := h.stops
  all := h.all
  failed := h.failed

/-- **Writes that are delayed are attempts in order**, of the procedures that there were. -/
theorem WriteAllRun.attempts {writes : List (WriteKind × List Criterion)} {o : Outcome Unit}
    (h : WriteAllRun writes m s o es m' s') (hdelay : m.delaySelect)
    (hkinds : (writes.map Prod.fst).Nodup) :
    (∃ as, Attempts m.writer? writes s o as s') ∧ SameSnapshot m m' ∧ m'.select = m.select := by
  induction h with
  | nil => exact ⟨⟨[], .nil⟩, .refl _, rfl⟩
  | @failed kind rows rest m m' s s' halt es hfirst =>
    obtain ⟨hsame, ⟨-, -, hok⟩ | ⟨hrows, x, hattempt⟩⟩ := hfirst.attempt hdelay
    · cases hok
    · exact ⟨⟨_, Attempts.last hattempt hrows rfl⟩, hsame.snapshot, hsame.select⟩
  | @cons kind rows rest m m₁ m' s s₁ s' r o es es' hfirst hrest ih =>
    obtain ⟨hsame, hattempt⟩ := hfirst.attempt hdelay
    obtain ⟨hkind, hkinds⟩ := List.nodup_cons.mp hkinds
    obtain ⟨⟨as, has⟩, hsnapshot, hselect⟩ :=
      ih (hsame.snapshot.delaySelect.trans hdelay) hkinds
    -- the write before has changed its own procedure only, and none of the others is of its kind
    have hothers := has.congr fun k hk => hsame.others k (fun heq => hkind (heq ▸ hk))
    refine ⟨?_, hsame.snapshot.trans hsnapshot, hselect.trans hsame.select⟩
    rcases hattempt with ⟨rfl, rfl, -⟩ | ⟨hrows, x, hattempt⟩
    · exact ⟨as, hothers.skip kind⟩
    · exact ⟨_, Attempts.cons hattempt hrows rfl hothers⟩

/-! ## Failing -/

theorem FetchRun.keeps_of_failed {diff : Bool} {h : Halt}
    (hrun : FetchRun m diff s (.error h) es m' s') : SameSnapshot m m' := by
  cases hrun with
  | failed hrun => exact ⟨rfl, rfl, rfl, rfl, rfl⟩

theorem AfterRun.keeps_of_failed {r : ResultSet} {h : Halt} {o : Outcome ResultSet}
    (hrun : AfterRun m r s o es m' s') (ho : o = .error h) : SameSnapshot m m' := by
  cases hrun with
  | delayed => cases ho
  | @fetch changes es m' s' hdelay hfetch =>
    cases changes with
    | ok changes => cases ho
    | error e => exact (sameButWriter_written .update m).snapshot.trans hfetch.keeps_of_failed

theorem WriteRun.keeps_of_failed {kind : WriteKind} {rows : List Criterion} {h : Halt}
    {o : Outcome ResultSet} (hrun : WriteRun m kind rows s o es m' s') (ho : o = .error h) :
    SameSnapshot m m' := by
  cases hrun with
  | nothing hrows => exact .refl m
  | absent hrows hwriter hafter => exact hafter.keeps_of_failed ho
  | refused hrows hwriter hinput => exact .refl m
  | failed hrows hwriter hinput hrun => exact (sameButWriter_withWriter kind m _).snapshot
  | done hrows hwriter hinput hrun hafter =>
    exact (sameButWriter_withWriter kind m _).snapshot.trans (hafter.keeps_of_failed ho)

theorem nodup_writesOf (d : Diff) : ((writesOf d).map Prod.fst).Nodup := by
  simp [writesOf]

/-- Until the rows are fetched a synchronization leaves the snapshot, and the flag comes back. -/
theorem SameSnapshot.restored (h : SameSnapshot m.synchronizing m') (state : ModelState) :
    SameSnapshot m { m' with delaySelect := m.delaySelect, state } :=
  ⟨h.columns, h.data, h.fetches, h.lastChanges, rfl⟩

theorem SynchronizeRun.keeps_of_failed {d : Diff} {h : Halt} {o : Outcome RowChanges}
    (hrun : SynchronizeRun m d s o es m' s') (ho : o = .error h) : SameSnapshot m m' := by
  cases hrun with
  | unwritten hwrites =>
    obtain ⟨-, hsame, -⟩ := hwrites.attempts rfl (nodup_writesOf d)
    exact hsame.restored _
  | unfetched hwrites hfetch =>
    obtain ⟨-, hsame, -⟩ := hwrites.attempts rfl (nodup_writesOf d)
    exact (hsame.restored _).trans hfetch.keeps_of_failed
  | done hwrites hfetch => cases ho

/-- **A call that fails keeps the snapshot.** -/
theorem CallRun.keeps_of_failed {call : Call} {h : Halt} {o : Outcome Unit}
    (hrun : CallRun m s call o es m' s') (ho : o = .error h) : SameSnapshot m m' := by
  -- a failure is the same whatever a success would have been made into
  have hmap {α : Type} {o : Outcome α} (ho : o.map (fun _ => ()) = .error h) : o = .error h := by
    cases o with
    | ok a => cases ho
    | error e =>
      cases ho
      rfl
  cases hrun with
  | select hfetch =>
    have ho := hmap ho
    subst ho
    exact hfetch.keeps_of_failed
  | write hwrite => exact hwrite.keeps_of_failed (hmap ho)
  | synchronize hsync => exact hsync.keeps_of_failed (hmap ho)
  | sorted hsort => cases ho
  | unsorted hsort => exact .refl m
  | delay => cases ho

/-! ## Synchronizing -/

/-- **A synchronization is attempts in order and one fetch.** The writes for which there are rows
are tried in order, each once, until one fails; if one does, nothing follows, and the failure is its
failure. If none does the procedure that fetches is executed, once and last. In any case fetching is
delayed afterwards as it was before. And **whatever is called, if it fails the snapshot stays**. -/
theorem synchronize_in_order (m : Model) (s : Session β) :
    (∀ d o m' s', (m.synchronize d).run s = ((o, m'), s') →
      m'.delaySelect = m.delaySelect ∧ ∃ written as t,
        Attempts m.writer? (writesOf d) s written as t ∧
        ((∃ h, written = .error h ∧ o = .error h ∧ m'.select = m.select ∧ s' = t) ∨
          written = .ok () ∧ ∃ r, m.select.execute.run t = ((r, m'.select), s') ∧
            o = r.map fun rows => (reconcile m.data rows.rows).2)) ∧
    ∀ call e m' s', (m.perform call).run s = ((.error (.failed e), m'), s') →
      SameSnapshot m m' := by
  constructor
  · intro d o m' s' hcall
    obtain ⟨es, hsync⟩ := synchronize_run hcall
    cases hsync with
    | unwritten hwrites =>
      -- a write failed: the model is as the attempts left it, and nothing is selected
      obtain ⟨⟨as, has⟩, -, hselect⟩ := hwrites.attempts rfl (nodup_writesOf d)
      exact ⟨rfl, _, as, s', has, .inl ⟨_, rfl, rfl, hselect, rfl⟩⟩
    | @unfetched h es es' m₁ m' s₁ s' hwrites hfetch =>
      obtain ⟨⟨as, has⟩, hsame, hselect⟩ := hwrites.attempts rfl (nodup_writesOf d)
      have hselect : m₁.select = m.select := hselect
      -- the closing select failed: what was loaded before is still there
      refine ⟨(hsame.restored m₁.state).trans hfetch.keeps_of_failed |>.delaySelect, _, as, s₁, has,
        .inr ⟨rfl, .error h, ?_, rfl⟩⟩
      cases hfetch with
      | failed hrun =>
        rw [← hselect]
        exact hrun
    | @done changes es es' m₁ m' s₁ s' hwrites hfetch =>
      obtain ⟨⟨as, has⟩, hsame, hselect⟩ := hwrites.attempts rfl (nodup_writesOf d)
      have hselect : m₁.select = m.select := hselect
      have hdata : m₁.data = m.data := hsame.data
      cases hfetch with
      | @fetched rows p m' changes s' hrun hrows =>
        -- the closing select went well: its rows are reconciled with those from before the writes
        cases hrows
        refine ⟨rfl, _, as, s₁, has, .inr ⟨rfl, .ok rows, ?_, ?_⟩⟩
        · rw [← hselect]
          exact hrun
        · rw [← hdata]
          rfl
  · intro call e m' s' hcall
    obtain ⟨es, hrun⟩ := perform_run hcall
    exact hrun.keeps_of_failed rfl

/-- A model with a row that it cannot remove. -/
def clinging : Model where
  select := .routine (.stub { name := "s" })
  update := some (.routine (.stub { name := "u", input := .criteria }))
  delete := some (.routine (.stub { name := "d", input := .criteria,
                                    runs := [{ ending := .fail (.invalidInput "held") }] }))
  columns := ["id"]
  data := [.ofPairs [("id", .int 1)]]

/-- What it is synchronized with. -/
def loosening : Diff := { update := [{}], delete := [{}], insert := [{}] }

/-- What was to be added is not, and the row is not asked for. -/
theorem synchronize_in_order_clinging : ∃ e m' s',
    (clinging.perform (.synchronize loosening)).run ({} : Session Willing) =
      ((.error (.failed e), m'), s') ∧ SameSnapshot clinging m' ∧
    ∃ o m' s', (clinging.synchronize loosening).run ({} : Session Willing) = ((o, m'), s') ∧
      ∃ written as t, Attempts clinging.writer? (writesOf loosening) ({} : Session Willing) written
        as t ∧ m'.delaySelect = false := by
  obtain ⟨hsync, hcalls⟩ := synchronize_in_order clinging ({} : Session Willing)
  obtain ⟨e, hfailed⟩ : ∃ e, ((clinging.perform (.synchronize loosening)).run
      ({} : Session Willing)).1.1 = .error (.failed e) := ⟨_, by with_unfolding_all rfl⟩
  have hcall := run_of_answer hfailed
  have hrun := run_of_answer (a := ((clinging.synchronize loosening).run
    ({} : Session Willing)).1.1) rfl
  obtain ⟨hdelay, written, as, t, has, -⟩ := hsync _ _ _ _ hrun
  exact ⟨e, _, _, hcall, hcalls _ _ _ _ hcall, _, _, _, hrun, written, as, t, has, hdelay⟩

end Model

end Tabula
