import Tabula.Model.Basic
import Tabula.Proofs.Session.RoundTrip

/-!
# Calls of a model

What a call of a model does, told as episodes: the rows were asked for, a write procedure was
executed, or a synchronization broke off. Every function of a model has one inductive that lists the
ways it can go, with the episodes of each, and one lemma that says there are no others.

* `FetchRun`, `AfterRun`, `WriteRun`, `WriteAllRun`, `SynchronizeRun`: the functions, each from
  those before it.
* `ModelCall`, `Model.perform`: what can be called, by one type.
* `CallRun`, `perform_run`: the ways a call can go.
-/

namespace Tabula

/-- The backends of a session. -/
def Session.backends {β : Type} (s : Session β) : List β := s.connections.map Connection.backend

/-- Something that happened in a call of a model. -/
inductive Episode (β : Type) where
  /-- the rows were asked for; whether they came -/
  | fetch (ok : Bool)
  /-- the procedure for a kind of writes was fed and executed; whether it succeeded, and the
  backends before and after it -/
  | write (kind : WriteKind) (ok : Bool) (before after : List β)
  /-- a synchronization broke off, behind all of its writes or in one of them -/
  | broken (written : Bool)

namespace Model

variable {β : Type} [Backend β]

/-! ## Fetching -/

/-- The ways in which fetching goes. -/
inductive FetchRun (m : Model) (diff : Bool) (s : Session β) :
    Outcome RowChanges → List (Episode β) → Model → Session β → Prop
  /-- the rows do not come -/
  | failed {h : Halt} {p : Procedure} {s' : Session β}
    (hrun : m.select.execute.run s = ((.error h, p), s')) :
    FetchRun m diff s (.error h) [.fetch false] { m with select := p } s'
  /-- the rows come, and the snapshot is replaced by them or reconciled with them -/
  | fetched {rows : ResultSet} {p : Procedure} {m' : Model} {changes : RowChanges} {s' : Session β}
    (hrun : m.select.execute.run s = ((.ok rows, p), s'))
    (hrows : (if diff then ({ m with select := p } : Model).refresh rows
      else ({ m with select := p } : Model).replace rows) = (m', changes)) :
    FetchRun m diff s (.ok changes) [.fetch true]
      { m' with state := .fresh, lastChanges := changes, fetches := m'.fetches + 1 } s'

theorem fetch_run {m m' : Model} {diff : Bool} {s s' : Session β} {o : Outcome RowChanges}
    (h : (m.fetch diff).run s = ((o, m'), s')) : ∃ es, FetchRun m diff s o es m' s' := by
  obtain ⟨⟨r, p⟩, t, hrun, h⟩ := Action.bind_eq h
  cases r with
  | error halt =>
    obtain ⟨h, rfl⟩ := Action.pure_eq h
    cases h
    exact ⟨_, .failed hrun⟩
  | ok rows =>
    obtain ⟨h, rfl⟩ := Action.pure_eq h
    cases h
    exact ⟨_, .fetched hrun rfl⟩

/-- Fetching leaves the procedures that write. -/
theorem FetchRun.writer? {m m' : Model} {diff : Bool} {s s' : Session β} {o : Outcome RowChanges}
    {es : List (Episode β)} (h : FetchRun m diff s o es m' s') (kind : WriteKind) :
    m'.writer? kind = m.writer? kind := by
  cases h with
  | failed hrun => cases kind <;> rfl
  | fetched hrun hrows =>
    cases diff <;>
    · cases hrows
      cases kind <;> rfl

/-! ## Writing -/

/-- A model after a write: dirty unless it is synchronizing. -/
def written (m : Model) : Model :=
  if m.state = .synchronizing then m else { m with state := .dirty }

/-- The ways in which it goes on after a write. -/
inductive AfterRun (m : Model) (r : ResultSet) (s : Session β) :
    Outcome ResultSet → List (Episode β) → Model → Session β → Prop
  /-- the rows are not fetched -/
  | delayed (hdelay : m.delaySelect) : AfterRun m r s (.ok r) [] m.written s
  /-- the rows are asked for -/
  | fetch {o : Outcome RowChanges} {es : List (Episode β)} {m' : Model} {s' : Session β}
    (hdelay : m.delaySelect = false) (hfetch : FetchRun m.written true s o es m' s') :
    AfterRun m r s (o.map fun _ => r) es m' s'

theorem delaySelect_written (m : Model) : m.written.delaySelect = m.delaySelect := by
  rw [written]
  split <;> rfl

theorem afterWrite_run {m m' : Model} {r : ResultSet} {s s' : Session β} {o : Outcome ResultSet}
    (h : (m.afterWrite r).run s = ((o, m'), s')) : ∃ es, AfterRun m r s o es m' s' := by
  rw [afterWrite, ← written, Action.run_ite, delaySelect_written] at h
  by_cases hdelay : m.delaySelect
  · rw [if_pos hdelay] at h
    obtain ⟨h, rfl⟩ := Action.pure_eq h
    cases h
    exact ⟨[], .delayed hdelay⟩
  · rw [if_neg hdelay] at h
    obtain ⟨⟨changes, m₁⟩, t, hfetch, h⟩ := Action.bind_eq h
    obtain ⟨h, rfl⟩ := Action.pure_eq h
    cases h
    obtain ⟨es, hfetch⟩ := fetch_run hfetch
    exact ⟨es, .fetch (by simpa using hdelay) hfetch⟩

/-- The ways in which a write goes. -/
inductive WriteRun (m : Model) (kind : WriteKind) (rows : List Criterion) (s : Session β) :
    Outcome ResultSet → List (Episode β) → Model → Session β → Prop
  /-- there is nothing to write -/
  | nothing (hrows : rows = []) : WriteRun m kind rows s (.ok {}) [] m s
  /-- there is no procedure, and one that does nothing stands in for it -/
  | absent {o : Outcome ResultSet} {es : List (Episode β)} {m' : Model} {s' : Session β}
    (hrows : rows ≠ []) (hwriter : m.writer? kind = none) (hafter : AfterRun m {} s o es m' s') :
    WriteRun m kind rows s o (.write kind true s.backends s.backends :: es) m' s'
  /-- the procedure takes no input -/
  | refused {p : Procedure} {text : String} (hrows : rows ≠ []) (hwriter : m.writer? kind = some p)
    (hinput : p.info.input = .none) : WriteRun m kind rows s (failWith (.invalidInput text)) [] m s
  /-- the procedure fails -/
  | failed {p p' : Procedure} {h : Halt} {s' : Session β} (hrows : rows ≠ [])
    (hwriter : m.writer? kind = some p) (hinput : p.info.input ≠ .none)
    (hrun : (runWriter p rows).run s = ((.error h, p'), s')) :
    WriteRun m kind rows s (.error h) [.write kind false s.backends s'.backends]
      (m.withWriter p' kind) s'
  /-- the procedure succeeds -/
  | done {p p' : Procedure} {r : ResultSet} {o : Outcome ResultSet} {es : List (Episode β)}
    {m' : Model} {t s' : Session β} (hrows : rows ≠ []) (hwriter : m.writer? kind = some p)
    (hinput : p.info.input ≠ .none) (hrun : (runWriter p rows).run s = ((.ok r, p'), t))
    (hafter : AfterRun (m.withWriter p' kind) r t o es m' s') :
    WriteRun m kind rows s o (.write kind true s.backends t.backends :: es) m' s'

theorem write_run {m m' : Model} {kind : WriteKind} {rows : List Criterion} {s s' : Session β}
    {o : Outcome ResultSet} (h : (m.write kind rows).run s = ((o, m'), s')) :
    ∃ es, WriteRun m kind rows s o es m' s' := by
  rw [write, Action.run_ite] at h
  by_cases hrows : rows = []
  · rw [if_pos (List.isEmpty_iff.mpr hrows)] at h
    obtain ⟨h, rfl⟩ := Action.pure_eq h
    cases h
    exact ⟨[], .nothing hrows⟩
  · rw [if_neg (fun hempty => hrows (List.isEmpty_iff.mp hempty))] at h
    rcases hwriter : m.writer? kind with _ | p
    · rw [hwriter] at h
      obtain ⟨es, hafter⟩ := afterWrite_run h
      exact ⟨_, .absent hrows hwriter hafter⟩
    · rw [hwriter] at h
      simp only [Action.run_ite] at h
      by_cases hinput : p.info.input = .none
      · rw [if_pos hinput] at h
        obtain ⟨h, rfl⟩ := Action.pure_eq h
        cases h
        exact ⟨[], .refused hrows hwriter hinput⟩
      · rw [if_neg hinput] at h
        obtain ⟨⟨r, p'⟩, t, hrun, h⟩ := Action.bind_eq h
        cases r with
        | error halt =>
          obtain ⟨h, rfl⟩ := Action.pure_eq h
          cases h
          exact ⟨_, .failed hrows hwriter hinput hrun⟩
        | ok r =>
          obtain ⟨es, hafter⟩ := afterWrite_run h
          exact ⟨_, .done hrows hwriter hinput hrun hafter⟩

/-- The ways in which some writes in order go. -/
inductive WriteAllRun : List (WriteKind × List Criterion) → Model → Session β →
    Outcome Unit → List (Episode β) → Model → Session β → Prop
  /-- there are none -/
  | nil {m : Model} {s : Session β} : WriteAllRun [] m s (.ok ()) [] m s
  /-- the first one fails -/
  | failed {kind : WriteKind} {rows : List Criterion} {rest : List (WriteKind × List Criterion)}
    {m m' : Model} {s s' : Session β} {h : Halt} {es : List (Episode β)}
    (hfirst : WriteRun m kind rows s (.error h) es m' s') :
    WriteAllRun ((kind, rows) :: rest) m s (.error h) es m' s'
  /-- the first one succeeds -/
  | cons {kind : WriteKind} {rows : List Criterion} {rest : List (WriteKind × List Criterion)}
    {m m₁ m' : Model} {s s₁ s' : Session β} {r : ResultSet} {o : Outcome Unit}
    {es es' : List (Episode β)} (hfirst : WriteRun m kind rows s (.ok r) es m₁ s₁)
    (hrest : WriteAllRun rest m₁ s₁ o es' m' s') :
    WriteAllRun ((kind, rows) :: rest) m s o (es ++ es') m' s'

theorem writeAll_run {writes : List (WriteKind × List Criterion)} {m m' : Model} {s s' : Session β}
    {o : Outcome Unit} (h : (writeAll writes m).run s = ((o, m'), s')) :
    ∃ es, WriteAllRun writes m s o es m' s' := by
  induction writes generalizing m s with
  | nil =>
    obtain ⟨h, rfl⟩ := Action.pure_eq h
    cases h
    exact ⟨[], .nil⟩
  | cons write rest ih =>
    obtain ⟨kind, rows⟩ := write
    obtain ⟨⟨r, m₁⟩, t, hfirst, h⟩ := Action.bind_eq h
    obtain ⟨es, hfirst⟩ := write_run hfirst
    cases r with
    | error halt =>
      obtain ⟨h, rfl⟩ := Action.pure_eq h
      cases h
      exact ⟨es, .failed hfirst⟩
    | ok r =>
      obtain ⟨es', hrest⟩ := ih h
      exact ⟨es ++ es', .cons hfirst hrest⟩

/-! ## Synchronizing -/

/-- The model in which the writes of a synchronization are done. -/
def synchronizing (m : Model) : Model := { m with delaySelect := true, state := .synchronizing }

/-- The writes of a synchronization. -/
def writesOf (d : Diff) : List (WriteKind × List Criterion) :=
  [(.update, d.update), (.delete, d.delete), (.insert, d.insert)]

/-- The ways in which a synchronization goes. -/
inductive SynchronizeRun (m : Model) (d : Diff) (s : Session β) :
    Outcome RowChanges → List (Episode β) → Model → Session β → Prop
  /-- it breaks off in a write -/
  | unwritten {h : Halt} {es : List (Episode β)} {m' : Model} {s' : Session β}
    (hwrites : WriteAllRun (writesOf d) m.synchronizing s (.error h) es m' s') :
    SynchronizeRun m d s (.error h) (es ++ [.broken false])
      { m' with delaySelect := m.delaySelect, state := .dirty } s'
  /-- it breaks off behind its writes -/
  | unfetched {h : Halt} {es es' : List (Episode β)} {m₁ m' : Model} {s₁ s' : Session β}
    (hwrites : WriteAllRun (writesOf d) m.synchronizing s (.ok ()) es m₁ s₁)
    (hfetch : FetchRun { m₁ with delaySelect := m.delaySelect } true s₁ (.error h) es' m' s') :
    SynchronizeRun m d s (.error h) (es ++ es' ++ [.broken true]) m' s'
  /-- all is written, and the rows come -/
  | done {changes : RowChanges} {es es' : List (Episode β)} {m₁ m' : Model} {s₁ s' : Session β}
    (hwrites : WriteAllRun (writesOf d) m.synchronizing s (.ok ()) es m₁ s₁)
    (hfetch : FetchRun { m₁ with delaySelect := m.delaySelect } true s₁ (.ok changes) es' m' s') :
    SynchronizeRun m d s (.ok changes) (es ++ es') m' s'

theorem synchronize_run {m m' : Model} {d : Diff} {s s' : Session β} {o : Outcome RowChanges}
    (h : (m.synchronize d).run s = ((o, m'), s')) : ∃ es, SynchronizeRun m d s o es m' s' := by
  obtain ⟨⟨r, m₁⟩, t, hwrites, h⟩ := Action.bind_eq h
  obtain ⟨es, hwrites⟩ := writeAll_run hwrites
  cases r with
  | error halt =>
    obtain ⟨h, rfl⟩ := Action.pure_eq h
    cases h
    exact ⟨_, .unwritten hwrites⟩
  | ok u =>
    obtain ⟨es', hfetch⟩ := fetch_run h
    cases o with
    | error halt => exact ⟨_, .unfetched hwrites hfetch⟩
    | ok changes => exact ⟨_, .done hwrites hfetch⟩

/-! ## Calls -/

/-- What can be called on a model. -/
inductive Call where
  /-- to fetch the rows, and to replace the snapshot by them or to reconcile it with them -/
  | select (diff : Bool)
  /-- to write rows -/
  | write (kind : WriteKind) (rows : List Criterion)
  /-- to change, remove and add rows -/
  | synchronize (d : Diff)
  /-- to put the rows in order -/
  | sort (keys : List SortKey)
  /-- to delay fetching after writes from now on, or not to -/
  | delay (on : Bool)

/-- Does something and says whether it is an error that comes back. -/
def answered {α : Type} (x : Action β (Outcome α × Model)) : Action β (Outcome Unit × Model) := do
  let (o, m) ← x
  return (o.map fun _ => (), m)

/-- Does what is called. -/
def perform (m : Model) : Call → Action β (Outcome Unit × Model)
  | .select diff => answered (m.fetch diff)
  | .write kind rows => answered (m.write kind rows)
  | .synchronize d => answered (m.synchronize d)
  | .sort keys =>
    match m.sort keys with
    | .ok m => return (.ok (), m)
    | .error e => return (failWith e, m)
  | .delay on => return (.ok (), { m with delaySelect := on })

/-- The ways in which a call goes. -/
inductive CallRun (m : Model) (s : Session β) :
    Call → Outcome Unit → List (Episode β) → Model → Session β → Prop
  /-- the rows are fetched -/
  | select {diff : Bool} {o : Outcome RowChanges} {es : List (Episode β)} {m' : Model}
    {s' : Session β} (h : FetchRun m diff s o es m' s') :
    CallRun m s (.select diff) (o.map fun _ => ()) es m' s'
  /-- rows are written -/
  | write {kind : WriteKind} {rows : List Criterion} {o : Outcome ResultSet}
    {es : List (Episode β)} {m' : Model} {s' : Session β} (h : WriteRun m kind rows s o es m' s') :
    CallRun m s (.write kind rows) (o.map fun _ => ()) es m' s'
  /-- rows are changed, removed and added -/
  | synchronize {d : Diff} {o : Outcome RowChanges} {es : List (Episode β)} {m' : Model}
    {s' : Session β} (h : SynchronizeRun m d s o es m' s') :
    CallRun m s (.synchronize d) (o.map fun _ => ()) es m' s'
  /-- the rows are put in order -/
  | sorted {keys : List SortKey} {m' : Model} (h : m.sort keys = .ok m') :
    CallRun m s (.sort keys) (.ok ()) [] m' s
  /-- a column to sort by is missing -/
  | unsorted {keys : List SortKey} {e : Error} (h : m.sort keys = .error e) :
    CallRun m s (.sort keys) (failWith e) [] m s
  /-- fetching is delayed, or not -/
  | delay {on : Bool} : CallRun m s (.delay on) (.ok ()) [] { m with delaySelect := on } s

omit [Backend β] in
theorem answered_run {α : Type} {x : Action β (Outcome α × Model)} {m' : Model} {s s' : Session β}
    {o' : Outcome Unit} (h : (answered x).run s = ((o', m'), s')) :
    ∃ o, x.run s = ((o, m'), s') ∧ o' = o.map fun _ => () := by
  obtain ⟨⟨o, m₁⟩, t, hrun, h⟩ := Action.bind_eq h
  obtain ⟨h, rfl⟩ := Action.pure_eq h
  cases h
  exact ⟨o, hrun, rfl⟩

/-- **What is called goes in one of these ways.** -/
theorem perform_run {m m' : Model} {call : Call} {s s' : Session β} {o : Outcome Unit}
    (h : (m.perform call).run s = ((o, m'), s')) : ∃ es, CallRun m s call o es m' s' := by
  cases call with
  | select diff =>
    obtain ⟨o, hrun, rfl⟩ := answered_run h
    obtain ⟨es, hrun⟩ := fetch_run hrun
    exact ⟨es, .select hrun⟩
  | write kind rows =>
    obtain ⟨o, hrun, rfl⟩ := answered_run h
    obtain ⟨es, hrun⟩ := write_run hrun
    exact ⟨es, .write hrun⟩
  | synchronize d =>
    obtain ⟨o, hrun, rfl⟩ := answered_run h
    obtain ⟨es, hrun⟩ := synchronize_run hrun
    exact ⟨es, .synchronize hrun⟩
  | sort keys =>
    rw [perform] at h
    rcases hsort : m.sort keys with e | m₁
    · rw [hsort] at h
      obtain ⟨h, rfl⟩ := Action.pure_eq h
      cases h
      exact ⟨[], .unsorted hsort⟩
    · rw [hsort] at h
      obtain ⟨h, rfl⟩ := Action.pure_eq h
      cases h
      exact ⟨[], .sorted hsort⟩
  | delay on =>
    obtain ⟨h, rfl⟩ := Action.pure_eq h
    cases h
    exact ⟨[], .delay⟩

/-- A write goes as its procedure fails. -/
theorem perform_write_failed {m : Model} {kind : WriteKind} {rows : List Criterion}
    {s s' : Session β} {p p' : Procedure} {h : Halt} (hrows : rows ≠ [])
    (hwriter : m.writer? kind = some p) (hinput : p.info.input ≠ .none)
    (hrun : (runWriter p rows).run s = ((.error h, p'), s')) :
    (m.perform (.write kind rows)).run s = ((.error h, m.withWriter p' kind), s') := by
  have hwrite : (m.write kind rows).run s = ((.error h, m.withWriter p' kind), s') := by
    rw [write, Action.run_ite, if_neg (fun hempty => hrows (List.isEmpty_iff.mp hempty)), hwriter]
    simp only [if_neg hinput]
    rw [Action.run_bind _ hrun]
    rfl
  rw [perform, answered, Action.run_bind _ hwrite]
  rfl

end Model

end Tabula
