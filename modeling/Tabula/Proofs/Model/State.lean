import Tabula.Proofs.History
import Tabula.Proofs.Model.Call
import Tabula.Proofs.Succeeding
import Tabula.Sqlite.Database

/-!
# The state of a model

The state of a model is determined by the episodes of its calls: each episode makes another state of
it, or leaves it. So what a state says of the past is read off from the episodes, however many calls
there were and whatever the procedures did in them.

* `Lived`: models with everything that happened to them.
* `Lived.state_eq`: the state as a fold over the episodes.
* `Lived.unseen_of_fresh`: which writes a fresh model has not seen.
* `Lived.at_rest_iff`: when a model is left synchronizing.
-/

namespace Tabula

open Model

namespace Episode

variable {β : Type} {p q : Episode β → Prop} {es : List (Episode β)}

/-! ## The last of some episodes -/

/-- There is an episode of one kind, and behind it there are episodes of another kind only. -/
def Since (p q : Episode β → Prop) (es : List (Episode β)) : Prop :=
  ∃ before e since, es = before ++ e :: since ∧ p e ∧ ∀ x ∈ since, q x

theorem Since.imp {p' q' : Episode β → Prop} (h : Since p q es) (hp : ∀ e, p e → p' e)
    (hq : ∀ e, q e → q' e) : Since p' q' es :=
  EndsIn.imp h hp hq

theorem not_since_nil : ¬Since p q [] := not_endsIn_nil

theorem since_append_singleton {e : Episode β} :
    Since p q (es ++ [e]) ↔ p e ∨ (Since p q es ∧ q e) :=
  endsIn_concat

/-! ## What an episode says -/

/-- A write procedure was executed, and a backend is not as it was before. -/
def HasEffect : Episode β → Prop
  | .write _ _ before after => after ≠ before
  | _ => False

/-- A write procedure failed, and a backend is not as it was before. -/
def HasFailedEffect : Episode β → Prop
  | .write _ false before after => after ≠ before
  | _ => False

/-- Something was tried and failed: to fetch the rows, or to write some. -/
def IsFailure : Episode β → Prop
  | .fetch ok => ok = false
  | .write _ ok _ _ => ok = false
  | .broken _ => False

/-- Some write procedure has had an effect since the rows were fetched last. -/
def Unseen (es : List (Episode β)) : Prop := Since HasEffect (· ≠ .fetch true) es

/-- Some synchronization has broken off since the rows were fetched last. -/
def Broken (es : List (Episode β)) : Prop :=
  Since (fun e => ∃ written, e = .broken written) (· ≠ .fetch true) es

/-- The last of these is a synchronization that broke off behind its writes: the fetches that
succeeded, and the synchronizations that broke off. -/
def Stranded (es : List (Episode β)) : Prop :=
  Since (· = .broken true) (fun e => e ≠ .fetch true ∧ e ≠ .broken false) es

theorem Stranded.broken (h : Stranded es) : Broken es :=
  h.imp (fun _ he => ⟨true, he⟩) fun _ he => he.1

end Episode

open Episode

/-! ## The state after episodes -/

variable {β : Type}

/-- The state after an episode. -/
def ModelState.after (state : ModelState) : Episode β → ModelState
  | .fetch ok => if ok then .fresh else state
  | .write _ ok _ _ => if ok ∧ state ≠ .synchronizing then .dirty else state
  | .broken written => if written then .synchronizing else .dirty

/-- The state after some episodes, beginning with a model that has not fetched its rows. -/
def ModelState.afterAll (es : List (Episode β)) : ModelState := es.foldl ModelState.after .dirty

theorem ModelState.afterAll_append_singleton (es : List (Episode β)) (e : Episode β) :
    ModelState.afterAll (es ++ [e]) = (ModelState.afterAll es).after e :=
  List.foldl_append

/-- After episodes the state is synchronizing if a synchronization has been stranded. -/
theorem afterAll_eq_synchronizing {es : List (Episode β)} :
    ModelState.afterAll es = .synchronizing ↔ Stranded es := by
  induction es using List.reverseRecOn with
  | nil => simp [ModelState.afterAll, Stranded, not_since_nil]
  | append_singleton es e ih =>
    rw [ModelState.afterAll_append_singleton, Stranded, since_append_singleton, ← Stranded, ← ih]
    cases e with
    | fetch ok => cases ok <;> simp [ModelState.after]
    | write kind ok before after =>
      cases ok
      · simp [ModelState.after]
      · by_cases hstate : ModelState.afterAll es = .synchronizing <;>
          simp [ModelState.after, hstate]
    | broken written => cases written <;> simp [ModelState.after]

/-- After episodes the state is fresh if nothing has succeeded and nothing has broken off since the
rows were fetched. -/
theorem afterAll_eq_fresh {es : List (Episode β)} :
    ModelState.afterAll es = .fresh ↔ Since (· = .fetch true) IsFailure es := by
  induction es using List.reverseRecOn with
  | nil => simp [ModelState.afterAll, not_since_nil]
  | append_singleton es e ih =>
    rw [ModelState.afterAll_append_singleton, since_append_singleton, ← ih]
    cases e with
    | fetch ok => cases ok <;> simp [ModelState.after, IsFailure]
    | write kind ok before after =>
      cases ok
      · simp [ModelState.after, IsFailure]
      · by_cases hstate : ModelState.afterAll es = .synchronizing <;>
          simp [ModelState.after, IsFailure, hstate]
    | broken written => cases written <;> simp [ModelState.after, IsFailure]

/-- What a fresh model has not seen are effects of write procedures that failed. -/
theorem unseen_iff_of_afterAll {es : List (Episode β)} (h : ModelState.afterAll es = .fresh) :
    Unseen es ↔ Since HasFailedEffect (· ≠ .fetch true) es := by
  induction es using List.reverseRecOn with
  | nil => simp [Unseen, not_since_nil]
  | append_singleton es e ih =>
    rw [ModelState.afterAll_append_singleton] at h
    rw [Unseen, since_append_singleton, since_append_singleton, ← Unseen]
    cases e with
    -- a successful selection shows everything, a failed one nothing
    | fetch ok =>
      cases ok
      · rw [ih (by simpa [ModelState.after] using h)]
        simp [HasEffect, HasFailedEffect]
      · simp [HasEffect, HasFailedEffect]
    | write kind ok before after =>
      cases ok
      · rw [ih (by simpa [ModelState.after] using h)]
        simp [HasEffect, HasFailedEffect]
      · -- a successful write does not leave the model fresh
        by_cases hstate : ModelState.afterAll es = .synchronizing <;>
          simp [ModelState.after, hstate] at h
    | broken written => cases written <;> simp [ModelState.after] at h

/-! ## The state after a call -/

variable [Backend β]

namespace Model

variable {m m' : Model} {s s' : Session β} {es : List (Episode β)}

theorem FetchRun.state {diff : Bool} {o : Outcome RowChanges}
    (h : FetchRun m diff s o es m' s') : m'.state = es.foldl ModelState.after m.state := by
  cases h <;> rfl

omit [Backend β] in
theorem state_written (kind : WriteKind) (before after : List β) (m : Model) :
    m.written.state = m.state.after (.write kind true before after) := by
  rw [written]
  by_cases hstate : m.state = .synchronizing <;> simp [ModelState.after, hstate]

theorem state_withWriter (m : Model) (p : Procedure) (kind : WriteKind) :
    (m.withWriter p kind).state = m.state := by
  cases kind <;> rfl

theorem delaySelect_withWriter (m : Model) (p : Procedure) (kind : WriteKind) :
    (m.withWriter p kind).delaySelect = m.delaySelect := by
  cases kind <;> rfl

theorem AfterRun.state {r : ResultSet} {o : Outcome ResultSet} (h : AfterRun m r s o es m' s') :
    m'.state = es.foldl ModelState.after m.written.state := by
  cases h with
  | delayed hdelay => rfl
  | fetch hdelay hfetch => exact hfetch.state

theorem WriteRun.state {kind : WriteKind} {rows : List Criterion} {o : Outcome ResultSet}
    (h : WriteRun m kind rows s o es m' s') : m'.state = es.foldl ModelState.after m.state := by
  cases h with
  | nothing hrows => rfl
  | absent hrows hwriter hafter =>
    rw [hafter.state, List.foldl_cons, ← state_written]
  | refused hrows hwriter hinput => rfl
  | failed hrows hwriter hinput hrun => exact state_withWriter _ _ _
  | done hrows hwriter hinput hrun hafter =>
    rw [hafter.state, List.foldl_cons, state_written kind s.backends, state_withWriter]

/-- A write that is delayed fetches nothing: if it succeeds the model is dirty, unless it is
synchronizing. -/
theorem WriteRun.delayed {kind : WriteKind} {rows : List Criterion} {o : Outcome ResultSet}
    (h : WriteRun m kind rows s o es m' s') (hdelay : m.delaySelect) :
    m'.delaySelect ∧ (m'.state = m.state ∨ m'.state = m.written.state) := by
  have hafter {m₁ : Model} {r : ResultSet} {t : Session β} {o : Outcome ResultSet}
      {es : List (Episode β)} (hdelay : m₁.delaySelect) (h : AfterRun m₁ r t o es m' s') :
      m' = m₁.written := by
    -- with reloading put off nothing is selected after the write
    cases h with
    | delayed => rfl
    | fetch hnow => rw [hnow] at hdelay; cases hdelay
  cases h with
  | nothing hrows => exact ⟨hdelay, .inl rfl⟩
  | absent hrows hwriter h =>
    rw [hafter hdelay h, delaySelect_written]
    exact ⟨hdelay, .inr rfl⟩
  | refused hrows hwriter hinput => exact ⟨hdelay, .inl rfl⟩
  | failed hrows hwriter hinput hrun =>
    rw [delaySelect_withWriter, state_withWriter]
    exact ⟨hdelay, .inl rfl⟩
  | @done p p' r o es m' t s' hrows hwriter hinput hrun h =>
    rw [hafter (by rw [delaySelect_withWriter]; exact hdelay) h, delaySelect_written,
      delaySelect_withWriter, state_written kind s.backends t.backends, state_withWriter,
      ← state_written]
    exact ⟨hdelay, .inr rfl⟩

theorem WriteAllRun.synchronizing {writes : List (WriteKind × List Criterion)} {o : Outcome Unit}
    (h : WriteAllRun writes m s o es m' s') (hdelay : m.delaySelect)
    (hstate : m.state = .synchronizing) : m'.state = .synchronizing := by
  have hwritten {m : Model} (hstate : m.state = .synchronizing) :
      m.written.state = .synchronizing := by rw [written, if_pos hstate, hstate]
  induction h with
  | nil => exact hstate
  | failed hfirst =>
    rcases (hfirst.delayed hdelay).2 with h | h
    · rw [h, hstate]
    · rw [h, hwritten hstate]
  | cons hfirst hrest ih =>
    obtain ⟨hdelay₁, hstate₁⟩ := hfirst.delayed hdelay
    refine ih hdelay₁ ?_
    rcases hstate₁ with h | h
    · rw [h, hstate]
    · rw [h, hwritten hstate]

theorem SynchronizeRun.state {d : Diff} {o : Outcome RowChanges}
    (h : SynchronizeRun m d s o es m' s') : m'.state = es.foldl ModelState.after m.state := by
  cases h with
  | unwritten hwrites =>
    rw [List.foldl_append]
    rfl
  | unfetched hwrites hfetch =>
    rw [List.foldl_append]
    have hstate := hwrites.synchronizing rfl rfl
    cases hfetch with
    | failed hrun => exact hstate
  | done hwrites hfetch =>
    rw [List.foldl_append]
    cases hfetch with
    | fetched hrun hrows => rfl

theorem CallRun.state {call : Call} {o : Outcome Unit} (h : CallRun m s call o es m' s') :
    m'.state = es.foldl ModelState.after m.state := by
  cases h with
  | select h => exact h.state
  | write h => exact h.state
  | synchronize h => exact h.state
  | sorted h =>
    rw [sort] at h
    split at h <;> cases h
    rfl
  | unsorted h => rfl
  | delay => rfl

/-- A model that was built and called, with everything that happened to it. What is called returns;
in between, other things may be done in the session. -/
inductive Lived : List (Episode β) → Model → Session β → Prop where
  /-- it is built -/
  | built {m₀ m : Model} {s₀ s : Session β} {changes : RowChanges}
    (hrun : m₀.build.run s₀ = ((.ok changes, m), s)) : Lived [.fetch true] m s
  /-- something is called on it -/
  | called {es es' : List (Episode β)} {m m' : Model} {s s' : Session β} {call : Call}
    {o : Outcome Unit} (h : Lived es m s) (hrun : (m.perform call).run s = ((o, m'), s'))
    (hreturns : o ≠ .error .stuck) (hcall : CallRun m s call o es' m' s') :
    Lived (es ++ es') m' s'
  /-- something else is done -/
  | elsewhere {es : List (Episode β)} {m : Model} {s : Session β} (h : Lived es m s)
    (s' : Session β) : Lived es m s'

/-- Every call that returns goes on. -/
theorem Lived.exists_called (h : Lived es m s) {call : Call} {o : Outcome Unit}
    (hrun : (m.perform call).run s = ((o, m'), s')) (hreturns : o ≠ .error .stuck) :
    ∃ es', CallRun m s call o es' m' s' ∧ Lived (es ++ es') m' s' := by
  obtain ⟨es', hcall⟩ := perform_run hrun
  exact ⟨es', hcall, .called h hrun hreturns hcall⟩

/-- **The state is determined by what happened.** -/
theorem Lived.state_eq (h : Lived es m s) : m.state = ModelState.afterAll es := by
  induction h with
  | built hrun =>
    obtain ⟨es, hfetch⟩ := fetch_run hrun
    cases hfetch with
    | fetched hrun hrows => rfl
  | called h hrun hreturns hcall ih =>
    rw [hcall.state, ih, ModelState.afterAll, ModelState.afterAll, List.foldl_append]
  | elsewhere h s' ih => exact ih

/-! ## What a fresh model has not seen -/

/-- **A fresh model has not seen what failing writes have left behind.** Since its rows were fetched
last nothing has succeeded in it: fetches and write procedures have failed, and no synchronization
has broken off. So no write procedure has had an effect since then if none that failed has had
one. -/
theorem Lived.unseen_of_fresh (h : Lived es m s) (hfresh : m.state = .fresh) :
    Since (· = .fetch true) IsFailure es ∧
      (Unseen es ↔ Since HasFailedEffect (· ≠ .fetch true) es) := by
  rw [h.state_eq] at hfresh
  exact ⟨afterAll_eq_fresh.mp hfresh, unseen_iff_of_afterAll hfresh⟩

/-- Two rows under one key, for a statement that is run for one after the other. -/
def twins : List Criterion :=
  [(({} : Criterion).withValue "id" (.int 1)).withValue "n" (.int 1),
    (({} : Criterion).withValue "id" (.int 1)).withValue "n" (.int 2)]

/-- What adds them. -/
def inserter : Procedure := .routine (.prepared
  { connection := some 0, sql := "INSERT INTO t (id, n) VALUES (:id, :n)", type := .insert })

/-- A model of a table. -/
def tabled : Model where
  select := .routine (.query { connection := some 0, sql := "SELECT * FROM t" })
  insert := some inserter

/-- The table, without rows. -/
def emptyTable : Sqlite.Table where
  name := "t"
  columns := [{ name := "id", isKey := true }, { name := "n" }]

/-- A connection to the database. -/
def connected : Session Sqlite.Memory where
  connections := [{ backend := { driver := { tables := [emptyTable] } } }]

/-- Something failed. -/
def hasFailed {α : Type} : Outcome α → Bool
  | .error (.failed _) => true
  | _ => false

/-- How many rows the tables of some databases have. -/
def rowCounts (bs : List Sqlite.Memory) : List (List Nat) :=
  bs.map fun b => b.driver.tables.map fun t => t.records.length

/-- The model after it was built, and its session. -/
def opened : Model × Session Sqlite.Memory :=
  ((tabled.build.run connected).1.2, (tabled.build.run connected).2)

theorem lived_opened : Lived [.fetch true] opened.1 opened.2 := by
  have hok : (tabled.build.run connected).1.1.isOk := by decide +kernel
  obtain ⟨changes, hchanges⟩ := exists_of_isOk hok
  exact .built (run_of_answer hchanges)

/-- The second row is refused, and the first one stays. -/
theorem runWriter_twins : ∃ e p s,
    (runWriter inserter twins).run opened.2 = ((.error (.failed e), p), s) ∧
      rowCounts opened.2.backends = [[0]] ∧ rowCounts s.backends = [[1]] := by
  have hfails : hasFailed ((runWriter inserter twins).run opened.2).1.1 := by decide +kernel
  rcases hfailed : ((runWriter inserter twins).run opened.2).1.1 with (e | _) | r
  · refine ⟨e, _, _, run_of_answer hfailed, ?_, ?_⟩ <;> decide +kernel
  · rw [hfailed] at hfails
    cases hfails
  · rw [hfailed] at hfails
    cases hfails

/-- The model to which they were to be added. -/
theorem lived_twins : ∃ e m s before after,
    (opened.1.perform (.write .insert twins)).run opened.2 = ((.error (.failed e), m), s) ∧
      Lived ([.fetch true] ++ [.write .insert false before after]) m s ∧ m.state = .fresh ∧
      rowCounts before = [[0]] ∧ rowCounts after = [[1]] := by
  obtain ⟨e, p, s, hrun, hbefore, hafter⟩ := runWriter_twins
  have hwriter : opened.1.writer? .insert = some inserter := by
    have hrun : (tabled.fetch false).run connected =
        (((tabled.build.run connected).1.1, opened.1), opened.2) := rfl
    obtain ⟨es, hfetch⟩ := fetch_run hrun
    exact hfetch.writer? .insert
  have hrows : twins ≠ [] := by simp [twins]
  have hinput : inserter.info.input ≠ .none := by decide
  have hperform := perform_write_failed hrows hwriter hinput hrun
  have hlived := lived_opened.called hperform nofun (.write (.failed hrows hwriter hinput hrun))
  refine ⟨e, _, _, _, _, hperform, hlived, ?_, hbefore, hafter⟩
  rw [state_withWriter]
  decide +kernel

/-- What is said of it. -/
theorem Lived.unseen_of_fresh_twins : ∃ es e m s,
    (opened.1.perform (.write .insert twins)).run opened.2 = ((.error (.failed e), m), s) ∧
      Lived es m s ∧ m.state = .fresh ∧ Since (· = .fetch true) IsFailure es ∧
      (Unseen es ↔ Since HasFailedEffect (· ≠ .fetch true) es) := by
  obtain ⟨e, m, s, before, after, hperform, hlived, hfresh, -, -⟩ := lived_twins
  exact ⟨_, e, m, s, hperform, hlived, hfresh, hlived.unseen_of_fresh hfresh⟩

/-- It is fresh, and one of the rows is there. -/
theorem Lived.fresh_unseen_twins : ∃ es e m s,
    (opened.1.perform (.write .insert twins)).run opened.2 = ((.error (.failed e), m), s) ∧
      Lived es m s ∧ m.state = .fresh ∧ Unseen es := by
  obtain ⟨e, m, s, before, after, hperform, hlived, hfresh, hbefore, hafter⟩ := lived_twins
  refine ⟨_, e, m, s, hperform, hlived, hfresh, [.fetch true], _, [], rfl, ?_, by simp⟩
  intro heq
  rw [heq, hbefore] at hafter
  cases hafter

/-! ## When a model is left synchronizing -/

theorem Lived.not_fresh_of_broken (h : Lived es m s) (hbroken : Broken es) : m.state ≠ .fresh := by
  rw [h.state_eq]
  clear h
  induction es using List.reverseRecOn with
  | nil => exact absurd hbroken not_since_nil
  | append_singleton es e ih =>
    rw [Broken, since_append_singleton, ← Broken] at hbroken
    rw [ModelState.afterAll_append_singleton]
    rcases hbroken with ⟨written, rfl⟩ | ⟨hbroken, he⟩
    · cases written <;> simp [ModelState.after]
    · -- a selection may have failed, which leaves the state alone
      cases e with
      | fetch ok =>
        cases ok
        · simpa [ModelState.after] using ih hbroken
        · exact absurd rfl he
      | write kind ok before after =>
        rw [ModelState.after]
        split
        · simp
        · exact ih hbroken
      | broken written => cases written <;> simp [ModelState.after]

/-- **A model is at rest unless a synchronization has been stranded**, that is, unless its writes
were done and its rows did not come, and since then no rows came and no synchronization broke off in
a write. A write that is delayed, behind a synchronization that broke off, leaves the model dirty
under the same condition. -/
theorem Lived.at_rest_iff (h : Lived es m s) :
    (m.state = .fresh ∨ m.state = .dirty ↔ ¬Stranded es) ∧
      ∀ kind rows o m' s', m.delaySelect → Broken es → (m.write kind rows).run s = ((o, m'), s') →
        (m'.state = .dirty ↔ ¬Stranded es) := by
  have hrest : ¬Stranded es ↔ m.state ≠ .synchronizing := by
    rw [h.state_eq, ne_eq, afterAll_eq_synchronizing]
  constructor
  · rw [hrest]
    cases m.state <;> simp
  · intro kind rows o m' s' hdelay hbroken hrun
    have hfresh := h.not_fresh_of_broken hbroken
    obtain ⟨es', hwrite⟩ := write_run hrun
    rw [hrest]
    -- the write left the state as it was, or marked it as written
    rcases (hwrite.delayed hdelay).2 with hstate | hstate
    · rw [hstate]
      cases hm : m.state <;> simp_all
    · rw [hstate, written]
      split <;> simp_all

/-- A model whose rows come once and not again. -/
def halting : Model where
  select := .routine
    (.stub { name := "s", runs := [{}, { ending := .fail (.invalidInput "down") }] })
  insert := some (.routine (.stub { name := "i", input := .criteria }))

/-- The model after it was built and delayed. -/
def halted : Model := { (halting.build.run ({} : Session Willing)).1.2 with delaySelect := true }

/-- What comes of synchronizing it then, without anything to write. -/
def stranded : (Outcome Unit × Model) × Session Willing :=
  (halted.perform (.synchronize {})).run (halting.build.run {}).2

/-- It is left synchronizing. -/
theorem lived_stranded : ∃ es, Lived es stranded.1.2 stranded.2 ∧ Stranded es ∧
    stranded.1.2.state = .synchronizing := by
  obtain ⟨changes, hbuilt⟩ :
      ∃ changes, (halting.build.run ({} : Session Willing)).1.1 = .ok changes :=
    ⟨_, by with_unfolding_all rfl⟩
  have hdelayed : ((halting.build.run ({} : Session Willing)).1.2.perform (.delay true)).run
      (halting.build.run ({} : Session Willing)).2 = ((.ok (), halted), (halting.build.run {}).2) :=
    rfl
  obtain ⟨e, hfailed⟩ : ∃ e, stranded.1.1 = .error (.failed e) := ⟨_, by with_unfolding_all rfl⟩
  obtain ⟨_, -, hlived⟩ := (Lived.built (run_of_answer hbuilt)).exists_called hdelayed nofun
  obtain ⟨_, -, hlived⟩ := hlived.exists_called (run_of_answer hfailed) nofun
  have hstate : stranded.1.2.state = .synchronizing := by with_unfolding_all rfl
  exact ⟨_, hlived, afterAll_eq_synchronizing.mp (hlived.state_eq.symm.trans hstate), hstate⟩

/-- What is said of it, and of a delayed write behind that. -/
theorem Lived.at_rest_iff_stranded : ∃ es, Lived es stranded.1.2 stranded.2 ∧ Broken es ∧
    (stranded.1.2.state = .fresh ∨ stranded.1.2.state = .dirty ↔ ¬Stranded es) ∧
      (((stranded.1.2.write .insert [{}]).run stranded.2).1.2.state = .dirty ↔ ¬Stranded es) := by
  obtain ⟨es, hlived, hstranded, -⟩ := lived_stranded
  obtain ⟨hrest, hwrite⟩ := hlived.at_rest_iff
  have hdelay : stranded.1.2.delaySelect := by with_unfolding_all rfl
  have hrun := run_of_answer (a := ((stranded.1.2.write .insert [{}]).run stranded.2).1.1) rfl
  exact ⟨es, hlived, hstranded.broken, hrest, hwrite _ _ _ _ _ hdelay hstranded.broken hrun⟩

/-- It is not at rest, and a delayed write that succeeds does not leave it dirty. -/
theorem Lived.not_at_rest_stranded : ∃ es, Lived es stranded.1.2 stranded.2 ∧ Broken es ∧
    stranded.1.2.state = .synchronizing ∧ stranded.1.2.delaySelect ∧
      ∃ r m s, (stranded.1.2.write .insert [{}]).run stranded.2 = ((.ok r, m), s) ∧
        m.state = .synchronizing := by
  obtain ⟨es, hlived, hstranded, hstate⟩ := lived_stranded
  obtain ⟨r, hwrite⟩ : ∃ r, ((stranded.1.2.write .insert [{}]).run stranded.2).1.1 = .ok r :=
    ⟨_, by with_unfolding_all rfl⟩
  refine ⟨es, hlived, hstranded.broken, hstate, ?_, r, _, _, run_of_answer hwrite, ?_⟩
  · with_unfolding_all rfl
  · with_unfolding_all rfl

end Model

end Tabula
