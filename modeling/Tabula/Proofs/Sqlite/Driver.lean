import Mathlib.Data.List.Basic
import Tabula.Proofs.Results.Answer
import Tabula.Proofs.Succeeding
import Tabula.Sqlite.Driver

/-!
# What comes of a driver

Whatever a driver answers, a result set that is made of it is an answer: a row that is too short for
its columns is an error. All that is relied on besides is that a statement which has run is kept
(`LawfulDriver`). So a statement that is sent with several lists of values does what it would do if
it were sent with one list after the other, up to the first that fails.

* `Driver.isAnswer_of_executeSets`: every result set is an answer.
* `Driver.executeSets_stopped`, `Driver.executeSets_next`: one list of values, and those behind it.
* `Handle.answer_of_ready`, `Handle.answer_of_waiting`: what a handle answers.
-/

namespace Tabula

namespace Reply

variable {r : ResultSet} {reply : Reply} {rs : List ResultSet}

theorem behind_eq_done : reply.behind r = .done rs ↔ ∃ rs', reply = .done rs' ∧ rs = r :: rs' := by
  cases reply with
  | done rs' =>
    rw [behind, Reply.done.injEq]
    constructor
    · rintro rfl
      exact ⟨rs', rfl, rfl⟩
    · rintro ⟨_, h, rfl⟩
      cases h
      rfl
  | failed e => exact iff_of_false nofun fun ⟨_, h, _⟩ => nomatch h
  | never => exact iff_of_false nofun fun ⟨_, h, _⟩ => nomatch h

/-- There are no result sets. -/
def IsStopped (reply : Reply) : Prop := ∀ rs, reply ≠ .done rs

theorem isStopped_failed (e : Error) : IsStopped (.failed e) := nofun

theorem isStopped_never : IsStopped .never := nofun

end Reply

namespace Sqlite

/-- What is relied on of a driver: a statement that has run is kept, and its text is prepared as the
same one from then on. -/
class LawfulDriver (δ : Type) [Driver δ] : Prop where
  /-- a statement that has run is what its text is prepared as (`prepare_cached`) -/
  prepare_again : ∀ {d d' : δ} {sql : String} {st : Driver.Statement δ} {parameters : List Cell}
    {rows : List (List Cell)}, Driver.prepare d sql = .ok st →
      Driver.run st d parameters = (.done rows, d') → Driver.prepare d' sql = .ok st

namespace Driver

variable {δ : Type} [Driver δ] {d d' : δ} {st : Statement δ} {type : QueryType} {sql : String}
  {columns : List String} {cells : List Cell} {rows : List (List Cell)} {rs : List ResultSet}
  {r : ResultSet}

/-! ## Result sets -/

theorem length_of_rowOf {width : Nat} {vs : List Value} (h : rowOf width cells = .ok vs) :
    vs.length = width := by
  rw [rowOf] at h
  split at h
  · cases h
  next hwide =>
    cases h
    rw [List.length_map, List.length_take, Nat.min_eq_left (Nat.not_lt.mp hwide)]

theorem isAnswer_resultOf (h : resultOf columns type rows d = .ok r) : r.IsAnswer type := by
  rw [resultOf] at h
  by_cases hcolumns : columns.isEmpty
  · rw [if_pos hcolumns] at h
    cases h
    exact .counted
  · rw [if_neg hcolumns] at h
    obtain ⟨values, hvalues, h⟩ := bind_eq_ok.mp h
    cases h
    refine ResultSet.isAnswer_of_rows (fun hnil => hcolumns (List.isEmpty_iff.mpr hnil))
      (fun vs hvs => ?_) rfl
    obtain ⟨row, -, hrow⟩ := exists_of_mem_mapM hvalues hvs
    exact length_of_rowOf hrow

/-- Whether rows make a result set is no matter of the state. -/
theorem exists_resultOf (h : resultOf columns type rows d = .ok r) (d' : δ) :
    ∃ r', resultOf columns type rows d' = .ok r' := by
  rw [resultOf] at h ⊢
  by_cases hcolumns : columns.isEmpty
  · rw [if_pos hcolumns]
    exact ⟨_, rfl⟩
  · rw [if_neg hcolumns] at h ⊢
    exact ⟨r, h⟩

/-! ## Lists of parameters in turn -/

/-- A statement has run for one list if its rows make a result set. -/
theorem runSets_singleton_iff : runSets st type d [cells] = (.done rs, d') ↔
    ∃ rows r, run st d cells = (.done rows, d') ∧
      resultOf (Driver.columns st) type rows d' = .ok r ∧ rs = [r] := by
  rcases hrun : run st d cells with ⟨rows | e | _, d₁⟩
  · rcases hset : resultOf (Driver.columns st) type rows d₁ with e | r
    · simp only [runSets, hrun, hset]
      refine iff_of_false nofun ?_
      rintro ⟨rows', r', h, h', -⟩
      cases h
      rw [hset] at h'
      cases h'
    · simp only [runSets, hrun, hset]
      constructor
      · intro h
        cases h
        exact ⟨rows, r, rfl, hset, rfl⟩
      · rintro ⟨rows', r', h, h', rfl⟩
        cases h
        rw [hset] at h'
        cases h'
        rfl
  · simp [runSets, hrun]
  · simp [runSets, hrun]

/-- Behind a list that has run the others run on what it leaves. -/
theorem runSets_cons_of_done (h : run st d cells = (.done rows, d'))
    (hset : resultOf (Driver.columns st) type rows d' = .ok r) (rest : List (List Cell)) :
    runSets st type d (cells :: rest) =
      ((runSets st type d' rest).1.behind r, (runSets st type d' rest).2) := by
  simp only [runSets, h, hset]

/-- Behind a list that has not, nothing runs. -/
theorem runSets_cons_of_isStopped (h : (runSets st type d [cells]).1.IsStopped)
    (rest : List (List Cell)) :
    runSets st type d (cells :: rest) = runSets st type d [cells] := by
  rcases hrun : run st d cells with ⟨rows | e | _, d₁⟩
  · rcases hset : resultOf (Driver.columns st) type rows d₁ with e | r
    · simp only [runSets, hrun, hset]
    · rw [runSets_cons_of_done hrun hset] at h
      exact absurd rfl (h [r])
  · simp only [runSets, hrun]
  · simp only [runSets, hrun]

theorem isAnswer_of_runSets {lists : List (List Cell)}
    (h : runSets st type d lists = (.done rs, d')) : ∀ r ∈ rs, r.IsAnswer type := by
  induction lists generalizing d rs with
  | nil =>
    cases h
    simp
  | cons cells rest ih =>
    by_cases hstopped : (runSets st type d [cells]).1.IsStopped
    · rw [runSets_cons_of_isStopped hstopped] at h
      exact absurd (congrArg Prod.fst h) (hstopped rs)
    · obtain ⟨rs₁, hdone⟩ := not_forall_not.mp hstopped
      obtain ⟨rows, r, hrun, hset, -⟩ := runSets_singleton_iff.mp (Prod.ext hdone rfl)
      rw [runSets_cons_of_done hrun hset] at h
      obtain ⟨hreply, hleft⟩ := Prod.mk.inj h
      obtain ⟨rs', hrest, rfl⟩ := Reply.behind_eq_done.mp hreply
      have hothers := ih (Prod.ext hrest hleft)
      exact List.forall_mem_cons.mpr ⟨isAnswer_resultOf hset, hothers⟩

/-! ## Lists of values in turn -/

variable {v : List Value} {sets : List (List Value)}

/-- The parameters of a list of values. -/
def cellsOf (v : List Value) : List Cell := v.map Cell.ofValue

theorem executeSets_of_prepare (h : prepare d sql = .ok st) (sets : List (List Value)) :
    executeSets d sql sets type = runSets st type d (sets.map cellsOf) := by
  rw [executeSets, h]
  rfl

theorem executeSets_of_unprepared {e : Error} (h : prepare d sql = .error e)
    (sets : List (List Value)) : executeSets d sql sets type = (.failed e, d) := by
  rw [executeSets, h]

theorem executeSets_eq_done : executeSets d sql sets type = (.done rs, d') ↔
    ∃ st, prepare d sql = .ok st ∧ runSets st type d (sets.map cellsOf) = (.done rs, d') := by
  rcases hst : prepare d sql with e | st
  · rw [executeSets_of_unprepared hst]
    simp
  · rw [executeSets_of_prepare hst]
    simp

/-- **Every result set is an answer**, whatever the driver is. -/
theorem isAnswer_of_executeSets (h : executeSets d sql sets type = (.done rs, d')) :
    ∀ r ∈ rs, r.IsAnswer type := by
  obtain ⟨st, -, hrun⟩ := executeSets_eq_done.mp h
  exact isAnswer_of_runSets hrun

/-- Behind a list that fails, or that does not end, nothing runs. -/
theorem executeSets_stopped (h : (executeSets d sql [v] type).1.IsStopped)
    (rest : List (List Value)) :
    executeSets d sql (v :: rest) type = executeSets d sql [v] type := by
  rcases hst : prepare d sql with e | st
  · rw [executeSets_of_unprepared hst, executeSets_of_unprepared hst]
  · rw [executeSets_of_prepare hst] at h ⊢
    rw [executeSets_of_prepare hst]
    exact runSets_cons_of_isStopped h _

/-- **Behind a list that has run the others are as good as sent alone**: they run on what it leaves,
where their text is prepared as the same statement. -/
theorem executeSets_next [LawfulDriver δ] (h : executeSets d sql [v] type = (.done rs, d')) :
    ∃ r, rs = [r] ∧ ∀ rest, executeSets d sql (v :: rest) type =
      ((executeSets d' sql rest type).1.behind r, (executeSets d' sql rest type).2) := by
  obtain ⟨st, hst, hone⟩ := executeSets_eq_done.mp h
  obtain ⟨rows, r, hrun, hset, rfl⟩ := runSets_singleton_iff.mp hone
  have hagain : prepare d' sql = .ok st := LawfulDriver.prepare_again hst hrun
  refine ⟨r, rfl, fun rest => ?_⟩
  rw [executeSets_of_prepare hst, executeSets_of_prepare hagain, List.map_cons,
    runSets_cons_of_done hrun hset]

/-- Several lists of values are one and then the others. -/
theorem executeSets_cons_iff [LawfulDriver δ] :
    executeSets d sql (v :: sets) type = (.done rs, d') ↔
    ∃ r d₁ rs', executeSets d sql [v] type = (.done [r], d₁) ∧
      executeSets d₁ sql sets type = (.done rs', d') ∧ rs = r :: rs' := by
  constructor
  · intro h
    by_cases hstopped : (executeSets d sql [v] type).1.IsStopped
    · rw [executeSets_stopped hstopped] at h
      exact absurd (congrArg Prod.fst h) (hstopped rs)
    · obtain ⟨rs₁, hdone⟩ := not_forall_not.mp hstopped
      have hfirst : executeSets d sql [v] type = (.done rs₁, (executeSets d sql [v] type).2) :=
        Prod.ext hdone rfl
      obtain ⟨r, rfl, hnext⟩ := executeSets_next hfirst
      rw [hnext] at h
      obtain ⟨hreply, hleft⟩ := Prod.mk.inj h
      obtain ⟨rs', hrest, rfl⟩ := Reply.behind_eq_done.mp hreply
      exact ⟨r, _, rs', hfirst, Prod.ext hrest hleft, rfl⟩
  · rintro ⟨r, d₁, rs', hfirst, hrest, rfl⟩
    obtain ⟨r', hr, hnext⟩ := executeSets_next hfirst
    cases hr
    rw [hnext, hrest]
    rfl

end Driver

/-! ## Handles -/

namespace Handle

variable {δ : Type} [Driver δ] {h h' : Handle δ} {sql : String} {type : QueryType}
  {sets : List (List Value)} {rs : List ResultSet}

/-- A handle that is ready answers what its driver replies. -/
theorem answer_of_ready (hready : h.waiting = none) (q : Request) :
    Backend.answer h q = answered (Driver.serve h.driver q) := by
  change h.answer q = _
  rw [answer, hready]

/-- Behind something that does not end a request waits. -/
theorem answer_of_waiting {queue : List Request} (hwaiting : h.waiting = some queue)
    (q : Request) : Backend.answer h q =
      { reply := .never, backend := { h with waiting := some (queue ++ [q]) } } := by
  change h.answer q = _
  rw [answer, hwaiting]

/-- No token fires at somebody else's hands. -/
theorem fired_answer (h : Handle δ) (q : Request) : (Backend.answer h q).fired = [] := by
  rcases hwaiting : h.waiting with _ | queue
  · rw [answer_of_ready hwaiting]
    rfl
  · rw [answer_of_waiting hwaiting]

/-- Result sets are answered by the driver of a handle that is ready, and it stays so. -/
theorem answer_eq_done : (Backend.answer h (.sets sql sets type)).reply = .done rs ∧
    (Backend.answer h (.sets sql sets type)).backend = h' ↔
      h.waiting = none ∧ h'.waiting = none ∧
        Driver.executeSets h.driver sql sets type = (.done rs, h'.driver) := by
  rcases hwaiting : h.waiting with _ | queue
  · rw [answer_of_ready hwaiting, Driver.serve]
    rcases Driver.executeSets h.driver sql sets type with ⟨reply, d⟩
    obtain ⟨d', queue'⟩ := h'
    constructor
    · rintro ⟨rfl, h⟩
      cases h
      exact ⟨rfl, rfl, rfl⟩
    · rintro ⟨-, rfl, h⟩
      cases h
      exact ⟨rfl, rfl⟩
  · rw [answer_of_waiting hwaiting]
    exact iff_of_false (fun h => nomatch h.1) fun h => nomatch h.1

end Handle

end Sqlite

end Tabula
