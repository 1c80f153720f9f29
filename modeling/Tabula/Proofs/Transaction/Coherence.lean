import Tabula.Proofs.Transaction.Call
import Tabula.Proofs.Transaction.Log

/-!
# Depths and logs

A log tells which connections count as being in a transaction, and so do the depths of a session.
The two agree (`Log.Coheres`), and everything that is done over a connection keeps them so.

* `Log.Coheres.begins`, `commits`, `rollsBack`: one call of a connection.
* `Log.Coheres.stepRun`: one step of a transaction that has not ended anything.
* `Log.Coheres.stranded`: what can wait on connections that were all rolled back.
-/

namespace Tabula

/-! ## Marks of one party -/

/-- The marks of one party. -/
def tagged (p : Party) (ms : List Mark) : Log := ms.map (p, ·)

@[simp] theorem tagged_nil (p : Party) : tagged p [] = [] := rfl

@[simp] theorem tagged_cons (p : Party) (m : Mark) (ms : List Mark) :
    tagged p (m :: ms) = (p, m) :: tagged p ms := rfl

@[simp] theorem tagged_append (p : Party) (ms ns : List Mark) :
    tagged p (ms ++ ns) = tagged p ms ++ tagged p ns :=
  List.map_append

/-- A tagged mark is one of the marks, by the party it is tagged with. -/
theorem mem_tagged {p q : Party} {m : Mark} {ms : List Mark} :
    (q, m) ∈ tagged p ms ↔ q = p ∧ m ∈ ms := by
  rw [tagged, List.mem_map]
  constructor
  · rintro ⟨m', hm, h⟩
    cases h
    exact ⟨rfl, hm⟩
  · rintro ⟨rfl, hm⟩
    exact ⟨m, hm, rfl⟩

namespace Log

/-- The entries of tagged marks are their exchanges. -/
theorem entries_tagged (p : Party) (ms : List Mark) :
    entries (tagged p ms) = (exchanges ms).map (p, ·) := by
  induction ms with
  | nil => rfl
  | cons m ms ih =>
    have hcons : entries (tagged p (m :: ms)) = entries [(p, m)] ++ entries (tagged p ms) :=
      entries_append [(p, m)] (tagged p ms)
    rcases m.exchange?_eq_none_or with hm | ⟨x, rfl⟩
    · rw [hcons, entries_of_none hm, ih, exchanges, exchanges, List.filterMap_cons_none hm]
      rfl
    · rw [hcons, ih]
      rfl

/-- Tagged marks decide whether a transaction is open as their exchanges do. -/
theorem standing_tagged (log : Log) (p : Party) (ms : List Mark) (c : Nat) :
    standing (log ++ tagged p ms) c =
      (exchanges ms).foldl (fun b x => x.leaves c b) (log.standing c) := by
  rw [standing_append, entries_tagged, List.foldl_map]

/-! ## Keeping together -/

/-- A log is sound, and the depths tell where a transaction counts as open. -/
structure Coheres (log : Log) (depth : Nat → Nat) : Prop where
  /-- the log is sound -/
  sound : log.Sound
  /-- the depths are those of the log -/
  level : ∀ c, depth c = 0 ↔ log.standing c = false

variable {log : Log} {depth d : Nat → Nat} {p : Party} {c : Nat} {ms : List Mark}

/-- What begins or ends transactions keeps a log sound. -/
theorem Sound.append_controls (h : Sound log) (hon : ∀ m ∈ ms, m.On c)
    (hk : ∀ x ∈ exchanges ms, ∃ k, x.request.control? = some k) :
    Sound (log ++ tagged p ms) := by
  induction ms generalizing log with
  | nil => simpa using h
  | cons m ms ih =>
    have hrest : ∀ m ∈ ms, m.On c := fun m hm => hon m (List.mem_cons_of_mem _ hm)
    rw [tagged_cons, List.append_cons]
    cases m with
    | asked x =>
      rw [exchanges_asked] at hk
      obtain ⟨k, hx⟩ := hk x List.mem_cons_self
      exact ih (h.control hx) hrest fun y hy => hk y (List.mem_cons_of_mem _ hy)
    | interrupted c' => exact ih (h.silent trivial) hrest hk
    | _ => exact (hon _ List.mem_cons_self).elim

/-- An exchange over a connection is about that connection. -/
theorem forall_on_asked {x : Exchange} (h : x.connection = c) : ∀ m ∈ [Mark.asked x], m.On c :=
  List.forall_mem_singleton.mpr h

/-- Where nothing is asked, a depth can change as long as it counts. -/
theorem Coheres.count (h : Coheres log depth) {n : Nat} (hn : n = 0 ↔ depth c = 0) :
    Coheres log (Function.update depth c n) := by
  refine ⟨h.sound, fun c' => ?_⟩
  by_cases hc : c' = c
  · subst hc
    rw [Function.update_self, hn]
    exact h.level c'
  · rw [Function.update_of_ne hc]
    exact h.level c'

/-- One control statement, and the depth afterwards. -/
theorem Coheres.exchange (h : Coheres log depth) {x : Exchange} {k : Control}
    (hon : ∀ m ∈ ms, m.On c) (hms : exchanges ms = [x]) (hc : x.connection = c)
    (hk : x.request.control? = some k) {n : Nat}
    (hn : n = 0 ↔ x.leaves c (log.standing c) = false) :
    Coheres (log ++ tagged p ms) (Function.update depth c n) := by
  refine ⟨h.sound.append_controls hon ?_, fun c' => ?_⟩
  · rw [hms]
    intro y hy
    cases List.mem_singleton.mp hy
    exact ⟨k, hk⟩
  · rw [standing_tagged, hms, List.foldl_cons, List.foldl_nil]
    by_cases h' : c' = c
    · subst h'
      rw [Function.update_self]
      exact hn
    · rw [Function.update_of_ne h', Exchange.leaves_of_ne fun he => h' (he.symm.trans hc)]
      exact h.level c'

/-- A control statement that fails changes no depth, unless it is to roll back. -/
theorem Coheres.failed (h : Coheres log depth) {x : Exchange} {k : Control}
    (hon : ∀ m ∈ ms, m.On c) (hms : exchanges ms = [x]) (hc : x.connection = c)
    (hk : x.request.control? = some k) (hr : k ≠ .rollback) (hok : ¬x.ending.isOk) :
    Coheres (log ++ tagged p ms) depth := by
  have hx := h.exchange (p := p) (n := depth c) hon hms hc hk (by
    rw [Exchange.leaves_failed hk hr hok]
    exact h.level c)
  rwa [Function.update_eq_self] at hx

/-- A log coheres with the depths behind a `begin`. -/
theorem Coheres.begins {o : Outcome Unit} (h : Coheres log depth)
    (hb : Session.Begins depth c o ms d) : Coheres (log ++ tagged p ms) d := by
  have hk : (Control.begin.request).control? = some .begin := Request.control?_request _
  cases hb with
  | nested open_ =>
    rw [tagged_nil, List.append_nil]
    exact h.count (by simpa using open_)
  | opened closed on sent =>
    refine h.exchange on sent rfl hk ?_
    rw [Exchange.leaves_opens ⟨rfl, hk, rfl⟩]
    simp
  | refused closed on sent => exact h.failed on sent rfl hk (by decide) Bool.false_ne_true
  | unsent closed on sent =>
    refine ⟨h.sound.append_controls on (by simp [sent]), fun c' => ?_⟩
    rw [standing_tagged, sent]
    exact h.level c'

/-- A log coheres with the depths behind a commit. -/
theorem Coheres.commits {o : Outcome Unit} (h : Coheres log depth)
    (hb : Session.Commits depth c o ms d) : Coheres (log ++ tagged p ms) d := by
  have hk : (Control.commit.request).control? = some .commit := Request.control?_request _
  cases hb with
  | closed closed =>
    rw [tagged_nil, List.append_nil]
    exact h
  -- an inner level only counts down, and stays above zero
  | nested level =>
    rw [tagged_nil, List.append_nil]
    exact h.count (by simp [level])
  | @kept sets level =>
    have hx : (⟨c, Control.commit.request, .ok sets⟩ : Exchange).Closes c :=
      ⟨rfl, .inl ⟨hk, rfl⟩⟩
    refine h.exchange (forall_on_asked hx.1) (exchanges_asked ..) rfl hk ?_
    rw [Exchange.leaves_closes hx]
    simp
  -- a COMMIT that was refused leaves the level as it was
  | refused level =>
    exact h.failed (forall_on_asked rfl) (exchanges_asked ..) rfl hk (by decide) Bool.false_ne_true

/-- A log coheres with the depths behind a rollback. -/
theorem Coheres.rollsBack {o : Outcome Unit} (h : Coheres log depth)
    (hb : Session.RollsBack depth c o ms d) : Coheres (log ++ tagged p ms) d := by
  have hk : (Control.rollback.request).control? = some .rollback := Request.control?_request _
  cases hb with
  | closed closed =>
    rw [tagged_nil, List.append_nil]
    exact h
  | @sent ending open_ =>
    have hx : (⟨c, Control.rollback.request, ending⟩ : Exchange).Closes c := ⟨rfl, .inr hk⟩
    refine h.exchange (forall_on_asked hx.1) (exchanges_asked ..) rfl hk ?_
    rw [Exchange.leaves_closes hx]
    simp

/-- A log coheres with the depths behind several rollbacks. -/
theorem Coheres.rollsBackAll {cs : List Nat} {o : Outcome (List Error)} (h : Coheres log depth)
    (hb : Transaction.RollsBackAll depth cs o ms d) : Coheres (log ++ tagged p ms) d := by
  induction hb generalizing log with
  | nil => simpa using h
  | stuck first => exact h.rollsBack first
  | cons first answered rest ih =>
    rw [tagged_append, ← List.append_assoc]
    exact ih (h.rollsBack first)

/-- A log coheres with the depths behind a commit that may be followed by a rollback. -/
theorem Coheres.commitsOne {o : Outcome (List Error)} (h : Coheres log depth)
    (hb : Transaction.CommitsOne depth c o ms d) : Coheres (log ++ tagged p ms) d := by
  cases hb with
  | kept commits => exact h.commits commits
  | stuck commits => exact h.commits commits
  | undone commits rollsBack answered =>
    rw [tagged_append, ← List.append_assoc]
    exact (h.commits commits).rollsBack rollsBack
  | lost commits rollsBack =>
    rw [tagged_append, ← List.append_assoc]
    exact (h.commits commits).rollsBack rollsBack

/-- A log coheres with the depths behind the commits of a transaction. -/
theorem Coheres.commitsAll {cs : List Nat} {o : Outcome (List Error)} (h : Coheres log depth)
    (hb : Transaction.CommitsAll depth cs o ms d) : Coheres (log ++ tagged p ms) d := by
  induction hb generalizing log with
  | nil => simpa using h
  | stuck first => exact h.commitsOne first
  | cons first rest ih =>
    rw [tagged_append, ← List.append_assoc]
    exact ih (h.commitsOne first)

/-- The statements of a step change no depth. -/
theorem Coheres.statements (h : Coheres log depth) (hs : Started log p c (depth c))
    (hon : ∀ m ∈ ms, m.On c) (hk : ∀ x ∈ exchanges ms, x.request.control? = none) :
    Coheres (log ++ tagged p ms) depth := by
  induction ms generalizing log with
  | nil => simpa using h
  | cons m ms ih =>
    have hrest : ∀ m ∈ ms, m.On c := fun m hm => hon m (List.mem_cons_of_mem _ hm)
    have hm := hon m List.mem_cons_self
    rw [tagged_cons, List.append_cons]
    cases m with
    | asked x =>
      obtain rfl : x.connection = c := hm
      rw [exchanges_asked] at hk
      have hx := hk x List.mem_cons_self
      refine ih ⟨h.sound.statement hx ⟨_, hs, h.level _⟩, fun c' => ?_⟩ (hs.append _) hrest
        fun y hy => hk y (List.mem_cons_of_mem _ hy)
      rw [standing_concat_asked, Exchange.leaves_statement hx]
      exact h.level c'
    -- an interruption says nothing to the database
    | interrupted c' =>
      refine ih ⟨h.sound.silent trivial, fun c' => ?_⟩ (hs.append _) hrest hk
      rw [standing_concat_of_none rfl]
      exact h.level c'
    | _ => exact hm.elim

/-! ## Steps -/

/-- A party has not ended a transaction. -/
def Calm (log : Log) (p : Party) : Prop :=
  ∀ x, (p, .asked x) ∈ log → x.request.control? = none ∨ x.request.control? = some .begin

/-- A calm party has ended no transaction. -/
theorem Calm.not_closes (h : log.Calm p) {x : Exchange} (hx : (p, .asked x) ∈ log) :
    ¬x.Closes c := by
  rintro ⟨-, ⟨hk, -⟩ | hk⟩
  · rcases h x hx with h | h <;> simp [hk] at h
  · rcases h x hx with h | h <;> simp [hk] at h

/-- A party stays calm that sends statements and beginnings only. -/
theorem Calm.append (h : log.Calm p) (hk : ∀ x ∈ exchanges ms, x.request.control? = none ∨
    x.request.control? = some .begin) : Calm (log ++ tagged p ms) p := by
  intro x hx
  rcases List.mem_append.mp hx with hx | hx
  · exact h x hx
  · exact hk x (mem_exchanges (mem_tagged.mp hx).2)

/-- A log coheres behind a mark that nobody was asked. -/
theorem Coheres.silent (h : Coheres log depth) {m : Mark} (hm : m.IsSilent) :
    Coheres (log ++ [(p, m)]) depth := by
  refine ⟨h.sound.silent hm, fun c => ?_⟩
  rw [standing_concat_of_none hm.exchange?]
  exact h.level c

/-- A log coheres with the depths behind the touch of a connection. -/
theorem Coheres.touches {t : Transaction} {o : Outcome Unit} {touched : List Nat}
    (h : Coheres log depth) (ht : t.Touches depth c o ms d touched) :
    Coheres (log ++ tagged p ms) d := by
  cases ht with
  | already touched =>
    rw [tagged_nil, List.append_nil]
    exact h
  | entered untouched begins => exact h.begins begins
  | refused untouched begins => exact h.begins begins

/-- **A step keeps depths and log together**, if its party has ended no transaction, and on every
connection that it touched has started a step inside of one. -/
theorem Coheres.stepRun {β : Type} [Backend β] {t : Transaction} {i : Nat} {s : Session β}
    {o : Outcome Unit} {touched : List Nat} (h : Coheres log s.depth)
    (hr : t.StepRun i s o ms d touched) (hcalm : log.Calm p)
    (hentered : ∀ c ∈ t.touched, Inside log p c) :
    Coheres (log ++ tagged p ms) d := by
  cases hr with
  | idle => simpa using h
  | unprepared => exact h.silent trivial
  | called => exact h.silent trivial
  | refused enters touches =>
    rw [tagged_cons, List.append_cons]
    exact (h.silent (m := .prepared i) trivial).touches touches
  | @dropped r c ms d touched enters touches =>
    rw [tagged_cons, List.append_cons, tagged_append, ← List.append_assoc]
    have hin := (h.silent (p := p) (m := .prepared i) trivial).touches (p := p) touches
    exact hin.silent (m := .interrupted c) trivial
  | @ran r c o ms ns d touched enters touches runs =>
    have hpre := h.silent (p := p) (m := .prepared i) trivial
    have hin := hpre.touches (p := p) touches
    rw [tagged_cons, List.append_cons, tagged_append, ← List.append_assoc, tagged_cons,
      List.append_cons]
    refine Coheres.statements (c := c) ⟨hin.sound.executed (hin.level c) ?_, ?_⟩ ?_ runs.on
      (Routine.control?_of_runs runs)
    · -- at depth zero the connection had been touched, and then another party ended that
      intro hzero
      cases touches with
      | entered untouched begins => exact absurd hzero begins.depth_ne_zero
      | already touched =>
        obtain ⟨n, hn, hs⟩ := hentered c touched
        rw [tagged_nil, List.append_nil] at hin ⊢
        refine hin.sound.broken (hs.append _) hn ((hin.level c).mp hzero) fun x hx => ?_
        rcases List.mem_append.mp hx with hx | hx
        · exact hcalm.not_closes hx
        · cases List.mem_singleton.mp hx
    · intro c'
      rw [standing_concat_of_none rfl]
      exact hin.level c'
    · exact ⟨i, List.mem_append_right _ (List.mem_singleton_self _)⟩

/-! ## Connections that are left -/

/-- Only a statement of its own makes a party wait for anything. -/
theorem mem_pending_of_append {log' : Log}
    (h : ∀ x, (p, .asked x) ∈ log' → x.request.control? ≠ none)
    (hp : p ∈ (ledger (log ++ log') c).pending) : p ∈ (log.ledger c).pending := by
  induction log' using List.reverseRecOn with
  | nil => rwa [List.append_nil] at hp
  | append_singleton log' e ih =>
    refine ih (fun x hx => h x (List.mem_append_left _ hx)) ?_
    obtain ⟨q, m⟩ := e
    rw [← List.append_assoc] at hp
    rcases m.exchange?_eq_none_or with hm | ⟨x, rfl⟩
    · -- what is no exchange leaves the ledger as it is
      rwa [ledger_concat_of_none hm] at hp
    rw [ledger_concat_asked] at hp
    by_cases hc : x.connection = c
    case neg => rwa [Ledger.after_of_ne hc] at hp
    subst hc
    rcases hx : x.request.control? with _ | k
    · rw [Ledger.after_statement hx, Ledger.mem_enter.2] at hp
      -- a statement on `c` could be pending anew, but there is none behind
      rcases hp with hp | ⟨-, rfl⟩
      · exact hp
      · exact absurd hx (h x (List.mem_append_right _ (List.mem_singleton_self _)))
    · by_cases hok : x.ending.isOk
      · -- a BEGIN pends nothing, and an end that went well settles everything
        rw [Ledger.after_control hx hok] at hp
        cases k <;> first | exact hp | cases hp
      · rwa [Ledger.after_failed hx hok] at hp

/-- After a connection was rolled back, what still waits there is stranded. -/
theorem Coheres.stranded_one {q : Party} {o : Outcome Unit} (h : Coheres log depth)
    (hb : Session.RollsBack depth c o ms d)
    (hp : p ∈ (ledger (log ++ tagged q ms) c).pending) : Stranded (log ++ tagged q ms) p c := by
  have haccounts := h.sound.accounts p c
  cases hb with
  -- at depth zero nothing is sent, and what waits there is stranded already
  | closed closed =>
    rw [tagged_nil, List.append_nil] at hp ⊢
    exact haccounts.pending hp ((h.level c).mp closed)
  | @sent ending open_ =>
    have hk : (Control.rollback.request).control? = some .rollback := Request.control?_request _
    rw [tagged_cons, tagged_nil] at hp ⊢
    rw [ledger_concat_asked] at hp
    by_cases hok : ending.isOk
    · rw [Ledger.after, if_pos rfl, hk] at hp
      simp [hok, Ledger.control] at hp
    · -- a ROLLBACK that failed is what leaves it pending
      rw [Ledger.after, if_pos rfl, hk] at hp
      simp only [hok] at hp
      obtain ⟨n, -, hn⟩ := haccounts.own (.inr hp)
      exact hn.then rfl ⟨hk, hok⟩

/-- Leaving connections sends no statement. -/
theorem control?_of_rollsBack {o : Outcome Unit} (hb : Session.RollsBack depth c o ms d) :
    ∀ x ∈ exchanges ms, x.request.control? = some .rollback := by
  intro x hx
  cases hb with
  | closed closed => cases hx
  | sent open_ =>
    cases List.mem_singleton.mp hx
    exact Request.control?_request _

/-- Rolling back sends nothing but rollbacks. -/
theorem control?_of_rollsBackAll {cs : List Nat} {o : Outcome (List Error)}
    (hb : Transaction.RollsBackAll depth cs o ms d) :
    ∀ x ∈ exchanges ms, x.request.control? = some .rollback := by
  induction hb with
  | nil => simp
  | stuck first => exact control?_of_rollsBack first
  | cons first answered rest ih =>
    rw [exchanges_append]
    exact List.forall_mem_append.mpr ⟨control?_of_rollsBack first, ih⟩

/-- **After all connections were rolled back**, what still waits on one of them is stranded. -/
theorem Coheres.stranded {q : Party} {cs : List Nat} {o : Outcome (List Error)}
    {es : List Error} (h : Coheres log depth) (hb : Transaction.RollsBackAll depth cs o ms d)
    (ho : o = .ok es) (hc : c ∈ cs) (hp : p ∈ (ledger (log ++ tagged q ms) c).pending) :
    Stranded (log ++ tagged q ms) p c := by
  induction hb generalizing log es with
  | nil => cases hc
  | stuck first => cases ho
  | @cons d d' d'' c' cs r o ms ns first answered rest ih =>
    rcases o with halt | es'
    · cases ho
    rw [tagged_append, ← List.append_assoc] at hp ⊢
    rcases List.mem_cons.mp hc with rfl | hc
    · -- what is rolled back behind adds nothing to what waits here
      refine (h.stranded_one first (mem_pending_of_append (fun x hx => ?_) hp)).append _
      have hx' : x ∈ exchanges ns := mem_exchanges (mem_tagged.mp hx).2
      rw [control?_of_rollsBackAll rest x hx']
      exact Option.some_ne_none _
    · exact ih (h.rollsBack first) rfl hc hp

end Log

end Tabula
