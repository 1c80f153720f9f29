import Mathlib.Data.List.Induction
import Tabula.Proofs.Session.Ledger

/-!
# Who did what

A `Log` is a trace in which every mark says whose it is: that of a transaction by its number, or of
somebody who uses connections directly. From a log one can read off what the databases keep of whom
(`Log.ledger`) and which connections count as being in a transaction (`Log.standing`).

A log is `Sound` if steps start where the log says that they do, and statements are sent by steps.
What a sound log says of the statements of one party is `Log.Accounts`.

* `Log.Sound.executed_iff`: when a step starts outside of every transaction.
* `Log.Sound.accounts`: how a statement can come to be kept, and how it can be left waiting.
-/

namespace Tabula

/-- Who does something: a transaction, or somebody who uses connections directly. -/
abbrev Party := Option Nat

/-- What everybody did, in order. -/
abbrev Log := List (Party × Mark)

/-- A mark records no exchange and no start of a step on a connection. -/
def Mark.IsSilent : Mark → Prop
  | .interrupted _ | .prepared _ | .called _ => True
  | _ => False

/-- A mark is an exchange or none. -/
theorem Mark.exchange?_eq_none_or (m : Mark) : m.exchange? = none ∨ ∃ x, m = .asked x := by
  cases m with
  | asked x => exact .inr ⟨x, rfl⟩
  | _ => exact .inl rfl

/-- A silent mark is no exchange. -/
theorem Mark.IsSilent.exchange? {m : Mark} (h : m.IsSilent) : m.exchange? = none := by
  cases m <;> first | rfl | exact h.elim

/-- An exchange began a transaction. -/
def Exchange.Opens (x : Exchange) (c : Nat) : Prop :=
  x.connection = c ∧ x.request.control? = some .begin ∧ x.ending.isOk

/-- An exchange ended a transaction: it was committed, or its end was at least counted. -/
def Exchange.Closes (x : Exchange) (c : Nat) : Prop :=
  x.connection = c ∧ (x.request.control? = some .commit ∧ x.ending.isOk ∨
    x.request.control? = some .rollback)

/-- Whether a connection counts as being in a transaction after an exchange, if it did before. -/
def Exchange.leaves (x : Exchange) (c : Nat) (standing : Bool) : Bool :=
  if x.connection = c then
    match x.request.control? with
    | some .begin => standing || x.ending.isOk
    | some .commit => standing && !x.ending.isOk
    | some .rollback => false
    | none => standing
  else standing

namespace Exchange

variable {x : Exchange} {c : Nat} {b : Bool}

/-- An exchange over another connection leaves a connection as it was. -/
theorem leaves_of_ne (h : x.connection ≠ c) : x.leaves c b = b := if_neg h

/-- A statement leaves a connection as it was. -/
theorem leaves_statement (h : x.request.control? = none) : x.leaves c b = b := by
  rw [leaves, h]
  split <;> rfl

/-- A `BEGIN` that was carried out leaves a connection inside of a transaction. -/
theorem leaves_opens (h : x.Opens c) : x.leaves c b = true := by
  rw [leaves, if_pos h.1, h.2.1]
  exact (congrArg (b || ·) h.2.2).trans (Bool.or_true b)

/-- The end of a transaction leaves a connection outside. -/
theorem leaves_closes (h : x.Closes c) : x.leaves c b = false := by
  rw [leaves, if_pos h.1]
  rcases h.2 with ⟨hk, hok⟩ | hk
  · rw [hk]
    simp [hok]
  · rw [hk]

/-- What fails to begin or to commit changes nothing. -/
theorem leaves_failed {k : Control} (h : x.request.control? = some k) (hk : k ≠ .rollback)
    (hok : ¬x.ending.isOk) : x.leaves c b = b := by
  rw [leaves, h]
  cases k with
  | rollback => exact absurd rfl hk
  | _ => simp [hok]

/-- Only what ends a transaction makes a connection not count. -/
theorem closes_of_leaves (h : x.leaves c true = false) : x.Closes c := by
  rw [leaves] at h
  split at h
  case isFalse => cases h
  case isTrue hc =>
    rcases hk : x.request.control? with _ | _ | _ | _
    · simp [hk] at h
    · simp [hk] at h
    · refine ⟨hc, .inl ⟨hk, ?_⟩⟩
      simpa [hk] using h
    · exact ⟨hc, .inr hk⟩

/-- Only what begins one makes it count. -/
theorem opens_of_leaves (h : x.leaves c false = true) : x.Opens c := by
  rw [leaves] at h
  split at h
  case isFalse => cases h
  case isTrue hc =>
    rcases hk : x.request.control? with _ | _ | _ | _
    · simp [hk] at h
    · refine ⟨hc, hk, ?_⟩
      simpa [hk] using h
    · simp [hk] at h
    · simp [hk] at h

end Exchange

namespace Log

/-- The exchanges in a log, with who asked. -/
def entries (log : Log) : List (Party × Exchange) :=
  log.filterMap fun e => e.2.exchange?.map (e.1, ·)

@[simp] theorem entries_append (log log' : Log) :
    entries (log ++ log') = entries log ++ entries log' :=
  List.filterMap_append

/-- What the database of a connection keeps, and whose it is. -/
def ledger (log : Log) (c : Nat) : Ledger Party := Ledger.afterAll c {} log.entries

/-- A connection counts as being in a transaction. -/
def standing (log : Log) (c : Nat) : Bool :=
  log.entries.foldl (fun b e => e.2.leaves c b) false

/-- The ledger of a log that goes on is what the rest makes of the ledger. -/
theorem ledger_append (log log' : Log) (c : Nat) :
    ledger (log ++ log') c = (log.ledger c).afterAll c (entries log') := by
  rw [ledger, entries_append, Ledger.afterAll_append]
  rfl

/-- Whether a connection is inside of a transaction is decided step by step. -/
theorem standing_append (log log' : Log) (c : Nat) :
    standing (log ++ log') c =
      (entries log').foldl (fun b e => e.2.leaves c b) (log.standing c) := by
  rw [standing, entries_append, List.foldl_append]
  rfl

variable {log log' : Log} {p q : Party} {c i n : Nat} {m : Mark} {x : Exchange}

/-- A mark that is no exchange is no entry. -/
theorem entries_of_none (h : m.exchange? = none) : entries [(p, m)] = [] := by
  rw [entries, List.filterMap_cons, h]
  rfl

/-- A mark that is no exchange leaves every ledger. -/
theorem ledger_concat_of_none (h : m.exchange? = none) :
    ledger (log ++ [(p, m)]) c = log.ledger c := by
  rw [ledger_append, entries_of_none h, Ledger.afterAll_nil]

/-- Neither does it matter for whether a transaction is open. -/
theorem standing_concat_of_none (h : m.exchange? = none) :
    standing (log ++ [(p, m)]) c = log.standing c := by
  rw [standing_append, entries_of_none h, List.foldl_nil]

/-- An exchange at the end of a log is the last entry of its ledger. -/
theorem ledger_concat_asked :
    ledger (log ++ [(p, .asked x)]) c = (log.ledger c).after c p x :=
  ledger_append ..

/-- An exchange at the end of a log decides whether a transaction is open. -/
theorem standing_concat_asked :
    standing (log ++ [(p, .asked x)]) c = x.leaves c (log.standing c) :=
  standing_append ..

/-! ## Starts of steps -/

/-- A party started a step on a connection while its depth was this. -/
def Started (log : Log) (p : Party) (c n : Nat) : Prop := ∃ i, (p, .executed i c n) ∈ log

/-- After a party had started a step on a connection, something was asked there. -/
def StartedThen (log : Log) (p : Party) (c : Nat) (what : Party → Exchange → Prop) : Prop :=
  ∃ before i n after q x, log = before ++ (p, .executed i c n) :: after ∧
    (q, .asked x) ∈ after ∧ x.connection = c ∧ what q x

/-- After a party had started a step on a connection, another one ended the transaction there, and
none was begun since. -/
def Broken (log : Log) (p : Party) (c : Nat) : Prop :=
  ∃ before i n between q x since,
    log = before ++ (p, .executed i c n) :: (between ++ (q, .asked x) :: since) ∧
      q ≠ p ∧ x.Closes c ∧ ∀ r y, (r, .asked y) ∈ since → ¬y.Opens c

/-- Another one committed what a party may have done. -/
def Foreign (p q : Party) (x : Exchange) : Prop :=
  q ≠ p ∧ x.request.control? = some .commit ∧ x.ending.isOk

/-- Rolling back failed. -/
def Failed (_q : Party) (x : Exchange) : Prop :=
  x.request.control? = some .rollback ∧ ¬x.ending.isOk

/-- What was started stays so, however the log goes on. -/
theorem Started.append (h : Started log p c n) (log' : Log) : Started (log ++ log') p c n := by
  obtain ⟨i, hi⟩ := h
  exact ⟨i, List.mem_append_left _ hi⟩

/-- What happened behind a start stays so, however the log goes on. -/
theorem StartedThen.append {what : Party → Exchange → Prop} (h : StartedThen log p c what)
    (log' : Log) : StartedThen (log ++ log') p c what := by
  obtain ⟨before, i, n, after, q, x, rfl, hx, hc, hw⟩ := h
  exact ⟨before, i, n, after ++ log', q, x, by simp, List.mem_append_left _ hx, hc, hw⟩

/-- What is asked now is asked after every start so far. -/
theorem Started.then {what : Party → Exchange → Prop} (h : Started log p c n)
    (hc : x.connection = c) (hw : what q x) :
    StartedThen (log ++ [(q, .asked x)]) p c what := by
  obtain ⟨i, hi⟩ := h
  obtain ⟨before, after, rfl⟩ := List.append_of_mem hi
  exact ⟨before, i, n, after ++ [(q, .asked x)], q, x, by simp,
    List.mem_append_right _ (List.mem_singleton_self _), hc, hw⟩

/-! ## Sound logs -/

/-- A log is sound: a step starts at depth zero where no transaction counts as open, and then
another party ended the one that its own had begun; a statement is sent by a step that was started
at a depth that tells whether a transaction counts as open. -/
inductive Sound : Log → Prop
  /-- nothing has been done -/
  | nil : Sound []
  /-- nothing was asked or started -/
  | silent {log : Log} {p : Party} {m : Mark} (before : Sound log) (silent : m.IsSilent) :
    Sound (log ++ [(p, m)])
  /-- a step was started -/
  | executed {log : Log} {p : Party} {i c n : Nat} (before : Sound log)
    (level : n = 0 ↔ log.standing c = false) (broken : n = 0 → Broken log p c) :
    Sound (log ++ [(p, .executed i c n)])
  /-- a statement was sent -/
  | statement {log : Log} {p : Party} {x : Exchange} (before : Sound log)
    (plain : x.request.control? = none)
    (own : ∃ n, Started log p x.connection n ∧ (n = 0 ↔ log.standing x.connection = false)) :
    Sound (log ++ [(p, .asked x)])
  /-- a transaction was begun or ended -/
  | control {log : Log} {p : Party} {x : Exchange} {k : Control} (before : Sound log)
    (control : x.request.control? = some k) : Sound (log ++ [(p, .asked x)])

/-- What stands before an entry of a log with one more entry. -/
theorem eq_of_concat {a b : Party × Mark} {pre post : Log} (h : log ++ [a] = pre ++ b :: post) :
    log = pre ∧ a = b ∨ ∃ post', log = pre ++ b :: post' := by
  rcases List.eq_nil_or_concat post with rfl | ⟨post', last, rfl⟩
  · obtain ⟨hlog, hlast⟩ := List.append_inj' h rfl
    exact .inl ⟨hlog, (List.cons.inj hlast).1⟩
  · rw [List.concat_eq_append, ← List.cons_append, ← List.append_assoc] at h
    exact .inr ⟨post', (List.append_inj' h rfl).1⟩

/-- In a sound log a step starts at depth zero exactly where no transaction counts as open, and then
another party ended the one of its own. -/
theorem Sound.executed_of_split (h : Sound log) {pre post : Log}
    (hs : log = pre ++ (p, .executed i c n) :: post) :
    (n = 0 ↔ pre.standing c = false) ∧ (n = 0 → Broken pre p c) := by
  induction h generalizing post with
  | nil => exact absurd hs (by simp)
  | silent before silent ih =>
    rcases eq_of_concat hs with ⟨-, h⟩ | ⟨post', h⟩
    · cases h
      exact silent.elim
    · exact ih h
  | executed before level broken ih =>
    rcases eq_of_concat hs with ⟨rfl, h⟩ | ⟨post', h⟩
    · cases h
      exact ⟨level, broken⟩
    · exact ih h
  | statement before plain own ih =>
    rcases eq_of_concat hs with ⟨-, h⟩ | ⟨post', h⟩
    · cases h
    · exact ih h
  | control before control ih =>
    rcases eq_of_concat hs with ⟨-, h⟩ | ⟨post', h⟩
    · cases h
    · exact ih h

/-! ## Steps outside of every transaction -/

/-- Without a new transaction a connection does not come to count again. -/
theorem standing_stays {since : Log} (h : log.standing c = false)
    (hs : ∀ r y, (r, .asked y) ∈ since → ¬y.Opens c) : standing (log ++ since) c = false := by
  induction since using List.reverseRecOn with
  | nil => rwa [List.append_nil]
  | append_singleton since e ih =>
    have hbefore := ih fun r y hy => hs r y (List.mem_append_left _ hy)
    obtain ⟨r, m⟩ := e
    rw [← List.append_assoc]
    rcases m.exchange?_eq_none_or with hm | ⟨y, rfl⟩
    · rwa [standing_concat_of_none hm]
    · rw [standing_concat_asked, hbefore]
      by_contra hopens
      refine hs r y (List.mem_append_right _ (List.mem_singleton_self _)) ?_
      exact Exchange.opens_of_leaves (eq_true_of_ne_false hopens)

/-- Where a connection ceased to count, something ended the transaction, and none was begun
since. -/
theorem exists_closes {since : Log} (h : log.standing c = true)
    (h' : standing (log ++ since) c = false) :
    ∃ between q x rest, since = between ++ (q, .asked x) :: rest ∧ x.Closes c ∧
      ∀ r y, (r, .asked y) ∈ rest → ¬y.Opens c := by
  induction since using List.reverseRecOn with
  | nil =>
    rw [List.append_nil, h] at h'
    cases h'
  | append_singleton since e ih =>
    obtain ⟨r, m⟩ := e
    rw [← List.append_assoc] at h'
    -- what came before may have ended it already, or else this mark does
    rcases hbefore : standing (log ++ since) c with _ | _
    · obtain ⟨between, q, x, rest, rfl, hx, hrest⟩ := ih hbefore
      refine ⟨between, q, x, rest ++ [(r, m)], by simp, hx, fun r' y hy hopens => ?_⟩
      rcases List.mem_append.mp hy with hy | hy
      · exact hrest r' y hy hopens
      · cases List.mem_singleton.mp hy
        rw [standing_concat_asked, Exchange.leaves_opens hopens] at h'
        cases h'
    · rcases m.exchange?_eq_none_or with hm | ⟨y, rfl⟩
      · rw [standing_concat_of_none hm, hbefore] at h'
        cases h'
      · rw [standing_concat_asked, hbefore] at h'
        exact ⟨since, r, y, [], rfl, Exchange.closes_of_leaves h', by simp⟩

/-- A connection where a party was disturbed does not count as being in a transaction. -/
theorem Broken.standing (h : Broken log p c) : log.standing c = false := by
  obtain ⟨before, i, n, between, q, x, since, rfl, -, hx, hsince⟩ := h
  rw [← List.cons_append, ← List.append_assoc, List.append_cons]
  refine standing_stays ?_ hsince
  rw [standing_concat_asked]
  exact Exchange.leaves_closes hx

/-- A party that ends no transaction of its own was disturbed where none counts as open any more. -/
theorem Sound.broken (h : Sound log) (hs : Started log p c n) (hn : n ≠ 0)
    (hc : log.standing c = false) (hp : ∀ x, (p, .asked x) ∈ log → ¬x.Closes c) :
    Broken log p c := by
  obtain ⟨i, hi⟩ := hs
  obtain ⟨before, after, rfl⟩ := List.append_of_mem hi
  have hstood : standing (before ++ [(p, .executed i c n)]) c = true := by
    rw [standing_concat_of_none rfl]
    refine eq_true_of_ne_false fun hfalse => hn ?_
    exact (h.executed_of_split rfl).1.mpr hfalse
  rw [List.append_cons] at hc
  obtain ⟨between, q, x, since, rfl, hx, hsince⟩ := exists_closes hstood hc
  refine ⟨before, i, n, between, q, x, since, rfl, ?_, hx, hsince⟩
  rintro rfl
  refine hp x ?_ hx
  simp

/-- **A step starts outside of every transaction** exactly if another party ended the one that the
step's own party had been in, and none was begun since. -/
theorem Sound.executed_iff (h : Sound log) {pre post : Log}
    (hs : log = pre ++ (p, .executed i c n) :: post) : n = 0 ↔ Broken pre p c := by
  obtain ⟨hlevel, hbroken⟩ := h.executed_of_split hs
  exact ⟨hbroken, fun hb => hlevel.mpr hb.standing⟩

/-! ## Whose statements are kept -/

/-- A party committed something. -/
def Committed (log : Log) (p : Party) : Prop :=
  ∃ x, (p, .asked x) ∈ log ∧ x.request.control? = some .commit

/-- What was committed stays so, however the log goes on. -/
theorem Committed.append (h : Committed log p) (log' : Log) : Committed (log ++ log') p := by
  obtain ⟨x, hx, hk⟩ := h
  exact ⟨x, List.mem_append_left _ hx, hk⟩

/-- A statement of a party may have been kept without its doing: it was sent outside of every
transaction, or another party committed it. -/
def Exposed (log : Log) (p : Party) (c : Nat) : Prop :=
  Started log p c 0 ∨ StartedThen log p c (Foreign p)

/-- A statement of a party may have been left waiting: rolling back failed. -/
def Stranded (log : Log) (p : Party) (c : Nat) : Prop := StartedThen log p c Failed

/-- What was exposed stays so, however the log goes on. -/
theorem Exposed.append (h : Exposed log p c) (log' : Log) : Exposed (log ++ log') p c :=
  h.imp (·.append log') (·.append log')

/-- A party that started a step on a connection started one inside of a transaction. -/
def Inside (log : Log) (p : Party) (c : Nat) : Prop := ∃ n, n ≠ 0 ∧ Started log p c n

/-- What stood inside stays so, however the log goes on. -/
theorem Inside.append (h : Inside log p c) (log' : Log) : Inside (log ++ log') p c := by
  obtain ⟨n, hn, hs⟩ := h
  exact ⟨n, hn, hs.append _⟩

/-- A start is among the marks that were there, or it is the new one. -/
theorem started_of_concat (h : Started (log ++ [(q, m)]) p c n) :
    Started log p c n ∨ q = p ∧ ∃ i, m = .executed i c n := by
  obtain ⟨i, hi⟩ := h
  rcases List.mem_append.mp hi with hi | hi
  · exact .inl ⟨i, hi⟩
  · cases List.mem_singleton.mp hi
    exact .inr ⟨rfl, i, rfl⟩

/-- The first step of a party on a connection starts inside of a transaction. -/
theorem Sound.inside (h : Sound log) (hs : Started log p c n) : Inside log p c := by
  induction h generalizing n with
  | nil =>
    obtain ⟨i, hi⟩ := hs
    cases hi
  | silent before silent ih =>
    rcases started_of_concat hs with hs | ⟨-, i, rfl⟩
    · exact (ih hs).append _
    · exact silent.elim
  | @executed log q j c' m before level broken ih =>
    rcases started_of_concat hs with hold | ⟨rfl, i, hm⟩
    · exact (ih hold).append _
    · obtain ⟨-, rfl, rfl⟩ := Mark.executed.inj hm
      by_cases hn : m = 0
      · -- it was disturbed, so it had started another step before
        obtain ⟨pre, i, m, between, q, x, since, rfl, -⟩ := broken hn
        exact (ih ⟨i, List.mem_append_right _ List.mem_cons_self⟩).append _
      · exact ⟨m, hn, hs⟩
  | statement before plain own ih =>
    rcases started_of_concat hs with hs | ⟨-, i, hm⟩
    · exact (ih hs).append _
    · cases hm
  | control before control ih =>
    rcases started_of_concat hs with hs | ⟨-, i, hm⟩
    · exact (ih hs).append _
    · cases hm

/-- What a log says of the statements of a party on a connection. -/
structure Accounts (log : Log) (p : Party) (c : Nat) : Prop where
  /-- where a transaction counts as open, one is -/
  isOpen : log.standing c = true → (log.ledger c).isOpen = true
  /-- nothing waits without a transaction -/
  idle : (log.ledger c).isOpen = false → (log.ledger c).pending = []
  /-- only a party that started a step there has statements -/
  own : p ∈ (log.ledger c).kept ∨ p ∈ (log.ledger c).pending → Inside log p c
  /-- a statement that is kept was exposed, or its own party committed something -/
  kept : p ∈ (log.ledger c).kept → Exposed log p c ∨ Committed log p
  /-- where a transaction is open that does not count, rolling back failed -/
  failed : Inside log p c → (log.ledger c).isOpen = true → log.standing c = false →
    Stranded log p c

/-- **What waits while no transaction counts as open** is stranded. -/
theorem Accounts.pending (h : Accounts log p c) (hp : p ∈ (log.ledger c).pending)
    (hc : log.standing c = false) : Stranded log p c := by
  refine h.failed (h.own (.inr hp)) ?_ hc
  by_contra hopen
  rw [h.idle (eq_false_of_ne_true hopen)] at hp
  cases hp

/-- What changes neither the ledger nor what counts changes nothing. -/
theorem Accounts.append (h : Accounts log p c) (log' : Log)
    (hl : ledger (log ++ log') c = log.ledger c)
    (hs : standing (log ++ log') c = log.standing c)
    (hin : log.standing c = false → Inside (log ++ log') p c → Inside log p c) :
    Accounts (log ++ log') p c := by
  constructor
  case isOpen =>
    rw [hl, hs]
    exact h.isOpen
  case idle =>
    rw [hl]
    exact h.idle
  case own =>
    rw [hl]
    exact fun hp => (h.own hp).append _
  case kept =>
    rw [hl]
    exact fun hp => (h.kept hp).imp (·.append _) (·.append _)
  case failed =>
    rw [hl, hs]
    exact fun hi ho hc => (h.failed (hin hc hi) ho hc).append _

/-- What is asked starts no step. -/
theorem inside_of_concat_asked (h : Inside (log ++ [(q, .asked x)]) p c) : Inside log p c := by
  obtain ⟨n, hn, hs⟩ := h
  rcases started_of_concat hs with hs | ⟨-, i, hm⟩
  · exact ⟨n, hn, hs⟩
  · cases hm

/-- A statement is entered for the one who sent it. -/
theorem Accounts.statement (h : Accounts log p x.connection) (hx : x.request.control? = none)
    {n : Nat} (hlevel : n = 0 ↔ log.standing x.connection = false)
    (hn : Started log q x.connection n) (hin : Inside log q x.connection) :
    Accounts (log ++ [(q, .asked x)]) p x.connection := by
  have hl : ledger (log ++ [(q, .asked x)]) x.connection = (log.ledger x.connection).enter q := by
    rw [ledger_concat_asked, Ledger.after_statement hx]
  have hs : standing (log ++ [(q, .asked x)]) x.connection = log.standing x.connection := by
    rw [standing_concat_asked, Exchange.leaves_statement hx]
  constructor
  case isOpen =>
    rw [hl, hs, Ledger.isOpen_enter]
    exact h.isOpen
  case idle =>
    rw [hl, Ledger.isOpen_enter]
    intro hclosed
    rw [Ledger.enter, hclosed]
    exact h.idle hclosed
  case own =>
    rw [hl, Ledger.mem_enter.1, Ledger.mem_enter.2]
    rintro ((hp | ⟨-, rfl⟩) | (hp | ⟨-, rfl⟩))
    · exact (h.own (.inl hp)).append _
    · exact hin.append _
    · exact (h.own (.inr hp)).append _
    · exact hin.append _
  case kept =>
    rw [hl, Ledger.mem_enter.1]
    rintro (hp | ⟨hclosed, rfl⟩)
    · exact (h.kept hp).imp (·.append _) (·.append _)
    · -- it is kept at once, since no transaction is open
      have hc : log.standing x.connection = false := by
        by_contra hc
        rw [h.isOpen (eq_true_of_ne_false hc)] at hclosed
        cases hclosed
      obtain rfl := hlevel.mpr hc
      exact .inl (.inl (hn.append _))
  case failed =>
    rw [hl, hs, Ledger.isOpen_enter]
    exact fun hi ho hc => (h.failed (inside_of_concat_asked hi) ho hc).append _

/-- A control statement with a reply moves what waits, or opens a transaction. -/
theorem Accounts.answered (h : Accounts log p x.connection) {k : Control}
    (hx : x.request.control? = some k) (hok : x.ending.isOk) :
    Accounts (log ++ [(q, .asked x)]) p x.connection := by
  have hl : ledger (log ++ [(q, .asked x)]) x.connection =
      (log.ledger x.connection).control k := by
    rw [ledger_concat_asked, Ledger.after_control hx hok]
  have hkept (hp : p ∈ (log.ledger x.connection).kept) :
      Exposed (log ++ [(q, .asked x)]) p x.connection ∨ Committed (log ++ [(q, .asked x)]) p :=
    (h.kept hp).imp (·.append _) (·.append _)
  cases k with
  | begin =>
    have hs : standing (log ++ [(q, .asked x)]) x.connection = true := by
      rw [standing_concat_asked]
      exact Exchange.leaves_opens ⟨rfl, hx, hok⟩
    refine ⟨by simp [hl, Ledger.control], by simp [hl, Ledger.control], ?_, ?_, by simp [hs]⟩
    · rw [hl]
      exact fun hp => (h.own hp).append _
    · rw [hl]
      exact hkept
  | commit =>
    have hs : standing (log ++ [(q, .asked x)]) x.connection = false := by
      rw [standing_concat_asked]
      exact Exchange.leaves_closes ⟨rfl, .inl ⟨hx, hok⟩⟩
    refine ⟨by simp [hs], by simp [hl, Ledger.control], ?_, ?_, by simp [hl, Ledger.control]⟩
    · rw [hl]
      exact fun hp => (h.own (by simpa [Ledger.control] using hp)).append _
    · rw [hl]
      intro hp
      rcases List.mem_append.mp hp with hp | hp
      · exact hkept hp
      · -- it had waited, and is kept by whoever commits now
        by_cases hq : q = p
        · subst hq
          exact .inr ⟨x, List.mem_append_right _ (List.mem_singleton_self _), hx⟩
        · obtain ⟨n, -, hn⟩ := h.own (.inr hp)
          exact .inl (.inr (hn.then rfl ⟨hq, hx, hok⟩))
  | rollback =>
    have hs : standing (log ++ [(q, .asked x)]) x.connection = false := by
      rw [standing_concat_asked]
      exact Exchange.leaves_closes ⟨rfl, .inr hx⟩
    refine ⟨by simp [hs], by simp [hl, Ledger.control], ?_, ?_, by simp [hl, Ledger.control]⟩
    · rw [hl]
      exact fun hp => (h.own (.inl (by simpa [Ledger.control] using hp))).append _
    · rw [hl]
      exact hkept

/-- A control statement without a reply changes nothing, but a rollback counts all the same. -/
theorem Accounts.unanswered (h : Accounts log p x.connection) {k : Control}
    (hx : x.request.control? = some k) (hok : ¬x.ending.isOk) :
    Accounts (log ++ [(q, .asked x)]) p x.connection := by
  have hl : ledger (log ++ [(q, .asked x)]) x.connection = log.ledger x.connection := by
    rw [ledger_concat_asked, Ledger.after_failed hx hok]
  by_cases hk : k = .rollback
  · subst hk
    have hs : standing (log ++ [(q, .asked x)]) x.connection = false := by
      rw [standing_concat_asked]
      exact Exchange.leaves_closes ⟨rfl, .inr hx⟩
    refine ⟨by simp [hs], by rw [hl]; exact h.idle, ?_, ?_, ?_⟩
    · rw [hl]
      exact fun hp => (h.own hp).append _
    · rw [hl]
      exact fun hp => (h.kept hp).imp (·.append _) (·.append _)
    · -- from now on a transaction may be open that nobody counts
      intro hi _ _
      obtain ⟨n, -, hn⟩ := inside_of_concat_asked hi
      exact hn.then rfl ⟨hx, hok⟩
  · refine h.append _ hl ?_ fun _ => inside_of_concat_asked
    rw [standing_concat_asked, Exchange.leaves_failed hx hk hok]

/-- **What a sound log says of a party.** -/
theorem Sound.accounts (h : Sound log) (p : Party) (c : Nat) : Accounts log p c := by
  induction h with
  | nil => constructor <;> simp [standing, ledger, entries]
  | @silent log q m before silent ih =>
    refine ih.append _ (ledger_concat_of_none silent.exchange?)
      (standing_concat_of_none silent.exchange?) fun _ => ?_
    rintro ⟨n, hn, hs⟩
    rcases started_of_concat hs with hs | ⟨-, i, rfl⟩
    · exact ⟨n, hn, hs⟩
    · exact silent.elim
  | executed before level broken ih =>
    refine ih.append _ (ledger_concat_of_none rfl) (standing_concat_of_none rfl) fun hc => ?_
    rintro ⟨n, hn, hs⟩
    rcases started_of_concat hs with hs | ⟨-, i, hm⟩
    · exact ⟨n, hn, hs⟩
    · cases hm
      exact absurd (level.mpr hc) hn
  | @statement log q x before plain own ih =>
    by_cases hc : x.connection = c
    · subst hc
      obtain ⟨n, hn, hlevel⟩ := own
      exact ih.statement plain hlevel hn (before.inside hn)
    · refine ih.append _ ?_ ?_ fun _ => inside_of_concat_asked
      · rw [ledger_concat_asked, Ledger.after_of_ne hc]
      · rw [standing_concat_asked, Exchange.leaves_of_ne hc]
  | @control log q x k before control ih =>
    by_cases hc : x.connection = c
    · subst hc
      by_cases hok : x.ending.isOk
      · exact ih.answered control hok
      · exact ih.unanswered control hok
    · refine ih.append _ ?_ ?_ fun _ => inside_of_concat_asked
      · rw [ledger_concat_asked, Ledger.after_of_ne hc]
      · rw [standing_concat_asked, Exchange.leaves_of_ne hc]

end Log

end Tabula
