import Tabula.Proofs.Transaction.Abort

/-!
# Leaving everything that was touched

The commit of a transaction takes leave of its connections one after the other, in the order in
which they were touched. A `Parting` is one leave: the connection was committed, or that failed and
it was rolled back at once. Nothing that one connection answers keeps the next one from being tried.

* `commitAll_parts`: committing connections is parting from each.
* `Parts.parted`: the depths that are left, and what was asked.
* `commit_through`: the commit of a transaction that has run all its steps.
* `Used.nodup`, `Used.touched_grows`: what a transaction has touched, however it was used.
* `commit_leaves_all`: the commit, and what is refused before and after it.
-/

namespace Tabula

namespace Transaction

/-! ## Partings -/

/-- How a connection was left: what the commit failed with, if it did. -/
structure Parting where
  /-- the connection -/
  connection : Nat
  /-- the error of its commit -/
  error? : Option Error

namespace Parting

/-- What is asked for a parting, by the depth of the connection: the commit of a transaction of the
database, and the rollback if that fails. -/
def asks (p : Parting) (depth : Nat) : List (Nat × Request) :=
  if depth = 1 then
    (p.connection, Control.commit.request) ::
      if p.error?.isSome then [(p.connection, Control.rollback.request)] else []
  else []

/-- The depth after a parting. -/
def depthAfter (p : Parting) (depth : Nat) : Nat := if p.error?.isSome then 0 else depth - 1

/-- Whether a commit can fail, by the depth of the connection: outside of every transaction it does,
and an inner one is only counted. -/
def Fits (p : Parting) : Nat → Prop
  | 0 => p.error? = some (.execution "commit without an open transaction")
  | 1 => True
  | _ + 2 => p.error? = none

end Parting

variable {β : Type} [Backend β]

/-- Connections are committed in order. One whose commit fails is rolled back before the next one,
and whatever is answered to that, the next one is tried. -/
inductive Parts : List Parting → Session β → Session β → Prop
  /-- none is left -/
  | nil {s : Session β} : Parts [] s s
  /-- the first one is committed -/
  | kept {c : Nat} {ps : List Parting} {s s₁ s' : Session β}
    (commit : (Session.commit c).run s = (.ok (), s₁)) (rest : Parts ps s₁ s') :
    Parts (⟨c, none⟩ :: ps) s s'
  /-- the first one cannot be committed -/
  | undone {c : Nat} {e : Error} {r : Outcome Unit} {ps : List Parting} {s s₁ s₂ s' : Session β}
    (commit : (Session.commit c).run s = (failWith e, s₁))
    (rollback : (Session.rollback c).run s₁ = (r, s₂)) (answered : r ≠ .error .stuck)
    (rest : Parts ps s₂ s') : Parts (⟨c, some e⟩ :: ps) s s'

/-- Committing a connection, or else rolling it back, is a parting. -/
theorem commitOne_parts {c : Nat} {s s₁ : Session β} {es : List Error}
    (h : (commitOne c).run s = (.ok es, s₁)) :
    ∃ error? : Option Error, es = error?.toList ∧
      ∀ {ps s'}, Parts ps s₁ s' → Parts (⟨c, error?⟩ :: ps) s s' := by
  rw [commitOne] at h
  obtain ⟨r, t, h₁, h⟩ := Action.bind_eq h
  rcases r with (e | _) | ⟨⟨⟩⟩
  · -- the commit failed, so the connection is rolled back
    obtain ⟨r, t', h₂, h⟩ := Action.bind_eq h
    by_cases hstuck : r = .error .stuck
    · -- a rollback that does not end is no answer
      subst hstuck
      cases (Action.pure_eq h).1
    · -- whether the rollback failed or not, the error is that of the commit
      have h : (pure (.ok [e]) : Action β (Outcome (List Error))).run t' = (.ok es, s₁) := by
        rcases r with (e | _) | _
        · exact h
        · exact absurd rfl hstuck
        · exact h
      obtain ⟨heq, rfl⟩ := Action.pure_eq h
      cases heq
      exact ⟨some e, rfl, fun hrest => .undone h₁ h₂ hstuck hrest⟩
  · -- a commit that does not end is no answer either
    cases (Action.pure_eq h).1
  · obtain ⟨heq, rfl⟩ := Action.pure_eq h
    cases heq
    exact ⟨none, rfl, fun hrest => .kept h₁ hrest⟩

/-- **Every connection is tried**: committing connections in order is parting from each. -/
theorem commitAll_parts {cs : List Nat} {s s' : Session β} {es : List Error}
    (h : (commitAll cs).run s = (.ok es, s')) :
    ∃ ps : List Parting, ps.map Parting.connection = cs ∧ ps.filterMap Parting.error? = es ∧
      Parts ps s s' := by
  -- on the connections: each is parted from behind those in front of it
  induction cs generalizing s es with
  | nil =>
    obtain ⟨heq, rfl⟩ := Action.pure_eq h
    cases heq
    exact ⟨[], rfl, rfl, .nil⟩
  | cons c cs ih =>
    rw [commitAll] at h
    obtain ⟨o, s₁, h₁, h⟩ := Action.bind_eq h
    -- a first that did not end would have been the end of all
    rcases o with halt | es₁
    · cases (Action.pure_eq h).1
    obtain ⟨o, s₂, h₂, h⟩ := Action.bind_eq h
    obtain ⟨heq, rfl⟩ := Action.pure_eq h
    rcases o with halt | es₂
    · cases heq
    cases heq
    obtain ⟨error?, rfl, hfirst⟩ := commitOne_parts h₁
    obtain ⟨ps, rfl, rfl, hrest⟩ := ih h₂
    refine ⟨⟨c, error?⟩ :: ps, rfl, ?_, hfirst hrest⟩
    cases error? <;> rfl

/-! ## What a parting leaves -/

/-- What becomes of the first connection, and the exchanges for that. -/
structure Leaves (p : Parting) (s s' : Session β) (xs : List Exchange) : Prop where
  /-- only its depth is another one -/
  leads : s.Leads (xs.map .asked)
    (Function.update s.depth p.connection (p.depthAfter (s.depth p.connection))) s'
  /-- one level was left if it was committed -/
  entered : p.error? = none → s.depth p.connection ≠ 0
  /-- it fails where it has to -/
  fits : p.Fits (s.depth p.connection)
  /-- what was asked -/
  asked : requests xs = p.asks (s.depth p.connection)

theorem leaves_of_kept {c : Nat} {s s' : Session β} (h : (Session.commit c).run s = (.ok (), s')) :
    ∃ xs, Leaves ⟨c, none⟩ s s' xs := by
  obtain ⟨ms, d, hc, hl⟩ := Session.commit_run h
  cases hc with
  -- an inner transaction is left by counting
  | @nested n level =>
    refine ⟨[], ?_, fun _ => ?_, ?_, ?_⟩
    · rw [level]
      exact hl
    · rw [level]
      exact Nat.succ_ne_zero _
    · rw [level]
      rfl
    · rw [level]
      rfl
  -- the outermost one is left by a `COMMIT` that was carried out
  | @kept sets level =>
    refine ⟨[⟨c, Control.commit.request, .ok sets⟩], ?_, fun _ => ?_, ?_, ?_⟩
    · rw [level]
      exact hl
    · rw [level]
      exact Nat.one_ne_zero
    · rw [level]
      trivial
    · rw [level]
      rfl

/-- Outside of every transaction there is nothing to commit. -/
theorem commit_of_closed {c : Nat} {s : Session β} (closed : s.depth c = 0) :
    (Session.commit c).run s =
      (failWith (.execution "commit without an open transaction"), s) := by
  rw [Session.commit, Action.run_get_bind, closed]
  rfl

theorem leaves_of_undone {c : Nat} {e : Error} {r : Outcome Unit} {s s₁ s' : Session β}
    (hcommit : (Session.commit c).run s = (failWith e, s₁))
    (hrollback : (Session.rollback c).run s₁ = (r, s')) : ∃ xs, Leaves ⟨c, some e⟩ s s' xs := by
  obtain ⟨ms, d, hc, hl⟩ := Session.commit_run hcommit
  obtain ⟨ns, d', hr, hl'⟩ := Session.rollback_run hrollback
  rw [hl.depth] at hr
  have hleads := hl.trans hl'
  have hfailed (h : some e = none) : s.depth c ≠ 0 := absurd h (Option.some_ne_none e)
  generalize ho : failWith e = o at hc
  cases hc with
  | closed closed =>
    -- there is nothing to roll back either
    cases hcommit.symm.trans (commit_of_closed closed)
    cases hr with
    | sent open_ => exact absurd closed open_
    | closed =>
      refine ⟨[], ?_, hfailed, ?_, ?_⟩
      · have hstay : Function.update s.depth c 0 = s.depth := by
          rw [← closed, Function.update_eq_self]
        exact hstay.symm ▸ hleads
      · rw [closed]
        rfl
      · rw [closed]
        rfl
  | nested level => cases ho
  | kept level => cases ho
  | @refused halt level =>
    cases hr with
    | closed closed => omega
    | @sent ending open_ =>
      refine ⟨[⟨c, Control.commit.request, .error halt⟩, ⟨c, Control.rollback.request, ending⟩],
        hleads, hfailed, ?_, ?_⟩
      · rw [level]
        trivial
      · rw [level]
        rfl

/-- What becomes of all of them: the depths before and after, and what was asked. -/
structure Parted (ps : List Parting) (s s' : Session β) : Prop where
  /-- a connection that was committed is in one transaction less -/
  kept : ∀ p ∈ ps, p.error? = none → s'.depth p.connection + 1 = s.depth p.connection
  /-- one whose commit failed is in none -/
  undone : ∀ p ∈ ps, p.error?.isSome → s'.depth p.connection = 0
  /-- all others stay -/
  elsewhere : ∀ c ∉ ps.map Parting.connection, s'.depth c = s.depth c
  /-- a commit fails where it has to -/
  fits : ∀ p ∈ ps, p.Fits (s.depth p.connection)
  /-- the outermost transactions are committed through the backend, and rolled back if that fails;
  and that is all -/
  asked : ∃ xs : List Exchange, s'.trace = s.trace ++ xs.map .asked ∧
    requests xs = ps.flatMap fun p => p.asks (s.depth p.connection)

omit [Backend β] in
theorem requests_append (xs ys : List Exchange) :
    requests (xs ++ ys) = requests xs ++ requests ys :=
  List.map_append

/-- One parting, and then the others. -/
theorem Leaves.cons {p : Parting} {ps : List Parting} {s s₁ s' : Session β} {xs : List Exchange}
    (h : Leaves p s s₁ xs) (hrest : Parted ps s₁ s')
    (hp : p.connection ∉ ps.map Parting.connection) : Parted (p :: ps) s s' := by
  have hfirst : s'.depth p.connection = p.depthAfter (s.depth p.connection) := by
    rw [hrest.elsewhere _ hp, h.leads.depth, Function.update_self]
  -- the connections behind are others, so they are as they were before
  have hbehind : ∀ q ∈ ps, s₁.depth q.connection = s.depth q.connection := by
    intro q hq
    rw [h.leads.depth, Function.update_of_ne]
    intro heq
    exact hp (heq ▸ List.mem_map_of_mem hq)
  constructor
  case kept =>
    rw [List.forall_mem_cons]
    refine ⟨fun hnone => ?_, fun q hq hnone => ?_⟩
    · have hentered := h.entered hnone
      rw [hfirst, Parting.depthAfter, hnone]
      exact Nat.sub_add_cancel (Nat.pos_of_ne_zero hentered)
    · rw [hrest.kept q hq hnone, hbehind q hq]
  case undone =>
    rw [List.forall_mem_cons]
    refine ⟨fun hsome => ?_, hrest.undone⟩
    rw [hfirst, Parting.depthAfter, if_pos hsome]
  case elsewhere =>
    intro c hc
    rw [List.map_cons, List.mem_cons, not_or] at hc
    rw [hrest.elsewhere c hc.2, h.leads.depth, Function.update_of_ne hc.1]
  case fits =>
    rw [List.forall_mem_cons]
    refine ⟨h.fits, fun q hq => ?_⟩
    rw [← hbehind q hq]
    exact hrest.fits q hq
  case asked =>
    obtain ⟨ys, hys, hasked⟩ := hrest.asked
    refine ⟨xs ++ ys, by rw [hys, h.leads.trace, List.append_assoc, List.map_append], ?_⟩
    rw [requests_append, h.asked, hasked, List.flatMap_cons]
    refine congrArg _ (List.flatMap_congr fun q hq => ?_)
    rw [hbehind q hq]

/-- **What all partings leave**, if each connection is left once. -/
theorem Parts.parted {ps : List Parting} {s s' : Session β} (h : Parts ps s s')
    (hn : (ps.map Parting.connection).Nodup) : Parted ps s s' := by
  induction h with
  | nil => exact ⟨by simp, by simp, fun _ _ => rfl, by simp, [], (List.append_nil _).symm, rfl⟩
  | kept commit rest ih =>
    obtain ⟨hp, hn⟩ := List.nodup_cons.mp hn
    obtain ⟨xs, hleaves⟩ := leaves_of_kept commit
    exact hleaves.cons (ih hn) hp
  | undone commit rollback answered rest ih =>
    obtain ⟨hp, hn⟩ := List.nodup_cons.mp hn
    obtain ⟨xs, hleaves⟩ := leaves_of_undone commit rollback
    exact hleaves.cons (ih hn) hp

/-! ## The commit of a transaction -/

/-- The answer of a commit, by the errors of its connections. -/
def answerOfCommit : List Error → Outcome Unit
  | [] => .ok ()
  | failures => failWith (.commitFailed failures)

/-- A transaction is committed: it parts from each connection that it has touched, in order, and it
is over. -/
def CommitsThrough (t : Transaction) (s : Session β) (o : Outcome Unit) (t' : Transaction)
    (s' : Session β) : Prop :=
  ∃ ps : List Parting, ps.map Parting.connection = t.touched ∧ Parts ps s s' ∧ Parted ps s s' ∧
    o = answerOfCommit (ps.filterMap Parting.error?) ∧
    t' = { t with touched := [], phase := .committed }

/-- All that was done was to ask backends, and one of them gave no answer. -/
def Unanswered (s s' : Session β) : Prop :=
  ∃ xs : List Exchange, s'.trace = s.trace ++ xs.map .asked ∧ ∃ x ∈ xs, x.ending = .error .stuck

section Asked

omit [Backend β]

variable {d d' : Nat → Nat} {c : Nat} {o : Outcome Unit} {ms : List Mark}

/-- Rolling back asks for nothing else, and gets stuck only where there is no answer. -/
theorem asked_of_rollsBack (h : Session.RollsBack d c o ms d') :
    ∃ xs : List Exchange, ms = xs.map .asked ∧
      (∀ x ∈ xs, x.connection = c ∧ x.request = Control.rollback.request) ∧
      (o = .error .stuck → ∃ x ∈ xs, x.ending = .error .stuck) := by
  cases h with
  | closed closed => exact ⟨[], rfl, by simp, nofun⟩
  | @sent ending open_ =>
    refine ⟨[⟨c, Control.rollback.request, ending⟩], rfl, by simp, fun ho => ?_⟩
    rcases ending with halt | sets
    · cases ho
      exact ⟨_, List.mem_singleton_self _, rfl⟩
    · cases ho

theorem asked_of_commits (h : Session.Commits d c o ms d') :
    ∃ xs : List Exchange, ms = xs.map .asked ∧
      (o = .error .stuck → ∃ x ∈ xs, x.ending = .error .stuck) := by
  cases h with
  | closed closed => exact ⟨[], rfl, nofun⟩
  | nested level => exact ⟨[], rfl, nofun⟩
  | @kept sets level => exact ⟨[⟨c, Control.commit.request, .ok sets⟩], rfl, nofun⟩
  | @refused halt level =>
    refine ⟨[⟨c, Control.commit.request, .error halt⟩], rfl, fun ho => ?_⟩
    cases ho
    exact ⟨_, List.mem_singleton_self _, rfl⟩

end Asked

theorem CommitsOne.asked {d d' : Nat → Nat} {c : Nat} {o : Outcome (List Error)}
    {ms : List Mark} (h : CommitsOne d c o ms d') :
    ∃ xs : List Exchange, ms = xs.map .asked ∧
      (o = .error .stuck → ∃ x ∈ xs, x.ending = .error .stuck) := by
  -- one commit at most, and behind a failed one a rollback
  cases h with
  | kept commits =>
    obtain ⟨xs, rfl, -⟩ := asked_of_commits commits
    exact ⟨xs, rfl, nofun⟩
  | stuck commits =>
    obtain ⟨xs, rfl, hstuck⟩ := asked_of_commits commits
    exact ⟨xs, rfl, fun _ => hstuck rfl⟩
  | undone commits rollsBack answered =>
    obtain ⟨xs, rfl, -⟩ := asked_of_commits commits
    obtain ⟨ys, rfl, -⟩ := asked_of_rollsBack rollsBack
    exact ⟨xs ++ ys, List.map_append.symm, nofun⟩
  -- the rollback behind a failed commit is what does not end
  | lost commits rollsBack =>
    obtain ⟨xs, rfl, -⟩ := asked_of_commits commits
    obtain ⟨ys, rfl, -, hstuck⟩ := asked_of_rollsBack rollsBack
    obtain ⟨x, hx, hending⟩ := hstuck rfl
    exact ⟨xs ++ ys, List.map_append.symm, fun _ => ⟨x, List.mem_append_right _ hx, hending⟩⟩

/-- Committing connections gets stuck only where there is no answer. -/
theorem CommitsAll.asked {d d' : Nat → Nat} {cs : List Nat} {o : Outcome (List Error)}
    {ms : List Mark} (h : CommitsAll d cs o ms d') :
    ∃ xs : List Exchange, ms = xs.map .asked ∧
      (o = .error .stuck → ∃ x ∈ xs, x.ending = .error .stuck) := by
  induction h with
  | nil => exact ⟨[], rfl, nofun⟩
  | stuck first => exact first.asked
  | @cons _ _ _ _ _ _ o _ _ first rest ih =>
    obtain ⟨xs, rfl, -⟩ := first.asked
    obtain ⟨ys, rfl, hstuck⟩ := ih
    refine ⟨xs ++ ys, List.map_append.symm, fun ho => ?_⟩
    rcases o with halt | es
    · obtain ⟨x, hx, hending⟩ := hstuck ho
      exact ⟨x, List.mem_append_right _ hx, hending⟩
    · cases ho

/-- **The commit of a transaction that has run all its steps** goes through all connections, unless
one of them does not answer. -/
theorem commit_through {t t' : Transaction} {s s' : Session β} {o : Outcome Unit}
    (hrunning : t.phase = .running) (hall : t.steps.length ≤ t.next) (hn : t.touched.Nodup)
    (h : t.commit.run s = ((o, t'), s')) :
    o = .error .stuck ∧ Unanswered s s' ∨ CommitsThrough t s o t' s' := by
  rw [commit, Action.run_ite, if_neg (fun h => isFinished_iff.mp h hrunning), Action.run_ite,
    if_neg (Nat.not_lt.mpr hall)] at h
  obtain ⟨r, s₁, h₁, h⟩ := Action.bind_eq h
  -- something did not end, so there is no answer
  rcases r with halt | es
  · obtain ⟨heq, rfl⟩ := Action.pure_eq h
    cases heq
    obtain ⟨ms, d, hc, hl⟩ := commitAll_run h₁
    obtain rfl := hc.halt rfl
    obtain ⟨xs, rfl, hstuck⟩ := hc.asked
    exact .inl ⟨rfl, xs, hl.trace, hstuck rfl⟩
  · obtain ⟨ps, hps, rfl, hparts⟩ := commitAll_parts h₁
    -- whatever failed, the transaction is over
    have h : (o, t') = (answerOfCommit (ps.filterMap Parting.error?),
        { t with touched := [], phase := .committed }) ∧ s' = s₁ := by
      generalize ps.filterMap Parting.error? = es at h ⊢
      cases es <;> exact Action.pure_eq h
    obtain ⟨heq, rfl⟩ := h
    obtain ⟨rfl, rfl⟩ := Prod.mk.inj heq
    exact .inr ⟨ps, hps, hparts, hparts.parted (hps ▸ hn), rfl, rfl⟩

/-- Before that it is refused, and nothing changes. -/
theorem commit_early {t : Transaction} (hrunning : t.phase = .running)
    (hearly : t.next < t.steps.length) (s : Session β) :
    t.commit.run s = ((failWith (.invalidInput ("cannot commit with " ++
      toString (t.steps.length - t.next) ++ " step(s) not yet executed")), t), s) := by
  rw [commit, Action.run_ite, if_neg (fun h => isFinished_iff.mp h hrunning), Action.run_ite,
    if_pos hearly]
  rfl

/-! ## The life of a transaction -/

/-- What is done with a transaction. -/
inductive Use where
  /-- a step is added -/
  | add (step : Step)
  /-- the next step is run -/
  | next
  /-- all steps are run, and it is committed -/
  | execute
  /-- it is committed -/
  | commit
  /-- it is rolled back -/
  | rollback
  /-- it is cleared -/
  | clear

/-- Something is done with a transaction. -/
def use (t : Transaction) : Use → Action β (Outcome Unit × Transaction)
  | .add step => return (.ok (), t.add step)
  | .next => do
    let (o, t) ← t.executeNext
    return (o.map fun _ => (), t)
  | .execute => do
    let (o, t) ← t.execute
    return (o.map fun _ => (), t)
  | .commit => t.commit
  | .rollback => t.rollback
  | .clear => return (.ok (), t.clear)

/-- What a transaction is after some uses, each in whatever session and with whatever answer. -/
inductive Used (β : Type) [Backend β] (t : Transaction) : List Use → Transaction → Prop
  /-- it was not used -/
  | fresh : Used β t [] t
  /-- it was used once more -/
  | more {us : List Use} {u : Use} {t₁ t' : Transaction} {s s' : Session β} {o : Outcome Unit}
    (before : Used β t us t₁) (run : (t₁.use u).run s = ((o, t'), s')) : Used β t (us ++ [u]) t'

section Nodup

variable {t t' : Transaction} {s s' : Session β}

theorem Stays.nodup (h : t.Stays t') (hn : t.touched.Nodup) : t'.touched.Nodup := by
  rcases h.touched with heq | ⟨c, hc, heq⟩
  · rw [heq]
    exact hn
  · rw [heq]
    rw [← List.concat_eq_append]
    exact hn.concat hc

theorem NextRun.nodup {o : Outcome (Option Nat)} (h : NextRun t s o t' s')
    (hn : t.touched.Nodup) : t'.touched.Nodup := by
  cases h with
  | finished ended => exact hn
  | exhausted running all => exact hn
  | ran running some run => exact (runStep_stays run).nodup hn
  | aborted running some run rollsBack leads => exact List.nodup_nil
  | lost running some run rollsBack leads => exact List.nodup_nil
  | stuck running some run => exact (runStep_stays run).nodup hn

/-- As long as it is running, what it touches comes behind what it has touched. -/
theorem NextRun.touched_grows {o : Outcome (Option Nat)} (h : NextRun t s o t' s')
    (hrunning : t'.phase = .running) : t.phase = .running ∧ t.touched <+: t'.touched := by
  have hstays {t₁ : Transaction} (h : t.Stays t₁) : t.touched <+: t₁.touched := by
    rcases h.touched with heq | ⟨c, -, heq⟩
    · exact heq ▸ List.prefix_rfl
    · exact heq ▸ List.prefix_append _ _
  cases h with
  | finished ended => exact absurd hrunning ended
  | exhausted running all => exact ⟨running, List.prefix_rfl⟩
  | ran running some run =>
    have hgrown := hstays (runStep_stays run)
    exact ⟨running, hgrown⟩
  | aborted running some run rollsBack leads => cases hrunning
  | lost running some run rollsBack leads => cases hrunning
  | stuck running some run => exact ⟨running, hstays (runStep_stays run)⟩

theorem Ran.nodup {n : Nat} (h : Ran t s n t' s') (hn : t.touched.Nodup) : t'.touched.Nodup := by
  induction h with
  | start => exact hn
  | step before run ih => exact (executeNext_run run).nodup ih

theorem commit_nodup {o : Outcome Unit} (h : t.commit.run s = ((o, t'), s'))
    (hn : t.touched.Nodup) : t'.touched.Nodup := by
  obtain ⟨ms, d, hrun, -⟩ := commit_run h
  cases hrun with
  | refused early => exact hn
  | stuck running commits => exact List.nodup_nil
  | left running all commits kept => exact List.nodup_nil

theorem use_nodup {u : Use} {o : Outcome Unit} (h : (t.use u).run s = ((o, t'), s'))
    (hn : t.touched.Nodup) : t'.touched.Nodup := by
  -- what is touched grows at the end or is emptied, whatever is used
  cases u with
  | add step =>
    obtain ⟨heq, -⟩ := Action.pure_eq h
    cases heq
    exact hn
  | next =>
    obtain ⟨⟨o₁, t₁⟩, s₁, h₁, h⟩ := Action.bind_eq h
    obtain ⟨heq, -⟩ := Action.pure_eq h
    cases heq
    exact (executeNext_run h₁).nodup hn
  | execute =>
    obtain ⟨⟨o₁, t₁⟩, s₁, h₁, h⟩ := Action.bind_eq h
    obtain ⟨heq, -⟩ := Action.pure_eq h
    cases heq
    cases execute_run h₁ with
    | broken ran run => exact (executeNext_run run).nodup (ran.nodup hn)
    | unkept ran commit => exact commit_nodup commit (ran.nodup hn)
    | done ran commit =>
      -- what is touched is that of the commit, only the outcome is added
      have hleft := commit_nodup commit (ran.nodup hn)
      exact hleft
  | commit => exact commit_nodup h hn
  | rollback =>
    obtain ⟨ms, d, hrun, -⟩ := rollback_run h
    cases hrun with
    | refused ended => exact hn
    | stuck running rollsBack => exact List.nodup_nil
    | left running rollsBack answer => exact List.nodup_nil
  | clear =>
    obtain ⟨heq, -⟩ := Action.pure_eq h
    cases heq
    exact hn

end Nodup

/-- **A connection counts as touched once**, however a transaction was used. -/
theorem Used.nodup {t t' : Transaction} {us : List Use} (h : Used β t us t')
    (hn : t.touched.Nodup) : t'.touched.Nodup := by
  induction h with
  | fresh => exact hn
  | more before run ih => exact use_nodup run ih

/-- **What was touched first stands first**: while a transaction goes on by single steps, what it
touches comes behind what it has touched. -/
theorem Used.touched_grows {t t' : Transaction} {us : List Use} (h : Used β t us t')
    (hus : ∀ u ∈ us, u = .next ∨ ∃ step, u = .add step) (hrunning : t'.phase = .running) :
    t.touched <+: t'.touched := by
  induction h with
  | fresh => exact List.prefix_rfl
  | @more us u t₁ t' s s' o before run ih =>
    obtain ⟨hbefore, hu⟩ := List.forall_mem_append.mp hus
    rcases hu u (List.mem_singleton_self u) with rfl | ⟨step, rfl⟩
    · obtain ⟨⟨o₁, t₂⟩, s₁, h₁, run⟩ := Action.bind_eq run
      obtain ⟨heq, -⟩ := Action.pure_eq run
      cases heq
      obtain ⟨hfirst, hlater⟩ := (executeNext_run h₁).touched_grows hrunning
      exact (ih hbefore hfirst).trans hlater
    · obtain ⟨heq, -⟩ := Action.pure_eq run
      cases heq
      exact ih hbefore hrunning

/-- Every call of a transaction is refused, and changes nothing. -/
structure Refuses (β : Type) [Backend β] (t : Transaction) : Prop where
  /-- the next step is not run -/
  next : ∀ s : Session β, t.executeNext.run s = ((failWith finished, t), s)
  /-- neither are all of them -/
  execute : ∀ s : Session β, t.execute.run s = ((failWith finished, t), s)
  /-- it is not committed -/
  commit : ∀ s : Session β, t.commit.run s = ((failWith finished, t), s)
  /-- nor rolled back -/
  rollback : ∀ s : Session β, t.rollback.run s = ((failWith finished, t), s)

/-- **A transaction that is over refuses every call.** -/
theorem refuses_of_phase {t : Transaction} (h : t.phase ≠ .running) : t.Refuses β := by
  have hnext (s : Session β) : t.executeNext.run s = ((failWith finished, t), s) := by
    rw [executeNext, Action.run_ite, if_pos (isFinished_iff.mpr h)]
    rfl
  refine ⟨hnext, fun s => ?_, fun s => ?_, fun s => ?_⟩
  · have hsteps : (runSteps (t.steps.length - t.next + 1) t).run s =
        ((failWith finished, t), s) := by
      rw [runSteps]
      exact Action.run_bind _ (hnext s)
    rw [execute]
    exact Action.run_bind _ hsteps
  · rw [commit, Action.run_ite, if_pos (isFinished_iff.mpr h)]
    rfl
  · rw [rollback, Action.run_ite, if_pos (isFinished_iff.mpr h)]
    rfl

/-- It stays over until it is cleared. -/
theorem Used.phase {t t' : Transaction} {us : List Use} (h : Used β t us t')
    (hclear : ∀ u ∈ us, u ≠ .clear) (hover : t.phase ≠ .running) : t'.phase ≠ .running := by
  induction h with
  | fresh => exact hover
  | @more us u t₁ t' s s' o before run ih =>
    obtain ⟨hbefore, hu⟩ := List.forall_mem_append.mp hclear
    -- a transaction that is over refuses everything but to be cleared
    have hrefuses : t₁.Refuses β := refuses_of_phase (ih hbefore)
    have hkept : t'.phase = t₁.phase := by
      cases u with
      | add step =>
        obtain ⟨heq, -⟩ := Action.pure_eq run
        cases heq
        rfl
      | next =>
        have hrun := (Action.run_bind _ (hrefuses.next s)).symm.trans run
        cases hrun
        rfl
      | execute =>
        have hrun := (Action.run_bind _ (hrefuses.execute s)).symm.trans run
        cases hrun
        rfl
      | commit =>
        have hrun := (hrefuses.commit s).symm.trans run
        cases hrun
        rfl
      | rollback =>
        have hrun := (hrefuses.rollback s).symm.trans run
        cases hrun
        rfl
      | clear => exact absurd rfl (hu _ (List.mem_singleton_self _))
    rw [hkept]
    exact ih hbefore

/-- **The commit of a transaction tries every connection that it has touched, and finishes it.**
However it was used before, a connection counts as touched once, and what was touched first stands
first. While steps remain, the commit is refused and nothing changes. When all have run, it parts
from each connection in order: each is committed, and if that fails it is rolled back at once and is
in no transaction any more, while the others are in one less. It fails with the errors of the
commits that failed, in order, and succeeds if there are none; only where something that is asked
gets no answer it does not come to an end. After that every call is refused until it is cleared. -/
theorem commit_leaves_all {t₀ t : Transaction} {us : List Use} (hnew : t₀.IsNew)
    (hused : Used β t₀ us t) (hrunning : t.phase = .running) (s : Session β) :
    t.touched.Nodup ∧
    (∀ t₁ vs, Used β t₁ vs t → (∀ v ∈ vs, v = .next ∨ ∃ step, v = .add step) →
      t₁.touched <+: t.touched) ∧
    (t.next < t.steps.length → t.commit.run s =
      ((failWith (.invalidInput ("cannot commit with " ++
        toString (t.steps.length - t.next) ++ " step(s) not yet executed")), t), s)) ∧
    (t.steps.length ≤ t.next → ∀ o t' s', t.commit.run s = ((o, t'), s') →
      o = .error .stuck ∧ Unanswered s s' ∨
      CommitsThrough t s o t' s' ∧
        ∀ vs u, Used β t' vs u → (∀ v ∈ vs, v ≠ .clear) → u.Refuses β) := by
  have hn : t.touched.Nodup := hused.nodup (hnew.touched ▸ List.nodup_nil)
  refine ⟨hn, fun t₁ vs h hvs => h.touched_grows hvs hrunning,
    fun hearly => commit_early hrunning hearly s,
    fun hall o t' s' hrun => ?_⟩
  -- the commit is stuck, or it has parted from every connection
  rcases commit_through hrunning hall hn hrun with hstuck | hthrough
  · exact .inl hstuck
  · obtain ⟨ps, -, -, -, -, rfl⟩ := id hthrough
    exact .inr ⟨hthrough, fun vs u hu hclear => refuses_of_phase (hu.phase hclear nofun)⟩

/-- A statement on a connection that is in a transaction already, and a procedure on another one
that rolls back its own connection. -/
def walkingOut : Transaction where
  steps :=
    [.routine (.query { connection := some 0, sql := "DELETE FROM t", type := .delete }),
      .routine (.stub
        { name := "quitter", connection := some 1, runs := [{ deeds := [.call (.rollback 1)] }] })]
  results := [none, none]

/-- Two connections, the first of them in a transaction. -/
def halfOpen : Session Willing :=
  { connections := [{ backend := .willing, depth := 1 }, { backend := .willing }] }

/-- Both steps have run. -/
def walkedOut : Transaction × Session Willing :=
  let first := (walkingOut.use .next).run halfOpen
  let second := (first.1.2.use .next).run first.2
  (second.1.2, second.2)

/-- The first connection is left by one level, and the second has no transaction to commit; the
commit says so, and it is over. -/
theorem commit_leaves_all_walkingOut :
    walkingOut.IsNew ∧ Used Willing walkingOut [.next, .next] walkedOut.1 ∧
      walkedOut.1.phase = .running ∧ walkedOut.1.touched = [0, 1] ∧ walkedOut.2.depth 0 = 2 ∧
      ∃ (t' : Transaction) (s' : Session Willing),
        CommitsThrough walkedOut.1 walkedOut.2
          (failWith (.commitFailed [.execution "commit without an open transaction"])) t' s' ∧
        s'.depth 0 = 1 ∧ s'.depth 1 = 0 ∧ t'.Refuses Willing := by
  -- the second step leaves the second connection with nothing to commit
  have hnew : walkingOut.IsNew := ⟨rfl, rfl, rfl⟩
  have h₁ : ((walkingOut.use .next).run halfOpen).1.1 = .ok () := by with_unfolding_all rfl
  have h₂ : ((((walkingOut.use .next).run halfOpen).1.2.use .next).run
      ((walkingOut.use .next).run halfOpen).2).1.1 = .ok () := by with_unfolding_all rfl
  have hused : Used Willing walkingOut [.next, .next] walkedOut.1 :=
    (Used.fresh.more (run_of_answer h₁)).more (run_of_answer h₂)
  have hrunning : walkedOut.1.phase = .running := by with_unfolding_all rfl
  have htouched : walkedOut.1.touched = [0, 1] := by with_unfolding_all rfl
  -- the first connection was in a transaction before, so its commit only counts
  have hdepth : walkedOut.2.depth 0 = 2 := by with_unfolding_all rfl
  have hall : walkedOut.1.steps.length ≤ walkedOut.1.next := by with_unfolding_all decide
  have h₃ : (walkedOut.1.commit.run walkedOut.2).1.1 =
      failWith (.commitFailed [.execution "commit without an open transaction"]) := by
    with_unfolding_all rfl
  obtain ⟨-, -, -, hcommit⟩ := commit_leaves_all hnew hused hrunning walkedOut.2
  rcases hcommit hall _ _ _ (run_of_answer h₃) with ⟨hstuck, -⟩ | ⟨hthrough, hover⟩
  · cases hstuck
  · refine ⟨hnew, hused, hrunning, htouched, hdepth, _, _, hthrough, ?_, ?_,
      hover [] _ .fresh (by simp)⟩
    · with_unfolding_all rfl
    · with_unfolding_all rfl

end Transaction

end Tabula
