import Tabula.Proofs.Procedure.Singly
import Tabula.Proofs.Sqlite.Deleting

/-!
# Criteria that overtake others

Criteria of one shape run together. So a criterion can run before one that was queued in front of
it: it overtakes it, if its shape had appeared before the shape of the other. A write that overtakes
another one comes to nothing where the other writes the same. What a template leaves is what its
criteria leave one by one in the order of the batches, and it is what they leave in the order of the
queue if those that change places can do so.

* `steps_inGroups`: steps that change places if they can.
* `Template.steps_effect_eq_some`: a walk over criteria makes their effects.
* `Template.commute_of_deletedFrom?`: criteria that delete from one table change places.
* `StatementSet.execute_leaves`: what a template leaves.
-/

namespace Tabula

/-! ## Steps that change places -/

section

variable {α δ γ : Type} [DecidableEq δ] {f : α → γ → Option γ}

/-- Two steps one after the other are the same in either order. -/
def Commute (f : α → γ → Option γ) (x y : α) : Prop :=
  ∀ g, (f x g).bind (f y) = (f y g).bind (f x)

/-- Of two keys one appears before the other in a list, or the other does not appear at all. -/
def Precedes (ks : List δ) (k l : δ) : Prop := ks.idxOf k < ks.idxOf l

theorem Precedes.of_filter {ks : List δ} {k l m : δ} (hk : k ≠ m) (hl : l ≠ m)
    (h : Precedes (ks.filter fun x => !decide (x = m)) k l) : Precedes ks k l := by
  induction ks with
  | nil => exact h
  | cons x ks ih =>
    rw [Precedes, List.idxOf_cons, List.idxOf_cons]
    by_cases hx : x = m
    · -- what is left out stands in front of both
      rw [List.filter_cons_of_neg (by simpa using hx)] at h
      have hxk : ¬x == k := by simpa [hx] using hk.symm
      have hxl : ¬x == l := by simpa [hx] using hl.symm
      simp only [hxk, hxl]
      exact Nat.succ_lt_succ (ih h)
    · rw [List.filter_cons_of_pos (by simpa using hx), Precedes, List.idxOf_cons,
        List.idxOf_cons] at h
      by_cases hxl : x == l
      · simp [hxl] at h
      · by_cases hxk : x == k
        · simp [hxk, hxl]
        · simp only [hxk, hxl] at h ⊢
          exact Nat.succ_lt_succ (ih (Nat.lt_of_succ_lt_succ h))

theorem Commute.symm {x y : α} (h : Commute f x y) : Commute f y x := fun g => (h g).symm

/-- Steps one after the other, until one fails. -/
def steps (f : α → γ → Option γ) (xs : List α) (g : γ) : Option γ :=
  xs.foldlM (fun g x => f x g) g

@[simp] theorem steps_cons (x : α) (xs : List α) (g : γ) :
    steps f (x :: xs) g = (f x g).bind (steps f xs) := rfl

theorem steps_append (xs ys : List α) (g : γ) :
    steps f (xs ++ ys) g = (steps f xs g).bind (steps f ys) := by
  rw [steps, List.foldlM_append]
  rfl

/-- A step goes in front of others that it commutes with. -/
theorem steps_cons_of_commute {x : α} {ys zs : List α} (h : ∀ y ∈ ys, Commute f y x) (g : γ) :
    steps f (ys ++ x :: zs) g = steps f (x :: (ys ++ zs)) g := by
  induction ys generalizing g with
  | nil => rfl
  | cons y ys ih =>
    have hy := h y List.mem_cons_self
    calc steps f (y :: (ys ++ x :: zs)) g
        = (f y g).bind (steps f (x :: (ys ++ zs))) :=
          Option.bind_congr fun g' _ => ih (fun y' hy' => h y' (List.mem_cons_of_mem y hy')) g'
      _ = ((f y g).bind (f x)).bind (steps f (ys ++ zs)) := (Option.bind_assoc ..).symm
      _ = ((f x g).bind (f y)).bind (steps f (ys ++ zs)) := by rw [hy g]
      _ = steps f (x :: (y :: ys ++ zs)) g := Option.bind_assoc ..

/-- The steps of one kind go in front of the others. -/
theorem steps_filter_append {p : α → Bool} {xs : List α}
    (h : xs.Pairwise fun x y => ¬p x → p y → Commute f x y) (g : γ) :
    steps f xs g = steps f (xs.filter p ++ xs.filter fun x => !p x) g := by
  induction xs generalizing g with
  | nil => rfl
  | cons x xs ih =>
    obtain ⟨hx, hxs⟩ := List.pairwise_cons.mp h
    by_cases hp : p x
    · rw [List.filter_cons_of_pos hp, List.filter_cons_of_neg (by simpa using hp)]
      exact Option.bind_congr fun g' _ => ih hxs g'
    · rw [List.filter_cons_of_neg hp, List.filter_cons_of_pos (by simpa using hp),
        steps_cons_of_commute fun y hy => ?_]
      · exact Option.bind_congr fun g' _ => ih hxs g'
      · obtain ⟨hmem, hpy⟩ := List.mem_filter.mp hy
        exact (hx y hmem hp hpy).symm

variable {key : α → δ}

theorem inGroups_cons (x : α) (xs : List α) :
    inGroups key (x :: xs) = (x :: xs).filter (fun y => key y = key x) ++
      inGroups key ((x :: xs).filter fun y => !decide (key y = key x)) := by
  have hkeys : ((x :: xs).filter fun y => !decide (key y = key x)).map key =
      (xs.map key).filter fun k => !k == key x := by
    rw [List.filter_cons_of_neg (by simp), List.filter_map]
    congr 1
  rw [inGroups, List.map_cons, List.eraseDups_cons, List.flatMap_cons, inGroups, hkeys]
  congr 1
  refine List.flatMap_congr fun k hk => ?_
  have hne : k ≠ key x := by
    simpa using (List.mem_filter.mp (List.mem_eraseDups.mp hk)).2
  rw [List.filter_filter]
  refine List.filter_congr fun y _ => ?_
  by_cases hy : key y = k
  · simp [hy, hne]
  · simp [hy]

/-- **Steps can be made group by group** if those that change places commute. -/
theorem steps_inGroups {xs : List α}
    (h : xs.Pairwise fun x y => Precedes (xs.map key) (key y) (key x) → Commute f x y) (g : γ) :
    steps f (inGroups key xs) g = steps f xs g := by
  -- by length: behind the first group the others are gone through
  induction hn : xs.length using Nat.strongRecOn generalizing xs g with
  | _ n ih =>
    cases xs with
    | nil => rfl
    | cons x xs =>
      have hfirst : (x :: xs).Pairwise fun y z =>
          ¬decide (key y = key x) → decide (key z = key x) → Commute f y z := by
        refine h.imp fun {y z} hyz hy hz => hyz ?_
        have hy' : ¬key x = key y := fun h => hy (decide_eq_true h.symm)
        rw [of_decide_eq_true hz, Precedes, List.map_cons, List.idxOf_cons_self,
          List.idxOf_cons_ne _ hy']
        exact Nat.succ_pos _
      rw [steps_filter_append hfirst, inGroups_cons, steps_append, steps_append]
      refine Option.bind_congr fun g' _ => ih _ ?_ ?_ g' rfl
      · have hle := List.length_filter_le (fun y => !decide (key y = key x)) xs
        rw [List.filter_cons_of_neg (by simp)]
        rw [List.length_cons] at hn
        omega
      · -- among the others it is the same keys that come first
        refine (h.filter _).imp_of_mem fun {y z} hy hz hyz hprecedes => hyz ?_
        have hkey {w : α} (hw : w ∈ (x :: xs).filter fun y => !decide (key y = key x)) :
            key w ≠ key x := by
          simpa using (List.mem_filter.mp hw).2
        refine Precedes.of_filter (hkey hz) (hkey hy) ?_
        rw [List.filter_map]
        exact hprecedes

end

/-! ## The effects of criteria -/

variable {β γ ρ : Type} {step : Errand → γ → Option (ρ × γ)} {style : PlaceholderStyle}
  {t : Template}

namespace Template

/-- What a criterion of a template does to the contents of a backend, if it can be run. -/
def effect (step : Errand → γ → Option (ρ × γ)) (style : PlaceholderStyle) (t : Template)
    (c : Criterion) (g : γ) : Option γ :=
  (t.pairOf c >>= errandOf style).toOption.bind fun x => (step x g).map Prod.snd

/-- In the order in which criteria run, the second of two that are queued overtakes the first. -/
def Overtakes (t : Template) (queue : List Criterion) (first second : Criterion) : Prop :=
  Precedes (queue.map t.shapeOf) (t.shapeOf second) (t.shapeOf first)

theorem effect_eq_some {c : Criterion} {g g' : γ} : t.effect step style c g = some g' ↔
    ∃ x os, t.pairOf c = .ok x ∧ Goes step style [x] g os g' := by
  rw [effect]
  constructor
  · intro h
    obtain ⟨e, he, h⟩ := Option.bind_eq_some_iff.mp h
    obtain ⟨⟨r, g₁⟩, hstep, h⟩ := Option.map_eq_some_iff.mp h
    cases h
    -- the parameters of `c` may be refused, or it goes on to its statement
    rcases hbind : t.pairOf c >>= errandOf style with err | e'
    · rw [hbind] at he
      cases he
    · rw [hbind] at he
      cases he
      obtain ⟨x, hx, hbound⟩ := bind_eq_ok.mp hbind
      exact ⟨x, [r], hx, [e], mapM_cons_eq_ok.mpr ⟨e, [], hbound, rfl, rfl⟩,
        walk_singleton.mpr ⟨r, hstep, rfl⟩⟩
  · rintro ⟨x, os, hx, xs, hxs, hwalk⟩
    obtain ⟨e, es, hbound, hes, rfl⟩ := mapM_cons_eq_ok.mp hxs
    cases hes
    obtain ⟨r, hstep, rfl⟩ := walk_singleton.mp hwalk
    rw [bind_eq_ok.mpr ⟨x, hx, hbound⟩]
    change ((step e g).map Prod.snd) = _
    rw [hstep]
    rfl

/-- **A walk over criteria** makes their effects one after the other. -/
theorem steps_effect_eq_some {cs : List Criterion} {g g' : γ} :
    steps (t.effect step style) cs g = some g' ↔
      ∃ ps os, cs.mapM t.pairOf = .ok ps ∧ Goes step style ps g os g' := by
  induction cs generalizing g with
  | nil =>
    constructor
    · intro h
      cases h
      exact ⟨[], [], rfl, .nil⟩
    · rintro ⟨ps, os, hps, hgoes⟩
      cases hps
      obtain ⟨-, rfl⟩ := hgoes.unique .nil
      rfl
  | cons c cs ih =>
    rw [steps_cons, Option.bind_eq_some_iff]
    constructor
    · -- the first criterion has its effect, and the others theirs behind it
      rintro ⟨g₁, hc, hcs⟩
      obtain ⟨x, os, hx, hgoes⟩ := effect_eq_some.mp hc
      obtain ⟨ps, os', hps, hgoes'⟩ := ih.mp hcs
      exact ⟨x :: ps, os ++ os', mapM_cons_eq_ok.mpr ⟨x, ps, hx, hps, rfl⟩,
        Goes.cons_iff.mpr ⟨os, os', g₁, hgoes, hgoes', rfl⟩⟩
    · rintro ⟨_, os, hall, hgoes⟩
      obtain ⟨x, ps, hx, hps, rfl⟩ := mapM_cons_eq_ok.mp hall
      obtain ⟨os₁, os₂, g₁, hfirst, hrest, -⟩ := Goes.cons_iff.mp hgoes
      exact ⟨g₁, effect_eq_some.mpr ⟨x, os₁, hx, hfirst⟩, ih.mpr ⟨ps, os₂, hps, hrest⟩⟩

/-- The table that a criterion of a template removes rows of, if it does nothing else. -/
def deletedFrom? (style : PlaceholderStyle) (t : Template) (c : Criterion) :
    Option Sqlite.TableRef :=
  (t.pairOf c >>= errandOf style).toOption.bind Sqlite.Memory.deletedFrom?

/-- **Criteria that delete from one table** change places. -/
theorem commute_of_deletedFrom? {type : QueryType} {x y : Criterion} {r : Sqlite.TableRef}
    (hx : t.deletedFrom? style x = some r) (hy : t.deletedFrom? style y = some r) :
    Commute (t.effect (Sqlite.Memory.step type) style) x y := by
  obtain ⟨e, he, hfrom⟩ := Option.bind_eq_some_iff.mp hx
  obtain ⟨e', he', hfrom'⟩ := Option.bind_eq_some_iff.mp hy
  obtain ⟨filter, hdeletes⟩ := Sqlite.Memory.exists_deletes hfrom
  obtain ⟨filter', hdeletes'⟩ := Sqlite.Memory.exists_deletes hfrom'
  -- both are deletions of the table, with a filter each
  intro db
  have heffect : t.effect (Sqlite.Memory.step type) style x =
      fun g => (Sqlite.Memory.step type e g).map Prod.snd := by
    funext g
    rw [effect, he, Option.bind_some]
  have heffect' : t.effect (Sqlite.Memory.step type) style y =
      fun g => (Sqlite.Memory.step type e' g).map Prod.snd := by
    funext g
    rw [effect, he', Option.bind_some]
  rw [heffect, heffect']
  exact Sqlite.Memory.step_deletes_comm hdeletes hdeletes'

end Template

/-! ## What a template leaves -/

/-- What the backend behind a connection holds. -/
def Session.contents? (contents : β → γ) (s : Session β) (c : Nat) : Option γ :=
  (s.connections[c]?).map fun conn => contents conn.backend

theorem Session.IsOpen.contents? {contents : β → γ} {s : Session β} {c : Nat} {b : β}
    (h : s.IsOpen c b) : s.contents? contents c = some (contents b) := by
  obtain ⟨conn, hconn, rfl, -⟩ := h.connection
  rw [Session.contents?, hconn, Option.map_some]

namespace StatementSet

variable [Backend β] {contents : β → γ} {view : ResultSet → ρ} {p : StatementSet} {c : Nat}
  {s s' : Session β} {b : β} {g : γ} {cs : List Criterion}

/-- Effects that can be made one after the other are left by criteria that run one by one. -/
theorem executeEach_leaves (hstep : Stepwise β p.template.queryType contents view step)
    (hc : p.connection = some c) (hs : s.IsOpen c b)
    (h : steps (p.template.effect step (Backend.style b)) cs (contents b) = some g) :
    ∃ rs t, (p.executeEach cs).run s = (.ok rs, t) ∧ t.contents? contents c = some g := by
  obtain ⟨ps, os, hps, hgoes⟩ := Template.steps_effect_eq_some.mp h
  obtain ⟨rs, t, hrun⟩ := executeEach_of_walk hstep hc hs hps hgoes
  obtain ⟨b', qs, rs₀, hqs, hw, -⟩ := exists_walk_of_executeEach hstep hc hs hrun
  rw [hps] at hqs
  cases hqs
  obtain ⟨-, rfl⟩ := hw.goes.unique hgoes
  exact ⟨rs, t, hrun, hw.after.contents?⟩

/-- **What a template leaves.** If all of its statements run, then its criteria run one by one in
the order of the batches too, and they leave the same. So they do in the order of the queue, if
those that are overtaken commute with those that overtake them. -/
theorem execute_leaves (hstep : Stepwise β p.template.queryType contents view step)
    (hc : p.connection = some c) {batches : List Batch} (hb : p.compile = .ok batches)
    (hok : ((runBatches (some c) p.template.queryType batches).run s).1.isOk) :
    (∃ rs t, (p.executeEach (p.template.inBatchOrder p.criteria)).run s = (.ok rs, t) ∧
        t.contents? contents c = (p.execute.run s).2.contents? contents c) ∧
      (p.criteria.Pairwise (fun x y => p.template.Overtakes p.criteria x y →
          Commute (p.template.effect step (s.styleOf c)) x y) →
        ∃ rs t, (p.executeEach p.criteria).run s = (.ok rs, t) ∧
          t.contents? contents c = (p.execute.run s).2.contents? contents c) := by
  rcases hrun : (runBatches (some c) p.template.queryType batches).run s with ⟨o, s'⟩
  rw [hrun] at hok
  rcases o with halt | rs
  · cases hok
  -- what was left is what the statements have left
  have hend : (p.execute.run s).2 = s' := by
    obtain ⟨sets, h, -⟩ := execute_settles hc hb (rfl : p.execute.run s =
      (((p.execute.run s).1.1, (p.execute.run s).1.2), (p.execute.run s).2))
    rw [hrun] at h
    exact (congrArg Prod.snd h).symm
  obtain ⟨b, b', ps, hps, hw⟩ := walks_of_runBatches hstep hb hrun
  have hstyle : s.styleOf c = Backend.style b := by
    rw [Session.styleOf, hw.before.engine?]
    rfl
  have hbatches : steps (p.template.effect step (Backend.style b))
      (p.template.inBatchOrder p.criteria) (contents b) = some (contents b') :=
    Template.steps_effect_eq_some.mpr ⟨ps, _, hps, hw.goes⟩
  rw [hend, hw.after.contents?, hstyle]
  refine ⟨executeEach_leaves hstep hc hw.before hbatches, fun hcommute => ?_⟩
  refine executeEach_leaves hstep hc hw.before ?_
  rw [← steps_inGroups hcommute]
  exact hbatches

/-- A table with three rows. -/
def stocked : Session Sqlite.Memory :=
  let row (id : Int64) (a b : Int64) : Sqlite.Record := ⟨id, [.integer id, .integer a, .integer b]⟩
  { connections := [{ backend := { driver := { tables := [
      { name := "t", columns := [{ name := "id", isKey := true }, { name := "a" }, { name := "b" }]
        records := [row 1 1 0, row 2 2 0, row 3 3 0] }] } } }] }

/-- The rows of the tables behind the first connection. -/
def rowsOf (s : Session Sqlite.Memory) : Option (List (List Sqlite.Cell)) :=
  s.contents? (fun b => b.driver.tables.flatMap fun t => t.records.map Sqlite.Record.cells) 0

/-- Three deletions of two shapes: the third one overtakes the second. -/
def deleting : StatementSet where
  connection := some 0
  template := ⟨"DELETE FROM t WHERE <<condition>>", .delete⟩
  criteria :=
    [({} : Criterion).withCondition "a" (.eq (.int 1)),
      ({} : Criterion).withCondition "id" (.between (.int 2) (.int 5)),
      ({} : Criterion).withCondition "a" (.eq (.int 3))]

theorem execute_leaves_deleting : ∃ batches, deleting.compile = .ok batches ∧
    ((runBatches (some 0) .delete batches).run stocked).1.isOk ∧ ∃ rs t,
      (deleting.executeEach deleting.criteria).run stocked = (.ok rs, t) ∧
        t.contents? Sqlite.Memory.content 0 =
          (deleting.execute.run stocked).2.contents? Sqlite.Memory.content 0 := by
  have hcompiles : deleting.compile.isOk := by decide +kernel
  obtain ⟨batches, hb⟩ := exists_of_isOk hcompiles
  -- the batches run through, and all criteria delete from the same table
  have hok : (deleting.compile.toOption.map fun batches =>
      ((runBatches (some 0) .delete batches).run stocked).1.isOk) = some true := by
    decide +kernel
  rw [hb] at hok
  have hok : ((runBatches (some 0) .delete batches).run stocked).1.isOk := Option.some.inj hok
  have hall : ∀ c ∈ deleting.criteria,
      deleting.template.deletedFrom? (stocked.styleOf 0) c = some ⟨none, "t", none⟩ := by
    decide +kernel
  refine ⟨batches, hb, hok,
    (execute_leaves (Sqlite.Memory.stepwise .delete) rfl hb hok).2 ?_⟩
  exact List.pairwise_of_forall_mem_list fun x hx y hy _ =>
    Template.commute_of_deletedFrom? (hall x hx) (hall y hy)

/-- Three updates of one row, of two shapes: the third one overtakes the second. -/
def overwriting : StatementSet where
  connection := some 0
  template := ⟨"UPDATE t SET <<values>> WHERE <<condition>>", .update⟩
  criteria :=
    let one := ({} : Criterion).withCondition "id" (.eq (.int 1))
    [one.withValue "a" (.int 7), (one.withValue "a" (.int 8)).withValue "b" (.int 8),
      one.withValue "a" (.int 9)]

/-- Together they leave what the second one writes, and one by one what the third one does. -/
theorem execute_leaves_not_overwriting :
    (overwriting.execute.run stocked).1.1.isOk ∧
      ((overwriting.executeEach overwriting.criteria).run stocked).1.isOk ∧
      rowsOf (overwriting.execute.run stocked).2 =
        some [[.integer 1, .integer 8, .integer 8], [.integer 2, .integer 2, .integer 0],
          [.integer 3, .integer 3, .integer 0]] ∧
      rowsOf ((overwriting.executeEach overwriting.criteria).run stocked).2 =
        some [[.integer 1, .integer 9, .integer 8], [.integer 2, .integer 2, .integer 0],
          [.integer 3, .integer 3, .integer 0]] := by
  decide +kernel

end StatementSet

end Tabula
