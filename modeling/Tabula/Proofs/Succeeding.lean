import Mathlib.Data.List.Perm.Basic

/-!
# Steps that all succeed

Steps that can fail succeed together if each of them does, in whatever order they are made. If they
fail, then with the error of the first one that does.
-/

namespace Tabula

variable {α δ ζ ε : Type} {f : α → Except ε δ} {g : δ → Except ε ζ} {xs ys : List α}

/-- Of steps that all succeed each does. -/
theorem bind_eq_ok {x : Except ε α} {f : α → Except ε δ} {d : δ} :
    x >>= f = .ok d ↔ ∃ a, x = .ok a ∧ f a = .ok d := by
  constructor
  · intro h
    cases x with
    | error e => cases h
    | ok a => exact ⟨a, rfl, h⟩
  · rintro ⟨a, rfl, h⟩
    exact h

theorem exists_of_isOk {x : Except ε α} (h : x.isOk) : ∃ a, x = .ok a := by
  cases x with
  | error e => cases h
  | ok a => exact ⟨a, rfl⟩

theorem map_eq_ok {x : Except ε α} {f : α → δ} {d : δ} :
    f <$> x = .ok d ↔ ∃ a, x = .ok a ∧ f a = d := by
  rcases x with e | a
  · exact ⟨nofun, nofun⟩
  · exact ⟨fun h => ⟨a, rfl, Except.ok.inj h⟩, fun ⟨_, h, hd⟩ => by cases h; exact congrArg _ hd⟩

theorem mapM_append_eq_ok {zs : List δ} : (xs ++ ys).mapM f = .ok zs ↔
    ∃ us vs, xs.mapM f = .ok us ∧ ys.mapM f = .ok vs ∧ zs = us ++ vs := by
  rw [List.mapM_append, bind_eq_ok]
  simp only [bind_eq_ok]
  constructor
  · rintro ⟨us, hus, vs, hvs, h⟩
    cases h
    exact ⟨us, vs, hus, hvs, rfl⟩
  · rintro ⟨us, vs, hus, hvs, rfl⟩
    exact ⟨us, hus, vs, hvs, rfl⟩

theorem mapM_cons_eq_ok {x : α} {zs : List δ} : (x :: xs).mapM f = .ok zs ↔
    ∃ u us, f x = .ok u ∧ xs.mapM f = .ok us ∧ zs = u :: us := by
  rw [List.mapM_cons, bind_eq_ok]
  simp only [bind_eq_ok]
  constructor
  · rintro ⟨u, hu, us, hus, h⟩
    cases h
    exact ⟨u, us, hu, hus, rfl⟩
  · rintro ⟨u, us, hu, hus, rfl⟩
    exact ⟨u, hu, us, hus, rfl⟩

/-- Of steps over a list that all succeed each does. -/
theorem forall₂_of_mapM {us : List δ} (h : xs.mapM f = .ok us) :
    List.Forall₂ (fun x u => f x = .ok u) xs us := by
  induction xs generalizing us with
  | nil =>
    cases h
    exact .nil
  | cons x xs ih =>
    obtain ⟨u, us, hfirst, hrest, rfl⟩ := mapM_cons_eq_ok.mp h
    exact .cons hfirst (ih hrest)

theorem mapM_of_forall₂ {zs : List δ} (h : List.Forall₂ (fun x z => f x = .ok z) xs zs) :
    xs.mapM f = .ok zs := by
  induction h with
  | nil => rfl
  | cons hx _ ih => exact mapM_cons_eq_ok.mpr ⟨_, _, hx, ih, rfl⟩

theorem mapM_append_eq_error {before after : List α} {x : α} {e : ε}
    (hbefore : ∀ y ∈ before, (f y).isOk) (hx : f x = .error e) :
    (before ++ x :: after).mapM f = .error e := by
  induction before with
  | nil =>
    rw [List.nil_append, List.mapM_cons, hx]
    rfl
  | cons y before ih =>
    obtain ⟨hy, hbefore⟩ := List.forall_mem_cons.mp hbefore
    rw [List.cons_append, List.mapM_cons, ih hbefore]
    rcases hfirst : f y with e' | u
    · rw [hfirst] at hy
      cases hy
    · rfl

theorem exists_of_mapM_eq_error {e : ε} (h : xs.mapM f = .error e) :
    ∃ before x after, xs = before ++ x :: after ∧ (∀ y ∈ before, (f y).isOk) ∧ f x = .error e := by
  induction xs with
  | nil => cases h
  | cons x xs ih =>
    rw [List.mapM_cons] at h
    rcases hx : f x with e' | u
    · rw [hx] at h
      cases h
      exact ⟨[], x, xs, rfl, List.forall_mem_nil _, hx⟩
    · have hxs : xs.mapM f = .error e := by
        rcases hrest : xs.mapM f with e' | us
        · rw [hx, hrest] at h
          cases h
          rfl
        · rw [hx, hrest] at h
          cases h
      obtain ⟨before, y, after, rfl, hbefore, hy⟩ := ih hxs
      refine ⟨x :: before, y, after, rfl, List.forall_mem_cons.mpr ⟨?_, hbefore⟩, hy⟩
      rw [hx]
      rfl

/-- Steps over a list fail with the error of the first one that fails. -/
theorem mapM_eq_error {e : ε} : xs.mapM f = .error e ↔
    ∃ before x after, xs = before ++ x :: after ∧ (∀ y ∈ before, (f y).isOk) ∧ f x = .error e :=
  ⟨exists_of_mapM_eq_error, fun ⟨_, _, _, hxs, hbefore, hx⟩ =>
    hxs ▸ mapM_append_eq_error hbefore hx⟩

theorem exists_of_mem_mapM {us : List δ} (h : xs.mapM f = .ok us) {u : δ} (hu : u ∈ us) :
    ∃ x ∈ xs, f x = .ok u := by
  induction xs generalizing us with
  | nil =>
    cases h
    cases hu
  | cons x xs ih =>
    obtain ⟨v, us, hfirst, hrest, rfl⟩ := mapM_cons_eq_ok.mp h
    rcases List.mem_cons.mp hu with rfl | hu
    · exact ⟨x, List.mem_cons_self, hfirst⟩
    · exact (ih hrest hu).imp fun y hy => hy.imp_left (List.mem_cons_of_mem x)

theorem exists_mem_of_mapM {us : List δ} (h : xs.mapM f = .ok us) {x : α} (hx : x ∈ xs) :
    ∃ u ∈ us, f x = .ok u := by
  induction xs generalizing us with
  | nil => cases hx
  | cons y xs ih =>
    obtain ⟨u, us, hfirst, hrest, rfl⟩ := mapM_cons_eq_ok.mp h
    rcases List.mem_cons.mp hx with rfl | hx
    · exact ⟨u, List.mem_cons_self, hfirst⟩
    · exact (ih hrest hx).imp fun v hv => hv.imp_left (List.mem_cons_of_mem u)

theorem exists_forall₂ {r : α → δ → Prop} (h : ∀ x ∈ xs, ∃ u, r x u) :
    ∃ us, List.Forall₂ r xs us := by
  induction xs with
  | nil => exact ⟨[], .nil⟩
  | cons x xs ih =>
    obtain ⟨⟨u, hu⟩, hxs⟩ := List.forall_mem_cons.mp h
    obtain ⟨us, hus⟩ := ih hxs
    exact ⟨u :: us, .cons hu hus⟩

/-- Steps in another order give the same things in another order. -/
theorem mapM_perm (hperm : xs.Perm ys) {us : List δ} (h : xs.mapM f = .ok us) :
    ∃ vs, ys.mapM f = .ok vs ∧ us.Perm vs := by
  obtain ⟨vs, hvs, hperm'⟩ := List.perm_comp_forall₂ hperm.symm (forall₂_of_mapM h)
  exact ⟨vs, mapM_of_forall₂ hvs, hperm'.symm⟩

/-- Two steps for each element are as good as all first steps and then all second ones. -/
theorem mapM_bind_eq_ok {zs : List ζ} : xs.mapM (fun x => f x >>= g) = .ok zs ↔
    ∃ us, xs.mapM f = .ok us ∧ us.mapM g = .ok zs := by
  induction xs generalizing zs with
  | nil =>
    constructor
    · intro h
      cases h
      exact ⟨[], rfl, rfl⟩
    · rintro ⟨us, hus, h⟩
      cases hus
      exact h
  | cons x xs ih =>
    rw [mapM_cons_eq_ok]
    constructor
    · rintro ⟨z, zs', hx, hxs, rfl⟩
      obtain ⟨u, hu, hz⟩ := bind_eq_ok.mp hx
      obtain ⟨us, hus, hzs⟩ := ih.mp hxs
      exact ⟨u :: us, mapM_cons_eq_ok.mpr ⟨u, us, hu, hus, rfl⟩,
        mapM_cons_eq_ok.mpr ⟨z, zs', hz, hzs, rfl⟩⟩
    · rintro ⟨_, hall, hzs⟩
      obtain ⟨u, us, hu, hus, rfl⟩ := mapM_cons_eq_ok.mp hall
      obtain ⟨z, zs', hz, hzs', rfl⟩ := mapM_cons_eq_ok.mp hzs
      exact ⟨z, zs', bind_eq_ok.mpr ⟨u, hu, hz⟩, ih.mpr ⟨us, hus, hzs'⟩, rfl⟩

end Tabula
