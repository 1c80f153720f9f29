import Mathlib.Data.List.Induction

/-!
# Lists without repetition

What `List.eraseDupsBy` leaves, if what is taken for one is one: every element once, where it is met
first.
-/

namespace Tabula

variable {α : Type} {r : α → α → Bool}

/-- What is left has been there, and everything is left once. -/
theorem nodup_eraseDupsBy (hr : ∀ {a b}, r a b ↔ a = b) (as : List α) :
    (as.eraseDupsBy r).Nodup ∧ ∀ a, a ∈ as.eraseDupsBy r ↔ a ∈ as := by
  -- by length: what follows an element is gone through without what repeats it
  induction hn : as.length using Nat.strongRecOn generalizing as with
  | _ n ih =>
    cases as with
    | nil => exact ⟨.nil, fun a => Iff.rfl⟩
    | cons a as =>
      have hlt : (as.filter fun b => r b a = false).length < n := by
        have hle := List.length_filter_le (fun b => decide (r b a = false)) as
        rw [List.length_cons] at hn
        omega
      obtain ⟨hnodup, hmem⟩ := ih _ hlt _ rfl
      have hfilter (b : α) : b ∈ (as.filter fun b => r b a = false) ↔ b ∈ as ∧ b ≠ a := by
        rw [List.mem_filter, decide_eq_true_eq, ← Bool.not_eq_true, hr]
      rw [List.eraseDupsBy_cons]
      refine ⟨List.nodup_cons.mpr ⟨fun ha => ?_, hnodup⟩, fun b => ?_⟩
      · exact ((hfilter a).mp ((hmem a).mp ha)).2 rfl
      · rw [List.mem_cons, List.mem_cons, hmem, hfilter]
        by_cases hb : b = a <;> simp [hb]

theorem nodup_eraseDups [BEq α] [LawfulBEq α] (as : List α) : as.eraseDups.Nodup :=
  (nodup_eraseDupsBy beq_iff_eq as).1

/-- An element that has been there is not put behind. -/
theorem eraseDupsBy_concat (hr : ∀ {a b}, r a b ↔ a = b) (as : List α) (a : α) :
    (as ++ [a]).eraseDupsBy r = as.eraseDupsBy r ++ if as.any (r a) then [] else [a] := by
  let _ : BEq α := ⟨r⟩
  have : LawfulBEq α := { eq_of_beq := hr.mp, rfl := hr.mpr rfl }
  have happend : (as ++ [a]).eraseDups = as.eraseDups ++ ([a].removeAll as).eraseDups :=
    List.eraseDups_append
  have hlast : ([a].removeAll as).eraseDups = if as.any (r a) then [] else [a] := by
    have hmem : as.any (r a) = as.elem a := by
      rw [List.elem_eq_contains, List.contains_eq_any_beq]
      rfl
    rw [hmem, List.removeAll]
    cases h : as.elem a <;> simp_all [List.eraseDups_cons]
  exact happend.trans (congrArg _ hlast)

theorem eraseDups_concat [DecidableEq α] (as : List α) (a : α) :
    (as ++ [a]).eraseDups = as.eraseDups ++ if a ∈ as then [] else [a] := by
  have h := eraseDupsBy_concat (r := fun a b : α => a == b) beq_iff_eq as a
  simp only [List.any_beq, List.contains_iff_mem] at h
  exact h

/-- Elements are left where they are met first. -/
theorem eraseDupsBy_eq_filter (hr : ∀ {a b}, r a b ↔ a = b) (as : List α) :
    as.eraseDupsBy r =
      (as.zipIdx.filter fun (a, i) => !(as.take i).any (r a)).map Prod.fst := by
  induction as using List.reverseRecOn with
  | nil => rfl
  | append_singleton as a ih =>
    have hfront : (as.zipIdx.filter fun (a', i) => !((as ++ [a]).take i).any (r a')) =
        as.zipIdx.filter fun (a', i) => !(as.take i).any (r a') := by
      refine List.filter_congr fun (a', i) h => ?_
      have hi : i < as.length + 0 := List.snd_lt_of_mem_zipIdx h
      simp only [List.take_append_of_le_length (Nat.le_of_lt hi)]
    rw [eraseDupsBy_concat hr, ih, List.zipIdx_append, List.filter_append, List.map_append, hfront]
    cases h : as.any (r a) <;> simp [h]

theorem any_eraseDupsBy (hr : ∀ {a b}, r a b ↔ a = b) (as : List α) (p : α → Bool) :
    (as.eraseDupsBy r).any p = as.any p := by
  rw [Bool.eq_iff_iff, List.any_eq_true, List.any_eq_true]
  simp only [(nodup_eraseDupsBy hr as).2]

/-- Repetitions may be removed before more is put behind. -/
theorem eraseDupsBy_append_left (hr : ∀ {a b}, r a b ↔ a = b) (as bs : List α) :
    (as.eraseDupsBy r ++ bs).eraseDupsBy r = (as ++ bs).eraseDupsBy r := by
  have hagain : (as.eraseDupsBy r).eraseDupsBy r = as.eraseDupsBy r := by
    induction as using List.reverseRecOn with
    | nil => rfl
    | append_singleton as a ih =>
      rw [eraseDupsBy_concat hr]
      split
      · rw [List.append_nil, ih]
      next h => rw [eraseDupsBy_concat hr, ih, any_eraseDupsBy hr, if_neg h]
  induction bs using List.reverseRecOn with
  | nil => rw [List.append_nil, List.append_nil, hagain]
  | append_singleton bs b ih =>
    rw [← List.append_assoc, ← List.append_assoc, eraseDupsBy_concat hr, eraseDupsBy_concat hr, ih,
      List.any_append, List.any_append, any_eraseDupsBy hr]

end Tabula
