import Mathlib.Data.List.Induction

/-!
# What has happened since

What has happened is a list with the latest last. `EndsIn p q` says that there is something of one
kind in it and behind that there are things of another kind only: the last of some kind has a
property, or something has happened and nothing has undone it since. It is decided from the end,
one thing at a time (`endsIn_concat`).
-/

namespace Tabula

variable {α : Type} {p q p' q' : α → Prop} {xs : List α} {x : α}

/-- There is something of one kind, and behind it there are things of another kind only. -/
def EndsIn (p q : α → Prop) (xs : List α) : Prop :=
  ∃ before x since, xs = before ++ x :: since ∧ p x ∧ ∀ y ∈ since, q y

theorem EndsIn.imp (h : EndsIn p q xs) (hp : ∀ x, p x → p' x) (hq : ∀ x, q x → q' x) :
    EndsIn p' q' xs := by
  obtain ⟨before, x, since, rfl, hx, hsince⟩ := h
  exact ⟨before, x, since, rfl, hp x hx, fun y hy => hq y (hsince y hy)⟩

theorem not_endsIn_nil : ¬EndsIn p q [] := by
  rintro ⟨before, x, since, h, -, -⟩
  exact List.append_ne_nil_of_right_ne_nil before (List.cons_ne_nil x since) h.symm

theorem endsIn_concat : EndsIn p q (xs ++ [x]) ↔ p x ∨ EndsIn p q xs ∧ q x := by
  constructor
  · rintro ⟨before, y, since, h, hp, hq⟩
    induction since using List.reverseRecOn with
    | nil =>
      obtain ⟨-, hx⟩ := List.append_inj' h rfl
      cases hx
      exact .inl hp
    | append_singleton since z _ =>
      rw [← List.cons_append, ← List.append_assoc] at h
      obtain ⟨rfl, hx⟩ := List.append_inj' h rfl
      cases hx
      obtain ⟨hsince, hz⟩ := List.forall_mem_append.mp hq
      exact .inr ⟨⟨before, y, since, rfl, hp, hsince⟩, hz _ (List.mem_singleton_self _)⟩
  · rintro (hp | ⟨⟨before, y, since, rfl, hp, hq⟩, hx⟩)
    · exact ⟨xs, x, [], rfl, hp, by simp⟩
    · refine ⟨before, y, since ++ [x], by simp, hp, ?_⟩
      exact List.forall_mem_append.mpr ⟨hq, List.forall_mem_singleton.mpr hx⟩

end Tabula
