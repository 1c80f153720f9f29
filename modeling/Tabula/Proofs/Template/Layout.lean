import Mathlib.Logic.Function.Basic
import Tabula.Proofs.Sql.Region
import Tabula.Template

/-!
# Layouts

A `Layout` is a template in parts: fragments of a statement with slots between them, for the
columns, the values and the condition. Its text has a token in each slot. Filling the tokens of that
text one kind after the other fills the slots and touches nothing else, since no token begins in a
fragment or in what fills a slot before.

* `Text.isClear`: no token begins in a text, whatever stands behind it.
* `fill_fillWith`: the slots of one kind are filled.
* `render_text`: the statement for a shape is the layout with its slots filled.
-/

namespace Tabula

namespace Text

/-- No token begins in a text, whatever stands behind it: there is no `<<` in it, and it does not
end in `<`. -/
structure IsCalm (cs : List Char) : Prop where
  /-- no token begins in the middle -/
  inside : contains ['<', '<'] cs = false
  /-- nor at the end -/
  atEnd : cs.getLast? ≠ some '<'

instance (cs : List Char) : Decidable (IsCalm cs) :=
  decidable_of_iff (contains ['<', '<'] cs = false ∧ cs.getLast? ≠ some '<')
    ⟨fun h => ⟨h.1, h.2⟩, fun h => ⟨h.inside, h.atEnd⟩⟩

theorem IsCalm.of_not_mem {cs : List Char} (h : '<' ∉ cs) : IsCalm cs := by
  refine ⟨?_, fun hlast => h (List.mem_of_getLast? hlast)⟩
  induction cs with
  | nil => rfl
  | cons c cs ih =>
    have hc : c ≠ '<' := (List.ne_of_not_mem_cons h).symm
    have hcs := ih (List.not_mem_of_not_mem_cons h)
    simp [contains, List.isPrefixOf, hc.symm, hcs]

/-- A token does not begin in a text, whatever stands behind it. -/
def isClear (token : List Char) : List Char → Bool
  | [] => true
  | c :: cs => !token.isPrefixOf (c :: cs) && !(c :: cs).isPrefixOf token && isClear token cs

theorem IsCalm.isClear {part cs : List Char} (h : IsCalm cs) :
    isClear ('<' :: '<' :: part) cs := by
  induction cs with
  | nil => rfl
  | cons c cs ih =>
    obtain ⟨hinside, hend⟩ := h
    simp only [contains, Bool.or_eq_false_iff] at hinside
    have hcs : IsCalm cs := by
      refine ⟨hinside.2, fun hlast => hend ?_⟩
      cases cs with
      | nil => cases hlast
      | cons d cs => rwa [List.getLast?_cons_cons]
    rw [Text.isClear, ih hcs, Bool.and_true]
    -- a token that began here would have its second character here, or behind the end
    by_cases hc : c = '<'
    · subst hc
      cases cs with
      | nil => exact absurd rfl hend
      | cons d cs =>
        have hd : '<' ≠ d := by simpa [List.isPrefixOf] using hinside.1
        simp [List.isPrefixOf, hd, hd.symm]
    · simp [List.isPrefixOf, hc, Ne.symm hc]

/-- What begins with a text in which no token begins does not begin with a token. -/
theorem isPrefixOf_of_isClear {token cs : List Char} {c : Char} (h : isClear token (c :: cs))
    (rest : List Char) : token.isPrefixOf (c :: (cs ++ rest)) = false := by
  simp only [isClear, Bool.and_eq_true, Bool.not_eq_true'] at h
  obtain ⟨⟨htoken, hpart⟩, -⟩ := h
  rw [Bool.eq_false_iff]
  intro hprefix
  rcases List.prefix_or_prefix_of_prefix (List.isPrefixOf_iff_prefix.mp hprefix)
    (List.prefix_append (c :: cs) rest) with hp | hp
  · exact Bool.eq_false_iff.mp htoken (List.isPrefixOf_iff_prefix.mpr hp)
  · exact Bool.eq_false_iff.mp hpart (List.isPrefixOf_iff_prefix.mpr hp)

/-- Where no token begins the text stays as it is, and what stands behind it is replaced as if it
stood alone. -/
theorem replace_append {token new cs rest : List Char} (h : isClear token cs) :
    replace token new (cs ++ rest) = cs ++ replace token new rest := by
  induction cs with
  | nil => rfl
  | cons c cs ih =>
    have hfree := isPrefixOf_of_isClear h rest
    simp only [isClear, Bool.and_eq_true] at h
    have := ih h.2
    simp only [replace] at this
    rw [List.cons_append, replace, replaceFrom, hfree, Bool.and_false, if_neg Bool.false_ne_true,
      this]
    rfl

end Text

namespace Template

open Text Sql

/-- What a token of a template stands for. -/
inductive Slot where
  /-- the columns that are written -/
  | columns
  /-- the values that are written -/
  | values
  /-- the condition -/
  | condition
  deriving DecidableEq

namespace Slot

/-- The token of a slot. -/
def token : Slot → String
  | .columns => columnsToken
  | .values => valuesToken
  | .condition => conditionToken

/-- The text that fills a slot for criteria of a shape. -/
def text (type : QueryType) (s : Shape) : Slot → String
  | .columns => joined ", " s.columns
  | .values => valuesText type s.columns
  | .condition => whereText s.groups

/-- A token is replaced. -/
theorem replace_token (slot : Slot) (new rest : List Char) :
    replace slot.token.toList new (slot.token.toList ++ rest) =
      new ++ replace slot.token.toList new rest := by
  cases slot <;> rfl

/-- A token of another kind stays. -/
theorem replace_other {slot other : Slot} (h : other ≠ slot) (new rest : List Char) :
    replace slot.token.toList new (other.token.toList ++ rest) =
      other.token.toList ++ replace slot.token.toList new rest := by
  cases slot <;> cases other <;> first | exact absurd rfl h | rfl

end Slot

/-- A template in parts. -/
structure Layout where
  /-- the fragment in front -/
  head : List Char
  /-- the slots, each with the fragment behind it -/
  rest : List (Slot × List Char)

namespace Layout

/-- The layout with something in its slots. -/
def fillWith (l : Layout) (f : Slot → List Char) : List Char :=
  l.head ++ l.rest.flatMap fun p => f p.1 ++ p.2

/-- The layout as a template: there is a token in each slot. -/
def text (l : Layout) : String := String.ofList (l.fillWith fun slot => slot.token.toList)

/-- The fragments, in order. -/
def fragments (l : Layout) : List (List Char) := l.head :: l.rest.map Prod.snd

/-- **One kind of slots is filled.** The other slots hold their tokens, or texts in which no token
begins. -/
theorem fill_fillWith {l : Layout} (slot : Slot)
    (hl : ∀ fragment ∈ l.fragments, isClear slot.token.toList fragment) (new : String)
    {f : Slot → List Char} (hslot : f slot = slot.token.toList)
    (hf : ∀ other ≠ slot, f other = other.token.toList ∨ '<' ∉ f other) :
    fill slot.token new (l.fillWith f) = l.fillWith (Function.update f slot new.toList) := by
  obtain ⟨part, hpart⟩ : ∃ part, slot.token.toList = '<' :: '<' :: part := by
    cases slot <;> exact ⟨_, rfl⟩
  obtain ⟨hhead, hrest⟩ := List.forall_mem_cons.mp hl
  rw [fillWith, fillWith, fill, replace_append hhead]
  congr 1
  generalize l.rest = rest at hrest
  induction rest with
  | nil => rfl
  | cons p rest ih =>
    obtain ⟨other, fragment⟩ := p
    obtain ⟨hfragment, hrest⟩ := List.forall_mem_cons.mp hrest
    have ih := ih hrest
    rw [List.flatMap_cons, List.flatMap_cons, ← ih]
    simp only [List.append_assoc]
    by_cases ho : other = slot
    · subst ho
      rw [hslot, Function.update_self, Slot.replace_token, replace_append hfragment]
    · rw [Function.update_of_ne ho]
      rcases hf other ho with htoken | hother
      · rw [htoken, Slot.replace_other ho, replace_append hfragment]
      · have hclear : isClear slot.token.toList (f other) := by
          rw [hpart]
          exact (IsCalm.of_not_mem hother).isClear
        rw [replace_append hclear, replace_append hfragment]

/-- **The statement for a shape is the layout with its slots filled.** What fills the columns and
the values has no `<` in it. -/
theorem render_text {l : Layout}
    (hl : ∀ slot : Slot, ∀ fragment ∈ l.fragments, isClear slot.token.toList fragment)
    {type : QueryType} {s : Shape} (hcolumns : '<' ∉ (Slot.text type s .columns).toList)
    (hvalues : '<' ∉ (Slot.text type s .values).toList) :
    Template.render ⟨l.text, type⟩ s =
      String.ofList (l.fillWith fun slot => (slot.text type s).toList) := by
  rw [render, text, String.toList_ofList]
  congr 1
  have hfirst := fill_fillWith .columns (hl _) (joined ", " s.columns)
    (f := fun slot => slot.token.toList) rfl fun other _ => .inl rfl
  have hsecond := fill_fillWith .values (hl _) (valuesText type s.columns)
    (f := Function.update (fun slot => slot.token.toList) .columns (joined ", " s.columns).toList)
    rfl fun other _ => by
      cases other with
      | columns => exact .inr hcolumns
      | values => exact .inl rfl
      | condition => exact .inl rfl
  have hthird := fill_fillWith .condition (hl _) (whereText s.groups)
    (f := Function.update (Function.update (fun slot => slot.token.toList) .columns
      (joined ", " s.columns).toList) .values (valuesText type s.columns).toList)
    rfl fun other hne => by
      cases other with
      | columns => exact .inr hcolumns
      | values => exact .inr hvalues
      | condition => exact absurd rfl hne
  have hfilled : Function.update (Function.update (Function.update (fun slot => slot.token.toList)
      Slot.columns (joined ", " s.columns).toList) .values (valuesText type s.columns).toList)
      .condition (whereText s.groups).toList = fun slot => (slot.text type s).toList := by
    funext slot
    cases slot <;> rfl
  rw [← hfilled, ← hthird, ← hsecond, ← hfirst]
  rfl

end Layout

end Template

end Tabula
