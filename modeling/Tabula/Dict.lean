/-!
# Dictionaries

A `Dict` maps texts to values and lists its entries in ascending order of the keys, so two
dictionaries with the same entries are the same, and whoever goes through one meets the keys in
order. What `insert` does is said by `find?_insert`.
-/

namespace Tabula

/-- Entries in strictly ascending order of their keys. -/
structure Dict (α : Type) where
  /-- the entries -/
  entries : List (String × α)
  /-- the keys ascend -/
  ascending : entries.Pairwise fun a b => a.1 < b.1

namespace Dict

variable {α β : Type}

/-- The dictionary without entries. -/
def empty : Dict α := ⟨[], List.Pairwise.nil⟩

instance : Inhabited (Dict α) := ⟨empty⟩

/-- Puts an entry in its place; an entry of the same key is replaced. -/
def insertEntry (k : String) (v : α) : List (String × α) → List (String × α)
  | [] => [(k, v)]
  | (l, w) :: rest =>
    if k < l then (k, v) :: (l, w) :: rest
    else if k = l then (k, v) :: rest
    else (l, w) :: insertEntry k v rest

/-- The keys of the result are the old ones and the new one. -/
theorem mem_insertEntry {k : String} {v : α} {es : List (String × α)} {e : String × α}
    (h : e ∈ insertEntry k v es) : e = (k, v) ∨ e ∈ es := by
  fun_induction insertEntry k v es <;> simp_all <;> grind

/-- Inserting keeps the keys ascending. -/
theorem pairwise_insertEntry (k : String) (v : α) {es : List (String × α)}
    (h : es.Pairwise fun a b => a.1 < b.1) :
    (insertEntry k v es).Pairwise fun a b => a.1 < b.1 := by
  fun_induction insertEntry k v es with
  | case1 => simp
  | case2 l w rest hlt =>
    refine List.pairwise_cons.mpr ⟨fun e he => ?_, h⟩
    rcases List.mem_cons.mp he with rfl | he
    · exact hlt
    · exact String.lt_trans hlt ((List.pairwise_cons.mp h).1 e he)
  | case3 w rest _ => exact List.pairwise_cons.mpr (List.pairwise_cons.mp h)
  | case4 l w rest hlt hne ih =>
    have hr := List.pairwise_cons.mp h
    refine List.pairwise_cons.mpr ⟨fun e he => ?_, ih hr.2⟩
    rcases mem_insertEntry he with rfl | he
    · rcases Decidable.em (l < k) with hlk | hlk
      · exact hlk
      · exact absurd (String.le_antisymm (String.not_lt.mp hlk) (String.not_lt.mp hlt)) hne
    · exact hr.1 e he

/-- The dictionary with an entry put in; an entry of the same key is replaced. -/
def insert (d : Dict α) (k : String) (v : α) : Dict α :=
  ⟨insertEntry k v d.entries, pairwise_insertEntry k v d.ascending⟩

/-- The value of a key. -/
def find? (d : Dict α) (k : String) : Option α :=
  (d.entries.find? fun e => e.1 == k).map Prod.snd

/-- The dictionary of some entries; of two entries of one key the later counts. -/
def ofList (es : List (String × α)) : Dict α := es.foldl (fun d e => d.insert e.1 e.2) empty

/-- The keys, in ascending order. -/
def keys (d : Dict α) : List String := d.entries.map Prod.fst

/-- The values, in the order of their keys. -/
def values (d : Dict α) : List α := d.entries.map Prod.snd

/-- How many entries there are. -/
def size (d : Dict α) : Nat := d.entries.length

/-- There is no entry. -/
def isEmpty (d : Dict α) : Bool := d.entries.isEmpty

/-- Two dictionaries with equal entries, the values compared by `==`. -/
instance [BEq α] : BEq (Dict α) := ⟨fun a b => a.entries == b.entries⟩

/-- A dictionary is its entries. -/
@[ext] theorem ext {a b : Dict α} (h : a.entries = b.entries) : a = b := by
  cases a; cases b; simp_all

instance [DecidableEq α] : DecidableEq (Dict α) := fun a b =>
  if h : a.entries = b.entries then .isTrue (ext h)
  else .isFalse fun hab => h (congrArg entries hab)

@[simp] theorem find?_empty (k : String) : (empty : Dict α).find? k = none := rfl

/-- An inserted key has its new value and every other key the value it had. -/
theorem find?_insert (d : Dict α) (k l : String) (v : α) :
    (d.insert k v).find? l = if k = l then some v else d.find? l := by
  obtain ⟨es, h⟩ := d
  simp only [insert, find?]
  fun_induction insertEntry k v es with
  | case1 => simp [List.find?_cons]; grind
  | case2 m w rest hlt => simp [List.find?_cons]; grind
  | case3 w rest _ => simp [List.find?_cons]; grind
  | case4 m w rest hlt hne ih =>
    have := ih (List.pairwise_cons.mp h).2
    simp only [List.find?_cons]
    grind

end Dict

end Tabula
