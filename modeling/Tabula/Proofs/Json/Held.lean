import Mathlib.Algebra.Group.Int.Defs
import Mathlib.Algebra.Group.Nat.Defs
import Mathlib.Data.List.Forall2
import Tabula.Dict
import Tabula.Json.Decoding
import Tabula.Proofs.Succeeding

/-!
# JSON that can be held

The type of JSON values has more terms than there are values: a whole number of a text has no more
than 64 bits, and an object that is read lists its keys in ascending order. `Json.IsHeld` says so of
a value, and of a draft, which keeps the fields of a text as written, `Draft.IsHeld` says it of the
numbers only.

* `Draft.isHeld_read`: every text is read into such a draft.
* `Draft.isHeld_of_toJson?`: such a draft stands for such a value.
* `Draft.toJson?_ofJson`: the draft of such a value stands for that value.
-/

namespace Tabula

/-! ## Entries in order -/

namespace Dict

variable {α : Type} {es : List (String × α)} {e : String × α}

/-- An entry whose key is behind all others is put at the end. -/
theorem insertEntry_of_lt {k : String} {v : α} (h : ∀ e ∈ es, e.1 < k) :
    insertEntry k v es = es ++ [(k, v)] := by
  induction es with
  | nil => rfl
  | cons e es ih =>
    obtain ⟨l, w⟩ := e
    have hlt : l < k := h (l, w) List.mem_cons_self
    have hne : k ≠ l := fun heq => String.lt_irrefl k (heq ▸ hlt)
    rw [insertEntry, if_neg (String.lt_asymm hlt), if_neg hne,
      ih fun e he => h e (List.mem_cons_of_mem _ he)]
    rfl

/-- Entries that continue those of a dictionary are put behind them. -/
theorem foldl_insert_entries (d : Dict α)
    (h : (d.entries ++ es).Pairwise fun a b => a.1 < b.1) :
    (es.foldl (fun d e => d.insert e.1 e.2) d).entries = d.entries ++ es := by
  induction es generalizing d with
  | nil => exact (List.append_nil _).symm
  | cons e es ih =>
    obtain ⟨-, -, hcross⟩ := List.pairwise_append.mp h
    have hentries : (d.insert e.1 e.2).entries = d.entries ++ [e] :=
      insertEntry_of_lt fun e' he' => hcross e' he' e List.mem_cons_self
    rw [List.foldl_cons, ih, hentries, List.append_assoc]
    · rfl
    · rw [hentries, List.append_assoc]
      exact h

/-- The dictionary of entries in order has these entries. -/
theorem ofList_entries (h : es.Pairwise fun a b => a.1 < b.1) : (ofList es).entries = es :=
  foldl_insert_entries empty h

theorem mem_of_mem_foldl_insert (d : Dict α)
    (h : e ∈ (es.foldl (fun d e => d.insert e.1 e.2) d).entries) : e ∈ d.entries ∨ e ∈ es := by
  induction es generalizing d with
  | nil => exact .inl h
  | cons e' es ih =>
    rcases ih (d.insert e'.1 e'.2) h with hd | hes
    · rcases mem_insertEntry hd with rfl | hd
      · exact .inr List.mem_cons_self
      · exact .inl hd
    · exact .inr (List.mem_cons_of_mem _ hes)

/-- A dictionary has no other entries than those it is made of. -/
theorem mem_of_mem_ofList (h : e ∈ (ofList es).entries) : e ∈ es :=
  (mem_of_mem_foldl_insert empty h).resolve_left List.not_mem_nil

end Dict

/-- The fields of an object are put in order like the entries of a dictionary. -/
theorem Json.ofFields_eq (fs : List (String × Json)) :
    Json.ofFields fs = .object (Dict.ofList fs).entries := by
  have hinsert (k : String) (v : Json) (fs : List (String × Json)) :
      insertField k v fs = Dict.insertEntry k v fs := by
    fun_induction insertField k v fs <;> simp [Dict.insertEntry, *]
  have hfold (d : Dict Json) : fs.foldl (fun acc f => insertField f.1 f.2 acc) d.entries =
      (fs.foldl (fun d e => d.insert e.1 e.2) d).entries := by
    induction fs generalizing d with
    | nil => rfl
    | cons f fs ih =>
      rw [List.foldl_cons, hinsert]
      exact ih (d.insert f.1 f.2)
  exact congrArg Json.object (hfold .empty)

/-! ## What can be held -/

/-- A whole number of 64 bits, with or without a sign; or a floating-point number. -/
def JsonNumber.IsHeld : JsonNumber → Prop
  | .whole n => -2 ^ 63 ≤ n ∧ n < 2 ^ 64
  | .real _ _ => True

/-- A value that can be held: its numbers can be, and the keys of its objects ascend. -/
inductive Json.IsHeld : Json → Prop
  /-- the value `null` -/
  | null : IsHeld .null
  /-- a truth value -/
  | bool (b : Bool) : IsHeld (.bool b)
  /-- a number -/
  | number {n : JsonNumber} (h : n.IsHeld) : IsHeld (.number n)
  /-- a string -/
  | string (s : String) : IsHeld (.string s)
  /-- an array -/
  | array {items : List Json} (h : ∀ j ∈ items, IsHeld j) : IsHeld (.array items)
  /-- an object -/
  | object {fields : List (String × Json)} (h : ∀ f ∈ fields, IsHeld f.2)
      (ascending : fields.Pairwise fun a b => a.1 < b.1) : IsHeld (.object fields)

/-- A draft whose numbers can be held. -/
inductive Draft.IsHeld : Draft → Prop
  /-- the value `null` -/
  | null : IsHeld .null
  /-- a truth value -/
  | bool (b : Bool) : IsHeld (.bool b)
  /-- a number -/
  | number {n : JsonNumber} (h : n.IsHeld) : IsHeld (.number n)
  /-- a string -/
  | string (s : String) : IsHeld (.string s)
  /-- an array -/
  | array {items : List Draft} (closed : Bool) (h : ∀ d ∈ items, IsHeld d) :
      IsHeld (.array items closed)
  /-- an object -/
  | object {fields : List (Option String × Draft)} (closed : Bool) (h : ∀ f ∈ fields, IsHeld f.2) :
      IsHeld (.object fields closed)
  /-- a part that cannot be held is none of its values -/
  | refused : IsHeld .refused
  /-- nor is where the text stops -/
  | broken : IsHeld .broken

theorem JsonNumber.isHeld_ofDouble? {x : Double} {n : JsonNumber}
    (h : JsonNumber.ofDouble? x = some n) : n.IsHeld := by
  rw [ofDouble?] at h
  split at h
  · cases h
    trivial
  · cases h

/-! ## Numerals -/

/-- Digits are read while they fit. -/
theorem takeDigits_lt {s : Nat} (cs : List Char) (h : s < 2 ^ 64) :
    (takeDigits s cs).1 < 2 ^ 64 := by
  fun_induction takeDigits s cs with
  | case1 => exact h
  | case2 s c cs next hnext ih => exact ih (of_decide_eq_true hnext)
  | case3 => exact h

/-- The number of a numeral can be held. -/
theorem JsonNumeral.isHeld_of_value? {n : JsonNumeral} {v : JsonNumber} (h : n.value? = some v) :
    v.IsHeld := by
  have hlt : (takeDigits 0 n.whole).1 < 2 ^ 64 := takeDigits_lt _ (by decide)
  have hreal {negative : Bool} {m : Nat} {e : Int} (h : real? negative m e = some v) :
      v.IsHeld := by
    obtain ⟨x, -, hx⟩ := Option.bind_eq_some_iff.mp h
    exact JsonNumber.isHeld_ofDouble? hx
  simp only [value?] at h
  split at h
  · -- with an exponent the number is a double
    split at h
    · split at h
      · cases h
      · exact JsonNumber.isHeld_ofDouble? h
    · exact hreal h
  · -- without one it is a double if it has a fraction or too many digits
    split at h
    · exact hreal h
    · split at h
      · split at h
        · exact JsonNumber.isHeld_ofDouble? h
        -- a negative integer that fits in 64 bits
        case isFalse hfits =>
          cases h
          simp only [fitsSigned, Bool.or_eq_true, decide_eq_true_eq, Bool.not_eq_true',
            not_or, Bool.not_eq_false, Bool.and_eq_true] at hfits
          exact ⟨hfits.2.1, by omega⟩
      · cases h
        exact ⟨by omega, by exact_mod_cast hlt⟩

/-! ## Texts -/

namespace Draft

theorem isHeld_numeralValue (cs : List Char) : (numeralValue cs).1.IsHeld := by
  rw [numeralValue]
  split
  · exact .broken
  · split
    case h_1 v hv => exact .number (JsonNumeral.isHeld_of_value? hv)
    case h_2 => exact .refused

theorem isHeld_word (cs : List Char) : (word cs).1.IsHeld := by
  unfold word
  split
  · exact .null
  · exact .bool true
  · exact .bool false
  · exact .broken

theorem isHeld_contained {d : Draft} (depth : Nat) (h : d.IsHeld) : (contained depth d).IsHeld := by
  rw [contained]
  split
  · exact h
  · exact .refused

/-- **The numbers of a text can be held**, those of a value, of items and of fields. -/
theorem isHeld_of_fuel (fuel : Nat) :
    (∀ depth cs, (value fuel depth cs).1.IsHeld) ∧
      (∀ depth cs, ∀ d ∈ (items fuel depth cs).1, d.IsHeld) ∧
      ∀ depth cs, ∀ f ∈ (fields fuel depth cs).1, f.2.IsHeld := by
  -- a value asks for items or fields, and these ask for values with less fuel
  induction fuel with
  | zero => exact ⟨fun _ _ => .broken, nofun, nofun⟩
  | succ fuel ih =>
    obtain ⟨hvalue, hitems, hfields⟩ := ih
    refine ⟨fun depth cs => ?_, fun depth cs => ?_, fun depth cs => ?_⟩
    · rw [value]
      split
      case h_1 =>
        split
        · exact .broken
        · exact .string _
        · exact .refused
      case h_2 rest _ =>
        split
        · exact isHeld_contained depth (.array true nofun)
        case h_2 =>
          have hds := hitems (depth + 1) (skipGaps rest)
          split
          case h_1 ds _ heq =>
            rw [heq] at hds
            exact isHeld_contained depth (.array true hds)
          case h_2 ds heq =>
            rw [heq] at hds
            exact .array false hds
      case h_3 rest _ =>
        split
        · exact isHeld_contained depth (.object true nofun)
        case h_2 =>
          have hfs := hfields (depth + 1) (skipGaps rest)
          split
          case h_1 fs _ heq =>
            rw [heq] at hfs
            exact isHeld_contained depth (.object true hfs)
          case h_2 fs heq =>
            rw [heq] at hfs
            exact .object false hfs
      case h_4 =>
        split
        · exact isHeld_numeralValue _
        · exact isHeld_word _
      case h_5 => exact .broken
    · have hd := hvalue depth cs
      rw [items]
      split
      case h_1 d heq =>
        rw [heq] at hd
        exact List.forall_mem_singleton.mpr hd
      case h_2 d rest heq =>
        rw [heq] at hd
        split
        · exact List.forall_mem_singleton.mpr hd
        · exact List.forall_mem_cons.mpr ⟨hd, hitems depth _⟩
        · exact List.forall_mem_singleton.mpr hd
    · rw [fields]
      split
      case h_2 => nofun
      case h_1 =>
        split
        case h_2 => nofun
        case h_1 k rest _ =>
          split
          case h_2 => nofun
          case h_1 rest' _ =>
            have hd := hvalue depth rest'
            split
            case h_1 d heq =>
              rw [heq] at hd
              exact List.forall_mem_singleton.mpr hd
            case h_2 d rest heq =>
              rw [heq] at hd
              split
              · exact List.forall_mem_singleton.mpr hd
              · exact List.forall_mem_cons.mpr ⟨hd, hfields depth _⟩
              · exact List.forall_mem_singleton.mpr hd

/-- **Every text** is read into a draft whose numbers can be held. -/
theorem isHeld_read (text : String) : (read text).1.IsHeld := by
  have hvalue := (isHeld_of_fuel (2 * text.toList.length + 2)).1 0 text.toList
  simp only [read]
  split
  case h_1 d rest heq =>
    rw [heq] at hvalue
    exact hvalue
  case h_2 d heq =>
    rw [heq] at hvalue
    exact hvalue

/-! ## Drafts of values -/

theorem ofItems_eq_map (js : List Json) : ofItems js = js.map ofJson := by
  induction js with
  | nil => rfl
  | cons j js ih => rw [ofItems, ih, List.map_cons]

theorem ofFields_eq_map (fs : List (String × Json)) :
    ofFields fs = fs.map fun f => (some f.1, ofJson f.2) := by
  induction fs with
  | nil => rfl
  | cons f fs ih => rw [ofFields, ih, List.map_cons]

theorem isHeld_ofJson {j : Json} (h : j.IsHeld) : (ofJson j).IsHeld := by
  induction h with
  | null => exact .null
  | bool b => exact .bool b
  | number h => exact .number h
  | string s => exact .string s
  | array _ ih =>
    rw [ofJson, ofItems_eq_map]
    exact .array true (List.forall_mem_map.mpr ih)
  | object _ _ ih =>
    rw [ofJson, ofFields_eq_map]
    exact .object true (List.forall_mem_map.mpr ih)

/-! ## Decoding -/

theorem itemsToJson?_eq_mapM (ds : List Draft) : itemsToJson? ds = ds.mapM toJson? := by
  induction ds with
  | nil => rfl
  | cons d ds ih => rw [itemsToJson?, ih, List.mapM_cons]

/-- A field is decoded: its key, and its value. -/
def field? {α : Type} (value : Draft → Except Mismatch α) (f : Option String × Draft) :
    Except Mismatch (String × α) := do return (← held f.1, ← value f.2)

theorem field?_eq_ok {α : Type} {value : Draft → Except Mismatch α} {f : Option String × Draft}
    {e : String × α} : field? value f = .ok e ↔ f.1 = some e.1 ∧ value f.2 = .ok e.2 := by
  obtain ⟨k, d⟩ := f
  rw [field?, bind_eq_ok]
  constructor
  · rintro ⟨l, hl, h⟩
    obtain ⟨a, ha, h⟩ := bind_eq_ok.mp h
    cases h
    cases k with
    | none => cases hl
    | some k =>
      cases hl
      exact ⟨rfl, ha⟩
  · rintro ⟨rfl, ha⟩
    exact ⟨e.1, rfl, bind_eq_ok.mpr ⟨e.2, ha, rfl⟩⟩

theorem fieldsToJson?_eq_mapM (fs : List (Option String × Draft)) :
    fieldsToJson? fs = fs.mapM (field? toJson?) := by
  induction fs with
  | nil => rfl
  | cons f fs ih =>
    rw [fieldsToJson?, ih, List.mapM_cons]
    simp only [field?, bind_assoc, pure_bind]

theorem ifClosed_eq_ok {α : Type} {closed : Bool} {a b : α} :
    ifClosed closed a = .ok b ↔ closed = true ∧ a = b := by
  cases closed
  · exact ⟨nofun, nofun⟩
  · exact ⟨fun h => ⟨rfl, Except.ok.inj h⟩, fun h => congrArg _ h.2⟩

section

variable {α σ : Type} {value : Draft → Except Mismatch α} {d : Draft}

theorem toList?_eq_ok {as : List α} :
    d.toList? value = .ok as ↔ ∃ ds, d = .array ds true ∧ ds.mapM value = .ok as := by
  constructor
  · intro h
    cases d with
    | array ds closed =>
      obtain ⟨as', has, h⟩ := bind_eq_ok.mp h
      obtain ⟨rfl, rfl⟩ := ifClosed_eq_ok.mp h
      exact ⟨ds, rfl, has⟩
    | _ => cases h
  · rintro ⟨ds, rfl, has⟩
    exact bind_eq_ok.mpr ⟨as, has, rfl⟩

theorem toFields?_eq_ok {es : List (String × α)} :
    d.toFields? value = .ok es ↔ ∃ fs, d = .object fs true ∧ fs.mapM (field? value) = .ok es := by
  constructor
  · intro h
    cases d with
    | object fs closed =>
      obtain ⟨es', hes, h⟩ := bind_eq_ok.mp h
      obtain ⟨rfl, rfl⟩ := ifClosed_eq_ok.mp h
      exact ⟨fs, rfl, hes⟩
    | _ => cases h
  · rintro ⟨fs, rfl, hes⟩
    exact bind_eq_ok.mpr ⟨es, hes, rfl⟩

variable {P : σ → Prop} {step : σ → String → Draft → Except Mismatch σ} {names : List String}
  {s s' : σ}

/-- What every field keeps holds of the record. -/
theorem toRecord?_invariant (hd : d.IsHeld)
    (hstep : ∀ s name d s', d.IsHeld → step s name d = .ok s' → P s → P s') (hs : P s)
    (h : d.toRecord? names step s = .ok s') : P s' := by
  -- reading by position keeps the condition, and so does reading by name
  have hitems {names : List String} {ds : List Draft} (hds : ∀ d ∈ ds, d.IsHeld) {s s' : σ}
      (hs : P s) (h : readItems step names ds s = .ok s') : P s' := by
    fun_induction readItems step names ds s with
    | case1 => exact Except.ok.inj h ▸ hs
    | case2 => cases h
    | case3 s name names d ds ih =>
      obtain ⟨t, ht, h⟩ := bind_eq_ok.mp h
      obtain ⟨hd, hds⟩ := List.forall_mem_cons.mp hds
      exact ih t hds (hstep _ _ _ _ hd ht hs) h
  have hfields {fs : List (Option String × Draft)} (hfs : ∀ f ∈ fs, f.2.IsHeld) {s s' : σ}
      (hs : P s) (h : readFields step names fs s = .ok s') : P s' := by
    fun_induction readFields step names fs s with
    | case1 => exact Except.ok.inj h ▸ hs
    | case2 => cases h
    | case3 s k d fs hk ih =>
      obtain ⟨t, ht, h⟩ := bind_eq_ok.mp h
      obtain ⟨hd, hfs⟩ := List.forall_mem_cons.mp hfs
      exact ih t hfs (hstep _ _ _ _ hd ht hs) h
    -- a field that the record does not have is passed over
    | case4 s k d fs hk hsound ih => exact ih (List.forall_mem_cons.mp hfs).2 hs h
    | case5 => cases h
  cases hd with
  | array closed hds =>
    obtain ⟨t, ht, h⟩ := bind_eq_ok.mp h
    obtain ⟨-, rfl⟩ := ifClosed_eq_ok.mp h
    exact hitems hds hs ht
  | object closed hfs =>
    obtain ⟨t, ht, h⟩ := bind_eq_ok.mp h
    obtain ⟨-, rfl⟩ := ifClosed_eq_ok.mp h
    exact hfields hfs hs ht
  | _ => cases h

end

/-- **A value that can be held** is the value of its draft. -/
theorem toJson?_ofJson {j : Json} (h : j.IsHeld) : toJson? (ofJson j) = .ok j := by
  induction h with
  | null => rfl
  | bool b => rfl
  | number h => rfl
  | string s => rfl
  -- the elements are read back one by one
  | @array js _ ih =>
    have hitems : (js.map ofJson).mapM toJson? = .ok js :=
      mapM_of_forall₂ (List.forall₂_map_left_iff.mpr (List.forall₂_same.mpr ih))
    rw [ofJson, ofItems_eq_map, toJson?, itemsToJson?_eq_mapM, hitems]
    rfl
  | @object fs _ hascending ih =>
    have hfields : (fs.map fun f => (some f.1, ofJson f.2)).mapM (field? toJson?) = .ok fs :=
      mapM_of_forall₂ (List.forall₂_map_left_iff.mpr (List.forall₂_same.mpr fun f hf =>
        field?_eq_ok.mpr ⟨rfl, ih f hf⟩))
    rw [ofJson, ofFields_eq_map, toJson?, fieldsToJson?_eq_mapM, hfields]
    -- the fields are ascending already, so that collecting them changes nothing
    change Except.ok (Json.ofFields fs) = _
    rw [Json.ofFields_eq, Dict.ofList_entries hascending]

/-- **What is decoded can be held**, if the numbers of the draft can be. -/
theorem isHeld_of_toJson? {d : Draft} (h : d.IsHeld) {j : Json} (hj : toJson? d = .ok j) :
    j.IsHeld := by
  induction h generalizing j with
  | null => cases hj; exact .null
  | bool b => cases hj; exact .bool b
  | number h => cases hj; exact .number h
  | string s => cases hj; exact .string s
  | refused => cases hj
  | broken => cases hj
  | @array ds closed _ ih =>
    rw [toJson?, itemsToJson?_eq_mapM] at hj
    obtain ⟨js, hjs, hj⟩ := bind_eq_ok.mp hj
    obtain ⟨-, rfl⟩ := ifClosed_eq_ok.mp hj
    refine .array fun j hmem => ?_
    obtain ⟨d, hd, hdj⟩ := exists_of_mem_mapM hjs hmem
    exact ih d hd hdj
  | @object fs closed _ ih =>
    rw [toJson?, fieldsToJson?_eq_mapM] at hj
    obtain ⟨es, hes, hj⟩ := bind_eq_ok.mp hj
    obtain ⟨-, rfl⟩ := ifClosed_eq_ok.mp hj
    rw [Json.ofFields_eq]
    refine .object (fun e hmem => ?_) (Dict.ofList es).ascending
    -- an entry of the object comes from one of the fields
    obtain ⟨f, hf, hfe⟩ := exists_of_mem_mapM hes (Dict.mem_of_mem_ofList hmem)
    exact ih f hf (field?_eq_ok.mp hfe).2

end Draft

end Tabula
