import Tabula.Proofs.Postgres.Sending

/-!
# What comes back of a parameter

A value is sent as a parameter of a type and read from a column of the same type. What comes back is
the value itself if the type is that of its kind. A number of a type of its own width, a text, a
truth value and bytes come back as they are; JSON comes back as what its text reads as; a point of
time comes back in whole microseconds and a day as its midnight.

* `Returns`: what comes back of a value.
* `returns_int_iff`, `returns_json_iff`, `returns_moment`, `returns_day`: for the kinds that do not
  always come back.
* `parameters_return`: all of them.
-/

namespace Tabula

namespace Timestamp

variable {p q : Timestamp}

/-- A moment is cut to whole microseconds without loss if it has such. -/
theorem truncated_eq_iff (hp : p.IsOrdinary) (hq : q.IsOrdinary)
    (h : q.nanosSince2000 = 1000 * p.nanosSince2000.tdiv 1000) : q = p ↔ p.nano % 1000 = 0 := by
  -- all units above the nanosecond are whole microseconds
  have hrest : p.nanosSince2000 % 1000 = (p.nano % 1000 : Nat) := by
    rw [nanosSince2000]
    omega
  constructor
  · rintro rfl
    have hdvd : (1000 : Int) ∣ q.nanosSince2000 := ⟨_, h⟩
    omega
  · intro hnano
    refine nanosSince2000_injective hq hp (h.trans (Int.mul_tdiv_cancel' ?_))
    omega

theorem midnight_eq_iff :
    p.midnight = p ↔ p.hour = 0 ∧ p.minute = 0 ∧ p.second = 0 ∧ p.nano = 0 := by
  constructor
  · intro h
    rw [← h]
    exact ⟨rfl, rfl, rfl, rfl⟩
  · rintro ⟨hhour, hminute, hsecond, hnano⟩
    cases p
    simp only at hhour hminute hsecond hnano
    subst hhour hminute hsecond hnano
    rfl

end Timestamp

namespace Postgres

variable {v w : Value} {t : ColumnType}

/-- What is sent of a value as a parameter of a type is read, in a column of the type, as a value.
-/
def Returns (v : Value) (t : ColumnType) (w : Value) : Prop :=
  ∃ cell, encodeChecked v t = .ok cell ∧ decodeCell t cell = some w

theorem Returns.unique {w' : Value} (h : Returns v t w) (h' : Returns v t w') : w = w' := by
  obtain ⟨cell, hsent, hread⟩ := h
  obtain ⟨cell', hsent', hread'⟩ := h'
  rw [hsent] at hsent'
  cases hsent'
  exact Option.some.inj (hread.symm.trans hread')

/-- What is sent without a check is sent with it, as a parameter of a type that is known. -/
theorem Returns.of_encode {cell : Option (List UInt8)} (ht : t.isWritable)
    (hsent : encode v t = .ok cell) (hread : decodeCell t cell = some w) : Returns v t w :=
  ⟨cell, (encodeChecked_of_isWritable ht).trans hsent, hread⟩

/-- An integer is refused if it does not fit the type. -/
theorem encodeChecked_int_error_iff {i : Int64} {width : Nat}
    (type : (t, width) ∈ [(.int2, 2), (.int4, 4), (.int8, 8)]) :
    (∃ e, encodeChecked (.int i) t = .error e) ↔ fitsSigned (8 * width) i.toInt = false := by
  have ht : t.isWritable := by
    simp only [List.mem_cons, Prod.mk.injEq, List.not_mem_nil, or_false] at type
    rcases type with ⟨rfl, -⟩ | ⟨rfl, -⟩ | ⟨rfl, -⟩ <;> rfl
  rw [encodeChecked_of_isWritable ht, encode_int_error_iff]
  simp only [List.mem_cons, Prod.mk.injEq, List.not_mem_nil, or_false] at type ⊢
  rcases type with ⟨rfl, rfl⟩ | ⟨rfl, rfl⟩ | ⟨rfl, rfl⟩
  · simp
  · simp
  · -- every integer fits 64 bits
    simp [fitsSigned_toInt]

/-- **An integer comes back if it fits**, and otherwise nothing is sent. -/
theorem returns_int_iff {i : Int64} {width : Nat}
    (type : (t, width) ∈ [(.int2, 2), (.int4, 4), (.int8, 8)]) :
    Returns (.int i) t (.int i) ↔ fitsSigned (8 * width) i.toInt := by
  constructor
  · rintro ⟨cell, hsent, -⟩
    by_contra hfits
    obtain ⟨e, he⟩ := (encodeChecked_int_error_iff type).mpr (Bool.eq_false_iff.mpr hfits)
    rw [hsent] at he
    cases he
  · intro hfits
    obtain ⟨hsent, hread⟩ := encode_int type hfits
    refine .of_encode ?_ hsent hread
    simp only [List.mem_cons, Prod.mk.injEq, List.not_mem_nil, or_false] at type
    rcases type with ⟨rfl, -⟩ | ⟨rfl, -⟩ | ⟨rfl, -⟩ <;> rfl

/-- **JSON comes back as what its text reads as.** -/
theorem returns_json_iff {j k : Json} (type : t ∈ [.json, .jsonb]) :
    Returns (.json j) t (.json k) ↔ Json.ofText? j.text = .ok k := by
  obtain ⟨cell, hsent, hread⟩ := encode_json type j
  have ht : t.isWritable := by
    simp only [List.mem_cons, List.not_mem_nil, or_false] at type
    rcases type with rfl | rfl <;> rfl
  constructor
  · rintro ⟨cell', hsent', hread'⟩
    rw [encodeChecked_of_isWritable ht, hsent] at hsent'
    cases hsent'
    rw [hread] at hread'
    rcases hk : Json.ofText? j.text with e | k'
    · rw [hk] at hread'
      cases hread'
    · rw [hk] at hread'
      cases hread'
      rfl
  · intro hk
    rw [hk] at hread
    exact .of_encode ht hsent hread

/-- **A moment comes back in whole microseconds**, cut toward the start of the year 2000. -/
theorem returns_moment {p : Timestamp} (hp : p.IsOrdinary) (type : t ∈ [.timestamp, .timestamptz]) :
    ∃ q : Timestamp, Returns (.timestamp p) t (.timestamp q) ∧ q.IsOrdinary ∧
      q.nanosSince2000 = 1000 * p.nanosSince2000.tdiv 1000 ∧ (q = p ↔ p.nano % 1000 = 0) := by
  obtain ⟨q, hq, ordinary, hnanos⟩ := Timestamp.exists_truncated hp
  obtain ⟨hsent, hread⟩ := encode_moment type hp hq
  have ht : t.isWritable := by
    simp only [List.mem_cons, List.not_mem_nil, or_false] at type
    rcases type with rfl | rfl <;> rfl
  exact ⟨q, .of_encode ht hsent hread, ordinary, hnanos,
    Timestamp.truncated_eq_iff hp ordinary hnanos⟩

/-- **A day comes back as its midnight.** -/
theorem returns_day (p : Timestamp) : Returns (.timestamp p) .date (.timestamp p.midnight) :=
  .of_encode rfl rfl (decode?_day p)

theorem returns_text (type : t ∈ [.text, .varchar, .bpchar, .name]) (s : String) :
    Returns (.text s) t (.text s) := by
  refine .of_encode ?_ rfl (decode?_text type s)
  simp only [List.mem_cons, List.not_mem_nil, or_false] at type
  rcases type with rfl | rfl | rfl | rfl <;> rfl

theorem returns_bool (b : Bool) : Returns (.bool b) .bool (.bool b) :=
  .of_encode rfl rfl (by cases b <;> rfl)

/-- Null is sent and read without bytes. -/
theorem returns_null (ht : t.isWritable) : Returns .null t .null :=
  .of_encode ht rfl (if_pos (isReadable_of_isWritable ht))

/-- **Parameters come back.** An integer comes back if it fits the type, and is refused exactly if
it does not; a number of 64 bits, a truth value, a text and bytes come back as they are; JSON comes
back as what its text reads as; null comes back for every type as which anything is sent. A moment
outside of a leap second comes back in whole microseconds, cut toward the start of the year 2000, so
that it is the same if it has such; and a day comes back as its midnight. -/
theorem parameters_return :
    (∀ (i : Int64) (t : ColumnType) (width : Nat),
      (t, width) ∈ [(.int2, 2), (.int4, 4), (.int8, 8)] →
        (Returns (.int i) t (.int i) ↔ fitsSigned (8 * width) i.toInt) ∧
        ((∃ e, encodeChecked (.int i) t = .error e) ↔ fitsSigned (8 * width) i.toInt = false)) ∧
    (∀ x : Double, Returns (.float x) .float8 (.float x)) ∧
    (∀ b : Bool, Returns (.bool b) .bool (.bool b)) ∧
    (∀ s : String, ∀ t ∈ [ColumnType.text, .varchar, .bpchar, .name],
      Returns (.text s) t (.text s)) ∧
    (∀ bytes : List UInt8, Returns (.blob bytes) .bytea (.blob bytes)) ∧
    (∀ j k : Json, ∀ t ∈ [ColumnType.json, .jsonb],
      Returns (.json j) t (.json k) ↔ Json.ofText? j.text = .ok k) ∧
    (∀ t : ColumnType,
      Returns .null t .null ∨ ∀ v, encodeChecked v t = .error (.unsupported t)) ∧
    (∀ p : Timestamp, p.IsOrdinary → ∀ t ∈ [ColumnType.timestamp, .timestamptz],
      ∃ q : Timestamp, Returns (.timestamp p) t (.timestamp q) ∧ q.IsOrdinary ∧
        q.nanosSince2000 = 1000 * p.nanosSince2000.tdiv 1000 ∧ (q = p ↔ p.nano % 1000 = 0)) ∧
    ∀ p : Timestamp, Returns (.timestamp p) .date (.timestamp p.midnight) ∧
      (p.midnight = p ↔ p.hour = 0 ∧ p.minute = 0 ∧ p.second = 0 ∧ p.nano = 0) := by
  refine ⟨fun i t width type => ⟨returns_int_iff type, encodeChecked_int_error_iff type⟩,
    fun x => .of_encode rfl rfl (decode?_double x), returns_bool,
    fun s t type => returns_text type s, fun bytes => .of_encode rfl rfl rfl,
    fun j k t type => returns_json_iff type, fun t => ?_,
    fun p hp t type => returns_moment hp type,
    fun p => ⟨returns_day p, Timestamp.midnight_eq_iff⟩⟩
  by_cases ht : t.isWritable
  · exact .inl (returns_null ht)
  · exact .inr fun v => if_neg ht

/-- A microsecond and a half past a second of the year 1969. -/
def halfway : Timestamp :=
  { year := 1969, month := 7, day := 20, hour := 20, minute := 17, second := 40, nano := 1500 }

/-- It comes back two microseconds past the second, which is later. -/
theorem parameters_return_halfway : ∃ q : Timestamp,
    halfway.IsOrdinary ∧ .timestamptz ∈ [ColumnType.timestamp, .timestamptz] ∧
      Returns (.timestamp halfway) .timestamptz (.timestamp q) ∧
      q.fields = [1969, 7, 20, 20, 17, 40, 2000] := by
  obtain ⟨-, -, -, -, -, -, -, hmoment, -⟩ := parameters_return
  have hordinary : halfway.IsOrdinary := by decide
  obtain ⟨q, hreturns, hq, hnanos, -⟩ := hmoment halfway hordinary .timestamptz (by simp)
  have hlater : q = { halfway with nano := 2000, time_ok := by decide } :=
    Timestamp.nanosSince2000_injective hq (by decide) (hnanos.trans (by decide))
  exact ⟨q, hordinary, by simp, hreturns, by rw [hlater]; rfl⟩

end Postgres

end Tabula
