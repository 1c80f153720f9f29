import Tabula.Proofs.Double.Rounding
import Tabula.Proofs.Postgres.Bytes
import Tabula.Proofs.Results.Equality
import Tabula.Proofs.Timestamp.Calendar

/-!
# What a parameter is read as

The bytes of a parameter depend on the value, and its type decides only how wide a number is. A cell
is read by its type alone. So a value comes back, or the nearest one that the type has, if its kind
is one of the type; any other value is sent too, and read as something else or not at all.

* `decodeCell_of_converts`: what is sent as a parameter of a type that has it.
* `encodeChecked_error_iff`: what is refused.
* `encoding_exact`: all of it.
-/

namespace Tabula.Postgres

variable {v w : Value} {t : ColumnType}

/-- What a column of a type holds of a value: the value itself, or the nearest one it can hold. -/
inductive Converts : Value → ColumnType → Value → Prop
  /-- no value is none of any type -/
  | null (t : ColumnType) : Converts .null t .null
  /-- an integer where it fits -/
  | int {i : Int64} {t : ColumnType} {width : Nat}
      (type : (t, width) ∈ [(.int2, 2), (.int4, 4), (.int8, 8)])
      (fits : fitsSigned (8 * width) i.toInt) : Converts (.int i) t (.int i)
  /-- an integer as the nearest number of 32 bits -/
  | intSingle (i : Int64) :
      Converts (.int i) .float4 (.float (.ofSingle (.ofNat (singleOfInt i.toInt))))
  /-- an integer as the nearest number of 64 bits -/
  | intDouble (i : Int64) : Converts (.int i) .float8 (.float (.ofInt i.toInt))
  /-- a floating-point number as the nearest one of 32 bits -/
  | single (x : Double) : Converts (.float x) .float4 (.float (.ofSingle x.toSingle))
  /-- a floating-point number -/
  | double (x : Double) : Converts (.float x) .float8 (.float x)
  /-- a text -/
  | text {t : ColumnType} (s : String) (type : t ∈ [.text, .varchar, .bpchar, .name]) :
      Converts (.text s) t (.text s)
  /-- a truth value -/
  | bool (b : Bool) : Converts (.bool b) .bool (.bool b)
  /-- a point of time to the microsecond, cut toward the year 2000; a leap second is none -/
  | moment {t : ColumnType} {p q : Timestamp} (type : t ∈ [.timestamp, .timestamptz])
      (ordinary : p.IsOrdinary) (ordinary' : q.IsOrdinary)
      (nanos : q.nanosSince2000 = 1000 * p.nanosSince2000.tdiv 1000) :
      Converts (.timestamp p) t (.timestamp q)
  /-- the midnight of a day -/
  | day (p : Timestamp) : Converts (.timestamp p) .date (.timestamp p.midnight)
  /-- JSON -/
  | json {t : ColumnType} (j : Json) (type : t ∈ [.json, .jsonb]) : Converts (.json j) t (.json j)
  /-- bytes -/
  | blob (bytes : List UInt8) : Converts (.blob bytes) .bytea (.blob bytes)

/-- A value is a number, with this sign and this absolute value. -/
inductive IsNumber : Value → Bool → ℚ → Prop
  /-- an integer -/
  | int (i : Int64) : IsNumber (.int i) (i.toInt < 0) i.toInt.natAbs
  /-- a floating-point number that is finite -/
  | float {x : Double} (hx : x.isFinite) : IsNumber (.float x) x.isNegative x.absolute

/-- The format of the floating-point numbers of a type. -/
def ColumnType.format? : ColumnType → Option Format
  | .float4 => some .binary32
  | .float8 => some .binary64
  | _ => none

/-- JSON is the value of its own text. -/
def ReadsBack : Value → Prop
  | .json j => ∃ k, Json.ofText? j.text = .ok k ∧ k == j
  | _ => True

/-- What is sent of a value as a parameter of a type is read, as what a column of the type holds of
it. -/
def IsKept (v : Value) (t : ColumnType) : Prop := ∀ cell, encodeChecked v t = .ok cell →
  ∃ w w', Converts v t w ∧ decodeCell t cell = some w' ∧ w' == w

/-- A column holds one value of each. -/
theorem Converts.unique {w' : Value} (h : Converts v t w) (h' : Converts v t w') : w = w' := by
  -- only integers and points of time have several types that differ in what they hold
  cases h with
  | moment type _ ordinary nanos =>
    cases h' with
    | moment _ _ ordinary' nanos' =>
      rw [Timestamp.nanosSince2000_injective ordinary ordinary' (nanos.trans nanos'.symm)]
    | day => simp at type
  | day =>
    cases h' with
    | moment type => simp at type
    | day => rfl
  | int type =>
    cases h' with
    | int => rfl
    | intSingle => simp at type
    | intDouble => simp at type
  | intSingle =>
    cases h' with
    | int type => simp at type
    | intSingle => rfl
  | intDouble =>
    cases h' with
    | int type => simp at type
    | intDouble => rfl
  | _ =>
    cases h'
    rfl

/-- **A column of floating-point numbers holds the one that is nearest** to a number. -/
theorem Converts.isRounded {f : Format} {negative : Bool} {x : ℚ} (h : Converts v t w)
    (hf : t.format? = some f) (hv : IsNumber v negative x) :
    ∃ y, w = .float y ∧ y.IsRounded f negative x := by
  cases hv with
  | int i =>
    cases h with
    | int type =>
      simp only [List.mem_cons, Prod.mk.injEq, List.not_mem_nil, or_false] at type
      rcases type with ⟨rfl, -⟩ | ⟨rfl, -⟩ | ⟨rfl, -⟩ <;> cases hf
    | intSingle =>
      cases hf
      have hrounded :=
        Format.isRounded_round (f := .binary32) (by decide) i.toInt.natAbs Nat.one_pos
      rw [Nat.cast_one, div_one] at hrounded
      have hsingle := Double.isRounded_ofSingle hrounded (decide (i.toInt < 0))
      simp only [decide_eq_true_eq] at hsingle
      exact ⟨_, rfl, hsingle⟩
    | intDouble =>
      cases hf
      exact ⟨_, rfl, Double.isRounded_ofInt i.toInt⟩
  | @float x hx =>
    cases h with
    | single =>
      cases hf
      exact ⟨_, rfl, x.isRounded_toSingle hx⟩
    | double =>
      cases hf
      exact ⟨x, rfl, x.isRounded_self hx⟩

/-! ## What is sent -/

theorem encodeChecked_of_isWritable (ht : t.isWritable) : encodeChecked v t = encode v t := by
  rw [encodeChecked, if_pos ht]

theorem isReadable_of_isWritable (ht : t.isWritable) : t.isReadable := by
  cases t with
  | other name => cases ht
  | _ => rfl

/-- An integer that fits is sent in the width of the type. -/
theorem encode_int {i : Int64} {width : Nat}
    (type : (t, width) ∈ [(.int2, 2), (.int4, 4), (.int8, 8)])
    (fits : fitsSigned (8 * width) i.toInt) :
    encode (.int i) t = .ok (some (intBytes width i.toInt)) ∧
      decode? t (intBytes width i.toInt) = some (.int i) := by
  have hread (hpos : 0 < width) : (intOf? width (intBytes width i.toInt)).map
      (fun j => Value.int (.ofInt j)) = some (.int i) := by
    rw [intOf?_intBytes hpos fits, Option.map_some, Int64.ofInt_toInt]
  simp only [List.mem_cons, Prod.mk.injEq, List.not_mem_nil, or_false] at type
  rcases type with ⟨rfl, rfl⟩ | ⟨rfl, rfl⟩ | ⟨rfl, rfl⟩
  · refine ⟨?_, hread (by decide)⟩
    rw [encode, intAs, fittingBytes, if_pos fits]
    rfl
  · refine ⟨?_, hread (by decide)⟩
    rw [encode, intAs, fittingBytes, if_pos fits]
    rfl
  · exact ⟨rfl, hread (by decide)⟩

theorem decode?_single (n : Nat) :
    decode? .float4 (bytesOf 4 n) = some (.float (.ofSingle (.ofNat n))) := by
  have hword : UInt32.ofNat (n % 256 ^ 4) = UInt32.ofNat n := UInt32.toNat_inj.mp (by simp)
  rw [decode?, wordOf?_bytesOf, Option.map_some, hword]

theorem decode?_double (x : Double) :
    decode? .float8 (bytesOf 8 x.bits.toNat) = some (.float x) := by
  have hword : UInt64.ofNat (x.bits.toNat % 256 ^ 8) = x.bits := UInt64.toNat_inj.mp (by simp)
  rw [decode?, wordOf?_bytesOf, Option.map_some, hword]

/-- A point of time fits 64 bits in microseconds. -/
theorem fitsSigned_micros {p : Timestamp} (hp : p.IsOrdinary) :
    fitsSigned (8 * 8) p.microsSince2000 := by
  have hday := onCalendar_iff.mp p.onCalendar_day
  obtain ⟨hle, hge⟩ := Timestamp.microsSince2000_day hp
  rw [show millenniumDay = 730425 by decide] at hday
  have hhalf : Nat.pow 2 (8 * 8 - 1) = 9223372036854775808 := rfl
  simp only [fitsSigned, hhalf, Bool.and_eq_true, decide_eq_true_eq]
  omega

/-- A day fits 32 bits. -/
theorem fitsSigned_days (p : Timestamp) : fitsSigned (8 * 4) p.daysSince2000 := by
  have hday := onCalendar_iff.mp p.onCalendar_day
  rw [show millenniumDay = 730425 by decide] at hday
  have hhalf : Nat.pow 2 (8 * 4 - 1) = 2147483648 := rfl
  simp only [fitsSigned, hhalf, Bool.and_eq_true, decide_eq_true_eq]
  omega

theorem decode?_text (type : t ∈ [.text, .varchar, .bpchar, .name]) (s : String) :
    decode? t s.toUTF8.toList = some (.text s) := by
  have htext : Value.text <$> textOf? s.toUTF8.toList = some (.text s) := by
    rw [textOf?_toUTF8]
    rfl
  simp only [List.mem_cons, List.not_mem_nil, or_false] at type
  rcases type with rfl | rfl | rfl | rfl <;> exact htext

/-- A point of time is sent and read in whole microseconds. -/
theorem encode_moment {p q : Timestamp} (type : t ∈ [.timestamp, .timestamptz])
    (ordinary : p.IsOrdinary) (hq : Timestamp.ofMicrosSince2000? p.microsSince2000 = some q) :
    encode (.timestamp p) t = .ok (some (intBytes 8 p.microsSince2000)) ∧
      decode? t (intBytes 8 p.microsSince2000) = some (.timestamp q) := by
  have hread : (intOf? 8 (intBytes 8 p.microsSince2000)).bind
      (fun i => Value.timestamp <$> Timestamp.ofMicrosSince2000? i) = some (.timestamp q) := by
    rw [intOf?_intBytes (by decide) (fitsSigned_micros ordinary), Option.bind_some, hq]
    rfl
  simp only [List.mem_cons, List.not_mem_nil, or_false] at type
  rcases type with rfl | rfl <;> exact ⟨rfl, hread⟩

theorem decode?_day (p : Timestamp) :
    decode? .date (intBytes 4 p.daysSince2000) = some (.timestamp p.midnight) := by
  rw [decode?, intOf?_intBytes (by decide) (fitsSigned_days p), Option.bind_some,
    p.ofDaysSince2000?_daysSince2000]
  rfl

/-- JSON is sent as its text, behind a mark or without one, and read as what the text is read as. -/
theorem encode_json (type : t ∈ [.json, .jsonb]) (j : Json) :
    ∃ cell, encode (.json j) t = .ok cell ∧
      decodeCell t cell = .json <$> (Json.ofText? j.text).toOption := by
  have hread : jsonOf? j.text.toUTF8.toList = (Json.ofText? j.text).toOption := by
    rw [jsonOf?, textOf?_toUTF8, Option.bind_some]
  simp only [List.mem_cons, List.not_mem_nil, or_false] at type
  rcases type with rfl | rfl <;> exact ⟨_, rfl, congrArg (Value.json <$> ·) hread⟩

/-- **What is read of a value whose kind is one of the type.** -/
theorem decodeCell_of_converts (h : Converts v t w) (ht : t.isWritable) (hj : ReadsBack v) :
    ∃ cell w', encode v t = .ok cell ∧ decodeCell t cell = some w' ∧ w' == w := by
  cases h with
  | null => exact ⟨none, .null, rfl, if_pos (isReadable_of_isWritable ht), rfl⟩
  | int type fits =>
    obtain ⟨hsent, hread⟩ := encode_int type fits
    exact ⟨_, _, hsent, hread, BEq.rfl⟩
  | intSingle i => exact ⟨_, _, rfl, decode?_single _, BEq.rfl⟩
  | intDouble i => exact ⟨_, _, rfl, decode?_double _, BEq.rfl⟩
  | single x =>
    have hread := decode?_single x.toSingle.toNat
    rw [UInt32.ofNat_toNat] at hread
    exact ⟨_, _, rfl, hread, BEq.rfl⟩
  | double x => exact ⟨_, _, rfl, decode?_double x, BEq.rfl⟩
  | text s type => exact ⟨_, _, rfl, decode?_text type s, BEq.rfl⟩
  | bool b => exact ⟨_, .bool b, rfl, by cases b <;> rfl, BEq.rfl⟩
  | @moment t p q type ordinary ordinary' nanos =>
    obtain ⟨q', hq', ordinary'', nanos'⟩ := Timestamp.exists_truncated ordinary
    obtain rfl := Timestamp.nanosSince2000_injective ordinary' ordinary'' (nanos.trans nanos'.symm)
    obtain ⟨hsent, hread⟩ := encode_moment type ordinary hq'
    exact ⟨_, _, hsent, hread, BEq.rfl⟩
  | day p => exact ⟨_, _, rfl, decode?_day p, BEq.rfl⟩
  | json j type =>
    obtain ⟨k, hk, hkj⟩ := hj
    obtain ⟨cell, hsent, hread⟩ := encode_json type j
    rw [hk] at hread
    exact ⟨_, _, hsent, hread, hkj⟩
  | blob bytes => exact ⟨_, _, rfl, rfl, BEq.rfl⟩

/-- JSON that is read is what its text reads back as. -/
theorem readsBack_of_decodeCell {cell : Option (List UInt8)} {w' : Value} (h : Converts v t w)
    (hsent : encode v t = .ok cell) (hread : decodeCell t cell = some w') (heq : w' == w) :
    ReadsBack v := by
  cases h with
  | json j type =>
    obtain ⟨cell', hsent', hread'⟩ := encode_json type j
    rw [hsent'] at hsent
    cases hsent
    rw [hread'] at hread
    rcases hk : Json.ofText? j.text with e | k
    · rw [hk] at hread
      cases hread
    · rw [hk] at hread
      cases hread
      exact ⟨k, hk, heq⟩
  | _ => trivial

/-- An integer is refused if the type is narrower than it. -/
theorem encode_int_error_iff {i : Int64} : (∃ e, encode (.int i) t = .error e) ↔
    ∃ width, (t, width) ∈ [(.int2, 2), (.int4, 4)] ∧ fitsSigned (8 * width) i.toInt = false := by
  have hfitting (width : Nat) : (∃ e, some <$> fittingBytes width i.toInt = .error e) ↔
      fitsSigned (8 * width) i.toInt = false := by
    rw [fittingBytes]
    cases fitsSigned (8 * width) i.toInt
    · exact iff_of_true ⟨_, rfl⟩ rfl
    · exact iff_of_false nofun nofun
  cases t with
  | int2 => exact (hfitting 2).trans (by simp)
  | int4 => exact (hfitting 4).trans (by simp)
  | _ => exact iff_of_false nofun (by simp)

/-- **What is refused**: integers beyond the width of the type, and all values for other types. -/
theorem encodeChecked_error_iff : (∃ e, encodeChecked v t = .error e) ↔ t.isWritable = false ∨
    ∃ i width, v = .int i ∧ (t, width) ∈ [(.int2, 2), (.int4, 4)] ∧
      fitsSigned (8 * width) i.toInt = false := by
  by_cases ht : t.isWritable
  · rw [encodeChecked_of_isWritable ht, ht]
    simp only [reduceCtorEq, false_or]
    cases v with
    | int i =>
      rw [encode_int_error_iff]
      constructor
      · rintro ⟨width, h⟩
        exact ⟨i, width, rfl, h⟩
      · rintro ⟨_, width, hi, h⟩
        cases hi
        exact ⟨width, h⟩
    | _ => exact ⟨nofun, nofun⟩
  · rw [encodeChecked, if_neg ht]
    exact ⟨fun _ => .inl (Bool.eq_false_iff.mpr ht), fun _ => ⟨_, rfl⟩⟩

/-! ## All of it -/

/-- **What a parameter is read as.** It is kept if and only if it is refused, or its kind is one of
the type and its text, if it is JSON, reads back. Refused are integers beyond the width of the type,
and all values for types that are not known. And a column holds one value of each, and of a number a
column of floating-point numbers holds the one that is nearest to it. -/
theorem encoding_exact (v : Value) (t : ColumnType) :
    (IsKept v t ↔
      (∃ e, encodeChecked v t = .error e) ∨ (∃ w, Converts v t w) ∧ ReadsBack v) ∧
    ((∃ e, encodeChecked v t = .error e) ↔ t.isWritable = false ∨
      ∃ i width, v = .int i ∧ (t, width) ∈ [(.int2, 2), (.int4, 4)] ∧
        fitsSigned (8 * width) i.toInt = false) ∧
    (∀ w w', Converts v t w → Converts v t w' → w = w') ∧
    ∀ f negative x w, t.format? = some f → IsNumber v negative x → Converts v t w →
      ∃ y, w = .float y ∧ y.IsRounded f negative x := by
  refine ⟨?_, encodeChecked_error_iff, fun w w' => Converts.unique,
    fun f negative x w hf hv h => h.isRounded hf hv⟩
  rcases hsent : encodeChecked v t with e | cell
  · exact iff_of_true (fun cell h => by rw [hsent] at h; cases h) (.inl ⟨e, rfl⟩)
  · -- something was sent, so the type is known
    have ht : t.isWritable := by
      by_contra ht
      rw [encodeChecked, if_neg ht] at hsent
      cases hsent
    constructor
    · intro hkept
      obtain ⟨w, w', hconverts, hread, heq⟩ := hkept cell hsent
      rw [encodeChecked_of_isWritable ht] at hsent
      exact .inr ⟨⟨w, hconverts⟩, readsBack_of_decodeCell hconverts hsent hread heq⟩
    · rintro (⟨e, h⟩ | ⟨⟨w, hconverts⟩, hback⟩) cell' hcell'
      · cases h
      · obtain ⟨cell₁, w', hsent', hread, heq⟩ := decodeCell_of_converts hconverts ht hback
        rw [encodeChecked_of_isWritable ht, hsent'] at hcell'
        cases hcell'
        exact ⟨w, w', hconverts, hread, heq⟩

/-- The last half of a microsecond before the year 2000. -/
def lastHalf : Timestamp :=
  { year := 1999, month := 12, day := 31, hour := 23, minute := 59, second := 59,
    nano := 999999500 }

/-- It is sent as the start of the year, and read so. -/
theorem encoding_exact_lastHalf : ∃ q : Timestamp, q.fields = [2000, 1, 1, 0, 0, 0, 0] ∧
    Converts (.timestamp lastHalf) .timestamptz (.timestamp q) ∧
    IsKept (.timestamp lastHalf) .timestamptz ∧
    ∀ w, Converts (.timestamp lastHalf) .timestamptz w → .timestamp q = w := by
  obtain ⟨hkept, -, hunique, -⟩ := encoding_exact (.timestamp lastHalf) .timestamptz
  have hconverts : Converts (.timestamp lastHalf) .timestamptz (.timestamp
      { year := 2000, month := 1, day := 1, hour := 0, minute := 0, second := 0, nano := 0 }) :=
    .moment (by simp) (by decide) (by decide) (by decide)
  exact ⟨_, rfl, hconverts, hkept.mpr (.inr ⟨⟨_, hconverts⟩, trivial⟩),
    fun w hw => hunique _ _ hconverts hw⟩

/-- An integer that is sent as a text, and a text that is sent as an integer: neither is refused,
and each is read as a value that it is not. -/
theorem encoding_not_kept :
    (encodeChecked (.int 7) .text = .ok (some [0, 0, 0, 0, 0, 0, 0, 7]) ∧
      decodeCell .text (some [0, 0, 0, 0, 0, 0, 0, 7]) =
        some (.text (String.ofList (List.replicate 7 '\u0000' ++ ['\u0007']))) ∧
      ¬IsKept (.int 7) .text) ∧
    (encodeChecked (.text "12345678") .int8 = .ok (some [49, 50, 51, 52, 53, 54, 55, 56]) ∧
      decodeCell .int8 (some [49, 50, 51, 52, 53, 54, 55, 56]) =
        some (.int 3544952156018063160) ∧
      ¬IsKept (.text "12345678") .int8) := by
  have hsent : encodeChecked (.text "12345678") .int8 =
      .ok (some [49, 50, 51, 52, 53, 54, 55, 56]) := by
    rw [encodeChecked_of_isWritable rfl, encode, toList_eq]
    rfl
  have hread : intOf? 8 [49, 50, 51, 52, 53, 54, 55, 56] = some 3544952156018063160 := by decide
  refine ⟨⟨rfl, rfl, fun h => ?_⟩, hsent, by rw [decodeCell, decode?, hread]; rfl, fun h => ?_⟩
  · obtain ⟨w, w', hw, -⟩ := h _ rfl
    cases hw with
    | int type => simp at type
  · obtain ⟨w, w', hw, -⟩ := h _ hsent
    cases hw with
    | text s type => simp at type

end Tabula.Postgres
