import Mathlib.Data.Set.Operations
import Tabula.Proofs.Value.Wire
import Tabula.Sqlite.Cell

/-!
# Timestamps and their texts

Every number of a timestamp is written in as many digits as its reader takes, or in front of a
character that is no digit; a fraction is written in as many groups of three digits as it needs, and
read in any number of them. So the text of a timestamp is read as that timestamp, with one
exception: nanoseconds past one milliard are written as one second more, and read as nanoseconds
again only behind a second 59. Behind any other second they are carried.

* `digits?_append`: digits in front of any rest.
* `year?_yearText`, `field?_padded`, `fraction?_fractionText`: the parts.
* `carried`, `carried_eq_self_iff`: what is read, and when it is what was written.
* `ofChars?_chars`: the whole.
* `text_read_back`: wherever a timestamp becomes text, what the text is read as, and which
  timestamps share it. -/

namespace Tabula.Timestamp

open Text (digitsValue isBlank trimStart)

/-! ## Numbers in a fixed width -/

/-- A padded number consists of digits. -/
theorem isDigit_of_mem_padded {width n : Nat} {c : Char} (h : c ∈ padded width n) :
    c.isDigit = true := by
  rcases List.mem_append.mp h with h | h
  · rw [(List.mem_replicate.mp h).2]
    rfl
  · exact Nat.isDigit_of_mem_toDigits (by decide) (by decide) h

/-- A number below the power has exactly the width. -/
theorem length_padded {width n : Nat} (hwidth : 0 < width) (h : n < 10 ^ width) :
    (padded width n).length = width := by
  have hle := (Nat.length_toDigits_le_iff (by decide) hwidth).mpr h
  rw [padded, List.length_append, List.length_replicate, Nat.sub_add_cancel hle]

/-- A padded number begins with a digit, whatever its width. -/
theorem padded_eq_cons (width n : Nat) :
    ∃ c cs, padded width n = c :: cs ∧ c.isDigit = true := by
  cases h : padded width n with
  | nil =>
    have hdigits : Nat.toDigits 10 n = [] := (List.append_eq_nil_iff.mp h).2
    exact absurd (congrArg List.length hdigits) (Nat.ne_of_gt Nat.length_toDigits_pos)
  | cons c cs => exact ⟨c, cs, rfl, isDigit_of_mem_padded (h ▸ List.mem_cons_self)⟩

/-- A padded number is not empty. -/
theorem padded_ne_nil (width n : Nat) : padded width n ≠ [] := by
  obtain ⟨c, cs, h, -⟩ := padded_eq_cons width n
  exact h ▸ List.cons_ne_nil c cs

/-- Zeros in front do not change the number. -/
theorem digitsValue_padded (width n : Nat) : digitsValue (padded width n) = n := by
  rw [Text.digitsValue_eq_ofDigitChars, padded, Nat.ofDigitChars_append,
    Nat.ofDigitChars_replicate_zero, Nat.mul_zero, Nat.ofDigitChars_ten_toDigits]

/-! ## Reading what was written -/

/-- A digit is no blank. -/
theorem isBlank_of_isDigit {c : Char} (h : c.isDigit = true) : isBlank c = false := by
  have hbounds : 48 ≤ c.toNat ∧ c.toNat ≤ 57 := Char.isDigit_iff_toNat.mp h
  simp [isBlank, Text.blankRanges]
  omega

/-- In front of a padded number there is no blank to skip. -/
theorem trimStart_padded (width n : Nat) (rest : List Char) :
    trimStart (padded width n ++ rest) = padded width n ++ rest := by
  obtain ⟨c, cs, h, hc⟩ := padded_eq_cons width n
  rw [h, List.cons_append, trimStart, List.dropWhile_cons_of_neg (by simp [isBlank_of_isDigit hc])]

/-- Digits are read up to the most there may be, or up to a character that is none. -/
theorem digits?_append {most : Nat} {ds rest : List Char} (hne : ds ≠ [])
    (hds : ∀ c ∈ ds, c.isDigit = true) (hmost : ds.length ≤ most)
    (hstop : ds.length = most ∨ ∀ c ∈ rest.head?, c.isDigit = false) :
    digits? most (ds ++ rest) = some (ds, rest) := by
  have hrest : (rest.take (most - ds.length)).takeWhile Char.isDigit = [] := by
    rcases hstop with hlength | hhead
    · rw [hlength, Nat.sub_self, List.take_zero, List.takeWhile_nil]
    · cases hk : most - ds.length with
      | zero => rw [List.take_zero, List.takeWhile_nil]
      | succ k =>
        cases rest with
        | nil => rfl
        | cons c cs => rw [List.take_succ_cons, List.takeWhile_cons_of_neg (by simp [hhead c rfl])]
  have htake : ((ds ++ rest).take most).takeWhile Char.isDigit = ds := by
    rw [List.take_append, List.take_of_length_le hmost, List.takeWhile_append_of_pos hds, hrest,
      List.append_nil]
  simp only [digits?, htake, if_neg hne, List.drop_left]

/-- The digits of a padded number are read up to its width, even if more digits follow. -/
theorem digits?_padded {width n : Nat} (hwidth : 0 < width) (h : n < 10 ^ width)
    (rest : List Char) : digits? width (padded width n ++ rest) = some (padded width n, rest) :=
  have hlength := length_padded hwidth h
  digits?_append (padded_ne_nil width n) (fun _ => isDigit_of_mem_padded) (Nat.le_of_eq hlength)
    (.inl hlength)

/-- A field of two digits is read. -/
theorem field?_padded {n : Nat} (h : n < 100) (rest : List Char) :
    field? (padded 2 n ++ rest) = some (n, rest) := by
  rw [field?, trimStart_padded, digits?_padded (by decide) h, Option.map_some]
  exact congrArg (fun m => some (m, rest)) (digitsValue_padded 2 n)

/-- A year of four digits is read. -/
theorem year?_plain {n : Nat} (h : n < 10000) (rest : List Char) :
    year? (padded 4 n ++ rest) = some ((n : Int), rest) := by
  obtain ⟨c, cs, hcons, hc⟩ := padded_eq_cons 4 n
  have hdigits := digits?_padded (by decide : 0 < 4) h rest
  rw [year?, trimStart_padded]
  -- a sign is no digit
  split
  · next heq => simp_all
  · next heq => simp_all
  · rw [hdigits, Option.map_some]
    exact congrArg (fun m : Nat => some ((m : Int), rest)) (digitsValue_padded 4 n)

/-- The digits of a year with a sign are read up to the hyphen. -/
theorem digits?_signed (n : Nat) (rest : List Char) :
    digits? (padded 4 n ++ '-' :: rest).length (padded 4 n ++ '-' :: rest) =
      some (padded 4 n, '-' :: rest) :=
  digits?_append (padded_ne_nil 4 n) (fun _ => isDigit_of_mem_padded)
    (by rw [List.length_append]; exact Nat.le_add_right _ _)
    (.inr fun c hc => by cases hc; rfl)

/-- A year with a minus is read. -/
theorem year?_minus (n : Nat) (rest : List Char) :
    year? ('-' :: padded 4 n ++ '-' :: rest) = some (-(n : Int), '-' :: rest) := by
  rw [List.cons_append, year?, trimStart, List.dropWhile_cons_of_neg (by decide)]
  simp only [digits?_signed, Option.map_some, digitsValue_padded]

/-- A year with a plus is read. -/
theorem year?_plus (n : Nat) (rest : List Char) :
    year? ('+' :: padded 4 n ++ '-' :: rest) = some ((n : Int), '-' :: rest) := by
  rw [List.cons_append, year?, trimStart, List.dropWhile_cons_of_neg (by decide)]
  simp only [digits?_signed, Option.map_some, digitsValue_padded]

/-- A year is read up to the hyphen behind it, with a sign or without one. -/
theorem year?_yearText (year : Int) (rest : List Char) :
    year? (yearText year ++ '-' :: rest) = some (year, '-' :: rest) := by
  by_cases hplain : 0 ≤ year ∧ year ≤ 9999
  · have htext : yearText year = padded 4 year.toNat := by simp [yearText, hplain]
    rw [htext, year?_plain (by omega), Int.toNat_of_nonneg hplain.1]
  · have htext : yearText year = (if year < 0 then '-' else '+') :: padded 4 year.natAbs := by
      simp [yearText, hplain]
    by_cases hsign : year < 0
    · rw [htext, if_pos hsign, year?_minus, Int.ofNat_natAbs_of_nonpos (by omega), Int.neg_neg]
    · rw [htext, if_neg hsign, year?_plus, Int.natAbs_of_nonneg (by omega)]

/-- The digits of a fraction count as the first of nine. -/
theorem fraction?_padded {width n : Nat} (hwidth : 0 < width) (hle : width ≤ 9)
    (h : n < 10 ^ width) : fraction? ('.' :: padded width n) = some (n * 10 ^ (9 - width)) := by
  have hlength := length_padded hwidth h
  have hall : (padded width n).all Char.isDigit = true :=
    List.all_eq_true.mpr fun _ => isDigit_of_mem_padded
  have htake : (padded width n).take 9 = padded width n := List.take_of_length_le (by omega)
  simp [fraction?, padded_ne_nil, hall, htake, hlength, digitsValue_padded]

/-- A fraction is read, of whatever length it was written. -/
theorem fraction?_fractionText {nano : Nat} (h : nano < 1000000000) :
    fraction? (fractionText nano) = some nano := by
  rw [fractionText]
  split
  · next hzero => rw [hzero]; rfl
  split
  · rw [fraction?_padded (by decide) (by decide) (by omega)]
    exact congrArg some (Nat.div_mul_cancel (Nat.dvd_of_mod_eq_zero ‹_›))
  split
  · rw [fraction?_padded (by decide) (by decide) (by omega)]
    exact congrArg some (Nat.div_mul_cancel (Nat.dvd_of_mod_eq_zero ‹_›))
  · rw [fraction?_padded (by decide) (by decide) h]
    exact congrArg some (Nat.mul_one nano)

/-! ## The whole text -/

/-- The fields have as many digits as their readers take. -/
theorem fields_lt (t : Timestamp) :
    t.month < 100 ∧ t.day < 100 ∧ t.hour < 100 ∧ t.minute < 100 ∧ t.second < 60 ∧
      t.nano < 2000000000 := by
  have hdate := t.date_ok
  have htime := t.time_ok
  have hlength : monthLength t.year t.month ≤ 31 := by
    unfold monthLength
    split
    · split <;> omega
    all_goals omega
  simp only [isDate, isTime, Bool.and_eq_true, decide_eq_true_eq] at hdate htime
  omega

/-- What follows a character. -/
theorem after?_cons (c : Char) (rest : List Char) : after? c (c :: rest) = some rest :=
  if_pos rfl

/-- A blank between date and time is passed over. -/
theorem trimStart_space (cs : List Char) : trimStart (' ' :: cs) = trimStart cs :=
  List.dropWhile_cons_of_pos (by decide)

/-- The nanoseconds run past one milliard, but not behind a second 59. -/
def RunsOver (t : Timestamp) : Prop := 1000000000 ≤ t.nano ∧ t.second ≠ 59

instance (t : Timestamp) : Decidable t.RunsOver := inferInstanceAs (Decidable (_ ∧ _))

/-- There is a next second in the minute, with the nanoseconds that are over. -/
theorem RunsOver.time_ok {t : Timestamp} (h : t.RunsOver) :
    isTime t.hour t.minute (t.second + 1) (t.nano - 1000000000) = true := by
  have htime := t.time_ok
  simp only [isTime, Bool.and_eq_true, decide_eq_true_eq, RunsOver] at htime h ⊢
  omega

/-- The timestamp with one milliard nanoseconds carried into the seconds, where they run over. -/
def carried (t : Timestamp) : Timestamp :=
  if h : t.RunsOver then
    { t with second := t.second + 1, nano := t.nano - 1000000000, time_ok := h.time_ok }
  else t

/-- Carrying changes exactly the timestamps that run over. -/
theorem carried_eq_self_iff {t : Timestamp} : t.carried = t ↔ ¬t.RunsOver := by
  rw [carried]
  split
  next hover =>
    refine iff_of_false (fun hself => ?_) (not_not_intro hover)
    exact absurd (congrArg second hself) (Nat.succ_ne_self _)
  next hstays => exact iff_of_true rfl hstays

/-- **The text of a timestamp is read as the timestamp**, with what runs over carried. -/
theorem ofChars?_chars (t : Timestamp) : ofChars? t.chars = some t.carried := by
  obtain ⟨hmonth, hday, hhour, hminute, hsecond, hnano⟩ := t.fields_lt
  have hfraction := fraction?_fractionText (Nat.mod_lt t.nano (by decide))
  have hread : ofChars? t.chars =
      if t.second + (if t.nano < 1000000000 then 0 else 1) = 60 then
        ofFields? t.year t.month t.day t.hour t.minute 59 (t.nano % 1000000000 + 1000000000)
      else ofFields? t.year t.month t.day t.hour t.minute
        (t.second + (if t.nano < 1000000000 then 0 else 1)) (t.nano % 1000000000) := by
    have hleap : (t.second + if t.nano < 1000000000 then 0 else 1) < 100 := by split <;> omega
    simp only [chars, ofChars?, List.append_assoc, List.cons_append, year?_yearText, after?_cons,
      field?_padded hmonth, field?_padded hday, trimStart_space, trimStart_padded,
      field?_padded hhour, field?_padded hminute, field?_padded hleap, hfraction,
      Option.bind_eq_bind, Option.bind_some]
  by_cases hleap : t.nano < 1000000000
  · have hcarried := carried_eq_self_iff.mpr fun hover => absurd hover.1 (Nat.not_le.mpr hleap)
    rw [hread, if_pos hleap, Nat.add_zero, if_neg (by omega), Nat.mod_eq_of_lt hleap,
      ofFields?_fields, hcarried]
  -- a leap second is read behind a second 59 only, and carried behind any other
  by_cases hsecond : t.second = 59
  · have hcarried := carried_eq_self_iff.mpr fun hover => hover.2 hsecond
    have hnano : t.nano % 1000000000 + 1000000000 = t.nano := by omega
    rw [hread, if_neg hleap, if_pos (by omega), hnano, ← hsecond, ofFields?_fields, hcarried]
  · have hover : t.RunsOver := ⟨by omega, hsecond⟩
    have hnano : t.nano % 1000000000 = t.nano - 1000000000 := by omega
    rw [hread, if_neg hleap, if_neg (by omega), hnano, carried, dif_pos hover]
    exact ofFields?_fields
      { t with second := t.second + 1, nano := t.nano - 1000000000, time_ok := hover.time_ok }

/-- The text of a timestamp is read as the timestamp that its leap second is carried into. -/
theorem ofText?_text (t : Timestamp) : ofText? t.text = some t.carried := by
  rw [ofText?, text, String.toList_ofList, ofChars?_chars]

/-- Carrying is how a text is written, so it leaves the text alone. -/
theorem text_carried (t : Timestamp) : t.carried.text = t.text := by
  rw [carried]
  split
  next hover =>
    obtain ⟨hmilliard, -⟩ := hover
    have hnano := t.fields_lt.2.2.2.2.2
    have hless : t.nano - 1000000000 < 1000000000 := by omega
    have hmod : (t.nano - 1000000000) % 1000000000 = t.nano % 1000000000 := by omega
    simp only [text, chars, hless, Nat.not_lt.mpr hmilliard, hmod, if_true, if_false, Nat.add_zero]
  next => rfl

/-- Timestamps share a text exactly if they are carried into one. -/
theorem text_eq_text_iff {s t : Timestamp} : s.text = t.text ↔ s.carried = t.carried := by
  constructor
  · intro h
    have hread := congrArg ofText? h
    rw [ofText?_text, ofText?_text] at hread
    exact Option.some.inj hread
  · intro h
    rw [← text_carried s, ← text_carried t, h]

/-- **Timestamps survive their texts**, unless their nanoseconds run over. On the wire, as a
parameter of the in-memory database and as shown, a timestamp becomes its text. That text is a value
which stands for the timestamp with what runs over carried, so for the timestamp itself exactly if
nothing does. Two timestamps share their text exactly if they are the same but for what is carried,
so no two do whose nanoseconds do not run over. -/
theorem text_read_back :
    (∀ t : Timestamp,
      Value.decode (.ofJson (Value.timestamp t).toJson) = .ok (.text t.text) ∧
      (Sqlite.Cell.ofValue (.timestamp t)).asParameter.toValue = .text t.text ∧
      (Value.timestamp t).display = t.text ∧
      (Value.text t.text).asTimestamp? = some t.carried ∧
      ((Value.text t.text).asTimestamp? = some t ↔ ¬t.RunsOver)) ∧
    (∀ s t : Timestamp, s.text = t.text ↔ s.carried = t.carried) ∧
    Set.InjOn text {t | ¬t.RunsOver} := by
  refine ⟨fun t => ?_, fun s t => text_eq_text_iff, fun s hs t ht h => ?_⟩
  · have hread : (Value.text t.text).asTimestamp? = some t.carried := ofText?_text t
    refine ⟨Value.decode_ofJson (v := .timestamp t) trivial, rfl, rfl, hread, ?_⟩
    rw [hread, Option.some.injEq, carried_eq_self_iff]
  · rw [← carried_eq_self_iff.mpr hs, ← carried_eq_self_iff.mpr ht]
    exact text_eq_text_iff.mp h

/-- Half a second behind the end of the thirtieth second of a minute. -/
def midMinute : Timestamp where
  year := 2024
  month := 5
  day := 1
  hour := 8
  minute := 30
  second := 30
  nano := 1500000000

/-- It has the text of a timestamp of the next second, and is read as that. -/
theorem text_not_read_back :
    midMinute.text = "2024-05-01 08:30:31.500" ∧
      (Value.text midMinute.text).asTimestamp? ≠ some midMinute ∧
      ∃ t : Timestamp, t ≠ midMinute ∧ t.text = midMinute.text := by
  have hcarried : midMinute.carried ≠ midMinute := by decide
  refine ⟨by decide +kernel, ?_, midMinute.carried, hcarried, text_carried midMinute⟩
  have hread : (Value.text midMinute.text).asTimestamp? = some midMinute.carried :=
    ofText?_text midMinute
  rw [hread]
  exact fun h => hcarried (Option.some.inj h)

end Tabula.Timestamp
