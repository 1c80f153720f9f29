import Mathlib.Data.List.Chain
import Mathlib.Data.List.TakeWhile
import Mathlib.Data.String.Basic
import Tabula.Model.Sorting

/-!
# The natural order of texts

In the natural order a text is a sequence of tokens: its maximal runs of digits, each of which is a
number, and its other characters. Runs are compared by their digits, one without its zeros against
the other, and characters one by one; the order that comes of it is the order of the sequences.

* `compareDigits_eq`: runs of any length are compared as numbers.
* `Text.tokens`, `Text.Token.compare`: the sequences and how two tokens are compared.
* `naturalCompare_eq`: the natural order is the lexicographic order of the sequences.
* `Text.withoutPadding`: the text without the zeros at the start of its runs. Texts compare equal
  exactly if they are the same without them.
-/

namespace Tabula

/-! ## Runs of digits -/

namespace Text

/-- The digits of a run. -/
def IsDigits (ds : List Char) : Prop := ∀ c ∈ ds, c.isDigit

/-- No zero at the start. -/
def IsBare (ds : List Char) : Prop := ∀ c ∈ ds.head?, c ≠ '0'

/-- The rest of some digits are digits. -/
theorem IsDigits.tail {c : Char} {ds : List Char} (h : IsDigits (c :: ds)) : IsDigits ds :=
  fun d hd => h d (List.mem_cons_of_mem c hd)

/-- The codes of the digits. -/
theorem IsDigits.head {c : Char} {ds : List Char} (h : IsDigits (c :: ds)) :
    48 ≤ c.toNat ∧ c.toNat ≤ 57 :=
  Char.isDigit_iff_toNat.mp (h c List.mem_cons_self)

/-- The first digit counts by its place. -/
theorem digitsValue_cons (c : Char) (ds : List Char) :
    digitsValue (c :: ds) = (c.toNat - 48) * 10 ^ ds.length + digitsValue ds := by
  rw [digitsValue_eq_ofDigitChars, digitsValue_eq_ofDigitChars, Nat.ofDigitChars_cons,
    Nat.ofDigitChars_eq_ofDigitChars_zero, Nat.mul_zero, Nat.zero_add, Nat.mul_comm]
  rfl

/-- So many digits have a value below that power of ten. -/
theorem digitsValue_lt {ds : List Char} (h : IsDigits ds) : digitsValue ds < 10 ^ ds.length := by
  induction ds with
  | nil => exact Nat.one_pos
  | cons c ds ih =>
    have htail := ih h.tail
    have hhead : (c.toNat - 48) * 10 ^ ds.length ≤ 9 * 10 ^ ds.length :=
      Nat.mul_le_mul_right _ (by have := h.head; omega)
    rw [digitsValue_cons, List.length_cons, Nat.pow_succ]
    omega

/-- Zeros at the start count for nothing. -/
theorem digitsValue_dropWhile (ds : List Char) :
    digitsValue (ds.dropWhile (· == '0')) = digitsValue ds := by
  induction ds with
  | nil => rfl
  | cons c ds ih =>
    by_cases hc : c = '0'
    · subst hc
      rw [List.dropWhile_cons_of_pos rfl, ih, digitsValue_cons]
      exact (Nat.zero_add _).symm.trans (congrArg (· + _) (Nat.zero_mul _).symm)
    · rw [List.dropWhile_cons_of_neg (by simpa using hc)]

/-- Without the zeros in front there is none in front. -/
theorem isBare_dropWhile (ds : List Char) : IsBare (ds.dropWhile (· == '0')) := by
  intro c hc
  have hnot := List.head?_dropWhile_not (· == '0') ds
  rw [Option.mem_def.mp hc] at hnot
  simpa using hnot

/-- Digits without the zeros in front are digits. -/
theorem isDigits_dropWhile {ds : List Char} (h : IsDigits ds) :
    IsDigits (ds.dropWhile (· == '0')) :=
  fun c hc => h c ((List.dropWhile_sublist _).subset hc)

/-- Of two runs without zeros in front the longer is the larger number. -/
theorem digitsValue_lt_of_length_lt {l r : List Char} (hl : IsDigits l) (hr : IsDigits r)
    (hbare : IsBare r) (h : l.length < r.length) : digitsValue l < digitsValue r := by
  cases r with
  | nil => exact absurd h (Nat.not_lt_zero _)
  | cons d r =>
    have hd : d.toNat ≠ 48 := fun hd => hbare d rfl (Char.toNat_inj.mp hd)
    have hpos : 1 * 10 ^ r.length ≤ (d.toNat - 48) * 10 ^ r.length :=
      Nat.mul_le_mul_right _ (by have := hr.head; omega)
    have hpow : 10 ^ l.length ≤ 10 ^ r.length :=
      Nat.pow_le_pow_right (by decide) (Nat.le_of_lt_succ h)
    have hlt := digitsValue_lt hl
    rw [digitsValue_cons]
    omega

/-- Of two runs of one length the later text is the larger number. -/
theorem digitsValue_lt_iff {l r : List Char} (hl : IsDigits l) (hr : IsDigits r)
    (h : l.length = r.length) :
    (digitsValue l < digitsValue r ↔ l < r) ∧ (digitsValue l = digitsValue r ↔ l = r) := by
  induction l generalizing r with
  | nil =>
    obtain rfl := List.length_eq_zero_iff.mp h.symm
    exact ⟨by simp, by simp⟩
  | cons c l ih =>
    cases r with
    | nil => cases h
    | cons d r =>
      have hlen : l.length = r.length := Nat.succ.inj h
      obtain ⟨hlt, heq⟩ := ih hl.tail hr.tail hlen
      have hleft := digitsValue_lt hl.tail
      have hright := digitsValue_lt hr.tail
      have hchar : c < d ↔ c.toNat < d.toNat := Iff.rfl
      rw [hlen] at hleft
      rw [digitsValue_cons, digitsValue_cons, hlen, List.cons_lt_cons_iff, List.cons.injEq,
        ← hlt, ← heq, hchar, ← Char.toNat_inj]
      -- the first digits decide unless they are the same
      rcases Nat.lt_trichotomy c.toNat d.toNat with hcd | hcd | hcd
      · have hstep : (c.toNat - 48 + 1) * 10 ^ r.length ≤ (d.toNat - 48) * 10 ^ r.length :=
          Nat.mul_le_mul_right _ (by have := hl.head; omega)
        rw [Nat.add_mul] at hstep
        omega
      · rw [hcd]
        omega
      · have hstep : (d.toNat - 48 + 1) * 10 ^ r.length ≤ (c.toNat - 48) * 10 ^ r.length :=
          Nat.mul_le_mul_right _ (by have := hr.head; omega)
        rw [Nat.add_mul] at hstep
        omega

end Text

open Text

/-- The order of texts of characters is that of the lists of them. -/
theorem compareText_ofList (l r : List Char) :
    compareText (String.ofList l) (String.ofList r) =
      if l < r then .lt else if l = r then .eq else .gt := by
  simp only [compareText, compareOfLessAndEq, String.lt_iff_toList_lt, String.toList_ofList,
    String.ofList_inj]

/-- **Runs of digits are compared as the numbers they are.** -/
theorem compareDigits_eq {left right : List Char} (hl : IsDigits left) (hr : IsDigits right) :
    compareDigits left right = compare (digitsValue left) (digitsValue right) := by
  rw [← digitsValue_dropWhile left, ← digitsValue_dropWhile right, compareDigits]
  have hl' := isDigits_dropWhile hl
  have hr' := isDigits_dropWhile hr
  have hbl := isBare_dropWhile left
  have hbr := isBare_dropWhile right
  generalize left.dropWhile (· == '0') = l at *
  generalize right.dropWhile (· == '0') = r at *
  rcases Nat.lt_trichotomy l.length r.length with h | h | h
  · have hlt := digitsValue_lt_of_length_lt hl' hr' hbr h
    rw [Nat.compare_eq_lt.mpr h, Nat.compare_eq_lt.mpr hlt]
    rfl
  · obtain ⟨hlt, heq⟩ := digitsValue_lt_iff hl' hr' h
    rw [Nat.compare_eq_eq.mpr h, compareText_ofList]
    simp only [← hlt, ← heq]
    rfl
  · have hlt := digitsValue_lt_of_length_lt hr' hl' hbl h
    rw [Nat.compare_eq_gt.mpr h, Nat.compare_eq_gt.mpr hlt]
    rfl

/-- Runs compare equal exactly if they are the same without their zeros. -/
theorem compareDigits_eq_eq {left right : List Char} :
    compareDigits left right = .eq ↔
      left.dropWhile (· == '0') = right.dropWhile (· == '0') := by
  rw [compareDigits, Ordering.then_eq_eq, Nat.compare_eq_eq, compareText_ofList]
  constructor
  · rintro ⟨-, h⟩
    split at h
    · cases h
    · split at h
      · assumption
      · cases h
  · intro h
    rw [h]
    simp

/-! ## Tokens -/

namespace Text

/-- A piece of a text in the natural order. -/
inductive Token where
  /-- digits, at least one -/
  | run (first : Char) (rest : List Char) (digits : IsDigits (first :: rest))
  /-- a character that is no digit -/
  | other (c : Char) (apart : ¬c.isDigit)

namespace Token

/-- The characters of a token. -/
def text : Token → List Char
  | .run c ds _ => c :: ds
  | .other c _ => [c]

/-- The token is a run of digits. -/
def IsRun : Token → Prop
  | .run .. => True
  | .other .. => False

/-- What a token stands for: the number that the digits are, of any size, or the character. -/
def meaning : Token → ℕ ⊕ Char
  | .run c ds _ => .inl (digitsValue (c :: ds))
  | .other c _ => .inr c

/-- Two numbers are compared by value, two characters by code point, and a number and a character by
the code points of its first digit and of the character. -/
protected def compare : Token → Token → Ordering
  | .run c ds _, .run d es _ => Ord.compare (digitsValue (c :: ds)) (digitsValue (d :: es))
  | .run c _ _, .other d _ => Ord.compare c.toNat d.toNat
  | .other c _, .run d _ _ => Ord.compare c.toNat d.toNat
  | .other c _, .other d _ => Ord.compare c.toNat d.toNat

/-- Where a token stands: the place of all digits, or that of the character. -/
def place : Token → ℕ
  | .run .. => 48
  | .other c _ => c.toNat

/-- The number that a token is, if it is one. -/
def number : Token → ℕ
  | .run c ds _ => digitsValue (c :: ds)
  | .other .. => 0

/-- The codes of what is no digit. -/
theorem place_of_not_isDigit {c : Char} (h : ¬c.isDigit) : c.toNat < 48 ∨ 57 < c.toNat := by
  rw [Char.isDigit_iff_toNat] at h
  change ¬(48 ≤ c.toNat ∧ c.toNat ≤ 57) at h
  omega

/-- A character that is no digit stands to every digit as it stands to the others. -/
theorem compare_eq (s t : Token) :
    s.compare t = (Ord.compare s.place t.place).then (Ord.compare s.number t.number) := by
  have hapart {c d : Char} {ds : List Char} (hc : IsDigits (c :: ds)) (hd : ¬d.isDigit) :
      (c.toNat < d.toNat ∧ 48 < d.toNat) ∨ (d.toNat < c.toNat ∧ d.toNat < 48) := by
    have := hc.head
    rcases place_of_not_isDigit hd with h | h <;> omega
  cases s with
  | run c ds hc =>
    cases t with
    | run d es hd => simp [Token.compare, place, number]
    | other d hd =>
      rcases hapart hc hd with ⟨h, h'⟩ | ⟨h, h'⟩
      · simp [Token.compare, place, Nat.compare_eq_lt.mpr h, Nat.compare_eq_lt.mpr h']
      · simp [Token.compare, place, Nat.compare_eq_gt.mpr h, Nat.compare_eq_gt.mpr h']
  | other c hc =>
    cases t with
    | run d es hd =>
      rcases hapart hd hc with ⟨h, h'⟩ | ⟨h, h'⟩
      · simp [Token.compare, place, Nat.compare_eq_gt.mpr h, Nat.compare_eq_gt.mpr h']
      · simp [Token.compare, place, Nat.compare_eq_lt.mpr h, Nat.compare_eq_lt.mpr h']
    | other d hd => simp [Token.compare, place, number]

instance : Std.TransCmp Token.compare := by
  have hlex : Token.compare = compareLex (compareOn place) (compareOn number) := by
    funext s t
    exact compare_eq s t
  rw [hlex]
  infer_instance

/-- Tokens compare equal exactly if they mean the same. -/
theorem compare_eq_eq {s t : Token} : s.compare t = .eq ↔ s.meaning = t.meaning := by
  cases s with
  | run c ds hc =>
    cases t with
    | run d es hd => simp [Token.compare, meaning]
    | other d hd =>
      have := hc.head
      have := place_of_not_isDigit hd
      simp only [Token.compare, meaning, Nat.compare_eq_eq, reduceCtorEq, iff_false]
      omega
  | other c hc =>
    cases t with
    | run d es hd =>
      have := hd.head
      have := place_of_not_isDigit hc
      simp only [Token.compare, meaning, Nat.compare_eq_eq, reduceCtorEq, iff_false]
      omega
    | other d hd =>
      rw [Token.compare, Nat.compare_eq_eq, Char.toNat_inj, meaning, meaning, Sum.inr.injEq]

end Token

/-- The tokens of a text: a digit begins a run of as many digits as there are. -/
def tokens : List Char → List Token
  | [] => []
  | c :: cs =>
    if h : c.isDigit then
      .run c (cs.takeWhile Char.isDigit)
          (List.forall_mem_cons.mpr ⟨h, fun _ hd => List.mem_takeWhile_imp hd⟩) ::
        tokens (cs.dropWhile Char.isDigit)
    else .other c h :: tokens cs
termination_by cs => cs.length
decreasing_by
  · have := (List.dropWhile_suffix (l := cs) Char.isDigit).length_le
    simp only [List.length_cons]
    omega
  · simp

/-- A digit begins a run that goes on to the last digit. -/
theorem tokens_cons_digit {c : Char} (h : c.isDigit) (cs : List Char) :
    ∃ hds, tokens (c :: cs) = .run c (cs.takeWhile Char.isDigit) hds ::
      tokens (cs.dropWhile Char.isDigit) := by
  rw [tokens, dif_pos h]
  exact ⟨_, rfl⟩

/-- Any other character is a token of its own. -/
theorem tokens_cons_other {c : Char} (h : ¬c.isDigit) (cs : List Char) :
    tokens (c :: cs) = .other c h :: tokens cs := by
  rw [tokens, dif_neg h]

/-- No digit at the start. -/
def StartsApart (cs : List Char) : Prop := ∀ c ∈ cs.head?, ¬c.isDigit

/-- Behind all digits there is no digit at the start. -/
theorem startsApart_dropWhile (cs : List Char) : StartsApart (cs.dropWhile Char.isDigit) := by
  intro c hc
  have hnot := List.head?_dropWhile_not Char.isDigit cs
  rw [Option.mem_def.mp hc] at hnot
  simpa using hnot

/-- A run ends where something else follows. -/
theorem tokens_run_append {c : Char} {ds rest : List Char} (h : IsDigits (c :: ds))
    (hrest : StartsApart rest) : tokens (c :: ds ++ rest) = .run c ds h :: tokens rest := by
  obtain ⟨hds, heq⟩ := tokens_cons_digit (h c List.mem_cons_self) (ds ++ rest)
  have hend : rest.takeWhile Char.isDigit = [] ∧ rest.dropWhile Char.isDigit = rest := by
    cases rest with
    | nil => exact ⟨rfl, rfl⟩
    | cons d rest =>
      have hd := hrest d rfl
      exact ⟨List.takeWhile_cons_of_neg hd, List.dropWhile_cons_of_neg hd⟩
  have htake : (ds ++ rest).takeWhile Char.isDigit = ds := by
    rw [List.takeWhile_append_of_pos h.tail, hend.1, List.append_nil]
  have hdrop : (ds ++ rest).dropWhile Char.isDigit = rest := by
    rw [List.dropWhile_append_of_pos h.tail, hend.2]
  rw [List.cons_append, heq, hdrop]
  simp only [htake]

/-- A text is read as tokens: they are its characters in order, and no run goes on in the next. -/
structure IsReading (ts : List Token) (cs : List Char) : Prop where
  /-- nothing is lost -/
  text : ts.flatMap Token.text = cs
  /-- every run is as long as it can be -/
  maximal : ts.IsChain fun s t => ¬(s.IsRun ∧ t.IsRun)

/-- Behind a run the next token does not begin with a digit. -/
theorem StartsApart.of_chain {t : Token} {ts : List Token} (ht : t.IsRun)
    (h : (t :: ts).IsChain fun s t => ¬(s.IsRun ∧ t.IsRun)) :
    StartsApart (ts.flatMap Token.text) := by
  cases ts with
  | nil => exact nofun
  | cons u ts =>
    cases u with
    | run d es hd => exact absurd ⟨ht, trivial⟩ (List.isChain_cons_cons.mp h).1
    | other d hd =>
      intro c hc
      obtain rfl : d = c := Option.some.inj hc
      exact hd

/-- **The tokens of a text are the one way to read it.** -/
theorem isReading_iff {ts : List Token} {cs : List Char} : IsReading ts cs ↔ ts = tokens cs := by
  constructor
  · rintro ⟨rfl, h⟩
    induction ts with
    | nil => rw [List.flatMap_nil, tokens]
    | cons t ts ih =>
      have hts := ih h.of_cons
      cases t with
      | run c ds hc =>
        have hrest : StartsApart (ts.flatMap Token.text) :=
          .of_chain (t := .run c ds hc) trivial h
        rw [List.flatMap_cons, Token.text, tokens_run_append hc hrest, ← hts]
      | other c hc =>
        rw [List.flatMap_cons, Token.text, List.singleton_append, tokens_cons_other hc, ← hts]
  · rintro rfl
    fun_induction tokens cs with
    | case1 => exact ⟨rfl, .nil⟩
    | case2 c cs hc ih =>
      refine ⟨?_, ?_⟩
      · rw [List.flatMap_cons, ih.text]
        exact congrArg (c :: ·) List.takeWhile_append_dropWhile
      · -- what follows the run does not start with a digit
        refine List.isChain_cons.mpr ⟨fun t ht => ?_, ih.maximal⟩
        have hapart := startsApart_dropWhile cs
        cases hrest : cs.dropWhile Char.isDigit with
        | nil =>
          rw [hrest, tokens] at ht
          cases ht
        | cons d rest =>
          rw [hrest] at hapart ht
          rw [tokens_cons_other (hapart d rfl)] at ht
          obtain rfl := Option.some.inj ht
          exact And.right
    | case3 c cs hc ih =>
      refine ⟨?_, ?_⟩
      · rw [List.flatMap_cons, ih.text]
        rfl
      · exact List.isChain_cons.mpr ⟨fun t _ => And.left, ih.maximal⟩

end Text

/-! ## The order of the sequences -/

/-- **The natural order is the lexicographic order of the tokens.** -/
theorem naturalCompare_eq (a b : List Char) :
    naturalCompare a b = List.compareLex Token.compare (tokens a) (tokens b) := by
  fun_induction naturalCompare a b with
  | case1 => rw [tokens, List.compareLex_nil_nil]
  | case2 y ys =>
    by_cases hy : y.isDigit
    · obtain ⟨hds, heq⟩ := tokens_cons_digit hy ys
      rw [heq, tokens, List.compareLex_nil_cons]
    · rw [tokens_cons_other hy, tokens, List.compareLex_nil_cons]
  | case3 x xs =>
    by_cases hx : x.isDigit
    · obtain ⟨hds, heq⟩ := tokens_cons_digit hx xs
      rw [heq, tokens, List.compareLex_cons_nil]
    · rw [tokens_cons_other hx, tokens, List.compareLex_cons_nil]
  | case4 x xs y ys hboth left right ih =>
    -- both texts start with a run
    obtain ⟨hx, hy⟩ := Bool.and_eq_true_iff.mp hboth
    obtain ⟨hl, hleft⟩ := tokens_cons_digit hx xs
    obtain ⟨hr, hright⟩ := tokens_cons_digit hy ys
    rw [hleft, hright, List.compareLex_cons_cons, Token.compare, ih, compareDigits_eq hl hr]
  | case5 x xs y ys hboth ih =>
    -- at most one of them does, and then the first characters decide
    have hends {u v : Ordering} (hne : x ≠ y) :
        (compare x.toNat y.toNat).then u = (compare x.toNat y.toNat).then v := by
      have hord : compare x.toNat y.toNat ≠ .eq :=
        fun heq => hne (Char.toNat_inj.mp (Nat.compare_eq_eq.mp heq))
      cases h : compare x.toNat y.toNat with
      | eq => exact absurd h hord
      | lt => rfl
      | gt => rfl
    by_cases hx : x.isDigit
    · have hy : ¬y.isDigit := fun hy => hboth (Bool.and_eq_true_iff.mpr ⟨hx, hy⟩)
      obtain ⟨hl, hleft⟩ := tokens_cons_digit hx xs
      rw [hleft, tokens_cons_other hy, List.compareLex_cons_cons, Token.compare]
      exact hends fun h => hy (h ▸ hx)
    · by_cases hy : y.isDigit
      · obtain ⟨hr, hright⟩ := tokens_cons_digit hy ys
        rw [hright, tokens_cons_other hx, List.compareLex_cons_cons, Token.compare]
        exact hends fun h => hx (h ▸ hy)
      · rw [tokens_cons_other hx, tokens_cons_other hy, List.compareLex_cons_cons, Token.compare,
          ih]

instance : Std.TransCmp naturalCompare := by
  have hlex : naturalCompare = fun a b => List.compareLex Token.compare (tokens a) (tokens b) := by
    funext a b
    exact naturalCompare_eq a b
  rw [hlex]
  exact
    { eq_swap := Std.OrientedCmp.eq_swap
      isLE_trans := Std.TransCmp.isLE_trans }

/-- Lists of tokens compare equal exactly if they mean the same one by one. -/
theorem compareLex_eq_eq {ss ts : List Token} :
    List.compareLex Token.compare ss ts = .eq ↔ ss.map Token.meaning = ts.map Token.meaning := by
  induction ss generalizing ts with
  | nil =>
    cases ts with
    | nil => simp [List.compareLex_nil_nil]
    | cons t ts => simp [List.compareLex_nil_cons]
  | cons s ss ih =>
    cases ts with
    | nil => simp [List.compareLex_cons_nil]
    | cons t ts =>
      rw [List.compareLex_cons_cons, Ordering.then_eq_eq, Token.compare_eq_eq, ih, List.map_cons,
        List.map_cons, List.cons.injEq]

/-- Texts compare equal exactly if their tokens mean the same. -/
theorem naturalCompare_eq_eq {a b : List Char} :
    naturalCompare a b = .eq ↔ (tokens a).map Token.meaning = (tokens b).map Token.meaning := by
  rw [naturalCompare_eq, compareLex_eq_eq]

/-! ## Zeros at the start of runs -/

namespace Text

/-- A token without the zeros at its start; of nothing but zeros one is left. -/
def Token.bare : Token → List Char
  | .run c ds _ =>
    match (c :: ds).dropWhile (· == '0') with
    | [] => ['0']
    | e :: es => e :: es
  | .other c _ => [c]

/-- A text without the zeros at the start of its runs of digits. -/
def withoutPadding (cs : List Char) : List Char := (tokens cs).flatMap Token.bare

/-- What is left of a run is a run of the same number. -/
theorem Token.bare_run (c : Char) (ds : List Char) (h : IsDigits (c :: ds)) :
    ∃ e es, Token.bare (.run c ds h) = e :: es ∧ IsDigits (e :: es) ∧
      digitsValue (e :: es) = digitsValue (c :: ds) := by
  have hvalue := digitsValue_dropWhile (c :: ds)
  have hdigits := isDigits_dropWhile h
  rw [bare]
  cases hrest : (c :: ds).dropWhile (· == '0') with
  | nil =>
    rw [hrest] at hvalue
    exact ⟨'0', [], rfl, by simp [IsDigits], hvalue⟩
  | cons e es =>
    rw [hrest] at hvalue hdigits
    exact ⟨e, es, rfl, hdigits, hvalue⟩

/-- Tokens that mean the same are the same without the zeros in front. -/
theorem Token.bare_eq_of_meaning {s t : Token} (h : s.meaning = t.meaning) : s.bare = t.bare := by
  cases s with
  | run c ds hc =>
    cases t with
    | run d es hd =>
      have hdigits := compareDigits_eq hc hd
      rw [Nat.compare_eq_eq.mpr (Sum.inl.inj h), compareDigits_eq_eq] at hdigits
      rw [bare, bare, hdigits]
    | other d hd => cases h
  | other c hc =>
    cases t with
    | run d es hd => cases h
    | other d hd => rw [bare, bare, Sum.inr.inj h]

/-- So are lists of them. -/
theorem flatMap_bare_of_meaning {ss ts : List Token}
    (h : ss.map Token.meaning = ts.map Token.meaning) :
    ss.flatMap Token.bare = ts.flatMap Token.bare := by
  induction ss generalizing ts with
  | nil => rw [List.map_eq_nil_iff.mp h.symm]
  | cons s ss ih =>
    cases ts with
    | nil => cases h
    | cons t ts =>
      obtain ⟨hhead, htail⟩ := List.cons.inj h
      rw [List.flatMap_cons, List.flatMap_cons, Token.bare_eq_of_meaning hhead, ih htail]

/-- To take the zeros off puts no digit at the start. -/
theorem StartsApart.withoutPadding {cs : List Char} (h : StartsApart cs) :
    StartsApart (withoutPadding cs) := by
  cases cs with
  | nil =>
    rw [Text.withoutPadding, tokens]
    exact nofun
  | cons c cs =>
    intro d hd
    rw [Text.withoutPadding, tokens_cons_other (h c rfl)] at hd
    obtain rfl : c = d := Option.some.inj hd
    exact h c rfl

/-- Without the zeros the text says the same. -/
theorem meaning_withoutPadding (cs : List Char) :
    (tokens (withoutPadding cs)).map Token.meaning = (tokens cs).map Token.meaning := by
  fun_induction tokens cs with
  | case1 => rw [withoutPadding, tokens, List.flatMap_nil, tokens]
  | case2 c cs hc ih =>
    obtain ⟨hds, heq⟩ := tokens_cons_digit hc cs
    obtain ⟨e, es, hbare, hdigits, hvalue⟩ := Token.bare_run c _ hds
    have hrest := (startsApart_dropWhile cs).withoutPadding
    rw [withoutPadding, heq, List.flatMap_cons, hbare]
    rw [withoutPadding] at hrest ih
    rw [tokens_run_append hdigits hrest, List.map_cons, List.map_cons, ih]
    exact congrArg (Sum.inl · :: _) hvalue
  | case3 c cs hc ih =>
    rw [withoutPadding, tokens_cons_other hc, List.flatMap_cons, Token.bare, List.singleton_append,
      tokens_cons_other hc, List.map_cons, List.map_cons, ← ih]
    rfl

/-- Texts say the same exactly if they are the same without the zeros. -/
theorem meaning_eq_iff {a b : List Char} :
    (tokens a).map Token.meaning = (tokens b).map Token.meaning ↔
      withoutPadding a = withoutPadding b := by
  refine ⟨flatMap_bare_of_meaning, fun h => ?_⟩
  rw [← meaning_withoutPadding a, h, meaning_withoutPadding]

end Text

/-- **The natural order of texts.** It is the lexicographic order of the tokens, which are the
maximal runs of digits and the other characters, each once and in order. So it is a total preorder
of all texts, and two texts compare equal exactly if their tokens stand for the same, that is if
they differ only in zeros at the start of runs. -/
theorem naturalCompare_lexicographic (a b c : List Char) :
    (∀ ts, IsReading ts a ↔ ts = tokens a) ∧
      naturalCompare a b = List.compareLex Token.compare (tokens a) (tokens b) ∧
      naturalCompare a a = .eq ∧
      naturalCompare b a = (naturalCompare a b).swap ∧
      ((naturalCompare a b).isLE → (naturalCompare b c).isLE → (naturalCompare a c).isLE) ∧
      (naturalCompare a b = .eq ↔
        (tokens a).map Token.meaning = (tokens b).map Token.meaning) ∧
      (naturalCompare a b = .eq ↔ withoutPadding a = withoutPadding b) :=
  ⟨fun _ => isReading_iff, naturalCompare_eq a b, Std.ReflCmp.compare_self,
    Std.OrientedCmp.eq_swap, Std.TransCmp.isLE_trans, naturalCompare_eq_eq,
    naturalCompare_eq_eq.trans meaning_eq_iff⟩

/-- Numbers in a text count by their value, and zeros at their start not at all. -/
theorem naturalCompare_lexicographic_padded :
    (naturalCompare "file2".toList "file02b".toList).isLE ∧
      (naturalCompare "file02b".toList "file10".toList).isLE ∧
      (naturalCompare "file2".toList "file10".toList).isLE := by
  have h : (naturalCompare "file2".toList "file02b".toList).isLE := by decide +kernel
  have h' : (naturalCompare "file02b".toList "file10".toList).isLE := by decide +kernel
  obtain ⟨-, -, -, -, htrans, -⟩ :=
    naturalCompare_lexicographic "file2".toList "file02b".toList "file10".toList
  exact ⟨h, h', htrans h h'⟩

end Tabula
