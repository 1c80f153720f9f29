import Mathlib.Data.List.Nodup
import Tabula.Criteria.Operator
import Tabula.Proofs.Distinct
import Tabula.Sql.Named

/-!
# Numbering is a substitution

What `NamedStatement.compile` does to a text, in bytes: at certain sites a colon and a name are
replaced by a mark and a number, and every other byte is copied. The sites are those of the text,
whatever the mark.

* `splice_patches`: the numbered text is the text with its sites patched.
* `Lists`: the names are listed once each, by first occurrence.
* `valuesOf_eq_ok_iff`, `valuesOf_eq_error`: what binding gives.
* `compile_substitutes`: all of it together.
-/

namespace Tabula

namespace Sql

/-! ## Bytes -/

/-- The bytes of a text. -/
def bytes (cs : List Char) : List UInt8 := cs.flatMap String.utf8EncodeChar

@[simp] theorem bytes_nil : bytes [] = [] := rfl

@[simp] theorem bytes_append (a b : List Char) : bytes (a ++ b) = bytes a ++ bytes b :=
  List.flatMap_append

/-- A stretch of bytes, and what is to stand there. -/
structure Patch where
  /-- where it begins -/
  start : Nat
  /-- the place behind it -/
  stop : Nat
  /-- what is to stand there -/
  new : List UInt8

/-- The bytes from a place on, with patches. -/
def splice (bs : List UInt8) : Nat → List Patch → List UInt8
  | done, [] => bs.drop done
  | done, p :: ps => (bs.drop done).take (p.start - done) ++ p.new ++ splice bs p.stop ps

example : splice [1, 2, 3, 4] 0 [⟨1, 3, [9]⟩] = [1, 9, 4] := by decide

/-! ## Sites -/

/-- A place in a text where a placeholder stands. -/
structure Site where
  /-- the place of the colon, in bytes -/
  start : Nat
  /-- the name behind the colon -/
  name : String

namespace Site

/-- The colon and the name. -/
def source (x : Site) : List Char := ':' :: x.name.toList

/-- The place behind the name. -/
def stop (x : Site) : Nat := x.start + (bytes x.source).length

/-- A site stands in a text: at its place, between whole characters, there are a colon and an
identifier that does not go on. -/
structure StandsIn (x : Site) (text : List Char) : Prop where
  /-- the place, between whole characters -/
  place : ∃ before after, text = before ++ x.source ++ after ∧ x.start = (bytes before).length ∧
    ∀ c ∈ after.head?, isNameChar c = false
  /-- the name is one -/
  identifier : isIdentifier x.name.toList

/-- The end of a site is a place of the text. -/
theorem StandsIn.stop_le {x : Site} {text : List Char} (h : x.StandsIn text) :
    x.stop ≤ (bytes text).length := by
  obtain ⟨before, after, rfl, hstart, -⟩ := h.place
  simp only [stop, hstart, bytes_append, List.length_append]
  omega

/-- The site with a number in its place. -/
def patch (style : PlaceholderStyle) (names : List String) (x : Site) : Patch :=
  ⟨x.start, x.stop, bytes (style.mark :: Nat.toDigits 10 (names.idxOf x.name + 1))⟩

end Site

/-- The sites among pieces, the first of which begins at a place. -/
def sitesFrom : Nat → List Piece → List Site
  | _, [] => []
  | start, .verbatim text :: ps => sitesFrom (start + (bytes text).length) ps
  | start, .placeholder name :: ps =>
    ⟨start, String.ofList name⟩ :: sitesFrom (start + (bytes (':' :: name)).length) ps

/-- The sites of a text. -/
def sites (sql : String) : List Site := sitesFrom 0 (Piece.scan sql.toList)

theorem map_name_sitesFrom (start : Nat) (ps : List Piece) :
    (sitesFrom start ps).map Site.name = ps.filterMap Piece.name? := by
  fun_induction sitesFrom start ps with
  | case1 => rfl
  | case2 start text ps ih => rw [List.filterMap_cons_none rfl, ih]
  | case3 start name ps ih =>
    have hname : (Piece.placeholder name).name? = some (String.ofList name) := rfl
    rw [List.map_cons, ih, List.filterMap_cons_some hname]

/-- A site of pieces begins where they begin or behind that. -/
theorem start_le_of_mem_sitesFrom {start : Nat} {ps : List Piece} {x : Site}
    (h : x ∈ sitesFrom start ps) : start ≤ x.start := by
  fun_induction sitesFrom start ps with
  | case1 => cases h
  | case2 start text ps ih =>
    have := ih h
    omega
  | case3 start name ps ih =>
    rcases List.mem_cons.mp h with rfl | h
    · exact Nat.le_refl start
    · have := ih h
      omega

/-- The sites of pieces follow each other. -/
theorem pairwise_sitesFrom (start : Nat) (ps : List Piece) :
    (sitesFrom start ps).Pairwise fun a b => a.stop ≤ b.start := by
  fun_induction sitesFrom start ps with
  | case1 => exact List.Pairwise.nil
  | case2 start text ps ih => exact ih
  | case3 start name ps ih =>
    refine List.pairwise_cons.mpr ⟨fun y hy => ?_, ih⟩
    have := start_le_of_mem_sitesFrom hy
    simpa [Site.stop, Site.source] using this

/-- A placeholder at the front of a text ends where its name cannot go on. -/
theorem first_eq_placeholder {c : Char} {cs name rest : List Char}
    (h : Piece.first c cs = (.placeholder name, rest)) :
    isIdentifier name ∧ ∀ d ∈ rest.head?, isNameChar d = false := by
  fun_cases Piece.first c cs
  case case8 d cs hcast hd =>
    rw [Piece.first, if_pos hd] at h
    · cases h
      refine ⟨?_, fun e he => ?_⟩
      · simp [isIdentifier, hd]
      · have := List.head?_dropWhile_not isNameChar cs
        rw [Option.mem_def.mp he] at this
        simpa using this
    · exact hcast
  all_goals simp_all [Piece.first, Piece.kept]

/-- **Each site of a text stands in it.** -/
theorem standsIn_of_mem_sitesFrom {before cs : List Char} {x : Site}
    (h : x ∈ sitesFrom (bytes before).length (Piece.scan cs)) : x.StandsIn (before ++ cs) := by
  -- by the recursion of the scan: what has been scanned joins the text before
  fun_induction Piece.scan cs generalizing before with
  | case1 => cases h
  | case2 c cs ih =>
    have hsource := Piece.source_first c cs
    rcases hfirst : Piece.first c cs with ⟨piece, rest⟩
    rw [hfirst] at hsource ih h
    have hwhole : before ++ c :: cs = before ++ piece.source ++ rest := by
      rw [List.append_assoc, hsource]
    rw [hwhole]
    cases piece with
    | verbatim text =>
      refine ih ?_
      simpa [sitesFrom, Piece.source] using h
    | placeholder name =>
      obtain ⟨hname, hend⟩ := first_eq_placeholder hfirst
      rcases List.mem_cons.mp h with rfl | h
      · exact ⟨⟨before, rest, by simp [Site.source, Piece.source], rfl, hend⟩, by simpa using hname⟩
      · refine ih ?_
        simpa [Piece.source] using h

/-! ## Splicing -/

/-- A piece that is patched is a numbered piece. -/
theorem splice_patches (style : PlaceholderStyle) (names : List String) {bs : List UInt8}
    {done start : Nat} {ps : List Piece} (hdone : done ≤ start)
    (hbs : bs.drop start = bytes (ps.flatMap Piece.source)) :
    splice bs done ((sitesFrom start ps).map (Site.patch style names)) =
      (bs.drop done).take (start - done) ++ bytes (ps.flatMap (Piece.numbered style names)) := by
  -- what lies between `done` and `start` is copied with the next patch
  induction ps generalizing done start with
  | nil =>
    have hdrop : bs.drop start = (bs.drop done).drop (start - done) := by
      rw [List.drop_drop, Nat.add_sub_cancel' hdone]
    rw [List.flatMap_nil, bytes_nil, hdrop] at hbs
    rw [List.flatMap_nil, bytes_nil, ← hbs, List.take_append_drop]
    rfl
  | cons p ps ih =>
    rw [List.flatMap_cons, bytes_append] at hbs
    have hrest : bs.drop (start + (bytes p.source).length) = bytes (ps.flatMap Piece.source) := by
      rw [← List.drop_drop, hbs, List.drop_left]
    rw [List.flatMap_cons, bytes_append]
    cases p with
    | verbatim text =>
      simp only [Piece.source] at hbs hrest
      have hlength : start + (bytes text).length - done =
          (start - done) + (bytes text).length := by omega
      have hmiddle :
          ((bs.drop done).drop (start - done)).take (bytes text).length = bytes text := by
        rw [List.drop_drop, Nat.add_sub_cancel' hdone, hbs, List.take_left]
      rw [sitesFrom, ih (by omega) hrest, hlength, List.take_add, hmiddle, List.append_assoc]
      rfl
    | placeholder name =>
      simp only [Piece.source] at hrest
      rw [sitesFrom, List.map_cons, splice]
      have hstop : (Site.patch style names ⟨start, String.ofList name⟩).stop =
          start + (bytes (':' :: name)).length := by
        simp [Site.patch, Site.stop, Site.source]
      rw [hstop, ih (Nat.le_refl _) hrest, Nat.sub_self, List.take_zero, List.nil_append,
        List.append_assoc]
      rfl

/-! ## Names by first occurrence -/

/-- Some texts are listed: each once, in the order in which they first occur. -/
structure Lists (names occurrences : List String) : Prop where
  /-- each once -/
  nodup : names.Nodup
  /-- all of them and no others -/
  mem : ∀ name, name ∈ names ↔ name ∈ occurrences
  /-- in the order of their first occurrence -/
  order : names.Pairwise fun a b => occurrences.idxOf a < occurrences.idxOf b

/-- What is left out changes nothing in the order of what is not. -/
theorem idxOf_lt_of_filter {p : String → Bool} {xs : List String} {a b : String} (ha : p a)
    (hb : p b) (h : (xs.filter p).idxOf a < (xs.filter p).idxOf b) : xs.idxOf a < xs.idxOf b := by
  induction xs with
  | nil => simp at h
  | cons x xs ih =>
    by_cases hx : p x
    · rw [List.filter_cons_of_pos hx] at h
      simp only [List.idxOf_cons, cond_eq_ite] at h ⊢
      split at h <;> split at h <;> simp_all
    · rw [List.filter_cons_of_neg hx] at h
      have hxa : x ≠ a := fun heq => hx (heq ▸ ha)
      have hxb : x ≠ b := fun heq => hx (heq ▸ hb)
      simpa [List.idxOf_cons, hxa, hxb] using ih h

theorem lists_eraseDups (occurrences : List String) :
    Lists occurrences.eraseDups occurrences := by
  refine ⟨nodup_eraseDups _, fun name => List.mem_eraseDups, ?_⟩
  -- by length: what follows a name is listed without it
  induction hn : occurrences.length using Nat.strongRecOn generalizing occurrences with
  | _ n ih =>
    cases occurrences with
    | nil => exact .nil
    | cons a as =>
      have hlt : (as.filter fun b => !b == a).length < n := by
        have := List.length_filter_le (fun b => !b == a) as
        simp only [List.length_cons] at hn
        omega
      have horder := ih _ hlt _ rfl
      have hne {b : String} (hb : b ∈ (as.filter fun b => !b == a).eraseDups) : b ≠ a := by
        have := List.mem_filter.mp (List.mem_eraseDups.mp hb)
        simpa using this.2
      rw [List.eraseDups_cons, List.pairwise_cons]
      refine ⟨fun b hb => ?_, horder.imp_of_mem fun hx hy hlt => ?_⟩
      · simp [(hne hb).symm]
      · have := idxOf_lt_of_filter (by simpa using hne hx) (by simpa using hne hy) hlt
        simpa [List.idxOf_cons, (hne hx).symm, (hne hy).symm] using this

/-- What is listed once is at its own place. -/
theorem Lists.getElem? {names occurrences : List String} (h : Lists names occurrences)
    {name : String} (hname : name ∈ occurrences) : names[names.idxOf name]? = some name :=
  List.getElem?_idxOf ((h.mem name).mpr hname)

end Sql

/-! ## Binding -/

namespace NamedStatement

open Sql

/-- The number of a name. -/
def position (s : NamedStatement) (name : String) : Nat := s.names.idxOf name + 1

/-- Values are found for all names, each under its name. -/
theorem valuesOf_eq_ok_iff {set : ParameterSet} {names : List String} {vs : List Value} :
    valuesOf set names = .ok vs ↔ names.map set.find? = vs.map some := by
  induction names generalizing vs with
  | nil => cases vs <;> simp [valuesOf]
  | cons name names ih =>
    rw [valuesOf, List.map_cons]
    rcases hname : set.find? name with _ | v
    · cases vs <;> simp
    · simp only
      rcases hrest : valuesOf set names with e | ws
      · -- the error of a later name is the error of all
        have hnone (ws : List Value) : names.map set.find? ≠ ws.map some := by
          intro hws
          rw [ih.mpr hws] at hrest
          cases hrest
        change (Except.error e : Except Error (List Value)) = .ok vs ↔ _
        cases vs with
        | nil => simp
        | cons w ws => simp [hnone ws]
      · change (Except.ok (v :: ws) : Except Error (List Value)) = .ok vs ↔ _
        rw [ih.mp hrest, ← List.map_cons, List.map_inj_right fun _ _ => Option.some.inj,
          Except.ok.injEq]

/-- The first name without a value is the error. -/
theorem valuesOf_eq_error {set : ParameterSet} {names : List String} {name : String}
    (h : names.find? (fun n => (set.find? n).isNone) = some name) :
    valuesOf set names = .error (.missingParameter name) := by
  induction names with
  | nil => cases h
  | cons n names ih =>
    rw [valuesOf]
    rcases hn : set.find? n with _ | v
    · rw [List.find?_cons_of_pos (by rw [hn]; rfl)] at h
      cases h
      rfl
    · rw [List.find?_cons_of_neg (by rw [hn]; exact Bool.false_ne_true)] at h
      simp only [ih h]
      rfl

/-- Values are found if no name is without one. -/
theorem exists_valuesOf {set : ParameterSet} {names : List String}
    (h : ∀ name ∈ names, (set.find? name).isSome) : ∃ vs, valuesOf set names = .ok vs := by
  refine ⟨names.filterMap set.find?, valuesOf_eq_ok_iff.mpr ?_⟩
  induction names with
  | nil => rfl
  | cons name names ih =>
    obtain ⟨v, hv⟩ := Option.isSome_iff_exists.mp (h name List.mem_cons_self)
    rw [List.filterMap_cons_some hv, List.map_cons, List.map_cons, hv,
      ih fun n hn => h n (List.mem_cons_of_mem name hn)]

/-- A value that was found stands where its number points. -/
theorem getElem?_of_valuesOf {set : ParameterSet} {names : List String} {vs : List Value}
    (h : valuesOf set names = .ok vs) {name : String} (hname : name ∈ names) :
    vs[names.idxOf name]? = set.find? name := by
  have hmap := congrArg (fun l => l[names.idxOf name]?) (valuesOf_eq_ok_iff.mp h)
  simp only [List.getElem?_map, List.getElem?_idxOf hname, Option.map_some] at hmap
  rcases hv : vs[names.idxOf name]? with _ | v
  · rw [hv] at hmap
    cases hmap
  · rw [hv] at hmap
    exact (Option.some.inj hmap).symm

/-! ## The whole -/

/-- A statement is a text with its sites numbered. -/
structure Numbers (sql : String) (xs : List Site) (style : PlaceholderStyle)
    (s : NamedStatement) : Prop where
  /-- the sites do not overlap and are in order -/
  apart : xs.Pairwise fun a b => a.stop ≤ b.start
  /-- each of them is in the text -/
  stands : ∀ x ∈ xs, x.StandsIn sql.toList ∧ x.stop ≤ (bytes sql.toList).length
  /-- there is a mark with a number there, and all other bytes are copied -/
  text : bytes s.sql.toList = splice (bytes sql.toList) 0 (xs.map (Site.patch style s.names))
  /-- the names are listed by first occurrence -/
  names : Lists s.names (xs.map Site.name)
  /-- a number points to its name -/
  points : ∀ x ∈ xs, s.names[s.position x.name - 1]? = some x.name
  /-- every number is used -/
  used : ∀ n, 1 ≤ n → n ≤ s.names.length → ∃ x ∈ xs, s.position x.name = n

theorem numbers_compile (sql : String) (style : PlaceholderStyle) :
    Numbers sql (sites sql) style (compile sql style) := by
  have hlists : Lists (compile sql style).names ((sites sql).map Site.name) := by
    rw [sites, map_name_sitesFrom]
    exact lists_eraseDups _
  have hstands : ∀ x ∈ sites sql, x.StandsIn sql.toList := fun x hx =>
    @standsIn_of_mem_sitesFrom [] sql.toList x hx
  refine ⟨pairwise_sitesFrom _ _, fun x hx => ⟨hstands x hx, (hstands x hx).stop_le⟩, ?_, hlists,
    fun x hx => hlists.getElem? (List.mem_map_of_mem hx), fun n hn hle => ?_⟩
  · have hbytes :
        (bytes sql.toList).drop 0 = bytes ((Piece.scan sql.toList).flatMap Piece.source) := by
      rw [Piece.source_scan, List.drop_zero]
    rw [sites, splice_patches style _ (Nat.le_refl 0) hbytes, Nat.sub_self, List.take_zero,
      List.nil_append, compile, String.toList_ofList]
  · -- the name of a number is a name of some site, and it is listed once
    have hlt : n - 1 < (compile sql style).names.length := by omega
    have hmem := (hlists.mem _).mp (List.getElem_mem hlt)
    obtain ⟨x, hx, hname⟩ := List.mem_map.mp hmem
    refine ⟨x, hx, ?_⟩
    rw [position, hname, hlists.nodup.idxOf_getElem]
    omega

/-- **Numbering is an exact substitution, and binding follows it.** At the sites of a text, the same
for every mark, stand marks with numbers; every other byte is copied. The numbers count the names by
first occurrence. Binding fails for the first name without a value, or else each site gets the value
of its name by its number. -/
theorem compile_substitutes (sql : String) (style : PlaceholderStyle) :
    Numbers sql (sites sql) style (compile sql style) ∧
      (∀ other, (compile sql other).names = (compile sql style).names) ∧
      ∀ set : ParameterSet,
        match (compile sql style).names.find? fun name => (set.find? name).isNone with
        | some name => (compile sql style).bind set = .error (.missingParameter name)
        | none => ∃ vs, (compile sql style).bind set = .ok vs ∧
            vs.length = (compile sql style).names.length ∧
            ∀ x ∈ sites sql, vs[(compile sql style).position x.name - 1]? = set.find? x.name := by
  have hnumbers := numbers_compile sql style
  refine ⟨hnumbers, fun _ => rfl, fun set => ?_⟩
  split
  · rename_i name hname
    exact valuesOf_eq_error hname
  · rename_i hnone
    have hall : ∀ name ∈ (compile sql style).names, (set.find? name).isSome := by
      intro name hname
      have := List.find?_eq_none.mp hnone name hname
      simpa [Option.isSome_iff_ne_none] using this
    obtain ⟨vs, hvs⟩ := exists_valuesOf hall
    refine ⟨vs, hvs, ?_, fun x hx => ?_⟩
    · have := congrArg List.length (valuesOf_eq_ok_iff.mp hvs)
      simpa using this.symm
    · exact getElem?_of_valuesOf hvs ((hnumbers.names.mem _).mpr (List.mem_map_of_mem hx))

end NamedStatement

end Tabula
