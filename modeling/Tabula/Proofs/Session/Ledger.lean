import Tabula.Proofs.Procedure.Statements

/-!
# What a database keeps

What was asked over a connection says what its database keeps: a statement that was sent while no
transaction was open is kept at once, and one that was sent inside of a transaction waits until that
is committed or rolled back. A `Ledger` enters statements that way.

A statement is entered whether or not there was a reply, so what stands in a ledger is the most that
can be in the database. A control statement counts only with a reply.
-/

namespace Tabula

variable {α : Type}

/-- What a database keeps of the statements that it was sent. -/
structure Ledger (α : Type) where
  /-- what is kept -/
  kept : List α := []
  /-- what waits for the end of a transaction -/
  pending : List α := []
  /-- a transaction is open -/
  isOpen : Bool := false

namespace Ledger

/-- The ledger after a control statement. -/
def control (l : Ledger α) : Control → Ledger α
  | .begin => { l with isOpen := true }
  | .commit => { kept := l.kept ++ l.pending }
  | .rollback => { kept := l.kept }

/-- The ledger after a statement. -/
def enter (l : Ledger α) (a : α) : Ledger α :=
  if l.isOpen then { l with pending := l.pending ++ [a] } else { l with kept := l.kept ++ [a] }

/-- The ledger of a connection after an exchange, with what a statement is entered as. -/
def after (c : Nat) (l : Ledger α) (a : α) (x : Exchange) : Ledger α :=
  if x.connection = c then
    match x.request.control? with
    | none => l.enter a
    | some k => if x.ending.isOk then l.control k else l
  else l

theorem after_of_ne {c : Nat} {l : Ledger α} {a : α} {x : Exchange} (h : x.connection ≠ c) :
    l.after c a x = l :=
  if_neg h

theorem after_statement {l : Ledger α} {a : α} {x : Exchange} (h : x.request.control? = none) :
    l.after x.connection a x = l.enter a := by
  rw [after, if_pos rfl, h]

theorem after_control {l : Ledger α} {a : α} {x : Exchange} {k : Control}
    (h : x.request.control? = some k) (hok : x.ending.isOk) :
    l.after x.connection a x = l.control k := by
  rw [after, if_pos rfl, h]
  exact if_pos hok

/-- A control statement without a reply changes nothing. -/
theorem after_failed {l : Ledger α} {a : α} {x : Exchange} {k : Control}
    (h : x.request.control? = some k) (hok : ¬x.ending.isOk) :
    l.after x.connection a x = l := by
  rw [after, if_pos rfl, h]
  exact if_neg hok

/-- The ledger of a connection after some exchanges. -/
def afterAll (c : Nat) (l : Ledger α) (xs : List (α × Exchange)) : Ledger α :=
  xs.foldl (fun l p => l.after c p.1 p.2) l

@[simp] theorem afterAll_nil (c : Nat) (l : Ledger α) : l.afterAll c [] = l := rfl

@[simp] theorem afterAll_append (c : Nat) (l : Ledger α) (xs ys : List (α × Exchange)) :
    l.afterAll c (xs ++ ys) = (l.afterAll c xs).afterAll c ys :=
  List.foldl_append

@[simp] theorem isOpen_enter (l : Ledger α) (a : α) : (l.enter a).isOpen = l.isOpen := by
  rw [enter]
  split <;> rfl

theorem mem_enter {l : Ledger α} {a b : α} :
    (b ∈ (l.enter a).kept ↔ b ∈ l.kept ∨ l.isOpen = false ∧ b = a) ∧
      (b ∈ (l.enter a).pending ↔ b ∈ l.pending ∨ l.isOpen = true ∧ b = a) := by
  rw [enter]
  cases l.isOpen <;> simp

end Ledger

/-! ## Statements of a connection -/

/-- The statements among some exchanges that went over a connection, in order. -/
def statementsOn (c : Nat) (xs : List Exchange) : List Request :=
  (xs.filter fun x => x.connection = c ∧ x.request.control? = none).map Exchange.request

@[simp] theorem statementsOn_nil (c : Nat) : statementsOn c [] = [] := rfl

@[simp] theorem statementsOn_append (c : Nat) (xs ys : List Exchange) :
    statementsOn c (xs ++ ys) = statementsOn c xs ++ statementsOn c ys := by
  rw [statementsOn, List.filter_append, List.map_append]
  rfl

theorem statementsOn_eq_nil {c : Nat} {xs : List Exchange}
    (h : ∀ x ∈ xs, x.connection = c → x.request.control? ≠ none) : statementsOn c xs = [] := by
  rw [statementsOn, List.map_eq_nil_iff, List.filter_eq_nil_iff]
  intro x hx hc
  obtain ⟨hc, hs⟩ := of_decide_eq_true hc
  exact h x hx hc hs

/-- Where all of them are statements of the connection, these are all. -/
theorem statementsOn_eq_map {c : Nat} {xs : List Exchange}
    (h : ∀ x ∈ xs, x.connection = c ∧ x.request.control? = none) :
    statementsOn c xs = xs.map Exchange.request := by
  rw [statementsOn, List.filter_eq_self.mpr fun x hx => decide_eq_true (h x hx)]

namespace Ledger

variable {c : Nat} {l : Ledger Request} {xs ys : List Exchange}

/-- The ledger of a connection after some exchanges, each statement entered as it was asked. -/
def through (c : Nat) (l : Ledger Request) (xs : List Exchange) : Ledger Request :=
  l.afterAll c (xs.map fun x => (x.request, x))

@[simp] theorem through_nil : l.through c [] = l := rfl

theorem through_cons {x : Exchange} :
    l.through c (x :: xs) = (l.after c x.request x).through c xs := rfl

@[simp] theorem through_append : l.through c (xs ++ ys) = (l.through c xs).through c ys := by
  rw [through, List.map_append, afterAll_append]
  rfl

/-- What is asked elsewhere changes nothing. -/
theorem through_elsewhere (h : ∀ x ∈ xs, x.connection ≠ c) : l.through c xs = l := by
  induction xs with
  | nil => rfl
  | cons x xs ih =>
    rw [through_cons, after_of_ne (h x List.mem_cons_self)]
    exact ih fun y hy => h y (List.mem_cons_of_mem _ hy)

/-- Inside of a transaction, statements wait. -/
theorem through_inside (hl : l.isOpen)
    (h : ∀ x ∈ xs, x.connection = c ∧ x.request.control? = none) :
    l.through c xs = { l with pending := l.pending ++ statementsOn c xs } := by
  induction xs generalizing l with
  | nil => rw [statementsOn_nil, List.append_nil, through_nil]
  | cons x xs ih =>
    obtain ⟨⟨rfl, hs⟩, hrest⟩ := List.forall_mem_cons.mp h
    have hopen : (l.enter x.request).isOpen := by rwa [isOpen_enter]
    rw [through_cons, after_statement hs, ih hopen hrest, statementsOn_eq_map h,
      statementsOn_eq_map hrest, enter, if_pos hl, List.map_cons, List.append_assoc,
      List.singleton_append]

end Ledger

namespace Session

variable {β : Type}

/-- What the database of a connection keeps of the statements that it was sent. -/
def ledger (s : Session β) (c : Nat) : Ledger Request :=
  ({} : Ledger Request).through c (exchanges s.trace)

theorem Leads.ledger [Backend β] {s s' : Session β} {ms : List Mark} {d : Nat → Nat}
    (h : s.Leads ms d s') (c : Nat) : s'.ledger c = (s.ledger c).through c (exchanges ms) := by
  rw [Session.ledger, Session.ledger, h.trace, exchanges_append, Ledger.through_append]

end Session

end Tabula
