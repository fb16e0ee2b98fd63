import Mathlib.Data.List.TakeWhile
import SExpr.Session

/-!
# Sessions in turns

A session is told in turns: a move, with the state before it, the answer and the state behind it. What
one move keeps of any state holds in every turn of every session. A session that reads a sequence stands
at an offset of it, with all items left that lie behind; what it takes there is the piece of the sequence
between two offsets.
-/

namespace SExpr

/-! ## Turns -/

/-- A move of a session, with the state before it, the answer and the state behind it. -/
structure Turn (σ μ α : Type) where
  before : σ
  move : μ
  answer : α
  after : σ
  deriving DecidableEq

namespace Turn

variable {σ μ α : Type}

/-- One move. -/
def of (perform : σ → μ → α × σ) (s : σ) (m : μ) : Turn σ μ α :=
  ⟨s, m, (perform s m).1, (perform s m).2⟩

/-- The moves of a session, each from where the last one led. -/
def all (perform : σ → μ → α × σ) (s : σ) : List μ → List (Turn σ μ α)
  | [] => []
  | m :: moves => of perform s m :: all perform (of perform s m).after moves

/-- Where a session leads. -/
def reached (perform : σ → μ → α × σ) (s : σ) (moves : List μ) : σ :=
  moves.foldl (fun s m => (perform s m).2) s

variable {perform : σ → μ → α × σ}

/-- A session gives the answers of its turns. -/
theorem session_eq (s : σ) (moves : List μ) :
    session perform s moves = (all perform s moves).map fun x => (x.answer, x.after) := by
  induction moves generalizing s with
  | nil => rfl
  | cons m moves ih =>
    rw [session, all, List.map_cons, ih]
    rfl

/-- What one move keeps of a state, and what it then does, is so in every turn. -/
theorem forall_mem_all {Inv : σ → Prop} {P : Turn σ μ α → Prop}
    (hstep : ∀ s m, Inv s → Inv (of perform s m).after ∧ P (of perform s m)) {s : σ} (hs : Inv s)
    (moves : List μ) : ∀ x ∈ all perform s moves, P x := by
  induction moves generalizing s with
  | nil => simp [all]
  | cons m moves ih =>
    rcases hstep s m hs with ⟨hnext, hturn⟩
    exact List.forall_mem_cons.2 ⟨hturn, ih hnext⟩

end Turn

/-! ## Places in a sequence -/

section Piece

variable {α : Type} {xs piece rest : List α} {n : Nat}

/-- Behind a piece the rest of the sequence starts. -/
theorem drop_behind (h : xs.drop n = piece ++ rest) : xs.drop (n + piece.length) = rest := by
  rw [← List.drop_drop, h, List.drop_left]

theorem extract_piece (h : xs.drop n = piece ++ rest) :
    xs.extract n (n + piece.length) = piece := by
  rw [List.extract_eq_take_drop, h, Nat.add_sub_cancel_left, List.take_left]

/-- A piece of a sequence ends in it. -/
theorem piece_inside (hn : n ≤ xs.length) (h : xs.drop n = piece ++ rest) :
    n + piece.length ≤ xs.length := by
  have hlength := congrArg List.length h
  rw [List.length_drop, List.length_append] at hlength
  omega

/-- At the offset of the sequence these items are left. -/
structure LeftAt (xs : List α) (n : Nat) (rest : List α) : Prop where
  inside : n ≤ xs.length
  rest_eq : rest = xs.drop n

namespace LeftAt

theorem start (xs : List α) : LeftAt xs 0 xs :=
  ⟨Nat.zero_le _, rfl⟩

variable {left : List α} {k : Nat}

/-- Taking what comes next leads to where the rest is left. -/
theorem advance (h : LeftAt xs n rest) (hrest : rest = piece ++ left) (hk : k = n + piece.length) :
    LeftAt xs k left ∧ xs.extract n k = piece := by
  have hdrop : xs.drop n = piece ++ left := h.rest_eq.symm.trans hrest
  subst hk
  exact ⟨⟨piece_inside h.inside hdrop, (drop_behind hdrop).symm⟩, extract_piece hdrop⟩

theorem getElem?_eq (h : LeftAt xs n rest) : xs[n]? = rest.head? := by
  rw [h.rest_eq, List.head?_drop]

theorem eq_nil_iff (h : LeftAt xs n rest) : rest = [] ↔ n = xs.length := by
  rw [h.rest_eq, List.drop_eq_nil_iff]
  exact ⟨fun hle => Nat.le_antisymm h.inside hle, fun heq => Nat.le_of_eq heq.symm⟩

end LeftAt

end Piece

end SExpr
