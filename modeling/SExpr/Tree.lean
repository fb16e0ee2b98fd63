/-!
# Trees

A tree is an atom or a list of trees. Every function on trees that this library needs is a fold: it
says what an atom gives, and what a list gives from the results of its items.
-/

namespace SExpr

/-- An atom, or a list of trees. -/
inductive Tree (α : Type) where
  | atom (a : α)
  | list (items : List (Tree α))
  deriving Repr, Inhabited

namespace Tree

variable {α β γ ε : Type}

/-! ## Induction -/

/-- What holds of every atom, and of a list when it holds of its items, holds of every tree. -/
@[elab_as_elim]
theorem inductionOnItems {motive : Tree α → Prop} (atom : ∀ a, motive (.atom a))
    (list : ∀ items, (∀ t ∈ items, motive t) → motive (.list items)) : ∀ t, motive t
  | .atom a => atom a
  | .list items => list items fun t _ => inductionOnItems atom list t

/-! ## Folds -/

mutual

/-- The result of a tree: atoms give theirs, lists make one of the results of their items. -/
def fold (atom : α → β) (list : List β → β) : Tree α → β
  | .atom a => atom a
  | .list items => list (foldItems atom list items)

/-- The results of a list's items. -/
def foldItems (atom : α → β) (list : List β → β) : List (Tree α) → List β
  | [] => []
  | t :: ts => fold atom list t :: foldItems atom list ts

end

theorem foldItems_eq_map (atom : α → β) (list : List β → β) (items : List (Tree α)) :
    foldItems atom list items = items.map (fold atom list) := by
  induction items with
  | nil => rfl
  | cons t ts ih => simp [foldItems, ih]

@[simp]
theorem fold_atom (atom : α → β) (list : List β → β) (a : α) :
    (Tree.atom a).fold atom list = atom a := by
  simp [fold]

@[simp]
theorem fold_list (atom : α → β) (list : List β → β) (items : List (Tree α)) :
    (Tree.list items).fold atom list = list (items.map (fold atom list)) := by
  simp [fold, foldItems_eq_map]

def map (f : α → β) : Tree α → Tree β :=
  fold (fun a => .atom (f a)) .list

/-- The tree with every atom replaced, or the first refusal from left to right. -/
def traverse (f : α → Except ε β) : Tree α → Except ε (Tree β) :=
  fold (fun a => (f a).map .atom) fun results => (results.mapM id).map .list

/-- How deep lists nest: an atom has depth zero, a list one more than the deepest of its items. -/
def depth : Tree α → Nat :=
  fold (fun _ => 0) fun depths => depths.foldr max 0 + 1

@[simp]
theorem map_atom (f : α → β) (a : α) : (Tree.atom a).map f = .atom (f a) := by
  simp [map]

@[simp]
theorem map_list (f : α → β) (items : List (Tree α)) :
    (Tree.list items).map f = .list (items.map (map f)) := by
  simp [map]

@[simp]
theorem depth_atom (a : α) : (Tree.atom a).depth = 0 := by
  simp [depth]

@[simp]
theorem depth_list (items : List (Tree α)) :
    (Tree.list items).depth = (items.map depth).foldr max 0 + 1 := by
  simp [depth]

/-! ## Equality -/

mutual

def decEq [DecidableEq α] : (s t : Tree α) → Decidable (s = t)
  | .atom a, .atom b =>
    if h : a = b then isTrue (by rw [h]) else isFalse fun e => h (by injection e)
  | .list xs, .list ys =>
    match decEqItems xs ys with
    | isTrue h => isTrue (by rw [h])
    | isFalse h => isFalse fun e => h (by injection e)
  | .atom _, .list _ => isFalse nofun
  | .list _, .atom _ => isFalse nofun

def decEqItems [DecidableEq α] : (xs ys : List (Tree α)) → Decidable (xs = ys)
  | [], [] => isTrue rfl
  | [], _ :: _ => isFalse nofun
  | _ :: _, [] => isFalse nofun
  | x :: xs, y :: ys =>
    match decEq x y with
    | isFalse h => isFalse fun e => h (by injection e)
    | isTrue h =>
      match decEqItems xs ys with
      | isTrue hs => isTrue (by rw [h, hs])
      | isFalse hs => isFalse fun e => hs (by injection e)

end

instance [DecidableEq α] : DecidableEq (Tree α) :=
  decEq

end Tree

end SExpr
