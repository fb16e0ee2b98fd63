import Mathlib.Data.List.Basic
import SExpr.Tree

/-!
# Shapes and atoms of trees

How deep a tree nests, how many lists stand around its innermost item, and which atoms it holds.
Replacing atoms keeps the shape.
-/

namespace SExpr.Tree

variable {α β γ : Type}

/-! ## Nesting -/

theorem foldr_max_le_iff {ns : List Nat} {n : Nat} : ns.foldr max 0 ≤ n ↔ ∀ m ∈ ns, m ≤ n := by
  induction ns with
  | nil => simp
  | cons m ns ih => rw [List.foldr_cons, Nat.max_le, ih, List.forall_mem_cons]

/-- How many lists are open around the innermost item: an empty list has no item. -/
def height : Tree α → Nat :=
  fold (fun _ => 0) fun heights => (heights.map (· + 1)).foldr max 0

@[simp]
theorem height_atom (a : α) : (Tree.atom a).height = 0 := by
  simp [height]

@[simp]
theorem height_list (items : List (Tree α)) :
    (Tree.list items).height = ((items.map height).map (· + 1)).foldr max 0 := by
  simp [height]

theorem height_list_le_iff {items : List (Tree α)} {n : Nat} :
    (Tree.list items).height ≤ n ↔ ∀ t ∈ items, t.height + 1 ≤ n := by
  rw [height_list, foldr_max_le_iff]
  simp

theorem depth_list_le_iff {items : List (Tree α)} {n : Nat} :
    (Tree.list items).depth ≤ n + 1 ↔ ∀ t ∈ items, t.depth ≤ n := by
  rw [depth_list, Nat.add_le_add_iff_right, foldr_max_le_iff]
  simp

/-- There is room for a list inside `m` others when there is room for each of its items in it. -/
theorem add_height_list_lt_iff {items : List (Tree α)} {m n : Nat} :
    m + (Tree.list items).height < n ↔ m < n ∧ ∀ t ∈ items, m + 1 + t.height < n := by
  constructor
  · intro h
    refine ⟨by omega, ?_⟩
    intro t ht
    have hle := height_list_le_iff.1 (Nat.le_refl _) t ht
    omega
  · rintro ⟨hm, hitems⟩
    have hle : (Tree.list items).height ≤ n - m - 1 := by
      rw [height_list_le_iff]
      intro t ht
      have := hitems t ht
      omega
    omega

/-- A list nests within a limit when it may be opened and its items nest within the limit in it. -/
theorem add_depth_list_le_iff {items : List (Tree α)} {m : Nat} {limit : Int} :
    (m + (Tree.list items).depth : Nat) ≤ limit ↔
      (m + 1 : Nat) ≤ limit ∧ ∀ t ∈ items, (m + 1 + t.depth : Nat) ≤ limit := by
  -- A list nests at least once, so its items may nest once less.
  have hpos : (Tree.list items).depth = ((Tree.list items).depth - 1) + 1 := by
    rw [depth_list]
    omega
  constructor
  · intro h
    refine ⟨by omega, ?_⟩
    intro t ht
    have hle := depth_list_le_iff.1 (Nat.le_of_eq hpos) t ht
    omega
  · rintro ⟨hm, hitems⟩
    have hle : (Tree.list items).depth ≤ (limit - (m + 1 : Nat)).toNat + 1 := by
      rw [depth_list_le_iff]
      intro t ht
      have := hitems t ht
      omega
    omega

/-! ## Atoms -/

/-- The atoms of a tree from left to right. -/
def atoms : Tree α → List α :=
  fold (fun a => [a]) List.flatten

@[simp]
theorem atoms_atom (a : α) : (Tree.atom a).atoms = [a] := by
  simp [atoms]

@[simp]
theorem atoms_list (items : List (Tree α)) :
    (Tree.list items).atoms = items.flatMap atoms := by
  simp [atoms, List.flatMap]

theorem forall_atoms_list_iff {p : α → Prop} {items : List (Tree α)} :
    (∀ a ∈ (Tree.list items).atoms, p a) ↔ ∀ t ∈ items, ∀ a ∈ t.atoms, p a := by
  simp only [atoms_list, List.mem_flatMap]
  constructor
  · intro h t ht a ha
    exact h a ⟨t, ht, ha⟩
  · rintro h a ⟨t, ht, ha⟩
    exact h t ht a ha

/-! ## Replaced atoms -/

theorem atoms_map (f : α → β) (t : Tree α) : (t.map f).atoms = t.atoms.map f := by
  induction t using inductionOnItems with
  | atom a => simp
  | list items ih =>
    simp only [map_list, atoms_list, List.flatMap_map, List.map_flatMap]
    exact List.flatMap_congr ih

theorem map_map (f : α → β) (g : β → γ) (t : Tree α) : (t.map f).map g = t.map (g ∘ f) := by
  induction t using inductionOnItems with
  | atom a => simp
  | list items ih => simpa using ih

theorem fold_map (f : α → β) (atom : β → γ) (list : List γ → γ) (t : Tree α) :
    (t.map f).fold atom list = t.fold (fun a => atom (f a)) list := by
  induction t using inductionOnItems with
  | atom a => simp
  | list items ih =>
    rw [map_list, fold_list, fold_list, List.map_map]
    exact congrArg list (List.map_congr_left ih)

theorem map_congr {f g : α → β} {t : Tree α} (h : ∀ a ∈ t.atoms, f a = g a) : t.map f = t.map g := by
  induction t using inductionOnItems with
  | atom a => simpa using h
  | list items ih =>
    have hitems := forall_atoms_list_iff.1 h
    simpa using fun t ht => ih t ht (hitems t ht)

/-- Two replacements agree on a tree exactly when they agree on its atoms. -/
theorem map_inj_left {f g : α → β} {t : Tree α} :
    t.map f = t.map g ↔ ∀ a ∈ t.atoms, f a = g a := by
  constructor
  · intro h
    have hatoms : t.atoms.map f = t.atoms.map g := by rw [← atoms_map, h, atoms_map]
    exact List.map_inj_left.1 hatoms
  · exact map_congr

theorem map_id (t : Tree α) : t.map id = t := by
  induction t using inductionOnItems with
  | atom a => simp
  | list items ih => rw [map_list, List.map_congr_left ih, List.map_id']

@[simp]
theorem depth_map (f : α → β) (t : Tree α) : (t.map f).depth = t.depth := by
  induction t using inductionOnItems with
  | atom a => simp
  | list items ih =>
    rw [map_list, depth_list, depth_list, List.map_map]
    congr 2
    exact List.map_congr_left ih

@[simp]
theorem height_map (f : α → β) (t : Tree α) : (t.map f).height = t.height := by
  induction t using inductionOnItems with
  | atom a => simp
  | list items ih =>
    have hitems : (items.map (map f)).map height = items.map height := by
      rw [List.map_map]
      exact List.map_congr_left ih
    rw [map_list, height_list, hitems, height_list]

theorem isAtom_map_iff {f : α → β} {t : Tree α} :
    (∃ b, t.map f = .atom b) ↔ ∃ a, t = .atom a := by
  cases t with
  | atom a => simp
  | list items => simp

end SExpr.Tree
