import SExpr.Proofs.Balance
import SExpr.Proofs.Grammar

/-!
# Levels

The level of a sequence of items is how many of them open something minus how many close something.
Parentheses do so in a text, tokens by their kind in a token sequence, and both are treated alike: a
sequence is balanced when no prefix has a negative level and the whole has level zero.

The balance check accepts the balanced texts. What derives a value is balanced, and the level only
falls back to zero at its end; so the number of lists that a cursor has open is the level of the tokens
it has taken.
-/

namespace SExpr

/-! ## Items that open and close -/

/-- Items some of which open something and others close it. -/
class Nesting (α : Type) where
  opens : α → Bool
  closes : α → Bool
  exclusive : ∀ x, opens x = true → closes x = false

/-- Parentheses open and close wherever they stand. -/
instance : Nesting Char where
  opens c := c == '('
  closes c := c == ')'
  exclusive := by
    intro c hc
    have hopen : c = '(' := by simpa using hc
    subst hopen
    decide

/-- Only the kind of a token tells whether it opens or closes a list. -/
instance : Nesting Token where
  opens t := t.kind == .openParen
  closes t := t.kind == .closeParen
  exclusive := by
    intro t ht
    have hopen : t.kind = .openParen := by simpa using ht
    rw [hopen]
    decide

section Level

variable {α : Type} [Nesting α] {x y : α} {xs ys : List α} {j k : Nat}

/-- How many of the items open something, minus how many close something. -/
def level (xs : List α) : Int :=
  xs.countP Nesting.opens - xs.countP Nesting.closes

/-- The level behind the item at the index. -/
def levelAt (xs : List α) (j : Nat) : Int :=
  level (xs.take (j + 1))

@[simp]
theorem level_nil : level ([] : List α) = 0 := rfl

@[simp]
theorem level_append (xs ys : List α) : level (xs ++ ys) = level xs + level ys := by
  simp only [level, List.countP_append]
  omega

theorem level_cons (x : α) (xs : List α) : level (x :: xs) = level [x] + level xs :=
  level_append [x] xs

theorem level_of_opens (hx : Nesting.opens x = true) : level [x] = 1 := by
  simp [level, hx, Nesting.exclusive x hx]

theorem level_of_closes (hx : Nesting.closes x = true) : level [x] = -1 := by
  have hopens : Nesting.opens x = false := by
    rw [Bool.eq_false_iff]
    intro hopens
    rw [Nesting.exclusive x hopens] at hx
    cases hx
  simp [level, hx, hopens]

theorem level_of_neither (hopens : Nesting.opens x = false) (hcloses : Nesting.closes x = false) :
    level [x] = 0 := by
  simp [level, hopens, hcloses]

theorem levelAt_append_left (hj : j < xs.length) (ys : List α) :
    levelAt (xs ++ ys) j = levelAt xs j := by
  rw [levelAt, levelAt, List.take_append_of_le_length hj]

/-- Behind some items the level goes on from theirs. -/
theorem levelAt_append_right (xs ys : List α) (j : Nat) :
    levelAt (xs ++ ys) (xs.length + j) = level xs + levelAt ys j := by
  rw [levelAt, levelAt, Nat.add_assoc, List.take_length_add_append, level_append]

theorem levelAt_append_cons (xs ys : List α) (y : α) :
    levelAt (xs ++ y :: ys) xs.length = level (xs ++ [y]) := by
  have hfirst : levelAt (y :: ys) 0 = level [y] := rfl
  simpa [hfirst] using levelAt_append_right xs (y :: ys) 0

theorem levelAt_last (xs : List α) : levelAt xs (xs.length - 1) = level xs := by
  rw [levelAt, List.take_of_length_le (by omega)]

/-- One item more adds its own level. -/
theorem level_take_succ (hx : xs[k]? = some x) :
    level (xs.take (k + 1)) = level (xs.take k) + level [x] := by
  rw [List.take_add_one, hx, Option.toList_some, level_append]

/-- A piece of a sequence leads from the level before it to the one behind it. -/
theorem level_take_extract (xs : List α) (hjk : j ≤ k) :
    level (xs.take k) = level (xs.take j) + level (xs.extract j k) := by
  have hsplit : xs.take k = xs.take j ++ xs.extract j k := by
    rw [List.extract_eq_take_drop, ← List.take_add, Nat.add_sub_cancel' hjk]
  rw [hsplit, level_append]

/-! ## Balanced sequences -/

/-- Nothing is closed that was not opened before, and nothing stays open. -/
structure Balanced (xs : List α) : Prop where
  nonneg : ∀ k, 0 ≤ level (xs.take k)
  total : level xs = 0

namespace Balanced

theorem nil : Balanced ([] : List α) :=
  ⟨by simp, level_nil⟩

theorem single (hopens : Nesting.opens x = false) (hcloses : Nesting.closes x = false) :
    Balanced [x] := by
  have hlevel : level [x] = 0 := level_of_neither hopens hcloses
  refine ⟨?_, hlevel⟩
  intro k
  cases k with
  | zero => simp
  | succ k => simp [hlevel]

theorem append (hxs : Balanced xs) (hys : Balanced ys) : Balanced (xs ++ ys) where
  nonneg := by
    intro k
    have hfirst := hxs.nonneg k
    have hsecond := hys.nonneg (k - xs.length)
    rw [List.take_append, level_append]
    omega
  total := by rw [level_append, hxs.total, hys.total, Int.add_zero]

theorem flatMap {β : Type} {f : β → List α} {items : List β} (h : ∀ b ∈ items, Balanced (f b)) :
    Balanced (items.flatMap f) := by
  induction items with
  | nil => exact nil
  | cons b items ih =>
    rcases List.forall_mem_cons.1 h with ⟨hb, hitems⟩
    exact hb.append (ih hitems)

/-- Inside a pair that opens and closes, the level stays above zero. -/
theorem level_pos_of_enclosed (hxs : Balanced xs) (hx : Nesting.opens x = true) (hk : 0 < k)
    (hle : k ≤ xs.length + 1) : 0 < level ((x :: (xs ++ [y])).take k) := by
  have hsucc : k = (k - 1) + 1 := by omega
  have hnonneg := hxs.nonneg (k - 1)
  rw [hsucc, List.take_succ_cons, List.take_append_of_le_length (by omega), level_cons,
    level_of_opens hx]
  omega

theorem enclosed (hxs : Balanced xs) (hx : Nesting.opens x = true)
    (hy : Nesting.closes y = true) : Balanced (x :: (xs ++ [y])) := by
  have htotal : level (x :: (xs ++ [y])) = 0 := by
    rw [level_cons, level_append, level_of_opens hx, hxs.total, level_of_closes hy]
    rfl
  refine ⟨?_, htotal⟩
  intro k
  rcases Nat.eq_zero_or_pos k with rfl | hk
  · simp
  · by_cases hle : k ≤ xs.length + 1
    · exact Int.le_of_lt (hxs.level_pos_of_enclosed hx hk hle)
    · -- The whole pair is taken.
      have hall : (x :: (xs ++ [y])).length ≤ k := by
        rw [List.length_cons, List.length_append, List.length_singleton]
        omega
      rw [List.take_of_length_le hall, htotal]

/-- A piece is balanced at whose end the level is what it was at the start, and never lower in
between. -/
theorem extract (hjk : j ≤ k) (hend : level (xs.take k) = level (xs.take j))
    (habove : ∀ i, j ≤ i → i ≤ k → level (xs.take j) ≤ level (xs.take i)) :
    Balanced (xs.extract j k) where
  nonneg := by
    intro m
    have hpart : (xs.extract j k).take m = xs.extract j (min (j + m) k) := by
      rw [List.extract_eq_take_drop, List.extract_eq_take_drop, List.take_take]
      congr 1
      omega
    have hlevel := level_take_extract xs (show j ≤ min (j + m) k by omega)
    have hle := habove (min (j + m) k) (by omega) (by omega)
    rw [hpart]
    omega
  total := by
    have hlevel := level_take_extract xs hjk
    omega

/-- A prefix of a balanced sequence has no negative level. -/
theorem level_nonneg (h : Balanced (xs ++ ys)) : 0 ≤ level xs := by
  simpa using h.nonneg xs.length

end Balanced

end Level

/-! ## Texts -/

/-- The check with some parentheses open succeeds when these make up for what is closed too much, and
nothing stays open. -/
theorem Balance.check_eq_ok_iff {opened : List Nat} {n : Nat} {s : Text} :
    check opened n s = .ok () ↔
      (∀ k, 0 ≤ opened.length + level (s.take k)) ∧ opened.length + level s = 0 := by
  induction s generalizing opened n with
  | nil =>
    cases opened with
    | nil => simp [check]
    | cons innermost outer =>
      simp only [check, List.take_nil, level_nil, List.length_cons]
      constructor
      · intro h
        cases h
      · rintro ⟨_, hzero⟩
        omega
  | cons c s ih =>
    -- A prefix is empty or starts with the character, whose level then is added.
    have htakes : (∀ k, 0 ≤ opened.length + level ((c :: s).take k)) ↔
        ∀ k, 0 ≤ opened.length + level [c] + level (s.take k) := by
      constructor
      · intro h k
        have hk := h (k + 1)
        rw [List.take_succ_cons, level_cons] at hk
        omega
      · intro h k
        cases k with
        | zero => simp
        | succ k =>
          have hk := h k
          rw [List.take_succ_cons, level_cons]
          omega
    rw [htakes, level_cons c s, ← Int.add_assoc]
    by_cases hopen : c = '('
    · subst hopen
      have hlevel : level ['('] = 1 := rfl
      simp only [check, if_true, ih, hlevel, List.length_cons, Nat.cast_add, Nat.cast_one]
    · by_cases hclose : c = ')'
      · subst hclose
        have hlevel : level [')'] = -1 := rfl
        cases opened with
        | nil =>
          simp only [check, hopen, if_false, if_true, hlevel]
          constructor
          · intro h
            cases h
          · rintro ⟨h, _⟩
            have hzero := h 0
            simp at hzero
        | cons _ outer =>
          have hcancel : ((outer.length + 1 : Nat) : Int) + -1 = outer.length := by omega
          simp only [check, hopen, if_false, if_true, ih, hlevel, List.length_cons, hcancel]
      · have hlevel : level [c] = 0 := by
          apply level_of_neither <;> simp [Nesting.opens, Nesting.closes, hopen, hclose]
        simp only [check, hopen, hclose, if_false, ih, hlevel, Int.add_zero]

/-- The balance check accepts exactly the balanced texts. -/
theorem checkBalance_eq_ok_iff {s : Text} : checkBalance s = .ok () ↔ Balanced s := by
  rw [checkBalance, Balance.check_eq_ok_iff]
  simp only [List.length_nil, Nat.cast_zero, Int.zero_add]
  exact ⟨fun h => ⟨h.1, h.2⟩, fun h => ⟨h.nonneg, h.total⟩⟩

/-! ## Tokens -/

namespace Token

variable {t : Token}

theorem level_openParen (h : t.kind = .openParen) : level [t] = 1 :=
  level_of_opens (by simp [Nesting.opens, h])

theorem level_closeParen (h : t.kind = .closeParen) : level [t] = -1 :=
  level_of_closes (by simp [Nesting.closes, h])

theorem level_other (hopen : t.kind ≠ .openParen) (hclose : t.kind ≠ .closeParen) :
    level [t] = 0 :=
  level_of_neither (by simp [Nesting.opens, hopen]) (by simp [Nesting.closes, hclose])

/-- Only what opens a list raises the level. -/
theorem level_nonpos (h : t.kind ≠ .openParen) : level [t] ≤ 0 := by
  by_cases hclose : t.kind = .closeParen
  · rw [level_closeParen hclose]
    decide
  · rw [level_other h hclose]

theorem level_le_one (t : Token) : level [t] ≤ 1 := by
  by_cases hopen : t.kind = .openParen
  · rw [level_openParen hopen]
  · exact Int.le_trans (level_nonpos hopen) (by decide)

theorem StandsFor.not_parenthesis {a : Atom} (h : t.StandsFor a) :
    t.kind ≠ .openParen ∧ t.kind ≠ .closeParen := by
  cases h <;> simp_all

end Token

namespace Derives

variable {us : List Token} {v : Value} {k : Nat}

/-- What derives a value is balanced. -/
theorem balanced (h : Derives us v) : Balanced us := by
  induction h with
  | @atom t a ha =>
    rcases ha.not_parenthesis with ⟨hopen, hclose⟩
    exact .single (by simp [Nesting.opens, hopen]) (by simp [Nesting.closes, hclose])
  | list hopen _ hclose ih =>
    have hparts := Balanced.flatMap ih
    exact hparts.enclosed (by simp [Nesting.opens, hopen]) (by simp [Nesting.closes, hclose])

theorem balanced_items {parts : List (List Token × Value)}
    (hparts : ∀ p ∈ parts, Derives p.1 p.2) : Balanced (parts.flatMap Prod.fst) :=
  .flatMap fun p hp => (hparts p hp).balanced

/-- Before the end of what derives a value, its outermost list is open. -/
theorem level_pos (h : Derives us v) (hk : 0 < k) (hlt : k < us.length) :
    0 < level (us.take k) := by
  cases h with
  | atom =>
    rw [List.length_singleton] at hlt
    omega
  | @list opening _ parts hopen hparts _ =>
    have hinside := balanced_items hparts
    apply hinside.level_pos_of_enclosed (by simp [Nesting.opens, hopen]) hk
    rw [List.length_cons, List.length_append, List.length_singleton] at hlt
    omega

theorem ne_nil (h : Derives us v) : us ≠ [] := by
  cases h with
  | atom => simp
  | list => simp

end Derives

namespace Opened

variable {frames : List Frame} {taken : List Token} {k : Nat}

/-- As many lists are open as the level of the tokens taken says. -/
theorem level_eq (h : Opened frames taken) : level taken = frames.length := by
  induction h with
  | nil => rfl
  | @cons frame outer taken opening parts _ hkind _ hparts _ ih =>
    have hinside := Derives.balanced_items hparts
    rw [level_append, level_cons, ih, Token.level_openParen hkind, hinside.total, List.length_cons]
    omega

/-- A token that leaves lists open changes how many by its level. -/
theorem length_of_step {inner : List Frame} {t : Token} {limit : Int}
    {depth : Nat} (h : Opened frames taken)
    (hstep : Progress.step limit depth frames t = .ok (.within inner)) :
    (inner.length : Int) = frames.length + level [t] := by
  have hinner : Opened inner (taken ++ [t]) := h.step hstep
  rw [← hinner.level_eq, level_append, h.level_eq]

/-- Since the first token was taken, the outermost list has been open. -/
theorem level_pos (h : Opened frames taken) (hk : 0 < k) (hle : k ≤ taken.length) :
    0 < level (taken.take k) := by
  induction h with
  | nil =>
    rw [List.length_nil] at hle
    omega
  | @cons frame outer taken opening parts houter hkind _ hparts _ ih =>
    by_cases hbefore : k ≤ taken.length
    · rw [List.take_append_of_le_length hbefore]
      exact ih hbefore
    · -- Behind the innermost opening parenthesis only its items follow.
      have hinside := Derives.balanced_items hparts
      have hsplit : k = taken.length + ((k - taken.length - 1) + 1) := by omega
      have hnonneg := hinside.nonneg (k - taken.length - 1)
      rw [hsplit, List.take_length_add_append, List.take_succ_cons, level_append, level_cons,
        houter.level_eq, Token.level_openParen hkind]
      omega

end Opened

end SExpr
