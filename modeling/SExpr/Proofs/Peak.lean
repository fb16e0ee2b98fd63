import Mathlib.Order.Bounds.Defs
import SExpr.Proofs.Successive

/-!
# How high levels rise

The peak of a sequence is the highest level of any of its prefixes. What stands behind a prefix
rises from the level of that, so the peak of a whole follows from the peaks and levels of its parts.
Lists nest as deep as the tokens that derive them rise: an atom does not rise, a pair of parentheses
rises by one over what is between them, and values one after the other rise as high as the highest
of them.

A text rises as high as its tokens when no string holds a parenthesis.
-/

namespace SExpr

/-! ## Peaks -/

section Peak

variable {α : Type} [Nesting α] {x y : α} {xs ys : List α}

/-- The highest level of a prefix of the items. -/
def peak : List α → Int
  | [] => 0
  | x :: xs => max 0 (level [x] + peak xs)

@[simp]
theorem peak_nil : peak ([] : List α) = 0 :=
  rfl

theorem peak_nonneg (xs : List α) : 0 ≤ peak xs := by
  cases xs with
  | nil => exact Int.le_refl 0
  | cons x xs => exact Int.le_max_left ..

theorem peak_singleton (x : α) : peak [x] = max 0 (level [x]) := by
  simp [peak]

/-- Behind some items the level rises from theirs. -/
theorem peak_append (xs ys : List α) : peak (xs ++ ys) = max (peak xs) (level xs + peak ys) := by
  induction xs with
  | nil => simp [peak_nonneg]
  | cons x xs ih =>
    calc
      peak (x :: (xs ++ ys)) = max 0 (level [x] + max (peak xs) (level xs + peak ys)) := by
        rw [peak, ih]
      _ = max (max 0 (level [x] + peak xs)) (level [x] + level xs + peak ys) := by omega
      _ = max (peak (x :: xs)) (level (x :: xs) + peak ys) := by rw [peak, level_cons x xs]

/-- No prefix has a higher level. -/
theorem level_take_le_peak (xs : List α) (k : Nat) : level (xs.take k) ≤ peak xs := by
  induction xs generalizing k with
  | nil => simp
  | cons x xs ih =>
    cases k with
    | zero => simpa using peak_nonneg (x :: xs)
    | succ k =>
      have hrest := ih k
      rw [List.take_succ_cons, level_cons, peak]
      omega

/-- Some prefix has that level. -/
theorem exists_level_take_eq_peak (xs : List α) : ∃ k ≤ xs.length, level (xs.take k) = peak xs := by
  induction xs with
  | nil => exact ⟨0, Nat.le_refl 0, rfl⟩
  | cons x xs ih =>
    rcases ih with ⟨k, hk, hpeak⟩
    rcases Int.le_total 0 (level [x] + peak xs) with hrises | hfalls
    · refine ⟨k + 1, Nat.succ_le_succ hk, ?_⟩
      rw [List.take_succ_cons, level_cons, peak, hpeak, Int.max_eq_right hrises]
    · -- It never comes back to where it started.
      refine ⟨0, Nat.zero_le _, ?_⟩
      rw [peak, Int.max_eq_left hfalls]
      rfl

theorem isGreatest_peak (xs ys : List α) :
    IsGreatest {l | ∃ k ≤ xs.length, level ((xs ++ ys).take k) = l} (peak xs) := by
  refine ⟨?_, ?_⟩
  · rcases exists_level_take_eq_peak xs with ⟨k, hle, hpeak⟩
    exact ⟨k, hle, by rw [List.take_append_of_le_length hle, hpeak]⟩
  · rintro _ ⟨k, hle, rfl⟩
    rw [List.take_append_of_le_length hle]
    exact level_take_le_peak xs k

theorem isGreatest_range_peak (xs : List α) :
    IsGreatest (Set.range fun k => level (xs.take k)) (peak xs) := by
  rcases exists_level_take_eq_peak xs with ⟨k, _, hk⟩
  refine ⟨⟨k, hk⟩, ?_⟩
  rintro _ ⟨k, rfl⟩
  exact level_take_le_peak xs k

/-- A pair that opens and closes rises by one over what it encloses. -/
theorem Balanced.peak_enclosed (hxs : Balanced xs) (hx : Nesting.opens x = true)
    (hy : Nesting.closes y = true) : peak (x :: (xs ++ [y])) = peak xs + 1 := by
  have hnonneg := peak_nonneg xs
  rw [peak, peak_append, peak_singleton, level_of_opens hx, level_of_closes hy, hxs.total]
  omega

/-- Behind a balanced sequence the level rises from zero again. -/
theorem Balanced.peak_append (hxs : Balanced xs) (ys : List α) :
    peak (xs ++ ys) = max (peak xs) (peak ys) := by
  rw [SExpr.peak_append, hxs.total, Int.zero_add]

end Peak

/-! ## Depths -/

namespace Derives

variable {us : List Token} {v : Value}

/-- Parts one after the other rise as high as the deepest of their values nests. -/
theorem peak_parts {parts : List (List Token × Value)} (hparts : ∀ p ∈ parts, Derives p.1 p.2)
    (hpeaks : ∀ p ∈ parts, peak p.1 = p.2.depth) :
    peak (parts.flatMap Prod.fst) = (((parts.map Prod.snd).map Tree.depth).foldr max 0 : Nat) := by
  induction parts with
  | nil => rfl
  | cons p parts ih =>
    rcases List.forall_mem_cons.1 hparts with ⟨hp, hparts⟩
    rcases List.forall_mem_cons.1 hpeaks with ⟨hpeak, hpeaks⟩
    calc
      peak (p.1 ++ parts.flatMap Prod.fst)
          = max (peak p.1) (peak (parts.flatMap Prod.fst)) := hp.balanced.peak_append _
      _ = max (p.2.depth : Int) (((parts.map Prod.snd).map Tree.depth).foldr max 0 : Nat) := by
          rw [hpeak, ih hparts hpeaks]
      _ = ((((p :: parts).map Prod.snd).map Tree.depth).foldr max 0 : Nat) := by simp

/-- What derives a value rises as high as the value is deep. -/
theorem peak_eq (h : Derives us v) : peak us = v.depth := by
  induction h with
  | @atom t a ha =>
    rcases ha.not_parenthesis with ⟨hopen, hclose⟩
    rw [peak_singleton, Token.level_other hopen hclose, Tree.depth_atom]
    rfl
  | @list opening closing parts hopen hparts hclose ih =>
    have hinside := balanced_items hparts
    rw [hinside.peak_enclosed (by simp [Nesting.opens, hopen]) (by simp [Nesting.closes, hclose]),
      peak_parts hparts ih, Tree.depth_list]
    rfl

end Derives

/-! ## Texts -/

/-- A text rises as high as its parentheses. -/
theorem peak_parentheses (s : Text) : peak (parentheses s) = peak s := by
  induction s with
  | nil => rfl
  | cons c s ih =>
    cases hc : isParenthesis c with
    | true =>
      have hkeep : parentheses (c :: s) = c :: parentheses s := List.filter_cons_of_pos hc
      rw [hkeep, peak, ih, peak]
    | false =>
      have hlevel : level [c] = 0 := by
        rw [← level_parentheses, parentheses_cons_of_not hc]
        rfl
      have hnonneg := peak_nonneg s
      rw [parentheses_cons_of_not hc, ih, peak, hlevel]
      omega

namespace Token

variable {t : Token} {ts : List Token}

/-- The text of a token rises as the token does, a string with parentheses aside. -/
theorem peak_text (ht : t.kind.Spells t.text)
    (hplain : t.kind = .string → parentheses t.text = []) : peak t.text = peak [t] := by
  -- A parenthesis is all of its text, and the level of a single item tells its peak.
  have hsingle : ∀ c : Char, t.text = [c] → peak t.text = peak [t] := by
    intro c hc
    have hlevel := level_text ht hplain
    rw [hc] at hlevel
    rw [hc, peak_singleton, peak_singleton, hlevel]
  by_cases hopen : t.kind = .openParen
  · rw [hopen] at ht
    exact hsingle '(' ht
  by_cases hclose : t.kind = .closeParen
  · rw [hclose] at ht
    exact hsingle ')' ht
  rw [← peak_parentheses, parentheses_text ht hopen hclose hplain, peak_singleton,
    level_other hopen hclose]
  rfl

/-- Without parentheses in strings the texts rise as the tokens do. -/
theorem peak_texts (hspells : ∀ t ∈ ts, t.kind.Spells t.text) (hplain : Plain ts) :
    peak (ts.flatMap text) = peak ts := by
  induction ts with
  | nil => rfl
  | cons t ts ih =>
    rcases List.forall_mem_cons.1 hspells with ⟨ht, hts⟩
    rcases List.forall_mem_cons.1 hplain with ⟨htplain, htsplain⟩
    calc
      peak (t.text ++ ts.flatMap text)
          = max (peak t.text) (level t.text + peak (ts.flatMap text)) := peak_append ..
      _ = max (peak [t]) (level [t] + peak ts) := by
          rw [peak_text ht htplain, level_text ht htplain, ih hts htsplain]
      _ = peak ([t] ++ ts) := (peak_append ..).symm

end Token

theorem peak_of_tokenize {config : Config} {src : Text} {ts : List Token}
    (h : tokenize config src = .ok ts) (hplain : Token.Plain ts) : peak src = peak ts := by
  have hscanned := (tokenize_eq_ok_iff.1 h).2
  calc
    peak src = peak (parentheses src) := (peak_parentheses src).symm
    _ = peak (parentheses (ts.flatMap Token.text)) := by rw [hscanned.parentheses_eq]
    _ = peak (ts.flatMap Token.text) := peak_parentheses _
    _ = peak ts := Token.peak_texts hscanned.spells hplain

/-- The depth of a value that is parsed is the highest level of the tokens it is parsed from: the
most lists that are open behind any of them. When these are all the tokens of a text, in which no
string holds a parenthesis, it is the highest level of the text as well. -/
theorem depth_of_parseFrom {config : Config} {ts : List Token} {v : Value} {after : Cursor}
    (h : parseFrom config ts = (.ok v, after)) :
    IsGreatest {l | ∃ k ≤ after.index, level (ts.take k) = l} (v.depth : Int) ∧
    ∀ src, tokenize config src = .ok ts → after.rest = [] → Token.Plain ts →
      read config src = .ok v ∧
        IsGreatest (Set.range fun k => level (src.take k)) (v.depth : Int) := by
  rcases parseFrom_eq_ok_iff.1 h with ⟨used, rfl, hderives, _, hindex, _⟩
  refine ⟨?_, ?_⟩
  · rw [← hderives.peak_eq, hindex]
    exact isGreatest_peak used after.rest
  · intro src htokens hrest hplain
    refine ⟨?_, ?_⟩
    · rw [read, htokens]
      simp [parse, h, Except.mapError]
    · rw [hrest, List.append_nil] at htokens hplain
      rw [← hderives.peak_eq, ← peak_of_tokenize htokens hplain]
      exact isGreatest_range_peak src

/-- An empty list and an empty string in a list: behind the second parenthesis two lists are open.
-/
theorem depth_of_empty_list_and_string :
    let ts : List Token := [⟨.openParen, ['('], 0⟩, ⟨.openParen, ['('], 1⟩, ⟨.closeParen, [')'], 2⟩,
      ⟨.string, ['"', '"'], 3⟩, ⟨.closeParen, [')'], 5⟩]
    IsGreatest {l | ∃ k ≤ 5, level (ts.take k) = l} 2 ∧
      tokenize {} ['(', '(', ')', '"', '"', ')'] = .ok ts ∧
        read {} ['(', '(', ')', '"', '"', ')'] =
          .ok (.list [.list [], .atom (.str ['"', '"'])]) ∧
            IsGreatest (Set.range fun k => level (['(', '(', ')', '"', '"', ')'].take k)) 2 := by
  intro ts
  have hopen : TokenKind.Spells .openParen ['('] := rfl
  have hclose : TokenKind.Spells .closeParen [')'] := rfl
  have hstring : TokenKind.Spells .string ['"', '"'] := ⟨[], rfl, by decide⟩
  have htokens : tokenize {} ['(', '(', ')', '"', '"', ')'] = .ok ts :=
    tokenize_eq_ok_iff.2 ⟨by decide, .token hopen trivial (.token hopen trivial
      (.token hclose trivial (.token hstring trivial (.token hclose trivial .nil))))⟩
  have hparse : parseFrom {} ts =
      (.ok (.list [.list [], .atom (.str ['"', '"'])]), ⟨5, 0, []⟩) := by rfl
  have hdepth : Tree.depth (.list [.list [], .atom (.str ['"', '"'])] : Value) = 2 := by rfl
  have hplain : Token.Plain ts := by decide
  have hboth := depth_of_parseFrom hparse
  rw [hdepth] at hboth
  exact ⟨hboth.1, htokens, hboth.2 _ htokens rfl hplain⟩

end SExpr
