import SExpr.Proofs.Outcome
import SExpr.Reading

/-!
# Reading is local

What a cursor reads depends on the tokens that it takes. Where it stands in the sequence and how many
lists are open around it shifts the counts and uses up some of the limit, and that is all; the tokens
before it are not looked at. Neither are those behind a value or behind a token that is refused. Only
where a token is missed, or no more lists can be held, does it matter what follows.
-/

namespace SExpr

/-! ## Inside other lists -/

/-- The error as it is where `d` more lists are open around the tokens, and as many more may be. -/
def ParseError.inside (d : Nat) : ParseError → ParseError
  | .depthExceeded limit position => .depthExceeded (limit + d) position
  | .capacityExceeded depth position => .capacityExceeded (depth + d) position
  | cause => cause

/-- What is wrong with a number does not depend on the lists around it. -/
theorem Token.inside_of_integer {t : Token} {cause : ParseError} (h : t.integer = .error cause)
    (d : Nat) : cause.inside d = cause := by
  rcases Token.integer_error_cases h with ⟨_, rfl⟩ | rfl | ⟨_, rfl⟩ <;> rfl

theorem Frame.inside_missing (frames : List Frame) (d : Nat) :
    (Frame.missing frames).inside d = Frame.missing frames := by
  cases frames <;> rfl

/-- Inside `d` more lists a token does what it does under a limit that is lower by `d`. -/
theorem Progress.step_inside (limit : Int) (depth d : Nat) (frames : List Frame) (t : Token) :
    step limit (depth + d) frames t =
      (step (limit - d) depth frames t).mapError (ParseError.inside d) := by
  unfold step
  split
  · have hsame : limit < (depth + d : Nat) + frames.length + 1 ↔
        limit - d < depth + frames.length + 1 := by omega
    rw [if_congr hsame rfl rfl]
    split
    · simp [Except.mapError, ParseError.inside]
    · rfl
  · cases frames <;> rfl
  · cases hn : t.integer with
    | ok n => rfl
    | error cause =>
      simp [Except.map, Except.mapError, Token.inside_of_integer hn]
  · rfl
  · rfl
  · rfl

namespace Cursor

variable {limit : Int} {capacity : Option Nat} {depth index : Nat} {frames : List Frame}
  {us : List Token} {result : Except ParseError Value} {final : Cursor}

/-- The cursor with `i` more tokens taken and `d` more lists open. -/
def shift (i d : Nat) (c : Cursor) : Cursor :=
  { c with index := c.index + i, depth := c.depth + d }

/-- The result and the cursor behind it as they are `i` tokens further on, inside `d` more lists. -/
def shiftResult (i d : Nat) (r : Except ParseError Value × Cursor) :
    Except ParseError Value × Cursor :=
  (r.1.mapError (ParseError.inside d), r.2.shift i d)

theorem readWithin_shift (limit : Int) (capacity : Option Nat) (depth index i d : Nat)
    (frames : List Frame) (us : List Token) :
    readWithin limit capacity (depth + d) frames (index + i) us =
      shiftResult i d (readWithin (limit - d) capacity depth frames index us) := by
  -- By induction on the tokens; the open lists are the same in both runs.
  induction us generalizing frames index with
  | nil =>
    simp [readWithin, shiftResult, shift, Except.mapError, Frame.inside_missing, Nat.add_right_comm]
  | cons t us ih =>
    rw [readWithin, readWithin, Progress.step_inside]
    by_cases hfull : (Frame.full capacity frames && t.kind != .closeParen) = true
    · simp [hfull, shiftResult, shift, Except.mapError, ParseError.inside, Nat.add_right_comm]
    · rw [Bool.not_eq_true] at hfull
      simp only [hfull, Bool.false_eq_true, if_false]
      cases hstep : Progress.step (limit - d) depth frames t with
      | error cause =>
        simp [Except.mapError, shiftResult, shift, Nat.add_right_comm]
      | ok p =>
        cases p with
        | done v => simp [shiftResult, shift, Except.mapError, Nat.add_right_comm]
        | within inner =>
          simp only [Except.mapError]
          rw [Nat.add_right_comm]
          exact ih (index + 1) inner

/-! ## Before other tokens -/

/-- The result is settled by the tokens taken: none is missed behind them, and no list that cannot be
held. -/
def Settled : Except ParseError Value → Prop
  | .ok _ => True
  | .error .unexpectedEnd | .error (.missingClose _) | .error (.capacityExceeded _ _) => False
  | .error _ => True

/-- A result that is settled stays the same whatever follows the tokens taken. -/
theorem readWithin_of_settled
    (h : readWithin limit capacity depth frames index us = (result, final))
    (hsettled : Settled result) :
    ∃ used, us = used ++ final.rest ∧ final.index = index + used.length ∧
      ∀ left, readWithin limit capacity depth frames index (used ++ left) =
        (result, { final with rest := left }) := by
  induction us generalizing frames index with
  | nil =>
    -- Something is missed.
    cases h
    cases frames <;> cases hsettled
  | cons t us ih =>
    rw [readWithin] at h
    by_cases hfull : (Frame.full capacity frames && t.kind != .closeParen) = true
    · rw [if_pos hfull] at h
      cases h
      cases hsettled
    · rw [if_neg hfull] at h
      cases hstep : Progress.step limit depth frames t with
      | error cause =>
        rw [hstep] at h
        cases h
        refine ⟨[t], rfl, rfl, ?_⟩
        intro left
        rw [List.singleton_append, readWithin, if_neg hfull, hstep]
      | ok p =>
        rw [hstep] at h
        cases p with
        | done v =>
          cases h
          refine ⟨[t], rfl, rfl, ?_⟩
          intro left
          rw [List.singleton_append, readWithin, if_neg hfull, hstep]
        | within inner =>
          rcases ih h with ⟨used, rfl, hindex, hothers⟩
          refine ⟨t :: used, rfl, ?_, ?_⟩
          · rw [hindex, List.length_cons]
            omega
          · intro left
            rw [List.cons_append, readWithin, if_neg hfull, hstep]
            exact hothers left

/-- A list that is too deep is refused for the limit that was given. -/
theorem limit_of_depthExceeded {c : Cursor} {other position : Int}
    (h : (c.expression limit capacity).1 = .error (.depthExceeded other position)) :
    other = limit := by
  cases failsFor_of_expression h with
  | refused _ hrefused =>
    cases hrefused with
    | tooDeep => rfl
    | noInteger _ hn => simpa using Token.integer_error_cases hn

/-! ## A place in a sequence -/

/-- The cursor in a sequence from which `i` tokens were taken, inside `d` open lists. -/
def ofPlace (tokens : List Token) (i d : Nat) : Cursor :=
  ⟨i, d, tokens.drop i⟩

theorem expression_ofPlace (limit : Int) (capacity : Option Nat) (ts : List Token) (i d : Nat) :
    (ofPlace ts i d).expression limit capacity =
      shiftResult i d ((ofTokens (ts.drop i)).expression (limit - d) capacity) := by
  have hshift := readWithin_shift limit capacity 0 0 i d [] (ts.drop i)
  simpa [expression, ofPlace, ofTokens] using hshift

/-- The tokens that a settled result was read from are those up to where the cursor is then; any others
may stand before and behind them. -/
theorem expression_of_settled {ts : List Token} {i d : Nat}
    (h : (ofPlace ts i d).expression limit capacity = (result, final)) (hsettled : Settled result)
    (before later : List Token) (hbefore : before.length = i) :
    (ofPlace (before ++ ts.extract i final.index ++ later) i d).expression limit capacity =
      (result, { final with rest := later }) := by
  rcases readWithin_of_settled h hsettled with ⟨used, hused, hindex, hothers⟩
  have hextract : ts.extract i final.index = used := by
    have hplace : (ofPlace ts i d).index = i := rfl
    rw [List.extract_eq_take_drop, show ts.drop i = used ++ final.rest from hused, hindex, hplace,
      Nat.add_sub_cancel_left, List.take_left]
  have hdrop : (before ++ used ++ later).drop i = used ++ later := by
    rw [List.append_assoc, ← hbefore, List.drop_left]
  rw [hextract]
  show readWithin limit capacity d [] i ((before ++ used ++ later).drop i) = _
  rw [hdrop]
  exact hothers later

end Cursor

/-- Reading from some place in a sequence is reading from the tokens behind it alone, with the limit
lower by the lists that are open there and both counts from zero. When a value comes out, or what is
wrong is not what follows, the tokens before the place and those behind the ones taken may be replaced
by any others; in particular the value of a token sequence does not depend on what it leaves. -/
theorem expression_local (limit : Int) (capacity : Option Nat) (ts : List Token) (i d : Nat) :
    (Cursor.ofPlace ts i d).expression limit capacity =
      Cursor.shiftResult i d
        ((Cursor.ofTokens (ts.drop i)).expression (limit - d) capacity) ∧
    (∀ other position, ((Cursor.ofPlace ts i d).expression limit capacity).1 =
      .error (.depthExceeded other position) → other = limit) ∧
    (∀ result final, (Cursor.ofPlace ts i d).expression limit capacity = (result, final) →
      Cursor.Settled result → ∀ before later : List Token, before.length = i →
        (Cursor.ofPlace (before ++ ts.extract i final.index ++ later) i d).expression limit capacity =
          (result, { final with rest := later })) ∧
    ∀ (config : Config) (later : List Token), Cursor.Settled (parse config ts) →
      parse config (ts.take (parseFrom config ts).2.index ++ later) = parse config ts := by
  refine ⟨Cursor.expression_ofPlace limit capacity ts i d,
    fun _ _ => Cursor.limit_of_depthExceeded, ?_, ?_⟩
  · intro result final h hsettled before later hbefore
    exact Cursor.expression_of_settled h hsettled before later hbefore
  · intro config later hsettled
    cases hparse : parseFrom config ts with
    | mk result final =>
      have hvalue : parse config ts = result := by rw [parse, hparse]
      rw [hvalue] at hsettled ⊢
      -- The whole sequence is the place at its start.
      have hplace : (Cursor.ofPlace ts 0 0).expression config.maxDepth config.capacity =
          (result, final) := hparse
      have hother := Cursor.expression_of_settled hplace hsettled [] later rfl
      rw [List.nil_append, List.extract_eq_take_drop, List.drop_zero, Nat.sub_zero] at hother
      exact congrArg Prod.fst hother

/-- Inside one list, where two may be open, the second list of `((` is too deep, whatever stands before
and behind the two. -/
theorem local_of_too_deep :
    (Cursor.ofPlace [⟨.number, ['1'], 0⟩, ⟨.openParen, ['('], 2⟩,
        ⟨.openParen, ['('], 3⟩] 1 1).expression 2 none =
          (.error (.depthExceeded 2 3), ⟨3, 3, []⟩) ∧
      ∀ t u : Token, (Cursor.ofPlace [t, ⟨.openParen, ['('], 2⟩,
        ⟨.openParen, ['('], 3⟩, u] 1 1).expression 2 none =
          (.error (.depthExceeded 2 3), ⟨3, 3, [u]⟩) := by
  have hread : (Cursor.ofPlace [⟨.number, ['1'], 0⟩, ⟨.openParen, ['('], 2⟩,
      ⟨.openParen, ['('], 3⟩] 1 1).expression 2 none =
        (.error (.depthExceeded 2 3), ⟨3, 3, []⟩) := by rfl
  refine ⟨hread, fun t u => ?_⟩
  exact (expression_local 2 none _ 1 1).2.2.1 _ _ hread trivial [t] [u] rfl

end SExpr
