import SExpr.Proofs.Level

/-!
# Where a cursor stops

A cursor that reads a value takes tokens until the value is complete, a token is refused or none is
left. Which of these happens, and at which token, can be told from the levels of the tokens alone,
without a stack: the value ends where the level first falls back to zero, a token before that is
refused for its own level and text, and what stays open is the innermost list that the level never
falls below again.

`Ended` says how a run of the cursor ends in terms of the open lists; the levels replace these at the
end.
-/

namespace SExpr

/-! ## Refused tokens -/

namespace Token

variable {limit height : Int} {depth j : Nat} {t : Token} {ts us : List Token}
  {cause cause' : ParseError}

/-- Why a token is refused behind which as many lists would be open as the height says: it opens one
too many, or it is a number without an integer. -/
inductive Refused (limit height : Int) (t : Token) : ParseError → Prop where
  | tooDeep : t.kind = .openParen → limit < height →
      Refused limit height t (.depthExceeded limit t.position)
  | noInteger {cause : ParseError} : t.kind = .number → t.integer = .error cause →
      Refused limit height t cause

theorem Refused.unique (h : t.Refused limit height cause) (h' : t.Refused limit height cause') :
    cause = cause' := by
  cases h with
  | tooDeep hkind =>
    cases h' with
    | tooDeep => rfl
    | noInteger hnumber =>
      rw [hkind] at hnumber
      cases hnumber
  | noInteger hnumber hcause =>
    cases h' with
    | tooDeep hkind =>
      rw [hkind] at hnumber
      cases hnumber
    | noInteger _ hcause' => simpa [hcause] using hcause'

/-- The token at the index is refused, if the sequence stands inside `depth` open lists. -/
def Offends (limit : Int) (depth : Nat) (ts : List Token) (j : Nat) (cause : ParseError) : Prop :=
  ∃ t, ts[j]? = some t ∧ t.Refused limit (depth + levelAt ts j) cause

/-- None of the tokens is refused. -/
def Accepted (limit : Int) (depth : Nat) (ts : List Token) : Prop :=
  ∀ j cause, ¬ Offends limit depth ts j cause

theorem Offends.lt_length (h : Offends limit depth ts j cause) : j < ts.length := by
  rcases h with ⟨t, ht, _⟩
  exact (List.getElem?_eq_some_iff.1 ht).1

theorem Offends.unique (h : Offends limit depth ts j cause) (h' : Offends limit depth ts j cause') :
    cause = cause' := by
  rcases h with ⟨t, ht, hrefused⟩
  rcases h' with ⟨u, hu, hrefused'⟩
  obtain rfl : t = u := Option.some.inj (ht.symm.trans hu)
  exact hrefused.unique hrefused'

theorem offends_append_left (hj : j < ts.length) :
    Offends limit depth (ts ++ us) j cause ↔ Offends limit depth ts j cause := by
  unfold Offends
  rw [List.getElem?_append_left hj, levelAt_append_left hj]

theorem offends_append_cons :
    Offends limit depth (ts ++ t :: us) ts.length cause ↔
      t.Refused limit (depth + level (ts ++ [t])) cause := by
  unfold Offends
  rw [levelAt_append_cons]
  simp

theorem accepted_nil : Accepted limit depth [] := by
  intro j cause h
  exact absurd h.lt_length (Nat.not_lt_zero j)

/-- What follows accepted tokens makes none of them refused. -/
theorem Accepted.append_left (h : Accepted limit depth ts) (us : List Token) (hj : j < ts.length) :
    ¬ Offends limit depth (ts ++ us) j cause := by
  rw [offends_append_left hj]
  exact h j cause

theorem Accepted.concat (h : Accepted limit depth ts)
    (ht : ∀ cause, ¬ t.Refused limit (depth + level (ts ++ [t])) cause) :
    Accepted limit depth (ts ++ [t]) := by
  intro j cause hoffends
  have hlt := hoffends.lt_length
  rw [List.length_append, List.length_singleton] at hlt
  rcases Nat.lt_or_ge j ts.length with hj | hj
  · exact h j cause ((offends_append_left hj).1 hoffends)
  · obtain rfl : j = ts.length := by omega
    exact ht cause (offends_append_cons.1 hoffends)

end Token

/-- What a token is refused for at a step: its level or text, or that it closes what is not open. -/
theorem Progress.step_eq_error_iff {limit : Int} {depth : Nat} {frames : List Frame} {t : Token}
    {cause : ParseError} :
    step limit depth frames t = .error cause ↔
      t.Refused limit (depth + (frames.length + level [t])) cause ∨
        t.kind = .closeParen ∧ frames = [] ∧ cause = .unexpectedToken t := by
  constructor
  · intro h
    unfold step at h
    split at h
    · next hkind =>
      split at h
      · next hdeep =>
        cases h
        refine .inl (.tooDeep hkind ?_)
        rw [Token.level_openParen hkind]
        omega
      · cases h
    · next hkind =>
      cases frames with
      | nil =>
        cases h
        exact .inr ⟨hkind, rfl, rfl⟩
      | cons => cases h
    · next hkind =>
      cases hn : t.integer with
      | ok n =>
        rw [hn] at h
        cases h
      | error e =>
        rw [hn] at h
        cases h
        exact .inl (.noInteger hkind hn)
    · cases h
    · cases h
    · cases h
  · rintro (hrefused | ⟨hkind, rfl, rfl⟩)
    · cases hrefused with
      | tooDeep hkind hdeep =>
        rw [Token.level_openParen hkind] at hdeep
        have hlimit : limit < depth + frames.length + 1 := by omega
        simp [step, hkind, hlimit]
      | noInteger hkind hn => simp [step, hkind, hn, Except.map]
    · simp [step, hkind]

/-! ## How a run ends -/

namespace Cursor

variable {limit : Int} {capacity : Option Nat} {depth start : Nat} {frames : List Frame}
  {taken us : List Token}

/-- How a run ends that has taken tokens from the index `start` on and leaves others: with a value,
with a token that is refused, with a closing parenthesis where a value is wanted, or without tokens
while lists are open. -/
inductive Ended (limit : Int) (depth start : Nat) :
    (taken left : List Token) → Except ParseError Value × Cursor → Prop where
  | value {taken left : List Token} {v : Value} : Derives taken v →
      Ended limit depth start taken left (.ok v, ⟨start + taken.length, depth, left⟩)
  | refused {frames : List Frame} {taken left : List Token} {t : Token} {cause : ParseError}
      {reached : Nat} :
      Opened frames taken → t.Refused limit (depth + level (taken ++ [t])) cause →
      (reached : Int) = depth + level (taken ++ [t]) →
      Ended limit depth start taken (t :: left)
        (.error cause, ⟨start + taken.length + 1, reached, left⟩)
  | closing {left : List Token} {t : Token} : t.kind = .closeParen →
      Ended limit depth start [] (t :: left) (.error (.unexpectedToken t), ⟨start + 1, depth, left⟩)
  | missing {frames : List Frame} {taken : List Token} : Opened frames taken →
      Ended limit depth start taken []
        (.error (Frame.missing frames), ⟨start + taken.length, depth + frames.length, []⟩)

/-- Every run ends in one of these ways, and it has refused no token before. -/
theorem ended_of_readWithin (hopened : Opened frames taken)
    (haccepted : Token.Accepted limit depth taken) :
    ∃ used left, us = used ++ left ∧ Token.Accepted limit depth (taken ++ used) ∧
      Ended limit depth start (taken ++ used) left
        (readWithin limit none depth frames (start + taken.length) us) := by
  -- By induction on the tokens; the step decides whether the run goes on with one more taken.
  induction us generalizing frames taken with
  | nil =>
    refine ⟨[], [], rfl, ?_, ?_⟩
    · rwa [List.append_nil]
    · rw [List.append_nil]
      exact .missing hopened
  | cons t us ih =>
    have hlevel : level (taken ++ [t]) = frames.length + level [t] := by
      rw [level_append, hopened.level_eq]
    have hfree : (Frame.full none frames && t.kind != .closeParen) = false := by simp [Frame.full]
    rw [readWithin, hfree]
    simp only [Bool.false_eq_true, if_false]
    cases hstep : Progress.step limit depth frames t with
    | error cause =>
      refine ⟨[], t :: us, rfl, ?_, ?_⟩
      · rwa [List.append_nil]
      rw [List.append_nil]
      rcases Progress.step_eq_error_iff.1 hstep with hrefused | ⟨hkind, rfl, rfl⟩
      · refine .refused hopened (by rwa [hlevel]) ?_
        rw [hlevel]
        cases hrefused with
        | tooDeep hkind => simp [hkind, Token.level_openParen hkind, Int.add_assoc]
        | noInteger hkind =>
          simp [hkind, Token.level_other (t := t) (by simp [hkind]) (by simp [hkind])]
      · -- Without open lists nothing has been taken.
        cases hopened
        simpa [hkind] using Ended.closing hkind
    | ok p =>
      have hnot : ∀ cause, ¬ t.Refused limit (depth + level (taken ++ [t])) cause := by
        intro cause hrefused
        rw [hlevel] at hrefused
        rw [Progress.step_eq_error_iff.2 (.inl hrefused)] at hstep
        cases hstep
      have hnext : Token.Accepted limit depth (taken ++ [t]) := haccepted.concat hnot
      have hafter : p.After (taken ++ [t]) := hopened.step hstep
      cases p with
      | done v =>
        refine ⟨[t], us, rfl, hnext, ?_⟩
        simpa [Nat.add_assoc] using (Ended.value hafter : Ended limit depth start _ us _)
      | within inner =>
        rcases ih hafter hnext with ⟨used, left, rfl, hall, hended⟩
        refine ⟨t :: used, left, rfl, by simpa using hall, ?_⟩
        simpa [Nat.add_assoc] using hended

/-- So does every reading of a value, wherever the cursor stands. -/
theorem expression_ended (limit : Int) (c : Cursor) :
    ∃ used left, c.rest = used ++ left ∧ Token.Accepted limit c.depth used ∧
      Ended limit c.depth c.index used left (c.expression limit none) :=
  ended_of_readWithin .nil Token.accepted_nil

theorem expression_capacity (limit : Int) (capacity : Option Nat) (c : Cursor) :
    (∃ d p, (c.expression limit capacity).1 = .error (.capacityExceeded d p)) ∨
      c.expression limit capacity = c.expression limit none :=
  readWithin_capacity c.rest

theorem expression_eq_of_hasRoom {c : Cursor} (hroom : c.HasRoom limit capacity) :
    c.expression limit capacity = c.expression limit none := by
  rcases expression_capacity limit capacity c with ⟨d, p, hstop⟩ | heq
  · exact absurd hstop (hroom d p)
  · exact heq

theorem step_ne_capacityExceeded {t : Token} {d : Nat} {p : Int} :
    Progress.step limit depth frames t ≠ .error (.capacityExceeded d p) := by
  intro h
  rcases Progress.step_eq_error_iff.1 h with hrefused | ⟨_, _, hcause⟩
  · cases hrefused with
    | noInteger _ hn => simpa using Token.integer_error_cases hn
  · cases hcause

/-- A run that may not open more lists than it can hold never meets that bound. -/
theorem readWithin_ne_capacityExceeded (h : ∀ n ∈ capacity, 0 < n ∧ limit < n)
    (hbounded : Frame.Bounded limit capacity depth frames) (index d : Nat) (p : Int) :
    (readWithin limit capacity depth frames index us).1 ≠ .error (.capacityExceeded d p) := by
  induction us generalizing frames index with
  | nil =>
    intro hfull
    cases frames <;> cases hfull
  | cons t us ih =>
    -- As many lists are open as the limit allows at most, and that is less than can be held.
    have hroom : ∀ n ∈ capacity, frames.length < n := by
      intro n hn
      rcases h n hn with ⟨hpos, hlt⟩
      cases frames with
      | nil => exact hpos
      | cons inner outer =>
        have hle := hbounded.2.1
        rw [List.length_cons]
        omega
    rw [readWithin, not_full_iff.2 hroom]
    simp only [Bool.false_and, Bool.false_eq_true, if_false]
    cases hstep : Progress.step limit depth frames t with
    | error cause =>
      intro hfull
      cases hfull
      exact step_ne_capacityExceeded hstep
    | ok progress =>
      have hnext := hbounded.step (fun _ => hroom) hstep
      cases progress with
      | done v =>
        intro hfull
        cases hfull
      | within inner => exact ih hnext (index + 1)

theorem hasRoom_of_limit_lt (h : ∀ n ∈ capacity, 0 < n ∧ limit < n) (c : Cursor) :
    c.HasRoom limit capacity := by
  have hbounded : Frame.Bounded limit capacity c.depth [] := trivial
  exact readWithin_ne_capacityExceeded h hbounded c.index

/-- Why reading a value from the tokens fails. -/
inductive FailsFor (limit : Int) (ts : List Token) : ParseError → Prop where
  | full {depth : Nat} {position : Int} : FailsFor limit ts (.capacityExceeded depth position)
  | atEnd : ts = [] → FailsFor limit ts .unexpectedEnd
  | closing {t : Token} {left : List Token} : ts = t :: left → t.kind = .closeParen →
      FailsFor limit ts (.unexpectedToken t)
  | unclosed {inner : Frame} {outer : List Frame} : Opened (inner :: outer) ts →
      FailsFor limit ts (.missingClose inner.opened)
  | refused {t : Token} {height : Int} {cause : ParseError} : t ∈ ts →
      t.Refused limit height cause → FailsFor limit ts cause

theorem failsFor_of_expression {c : Cursor} {cause : ParseError}
    (h : (c.expression limit capacity).1 = .error cause) : FailsFor limit c.rest cause := by
  rcases expression_capacity limit capacity c with ⟨d, p, hstop⟩ | heq
  · rw [hstop] at h
    cases h
    exact .full
  · rcases expression_ended limit c with ⟨used, left, hrest, _, hended⟩
    rw [heq] at h
    generalize c.expression limit none = result at h hended
    rw [hrest]
    cases hended with
    | value => cases h
    | refused _ hrefused =>
      cases h
      exact .refused (by simp) hrefused
    | closing hkind =>
      cases h
      exact .closing rfl hkind
    | @missing frames _ hopened =>
      cases h
      rw [List.append_nil]
      cases frames with
      | nil =>
        cases hopened
        exact .atEnd rfl
      | cons inner outer => exact .unclosed hopened

end Cursor

/-! ## The end of a value -/

namespace Token

variable {ts : List Token} {n : Nat}

/-- The index at which the value ends that the tokens start with: the first one where the level is not
above zero, or the last one at all. -/
def extent (ts : List Token) : Nat :=
  ((List.range ts.length).find? fun j => levelAt ts j ≤ 0).getD (ts.length - 1)

theorem extent_spec (hts : ts ≠ []) :
    extent ts < ts.length ∧ (∀ j < extent ts, 0 < levelAt ts j) ∧
      (levelAt ts (extent ts) ≤ 0 ∨ extent ts + 1 = ts.length) := by
  have hlength : 0 < ts.length := List.length_pos_of_ne_nil hts
  unfold extent
  cases hfind : (List.range ts.length).find? fun j => levelAt ts j ≤ 0 with
  | none =>
    have hpos : ∀ j < ts.length, 0 < levelAt ts j := by
      simpa using hfind
    refine ⟨?_, ?_, .inr ?_⟩
    · simp only [Option.getD_none]
      omega
    · intro j hj
      simp only [Option.getD_none] at hj
      exact hpos j (by omega)
    · simp only [Option.getD_none]
      omega
  | some n =>
    rw [List.find?_range_eq_some] at hfind
    rcases hfind with ⟨hlow, hmem, hbefore⟩
    refine ⟨by simpa using hmem, ?_, .inl (by simpa using hlow)⟩
    intro j hj
    simpa using hbefore j hj

/-- The value ends no sooner than the level is above zero. -/
theorem le_extent (hn : n < ts.length) (hpos : ∀ j < n, 0 < levelAt ts j) : n ≤ extent ts := by
  rcases extent_spec (List.ne_nil_of_length_pos (Nat.zero_lt_of_lt hn)) with ⟨_, _, hend⟩
  by_contra hlt
  have hbefore := hpos (extent ts) (by omega)
  omega

theorem extent_eq (hn : n < ts.length) (hpos : ∀ j < n, 0 < levelAt ts j)
    (hend : levelAt ts n ≤ 0 ∨ n + 1 = ts.length) : extent ts = n := by
  rcases extent_spec (List.ne_nil_of_length_pos (Nat.zero_lt_of_lt hn)) with ⟨hlt, hbefore, _⟩
  have hle := le_extent hn hpos
  by_contra hne
  have hlevel := hbefore n (by omega)
  omega

/-- The token at the index opens a list, and the level does not fall below the one reached there. -/
def StaysOpen (ts : List Token) (i : Nat) : Prop :=
  (∃ t, ts[i]? = some t ∧ t.kind = .openParen) ∧
    ∀ k, i ≤ k → k < ts.length → levelAt ts i ≤ levelAt ts k

section Inside

variable {before inside : List Token} {opening : Token}

/-- Behind an opening parenthesis the level is one higher than before it, and goes on from there. -/
theorem levelAt_opening (hkind : opening.kind = .openParen) (k : Nat) :
    levelAt (before ++ opening :: inside) (before.length + k) =
      level before + 1 + level (inside.take k) := by
  rw [levelAt_append_right, levelAt, List.take_succ_cons, level_cons, level_openParen hkind,
    Int.add_assoc]

/-- A list inside which everything is balanced stays open. -/
theorem staysOpen_opening (hkind : opening.kind = .openParen) (hinside : Balanced inside) :
    StaysOpen (before ++ opening :: inside) before.length := by
  refine ⟨⟨opening, by simp, hkind⟩, ?_⟩
  intro k hk _
  obtain ⟨m, rfl⟩ := Nat.exists_eq_add_of_le hk
  have hnonneg := hinside.nonneg m
  have hstart : levelAt (before ++ opening :: inside) before.length = level before + 1 := by
    simpa using levelAt_opening hkind 0
  rw [hstart, levelAt_opening hkind]
  omega

/-- A list that is opened inside it is closed again. -/
theorem not_staysOpen_inside {j : Nat} (hkind : opening.kind = .openParen)
    (hinside : Balanced inside) (hj : before.length < j) :
    ¬ StaysOpen (before ++ opening :: inside) j := by
  rintro ⟨⟨t, ht, hopen⟩, hstays⟩
  obtain ⟨m, rfl⟩ := Nat.exists_eq_add_of_le (Nat.succ_le_of_lt hj)
  have hmem : inside[m]? = some t := by
    rw [← ht, List.getElem?_append_right (by omega), Nat.succ_eq_add_one,
      show before.length + 1 + m - before.length = m + 1 by omega, List.getElem?_cons_succ]
  have hlt : m < inside.length := (List.getElem?_eq_some_iff.1 hmem).1
  -- Its level is one higher than the one before it, and that is not below the one at the end.
  have hlevel : level (inside.take (m + 1)) = level (inside.take m) + 1 := by
    rw [level_take_succ hmem, level_openParen hopen]
  have hnonneg := hinside.nonneg m
  have hlast := hstays (before.length + inside.length) (by omega) (by simp)
  rw [levelAt_opening hkind, show before.length.succ + m = before.length + (m + 1) by omega,
    levelAt_opening hkind, List.take_length, hinside.total, hlevel] at hlast
  omega

end Inside

end Token

/-- What derives a value extends to its last token, where the level is zero. -/
theorem Derives.extent_append {us : List Token} {v : Value} (h : Derives us v)
    (left : List Token) :
    Token.extent (us ++ left) + 1 = us.length ∧
      levelAt (us ++ left) (Token.extent (us ++ left)) = 0 := by
  have hlength : 0 < us.length := List.length_pos_of_ne_nil h.ne_nil
  have hzero : levelAt (us ++ left) (us.length - 1) = 0 := by
    rw [levelAt_append_left (by omega), levelAt_last, h.balanced.total]
  have hextent : Token.extent (us ++ left) = us.length - 1 := by
    refine Token.extent_eq ?_ ?_ (.inl (Int.le_of_eq hzero))
    · rw [List.length_append]
      omega
    · intro j hj
      rw [levelAt_append_left (by omega)]
      exact h.level_pos (Nat.succ_pos j) (by omega)
  rw [hextent]
  exact ⟨Nat.sub_add_cancel hlength, hzero⟩

namespace Opened

variable {frames : List Frame} {taken : List Token}

theorem levelAt_pos (h : Opened frames taken) (us : List Token) :
    ∀ j < taken.length, 0 < levelAt (taken ++ us) j := by
  intro j hj
  rw [levelAt_append_left hj]
  exact h.level_pos (Nat.succ_pos j) hj

theorem length_le_extent (h : Opened frames taken) (t : Token) (us : List Token) :
    taken.length ≤ Token.extent (taken ++ t :: us) :=
  Token.le_extent (by simp) (h.levelAt_pos (t :: us))

/-- While a list is open, a value that is not complete extends to the last token. -/
theorem extent_eq (h : Opened frames taken) (hne : taken ≠ []) :
    Token.extent taken = taken.length - 1 ∧ levelAt taken (Token.extent taken) ≠ 0 := by
  have hlength : 0 < taken.length := List.length_pos_of_ne_nil hne
  have hpos : ∀ j < taken.length, 0 < levelAt taken j := by
    simpa using h.levelAt_pos []
  have hextent : Token.extent taken = taken.length - 1 :=
    Token.extent_eq (by omega) (fun j hj => hpos j (by omega)) (.inr (by omega))
  have hlast := hpos (taken.length - 1) (by omega)
  rw [hextent]
  exact ⟨rfl, by omega⟩

/-- The innermost open list is the last one that stays open. -/
theorem last_staysOpen {inner : Frame} {outer : List Frame} (h : Opened (inner :: outer) taken) :
    ∃ i t, taken[i]? = some t ∧ t.position = inner.opened ∧ Token.StaysOpen taken i ∧
      ∀ j, i < j → ¬ Token.StaysOpen taken j := by
  cases h with
  | @cons _ _ before opening parts houter hkind hposition hparts _ =>
    have hinside := Derives.balanced_items hparts
    exact ⟨before.length, opening, by simp, hposition, Token.staysOpen_opening hkind hinside,
      fun j => Token.not_staysOpen_inside hkind hinside⟩

end Opened

/-! ## The outcome -/

namespace Cursor

variable {limit : Int} {ts : List Token}

/-- The first token that is refused up to the end of the value is where the cursor stops. -/
theorem expression_of_offends {j : Nat} {cause : ParseError}
    (hfirst : ∀ t ∈ ts.head?, t.kind ≠ .closeParen) (hj : j ≤ Token.extent ts)
    (hoffends : Token.Offends limit 0 ts j cause)
    (hleast : ∀ i < j, ∀ e, ¬ Token.Offends limit 0 ts i e) :
    ∃ reached : Nat, (reached : Int) = levelAt ts j ∧
      (ofTokens ts).expression limit none =
        (.error cause, ⟨j + 1, reached, ts.drop (j + 1)⟩) := by
  rcases expression_ended limit (ofTokens ts) with ⟨used, left, hts, haccepted, hended⟩
  generalize (ofTokens ts).expression limit none = result at hended ⊢
  have hsplit : ts = used ++ left := hts
  subst hsplit
  cases hended with
  | value hderives =>
    have hlast := (hderives.extent_append left).1
    exact absurd hoffends (haccepted.append_left left (by omega))
  | @refused frames _ left t cause' reached hopened hrefused hreached =>
    have hend : Token.Offends limit 0 (used ++ t :: left) used.length cause' :=
      Token.offends_append_cons.2 hrefused
    -- The least index is the one where the run ends, and only one cause applies there.
    rcases Nat.lt_trichotomy j used.length with hlt | rfl | hgt
    · exact absurd hoffends (haccepted.append_left _ hlt)
    · have hdrop : (used ++ t :: left).drop (used.length + 1) = left := by
        rw [← List.drop_drop, List.drop_left, List.drop_one, List.tail_cons]
      refine ⟨reached, ?_, ?_⟩
      · rw [hreached, levelAt_append_cons]
        simp [ofTokens]
      · rw [hoffends.unique hend, hdrop, ofTokens, Nat.zero_add]
    · exact absurd hend (hleast _ hgt cause')
  | @closing left t hclose => exact absurd hclose (hfirst t rfl)
  | missing =>
    rw [List.append_nil] at hoffends
    exact absurd hoffends (haccepted j cause)

/-- Where no token is refused, the cursor reads a value that is closed, and otherwise misses a
parenthesis for the last list that stays open. -/
theorem expression_of_none_offends (hne : ts ≠ []) (hfirst : ∀ t ∈ ts.head?, t.kind ≠ .closeParen)
    (hnone : ∀ j ≤ Token.extent ts, ∀ e, ¬ Token.Offends limit 0 ts j e) :
    (levelAt ts (Token.extent ts) = 0 ∧
      ∃ v, (ofTokens ts).expression limit none =
        (.ok v, ⟨Token.extent ts + 1, 0, ts.drop (Token.extent ts + 1)⟩)) ∨
    (levelAt ts (Token.extent ts) ≠ 0 ∧
      ∃ i opening, ts[i]? = some opening ∧ Token.StaysOpen ts i ∧
        (∀ k, i < k → ¬ Token.StaysOpen ts k) ∧
          ∃ reached : Nat, (reached : Int) = levelAt ts (ts.length - 1) ∧
            (ofTokens ts).expression limit none =
              (.error (.missingClose opening.position), ⟨ts.length, reached, []⟩)) := by
  rcases expression_ended limit (ofTokens ts) with ⟨used, left, hts, haccepted, hended⟩
  generalize (ofTokens ts).expression limit none = result at hended ⊢
  have hsplit : ts = used ++ left := hts
  subst hsplit
  cases hended with
  | @value _ _ v hderives =>
    rcases hderives.extent_append left with ⟨hlast, hzero⟩
    refine .inl ⟨hzero, v, ?_⟩
    rw [hlast, List.drop_left, ofTokens, Nat.zero_add]
  | @refused frames _ left t cause reached hopened hrefused _ =>
    have hend : Token.Offends limit 0 (used ++ t :: left) used.length cause :=
      Token.offends_append_cons.2 hrefused
    exact absurd hend (hnone _ (hopened.length_le_extent t left) cause)
  | @closing left t hclose => exact absurd hclose (hfirst t rfl)
  | @missing frames _ hopened =>
    rw [List.append_nil] at hne ⊢
    cases frames with
    | nil =>
      cases hopened
      exact absurd rfl hne
    | cons inner outer =>
      rcases hopened.last_staysOpen with ⟨i, opening, hget, hposition, hstays, hlast⟩
      refine .inr ⟨(hopened.extent_eq hne).2, i, opening, hget, hstays, hlast,
        (inner :: outer).length, ?_, ?_⟩
      · rw [levelAt_last, hopened.level_eq]
      · simp [Frame.missing, hposition, ofTokens]

end Cursor

/-- As long as there is room for the open lists, the levels of the tokens tell how the cursor ends.
Without tokens one is missed, and a closing parenthesis at the start is not expected. Otherwise the
first token that is refused, up to the end of the value, stops the cursor, which then stands right
behind it. If none is refused, a value at whose end the level is zero is read. If that never happens,
a parenthesis is missed for the last list that stays open, and all tokens are taken. The cursor has
counted as many open lists as the level says where it stops. -/
theorem expression_outcome {limit : Int} {capacity : Option Nat} {ts : List Token}
    (hroom : (Cursor.ofTokens ts).HasRoom limit capacity) :
    (ts = [] →
      (Cursor.ofTokens ts).expression limit capacity = (.error .unexpectedEnd, ⟨0, 0, []⟩)) ∧
    (∀ t left, ts = t :: left → t.kind = .closeParen →
      (Cursor.ofTokens ts).expression limit capacity =
        (.error (.unexpectedToken t), ⟨1, 0, left⟩)) ∧
    ∀ t left, ts = t :: left → t.kind ≠ .closeParen →
      (∀ j cause, j ≤ Token.extent ts → Token.Offends limit 0 ts j cause →
        (∀ i < j, ∀ e, ¬ Token.Offends limit 0 ts i e) →
          ∃ reached : Nat, (reached : Int) = levelAt ts j ∧
            (Cursor.ofTokens ts).expression limit capacity =
              (.error cause, ⟨j + 1, reached, ts.drop (j + 1)⟩)) ∧
      ((∀ j ≤ Token.extent ts, ∀ e, ¬ Token.Offends limit 0 ts j e) →
        (levelAt ts (Token.extent ts) = 0 →
          ∃ v, (Cursor.ofTokens ts).expression limit capacity =
            (.ok v, ⟨Token.extent ts + 1, 0, ts.drop (Token.extent ts + 1)⟩)) ∧
        (levelAt ts (Token.extent ts) ≠ 0 →
          ∃ i opening, ts[i]? = some opening ∧ Token.StaysOpen ts i ∧
            (∀ k, i < k → ¬ Token.StaysOpen ts k) ∧
              ∃ reached : Nat, (reached : Int) = levelAt ts (ts.length - 1) ∧
                (Cursor.ofTokens ts).expression limit capacity =
                  (.error (.missingClose opening.position), ⟨ts.length, reached, []⟩))) := by
  rw [Cursor.expression_eq_of_hasRoom hroom]
  refine ⟨?_, ?_, ?_⟩
  · rintro rfl
    rfl
  · rintro t left rfl hkind
    simp [Cursor.expression, Cursor.ofTokens, Cursor.readWithin, Frame.full, hkind,
      Progress.step_eq_error_iff.2 (.inr ⟨hkind, rfl, rfl⟩)]
  rintro first others rfl hkind
  have hfirst : ∀ t ∈ (first :: others).head?, t.kind ≠ .closeParen := by
    intro t ht
    rwa [← Option.some.inj ht]
  refine ⟨fun j cause => Cursor.expression_of_offends hfirst, fun hnone => ?_⟩
  rcases Cursor.expression_of_none_offends (List.cons_ne_nil _ _) hfirst hnone with
    ⟨hzero, hvalue⟩ | ⟨hne, hmissing⟩
  · exact ⟨fun _ => hvalue, fun hne => absurd hzero hne⟩
  · exact ⟨fun hzero => absurd hzero hne, fun _ => hmissing⟩

/-- A list that is too deep comes before a number without digits: the first one refused decides. -/
theorem outcome_of_two_refused :
    (Cursor.ofTokens [⟨.openParen, ['('], 0⟩, ⟨.openParen, ['('], 1⟩,
        ⟨.number, ['x'], 2⟩]).HasRoom 1 (some 2) ∧
      ∃ reached : Nat, (reached : Int) = levelAt ([⟨.openParen, ['('], 0⟩,
          ⟨.openParen, ['('], 1⟩, ⟨.number, ['x'], 2⟩] : List Token) 1 ∧
        (Cursor.ofTokens [⟨.openParen, ['('], 0⟩, ⟨.openParen, ['('], 1⟩,
          ⟨.number, ['x'], 2⟩]).expression 1 (some 2) =
            (.error (.depthExceeded 1 1), ⟨2, reached, [⟨.number, ['x'], 2⟩]⟩) := by
  have hread : (Cursor.ofTokens [⟨.openParen, ['('], 0⟩, ⟨.openParen, ['('], 1⟩,
      ⟨.number, ['x'], 2⟩]).expression 1 (some 2) =
        (.error (.depthExceeded 1 1), ⟨2, 2, [⟨.number, ['x'], 2⟩]⟩) := by rfl
  have hroom : (Cursor.ofTokens [⟨.openParen, ['('], 0⟩, ⟨.openParen, ['('], 1⟩,
      ⟨.number, ['x'], 2⟩]).HasRoom 1 (some 2) := by
    intro depth position h
    rw [hread] at h
    cases h
  have hsecond : Token.Offends 1 0 [⟨.openParen, ['('], 0⟩, ⟨.openParen, ['('], 1⟩,
      ⟨.number, ['x'], 2⟩] 1 (.depthExceeded 1 1) :=
    ⟨⟨.openParen, ['('], 1⟩, rfl, .tooDeep rfl (by decide)⟩
  refine ⟨hroom, ((expression_outcome hroom).2.2 _ _ rfl (by decide)).1 1 _ (by decide) hsecond ?_⟩
  -- The first list is within the limit.
  intro i hi cause hfirst
  obtain rfl : i = 0 := by omega
  rcases hfirst with ⟨t, ht, hrefused⟩
  cases ht
  cases hrefused with
  | tooDeep _ hdeep => exact absurd hdeep (by decide)
  | noInteger hnumber => cases hnumber

end SExpr
