import Mathlib.Algebra.BigOperators.Group.List.Basic
import SExpr.Proofs.Outcome
import SExpr.Proofs.Session

/-!
# What a cursor counts

A cursor is asked one thing after the other, and goes on after a failure from where it then stands. The
number of tokens taken only grows. The number of open lists is not set back when reading fails, so it
counts the lists that failed readings have left open, and nothing else: it is the sum of what each of
them leaves. One move is described for any cursor, a run follows by induction on its moves.
-/

namespace SExpr

/-- How many lists a failed reading leaves open that has taken the tokens: those that they open and do
not close, but none where reading had not begun. -/
def ParseError.leavesOpen (taken : List Token) : ParseError → Int
  | .unexpectedEnd | .unexpectedToken _ => 0
  | _ => level taken

namespace Token.Refused

variable {limit height : Int} {t : Token} {cause : ParseError}

/-- A token that is refused leaves all lists open that were opened. -/
theorem leavesOpen (h : t.Refused limit height cause) (taken : List Token) :
    cause.leavesOpen taken = level taken := by
  cases h with
  | tooDeep => rfl
  | noInteger _ hn =>
    rcases Token.integer_error_cases hn with ⟨_, rfl⟩ | rfl | ⟨_, rfl⟩ <;> rfl

/-- It closes nothing itself. -/
theorem level_nonneg (h : t.Refused limit height cause) : 0 ≤ level [t] := by
  cases h with
  | tooDeep hkind => simp [Token.level_openParen hkind]
  | noInteger hkind => simp [Token.level_other (t := t) (by simp [hkind]) (by simp [hkind])]

end Token.Refused

namespace Cursor

/-! ## One move -/

/-- A turn of a run, with the cursor before and behind it. -/
abbrev Turn :=
  SExpr.Turn Cursor Move Answer

/-- One move. -/
abbrev turn (limit : Int) (c : Cursor) (m : Move) : Turn :=
  Turn.of (perform limit) c m

/-- The turns of a run. -/
abbrev turns (limit : Int) (c : Cursor) (moves : List Move) : List Turn :=
  Turn.all (perform limit) c moves

/-- Where a run takes the cursor. -/
abbrev reached (limit : Int) (c : Cursor) (moves : List Move) : Cursor :=
  Turn.reached (perform limit) c moves

namespace Turn

/-- The tokens of the sequence that the move takes. -/
def taken (ts : List Token) (x : Turn) : List Token :=
  ts.extract x.before.index x.after.index

/-- How many lists the move leaves open, if it fails. -/
def leftOpen (ts : List Token) (x : Turn) : Int :=
  match x.answer with
  | .failed cause => cause.leavesOpen (x.taken ts)
  | _ => 0

/-- Both counts go on as the move says: a question changes nothing, and neither does a token that is
not there; a token counts once; a value takes tokens and leaves no list open; a reading that fails
leaves open what it has opened and not closed. No other answers are given. -/
def Accounted (ts : List Token) (x : Turn) : Prop :=
  match x.move, x.answer with
  | .peek, .next _ => x.after = x.before
  | .consume, .next (some _) =>
    x.after.index = x.before.index + 1 ∧ x.after.depth = x.before.depth
  | .consume, .failed _ => x.after = x.before
  | .expression, .value _ =>
    x.before.index < x.after.index ∧ x.after.depth = x.before.depth
  | .expression, .failed cause =>
    0 ≤ cause.leavesOpen (x.taken ts) ∧
      (x.after.depth : Int) = x.before.depth + cause.leavesOpen (x.taken ts)
  | _, _ => False

end Turn

/-- The cursor stands in the sequence, with all tokens left that it has not taken. -/
abbrev StandsIn (ts : List Token) (c : Cursor) : Prop :=
  LeftAt ts c.index c.rest

variable {limit : Int} {ts taken : List Token} {c after : Cursor} {x : Turn}

/-- The tokens that reading takes, whether it succeeds or fails, and what it does to the open lists. -/
theorem expression_taken (limit : Int) (c : Cursor) :
    ∃ taken, c.rest = taken ++ (c.expression limit none).2.rest ∧
      (c.expression limit none).2.index = c.index + taken.length ∧
        match (c.expression limit none).1 with
        | .ok _ => taken ≠ [] ∧ (c.expression limit none).2.depth = c.depth
        | .error cause => 0 ≤ cause.leavesOpen taken ∧
            ((c.expression limit none).2.depth : Int) = c.depth + cause.leavesOpen taken := by
  rcases expression_ended limit c with ⟨used, left, hrest, _, hended⟩
  generalize c.expression limit none = result at hended ⊢
  cases hended with
  | value hderives => exact ⟨used, hrest, rfl, hderives.ne_nil, rfl⟩
  | @refused frames _ left t cause reached hopened hrefused hreached =>
    refine ⟨used ++ [t], by simpa using hrest, by simp [Nat.add_assoc], ?_⟩
    have hlevel : level (used ++ [t]) = frames.length + level [t] := by
      rw [level_append, hopened.level_eq]
    have hnonneg := hrefused.level_nonneg
    simp only [hrefused.leavesOpen]
    exact ⟨by omega, hreached⟩
  | @closing left t =>
    exact ⟨[t], by simpa using hrest, rfl, Int.le_refl 0, by simp [ParseError.leavesOpen]⟩
  | @missing frames _ hopened =>
    refine ⟨used, hrest, rfl, ?_⟩
    cases frames with
    | nil => simp [Frame.missing, ParseError.leavesOpen]
    | cons inner outer =>
      simp only [Frame.missing, ParseError.leavesOpen, hopened.level_eq]
      exact ⟨Int.natCast_nonneg _, Int.natCast_add ..⟩

/-- A move from a place in the sequence is accounted for, and leads further on in it, if anywhere. -/
theorem accounted_turn (h : c.StandsIn ts) (m : Move) :
    (c.turn limit m).after.StandsIn ts ∧ c.index ≤ (c.turn limit m).after.index ∧
      (c.turn limit m).Accounted ts := by
  cases m with
  | peek => exact ⟨h, Nat.le_refl _, rfl⟩
  | consume =>
    rcases c with ⟨index, depth, rest⟩
    cases rest with
    | nil => exact ⟨h, Nat.le_refl _, rfl⟩
    | cons t rest =>
      let after : Cursor := ⟨index + 1, depth, rest⟩
      have hrest : t :: rest = [t] ++ after.rest := rfl
      exact ⟨(h.advance hrest rfl).1, Nat.le_succ _, rfl, rfl⟩
  | expression =>
    rcases expression_taken limit c with ⟨taken, hrest, hindex, hdepth⟩
    rcases h.advance hrest hindex with ⟨hnext, htaken⟩
    cases hread : c.expression limit none with
    | mk result after =>
      rw [hread] at hrest hindex hdepth hnext htaken
      cases result with
      | ok v =>
        have hturn : c.turn limit .expression = ⟨c, .expression, .value v, after⟩ := by
          simp [Turn.of, perform, hread]
        have hcount : after.index = c.index + taken.length := hindex
        have hpos : 0 < taken.length := List.length_pos_of_ne_nil hdepth.1
        have hlt : c.index < after.index := by omega
        rw [hturn]
        exact ⟨hnext, Nat.le_of_lt hlt, hlt, hdepth.2⟩
      | error cause =>
        have hturn : c.turn limit .expression = ⟨c, .expression, .failed cause, after⟩ := by
          simp [Turn.of, perform, hread]
        have hcount : after.index = c.index + taken.length := hindex
        have hle : c.index ≤ after.index := by omega
        rw [hturn]
        refine ⟨hnext, hle, ?_⟩
        simpa [Turn.Accounted, Turn.taken, htaken] using hdepth

/-- Only a reading that fails leaves lists open; every other move leaves their number as it is. -/
theorem Turn.Accounted.leftOpen_cases (h : x.Accounted ts) :
    (x.leftOpen ts = 0 ∧ x.after.depth = x.before.depth) ∨
      x.move = .expression ∧ (∃ cause, x.answer = .failed cause) ∧
        (x.after.depth : Int) = x.before.depth + x.leftOpen ts := by
  rcases x with ⟨before, move, answer, after⟩
  cases move with
  | peek =>
    cases answer with
    | next t? =>
      cases h
      exact .inl ⟨rfl, rfl⟩
    | value | failed => cases h
  | consume =>
    cases answer with
    | next t? =>
      cases t? with
      | none => cases h
      | some t => exact .inl ⟨rfl, h.2⟩
    | value => cases h
    | failed cause =>
      -- Nothing was taken, so nothing was opened.
      cases h
      have hnone : cause.leavesOpen [] = 0 := by cases cause <;> rfl
      exact .inl ⟨by simp [leftOpen, taken, hnone], rfl⟩
  | expression =>
    cases answer with
    | next => cases h
    | value v => exact .inl ⟨rfl, h.2⟩
    | failed cause => exact .inr ⟨rfl, ⟨cause, rfl⟩, h.2⟩

/-- What a move adds to the number of open lists is what it leaves open. -/
theorem Turn.Accounted.depth_eq (h : x.Accounted ts) :
    (x.after.depth : Int) = x.before.depth + x.leftOpen ts := by
  rcases h.leftOpen_cases with ⟨hnone, hdepth⟩ | ⟨_, _, hdepth⟩
  · rw [hnone, hdepth, Int.add_zero]
  · exact hdepth

/-! ## A run -/

/-- Every move of a run is accounted for. -/
theorem accounted_turns (h : c.StandsIn ts) (moves : List Move) :
    ∀ x ∈ c.turns limit moves,
      x.before.index ≤ x.after.index ∧ x.after.index ≤ ts.length ∧ x.Accounted ts := by
  refine Turn.forall_mem_all (fun c m hc => ?_) h moves
  rcases accounted_turn hc m with ⟨hnext, hle, haccounted⟩
  exact ⟨hnext, hle, hnext.inside, haccounted⟩

theorem depth_reached (h : c.StandsIn ts) (moves : List Move) :
    ((c.reached limit moves).depth : Int) =
      c.depth + ((c.turns limit moves).map (Turn.leftOpen ts)).sum := by
  induction moves generalizing c with
  | nil => simp [Turn.reached, Turn.all]
  | cons m moves ih =>
    rcases accounted_turn h m with ⟨hnext, _, haccounted⟩
    have hfirst : ((c.turn limit m).after.depth : Int) = c.depth + (c.turn limit m).leftOpen ts :=
      haccounted.depth_eq
    have hturns : c.turns limit (m :: moves) =
        c.turn limit m :: (c.turn limit m).after.turns limit moves := rfl
    calc
      ((c.reached limit (m :: moves)).depth : Int) =
          (c.turn limit m).after.depth +
            (((c.turn limit m).after.turns limit moves).map (Turn.leftOpen ts)).sum := ih hnext
      _ = c.depth + ((c.turns limit (m :: moves)).map (Turn.leftOpen ts)).sum := by
        rw [hfirst, hturns, List.map_cons, List.sum_cons, Int.add_assoc]

/-- A run in which no reading fails leaves no list open. -/
theorem sum_leftOpen_eq_zero (h : c.StandsIn ts) (moves : List Move)
    (hnone : ∀ x ∈ c.turns limit moves, x.move = .expression → ∀ cause, x.answer ≠ .failed cause) :
    ((c.turns limit moves).map (Turn.leftOpen ts)).sum = 0 := by
  apply List.sum_eq_zero
  intro n hn
  rcases List.mem_map.1 hn with ⟨x, hx, rfl⟩
  rcases (accounted_turns h moves x hx).2.2.leftOpen_cases with
    ⟨hzero, _⟩ | ⟨hmove, ⟨cause, hfailed⟩, _⟩
  · exact hzero
  · exact absurd hfailed (hnone x hx hmove cause)

end Cursor

/-- Over any run of moves from the start of a sequence, every move is accounted for, the number of
tokens taken only grows, and it stays within the sequence. The number of open lists behind the run is
the sum of those that its failed readings have left open; it is zero when none has failed. -/
theorem run_accounts (limit : Int) (ts : List Token) (moves : List Cursor.Move) :
    (Cursor.ofTokens ts).run limit moves =
      ((Cursor.ofTokens ts).turns limit moves).map (fun x => (x.answer, x.after)) ∧
    (∀ x ∈ (Cursor.ofTokens ts).turns limit moves,
      x.before.index ≤ x.after.index ∧ x.after.index ≤ ts.length ∧ x.Accounted ts) ∧
    (((Cursor.ofTokens ts).reached limit moves).depth : Int) =
      (((Cursor.ofTokens ts).turns limit moves).map (Cursor.Turn.leftOpen ts)).sum ∧
    0 ≤ (((Cursor.ofTokens ts).turns limit moves).map (Cursor.Turn.leftOpen ts)).sum ∧
    ((∀ x ∈ (Cursor.ofTokens ts).turns limit moves, x.move = .expression →
      ∀ cause, x.answer ≠ .failed cause) →
        ((Cursor.ofTokens ts).reached limit moves).depth = 0) := by
  have hstart : (Cursor.ofTokens ts).StandsIn ts := LeftAt.start ts
  have hdepth : (((Cursor.ofTokens ts).reached limit moves).depth : Int) =
      (((Cursor.ofTokens ts).turns limit moves).map (Cursor.Turn.leftOpen ts)).sum := by
    rw [Cursor.depth_reached hstart]
    exact Int.zero_add _
  refine ⟨Turn.session_eq _ moves, Cursor.accounted_turns hstart moves, hdepth, ?_, ?_⟩
  · rw [← hdepth]
    exact Int.natCast_nonneg _
  · intro hnone
    rw [Cursor.sum_leftOpen_eq_zero hstart moves hnone] at hdepth
    exact Int.natCast_eq_zero.1 hdepth

/-- Taking the parentheses of a list by hand and its item as a value leaves no list open, though a last
token is missed. Under limit one, `(()` leaves two lists open, and the parenthesis then not expected
adds nothing. -/
theorem accounts_of_parentheses :
    let ts : List Token := [⟨.openParen, ['('], 0⟩, ⟨.string, [], 1⟩, ⟨.closeParen, [')'], 3⟩]
    let moves : List Cursor.Move := [.consume, .expression, .peek, .consume, .consume]
    let us : List Token := [⟨.openParen, ['('], 0⟩, ⟨.openParen, ['('], 1⟩, ⟨.closeParen, [')'], 2⟩]
    (∀ x ∈ (Cursor.ofTokens ts).turns 0 moves,
      x.move = .expression → ∀ cause, x.answer ≠ .failed cause) ∧
    ((Cursor.ofTokens ts).reached 0 moves).depth = 0 ∧
    (((Cursor.ofTokens us).reached 1 [.expression, .expression]).depth : Int) = 2 := by
  intro ts moves us
  have hread : ∀ x ∈ (Cursor.ofTokens ts).turns 0 moves,
      x.move = .expression → x.answer = .value (.atom (.str [])) := by decide
  have hnone : ∀ x ∈ (Cursor.ofTokens ts).turns 0 moves,
      x.move = .expression → ∀ cause, x.answer ≠ .failed cause := by
    intro x hx hmove cause hfailed
    rw [hread x hx hmove] at hfailed
    cases hfailed
  refine ⟨hnone, (run_accounts 0 ts moves).2.2.2.2 hnone, ?_⟩
  rw [(run_accounts 1 us _).2.2.1]
  rfl

end SExpr
