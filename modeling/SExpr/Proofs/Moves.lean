import SExpr.Proofs.Scanned
import SExpr.Proofs.Session

/-!
# What a scanner takes

A scanner is asked for runs and strings in any order, wherever it stands and whatever stands there, and
goes on after a refusal. What it takes is the text that it moves over, from where it stands to where it
then stands; only a quote that is supplied is more than that. One move is described for any scanner in
the text. Over a run of moves nothing is left out and nothing taken twice, so what was taken, put
together, is the text up to the offset reached.
-/

namespace SExpr

namespace Scanner

/-! ## One move -/

/-- A turn of a run, with the scanner before and behind it. -/
abbrev Turn :=
  SExpr.Turn Scanner Move Answer

/-- One move. -/
abbrev turn (s : Scanner) (m : Move) : Turn :=
  Turn.of perform s m

/-- The turns of a run. -/
abbrev turns (s : Scanner) (moves : List Move) : List Turn :=
  Turn.all perform s moves

/-- Where a run takes the scanner. -/
abbrev reached (s : Scanner) (moves : List Move) : Scanner :=
  Turn.reached perform s moves

/-- What is taken from `start` to `stop` is the longest run of the characters with the property. -/
structure TakesRun (src : Text) (p : Char → Bool) (start stop : Nat) (taken : Text) : Prop where
  taken_eq : taken = src.extract start stop
  holds : ∀ c ∈ taken, p c = true
  stops : ∀ c ∈ src[stop]?, p c = false

/-- No quote stands behind the character at the offset. -/
def Unclosed (src : Text) (start : Nat) : Prop :=
  '"' ∉ src.drop (start + 1)

instance (src : Text) (start : Nat) : Decidable (Unclosed src start) :=
  inferInstanceAs (Decidable ('"' ∉ src.drop (start + 1)))

/-- What is taken from `start` to `stop` is a string: it ends with a quote, and holds no other one unless
it starts with it. The last quote stands behind the first character, or is supplied if the text has none
there; then the string takes all that is left. -/
structure TakesString (src : Text) (start stop : Nat) (taken : Text) : Prop where
  last : taken.getLast? = some '"'
  inside : '"' ∉ taken.tail.dropLast
  closed : ¬ Unclosed src start → start + 1 < stop ∧ taken = src.extract start stop
  unclosed : Unclosed src start → stop = src.length ∧ taken = src.extract start stop ++ ['"']

namespace Turn

/-- The scanner moves as the answer says: a question and a refusal leave it where it is, a run and a
string are taken from there on. Only at the end nothing can be looked at, and only a strict scanner
refuses a string, one that is not closed. No other answers are given. -/
def Accounted (src : Text) (x : Turn) : Prop :=
  match x.move, x.answer with
  | .atEnd, .flag value => x.after = x.before ∧ (value = true ↔ x.before.offset = src.length)
  | .peek, .text taken =>
    x.after = x.before ∧ ∃ c, taken = [c] ∧ src[x.before.offset]? = some c
  | .peek, .denied cause =>
    x.after = x.before ∧ cause = .pastText ∧ x.before.offset = src.length
  | .run kind, .text taken =>
    TakesRun src kind.holds x.before.offset x.after.offset taken
  | .string strict, .text taken =>
    TakesString src x.before.offset x.after.offset taken ∧
      (strict = true → ¬ Unclosed src x.before.offset)
  | .string strict, .failed cause =>
    x.after = x.before ∧ strict = true ∧ Unclosed src x.before.offset ∧
      cause = .unterminatedString x.before.offset
  | _, _ => False

/-- What a move takes off the text: its answer, if it is a run or a string, without a supplied quote. -/
def moved (src : Text) (x : Turn) : Text :=
  match x.move, x.answer with
  | .run _, .text taken => taken
  | .string _, .text taken => if Unclosed src x.before.offset then taken.dropLast else taken
  | _, _ => []

end Turn

/-- The scanner stands in the text, with all of it left that is behind its offset. -/
abbrev StandsIn (src : Text) (s : Scanner) : Prop :=
  LeftAt src s.offset s.rest

variable {src taken : Text} {s after : Scanner} {x : Turn}

namespace StandsIn

theorem unclosed_iff (h : s.StandsIn src) : Unclosed src s.offset ↔ '"' ∉ s.rest.tail := by
  rw [Unclosed, h.rest_eq, List.tail_drop]

/-- A run is taken as far as it goes. -/
theorem takeRun (h : s.StandsIn src) (p : Char → Bool) :
    (s.takeRun p).2.StandsIn src ∧ s.offset ≤ (s.takeRun p).2.offset ∧
      TakesRun src p s.offset (s.takeRun p).2.offset (s.takeRun p).1 := by
  have hmoved : (s.takeRun p).2.offset = s.offset + (s.takeRun p).1.length := rfl
  rcases h.advance (takeRun_append p s).symm hmoved with ⟨hnext, htaken⟩
  refine ⟨hnext, Nat.le_add_right .., htaken.symm, ?_, ?_⟩
  · intro c hc
    exact List.mem_takeWhile_imp hc
  · rw [hnext.getElem?_eq]
    exact stop_of_takeRun s

/-- A string is taken through its last quote, or the text to its end. -/
theorem takeString {strict : Bool} (h : s.StandsIn src)
    (htake : s.takeString strict = .ok (taken, after)) :
    after.StandsIn src ∧ s.offset ≤ after.offset ∧ TakesString src s.offset after.offset taken ∧
      (strict = true → ¬ Unclosed src s.offset) := by
  rw [h.unclosed_iff]
  rcases takeString_cases strict s with
    ⟨c, body, rest, hsplit, hbody, hok⟩ | ⟨hnone, hlenient, hstrict⟩
  · cases hok.symm.trans htake
    have hclosed : ¬ '"' ∉ s.rest.tail := by simp [hsplit]
    have hbehind : s.offset + 1 < s.offset + body.length + 2 := by omega
    have hrest : s.rest = (c :: body ++ ['"']) ++ rest := by simp [hsplit]
    have hlength : s.offset + body.length + 2 = s.offset + (c :: body ++ ['"']).length := by
      simp [Nat.add_assoc]
    rcases h.advance hrest hlength with ⟨hnext, htaken⟩
    refine ⟨hnext, by simp [Nat.add_assoc], ⟨List.getLast?_concat .., ?_, ?_, ?_⟩, fun _ => hclosed⟩
    · simpa using hbody
    · exact fun _ => ⟨hbehind, htaken.symm⟩
    · intro hunclosed
      exact absurd (h.unclosed_iff.1 hunclosed) hclosed
  · cases strict with
    | true => cases (hstrict rfl).symm.trans htake
    | false =>
      cases (hlenient rfl).symm.trans htake
      rcases h.advance (List.append_nil s.rest).symm rfl with ⟨hnext, htaken⟩
      refine ⟨hnext, Nat.le_add_right .., ⟨by simp, ?_, ?_, ?_⟩, nofun⟩
      · cases hrest : s.rest with
        | nil => simp
        | cons c left => simpa [hrest] using hnone
      · intro hclosed
        exact absurd (h.unclosed_iff.2 hnone) hclosed
      · exact fun _ => ⟨hnext.eq_nil_iff.1 rfl, by rw [htaken]⟩

/-- Only a strict scanner refuses a string, and only one that is not closed. -/
theorem refuseString {strict : Bool} {cause : LexError} (h : s.StandsIn src)
    (hrefuse : s.takeString strict = .error cause) :
    strict = true ∧ Unclosed src s.offset ∧ cause = .unterminatedString s.offset := by
  rw [h.unclosed_iff]
  rcases takeString_cases strict s with ⟨_, _, _, _, _, hok⟩ | ⟨hnone, hlenient, hstrict⟩
  · cases hok.symm.trans hrefuse
  · cases strict with
    | true =>
      cases (hstrict rfl).symm.trans hrefuse
      exact ⟨rfl, hnone, rfl⟩
    | false => cases (hlenient rfl).symm.trans hrefuse

end StandsIn

/-- A move from a place in the text is accounted for, and leads further on in it, if anywhere. -/
theorem accounted_turn (h : s.StandsIn src) (m : Move) :
    (s.turn m).after.StandsIn src ∧ s.offset ≤ (s.turn m).after.offset ∧
      (s.turn m).Accounted src := by
  cases m with
  | atEnd =>
    have hend : s.atEnd = true ↔ s.offset = src.length :=
      List.isEmpty_iff.trans h.eq_nil_iff
    exact ⟨h, Nat.le_refl _, rfl, hend⟩
  | peek =>
    cases hrest : s.rest with
    | nil =>
      have hturn : s.turn .peek = ⟨s, .peek, .denied .pastText, s⟩ := by
        simp [Turn.of, perform, peek?, hrest]
      rw [hturn]
      exact ⟨h, Nat.le_refl _, rfl, rfl, h.eq_nil_iff.1 hrest⟩
    | cons c left =>
      have hturn : s.turn .peek = ⟨s, .peek, .text [c], s⟩ := by
        simp [Turn.of, perform, peek?, hrest]
      rw [hturn]
      exact ⟨h, Nat.le_refl _, rfl, c, rfl, by rw [h.getElem?_eq, hrest, List.head?_cons]⟩
  | run kind => exact h.takeRun kind.holds
  | string strict =>
    cases htake : s.takeString strict with
    | ok result =>
      rcases result with ⟨taken, after⟩
      have hturn : s.turn (.string strict) = ⟨s, .string strict, .text taken, after⟩ := by
        simp [Turn.of, perform, htake]
      rw [hturn]
      exact h.takeString htake
    | error cause =>
      have hturn : s.turn (.string strict) = ⟨s, .string strict, .failed cause, s⟩ := by
        simp [Turn.of, perform, htake]
      rw [hturn]
      rcases h.refuseString htake with ⟨hstrict, hunclosed, hcause⟩
      exact ⟨h, Nat.le_refl _, rfl, hstrict, hunclosed, hcause⟩

/-- What a move takes off the text is what lies between the scanners. -/
theorem Turn.Accounted.moved_eq (h : x.Accounted src) :
    x.moved src = src.extract x.before.offset x.after.offset := by
  rcases x with ⟨before, move, answer, after⟩
  have hstay : after = before → [] = src.extract before.offset after.offset := by
    rintro rfl
    simp [List.extract_eq_take_drop]
  cases move with
  | atEnd =>
    cases answer with
    | flag value =>
      exact hstay h.1
    | text | denied | failed => cases h
  | peek =>
    cases answer with
    | text taken =>
      exact hstay h.1
    | denied cause =>
      exact hstay h.1
    | flag | failed => cases h
  | run kind =>
    cases answer with
    | text taken => exact TakesRun.taken_eq h
    | flag | denied | failed => cases h
  | string strict =>
    cases answer with
    | text taken =>
      obtain ⟨hstring, _⟩ := h
      by_cases hunclosed : Unclosed src before.offset
      · rcases hstring.unclosed hunclosed with ⟨_, htaken⟩
        simp only [moved, hunclosed, if_true, htaken, List.dropLast_concat]
      · simp only [moved, hunclosed, if_false]
        exact (hstring.closed hunclosed).2
    | failed cause =>
      exact hstay h.1
    | flag | denied => cases h

/-! ## A run -/

/-- Every move of a run is accounted for. -/
theorem accounted_turns (h : s.StandsIn src) (moves : List Move) :
    ∀ x ∈ s.turns moves,
      x.before.offset ≤ x.after.offset ∧ x.after.offset ≤ src.length ∧ x.Accounted src := by
  refine Turn.forall_mem_all (fun s m hs => ?_) h moves
  rcases accounted_turn hs m with ⟨hnext, hle, haccounted⟩
  exact ⟨hnext, hle, hnext.inside, haccounted⟩

/-- What a run takes off the text goes on from where the scanner stood. -/
theorem take_append_moved (h : s.StandsIn src) (moves : List Move) :
    src.take s.offset ++ (s.turns moves).flatMap (Turn.moved src) =
      src.take (s.reached moves).offset := by
  induction moves generalizing s with
  | nil => simp [Turn.all, Turn.reached]
  | cons m moves ih =>
    rcases accounted_turn h m with ⟨hnext, hle, haccounted⟩
    have hmoved : src.take s.offset ++ (s.turn m).moved src =
        src.take (s.turn m).after.offset := by
      have hbetween : (s.turn m).moved src = src.extract s.offset (s.turn m).after.offset :=
        haccounted.moved_eq
      rw [hbetween, List.extract_eq_take_drop, ← List.take_add, Nat.add_sub_cancel' hle]
    calc
      src.take s.offset ++ (s.turns (m :: moves)).flatMap (Turn.moved src) =
          src.take (s.turn m).after.offset ++
            ((s.turn m).after.turns moves).flatMap (Turn.moved src) := by
        rw [turns, Turn.all, List.flatMap_cons, ← List.append_assoc, hmoved]
      _ = src.take (s.reached (m :: moves)).offset := ih hnext

end Scanner

/-- Over any run of moves from the start of a text, every move is accounted for, and the offset never
goes back and stays within the text. What is taken, put together without supplied quotes, is the text up
to the offset reached. -/
theorem scanner_keeps_text (src : Text) (moves : List Scanner.Move) :
    (Scanner.ofText src).run moves =
      ((Scanner.ofText src).turns moves).map (fun x => (x.answer, x.after)) ∧
    (∀ x ∈ (Scanner.ofText src).turns moves,
      x.before.offset ≤ x.after.offset ∧ x.after.offset ≤ src.length ∧ x.Accounted src) ∧
    ((Scanner.ofText src).turns moves).flatMap (Scanner.Turn.moved src) =
      src.take ((Scanner.ofText src).reached moves).offset := by
  have hstart : (Scanner.ofText src).StandsIn src := LeftAt.start src
  exact ⟨Turn.session_eq _ moves, Scanner.accounted_turns hstart moves,
    Scanner.take_append_moved hstart moves⟩

/-- In `a"b` a string may start at the letter and ends at the quote; the next one is refused by a strict
scan, though a run may be taken there. At the end a lenient scan still gives a quote. -/
theorem scanner_keeps_quote_behind_letter :
    let src : Text := ['a', '"', 'b']
    let moves : List Scanner.Move := [.string true, .string true, .run .letter, .string false]
    (∃ x ∈ (Scanner.ofText src).turns moves,
      x.before.offset = 2 ∧ x.move = .string true ∧
        x.answer = .failed (.unterminatedString 2) ∧ x.Accounted src) ∧
    ((Scanner.ofText src).turns moves).flatMap (Scanner.Turn.moved src) = src := by
  intro src moves
  have hrefused : (⟨⟨2, ['b']⟩, .string true, .failed (.unterminatedString 2), ⟨2, ['b']⟩⟩ :
      Scanner.Turn) ∈ (Scanner.ofText src).turns moves := by
    decide +kernel
  have hreached : ((Scanner.ofText src).reached moves).offset = 3 := by
    decide +kernel
  refine ⟨⟨_, hrefused, rfl, rfl, rfl, ((scanner_keeps_text src moves).2.1 _ hrefused).2.2⟩, ?_⟩
  rw [(scanner_keeps_text src moves).2.2, hreached]
  rfl

end SExpr
