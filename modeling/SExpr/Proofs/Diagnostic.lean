import SExpr.CommandLine.Run
import SExpr.Proofs.Arguments
import SExpr.Proofs.Successive

/-!
# What is told and what escapes

A text that cannot be read is told to the user as a diagnostic, with one exception: a number with so
many leading zeros that it cannot be converted, although what follows them is short enough. Such a
numeral escapes the diagnostics exactly when it is the first token refused; then a command line that
asks for the value ends without an exit code. In every other case it ends with zero or one.
-/

namespace SExpr

/-! ## Faults of numerals -/

/-- The first token of the text that is refused, up to the end of its first value, is a number with too
many leading zeros. -/
def StopsAtPadded (config : Config) (src : Text) : Prop :=
  ∃ ts j t, tokenize config src = .ok ts ∧ j ≤ Token.extent ts ∧ ts[j]? = some t ∧
    t.kind = .number ∧ Numeral.Padded t.text ∧
      ∀ i < j, ∀ e, ¬ Token.Offends config.maxDepth 0 ts i e

/-- The cursor has room for all lists that it comes to open in the text. -/
def HasRoomFor (config : Config) (src : Text) : Prop :=
  ∀ ts, tokenize config src = .ok ts →
    (Cursor.ofTokens ts).HasRoom config.maxDepth config.capacity

/-- Reading gives a value or an error that is told. -/
def Told (config : Config) (src : Text) : Prop :=
  (∃ v, read config src = .ok v) ∨
    ∃ cause d, read config src = .error cause ∧ cause.diagnostic? = .ok d

section Faults

variable {config : Config} {src : Text} {fault : NumeralFault} {ts : List Token}

theorem ParseError.diagnostic?_eq_error_iff {cause : ParseError} :
    cause.diagnostic? = .error fault ↔ cause = .numeral fault := by
  cases cause <;> simp [ParseError.diagnostic?]

theorem ReadError.diagnostic?_eq_error_iff {cause : ReadError} :
    cause.diagnostic? = .error fault ↔ cause = .parse (.numeral fault) := by
  cases cause with
  | lex e => simp [ReadError.diagnostic?]
  | parse e => simp [ReadError.diagnostic?, ParseError.diagnostic?_eq_error_iff]

theorem not_told_iff :
    ¬ Told config src ↔ ∃ fault, read config src = .error (.parse (.numeral fault)) := by
  unfold Told
  cases hread : read config src with
  | ok v => simp
  | error cause =>
    cases hdiagnostic : cause.diagnostic? with
    | ok d =>
      have hnot : ∀ fault, cause ≠ .parse (.numeral fault) := by
        intro fault hcause
        rw [ReadError.diagnostic?_eq_error_iff.2 hcause] at hdiagnostic
        cases hdiagnostic
      simp [hdiagnostic, hnot]
    | error fault =>
      have hcause := ReadError.diagnostic?_eq_error_iff.1 hdiagnostic
      subst hcause
      simp [ReadError.diagnostic?, ParseError.diagnostic?]

theorem read_of_tokenize (h : tokenize config src = .ok ts) :
    read config src = ((Cursor.ofTokens ts).expression config.maxDepth config.capacity).1.mapError
      .parse := by
  unfold read
  rw [h]
  rfl

/-- A fault of a numeral can only be met at a number with too many leading zeros. -/
theorem stopsAtPadded_of_read (h : read config src = .error (.parse (.numeral fault))) :
    StopsAtPadded config src := by
  cases htokens : tokenize config src with
  | error cause =>
    unfold read at h
    rw [htokens] at h
    cases h
  | ok ts =>
    rw [read_of_tokenize htokens] at h
    rcases Cursor.expression_capacity config.maxDepth config.capacity (Cursor.ofTokens ts) with
      ⟨d, p, hstop⟩ | heq
    · rw [hstop] at h
      cases h
    rw [heq] at h
    rcases Cursor.expression_ended config.maxDepth (Cursor.ofTokens ts) with
      ⟨used, left, hts, haccepted, hended⟩
    generalize (Cursor.ofTokens ts).expression config.maxDepth none = result at h hended
    have hsplit : ts = used ++ left := hts
    subst hsplit
    cases hended with
    | value => cases h
    | @refused _ _ left t cause _ hopened hrefused _ =>
      obtain rfl : cause = .numeral fault := by simpa [Except.mapError] using h
      have hmem : t ∈ used ++ t :: left := by simp
      cases hrefused with
      | noInteger hkind hcause =>
        have hspells := spells_of_tokenize htokens t hmem
        rw [hkind] at hspells
        have hpadded : Numeral.Padded t.text := by
          simpa [Numeral.isValid_iff.2 hspells] using
            (Token.integer_error_cases hcause).imp_right fun h => h.imp_right And.left
        refine ⟨_, used.length, t, htokens, hopened.length_le_extent t left, by simp, hkind,
          hpadded, ?_⟩
        intro i hi e
        exact haccepted.append_left _ hi
    | closing => cases h
    | @missing frames _ _ => cases frames <;> cases h

/-- With room for the open lists, such a number is met. -/
theorem read_of_stopsAtPadded (hroom : HasRoomFor config src) (h : StopsAtPadded config src) :
    ∃ fault, read config src = .error (.parse (.numeral fault)) := by
  rcases h with ⟨ts, j, t, htokens, hj, ht, hkind, hpadded, hleast⟩
  have hoffends : Token.Offends config.maxDepth 0 ts j (.numeral (.tooLong t.text.length)) :=
    ⟨t, ht, .noInteger hkind (Token.integer_of_padded hpadded)⟩
  have hfirst : ∀ t ∈ ts.head?, t.kind ≠ .closeParen := by
    intro u hu
    rcases List.head?_eq_some_iff.1 hu with ⟨others, rfl⟩
    exact first_ne_closeParen htokens
  rcases Cursor.expression_of_offends hfirst hj hoffends hleast with ⟨reached, _, hread⟩
  refine ⟨.tooLong t.text.length, ?_⟩
  rw [read_of_tokenize htokens, Cursor.expression_eq_of_hasRoom (hroom ts htokens), hread]
  rfl

theorem told_iff (hroom : HasRoomFor config src) :
    Told config src ↔ ¬ StopsAtPadded config src := by
  rw [← not_iff_not, not_not, not_told_iff]
  exact ⟨fun ⟨_, h⟩ => stopsAtPadded_of_read h, read_of_stopsAtPadded hroom⟩

end Faults

/-! ## How a command line ends -/

namespace CommandLine

/-- The run of the command line ends with an exit code that tells whether the text was read. -/
def Ends (args : List Text) (input : Text) : Prop :=
  ∃ outcome, run args input = .ok outcome ∧ (outcome.exit = 0 ∨ outcome.exit = 1)

variable {o : Options} {args : List Text} {expr src : Text} {fault : NumeralFault}

/-- A command line that holds only an expression asks to read it, without further options. -/
theorem Request.ofTexts_expression (h : expr.head? ≠ some '-') :
    Request.ofTexts [expr] = .run { expression? := some expr } := by
  have hasked : Wish.AskedBy { expression? := some expr } [expr] :=
    ⟨[.expression expr], .refl _, rfl⟩
  exact Wish.ofTexts_of_askedBy hasked (by simpa using h)

/-- Reading as the options say ends with zero or one, or not at all. -/
theorem Options.exit_of_execute {outcome : Outcome} (h : o.execute src = .ok outcome) :
    outcome.exit = 0 ∨ outcome.exit = 1 := by
  unfold execute at h
  cases htokens : tokenize o.config src with
  | error cause =>
    rw [htokens] at h
    cases h
    exact .inr rfl
  | ok ts =>
    rw [htokens] at h
    simp only at h
    split at h
    · cases h
      exact .inl rfl
    · split at h
      · cases h
        exact .inl rfl
      · next cause _ =>
        cases hdiagnostic : cause.diagnostic? with
        | error fault =>
          rw [hdiagnostic] at h
          cases h
        | ok d =>
          rw [hdiagnostic] at h
          cases h
          exact .inr rfl

/-- It does not end at all when a value is asked for and a fault of a numeral is met. -/
theorem Options.execute_eq_error_iff :
    o.execute src = .error fault ↔
      o.tokensOnly = false ∧ read o.config src = .error (.parse (.numeral fault)) := by
  unfold execute read parse
  cases tokenize o.config src with
  | error cause => simp
  | ok ts =>
    cases htokensOnly : o.tokensOnly with
    | true => simp
    | false =>
      cases hresult : (parseFrom o.config ts).1 with
      | ok v => simp [hresult, Except.mapError]
      | error cause =>
        simp only [hresult, Bool.false_eq_true, if_false, true_and, Except.mapError,
          Except.error.injEq, ReadError.parse.injEq]
        rw [← ParseError.diagnostic?_eq_error_iff]
        cases cause.diagnostic? <;> simp [Except.map]

theorem run_of_expression (hargs : Request.ofTexts args = .run o)
    (hexpr : o.expression? = some expr) (input : Text) : run args input = o.execute expr := by
  simp only [run, hargs, Request.needsInput, Request.answer, hexpr, Option.isNone_some,
    Option.getD_some, Bool.false_eq_true, if_false]
  exact congrFun Except.map_id (o.execute expr)

/-- Unless a value is asked for, there is nothing that escapes. -/
theorem ends_iff (hargs : Request.ofTexts args = .run o) (hexpr : o.expression? = some expr)
    (input : Text) : Ends args input ↔ o.tokensOnly = true ∨ Told o.config expr := by
  have hrun := run_of_expression hargs hexpr input
  have hfails : (∃ fault, o.execute expr = .error fault) ↔
      o.tokensOnly = false ∧ ¬ Told o.config expr := by
    simp only [Options.execute_eq_error_iff, not_told_iff, exists_and_left]
  have hends : Ends args input ↔ ¬ ∃ fault, o.execute expr = .error fault := by
    unfold Ends
    rw [hrun]
    cases hexecute : o.execute expr with
    | ok outcome => simp [Options.exit_of_execute hexecute]
    | error fault => simp
  rw [hends, hfails, not_and_not_right, ← Bool.not_eq_true]
  exact Classical.or_iff_not_imp_left.symm

end CommandLine

/-- With no more than 256 lists open there is always room. -/
theorem hasRoomFor_default (src : Text) : HasRoomFor {} src := by
  intro ts _
  refine Cursor.hasRoom_of_limit_lt ?_ (Cursor.ofTokens ts)
  intro n hn
  cases hn
  exact ⟨by decide, by decide⟩

/-! ## A text that is a number -/

section Digits

variable {config : Config} {src : Text}

theorem tokenize_of_isDecimal (config : Config) (hne : src ≠ []) (hsrc : ∀ c ∈ src, isDecimal c = true) :
    tokenize config src = .ok [⟨.number, src, 0⟩] := by
  have hbalance : checkBalance src = .ok () :=
    (checkBalance_congr (t := []) (parentheses_of_isDecimal hsrc)).2 rfl
  have hscanned : Scanned config.strictStrings 0 (src ++ []) [⟨.number, src, 0⟩] :=
    .token ⟨hne, hsrc⟩ (TokenKind.stopsBefore_nil .number) .nil
  rw [List.append_nil] at hscanned
  exact tokenize_eq_ok_iff.2 ⟨hbalance, hscanned⟩

theorem stopsAtPadded_iff (hne : src ≠ []) (hsrc : ∀ c ∈ src, isDecimal c = true) :
    StopsAtPadded config src ↔ Numeral.Padded src := by
  have htokens := tokenize_of_isDecimal config hne hsrc
  constructor
  · rintro ⟨ts, j, t, hts, _, ht, _, hpadded, _⟩
    obtain rfl : [⟨.number, src, 0⟩] = ts := Except.ok.inj (htokens.symm.trans hts)
    have hmem := List.mem_of_getElem? ht
    rwa [List.mem_singleton.1 hmem] at hpadded
  · intro hpadded
    exact ⟨_, 0, ⟨.number, src, 0⟩, htokens, Nat.zero_le _, rfl, rfl, hpadded,
      fun i hi => absurd hi (Nat.not_lt_zero i)⟩

/-- Zeros are refused like that exactly when they are too many to be converted. -/
theorem stopsAtPadded_zeros_iff {n : Nat} (hn : 0 < n) :
    StopsAtPadded config (List.replicate n '0') ↔ 4300 < n := by
  have hdecimal : ∀ c ∈ List.replicate n '0', isDecimal c = true := by
    intro c hc
    rw [List.eq_of_mem_replicate hc]
    decide
  have hne : List.replicate n '0' ≠ [] := List.ne_nil_of_length_pos (by simpa using hn)
  rw [stopsAtPadded_iff hne hdecimal]
  constructor
  · intro h
    simpa using h.long
  · intro hlong
    exact ⟨hdecimal, by simp, by simpa using hlong⟩

theorem head?_zeros {n : Nat} : (List.replicate n '0').head? ≠ some '-' := by
  intro h
  have hmem := List.mem_of_mem_head? h
  exact absurd (List.eq_of_mem_replicate hmem) (by decide)

end Digits

/-! ## The one exception -/

/-- Where there is room for the open lists, a value or a diagnostic comes out, unless the first token
refused is a number with too many leading zeros. A command line that asks to read the text ends with
zero or one, unless it asks for the value of such a text; the text alone is read with the default
options, and there is always room for these. -/
theorem told_unless_stopsAtPadded (config : Config) (src : Text) :
    (HasRoomFor config src →
      (Told config src ↔ ¬ StopsAtPadded config src) ∧
      ∀ (args : List Text) (input : Text) (tokensOnly json debug : Bool),
        CommandLine.Request.ofTexts args = .run ⟨some src, config, tokensOnly, json, debug⟩ →
          (CommandLine.Ends args input ↔ tokensOnly = true ∨ ¬ StopsAtPadded config src)) ∧
    (src.head? ≠ some '-' →
      ∀ input, CommandLine.Ends [src] input ↔ ¬ StopsAtPadded {} src) := by
  refine ⟨fun hroom => ⟨told_iff hroom, ?_⟩, ?_⟩
  · intro args input tokensOnly json debug hargs
    rw [CommandLine.ends_iff hargs rfl, told_iff hroom]
  · intro hsrc input
    have hends := CommandLine.ends_iff (CommandLine.Request.ofTexts_expression hsrc) rfl input
    rw [hends, told_iff (hasRoomFor_default src)]
    simp

/-- One zero more than can be converted is not told, although its value is zero, and a command line
that asks for it does not end. -/
theorem not_told_of_zeros :
    HasRoomFor {} (List.replicate 4301 '0') ∧ ¬ Told {} (List.replicate 4301 '0') ∧
      ¬ CommandLine.Ends [List.replicate 4301 '0'] [] := by
  have htold : ¬ Told {} (List.replicate 4301 '0') := by
    rw [told_iff (hasRoomFor_default _), not_not, stopsAtPadded_zeros_iff] <;> decide
  refine ⟨hasRoomFor_default _, htold, ?_⟩
  rw [CommandLine.ends_iff (CommandLine.Request.ofTexts_expression head?_zeros) rfl]
  rintro (htokensOnly | h)
  · cases htokensOnly
  · exact htold h

/-- As many zeros as can be converted are told. -/
theorem told_of_zeros :
    Told {} (List.replicate 4300 '0') ∧ CommandLine.Ends [List.replicate 4300 '0'] [] := by
  have hstops : ¬ StopsAtPadded {} (List.replicate 4300 '0') := by
    rw [stopsAtPadded_zeros_iff] <;> decide
  rcases told_unless_stopsAtPadded {} (List.replicate 4300 '0') with ⟨hroom, halone⟩
  exact ⟨(hroom (hasRoomFor_default _)).1.2 hstops, (halone head?_zeros []).2 hstops⟩

end SExpr
