import Mathlib.Data.List.Nodup
import Mathlib.Data.List.Perm.Basic
import Mathlib.Data.List.TakeWhile
import SExpr.CommandLine.Arguments
import SExpr.Proofs.Scanned
import SExpr.Proofs.Spelled

/-!
# Command lines in any order

What a user can ask for falls into parts: three switches, a limit, and an expression. Each part is
spelled by one or two arguments, which are sorted out by themselves, and changes one of the options. So
the parts may stand in any order, and the options are what was asked for.
-/

namespace SExpr.CommandLine

/-! ## Parts -/

/-- Something to ask for on a command line. -/
inductive Part where
  | tokensOnly
  | json
  | strictStrings
  | maxDepth (limit : PlainInteger)
  | expression (src : Text)
  deriving DecidableEq

namespace Part

/-- The arguments that ask for the part. -/
def texts : Part → List Text
  | .tokensOnly => ["--tokens-only".toList]
  | .json => ["--json".toList]
  | .strictStrings => ["--strict-strings".toList]
  | .maxDepth limit => ["--max-depth".toList, limit.text]
  | .expression src => [src]

/-- The same arguments, sorted out. -/
def arguments : Part → List Argument
  | .tokensOnly => [.switch .tokensOnly none]
  | .json => [.switch .json none]
  | .strictStrings => [.switch .strictStrings none]
  | .maxDepth limit => [.switch .maxDepth none, .plain limit.text]
  | .expression src => [.plain src]

/-- What the part does to the options. -/
def apply (o : Options) : Part → Options
  | .tokensOnly => o.turnOn .tokensOnly
  | .json => o.turnOn .json
  | .strictStrings => o.turnOn .strictStrings
  | .maxDepth limit => o.withMaxDepth limit.value
  | .expression src => { o with expression? := some src }

/-- The switch that the part is about; the expression has none. -/
def switch? : Part → Option Switch
  | .tokensOnly => some .tokensOnly
  | .json => some .json
  | .strictStrings => some .strictStrings
  | .maxDepth _ => some .maxDepth
  | .expression _ => none

/-- The part cannot be taken for something else: an expression does not start with a hyphen. -/
def Distinct : Part → Prop
  | .expression src => src.head? ≠ some '-'
  | _ => True

/-- Parts about different switches change different options. -/
theorem apply_comm {p q : Part} (h : p.switch? ≠ q.switch?) (o : Options) :
    q.apply (p.apply o) = p.apply (q.apply o) := by
  cases p <;> cases q <;> first | rfl | exact absurd rfl h

end Part

/-! ## Sorting out -/

/-- Every switch has a name that starts with two hyphens. -/
theorem Switch.exists_name (s : Switch) : ∃ rest, s.name = '-' :: '-' :: rest := by
  cases s <;> exact ⟨_, rfl⟩

namespace Argument

variable {s : Text}

/-- What does not start with a hyphen is plain. -/
theorem ofText_of_head?_ne (h : s.head? ≠ some '-') : ofText s = .ok (.plain s) := by
  unfold ofText
  split
  · exact absurd rfl h
  · rfl

theorem ofText_name (s : Switch) : ofText s.name = .ok (.switch s none) := by
  cases s <;> rfl

theorem cutAtEquals_of_not_mem (h : '=' ∉ s) : cutAtEquals s = (s, none) := by
  simp [cutAtEquals, Scanner.dropWhile_of_not_mem h]

/-- A hyphen with digits behind it is a negative number. -/
theorem isNegativeNumber_of_isDecimal (hne : s ≠ []) (hs : ∀ c ∈ s, isDecimal c = true) :
    isNegativeNumber ('-' :: s) = true := by
  have hlast : s.getLast? ≠ some '\n' := by
    intro hlast
    exact Spelled.not_mem_of_isDecimal hs (by decide +kernel) (List.mem_of_getLast? hlast)
  simp [isNegativeNumber, hlast, Numeral.isValid_iff.2 ⟨hne, hs⟩]

/-- A hyphen with digits behind it is no switch, since no name of one has a digit in the second place. -/
theorem ofText_of_isDecimal {d : Char} {ds : Text} (hs : ∀ c ∈ d :: ds, isDecimal c = true) :
    ofText ('-' :: d :: ds) = .ok (.plain ('-' :: d :: ds)) := by
  have hother : ∀ c, isDecimal c = false → d ≠ c := by
    rintro c hc rfl
    exact Spelled.not_mem_of_isDecimal hs hc (List.mem_cons_self ..)
  have hhyphen : d ≠ '-' := hother '-' (by decide +kernel)
  have hletter : d ≠ 'h' := hother 'h' (by decide +kernel)
  have hequals : '=' ∉ '-' :: d :: ds := by
    have hnot : '=' ∉ d :: ds := Spelled.not_mem_of_isDecimal hs (by decide +kernel)
    simpa using hnot
  have hname : Switch.ofName? ('-' :: d :: ds) = none := by
    rw [Switch.ofName?, List.find?_eq_none]
    intro switch _ hfound
    rcases switch.exists_name with ⟨rest, hrest⟩
    rw [hrest, beq_iff_eq, List.cons.injEq, List.cons.injEq] at hfound
    exact hhyphen hfound.2.1.symm
  have hshort : '-' :: d :: ds ≠ Switch.shortHelp := by
    rintro ⟨⟩
    exact hletter rfl
  have hnoShort : Switch.shortHelp.isPrefixOf ('-' :: d :: ds) = false := by
    simp [Switch.shortHelp, List.isPrefixOf, hletter.symm]
  have hnoSeparator : separatorText.isPrefixOf ('-' :: d :: ds) = false := by
    simp [separatorText, List.isPrefixOf, hhyphen.symm]
  have hnumber : isNegativeNumber ('-' :: d :: ds) = true :=
    isNegativeNumber_of_isDecimal (List.cons_ne_nil d ds) hs
  have habbreviated : abbreviated ('-' :: d :: ds) = .ok (.plain ('-' :: d :: ds)) := by
    simp only [abbreviated, cutAtEquals_of_not_mem hequals, hnoSeparator, hnoShort, hnumber,
      Bool.false_eq_true, if_false, Bool.true_or, if_true]
  simp only [ofText, cutAtEquals_of_not_mem hequals, hname, hshort, if_false, habbreviated]

/-- An integer in plain digits is no switch, negative or not. -/
theorem ofText_plainInteger (p : PlainInteger) : ofText p.text = .ok (.plain p.text) := by
  cases hnegative : p.negative with
  | false =>
    have htext : p.text = p.digits := by simp [PlainInteger.text, hnegative]
    rw [htext]
    exact ofText_of_head?_ne fun h => p.hyphen_not_mem (List.mem_of_mem_head? h)
  | true =>
    rcases List.exists_cons_of_ne_nil p.nonempty with ⟨d, ds, hdigits⟩
    have htext : p.text = '-' :: d :: ds := by simp [PlainInteger.text, hnegative, hdigits]
    rw [htext]
    exact ofText_of_isDecimal (hdigits ▸ p.decimal)

theorem ofTexts_cons {a : Argument} {rest : List Text} {others : List Argument}
    (hs : s ≠ separatorText) (ha : ofText s = .ok a) (h : ofTexts rest = .ok others) :
    ofTexts (s :: rest) = .ok (a :: others) := by
  rw [ofTexts, if_neg hs, ha, h]
  rfl

end Argument

theorem PlainInteger.text_ne_separatorText (p : PlainInteger) : p.text ≠ separatorText := by
  intro h
  have hhyphen := p.hyphen_not_mem
  cases hnegative : p.negative with
  | true =>
    have hdigits : p.digits = ['-'] := by simpa [PlainInteger.text, hnegative, separatorText] using h
    simp [hdigits] at hhyphen
  | false =>
    have hdigits : p.digits = ['-', '-'] := by
      simpa [PlainInteger.text, hnegative, separatorText] using h
    simp [hdigits] at hhyphen

/-! ## Taking in -/

namespace Part

variable {p : Part} {ps qs : List Part} {o : Options}

/-- The arguments of a part are sorted out without a look at those behind them. -/
theorem ofTexts_append {rest : List Text} {others : List Argument} (hp : p.Distinct)
    (h : Argument.ofTexts rest = .ok others) :
    Argument.ofTexts (p.texts ++ rest) = .ok (p.arguments ++ others) := by
  cases p with
  | tokensOnly => exact Argument.ofTexts_cons (by decide) (Argument.ofText_name .tokensOnly) h
  | json => exact Argument.ofTexts_cons (by decide) (Argument.ofText_name .json) h
  | strictStrings => exact Argument.ofTexts_cons (by decide) (Argument.ofText_name .strictStrings) h
  | maxDepth limit =>
    have hlimit : Argument.ofTexts (limit.text :: rest) = .ok (.plain limit.text :: others) :=
      Argument.ofTexts_cons (PlainInteger.text_ne_separatorText limit)
        (Argument.ofText_plainInteger limit) h
    exact Argument.ofTexts_cons (by decide) (Argument.ofText_name .maxDepth) hlimit
  | expression src =>
    have hseparator : src ≠ separatorText := by
      rintro rfl
      exact hp rfl
    exact Argument.ofTexts_cons hseparator (Argument.ofText_of_head?_ne hp) h

theorem ofTexts_flatMap (h : ∀ p ∈ ps, p.Distinct) :
    Argument.ofTexts (ps.flatMap texts) = .ok (ps.flatMap arguments) := by
  induction ps with
  | nil => rfl
  | cons p ps ih =>
    rcases List.forall_mem_cons.1 h with ⟨hp, hps⟩
    exact ofTexts_append hp (ih hps)

theorem separator_not_mem : Argument.separator ∉ ps.flatMap arguments := by
  intro hmem
  rcases List.mem_flatMap.1 hmem with ⟨p, _, hp⟩
  cases p <;> simp [arguments] at hp

/-- A part is taken in by what it does to the options, if there is no expression yet that another one
would come too late for. -/
theorem ofArguments_append {others : List Argument} (hp : p.switch? = none → o.expression? = none)
    (hothers : Argument.separator ∉ others) :
    Request.ofArguments o [] (p.arguments ++ others) = Request.ofArguments (p.apply o) [] others := by
  cases p with
  | tokensOnly | json | strictStrings => rfl
  | maxDepth limit =>
    simp [arguments, Request.ofArguments, limit.integer?_text, apply]
  | expression src =>
    have hfree : o.expression? = none := hp rfl
    cases others with
    | nil => simp [arguments, Request.ofArguments, hfree, apply]
    | cons a others =>
      -- Only a separator behind the expression would be taken together with it.
      have ha : a ≠ .separator := by
        rintro rfl
        exact hothers (List.mem_cons_self ..)
      cases a with
      | separator => exact absurd rfl ha
      | _ => simp [arguments, Request.ofArguments, hfree, apply]

theorem expression?_apply (hp : p.switch? ≠ none) : (p.apply o).expression? = o.expression? := by
  cases p with
  | expression src => exact absurd rfl hp
  | _ => rfl

/-- Parts about different switches are taken in one after the other. -/
theorem ofArguments_flatMap (hps : (ps.map switch?).Nodup)
    (hfree : none ∈ ps.map switch? → o.expression? = none) :
    Request.ofArguments o [] (ps.flatMap arguments) = .run (ps.foldl apply o) := by
  induction ps generalizing o with
  | nil => rfl
  | cons p ps ih =>
    rw [List.map_cons, List.nodup_cons] at hps
    have hp : p.switch? = none → o.expression? = none := fun h => hfree (by simp [h])
    rw [List.flatMap_cons, ofArguments_append hp separator_not_mem, List.foldl_cons]
    apply ih hps.2
    intro hmem
    -- The expression is still to come, so it is not the part that was taken in.
    have hswitch : p.switch? ≠ none := by
      intro h
      exact hps.1 (h ▸ hmem)
    rw [expression?_apply hswitch]
    exact hfree (List.mem_cons_of_mem _ hmem)

/-- The order of parts about different switches does not matter. -/
theorem foldl_apply_perm (h : ps.Perm qs) (hps : (ps.map switch?).Nodup) (o : Options) :
    ps.foldl apply o = qs.foldl apply o := by
  apply h.foldl_eq'
  intro p hp q hq o
  by_cases hpq : p.switch? = q.switch?
  · rw [List.inj_on_of_nodup_map hps hp hq hpq]
  · exact apply_comm hpq o

end Part

/-! ## Wishes -/

/-- What a user asks for: any of the three switches, perhaps a limit, and perhaps an expression. -/
structure Wish where
  tokensOnly : Bool := false
  json : Bool := false
  strictStrings : Bool := false
  maxDepth? : Option PlainInteger := none
  expression? : Option Text := none
  deriving DecidableEq

namespace Wish

/-- The parts of a wish, in one order. -/
def parts (w : Wish) : List Part :=
  (if w.tokensOnly then [.tokensOnly] else []) ++ (if w.json then [.json] else []) ++
    (if w.strictStrings then [.strictStrings] else []) ++ w.maxDepth?.toList.map .maxDepth ++
      w.expression?.toList.map .expression

/-- The arguments ask for the parts of the wish, in any order. -/
def AskedBy (w : Wish) (args : List Text) : Prop :=
  ∃ parts : List Part, parts.Perm w.parts ∧ args = parts.flatMap Part.texts

/-- How texts are read as wished. -/
def config (w : Wish) : Config where
  maxDepth := (w.maxDepth?.map PlainInteger.value).getD 256
  strictStrings := w.strictStrings

def options (w : Wish) : Options where
  expression? := w.expression?
  config := w.config
  tokensOnly := w.tokensOnly
  json := w.json

theorem nodup_parts (w : Wish) : (w.parts.map Part.switch?).Nodup := by
  rcases w with ⟨tokensOnly, json, strictStrings, maxDepth?, expression?⟩
  cases tokensOnly <;> cases json <;> cases strictStrings <;> cases maxDepth? <;>
    cases expression? <;> simp [parts, Part.switch?]

theorem foldl_parts (w : Wish) : w.parts.foldl Part.apply {} = w.options := by
  rcases w with ⟨tokensOnly, json, strictStrings, maxDepth?, expression?⟩
  cases tokensOnly <;> cases json <;> cases strictStrings <;> cases maxDepth? <;>
    cases expression? <;> rfl

theorem mem_expression? (w : Wish) {src : Text} (h : .expression src ∈ w.parts) :
    src ∈ w.expression? := by
  simpa [parts] using h

/-- Arguments in any order come to the options that are asked for. -/
theorem ofTexts_of_askedBy {w : Wish} {args : List Text} (h : w.AskedBy args)
    (hexpression : ∀ src ∈ w.expression?, src.head? ≠ some '-') :
    Request.ofTexts args = .run w.options := by
  rcases h with ⟨parts, hperm, rfl⟩
  have hdistinct : ∀ p ∈ parts, p.Distinct := by
    intro p hp
    cases p with
    | expression src => exact hexpression src (w.mem_expression? (hperm.mem_iff.1 hp))
    | _ => trivial
  have hnodup : (parts.map Part.switch?).Nodup := (hperm.map Part.switch?).nodup_iff.2 w.nodup_parts
  rw [Request.ofTexts, Part.ofTexts_flatMap hdistinct]
  show Request.ofArguments {} [] (parts.flatMap Part.arguments) = .run w.options
  rw [Part.ofArguments_flatMap hnodup fun _ => rfl, Part.foldl_apply_perm hperm hnodup, w.foldl_parts]

end Wish

end SExpr.CommandLine
