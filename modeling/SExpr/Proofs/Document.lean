import Mathlib.Data.List.TakeWhile
import SExpr.Document
import SExpr.Proofs.Scanned

/-!
# What a text says as a document

A text says a document when it can be taken apart by the grammar of JSON, as far as documents need it:
integers, strings with their escapes, and entries between brackets; zero has no sign, and hexadecimal
digits are in lower case. How freely it may be written is left to a style. In the free style white space
may stand between any two parts and a character may be spelled in any way; even so a text says one
document at most, whatever stands behind it.
-/

namespace SExpr.Document

/-! ## Integers -/

/-- The text is the decimal numeral of the number: ASCII digits without a leading zero. -/
structure IsNumeral (s : Text) (n : Nat) : Prop where
  nonempty : s ≠ []
  digits : ∀ c ∈ s, c.isDigit = true
  leading : s.head? = some '0' → s = ['0']
  value : Numeral.value s = n

/-- No digit comes next that would go on with an integer. -/
def StopsInteger (rest : Text) : Prop :=
  ∀ c ∈ rest.head?, c.isDigit = false

/-- The text is an integer. Zero has no sign. -/
inductive IsInteger : Text → Int → Prop where
  | natural {s : Text} {n : Nat} : IsNumeral s n → IsInteger s n
  | negative {s : Text} {n : Nat} : IsNumeral s n → 0 < n → IsInteger ('-' :: s) (-n)

/-! ## Strings -/

/-- The hexadecimal digits in order. -/
def hexDigits : Text :=
  "0123456789abcdef".toList

/-- The number that hexadecimal digits stand for. -/
def hexValue (s : Text) : Nat :=
  s.foldl (fun n c => 16 * n + hexDigits.idxOf c) 0

/-- The text is the escape of a code unit by four hexadecimal digits. -/
def IsUnit (s : Text) (n : Nat) : Prop :=
  ∃ ds, s = '\\' :: 'u' :: ds ∧ ds.length = 4 ∧ (∀ d ∈ ds, d ∈ hexDigits) ∧ hexValue ds = n

/-- The characters that may stand behind a backslash, with the characters that they then mean. -/
def shortEscapes : List (Char × Char) :=
  [('"', '"'), ('\\', '\\'), ('/', '/'), ('b', '\x08'), ('f', '\x0c'), ('n', '\n'), ('r', '\r'),
    ('t', '\t')]

/-- The text is the escape of the character by its code point. -/
inductive SpellsCode : Text → Char → Prop where
  | unit {s : Text} {c : Char} : IsUnit s c.toNat → SpellsCode s c
  /-- Two surrogates for a character that one unit cannot hold. -/
  | pair {s s' : Text} {high low : Nat} {c : Char} :
      IsUnit s (0xD800 + high) → IsUnit s' (0xDC00 + low) → high < 0x400 → low < 0x400 →
      c.toNat = 0x10000 + 0x400 * high + low → SpellsCode (s ++ s') c

/-- The text spells the character inside a string. -/
inductive Spells : Text → Char → Prop where
  | plain {c : Char} : 0x20 ≤ c.toNat → c ≠ '"' → c ≠ '\\' → Spells [c] c
  | short {e c : Char} : (e, c) ∈ shortEscapes → Spells ['\\', e] c
  | code {s : Text} {c : Char} : SpellsCode s c → Spells s c

/-! ## Documents -/

/-- The brackets around the items of an array, or around the fields of an object. -/
inductive Brackets where
  | square
  | curly
  deriving DecidableEq

namespace Brackets

def opening : Brackets → Char
  | .square => '['
  | .curly => '\x7b'

def closing : Brackets → Char
  | .square => ']'
  | .curly => '\x7d'

/-- The document that entries make. Only those of an object have names. -/
def document : Brackets → List (Text × Document) → Document
  | .square, entries => .arr (entries.map Prod.snd)
  | .curly, entries => .obj entries

end Brackets

/-- How freely a document may be written. -/
structure Style where
  /-- How a character inside a string may be spelled. -/
  spells : Text → Char → Prop
  /-- What may stand before an entry or a closing bracket at the level. -/
  lineBreak : Nat → Text → Prop
  /-- What may stand before a comma or a colon, and between brackets without entries. -/
  lineEnd : Text → Prop
  /-- What may stand behind a colon. -/
  space : Text → Prop

namespace Style

/-- The text spells the characters inside a string, one after the other. -/
inductive Body (style : Style) : Text → Text → Prop where
  | nil : style.Body [] []
  | cons {u s t : Text} {c : Char} :
      style.spells u c → style.Body s t → style.Body (u ++ s) (c :: t)

/-- The text is what stands before the value of an entry: the name of a field with the colon and all that
follows it, and nothing before an item. -/
inductive Label (style : Style) : Brackets → Text → Text → Prop where
  | item : style.Label .square [] []
  | field {s name stop space : Text} :
      style.Body s name → style.lineEnd stop → style.space space →
      style.Label .curly ('"' :: (s ++ '"' :: (stop ++ ':' :: space))) name

end Style

/-- What is read off the front of a text: a document, or the entries up to a closing bracket. -/
inductive Piece where
  | whole (d : Document)
  | entries (b : Brackets) (entries : List (Text × Document))

/-- The text that stands at the level starts with the piece, and the rest is left behind it. Entries
stand one level further in than their brackets. -/
inductive Style.Reads (style : Style) : Nat → Text → Piece → Text → Prop where
  | int {level : Nat} {s rest : Text} {n : Int} :
      IsInteger s n → StopsInteger rest → style.Reads level (s ++ rest) (.whole (.int n)) rest
  | str {level : Nat} {s t rest : Text} :
      style.Body s t → style.Reads level ('"' :: (s ++ '"' :: rest)) (.whole (.str t)) rest
  | empty {level : Nat} {b : Brackets} {gap rest : Text} :
      style.lineEnd gap →
      style.Reads level (b.opening :: (gap ++ b.closing :: rest)) (.whole (b.document [])) rest
  | block {level : Nat} {b : Brackets} {s rest : Text} {entries : List (Text × Document)} :
      style.Reads level s (.entries b entries) rest →
      style.Reads level (b.opening :: s) (.whole (b.document entries)) rest
  | last {level : Nat} {b : Brackets} {gap label name s close rest : Text} {d : Document} :
      style.lineBreak (level + 1) gap → style.Label b label name →
      style.Reads (level + 1) s (.whole d) (close ++ b.closing :: rest) →
      style.lineBreak level close →
      style.Reads level (gap ++ (label ++ s)) (.entries b [(name, d)]) rest
  | more {level : Nat} {b : Brackets} {gap label name s stop behind rest : Text} {d : Document}
      {entries : List (Text × Document)} :
      style.lineBreak (level + 1) gap → style.Label b label name →
      style.Reads (level + 1) s (.whole d) (stop ++ ',' :: behind) → style.lineEnd stop →
      style.Reads level behind (.entries b entries) rest →
      style.Reads level (gap ++ (label ++ s)) (.entries b ((name, d) :: entries)) rest

/-- The text says the document, written in the style. -/
def Style.Says (style : Style) (s : Text) (d : Document) : Prop :=
  style.Reads 0 s (.whole d) []

/-! ## The free style -/

/-- White space and nothing else. -/
def IsGap (s : Text) : Prop :=
  ∀ c ∈ s, c.isWhitespace = true

/-- All that the grammar allows: white space between any two parts, and any spelling. -/
def Style.free : Style where
  spells := Spells
  lineBreak _ := IsGap
  lineEnd := IsGap
  space := IsGap

/-! ## One document at most -/

section Cancel

variable {s s' rest rest' : Text} {p : Char → Bool}

/-- A run of characters with a property can be taken off a text in one way only. -/
theorem run_cancel (hs : ∀ c ∈ s, p c = true) (hs' : ∀ c ∈ s', p c = true)
    (hrest : ∀ c ∈ rest.head?, p c = false) (hrest' : ∀ c ∈ rest'.head?, p c = false)
    (h : s ++ rest = s' ++ rest') : s = s' ∧ rest = rest' := by
  have htake := Scanner.takeRun_append_of_stop (n := 0) hs hrest
  rw [h, Scanner.takeRun_append_of_stop hs' hrest'] at htake
  simp only [Prod.mk.injEq, Scanner.mk.injEq] at htake
  exact ⟨htake.1.symm, htake.2.2.symm⟩

theorem IsNumeral.exists_cons {n : Nat} (h : IsNumeral s n) :
    ∃ c after, s = c :: after ∧ c.isDigit = true := by
  rcases List.exists_cons_of_ne_nil h.nonempty with ⟨c, after, rfl⟩
  exact ⟨c, after, rfl, h.digits c (List.mem_cons_self ..)⟩

theorem IsNumeral.ne_hyphen {n : Nat} {after : Text} (h : IsNumeral s n) :
    s ++ rest ≠ '-' :: after := by
  rcases h.exists_cons with ⟨c, behind, rfl, hc⟩
  intro htext
  obtain ⟨rfl, _⟩ := List.cons.inj htext
  exact absurd hc (by decide)

theorem IsNumeral.cancel {n n' : Nat} (hs : IsNumeral s n) (hs' : IsNumeral s' n')
    (hrest : StopsInteger rest) (hrest' : StopsInteger rest') (h : s ++ rest = s' ++ rest') :
    n = n' ∧ rest = rest' := by
  rcases run_cancel hs.digits hs'.digits hrest hrest' h with ⟨rfl, hleft⟩
  exact ⟨hs.value.symm.trans hs'.value, hleft⟩

theorem IsInteger.cancel {n n' : Int} (hs : IsInteger s n) (hs' : IsInteger s' n')
    (hrest : StopsInteger rest) (hrest' : StopsInteger rest') (h : s ++ rest = s' ++ rest') :
    n = n' ∧ rest = rest' := by
  cases hs with
  | natural hnumeral =>
    cases hs' with
    | natural hnumeral' =>
      rcases hnumeral.cancel hnumeral' hrest hrest' h with ⟨rfl, hleft⟩
      exact ⟨rfl, hleft⟩
    | negative => exact absurd h hnumeral.ne_hyphen
  | negative hnumeral =>
    cases hs' with
    | natural hnumeral' => exact absurd h.symm hnumeral'.ne_hyphen
    | negative hnumeral' =>
      rcases hnumeral.cancel hnumeral' hrest hrest' (List.cons.inj h).2 with ⟨rfl, hleft⟩
      exact ⟨rfl, hleft⟩

theorem IsUnit.cancel {n n' : Nat} (hs : IsUnit s n) (hs' : IsUnit s' n')
    (h : s ++ rest = s' ++ rest') : n = n' ∧ rest = rest' := by
  rcases hs with ⟨ds, rfl, hlength, _, rfl⟩
  rcases hs' with ⟨ds', rfl, hlength', _, rfl⟩
  have hdigits : ds ++ rest = ds' ++ rest' := (List.cons.inj (List.cons.inj h).2).2
  rcases List.append_inj hdigits (hlength.trans hlength'.symm) with ⟨rfl, hleft⟩
  exact ⟨rfl, hleft⟩

theorem not_surrogate (c : Char) : ¬ (0xD800 ≤ c.toNat ∧ c.toNat < 0xE000) := by
  have hvalid : c.toNat < 0xD800 ∨ 0xDFFF < c.toNat ∧ c.toNat < 0x110000 := c.valid
  omega

theorem SpellsCode.exists_cons {c : Char} (h : SpellsCode s c) :
    ∃ after, s = '\\' :: 'u' :: after := by
  cases h with
  | unit hs =>
    rcases hs with ⟨ds, rfl, _⟩
    exact ⟨ds, rfl⟩
  | @pair _ s' _ _ _ hs =>
    rcases hs with ⟨ds, rfl, _⟩
    exact ⟨ds ++ s', rfl⟩

theorem SpellsCode.cancel {c c' : Char} (hs : SpellsCode s c) (hs' : SpellsCode s' c')
    (h : s ++ rest = s' ++ rest') : c = c' ∧ rest = rest' := by
  -- A unit that a character has for itself is none that two are made of.
  have hsingle := not_surrogate c
  have hsingle' := not_surrogate c'
  cases hs with
  | unit hunit =>
    cases hs' with
    | unit hunit' =>
      rcases hunit.cancel hunit' h with ⟨hcode, hleft⟩
      exact ⟨Char.toNat_inj.1 hcode, hleft⟩
    | pair hhigh' _ _ _ _ =>
      rw [List.append_assoc] at h
      rcases hunit.cancel hhigh' h with ⟨hcode, _⟩
      omega
  | pair hhigh hlow _ _ hcode =>
    rw [List.append_assoc] at h
    cases hs' with
    | unit hunit' =>
      rcases hhigh.cancel hunit' h with ⟨hcode', _⟩
      omega
    | pair hhigh' hlow' _ _ hcode' =>
      rw [List.append_assoc] at h
      rcases hhigh.cancel hhigh' h with ⟨hfirst, hrest⟩
      rcases hlow.cancel hlow' hrest with ⟨hsecond, hleft⟩
      have hsame : c.toNat = c'.toNat := by omega
      exact ⟨Char.toNat_inj.1 hsame, hleft⟩

/-- What stands behind a backslash has one meaning at most, and none of its own if it starts a code. -/
theorem shortEscapes_spec :
    (∀ x ∈ shortEscapes, x.1 ≠ 'u') ∧
      ∀ x ∈ shortEscapes, ∀ y ∈ shortEscapes, x.1 = y.1 → x.2 = y.2 := by
  decide

theorem Spells.cancel {c c' : Char} (hs : Spells s c) (hs' : Spells s' c')
    (h : s ++ rest = s' ++ rest') : c = c' ∧ rest = rest' := by
  cases hs with
  | plain _ _ hslash =>
    cases hs' with
    | plain => exact List.cons.inj h
    | short => exact absurd (List.cons.inj h).1 hslash
    | code hcode' =>
      rcases hcode'.exists_cons with ⟨after, rfl⟩
      exact absurd (List.cons.inj h).1 hslash
  | short he =>
    cases hs' with
    | plain _ _ hslash' => exact absurd (List.cons.inj h).1.symm hslash'
    | short he' =>
      obtain ⟨hsame, hleft⟩ := List.cons.inj (List.cons.inj h).2
      exact ⟨shortEscapes_spec.2 _ he _ he' hsame, hleft⟩
    | code hcode' =>
      rcases hcode'.exists_cons with ⟨after, rfl⟩
      exact absurd (List.cons.inj (List.cons.inj h).2).1 (shortEscapes_spec.1 _ he)
  | code hcode =>
    rcases hcode.exists_cons with ⟨after, rfl⟩
    cases hs' with
    | plain _ _ hslash' => exact absurd (List.cons.inj h).1.symm hslash'
    | short he' =>
      exact absurd (List.cons.inj (List.cons.inj h).2).1.symm (shortEscapes_spec.1 _ he')
    | code hcode' => exact hcode.cancel hcode' h

theorem Spells.exists_cons {c : Char} (h : Spells s c) : ∃ d after, s = d :: after ∧ d ≠ '"' := by
  cases h with
  | plain _ hquote => exact ⟨c, [], rfl, hquote⟩
  | @short e => exact ⟨'\\', [e], rfl, by decide⟩
  | code hcode =>
    rcases hcode.exists_cons with ⟨after, rfl⟩
    exact ⟨'\\', 'u' :: after, rfl, by decide⟩

/-- A string ends at its quote, since no character inside starts with one. -/
theorem Style.Body.cancel {t t' : Text} (hs : Style.free.Body s t) (hs' : Style.free.Body s' t')
    (h : s ++ '"' :: rest = s' ++ '"' :: rest') : t = t' ∧ rest = rest' := by
  induction hs generalizing s' t' with
  | nil =>
    cases hs' with
    | nil => exact ⟨rfl, (List.cons.inj h).2⟩
    | cons hc' =>
      rcases Spells.exists_cons hc' with ⟨d, after, rfl, hd⟩
      exact absurd (List.cons.inj h).1.symm hd
  | cons hc _ ih =>
    cases hs' with
    | nil =>
      rcases Spells.exists_cons hc with ⟨d, after, rfl, hd⟩
      exact absurd (List.cons.inj h).1 hd
    | cons hc' hbody' =>
      rw [List.append_assoc, List.append_assoc] at h
      rcases Spells.cancel hc hc' h with ⟨rfl, hbehind⟩
      rcases ih hbody' hbehind with ⟨rfl, hleft⟩
      exact ⟨rfl, hleft⟩

/-- White space ends at the first character that is none. -/
theorem IsGap.cancel {c c' : Char} (hs : IsGap s) (hs' : IsGap s') (hc : c.isWhitespace = false)
    (hc' : c'.isWhitespace = false) (h : s ++ c :: rest = s' ++ c' :: rest') :
    c = c' ∧ rest = rest' := by
  have hstop : ∀ d ∈ (c :: rest).head?, d.isWhitespace = false := by simpa using hc
  have hstop' : ∀ d ∈ (c' :: rest').head?, d.isWhitespace = false := by simpa using hc'
  exact List.cons.inj (run_cancel hs hs' hstop hstop' h).2

theorem Style.Label.cancel {b : Brackets} {name name' : Text} {c c' : Char}
    (hs : Style.free.Label b s name) (hs' : Style.free.Label b s' name')
    (hc : c.isWhitespace = false) (hc' : c'.isWhitespace = false)
    (h : s ++ c :: rest = s' ++ c' :: rest') : name = name' ∧ c :: rest = c' :: rest' := by
  cases hs with
  | item =>
    cases hs' with
    | item => exact ⟨rfl, h⟩
  | field hbody hstop hspace =>
    cases hs' with
    | field hbody' hstop' hspace' =>
      simp only [List.cons_append, List.append_assoc, List.cons.injEq, true_and] at h
      rcases hbody.cancel hbody' h with ⟨rfl, hcolon⟩
      rcases IsGap.cancel hstop hstop' (by decide) (by decide) hcolon with ⟨_, hvalue⟩
      rcases IsGap.cancel hspace hspace' hc hc' hvalue with ⟨rfl, rfl⟩
      exact ⟨rfl, rfl⟩

end Cancel

/-! ## What comes first -/

/-- The character is part of the document behind it: no white space, and no bracket that closes. -/
structure Opens (c : Char) : Prop where
  isWhitespace : c.isWhitespace = false
  ne_closing : ∀ b : Brackets, c ≠ b.closing

theorem opens_quote : Opens '"' :=
  ⟨rfl, by intro b; cases b <;> decide⟩

theorem Brackets.opens (b : Brackets) : Opens b.opening := by
  cases b <;> exact ⟨rfl, by intro b; cases b <;> decide⟩

/-- A bracket that closes is no white space, and no comma. -/
theorem Brackets.closing_spec (b : Brackets) : b.closing.isWhitespace = false ∧ b.closing ≠ ',' := by
  cases b <;> decide

theorem opens_of_isDigit {c : Char} (hc : c = '-' ∨ c.isDigit = true) : Opens c := by
  constructor
  · rw [Bool.eq_false_iff]
    intro hblank
    simp only [Char.isWhitespace, Bool.or_eq_true, decide_eq_true_eq] at hblank
    rcases hblank with ((rfl | rfl) | rfl) | rfl <;> exact absurd hc (by decide)
  · rintro b rfl
    cases b <;> exact absurd hc (by decide)

theorem IsInteger.exists_cons {s : Text} {n : Int} (h : IsInteger s n) :
    ∃ c after, s = c :: after ∧ (c = '-' ∨ c.isDigit = true) := by
  cases h with
  | natural hnumeral =>
    rcases hnumeral.exists_cons with ⟨c, after, rfl, hc⟩
    exact ⟨c, after, rfl, .inr hc⟩
  | @negative s _ _ _ => exact ⟨'-', s, rfl, .inl rfl⟩

/-- An integer starts with no character that starts something else. -/
theorem IsInteger.ne_cons {s rest : Text} {n : Int} {c : Char} {after : Text} (h : IsInteger s n)
    (hc : c = '"' ∨ ∃ b : Brackets, c = b.opening) : s ++ rest ≠ c :: after := by
  rcases h.exists_cons with ⟨d, behind, rfl, hd⟩
  intro htext
  obtain ⟨rfl, _⟩ := List.cons.inj htext
  rcases hc with rfl | ⟨b, rfl⟩
  · exact absurd hd (by decide)
  · cases b <;> exact absurd hd (by decide)

namespace Style.Reads

variable {style : Style} {level : Nat} {b : Brackets} {text rest : Text} {d : Document}

/-! ## What is read, by the first character -/

theorem exists_cons (h : style.Reads level text (.whole d) rest) :
    ∃ c after, text = c :: after ∧ Opens c := by
  generalize hx : Piece.whole d = x at h
  cases h with
  | int hs =>
    rcases hs.exists_cons with ⟨c, after, rfl, hc⟩
    exact ⟨c, after ++ _, rfl, opens_of_isDigit hc⟩
  | str => exact ⟨_, _, rfl, opens_quote⟩
  | empty | block => exact ⟨_, _, rfl, Brackets.opens _⟩
  | last | more => cases hx

theorem of_integer {s behind : Text} {n : Int} (hs : IsInteger s n)
    (hbehind : StopsInteger behind) (h : style.Reads level (s ++ behind) (.whole d) rest) :
    .int n = d ∧ behind = rest := by
  generalize htext : s ++ behind = text at h
  generalize hx : Piece.whole d = x at h
  cases h with
  | int hs' hrest =>
    cases hx
    rcases hs.cancel hs' hbehind hrest htext with ⟨rfl, hleft⟩
    exact ⟨rfl, hleft⟩
  | str => exact absurd htext (hs.ne_cons (.inl rfl))
  | empty | block => exact absurd htext (hs.ne_cons (.inr ⟨_, rfl⟩))
  | last | more => cases hx

theorem of_quote (h : style.Reads level ('"' :: text) (.whole d) rest) :
    ∃ s t, text = s ++ '"' :: rest ∧ d = .str t ∧ style.Body s t := by
  generalize htext : '"' :: text = whole at h
  generalize hx : Piece.whole d = x at h
  cases h with
  | int hs => exact absurd htext.symm (hs.ne_cons (.inl rfl))
  | str hbody =>
    cases hx
    exact ⟨_, _, (List.cons.inj htext).2, rfl, hbody⟩
  | @empty _ b | @block _ b => cases b <;> cases htext
  | last | more => cases hx

theorem of_opening (h : style.Reads level (b.opening :: text) (.whole d) rest) :
    (∃ gap, text = gap ++ b.closing :: rest ∧ d = b.document [] ∧ style.lineEnd gap) ∨
      ∃ entries, d = b.document entries ∧ style.Reads level text (.entries b entries) rest := by
  generalize htext : b.opening :: text = whole at h
  generalize hx : Piece.whole d = x at h
  have hsame : ∀ b' : Brackets, b.opening = b'.opening → b = b' := by
    intro b'
    cases b <;> cases b' <;> decide
  cases h with
  | int hs => exact absurd htext.symm (hs.ne_cons (.inr ⟨b, rfl⟩))
  | str => cases b <;> cases htext
  | empty hgap =>
    cases hx
    obtain ⟨hb, rfl⟩ := List.cons.inj htext
    obtain rfl := hsame _ hb
    exact .inl ⟨_, rfl, rfl, hgap⟩
  | block hentries =>
    cases hx
    obtain ⟨hb, rfl⟩ := List.cons.inj htext
    obtain rfl := hsame _ hb
    exact .inr ⟨_, rfl, hentries⟩
  | last | more => cases hx

end Style.Reads

/-! ## One document at most -/

/-- The brackets that entries are read in. -/
def Piece.brackets? : Piece → Option Brackets
  | .whole _ => none
  | .entries b _ => some b

section Unique

variable {level level' : Nat} {b : Brackets} {gap gap' label label' name name' s s' text rest rest' : Text}
  {d d' : Document}

/-- An entry starts with its name or its value. -/
theorem Style.Label.exists_cons {style : Style} (hlabel : style.Label b label name)
    (hs : style.Reads level s (.whole d) rest) : ∃ c after, label ++ s = c :: after ∧ Opens c := by
  cases hlabel with
  | item => exact hs.exists_cons
  | field => exact ⟨'"', _, rfl, opens_quote⟩

/-- All that stands before the value of an entry can be taken off in one way only. -/
theorem entry_cancel (hgap : IsGap gap) (hgap' : IsGap gap') (hlabel : Style.free.Label b label name)
    (hlabel' : Style.free.Label b label' name') (hs : Style.free.Reads level s (.whole d) rest)
    (hs' : Style.free.Reads level' s' (.whole d') rest')
    (h : gap ++ (label ++ s) = gap' ++ (label' ++ s')) : name = name' ∧ s = s' := by
  rcases hlabel.exists_cons hs with ⟨e, behind, hlabelled, he⟩
  rcases hlabel'.exists_cons hs' with ⟨e', behind', hlabelled', he'⟩
  rw [hlabelled, hlabelled'] at h
  rcases hgap.cancel hgap' he.isWhitespace he'.isWhitespace h with ⟨rfl, rfl⟩
  rcases hs.exists_cons with ⟨c, after, rfl, hc⟩
  rcases hs'.exists_cons with ⟨c', after', rfl, hc'⟩
  exact hlabel.cancel hlabel' hc.isWhitespace hc'.isWhitespace (hlabelled.trans hlabelled'.symm)

/-- Brackets with nothing between them have no entries. -/
theorem Style.Reads.ne_closing {entries : List (Text × Document)}
    (h : Style.free.Reads level text (.entries b entries) rest) (hgap : IsGap gap) :
    text ≠ gap ++ b.closing :: s := by
  -- Behind the white space an entry starts, with its name or its value.
  have hentry : ∀ {gap' label name s' d r}, IsGap gap' → Style.free.Label b label name →
      Style.free.Reads (level + 1) s' (.whole d) r →
      gap' ++ (label ++ s') ≠ gap ++ b.closing :: s := by
    intro gap' label name s' d r hgap' hlabel hread htext
    rcases hlabel.exists_cons hread with ⟨c, after, hlabelled, hc⟩
    rw [hlabelled] at htext
    exact hc.ne_closing b (hgap'.cancel hgap hc.isWhitespace b.closing_spec.1 htext).1
  generalize hx : Piece.entries b entries = x at h
  cases h with
  | int | str | empty | block => cases hx
  | last hgap' hlabel hread =>
    cases hx
    exact hentry hgap' hlabel hread
  | more hgap' hlabel hread =>
    cases hx
    exact hentry hgap' hlabel hread

/-- However freely it is written, a text says one document at most, whatever stands behind it. -/
theorem Style.Reads.unique {x x' : Piece} (h : Style.free.Reads level text x rest)
    (h' : Style.free.Reads level' text x' rest') (hx : x.brackets? = x'.brackets?) :
    x = x' ∧ rest = rest' := by
  -- The second reading has to start as the first one does, and what is left there is the same text again.
  induction h generalizing level' x' rest' with
  | int hs hstop =>
    cases x' with
    | entries => cases hx
    | whole d' =>
      rcases of_integer hs hstop h' with ⟨rfl, hleft⟩
      exact ⟨rfl, hleft⟩
  | str hbody =>
    cases x' with
    | entries => cases hx
    | whole d' =>
      rcases of_quote h' with ⟨s', t', htext, rfl, hbody'⟩
      rcases hbody.cancel hbody' htext with ⟨rfl, hleft⟩
      exact ⟨rfl, hleft⟩
  | @empty _ b gap _ hgap =>
    cases x' with
    | entries => cases hx
    | whole d' =>
      rcases of_opening h' with ⟨gap', htext, rfl, hgap'⟩ | ⟨entries, _, hentries⟩
      · exact ⟨rfl, (IsGap.cancel hgap hgap' b.closing_spec.1 b.closing_spec.1 htext).2⟩
      · exact absurd rfl (hentries.ne_closing hgap)
  | block hentries ih =>
    cases x' with
    | entries => cases hx
    | whole d' =>
      rcases of_opening h' with ⟨gap', htext, _, hgap'⟩ | ⟨entries', rfl, hentries'⟩
      · exact absurd htext (hentries.ne_closing hgap')
      · rcases ih hentries' rfl with ⟨hsame, hleft⟩
        cases hsame
        exact ⟨rfl, hleft⟩
  | @last _ b gap label _ s _ _ _ hgap hlabel hread hclose ih =>
    cases x' with
    | whole => cases hx
    | entries b' entries =>
      obtain rfl : b = b' := Option.some.inj hx
      generalize htext : gap ++ (label ++ s) = text at h'
      cases h' with
      | last hgap' hlabel' hread' hclose' =>
        rcases entry_cancel hgap hgap' hlabel hlabel' hread hread' htext with ⟨rfl, rfl⟩
        rcases ih hread' rfl with ⟨hsame, hbehind⟩
        cases hsame
        exact ⟨rfl, (IsGap.cancel hclose hclose' b.closing_spec.1 b.closing_spec.1 hbehind).2⟩
      | more hgap' hlabel' hread' hstop' _ =>
        rcases entry_cancel hgap hgap' hlabel hlabel' hread hread' htext with ⟨rfl, rfl⟩
        have hbehind := (ih hread' rfl).2
        have hcomma := (IsGap.cancel hclose hstop' b.closing_spec.1 (by decide) hbehind).1
        exact absurd hcomma b.closing_spec.2
  | @more _ b gap label _ s _ _ _ _ _ hgap hlabel hread hstop _ ih ihentries =>
    cases x' with
    | whole => cases hx
    | entries b' entries =>
      obtain rfl : b = b' := Option.some.inj hx
      generalize htext : gap ++ (label ++ s) = text at h'
      cases h' with
      | last hgap' hlabel' hread' hclose' =>
        rcases entry_cancel hgap hgap' hlabel hlabel' hread hread' htext with ⟨rfl, rfl⟩
        have hbehind := (ih hread' rfl).2
        have hcomma := (IsGap.cancel hstop hclose' (by decide) b.closing_spec.1 hbehind).1
        exact absurd hcomma.symm b.closing_spec.2
      | more hgap' hlabel' hread' hstop' hentries' =>
        rcases entry_cancel hgap hgap' hlabel hlabel' hread hread' htext with ⟨rfl, rfl⟩
        rcases ih hread' rfl with ⟨hsame, hbehind⟩
        cases hsame
        obtain ⟨_, rfl⟩ := IsGap.cancel hstop hstop' (by decide) (by decide) hbehind
        rcases ihentries hentries' rfl with ⟨hothers, hleft⟩
        cases hothers
        exact ⟨rfl, hleft⟩

/-- A text says one document at most. -/
theorem Style.Says.unique (h : Style.free.Says s d) (h' : Style.free.Says s d') : d = d' := by
  have hsame := (Style.Reads.unique h h' rfl).1
  cases hsame
  rfl

end Unique

end SExpr.Document
