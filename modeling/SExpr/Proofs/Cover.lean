import SExpr.Proofs.Scanned
import SExpr.Proofs.Session

/-!
# Tokens cover a text

Seen from outside, a token sequence is a row of pieces of the text, one after the other, with white
space alone in the gaps. `Covers` says this by offsets, without a scan, and asks that numbers and
identifiers be as long as they can be. A text that has tokens has exactly one such cover, and its
tokens are the ones the scanner finds.
-/

namespace SExpr

/-! ## Pieces of a text -/

/-- A token with the part of a text that it occupies: from `start` up to, but not at, `stop`. -/
structure Lexeme where
  token : Token
  start : Nat
  stop : Nat

namespace Lexeme

/-- The lexeme is a string that no second quote closes. -/
def Unclosed (src : Text) (x : Lexeme) : Prop :=
  x.token.kind = .string ∧ '"' ∉ src.drop (x.start + 1)

/-- The lexeme is what it says it is: its token stands where it starts, its text is the part of the
source that it occupies, and the text fits the kind. An unclosed string occupies all that is left,
and its text has one quote more. -/
structure Sits (src : Text) (x : Lexeme) : Prop where
  position : x.token.position = x.start
  nonempty : x.start < x.stop
  inside : x.stop ≤ src.length
  closed : ¬ x.Unclosed src → x.token.text = src.extract x.start x.stop
  unclosed : x.Unclosed src → x.stop = src.length ∧ x.token.text = src.drop x.start ++ ['"']
  spelled : x.token.kind.Spells x.token.text
  solid : x.token.kind ≠ .string →
    ∀ i c, x.start ≤ i → i < x.stop → src[i]? = some c → isBlank c = false
  maximal : x.token.kind.StopsBefore (src.drop x.stop)

end Lexeme

/-- The lexemes cover the text from offset `n` on: they stand one after the other, and what they leave
out is white space. -/
structure Covers (src : Text) (n : Nat) (xs : List Lexeme) : Prop where
  sits : ∀ x ∈ xs, x.Sits src
  behind : ∀ x ∈ xs, n ≤ x.start
  apart : xs.Pairwise fun x y => x.stop ≤ y.start
  gaps : ∀ i c, n ≤ i → src[i]? = some c → (∀ x ∈ xs, ¬ (x.start ≤ i ∧ i < x.stop)) →
    isBlank c = true

/-! ## A scan covers its text -/

namespace TokenKind

theorem Spells.not_blank {kind : TokenKind} {s : Text} (h : kind.Spells s) (hk : kind ≠ .string) :
    ∀ c ∈ s, isBlank c = false := by
  intro c hc
  cases kind with
  | openParen | closeParen =>
    cases h
    rcases List.mem_singleton.1 hc with rfl
    exact (classes_of_mem_marks (by decide)).1
  | number => exact (show StartsWith .number c from h.2 c hc).isBlank
  | identifier => exact isBlank_of_isIdentifierChar (h.isIdentifierChar c hc)
  | operator =>
    rcases h with ⟨d, rfl, hd⟩
    rcases List.mem_singleton.1 hc with rfl
    exact (show StartsWith .operator c from hd).isBlank
  | string => exact absurd rfl hk

end TokenKind

namespace Covers

variable {src : Text} {n : Nat} {xs : List Lexeme}

theorem blank {c : Char} (hc : src[n]? = some c) (hblank : isBlank c = true)
    (h : Covers src (n + 1) xs) : Covers src n xs where
  sits := h.sits
  behind := by
    intro x hx
    exact Nat.le_of_succ_le (h.behind x hx)
  apart := h.apart
  gaps := by
    intro i d hi hd hout
    rcases Nat.eq_or_lt_of_le hi with rfl | hlt
    · cases hc.symm.trans hd
      exact hblank
    · exact h.gaps i d hlt hd hout

theorem cons {x : Lexeme} (hx : x.Sits src) (h : Covers src x.stop xs) :
    Covers src x.start (x :: xs) where
  sits := List.forall_mem_cons.2 ⟨hx, h.sits⟩
  behind := by
    intro y hy
    rcases List.mem_cons.1 hy with rfl | hy
    · exact Nat.le_refl _
    · exact Nat.le_trans (Nat.le_of_lt hx.nonempty) (h.behind y hy)
  apart := List.pairwise_cons.2 ⟨h.behind, h.apart⟩
  gaps := by
    intro i c hi hc hout
    -- A character that is left out stands behind the lexeme, hence before or between the others.
    have hx' : ¬ (x.start ≤ i ∧ i < x.stop) := hout x (List.mem_cons_self ..)
    have hstop : x.stop ≤ i := by
      by_contra hlt
      exact hx' ⟨hi, by omega⟩
    exact h.gaps i c hstop hc fun y hy => hout y (List.mem_cons_of_mem _ hy)

end Covers

namespace Lexeme

/-- A token that is cut off with its whole text sits where it was cut off. -/
theorem sits_of_spells {src s rest : Text} {n : Nat} {kind : TokenKind}
    (hsrc : src.drop n = s ++ rest) (hs : kind.Spells s) (hstop : kind.StopsBefore rest) :
    Sits src ⟨⟨kind, s, n⟩, n, n + s.length⟩ := by
  have hlen : s.length + rest.length = src.length - n := by
    simpa using (congrArg List.length hsrc).symm
  have hpos : 0 < s.length := List.length_pos_of_ne_nil hs.ne_nil
  have hdrop : src.drop (n + s.length) = rest := drop_behind hsrc
  refine ⟨rfl, ?_, ?_, ?_, ?_, hs, ?_, ?_⟩
  · show n < n + s.length
    omega
  · show n + s.length ≤ src.length
    omega
  · intro _
    exact (extract_piece hsrc).symm
  · -- The token ends with a quote of its own, so the string is closed.
    rintro ⟨hkind, hquote⟩
    simp only at hkind hquote
    subst hkind
    rcases hs with ⟨body, rfl, _⟩
    rw [← List.drop_drop, hsrc] at hquote
    simp at hquote
  · intro hkind i c hi hlt hc
    apply hs.not_blank hkind c
    have hget : (s ++ rest)[i - n]? = some c := by
      rw [← hsrc, List.getElem?_drop, ← hc]
      congr 1
      simp only at hi
      omega
    simp only at hi hlt
    rw [List.getElem?_append_left (by omega)] at hget
    exact List.mem_of_getElem? hget
  · show kind.StopsBefore (src.drop (n + s.length))
    rw [hdrop]
    exact hstop

theorem sits_of_unclosed {src body : Text} {n : Nat} (hsrc : src.drop n = '"' :: body)
    (hbody : '"' ∉ body) : Sits src ⟨⟨.string, '"' :: body ++ ['"'], n⟩, n, src.length⟩ := by
  have hlen : body.length + 1 = src.length - n := by
    simpa using (congrArg List.length hsrc).symm
  have hunclosed : Unclosed src ⟨⟨.string, '"' :: body ++ ['"'], n⟩, n, src.length⟩ := by
    refine ⟨rfl, ?_⟩
    show '"' ∉ src.drop (n + 1)
    rw [← List.drop_drop, hsrc]
    exact hbody
  refine ⟨rfl, ?_, Nat.le_refl _, ?_, ?_, ⟨body, rfl, hbody⟩, ?_, trivial⟩
  · show n < src.length
    omega
  · intro hclosed
    exact absurd hunclosed hclosed
  · intro _
    exact ⟨rfl, by rw [hsrc]⟩
  · intro hkind
    exact absurd rfl hkind

end Lexeme

/-- What is cut into tokens is covered by them. -/
theorem Scanned.covers {strict : Bool} {src s : Text} {n : Nat} {ts : List Token}
    (h : Scanned strict n s ts) (hsrc : src.drop n = s) :
    ∃ xs, Covers src n xs ∧ xs.map (·.token) = ts := by
  induction h with
  | @nil n =>
    refine ⟨[], ⟨by simp, by simp, List.Pairwise.nil, ?_⟩, rfl⟩
    intro i c hi hc
    have hend : src.length ≤ n := List.drop_eq_nil_iff.1 hsrc
    rw [List.getElem?_eq_none (Nat.le_trans hend hi)] at hc
    cases hc
  | @blank n c rest ts hblank _ ih =>
    have hc : src[n]? = some c := by
      rw [← List.head?_drop, hsrc, List.head?_cons]
    have hrest : src.drop (n + 1) = rest := by
      rw [← List.drop_drop, hsrc, List.drop_one, List.tail_cons]
    rcases ih hrest with ⟨xs, hxs, hts⟩
    exact ⟨xs, hxs.blank hc hblank, hts⟩
  | @token n kind s rest ts hs hstop _ ih =>
    rcases ih (drop_behind hsrc) with ⟨xs, hxs, hts⟩
    refine ⟨⟨⟨kind, s, n⟩, n, n + s.length⟩ :: xs, ?_, by rw [List.map_cons, hts]⟩
    exact hxs.cons (Lexeme.sits_of_spells hsrc hs hstop)
  | @unclosed n body _ hbody =>
    refine ⟨[⟨⟨.string, '"' :: body ++ ['"'], n⟩, n, src.length⟩], ?_, rfl⟩
    refine Covers.cons (Lexeme.sits_of_unclosed hsrc hbody)
      ⟨by simp, by simp, List.Pairwise.nil, ?_⟩
    intro i c hi hc
    rw [List.getElem?_eq_none hi] at hc
    cases hc

/-! ## A cover is a scan -/

namespace Lexeme

variable {src : Text} {x : Lexeme}

theorem Sits.startsWith (h : x.Sits src) :
    ∃ c, src[x.start]? = some c ∧ x.token.kind.StartsWith c := by
  rcases h.spelled.startsWith with ⟨c, after, htext, hc⟩
  have hlt : x.start < src.length := Nat.lt_of_lt_of_le h.nonempty h.inside
  refine ⟨c, ?_, hc⟩
  -- Either way the text of the token starts where the lexeme does.
  by_cases hclosed : x.Unclosed src
  · have hdrop : src.drop x.start ++ ['"'] = c :: after := by
      rw [← (h.unclosed hclosed).2, htext]
    rw [List.drop_eq_getElem_cons hlt, List.cons_append, List.cons.injEq] at hdrop
    rw [List.getElem?_eq_getElem hlt, hdrop.1]
  · have htake : src.extract x.start x.stop = c :: after := by
      rw [← h.closed hclosed, htext]
    have hpos : x.stop - x.start = (x.stop - x.start - 1) + 1 := by
      have := h.nonempty
      omega
    rw [List.extract_eq_take_drop, List.drop_eq_getElem_cons hlt, hpos, List.take_succ_cons,
      List.cons.injEq] at htake
    rw [List.getElem?_eq_getElem hlt, htake.1]

/-- The token of a lexeme is cut off the text that starts there. -/
theorem Sits.scanned {ts : List Token} (h : x.Sits src)
    (hts : Scanned false x.stop (src.drop x.stop) ts) :
    Scanned false x.start (src.drop x.start) (x.token :: ts) := by
  rcases x with ⟨⟨kind, s, position⟩, start, stop⟩
  have hposition : position = (start : Int) := h.position
  subst hposition
  show Scanned false start (src.drop start) (⟨kind, s, start⟩ :: ts)
  by_cases hclosed : Unclosed src ⟨⟨kind, s, start⟩, start, stop⟩
  · have hstop : stop = src.length := (h.unclosed hclosed).1
    have htext : s = src.drop start ++ ['"'] := (h.unclosed hclosed).2
    have hkind : kind = .string := hclosed.1
    subst hkind
    rcases h.spelled with ⟨body, hbody, hnotin⟩
    have hdrop : src.drop start = '"' :: body := List.append_cancel_right (htext.symm.trans hbody)
    -- Nothing is left behind an unclosed string, so no other token is.
    have hend : src.drop stop = [] := List.drop_eq_nil_iff.2 (Nat.le_of_eq hstop.symm)
    have hlast : Scanned false stop [] ts := by
      rw [← hend]
      exact hts
    rw [hlast.eq_nil, htext, hdrop]
    exact .unclosed rfl hnotin
  · have htext : s = src.extract start stop := h.closed hclosed
    have hle : start ≤ stop := Nat.le_of_lt h.nonempty
    have hinside : stop ≤ src.length := h.inside
    -- The source falls into the text of the token and what is behind it.
    have hsplit : src.drop start = s ++ src.drop stop := by
      have happend := List.take_append_drop (stop - start) (src.drop start)
      rw [List.drop_drop, Nat.add_sub_cancel' hle] at happend
      rw [htext, List.extract_eq_take_drop, happend]
    have hlen : start + s.length = stop := by
      rw [htext, List.extract_eq_take_drop, List.length_take, List.length_drop]
      omega
    rw [hsplit]
    refine .token h.spelled h.maximal ?_
    rw [hlen]
    exact hts

end Lexeme

namespace Covers

variable {src : Text} {n : Nat} {xs : List Lexeme} {x : Lexeme}

theorem tail (h : Covers src n (x :: xs)) : Covers src x.stop xs where
  sits := fun y hy => h.sits y (List.mem_cons_of_mem _ hy)
  behind := (List.pairwise_cons.1 h.apart).1
  apart := (List.pairwise_cons.1 h.apart).2
  gaps := by
    intro i c hi hc hout
    have hle : n ≤ x.stop :=
      Nat.le_trans (h.behind x (List.mem_cons_self ..))
        (Nat.le_of_lt (h.sits x (List.mem_cons_self ..)).nonempty)
    apply h.gaps i c (Nat.le_trans hle hi) hc
    intro y hy
    rcases List.mem_cons.1 hy with rfl | hy
    · omega
    · exact hout y hy

theorem eq_nil (h : Covers src n xs) (hn : src.length ≤ n) : xs = [] := by
  rcases xs with _ | ⟨x, xs⟩
  · rfl
  · have hx := h.sits x (List.mem_cons_self ..)
    have hstart := h.behind x (List.mem_cons_self ..)
    have hstop := hx.inside
    have hlt := hx.nonempty
    omega

theorem of_blank {c : Char} (h : Covers src n xs) (hc : src[n]? = some c)
    (hblank : isBlank c = true) : Covers src (n + 1) xs where
  sits := h.sits
  behind := by
    intro x hx
    -- A lexeme at the offset itself would start with white space.
    rcases Nat.eq_or_lt_of_le (h.behind x hx) with heq | hlt
    · rcases (h.sits x hx).startsWith with ⟨d, hd, hstart⟩
      rw [← heq, hc] at hd
      cases hd
      rw [hstart.isBlank] at hblank
      cases hblank
    · exact hlt
  apart := h.apart
  gaps := fun i d hi => h.gaps i d (Nat.le_of_succ_le hi)

/-- A character at the offset that is no white space starts the first lexeme. -/
theorem exists_cons {c : Char} (h : Covers src n xs) (hc : src[n]? = some c)
    (hblank : isBlank c = false) : ∃ x later, xs = x :: later ∧ x.start = n := by
  -- Some lexeme holds the character; the first one starts no later.
  have hcovered : ∃ x ∈ xs, x.start ≤ n ∧ n < x.stop := by
    by_contra hnone
    have hgap : isBlank c = true :=
      h.gaps n c (Nat.le_refl n) hc fun x hx hin => hnone ⟨x, hx, hin⟩
    rw [hblank] at hgap
    cases hgap
  rcases hcovered with ⟨x, hx, hstart, _⟩
  rcases xs with _ | ⟨y, later⟩
  · cases hx
  · refine ⟨y, later, rfl, ?_⟩
    have hy := h.behind y (List.mem_cons_self ..)
    have hne := (h.sits y (List.mem_cons_self ..)).nonempty
    rcases List.mem_cons.1 hx with rfl | hlater
    · omega
    · have hbefore := (List.pairwise_cons.1 h.apart).1 x hlater
      omega

/-- A cover is what its text is cut into. -/
theorem scanned (h : Covers src n xs) : Scanned false n (src.drop n) (xs.map (·.token)) := by
  -- By induction on what is left: white space is skipped, anything else is the first lexeme.
  induction hleft : src.length - n using Nat.strong_induction_on generalizing n xs with
  | _ left ih =>
    by_cases hn : src.length ≤ n
    · rw [h.eq_nil hn, List.drop_eq_nil_iff.2 hn]
      exact .nil
    · have hlt : n < src.length := Nat.lt_of_not_le hn
      have hc : src[n]? = some src[n] := List.getElem?_eq_getElem hlt
      by_cases hblank : isBlank src[n] = true
      · rw [List.drop_eq_getElem_cons hlt]
        exact .blank hblank (ih (src.length - (n + 1)) (by omega) (h.of_blank hc hblank) rfl)
      · rcases h.exists_cons hc (by simpa using hblank) with ⟨x, later, rfl, rfl⟩
        have hx : x.Sits src := h.sits x (List.mem_cons_self ..)
        have hlast := hx.nonempty
        exact hx.scanned (ih (src.length - x.stop) (by omega) h.tail rfl)

end Covers

/-! ## The cover of a text -/

/-- A text that has tokens has one cover, and its tokens are the ones found. -/
theorem tokenize_unique_cover {config : Config} {src : Text} {ts : List Token}
    (h : tokenize config src = .ok ts) :
    (∃ xs, Covers src 0 xs ∧ xs.map (·.token) = ts) ∧
      ∀ xs, Covers src 0 xs → xs.map (·.token) = ts := by
  have hscan : Scanned config.strictStrings 0 src ts := (tokenize_eq_ok_iff.1 h).2
  refine ⟨hscan.covers List.drop_zero, ?_⟩
  intro xs hxs
  have hother : Scanned false 0 src (xs.map (·.token)) := hxs.scanned
  exact hother.unique hscan.lenient

/-- A number, a name and a string whose quote is supplied, with nothing between them. -/
theorem unique_cover_of_unclosed :
    tokenize {} ['7', 'f', '"', '(', ')'] = .ok [⟨.number, ['7'], 0⟩, ⟨.identifier, ['f'], 1⟩,
        ⟨.string, ['"', '(', ')', '"'], 2⟩] ∧
      ∀ xs, Covers ['7', 'f', '"', '(', ')'] 0 xs → xs.map (·.token) = [⟨.number, ['7'], 0⟩,
        ⟨.identifier, ['f'], 1⟩, ⟨.string, ['"', '(', ')', '"'], 2⟩] := by
  have hseven : isDecimal '7' = true ∧ isDecimal 'f' = false := by decide +kernel
  have hf : isLetter 'f' = true ∧ isIdentifierChar '"' = false := by decide +kernel
  have hnumber : TokenKind.Spells .number ['7'] := ⟨by simp, by simp [hseven.1]⟩
  have hname : TokenKind.Spells .identifier ['f'] := ⟨'f', [], rfl, hf.1, by simp⟩
  have hstring : Scanned false 2 ['"', '(', ')'] [⟨.string, ['"', '(', ')', '"'], 2⟩] :=
    .unclosed rfl (show '"' ∉ ['(', ')'] by decide)
  have htokens : tokenize {} ['7', 'f', '"', '(', ')'] = .ok [⟨.number, ['7'], 0⟩,
      ⟨.identifier, ['f'], 1⟩, ⟨.string, ['"', '(', ')', '"'], 2⟩] := by
    refine tokenize_eq_ok_iff.2 ⟨by decide, .token hnumber ?_ (.token hname ?_ hstring)⟩
    · simpa [TokenKind.StopsBefore] using hseven.2
    · simpa [TokenKind.StopsBefore] using hf.2
  exact ⟨htokens, (tokenize_unique_cover htokens).2⟩

end SExpr
