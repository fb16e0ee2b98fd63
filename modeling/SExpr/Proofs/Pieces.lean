import SExpr.Proofs.Scanned

/-!
# Texts in pieces

Every text falls into white space and tokens, up to its end, a character that starts no token, or a
string that no quote closes. So what holds of these last pieces, and passes from a text to a longer one
with one more piece in front, holds of every text. How a scan goes on behind a piece is said beside the
scan; together the two replace a look into the scanner.
-/

namespace SExpr

/-- A lenient scan takes a token wherever one starts. -/
theorem Scanner.exists_takeToken (s : Scanner) (kind : TokenKind) :
    ∃ taken next, s.takeToken false kind = .ok (taken, next) := by
  cases kind with
  | string =>
    simp only [takeToken, takeString]
    split <;> exact ⟨_, _, rfl⟩
  | _ => exact ⟨_, _, rfl⟩

/-- Induction on the pieces of a text, whether or not it can be scanned to its end. -/
@[elab_as_elim]
theorem inductionOnPieces {motive : Text → Prop} (nil : motive [])
    (blank : ∀ c rest, isBlank c = true → motive rest → motive (c :: rest))
    (unexpected : ∀ c rest, isBlank c = false → TokenKind.starting? c = none → motive (c :: rest))
    (token : ∀ kind s rest, TokenKind.Spells kind s → TokenKind.StopsBefore kind rest →
      motive rest → motive (s ++ rest))
    (unclosed : ∀ body, '"' ∉ body → motive ('"' :: body)) (src : Text) : motive src := by
  induction hlength : src.length using Nat.strong_induction_on generalizing src with
  | _ length ih =>
    rcases src with _ | ⟨c, after⟩
    · exact nil
    cases hblank : isBlank c with
    | true => exact blank c after hblank (ih after.length (by simp [← hlength]) after rfl)
    | false =>
      cases hk : TokenKind.starting? c with
      | none => exact unexpected c after hblank hk
      | some kind =>
        -- What a lenient scan takes here is the next piece.
        rcases Scanner.exists_takeToken ⟨0, c :: after⟩ kind with ⟨taken, next, htake⟩
        have hstart : kind.StartsWith c := TokenKind.starting?_eq_some_iff.1 hk
        rcases Scanner.takeToken_eq_ok hstart htake with
          ⟨rest, hsplit, _, hspell, hstop⟩ | ⟨_, _, hbody, hfirst, _, _⟩
        · have hshorter : rest.length < length := by
            have hpos : 0 < taken.length := List.length_pos_iff.2 hspell.ne_nil
            rw [← hlength, hsplit, List.length_append]
            omega
          rw [hsplit]
          exact token kind taken rest hspell hstop (ih rest.length hshorter rest rfl)
        · rw [hfirst]
          exact unclosed after hbody

end SExpr
