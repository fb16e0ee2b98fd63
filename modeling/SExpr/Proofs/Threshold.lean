import SExpr.Proofs.Peak

/-!
# The limit on nesting

A limit on how deep lists may nest is a threshold. Without it some lists are open at any moment of
reading a value, and at some moment the most are. A limit that allows as many changes nothing. One
that allows fewer is met where a list more than it allows is opened for the first time. So a higher
limit only changes what comes of a list that was too deep.

The proof follows the runs under both limits at once: they have the same lists open as long as the
tokens taken rise no higher than the lower limit.
-/

namespace SExpr

/-! ## One token under two limits -/

namespace Progress

variable {limit wide : Int} {depth : Nat} {frames : List Frame} {t : Token}

/-- Only a token that opens a list looks at the limit. -/
theorem step_of_ne_openParen (hkind : t.kind ≠ .openParen) (limit wide : Int) :
    step limit depth frames t = step wide depth frames t := by
  cases hcases : t.kind with
  | openParen => exact absurd hcases hkind
  | _ => simp [step, hcases]

/-- A list is refused when as many are open as are allowed. -/
theorem step_of_full (hkind : t.kind = .openParen) (hfull : frames.length = limit.toNat) :
    step limit 0 frames t = .error (.depthExceeded limit t.position) := by
  have hdeep : limit < frames.length + 1 := by omega
  simp [step, hkind, hdeep]

/-- While no more lists are open than the limit allows, a token does the same as under a wider
limit, unless it opens a list when as many are open as are allowed. -/
theorem step_limit_cases (hle : frames.length ≤ limit.toNat)
    (hwide : (frames.length + 1 : Nat) ≤ wide) :
    (step limit 0 frames t = step wide 0 frames t ∧
      (t.kind = .openParen → frames.length < limit.toNat)) ∨
    (t.kind = .openParen ∧ frames.length = limit.toNat) := by
  by_cases hkind : t.kind = .openParen
  · rcases Nat.lt_or_eq_of_le hle with hfree | hfull
    · refine .inl ⟨?_, fun _ => hfree⟩
      rw [step_of_openParen hkind (by omega), step_of_openParen hkind (by omega)]
    · exact .inr ⟨hkind, hfull⟩
  · exact .inl ⟨step_of_ne_openParen hkind limit wide, fun h => absurd h hkind⟩

end Progress

/-! ## The lists that are open -/

namespace Cursor

/-- How many lists are open before each of the tokens that are taken, and where reading ends for
want of a token. -/
def openCounts (limit : Int) (frames : List Frame) : List Token → List Nat
  | [] => [frames.length]
  | t :: rest =>
    frames.length ::
      match Progress.step limit 0 frames t with
      | .ok (.within inner) => openCounts limit inner rest
      | .ok (.done _) | .error _ => []

/-- The most lists that are open at once while a value is read from the tokens and nothing limits
them: no more can be open than there are tokens. -/
def mostOpen (ts : List Token) : Nat :=
  (openCounts ts.length [] ts).foldr max 0

variable {limit wide : Int} {frames inner : List Frame} {t : Token} {taken us : List Token}

theorem length_mem_openCounts (limit : Int) (frames : List Frame) (us : List Token) :
    frames.length ∈ openCounts limit frames us := by
  cases us <;> exact List.mem_cons_self ..

theorem openCounts_of_within (hstep : Progress.step limit 0 frames t = .ok (.within inner))
    (us : List Token) :
    openCounts limit frames (t :: us) = frames.length :: openCounts limit inner us := by
  rw [openCounts, hstep]

theorem openCounts_of_stops (hstep : ∀ inner, Progress.step limit 0 frames t ≠ .ok (.within inner))
    (us : List Token) : openCounts limit frames (t :: us) = [frames.length] := by
  rw [openCounts]
  split
  · next inner h => exact absurd h (hstep inner)
  · rfl
  · rfl

/-- With room for any list, what a token does is what comes next. -/
theorem readWithin_none (limit : Int) (depth : Nat) (frames : List Frame) (index : Nat) (t : Token)
    (us : List Token) :
    readWithin limit none depth frames index (t :: us) =
      match Progress.step limit depth frames t with
      | .error cause =>
        let refused := if t.kind = .openParen then 1 else 0
        (.error cause, ⟨index + 1, depth + frames.length + refused, us⟩)
      | .ok p => proceed limit none depth p (index + 1) us := by
  rw [readWithin]
  cases hstep : Progress.step limit depth frames t with
  | error cause => simp [Frame.full]
  | ok p => cases p <;> simp [Frame.full, proceed]

/-- Where nothing limits them, as many lists come to be open as the tokens taken rise. -/
theorem foldr_openCounts (hopened : Opened frames taken)
    (hwide : (frames.length + us.length : Nat) ≤ wide) (index : Nat) :
    ∃ used left, us = used ++ left ∧
      (readWithin wide none 0 frames index us).2.index = index + used.length ∧
        ((openCounts wide frames us).foldr max 0 : Nat) = frames.length + peak used := by
  induction us generalizing frames taken index with
  | nil => exact ⟨[], [], rfl, rfl, by simp [openCounts]⟩
  | cons t us ih =>
    rw [List.length_cons] at hwide
    -- Nothing is refused for its depth, so a token behind which reading stops opens no list.
    have hstops : (∀ inner, Progress.step wide 0 frames t ≠ .ok (.within inner)) →
        ((openCounts wide frames (t :: us)).foldr max 0 : Nat) = frames.length + peak [t] := by
      intro hnone
      have hlevel : level [t] ≤ 0 := by
        apply Token.level_nonpos
        intro hkind
        exact hnone _ (Progress.step_of_openParen hkind (by omega))
      rw [openCounts_of_stops hnone, peak_singleton, Int.max_eq_left hlevel]
      simp
    rw [readWithin_none]
    cases hstep : Progress.step wide 0 frames t with
    | error cause => exact ⟨[t], us, rfl, rfl, hstops (by simp [hstep])⟩
    | ok p =>
      cases p with
      | done v => exact ⟨[t], us, rfl, rfl, hstops (by simp [hstep])⟩
      | within inner =>
        have hlength := hopened.length_of_step hstep
        have hrises := t.level_le_one
        rcases ih (hopened.step hstep) (by omega) (index + 1) with
          ⟨used, left, rfl, hindex, hpeak⟩
        refine ⟨t :: used, left, rfl, ?_, ?_⟩
        · calc
            (readWithin wide none 0 inner (index + 1) (used ++ left)).2.index
                = index + 1 + used.length := hindex
            _ = index + (t :: used).length := by
              rw [List.length_cons, Nat.add_right_comm, Nat.add_assoc]
        · rw [openCounts_of_within hstep, List.foldr_cons, Nat.cast_max, hpeak, peak, hlength]
          omega

end Cursor

/-- The most lists that are open are as many as the tokens rise that are taken. -/
theorem isGreatest_mostOpen (ts : List Token) :
    IsGreatest {l | ∃ k ≤ ((Cursor.ofTokens ts).expression ts.length none).2.index,
      level (ts.take k) = l} (Cursor.mostOpen ts : Int) := by
  have hwide : (([] : List Frame).length + ts.length : Nat) ≤ (ts.length : Int) := by simp
  rcases Cursor.foldr_openCounts .nil hwide 0 with ⟨used, left, hts, hindex, hpeak⟩
  have hmost : (Cursor.mostOpen ts : Int) = peak used := by
    rw [Cursor.mostOpen, hpeak]
    simp
  have htaken : ((Cursor.ofTokens ts).expression ts.length none).2.index = used.length :=
    hindex.trans (Nat.zero_add _)
  rw [hmost, htaken, hts]
  exact isGreatest_peak used left

/-! ## Two runs -/

/-- The token at the index opens the list with which so many are open, and none before it did. -/
structure Token.FirstToReach (ts : List Token) (n : Int) (j : Nat) (t : Token) : Prop where
  token : ts[j]? = some t
  opening : t.kind = .openParen
  reached : levelAt ts j = n
  before : ∀ i < j, levelAt ts i < n

namespace Opened

variable {frames : List Frame} {taken : List Token} {t : Token} {bound : Nat}

/-- The tokens taken rise as high as lists are open behind them. -/
theorem length_le_peak (h : Opened frames taken) : (frames.length : Int) ≤ peak taken := by
  have hall := level_take_le_peak taken taken.length
  rwa [List.take_length, h.level_eq] at hall

/-- The tokens rise no higher than the bound as long as no list more than it is opened. -/
theorem peak_append_le (h : Opened frames taken) (hpeak : peak taken ≤ bound)
    (hfree : t.kind = .openParen → frames.length < bound) : peak (taken ++ [t]) ≤ bound := by
  have hlength := h.length_le_peak
  have hrises : (frames.length : Int) + level [t] ≤ bound := by
    by_cases hkind : t.kind = .openParen
    · have hlt := hfree hkind
      rw [Token.level_openParen hkind]
      omega
    · have hfalls := Token.level_nonpos hkind
      omega
  rw [peak_append, peak_singleton, h.level_eq]
  omega

/-- A list opened when as many are open as there ever were makes more of them than before. -/
theorem firstToReach (h : Opened frames taken) (hpeak : peak taken ≤ frames.length)
    (hkind : t.kind = .openParen) (us : List Token) :
    Token.FirstToReach (taken ++ t :: us) (frames.length + 1) taken.length t where
  token := by simp
  opening := hkind
  reached := by rw [levelAt_append_cons, level_append, h.level_eq, Token.level_openParen hkind]
  before := by
    intro i hi
    have hlevel : levelAt taken i ≤ peak taken := level_take_le_peak taken (i + 1)
    rw [levelAt_append_left hi]
    omega

end Opened

namespace Cursor

variable {limit wide : Int} {capacity : Option Nat} {frames inner : List Frame} {t : Token}
  {taken us : List Token} {index : Nat}

/-- Runs are the same when they do the same with a token and are the same behind it. -/
theorem readWithin_congr (hsame : Progress.step limit 0 frames t = Progress.step wide 0 frames t)
    (hnext : ∀ inner, Progress.step wide 0 frames t = .ok (.within inner) →
      readWithin limit capacity 0 inner (index + 1) us =
        readWithin wide capacity 0 inner (index + 1) us) :
    readWithin limit capacity 0 frames index (t :: us) =
      readWithin wide capacity 0 frames index (t :: us) := by
  rw [readWithin, readWithin, hsame]
  cases hstep : Progress.step wide 0 frames t with
  | error cause => rfl
  | ok p =>
    cases p with
    | done v => rfl
    | within inner => simp only [hnext inner hstep]

/-- The lists that come to be open under a wider limit are allowed, and the run is the same. -/
structure Allows (limit wide : Int) (frames : List Frame) (us : List Token) : Prop where
  counts : ∀ n ∈ openCounts wide frames us, n ≤ limit.toNat
  runs : ∀ capacity index,
    readWithin limit capacity 0 frames index us = readWithin wide capacity 0 frames index us

/-- More lists come to be open under a wider limit than are allowed, and the first one too many is
refused. -/
structure Refuses (limit wide : Int) (frames : List Frame) (taken us : List Token) : Prop where
  counts : ∃ n ∈ openCounts wide frames us, limit.toNat < n
  refused : ∃ j t, Token.FirstToReach (taken ++ us) (limit.toNat + 1) j t ∧ ∀ index,
    (readWithin limit none 0 frames index us).1 = .error (.depthExceeded limit t.position)

/-- What is allowed behind a token is allowed with it. -/
theorem Allows.cons (h : Allows limit wide inner us) (hle : frames.length ≤ limit.toNat)
    (hsame : Progress.step limit 0 frames t = Progress.step wide 0 frames t)
    (hstep : Progress.step wide 0 frames t = .ok (.within inner)) :
    Allows limit wide frames (t :: us) where
  counts := by
    rw [openCounts_of_within hstep]
    exact List.forall_mem_cons.2 ⟨hle, h.counts⟩
  runs := by
    intro capacity index
    apply readWithin_congr hsame
    intro inner' hstep'
    cases hstep.symm.trans hstep'
    exact h.runs capacity (index + 1)

/-- Nothing is open behind a token where reading stops. -/
theorem allows_of_stops (hle : frames.length ≤ limit.toNat)
    (hsame : Progress.step limit 0 frames t = Progress.step wide 0 frames t)
    (hstops : ∀ inner, Progress.step wide 0 frames t ≠ .ok (.within inner)) (us : List Token) :
    Allows limit wide frames (t :: us) where
  counts := by simpa [openCounts_of_stops hstops] using hle
  runs := by
    intro capacity index
    exact readWithin_congr hsame fun inner hstep => absurd hstep (hstops inner)

/-- What is refused behind a token is refused with it. -/
theorem Refuses.cons (h : Refuses limit wide inner (taken ++ [t]) us)
    (hsame : Progress.step limit 0 frames t = Progress.step wide 0 frames t)
    (hstep : Progress.step wide 0 frames t = .ok (.within inner)) :
    Refuses limit wide frames taken (t :: us) where
  counts := by
    rcases h.counts with ⟨n, hn, hlt⟩
    rw [openCounts_of_within hstep]
    exact ⟨n, List.mem_cons_of_mem _ hn, hlt⟩
  refused := by
    rcases h.refused with ⟨j, u, hfirst, hdeep⟩
    refine ⟨j, u, by simpa using hfirst, ?_⟩
    intro index
    rw [readWithin_none, hsame, hstep]
    exact hdeep (index + 1)

/-- A list is refused when as many are open as there ever were and are allowed. -/
theorem refuses_of_full (hopened : Opened frames taken) (hpeak : peak taken ≤ frames.length)
    (hkind : t.kind = .openParen) (hfull : frames.length = limit.toNat)
    (hwide : (frames.length + 1 : Nat) ≤ wide) (us : List Token) :
    Refuses limit wide frames taken (t :: us) where
  counts := by
    have hopens : Progress.step wide 0 frames t = .ok (.within (⟨t.position, []⟩ :: frames)) :=
      Progress.step_of_openParen hkind (by simpa using hwide)
    have hone : frames.length + 1 ∈ openCounts wide (⟨t.position, []⟩ :: frames) us :=
      length_mem_openCounts wide _ us
    rw [openCounts_of_within hopens, ← hfull]
    exact ⟨_, List.mem_cons_of_mem _ hone, Nat.lt_succ_self _⟩
  refused := by
    refine ⟨taken.length, t, hfull ▸ hopened.firstToReach hpeak hkind us, ?_⟩
    intro index
    rw [readWithin_none, Progress.step_of_full hkind hfull]

/-- A limit either allows a run within a wider limit that never shows, or it refuses a list. -/
theorem allows_or_refuses (hopened : Opened frames taken) (hpeak : peak taken ≤ limit.toNat)
    (hwide : (frames.length + us.length : Nat) ≤ wide) :
    Allows limit wide frames us ∨ Refuses limit wide frames taken us := by
  -- By induction on the tokens that are left. Those taken keep the two runs in step: as long as
  -- they rise no higher than the limit allows, the same lists are open in both.
  induction us generalizing frames taken with
  | nil =>
    have hlength := hopened.length_le_peak
    refine .inl ⟨?_, fun capacity index => rfl⟩
    intro n hn
    rw [openCounts, List.mem_singleton] at hn
    omega
  | cons t us ih =>
    rw [List.length_cons] at hwide
    have hnext : (frames.length + 1 : Nat) ≤ wide := by omega
    have hle : frames.length ≤ limit.toNat := by
      have hlength := hopened.length_le_peak
      omega
    rcases Progress.step_limit_cases hle hnext with ⟨hsame, hfree⟩ | ⟨hkind, hfull⟩
    · by_cases hgoes : ∃ inner, Progress.step wide 0 frames t = .ok (.within inner)
      · rcases hgoes with ⟨inner, hstep⟩
        have hlength := hopened.length_of_step hstep
        have hrises := t.level_le_one
        rcases ih (hopened.step hstep) (hopened.peak_append_le hpeak hfree) (by omega) with
          hallows | hrefuses
        · exact .inl (hallows.cons hle hsame hstep)
        · exact .inr (hrefuses.cons hsame hstep)
      · exact .inl (allows_of_stops hle hsame (not_exists.1 hgoes) us)
    · exact .inr (refuses_of_full hopened (hfull ▸ hpeak) hkind hfull hnext us)

/-- Either no more lists come to be open than the limit allows and it changes nothing, or the first
one too many is refused. -/
theorem expression_limit_cases (limit : Int) (ts : List Token) :
    (mostOpen ts ≤ limit.toNat ∧ ∀ capacity,
      (ofTokens ts).expression limit capacity = (ofTokens ts).expression ts.length capacity) ∨
    (limit.toNat < mostOpen ts ∧ ∃ j t, Token.FirstToReach ts (max limit 0 + 1) j t ∧
      ((ofTokens ts).expression limit none).1 = .error (.depthExceeded limit t.position)) := by
  have hpeak : peak ([] : List Token) ≤ limit.toNat := Int.natCast_nonneg _
  have hwide : (([] : List Frame).length + ts.length : Nat) ≤ (ts.length : Int) := by simp
  rcases allows_or_refuses .nil hpeak hwide with hallows | hrefuses
  · refine .inl ⟨Tree.foldr_max_le_iff.2 hallows.counts, ?_⟩
    intro capacity
    exact hallows.runs capacity 0
  · rcases hrefuses.counts with ⟨n, hn, hlt⟩
    rcases hrefuses.refused with ⟨j, t, hfirst, hdeep⟩
    have hall : n ≤ mostOpen ts := Tree.foldr_max_le_iff.1 (Nat.le_refl _) n hn
    -- A limit below zero allows as much as zero does.
    exact .inr ⟨by omega, j, t, by simpa [Int.toNat_eq_max] using hfirst, hdeep 0⟩

end Cursor

/-- The limit on nesting is a threshold. Some lists are the most that are ever open at once when
nothing limits them. It changes nothing when as many are allowed, or none is opened at all.
Otherwise the first list that is more than it allows is refused. So no higher limit changes what
comes of tokens whose lists are not too deep. -/
theorem parse_limit_threshold (config : Config) (ts : List Token) (limit : Int) :
    IsGreatest {l | ∃ k ≤ ((Cursor.ofTokens ts).expression ts.length none).2.index,
      level (ts.take k) = l} (Cursor.mostOpen ts : Int) ∧
    (Cursor.mostOpen ts = 0 ∨ Cursor.mostOpen ts ≤ limit →
      parseFrom { config with maxDepth := limit } ts =
        parseFrom { config with maxDepth := ts.length } ts) ∧
    ((Cursor.ofTokens ts).HasRoom limit config.capacity →
      (Cursor.mostOpen ts ≠ 0 → limit < Cursor.mostOpen ts →
        ∃ j t, Token.FirstToReach ts (max limit 0 + 1) j t ∧
          parse { config with maxDepth := limit } ts = .error (.depthExceeded limit t.position)) ∧
      ((∀ other position, parse { config with maxDepth := limit } ts ≠
          .error (.depthExceeded other position)) →
        ∀ higher, limit ≤ higher → parseFrom { config with maxDepth := higher } ts =
          parseFrom { config with maxDepth := limit } ts)) := by
  refine ⟨isGreatest_mostOpen ts, ?_, fun hroom => ⟨?_, ?_⟩⟩
  · intro hallowed
    rcases Cursor.expression_limit_cases limit ts with ⟨_, hruns⟩ | ⟨hlt, _⟩
    · exact hruns config.capacity
    · omega
  · intro hopens hlt
    rcases Cursor.expression_limit_cases limit ts with ⟨hle, _⟩ | ⟨_, j, t, hfirst, hdeep⟩
    · omega
    · refine ⟨j, t, hfirst, ?_⟩
      rw [← Cursor.expression_eq_of_hasRoom hroom] at hdeep
      exact hdeep
  · intro hallowed higher hhigher
    rcases Cursor.expression_limit_cases limit ts with ⟨hle, hruns⟩ | ⟨_, j, t, _, hdeep⟩
    · rcases Cursor.expression_limit_cases higher ts with ⟨_, hruns'⟩ | ⟨hlt, _⟩
      · exact (hruns' config.capacity).trans (hruns config.capacity).symm
      · omega
    · rw [← Cursor.expression_eq_of_hasRoom hroom] at hdeep
      exact absurd hdeep (hallowed limit t.position)

/-- Of `(()` the second list is too deep when one may be open. When two may be, the first one is not
closed, and so it is however many more may be open. -/
theorem limit_threshold_of_unclosed :
    let ts : List Token := [⟨.openParen, ['('], 0⟩, ⟨.openParen, ['('], 1⟩, ⟨.closeParen, [')'], 2⟩]
    Cursor.mostOpen ts = 2 ∧
      parseFrom { maxDepth := 2 } ts = parseFrom { maxDepth := 3 } ts ∧
      (∃ j t, Token.FirstToReach ts 2 j t ∧
        parse { maxDepth := 1 } ts = .error (.depthExceeded 1 t.position)) ∧
      ∀ higher, 2 ≤ higher →
        parseFrom { maxDepth := higher } ts = (.error (.missingClose 0), ⟨3, 1, []⟩) := by
  intro ts
  have hmost : Cursor.mostOpen ts = 2 := by rfl
  have hroom : ∀ limit < 1000, (Cursor.ofTokens ts).HasRoom limit (some 1000) := by
    intro limit hlimit
    refine Cursor.hasRoom_of_limit_lt ?_ _
    simpa using hlimit
  have hone := (parse_limit_threshold {} ts 1).2.2 (hroom 1 (by decide))
  have htwo := (parse_limit_threshold {} ts 2).2.2 (hroom 2 (by decide))
  refine ⟨hmost, ?_, hone.1 (by simp [hmost]) (by simp [hmost]), htwo.2 fun _ _ h => by cases h⟩
  exact (parse_limit_threshold {} ts 2).2.1 (.inr (by simp [hmost]))

end SExpr
