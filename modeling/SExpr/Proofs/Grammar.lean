import SExpr.Cursor
import SExpr.Proofs.Numeral
import SExpr.Proofs.Tree

/-!
# The grammar of values

A value is a single token or a list of values between parentheses; only the kinds of tokens decide.
The cursor reads exactly what the grammar derives, as far as lists nest no deeper than they may, and
what it reads is determined by the tokens: no two prefixes of a sequence both derive a value.

The proof follows the stack of open lists. `Opened` ties it to the tokens taken so far, and `Bounded`
to the limits; one step keeps both, so a whole run does.
-/

namespace SExpr

/-! ## Derivations -/

/-- The atom that a token stands for by itself. -/
inductive Token.StandsFor (t : Token) : Atom → Prop where
  | number {n : Nat} : t.kind = .number → Numeral.Denotes t.text n → StandsFor t (.int n)
  | identifier : t.kind = .identifier → StandsFor t (.sym t.text .identifier)
  | operator : t.kind = .operator → StandsFor t (.sym t.text .operator)
  | string : t.kind = .string → StandsFor t (.str t.text)

/-- The tokens derive the value. A list is derived by an opening parenthesis, the parts that derive
its items one after the other, and a closing parenthesis. -/
inductive Derives : List Token → Value → Prop where
  | atom {t : Token} {a : Atom} : t.StandsFor a → Derives [t] (.atom a)
  | list {opening closing : Token} {parts : List (List Token × Value)} :
      opening.kind = .openParen → (∀ p ∈ parts, Derives p.1 p.2) → closing.kind = .closeParen →
      Derives (opening :: (parts.flatMap Prod.fst ++ [closing])) (.list (parts.map Prod.snd))

/-! ## Limits -/

/-- A value may be read inside `level` open lists, which stand inside `depth` others: there is room for
the lists around its innermost item, and unless it is an atom, its lists nest within the limit. -/
structure Admits (limit : Int) (capacity : Option Nat) (depth level : Nat) (v : Value) : Prop where
  held : ∀ c ∈ capacity, level + v.height < c
  allowed : (∃ a, v = .atom a) ∨ (depth + level + v.depth : Nat) ≤ limit

section Admits

variable {limit : Int} {capacity : Option Nat} {depth level : Nat}

theorem admits_atom_iff {a : Atom} :
    Admits limit capacity depth level (.atom a) ↔ ∀ c ∈ capacity, level < c := by
  constructor
  · intro h c hc
    simpa using h.held c hc
  · intro h
    refine ⟨?_, .inl ⟨a, rfl⟩⟩
    intro c hc
    simpa using h c hc

/-- A list may be read when it may be opened and each of its items may be read inside it. -/
theorem admits_list_iff {items : List Value} :
    Admits limit capacity depth level (.list items) ↔
      (∀ c ∈ capacity, level < c) ∧ (depth + level + 1 : Nat) ≤ limit ∧
        ∀ t ∈ items, Admits limit capacity depth (level + 1) t := by
  constructor
  · intro h
    have hlimit : (depth + level + (Tree.list items).depth : Nat) ≤ limit := by
      rcases h.allowed with ⟨a, ha⟩ | hle
      · cases ha
      · exact hle
    rcases Tree.add_depth_list_le_iff.1 hlimit with ⟨hfirst, hnested⟩
    refine ⟨?_, hfirst, ?_⟩
    · intro c hc
      exact (Tree.add_height_list_lt_iff.1 (h.held c hc)).1
    · intro t ht
      refine ⟨?_, .inr (hnested t ht)⟩
      intro c hc
      exact (Tree.add_height_list_lt_iff.1 (h.held c hc)).2 t ht
  · rintro ⟨hheld, hlimit, hitems⟩
    refine ⟨?_, .inr (Tree.add_depth_list_le_iff.2 ⟨hlimit, ?_⟩)⟩
    · intro c hc
      exact Tree.add_height_list_lt_iff.2 ⟨hheld c hc, fun t ht => (hitems t ht).held c hc⟩
    · intro t ht
      rcases (hitems t ht).allowed with ⟨a, rfl⟩ | hle
      · simpa using hlimit
      · exact hle

theorem admits_map_iff {f : Atom → Atom} {v : Value} :
    Admits limit capacity depth level (v.map f) ↔ Admits limit capacity depth level v := by
  constructor
  · rintro ⟨hheld, hallowed⟩
    rw [Tree.isAtom_map_iff, Tree.depth_map] at hallowed
    rw [Tree.height_map] at hheld
    exact ⟨hheld, hallowed⟩
  · rintro ⟨hheld, hallowed⟩
    rw [← Tree.isAtom_map_iff (f := f), ← Tree.depth_map f] at hallowed
    rw [← Tree.height_map f] at hheld
    exact ⟨hheld, hallowed⟩

end Admits

/-! ## One token -/

namespace Progress

variable {limit : Int} {depth : Nat} {frames : List Frame} {t : Token} {p : Progress}

/-- What a token does to the open lists when it is accepted: it is an atom, opens a list or closes
the innermost one. -/
theorem step_cases (h : step limit depth frames t = .ok p) :
    (∃ a, t.StandsFor a ∧ p = place (.atom a) frames) ∨
    (t.kind = .openParen ∧ (depth + frames.length + 1 : Nat) ≤ limit ∧
      p = .within (⟨t.position, []⟩ :: frames)) ∨
    (t.kind = .closeParen ∧ ∃ inner outer, frames = inner :: outer ∧
      p = place (.list inner.items.reverse) outer) := by
  unfold step at h
  split at h
  · next hkind =>
    split at h
    · cases h
    · cases h
      exact .inr (.inl ⟨hkind, by omega, rfl⟩)
  · next hkind =>
    split at h
    · cases h
    · next inner outer =>
      cases h
      exact .inr (.inr ⟨hkind, inner, outer, rfl, rfl⟩)
  · next hkind =>
    cases hn : t.integer with
    | error cause =>
      rw [hn] at h
      cases h
    | ok n =>
      rw [hn] at h
      cases h
      exact .inl ⟨.int n, .number hkind (Token.integer_eq_ok_iff.1 hn), rfl⟩
  · next hkind =>
    cases h
    rw [hkind]
    exact .inl ⟨_, .identifier hkind, rfl⟩
  · next hkind =>
    cases h
    rw [hkind]
    exact .inl ⟨_, .operator hkind, rfl⟩
  · next hkind =>
    cases h
    exact .inl ⟨_, .string hkind, rfl⟩

theorem step_of_standsFor {a : Atom} (h : t.StandsFor a) :
    step limit depth frames t = .ok (place (.atom a) frames) := by
  cases h with
  | number hkind hn => simp [step, hkind, Token.integer_eq_ok_iff.2 hn, Except.map]
  | identifier hkind => simp [step, hkind]
  | operator hkind => simp [step, hkind]
  | string hkind => simp [step, hkind]

theorem step_of_openParen (hkind : t.kind = .openParen)
    (hlimit : (depth + frames.length + 1 : Nat) ≤ limit) :
    step limit depth frames t = .ok (.within (⟨t.position, []⟩ :: frames)) := by
  have hnot : ¬ limit < depth + frames.length + 1 := by omega
  simp [step, hkind, hnot]

theorem step_of_closeParen {inner : Frame} (hkind : t.kind = .closeParen) :
    step limit depth (inner :: frames) t = .ok (place (.list inner.items.reverse) frames) := by
  simp [step, hkind]

end Progress

/-! ## The stack of open lists -/

/-- The open lists, innermost first, are what the tokens taken so far leave open: behind each opening
parenthesis stand the parts that derive the items read so far. -/
inductive Opened : List Frame → List Token → Prop where
  | nil : Opened [] []
  | cons {frame : Frame} {outer : List Frame} {taken : List Token} {opening : Token}
      {parts : List (List Token × Value)} :
      Opened outer taken → opening.kind = .openParen → opening.position = frame.opened →
      (∀ p ∈ parts, Derives p.1 p.2) → frame.items.reverse = parts.map Prod.snd →
      Opened (frame :: outer) (taken ++ opening :: parts.flatMap Prod.fst)

/-- The tokens taken so far lead to the progress. -/
def Progress.After (taken : List Token) : Progress → Prop
  | .done v => Derives taken v
  | .within frames => Opened frames taken

namespace Opened

variable {frames : List Frame} {taken us : List Token} {v : Value}

/-- A value read next is one more item of the innermost list, or the value wanted. -/
theorem place (h : Opened frames taken) (hv : Derives us v) :
    (Progress.place v frames).After (taken ++ us) := by
  cases h with
  | nil => exact hv
  | @cons inner outer taken opening parts houter hkind hposition hparts hitems =>
    have hlast : ∀ p ∈ parts ++ [(us, v)], Derives p.1 p.2 := by
      intro p hp
      rcases List.mem_append.1 hp with hp | hp
      · exact hparts p hp
      · rcases List.mem_singleton.1 hp with rfl
        exact hv
    -- The value becomes the last part behind the innermost opening parenthesis.
    have hnext : Opened ({ inner with items := v :: inner.items } :: outer)
        (taken ++ opening :: (parts ++ [(us, v)]).flatMap Prod.fst) :=
      .cons houter hkind hposition hlast (by simp [hitems])
    simpa [Progress.place, Progress.After] using hnext

/-- A token accepted keeps the stack in step with the tokens. -/
theorem step {limit : Int} {depth : Nat} {t : Token} {p : Progress} (h : Opened frames taken)
    (hstep : Progress.step limit depth frames t = .ok p) : p.After (taken ++ [t]) := by
  rcases Progress.step_cases hstep with
    ⟨a, ha, rfl⟩ | ⟨hkind, _, rfl⟩ | ⟨hkind, inner, outer, rfl, rfl⟩
  · exact h.place (.atom ha)
  · have hnone : ∀ p ∈ ([] : List (List Token × Value)), Derives p.1 p.2 := by simp
    exact .cons h hkind rfl hnone rfl
  -- A closing parenthesis completes the derivation of the innermost list.
  · cases h with
    | @cons _ _ taken opening parts houter hopen _ hparts hitems =>
      have hlist : Derives (opening :: (parts.flatMap Prod.fst ++ [t]))
          (.list inner.items.reverse) := by
        rw [hitems]
        exact .list hopen hparts hkind
      simpa using houter.place hlist

end Opened

/-- The open lists are within the limits, and so is each of their items where it stands. -/
def Frame.Bounded (limit : Int) (capacity : Option Nat) (depth : Nat) : List Frame → Prop
  | [] => True
  | inner :: outer =>
    (∀ c ∈ capacity, outer.length < c) ∧ (depth + outer.length + 1 : Nat) ≤ limit ∧
      (∀ v ∈ inner.items, Admits limit capacity depth (outer.length + 1) v) ∧
        Bounded limit capacity depth outer

/-- The progress is within the limits. -/
def Progress.Bounded (limit : Int) (capacity : Option Nat) (depth : Nat) : Progress → Prop
  | .done v => Admits limit capacity depth 0 v
  | .within frames => Frame.Bounded limit capacity depth frames

namespace Frame.Bounded

variable {limit : Int} {capacity : Option Nat} {depth : Nat} {frames : List Frame} {v : Value}

theorem place (h : Bounded limit capacity depth frames)
    (hv : Admits limit capacity depth frames.length v) :
    (Progress.place v frames).Bounded limit capacity depth := by
  cases frames with
  | nil => exact hv
  | cons inner outer =>
    rcases h with ⟨hheld, hlimit, hitems, houter⟩
    exact ⟨hheld, hlimit, List.forall_mem_cons.2 ⟨hv, hitems⟩, houter⟩

/-- A token accepted keeps the stack within the limits, if there is room for what it opens or is. -/
theorem step {t : Token} {p : Progress} (h : Bounded limit capacity depth frames)
    (hroom : t.kind ≠ .closeParen → ∀ c ∈ capacity, frames.length < c)
    (hstep : Progress.step limit depth frames t = .ok p) : p.Bounded limit capacity depth := by
  rcases Progress.step_cases hstep with
    ⟨a, ha, rfl⟩ | ⟨hkind, hlimit, rfl⟩ | ⟨hkind, inner, outer, rfl, rfl⟩
  -- Only a closing parenthesis is taken when there is no room.
  · have hnot : t.kind ≠ .closeParen := by
      cases ha <;> simp_all
    exact h.place (admits_atom_iff.2 (hroom hnot))
  · exact ⟨hroom (by simp [hkind]), hlimit, by simp, h⟩
  · rcases h with ⟨hheld, hlimit, hitems, houter⟩
    refine houter.place (admits_list_iff.2 ⟨hheld, hlimit, ?_⟩)
    intro v hv
    exact hitems v (List.mem_reverse.1 hv)

end Frame.Bounded

/-! ## A run of the cursor -/

namespace Cursor

variable {limit : Int} {capacity : Option Nat} {depth index : Nat} {frames : List Frame}
  {us rest : List Token} {t : Token} {v : Value} {p : Progress}

/-- Go on from the progress made. -/
def proceed (limit : Int) (capacity : Option Nat) (depth : Nat) :
    Progress → Nat → List Token → Except ParseError Value × Cursor
  | .done v, index, rest => (.ok v, ⟨index, depth, rest⟩)
  | .within frames, index, rest => readWithin limit capacity depth frames index rest

theorem not_full_iff : Frame.full capacity frames = false ↔ ∀ c ∈ capacity, frames.length < c := by
  cases capacity <;> simp [Frame.full]

theorem readWithin_of_step (hroom : t.kind ≠ .closeParen → ∀ c ∈ capacity, frames.length < c)
    (hstep : Progress.step limit depth frames t = .ok p) :
    readWithin limit capacity depth frames index (t :: rest) =
      proceed limit capacity depth p (index + 1) rest := by
  have hguard : (Frame.full capacity frames && t.kind != .closeParen) = false := by
    by_cases hkind : t.kind = .closeParen
    · simp [hkind]
    · simp [not_full_iff.2 (hroom hkind)]
  rw [readWithin, hguard, hstep]
  cases p <;> rfl

theorem step_of_readWithin {after : Cursor}
    (h : readWithin limit capacity depth frames index (t :: rest) = (.ok v, after)) :
    (t.kind ≠ .closeParen → ∀ c ∈ capacity, frames.length < c) ∧
      ∃ p, Progress.step limit depth frames t = .ok p ∧
        proceed limit capacity depth p (index + 1) rest = (.ok v, after) := by
  rw [readWithin] at h
  split at h
  · cases h
  · next hguard =>
    refine ⟨?_, ?_⟩
    · intro hkind
      apply not_full_iff.1
      simpa [hkind] using hguard
    · split at h
      · cases h
      · next w hw => exact ⟨_, hw, h⟩
      · next inner hw => exact ⟨_, hw, h⟩

/-- What a run gives is derived by the tokens it has taken, and within the limits. -/
theorem derives_of_readWithin {taken : List Token} {after : Cursor}
    (h : readWithin limit capacity depth frames index us = (.ok v, after))
    (hopened : Opened frames taken) (hbounded : Frame.Bounded limit capacity depth frames) :
    ∃ used, us = used ++ after.rest ∧ Derives (taken ++ used) v ∧ Admits limit capacity depth 0 v ∧
      after.index = index + used.length ∧ after.depth = depth := by
  -- By induction on the tokens; the stack, and the tokens taken to get there, change with each step.
  induction us generalizing frames index taken with
  | nil => cases h
  | cons t us ih =>
    rcases step_of_readWithin h with ⟨hroom, p, hstep, hproceed⟩
    have hafter : p.After (taken ++ [t]) := hopened.step hstep
    have hwithin : p.Bounded limit capacity depth := hbounded.step hroom hstep
    cases p with
    | done w =>
      cases hproceed
      exact ⟨[t], rfl, hafter, hwithin, rfl, rfl⟩
    | within inner =>
      rcases ih hproceed hafter hwithin with ⟨used, hus, hderives, hadmits, hindex, hdepth⟩
      refine ⟨t :: used, by rw [hus, List.cons_append], by simpa using hderives, hadmits, ?_, hdepth⟩
      rw [hindex, List.length_cons]
      omega

/-- The cursor reads the value from the tokens wherever it may be read. -/
def Reads (limit : Int) (capacity : Option Nat) (depth : Nat) (us : List Token) (v : Value) : Prop :=
  ∀ frames index rest, Admits limit capacity depth frames.length v →
    readWithin limit capacity depth frames index (us ++ rest) =
      proceed limit capacity depth (Progress.place v frames) (index + us.length) rest

/-- Parts that are read one by one are read one after the other into the innermost list. -/
theorem readWithin_parts {inner : Frame} {outer : List Frame}
    {parts : List (List Token × Value)}
    (hreads : ∀ p ∈ parts, Reads limit capacity depth p.1 p.2)
    (hadmits : ∀ p ∈ parts, Admits limit capacity depth (outer.length + 1) p.2) :
    readWithin limit capacity depth (inner :: outer) index (parts.flatMap Prod.fst ++ rest) =
      readWithin limit capacity depth
        ({ inner with items := (parts.map Prod.snd).reverse ++ inner.items } :: outer)
        (index + (parts.flatMap Prod.fst).length) rest := by
  induction parts generalizing inner index with
  | nil => rfl
  | cons p parts ih =>
    -- The first part is read into the innermost list, and the others follow it.
    have hfirst := hreads p (List.mem_cons_self ..) (inner :: outer) index
      (parts.flatMap Prod.fst ++ rest) (hadmits p (List.mem_cons_self ..))
    rw [List.flatMap_cons, List.append_assoc, hfirst]
    simp only [Progress.place, proceed]
    rw [ih (fun q hq => hreads q (List.mem_cons_of_mem _ hq))
      (fun q hq => hadmits q (List.mem_cons_of_mem _ hq))]
    simp [Nat.add_assoc]

/-- What the grammar derives is read, within the limits. -/
theorem reads_of_derives (h : Derives us v) : Reads limit capacity depth us v := by
  induction h with
  | @atom t a ha =>
    intro frames index rest hadmits
    exact readWithin_of_step (fun _ => admits_atom_iff.1 hadmits) (Progress.step_of_standsFor ha)
  | @list opening closing parts hopen _ hclose ih =>
    intro frames index rest hadmits
    rcases admits_list_iff.1 hadmits with ⟨hroom, hlimit, hitems⟩
    have hparts : ∀ p ∈ parts, Admits limit capacity depth (frames.length + 1) p.2 := by
      intro p hp
      exact hitems p.2 (List.mem_map_of_mem hp)
    calc
      readWithin limit capacity depth frames index
          (opening :: (parts.flatMap Prod.fst ++ [closing]) ++ rest)
        = readWithin limit capacity depth (⟨opening.position, []⟩ :: frames) (index + 1)
            (parts.flatMap Prod.fst ++ closing :: rest) := by
          rw [List.cons_append, List.append_assoc, List.singleton_append,
            readWithin_of_step (fun _ => hroom) (Progress.step_of_openParen hopen hlimit)]
          rfl
      _ = readWithin limit capacity depth
            (⟨opening.position, (parts.map Prod.snd).reverse ++ []⟩ :: frames)
            (index + 1 + (parts.flatMap Prod.fst).length) (closing :: rest) :=
          readWithin_parts ih hparts
      _ = proceed limit capacity depth (Progress.place (.list (parts.map Prod.snd)) frames)
            (index + (opening :: (parts.flatMap Prod.fst ++ [closing])).length) rest := by
          have hlength : index + 1 + (parts.flatMap Prod.fst).length + 1 =
              index + (opening :: (parts.flatMap Prod.fst ++ [closing])).length := by
            simp only [List.length_cons, List.length_append, List.length_nil]
            omega
          rw [readWithin_of_step (fun hkind => absurd hclose hkind)
            (Progress.step_of_closeParen hclose), hlength, List.append_nil, List.reverse_reverse]

/-- A value is read exactly when the next tokens derive it within the limits; they are taken. -/
theorem expression_eq_ok_iff {c after : Cursor} :
    c.expression limit capacity = (.ok v, after) ↔
      ∃ used, c.rest = used ++ after.rest ∧ Derives used v ∧
        Admits limit capacity c.depth 0 v ∧ after.index = c.index + used.length ∧
          after.depth = c.depth := by
  constructor
  · intro h
    simpa using derives_of_readWithin h .nil trivial
  · rintro ⟨used, hrest, hderives, hadmits, hindex, hdepth⟩
    rcases after with ⟨index, depth, rest⟩
    simp only at hrest hindex hdepth
    unfold expression
    rw [hrest, reads_of_derives hderives [] c.index rest hadmits, hindex, hdepth]
    rfl

/-- A bound on the open lists either does not show or is what stops the cursor. -/
theorem readWithin_capacity (ts : List Token) :
    (∃ d p, (readWithin limit capacity depth frames index ts).1 = .error (.capacityExceeded d p)) ∨
      readWithin limit capacity depth frames index ts =
        readWithin limit none depth frames index ts := by
  induction ts generalizing frames index with
  | nil => exact .inr rfl
  | cons t ts ih =>
    by_cases hfull : (Frame.full capacity frames && t.kind != .closeParen) = true
    · refine .inl ⟨depth + frames.length, t.position, ?_⟩
      rw [readWithin, if_pos hfull]
    · have hfree : (Frame.full none frames && t.kind != .closeParen) = false := by simp [Frame.full]
      rw [readWithin, readWithin, if_neg hfull, hfree]
      simp only [Bool.false_eq_true, if_false]
      cases hstep : Progress.step limit depth frames t with
      | error cause => exact .inr rfl
      | ok p =>
        cases p with
        | done w => exact .inr rfl
        | within inner => exact ih

end Cursor

/-! ## The language of the cursor -/

/-- At most one prefix of a token sequence derives a value, and it derives one value: with limits
that are wide enough for two derivations, the cursor reads what either of them derives. -/
theorem Derives.unique {ts us rest rest' : List Token} {v w : Value} (hv : Derives ts v)
    (hw : Derives us w) (h : ts ++ rest = us ++ rest') : ts = us ∧ v = w := by
  -- Both values nest within the larger of their depths, so one run reads them both.
  have hread : ∀ (used left : List Token) (x : Value), Derives used x →
      x.depth ≤ max v.depth w.depth →
      (Cursor.ofTokens (used ++ left)).expression (max v.depth w.depth : Nat) none =
        (.ok x, ⟨used.length, 0, left⟩) := by
    intro used left x hx hle
    refine Cursor.expression_eq_ok_iff.2 ⟨used, rfl, hx, ⟨by simp, .inr ?_⟩, ?_, rfl⟩
    · simp only [Cursor.ofTokens]
      omega
    · simp [Cursor.ofTokens]
  have hfirst := hread ts rest v hv (Nat.le_max_left ..)
  have hsecond := hread us rest' w hw (Nat.le_max_right ..)
  rw [← h, hfirst] at hsecond
  simp only [Prod.mk.injEq, Except.ok.injEq, Cursor.mk.injEq, true_and] at hsecond
  exact ⟨List.append_inj_left h hsecond.2.1, hsecond.1⟩

/-- The cursor has room for all the lists it comes to open: its capacity never is what stops it. -/
def Cursor.HasRoom (limit : Int) (capacity : Option Nat) (c : Cursor) : Prop :=
  ∀ depth position, (c.expression limit capacity).1 ≠ .error (.capacityExceeded depth position)

/-- As long as there is room for the open lists, the cursor reads a value from the first `n` tokens
exactly when these derive it and it is an atom or nests within the limit. Whatever the limit, no
sequence has two such prefixes, and no prefix two such values. -/
theorem expression_reads_grammar {limit : Int} {capacity : Option Nat} {ts : List Token}
    (hroom : (Cursor.ofTokens ts).HasRoom limit capacity) :
    (∀ n v, (∃ after, (Cursor.ofTokens ts).expression limit capacity = (.ok v, after) ∧
        after.index = n) ↔
      n ≤ ts.length ∧ Derives (ts.take n) v ∧ ((∃ a, v = .atom a) ∨ (v.depth : Int) ≤ limit)) ∧
    ∀ m n v w, m ≤ ts.length → n ≤ ts.length → Derives (ts.take m) v → Derives (ts.take n) w →
      m = n ∧ v = w := by
  -- With room enough the bound on open lists does not show.
  have hunbounded : (Cursor.ofTokens ts).expression limit capacity =
      (Cursor.ofTokens ts).expression limit none := by
    rcases Cursor.readWithin_capacity ts with ⟨d, p, hstop⟩ | heq
    · exact absurd hstop (hroom d p)
    · exact heq
  refine ⟨?_, ?_⟩
  · intro n v
    rw [hunbounded]
    constructor
    · rintro ⟨after, hread, hindex⟩
      rcases Cursor.expression_eq_ok_iff.1 hread with ⟨used, hts, hderives, hadmits, hlast, _⟩
      have hsplit : ts = used ++ after.rest := hts
      have hlength : used.length = n := by
        rw [← hindex, hlast]
        exact (Nat.zero_add _).symm
      refine ⟨?_, ?_, ?_⟩
      · rw [hsplit, List.length_append]
        omega
      · rw [hsplit, ← hlength, List.take_left]
        exact hderives
      · simpa [Cursor.ofTokens] using hadmits.allowed
    · rintro ⟨hle, hderives, hallowed⟩
      have hadmits : Admits limit none 0 0 v := ⟨by simp, by simpa using hallowed⟩
      refine ⟨⟨n, 0, ts.drop n⟩, Cursor.expression_eq_ok_iff.2
        ⟨ts.take n, (List.take_append_drop n ts).symm, hderives, hadmits, ?_, rfl⟩, rfl⟩
      rw [List.length_take_of_le hle]
      exact (Nat.zero_add n).symm
  · intro m n v w hm hn hv hw
    have hboth : ts.take m ++ ts.drop m = ts.take n ++ ts.drop n := by
      rw [List.take_append_drop, List.take_append_drop]
    rcases hv.unique hw hboth with ⟨htake, hvalue⟩
    refine ⟨?_, hvalue⟩
    rw [← List.length_take_of_le hm, htake, List.length_take_of_le hn]

/-- A number with leading zeros in a list, and a bracket that is left: there is room for just one open
list and what is in it. -/
theorem reads_grammar_up_to_bracket :
    (Cursor.ofTokens [⟨.openParen, ['('], 0⟩, ⟨.number, "007".toList, 1⟩, ⟨.closeParen, [')'], 4⟩,
        ⟨.closeParen, [')'], 5⟩]).HasRoom 1 (some 2) ∧
      Derives [⟨.openParen, ['('], 0⟩, ⟨.number, "007".toList, 1⟩, ⟨.closeParen, [')'], 4⟩]
        (.list [.atom (.int 7)]) := by
  have hread : (Cursor.ofTokens [⟨.openParen, ['('], 0⟩, ⟨.number, "007".toList, 1⟩,
      ⟨.closeParen, [')'], 4⟩, ⟨.closeParen, [')'], 5⟩]).expression 1 (some 2) =
        (.ok (.list [.atom (.int 7)]), ⟨3, 0, [⟨.closeParen, [')'], 5⟩]⟩) := by rfl
  have hroom : (Cursor.ofTokens [⟨.openParen, ['('], 0⟩, ⟨.number, "007".toList, 1⟩,
      ⟨.closeParen, [')'], 4⟩, ⟨.closeParen, [')'], 5⟩]).HasRoom 1 (some 2) := by
    intro depth position h
    rw [hread] at h
    cases h
  exact ⟨hroom, (((expression_reads_grammar hroom).1 3 _).1 ⟨_, hread, rfl⟩).2.1⟩

end SExpr
