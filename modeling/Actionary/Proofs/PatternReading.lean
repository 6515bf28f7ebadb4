import Actionary.Completion.Recognition
import Actionary.Pattern.Syntax

/-!
# Reading a pattern forwards

What the reader of written patterns does with what comes next, one equation for each step:

    `terms_glyphs`           an escaped text is read as its characters, whatever they are
    `terms_blanks`           one or more blanks, as many as there are
    `terms_group`            a group that is not counted
    `alternatives_of_bar`    a bar begins the next alternative
    `charSet_plain`          plain characters between brackets are read as a set of them
    `extension_notBehind`    a condition that something does not stand before the cursor
    `all_of_terms`           a pattern without alternatives is the sequence of its terms

The equations are chained by `run_bind_eq`: a step that succeeds goes on with what it left.
-/

namespace Actionary.Pattern

open Actionary.Text

/-! ## The written form of a text -/

/-- How a character is written in the written form of a text. -/
def Glyph.ofChar (c : Code) : Glyph :=
  if Recognizer.isSpecial c then .escaped c else .plain c

theorem Glyph.ofChars_plain {c : Code} (hc : c ≠ '\\') (cs : List Code) :
    ofChars (c :: cs) = .plain c :: ofChars cs := by
  rw [ofChars]
  · exact fun h => absurd h hc
  · exact fun _ _ h => absurd h hc

/-- The written form of a text has one glyph for each of its characters. -/
theorem Glyph.ofChars_escape_append (cs more : List Code) :
    ofChars (Recognizer.escape cs ++ more) = cs.map ofChar ++ ofChars more := by
  induction cs with
  | nil => rfl
  | cons c cs ih =>
      rw [Recognizer.escape, List.map_cons, ofChar]
      split
      · rw [List.cons_append, List.cons_append, ofChars, ih]
        rfl
      · next hc =>
          have hne : c ≠ '\\' := by
            rintro rfl
            exact hc (by decide)
          rw [List.cons_append, ofChars_plain hne, ih]
          rfl

theorem Glyph.ofChars_escape (cs : List Code) : ofChars (Recognizer.escape cs) = cs.map ofChar := by
  have happend := ofChars_escape_append cs []
  rwa [List.append_nil, show ofChars [] = [] from rfl, List.append_nil] at happend

/-- A written text does not end the pattern in the middle of an escape. -/
theorem Glyph.map_ofChar_append_ne_dangling {rest : List Glyph} (cs : List Code)
    (h : rest ≠ [.dangling]) : cs.map ofChar ++ rest ≠ [.dangling] := by
  cases cs with
  | nil => exact h
  | cons c cs =>
      intro heq
      have hc : ofChar c = .dangling := (List.cons.inj heq).1
      unfold ofChar at hc
      split at hc
      · exact Glyph.noConfusion hc
      · exact Glyph.noConfusion hc

namespace Reading

variable {α β : Type} {s t : Source} {mode : Mode} {rest : List Glyph} {fuel : Nat} {first : Bool}
  {done : List Term}

/-! ## Single steps -/

/-- A step that succeeds goes on with what it left. -/
theorem run_bind_eq {x : Reading α} {f : α → Reading β} {a : α} (h : x.run s = .ok (a, t)) :
    (x >>= f).run s = (f a).run t := by
  rw [StateT.run_bind, h]
  rfl

theorem run_get (s : Source) : (get : Reading Source).run s = .ok (s, s) := rfl

theorem run_modify (f : Source → Source) (s : Source) :
    (modify f : Reading Unit).run s = .ok ((), f s) := rfl

theorem run_peek (s : Source) : peek.run s = .ok (s.rest.head?, s) := rfl

theorem run_leave (s : Source) (h : rest ≠ [.dangling]) :
    (leave rest).run s = .ok ((), { s with rest := rest }) := by
  rw [leave, if_neg (by simpa using h)]
  rfl

theorem run_next (s : Source) (g : Glyph) (h : rest ≠ [.dangling]) :
    next.run { s with rest := g :: rest } = .ok (some g, { s with rest := rest }) := by
  rw [next, run_bind_eq (run_get _)]
  exact run_bind_eq (run_leave _ h)

theorem run_accept (s : Source) (c : Code) (h : rest ≠ [.dangling]) :
    (accept c).run { s with rest := .plain c :: rest } = .ok (true, { s with rest := rest }) := by
  rw [accept, run_bind_eq (run_get _)]
  dsimp only
  rw [if_pos (beq_self_eq_true c)]
  exact run_bind_eq (run_leave _ h)

theorem run_accept_of_ne {c : Code} (h : s.rest.head? ≠ some (.plain c)) :
    (accept c).run s = .ok (false, s) := by
  rw [accept, run_bind_eq (run_get _)]
  split
  · next d rest hrest =>
      have hne : d ≠ c := by
        rintro rfl
        exact h (by rw [hrest, List.head?_cons])
      rw [if_neg (by simpa using hne)]
      rfl
  · rfl

theorem run_expect (s : Source) (c : Code) (h : rest ≠ [.dangling]) :
    (expect c).run { s with rest := .plain c :: rest } = .ok ((), { s with rest := rest }) := by
  rw [expect, run_bind_eq (run_accept s c h), if_pos rfl]
  rfl

/-! ## Texts -/

/-- A character that is no letter and no digit stands for itself after a backslash. -/
theorem escape_eq_char {c : Code} (hletter : c.isAlpha = false) (hdigit : isAsciiDigit c = false) :
    escape mode c = pure (.char mode c.toNat) := by
  have hclass : namedClass? mode c = none := by
    unfold namedClass?
    split
    case h_7 => rfl
    all_goals exact absurd hletter (by decide)
  have hcontrol : control? c = none := by
    unfold control?
    split
    case h_8 => rfl
    all_goals exact absurd hletter (by decide)
  have hpoint : codePoint c = pure c.toNat := by
    unfold codePoint
    split
    case h_5 => rw [hletter, hdigit, Bool.or_false, if_neg Bool.false_ne_true]
    all_goals exact absurd hletter (by decide)
  unfold escape
  split
  case h_5 => exact absurd hdigit (by decide)
  case h_6 =>
    rw [hclass, hcontrol]
    dsimp only
    rw [hdigit, if_neg Bool.false_ne_true, hpoint, pure_bind]
  all_goals exact absurd hletter (by decide)

/-- What is special is no letter and no digit. -/
theorem not_alphanum_of_isSpecial {c : Code} (h : Recognizer.isSpecial c = true) :
    c.isAlpha = false ∧ isAsciiDigit c = false := by
  have hall : (Text.toList "()[]{}?*+-|^$\\.&~# \t\n\r\x0b\x0c").all
      (fun c => !c.isAlpha && !isAsciiDigit c) = true := by decide
  have hc := List.all_eq_true.mp hall c (List.contains_iff_mem.mp h)
  rwa [Bool.and_eq_true, Bool.not_eq_true', Bool.not_eq_true'] at hc

/-- Where blanks count, nothing is skipped. -/
theorem ite_spaced (hmode : mode.spaced = false) (blank comment : Bool) (x y z : Reading α) :
    (if (mode.spaced && blank) = true then x
      else if (mode.spaced && comment) = true then y else z) = z := by
  rw [hmode, Bool.false_and, Bool.false_and, if_neg Bool.false_ne_true, if_neg Bool.false_ne_true]

theorem terms_plain {c : Code} (hc : Recognizer.isSpecial c = false) (hmode : mode.spaced = false)
    (h : rest ≠ [.dangling]) :
    (terms (fuel + 1) mode first done).run { s with rest := .plain c :: rest } =
      (terms fuel mode first (.char mode c.toNat :: done)).run { s with rest := rest } := by
  rw [terms, run_bind_eq (run_peek _), List.head?_cons]
  split
  case h_3 heq =>
    cases heq
    exact absurd hc (by decide)
  case h_4 heq =>
    cases heq
    exact absurd hc (by decide)
  case h_6 heq =>
    cases heq
    rw [run_bind_eq (run_next s _ h), ite_spaced hmode]
    -- Every sign with a meaning of its own is special.
    split
    case h_10 => rfl
    all_goals exact absurd hc (by decide)
  all_goals
    next heq => cases heq

theorem terms_escaped {c : Code} (hc : Recognizer.isSpecial c = true) (h : rest ≠ [.dangling]) :
    (terms (fuel + 1) mode first done).run { s with rest := .escaped c :: rest } =
      (terms fuel mode first (.char mode c.toNat :: done)).run { s with rest := rest } := by
  obtain ⟨hletter, hdigit⟩ := not_alphanum_of_isSpecial hc
  rw [terms, run_bind_eq (run_peek _)]
  dsimp only [List.head?_cons]
  rw [run_bind_eq (run_next s _ h), escape_eq_char hletter hdigit, pure_bind]

/-- The written form of a text is read as its characters, one term for each. -/
theorem terms_glyphs (hmode : mode.spaced = false) (h : rest ≠ [.dangling]) (cs : List Code) :
    (terms (fuel + cs.length) mode first done).run { s with rest := cs.map Glyph.ofChar ++ rest } =
      (terms fuel mode first ((cs.map fun c => .char mode c.toNat).reverse ++ done)).run
        { s with rest := rest } := by
  induction cs generalizing done with
  | nil => rfl
  | cons c cs ih =>
      have hrest : cs.map Glyph.ofChar ++ rest ≠ [.dangling] :=
        Glyph.map_ofChar_append_ne_dangling cs h
      have hread : (terms (fuel + cs.length + 1) mode first done).run
          { s with rest := Glyph.ofChar c :: (cs.map Glyph.ofChar ++ rest) } =
            (terms (fuel + cs.length) mode first (.char mode c.toNat :: done)).run
              { s with rest := cs.map Glyph.ofChar ++ rest } := by
        cases hc : Recognizer.isSpecial c with
        | true =>
            rw [Glyph.ofChar, if_pos hc]
            exact terms_escaped hc hrest
        | false =>
            rw [Glyph.ofChar, if_neg (Bool.not_eq_true _ ▸ hc)]
            exact terms_plain hc hmode hrest
      rw [List.length_cons, ← Nat.add_assoc, List.map_cons, List.cons_append, hread, ih,
        List.map_cons, List.reverse_cons, List.append_assoc, List.singleton_append]

theorem terms_end (h : s.rest = []) : (terms (fuel + 1) mode first done).run s = .ok (done, s) := by
  rw [terms, run_bind_eq (run_peek _), h]
  rfl

/-! ## Places and repetitions -/

/-- The condition that a word starts or ends at the cursor. -/
theorem terms_boundary (h : rest ≠ [.dangling]) :
    (terms (fuel + 1) mode first done).run { s with rest := .escaped 'b' :: rest } =
      (terms fuel mode first (.place (.boundary mode.ascii) :: done)).run
        { s with rest := rest } := by
  rw [terms, run_bind_eq (run_peek _)]
  exact run_bind_eq (run_next s _ h)

theorem run_repetitionSuffix (hreluctant : s.rest.head? ≠ some (.plain '?'))
    (hpossessive : s.rest.head? ≠ some (.plain '+')) :
    repetitionSuffix.run s = .ok (.greedy, s) := by
  rw [repetitionSuffix, run_bind_eq (run_accept_of_ne hreluctant), if_neg Bool.false_ne_true,
    run_bind_eq (run_accept_of_ne hpossessive), if_neg Bool.false_ne_true]
  rfl

/-- The blanks that `\s+` writes. -/
def blanks (mode : Mode) : Term :=
  ⟨.repeated, [⟨false, .many .greedy 1 none (.set false .exact [.named .blank mode.ascii false])⟩]⟩

/-- One or more blanks, if no sign behind them changes the repetition. -/
theorem terms_blanks (hmode : mode.spaced = false) (hfixed : mode.fixed = false)
    (h : rest ≠ [.dangling])
    (hreluctant : rest.head? ≠ some (.plain '?')) (hpossessive : rest.head? ≠ some (.plain '+')) :
    (terms (fuel + 2) mode first done).run { s with rest := .escaped 's' :: .plain '+' :: rest } =
      (terms fuel mode first (blanks mode :: done)).run { s with rest := rest } := by
  have hclass : escape mode 's' =
      pure (.step (.one (.set false .exact [.named .blank mode.ascii false]))) := by
    simp [escape, namedClass?, Mode.setTest, Item.isCased]
  have hsuffix : repetitionSuffix.run { s with rest := rest } =
      .ok (.greedy, { s with rest := rest }) :=
    run_repetitionSuffix hreluctant hpossessive
  have hrepeat : ∀ t : Term, t.kind = .free →
      (repeatLast mode 1 none (t :: done)).run { s with rest := rest } =
      .ok (⟨.repeated, [⟨false, .repeated .greedy 1 none t.expr⟩]⟩ :: done,
        { s with rest := rest }) := by
    intro t hkind
    rw [repeatLast, hkind, hfixed]
    exact run_bind_eq hsuffix
  rw [terms, run_bind_eq (run_peek _)]
  refine (run_bind_eq (run_next s _ (by simp))).trans ?_
  rw [hclass, pure_bind, terms, run_bind_eq (run_peek _)]
  refine (run_bind_eq (run_next s _ h)).trans ?_
  rw [ite_spaced hmode]
  exact run_bind_eq (hrepeat _ rfl)

/-! ## Sets -/

/-- What is left of a set that has only plain members. -/
def setRest (cs : List Code) (rest : List Glyph) : List Glyph :=
  cs.map .plain ++ .plain ']' :: rest

/-- What is left of a set starts with a plain character, its next member or its end. -/
theorem exists_setRest_eq_cons (cs : List Code) (rest : List Glyph) :
    ∃ c ∈ cs ++ [.char ']'], ∃ left, setRest cs rest = .plain c :: left := by
  cases cs with
  | nil => exact ⟨']', List.mem_singleton_self _, rest, rfl⟩
  | cons c cs => exact ⟨c, List.mem_cons_self, setRest cs rest, rfl⟩

theorem setRest_ne_dangling (cs : List Code) : setRest cs rest ≠ [.dangling] := by
  obtain ⟨c, -, left, hleft⟩ := exists_setRest_eq_cons cs rest
  rw [hleft]
  exact fun heq => Glyph.noConfusion (List.cons.inj heq).1

theorem head?_setRest_ne {cs : List Code} {d : Code} (hcs : d ∉ cs) (hd : d ≠ ']') :
    (setRest cs rest).head? ≠ some (.plain d) := by
  obtain ⟨c, hc, left, hleft⟩ := exists_setRest_eq_cons cs rest
  rw [hleft, List.head?_cons]
  intro heq
  cases heq
  rcases List.mem_append.mp hc with hmem | hmem
  · exact hcs hmem
  · exact hd (List.mem_singleton.mp hmem)

/-- Plain characters that neither end a set nor make a range are its members. -/
theorem setItems_plain {cs : List Code} (hend : .char ']' ∉ cs) (hrange : .char '-' ∉ cs)
    (h : rest ≠ [.dangling]) {items : List Item} (hne : items ≠ [] ∨ cs ≠ []) :
    (setItems mode (fuel + cs.length + 1) items).run { s with rest := setRest cs rest } =
      .ok (items ++ cs.map (fun c => .point c.toNat), { s with rest := rest }) := by
  induction cs generalizing items with
  | nil =>
      have hitems : items ≠ [] := hne.resolve_right (fun hnil => hnil rfl)
      rw [setItems, setRest, List.map_nil, List.nil_append, run_bind_eq (run_next s _ h)]
      dsimp only
      rw [if_pos (by simpa using hitems), List.map_nil, List.append_nil]
      rfl
  | cons c cs ih =>
      obtain ⟨hc, hend⟩ := not_or.mp (mt List.mem_cons.mpr hend)
      obtain ⟨-, hrange⟩ := not_or.mp (mt List.mem_cons.mpr hrange)
      have hleft : setRest cs rest ≠ [.dangling] := setRest_ne_dangling cs
      have hplain : (accept '-').run { s with rest := setRest cs rest } =
          .ok (false, { s with rest := setRest cs rest }) :=
        run_accept_of_ne (head?_setRest_ne hrange (by decide))
      rw [List.length_cons, ← Nat.add_assoc, setItems]
      rw [show setRest (c :: cs) rest = .plain c :: setRest cs rest from rfl,
        run_bind_eq (run_next s _ hleft)]
      dsimp only
      rw [if_neg (by simpa using fun heq : c = ']' => absurd heq.symm hc)]
      rw [setItem, pure_bind, run_bind_eq hplain, if_neg Bool.false_ne_true]
      rw [ih hend hrange (Or.inl (by simp)), List.map_cons, List.append_assoc,
        List.singleton_append]

/-- Plain characters between brackets are read as the set of them. -/
theorem charSet_plain {cs : List Code} (hend : .char ']' ∉ cs) (hrange : .char '-' ∉ cs)
    (hnegated : .char '^' ∉ cs) (hne : cs ≠ []) (h : rest ≠ [.dangling]) :
    (charSet mode).run { s with rest := setRest cs rest } =
      .ok (.step (.one (mode.writtenSet false (cs.map fun c => .point c.toNat))),
        { s with rest := rest }) := by
  have hcount : (setRest cs rest).length + 1 = rest.length + 1 + cs.length + 1 := by
    simp only [setRest, List.length_append, List.length_map, List.length_cons]
    omega
  have hitems : (setItems mode (rest.length + 1 + cs.length + 1) []).run
      { s with rest := setRest cs rest } = .ok ([] ++ _, _) :=
    setItems_plain hend hrange h (Or.inr hne)
  rw [charSet, run_bind_eq (run_accept_of_ne (head?_setRest_ne hnegated (by decide))),
    run_bind_eq (run_get _)]
  dsimp only
  rw [hcount, run_bind_eq hitems, List.nil_append]
  rfl

theorem terms_set {term : Term} (hmode : mode.spaced = false) (h : rest ≠ [.dangling])
    (hset : (charSet mode).run { s with rest := rest } = .ok (term, t)) :
    (terms (fuel + 1) mode first done).run { s with rest := .plain '[' :: rest } =
      (terms fuel mode first (term :: done)).run t := by
  rw [terms, run_bind_eq (run_peek _)]
  refine (run_bind_eq (run_next s _ h)).trans ?_
  rw [ite_spaced hmode]
  exact run_bind_eq hset

/-! ## Groups -/

theorem terms_close : (terms (fuel + 1) mode first done).run { s with rest := .plain ')' :: rest } =
    .ok (done, { s with rest := .plain ')' :: rest }) := by
  rw [terms, run_bind_eq (run_peek _)]
  rfl

/-- Without a bar there is one alternative. -/
theorem alternatives_of_terms {outer : Bool} {ts : List Term}
    (hterms : (terms fuel mode first []).run s = .ok (ts, t))
    (hbar : t.rest.head? ≠ some (.plain '|')) :
    (alternatives outer (fuel + 1) mode first).run s = .ok ([Term.allPieces ts], t) := by
  rw [alternatives, run_bind_eq hterms, run_bind_eq (run_accept_of_ne hbar),
    if_neg Bool.false_ne_true]
  rfl

theorem terms_bar : (terms (fuel + 1) mode first done).run { s with rest := .plain '|' :: rest } =
    .ok (done, { s with rest := .plain '|' :: rest }) := by
  rw [terms, run_bind_eq (run_peek _)]
  rfl

/-- Behind a bar there are more alternatives. -/
theorem alternatives_of_bar {ts : List Term} {others : List (List Piece)} {u : Source}
    (h : rest ≠ [.dangling])
    (hterms : (terms fuel mode first []).run s = .ok (ts, { t with rest := .plain '|' :: rest }))
    (hothers : (alternatives false fuel mode false).run { t with rest := rest } = .ok (others, u)) :
    (alternatives false (fuel + 1) mode first).run s = .ok (Term.allPieces ts :: others, u) := by
  rw [alternatives, run_bind_eq hterms, run_bind_eq (run_accept t '|' h), if_pos rfl,
    run_bind_eq (run_get _)]
  exact run_bind_eq hothers

/-- The inner part of a group is the choice between its alternatives. -/
theorem inner_of_alternatives {choices : List (List Piece)} (h : rest ≠ [.dangling])
    (hchoices : (alternatives false fuel mode false).run s =
      .ok (choices, { t with rest := .plain ')' :: rest })) :
    (inner (fuel + 1) mode).run s = .ok (Piece.choice mode choices, { t with rest := rest }) := by
  rw [inner, run_bind_eq hchoices, run_bind_eq (run_expect t ')' h)]
  rfl

/-- The inner part of a group without alternatives is the sequence of its terms. -/
theorem inner_of_terms {ts : List Term} (h : rest ≠ [.dangling])
    (hterms : (terms fuel mode false []).run s = .ok (ts, { t with rest := .plain ')' :: rest })) :
    (inner (fuel + 2) mode).run s = .ok (Term.allPieces ts, { t with rest := rest }) :=
  inner_of_alternatives h (alternatives_of_terms hterms (by simp))

theorem terms_extension (hmode : mode.spaced = false) (h : rest ≠ [.dangling]) :
    (terms (fuel + 1) mode first done).run { s with rest := .plain '(' :: .plain '?' :: rest } =
      (extension fuel mode first done).run { s with rest := rest } := by
  rw [terms, run_bind_eq (run_peek _)]
  refine (run_bind_eq (run_next s _ (by simp))).trans ?_
  rw [ite_spaced hmode]
  exact run_bind_eq (run_accept s '?' h)

/-- A group that captures nothing gives the parts of its inner part. -/
theorem terms_group {pieces : List Piece} (hmode : mode.spaced = false) (h : rest ≠ [.dangling])
    (hinner : (inner fuel mode).run { s with rest := rest } = .ok (pieces, t)) :
    (terms (fuel + 2) mode first done).run
        { s with rest := .plain '(' :: .plain '?' :: .plain ':' :: rest } =
      (terms fuel mode first (⟨.free, pieces⟩ :: done)).run t := by
  rw [terms_extension hmode (by simp), extension, run_bind_eq (run_next s _ h)]
  exact run_bind_eq hinner

/-- A condition that something does not stand behind the cursor. -/
theorem terms_notAhead {pieces : List Piece} (hmode : mode.spaced = false) (h : rest ≠ [.dangling])
    (hinner : (inner fuel mode).run { s with rest := rest } = .ok (pieces, t)) :
    (terms (fuel + 2) mode first done).run
        { s with rest := .plain '(' :: .plain '?' :: .plain '!' :: rest } =
      (terms fuel mode first (.whole (.ahead true (Piece.sequence pieces)) :: done)).run t := by
  rw [terms_extension hmode (by simp), extension, run_bind_eq (run_next s _ h)]
  exact run_bind_eq hinner

theorem run_behind {negated : Bool} {body : Expr} {width : Nat}
    (h : (body.width s.widths).fixed? = some width) :
    (behind negated body).run s = .ok (.behind negated width body, s) := by
  rw [behind, run_bind_eq (run_get _), h]
  rfl

/-- A condition that something of a fixed width does not stand before the cursor. -/
theorem extension_notBehind {pieces : List Piece} {width : Nat} (h : rest ≠ [.dangling])
    (hinner : (inner fuel mode).run
        { s with rest := rest, behindFrom := some (s.behindFrom.getD s.groups.length) } =
          .ok (pieces, t))
    (hwidth : ((Piece.sequence pieces).width t.widths).fixed? = some width) :
    (extension (fuel + 1) mode first done).run { s with rest := .plain '<' :: .plain '!' :: rest } =
      (terms fuel mode first (.whole (.behind true width (Piece.sequence pieces)) :: done)).run
        { t with behindFrom := s.behindFrom } := by
  rw [extension, run_bind_eq (run_next s _ (by simp))]
  refine (run_bind_eq (run_accept_of_ne (by simp))).trans ?_
  rw [if_neg Bool.false_ne_true, run_bind_eq (run_expect s '!' h), run_bind_eq (run_get _),
    run_bind_eq (run_modify _ _), run_bind_eq hinner, run_bind_eq (run_modify _ _)]
  exact run_bind_eq (run_behind hwidth)

/-- A condition that none of some characters stands before the cursor. -/
theorem terms_notAfter {cs : List Code} (hmode : mode.spaced = false) (hend : .char ']' ∉ cs)
    (hrange : .char '-' ∉ cs) (hnegated : .char '^' ∉ cs) (hne : cs ≠ []) (h : rest ≠ [.dangling]) :
    (terms (fuel + 6) mode first done).run
        { s with rest := .plain '(' :: .plain '?' :: .plain '<' :: .plain '!' :: .plain '[' ::
          setRest cs (.plain ')' :: rest) } =
      (terms (fuel + 4) mode first
          (.whole (.behind true 1
            (.one (mode.writtenSet false (cs.map fun c => .point c.toNat)))) :: done)).run
        { s with rest := rest } := by
  have hleft : setRest cs (.plain ')' :: rest) ≠ [.dangling] := setRest_ne_dangling cs
  have hinner : ∀ s : Source, (inner (fuel + 4) mode).run
      { s with rest := .plain '[' :: setRest cs (.plain ')' :: rest) } =
        .ok ([⟨true, .one (mode.writtenSet false (cs.map fun c => .point c.toNat))⟩],
          { s with rest := rest }) := by
    intro s
    refine @inner_of_terms _ s _ _ _ [.step (.one (mode.writtenSet false _))] h ?_
    rw [terms_set hmode hleft (charSet_plain hend hrange hnegated hne (by simp)), terms_close]
  have hopen : .plain '[' :: setRest cs (.plain ')' :: rest) ≠ [.dangling] := by simp
  rw [terms_extension hmode (by simp)]
  have hcondition := hinner { s with behindFrom := some (s.behindFrom.getD s.groups.length) }
  exact extension_notBehind (s := s) hopen hcondition rfl

/-! ## Whole patterns -/

/-- A pattern without alternatives, groups or flags is the sequence of its terms. -/
theorem all_of_terms {ts : List Term} (hstart : s.rest ≠ [.dangling])
    (hterms : (terms (4 * s.rest.length + 3) s.mode true []).run s =
      .ok (ts, { s with rest := [] }))
    (hletters : s.letters = []) (htested : s.tested = []) (hflawed : s.flawed = false) :
    all.run s = .ok (Piece.sequence (Term.allPieces ts), { s with rest := [] }) := by
  have hone : (alternatives true (4 * s.rest.length + 4) s.mode true).run s = .ok (_, _) :=
    alternatives_of_terms hterms (by simp)
  rw [all, run_bind_eq (run_get _), run_bind_eq (run_leave s hstart), run_bind_eq hone,
    run_bind_eq (run_get _), hletters, htested, hflawed]
  rfl

end Reading

end Actionary.Pattern
