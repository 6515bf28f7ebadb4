import Actionary.Proofs.OfferedFlags
import Actionary.Proofs.OneForm
import Actionary.Proofs.PatternReading

/-!
# The scope of an action is a search for its literal

An action is in scope where its literal is on the line, not right behind a quote. The literal may
hold any characters, and it goes through a written form:

    literal --escape--> unquotedSource --Reading.all--> a pattern --search--> a place on the line

No character of the literal is lost or gets a meaning of its own on that way, so the pattern that is
read fits where `unquoted` does (`all_unquotedSource`, `ways_readUnquoted`), and both find the
literal as it is, character by character in letters of any case.
-/

namespace Actionary

open Actionary.Text Actionary.Pattern

/-! ## The pattern that is read -/

/-- The flags under which the written form is read: letters of any case. -/
def scopeMode : Mode := { anyCase := true }

/-- No quote stands right before the cursor. -/
def noQuoteBefore : Expr :=
  .behind true 1 (.one (.set false .exact (quotes.map fun c => .point c.toNat)))

/-- The pattern that is read from the written form of `unquoted`. -/
def readUnquoted (literal : List Code) : Expr :=
  .seqAll (noQuoteBefore :: literal.map fun c => .one (scopeMode.charTest false c.toNat))

/-- The terms of `readUnquoted`, latest first. -/
def literalTerms (literal : List Code) : List Term :=
  (literal.map fun c => .char scopeMode c.toNat).reverse ++ [.whole noQuoteBefore]

theorem sequence_literalTerms (literal : List Code) :
    Piece.sequence (Term.allPieces (literalTerms literal)) = readUnquoted literal := by
  have hpieces : Term.allPieces (literalTerms literal) =
      ⟨false, noQuoteBefore⟩ :: literal.map fun c =>
        ⟨true, .one (scopeMode.charTest false c.toNat)⟩ := by
    rw [Term.allPieces, literalTerms, List.reverse_append, List.reverse_reverse,
      List.reverse_singleton, List.singleton_append, List.flatMap_cons, List.flatMap_map]
    exact congrArg _ List.map_eq_flatMap.symm
  rw [Piece.sequence, hpieces, List.map_cons, List.map_map]
  rfl

/-- The written form is a condition on the character before, and then the literal. -/
theorem ofChars_unquotedSource (literal : Text) :
    Glyph.ofChars (unquotedSource literal).toList =
      .plain '(' :: .plain '?' :: .plain '<' :: .plain '!' :: .plain '[' ::
        Reading.setRest quotes (.plain ')' :: literal.toList.map Glyph.ofChar) := by
  rw [← Glyph.ofChars_escape, unquotedSource]
  simp only [Text.toList_append]
  rfl

/-- Quotes have no other form, so the set of them does not look at the case of letters. -/
theorem writtenSet_quotes : scopeMode.writtenSet false (quotes.map fun c => .point c.toNat) =
    .set false .exact (quotes.map fun c => .point c.toNat) := by
  decide +kernel

/-- With steps enough, the written form is read to its end. -/
theorem terms_unquotedSource (literal : Text) (fuel : Nat) :
    (Reading.terms (fuel + literal.toList.length + 7) scopeMode true []).run
        { rest := Glyph.ofChars (unquotedSource literal).toList, mode := scopeMode } =
      .ok (literalTerms literal.toList, { rest := [], mode := scopeMode }) := by
  have hleft : literal.toList.map Glyph.ofChar ++ [] ≠ [.dangling] :=
    Glyph.map_ofChar_append_ne_dangling literal.toList (by simp)
  rw [List.append_nil] at hleft
  have hcondition : (Reading.terms (fuel + literal.toList.length + 7) scopeMode true []).run
        { rest := Glyph.ofChars (unquotedSource literal).toList, mode := scopeMode } =
      (Reading.terms (fuel + literal.toList.length + 5) scopeMode true (literalTerms [])).run
        { rest := literal.toList.map Glyph.ofChar, mode := scopeMode } := by
    rw [ofChars_unquotedSource, literalTerms, noQuoteBefore, ← writtenSet_quotes]
    exact Reading.terms_notAfter (s := { rest := [], mode := scopeMode }) rfl
      (by decide) (by decide) (by decide) (by decide) hleft
  have hliteral :
      (Reading.terms (fuel + 5 + literal.toList.length) scopeMode true (literalTerms [])).run
        { rest := literal.toList.map Glyph.ofChar ++ [], mode := scopeMode } =
      (Reading.terms (fuel + 5) scopeMode true (literalTerms literal.toList)).run
        { rest := [], mode := scopeMode } :=
    Reading.terms_glyphs (s := { rest := [], mode := scopeMode }) rfl (by simp) literal.toList
  rw [List.append_nil] at hliteral
  rw [hcondition, Nat.add_right_comm, hliteral, Reading.terms_end rfl]

/-- The written form is never refused, whatever the literal, and nothing of it is lost. -/
theorem all_unquotedSource (literal : Text) :
    Reading.all.run { rest := Glyph.ofChars (unquotedSource literal).toList, mode := scopeMode } =
      .ok (readUnquoted literal.toList, { rest := [], mode := scopeMode }) := by
  have hfuel : 4 * (Glyph.ofChars (unquotedSource literal).toList).length + 3 =
      3 * literal.toList.length + 32 + literal.toList.length + 7 := by
    rw [ofChars_unquotedSource]
    simp only [Reading.setRest, quotes, List.length_cons, List.length_append, List.length_map,
      List.length_nil]
    omega
  have hstart : Glyph.ofChars (unquotedSource literal).toList ≠ [.dangling] := by
    rw [ofChars_unquotedSource]
    simp
  have hterms := terms_unquotedSource literal (3 * literal.toList.length + 32)
  rw [← hfuel] at hterms
  rw [← sequence_literalTerms]
  generalize Glyph.ofChars (unquotedSource literal).toList = source at hstart hterms ⊢
  exact Reading.all_of_terms hstart hterms rfl rfl rfl

/-! ## Where it fits -/

theorem isCased_full (c : Code) : CaseRule.full.isCased c.toNat = comesInCases c := by
  rw [CaseRule.isCased, Code.ofNat_toNat, beq_self_eq_true, Bool.true_and]

/-- A character of the literal stands for all forms of its letter, whether or not it has any. -/
theorem holds_charTest (c d : Code) :
    (scopeMode.charTest false c.toNat).holds d = sameLetter c d := by
  rw [Mode.charTest, show scopeMode.rule = .full from rfl, isCased_full]
  cases hc : comesInCases c with
  | true =>
      rw [if_pos rfl, Test.holds, Bool.bne_false]
      exact same_full c d
  | false =>
      rw [if_neg Bool.false_ne_true, Test.holds, Bool.bne_false, Bool.eq_iff_iff,
        sameLetter_iff_eq hc, CaseRule.same, beq_iff_eq, Code.toNat_inj]

theorem ways_one_congr {t u : Test} (h : ∀ d, t.holds d = u.holds d) :
    (Expr.one t).ways = (Expr.one u).ways := by
  funext s
  unfold Expr.ways
  simp only [h]

theorem ways_seqAll_map_congr {f g : Code → Expr} (h : ∀ c, (f c).ways = (g c).ways)
    (cs : List Code) : (Expr.seqAll (cs.map f)).ways = (Expr.seqAll (cs.map g)).ways := by
  induction cs with
  | nil => rfl
  | cons c cs ih =>
      funext s
      rw [List.map_cons, List.map_cons, Expr.ways_seqAll_cons, Expr.ways_seqAll_cons, h, ih]

/-- The characters of a text, one after another, are read where the text is. -/
theorem ways_charTests (cs : List Code) :
    (Expr.seqAll (cs.map fun c => .one (scopeMode.charTest false c.toNat))).ways =
      (Expr.text .full cs).ways := by
  refine ways_seqAll_map_congr (fun c => ways_one_congr fun d => ?_) cs
  rw [holds_charTest, Test.holds, Bool.bne_false, same_full]

/-- The pattern that is read fits where `unquoted` does. -/
theorem ways_readUnquoted (literal : List Code) :
    (readUnquoted literal).ways = (unquoted literal).ways := by
  funext s
  rw [readUnquoted, Expr.ways_seqAll_cons, ways_charTests]
  rfl

/-! ## The literal on the line -/

/-- A literal stands at an index among the characters of a line, in letters of any case, and no
quote right before it. -/
structure WrittenAt (literal chars : List Code) (i : Nat) : Prop where
  /-- The line has as many characters from the index on. -/
  within : i + literal.length ≤ chars.length
  /-- They are the letters of the literal, one by one. -/
  letters : ∀ (k : Nat) (_ : k < literal.length), sameLetter literal[k] chars[i + k] = true
  /-- The literal starts the line or stands behind a character that is no quote. -/
  unquoted : i = 0 ∨ ∃ q, chars[i - 1]? = some q ∧ q ≠ '\'' ∧ q ≠ '"'

theorem mem_quotes {q : Code} : q ∈ quotes ↔ q = '\'' ∨ q = '"' := by
  simp [quotes]

theorem WrittenUnquoted.exists_writtenAt {literal line : List Code}
    (h : WrittenUnquoted literal line) : ∃ i, WrittenAt literal line i := by
  obtain ⟨before, text, after, rfl, hforms, hquote⟩ := h
  obtain ⟨hlength, hletters⟩ := List.forall₂_iff_get.mp hforms
  refine ⟨before.length, ?_, ?_, ?_⟩
  · simp only [List.length_append]
    omega
  · intro k hk
    have hletter := hletters k hk (hlength ▸ hk)
    simpa [List.getElem_append_left (hlength ▸ hk)] using hletter
  · cases hq : before.getLast? with
    | none =>
        rw [List.getLast?_eq_none_iff.mp hq]
        exact Or.inl rfl
    | some q =>
        have hne := mt mem_quotes.mpr (hquote q hq)
        have hlast : (before ++ (text ++ after))[before.length - 1]? = some q := by
          rw [List.getLast?_eq_getElem?] at hq
          rw [List.getElem?_append_left (List.getElem?_eq_some_iff.mp hq).1, hq]
        exact Or.inr ⟨q, hlast, not_or.mp hne⟩

theorem WrittenAt.writtenUnquoted {literal line : List Code} {i : Nat}
    (h : WrittenAt literal line i) : WrittenUnquoted literal line := by
  have hwithin := h.within
  refine ⟨line.take i, (line.drop i).take literal.length,
    (line.drop i).drop literal.length, ?_, ?_, ?_⟩
  · rw [List.take_append_drop, List.take_append_drop]
  · refine List.forall₂_iff_get.mpr ⟨?_, ?_⟩
    · rw [List.length_take, List.length_drop]
      omega
    · intro k hk _
      simpa using h.letters k hk
  · intro q hq
    rw [List.getLast?_take] at hq
    split at hq
    · exact absurd hq (by simp)
    · next hi =>
        obtain ⟨p, hp, hquotes⟩ := h.unquoted.resolve_left hi
        rw [hp, Option.some_or, Option.some.injEq] at hq
        rw [mem_quotes, ← hq, not_or]
        exact hquotes

/-- **An action is in scope exactly if its literal is written somewhere on the line.** The written
form of its pattern is read whatever characters the literal has, and the search for what is read
gives the same answer; that answer is yes exactly if at some index the line has the literal,
character by character in letters of any case, at its start or behind a character that is no quote.
A place behind a quote does not hide a later one. -/
theorem FlagContext.inScope_iff_writtenAt (c : FlagContext) :
    (∃ e s, Reading.all.run
        { rest := Glyph.ofChars (unquotedSource c.action.literal).toList,
          mode := { anyCase := true } } =
          .ok (e, s) ∧ c.inScope = (e.search c.line.toList).isSome) ∧
      (c.inScope = true ↔ ∃ i, WrittenAt c.action.literal.toList c.line.toList i) := by
  constructor
  · refine ⟨_, _, all_unquotedSource c.action.literal, ?_⟩
    rw [inScope, Bool.eq_iff_iff, Expr.search_isSome_iff, Expr.search_isSome_iff]
    simp only [Expr.waysAt, ways_readUnquoted]
  · rw [inScope, search_unquoted_iff]
    constructor
    · exact WrittenUnquoted.exists_writtenAt
    · rintro ⟨i, h⟩
      exact h.writtenUnquoted

end Actionary
