import Actionary.Proofs.LiteralSearch
import Actionary.Proofs.Recognition

/-!
# The written form of the phrases of a catalog

The recognizer of a catalog holds a pattern and its written form side by side:

    \b(?:click\s+on|click|go)\b

The written form is read as the pattern (`read_source_ofCatalog`). Each phrase is a list of signs,
letters and gaps, which the reader takes one by one (`alternatives_barred`). What it makes of the
alternatives is not what is written: a start that all have in common is taken out, and a choice
between single letters becomes a set of them. Neither changes the ways in which the pattern fits
(`ways_choice`): a letter is read in one way at most, and a character on a line is a form of one
letter only.
-/

namespace Actionary

open Actionary.Text Actionary.Pattern

/-! ## The signs of a phrase -/

/-- A sign of a written phrase: a letter of a word, or the gap between two words. -/
inductive Sign where
  | letter (c : Code)
  | gap

namespace Sign

def ofWords : List (List Code) → List Sign
  | [] => []
  | [w] => w.map .letter
  | w :: v :: rest => w.map .letter ++ .gap :: ofWords (v :: rest)

/-- How a sign is written in a phrase. -/
def char : Sign → Code
  | .letter c => c
  | .gap => ' '

/-- How a sign is written in a pattern. -/
def glyphs : Sign → List Glyph
  | .letter c => [.ofChar c]
  | .gap => [.escaped 's', .plain '+']

/-- What is read from a sign. -/
def term : Sign → Term
  | .letter c => .char scopeMode c.toNat
  | .gap => Reading.blanks scopeMode

def piece : Sign → Piece
  | .letter c => ⟨true, .one (scopeMode.charTest false c.toNat)⟩
  | .gap => ⟨false, Recognizer.blanks⟩

theorem map_char_ofWords (ws : List (List Code)) :
    (ofWords ws).map char = Recognizer.joinedBy [.char ' '] ws := by
  have hword : ∀ w : List Code, (w.map letter).map char = w := by
    intro w
    rw [List.map_map]
    exact List.map_id w
  induction ws with
  | nil => rfl
  | cons w ws ih =>
      cases ws with
      | nil => exact hword w
      | cons v ws =>
          rw [ofWords, Recognizer.joinedBy, List.map_append, hword, List.map_cons, ih,
            List.append_assoc]
          rfl

theorem exists_of_letter_mem_ofWords {ws : List (List Code)} {c : Code}
    (h : .letter c ∈ ofWords ws) : ∃ w ∈ ws, c ∈ w := by
  induction ws with
  | nil => cases h
  | cons w ws ih =>
      cases ws with
      | nil =>
          obtain ⟨d, hd, heq⟩ := List.mem_map.mp h
          exact ⟨w, List.mem_cons_self, letter.inj heq ▸ hd⟩
      | cons v ws =>
          rcases List.mem_append.mp h with hw | hrest
          · obtain ⟨d, hd, heq⟩ := List.mem_map.mp hw
            exact ⟨w, List.mem_cons_self, letter.inj heq ▸ hd⟩
          · rcases List.mem_cons.mp hrest with hgap | hrest
            · cases hgap
            · obtain ⟨u, hu, hc⟩ := ih hrest
              exact ⟨u, List.mem_cons_of_mem w hu, hc⟩

theorem piece_injective {x y : Sign} (h : x.piece = y.piece) : x = y := by
  cases x with
  | letter c =>
      cases y with
      | letter d =>
          injection h with _ hexpr
          injection hexpr with htest
          injection htest with _ _ hpoint
          rw [Code.toNat_inj.mp hpoint]
      | gap => cases h
  | gap =>
      cases y with
      | letter d => cases h
      | gap => rfl

theorem allPieces_terms (xs : List Sign) : Term.allPieces (xs.map term).reverse = xs.map piece := by
  have hone : ∀ x : Sign, x.term.pieces = [x.piece] := by
    intro x
    cases x with
    | letter c => rfl
    | gap => rfl
  rw [Term.allPieces, List.reverse_reverse, List.flatMap_map]
  simp only [hone]
  exact List.map_eq_flatMap.symm

end Sign

/-! ## Reading the written form -/

/-- What is left of a pattern, if it does not change the repetition before it. -/
structure Settled (rest : List Glyph) : Prop where
  complete : rest ≠ [.dangling]
  notReluctant : rest.head? ≠ some (.plain '?')
  notPossessive : rest.head? ≠ some (.plain '+')

theorem settled_plain {c : Code} (hreluctant : c ≠ '?') (hpossessive : c ≠ '+')
    (rest : List Glyph) : Settled (.plain c :: rest) :=
  ⟨by simp, by simpa using hreluctant, by simpa using hpossessive⟩

namespace Sign

variable {rest : List Glyph}

/-- A letter is escaped if it could be taken for a sign of repetition. -/
theorem settled_glyphs (h : Settled rest) (xs : List Sign) :
    Settled (xs.flatMap glyphs ++ rest) := by
  cases xs with
  | nil => exact h
  | cons x xs =>
      cases x with
      | gap => exact ⟨by simp [glyphs], by simp [glyphs], by simp [glyphs]⟩
      | letter c =>
          rw [List.flatMap_cons, glyphs, List.append_assoc, List.singleton_append, Glyph.ofChar]
          split
          · exact ⟨by simp, by simp, by simp⟩
          · next hc =>
              refine settled_plain ?_ ?_ _
              · rintro rfl
                exact hc (by decide)
              · rintro rfl
                exact hc (by decide)

/-- The signs of a phrase are read one by one. -/
theorem terms_glyphs {s : Source} {fuel : Nat} {first : Bool} {done : List Term} (h : Settled rest)
    (xs : List Sign) :
    (Reading.terms (fuel + (xs.flatMap glyphs).length) scopeMode first done).run
        { s with rest := xs.flatMap glyphs ++ rest } =
      (Reading.terms fuel scopeMode first ((xs.map term).reverse ++ done)).run
        { s with rest := rest } := by
  induction xs generalizing done with
  | nil => rfl
  | cons x xs ih =>
      have hleft := settled_glyphs h xs
      rw [List.flatMap_cons, List.append_assoc, List.map_cons, List.reverse_cons, List.append_assoc,
        List.singleton_append, ← ih]
      cases x with
      | letter c =>
          rw [glyphs, List.singleton_append, List.length_cons, ← Nat.add_assoc]
          exact Reading.terms_glyphs rfl hleft.complete [c]
      | gap =>
          rw [glyphs, List.length_append, List.length_cons, List.length_singleton, Nat.add_comm 2,
            ← Nat.add_assoc]
          exact Reading.terms_blanks rfl rfl hleft.complete hleft.notReluctant hleft.notPossessive

/-- Phrases with bars between them. -/
def barred : List (List Sign) → List Glyph
  | [] => []
  | [xs] => xs.flatMap glyphs
  | xs :: ys :: rest => xs.flatMap glyphs ++ .plain '|' :: barred (ys :: rest)

theorem settled_barred (h : Settled rest) (phrases : List (List Sign)) :
    Settled (barred phrases ++ rest) := by
  cases phrases with
  | nil => exact h
  | cons xs phrases =>
      cases phrases with
      | nil => exact settled_glyphs h xs
      | cons ys phrases =>
          rw [barred, List.append_assoc]
          exact settled_glyphs (settled_plain (by decide) (by decide) _) xs

/-- The alternatives of a group are the phrases in it. -/
theorem alternatives_barred {s : Source} {phrases : List (List Sign)}
    (hne : phrases ≠ []) {fuel : Nat} (hfuel : (barred phrases).length + 2 ≤ fuel) :
    (Reading.alternatives false fuel scopeMode false).run
        { s with rest := barred phrases ++ .plain ')' :: rest } =
      .ok (phrases.map (·.map piece), { s with rest := .plain ')' :: rest }) := by
  induction phrases generalizing fuel with
  | nil => exact absurd rfl hne
  | cons xs phrases ih =>
      obtain ⟨fuel, rfl⟩ : ∃ n, fuel = n + 1 := ⟨fuel - 1, by omega⟩
      have hterms : ∀ left : List Glyph, Settled left → (xs.flatMap glyphs).length + 1 ≤ fuel →
          ∃ n, (Reading.terms fuel scopeMode false []).run
              { s with rest := xs.flatMap glyphs ++ left } =
            (Reading.terms (n + 1) scopeMode false (xs.map term).reverse).run
              { s with rest := left } := by
        intro left hleft hle
        obtain ⟨n, rfl⟩ : ∃ n, fuel = n + 1 + (xs.flatMap glyphs).length :=
          ⟨fuel - 1 - (xs.flatMap glyphs).length, by omega⟩
        exact ⟨n, by rw [terms_glyphs hleft xs, List.append_nil]⟩
      cases phrases with
      | nil =>
          rw [barred] at hfuel ⊢
          obtain ⟨n, hread⟩ :=
            hterms (.plain ')' :: rest) (settled_plain (by decide) (by decide) _) (by omega)
          rw [List.map_singleton, ← allPieces_terms]
          exact Reading.alternatives_of_terms (hread.trans Reading.terms_close) (by simp)
      | cons ys phrases =>
          rw [barred, List.length_append, List.length_cons] at hfuel
          obtain ⟨n, hread⟩ := hterms (.plain '|' :: (barred (ys :: phrases) ++ .plain ')' :: rest))
            (settled_plain (by decide) (by decide) _) (by omega)
          rw [barred, List.map_cons, ← allPieces_terms, List.append_assoc, List.cons_append]
          have hleft : Settled (barred (ys :: phrases) ++ .plain ')' :: rest) :=
            settled_barred (settled_plain (by decide) (by decide) rest) _
          exact Reading.alternatives_of_bar hleft.complete (hread.trans Reading.terms_bar)
            (ih (List.cons_ne_nil _ _) (by omega))

/-! ## Where it fits -/

/-- The parts of a phrase fit where its words do. -/
theorem ways_pieces (ws : List (List Code)) :
    (Piece.sequence ((ofWords ws).map piece)).ways = (Recognizer.wordsExpr ws).ways := by
  have hword : ∀ w : List Code, (Expr.seqAll (((w.map letter).map piece).map (·.expr))).ways =
      (Expr.text .full w).ways := by
    intro w
    rw [← ways_charTests, List.map_map, List.map_map]
    rfl
  induction ws with
  | nil => rfl
  | cons w ws ih =>
      cases ws with
      | nil => exact hword w
      | cons v ws =>
          funext s
          rw [ofWords, Piece.sequence, List.map_append, List.map_append, Expr.ways_seqAll_append,
            hword, List.map_cons, List.map_cons]
          show ((Expr.text .full w).ways s).flatMap _ = ((Expr.text .full w).ways s).flatMap _
          refine congrArg (List.flatMap · _) (funext fun t => ?_)
          rw [Expr.ways_seqAll_cons]
          show (Recognizer.blanks.ways t).flatMap _ = (Recognizer.blanks.ways t).flatMap _
          exact congrArg (List.flatMap · _) ih

end Sign

/-- A pattern that is read in one way at most. -/
def Pattern.Expr.Narrow (e : Expr) : Prop :=
  ∀ s, e.ways s = [] ∨ ∃ t, e.ways s = [t]

theorem narrow_one (t : Test) : (Expr.one t).Narrow := by
  intro s
  unfold Expr.ways
  split
  · exact Or.inl rfl
  · split
    · exact Or.inr ⟨_, rfl⟩
    · exact Or.inl rfl

namespace Pattern.Piece

/-- What alternatives have in common is at the start of each of them, and made of single steps. -/
theorem common_spec {a : List Piece} {others : List (List Piece)} {shared : List Piece}
    {left : List (List Piece)} (h : common a others = (shared, left)) :
    a :: others = left.map (shared ++ ·) ∧ ∀ p ∈ shared, p.single = true := by
  induction a generalizing others shared left with
  | nil =>
      obtain ⟨rfl, rfl⟩ := Prod.mk.inj h
      exact ⟨(List.map_id _).symm, fun p hp => absurd hp List.not_mem_nil⟩
  | cons p ps ih =>
      rw [common] at h
      split at h
      · next hshared =>
          obtain ⟨hsingle, hheads⟩ := Bool.and_eq_true_iff.mp hshared
          obtain ⟨rfl, rfl⟩ := Prod.mk.inj h
          obtain ⟨hcut, hall⟩ := @ih (others.map List.tail) _ _ rfl
          have hothers : others = (others.map List.tail).map (p :: ·) := by
            rw [List.map_map]
            refine (List.map_id others).symm.trans (List.map_congr_left fun o ho => ?_)
            have hhead : o.head? = some p := eq_of_beq (List.all_eq_true.mp hheads o ho)
            exact (List.cons_head?_tail hhead).symm
          refine ⟨?_, List.forall_mem_cons.mpr ⟨hsingle, hall⟩⟩
          have hmap := congrArg (List.map (p :: ·)) hcut
          rw [List.map_cons, ← hothers, List.map_map] at hmap
          exact hmap
      · obtain ⟨rfl, rfl⟩ := Prod.mk.inj h
        exact ⟨(List.map_id _).symm, fun p hp => absurd hp List.not_mem_nil⟩

/-- Behind what alternatives have in common, the rest is a set of characters or a choice. -/
theorem choice_cases (mode : Mode) {a b : List Piece} {others : List (List Piece)}
    {shared : List Piece} {left : List (List Piece)} (h : common a (b :: others) = (shared, left)) :
    ∃ last : Piece, choice mode (a :: b :: others) = shared ++ [last] ∧
      ((∃ items, allMembers? left = some items ∧
        last.expr = .one (mode.setTest false items.eraseDups)) ∨
        last.expr = .altAll (left.map sequence)) := by
  rw [choice, h]
  · dsimp only
    cases hitems : allMembers? left with
    | some items => exact ⟨_, rfl, Or.inl ⟨items, rfl, rfl⟩⟩
    | none => exact ⟨_, rfl, Or.inr rfl⟩
  · simp

/-- A step that is read in one way at most can be taken out of alternatives that start with it. -/
theorem ways_altAll_cons {p : Piece} (hp : p.expr.Narrow) (left : List (List Piece)) (s : Cursor) :
    (Expr.altAll ((left.map (p :: ·)).map sequence)).ways s =
      (p.expr.ways s).flatMap (Expr.altAll (left.map sequence)).ways := by
  have hways : ∀ l : List Piece, (sequence (p :: l)).ways s =
      (p.expr.ways s).flatMap (sequence l).ways :=
    fun l => Expr.ways_seqAll_cons _ _ _
  rw [Expr.ways_altAll, List.map_map, List.flatMap_map]
  simp only [Function.comp_apply, hways]
  rcases hp s with hnone | ⟨t, hone⟩
  · rw [hnone]
    simp
  · rw [hone]
    simp [Expr.ways_altAll, List.flatMap_map]

theorem ways_altAll_shared {shared : List Piece} (h : ∀ p ∈ shared, p.expr.Narrow)
    (left : List (List Piece)) (s : Cursor) :
    (Expr.altAll ((left.map (shared ++ ·)).map sequence)).ways s =
      ((sequence shared).ways s).flatMap (Expr.altAll (left.map sequence)).ways := by
  induction shared generalizing s with
  | nil =>
      show (Expr.altAll ((left.map id).map sequence)).ways s = [s].flatMap _
      rw [List.map_id, List.flatMap_singleton]
  | cons p shared ih =>
      obtain ⟨hp, hshared⟩ := List.forall_mem_cons.mp h
      have hcut : left.map (p :: shared ++ ·) = (left.map (shared ++ ·)).map (p :: ·) := by
        rw [List.map_map]
        rfl
      rw [hcut, ways_altAll_cons hp, sequence, List.map_cons, Expr.ways_seqAll_cons,
        List.flatMap_assoc]
      exact congrArg (List.flatMap · _) (funext (ih hshared))

/-- The members of a choice between single letters. -/
theorem letters_of_allMembers? {left : List (List Piece)}
    (h : ∀ l ∈ left, ∃ xs : List Sign, l = xs.map Sign.piece)
    {items : List Item} (hitems : allMembers? left = some items) :
    ∃ cs : List Code, left = cs.map (fun c => [(Sign.letter c).piece]) ∧
      items = cs.map fun c => .point c.toNat := by
  induction left generalizing items with
  | nil => exact ⟨[], rfl, (Option.some.inj hitems).symm⟩
  | cons l left ih =>
      obtain ⟨⟨xs, rfl⟩, hleft⟩ := List.forall_mem_cons.mp h
      obtain ⟨own, hown, hitems⟩ := Option.bind_eq_some_iff.mp hitems
      obtain ⟨others, hothers, hitems⟩ := Option.bind_eq_some_iff.mp hitems
      obtain ⟨cs, rfl, rfl⟩ := ih hleft hothers
      obtain ⟨c, rfl, rfl⟩ : ∃ c, xs = [.letter c] ∧ own = [.point c.toNat] := by
        match xs, hown with
        | [], hown => cases hown
        | [.letter c], hown => exact ⟨c, rfl, (Option.some.inj hown).symm⟩
        | [.gap], hown => cases hown
        | .letter c :: y :: xs, hown => cases hown
        | .gap :: y :: xs, hown => cases hown
      exact ⟨c :: cs, rfl, (Option.some.inj hitems).symm⟩

end Pattern.Piece

theorem holds_point_full {c : Code} (h : isPlain c = true) (d : Code) :
    (Item.point c.toNat).holds .full d = sameLetter c d := by
  have hascii := lt_of_isPlain h
  rw [Item.holds, if_neg (by decide), if_pos (by simp only [beyondTwoBytes]; omega), same_full]

theorem holds_point_exact {c : Code} (h : comesInCases c = false) (d : Code) :
    (Item.point c.toNat).holds .exact d = sameLetter c d := by
  rw [Item.holds, if_pos (by decide), Bool.eq_iff_iff, sameLetter_iff_eq h, beq_iff_eq,
    Code.toNat_inj]

/-- A set of letters holds of their forms. -/
theorem holds_setTest_letters {cs : List Code} (h : ∀ c ∈ cs, isPlain c = true) (d : Code) :
    (scopeMode.setTest false (cs.map fun c => .point c.toNat).eraseDups).holds d =
      cs.any (sameLetter · d) := by
  rw [Mode.setTest, Test.holds, Bool.bne_false, Bool.eq_iff_iff, List.any_eq_true, List.any_eq_true]
  simp only [List.mem_eraseDups, List.mem_map, exists_exists_and_eq_and]
  refine exists_congr fun c => and_congr_right fun hc => ?_
  split
  · rw [show scopeMode.rule = .full from rfl, holds_point_full (h c hc)]
  · next hnone =>
      rw [holds_point_exact]
      by_contra hcased
      refine hnone (Bool.and_eq_true_iff.mpr ⟨rfl, List.any_eq_true.mpr ⟨.point c.toNat, ?_, ?_⟩⟩)
      · exact List.mem_eraseDups.mpr (List.mem_map_of_mem hc)
      · exact Bool.or_eq_true_iff.mpr
          (Or.inr ((isCased_full c).trans (Bool.not_eq_false _ ▸ hcased)))

/-- A character is a form of one plain letter only, so a choice between letters reads it in one way.
-/
theorem ways_letters {cs : List Code} (hplain : ∀ c ∈ cs, isPlain c = true) (hcs : cs.Nodup)
    (s : Cursor) :
    (Expr.altAll ((cs.map fun c => [(Sign.letter c).piece]).map Piece.sequence)).ways s =
      (Expr.one (scopeMode.setTest false (cs.map fun c => .point c.toNat).eraseDups)).ways s := by
  rw [Expr.ways_altAll, List.map_map, List.flatMap_map]
  show cs.flatMap (fun c => (Expr.one (scopeMode.charTest false c.toNat)).ways s) = _
  unfold Expr.ways
  cases s.after with
  | nil => simp
  | cons d rest =>
      simp only [holds_charTest, holds_setTest_letters hplain]
      induction cs with
      | nil => rfl
      | cons c cs ih =>
          obtain ⟨hc, hplain⟩ := List.forall_mem_cons.mp hplain
          obtain ⟨hnew, hcs⟩ := List.nodup_cons.mp hcs
          rw [List.flatMap_cons, List.any_cons, ih hplain hcs]
          cases hsame : sameLetter c d with
          | false => rfl
          | true =>
              have hothers : cs.any (sameLetter · d) = false := by
                rw [List.any_eq_false]
                intro c' hc' hsame'
                exact hnew (eq_of_sameLetter hc (hplain c' hc') hsame hsame' ▸ hc')
              rw [hothers]
              rfl

/-! ## What the reader makes of alternatives -/

section Cut

variable {phrases : List (List Sign)} {shared : List Piece} {left : List (List Piece)}

/-- Each alternative is the common part and what is left of it, so both are made of signs. -/
theorem exists_signs_of_mem
    (hcut : phrases.map (·.map Sign.piece) = left.map (shared ++ ·)) {l : List Piece}
    (hl : l ∈ left) :
    ∃ us vs, us ++ vs ∈ phrases ∧ us.map Sign.piece = shared ∧ vs.map Sign.piece = l := by
  have hmem : shared ++ l ∈ phrases.map (·.map Sign.piece) := by
    rw [hcut]
    exact List.mem_map_of_mem hl
  obtain ⟨zs, hzs, heq⟩ := List.mem_map.mp hmem
  obtain ⟨us, vs, rfl, hus, hvs⟩ := List.map_eq_append_iff.mp heq
  exact ⟨us, vs, hzs, hus, hvs⟩

/-- The common part is made of letters, and a letter is read in one way at most. -/
theorem narrow_of_mem_shared (hne : phrases ≠ [])
    (hcut : phrases.map (·.map Sign.piece) = left.map (shared ++ ·))
    (hsingle : ∀ p ∈ shared, p.single = true) : ∀ p ∈ shared, p.expr.Narrow := by
  intro p hp
  cases left with
  | nil => exact absurd (List.map_eq_nil_iff.mp hcut) hne
  | cons l left =>
      obtain ⟨us, vs, -, rfl, -⟩ := exists_signs_of_mem hcut List.mem_cons_self
      obtain ⟨x, -, rfl⟩ := List.mem_map.mp hp
      cases x with
      | letter c => exact narrow_one _
      | gap => cases hsingle _ hp

/-- A set of letters is read where the choice between them is. -/
theorem ways_set_of_allMembers? (hnodup : phrases.Nodup)
    (hplain : ∀ xs ∈ phrases, ∀ c, .letter c ∈ xs → isPlain c = true)
    (hcut : phrases.map (·.map Sign.piece) = left.map (shared ++ ·)) {items : List Item}
    (hitems : Piece.allMembers? left = some items) :
    (Expr.one (scopeMode.setTest false items.eraseDups)).ways =
      (Expr.altAll (left.map Piece.sequence)).ways := by
  have hsigns : ∀ l ∈ left, ∃ vs : List Sign, l = vs.map Sign.piece := by
    intro l hl
    obtain ⟨us, vs, -, -, hvs⟩ := exists_signs_of_mem hcut hl
    exact ⟨vs, hvs.symm⟩
  obtain ⟨cs, rfl, rfl⟩ := Piece.letters_of_allMembers? hsigns hitems
  have hletters : ∀ c ∈ cs, isPlain c = true := by
    intro c hc
    obtain ⟨us, vs, hzs, -, hvs⟩ := exists_signs_of_mem hcut (List.mem_map_of_mem hc)
    obtain ⟨x, hx, hpiece⟩ : ∃ x ∈ vs, x.piece = (Sign.letter c).piece :=
      List.mem_map.mp (hvs ▸ List.mem_singleton_self _)
    exact hplain _ hzs c (List.mem_append_right us (Sign.piece_injective hpiece ▸ hx))
  have hleft : (cs.map fun c => [(Sign.letter c).piece]).Nodup := by
    refine List.Nodup.of_map (shared ++ ·) ?_
    rw [← hcut]
    exact hnodup.map (List.map_injective_iff.mpr fun x y => Sign.piece_injective)
  exact funext fun t => (ways_letters hletters (hleft.of_map _) t).symm

end Cut

/-- **What the reader makes of alternatives is read where they are**, in the same ways and in their
order. -/
theorem ways_choice {phrases : List (List Sign)} (hne : phrases ≠ []) (hnodup : phrases.Nodup)
    (hplain : ∀ xs ∈ phrases, ∀ c, .letter c ∈ xs → isPlain c = true) (s : Cursor) :
    (Piece.sequence (Piece.choice scopeMode (phrases.map (·.map Sign.piece)))).ways s =
      (Expr.altAll ((phrases.map (·.map Sign.piece)).map Piece.sequence)).ways s := by
  match phrases, hne with
  | [xs], _ => exact (List.append_nil _).symm
  | xs :: ys :: phrases, hne =>
      obtain ⟨shared, left, hcommon⟩ : ∃ shared left,
          Piece.common (xs.map Sign.piece) ((ys :: phrases).map (·.map Sign.piece)) =
            (shared, left) := ⟨_, _, rfl⟩
      obtain ⟨hcut, hsingle⟩ := Piece.common_spec hcommon
      have hcut : (xs :: ys :: phrases).map (·.map Sign.piece) = left.map (shared ++ ·) := hcut
      obtain ⟨last, hchoice, hlast⟩ := Piece.choice_cases scopeMode hcommon
      have hways : last.expr.ways = (Expr.altAll (left.map Piece.sequence)).ways := by
        rcases hlast with ⟨items, hitems, hlast⟩ | hlast
        · rw [hlast]
          exact ways_set_of_allMembers? hnodup hplain hcut hitems
        · rw [hlast]
      have hread : Piece.choice scopeMode ((xs :: ys :: phrases).map (·.map Sign.piece)) =
          shared ++ [last] := hchoice
      rw [hread, hcut, Piece.ways_altAll_shared (narrow_of_mem_shared hne hcut hsingle),
        Piece.sequence, List.map_append, Expr.ways_seqAll_append, ← hways]
      rfl

/-! ## The phrases of a catalog -/

namespace Recognizer

open Sign

theorem ofChars_wordsSource (ws : List (List Code)) (more : List Code) :
    Glyph.ofChars (wordsSource ws ++ more) = (ofWords ws).flatMap glyphs ++ Glyph.ofChars more := by
  have hword : ∀ w : List Code, (w.map letter).flatMap glyphs = w.map Glyph.ofChar := by
    intro w
    rw [List.flatMap_map]
    exact List.map_eq_flatMap.symm
  induction ws with
  | nil => rfl
  | cons w ws ih =>
      cases ws with
      | nil =>
          show Glyph.ofChars (escape w ++ more) = (w.map letter).flatMap glyphs ++ _
          rw [hword, Glyph.ofChars_escape_append]
      | cons v ws =>
          show Glyph.ofChars (escape w ++ Text.toList "\\s+" ++ wordsSource (v :: ws) ++ more) = _
          rw [List.append_assoc, List.append_assoc, Glyph.ofChars_escape_append, ofWords,
            List.flatMap_append, hword, List.append_assoc]
          show _ ++ .escaped 's' :: .plain '+' :: Glyph.ofChars (wordsSource (v :: ws) ++ more) = _
          rw [ih]
          rfl

theorem ofChars_alternatives (wss : List (List (List Code))) (more : List Code) :
    Glyph.ofChars (joinedBy [.char '|'] (wss.map wordsSource) ++ more) =
      barred (wss.map ofWords) ++ Glyph.ofChars more := by
  induction wss with
  | nil => rfl
  | cons ws wss ih =>
      cases wss with
      | nil => exact ofChars_wordsSource ws more
      | cons vs wss =>
          show Glyph.ofChars (wordsSource ws ++ [.char '|'] ++
                joinedBy [.char '|'] ((vs :: wss).map wordsSource) ++ more) =
              ((ofWords ws).flatMap glyphs ++ .plain '|' :: barred ((vs :: wss).map ofWords)) ++ _
          rw [List.append_assoc, List.append_assoc, ofChars_wordsSource, List.append_assoc,
            List.singleton_append]
          exact congrArg (_ ++ .plain '|' :: ·) ih

/-- The written form of phrases as whole words. -/
def wholeWords (phrases : List (List Sign)) : List Glyph :=
  .escaped 'b' :: .plain '(' :: .plain '?' :: .plain ':' ::
    (barred phrases ++ [.plain ')', .escaped 'b'])

/-- What is read from it. -/
def readWholeWords (phrases : List (List Sign)) : Expr :=
  Piece.sequence (⟨true, .anchor (.boundary false)⟩ ::
    (Piece.choice scopeMode (phrases.map (·.map piece)) ++ [⟨true, .anchor (.boundary false)⟩]))

theorem all_wholeWords {phrases : List (List Sign)} (h : phrases ≠ []) :
    Reading.all.run { rest := wholeWords phrases, mode := scopeMode } =
      .ok (readWholeWords phrases, { rest := [], mode := scopeMode }) := by
  have hterms : (Reading.terms (4 * (wholeWords phrases).length + 3) scopeMode true []).run
      { rest := wholeWords phrases, mode := scopeMode } =
        .ok ([.place (.boundary false), ⟨.free, Piece.choice scopeMode (phrases.map (·.map piece))⟩,
          .place (.boundary false)], { rest := [], mode := scopeMode }) := by
    obtain ⟨n, hn⟩ : ∃ n, 4 * (wholeWords phrases).length + 3 = n + (barred phrases).length + 6 :=
      ⟨4 * (wholeWords phrases).length - (barred phrases).length - 3, by simp [wholeWords]; omega⟩
    have hinner : (Reading.inner (n + (barred phrases).length + 3) scopeMode).run
        { rest := barred phrases ++ [.plain ')', .escaped 'b'], mode := scopeMode } =
          .ok (Piece.choice scopeMode (phrases.map (·.map piece)),
            { rest := [.escaped 'b'], mode := scopeMode }) :=
      Reading.inner_of_alternatives (t := { rest := [], mode := scopeMode }) (by simp)
        (alternatives_barred (s := { rest := [], mode := scopeMode }) h (by omega))
    have hleft : Settled (barred phrases ++ [.plain ')', .escaped 'b']) :=
      settled_barred (settled_plain (by decide) (by decide) _) _
    rw [hn, wholeWords, Reading.terms_boundary (s := { rest := [], mode := scopeMode }) (by simp)]
    rw [Reading.terms_group (s := { rest := [], mode := scopeMode }) rfl hleft.complete hinner]
    rw [Reading.terms_boundary (s := { rest := [], mode := scopeMode }) (by simp),
      Reading.terms_end rfl]
    rfl
  exact Reading.all_of_terms (s := { rest := wholeWords phrases, mode := scopeMode })
    (by simp [wholeWords]) hterms rfl rfl rfl

/-- The phrases of a catalog, sign by sign. -/
def phraseSigns (s : Snapshot) : List (List Sign) :=
  (phrases s).map fun q => ofWords (words q.toList)

theorem nodup_phraseSigns (s : Snapshot) : (phraseSigns s).Nodup := by
  have hphrases : (phrases s).Nodup :=
    ((List.mergeSort_perm _ _).nodup_iff).mpr (nodup_eraseDups_map _)
  refine List.Nodup.map_on ?_ hphrases
  intro q hq r hr heq
  obtain ⟨a, -, rfl⟩ := mem_phrases.mp hq
  obtain ⟨b, -, rfl⟩ := mem_phrases.mp hr
  have hchars := congrArg (List.map Sign.char) heq
  rw [map_char_ofWords, map_char_ofWords] at hchars
  exact Text.toList_inj.mp (a.key.tight_phrase.joinedBy_words.symm.trans
    (hchars.trans b.key.tight_phrase.joinedBy_words))

theorem isPlain_of_mem_phraseSigns {s : Snapshot} {xs : List Sign}
    (hxs : xs ∈ phraseSigns s) {c : Code} (hc : .letter c ∈ xs) : isPlain c = true := by
  obtain ⟨q, hq, rfl⟩ := List.mem_map.mp hxs
  obtain ⟨a, -, rfl⟩ := mem_phrases.mp hq
  obtain ⟨w, hw, hmem⟩ := exists_of_letter_mem_ofWords hc
  exact (a.key.plainWords_phrase w hw).2 c hmem

/-- The pattern that is read fits where the phrases do. -/
theorem ways_readWholeWords (s : Snapshot) (h : phraseSigns s ≠ []) :
    (readWholeWords (phraseSigns s)).ways =
      (Expr.seqAll [.anchor (.boundary false),
        .altAll ((phrases s).map fun q => wordsExpr (words q.toList)),
        .anchor (.boundary false)]).ways := by
  have hphrases :
      (Piece.sequence (Piece.choice scopeMode ((phraseSigns s).map (·.map piece)))).ways =
        (Expr.altAll ((phrases s).map fun q => wordsExpr (words q.toList))).ways := by
    funext t
    rw [ways_choice h (nodup_phraseSigns s) (fun xs hxs c hc => isPlain_of_mem_phraseSigns hxs hc),
      Expr.ways_altAll, Expr.ways_altAll, phraseSigns]
    simp only [List.map_map, List.flatMap_map, Function.comp_def, ways_pieces]
  funext t
  rw [readWholeWords, Piece.sequence, List.map_cons, List.map_append, Expr.ways_seqAll_cons,
    Expr.ways_seqAll_cons]
  refine congrArg (List.flatMap · _) (funext fun u => ?_)
  rw [Expr.ways_seqAll_append, Expr.ways_seqAll_cons]
  exact congrArg (List.flatMap _ ·) (congrFun hphrases u)

/-- The written form of the recognizer that finds nothing is a condition that never holds. -/
theorem all_nothing :
    Reading.all.run { rest := Glyph.ofChars nothing.source.toList, mode := scopeMode } =
      .ok (.ahead true .empty, { rest := [], mode := scopeMode }) := by
  have hinner : (Reading.inner 17 scopeMode).run { rest := [.plain ')'], mode := scopeMode } =
      .ok ([], { rest := [], mode := scopeMode }) :=
    Reading.inner_of_terms (t := { rest := [], mode := scopeMode }) (by simp)
      (Reading.terms_close (s := { rest := [], mode := scopeMode }))
  have hterms : (Reading.terms 19 scopeMode true []).run
      { rest := [.plain '(', .plain '?', .plain '!', .plain ')'], mode := scopeMode } =
        .ok ([.whole (.ahead true .empty)], { rest := [], mode := scopeMode }) := by
    rw [Reading.terms_notAhead (s := { rest := [], mode := scopeMode }) rfl (by simp) hinner,
      Reading.terms_end rfl]
    rfl
  exact Reading.all_of_terms
    (s := { rest := [.plain '(', .plain '?', .plain '!', .plain ')'], mode := scopeMode })
    (by simp) hterms rfl rfl rfl

/-- **The recognizer of a catalog is what its written form says.** The written form is never
refused. With letters of any case it is read as a pattern that fits wherever the pattern beside it
does, in the same ways and in the same order, and no characters are sought. So both find the same on
every line. -/
theorem read_source_ofCatalog (s : Snapshot) :
    ∃ e t, Reading.all.run
        { rest := Glyph.ofChars (ofCatalog s).source.toList,
          mode := { anyCase := true } } = .ok (e, t) ∧
      e.ways = (ofCatalog s).expr.ways ∧ e.sought? t.mode.ascii = (ofCatalog s).sought ∧
      ∀ line, e.search line = (ofCatalog s).find? line := by
  have hfind : ∀ e : Expr, e.ways = (ofCatalog s).expr.ways →
      ∀ line, e.search line = (ofCatalog s).find? line := by
    intro e he line
    rw [find?_ofCatalog]
    exact Expr.search_congr he line
  cases hphrases : phrases s with
  | nil =>
      have hnothing : ofCatalog s = nothing := by rw [ofCatalog, hphrases]
      have hways : (Expr.ahead true .empty).ways = (ofCatalog s).expr.ways := by
        rw [hnothing]
        rfl
      refine ⟨_, _, by rw [hnothing]; exact all_nothing, hways, ?_, hfind _ hways⟩
      rw [hnothing]
      rfl
  | cons p ps =>
      have hne : phraseSigns s ≠ [] := by simp [phraseSigns, hphrases]
      have hsource : Glyph.ofChars (ofCatalog s).source.toList = wholeWords (phraseSigns s) := by
        have hsigns : phraseSigns s = ((p :: ps).map fun q => words q.toList).map ofWords := by
          rw [phraseSigns, hphrases, List.map_map]
          rfl
        rw [ofCatalog, hphrases, hsigns, wholeWords]
        show .escaped 'b' :: .plain '(' :: .plain '?' :: .plain ':' ::
          Glyph.ofChars
            (joinedBy [.char '|'] (((p :: ps).map fun q => words q.toList).map wordsSource) ++
            Text.toList ")\\b") = _
        rw [ofChars_alternatives]
        rfl
      have hways : (readWholeWords (phraseSigns s)).ways = (ofCatalog s).expr.ways := by
        rw [ways_readWholeWords s hne, ofCatalog, hphrases]
        simp only [List.map_map]
        rfl
      have hsought : ∀ es : List Expr,
          (Expr.seqAll (.anchor (.boundary false) :: es)).sought? false = none := by
        intro es
        cases es with
        | nil => rfl
        | cons e es => rfl
      refine ⟨_, _, by rw [hsource]; exact all_wholeWords hne, hways, ?_, hfind _ hways⟩
      rw [ofCatalog, hphrases]
      exact hsought _

end Recognizer

end Actionary
