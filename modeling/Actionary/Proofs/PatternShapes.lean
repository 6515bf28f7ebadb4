import Mathlib.Data.List.Forall2
import Actionary.Proofs.PatternWays

/-!
# The ways of common patterns

Which places the patterns of this project reach: a text, one pattern after another, a choice of
several, a run of characters. A place is told by what was read on the way to it, as `Cursor.past`.
-/

namespace Actionary.Pattern

/-- The place behind a text that stands after a place, with what is left. -/
def Cursor.past (s : Cursor) (text rest : List Code) : Cursor :=
  s.moved (text.reverse ++ s.before) rest

namespace Cursor

@[simp] theorem past_after (s : Cursor) (text rest : List Code) :
    (s.past text rest).after = rest := rfl

@[simp] theorem past_before (s : Cursor) (text rest : List Code) :
    (s.past text rest).before = text.reverse ++ s.before := rfl

@[simp] theorem past_nil (s : Cursor) : s.past [] s.after = s := rfl

theorem past_past (s : Cursor) (text more rest rest' : List Code) :
    (s.past text rest).past more rest' = s.past (text ++ more) rest' := by
  simp [past, moved]

theorem textTo_past {s : Cursor} {text rest : List Code} (h : s.after = text ++ rest) :
    s.textTo (s.past text rest) = text := by
  rw [textTo, past_after, h, List.length_append, Nat.add_sub_cancel, List.take_left]

end Cursor

theorem Test.holds_set_points (cs : List Code) (c : Code) :
    (Test.set false .exact (cs.map fun d => .point d.toNat)).holds c = true ↔ c ∈ cs := by
  have hpoint : ∀ d : Code, (Item.point d.toNat).holds .exact c = true ↔ d = c := by
    intro d
    simp only [Item.holds, beq_self_eq_true, ↓reduceIte, beq_iff_eq, Code.toNat_inj]
  simp only [Test.holds, Bool.bne_false, List.any_map, List.any_eq_true, Function.comp_apply,
    hpoint, exists_eq_right]

namespace Expr

/-! ## Sequences and choices -/

theorem ways_seqAll_cons (e : Expr) (es : List Expr) (s : Cursor) :
    (seqAll (e :: es)).ways s = (e.ways s).flatMap (seqAll es).ways := by
  cases es with
  | nil =>
      have hnil : (seqAll []).ways = fun s => [s] := rfl
      rw [hnil, List.flatMap_singleton']
      rfl
  | cons f fs => rfl

theorem ways_seqAll_append (es fs : List Expr) (s : Cursor) :
    (seqAll (es ++ fs)).ways s = ((seqAll es).ways s).flatMap (seqAll fs).ways := by
  induction es generalizing s with
  | nil => exact (List.flatMap_singleton ..).symm
  | cons e es ih =>
      rw [List.cons_append, ways_seqAll_cons, ways_seqAll_cons, List.flatMap_assoc]
      exact congrArg (List.flatMap · (e.ways s)) (funext ih)

theorem ways_altAll (es : List Expr) (s : Cursor) :
    (altAll es).ways s = es.flatMap fun e => e.ways s := by
  induction es with
  | nil => rfl
  | cons e es ih => exact congrArg (e.ways s ++ ·) ih

/-! ## Texts -/

theorem mem_ways_char {rule : CaseRule} {c : Code} {s t : Cursor} :
    t ∈ (char rule c).ways s ↔
      ∃ d rest, s.after = d :: rest ∧ rule.same c.toNat d = true ∧ t = s.past [d] rest := by
  unfold char ways
  cases s.after with
  | nil => simp
  | cons d rest =>
      cases hd : rule.same c.toNat d with
      | false => simp [Test.holds, hd]
      | true =>
          simp only [Test.holds, hd, List.cons.injEq]
          constructor
          · intro ht
            exact ⟨d, rest, ⟨rfl, rfl⟩, hd, List.mem_singleton.mp ht⟩
          · rintro ⟨d', rest', ⟨rfl, rfl⟩, -, rfl⟩
            exact List.mem_singleton_self _

/-- A text is read where characters stand that count as the same, one by one. -/
theorem mem_ways_text {rule : CaseRule} {cs : List Code} :
    ∀ {s t : Cursor}, t ∈ (text rule cs).ways s ↔
      ∃ u rest, s.after = u ++ rest ∧
        List.Forall₂ (fun c d => rule.same c.toNat d = true) cs u ∧ t = s.past u rest := by
  induction cs with
  | nil =>
      intro s t
      show t ∈ [s] ↔ _
      rw [List.mem_singleton]
      constructor
      · rintro rfl
        exact ⟨[], t.after, rfl, .nil, rfl⟩
      · rintro ⟨u, rest, hs, hu, rfl⟩
        cases hu
        simp only [List.nil_append] at hs
        rw [← hs, Cursor.past_nil]
  | cons c cs ih =>
      intro s t
      rw [text, List.map_cons, ways_seqAll_cons, List.mem_flatMap]
      constructor
      · rintro ⟨m, hm, ht⟩
        obtain ⟨d, rest, hs, hd, rfl⟩ := mem_ways_char.mp hm
        obtain ⟨u, rest', hrest, hu, rfl⟩ := ih.mp ht
        refine ⟨d :: u, rest', ?_, .cons hd hu, Cursor.past_past s [d] u rest rest'⟩
        rw [hs, show rest = u ++ rest' from hrest]
        rfl
      · rintro ⟨u, rest, hs, hu, rfl⟩
        cases hu with
        | @cons _ d _ u hd hu =>
            refine ⟨s.past [d] (u ++ rest), mem_ways_char.mpr ⟨d, u ++ rest, hs, hd, rfl⟩, ?_⟩
            exact ih.mpr ⟨u, rest, rfl, hu, (Cursor.past_past s [d] u _ rest).symm⟩

theorem forall₂_same_exact {cs u : List Code} :
    List.Forall₂ (fun c d => CaseRule.exact.same c.toNat d = true) cs u ↔ cs = u := by
  have hsame : ∀ c d : Code, CaseRule.exact.same c.toNat d = true ↔ c = d := by
    intro c d
    simp only [CaseRule.same, beq_iff_eq, Code.toNat_inj]
  simp only [hsame, List.forall₂_eq_eq_eq]

theorem mem_ways_text_exact {cs : List Code} {s t : Cursor} :
    t ∈ (text .exact cs).ways s ↔ ∃ rest, s.after = cs ++ rest ∧ t = s.past cs rest := by
  rw [mem_ways_text]
  constructor
  · rintro ⟨u, rest, hs, hu, rfl⟩
    obtain rfl := forall₂_same_exact.mp hu
    exact ⟨rest, hs, rfl⟩
  · rintro ⟨rest, hs, rfl⟩
    exact ⟨cs, rest, hs, forall₂_same_exact.mpr rfl, rfl⟩

/-! ## Runs of characters -/

theorem mem_longestWays {test : Test} {s t : Cursor} {after : List Code} :
    ∀ {least : Nat} {before : List Code}, t ∈ longestWays test s least none before after ↔
      ∃ u rest, after = u ++ rest ∧ (∀ c ∈ u, test.holds c = true) ∧ least ≤ u.length ∧
        t = s.moved (u.reverse ++ before) rest := by
  induction after with
  | nil =>
      intro least before
      simp only [longestWays]
      constructor
      · intro ht
        split at ht
        · next hl =>
            obtain rfl := List.mem_singleton.mp ht
            exact ⟨[], [], rfl, by simp, by simpa using hl, rfl⟩
        · exact absurd ht List.not_mem_nil
      · rintro ⟨u, rest, hu, -, hl, rfl⟩
        obtain ⟨rfl, rfl⟩ := List.append_eq_nil_iff.mp hu.symm
        obtain rfl : least = 0 := by simpa using hl
        exact List.mem_singleton_self _
  | cons c cs ih =>
      intro least before
      have hhere : t ∈ (if least == 0 then [s.moved before (c :: cs)] else []) ↔
          least = 0 ∧ t = s.moved before (c :: cs) := by
        split
        · next hl => simpa using fun _ => by simpa using hl
        · next hl => simpa using fun h => absurd h (by simpa using hl)
      rw [longestWays]
      cases hc : test.holds c with
      | true =>
          rw [if_pos (by simp)]
          constructor
          · intro ht
            rcases List.mem_append.mp ht with ht | ht
            · obtain ⟨u, rest, rfl, hu, hl, rfl⟩ := ih.mp ht
              refine ⟨c :: u, rest, rfl, ?_, by rw [List.length_cons]; omega, by simp⟩
              exact List.forall_mem_cons.mpr ⟨hc, hu⟩
            · obtain ⟨rfl, rfl⟩ := hhere.mp ht
              exact ⟨[], c :: cs, rfl, by simp, Nat.zero_le _, rfl⟩
          · rintro ⟨u, rest, hcs, hu, hl, rfl⟩
            cases u with
            | nil =>
                obtain rfl : c :: cs = rest := hcs
                exact List.mem_append_right _ (hhere.mpr ⟨Nat.le_zero.mp hl, rfl⟩)
            | cons d u =>
                obtain ⟨rfl, rfl⟩ := List.cons.inj hcs
                refine List.mem_append_left _ (ih.mpr ⟨u, rest, rfl, ?_, ?_, by simp⟩)
                · exact (List.forall_mem_cons.mp hu).2
                · rw [List.length_cons] at hl
                  omega
      | false =>
          rw [if_neg (by simp), hhere]
          constructor
          · rintro ⟨rfl, rfl⟩
            exact ⟨[], c :: cs, rfl, by simp, Nat.zero_le _, rfl⟩
          · rintro ⟨u, rest, hcs, hu, hl, rfl⟩
            cases u with
            | nil =>
                obtain rfl : c :: cs = rest := hcs
                exact ⟨Nat.le_zero.mp hl, rfl⟩
            | cons d u =>
                obtain ⟨rfl, -⟩ := List.cons.inj hcs
                exact absurd (hu c List.mem_cons_self) (by simp [hc])

theorem mem_ways_many_greedy {test : Test} {least : Nat} {s t : Cursor} :
    t ∈ (many .greedy least none test).ways s ↔
      ∃ u rest, s.after = u ++ rest ∧ (∀ c ∈ u, test.holds c = true) ∧ least ≤ u.length ∧
        t = s.past u rest := by
  simp only [ways]
  split
  · next hlt =>
      constructor
      · intro ht
        exact absurd ht List.not_mem_nil
      · rintro ⟨u, rest, hs, -, hl, -⟩
        rw [hs, List.length_append] at hlt
        omega
  · exact mem_longestWays

theorem mem_shortestWays {test : Test} {s t : Cursor} {after : List Code} :
    ∀ {before : List Code}, t ∈ shortestWays test s 0 none before after ↔
      ∃ u rest, after = u ++ rest ∧ (∀ c ∈ u, test.holds c = true) ∧
        t = s.moved (u.reverse ++ before) rest := by
  induction after with
  | nil =>
      intro before
      rw [shortestWays]
      constructor
      · intro ht
        exact ⟨[], [], rfl, by simp, List.mem_singleton.mp ht⟩
      · rintro ⟨u, rest, hu, -, rfl⟩
        obtain ⟨rfl, rfl⟩ := List.append_eq_nil_iff.mp hu.symm
        exact List.mem_singleton_self _
  | cons c cs ih =>
      intro before
      rw [shortestWays, if_pos (beq_self_eq_true 0), List.mem_cons]
      constructor
      · rintro (rfl | ht)
        · exact ⟨[], c :: cs, rfl, by simp, rfl⟩
        · cases hc : test.holds c with
          | false => exact absurd ht (by simp [hc])
          | true =>
              rw [hc] at ht
              obtain ⟨u, rest, rfl, hu, rfl⟩ := ih.mp ht
              exact ⟨c :: u, rest, rfl, List.forall_mem_cons.mpr ⟨hc, hu⟩, by simp⟩
      · rintro ⟨u, rest, hcs, hu, rfl⟩
        cases u with
        | nil =>
            obtain rfl : c :: cs = rest := hcs
            exact Or.inl rfl
        | cons d u =>
            obtain ⟨rfl, rfl⟩ := List.cons.inj hcs
            obtain ⟨hc, hu⟩ := List.forall_mem_cons.mp hu
            right
            rw [hc]
            exact ih.mpr ⟨u, rest, rfl, hu, by simp⟩

theorem mem_ways_many_reluctant {test : Test} {s t : Cursor} :
    t ∈ (many .reluctant 0 none test).ways s ↔
      ∃ u rest, s.after = u ++ rest ∧ (∀ c ∈ u, test.holds c = true) ∧ t = s.past u rest := by
  rw [ways, if_neg (Nat.not_lt_zero _)]
  exact mem_shortestWays

/-! ## A character that must not stand before a place -/

theorem ways_not_behind_one (test : Test) (s : Cursor) :
    (behind true 1 (.one test)).ways s = if s.before.head?.any test.holds then [] else [s] := by
  cases hbefore : s.before with
  | nil =>
      have hback : s.back 1 = none := by rw [Cursor.back, hbefore]
      simp only [ways, hback]
      rfl
  | cons c cs =>
      have hback : s.back 1 = some (s.moved cs (c :: s.after)) := by
        rw [Cursor.back, hbefore]
        rfl
      simp only [ways, hback, Cursor.moved]
      cases hc : test.holds c with
      | true => simp [hc]
      | false => simp [hc]

end Expr

end Actionary.Pattern
