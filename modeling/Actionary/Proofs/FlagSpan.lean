import Actionary.Proofs.FlagList

/-!
# Where a started flag stands

`startedFlagPattern` reads an opening mark, blanks, anything on the line, and two dashes. Which text
it finds is settled by the order in which its ways are tried:

  * the longest run of blanks first, though a shorter one may be taken, and the rest of the run then
    counts as text on the line;
  * behind the blanks the shortest text first.

A shorter run of blanks never leads to dashes that the longest does not lead to as well, so the
blanks end where their run ends. `StartsFlagAt` says this by the indices of the text, without the
pattern.
-/

namespace Actionary

open Actionary.Text Actionary.Pattern

/-! ## The first of ranked places -/

/-- What comes first from places in ascending rank comes from the place of least rank that gives
anything. -/
theorem exists_of_head?_flatMap {α β : Type} {rank : α → Nat} {xs : List α}
    (h : xs.Pairwise fun x y => rank x < rank y) {f : α → List β} {b : β}
    (hb : (xs.flatMap f).head? = some b) :
    ∃ x ∈ xs, (f x).head? = some b ∧ ∀ y ∈ xs, rank y < rank x → f y = [] := by
  rw [List.head?_flatMap] at hb
  obtain ⟨tried, x, later, rfl, hx, htried⟩ := List.findSome?_eq_some_iff.mp hb
  obtain ⟨-, hlater, -⟩ := List.pairwise_append.mp h
  refine ⟨x, List.mem_append_right _ List.mem_cons_self, hx, fun y hy hlt => ?_⟩
  rcases List.mem_append.mp hy with hy | hy
  · exact List.head?_eq_none_iff.mp (htried y hy)
  · rcases List.mem_cons.mp hy with rfl | hy
    · exact absurd hlt (Nat.lt_irrefl _)
    · exact absurd ((List.pairwise_cons.mp hlater).1 y hy) (Nat.lt_asymm hlt)

namespace Pattern

variable {test : Test} {s : Cursor}

/-- A greedy run comes to its farthest place first. -/
theorem pairwise_longestWays {after : List Code} :
    ∀ {least : Nat} {before : List Code}, (longestWays test s least none before after).Pairwise
      fun t u => t.after.length < u.after.length := by
  induction after with
  | nil =>
      intro least before
      rw [longestWays]
      split
      · exact List.pairwise_singleton _ _
      · exact List.Pairwise.nil
  | cons c cs ih =>
      intro least before
      have hhere : (if least == 0 then [s.moved before (c :: cs)] else []).Pairwise
          fun t u : Cursor => t.after.length < u.after.length := by
        split
        · exact List.pairwise_singleton _ _
        · exact List.Pairwise.nil
      rw [longestWays]
      split
      · refine List.pairwise_append.mpr ⟨ih, hhere, fun t ht u hu => ?_⟩
        obtain ⟨read, rest, rfl, -, -, rfl⟩ := Expr.mem_longestWays.mp ht
        obtain rfl : u = s.moved before (c :: (read ++ rest)) := by
          split at hu
          · exact List.mem_singleton.mp hu
          · exact absurd hu List.not_mem_nil
        show rest.length < (c :: (read ++ rest)).length
        rw [List.length_cons, List.length_append]
        omega
      · exact hhere

/-- A reluctant run comes to its nearest place first. -/
theorem pairwise_shortestWays {after : List Code} :
    ∀ {before : List Code}, (shortestWays test s 0 none before after).Pairwise
      fun t u => t.before.length < u.before.length := by
  induction after with
  | nil =>
      intro before
      exact List.pairwise_singleton _ _
  | cons c cs ih =>
      intro before
      rw [shortestWays, if_pos (beq_self_eq_true 0)]
      refine List.pairwise_cons.mpr ⟨fun t ht => ?_, ?_⟩
      · split at ht
        · obtain ⟨read, rest, rfl, -, rfl⟩ := Expr.mem_shortestWays.mp ht
          show before.length < (read.reverse ++ c :: before).length
          rw [List.length_append, List.length_cons]
          omega
        · exact absurd ht List.not_mem_nil
      · split
        · exact ih
        · exact List.Pairwise.nil

end Pattern

/-! ## The first way of the pattern -/

/-- Two dashes. -/
def dashes : List Code := ['-', '-']

/-- Anything on the line, and two dashes. -/
def toDashes : Expr :=
  .seqAll [.many .reluctant 0 none .sameLine, .text .exact dashes]

theorem mem_ways_toDashes {s t : Cursor} :
    t ∈ toDashes.ways s ↔
      ∃ between rest, s.after = between ++ (dashes ++ rest) ∧ .char '\n' ∉ between ∧
        t = s.past (between ++ dashes) rest := by
  simp only [toDashes, Expr.ways_seqAll_cons, List.mem_flatMap]
  constructor
  · rintro ⟨reached, hreached, dashed, hdashed, ht⟩
    obtain rfl := List.mem_singleton.mp ht
    obtain ⟨between, _, hs, hbetween, rfl⟩ := Expr.mem_ways_many_reluctant.mp hreached
    obtain ⟨rest, rfl, rfl⟩ := Expr.mem_ways_text_exact.mp hdashed
    exact ⟨between, rest, hs, forall_holds_sameLine.mp hbetween, Cursor.past_past ..⟩
  · rintro ⟨between, rest, hs, hbetween, rfl⟩
    refine ⟨_, Expr.mem_ways_many_reluctant.mpr
        ⟨between, _, hs, forall_holds_sameLine.mpr hbetween, rfl⟩,
      _, Expr.mem_ways_text_exact.mpr ⟨rest, rfl, rfl⟩, ?_⟩
    rw [Cursor.past_past]
    exact List.mem_singleton_self _

/-- The nearest dashes come first. -/
theorem le_of_head?_ways_toDashes {s t : Cursor} (h : (toDashes.ways s).head? = some t)
    {between rest : List Code} (hs : s.after = between ++ (dashes ++ rest))
    (hline : .char '\n' ∉ between) :
    t.before.length ≤ (s.past (between ++ dashes) rest).before.length := by
  have hranked : ((Expr.many .reluctant 0 none .sameLine).ways s).Pairwise
      fun t u => t.before.length < u.before.length := by
    rw [Expr.ways, if_neg (Nat.not_lt_zero _)]
    exact Pattern.pairwise_shortestWays
  rw [toDashes, Expr.ways_seqAll_cons] at h
  obtain ⟨x, -, hfirst, hlower⟩ := exists_of_head?_flatMap hranked h
  obtain ⟨_, -, rfl⟩ := Expr.mem_ways_text_exact.mp (List.mem_of_mem_head? hfirst)
  have hnear : s.past between (dashes ++ rest) ∈ (Expr.many .reluctant 0 none .sameLine).ways s :=
    Expr.mem_ways_many_reluctant.mpr ⟨between, _, hs, forall_holds_sameLine.mpr hline, rfl⟩
  have hdashes : (s.past between (dashes ++ rest)).past dashes rest ∈
      (Expr.seqAll [.text .exact dashes]).ways (s.past between (dashes ++ rest)) :=
    Expr.mem_ways_text_exact.mpr ⟨rest, rfl, rfl⟩
  have hle : x.before.length ≤ (s.past between (dashes ++ rest)).before.length := by
    apply Nat.le_of_not_lt
    intro hlt
    rw [hlower _ hnear hlt] at hdashes
    exact List.not_mem_nil hdashes
  simp only [Cursor.past_before, List.length_append, List.length_reverse] at hle ⊢
  omega

/-- How a started flag stands behind a place: the opening mark, all blanks behind it, anything on
the line, and two dashes. -/
structure StartsBy (after gap between rest : List Code) : Prop where
  cut : after = openMark ++ (gap ++ (between ++ (dashes ++ rest)))
  gap_ne : gap ≠ []
  blank : ∀ c ∈ gap, isBlank c = true
  /-- There are no blanks left. -/
  stops : startsWith isBlank between = false
  /-- The line does not end. -/
  line : .char '\n' ∉ between

theorem StartsBy.stops_behind {after gap between rest : List Code}
    (h : StartsBy after gap between rest) :
    startsWith isBlank (between ++ (dashes ++ rest)) = false := by
  cases between with
  | nil => rfl
  | cons c cs => exact h.stops

/-- The first way of the pattern reads all blanks, and then up to the nearest dashes. -/
theorem exists_startsBy_of_head? {s t : Cursor} (h : (startedFlagPattern.ways s).head? = some t) :
    ∃ gap between rest, StartsBy s.after gap between rest ∧
      t = s.past (openMark ++ (gap ++ (between ++ dashes))) rest ∧
      ∀ between' rest', StartsBy s.after gap between' rest' → between.length ≤ between'.length := by
  have hranked : ∀ m : Cursor, (Recognizer.blanks.ways m).Pairwise
      fun t u => t.after.length < u.after.length := by
    intro m
    rw [Recognizer.blanks, Expr.ways]
    split
    · exact List.Pairwise.nil
    · exact Pattern.pairwise_longestWays
  rw [startedFlagPattern, Expr.ways_seqAll_cons, List.head?_flatMap] at h
  obtain ⟨m, hm, h⟩ := List.exists_of_findSome?_eq_some h
  obtain ⟨_, hs, rfl⟩ := Expr.mem_ways_text_exact.mp hm
  rw [Expr.ways_seqAll_cons] at h
  obtain ⟨x, hx, hfirst, hlower⟩ := exists_of_head?_flatMap (hranked _) h
  obtain ⟨gap, _, rfl, hgap, hne, rfl⟩ := mem_ways_blanks.mp hx
  obtain ⟨between, rest, rfl, hline, rfl⟩ := mem_ways_toDashes.mp (List.mem_of_mem_head? hfirst)
  refine ⟨gap, between, rest, ⟨hs, hne, hgap, ?_, hline⟩, ?_, fun between' rest' hother => ?_⟩
  · cases between with
    | nil => rfl
    | cons c cs =>
        -- With one blank more the same dashes would have been found before.
        show isBlank c = false
        rw [Bool.eq_false_iff]
        intro hc
        obtain ⟨-, hcs⟩ := not_or.mp (mt List.mem_cons.mpr hline)
        have hmore : ∀ d ∈ gap ++ [c], isBlank d = true := by
          intro d hd
          rcases List.mem_append.mp hd with hd | hd
          · exact hgap d hd
          · exact List.mem_singleton.mp hd ▸ hc
        have hfarther :=
          mem_ways_blanks (s := s.past openMark (gap ++ (c :: cs ++ (dashes ++ rest)))).mpr
          ⟨gap ++ [c], cs ++ (dashes ++ rest), by simp, hmore, List.concat_ne_nil c gap, rfl⟩
        exact absurd (hlower _ hfarther (by simp))
          (List.ne_nil_of_mem (mem_ways_toDashes.mpr ⟨cs, rest, rfl, hcs, rfl⟩))
  · rw [Cursor.past_past, Cursor.past_past]
  · have hsame : between ++ (dashes ++ rest) = between' ++ (dashes ++ rest') :=
      List.append_cancel_left (List.append_cancel_left (hs.symm.trans hother.cut))
    have hle := le_of_head?_ways_toDashes hfirst hsame hother.line
    simp only [Cursor.past_before, List.length_append, List.length_reverse] at hle
    omega

/-! ## By indices -/

/-- The end of the blanks that stand from an index on. -/
def blanksEnd (text : List Code) (i : Nat) : Nat :=
  i + ((text.drop i).takeWhile isBlank).length

/-- A list of flags is opened at an index, and two dashes stand at another one behind it: between
them are blanks, at least one, and then characters of one line. -/
structure StartsFlagAt (text : List Code) (i k : Nat) : Prop where
  opened : openMark <+: text.drop i
  blank : startsWith isBlank (text.drop (i + 3)) = true
  /-- The dashes are behind the blanks. -/
  behind : blanksEnd text (i + 3) ≤ k
  dashed : dashes <+: text.drop k
  /-- The line does not end between the blanks and the dashes. -/
  line : .char '\n' ∉ (text.drop (blanksEnd text (i + 3))).take (k - blanksEnd text (i + 3))

/-- A run of a class that is followed by no character of it. -/
theorem span_append {p : Code → Bool} {u r : List Code} (hu : ∀ c ∈ u, p c = true)
    (hr : startsWith p r = false) : (u ++ r).takeWhile p = u ∧ (u ++ r).dropWhile p = r :=
  cut_unique (List.all_eq_true.mp List.all_takeWhile) hu (startsWith_dropWhile p _) hr
    List.takeWhile_append_dropWhile

theorem StartsBy.startsFlagAt {before after gap between rest : List Code}
    (h : StartsBy after gap between rest) :
    StartsFlagAt (before ++ after) before.length
      (before.length + 3 + gap.length + between.length) := by
  have hbehind := h.stops_behind
  obtain ⟨rfl, hne, hblank, -, hline⟩ := h
  have hopened : (before ++ (openMark ++ (gap ++ (between ++ (dashes ++ rest))))).drop
      (before.length + 3) = gap ++ (between ++ (dashes ++ rest)) := by
    rw [← List.append_assoc]
    exact List.drop_left' (by rw [List.length_append]; rfl)
  have hend : blanksEnd (before ++ (openMark ++ (gap ++ (between ++ (dashes ++ rest)))))
      (before.length + 3) = before.length + 3 + gap.length := by
    rw [blanksEnd, hopened, (span_append hblank hbehind).1]
  have hgap : (before ++ (openMark ++ (gap ++ (between ++ (dashes ++ rest))))).drop
      (before.length + 3 + gap.length) = between ++ (dashes ++ rest) := by
    rw [← List.drop_drop, hopened, List.drop_left]
  refine ⟨?_, ?_, ?_, ?_, ?_⟩
  · rw [List.drop_left]
    exact List.prefix_append _ _
  · rw [hopened, startsWith_append hne, startsWith_of_forall hne hblank]
  · rw [hend]
    exact Nat.le_add_right _ _
  · rw [← List.drop_drop, hgap, List.drop_left]
    exact List.prefix_append _ _
  · rw [hend, hgap, Nat.add_sub_cancel_left, List.take_left]
    exact hline

theorem StartsFlagAt.exists_startsBy {text : List Code} {i k : Nat} (h : StartsFlagAt text i k) :
    ∃ before after gap between rest, text = before ++ after ∧ before.length = i ∧
      StartsBy after gap between rest ∧ k = i + 3 + gap.length + between.length := by
  obtain ⟨after, hafter⟩ := h.opened
  have hi : i ≤ text.length := by
    apply Nat.le_of_not_lt
    intro hlt
    rw [List.drop_eq_nil_of_le (Nat.le_of_lt hlt)] at hafter
    exact absurd hafter (by simp [openMark])
  have hmark : text.drop (i + 3) = after := by
    rw [← List.drop_drop, ← hafter]
    rfl
  obtain ⟨-, hblank, hbehind, ⟨rest, hdashed⟩, hline⟩ := h
  have hend : blanksEnd text (i + 3) = i + 3 + (after.takeWhile isBlank).length := by
    rw [blanksEnd, hmark]
  rw [hmark] at hblank
  rw [hend] at hbehind hline
  -- The blanks are all there are, so the rest of the line starts right behind them.
  have hgap : text.drop (i + 3 + (after.takeWhile isBlank).length) = after.dropWhile isBlank := by
    rw [← List.drop_drop, hmark]
    exact (congrArg (List.drop _) List.takeWhile_append_dropWhile.symm).trans List.drop_left
  obtain ⟨n, rfl⟩ := Nat.exists_eq_add_of_le hbehind
  rw [← List.drop_drop, hgap] at hdashed
  rw [hgap, Nat.add_sub_cancel_left] at hline
  refine ⟨text.take i, text.drop i, after.takeWhile isBlank, (after.dropWhile isBlank).take n, rest,
    (List.take_append_drop i text).symm, List.length_take_of_le hi, ⟨?_, ?_, ?_, ?_, hline⟩, ?_⟩
  · rw [hdashed, List.take_append_drop, List.takeWhile_append_dropWhile, hafter]
  · cases after with
    | nil => exact absurd hblank Bool.false_ne_true
    | cons c cs =>
        have hc : isBlank c = true := hblank
        rw [List.takeWhile_cons_of_pos hc]
        exact List.cons_ne_nil _ _
  · exact List.all_eq_true.mp List.all_takeWhile
  · have hstops := startsWith_dropWhile isBlank after
    cases n with
    | zero => rfl
    | succ n =>
        cases hrest : after.dropWhile isBlank with
        | nil => rfl
        | cons c cs =>
            rw [hrest] at hstops
            exact hstops
  · have hlength := congrArg List.length hdashed
    rw [List.length_append, List.length_drop] at hlength
    have htwo : dashes.length = 2 := rfl
    rw [List.length_take_of_le (by omega)]

/-- The blanks behind an opening mark are cut off in one way only. -/
theorem StartsBy.gap_eq {after gap between rest gap' between' rest' : List Code}
    (h : StartsBy after gap between rest) (h' : StartsBy after gap' between' rest') : gap = gap' :=
  (cut_unique h.blank h'.blank h.stops_behind h'.stops_behind
    (List.append_cancel_left (h.cut.symm.trans h'.cut))).1

/-! ## The span that is found -/

theorem exists_startsFlagAt_iff (text : List Code) :
    (∃ i k, StartsFlagAt text i k) ↔ StartsFlag text := by
  constructor
  · rintro ⟨i, k, h⟩
    obtain ⟨before, _, gap, between, rest, rfl, -, ⟨rfl, hne, hblank, hstops, hline⟩, -⟩ :=
      h.exists_startsBy
    exact ⟨before, gap, between, rest, rfl, hne, hblank, hstops, hline⟩
  · rintro ⟨before, gap, between, rest, rfl, hne, hblank, hstops, hline⟩
    exact ⟨_, _, StartsBy.startsFlagAt ⟨rfl, hne, hblank, hstops, hline⟩⟩

/-- What is found starts where the first list of flags is opened, and ends behind the nearest dashes
of that list. -/
theorem startsFlagAt_of_search {text : List Code} {f : Found}
    (h : startedFlagPattern.search text = some f) :
    ∃ k, f.stop = k + 2 ∧ StartsFlagAt text f.start k ∧
      (∀ k', StartsFlagAt text f.start k' → k ≤ k') ∧
      ∀ i' k', StartsFlagAt text i' k' → f.start ≤ i' := by
  obtain ⟨before, after, t, rfl, hhead, rfl, hearlier⟩ := Expr.search_eq_some h
  obtain ⟨gap, between, rest, hby, rfl, hnearest⟩ := exists_startsBy_of_head? hhead
  have hcut : after = (openMark ++ (gap ++ (between ++ dashes))) ++ rest := by
    rw [show after = _ from hby.cut]
    simp only [List.append_assoc]
  refine ⟨before.length + 3 + gap.length + between.length, ?_, hby.startsFlagAt, fun k' hk' => ?_,
    fun i' k' hk' => ?_⟩
  · have hthree : openMark.length = 3 := rfl
    have htwo : dashes.length = 2 := rfl
    rw [Found.stop, Expr.foundAt, Cursor.textTo_past hcut]
    simp only [List.length_append]
    omega
  · obtain ⟨before', after', gap', between', rest', htext, hlength, hby', rfl⟩ :=
      hk'.exists_startsBy
    obtain ⟨-, rfl⟩ := List.append_inj htext hlength.symm
    obtain rfl := hby.gap_eq hby'
    exact Nat.add_le_add_left (hnearest between' rest' hby') _
  · obtain ⟨before', after', gap', between', rest', htext, rfl, hby', -⟩ := hk'.exists_startsBy
    apply Nat.le_of_not_lt
    intro hlt
    obtain ⟨t, ht⟩ :=
      exists_mem_ways_startedFlagPattern (s := .between before'.reverse after') |>.mpr
      ⟨gap', between', rest', hby'.cut, hby'.gap_ne, hby'.blank, hby'.line⟩
    have hnone : startedFlagPattern.waysAt before' after' = [] := hearlier before' after' htext hlt
    exact List.ne_nil_of_mem ht hnone

/-- **The search for a started flag gives its exact span.** Something is found if and only if a list
of flags is opened, with a blank right behind the opening mark, and two dashes stand behind all
those blanks without an end of line before them. The span then starts at the least index of such a
mark, and ends behind the nearest such dashes of that mark. -/
theorem search_startedFlagPattern_span (text : List Code) :
    ((startedFlagPattern.search text).isSome = true ↔ ∃ i k, StartsFlagAt text i k) ∧
      ∀ i stop, ((startedFlagPattern.search text).map fun f => (f.start, f.stop)) = some (i, stop) ↔
        ∃ k, stop = k + 2 ∧ StartsFlagAt text i k ∧ (∀ k', StartsFlagAt text i k' → k ≤ k') ∧
          ∀ i' k', StartsFlagAt text i' k' → i ≤ i' := by
  have hsome : (startedFlagPattern.search text).isSome = true ↔ ∃ i k, StartsFlagAt text i k :=
    (search_startedFlagPattern_iff text).trans (exists_startsFlagAt_iff text).symm
  refine ⟨hsome, fun i stop => ?_⟩
  constructor
  · intro h
    obtain ⟨f, hf, hspan⟩ := Option.map_eq_some_iff.mp h
    obtain ⟨rfl, rfl⟩ := Prod.mk.inj hspan
    exact startsFlagAt_of_search hf
  · rintro ⟨k, rfl, hk, hnearest, hfirst⟩
    obtain ⟨f, hf⟩ := Option.isSome_iff_exists.mp (hsome.mpr ⟨i, k, hk⟩)
    obtain ⟨k', hstop, hk', hnearest', hfirst'⟩ := startsFlagAt_of_search hf
    -- Both spans start at the least index, and both end behind the nearest dashes.
    obtain rfl : f.start = i := Nat.le_antisymm (hfirst' i k hk) (hfirst f.start k' hk')
    obtain rfl : k' = k := Nat.le_antisymm (hnearest' k hk) (hnearest k' hk')
    rw [hf, Option.map_some, hstop]

-- The blanks go over an end of line; behind them there is none.
example : (startedFlagPattern.search
    (Text.toList "on " ++ (openMark ++ Text.toList "\n a --b --"))).map
      (fun f => (f.start, f.stop)) = some (3, 12) := by
  decide +kernel

end Actionary
