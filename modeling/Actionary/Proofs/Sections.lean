import Actionary.Completion.Section
import Actionary.Proofs.Occurrence
import Actionary.Proofs.PatternShapes

/-!
# The section of a place

A line announces a section by blanks and a name between brackets; what follows the brackets is not
looked at. The pattern for such lines cuts a line in one way only, since no blank is a bracket and
no character of a name is one, so a line announces at most one name (`announced?_eq_some_iff`).

A place is in the section that the nearest line above it announces, where only the known names count
if any are known. `inSection_iff_announced_above` tells that by the lines above the place alone.
-/

namespace Actionary

open Actionary.Text Actionary.Pattern

/-! ## Lines that announce a section -/

/-- Whether a character may stand in the name of a section. -/
def isNameChar (c : Code) : Bool :=
  c.isAlphanum || c == '_' || c == '-'

/-- A line is cut into blanks, a name between brackets, and what follows. -/
structure AnnouncesBy (line name blanks rest : List Code) : Prop where
  line_eq : line = blanks ++ (.char '[' :: (name ++ (.char ']' :: rest)))
  blank : ∀ c ∈ blanks, isAsciiBlank c = true
  /-- There is a name between the brackets. -/
  ne_nil : name ≠ []
  /-- The name is made of letters, digits, underscores and dashes. -/
  nameChar : ∀ c ∈ name, isNameChar c = true

/-- A line announces a section of a name. -/
def Announces (line name : Text) : Prop :=
  ∃ blanks rest, AnnouncesBy line.toList name.toList blanks rest

theorem AnnouncesBy.name_eq {line name name' blanks blanks' rest rest' : List Code}
    (h : AnnouncesBy line name blanks rest) (h' : AnnouncesBy line name' blanks' rest') :
    name = name' := by
  obtain ⟨-, hbracket⟩ := cut_unique h.blank h'.blank rfl rfl (h.line_eq.symm.trans h'.line_eq)
  exact (cut_unique h.nameChar h'.nameChar rfl rfl (List.cons.inj hbracket).2).1

theorem Announces.name_eq {line name name' : Text} (h : Announces line name)
    (h' : Announces line name') : name = name' := by
  obtain ⟨blanks, rest, hcut⟩ := h
  obtain ⟨blanks', rest', hcut'⟩ := h'
  exact Text.toList_inj.mp (hcut.name_eq hcut')

theorem holds_blankSet (c : Code) :
    (Test.set false .exact [.named .blank true false]).holds c = isAsciiBlank c := by
  simp [Test.holds, Item.holds, CaseRule.small, CharClass.holds]

theorem holds_nameSet (c : Code) :
    (Test.set false .exact [.named .word true false, .point '-'.toNat]).holds c = isNameChar c := by
  have hdash : (45 == c.toNat) = (c == '-') := by
    rw [Bool.eq_iff_iff, beq_iff_eq, beq_iff_eq, eq_comm]
    exact Code.toNat_inj (c := c) (d := '-')
  simp [Test.holds, Item.holds, CaseRule.small, CharClass.holds, isAsciiWord, isNameChar, hdash]

theorem group?_of_captured {s : Cursor} {group : Nat} {text rest : List Code}
    {opened closed : List (Nat × List Code)} (hopened : s.opened = (group, text ++ rest) :: opened)
    (hclosed : s.closed = (group, rest) :: closed) : s.group? group = some text := by
  rw [Cursor.group?, hopened, hclosed, List.lookup_cons_self, List.lookup_cons_self]
  simp

theorem mem_ways_bracket {c : Code} {s t : Cursor} :
    t ∈ (Expr.char .exact c).ways s ↔ ∃ rest, s.after = c :: rest ∧ t = s.past [c] rest :=
  @Expr.mem_ways_text_exact [c] s t

/-- Wherever the pattern takes a line, it has captured the name that the line announces. -/
theorem announcesBy_of_mem_waysAt {line : List Code} {t : Cursor}
    (h : t ∈ annotationPattern.waysAt [] line) :
    ∃ name blanks rest, AnnouncesBy line name blanks rest ∧
      t.group? annotationGroup = some name := by
  simp only [annotationPattern, Expr.waysAt, Expr.ways_seqAll_cons, List.mem_flatMap] at h
  obtain ⟨start, hstart, indented, hindented, opened, hopened, named, hnamed, closed, hclosed,
    hend⟩ := h
  obtain rfl : start = .between [] line := List.mem_singleton.mp hstart
  obtain ⟨blanks, _, hline, hblanks, -, rfl⟩ := Expr.mem_ways_many_greedy.mp hindented
  obtain ⟨_, rfl, rfl⟩ := mem_ways_bracket.mp hopened
  obtain ⟨inner, hinner, rfl⟩ := List.mem_map.mp hnamed
  obtain ⟨name, _, rfl, hchars, hlength, rfl⟩ := Expr.mem_ways_many_greedy.mp hinner
  obtain ⟨rest, rfl, rfl⟩ := mem_ways_bracket.mp hclosed
  obtain rfl := List.mem_singleton.mp hend
  simp only [holds_blankSet] at hblanks
  simp only [holds_nameSet] at hchars
  exact ⟨name, blanks, rest, ⟨hline, hblanks, List.length_pos_iff.mp hlength, hchars⟩,
    group?_of_captured rfl rfl⟩

theorem exists_mem_waysAt {line name blanks rest : List Code}
    (h : AnnouncesBy line name blanks rest) : ∃ t, t ∈ annotationPattern.waysAt [] line := by
  simp only [annotationPattern, Expr.waysAt, Expr.ways_seqAll_cons, List.mem_flatMap]
  have hblanks : ∀ c ∈ blanks,
      (Test.set false .exact [.named .blank true false]).holds c = true := by
    simpa only [holds_blankSet] using h.blank
  have hchars : ∀ c ∈ name,
      (Test.set false .exact [.named .word true false, .point '-'.toNat]).holds c = true := by
    simpa only [holds_nameSet] using h.nameChar
  exact ⟨_, _, List.mem_singleton_self (Cursor.between [] line),
    _, Expr.mem_ways_many_greedy.mpr ⟨blanks, _, h.line_eq, hblanks, Nat.zero_le _, rfl⟩,
    _, mem_ways_bracket.mpr ⟨_, rfl, rfl⟩,
    _, List.mem_map_of_mem
      (Expr.mem_ways_many_greedy.mpr ⟨name, _, rfl, hchars, List.length_pos_iff.mpr h.ne_nil, rfl⟩),
    _, mem_ways_bracket.mpr ⟨rest, rfl, rfl⟩, List.mem_singleton_self _⟩

/-- **A name is read from a line exactly if the line announces it.** -/
theorem announced?_eq_some_iff (line name : Text) :
    announced? line = some name ↔ Announces line name := by
  have hfit : annotationPattern.fitStart line.toList =
      (annotationPattern.waysAt [] line.toList).head?.map (Expr.foundAt [] line.toList) :=
    annotationPattern.fitAt_eq [] line.toList
  rw [announced?, hfit]
  cases hways : annotationPattern.waysAt [] line.toList with
  | nil =>
      constructor
      · intro h
        exact absurd h (by simp)
      · rintro ⟨blanks, rest, hcut⟩
        obtain ⟨t, ht⟩ := exists_mem_waysAt hcut
        rw [hways] at ht
        exact absurd ht List.not_mem_nil
  | cons t ts =>
      obtain ⟨taken, blanks, rest, hcut, hgroup⟩ :=
        announcesBy_of_mem_waysAt
          (hways ▸ List.mem_cons_self : t ∈ annotationPattern.waysAt [] line.toList)
      have hannounces : Announces line (Text.ofList taken) :=
        ⟨blanks, rest, by rwa [Text.toList_ofList]⟩
      have hread : ((Expr.foundAt [] line.toList t).group? annotationGroup).map Text.ofList =
          some (Text.ofList taken) := congrArg (Option.map Text.ofList) hgroup
      show ((Expr.foundAt [] line.toList t).group? annotationGroup).map Text.ofList = some name ↔ _
      rw [hread, Option.some.injEq]
      constructor
      · rintro rfl
        exact hannounces
      · exact hannounces.name_eq

/-! ## The nearest line above -/

/-- A name counts: it is known, or no name is. -/
def Counts (known : List Text) (name : Text) : Prop :=
  known = [] ∨ name ∈ known

theorem counts_iff {known : List Text} {name : Text} :
    (known.isEmpty || known.contains name) = true ↔ Counts known name := by
  rw [Bool.or_eq_true, List.isEmpty_iff, List.contains_iff_mem, Counts]

/-- A line that announces nothing that counts is passed over. -/
theorem nearestName?_cons {known : List Text} {line : Text} (above : List Text)
    (h : ∀ name, Announces line name → ¬ Counts known name) :
    nearestName? known (line :: above) = nearestName? known above := by
  rw [nearestName?]
  cases hname : announced? line with
  | none => rfl
  | some name =>
      have hnot := h name ((announced?_eq_some_iff line name).mp hname)
      rw [← counts_iff] at hnot
      exact if_neg hnot

/-- A line that announces what counts settles the search. -/
theorem nearestName?_cons_of_counts {known : List Text} {line name : Text} (above : List Text)
    (h : Announces line name) (hcounts : Counts known name) :
    nearestName? known (line :: above) = some name := by
  rw [nearestName?, (announced?_eq_some_iff line name).mpr h]
  exact if_pos (counts_iff.mpr hcounts)

/-- A line above a place announces a name that counts, and no line between the two does. -/
def NearestAbove (known lines : List Text) (n : Nat) (name : Text) : Prop :=
  ∃ i line, i < n ∧ lines[i]? = some line ∧ Announces line name ∧ Counts known name ∧
    ∀ j other between, i < j → j < n → lines[j]? = some other → Announces other between →
      ¬ Counts known between

theorem nearestAbove_succ_of_passed {known lines : List Text} {n : Nat} {name : Text}
    (h : ∀ line between, lines[n]? = some line → Announces line between → ¬ Counts known between) :
    NearestAbove known lines (n + 1) name ↔ NearestAbove known lines n name := by
  constructor
  · rintro ⟨i, line, hi, hline, hannounces, hcounts, hbetween⟩
    have hne : i ≠ n := by
      rintro rfl
      exact h line name hline hannounces hcounts
    exact ⟨i, line, by omega, hline, hannounces, hcounts,
      fun j other between hij hj => hbetween j other between hij (by omega)⟩
  · rintro ⟨i, line, hi, hline, hannounces, hcounts, hbetween⟩
    refine ⟨i, line, by omega, hline, hannounces, hcounts, fun j other between hij hj hother => ?_⟩
    rcases Nat.lt_succ_iff_lt_or_eq.mp hj with hlt | rfl
    · exact hbetween j other between hij hlt hother
    · exact h other between hother

theorem nearestAbove_succ_of_counts {known lines : List Text} {n : Nat} {line found name : Text}
    (hline : lines[n]? = some line) (h : Announces line found) (hcounts : Counts known found) :
    NearestAbove known lines (n + 1) name ↔ found = name := by
  constructor
  · rintro ⟨i, line', hi, hline', hannounces, -, hbetween⟩
    -- Were the line farther up, this one would stand between it and the place.
    rcases Nat.lt_succ_iff_lt_or_eq.mp hi with hlt | rfl
    · exact absurd hcounts (hbetween n line found hlt (Nat.lt_succ_self n) hline h)
    · obtain rfl := Option.some.inj (hline.symm.trans hline')
      exact h.name_eq hannounces
  · rintro rfl
    exact ⟨n, line, Nat.lt_succ_self n, hline, h, hcounts, fun j _ _ hnj hj => by omega⟩

/-- The search from a place upwards finds the name of the nearest line that counts. -/
theorem nearestName?_take_eq_some_iff (known lines : List Text) (n : Nat) (name : Text) :
    nearestName? known (lines.take n).reverse = some name ↔ NearestAbove known lines n name := by
  -- Downwards along the lines: each line settles the search below it, or is passed over.
  induction n with
  | zero =>
      refine ⟨fun h => absurd h (by simp [nearestName?]), ?_⟩
      rintro ⟨i, _, hi, -⟩
      exact absurd hi (Nat.not_lt_zero i)
  | succ n ih =>
      rw [List.take_add_one]
      cases hline : lines[n]? with
      | none =>
          rw [nearestAbove_succ_of_passed fun line _ h => absurd (hline.symm.trans h) (by simp),
            ← ih]
          simp
      | some line =>
          rw [Option.toList_some, List.reverse_append, List.reverse_singleton,
            List.singleton_append]
          by_cases h : ∃ found, Announces line found ∧ Counts known found
          · obtain ⟨found, hfound, hcounts⟩ := h
            rw [nearestName?_cons_of_counts _ hfound hcounts,
              nearestAbove_succ_of_counts hline hfound hcounts, Option.some.injEq]
          · have hpassed : ∀ between, Announces line between → ¬ Counts known between :=
              fun between hannounces hcounts => h ⟨between, hannounces, hcounts⟩
            rw [nearestName?_cons _ hpassed, ih, nearestAbove_succ_of_passed]
            intro line' between hline'
            obtain rfl := Option.some.inj (hline.symm.trans hline')
            exact hpassed between

theorem inSection_eq_true_iff (d : Document) (p : Position) (sectionName : Text)
    (known : List Text) :
    inSection d p sectionName known = true ↔ NearestAbove known d.lines p.line sectionName := by
  rw [inSection, ← nearestName?_take_eq_some_iff]
  cases nearestName? known (d.lines.take p.line).reverse with
  | none => simp
  | some name => simp

/-- **A place is in a section exactly if the nearest line above it that counts announces the
section.** Only the lines above the place matter, and neither the column nor any line from the place
on; and where names are known, no place is in a section of another name. -/
theorem inSection_iff_announced_above (d : Document) (p : Position) (sectionName : Text)
    (known : List Text) :
    (inSection d p sectionName known = true ↔
        ∃ i line, i < min p.line d.lines.length ∧ d.lines[i]? = some line ∧
          Announces line sectionName ∧
          (known = [] ∨ sectionName ∈ known) ∧
          ∀ j other name, i < j → j < p.line → d.lines[j]? = some other → Announces other name →
            known ≠ [] ∧ name ∉ known) ∧
      (∀ (d' : Document) (p' : Position), p'.line = p.line →
        (∀ i < p.line, d'.lines[i]? = d.lines[i]?) →
          inSection d' p' sectionName known = inSection d p sectionName known) ∧
      (known ≠ [] → sectionName ∉ known → inSection d p sectionName known = false) := by
  refine ⟨?_, fun d' p' hline habove => ?_, fun hknown hname => ?_⟩
  · rw [inSection_eq_true_iff]
    constructor
    · rintro ⟨i, line, hi, hline, hannounces, hcounts, hbetween⟩
      have hlength : i < d.lines.length := (List.getElem?_eq_some_iff.mp hline).1
      refine ⟨i, line, by omega, hline, hannounces, hcounts,
        fun j other name hij hj hother hname => ?_⟩
      exact not_or.mp (hbetween j other name hij hj hother hname)
    · rintro ⟨i, line, hi, hline, hannounces, hcounts, hbetween⟩
      refine ⟨i, line, by omega, hline, hannounces, hcounts,
        fun j other name hij hj hother hname => ?_⟩
      exact not_or.mpr (hbetween j other name hij hj hother hname)
  · have htake : d'.lines.take p.line = d.lines.take p.line := by
      apply List.ext_getElem?
      intro i
      by_cases hi : i < p.line
      · rw [List.getElem?_take_of_lt hi, List.getElem?_take_of_lt hi, habove i hi]
      · rw [List.getElem?_take_eq_none (Nat.not_lt.mp hi),
          List.getElem?_take_eq_none (Nat.not_lt.mp hi)]
    rw [inSection, inSection, hline, htake]
  · rw [← Bool.not_eq_true, inSection_eq_true_iff]
    rintro ⟨_, _, -, -, -, hcounts, -⟩
    exact hcounts.elim hknown hname

end Actionary
