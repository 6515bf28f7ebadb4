import Actionary.Proofs.Exclusion

/-!
# All flags or none

Each of the conditions on a flag is told here by the text of the line alone:

    inScope       the literal is written on the line, and not right after a quote
    listOpen      a flag is started before the cursor (`StartsFlag`)
    introduced    a blank and two dashes stand right before the cursor

None of them asks which flag it is, so the flags of an action are offered all or not at all.
`offeredFlagsAt_all_or_none` says when, for every configuration, document and position.
-/

namespace Actionary

open Actionary.Text Actionary.Pattern

/-! ## The conditions -/

@[simp] theorem Text.before_natCast (n : Nat) (line : List Code) :
    Text.before n line = line.take n := by
  rw [Text.before, if_pos (Int.natCast_nonneg n), Int.toNat_natCast]

/-- A literal is on a line in letters of any case, and not right after a quote. -/
def WrittenUnquoted (literal line : List Code) : Prop :=
  ∃ before text after, line = before ++ (text ++ after) ∧ Forms literal text ∧
    ∀ q, before.getLast? = some q → q ∉ quotes

/-- The pattern of a literal fits exactly the lines on which it is written without a quote before
it. -/
theorem search_unquoted_iff (literal line : List Code) :
    ((unquoted literal).search line).isSome = true ↔ WrittenUnquoted literal line := by
  have hways : ∀ before after : List Code, (unquoted literal).waysAt before after =
      if before.getLast?.any (Test.set false .exact (quotes.map fun q => .point q.toNat)).holds then
        []
      else (Expr.text .full literal).waysAt before after := by
    intro before after
    show ((Expr.behind true 1 _).ways _).flatMap _ = _
    rw [Expr.ways_not_behind_one, Cursor.between, List.head?_reverse]
    split
    · rfl
    · exact List.flatMap_singleton ..
  rw [Expr.search_isSome_iff]
  constructor
  · rintro ⟨before, _, t, rfl, ht⟩
    rw [hways] at ht
    split at ht
    · exact absurd ht List.not_mem_nil
    · next hquote =>
        obtain ⟨text, after, rfl, hforms, -⟩ := mem_ways_word.mp ht
        refine ⟨before, text, after, rfl, hforms, fun q hq hmem => hquote ?_⟩
        rw [hq]
        exact (Test.holds_set_points quotes q).mpr hmem
  · rintro ⟨before, text, after, rfl, hforms, hquote⟩
    refine ⟨before, text ++ after, (Cursor.between before.reverse (text ++ after)).past text after,
      rfl, ?_⟩
    rw [hways, if_neg]
    · exact mem_ways_word.mpr ⟨text, after, rfl, hforms, rfl⟩
    · rw [Option.any_eq_true]
      rintro ⟨q, hq, hmem⟩
      exact hquote q hq ((Test.holds_set_points quotes q).mp hmem)

/-- A flag is introduced at a column of the line, and not beyond its end. -/
theorem FlagContext.introduced_iff (a : Action) (flag line : Text) (n : Nat) :
    introduced ⟨a, flag, line, n⟩ = true ↔
      n ≤ line.length ∧ introducer <:+ line.toList.take n := by
  have hlength : introducer.length = 3 := rfl
  rw [← Text.length_toList, introduced]
  dsimp only
  by_cases hn : introducer.length ≤ n
  · have hcolumn : (n : Int) - introducer.length = .ofNat (n - introducer.length) := by
      rw [Int.ofNat_eq_natCast]
      omega
    have hslice : (line.toList.drop (n - introducer.length)).take introducer.length =
        (line.toList.take n).drop (n - introducer.length) := by
      rw [List.drop_take, Nat.sub_sub_self hn]
    rw [hcolumn]
    dsimp only
    rw [hslice, beq_iff_eq]
    constructor
    · intro h
      have hcount := congrArg List.length h
      rw [List.length_drop, List.length_take] at hcount
      exact ⟨by omega, h ▸ List.drop_suffix _ _⟩
    · rintro ⟨hle, hsuffix⟩
      have hdrop := List.suffix_iff_eq_drop.mp hsuffix
      rw [List.length_take, Nat.min_eq_left hle] at hdrop
      exact hdrop.symm
  · have hcolumn : (n : Int) - introducer.length = .negSucc (introducer.length - n - 1) := by
      omega
    rw [hcolumn]
    constructor
    · intro h
      exact absurd h (by simp)
    · rintro ⟨-, hsuffix⟩
      have hle := hsuffix.length_le
      rw [List.length_take] at hle
      omega

/-! ## The flags of an action -/

/-- The flags of an action as they are offered, all of them in declared order. -/
def Action.offered (a : Action) : List OfferedFlag :=
  a.flags.entries.map fun e => ⟨e.1, e.2⟩

theorem Action.offered_eq_nil_iff {a : Action} : a.offered = [] ↔ a.flags.entries = [] :=
  List.map_eq_nil_iff

theorem Action.nodup_offered (a : Action) : (a.offered.map (·.name)).Nodup := by
  rw [Action.offered, List.map_map]
  exact a.flags.distinct

/-- The conditions on flags hold for all flags of an action or for none. -/
theorem offeredFlags_eq (conditions : List FlagCondition) (a : Action) (flag line : Text)
    (column : Int) :
    offeredFlags conditions a line column =
      if conditions.all (·.holds ⟨a, flag, line, column⟩) then a.offered else [] := by
  have hsame : ∀ other, conditions.all (·.holds ⟨a, other, line, column⟩) =
      conditions.all (·.holds ⟨a, flag, line, column⟩) := by
    intro other
    refine congrArg conditions.all (funext fun condition => ?_)
    cases condition with
    | inScope => rfl
    | listOpen => rfl
    | introduced => rfl
  rw [offeredFlags_eq_filter]
  simp only [hsame]
  cases conditions.all (·.holds ⟨a, flag, line, column⟩) with
  | true => rw [List.filter_true, if_pos rfl, Action.offered]
  | false => rw [List.filter_false, if_neg (by decide), List.map_nil]

/-! ## The place of the flags -/

/-- A position at which the flags of an action are offered. -/
structure OffersAt (c : Config) (d : Document) (p : Position) (line : Text)
    (a : Action) : Prop where
  line_eq : d.lineAt? p = some line
  resolved : c.recognizer.resolve? c.catalog line = some a
  /-- The cursor is not beyond the end of the line. -/
  within : p.character ≤ line.length
  /-- A blank and two dashes stand right before the cursor. -/
  introduced : introducer <:+ line.toList.take p.character
  /-- A flag is started before the cursor. -/
  started : StartsFlag (line.toList.take p.character)
  /-- The literal of the action is on the line, and not right after a quote. -/
  written : WrittenUnquoted a.literal.toList line.toList

variable {c : Config} {d : Document} {p : Position} {line : Text} {a : Action}

theorem offersAt_iff (hline : d.lineAt? p = some line)
    (ha : c.recognizer.resolve? c.catalog line = some a) (flag : Text) :
    OffersAt c d p line a ↔
      FlagCondition.all.all (·.holds ⟨a, flag, line, p.character⟩) = true := by
  simp only [FlagCondition.all, List.all_cons, List.all_nil, Bool.and_true, Bool.and_eq_true,
    FlagCondition.holds, FlagContext.introduced_iff, FlagContext.inScope, FlagContext.listOpen,
    Text.before_natCast, search_unquoted_iff, search_startedFlagPattern_iff]
  constructor
  · intro h
    exact ⟨h.written, h.started, h.within, h.introduced⟩
  · rintro ⟨hwritten, hstarted, hwithin, hintroduced⟩
    exact ⟨hline, ha, hwithin, hintroduced, hstarted, hwritten⟩

theorem OffersAt.offeredFlagsAt_eq (h : OffersAt c d p line a) :
    offeredFlagsAt FlagCondition.all c d p = a.offered := by
  rw [offeredFlagsAt_of_resolve? h.line_eq h.resolved, offeredFlags_eq _ a "",
    if_pos ((offersAt_iff h.line_eq h.resolved "").mp h)]

theorem exists_offersAt (h : offeredFlagsAt FlagCondition.all c d p ≠ []) :
    ∃ line a, OffersAt c d p line a := by
  obtain ⟨line, a, hline, ha, hne⟩ := exists_resolve?_of_offeredFlagsAt_ne_nil h
  refine ⟨line, a, (offersAt_iff hline ha "").mpr ?_⟩
  rw [offeredFlags_eq _ a ""] at hne
  by_contra hconditions
  exact hne (if_neg hconditions)

/-- **The flags of one action are offered, all in declared order, or none.** They are offered
exactly where the line is about an action with flags, its literal is on the line behind no quote, a
flag was started before the cursor and the cursor stands right behind the introduction of a flag. -/
theorem offeredFlagsAt_all_or_none (c : Config) (d : Document) (p : Position) :
    (offeredFlagsAt FlagCondition.all c d p = [] ∨
        ∃ line, ∃ a ∈ c.catalog.actions, OffersAt c d p line a ∧
          offeredFlagsAt FlagCondition.all c d p = a.offered) ∧
      (offeredFlagsAt FlagCondition.all c d p ≠ [] ↔
        ∃ line a, OffersAt c d p line a ∧ a.flags.entries ≠ []) ∧
      ((offeredFlagsAt FlagCondition.all c d p).map (·.name)).Nodup := by
  by_cases hnil : offeredFlagsAt FlagCondition.all c d p = []
  · refine ⟨Or.inl hnil, ⟨fun hne => absurd hnil hne, ?_⟩, by rw [hnil]; exact List.nodup_nil⟩
    rintro ⟨line, a, h, hflags⟩ -
    rw [h.offeredFlagsAt_eq, Action.offered_eq_nil_iff] at hnil
    exact hflags hnil
  · obtain ⟨line, a, h⟩ := exists_offersAt hnil
    have hall := h.offeredFlagsAt_eq
    refine ⟨Or.inr ⟨line, a, Recognizer.mem_actions_of_resolve? h.resolved, h, hall⟩, ?_, ?_⟩
    · refine ⟨fun _ => ⟨line, a, h, fun hflags => ?_⟩, fun _ => hnil⟩
      exact hnil (hall.trans (Action.offered_eq_nil_iff.mpr hflags))
    · rw [hall]
      exact a.nodup_offered

end Actionary
