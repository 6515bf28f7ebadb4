import Actionary.Pattern.Match

/-!
# The ways a pattern fits

The matcher hands one place after another to what comes next and stops at the first success. Here
the places are listed instead: `Expr.ways e s` holds every place that the pattern `e` reaches from
`s`, the preferred one first. Nothing of what comes next enters the list, so it can be reasoned
about part by part: a sequence is a `flatMap`, an ordered choice is an `++`.

`place?_run` is the bridge: to run a pattern is to look for the first of its ways from which the
rest succeeds. It covers every constructor; only a possessive repetition of a whole pattern keeps
the matcher inside its list, since such a repetition goes on from a place at which its last round
got stuck.

A search is then a question about the places of a text: `search_eq_none_iff` and `search_eq_some`.
-/

namespace Actionary.Pattern

/-- The place that an outcome reaches. -/
def Outcome.place? {τ : Type} : Outcome τ → Option Cursor
  | .fits s => some s
  | .stuck _ => none

/-- What comes of the first of several places from which the rest succeeds. -/
def firstFit (next : Next Unit) (places : List Cursor) : Option Cursor :=
  places.findSome? fun s => (next s ()).place?

@[simp] theorem firstFit_nil (next : Next Unit) : firstFit next [] = none := rfl

theorem firstFit_singleton (next : Next Unit) (s : Cursor) :
    firstFit next [s] = (next s ()).place? := by
  simp only [firstFit, List.findSome?_cons, List.findSome?_nil]
  cases (next s ()).place? with
  | none => rfl
  | some t => rfl

theorem firstFit_append (next : Next Unit) (xs ys : List Cursor) :
    firstFit next (xs ++ ys) = (firstFit next xs).or (firstFit next ys) :=
  List.findSome?_append

theorem firstFit_cons (next : Next Unit) (s : Cursor) (ys : List Cursor) :
    firstFit next (s :: ys) = ((next s ()).place?).or (firstFit next ys) := by
  rw [← firstFit_singleton]
  exact firstFit_append next [s] ys

theorem firstFit_flatMap (next : Next Unit) (xs : List Cursor) (f : Cursor → List Cursor) :
    firstFit next (xs.flatMap f) = xs.findSome? fun s => firstFit next (f s) := by
  induction xs with
  | nil => rfl
  | cons x xs ih =>
      rw [List.flatMap_cons, firstFit_append, ih, List.findSome?_cons]
      cases firstFit next (f x) with
      | none => rfl
      | some t => rfl

theorem firstFit_done (places : List Cursor) : firstFit done places = places.head? := by
  cases places with
  | nil => rfl
  | cons s rest => rfl

/-- An attempt with nothing after it ends at the first way, or is stuck if there is none. -/
theorem first_cases {o : Outcome Unit} {places : List Cursor}
    (h : o.place? = firstFit done places) :
    (∃ u rest, o = .fits u ∧ places = u :: rest) ∨ (o = .stuck () ∧ places = []) := by
  cases places with
  | nil =>
      cases o with
      | fits u => exact absurd h (by simp [Outcome.place?])
      | stuck left => exact Or.inr ⟨rfl, rfl⟩
  | cons u rest =>
      cases o with
      | fits v =>
          obtain rfl : v = u := Option.some.inj h
          exact Or.inl ⟨v, rest, rfl, rfl⟩
      | stuck left => exact absurd h (by simp [Outcome.place?, firstFit_done])

/-! ## Runs of characters -/

/-- The places after characters that meet a condition, at least and at most so many; the farthest
first. -/
def longestWays (t : Test) (s : Cursor) : Nat → Option Nat → List Code → List Code → List Cursor
  | least, _, before, [] => if least == 0 then [s.moved before []] else []
  | least, most, before, c :: cs =>
      if most != some 0 && t.holds c then
        longestWays t s (least - 1) (most.map (· - 1)) (c :: before) cs ++
          if least == 0 then [s.moved before (c :: cs)] else []
      else if least == 0 then [s.moved before (c :: cs)]
      else []

theorem place?_longestFirst (t : Test) (next : Next Unit) (reach : Cursor → Unit → Unit)
    (s : Cursor) :
    ∀ (least : Nat) (most : Option Nat) (before after : List Code) (left : Unit),
      (longestFirst t next reach s least most before after left).place? =
        firstFit next (longestWays t s least most before after) := by
  intro least most before after
  induction after generalizing least most before with
  | nil =>
      intro left
      simp only [longestFirst, longestWays]
      split
      · exact (firstFit_singleton next _).symm
      · rfl
  | cons c cs ih =>
      intro left
      simp only [longestFirst, longestWays]
      split
      · rw [firstFit_append, ← ih (least - 1) (most.map (· - 1)) (c :: before) left]
        cases longestFirst t next reach s (least - 1) (most.map (· - 1)) (c :: before) cs left with
        | fits r => rfl
        | stuck left =>
            show (if (least == 0) = true then next (s.moved before (c :: cs)) left
              else .stuck left).place? = firstFit next _
            split
            · exact (firstFit_singleton next _).symm
            · rfl
      · split
        · exact (firstFit_singleton next _).symm
        · rfl

/-- The places after characters that meet a condition, at least and at most so many; the nearest
first. -/
def shortestWays (t : Test) (s : Cursor) : Nat → Option Nat → List Code → List Code → List Cursor
  | least, most, before, after =>
      if least == 0 then
        s.moved before after ::
          match after with
          | [] => []
          | c :: cs =>
              if t.holds c && most != some 0 then
                shortestWays t s 0 (most.map (· - 1)) (c :: before) cs
              else []
      else
        match after with
        | [] => []
        | c :: cs =>
            if t.holds c then shortestWays t s (least - 1) (most.map (· - 1)) (c :: before) cs
            else []
termination_by structural _ _ _ after => after

theorem place?_shortestFirst (t : Test) (next : Next Unit) (note reach : Cursor → Unit → Unit)
    (s : Cursor) :
    ∀ (least : Nat) (most : Option Nat) (before after : List Code) (left : Unit),
      (shortestFirst t next note reach s least most before after left).place? =
        firstFit next (shortestWays t s least most before after) := by
  intro least most before after
  induction after generalizing least most before with
  | nil =>
      intro left
      rw [shortestFirst, shortestWays]
      split
      · rw [firstFit_singleton]
        cases next (s.moved before []) () with
        | fits r => rfl
        | stuck left => rfl
      · rfl
  | cons c cs ih =>
      intro left
      rw [shortestFirst, shortestWays]
      split
      · rw [firstFit_cons]
        cases next (s.moved before (c :: cs)) () with
        | fits r => rfl
        | stuck left =>
            cases t.holds c with
            | false => rfl
            | true =>
                cases hm : most == some 0 with
                | true => simp [bne, hm, Outcome.place?]
                | false =>
                    simpa [bne, hm, Outcome.place?] using ih 0 (most.map (· - 1)) (c :: before) ()
      · split
        · exact ih _ _ _ _
        · rfl

/-! ## Repetitions

The body of a repetition enters only through its own list of ways, so each loop is stated for any
body that is run as its list says. -/

section Repetition

variable {run : Next Unit → Next Unit} {body : Cursor → List Cursor}

/-- One round, and then what follows it. -/
theorem place?_round (hbody : ∀ next s left, (run next s left).place? = firstFit next (body s))
    {next later : Next Unit} {ways : Cursor → List Cursor}
    (hlater : ∀ s, (later s ()).place? = firstFit next (ways s)) (s : Cursor) :
    (run later s ()).place? = firstFit next ((body s).flatMap ways) := by
  rw [hbody, firstFit_flatMap, firstFit]
  simp only [hlater]

/-- The places after so many rounds. -/
def timesWays (body : Cursor → List Cursor) : Nat → Cursor → List Cursor
  | 0, s => [s]
  | n + 1, s => (body s).flatMap (timesWays body n)

theorem place?_times (hbody : ∀ next s left, (run next s left).place? = firstFit next (body s))
    (next : Next Unit) :
    ∀ n s left, (times Trail.nothing run next n s left).place? =
      firstFit next (timesWays body n s) := by
  intro n
  induction n with
  | zero => exact fun s left => (firstFit_singleton next s).symm
  | succ n ih =>
      intro s left
      rw [times, timesWays, ← place?_round hbody (fun t => ih t ())]
      cases run (times Trail.nothing run next n) s () with
      | fits r => rfl
      | stuck left => rfl

/-- The places after rounds that go on as long as they can, more rounds first. -/
def greedyWays (body : Cursor → List Cursor) : Nat → Option Nat → Option Nat → Cursor → List Cursor
  | 0, _, _, s => [s]
  | fuel + 1, most, last, s =>
      (if most == some 0 || last == some s.after.length then []
        else (body s).flatMap (greedyWays body fuel (most.map (· - 1)) (some s.after.length))) ++
          [s]

theorem place?_greedyLoop (hbody : ∀ next s left, (run next s left).place? = firstFit next (body s))
    (next : Next Unit) :
    ∀ fuel most last s left, (greedyLoop Trail.nothing run next fuel most last s left).place? =
      firstFit next (greedyWays body fuel most last s) := by
  intro fuel
  induction fuel with
  | zero => exact fun _ _ s _ => (firstFit_singleton next s).symm
  | succ fuel ih =>
      intro most last s left
      rw [greedyLoop, greedyWays, firstFit_append, firstFit_singleton]
      cases most == some 0 || last == some s.after.length with
      | true =>
          simp only [↓reduceIte, firstFit_nil, Option.none_or]
          cases next s () with
          | fits r => rfl
          | stuck left => rfl
      | false =>
          simp only [Bool.false_eq_true, ↓reduceIte]
          rw [← place?_round hbody (fun t => ih _ _ t ())]
          cases run (greedyLoop Trail.nothing run next fuel (most.map (· - 1))
              (some s.after.length)) s () with
          | fits r => rfl
          | stuck left =>
              dsimp only
              cases next s () with
              | fits r => rfl
              | stuck left => rfl

/-- The places after rounds that stop as soon as they may, fewer rounds first. -/
def reluctantWays (body : Cursor → List Cursor) :
    Nat → Option Nat → Option Nat → Cursor → List Cursor
  | 0, _, _, s => [s]
  | fuel + 1, most, last, s =>
      s :: if most == some 0 || last == some s.after.length then []
        else (body s).flatMap (reluctantWays body fuel (most.map (· - 1)) (some s.after.length))

theorem place?_reluctantLoop
    (hbody : ∀ next s left, (run next s left).place? = firstFit next (body s)) (next : Next Unit) :
    ∀ fuel most last s left, (reluctantLoop Trail.nothing run next fuel most last s left).place? =
      firstFit next (reluctantWays body fuel most last s) := by
  intro fuel
  induction fuel with
  | zero => exact fun _ _ s _ => (firstFit_singleton next s).symm
  | succ fuel ih =>
      intro most last s left
      rw [reluctantLoop, reluctantWays, firstFit_cons]
      cases next s () with
      | fits r => rfl
      | stuck left =>
          cases most == some 0 || last == some s.after.length with
          | true => rfl
          | false =>
              simp only [Bool.false_eq_true, ↓reduceIte]
              rw [← place?_round hbody (fun t => ih _ _ t ())]
              cases run (reluctantLoop Trail.nothing run next fuel (most.map (· - 1))
                  (some s.after.length)) s () with
              | fits r => rfl
              | stuck left => rfl

end Repetition

/-! ## The ways of a pattern -/

/-- The places that a pattern reaches from a place, the preferred one first. -/
def Expr.ways : Expr → Cursor → List Cursor
  | .empty, s => [s]
  | .fail, _ => []
  | .one t, s =>
      match s.after with
      | [] => []
      | c :: cs => if t.holds c then [s.moved (c :: s.before) cs] else []
  | .anchor a, s => if a.holds s then [s] else []
  | .seq first second, s => (first.ways s).flatMap second.ways
  | .alt first others, s => first.ways s ++ others.ways s
  | .many greed least most t, s =>
      if s.after.length < least then []
      else
        match greed with
        | .greedy => longestWays t s least most s.before s.after
        | .reluctant => shortestWays t s least most s.before s.after
        | .possessive => (longestWays t s least most s.before s.after).take 1
  | .rep greed least most body, s =>
      let more := most.map (· - least)
      match greed with
      | .greedy =>
          (timesWays body.ways least s).flatMap fun u =>
            greedyWays body.ways (u.after.length + 2) more none u
      | .reluctant =>
          (timesWays body.ways least s).flatMap fun u =>
            reluctantWays body.ways (u.after.length + 2) more none u
      | .possessive =>
          match timesFirst (body.run Trail.last none) least s with
          | none => []
          | some u => [possessiveLoop (body.run Trail.last none) (u.after.length + 2) more none u]
  | .capture group body, s =>
      (body.ways { s with opened := (group, s.after) :: s.opened }).map fun u =>
        { u with closed := (group, u.after) :: u.closed }
  | .atomic body, s => (body.ways s).take 1
  | .ahead negated body, s =>
      match body.ways s with
      | [] => if negated then [s] else []
      | u :: _ => if negated then [] else [{ s with opened := u.opened, closed := u.closed }]
  | .behind negated width body, s =>
      match s.back width with
      | none => if negated then [s] else []
      | some back =>
          match body.ways back with
          | [] => if negated then [s] else []
          | u :: _ => if negated then [] else [{ s with opened := u.opened, closed := u.closed }]
  | .again group rule, s =>
      match s.group? group with
      | none => []
      | some text => (s.over rule text).toList
  | .ifCaptured group yes no, s => if (s.group? group).isSome then yes.ways s else no.ways s

/-- **Running a pattern is looking through its ways.**  The outcome is that of the first way from
which what comes next succeeds. -/
theorem place?_run (e : Expr) :
    ∀ (follow : Option Test) (next : Next Unit) (s : Cursor) (left : Unit),
      (e.run Trail.nothing follow next s left).place? = firstFit next (e.ways s) := by
  induction e with
  | empty => exact fun _ next s _ => (firstFit_singleton next s).symm
  | fail => exact fun _ _ _ _ => rfl
  | one t =>
      intro follow next s left
      simp only [Expr.run, Expr.ways]
      cases s.after with
      | nil => rfl
      | cons c cs =>
          dsimp only
          cases t.holds c with
          | true => exact (firstFit_singleton next _).symm
          | false => rfl
  | anchor a =>
      intro follow next s left
      simp only [Expr.run, Expr.ways]
      cases a.holds s with
      | true => exact (firstFit_singleton next _).symm
      | false => rfl
  | seq first second ih₁ ih₂ =>
      intro follow next s left
      simp only [Expr.run, Expr.ways]
      rw [ih₁, firstFit_flatMap, firstFit]
      simp only [ih₂]
  | alt first others ih₁ ih₂ =>
      intro follow next s left
      simp only [Expr.run, Expr.ways]
      rw [firstFit_append, ← ih₁ none next s (), ← ih₂ none next s ()]
      cases first.run Trail.nothing none next s () with
      | fits r => rfl
      | stuck left => rfl
  | many greed least most t =>
      intro follow next s left
      simp only [Expr.run, Expr.ways]
      split
      · rfl
      · cases greed with
        | greedy => exact place?_longestFirst t next _ s least most s.before s.after _
        | reluctant => exact place?_shortestFirst t next _ _ s least most s.before s.after _
        | possessive =>
            dsimp only
            rcases first_cases (place?_longestFirst t done (Trail.nothing.noteIf t.isFolded) s least
              most s.before s.after (Trail.nothing.note s left)) with ⟨u, rest, ho, hw⟩ | ⟨ho, hw⟩
            · rw [ho, hw]
              exact (firstFit_singleton next u).symm
            · rw [ho, hw]
              rfl
  | rep greed least most body ih =>
      intro follow next s left
      simp only [Expr.run, Expr.ways]
      cases greed with
      | greedy =>
          dsimp only
          rw [place?_times (ih none), firstFit_flatMap, firstFit]
          simp only [place?_greedyLoop (ih none)]
      | reluctant =>
          dsimp only
          rw [place?_times (ih none), firstFit_flatMap, firstFit]
          simp only [place?_reluctantLoop (ih none)]
      | possessive =>
          dsimp only
          cases timesFirst (body.run Trail.last none) least s with
          | none => rfl
          | some u => exact (firstFit_singleton next _).symm
  | capture group body ih =>
      intro follow next s left
      simp only [Expr.run, Expr.ways]
      rw [ih, firstFit, firstFit, List.findSome?_map]
      rfl
  | atomic body ih =>
      intro follow next s left
      simp only [Expr.run, Expr.ways]
      rcases first_cases (ih none done s (Trail.nothing.note s left))
        with ⟨u, rest, ho, hw⟩ | ⟨ho, hw⟩
      · rw [ho, hw]
        exact (firstFit_singleton next u).symm
      · rw [ho, hw]
        rfl
  | ahead negated body ih =>
      intro follow next s left
      simp only [Expr.run, Expr.ways]
      rcases first_cases (ih none done s (Trail.nothing.note s left))
        with ⟨u, rest, ho, hw⟩ | ⟨ho, hw⟩
      · rw [ho, hw]
        cases negated with
        | true => rfl
        | false => exact (firstFit_singleton next _).symm
      · rw [ho, hw]
        cases negated with
        | true => exact (firstFit_singleton next s).symm
        | false => rfl
  | behind negated width body ih =>
      intro follow next s left
      simp only [Expr.run, Expr.ways]
      cases s.back width with
      | none =>
          cases negated with
          | true => exact (firstFit_singleton next s).symm
          | false => rfl
      | some back =>
          dsimp only
          rcases first_cases (ih none done back (Trail.nothing.note back left)) with
            ⟨u, rest, ho, hw⟩ | ⟨ho, hw⟩
          · rw [ho, hw]
            cases negated with
            | true => rfl
            | false => exact (firstFit_singleton next _).symm
          · rw [ho, hw]
            cases negated with
            | true => exact (firstFit_singleton next s).symm
            | false => rfl
  | again group rule =>
      intro follow next s left
      simp only [Expr.run, Expr.ways]
      cases s.group? group with
      | none => rfl
      | some text =>
          dsimp only
          cases s.over rule text with
          | none => rfl
          | some u => exact (firstFit_singleton next u).symm
  | ifCaptured group yes no ih₁ ih₂ =>
      intro follow next s left
      simp only [Expr.run, Expr.ways]
      split
      · exact ih₁ _ _ _ _
      · exact ih₂ _ _ _ _

/-! ## Searching

A place of a text is a way to cut the text in two. -/

namespace Expr

/-- The ways of a pattern from the cut between two parts of a text. -/
def waysAt (e : Expr) (before after : List Code) : List Cursor :=
  e.ways (.between before.reverse after)

/-- The find at the cut between two parts of a text, by the place that is reached. -/
def foundAt (before after : List Code) (t : Cursor) : Found :=
  ⟨before.length, (Cursor.between before.reverse after).textTo t, t⟩

theorem fitAt_eq (e : Expr) (before after : List Code) :
    e.fitAt before.reverse after = (e.waysAt before after).head?.map (foundAt before after) := by
  unfold fitAt waysAt
  rcases first_cases (place?_run e none done (.between before.reverse after) ()) with
    ⟨u, rest, ho, hw⟩ | ⟨ho, hw⟩
  · simp [ho, hw, foundAt]
  · simp [ho, hw]

/-- What is found depends only on the ways. -/
theorem search_congr {e f : Expr} (h : e.ways = f.ways) (text : List Code) :
    e.search text = f.search text := by
  have hfit : ∀ before after, e.fitAt before after = f.fitAt before after := by
    intro before after
    rw [← List.reverse_reverse before, fitAt_eq, fitAt_eq, waysAt, waysAt, h]
  have hfrom : ∀ before, e.searchFrom before text = f.searchFrom before text := by
    induction text with
    | nil => exact fun before => hfit before []
    | cons c cs ih =>
        intro before
        rw [searchFrom, searchFrom, hfit, ih]
  exact hfrom []

theorem searchFrom_eq_none_iff (e : Expr) (after : List Code) :
    ∀ before, e.searchFrom before.reverse after = none ↔
      ∀ u v, after = u ++ v → e.waysAt (before ++ u) v = [] := by
  induction after with
  | nil =>
      intro before
      rw [searchFrom, fitAt_eq, Option.map_eq_none_iff, List.head?_eq_none_iff]
      constructor
      · intro h u v huv
        obtain ⟨rfl, rfl⟩ := List.append_eq_nil_iff.mp huv.symm
        simpa using h
      · intro h
        simpa using h [] [] rfl
  | cons c cs ih =>
      intro before
      have hlater := ih (before ++ [c])
      rw [List.reverse_append] at hlater
      rw [searchFrom, fitAt_eq]
      constructor
      · intro h u v huv
        cases hw : e.waysAt before (c :: cs) with
        | cons t rest => exact absurd h (by simp [hw])
        | nil =>
            simp only [hw, List.head?_nil, Option.map_none] at h
            rcases List.append_eq_cons_iff.mp huv.symm with ⟨rfl, rfl⟩ | ⟨w, rfl, rfl⟩
            · simpa using hw
            · simpa using hlater.mp h w v rfl
      · intro h
        have hhere : e.waysAt before (c :: cs) = [] := by
          simpa using h [] (c :: cs) rfl
        simp only [hhere, List.head?_nil, Option.map_none]
        refine hlater.mpr fun u v huv => ?_
        simpa using h (c :: u) v (by rw [huv]; rfl)

/-- A search fails exactly if a pattern has no way from any place of the text. -/
theorem search_eq_none_iff (e : Expr) (text : List Code) :
    e.search text = none ↔ ∀ u v, text = u ++ v → e.waysAt u v = [] :=
  searchFrom_eq_none_iff e text []

theorem searchFrom_eq_some {e : Expr} {f : Found} (after : List Code) :
    ∀ before, e.searchFrom before.reverse after = some f →
      ∃ u v t, after = u ++ v ∧ (e.waysAt (before ++ u) v).head? = some t ∧
        f = foundAt (before ++ u) v t ∧
        ∀ u' v', after = u' ++ v' → u'.length < u.length → e.waysAt (before ++ u') v' = [] := by
  induction after with
  | nil =>
      intro before h
      rw [searchFrom, fitAt_eq, Option.map_eq_some_iff] at h
      obtain ⟨t, ht, rfl⟩ := h
      refine ⟨[], [], t, rfl, by simpa using ht, by simp, ?_⟩
      intro u' v' _ hlt
      exact absurd hlt (Nat.not_lt_zero _)
  | cons c cs ih =>
      intro before h
      rw [searchFrom, fitAt_eq] at h
      cases hw : e.waysAt before (c :: cs) with
      | cons t rest =>
          refine ⟨[], c :: cs, t, rfl, by simp [hw], ?_, ?_⟩
          · simpa [hw, eq_comm] using h
          · intro u' v' _ hlt
            exact absurd hlt (Nat.not_lt_zero _)
      | nil =>
          simp only [hw, List.head?_nil, Option.map_none] at h
          obtain ⟨u, v, t, rfl, ht, hf, hearlier⟩ := ih (before ++ [c]) (by simpa using h)
          refine ⟨c :: u, v, t, rfl, by simpa using ht, by simpa using hf, ?_⟩
          intro u' v' huv hlt
          rcases List.append_eq_cons_iff.mp huv.symm with ⟨rfl, rfl⟩ | ⟨w, rfl, hwv⟩
          · simpa using hw
          · simpa using hearlier w v' hwv (by simpa using hlt)

/-- A search finds the first way of a pattern from the first place that has one. -/
theorem search_eq_some {e : Expr} {text : List Code} {f : Found} (h : e.search text = some f) :
    ∃ u v t, text = u ++ v ∧ (e.waysAt u v).head? = some t ∧ f = foundAt u v t ∧
      ∀ u' v', text = u' ++ v' → u'.length < u.length → e.waysAt u' v' = [] :=
  searchFrom_eq_some text [] h

/-- A search succeeds exactly if a pattern has a way from some place of the text. -/
theorem search_isSome_iff (e : Expr) (text : List Code) :
    (e.search text).isSome = true ↔ ∃ u v t, text = u ++ v ∧ t ∈ e.waysAt u v := by
  constructor
  · intro h
    obtain ⟨f, hf⟩ := Option.isSome_iff_exists.mp h
    obtain ⟨u, v, t, huv, ht, -, -⟩ := search_eq_some hf
    exact ⟨u, v, t, huv, List.mem_of_mem_head? ht⟩
  · rintro ⟨u, v, t, huv, ht⟩
    refine Option.isSome_iff_ne_none.mpr fun hnone => ?_
    rw [(search_eq_none_iff e text).mp hnone u v huv] at ht
    exact absurd ht List.not_mem_nil

end Expr

end Actionary.Pattern
