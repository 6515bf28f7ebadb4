import Actionary.Proofs.Distinct

/-!
# Deduplication in one pass and in parts

`deduplicate` puts each item in the place of the item with its key. Two further accounts of it are
given here.

  * In one pass: the place of each key that came up is noted, and nothing is searched (`Pass`). The
    invariant is that a key is noted with its first place among the keys of what is kept
    (`Pass.InStep`).
  * In parts: a list may be cut anywhere and its parts deduplicated first (`deduplicate_append`). An
    item placed in a later part can as well be placed after that part, because its key keeps the
    place that it has by then.
-/

namespace Actionary

variable {α κ : Type} [BEq κ] {key : α → κ}

/-! ## One pass -/

/-- What a pass over items keeps. -/
structure Pass (α κ : Type) where
  /-- The place of each key that came up. -/
  places : List (κ × Nat)
  kept : List α

namespace Pass

/-- The pass before the first item. -/
def start : Pass α κ :=
  ⟨[], []⟩

/-- The pass after one more item: it goes to the place of its key, or to the end if its key is new.
-/
def step (key : α → κ) (s : Pass α κ) (x : α) : Pass α κ :=
  match s.places.lookup (key x) with
  | some n => { s with kept := s.kept.set n x }
  | none => ⟨(key x, s.kept.length) :: s.places, s.kept ++ [x]⟩

/-- The noted places are those of what is kept. -/
def InStep (key : α → κ) (s : Pass α κ) : Prop :=
  ∀ k, s.places.lookup k = (s.kept.map key).idxOf? k

end Pass

theorem place_eq_set {x : α} {items : List α} {n : Nat}
    (h : (items.map key).idxOf? (key x) = some n) : place key x items = items.set n x := by
  induction items generalizing n with
  | nil => exact absurd h (by simp)
  | cons y ys ih =>
      rw [List.map_cons, List.idxOf?_cons] at h
      rw [place]
      split
      · next heq =>
          rw [if_pos heq] at h
          obtain rfl := Option.some.inj h
          rfl
      · next hne =>
          rw [if_neg hne] at h
          obtain ⟨m, hm, rfl⟩ := Option.map_eq_some_iff.mp h
          rw [ih hm]
          rfl

variable [LawfulBEq κ]

omit [LawfulBEq κ] in
theorem idxOf?_concat (keys : List κ) (k l : κ) :
    (keys ++ [k]).idxOf? l = (keys.idxOf? l).or (if k == l then some keys.length else none) := by
  rw [List.idxOf?.eq_def, List.findIdx?_append, List.findIdx?_singleton]
  split
  · rw [Option.map_some, Nat.zero_add]
  · rw [Option.map_none]

namespace Pass

variable {s : Pass α κ}

theorem InStep.kept_step (h : s.InStep key) (x : α) : (s.step key x).kept = place key x s.kept := by
  rw [step, h]
  cases hplace : (s.kept.map key).idxOf? (key x) with
  | some n => exact (place_eq_set hplace).symm
  | none => exact (place_eq_append (List.idxOf?_eq_none_iff.mp hplace)).symm

theorem InStep.step (h : s.InStep key) (x : α) : (s.step key x).InStep key := by
  intro k
  rw [h.kept_step x, Pass.step, h]
  cases hplace : (s.kept.map key).idxOf? (key x) with
  | some n =>
      -- An old key: the keys of what is kept stay the same.
      have hold : key x ∈ s.kept.map key := by
        obtain ⟨hn, hkey, -⟩ := List.idxOf?_eq_some_iff.mp hplace
        exact hkey ▸ List.getElem_mem hn
      rw [keys_place_of_mem hold]
      exact h k
  | none =>
      -- A new key: it is noted with the place that its item gets at the end.
      have hnew : key x ∉ s.kept.map key := List.idxOf?_eq_none_iff.mp hplace
      rw [place_eq_append hnew, List.map_append, List.map_singleton, idxOf?_concat, List.length_map,
        ← h, List.lookup_cons]
      cases hk : k == key x with
      | true =>
          obtain rfl := eq_of_beq hk
          rw [h, hplace, if_pos (beq_self_eq_true _), Option.none_or]
      | false =>
          rw [if_neg fun heq => ne_of_beq_false hk (eq_of_beq heq).symm, Option.or_none]

end Pass

/-- **One pass with a table of places deduplicates.** -/
theorem kept_foldl_step (items : List α) :
    (items.foldl (Pass.step key) .start).kept = deduplicate key items := by
  suffices h : (items.foldl (Pass.step key) .start).InStep key ∧
      (items.foldl (Pass.step key) .start).kept = deduplicate key items from h.2
  induction items using List.reverseRecOn with
  | nil => exact ⟨fun _ => rfl, rfl⟩
  | append_singleton items x ih =>
      obtain ⟨hstep, hkept⟩ := ih
      rw [List.foldl_append, List.foldl_cons, List.foldl_nil, deduplicate_concat, ← hkept]
      exact ⟨hstep.step x, hstep.kept_step x⟩

/-! ## Parts -/

/-- Of two items with one key the one placed last stays. -/
theorem place_place {x y : α} (h : key x = key y) (items : List α) :
    place key y (place key x items) = place key y items := by
  induction items with
  | nil => simp [place, h]
  | cons z zs ih =>
      by_cases hz : key z = key y
      · simp [place, h, hz]
      · simp [place, h, hz, ih]

/-- Where a key has its place already, it does not matter which of two items is placed first. -/
theorem place_comm {x y : α} (h : key x ≠ key y) {items : List α} (hy : key y ∈ items.map key) :
    place key y (place key x items) = place key x (place key y items) := by
  induction items with
  | nil => exact absurd hy List.not_mem_nil
  | cons z zs ih =>
      by_cases hzx : key z = key x
      · simp [place, hzx, h]
      · by_cases hzy : key z = key y
        · simp [place, hzy, h.symm]
        · have hzs : key y ∈ zs.map key :=
            (List.mem_cons.mp hy).resolve_left fun heq => hzy heq.symm
          simp [place, hzx, hzy, ih hzs]

/-- An item is placed before later ones or after them, if its key has its place already and is not
among theirs. -/
theorem place_foldl {y : α} {zs : List α} (hzs : key y ∉ zs.map key) {items : List α}
    (hy : key y ∈ items.map key) :
    place key y (zs.foldl (fun done x => place key x done) items) =
      zs.foldl (fun done x => place key x done) (place key y items) := by
  induction zs generalizing items with
  | nil => rfl
  | cons z zs ih =>
      rw [List.map_cons, List.mem_cons, not_or] at hzs
      rw [List.foldl_cons, List.foldl_cons, ih hzs.2 (mem_keys_place.mpr (Or.inr hy)),
        place_comm (Ne.symm hzs.1) hy]

/-- To place an item among later ones is to place it after them. -/
theorem foldl_place (y : α) {zs : List α} (hzs : (zs.map key).Nodup) (items : List α) :
    (place key y zs).foldl (fun done x => place key x done) items =
      place key y (zs.foldl (fun done x => place key x done) items) := by
  induction zs generalizing items with
  | nil => rfl
  | cons z zs ih =>
      obtain ⟨hz, hrest⟩ := List.nodup_cons.mp hzs
      rw [place]
      split
      · next heq =>
          have hkey : key z = key y := eq_of_beq heq
          have hplaced : key y ∈ (place key z items).map key :=
            mem_keys_place.mpr (Or.inl hkey.symm)
          rw [List.foldl_cons, List.foldl_cons, place_foldl (hkey ▸ hz) hplaced, place_place hkey]
      · rw [List.foldl_cons, List.foldl_cons, ih hrest]

theorem foldl_deduplicate (ys items : List α) :
    (deduplicate key ys).foldl (fun done x => place key x done) items =
      ys.foldl (fun done x => place key x done) items := by
  induction ys using List.reverseRecOn with
  | nil => rfl
  | append_singleton ys y ih =>
      rw [deduplicate_concat, foldl_place y (nodup_keys_deduplicate key ys), ih, List.foldl_append]
      rfl

/-- **A list may be deduplicated in parts.** -/
theorem deduplicate_append (xs ys : List α) :
    deduplicate key (xs ++ ys) = deduplicate key (deduplicate key xs ++ deduplicate key ys) := by
  have hparts : deduplicate key (deduplicate key xs ++ deduplicate key ys) =
      (deduplicate key ys).foldl (fun done x => place key x done)
        (deduplicate key (deduplicate key xs)) :=
    List.foldl_append
  rw [hparts, foldl_deduplicate, deduplicate_eq_self (nodup_keys_deduplicate key xs)]
  exact List.foldl_append

theorem deduplicate_deduplicate (items : List α) :
    deduplicate key (deduplicate key items) = deduplicate key items :=
  deduplicate_eq_self (nodup_keys_deduplicate key items)

/-- Any number of parts may be deduplicated first. -/
theorem deduplicate_flatten (parts : List (List α)) :
    deduplicate key parts.flatten = deduplicate key (parts.map (deduplicate key)).flatten := by
  induction parts with
  | nil => rfl
  | cons part parts ih =>
      calc deduplicate key (part :: parts).flatten
          = deduplicate key (deduplicate key part ++ deduplicate key parts.flatten) :=
            deduplicate_append part parts.flatten
        _ = deduplicate key (deduplicate key (deduplicate key part) ++
              deduplicate key (parts.map (deduplicate key)).flatten) := by
            rw [ih, deduplicate_deduplicate]
        _ = deduplicate key ((part :: parts).map (deduplicate key)).flatten :=
            (deduplicate_append (deduplicate key part) _).symm

/-! ## What is kept -/

/-- Among items with different keys, an item is found by its key. -/
theorem find?_eq_some_iff_mem {items : List α} (h : (items.map key).Nodup) {y : α} :
    items.find? (key · == key y) = some y ↔ y ∈ items := by
  induction items with
  | nil => simp
  | cons z zs ih =>
      obtain ⟨hz, hzs⟩ := List.nodup_cons.mp h
      rw [List.find?_cons, List.mem_cons]
      cases hkey : key z == key y with
      | true =>
          have hlater : y ∉ zs := fun hy => hz (eq_of_beq hkey ▸ List.mem_map_of_mem hy)
          rw [or_iff_left hlater, Option.some.injEq, eq_comm]
      | false =>
          have hother : y ≠ z := fun heq => ne_of_beq_false hkey (heq ▸ rfl)
          rw [ih hzs, or_iff_right hother]

/-- Exactly the items are kept whose key no later item has. -/
theorem mem_deduplicate_iff {y : α} {items : List α} :
    y ∈ deduplicate key items ↔
      ∃ before after, items = before ++ y :: after ∧ key y ∉ after.map key := by
  have htest : ∀ i j : κ, (i == key y) = true → (j == key y) = true → i = j :=
    fun i j hi hj => (eq_of_beq hi).trans (eq_of_beq hj).symm
  rw [← find?_eq_some_iff_mem (nodup_keys_deduplicate key items), find?_deduplicate htest,
    List.find?_eq_some_iff_append, and_iff_right (beq_self_eq_true _)]
  constructor
  · rintro ⟨after, before, hitems, hafter⟩
    refine ⟨before.reverse, after.reverse, ?_, fun hmem => ?_⟩
    · rw [← List.reverse_reverse items, hitems]
      simp
    · obtain ⟨z, hz, hkey⟩ := List.mem_map.mp hmem
      simpa [hkey] using hafter z (List.mem_reverse.mp hz)
  · rintro ⟨before, after, rfl, hafter⟩
    refine ⟨after.reverse, before.reverse, by simp, fun z hz => ?_⟩
    have hkey : key z ≠ key y := fun heq =>
      hafter (heq ▸ List.mem_map_of_mem (List.mem_reverse.mp hz))
    simpa using hkey

/-- **Each key stands where it came up first and has the item that came up last, and lists may be
deduplicated in parts.** The keys are those of the items without repetition, in the order in which
they came up. An item is kept exactly if no later item has its key. To deduplicate two lists, or any
number of them, and then what stands one behind the other is to deduplicate all as one list; so
nothing changes when it is done twice. And a pass that notes the place of each key when it comes up
keeps the same items. -/
theorem deduplicate_first_places_last_items (key : α → κ) (items : List α) :
    (deduplicate key items).map key = (items.map key).eraseDups ∧
      (∀ y, y ∈ deduplicate key items ↔
        ∃ before after, items = before ++ y :: after ∧ key y ∉ after.map key) ∧
      (∀ xs ys, deduplicate key (xs ++ ys) =
        deduplicate key (deduplicate key xs ++ deduplicate key ys)) ∧
      (∀ parts : List (List α),
        deduplicate key parts.flatten = deduplicate key (parts.map (deduplicate key)).flatten) ∧
      deduplicate key (deduplicate key items) = deduplicate key items ∧
      (items.foldl (Pass.step key) .start).kept = deduplicate key items := by
  refine ⟨keys_deduplicate items, fun y => mem_deduplicate_iff, deduplicate_append,
    deduplicate_flatten, ?_, ?_⟩
  · exact deduplicate_deduplicate items
  · exact kept_foldl_step items

/-- Pairs of which some share their first part. -/
def repeatedPairs : List (String × Nat) :=
  [("a", 1), ("b", 2), ("a", 3), ("c", 4), ("b", 5)]

/-- Cut behind the second pair, both parts and the whole have a pair for `b`; the last one is kept,
at the place of the first. -/
theorem deduplicate_repeatedPairs_in_parts :
    deduplicate (·.1) repeatedPairs = [("a", 3), ("b", 5), ("c", 4)] ∧
      deduplicate (·.1) repeatedPairs =
        deduplicate (·.1) (deduplicate (·.1) (repeatedPairs.take 2) ++
          deduplicate (·.1) (repeatedPairs.drop 2)) ∧
      (∃ before after, repeatedPairs = before ++ ("b", 5) :: after ∧ "b" ∉ after.map (·.1)) ∧
      (repeatedPairs.foldl (Pass.step (·.1)) .start).kept = [("a", 3), ("b", 5), ("c", 4)] := by
  obtain ⟨-, hkept, hparts, -, -, hpass⟩ := deduplicate_first_places_last_items (·.1) repeatedPairs
  have hvalue : deduplicate (·.1) repeatedPairs = [("a", 3), ("b", 5), ("c", 4)] := by decide
  refine ⟨hvalue, ?_, ?_, hpass.trans hvalue⟩
  · rw [← hparts, List.take_append_drop]
  · exact (hkept ("b", 5)).mp (by rw [hvalue]; decide)

end Actionary
