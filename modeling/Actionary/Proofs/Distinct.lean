import Mathlib.Data.List.Induction
import Mathlib.Data.List.Nodup
import Actionary.Distinct

/-!
# What deduplication keeps

The keys of a deduplicated list are the keys of the list, and nothing is lost exactly if no two
items share a key. The keys stand in the order in which they came up first (`keys_deduplicate`), and
the item of a key is the one that came up last (`find?_deduplicate`).
-/

namespace Actionary

variable {α κ : Type} [BEq κ] [LawfulBEq κ] {key : α → κ}

/-- An item with a key of its own goes to the end. -/
theorem place_eq_append {x : α} {items : List α} (h : key x ∉ items.map key) :
    place key x items = items ++ [x] := by
  induction items with
  | nil => rfl
  | cons y ys ih =>
      rw [List.map_cons, List.mem_cons, not_or] at h
      have hne : (key y == key x) = false := beq_false_of_ne fun e => h.1 e.symm
      simp only [place, hne, Bool.false_eq_true, ↓reduceIte, ih h.2, List.cons_append]

theorem mem_keys_deduplicate {items : List α} {k : κ} :
    k ∈ (deduplicate key items).map key ↔ k ∈ items.map key := by
  suffices h : ∀ (items done : List α),
      k ∈ (items.foldl (fun done x => place key x done) done).map key ↔
        k ∈ done.map key ∨ k ∈ items.map key by
    rw [deduplicate, h items [], List.map_nil]
    simp only [List.not_mem_nil, false_or]
  intro items
  induction items with
  | nil => exact fun done => by simp
  | cons x xs ih =>
      intro done
      rw [List.foldl_cons, ih, mem_keys_place, List.map_cons, List.mem_cons]
      tauto

theorem deduplicate_eq_self {items : List α} (h : (items.map key).Nodup) :
    deduplicate key items = items := by
  suffices hfold : ∀ (items done : List α), ((done ++ items).map key).Nodup →
      items.foldl (fun done x => place key x done) done = done ++ items from
    hfold items [] h
  intro items
  induction items with
  | nil => exact fun done _ => (List.append_nil done).symm
  | cons x xs ih =>
      intro done hd
      -- Everything placed so far stands before `x`, so the key of `x` is new.
      have hnew : key x ∉ done.map key := by
        rw [List.map_append, List.map_cons, List.nodup_middle, List.nodup_cons] at hd
        exact fun hm => hd.1 (List.mem_append_left _ hm)
      rw [List.foldl_cons, place_eq_append hnew, ih (done ++ [x]) (by simpa using hd)]
      simp

/-- **Deduplication loses nothing exactly if no key occurs twice.** -/
theorem deduplicate_eq_self_iff {items : List α} :
    deduplicate key items = items ↔ (items.map key).Nodup := by
  refine ⟨fun h => ?_, deduplicate_eq_self⟩
  rw [← h]
  exact nodup_keys_deduplicate key items

/-! ## Item by item -/

omit [LawfulBEq κ] in
theorem deduplicate_concat (items : List α) (x : α) :
    deduplicate key (items ++ [x]) = place key x (deduplicate key items) :=
  List.foldl_append

omit [LawfulBEq κ] in
theorem mem_of_mem_place {x y : α} {items : List α} (h : y ∈ place key x items) :
    y = x ∨ y ∈ items := by
  induction items with
  | nil => exact Or.inl (List.mem_singleton.mp h)
  | cons z zs ih =>
      rw [place] at h
      split at h
      · exact (List.mem_cons.mp h).imp_right (List.mem_cons_of_mem _)
      · rcases List.mem_cons.mp h with rfl | h
        · exact Or.inr List.mem_cons_self
        · exact (ih h).imp_right (List.mem_cons_of_mem _)

omit [LawfulBEq κ] in
/-- Nothing is kept that was not given. -/
theorem mem_of_mem_deduplicate {y : α} {items : List α}
    (h : y ∈ deduplicate key items) : y ∈ items := by
  induction items using List.reverseRecOn with
  | nil => exact h
  | append_singleton items x ih =>
      rw [deduplicate_concat] at h
      rw [List.mem_append, List.mem_singleton]
      exact (mem_of_mem_place h).symm.imp_left ih

/-- An item with the key of another takes its place. -/
theorem keys_place_of_mem {x : α} {items : List α} (h : key x ∈ items.map key) :
    (place key x items).map key = items.map key := by
  induction items with
  | nil => exact absurd h List.not_mem_nil
  | cons y ys ih =>
      rw [place]
      split
      · next heq => rw [List.map_cons, List.map_cons, eq_of_beq heq]
      · next hne =>
          have hys : key x ∈ ys.map key :=
            (List.mem_cons.mp h).resolve_left fun e => hne (beq_iff_eq.mpr e.symm)
          rw [List.map_cons, List.map_cons, ih hys]

/-- **The keys stand in the order of their first items.** -/
theorem keys_deduplicate (items : List α) :
    (deduplicate key items).map key = (items.map key).eraseDups := by
  induction items using List.reverseRecOn with
  | nil => rfl
  | append_singleton items x ih =>
      rw [deduplicate_concat, List.map_append, List.map_singleton, List.eraseDups_append, ← ih]
      by_cases h : key x ∈ items.map key
      · have hold : [key x].removeAll (items.map key) = [] := by
          simp [List.removeAll, h]
        rw [keys_place_of_mem (mem_keys_deduplicate.mpr h), hold, List.eraseDups_nil,
          List.append_nil]
      · have hnew : [key x].removeAll (items.map key) = [key x] := by
          simp [List.removeAll, h]
        rw [place_eq_append fun hm => h (mem_keys_deduplicate.mp hm), hnew, List.eraseDups_cons,
          List.map_append, List.map_singleton]
        rfl

theorem nodup_eraseDups_map (items : List α) : (items.map key).eraseDups.Nodup := by
  rw [← keys_deduplicate]
  exact nodup_keys_deduplicate key items

/-- An item is the one of its key from when it is placed; all other keys keep theirs. A key is told
here by a test that only one key passes. -/
theorem find?_place {test : κ → Bool} (htest : ∀ i j, test i = true → test j = true → i = j) (x : α)
    (items : List α) :
    (place key x items).find? (fun y => test (key y)) =
      if test (key x) then some x else items.find? fun y => test (key y) := by
  induction items with
  | nil =>
      rw [place, List.find?_singleton]
      rfl
  | cons y ys ih =>
      rw [place]
      split
      · next heq =>
          rw [List.find?_cons, List.find?_cons, eq_of_beq heq]
          cases test (key x) with
          | true => rfl
          | false => rfl
      · next hne =>
          rw [List.find?_cons, List.find?_cons, ih]
          cases hy : test (key y) with
          | false => rfl
          | true =>
              have hx : test (key x) = false := by
                rw [Bool.eq_false_iff]
                exact fun hx => hne (beq_iff_eq.mpr (htest _ _ hy hx))
              rw [hx]
              rfl

/-- **The item of a key is the last one given for it.** -/
theorem find?_deduplicate {test : κ → Bool} (htest : ∀ i j, test i = true → test j = true → i = j)
    (items : List α) :
    (deduplicate key items).find? (fun y => test (key y)) =
      items.reverse.find? fun y => test (key y) := by
  induction items using List.reverseRecOn with
  | nil => rfl
  | append_singleton items x ih =>
      rw [deduplicate_concat, find?_place htest, ih, List.reverse_append, List.reverse_singleton,
        List.singleton_append, List.find?_cons]
      cases test (key x) with
      | true => rfl
      | false => rfl

end Actionary
