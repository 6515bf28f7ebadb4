/-!
# One item per key

Items that share a key collapse into one: the last of them stays, at the place of the first.
`nodup_keys_deduplicate` says that no key is left twice.
-/

namespace Actionary

/-- Puts an item in the place of the item with the same key, or at the end if there is none. -/
def place [BEq κ] (key : α → κ) (x : α) : List α → List α
  | [] => [x]
  | y :: ys => if key y == key x then x :: ys else y :: place key x ys

/-- One item per key, in the order of the first items of each key; of items with one key the last
stays. -/
def deduplicate [BEq κ] (key : α → κ) (items : List α) : List α :=
  items.foldl (fun done x => place key x done) []

theorem mem_keys_place [BEq κ] [LawfulBEq κ] {key : α → κ} {x : α} {k : κ} :
    ∀ {items : List α}, k ∈ (place key x items).map key ↔ k = key x ∨ k ∈ items.map key
  | [] => by simp [place]
  | y :: ys => by
    by_cases h : (key y == key x) = true
    · simp [place, eq_of_beq h]
    · simp only [place, h, Bool.false_eq_true, ↓reduceIte, List.map_cons, List.mem_cons,
        mem_keys_place]
      exact ⟨fun h => h.elim (fun e => .inr (.inl e)) (fun r => r.elim .inl fun m => .inr (.inr m)),
        fun h => h.elim (fun e => .inr (.inl e)) (fun r => r.elim .inl fun m => .inr (.inr m))⟩

theorem nodup_keys_place [BEq κ] [LawfulBEq κ] {key : α → κ} {x : α} :
    ∀ {items : List α}, (items.map key).Nodup → ((place key x items).map key).Nodup
  | [], _ => by simp [place]
  | y :: ys, h => by
    have hd := List.nodup_cons.1 h
    by_cases e : (key y == key x) = true
    · simpa [place, e, ← eq_of_beq e] using hd
    · simp only [place, e, Bool.false_eq_true, ↓reduceIte, List.map_cons]
      refine List.nodup_cons.2 ⟨fun m => ?_, nodup_keys_place hd.2⟩
      cases mem_keys_place.1 m with
      | inl same => exact e (beq_iff_eq.2 same)
      | inr there => exact hd.1 there

/-- No key is left twice. -/
theorem nodup_keys_deduplicate [BEq κ] [LawfulBEq κ] (key : α → κ) (items : List α) :
    ((deduplicate key items).map key).Nodup := by
  suffices h : ∀ (items done : List α), (done.map key).Nodup →
      ((items.foldl (fun done x => place key x done) done).map key).Nodup from
    h items [] List.nodup_nil
  intro items
  induction items with
  | nil => exact fun _ h => h
  | cons x xs ih => exact fun done h => ih _ (nodup_keys_place h)

end Actionary
