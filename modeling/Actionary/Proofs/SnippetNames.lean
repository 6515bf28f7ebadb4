import Actionary.Proofs.Distinct
import Actionary.Proofs.Phrase
import Actionary.Snippet.Compose

/-!
# The names of snippets

The name of a snippet is the phrase of its action, the start of a chain, and what was added to it. A
phrase holds no slash and every start of a chain does, so a name tells the phrase it was made from
(`phrase_eq_of_mem_namesOf`). Within one action the names of a chain grow, and the two chains part
behind the word `argument`. Hence two snippets of a catalog share a name only if their actions share
a phrase, and actions that share a phrase always have a name in common.
-/

namespace Actionary.Snippet

open Actionary.Text

/-! ## One chain -/

/-- The names of a chain go on from its start: nothing more, or a space and more. -/
theorem mem_chain {p : Part} {ps : List Part} :
    ∀ {start : Part}, p ∈ chain start ps → ∃ more : List Code,
      p.name.toList = start.name.toList ++ more ∧
      (more = [] ∨ ∃ rest : List Code, more = .char ' ' :: rest) := by
  induction ps with
  | nil =>
      intro start h
      obtain rfl := List.mem_singleton.mp h
      exact ⟨[], (List.append_nil _).symm, Or.inl rfl⟩
  | cons q qs ih =>
      intro start h
      rcases List.mem_cons.mp h with rfl | h
      · exact ⟨[], (List.append_nil _).symm, Or.inl rfl⟩
      · obtain ⟨more, hp, -⟩ := ih h
        refine ⟨' ' :: (q.name.toList ++ more), ?_, Or.inr ⟨_, rfl⟩⟩
        rw [hp]
        simp [Part.append]

/-- The names of a chain differ, since each is longer than all before it. -/
theorem nodup_chain_names {ps : List Part} :
    ∀ {start : Part}, ((chain start ps).map (·.name)).Nodup := by
  induction ps with
  | nil => exact List.nodup_singleton _
  | cons q qs ih =>
      intro start
      rw [chain, List.map_cons, List.nodup_cons]
      refine ⟨fun hmem => ?_, ih⟩
      obtain ⟨p, hp, hname⟩ := List.mem_map.mp hmem
      obtain ⟨more, hlater, -⟩ := mem_chain hp
      have hlength := congrArg List.length (hlater.symm.trans (congrArg Text.toList hname))
      simp only [Part.append, Text.toList_append, List.length_append, Text.length_toList] at hlength
      have hspace : Text.length " " = 1 := rfl
      omega

/-! ## The snippets of one action -/

/-- No snippet of a chain is replaced by a later one. -/
theorem compile_eq (choices : Choices) (a : Action) :
    compile choices a =
      (seeds a).flatMap fun start => (chain start (parts choices a)).map (ofPart a) := by
  unfold compile
  congr 1
  funext start
  apply deduplicate_eq_self
  rw [List.map_map]
  exact nodup_chain_names

/-- The names of the snippets of an action. -/
def namesOf (choices : Choices) (a : Action) : List Text :=
  (compile choices a).map (·.name)

theorem namesOf_eq (choices : Choices) (a : Action) :
    namesOf choices a =
      (seeds a).flatMap fun start => (chain start (parts choices a)).map (·.name) := by
  rw [namesOf, compile_eq, List.map_flatMap]
  simp only [List.map_map]
  rfl

/-- Every name of an action, of either chain, is its phrase, `w/ argument`, and more. -/
theorem mem_namesOf {choices : Choices} {a : Action} {name : Text} (h : name ∈ namesOf choices a) :
    ∃ more, name.toList = a.phrase.toList ++ (Text.toList " w/ argument" ++ more) := by
  rw [namesOf_eq] at h
  obtain ⟨start, hstart, hname⟩ := List.mem_flatMap.mp h
  obtain ⟨p, hp, rfl⟩ := List.mem_map.mp hname
  obtain ⟨more, hmore, -⟩ := mem_chain hp
  rcases List.mem_cons.mp hstart with rfl | hstart
  · refine ⟨more, ?_⟩
    rw [hmore, Text.toList_append, List.append_assoc]
  · split at hstart
    · obtain rfl := List.mem_singleton.mp hstart
      refine ⟨'s' :: more, ?_⟩
      rw [hmore, Text.toList_append, List.append_assoc]
      rfl
    · exact absurd hstart List.not_mem_nil

theorem seed_mem_namesOf (choices : Choices) (a : Action) :
    a.phrase ++ " w/ argument" ∈ namesOf choices a := by
  rw [namesOf_eq]
  refine List.mem_flatMap.mpr ⟨_, List.mem_cons_self, ?_⟩
  cases parts choices a with
  | nil => exact List.mem_cons_self
  | cons p ps => exact List.mem_cons_self

/-- The two chains of an action part behind `w/ argument`: the first ends there or goes on with a
space, the second goes on with a letter. -/
theorem disjoint_chain_names (base : Text) (text text' : Text) (ps : List Part) :
    List.Disjoint ((chain ⟨base, text⟩ ps).map (·.name))
      ((chain ⟨base ++ "s", text'⟩ ps).map (·.name)) := by
  intro name h h'
  obtain ⟨p, hp, rfl⟩ := List.mem_map.mp h
  obtain ⟨q, hq, hname⟩ := List.mem_map.mp h'
  obtain ⟨more, hmore, hcases⟩ := mem_chain hp
  obtain ⟨more', hmore', -⟩ := mem_chain hq
  have heq : more = .char 's' :: more' := by
    have hboth := hmore.symm.trans ((congrArg Text.toList hname.symm).trans hmore')
    rw [Text.toList_append, List.append_assoc] at hboth
    exact List.append_cancel_left hboth
  rcases hcases with rfl | ⟨rest, rfl⟩
  · exact List.cons_ne_nil _ _ heq.symm
  · exact absurd (List.cons.inj heq).1 (by decide)

theorem nodup_namesOf (choices : Choices) (a : Action) : (namesOf choices a).Nodup := by
  rw [namesOf_eq, List.nodup_flatMap]
  refine ⟨fun start _ => nodup_chain_names, ?_⟩
  unfold seeds
  split
  · have hs : a.phrase ++ " w/ arguments" = a.phrase ++ " w/ argument" ++ "s" := by
      rw [Text.append_assoc]
      rfl
    rw [hs]
    refine List.pairwise_cons.mpr ⟨fun start h => ?_, List.pairwise_singleton _ _⟩
    obtain rfl := List.mem_singleton.mp h
    exact disjoint_chain_names _ _ _ _
  · exact List.pairwise_singleton _ _

/-! ## The snippets of two actions -/

/-- No phrase holds a slash, so a name up to its first slash is its phrase and the start of `w/`. -/
theorem takeWhile_phrase (a : Action) (more : List Code) :
    (a.phrase.toList ++ (Text.toList " w/ argument" ++ more)).takeWhile (· != Code.char '/') =
      a.phrase.toList ++ [.char ' ', .char 'w'] := by
  rw [List.takeWhile_append_of_pos]
  · rfl
  · intro c hc
    rcases ActionKey.isPlain_of_mem_phrase hc with rfl | hplain
    · rfl
    · exact bne_iff_ne.mpr fun h => absurd (h ▸ hplain) (by decide)

/-- A name tells the phrase it was made from. -/
theorem phrase_eq_of_mem_namesOf {choices : Choices} {a b : Action} {name : Text}
    (ha : name ∈ namesOf choices a) (hb : name ∈ namesOf choices b) : a.phrase = b.phrase := by
  obtain ⟨more, hmore⟩ := mem_namesOf ha
  obtain ⟨more', hmore'⟩ := mem_namesOf hb
  have hcut := congrArg (List.takeWhile (· != Code.char '/')) (hmore.symm.trans hmore')
  rw [takeWhile_phrase, takeWhile_phrase] at hcut
  exact Text.toList_inj.mp (List.append_cancel_right hcut)

/-- Two actions have a name in common exactly if they have the same phrase. -/
theorem disjoint_namesOf_iff {choices : Choices} {a b : Action} :
    List.Disjoint (namesOf choices a) (namesOf choices b) ↔ a.phrase ≠ b.phrase := by
  constructor
  · intro hdisjoint heq
    refine hdisjoint (seed_mem_namesOf choices a) ?_
    rw [heq]
    exact seed_mem_namesOf choices b
  · exact fun hne name ha hb => hne (phrase_eq_of_mem_namesOf ha hb)

/-! ## The snippets of a catalog -/

/-- **The names of the snippets of a catalog differ, and a snippet is lost exactly on a clash of
phrases**: all snippets of all actions are kept, in the order of the catalog, if and only if no two
actions have keys that agree once their first letter is upper-case. -/
theorem compose_nodup_and_lossless_iff (s : Snapshot) :
    ((compose s).map (·.name)).Nodup ∧
      (compose s = s.actions.flatMap (compile (.ofCatalog s)) ↔
        s.actions.Pairwise fun a b => capitalized a.key.text.toList ≠
          capitalized b.key.text.toList) := by
  refine ⟨nodup_keys_deduplicate _ _, ?_⟩
  rw [compose, deduplicate_eq_self_iff, List.map_flatMap]
  change (s.actions.flatMap (namesOf (.ofCatalog s))).Nodup ↔ _
  rw [List.nodup_flatMap, and_iff_right fun a _ => nodup_namesOf _ a]
  apply List.Pairwise.iff
  intro a b
  exact disjoint_namesOf_iff.trans (not_congr (ActionKey.phrase_eq_iff a.key b.key))

end Actionary.Snippet
