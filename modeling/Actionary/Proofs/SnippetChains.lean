import Mathlib.Data.List.Infix
import Actionary.Proofs.SnippetNames

/-!
# The chains of an action, told at once

A chain grows step by step: each addition is put behind all that was there. Told at once, its
members are the start with every prefix of the additions, from the shortest prefix to the longest,
with single blanks between the parts (`chain_eq_inits`). The starts and the additions of an action
are written out below (`starts`, `added`):

    click w/ argument                      click {${1:argument value}}
    click w/ argument w/ element           ... on {${5:locator value}} by {${6|css|}}
    click w/ argument w/ element w/ regex  ... with regex {${8:.*}}

An attribute that the action does not take leaves no gap.
-/

namespace Actionary.Snippet

/-! ## One chain -/

/-- Parts with a blank between each two. -/
def Part.joined (ps : List Part) : Part :=
  ⟨Text.intercalate " " (ps.map (·.name)), Text.intercalate " " (ps.map (·.text))⟩

theorem Part.joined_singleton (p : Part) : Part.joined [p] = p := by
  simp only [Part.joined, List.map_singleton, Text.intercalate_singleton]

/-- Two parts that were put together already count as two. -/
theorem Part.joined_append (p q : Part) (ps : List Part) :
    Part.joined (p.append q :: ps) = Part.joined (p :: q :: ps) := by
  simp only [Part.joined, Part.append, List.map_cons, Text.intercalate_cons_append,
    Text.intercalate_cons_cons]

/-- **A chain is its start with every prefix of its additions**, the shortest first. -/
theorem chain_eq_inits (start : Part) (ps : List Part) :
    chain start ps = ps.inits.map fun added => Part.joined (start :: added) := by
  induction ps generalizing start with
  | nil => exact congrArg ([·]) (Part.joined_singleton start).symm
  | cons p ps ih =>
      rw [chain, ih, List.inits_cons, List.map_cons, List.map_map, Part.joined_singleton]
      refine congrArg (start :: ·) (List.map_congr_left fun added _ => ?_)
      exact Part.joined_append start p added

/-! ## What the chains are made of -/

/-- A part that an action has only with a capability. -/
def partIf (a : Action) (c : Capability) (name text : Text) : List Part :=
  if a.has c then [⟨name, text⟩] else []

/-- Where the chains of an action start: at an argument, and with the capability for flags also at a
list of flags. -/
def starts (a : Action) : List Part :=
  ⟨a.phrase ++ " w/ argument", actionFragment a ++ " {${1:argument value}}"⟩ ::
    partIf a .flags (a.phrase ++ " w/ arguments")
      (actionFragment a ++ " {{$ ${1:parameters values}}}")

/-- What an action adds to its chains: an element, an attribute, a regular expression. -/
def added (locators attributes : List Text) (a : Action) : List Part :=
  partIf a .element "w/ element"
      (a.verb ++ " {${5:locator value}} by " ++ braced (choice 6 (sorted locators))) ++
    (partIf a .elementAttribute "w/ attribute" ("from " ++ braced (choice 7 (sorted attributes))) ++
      partIf a .regex "w/ regex" "with regex {${8:.*}}")

theorem seeds_eq_starts (a : Action) : seeds a = starts a := by
  have hargument : " " ++ argumentFragment = " {${1:argument value}}" := by decide +kernel
  have hflags : " " ++ flagsFragment = " {{$ ${1:parameters values}}}" := by decide +kernel
  rw [seeds, starts, partIf, ← hargument, ← hflags]
  simp only [Text.append_assoc]

theorem elementFragment_eq (verb : Text) (locators : List Text) :
    elementFragment verb locators =
      verb ++ " {${5:locator value}} by " ++ braced (choice 6 locators) := by
  have hvalue : " " ++ braced (placeholder locatorStop "locator value") ++ " by " =
      " {${5:locator value}} by " := by
    decide +kernel
  rw [elementFragment, ← hvalue]
  simp only [Text.append_assoc]
  rfl

theorem parts_eq_added (locators attributes : List Text) (a : Action) :
    parts (.of locators attributes) a = added locators attributes a := by
  have hregex : regexFragment = "with regex {${8:.*}}" := by decide +kernel
  rw [added, ← hregex, ← elementFragment_eq]
  simp only [parts, additions, partIf, Choices.of, List.filter_cons, List.filter_nil]
  cases a.has .element <;> cases a.has .elementAttribute <;> cases a.has .regex <;> rfl

/-! ## The snippets of an action -/

/-- **The snippets of an action are the prefixes of its chains.** For each start in order, they are
the start with every prefix of the additions from the shortest to the longest, with single blanks
between the parts; all carry the description and the source of the action. So their names differ,
there are as many as the starts times one more than the additions, and whether the action takes a
free argument does not matter. -/
theorem compile_eq_prefixes (locators attributes : List Text) (a : Action) :
    compile (.of locators attributes) a =
        (starts a).flatMap (fun start => (added locators attributes a).inits.map fun more =>
          ⟨Text.intercalate " " ((start :: more).map (·.name)),
            Text.intercalate " " ((start :: more).map (·.text)), a.description, a.source⟩) ∧
      ((compile (.of locators attributes) a).map (·.name)).Nodup ∧
      (compile (.of locators attributes) a).length =
        (starts a).length * (1 + (added locators attributes a).length) ∧
      ∀ taken, compile (.of locators attributes)
        { a with capabilities := { a.capabilities with argument := taken } } =
          compile (.of locators attributes) a := by
  have hcompile : compile (.of locators attributes) a =
      (starts a).flatMap fun start => (added locators attributes a).inits.map fun more =>
        ofPart a (Part.joined (start :: more)) := by
    rw [compile_eq, seeds_eq_starts, parts_eq_added]
    simp only [chain_eq_inits, List.map_map]
    rfl
  refine ⟨hcompile, nodup_namesOf _ a, ?_, fun taken => rfl⟩
  rw [hcompile, List.length_flatMap]
  simp only [List.length_map, List.length_inits, List.map_const', List.sum_replicate_nat]
  rw [Nat.add_comm]

end Actionary.Snippet
