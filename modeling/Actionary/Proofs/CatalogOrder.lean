import Mathlib.Data.List.Forall2
import Actionary.Completion.Request
import Actionary.Proofs.Distinct
import Actionary.Proofs.Resolution

/-!
# What the order of a catalog does not change

A catalog lists its entries in some order. Two uses of it put them into an order of their own first:

    recognition    the phrases of the actions, each once, longer ones first
    choices        locators, attributes and other names, in ascending order

Each of these orders is total and tells any two texts apart, so a list has one arrangement in it
whatever order it had before. Resolution then looks an action up by its key, and no two actions have
one key.
-/

namespace Actionary

/-! ## Arrangements -/

/-- A list has one arrangement in a total order that tells its items apart. -/
theorem mergeSort_eq_of_perm {α : Type} {le : α → α → Bool}
    (trans : ∀ a b c, le a b = true → le b c = true → le a c = true)
    (total : ∀ a b, (le a b || le b a) = true)
    (antisymm : ∀ a b, le a b = true → le b a = true → a = b)
    {xs ys : List α} (h : xs.Perm ys) : xs.mergeSort le = ys.mergeSort le := by
  refine List.Perm.eq_of_pairwise (fun a b _ _ => antisymm a b)
    (List.pairwise_mergeSort trans total xs) (List.pairwise_mergeSort trans total ys) ?_
  exact (List.mergeSort_perm xs le).trans (h.trans (List.mergeSort_perm ys le).symm)

theorem textBefore_trans (a b c : Text) (hab : textBefore a b = true)
    (hbc : textBefore b c = true) : textBefore a c = true :=
  decide_eq_true (Text.le_trans (of_decide_eq_true hab) (of_decide_eq_true hbc))

theorem textBefore_total (a b : Text) : (textBefore a b || textBefore b a) = true := by
  rw [Bool.or_eq_true]
  exact (Text.le_total a b).imp decide_eq_true decide_eq_true

theorem textBefore_antisymm (a b : Text) (hab : textBefore a b = true)
    (hba : textBefore b a = true) : a = b :=
  Text.le_antisymm (of_decide_eq_true hab) (of_decide_eq_true hba)

/-- Sorted texts are the same exactly if the texts are, in whatever order and as often as they
occur. -/
theorem sorted_eq_iff {xs ys : List Text} : sorted xs = sorted ys ↔ xs.Perm ys := by
  constructor
  · intro h
    have hys : (sorted xs).Perm ys := h ▸ List.mergeSort_perm ys textBefore
    exact (List.mergeSort_perm xs textBefore).symm.trans hys
  · exact mergeSort_eq_of_perm textBefore_trans textBefore_total textBefore_antisymm

/-! ## Recognition -/

theorem tryFirst_antisymm (a b : Text) (hab : Recognizer.tryFirst a b = true)
    (hba : Recognizer.tryFirst b a = true) : a = b := by
  have hlength : a.length = b.length :=
    Nat.le_antisymm (length_le_of_tryFirst hba) (length_le_of_tryFirst hab)
  simp only [Recognizer.tryFirst, hlength, Nat.lt_irrefl, decide_false, Bool.false_or,
    beq_self_eq_true, Bool.true_and] at hab hba
  exact textBefore_antisymm a b hab hba

/-- The phrases that are tried, and their order, depend only on which phrases there are. -/
theorem phrases_eq_of_mem_iff {s t : Snapshot}
    (h : ∀ phrase, phrase ∈ s.actions.map (·.phrase) ↔ phrase ∈ t.actions.map (·.phrase)) :
    Recognizer.phrases s = Recognizer.phrases t := by
  have hperm : (s.actions.map (·.phrase)).eraseDups.Perm (t.actions.map (·.phrase)).eraseDups := by
    rw [List.perm_ext_iff_of_nodup (nodup_eraseDups_map _) (nodup_eraseDups_map _)]
    intro phrase
    rw [List.mem_eraseDups, List.mem_eraseDups, h]
  exact mergeSort_eq_of_perm tryFirst_trans tryFirst_total tryFirst_antisymm hperm

variable {s t : Snapshot}

theorem ofCatalog_eq_of_perm (h : s.actions.Perm t.actions) :
    Recognizer.ofCatalog s = Recognizer.ofCatalog t := by
  have hphrases : Recognizer.phrases s = Recognizer.phrases t :=
    phrases_eq_of_mem_iff fun _ => (h.map _).mem_iff
  rw [Recognizer.ofCatalog, Recognizer.ofCatalog, hphrases]

theorem Snapshot.find?_eq_of_perm (h : s.actions.Perm t.actions) (key : Text) :
    s.find? key = t.find? key := by
  apply Option.ext
  intro a
  rw [find?_eq_some_iff, find?_eq_some_iff, h.mem_iff]

theorem Recognizer.resolve?_eq_of_perm (r : Recognizer) (h : s.actions.Perm t.actions)
    (line : Text) : r.resolve? s line = r.resolve? t line := by
  rw [resolve?, resolve?]
  cases r.key? line with
  | none => rfl
  | some key => exact Snapshot.find?_eq_of_perm h key

/-- **Which action a line is about does not depend on the order of the actions.** Two catalogs with
the same actions have one recognizer, written form included; they resolve every line to the same
action, and offer the same flags at every position, with the recognizer of the catalog and with any
configured one. -/
theorem recognition_of_perm_actions (s t : Snapshot) (h : s.actions.Perm t.actions) :
    Recognizer.ofCatalog s = Recognizer.ofCatalog t ∧
      (∀ line, (Recognizer.ofCatalog s).resolve? s line =
        (Recognizer.ofCatalog t).resolve? t line) ∧
      ∀ (pattern : Option Recognizer) (sectionName : Text) (conditions : List FlagCondition)
        (d : Document) (p : Position),
        offeredFlagsAt conditions ⟨s, pattern, sectionName⟩ d p =
          offeredFlagsAt conditions ⟨t, pattern, sectionName⟩ d p := by
  have hsame : Recognizer.ofCatalog s = Recognizer.ofCatalog t := ofCatalog_eq_of_perm h
  refine ⟨hsame, fun line => ?_, fun pattern sectionName conditions d p => ?_⟩
  · rw [hsame, Recognizer.resolve?_eq_of_perm _ h]
  · have heffect : Config.recognizer ⟨s, pattern, sectionName⟩ =
        Config.recognizer ⟨t, pattern, sectionName⟩ := by
      cases pattern with
      | none => exact hsame
      | some r => rfl
    rw [offeredFlagsAt, offeredFlagsAt, heffect]
    simp only [Recognizer.resolve?_eq_of_perm _ h]

/-- The catalog of overlapping phrases, from its last action to its first. -/
def Recognizer.overlappingBackwards : Snapshot :=
  ⟨overlapping.actions.reverse, [], [], [], by decide⟩

/-- Backwards, longer phrases come first in the catalog too, and of the two equal phrases the other
one. -/
theorem recognition_of_overlapping_backwards :
    Recognizer.overlapping.actions.Perm Recognizer.overlappingBackwards.actions ∧
      Recognizer.overlapping.actions ≠ Recognizer.overlappingBackwards.actions ∧
      (Recognizer.ofCatalog Recognizer.overlapping).source =
        (Recognizer.ofCatalog Recognizer.overlappingBackwards).source ∧
      ∀ line, (Recognizer.ofCatalog Recognizer.overlapping).resolve? Recognizer.overlapping line =
        (Recognizer.ofCatalog Recognizer.overlappingBackwards).resolve?
          Recognizer.overlappingBackwards line := by
  have hperm : Recognizer.overlapping.actions.Perm Recognizer.overlappingBackwards.actions :=
    (List.reverse_perm _).symm
  obtain ⟨hsame, hresolve, -⟩ := recognition_of_perm_actions _ _ hperm
  exact ⟨hperm, by decide, congrArg Recognizer.source hsame, hresolve⟩

/-! ## Choices -/

/-- The same action, but for the order of its other names. -/
def Action.SameButAliasOrder (a b : Action) : Prop :=
  ∃ aliases, aliases.Perm a.aliases ∧ b = { a with aliases := aliases }

/-- The same catalog of snippets, but for the order of what the snippets let a writer choose from.
-/
structure Snapshot.SameButChoiceOrder (s t : Snapshot) : Prop where
  /-- The actions stand in one order and differ at most in the order of their other names. -/
  actions : List.Forall₂ Action.SameButAliasOrder s.actions t.actions
  locators : s.locators.Perm t.locators
  attributes : s.attributes.Perm t.attributes

namespace Snippet

theorem Choices.of_eq_iff {locators locators' attributes attributes' : List Text} :
    Choices.of locators attributes = Choices.of locators' attributes' ↔
      locators.Perm locators' ∧ attributes.Perm attributes' := by
  rw [Choices.of, Choices.of, Choices.mk.injEq, sorted_eq_iff, sorted_eq_iff]

/-- The choices of a catalog are sorted twice, where it lists them and where they are used; the
first time hides their order already. -/
theorem Choices.ofCatalog_eq_of_perm (hlocators : s.locators.Perm t.locators)
    (hattributes : s.attributes.Perm t.attributes) : Choices.ofCatalog s = Choices.ofCatalog t := by
  have hliterals : s.locatorLiterals = t.locatorLiterals := sorted_eq_iff.mpr (hlocators.map _)
  have hkeys : s.attributeKeys = t.attributeKeys := sorted_eq_iff.mpr (hattributes.map _)
  rw [Choices.ofCatalog, Choices.ofCatalog, hliterals, hkeys]

/-- The name of an action in a template does not show the order of its other names. They are sorted
as phrases, and different names may have one phrase. -/
theorem actionFragment_eq_of_perm {a : Action} {aliases : List Text} (h : aliases.Perm a.aliases) :
    actionFragment { a with aliases := aliases } = actionFragment a := by
  have hphrases : aliasPhrases { a with aliases := aliases } = aliasPhrases a :=
    sorted_eq_iff.mpr (h.map phraseOf)
  rw [actionFragment, actionFragment, hphrases]
  rfl

theorem compile_eq_of_sameButAliasOrder {a b : Action} (h : a.SameButAliasOrder b)
    (choices : Choices) : compile choices a = compile choices b := by
  obtain ⟨aliases, hperm, rfl⟩ := h
  have hseeds : seeds { a with aliases := aliases } = seeds a := by
    rw [seeds, seeds, actionFragment_eq_of_perm hperm]
    rfl
  rw [compile, compile, hseeds]
  rfl

theorem flatMap_compile_eq {actions actions' : List Action}
    (h : List.Forall₂ Action.SameButAliasOrder actions actions') (choices : Choices) :
    actions.flatMap (compile choices) = actions'.flatMap (compile choices) := by
  induction h with
  | nil => rfl
  | cons hsame _ ih =>
      rw [List.flatMap_cons, List.flatMap_cons, compile_eq_of_sameButAliasOrder hsame, ih]

/-- **Snippets do not depend on the order of their choices.** A catalog gives the same snippets in
the same order whatever the order of its locators, of its attributes and of the other names inside
its actions; and the snippets of one action depend only on which locators and attributes are given,
and how often. -/
theorem snippets_of_choice_order :
    (∀ s t : Snapshot, s.SameButChoiceOrder t → compose s = compose t) ∧
      ∀ (locators locators' attributes attributes' : List Text) (a : Action),
        locators.Perm locators' → attributes.Perm attributes' →
          compile (.of locators attributes) a = compile (.of locators' attributes') a := by
  constructor
  · intro s t h
    have hchoices : Choices.ofCatalog s = Choices.ofCatalog t :=
      Choices.ofCatalog_eq_of_perm h.locators h.attributes
    rw [compose, compose, hchoices, flatMap_compile_eq h.actions]
  · intro locators locators' attributes attributes' a hlocators hattributes
    rw [Choices.of_eq_iff.mpr ⟨hlocators, hattributes⟩]

/-- A catalog of one action that takes an element and an attribute, with its choices in some order.
Two of the other names have one phrase. -/
def hoverCatalog (order : {α : Type} → List α → List α) : Snapshot :=
  ⟨[{ Recognizer.bareAction ⟨"Hover", by decide⟩ with
      aliases := order ["moveTo", "Point", "MoveTo"]
      capabilities := { element := true, elementAttribute := true } }],
    order [⟨"", "xpath"⟩, ⟨"", "css"⟩], order [⟨"", "id"⟩, ⟨"", "href"⟩], [],
    List.nodup_singleton _⟩

/-- All choices turned round, of a catalog and of one action. -/
theorem snippets_of_choices_turned_round :
    (hoverCatalog id).SameButChoiceOrder (hoverCatalog List.reverse) ∧
      compose (hoverCatalog id) = compose (hoverCatalog List.reverse) ∧
      ∀ a, compile (.of ["xpath", "css", "css"] ["id"]) a =
        compile (.of ["css", "css", "xpath"] ["id"]) a := by
  have hsame : (hoverCatalog id).SameButChoiceOrder (hoverCatalog List.reverse) :=
    ⟨.cons ⟨_, List.reverse_perm _, rfl⟩ .nil, (List.reverse_perm _).symm,
      (List.reverse_perm _).symm⟩
  exact ⟨hsame, snippets_of_choice_order.1 _ _ hsame, fun a =>
    snippets_of_choice_order.2 _ _ _ _ a (List.reverse_perm (["css", "css", "xpath"] : List Text))
      (List.Perm.refl _)⟩

end Snippet

end Actionary
