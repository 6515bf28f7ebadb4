import Actionary.Proofs.ChoiceReading
import Actionary.Proofs.SnippetChains

/-!
# The tab stops of a template

A tab stop is marked in a template by `${N:` or `${N|`. A template is put together from fragments,
which mark the tab stops of the action, and from texts of the catalog:

    {${1|swipe,drag|}} {${1:argument value}} over {${5:locator value}} by {${6|css,id|}}
         ^ names                             ^ verb                            ^ options

The names and the options get a backslash before commas, bars and backslashes; the verb is taken as
it is. In no place is a dollar sign changed, so a text may bring marks of its own (`lentStops`). A
mark is not torn apart or put together where a text meets a blank or a brace (`markers_append`); so
the marks of a template are those of the fragments and those of the texts, and nothing else
(`exists_getLast?_chainSnippets`).
-/

namespace Actionary.Snippet

/-! ## Marks of tab stops -/

/-- What a tab stop offers. -/
inductive StopKind where
  | value
  | choice
deriving DecidableEq, Repr

/-- The mark of a tab stop: `${5:` or `${6|`. -/
structure Marker where
  stop : Nat
  kind : StopKind
deriving DecidableEq, Repr

/-- The mark that ends with the first character of a text. -/
def Marker.endingAt? (stop : Nat) (cs : List Code) : Option Marker :=
  if cs.head? = some ':' then some ⟨stop, .value⟩
  else if cs.head? = some '|' then some ⟨stop, .choice⟩
  else none

/-- The mark that a text starts with. -/
def markerAt? (cs : List Code) : Option Marker :=
  ((readMark? '$' cs).bind (readMark? '{')).bind fun cs =>
    (readStop? cs).bind fun p => Marker.endingAt? p.1 p.2

/-- The marks in a text, from left to right. -/
def markers : List Code → List Marker
  | [] => []
  | c :: cs => (markerAt? (c :: cs)).toList ++ markers cs

theorem markerAt?_of_ne {c : Code} (h : c ≠ '$') (cs : List Code) : markerAt? (c :: cs) = none := by
  rw [markerAt?, readMark?, if_neg fun heq => h (eq_of_beq heq)]
  rfl

/-- Before a dollar sign there is no mark. -/
theorem markers_append_of_plain {plain : List Code} (h : .char '$' ∉ plain) (cs : List Code) :
    markers (plain ++ cs) = markers cs := by
  induction plain with
  | nil => rfl
  | cons c plain ih =>
      obtain ⟨hc, hplain⟩ := not_or.mp (mt List.mem_cons.mpr h)
      rw [List.cons_append, markers, markerAt?_of_ne (Ne.symm hc), ih hplain]
      rfl

theorem markers_of_plain {plain : List Code} (h : .char '$' ∉ plain) : markers plain = [] := by
  have hplain := markers_append_of_plain h []
  rwa [List.append_nil] at hplain

/-- A written mark is found, and then what follows it. -/
theorem markers_mark (n : Nat) {sign : Code} {m : Marker} {cs : List Code}
    (hdigit : sign.isDigit = false)
    (hsign : sign ≠ '$') (hm : Marker.endingAt? n (sign :: cs) = some m) :
    markers ('$' :: '{' :: (stopDigits n ++ sign :: cs)) = m :: markers cs := by
  have hat : markerAt? ('$' :: '{' :: (stopDigits n ++ sign :: cs)) = some m := by
    show (readStop? (stopDigits n ++ sign :: cs)).bind _ = _
    rw [readStop?_stopDigits n hdigit]
    exact hm
  have hplain : .char '$' ∉ .char '{' :: (stopDigits n ++ [sign]) := by
    rw [List.mem_cons, List.mem_append, List.mem_singleton]
    rintro (hbrace | hdigits | heq)
    · exact absurd hbrace (by decide)
    · exact absurd (isDigit_of_mem_stopDigits hdigits) (by decide)
    · exact hsign heq.symm
  have hrest := markers_append_of_plain hplain cs
  rw [List.cons_append, List.append_assoc, List.singleton_append] at hrest
  rw [markers, hat, hrest]
  rfl

/-! ## Texts side by side -/

/-- No mark goes on with this character. -/
def Parts (c : Code) : Prop :=
  c ≠ '{' ∧ c.isDigit = false ∧ c ≠ ':' ∧ c ≠ '|'

instance (c : Code) : Decidable (Parts c) :=
  inferInstanceAs (Decidable (_ ∧ _))

theorem readStop?_append {c : Code} (hc : c.isDigit = false) (text cs : List Code) :
    readStop? (text ++ c :: cs) = (readStop? text).map fun p => (p.1, p.2 ++ c :: cs) := by
  have hspan : (text ++ c :: cs).takeWhile Code.isDigit = text.takeWhile Code.isDigit ∧
      (text ++ c :: cs).dropWhile Code.isDigit = text.dropWhile Code.isDigit ++ c :: cs := by
    induction text with
    | nil => simp [hc]
    | cons d text ih =>
        cases hd : d.isDigit with
        | true => simpa [hd] using ih
        | false => simp [hd]
  simp only [readStop?, hspan]
  split
  · rfl
  · rfl

theorem endingAt?_append {c : Code} (hcolon : c ≠ ':') (hbar : c ≠ '|') (stop : Nat)
    (text cs : List Code) :
    Marker.endingAt? stop (text ++ c :: cs) = Marker.endingAt? stop text := by
  cases text with
  | nil => simp [Marker.endingAt?, hcolon, hbar]
  | cons d text => rfl

theorem markerAt?_append {text : List Code} (htext : text ≠ []) {c : Code} (hc : Parts c)
    (cs : List Code) : markerAt? (text ++ c :: cs) = markerAt? text := by
  obtain ⟨hbrace, hdigit, hcolon, hbar⟩ := hc
  cases text with
  | nil => exact absurd rfl htext
  | cons d text =>
      by_cases hd : d = '$'
      · subst hd
        cases text with
        | nil =>
            show ((readMark? '{' (c :: cs)).bind _) = none
            rw [readMark?, if_neg fun heq => hbrace (eq_of_beq heq)]
            rfl
        | cons e text =>
            show ((readMark? '{' (e :: (text ++ c :: cs))).bind _) =
              ((readMark? '{' (e :: text)).bind _)
            rw [readMark?, readMark?]
            split
            · rw [Option.bind_some, Option.bind_some, readStop?_append hdigit, Option.bind_map]
              refine congrArg (Option.bind _) (funext fun p => ?_)
              exact endingAt?_append hcolon hbar p.1 p.2 cs
            · rfl
      · rw [List.cons_append, markerAt?_of_ne hd, markerAt?_of_ne hd]

/-- The marks of a text are not changed by what follows, if no mark goes on there. -/
theorem markers_append {c : Code} (hc : Parts c) (text cs : List Code) :
    markers (text ++ c :: cs) = markers text ++ markers (c :: cs) := by
  induction text with
  | nil => rfl
  | cons d text ih =>
      have hhere := markerAt?_append (List.cons_ne_nil d text) hc cs
      rw [List.cons_append] at hhere ⊢
      rw [markers, hhere, ih]
      exact (List.append_assoc ..).symm

/-! ## Fragments -/

/-- The marks in a text. -/
def stops (s : Text) : List Marker :=
  markers s.toList

theorem stops_spaced (s t : Text) : stops (s ++ " " ++ t) = stops s ++ stops t := by
  have hcut : (s ++ " " ++ t).toList = s.toList ++ .char ' ' :: t.toList := by
    rw [Text.toList_append, Text.toList_append, List.append_assoc]
    rfl
  rw [stops, hcut, markers_append (by decide), markers, markerAt?_of_ne (by decide)]
  rfl

/-- The marks that the options of a choice bring into a text. The bar behind them may end a mark
that the last option has begun. -/
def optionStops (options : List Text) : List Marker :=
  markers (optionChars options ++ [.char '|'])

example : optionStops ["id", "$" ++ .singleton '{' ++ "7"] = [⟨7, .choice⟩] := by decide +kernel

theorem stops_braced_placeholder (stop : Nat) {default : Text} (h : .char '$' ∉ default.toList) :
    stops (braced (placeholder stop default)) = [⟨stop, .value⟩] := by
  have hcut : (braced (placeholder stop default)).toList =
      [.char '{'] ++ .char '$' :: .char '{' :: (stopDigits stop ++
        .char ':' :: (default.toList ++ [.char '}', .char '}'])) := by
    simp only [braced, placeholder, Text.toList_append, toList_toString]
    simp
  rw [stops, hcut, markers_append_of_plain (by decide), markers_mark stop rfl (by decide) rfl,
    markers_append_of_plain h]
  rfl

theorem stops_braced_choice (stop : Nat) (options : List Text) :
    stops (braced (choice stop options)) = ⟨stop, .choice⟩ :: optionStops options := by
  have hcut : (braced (choice stop options)).toList =
      [.char '{'] ++ .char '$' :: .char '{' :: (stopDigits stop ++
        .char '|' :: ((optionChars options ++ [.char '|']) ++ .char '}' :: [.char '}'])) := by
    have hchoice := toList_choice stop options (.singleton '}')
    rw [braced, Text.append_assoc, Text.toList_append, hchoice]
    simp
  rw [stops, hcut, markers_append_of_plain (by decide), markers_mark stop rfl (by decide) rfl,
    markers_append (by decide), optionStops]
  simp [markers_of_plain]

theorem stops_elementFragment (verb : Text) (locators : List Text) :
    stops (elementFragment verb locators) =
      stops verb ++ (⟨5, .value⟩ :: ⟨6, .choice⟩ :: optionStops locators) := by
  have hby : (" by " : Text) = " " ++ "by" ++ " " := by decide +kernel
  have hvalue : stops (braced (placeholder locatorStop "locator value")) = [⟨5, .value⟩] :=
    stops_braced_placeholder 5 (by decide +kernel)
  have hkind : stops (braced (choice locatorKindStop locators)) =
      ⟨6, .choice⟩ :: optionStops locators :=
    stops_braced_choice 6 locators
  have hword : stops "by" = [] := markers_of_plain (by decide +kernel)
  have hcut : elementFragment verb locators =
      verb ++ " " ++ (braced (placeholder locatorStop "locator value") ++ " " ++
        ("by" ++ " " ++ braced (choice locatorKindStop locators))) := by
    rw [elementFragment, hby]
    simp only [Text.append_assoc]
  rw [hcut, stops_spaced, stops_spaced, stops_spaced, hvalue, hkind, hword]
  rfl

theorem stops_attributeFragment (attributes : List Text) :
    stops (attributeFragment attributes) = ⟨7, .choice⟩ :: optionStops attributes := by
  have hfrom : ("from " : Text) = "from" ++ " " := by decide +kernel
  have hchoice : stops (braced (choice attributeStop attributes)) =
      ⟨7, .choice⟩ :: optionStops attributes :=
    stops_braced_choice 7 attributes
  have hword : stops "from" = [] := markers_of_plain (by decide +kernel)
  rw [attributeFragment, hfrom, stops_spaced, hchoice, hword]
  rfl

theorem stops_regexFragment : stops regexFragment = [⟨8, .value⟩] := by
  decide +kernel

theorem stops_argumentFragment : stops argumentFragment = [⟨1, .value⟩] := by
  decide +kernel

theorem stops_flagsFragment : stops flagsFragment = [⟨1, .value⟩] := by
  decide +kernel

theorem dollar_not_mem_phrase (a : Action) : .char '$' ∉ a.phrase.toList := by
  intro hdollar
  rcases ActionKey.isPlain_of_mem_phrase hdollar with hblank | hplain
  · exact absurd hblank (by decide)
  · exact absurd hplain (by decide)

/-! ## What an action has, and what its texts bring -/

/-- The marks of the tab stops of an action. -/
def ownStops (a : Action) : List Marker :=
  (if (aliasPhrases a).isEmpty then [] else [⟨1, .choice⟩]) ++
    (⟨1, .value⟩ ::
      ((if a.has .element then [⟨5, .value⟩, ⟨6, .choice⟩] else []) ++
        ((if a.has .elementAttribute then [⟨7, .choice⟩] else []) ++
          if a.has .regex then [⟨8, .value⟩] else [])))

/-- The marks that the other names of an action bring into its templates. -/
def nameStops (a : Action) : List Marker :=
  if (aliasPhrases a).isEmpty then [] else optionStops (a.phrase :: aliasPhrases a)

theorem stops_actionFragment (a : Action) :
    stops (actionFragment a) =
      (if (aliasPhrases a).isEmpty then [] else [⟨1, .choice⟩]) ++ nameStops a := by
  rw [actionFragment, nameStops]
  split
  · next hnone =>
      rw [hnone]
      exact markers_of_plain (dollar_not_mem_phrase a)
  · next hsome =>
      have hempty : (aliasPhrases a).isEmpty = false := List.isEmpty_eq_false_iff.mpr hsome
      rw [hempty]
      exact stops_braced_choice 1 (a.phrase :: aliasPhrases a)

/-- The marks that the texts of the catalog bring into the longest templates of an action: its other
names, its verb, and the names that its choices offer. -/
def lentStops (choices : Choices) (a : Action) : List Marker :=
  nameStops a ++
    ((if a.has .element then stops a.verb ++ optionStops choices.locators else []) ++
      if a.has .elementAttribute then optionStops choices.attributes else [])

theorem stops_of_mem_seeds {a : Action} {start : Part} (h : start ∈ seeds a) :
    stops start.text = stops (actionFragment a) ++ [⟨1, .value⟩] := by
  rcases List.mem_cons.mp h with rfl | h
  · exact (stops_spaced _ _).trans (congrArg _ stops_argumentFragment)
  · split at h
    · obtain rfl := List.mem_singleton.mp h
      exact (stops_spaced _ _).trans (congrArg _ stops_flagsFragment)
    · exact absurd h List.not_mem_nil

theorem flatMap_stops_parts (choices : Choices) (a : Action) :
    ((parts choices a).flatMap fun p => stops p.text) =
      (if a.has .element then
          stops a.verb ++ (⟨5, .value⟩ :: ⟨6, .choice⟩ :: optionStops choices.locators)
        else []) ++
      ((if a.has .elementAttribute then ⟨7, .choice⟩ :: optionStops choices.attributes else []) ++
        if a.has .regex then [⟨8, .value⟩] else []) := by
  rw [← stops_elementFragment, ← stops_attributeFragment, ← stops_regexFragment]
  simp only [parts, additions, List.filter_cons, List.filter_nil]
  cases a.has .element <;> cases a.has .elementAttribute <;> cases a.has .regex <;> simp

/-- The last of a chain has the marks of all its parts. -/
theorem exists_getLast?_chain (ps : List Part) :
    ∀ start : Part, ∃ p, (chain start ps).getLast? = some p ∧
      stops p.text = stops start.text ++ ps.flatMap fun q => stops q.text := by
  induction ps with
  | nil =>
      intro start
      exact ⟨start, rfl, (List.append_nil _).symm⟩
  | cons q ps ih =>
      intro start
      obtain ⟨p, hlast, hstops⟩ := ih (start.append q)
      refine ⟨p, ?_, ?_⟩
      · rw [chain, List.getLast?_cons, hlast]
        rfl
      · rw [hstops, Part.append, stops_spaced, List.flatMap_cons, List.append_assoc]

/-- The snippets of one chain of an action. -/
def chainSnippets (choices : Choices) (a : Action) (start : Part) : List Snippet :=
  deduplicate (·.name) ((chain start (parts choices a)).map (ofPart a))

/-- The last template of a chain has the marks of the action, and those that its texts bring. -/
theorem exists_getLast?_chainSnippets (choices : Choices) {a : Action} {start : Part}
    (h : start ∈ seeds a) :
    ∃ last, (chainSnippets choices a start).getLast? = some last ∧
      (stops last.template).Perm (ownStops a ++ lentStops choices a) := by
  obtain ⟨p, hlast, hstops⟩ := exists_getLast?_chain (parts choices a) start
  have hkept : chainSnippets choices a start = (chain start (parts choices a)).map (ofPart a) := by
    apply deduplicate_eq_self
    rw [List.map_map]
    exact nodup_chain_names
  refine ⟨ofPart a p, ?_, ?_⟩
  · rw [hkept, List.getLast?_map, hlast]
    rfl
  · show (stops p.text).Perm _
    rw [hstops, stops_of_mem_seeds h, flatMap_stops_parts, stops_actionFragment, ownStops,
      lentStops, List.perm_iff_count]
    intro m
    cases a.has .element <;> cases a.has .elementAttribute <;>
      simp [List.count_append, List.count_cons] <;> omega

/-! ## Own tab stops only -/

/-- The marks of the tab stops that stand for a capability. -/
def capabilityStops : List (Marker × Capability) :=
  [(⟨5, .value⟩, .element), (⟨6, .choice⟩, .element), (⟨7, .choice⟩, .elementAttribute),
    (⟨8, .value⟩, .regex)]

/-- A template has each tab stop of an action once, and no other but the first. -/
structure OwnStopsOnly (a : Action) (template : Text) : Prop where
  /-- The mark of a capability is there once if the action has the capability, and else not at all.
  -/
  each : ∀ p ∈ capabilityStops, (stops template).count p.1 = if a.has p.2 then 1 else 0
  /-- Any other mark is one of the first tab stop. -/
  others : ∀ m ∈ stops template, m ∈ capabilityStops.map (·.1) ∨ m.stop = 1

theorem count_ownStops (a : Action) {p : Marker × Capability} (hp : p ∈ capabilityStops) :
    (ownStops a).count p.1 = if a.has p.2 then 1 else 0 := by
  have hname : ∀ m : Marker, m.stop ≠ 1 →
      (if (aliasPhrases a).isEmpty then ([] : List Marker) else [⟨1, .choice⟩]).count m = 0 := by
    intro m hm
    rw [List.count_eq_zero]
    split
    · exact List.not_mem_nil
    · exact fun hmem => hm (congrArg Marker.stop (List.mem_singleton.mp hmem))
  rw [ownStops, List.count_append]
  simp only [capabilityStops, List.mem_cons, List.not_mem_nil, or_false] at hp
  rcases hp with rfl | rfl | rfl | rfl <;>
    rw [hname _ (by decide)] <;>
    cases a.has .element <;> cases a.has .elementAttribute <;> cases a.has .regex <;> decide

theorem of_mem_ownStops {a : Action} {m : Marker} (h : m ∈ ownStops a) :
    m ∈ capabilityStops.map (·.1) ∨ m.stop = 1 := by
  simp only [ownStops, List.mem_append, List.mem_cons, List.mem_ite_nil_left,
    List.mem_ite_nil_right, List.not_mem_nil, or_false] at h
  rcases h with ⟨-, rfl⟩ | rfl | ⟨-, rfl | rfl⟩ | ⟨-, rfl⟩ | ⟨-, rfl⟩
  · exact Or.inr rfl
  · exact Or.inr rfl
  all_goals
    left
    decide

theorem ownStopsOnly_iff {choices : Choices} {a : Action} {template : Text}
    (h : (stops template).Perm (ownStops a ++ lentStops choices a)) :
    OwnStopsOnly a template ↔ ∀ m ∈ lentStops choices a, m.stop = 1 := by
  have hcount : ∀ p ∈ capabilityStops, (stops template).count p.1 =
      (if a.has p.2 then 1 else 0) + (lentStops choices a).count p.1 := by
    intro p hp
    rw [h.count_eq, List.count_append, count_ownStops a hp]
  constructor
  · intro hown m hm
    rcases hown.others m (h.mem_iff.mpr (List.mem_append_right _ hm)) with hcapability | hfirst
    · obtain ⟨p, hp, rfl⟩ := List.mem_map.mp hcapability
      have honce := hown.each p hp
      have hmore : 0 < (lentStops choices a).count p.1 := List.count_pos_iff.mpr hm
      rw [hcount p hp] at honce
      omega
    · exact hfirst
  · intro hlent
    refine ⟨fun p hp => ?_, fun m hm => ?_⟩
    · have hother : ∀ p ∈ capabilityStops, p.1.stop ≠ 1 := by decide
      rw [hcount p hp, List.count_eq_zero.mpr fun hmem => hother p hp (hlent p.1 hmem),
        Nat.add_zero]
    · rcases List.mem_append.mp (h.mem_iff.mp hm) with hmem | hmem
      · exact of_mem_ownStops hmem
      · exact Or.inr (hlent m hmem)

/-! ## Texts without a dollar sign -/

/-- The texts of the catalog that go into the longest templates of an action. -/
def lentTexts (choices : Choices) (a : Action) : List Text :=
  a.aliases.map phraseOf ++
    ((if a.has .element then a.verb :: choices.locators else []) ++
      if a.has .elementAttribute then choices.attributes else [])

theorem dollar_mem_of_mem_escapeOption {option : List Code} (h : .char '$' ∈ escapeOption option) :
    .char '$' ∈ option := by
  induction option with
  | nil => exact h
  | cons c cs ih =>
      rw [escapeOption] at h
      split at h
      · rcases List.mem_cons.mp h with heq | h
        · exact absurd heq (by decide)
        · rcases List.mem_cons.mp h with rfl | h
          · exact List.mem_cons_self
          · exact List.mem_cons_of_mem _ (ih h)
      · rcases List.mem_cons.mp h with rfl | h
        · exact List.mem_cons_self
        · exact List.mem_cons_of_mem _ (ih h)

theorem dollar_mem_of_mem_optionChars {options : List Text} (h : .char '$' ∈ optionChars options) :
    ∃ s ∈ options, .char '$' ∈ s.toList := by
  induction options with
  | nil => exact absurd h List.not_mem_nil
  | cons s options ih =>
      cases options with
      | nil => exact ⟨s, List.mem_cons_self, dollar_mem_of_mem_escapeOption h⟩
      | cons t options =>
          rw [optionChars, List.mem_append, List.mem_cons] at h
          rcases h with h | heq | h
          · exact ⟨s, List.mem_cons_self, dollar_mem_of_mem_escapeOption h⟩
          · exact absurd heq (by decide)
          · obtain ⟨u, hu, hdollar⟩ := ih h
            exact ⟨u, List.mem_cons_of_mem _ hu, hdollar⟩

theorem optionStops_of_plain {options : List Text} (h : ∀ s ∈ options, .char '$' ∉ s.toList) :
    optionStops options = [] := by
  refine markers_of_plain fun hmem => ?_
  rcases List.mem_append.mp hmem with hmem | hmem
  · obtain ⟨s, hs, hdollar⟩ := dollar_mem_of_mem_optionChars hmem
    exact h s hs hdollar
  · exact absurd (List.mem_singleton.mp hmem) (by decide)

/-- Texts without a dollar sign bring no marks. -/
theorem lentStops_of_plain {choices : Choices} {a : Action}
    (h : ∀ s ∈ lentTexts choices a, .char '$' ∉ s.toList) : lentStops choices a = [] := by
  obtain ⟨hnames, h⟩ := List.forall_mem_append.mp h
  obtain ⟨helement, hattribute⟩ := List.forall_mem_append.mp h
  have hname : nameStops a = [] := by
    rw [nameStops]
    split
    · rfl
    · refine optionStops_of_plain
        (List.forall_mem_cons.mpr ⟨dollar_not_mem_phrase a, fun s hs => ?_⟩)
      exact hnames s ((aliasPhrases_sorted a).1.mem_iff.mp hs)
  rw [lentStops, hname, List.nil_append]
  have hverb :
      (if a.has .element then stops a.verb ++ optionStops choices.locators else []) = [] := by
    split
    · next hhas =>
        rw [if_pos hhas] at helement
        obtain ⟨hverb, hlocators⟩ := List.forall_mem_cons.mp helement
        rw [stops, markers_of_plain hverb, optionStops_of_plain hlocators]
        rfl
    · rfl
  rw [hverb, List.nil_append]
  split
  · next hhas =>
      rw [if_pos hhas] at hattribute
      exact optionStops_of_plain hattribute
  · rfl

/-! ## The longest templates -/

/-- **A template has the tab stops of its action and no others, unless a text of the catalog brings
one.** The last snippet of each chain of an action is the one with all its fragments. The tab stop
of each capability is marked in it once or, without the capability, not at all, and no other tab
stop but the first is marked, exactly if every mark that the other names, the verb and the options
bring is one of the first tab stop. So it is wherever none of these texts holds a dollar sign. -/
theorem ownStopsOnly_of_chains_iff (locators attributes : List Text) (a : Action) :
    compile (.of locators attributes) a =
      (seeds a).flatMap (chainSnippets (.of locators attributes) a) ∧
      (∀ start ∈ seeds a, ∃ last,
        (chainSnippets (.of locators attributes) a start).getLast? = some last ∧
        (OwnStopsOnly a last.template ↔ ∀ m ∈ lentStops (.of locators attributes) a, m.stop = 1)) ∧
      ((∀ s ∈ lentTexts (.of locators attributes) a, .char '$' ∉ s.toList) →
        ∀ start ∈ seeds a, ∃ last,
          (chainSnippets (.of locators attributes) a start).getLast? = some last ∧
          OwnStopsOnly a last.template) := by
  refine ⟨rfl, fun start hstart => ?_, fun hplain start hstart => ?_⟩
  · obtain ⟨last, hlast, hstops⟩ := exists_getLast?_chainSnippets (.of locators attributes) hstart
    exact ⟨last, hlast, ownStopsOnly_iff hstops⟩
  · obtain ⟨last, hlast, hstops⟩ := exists_getLast?_chainSnippets (.of locators attributes) hstart
    refine ⟨last, hlast, (ownStopsOnly_iff hstops).mpr fun m hm => ?_⟩
    rw [lentStops_of_plain hplain] at hm
    exact absurd hm List.not_mem_nil

/-- An action whose verb is written like a tab stop. -/
def swipeAction : Action :=
  { Recognizer.bareAction ⟨"Swipe", by decide⟩ with
    verb := "${9:over}", capabilities := { element := true } }

/-- The verb goes into the template as it is, and the template has a ninth tab stop. -/
theorem foreign_stop_from_verb :
    ∃ start ∈ seeds swipeAction, ∃ last,
      (chainSnippets (.of ["css"] []) swipeAction start).getLast? = some last ∧
      last.template =
        "swipe {${1:argument value}} ${9:over} {${5:locator value}} by {${6|css|}}" ∧
      ¬ OwnStopsOnly swipeAction last.template := by
  refine ⟨⟨"swipe w/ argument", "swipe {${1:argument value}}"⟩, by decide +kernel,
    ⟨"swipe w/ argument w/ element", _, "", ""⟩, by decide +kernel, rfl, fun h => ?_⟩
  exact absurd (h.others ⟨9, .value⟩ (by decide +kernel)) (by decide)

end Actionary.Snippet
