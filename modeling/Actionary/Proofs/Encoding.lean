import Mathlib.Data.List.TakeWhile
import Actionary.Json
import Actionary.Snippet.Compose
import Actionary.Proofs.Distinct
import Actionary.Proofs.Letters

/-!
# Texts that have an encoding

A half of a surrogate pair has no encoding, every other code point has one. So a text is encoded, as
the string of its characters, exactly if no half is in it; otherwise the fault tells where its first
halves stand (`encode_cases`).

On the way from a catalog to a result halves are neither made nor lost. An escape stands for a
character and is made of characters, so the text of a value has a half exactly if a text in the
value has one (`hasHalf_toText`). The small form of a character is made of characters, and all else
in a snippet is taken from the catalog as it is or is a text of its own, so the snippets of a
catalog without halves have none (`hasHalf_of_mem_compose`).
-/

namespace Actionary

/-! ## Encoded texts -/

theorem Code.chars?_eq_some_iff {cs : List Code} {ds : List Char} :
    chars? cs = some ds ↔ cs = ds.map .char := by
  induction cs generalizing ds with
  | nil => simp [chars?, eq_comm]
  | cons c cs ih =>
      cases c with
      | char c =>
          have hcons : chars? (.char c :: cs) = (chars? cs).map (c :: ·) := by
            rw [chars?, chars?, List.mapM_cons]
            exact Option.map_eq_bind.symm
          rw [hcons, Option.map_eq_some_iff]
          constructor
          · rintro ⟨rest, hrest, rfl⟩
            rw [ih.mp hrest, List.map_cons]
          · intro h
            cases ds with
            | nil => cases h
            | cons d ds =>
                obtain ⟨hc, hcs⟩ := List.cons.inj h
                exact ⟨ds, ih.mpr hcs, by rw [Code.char.inj hc]⟩
      | half n =>
          have hcons : chars? (.half n :: cs) = none := List.mapM_cons
          rw [hcons]
          cases ds with
          | nil => simp
          | cons d ds => simp

namespace Text

theorem string?_eq_some_iff {t : Text} {s : String} : t.string? = some s ↔ t = s := by
  rw [string?, Option.map_eq_some_iff]
  constructor
  · rintro ⟨ds, hds, rfl⟩
    rw [← toList_inj, Code.chars?_eq_some_iff.mp hds, toList_ofString, String.toList_ofList]
  · rintro rfl
    exact ⟨s.toList, Code.chars?_eq_some_iff.mpr rfl, String.ofList_toList⟩

@[simp] theorem hasHalf_ofString (s : String) : (ofString s).hasHalf = false := by
  rw [hasHalf, toList_ofString, List.any_map]
  exact List.any_eq_false.mpr fun c _ => Bool.false_ne_true

@[simp] theorem hasHalf_append (s t : Text) : (s ++ t).hasHalf = (s.hasHalf || t.hasHalf) :=
  List.any_append

theorem exists_string_of_hasHalf_eq_false {t : Text} (h : t.hasHalf = false) :
    ∃ s : String, t = s := by
  obtain ⟨cs⟩ := t
  induction cs with
  | nil => exact ⟨"", rfl⟩
  | cons c cs ih =>
      obtain ⟨hc, hcs⟩ := Bool.or_eq_false_iff.mp h
      obtain ⟨s, hs⟩ := ih hcs
      cases c with
      | char c =>
          refine ⟨.ofList (c :: s.toList), ?_⟩
          rw [← toList_inj, toList_ofString, String.toList_ofList, List.map_cons]
          exact congrArg (Code.char c :: ·) (toList_inj.mpr hs)
      | half n => cases hc

namespace Utf8

/-- The first halves of a text: characters stand before them, and no half right behind them. -/
structure Unencodable.FirstIn (u : Unencodable) (t : Text) : Prop where
  exists_cut : ∃ sound rest, t.toList = sound ++ (u.halves ++ rest) ∧ sound.length = u.position ∧
    (∀ c ∈ sound, c.isHalf = false) ∧ ∀ c, rest.head? = some c → c.isHalf = false
  nonempty : u.halves ≠ []
  all_half : ∀ c ∈ u.halves, c.isHalf = true

/-- A text with a half in it is refused. -/
theorem encode_of_hasHalf {t : Text} (h : t.hasHalf = true) :
    ∃ u, encode t = .error u ∧ u.FirstIn t := by
  have hnone : t.string? = none := by
    rw [Option.eq_none_iff_forall_ne_some]
    intro s hs
    rw [string?_eq_some_iff.mp hs, hasHalf_ofString] at h
    cases h
  refine ⟨_, by rw [encode, hnone], ?_, ?_, List.all_eq_true.mp List.all_takeWhile⟩
  · refine ⟨t.toList.takeWhile (!·.isHalf),
      (t.toList.dropWhile (!·.isHalf)).dropWhile (·.isHalf), ?_, rfl,
      fun c hc => ?_, fun c hc => ?_⟩
    · rw [List.takeWhile_append_dropWhile, List.takeWhile_append_dropWhile]
    · exact (Bool.not_eq_true' _).mp (List.all_eq_true.mp List.all_takeWhile c hc)
    · have hhead := List.head?_dropWhile_not (·.isHalf) (t.toList.dropWhile (!·.isHalf))
      rwa [hc] at hhead
  · have hhead := List.head?_dropWhile_not (!·.isHalf) t.toList
    cases hrest : t.toList.dropWhile (!·.isHalf) with
    | nil =>
        obtain ⟨c, hc, hhalf⟩ := List.any_eq_true.mp h
        have hsound := List.dropWhile_eq_nil_iff.mp hrest c hc
        rw [hhalf] at hsound
        cases hsound
    | cons c rest =>
        rw [hrest] at hhead
        rw [List.takeWhile_cons_of_pos ((Bool.not_eq_false' _).mp hhead)]
        exact List.cons_ne_nil c _

/-- **A text is encoded as the string of its characters, or a half is in it and it is refused.** -/
theorem encode_cases (t : Text) :
    (∃ s : String, t = s ∧ encode t = .ok s) ∨
      t.hasHalf = true ∧ ∃ u, encode t = .error u ∧ u.FirstIn t := by
  cases h : t.hasHalf with
  | true => exact Or.inr ⟨rfl, encode_of_hasHalf h⟩
  | false =>
      obtain ⟨s, rfl⟩ := exists_string_of_hasHalf_eq_false h
      exact Or.inl ⟨s, rfl, by rw [encode, string?_eq_some_iff.mpr rfl]⟩

end Utf8

theorem hasHalf_intercalate {between : Text} (h : between.hasHalf = false) (ts : List Text) :
    (intercalate between ts).hasHalf = ts.any hasHalf := by
  induction ts with
  | nil => rfl
  | cons t ts ih =>
      cases ts with
      | nil => exact (Bool.or_false _).symm
      | cons u ts =>
          rw [intercalate_cons_cons, hasHalf_append, hasHalf_append, h, Bool.or_false, ih]
          rfl

end Text

/-! ## Written values -/

namespace Json

open Text

mutual

/-- The texts in a value: those that are values, and the names of members. -/
def texts : Json → List Text
  | .text s => [s]
  | .array items => itemTexts items
  | .object members => memberTexts members

def itemTexts : List Json → List Text
  | [] => []
  | v :: vs => texts v ++ itemTexts vs

def memberTexts : List (Text × Json) → List Text
  | [] => []
  | (name, v) :: rest => name :: texts v ++ memberTexts rest

end

/-- What is escaped is a character, and so is what stands for it. -/
theorem any_isHalf_escapeChar (c : Code) : (escapeChar c).any Code.isHalf = c.isHalf := by
  have hcontrol : ∀ n < 0x20, (hexPadded 4 n).any Code.isHalf = false := by decide
  unfold escapeChar
  split
  · rfl
  · rfl
  · rfl
  · rfl
  · rfl
  · rfl
  · rfl
  · split
    · next hlow =>
        rw [List.any_cons, List.any_cons, hcontrol _ hlow]
        cases c with
        | char c => rfl
        | half n =>
            simp only [Code.toNat, Code.firstHalf] at hlow
            omega
    · exact Bool.or_false _

theorem hasHalf_quote (s : Text) : (quote s).hasHalf = s.hasHalf := by
  rw [quote, hasHalf, toList_ofList, List.any_append, List.any_cons, List.any_flatMap]
  simp only [any_isHalf_escapeChar]
  exact Bool.or_false _

theorem hasHalf_lineStart (level : Nat) : (lineStart level).hasHalf = false := by
  rw [lineStart, hasHalf_append, hasHalf_ofString, Bool.false_or, hasHalf, toList_ofList]
  refine List.any_eq_false.mpr fun c hc => ?_
  rw [List.eq_of_mem_replicate hc]
  exact Bool.false_ne_true

theorem hasHalf_enclosed {opening closing : Text} (hopening : opening.hasHalf = false)
    (hclosing : closing.hasHalf = false) (level : Nat) (lines : List Text) :
    (enclosed opening closing level lines).hasHalf = lines.any hasHalf := by
  have hbetween : ("," ++ lineStart (level + 1)).hasHalf = false := by
    rw [hasHalf_append, hasHalf_ofString, hasHalf_lineStart, Bool.or_false]
  rw [enclosed]
  cases lines with
  | nil =>
      rw [if_pos List.isEmpty_nil, hasHalf_append, hopening, hclosing]
      rfl
  | cons line lines =>
      rw [if_neg (by simp)]
      simp only [hasHalf_append, hasHalf_intercalate hbetween, hasHalf_lineStart, hopening,
        hclosing, Bool.false_or, Bool.or_false]

mutual

theorem hasHalf_render (level : Nat) (v : Json) :
    (render level v).hasHalf = v.texts.any hasHalf := by
  cases v with
  | text s => rw [render, texts, hasHalf_quote, List.any_cons, List.any_nil, Bool.or_false]
  | array items =>
      rw [render, texts, hasHalf_enclosed rfl rfl, any_hasHalf_renderItems]
  | object members =>
      rw [render, texts, hasHalf_enclosed rfl rfl, any_hasHalf_renderMembers]

theorem any_hasHalf_renderItems (level : Nat) (items : List Json) :
    (renderItems level items).any hasHalf = (itemTexts items).any hasHalf := by
  cases items with
  | nil => rfl
  | cons v items =>
      rw [renderItems, itemTexts, List.any_cons, List.any_append, hasHalf_render,
        any_hasHalf_renderItems]

theorem any_hasHalf_renderMembers (level : Nat) (members : List (Text × Json)) :
    (renderMembers level members).any hasHalf = (memberTexts members).any hasHalf := by
  cases members with
  | nil => rfl
  | cons m members =>
      obtain ⟨name, v⟩ := m
      rw [renderMembers, memberTexts, List.any_cons, List.any_append, List.any_cons, hasHalf_append,
        hasHalf_append, hasHalf_quote, hasHalf_ofString, Bool.or_false, hasHalf_render,
        any_hasHalf_renderMembers]

end

/-- **The text of a value has a half exactly if a text in the value has one.** -/
theorem hasHalf_toText (v : Json) : v.toText.hasHalf = v.texts.any hasHalf :=
  hasHalf_render 0 v

end Json

/-! ## Snippets -/

theorem Text.hasHalf_eq_false_iff {t : Text} :
    t.hasHalf = false ↔ ∀ c ∈ t.toList, c.isHalf = false := by
  simp [Text.hasHalf]

/-- The small form of a character is made of characters. -/
theorem isHalf_of_mem_lowerChar {c d : Code} (h : c.isHalf = false) (hd : d ∈ Text.lowerChar c) :
    d.isHalf = false := by
  have hruns : ∀ r ∈ Text.lowerRuns, r.target + (r.last - r.first) < 0xD800 ∨
      0xDFFF < r.target := by decide +kernel
  unfold Text.lowerChar at hd
  split at hd
  · obtain rfl := List.mem_singleton.mp hd
    cases c with
    | char c => rfl
    | half n => cases h
  · split at hd
    · rcases List.mem_pair.mp hd with rfl | rfl
      · rfl
      · rfl
    · split at hd
      · next n hn =>
          obtain rfl := List.mem_singleton.mp hd
          obtain ⟨r, hr, himage⟩ := List.exists_of_findSome?_eq_some hn
          obtain ⟨hfirst, hlast, -, htarget⟩ := CaseRun.image?_eq_some_iff.mp himage
          have hbounds := hruns r hr
          rw [Code.ofNat, dif_neg (by simp only [Code.firstHalf]; omega)]
          rfl
      · rwa [List.mem_singleton.mp hd]

theorem isHalf_of_mem_lowerAfter {before cs : List Code} (h : ∀ c ∈ cs, c.isHalf = false) {d : Code}
    (hd : d ∈ Text.lowerAfter before cs) : d.isHalf = false := by
  induction cs generalizing before with
  | nil => cases hd
  | cons c cs ih =>
      obtain ⟨hc, hcs⟩ := List.forall_mem_cons.mp h
      rw [Text.lowerAfter] at hd
      rcases List.mem_append.mp hd with hd | hd
      · split at hd
        · rw [List.mem_singleton.mp hd]
          rfl
        · exact isHalf_of_mem_lowerChar hc hd
      · exact ih hcs hd

theorem hasHalf_phraseOf {name : Text} (h : name.hasHalf = false) :
    (phraseOf name).hasHalf = false := by
  rw [Text.hasHalf_eq_false_iff] at h ⊢
  intro d hd
  refine isHalf_of_mem_lowerAfter (fun c hc => ?_) hd
  have hmem : c ∈ spaced name.toList :=
    ((List.dropWhile_suffix _).sublist.mem)
      (List.mem_reverse.mp ((List.dropWhile_suffix _).sublist.mem (List.mem_reverse.mp hc)))
  rcases mem_spaced hmem with rfl | hmem
  · rfl
  · exact h c hmem

/-- All code points of a key are characters, so it has an encoding. -/
theorem ActionKey.hasHalf_text (k : ActionKey) : k.text.hasHalf = false := by
  obtain ⟨c, cs, hk, -, hall⟩ := isActionKey_cases k.valid
  rw [Text.hasHalf_eq_false_iff, hk]
  intro d hd
  cases d with
  | char d => rfl
  | half n => cases hall _ hd

@[simp] theorem Action.hasHalf_phrase (a : Action) : a.phrase.hasHalf = false :=
  hasHalf_phraseOf a.key.hasHalf_text

namespace Snippet

open Text

@[simp] theorem hasHalf_braced (s : Text) : (braced s).hasHalf = s.hasHalf := by
  rw [braced, hasHalf_append, hasHalf_append]
  exact Bool.or_false _

@[simp] theorem hasHalf_placeholder (stop : Int) (default : Text) :
    (placeholder stop default).hasHalf = default.hasHalf := by
  simp [placeholder]

/-- A backslash is put before some characters of an option, and nothing else. -/
theorem any_isHalf_escapeOption (option : List Code) :
    (escapeOption option).any Code.isHalf = option.any Code.isHalf := by
  induction option with
  | nil => rfl
  | cons c cs ih =>
      rw [escapeOption]
      split
      · rw [List.any_cons, List.any_cons, List.any_cons, ih]
        rfl
      · rw [List.any_cons, List.any_cons, ih]

theorem any_isHalf_optionChars (options : List Text) :
    (optionChars options).any Code.isHalf = options.any hasHalf := by
  induction options with
  | nil => rfl
  | cons s options ih =>
      cases options with
      | nil =>
          rw [optionChars, any_isHalf_escapeOption, List.any_cons, List.any_nil, Bool.or_false,
            hasHalf]
      | cons t options =>
          rw [optionChars, List.any_append, List.any_cons, any_isHalf_escapeOption, ih]
          rfl

@[simp] theorem hasHalf_choice (stop : Int) (options : List Text) :
    (choice stop options).hasHalf = options.any hasHalf := by
  have hoptions : (Text.ofList (optionChars options)).hasHalf = options.any hasHalf :=
    any_isHalf_optionChars options
  simp [choice, hoptions]

/-- A snippet has a half in what is written of it to a snippet file. -/
def hasHalf (x : Snippet) : Bool :=
  x.name.hasHalf || x.template.hasHalf || x.documentation.hasHalf

/-- The texts of a catalog that go into its snippets. The keys of its actions do as well, but have
no halves. -/
def lenders (s : Snapshot) : List Text :=
  s.actions.flatMap (fun a => a.description :: a.verb :: a.aliases) ++
    (s.locators.map (·.literal) ++ s.attributes.map (·.key))

theorem any_hasHalf_sorted (texts : List Text) :
    (sorted texts).any Text.hasHalf = texts.any Text.hasHalf :=
  (List.mergeSort_perm texts textBefore).any_eq

/-- A part without halves. -/
def Part.Sound (p : Part) : Prop :=
  p.name.hasHalf = false ∧ p.text.hasHalf = false

theorem Part.Sound.append {p q : Part} (hp : p.Sound) (hq : q.Sound) : (p.append q).Sound := by
  simp [Part.append, Part.Sound, hp.1, hp.2, hq.1, hq.2]

theorem sound_of_mem_chain {ps : List Part} (hps : ∀ p ∈ ps, p.Sound) {start p : Part}
    (hstart : start.Sound) (hp : p ∈ chain start ps) : p.Sound := by
  induction ps generalizing start with
  | nil => rwa [List.mem_singleton.mp hp]
  | cons q ps ih =>
      obtain ⟨hq, hps⟩ := List.forall_mem_cons.mp hps
      rcases List.mem_cons.mp hp with rfl | hp
      · exact hstart
      · exact ih hps (hstart.append hq) hp

theorem hasHalf_actionFragment {a : Action} (h : ∀ name ∈ a.aliases, name.hasHalf = false) :
    (actionFragment a).hasHalf = false := by
  have hnames : (aliasPhrases a).any Text.hasHalf = false := by
    rw [aliasPhrases, any_hasHalf_sorted, List.any_map, List.any_eq_false]
    intro name hname
    rw [Function.comp_apply, hasHalf_phraseOf (h name hname)]
    exact Bool.false_ne_true
  rw [actionFragment]
  split
  · exact a.hasHalf_phrase
  · rw [hasHalf_braced, hasHalf_choice, List.any_cons, a.hasHalf_phrase, hnames]
    rfl

theorem sound_of_mem_seeds {a : Action} (h : ∀ name ∈ a.aliases, name.hasHalf = false) {p : Part}
    (hp : p ∈ seeds a) : p.Sound := by
  rcases List.mem_cons.mp hp with rfl | hp
  · simp [Part.Sound, hasHalf_actionFragment h, argumentFragment]
  · split at hp
    · rw [List.mem_singleton.mp hp]
      simp [Part.Sound, hasHalf_actionFragment h, flagsFragment]
    · cases hp

theorem sound_of_mem_parts {choices : Choices} {a : Action} (hverb : a.verb.hasHalf = false)
    (hlocators : choices.locators.any Text.hasHalf = false)
    (hattributes : choices.attributes.any Text.hasHalf = false) {p : Part}
    (hp : p ∈ parts choices a) : p.Sound := by
  obtain ⟨addition, haddition, rfl⟩ := List.mem_map.mp hp
  have hmem := (List.mem_filter.mp haddition).1
  simp only [additions, List.mem_cons, List.not_mem_nil, or_false] at hmem
  rcases hmem with rfl | rfl | rfl
  · simp [Part.Sound, elementFragment, hverb, hlocators]
  · simp [Part.Sound, attributeFragment, hattributes]
  · simp [Part.Sound, regexFragment]

/-- **The snippets of a catalog without halves have none.** -/
theorem hasHalf_of_mem_compose {s : Snapshot} (h : ∀ t ∈ lenders s, t.hasHalf = false) {x : Snippet}
    (hx : x ∈ compose s) : x.hasHalf = false := by
  obtain ⟨hactions, hchoices⟩ := List.forall_mem_append.mp h
  obtain ⟨hlocators, hattributes⟩ := List.forall_mem_append.mp hchoices
  have hany : ∀ {texts : List Text}, (∀ t ∈ texts, t.hasHalf = false) →
      (sorted (sorted texts)).any Text.hasHalf = false := by
    intro texts htexts
    rw [any_hasHalf_sorted, any_hasHalf_sorted, List.any_eq_false]
    exact fun t ht => ne_of_eq_of_ne (htexts t ht) Bool.false_ne_true
  obtain ⟨a, ha, hx⟩ := List.mem_flatMap.mp (mem_of_mem_deduplicate hx)
  obtain ⟨hdescription, hown⟩ := List.forall_mem_cons.mp (List.forall_mem_flatMap.mp hactions a ha)
  obtain ⟨hverb, haliases⟩ := List.forall_mem_cons.mp hown
  obtain ⟨start, hstart, hx⟩ := List.mem_flatMap.mp hx
  obtain ⟨p, hp, rfl⟩ := List.mem_map.mp (mem_of_mem_deduplicate hx)
  have hparts : ∀ q ∈ parts (.ofCatalog s) a, q.Sound :=
    fun q hq => sound_of_mem_parts hverb (hany hlocators) (hany hattributes) hq
  obtain ⟨hname, htext⟩ := sound_of_mem_chain hparts (sound_of_mem_seeds haliases hstart) hp
  simp [hasHalf, ofPart, hname, htext, hdescription]

end Snippet

end Actionary
