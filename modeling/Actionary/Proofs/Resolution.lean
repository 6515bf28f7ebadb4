import Mathlib.Data.List.Nodup
import Actionary.Proofs.Recognition
import Actionary.Proofs.TypedPhrase

/-!
# Which action a line is about

A line is resolved through the key that is read from the phrase found on it. Two things follow from
what recognition finds and how keys are read back:

* a phrase typed at the start of a line, with no word behind it, is found as a whole, whatever other
  phrases the catalog has, and gives its action if the key starts with a capital
  (`Recognizer.resolve?_ofCatalog_of_typed`);
* an action whose key starts with a small letter is the action of no line, whatever the recognizer
  (`Recognizer.startsCapital_of_resolve?`).
-/

namespace Actionary

open Actionary.Text Actionary.Pattern

/-! ## Through the key -/

theorem Snapshot.find?_eq_some_iff {s : Snapshot} {key : Text} {a : Action} :
    s.find? key = some a ↔ a ∈ s.actions ∧ a.key.text = key := by
  rw [find?]
  constructor
  · intro h
    exact ⟨List.mem_of_find?_eq_some h, by simpa using List.find?_some h⟩
  · rintro ⟨ha, rfl⟩
    cases hfind : s.actions.find? (·.key.text == a.key.text) with
    | none => exact absurd (List.find?_eq_none.mp hfind a ha) (by simp)
    | some b =>
        have hkey : b.key.text = a.key.text := by simpa using List.find?_some hfind
        rw [List.inj_on_of_nodup_map s.distinct (List.mem_of_find?_eq_some hfind) ha
          (ActionKey.eq_of_text_eq hkey)]

namespace Recognizer

variable {s : Snapshot} {a : Action}

/-- A line is resolved to the action whose key is read from what is found on it. -/
theorem resolve?_eq_some_iff {r : Recognizer} {line : Text} :
    r.resolve? s line = some a ↔
      a ∈ s.actions ∧ ∃ f, r.find? line.toList = some f ∧ keyChars f.text = a.key.text.toList := by
  have hne : a.key.text.toList ≠ [] := by
    obtain ⟨c, cs, hk, -⟩ := isActionKey_cases a.key.valid
    rw [hk]
    exact List.cons_ne_nil _ _
  rw [resolve?, key?]
  cases r.find? line.toList with
  | none => simp
  | some f =>
      cases hkey : keyChars f.text with
      | nil => simp [hkey, hne.symm]
      | cons c cs =>
          simp only [hkey, Option.some.injEq, exists_eq_left', Snapshot.find?_eq_some_iff]
          rw [← Text.toList_inj, Text.toList_ofList, eq_comm (a := a.key.text.toList)]

/-- **An action that some line is about has a key that starts with a capital.** -/
theorem startsCapital_of_resolve? {r : Recognizer} {line : Text} (h : r.resolve? s line = some a) :
    a.key.startsCapital = true := by
  obtain ⟨-, f, -, hkey⟩ := resolve?_eq_some_iff.mp h
  cases hcapital : a.key.startsCapital with
  | true => rfl
  | false =>
      have hlower := ActionKey.startsWith_isLower_of_not_startsCapital hcapital
      rw [← hkey, startsWith_isLower_keyChars] at hlower
      exact absurd hlower (by decide)

end Recognizer

/-! ## A phrase at the start of a line -/

/-- No word follows, neither at once nor behind blanks. -/
structure NoWordNext (rest : List Code) : Prop where
  atOnce : startsWith isWord rest = false
  behindBlanks : startsWith isWord (rest.dropWhile isBlank) = false

theorem NoWordNext.nil : NoWordNext [] :=
  ⟨rfl, rfl⟩

theorem NoWordNext.brace {gap : List Code} (hne : gap ≠ []) (hgap : ∀ c ∈ gap, isBlank c = true)
    (more : List Code) : NoWordNext (gap ++ .char '{' :: more) where
  atOnce := Spelled.startsWith_isWord_gap hne hgap _
  behindBlanks := by
    rw [List.dropWhile_append_of_pos hgap]
    rfl

/-- Where no word follows a text that spells words, no more words are spelled. -/
theorem Spelled.length_le {ws vs : List (List Code)} {u x r r' : List Code} (h : Spelled ws u)
    (h' : Spelled vs x) (hws : PlainWords ws) (hvs : PlainWords vs) (hr : NoWordNext r)
    (heq : u ++ r = x ++ r') : vs.length ≤ ws.length := by
  --  Along the first spelling, as for `Spelled.words_prefix`; past its last word the other one must
  -- end too.
  induction h generalizing vs x with
  | @one w u hforms =>
      cases h' with
      | one _ => exact Nat.le_refl _
      | @more v x gap text vs hforms' hne hgap htail =>
          have hw := (hws w List.mem_cons_self).2
          obtain ⟨⟨-, hv⟩, hvs⟩ := List.forall_mem_cons.mp hvs
          rw [List.append_assoc, List.append_assoc] at heq
          obtain ⟨-, rfl⟩ :=
            cut_unique (isWord_of_forms hforms hw) (isWord_of_forms hforms' hv) hr.atOnce
            (startsWith_isWord_gap hne hgap _) heq
          obtain ⟨htext, hword⟩ := htail.startsWith_isWord hvs
          have hnext := hr.behindBlanks
          have hstop : (text ++ r').dropWhile isBlank = text ++ r' := by
            have hblank := htail.startsWith_isBlank hvs r'
            cases hcs : text ++ r' with
            | nil => rfl
            | cons c cs =>
                rw [hcs] at hblank
                exact List.dropWhile_cons_of_neg (by simpa [startsWith] using hblank)
          rw [List.dropWhile_append_of_pos hgap, hstop, startsWith_append htext, hword] at hnext
          exact absurd hnext (by decide)
  | @more w u gap text ws hforms hne hgap htail ih =>
      obtain ⟨⟨-, hw⟩, hws⟩ := List.forall_mem_cons.mp hws
      cases h' with
      | one _ =>
          rw [List.length_singleton, List.length_cons]
          omega
      | @more v x gap' text' vs hforms' hne' hgap' htail' =>
          obtain ⟨⟨-, hv⟩, hvs⟩ := List.forall_mem_cons.mp hvs
          rw [List.append_assoc, List.append_assoc, List.append_assoc, List.append_assoc] at heq
          obtain ⟨rfl, hgaps⟩ := cut_unique (isWord_of_forms hforms hw) (isWord_of_forms hforms' hv)
            (startsWith_isWord_gap hne hgap _) (startsWith_isWord_gap hne' hgap' _) heq
          obtain ⟨rfl, htexts⟩ := cut_unique hgap hgap' (htail.startsWith_isBlank hws r)
            (htail'.startsWith_isBlank hvs r') hgaps
          rw [List.length_cons, List.length_cons]
          exact Nat.succ_le_succ (ih htail' hws hvs htexts)

/-- Words that are spelled at the start of a line occur there if no word follows. -/
theorem ActionKey.occurs_of_spelled {k : ActionKey} {text rest : List Code}
    (h : Spelled (words k.phrase.toList) text) (hrest : startsWith isWord rest = false) :
    Occurs k.phrase [] text rest where
  spelled := h
  starts := by
    obtain ⟨hne, hword⟩ := h.startsWith_isWord k.plainWords_phrase
    rw [WordBoundary, startsWith_append hne, hword]
    decide
  stops := by
    rw [WordBoundary, List.nil_append, h.endsInWord_eq_true k.plainWords_phrase, hrest]
    decide

namespace Recognizer

variable {s : Snapshot} {a : Action}

/-- **A phrase at the start of a line is found as a whole if no word follows it**, whatever other
phrases the catalog has. -/
theorem find?_ofCatalog_of_spelled {text rest : List Code} (ha : a ∈ s.actions)
    (h : Spelled (words a.phrase.toList) text) (hrest : NoWordNext rest) :
    ∃ f, (ofCatalog s).find? (text ++ rest) = some f ∧ f.text = text := by
  have hoccurs : Occurs a.phrase [] text rest :=
    ActionKey.occurs_of_spelled (k := a.key) h hrest.atOnce
  have hat : OccursAt a.phrase (text ++ rest) 0 text := ⟨[], rest, rfl, rfl, hoccurs⟩
  cases hf : (ofCatalog s).find? (text ++ rest) with
  | none => exact absurd hat ((find?_ofCatalog_eq_none_iff s _).mp hf a ha 0 text)
  | some f =>
      refine ⟨f, rfl, ?_⟩
      obtain ⟨hfirst, b, hb, before, after, hline, hstart, hfound, hlongest⟩ :=
        find?_ofCatalog_eq_some hf
      obtain rfl : before = [] :=
        List.length_eq_zero_iff.mp (hstart.trans (Nat.le_zero.mp (hfirst a ha 0 text hat)))
      rw [List.nil_append] at hline
      --  The phrase that is found has as many words: the longest has no fewer, and no word follows
      -- the typed one.
      obtain ⟨hle, hsame⟩ :=
        Occurs.words_length_le (k := b.key) (l := a.key) hfound hoccurs hline.symm
        (hlongest a ha text rest hline.symm hoccurs)
      have hge :=
        h.length_le hfound.spelled a.key.plainWords_phrase b.key.plainWords_phrase hrest hline
      exact (hsame (Nat.le_antisymm hle hge)).symm

/-- A phrase typed at the start of a line gives its action, if its key starts with a capital and no
word follows. -/
theorem resolve?_ofCatalog_of_typed {text rest : List Code} (ha : a ∈ s.actions)
    (hcapital : a.key.startsCapital = true) (h : Typed (words a.phrase.toList) text)
    (hrest : NoWordNext rest) :
    (ofCatalog s).resolve? s (Text.ofList (text ++ rest)) = some a := by
  obtain ⟨f, hf, htext⟩ := find?_ofCatalog_of_spelled ha (h.spelled a.key.plainWords_phrase) hrest
  refine resolve?_eq_some_iff.mpr ⟨ha, f, by rwa [Text.toList_ofList], ?_⟩
  rw [htext, ActionKey.keyChars_of_typed (k := a.key) h, ActionKey.capitalized_eq_self hcapital]

/-- An action that takes nothing and is written as its phrase. -/
def bareAction (key : ActionKey) : Action where
  description := ""
  key := key
  verb := Action.defaultVerb
  literal := key.phrase
  aliases := []
  capabilities := {}
  flags := .empty
  source := ""

/-- A catalog of phrases that are parts of each other, two of them the same. -/
def overlapping : Snapshot :=
  ⟨[bareAction ⟨"Tap", by decide⟩, bareAction ⟨"tapOn2URL", by decide⟩,
    bareAction ⟨"On2", by decide⟩,
      bareAction ⟨"TapOn2URL", by decide⟩, bareAction ⟨"TapOn2URLAgain", by decide⟩],
    [], [], [], by decide⟩

/-- **A typed phrase gives its own action.** The words of the phrase may be typed in letters of
either case with any blanks between them; behind them the line ends, or blanks and a brace follow.
-/
theorem resolve?_typed_phrase (s : Snapshot) (a : Action) (ha : a ∈ s.actions)
    (hcapital : a.key.startsCapital = true) (text rest : List Code)
    (htext : Typed (words a.phrase.toList) text)
    (hrest : rest = [] ∨ ∃ gap more, gap ≠ [] ∧ (∀ c ∈ gap, isBlank c = true) ∧
      rest = gap ++ .char '{' :: more) :
    (ofCatalog s).resolve? s (Text.ofList (text ++ rest)) = some a := by
  apply resolve?_ofCatalog_of_typed ha hcapital htext
  rcases hrest with rfl | ⟨gap, more, hne, hgap, rfl⟩
  · exact .nil
  · exact .brace hne hgap more

/-- The phrase is told from its own parts, from a longer one and from that of a key in small
letters. -/
theorem resolve?_typed_phrase_in_overlapping :
    bareAction ⟨"TapOn2URL", by decide⟩ ∈ overlapping.actions ∧
      (ofCatalog overlapping).resolve? overlapping
        (Text.ofList (Text.toList "tAP \t oN2\u3000U r  L" ++
            .char ' ' :: .char '{' :: .char '{' :: Text.toList "$ --again")) =
          some (bareAction ⟨"TapOn2URL", by decide⟩) := by
  have hwords : words (bareAction ⟨"TapOn2URL", by decide⟩).phrase.toList =
      [Text.toList "tap", Text.toList "on2", Text.toList "u", Text.toList "r",
        Text.toList "l"] := by
    decide +kernel
  have htyped : Typed (words (bareAction ⟨"TapOn2URL", by decide⟩).phrase.toList)
      (Text.toList "tAP" ++ (Text.toList " \t " ++ (Text.toList "oN2" ++ (Text.toList "\u3000" ++
        (Text.toList "U" ++ (Text.toList " " ++ (Text.toList "r" ++
          (Text.toList "  " ++ Text.toList "L")))))))) := by
    rw [hwords]
    exact .more (by decide) (by decide) (List.all_eq_true.mp (by decide))
      (.more (by decide) (by decide) (List.all_eq_true.mp (by decide))
        (.more (by decide) (by decide) (List.all_eq_true.mp (by decide))
        (.more (by decide) (by decide) (List.all_eq_true.mp (by decide)) (.one (by decide)))))
  have hmem : bareAction ⟨"TapOn2URL", by decide⟩ ∈ overlapping.actions := by decide
  refine ⟨hmem, ?_⟩
  exact resolve?_typed_phrase overlapping _ hmem (by decide) _ _ htyped
    (Or.inr ⟨[.char ' '], .char '{' :: Text.toList "$ --again", by decide,
      List.all_eq_true.mp (by decide), by decide⟩)

/-! ## Actions that no line is about -/

/-- **The actions that a line can be about are those whose key starts with a capital.** -/
theorem exists_resolve?_iff (s : Snapshot) (a : Action) (ha : a ∈ s.actions) :
    (∃ line, (ofCatalog s).resolve? s line = some a) ↔ a.key.startsCapital = true := by
  constructor
  · rintro ⟨line, h⟩
    exact startsCapital_of_resolve? h
  · intro hcapital
    exact ⟨_, resolve?_ofCatalog_of_typed ha hcapital a.key.typed_phrase .nil⟩

theorem exists_resolve?_iff_in_overlapping :
    bareAction ⟨"On2", by decide⟩ ∈ overlapping.actions ∧
      ((∃ line, (ofCatalog overlapping).resolve? overlapping line =
          some (bareAction ⟨"On2", by decide⟩)) ↔
        (bareAction ⟨"On2", by decide⟩).key.startsCapital = true) := by
  have hmem : bareAction ⟨"On2", by decide⟩ ∈ overlapping.actions := by decide
  exact ⟨hmem, exists_resolve?_iff overlapping _ hmem⟩

/-- A catalog with one action, whose key starts with a small letter. -/
def smallClick : Snapshot :=
  ⟨[bareAction ⟨"click", by decide⟩], [], [], [], by decide⟩

/-- No line is about the action of the key `click`, though it has a phrase and is the only one. -/
theorem no_line_about_smallClick :
    ¬ ∃ line, (ofCatalog smallClick).resolve? smallClick line =
      some (bareAction ⟨"click", by decide⟩) := by
  rintro ⟨line, h⟩
  exact absurd (startsCapital_of_resolve? h) (by decide)

end Recognizer

end Actionary
