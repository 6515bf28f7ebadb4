import Actionary.Proofs.OfferedFlags
import Actionary.Proofs.Resolution

/-!
# Flags of an action that is written by its literal

A line that holds a literal and an opened list of flags, with the cursor behind the dashes of a
flag. The conditions on the list and the cursor hold there whatever the literal is
(`listOpen_flagLine`, `introduced_flagLine`), and so does the condition that the literal is on the
line. What decides is recognition: it goes by the phrases of the catalog and does not know literals,
so the flags are those of the action that the literal alone is resolved to (`resolve?_flagLine`),
which is the action with that literal only if the literal writes its phrase.
-/

namespace Actionary

open Actionary.Text Actionary.Pattern

/-! ## Behind the last word -/

theorem startsWith_append_noWord {tail : List Code} (h : ∀ c ∈ tail, isWord c = false)
    (cs : List Code) : startsWith isWord (cs ++ tail) = startsWith isWord cs := by
  cases cs with
  | cons c cs => rfl
  | nil =>
      cases tail with
      | nil => rfl
      | cons c tail => exact h c List.mem_cons_self

/-- A text without word characters behind a line adds no occurrence of a phrase. -/
theorem ActionKey.occursAt_append_iff (k : ActionKey) {line tail text : List Code} {index : Nat}
    (h : ∀ c ∈ tail, isWord c = false) :
    OccursAt k.phrase (line ++ tail) index text ↔ OccursAt k.phrase line index text := by
  have hsame : ∀ {before after : List Code}, Spelled (words k.phrase.toList) text →
      (Occurs k.phrase before text (after ++ tail) ↔ Occurs k.phrase before text after) := by
    intro before after hspelled
    have hne := (hspelled.startsWith_isWord k.plainWords_phrase).1
    have hstart : startsWith isWord (text ++ (after ++ tail)) =
        startsWith isWord (text ++ after) := by
      rw [startsWith_append hne, startsWith_append hne]
    have hstop := startsWith_append_noWord h after
    constructor
    · rintro ⟨-, hstarts, hstops⟩
      exact ⟨hspelled, by rwa [WordBoundary, hstart] at hstarts,
        by rwa [WordBoundary, hstop] at hstops⟩
    · rintro ⟨-, hstarts, hstops⟩
      exact ⟨hspelled, by rwa [WordBoundary, hstart], by rwa [WordBoundary, hstop]⟩
  constructor
  · rintro ⟨before, after, hline, rfl, hoccurs⟩
    have hne := (hoccurs.spelled.startsWith_isWord k.plainWords_phrase).1
    have hends : endsInWord (before ++ text) = true := by
      rw [endsInWord_append hne, hoccurs.spelled.endsInWord_eq_true k.plainWords_phrase]
    rw [← List.append_assoc] at hline
    -- The phrase ends in a word character, so it does not reach into the tail.
    rcases List.append_eq_append_iff.mp hline with ⟨reach, hreach, htail⟩ | ⟨after', rfl, rfl⟩
    · have hnil : reach = [] := by
        by_contra hreachne
        rw [hreach, endsInWord_append hreachne, endsInWord,
          List.getLast?_eq_some_getLast hreachne] at hends
        have hmem : reach.getLast hreachne ∈ tail := by
          rw [htail]
          exact List.mem_append_left _ (List.getLast_mem hreachne)
        exact absurd hends (by simp [h _ hmem])
      subst hnil
      rw [List.nil_append] at htail
      subst htail
      refine ⟨before, [], ?_, rfl, (hsame hoccurs.spelled).mp hoccurs⟩
      rw [List.append_nil, hreach, List.append_nil]
    · exact ⟨before, after', List.append_assoc .., rfl, (hsame hoccurs.spelled).mp hoccurs⟩
  · rintro ⟨before, after, rfl, rfl, hoccurs⟩
    exact ⟨before, after ++ tail, by simp only [List.append_assoc], rfl,
      (hsame hoccurs.spelled).mpr hoccurs⟩

namespace Recognizer

variable {s : Snapshot}

/-- What is found on a line is told by the occurrences of phrases on it: on lines with the same
occurrences it is the same text. -/
theorem find?_ofCatalog_text_eq {line line' : List Code} {f f' : Found}
    (hsame : ∀ a ∈ s.actions, ∀ index text,
      OccursAt a.phrase line index text ↔ OccursAt a.phrase line' index text)
    (hf : (ofCatalog s).find? line = some f) (hf' : (ofCatalog s).find? line' = some f') :
    f.text = f'.text := by
  obtain ⟨hfirst, a, ha, before, after, hline, hstart, hfound, hlongest⟩ :=
    find?_ofCatalog_eq_some hf
  obtain ⟨hfirst', a', ha', before', after', hline', hstart', hfound', hlongest'⟩ :=
    find?_ofCatalog_eq_some hf'
  have hat : OccursAt a.phrase line' f.start f.text :=
    (hsame a ha _ _).mp ⟨before, after, hline, hstart, hfound⟩
  have hat' : OccursAt a'.phrase line f'.start f'.text :=
    (hsame a' ha' _ _).mpr ⟨before', after', hline', hstart', hfound'⟩
  have hstarts : f.start = f'.start :=
    Nat.le_antisymm (hfirst a' ha' _ _ hat') (hfirst' a ha _ _ hat)
  -- Each of the two phrases occurs on both lines at that place, so neither has fewer words.
  obtain ⟨front, back, hcut, hfront, hoccurs⟩ := hat
  obtain ⟨front', back', hcut', hfront', hoccurs'⟩ := hat'
  obtain ⟨rfl, hback⟩ := List.append_inj (hline'.symm.trans hcut) (by omega)
  obtain ⟨rfl, hback'⟩ := List.append_inj (hline.symm.trans hcut') (by omega)
  obtain ⟨hle, htext⟩ := Occurs.words_length_le (k := a.key) (l := a'.key) hfound hoccurs' hback'
    (hlongest a' ha' _ _ hback' hoccurs')
  obtain ⟨hge, -⟩ := Occurs.words_length_le (k := a'.key) (l := a.key) hfound' hoccurs hback
    (hlongest' a ha _ _ hback hoccurs)
  exact (htext (Nat.le_antisymm hle hge)).symm

theorem resolve?_ofCatalog_congr {line line' : Text}
    (hsame : ∀ a ∈ s.actions, ∀ index text,
      OccursAt a.phrase line.toList index text ↔ OccursAt a.phrase line'.toList index text) :
    (ofCatalog s).resolve? s line = (ofCatalog s).resolve? s line' := by
  have hnone : (ofCatalog s).find? line.toList = none ↔
      (ofCatalog s).find? line'.toList = none := by
    rw [find?_ofCatalog_eq_none_iff, find?_ofCatalog_eq_none_iff]
    exact forall₂_congr fun a ha => forall₂_congr fun index text =>
      not_congr (hsame a ha index text)
  rw [resolve?, resolve?, key?, key?]
  cases hf : (ofCatalog s).find? line.toList with
  | none => rw [hnone.mp hf]
  | some f =>
      cases hf' : (ofCatalog s).find? line'.toList with
      | none => exact absurd (hnone.mpr hf') (by simp [hf])
      | some f' => simp only [find?_ofCatalog_text_eq hsame hf hf']

end Recognizer

/-! ## The line of a literal -/

/-- What follows a literal where a flag is started: an opened list and two dashes. -/
def flagStart : List Code := [.char ' '] ++ (openMark ++ introducer)

/-- A literal with a started flag. -/
def flagLine (literal : Text) : Text :=
  Text.ofList (literal.toList ++ flagStart)

theorem toList_flagLine (literal : Text) :
    (flagLine literal).toList = literal.toList ++ flagStart :=
  Text.toList_ofList _

variable {a : Action} {flag literal : Text}

theorem take_flagLine (literal : Text) :
    (flagLine literal).toList.take (flagLine literal).length = literal.toList ++ flagStart := by
  rw [← Text.length_toList, List.take_length, toList_flagLine]

theorem listOpen_flagLine :
    FlagContext.listOpen ⟨a, flag, flagLine literal, (flagLine literal).length⟩ = true := by
  rw [FlagContext.listOpen, Text.before_natCast, take_flagLine, search_startedFlagPattern_iff]
  refine ⟨literal.toList ++ [.char ' '], [' '], [], [], (List.append_assoc ..).symm,
    List.cons_ne_nil _ _, ?_, rfl, List.not_mem_nil⟩
  exact List.all_eq_true.mp (by decide)

theorem introduced_flagLine :
    FlagContext.introduced ⟨a, flag, flagLine literal, (flagLine literal).length⟩ = true := by
  rw [FlagContext.introduced_iff, take_flagLine, flagStart, ← List.append_assoc,
    ← List.append_assoc]
  exact ⟨Nat.le_refl _, List.suffix_append _ _⟩

/-- The literal itself is on its line, at the start and so behind no quote. -/
theorem inScope_flagLine (a : Action) (flag : Text) (column : Int) :
    FlagContext.inScope ⟨a, flag, flagLine a.literal, column⟩ = true := by
  have hforms : Forms a.literal.toList a.literal.toList := by
    rw [Forms, List.forall₂_same]
    intro c _
    rw [sameLetter, BEq.rfl]
  rw [FlagContext.inScope, toList_flagLine, search_unquoted_iff]
  exact ⟨[], a.literal.toList, flagStart, rfl, hforms, by simp⟩

/-- Recognition sees nothing behind the literal. -/
theorem resolve?_flagLine (s : Snapshot) (literal : Text) :
    (Recognizer.ofCatalog s).resolve? s (flagLine literal) =
      (Recognizer.ofCatalog s).resolve? s literal := by
  have hall : flagStart.all (!isWord ·) = true := by decide
  have htail : ∀ c ∈ flagStart, isWord c = false := by simpa using hall
  apply Recognizer.resolve?_ofCatalog_congr
  intro b _ index text
  rw [toList_flagLine]
  exact b.key.occursAt_append_iff htail

/-! ## The flags that are offered -/

/-- Whether the literal of an action is on a line, and not right after a quote. -/
def Action.isWrittenOn (a : Action) (line : Text) : Bool :=
  ((unquoted a.literal.toList).search line.toList).isSome

/-- The flags offered behind the dashes in a document that is the line of a literal. -/
def offeredByLiteral (s : Snapshot) (sectionName literal : Text) : List OfferedFlag :=
  offeredFlagsAt FlagCondition.all ⟨s, none, sectionName⟩ ⟨[flagLine literal]⟩
    ⟨0, (flagLine literal).length⟩

theorem offeredFlags_flagLine (b : Action) (literal : Text) :
    offeredFlags FlagCondition.all b (flagLine literal) (flagLine literal).length =
      if b.isWrittenOn (flagLine literal) then b.offered else [] := by
  have hconditions : FlagCondition.all.all
      (·.holds ⟨b, "", flagLine literal, (flagLine literal).length⟩) =
        b.isWrittenOn (flagLine literal) := by
    simp only [FlagCondition.all, List.all_cons, List.all_nil, FlagCondition.holds,
      listOpen_flagLine, introduced_flagLine, Bool.and_true]
    rfl
  rw [offeredFlags_eq _ b "", hconditions]

/-- The flags on the line of a literal are those of the action that the literal is resolved to. -/
theorem offeredByLiteral_eq (s : Snapshot) (sectionName literal : Text) :
    offeredByLiteral s sectionName literal =
      match (Recognizer.ofCatalog s).resolve? s literal with
      | none => []
      | some b => if b.isWrittenOn (flagLine literal) then b.offered else [] := by
  have hline : Document.lineAt? ⟨[flagLine literal]⟩ ⟨0, (flagLine literal).length⟩ =
      some (flagLine literal) := rfl
  have hrecognizer : Config.recognizer ⟨s, none, sectionName⟩ = .ofCatalog s := rfl
  rw [offeredByLiteral, offeredFlagsAt, hline]
  simp only [hrecognizer, resolve?_flagLine]
  cases (Recognizer.ofCatalog s).resolve? s literal with
  | none => rfl
  | some b => exact offeredFlags_flagLine b literal

theorem Action.offered_inj {a b : Action} : a.offered = b.offered ↔ a.flags = b.flags := by
  have hmk : Function.Injective fun e : Text × Text => OfferedFlag.mk e.1 e.2 := by
    rintro ⟨name, text⟩ ⟨name', text'⟩ h
    obtain ⟨rfl, rfl⟩ := OfferedFlag.mk.inj h
    rfl
  constructor
  · intro h
    have hentries := hmk.list_map h
    cases ha : a.flags
    cases hb : b.flags
    rw [ha, hb] at hentries
    cases hentries
    rfl
  · intro h
    rw [Action.offered, h, Action.offered]

/-- The literal alone is resolved to an action that is written on its line. -/
def RecognizedBy (s : Snapshot) (literal : Text) (b : Action) : Prop :=
  (Recognizer.ofCatalog s).resolve? s literal = some b ∧ b.isWrittenOn (flagLine literal) = true

/-- The flags of an action are offered exactly if an action is recognized and has the same flags; an
action without flags needs none to be recognized. -/
theorem offeredByLiteral_eq_offered_iff (s : Snapshot) (sectionName literal : Text) (a : Action) :
    offeredByLiteral s sectionName literal = a.offered ↔
      (a.flags.entries = [] ∨ ∃ b, RecognizedBy s literal b) ∧
        ∀ b, RecognizedBy s literal b → b.flags = a.flags := by
  have hnone : (∀ b, ¬ RecognizedBy s literal b) → offeredByLiteral s sectionName literal = [] := by
    intro h
    rw [offeredByLiteral_eq]
    cases hb : (Recognizer.ofCatalog s).resolve? s literal with
    | none => rfl
    | some b => exact if_neg fun hwritten => h b ⟨hb, hwritten⟩
  have hsome : ∀ b, RecognizedBy s literal b →
      offeredByLiteral s sectionName literal = b.offered := by
    intro b hb
    rw [offeredByLiteral_eq, hb.1]
    exact if_pos hb.2
  by_cases h : ∃ b, RecognizedBy s literal b
  · obtain ⟨b, hb⟩ := h
    have hunique : ∀ b', RecognizedBy s literal b' → b' = b := fun b' hb' =>
      Option.some.inj (hb'.1.symm.trans hb.1)
    rw [hsome b hb, Action.offered_inj]
    refine ⟨fun hflags => ⟨Or.inr ⟨b, hb⟩, fun b' hb' => ?_⟩, fun hall => hall.2 b hb⟩
    rw [hunique b' hb', hflags]
  · rw [hnone (not_exists.mp h), eq_comm, Action.offered_eq_nil_iff]
    refine ⟨fun hflags => ⟨Or.inl hflags, fun b hb => absurd ⟨b, hb⟩ h⟩, fun hall => ?_⟩
    exact hall.1.resolve_right h

/-- **An action that is written by its literal gets its flags exactly if the literal is recognized
as one that has them.** A literal that types the phrase of the action is; one on which no phrase of
the catalog occurs gets no flags at all. -/
theorem offeredByLiteral_own (s : Snapshot) (sectionName : Text) (a : Action) (ha : a ∈ s.actions)
    (hcapital : a.key.startsCapital = true) :
    (offeredByLiteral s sectionName a.literal = a.offered ↔
        (a.flags.entries = [] ∨ ∃ b, RecognizedBy s a.literal b) ∧
          ∀ b, RecognizedBy s a.literal b → b.flags = a.flags) ∧
      (Typed (words a.phrase.toList) a.literal.toList →
        offeredByLiteral s sectionName a.literal = a.offered) ∧
      ((∀ b ∈ s.actions, ∀ index text, ¬ OccursAt b.phrase a.literal.toList index text) →
        offeredByLiteral s sectionName a.literal = []) := by
  refine ⟨offeredByLiteral_eq_offered_iff s sectionName a.literal a, fun htyped => ?_,
    fun hnone => ?_⟩
  · have hresolve := Recognizer.resolve?_ofCatalog_of_typed ha hcapital htyped .nil
    rw [List.append_nil, Text.ofList_toList] at hresolve
    rw [offeredByLiteral_eq, hresolve]
    exact if_pos (inScope_flagLine a "" 0)
  · have hfind := (find?_ofCatalog_eq_none_iff s a.literal.toList).mpr hnone
    rw [offeredByLiteral_eq, Recognizer.resolve?, Recognizer.key?, hfind]

/-- An action with two flags that is written in a way of its own. -/
def clickOnAction (literal : Text) : Action where
  description := ""
  key := ⟨"ClickOn", by decide⟩
  verb := Action.defaultVerb
  literal := literal
  aliases := []
  capabilities := { flags := true }
  flags :=
    ⟨[("timeout", "Wait timeout in milliseconds."),
      ("retries", "Number of click attempts.")], by decide⟩
  source := ""

/-- The catalog of that action. -/
def clickOnCatalog (literal : Text) : Snapshot :=
  ⟨[clickOnAction literal], [], [], [], List.nodup_singleton _⟩

/-- A literal that types the phrase in its own way is enough. -/
theorem offeredByLiteral_typed_clickOn :
    clickOnAction "Click  ON" ∈ (clickOnCatalog "Click  ON").actions ∧
      offeredByLiteral (clickOnCatalog "Click  ON") defaultSection "Click  ON" =
        (clickOnAction "Click  ON").offered := by
  have hmem : clickOnAction "Click  ON" ∈ (clickOnCatalog "Click  ON").actions :=
    List.mem_singleton_self _
  have hwords : words (clickOnAction "Click  ON").phrase.toList =
      [Text.toList "click", Text.toList "on"] := by decide +kernel
  have htyped : Typed (words (clickOnAction "Click  ON").phrase.toList)
      (Text.toList "Click" ++ (Text.toList "  " ++ Text.toList "ON")) := by
    rw [hwords]
    exact .more (by decide) (by decide) (List.all_eq_true.mp (by decide)) (.one (by decide))
  exact ⟨hmem, (offeredByLiteral_own _ defaultSection _ hmem (by decide)).2.1 htyped⟩

/-- **A literal of another wording is not recognized**: the line holds it, and none of the flags is
offered. -/
theorem no_flags_for_other_literal :
    offeredByLiteral (clickOnCatalog "press") defaultSection "press" ≠
      (clickOnAction "press").offered := by
  decide +kernel

end Actionary
