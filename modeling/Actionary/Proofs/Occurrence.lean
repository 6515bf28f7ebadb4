import Mathlib.Data.List.Forall2
import Actionary.Proofs.Letters

/-!
# Occurrences of a phrase

A phrase occurs on a line where its words are spelled in order, each letter in some form, with
blanks between the words and a word boundary at both ends. Words and blanks cut the line in one way
only, so of two phrases that occur at one place the words of one start with the words of the other
(`Occurs.words_prefix`), and the longer phrase is the one with more words
(`Occurs.words_length_le`).
-/

namespace Actionary

open Actionary.Text

/-- A text is a word with each letter in some form. -/
abbrev Forms (w u : List Code) : Prop :=
  List.Forall₂ (fun c d => sameLetter c d = true) w u

/-- A text spells words: the words in order, each letter in some form, with blanks between the
words. -/
inductive Spelled : List (List Code) → List Code → Prop
  | one {w u : List Code} : Forms w u → Spelled [w] u
  | more {w u gap text : List Code} {ws : List (List Code)} :
      Forms w u → gap ≠ [] → (∀ c ∈ gap, isBlank c = true) → Spelled ws text →
        Spelled (w :: ws) (u ++ (gap ++ text))

/-- Whether a text starts with a character of a class. -/
def startsWith (p : Code → Bool) (text : List Code) : Bool :=
  text.head?.any p

/-- Whether a text ends with a word character. -/
def endsInWord (text : List Code) : Bool :=
  text.getLast?.any isWord

/-- A word character stands on one side of a cut, and none on the other. -/
def WordBoundary (before after : List Code) : Prop :=
  endsInWord before ≠ startsWith isWord after

/-- A phrase occurs between what is before it and what is after it. -/
structure Occurs (phrase : Text) (before text after : List Code) : Prop where
  spelled : Spelled (words phrase.toList) text
  /-- A word starts here. -/
  starts : WordBoundary before (text ++ after)
  /-- A word ends here. -/
  stops : WordBoundary (before ++ text) after

/-- A phrase occurs on a line, as a text that starts at an index. -/
def OccursAt (phrase : Text) (line : List Code) (index : Nat) (text : List Code) : Prop :=
  ∃ before after, line = before ++ (text ++ after) ∧ before.length = index ∧
    Occurs phrase before text after

/-! ## One way to cut -/

/-- Characters of a class are cut from the rest in one way only. -/
theorem cut_unique {p : Code → Bool} {u u' r r' : List Code} (hu : ∀ c ∈ u, p c = true)
    (hu' : ∀ c ∈ u', p c = true) (hr : startsWith p r = false) (hr' : startsWith p r' = false)
    (h : u ++ r = u' ++ r') : u = u' ∧ r = r' := by
  have hstop : ∀ {r : List Code}, startsWith p r = false → r.takeWhile p = [] := by
    intro r hr
    cases r with
    | nil => rfl
    | cons c cs => exact List.takeWhile_cons_of_neg (by simpa [startsWith] using hr)
  have hcut := congrArg (List.takeWhile p) h
  rw [List.takeWhile_append_of_pos hu, List.takeWhile_append_of_pos hu', hstop hr, hstop hr',
    List.append_nil, List.append_nil] at hcut
  subst hcut
  exact ⟨rfl, List.append_cancel_left h⟩

theorem startsWith_append {p : Code → Bool} {u : List Code} (hu : u ≠ []) (r : List Code) :
    startsWith p (u ++ r) = startsWith p u := by
  cases u with
  | nil => exact absurd rfl hu
  | cons c cs => rfl

theorem startsWith_of_forall {p : Code → Bool} {u : List Code} (hu : u ≠ [])
    (h : ∀ c ∈ u, p c = true) : startsWith p u = true := by
  cases u with
  | nil => exact absurd rfl hu
  | cons c cs => exact h c List.mem_cons_self

theorem startsWith_dropWhile (p : Code → Bool) (text : List Code) :
    startsWith p (text.dropWhile p) = false := by
  have hhead := List.head?_dropWhile_not p text
  rw [startsWith]
  cases h : (text.dropWhile p).head? with
  | none => rfl
  | some c =>
      rw [h] at hhead
      exact hhead

theorem startsWith_of_disjoint {p q : Code → Bool} {u : List Code}
    (hpq : ∀ c, p c = true → q c = false) (h : startsWith p u = true) : startsWith q u = false := by
  cases u with
  | nil => rfl
  | cons c cs => exact hpq c h

theorem endsInWord_append {u r : List Code} (hr : r ≠ []) : endsInWord (u ++ r) = endsInWord r := by
  rw [endsInWord, List.getLast?_append_of_ne_nil _ hr, endsInWord]

/-! ## Words on a line -/

/-- The words of a phrase: none is empty, and all are made of plain characters. -/
def PlainWords (ws : List (List Code)) : Prop :=
  ∀ w ∈ ws, w ≠ [] ∧ ∀ c ∈ w, isPlain c = true

theorem ActionKey.plainWords_phrase (k : ActionKey) : PlainWords (words k.phrase.toList) :=
  fun _ hw => of_mem_words_phrase hw

theorem isWord_of_forms {w u : List Code} (h : Forms w u) (hw : ∀ c ∈ w, isPlain c = true) :
    ∀ d ∈ u, isWord d = true := by
  induction h with
  | nil => exact fun d hd => absurd hd List.not_mem_nil
  | cons hsame _ ih =>
      obtain ⟨hc, hw⟩ := List.forall_mem_cons.mp hw
      exact List.forall_mem_cons.mpr ⟨isWord_of_sameLetter hc hsame, ih hw⟩

/-- A text on a line is a form of one plain word only. -/
theorem eq_of_forms {w v u : List Code} (h : Forms w u) (h' : Forms v u)
    (hw : ∀ c ∈ w, isPlain c = true) (hv : ∀ c ∈ v, isPlain c = true) : w = v := by
  induction h generalizing v with
  | nil =>
      cases h'
      rfl
  | cons hsame _ ih =>
      cases h' with
      | cons hsame' htail =>
          obtain ⟨hc, hw⟩ := List.forall_mem_cons.mp hw
          obtain ⟨hc', hv⟩ := List.forall_mem_cons.mp hv
          rw [eq_of_sameLetter hc hc' hsame hsame', ih htail hw hv]

theorem ne_nil_of_forms {w u : List Code} (h : Forms w u) (hw : w ≠ []) : u ≠ [] := by
  cases h with
  | nil => exact absurd rfl hw
  | cons _ _ => exact List.cons_ne_nil _ _

namespace Spelled

theorem ne_nil {ws : List (List Code)} {u : List Code} (h : Spelled ws u) : ws ≠ [] := by
  cases h with
  | one _ => exact List.cons_ne_nil _ _
  | more _ _ _ _ => exact List.cons_ne_nil _ _

theorem startsWith_isWord {ws : List (List Code)} {u : List Code} (h : Spelled ws u)
    (hws : PlainWords ws) : u ≠ [] ∧ startsWith isWord u = true := by
  cases h with
  | one hforms =>
      obtain ⟨hne, hplain⟩ := hws _ List.mem_cons_self
      have hu := ne_nil_of_forms hforms hne
      exact ⟨hu, startsWith_of_forall hu (isWord_of_forms hforms hplain)⟩
  | more hforms _ _ _ =>
      obtain ⟨hne, hplain⟩ := hws _ List.mem_cons_self
      have hu := ne_nil_of_forms hforms hne
      refine ⟨List.append_ne_nil_of_left_ne_nil hu _, ?_⟩
      rw [startsWith_append hu]
      exact startsWith_of_forall hu (isWord_of_forms hforms hplain)

theorem endsInWord_eq_true {ws : List (List Code)} {u : List Code} (h : Spelled ws u)
    (hws : PlainWords ws) : endsInWord u = true := by
  induction h with
  | @one w u hforms =>
      obtain ⟨hne, hplain⟩ := hws _ List.mem_cons_self
      have hu := ne_nil_of_forms hforms hne
      rw [endsInWord, List.getLast?_eq_some_getLast hu]
      exact isWord_of_forms hforms hplain _ (List.getLast_mem hu)
  | more _ _ _ htail ih =>
      obtain ⟨-, hws⟩ := List.forall_mem_cons.mp hws
      have htext := (htail.startsWith_isWord hws).1
      rw [endsInWord_append (List.append_ne_nil_of_right_ne_nil _ htext), endsInWord_append htext]
      exact ih hws

theorem startsWith_isWord_gap {gap : List Code} (hne : gap ≠ [])
    (hgap : ∀ c ∈ gap, isBlank c = true)
    (text : List Code) : startsWith isWord (gap ++ text) = false := by
  rw [startsWith_append hne]
  exact startsWith_of_disjoint (fun _ => isWord_of_isBlank) (startsWith_of_forall hne hgap)

theorem startsWith_isBlank {ws : List (List Code)} {u : List Code} (h : Spelled ws u)
    (hws : PlainWords ws) (r : List Code) : startsWith isBlank (u ++ r) = false := by
  obtain ⟨hne, hword⟩ := h.startsWith_isWord hws
  rw [startsWith_append hne]
  refine startsWith_of_disjoint (fun c hc => ?_) hword
  cases hblank : isBlank c with
  | false => rfl
  | true => exact absurd hc (by rw [isWord_of_isBlank hblank]; decide)

/-- Two texts that start a line and end where a word ends spell words that start alike. -/
theorem words_prefix {ws vs : List (List Code)} {u x r r' : List Code} (h : Spelled ws u)
    (h' : Spelled vs x) (hws : PlainWords ws) (hvs : PlainWords vs)
    (hr : startsWith isWord r = false) (hr' : startsWith isWord r' = false)
    (heq : u ++ r = x ++ r') (hlength : ws.length ≤ vs.length) :
    ws <+: vs ∧ (ws.length = vs.length → u = x) := by
  -- Along the first spelling: a word is cut off the line, then the blanks behind it.
  induction h generalizing vs x with
  | @one w u hforms =>
      have hw := (hws w List.mem_cons_self).2
      cases h' with
      | @one v x hforms' =>
          have hv := (hvs v List.mem_cons_self).2
          obtain ⟨rfl, -⟩ :=
            cut_unique (isWord_of_forms hforms hw) (isWord_of_forms hforms' hv) hr hr' heq
          rw [eq_of_forms hforms hforms' hw hv]
          exact ⟨List.prefix_rfl, fun _ => rfl⟩
      | @more v x gap text vs hforms' hne hgap htail =>
          have hv := (hvs v List.mem_cons_self).2
          rw [List.append_assoc, List.append_assoc] at heq
          obtain ⟨rfl, -⟩ := cut_unique (isWord_of_forms hforms hw) (isWord_of_forms hforms' hv) hr
            (startsWith_isWord_gap hne hgap _) heq
          rw [eq_of_forms hforms hforms' hw hv]
          refine ⟨⟨vs, rfl⟩, fun hsame => absurd (List.length_eq_zero_iff.mp ?_) htail.ne_nil⟩
          simpa using hsame.symm
  | @more w u gap text ws hforms hne hgap htail ih =>
      obtain ⟨⟨-, hw⟩, hws⟩ := List.forall_mem_cons.mp hws
      have htailpos := List.length_pos_iff.mpr htail.ne_nil
      cases h' with
      | one _ =>
          rw [List.length_cons, List.length_singleton] at hlength
          omega
      | @more v x gap' text' vs hforms' hne' hgap' htail' =>
          obtain ⟨⟨-, hv⟩, hvs⟩ := List.forall_mem_cons.mp hvs
          rw [List.append_assoc, List.append_assoc, List.append_assoc, List.append_assoc] at heq
          obtain ⟨rfl, hgaps⟩ := cut_unique (isWord_of_forms hforms hw) (isWord_of_forms hforms' hv)
            (startsWith_isWord_gap hne hgap _) (startsWith_isWord_gap hne' hgap' _) heq
          obtain ⟨rfl, htexts⟩ := cut_unique hgap hgap' (htail.startsWith_isBlank hws r)
            (htail'.startsWith_isBlank hvs r') hgaps
          rw [List.length_cons, List.length_cons] at hlength
          obtain ⟨hstart, hsame⟩ := ih htail' hws hvs htexts (by omega)
          rw [eq_of_forms hforms hforms' hw hv]
          refine ⟨List.cons_prefix_cons.mpr ⟨rfl, hstart⟩, fun hlengths => ?_⟩
          rw [List.length_cons, List.length_cons] at hlengths
          rw [hsame (by omega)]

end Spelled

/-! ## Phrases at one place -/

theorem joinedBy_append (between : List Code) {ws : List (List Code)} (hws : ws ≠ [])
    (v : List Code) (vs : List (List Code)) :
    Recognizer.joinedBy between (ws ++ v :: vs) =
      Recognizer.joinedBy between ws ++ (between ++ Recognizer.joinedBy between (v :: vs)) := by
  induction ws with
  | nil => exact absurd rfl hws
  | cons w ws ih =>
      cases ws with
      | nil =>
          rw [List.singleton_append, Recognizer.joinedBy, Recognizer.joinedBy, List.append_assoc]
      | cons w' ws =>
          rw [List.cons_append, List.cons_append, Recognizer.joinedBy, ← List.cons_append,
            ih (List.cons_ne_nil _ _), Recognizer.joinedBy]
          simp only [List.append_assoc]

/-- A phrase with more words than another, and starting with them, is longer. -/
theorem ActionKey.length_lt_of_words_prefix {k l : ActionKey}
    (h : words k.phrase.toList <+: words l.phrase.toList)
    (hlength : (words k.phrase.toList).length < (words l.phrase.toList).length) :
    k.phrase.length < l.phrase.length := by
  obtain ⟨more, hmore⟩ := h
  cases more with
  | nil =>
      rw [List.append_nil] at hmore
      exact absurd hlength (by rw [hmore]; exact Nat.lt_irrefl _)
  | cons v vs =>
      have hjoined := l.tight_phrase.joinedBy_words
      rw [← hmore, joinedBy_append [' '] k.words_phrase_ne_nil,
        k.tight_phrase.joinedBy_words] at hjoined
      rw [← Text.length_toList, ← Text.length_toList, ← hjoined]
      simp

namespace Occurs

variable {k l : ActionKey} {before text text' after after' : List Code}

theorem startsWith_after (h : Occurs k.phrase before text after) :
    startsWith isWord after = false := by
  have hplain := k.plainWords_phrase
  have hstops := h.stops
  rw [WordBoundary, endsInWord_append (h.spelled.startsWith_isWord hplain).1,
    h.spelled.endsInWord_eq_true hplain] at hstops
  exact (Bool.eq_false_or_eq_true _).resolve_left hstops.symm

/-- **Of two phrases at one place, the words of one start with the words of the other**, and if they
have as many words they are the same text. -/
theorem words_prefix (h : Occurs k.phrase before text after)
    (h' : Occurs l.phrase before text' after') (heq : text ++ after = text' ++ after')
    (hlength : (words k.phrase.toList).length ≤ (words l.phrase.toList).length) :
    words k.phrase.toList <+: words l.phrase.toList ∧
      ((words k.phrase.toList).length = (words l.phrase.toList).length → text = text') :=
  h.spelled.words_prefix h'.spelled k.plainWords_phrase l.plainWords_phrase h.startsWith_after
    h'.startsWith_after heq hlength

/-- Of two phrases at one place, the one with more words is longer. -/
theorem length_lt (h : Occurs k.phrase before text after) (h' : Occurs l.phrase before text' after')
    (heq : text ++ after = text' ++ after')
    (hlength : (words k.phrase.toList).length < (words l.phrase.toList).length) :
    k.phrase.length < l.phrase.length :=
  ActionKey.length_lt_of_words_prefix (h.words_prefix h' heq (Nat.le_of_lt hlength)).1 hlength

/-- Of two phrases at one place, one that is not longer has no more words, and as many only as the
same text. -/
theorem words_length_le (h : Occurs k.phrase before text after)
    (h' : Occurs l.phrase before text' after')
    (heq : text ++ after = text' ++ after') (hlength : l.phrase.length ≤ k.phrase.length) :
    (words l.phrase.toList).length ≤ (words k.phrase.toList).length ∧
      ((words l.phrase.toList).length = (words k.phrase.toList).length → text' = text) := by
  have hle : (words l.phrase.toList).length ≤ (words k.phrase.toList).length := by
    apply Nat.le_of_not_lt
    intro hlt
    exact absurd (h.length_lt h' heq hlt) (Nat.not_lt.mpr hlength)
  exact ⟨hle, (h'.words_prefix h heq.symm hle).2⟩

end Occurs

end Actionary
