import Actionary.Proofs.CatalogOrder

/-!
# Choices read back

An editor takes a choice `${6|css,x\,path|}` apart: the tab stop, and the options between the bars.
A comma ends an option and a bar ends them all, but behind a backslash any character stands for
itself (`readOptions`). Whatever the options hold, they come back from the choice they were written
into, and so does what stands behind the choice (`readChoice?_choice`).

Only a choice without options is lost: it is written like a choice of one empty option.
-/

namespace Actionary.Snippet

/-! ## The reader -/

/-- Options and what follows them, with characters put in front of the first option. -/
def inFront (s : List Code) (p : List (List Code) × List Code) : List (List Code) × List Code :=
  (p.1.modifyHead (s ++ ·), p.2)

/-- The options up to the first bar that is no part of an option, and what follows the bar. Behind a
backslash the next character is taken as it stands. -/
def readOptions (escaped : Bool) : List Code → Option (List (List Code) × List Code)
  | [] => none
  | c :: cs =>
    if escaped then (readOptions false cs).map (inFront [c])
    else if c == '\\' then readOptions true cs
    else if c == ',' then (readOptions false cs).map fun p => ([] :: p.1, p.2)
    else if c == '|' then some ([[]], cs)
    else (readOptions false cs).map (inFront [c])

/-- The number that a text starts with, and what follows its digits. -/
def readStop? (cs : List Code) : Option (Nat × List Code) :=
  let digits := cs.takeWhile Code.isDigit
  if digits.isEmpty then none
  else some (digits.foldl (fun n c => 10 * n + (c.toNat - '0'.toNat)) 0, cs.dropWhile Code.isDigit)

/-- What follows a character, if a text starts with it. -/
def readMark? (mark : Code) : List Code → Option (List Code)
  | [] => none
  | c :: cs => if c == mark then some cs else none

/-- The choice that a text starts with: its tab stop, its options, and what follows it. -/
def readChoice? (text : Text) : Option (Nat × List Text × Text) := do
  let cs ← readMark? '$' text.toList
  let cs ← readMark? '{' cs
  let (stop, cs) ← readStop? cs
  let cs ← readMark? '|' cs
  let (options, cs) ← readOptions false cs
  let cs ← readMark? '}' cs
  return (stop, options.map Text.ofList, Text.ofList cs)

/-! ## The options -/

theorem inFront_nil : inFront [] = id := by
  funext p
  exact congrArg (·, p.2) (congrFun List.modifyHead_id p.1)

theorem inFront_comp (s t : List Code) : inFront s ∘ inFront t = inFront (s ++ t) := by
  funext p
  show ((p.1.modifyHead (t ++ ·)).modifyHead (s ++ ·), p.2) = _
  rw [List.modifyHead_modifyHead, inFront]
  congr 2
  funext o
  exact (List.append_assoc s t o).symm

/-- The characters of a written option go to the front of the option that is read next, each without
the backslash it was given. -/
theorem readOptions_escapeOption (s cs : List Code) :
    readOptions false (escapeOption s ++ cs) = (readOptions false cs).map (inFront s) := by
  induction s with
  | nil =>
      rw [inFront_nil, Option.map_id_fun]
      rfl
  | cons c s ih =>
      have hread : readOptions false (escapeOption (c :: s) ++ cs) =
          (readOptions false (escapeOption s ++ cs)).map (inFront [c]) := by
        rw [escapeOption]
        cases hspecial : c == '\\' || c == ',' || c == '|' with
        | true => rfl
        | false =>
            simp only [Bool.or_eq_false_iff] at hspecial
            obtain ⟨⟨hbackslash, hcomma⟩, hbar⟩ := hspecial
            rw [if_neg Bool.false_ne_true, List.cons_append, readOptions, if_neg Bool.false_ne_true]
            simp only [hbackslash, hcomma, hbar, Bool.false_eq_true, ↓reduceIte]
      rw [hread, ih, Option.map_map, inFront_comp]
      rfl

theorem readOptions_optionChars {options : List Text} (h : options ≠ []) (rest : List Code) :
    readOptions false (optionChars options ++ .char '|' :: rest) =
      some (options.map Text.toList, rest) := by
  induction options with
  | nil => exact absurd rfl h
  | cons s options ih =>
      cases options with
      | nil =>
          show readOptions false (escapeOption s.toList ++ .char '|' :: rest) = _
          rw [readOptions_escapeOption]
          show some ([s.toList ++ []], rest) = _
          rw [List.append_nil]
          rfl
      | cons t options =>
          have hread : readOptions false
              (',' :: (optionChars (t :: options) ++ .char '|' :: rest)) =
              some ([] :: (t :: options).map Text.toList, rest) := by
            show (readOptions false (optionChars (t :: options) ++ .char '|' :: rest)).map _ = _
            rw [ih (List.cons_ne_nil t options)]
            rfl
          rw [optionChars, List.append_assoc, readOptions_escapeOption, List.cons_append, hread]
          show some ((s.toList ++ []) :: _, rest) = _
          rw [List.append_nil]
          rfl

/-! ## The tab stop -/

/-- The digits of a number. -/
def stopDigits (n : Nat) : List Code :=
  (Nat.toDigits 10 n).map .char

theorem toList_toString (n : Nat) : (Text.ofString (toString (n : Int))).toList = stopDigits n :=
  congrArg (List.map Code.char) Nat.toList_repr

theorem isDigit_of_mem_stopDigits {n : Nat} {c : Code} (h : c ∈ stopDigits n) :
    c.isDigit = true := by
  obtain ⟨d, hd, rfl⟩ := List.mem_map.mp h
  exact Nat.isDigit_of_mem_toDigits (by decide) (by decide) hd

theorem readStop?_stopDigits (n : Nat) {mark : Code} (hmark : mark.isDigit = false)
    (cs : List Code) : readStop? (stopDigits n ++ mark :: cs) = some (n, mark :: cs) := by
  have hdigits : ∀ c ∈ stopDigits n, c.isDigit = true := fun c hc => isDigit_of_mem_stopDigits hc
  have htake : (stopDigits n ++ mark :: cs).takeWhile Code.isDigit = stopDigits n := by
    rw [List.takeWhile_append_of_pos hdigits,
      List.takeWhile_cons_of_neg (by rw [hmark]; decide), List.append_nil]
  have hdrop : (stopDigits n ++ mark :: cs).dropWhile Code.isDigit = mark :: cs := by
    rw [List.dropWhile_append_of_pos hdigits, List.dropWhile_cons_of_neg (by rw [hmark]; decide)]
  have hvalue : (stopDigits n).foldl (fun n c => 10 * n + (c.toNat - '0'.toNat)) 0 = n := by
    rw [stopDigits, List.foldl_map]
    exact Nat.ofDigitChars_ten_toDigits
  rw [readStop?, htake, hdrop, hvalue]
  exact if_neg (by simp [stopDigits, Nat.toDigits_ne_nil])

/-! ## The whole choice -/

theorem toList_choice (stop : Nat) (options : List Text) (rest : Text) :
    (choice stop options ++ rest).toList =
      .char '$' :: .char '{' :: (stopDigits stop ++
        .char '|' :: (optionChars options ++ .char '|' :: .char '}' :: rest.toList)) := by
  simp only [choice, braced, Text.toList_append, toList_toString]
  simp

/-- **A choice comes back from what is written for it**, whatever its options hold and whatever
follows it. -/
theorem readChoice?_choice (stop : Nat) {options : List Text} (h : options ≠ []) (rest : Text) :
    readChoice? (choice stop options ++ rest) = some (stop, options, rest) := by
  have hback : (options.map Text.toList).map Text.ofList = options := by
    rw [List.map_map]
    exact (List.map_congr_left fun s _ => Text.ofList_toList s).trans (List.map_id options)
  simp only [readChoice?, toList_choice, readMark?, beq_self_eq_true, ↓reduceIte, bind,
    Option.bind_some, readStop?_stopDigits stop (show (Code.char '|').isDigit = false from rfl),
    readOptions_optionChars h, pure, hback, Text.ofList_toList]

theorem choice_inj {stop stop' : Nat} {options options' : List Text} (hoptions : options ≠ [])
    (hoptions' : options' ≠ []) (h : choice stop options = choice stop' options') :
    stop = stop' ∧ options = options' := by
  have hread := readChoice?_choice stop hoptions ""
  rw [h, readChoice?_choice stop' hoptions' ""] at hread
  simp only [Option.some.injEq, Prod.mk.injEq, and_true] at hread
  exact ⟨hread.1.symm, hread.2.symm⟩

/-- The other names of an action, as phrases, in ascending order. -/
theorem aliasPhrases_sorted (a : Action) :
    (aliasPhrases a).Perm (a.aliases.map phraseOf) ∧ (aliasPhrases a).Pairwise (· ≤ ·) := by
  refine ⟨List.mergeSort_perm _ _, ?_⟩
  have hsorted := List.pairwise_mergeSort textBefore_trans textBefore_total (a.aliases.map phraseOf)
  exact hsorted.imp of_decide_eq_true

theorem actionFragment_of_aliases {a : Action} (h : a.aliases ≠ []) :
    actionFragment a = braced (choice 1 (a.phrase :: aliasPhrases a)) := by
  have hne : aliasPhrases a ≠ [] := by
    intro hnil
    have hperm := (aliasPhrases_sorted a).1
    rw [hnil] at hperm
    exact h (List.map_eq_nil_iff.mp hperm.nil_eq.symm)
  rw [actionFragment]
  split
  · next hnil => exact absurd hnil hne
  · rfl

/-- **Choices are read as they were meant.** The tab stop, the options and what follows come back
from a written choice with at least one option, so two choices are written alike only if they are
the same. In the name of an action with other names an editor reads a choice of the phrase of the
action and then the phrases of the other names, in the order of their code points. -/
theorem choices_read_back :
    (∀ (stop : Nat) (options : List Text) (rest : Text), options ≠ [] →
        readChoice? (choice stop options ++ rest) = some (stop, options, rest)) ∧
      (∀ (stop stop' : Nat) (options options' : List Text), options ≠ [] → options' ≠ [] →
        choice stop options = choice stop' options' → stop = stop' ∧ options = options') ∧
      ∀ a : Action, a.aliases ≠ [] → ∃ written phrases,
        actionFragment a = .singleton '{' ++ written ++ .singleton '}' ∧
          readChoice? written = some (1, a.phrase :: phrases, ("" : Text)) ∧
          phrases.Perm (a.aliases.map phraseOf) ∧ phrases.Pairwise (· ≤ ·) := by
  refine ⟨fun stop options rest h => readChoice?_choice stop h rest,
    fun _ _ _ _ hoptions hoptions' h => choice_inj hoptions hoptions' h, ?_⟩
  intro a ha
  obtain ⟨hperm, hsorted⟩ := aliasPhrases_sorted a
  refine ⟨choice 1 (a.phrase :: aliasPhrases a), aliasPhrases a, actionFragment_of_aliases ha, ?_,
    hperm, hsorted⟩
  have hread := readChoice?_choice 1 (List.cons_ne_nil a.phrase (aliasPhrases a)) ""
  rwa [Text.append_empty] at hread

/-- An action whose other names hold all that ends an option. -/
def dragAction : Action :=
  { Recognizer.bareAction ⟨"DragTo", by decide⟩ with aliases := ["Pull|To", "drop,", "MoveTo\\"] }

/-- Options that end in a backslash right before a comma or a bar, an empty one, and a brace. -/
def hardOptions : List Text :=
  ["a\\", ",|\\", "", .singleton '}']

/-- The end of a choice. -/
def choiceEnd : Text :=
  "|" ++ .singleton '}'

/-- The text behind the choice looks like its end. -/
theorem choices_read_back_behind_backslashes :
    readChoice? (choice 12 hardOptions ++ choiceEnd) = some (12, hardOptions, choiceEnd) ∧
      choice 6 ["css", "xpath"] ≠ choice 6 ["css,xpath"] ∧
      dragAction.aliases ≠ [] ∧ ∃ written phrases,
        actionFragment dragAction = .singleton '{' ++ written ++ .singleton '}' ∧
          readChoice? written = some (1, dragAction.phrase :: phrases, ("" : Text)) ∧
          phrases.Perm (dragAction.aliases.map phraseOf) ∧ phrases.Pairwise (· ≤ ·) := by
  obtain ⟨hback, hinj, hnames⟩ := choices_read_back
  refine ⟨hback _ _ _ (List.cons_ne_nil _ _), fun h => ?_, List.cons_ne_nil _ _,
    hnames _ (List.cons_ne_nil _ _)⟩
  exact absurd (hinj _ _ _ _ (List.cons_ne_nil _ _) (List.cons_ne_nil _ _) h).2 (by decide)

/-- Without options the choice is lost. -/
example : readChoice? (choice 6 []) = some (6, ([""] : List Text), ("" : Text)) := by decide +kernel

end Actionary.Snippet
