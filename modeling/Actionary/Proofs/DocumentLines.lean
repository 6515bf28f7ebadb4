import Mathlib.Data.List.Basic
import Actionary.Completion.Document

/-!
# The lines of a document

A text is cut into lines by the marks that end them. `CutInto` says what such a cut is, without
saying how it is found: a line holds no line end, a mark stands behind each line, and only a last
line that is not empty may go without one. A carriage return with a line feed behind it is never
taken for two marks.

Every text has such a cut, the one that `lines` finds, and it has no other (`cutInto_iff`). What is
true of the lines of a document is read off the cut: `Document.ofText_lossless` says that nothing
but line ends is lost, and that lines which were written with an end behind each come back as they
were.
-/

namespace Actionary

namespace Text

/-- The line ends, one by one. -/
def lineEnds : List Code :=
  ['\n', '\r', '\x0b', '\x0c', '\x1c', '\x1d', '\x1e', '\x85', '\u2028', '\u2029']

theorem isLineEnd_iff_mem {c : Code} : isLineEnd c = true ↔ c ∈ lineEnds := by
  have hpoint : c ∈ lineEnds ↔ c.toNat ∈ lineEnds.map Code.toNat :=
    (List.mem_map_of_injective fun _ _ => Code.toNat_inj.mp).symm
  have hpoints : lineEnds.map Code.toNat =
      [0x0A, 0x0D, 0x0B, 0x0C, 0x1C, 0x1D, 0x1E, 0x85, 0x2028, 0x2029] := rfl
  rw [hpoint, hpoints]
  simp only [isLineEnd, Bool.or_eq_true, Bool.and_eq_true, decide_eq_true_eq, beq_iff_eq,
    List.mem_cons, List.not_mem_nil, or_false]
  omega

/-- A text holds no line end. -/
def Unbroken (text : List Code) : Prop :=
  ∀ c ∈ text, c ∉ lineEnds

instance (text : List Code) : Decidable (Unbroken text) :=
  List.decidableBAll (· ∉ lineEnds) text

theorem unbroken_nil : Unbroken [] :=
  fun _ h => absurd h List.not_mem_nil

theorem unbroken_cons {c : Code} {text : List Code} :
    Unbroken (c :: text) ↔ c ∉ lineEnds ∧ Unbroken text :=
  List.forall_mem_cons

theorem Unbroken.filter_eq {text : List Code} (h : Unbroken text) :
    text.filter (· ∉ lineEnds) = text :=
  List.filter_eq_self.mpr fun c hc => decide_eq_true (h c hc)

/-! ## Cuts -/

/-- A mark ends a line in front of the rest of a text. -/
inductive EndsLine : List Code → List Code → Prop
  /-- A carriage return and a line feed are one mark. -/
  | pair {rest : List Code} : EndsLine ['\r', '\n'] rest
  /-- Any line end is a mark, but for a carriage return that has its line feed behind it. -/
  | single {c : Code} {rest : List Code} (mem : c ∈ lineEnds)
      (alone : c = '\r' → rest.head? ≠ some '\n') : EndsLine [c] rest

/-- A text is cut into lines. -/
inductive CutInto : List Code → List (List Code) → Prop
  /-- The empty text has no line. -/
  | nil : CutInto [] []
  /-- What stands behind the last mark is a line unless it is empty. -/
  | last {line : List Code} (ne_nil : line ≠ []) (unbroken : Unbroken line) : CutInto line [line]
  /-- What stands before a mark is a line, empty or not. -/
  | ended {line mark rest : List Code} {behind : List (List Code)} (unbroken : Unbroken line)
      (ends : EndsLine mark rest) (cut : CutInto rest behind) :
      CutInto (line ++ mark ++ rest) (line :: behind)

theorem EndsLine.mem {mark rest : List Code} (h : EndsLine mark rest) :
    ∀ c ∈ mark, c ∈ lineEnds := by
  cases h with
  | pair => exact List.forall_mem_cons.mpr ⟨by decide, List.forall_mem_singleton.mpr (by decide)⟩
  | single mem => exact List.forall_mem_singleton.mpr mem

/-- A character put before a text goes to its first line. -/
theorem CutInto.cons {c : Code} {text line : List Code} {behind : List (List Code)}
    (hc : c ∉ lineEnds)
    (h : CutInto text (line :: behind)) : CutInto (c :: text) ((c :: line) :: behind) := by
  cases h with
  | last _ unbroken => exact .last (List.cons_ne_nil c text) (unbroken_cons.mpr ⟨hc, unbroken⟩)
  | ended unbroken ends cut => exact .ended (unbroken_cons.mpr ⟨hc, unbroken⟩) ends cut

theorem CutInto.eq_nil {text : List Code} (h : CutInto text []) : text = [] := by
  cases h with
  | nil => rfl

theorem cutInto_lines (text : List Code) : CutInto text (lines text) := by
  fun_induction lines text with
  | case1 => exact .nil
  | case2 rest ih => exact .ended unbroken_nil .pair ih
  | case3 c rest hpair hend ih =>
      have halone : c = '\r' → rest.head? ≠ some '\n' := by
        intro hc hfeed
        obtain ⟨behind, hrest⟩ := List.head?_eq_some_iff.mp hfeed
        exact hpair behind hc hrest
      exact .ended unbroken_nil (.single (isLineEnd_iff_mem.mp hend) halone) ih
  | case4 c rest _ hend hnone ih =>
      rw [hnone] at ih
      -- Only the empty text has no line, so nothing follows the character.
      obtain rfl := ih.eq_nil
      have hc : c ∉ lineEnds := isLineEnd_iff_mem.not.mp hend
      exact .last (List.cons_ne_nil c []) (unbroken_cons.mpr ⟨hc, unbroken_nil⟩)
  | case5 c rest _ hend line behind hlines ih =>
      rw [hlines] at ih
      exact ih.cons (isLineEnd_iff_mem.not.mp hend)

/-! ## The cut of a text is the only one -/

theorem lines_of_endsLine {mark rest : List Code} (h : EndsLine mark rest) :
    lines (mark ++ rest) = [] :: lines rest := by
  cases h with
  | pair => rfl
  | @single c _ mem alone =>
      have hpair : ∀ behind : List Code, c = '\r' → rest = .char '\n' :: behind → False := by
        rintro behind hc rfl
        exact alone hc rfl
      rw [List.singleton_append, lines.eq_3 _ _ hpair, if_pos (isLineEnd_iff_mem.mpr mem)]

theorem lines_cons {c : Code} (hc : c ∉ lineEnds) (text : List Code) :
    lines (c :: text) = (c :: (lines text).headD []) :: (lines text).tail := by
  have hpair : ∀ rest : List Code, c = '\r' → text = .char '\n' :: rest → False := by
    rintro rest rfl
    exact absurd (by decide) hc
  rw [lines.eq_3 _ _ hpair, if_neg (isLineEnd_iff_mem.not.mpr hc)]
  cases lines text with
  | nil => rfl
  | cons line behind => rfl

/-- An unbroken text goes to the first line of what stands behind it. -/
theorem lines_append {start text line : List Code} {behind : List (List Code)}
    (hstart : Unbroken start)
    (h : lines text = line :: behind) : lines (start ++ text) = (start ++ line) :: behind := by
  induction start with
  | nil => exact h
  | cons c start ih =>
      obtain ⟨hc, hrest⟩ := unbroken_cons.mp hstart
      rw [List.cons_append, lines_cons hc, ih hrest]
      rfl

theorem lines_of_unbroken {line : List Code} (hne : line ≠ []) (h : Unbroken line) :
    lines line = [line] := by
  obtain rfl | ⟨start, c, rfl⟩ := List.eq_nil_or_concat' line
  · exact absurd rfl hne
  · -- The last character is a line by itself, which takes in all that stands before it.
    have hc : c ∉ lineEnds := h c (by simp)
    have hstart : Unbroken start := fun d hd => h d (by simp [hd])
    have hlast : lines [c] = [[c]] := lines_cons hc []
    exact lines_append hstart hlast

theorem CutInto.lines_eq {text : List Code} {cut : List (List Code)} (h : CutInto text cut) :
    lines text = cut := by
  induction h with
  | nil => rfl
  | last ne_nil unbroken => exact lines_of_unbroken ne_nil unbroken
  | ended unbroken ends _ ih =>
      have hbehind := lines_append unbroken (lines_of_endsLine ends)
      rw [List.append_assoc, hbehind, List.append_nil, ih]

/-- **Every text is cut into lines in one way, and `lines` finds it.** -/
theorem cutInto_iff {text : List Code} {cut : List (List Code)} :
    CutInto text cut ↔ lines text = cut :=
  ⟨CutInto.lines_eq, fun h => h ▸ cutInto_lines text⟩

--  A pair is one mark, its characters the other way round are two, and no line follows the last
-- mark.
example : lines (Text.toList "a\r\nb\n\rc\r\n") =
    [[.char 'a'], [.char 'b'], [], [.char 'c']] := by decide

/-! ## What a cut keeps -/

theorem CutInto.unbroken {text : List Code} {cut : List (List Code)} (h : CutInto text cut) :
    ∀ line ∈ cut, Unbroken line := by
  induction h with
  | nil => exact fun _ h => absurd h List.not_mem_nil
  | last _ unbroken => exact List.forall_mem_singleton.mpr unbroken
  | ended unbroken _ _ ih => exact List.forall_mem_cons.mpr ⟨unbroken, ih⟩

theorem CutInto.flatten_eq {text : List Code} {cut : List (List Code)} (h : CutInto text cut) :
    cut.flatten = text.filter (· ∉ lineEnds) := by
  induction h with
  | nil => rfl
  | last _ unbroken => rw [List.flatten_singleton, unbroken.filter_eq]
  | @ended _ mark _ _ unbroken ends _ ih =>
      have hgone : mark.filter (· ∉ lineEnds) = [] :=
        List.filter_eq_nil_iff.mpr fun c hc => by simpa using ends.mem c hc
      rw [List.flatten_cons, ih, List.filter_append, List.filter_append, unbroken.filter_eq, hgone,
        List.append_nil]

/-- Lines with the same mark behind each are a cut of what they make up, if the mark ends a line
wherever it stands. -/
theorem cutInto_flatMap {mark : List Code} (hmark : ∀ rest, EndsLine mark rest)
    {written : List (List Code)}
    (h : ∀ line ∈ written, Unbroken line) : CutInto (written.flatMap (· ++ mark)) written := by
  induction written with
  | nil => exact .nil
  | cons line behind ih =>
      obtain ⟨hline, hbehind⟩ := List.forall_mem_cons.mp h
      exact .ended hline (hmark _) (ih hbehind)

theorem endsLine_feed (rest : List Code) : EndsLine ['\n'] rest :=
  .single (by decide) fun h => absurd h (by decide)

end Text

/-! ## Documents -/

namespace Document

open Text

theorem cutInto_ofText (text : Text) :
    CutInto text.toList ((ofText text).lines.map Text.toList) := by
  have hlines : (ofText text).lines.map Text.toList = Text.lines text.toList := by
    simp [ofText, splitLines, Function.comp_def]
  exact cutInto_iff.mpr hlines.symm

theorem ofText_of_cutInto {text : Text} {written : List Text}
    (h : CutInto text.toList (written.map Text.toList)) : ofText text = ⟨written⟩ := by
  rw [ofText, splitLines, h.lines_eq]
  simp [Function.comp_def]

/-- A document is read back from its lines with one mark behind each. -/
theorem ofText_join (mark : Text) (hmark : ∀ rest, EndsLine mark.toList rest) {written : List Text}
    (h : ∀ line ∈ written, Unbroken line.toList) :
    ofText (Text.join (written.map (· ++ mark))) = ⟨written⟩ := by
  have htext : (Text.join (written.map (· ++ mark))).toList =
      (written.map Text.toList).flatMap (· ++ mark.toList) := by
    simp [Text.toList_join, List.flatMap_map]
  apply ofText_of_cutInto
  rw [htext]
  exact cutInto_flatMap hmark (List.forall_mem_map.mpr h)

/-- **Making a document of a text loses its line ends and nothing else.** No line of the document
holds a line end, and the lines one behind the other are the text without its line ends. Lines that
hold none, each written with a line feed behind it or each with a carriage return and a line feed,
come back as they were, and so do the empty ones among them and at their end. -/
theorem ofText_lossless :
    (∀ text : Text,
      (∀ line ∈ (ofText text).lines, Unbroken line.toList) ∧
        (Text.join (ofText text).lines).toList = text.toList.filter (· ∉ lineEnds)) ∧
      ∀ written : List Text, (∀ line ∈ written, Unbroken line.toList) →
        ofText (Text.join (written.map (· ++ "\n"))) = ⟨written⟩ ∧
          ofText (Text.join (written.map (· ++ "\r\n"))) = ⟨written⟩ := by
  refine ⟨fun text => ⟨?_, ?_⟩, fun written h => ⟨?_, ?_⟩⟩
  · exact List.forall_mem_map.mp (cutInto_ofText text).unbroken
  · rw [Text.toList_join, ← (cutInto_ofText text).flatten_eq, List.flatMap_def]
  · exact ofText_join "\n" endsLine_feed h
  · exact ofText_join "\r\n" (fun _ => .pair) h

theorem ofText_lossless_empty_lines :
    (∀ line ∈ (["", "\tclick on", "", ""] : List Text), Unbroken line.toList) ∧
      ofText "\n\tclick on\n\n\n" = ⟨["", "\tclick on", "", ""]⟩ ∧
      ofText "\r\n\tclick on\r\n\r\n\r\n" = ⟨["", "\tclick on", "", ""]⟩ :=
  have h : ∀ line ∈ (["", "\tclick on", "", ""] : List Text), Unbroken line.toList := by decide
  ⟨h, ofText_lossless.2 _ h⟩

end Document

end Actionary
