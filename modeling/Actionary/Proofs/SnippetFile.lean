import Actionary.Command.Run
import Actionary.Proofs.Encoding
import Actionary.Proofs.JsonReading

/-!
# The snippet file

The command for snippets delivers one JSON text, on standard output or in a file (`Delivers`). It is
a record with a member for each snippet of the catalog, by name. No two snippets of a catalog have
one name, so the text reads back to exactly these members in their order, whatever quotes,
backslashes, control characters and other characters the names and texts hold.

Printing always comes to a result. Writing may end with a fault of the file; if it does not, the
file holds the text (`read_of_write`).
-/

namespace Actionary

/-! ## Files that were written -/

namespace FileTree

variable {t t' : FileTree}

theorem statusAt_eq_folder_iff {place : List String} :
    t.statusAt place = .folder ↔ t.isFolder place = true := by
  cases h : t.isFolder place with
  | true => simp [statusAt, h]
  | false => cases hfile : (t.file? place).isSome <;> simp [statusAt, h, hfile]

/-- A step leads on from a folder, if it is not too long. -/
theorem walk_cons_eq_ok_iff {start target steps : List String} {step : String} :
    t.walk start (step :: steps) = .ok target ↔
      t.isFolder start = true ∧ ¬ step.utf8ByteSize > longestName ∧
        t.walk (if step == ".." then start.dropLast else start ++ [step]) steps = .ok target := by
  rw [← statusAt_eq_folder_iff, walk]
  cases t.statusAt start with
  | absent => simp
  | file => simp
  | folder =>
      by_cases hlong : step.utf8ByteSize > longestName
      · simp [hlong]
      · simp [hlong]

/-- Where steps lead depends on the folders only, so a file that was set does not change it. -/
theorem walk_put {place target : List String} {bytes : List UInt8} {steps start : List String}
    (h : t.walk start steps = .ok target) : (t.put place bytes).walk start steps = .ok target := by
  induction steps generalizing start with
  | nil => exact h
  | cons step steps ih =>
      obtain ⟨hfolder, hshort, hrest⟩ := walk_cons_eq_ok_iff.mp h
      exact walk_cons_eq_ok_iff.mpr ⟨hfolder, hshort, ih hrest⟩

theorem place_put {place target : List String} {bytes : List UInt8} {p : Path}
    (h : t.place p = .ok target) : (t.put place bytes).place p = .ok target := by
  rw [FileTree.place] at h ⊢
  by_cases hnull : p.text.contains '\x00' = true
  · rw [if_pos hnull] at h
    cases h
  · by_cases hlong : p.text.utf8ByteSize > longestPath
    · rw [if_neg hnull, if_pos hlong] at h
      cases h
    · rw [if_neg hnull, if_neg hlong] at h ⊢
      exact walk_put h

/-- **A file that was written holds the text.** -/
theorem read_of_write {p : Path} {text : String} (h : t.write p text = .ok t') :
    t'.read p = .ok text.toUTF8.toList := by
  rw [write] at h
  cases hplace : t.place p with
  | error problem =>
      rw [hplace] at h
      cases h
  | ok place =>
      rw [hplace] at h
      cases hfolder : t.isFolder place with
      | true => simp [hfolder] at h
      | false =>
          simp only [hfolder, Bool.false_eq_true, ↓reduceIte, Except.ok.injEq] at h
          have hput : (t.put place text.toUTF8.toList).isFolder place = false := hfolder
          have hfile : (t.put place text.toUTF8.toList).file? place = some text.toUTF8.toList :=
            List.lookup_cons_self
          rw [← h, read, place_put hplace]
          simp only [hput, hfile, Bool.false_eq_true, ↓reduceIte]

end FileTree

/-! ## The content -/

namespace Command

open FileTree

/-- What an editor is to find in a snippet file. -/
def editorFile (s : Snapshot) : Json :=
  .object ((Snippet.compose s).map fun x =>
    (x.name, .object [("prefix", .text x.name), ("body", .text x.template),
      ("description", .text x.documentation)]))

/-- The snippets of a catalog have different names, so no member takes the place of another. -/
theorem snippetFile_eq (s : Snapshot) : snippetFile s = editorFile s := by
  refine congrArg Json.object (deduplicate_eq_self ?_)
  rw [List.map_map]
  exact nodup_keys_deduplicate _ _

/-- No two members of the snippet file have one name, and the entry of a snippet has three different
names. -/
theorem distinctNames_editorFile (s : Snapshot) : (editorFile s).DistinctNames := by
  refine .object ?_ ?_
  · rw [List.map_map]
    exact nodup_keys_deduplicate _ _
  · intro m hm
    obtain ⟨x, -, rfl⟩ := List.mem_map.mp hm
    refine .object (by decide : (["prefix", "body", "description"] : List Text).Nodup) ?_
    intro entry hentry
    simp only [List.mem_cons, List.not_mem_nil, or_false] at hentry
    rcases hentry with rfl | rfl | rfl
    · exact .text _
    · exact .text _
    · exact .text _

/-- **The text of the snippet file is read as the members for the snippets**, with blanks behind it
or without. -/
theorem read?_snippetFile (s : Snapshot) (back : Text)
    (hback : ∀ c ∈ back.toList, Json.isSpace c = true) :
    Json.read? ((snippetFile s).toText ++ back) = some (editorFile s) := by
  rw [snippetFile_eq]
  exact Json.read?_toText (distinctNames_editorFile s) hback

/-- The text of the snippet file has a half exactly if a snippet has one. -/
theorem hasHalf_toText_snippetFile (s : Snapshot) :
    (snippetFile s).toText.hasHalf = (Snippet.compose s).any Snippet.hasHalf := by
  rw [snippetFile_eq, Json.hasHalf_toText, editorFile, Json.texts]
  induction Snippet.compose s with
  | nil => rfl
  | cons x xs ih =>
      rw [List.map_cons, Json.memberTexts, List.any_append, ih, List.any_cons]
      congr 1
      simp [Json.texts, Json.memberTexts, Snippet.hasHalf, Bool.or_assoc]

/-! ## The command -/

/-- A request finds a catalog: the settings are in order, and the file it names holds the catalog.
-/
def SnippetsRequest.Finds (r : SnippetsRequest) (environment : List (Text × Text)) (t : FileTree)
    (s : Snapshot) : Prop :=
  ∃ settings bytes,
    Settings.read environment (if r.strict then [("strict", .bool true)] else []) =
        .valid settings ∧
      t.read (.ofText r.catalog) = .ok bytes ∧
      (Snapshot.loadBytes settings.mode (Path.ofText r.catalog).text bytes).result = .ok s

/-- A command delivers a string: it is printed, or it is what the file for the result holds
afterwards. -/
def SnippetsRequest.Delivers (r : SnippetsRequest) (o : Outcome) (t : FileTree)
    (output : String) : Prop :=
  (r.output = none ∧ o.ending = .done output) ∨
    ∃ file, r.output = some file ∧ o.ending = .done "" ∧
      t.read (.ofText file) = .ok output.toUTF8.toList

/-- A command fails to encode a text: nothing is printed, and the file for the result is empty. -/
def SnippetsRequest.FailsToEncode (r : SnippetsRequest) (o : Outcome) (t : FileTree)
    (text : Text) : Prop :=
  (∃ u, o.ending = .failed (.unencodable u) ∧ u.FirstIn text) ∧
    ∀ file, r.output = some file → t.read (.ofText file) = .ok []

theorem run_bind_eq {α β : Type} {act : StateM FileTree α} {next : α → StateM FileTree β}
    {t t' : FileTree} {a : α}
    (h : act.run t = (a, t')) : (act >>= next).run t = (next a).run t' := by
  rw [StateT.run_bind, h]
  rfl

theorem run_write_cases (p : Path) (content : String) (t : FileTree) :
    (∃ problem, (FileTree.access.write p content).run t = (.error problem, t)) ∨
      ∃ t', (FileTree.access.write p content).run t = (.ok (), t') ∧
        t'.read p = .ok content.toUTF8.toList := by
  have hget : (get : StateM FileTree FileTree).run t = (t, t) := rfl
  have hrun : (FileTree.access.write p content).run t = _ := run_bind_eq hget
  dsimp only at hrun
  cases hwrite : t.write p content with
  | error problem =>
      rw [hwrite] at hrun
      exact Or.inl ⟨problem, hrun⟩
  | ok t' =>
      rw [hwrite] at hrun
      exact Or.inr ⟨t', hrun, read_of_write hwrite⟩

/-- Printing a result prints all of it, or nothing because it cannot be encoded. -/
theorem printResult_cases (result : Json) :
    (∃ output : String, result.toText ++ "\n" = output ∧ printResult result = .done output) ∨
      (result.toText ++ "\n").hasHalf = true ∧
        ∃ u, printResult result = .failed (.unencodable u) ∧ u.FirstIn (result.toText ++ "\n") := by
  rw [printResult]
  rcases Text.Utf8.encode_cases (result.toText ++ "\n")
    with ⟨output, htext, hencode⟩ | ⟨hhalf, u, hencode, hfirst⟩
  · exact Or.inl ⟨output, htext, by rw [hencode]⟩
  · exact Or.inr ⟨hhalf, u, by rw [hencode], hfirst⟩

/-- Writing a result ends with a fault of a file, or the file holds the result, or the file is empty
because the result cannot be encoded. -/
theorem writeResult_cases (file : String) (result : Json) (t : FileTree) :
    ∃ ending t', (writeResult FileTree.access file result).run t = (ending, t') ∧
      ((∃ fault, ending = .failed (.file fault)) ∨
        (∃ output : String, result.toText ++ "\n" = output ∧ ending = .done "" ∧
          t'.read (.ofText file) = .ok output.toUTF8.toList) ∨
        (result.toText ++ "\n").hasHalf = true ∧
          (∃ u, ending = .failed (.unencodable u) ∧ u.FirstIn (result.toText ++ "\n")) ∧
          t'.read (.ofText file) = .ok []) := by
  simp only [writeResult]
  obtain ⟨made, t₁, hfolders⟩ : ∃ made t₁,
      (FileTree.access.ensureFolders (Path.ofText file).parent).run t = (made, t₁) := ⟨_, _, rfl⟩
  rw [run_bind_eq hfolders]
  cases made with
  | error fault => exact ⟨_, _, rfl, Or.inl ⟨fault, rfl⟩⟩
  | ok _ =>
      rcases Text.Utf8.encode_cases (result.toText ++ "\n") with
        ⟨output, htext, hencode⟩ | ⟨hhalf, u, hencode, hfirst⟩
      · rw [hencode]
        rcases run_write_cases (Path.ofText file) output t₁
          with ⟨problem, hwrite⟩ | ⟨t₂, hwrite, hread⟩
        · exact ⟨_, _, run_bind_eq hwrite, Or.inl ⟨_, rfl⟩⟩
        · exact ⟨_, _, run_bind_eq hwrite, Or.inr (Or.inl ⟨output, htext, rfl, hread⟩)⟩
      · have hempty : (.ok "".toUTF8.toList : Except FileProblem (List UInt8)) = .ok [] := by
          decide +kernel
        rw [hencode]
        rcases run_write_cases (Path.ofText file) "" t₁ with ⟨problem, hwrite⟩ | ⟨t₂, hwrite, hread⟩
        · exact ⟨_, _, run_bind_eq hwrite, Or.inl ⟨_, rfl⟩⟩
        · exact ⟨_, _, run_bind_eq hwrite,
            Or.inr (Or.inr ⟨hhalf, ⟨u, rfl, hfirst⟩, hread.trans hempty⟩)⟩

/-- A command that finds a catalog loads it and goes on with it. -/
theorem run_withCatalog {file : String} {settings : Settings}
    {next : Snapshot → StateM FileTree Ending}
    {t t' : FileTree} {bytes : List UInt8} {s : Snapshot} {ending : Ending}
    (hread : t.read (.ofText file) = .ok bytes)
    (hload : (Snapshot.loadBytes settings.mode (Path.ofText file).text bytes).result = .ok s)
    (hnext : (next s).run t = (ending, t')) :
    (withCatalog FileTree.access file settings next).run t =
      (⟨(Snapshot.loadBytes settings.mode (Path.ofText file).text bytes).warnings, ending⟩,
        t') := by
  have hfile : (Snapshot.loadFile FileTree.access settings.mode file).run t =
      (.ok (Snapshot.loadBytes settings.mode (Path.ofText file).text bytes), t) := by
    have hget : (FileTree.access.read (Path.ofText file)).run t = (t.read (.ofText file), t) := rfl
    rw [hread] at hget
    exact run_bind_eq hget
  rw [withCatalog, run_bind_eq hfile]
  dsimp only
  rw [hload]
  exact run_bind_eq hnext

/-- **A command for snippets that finds a catalog delivers the text of its snippet file**, or fails
to encode it. Besides, writing to a file may fail. -/
theorem SnippetsRequest.run_cases {r : SnippetsRequest} {environment : List (Text × Text)}
    {t : FileTree} {s : Snapshot} (h : r.Finds environment t s) :
    ∃ o t', (r.run FileTree.access environment).run t = (o, t') ∧
      (r.output ≠ none ∧ (∃ fault, o.ending = .failed (.file fault)) ∨
        (∃ output : String, (snippetFile s).toText ++ "\n" = output ∧ r.Delivers o t' output) ∨
        ((snippetFile s).toText ++ "\n").hasHalf = true ∧
          r.FailsToEncode o t' ((snippetFile s).toText ++ "\n")) := by
  obtain ⟨settings, bytes, hsettings, hread, hload⟩ := h
  rw [run, hsettings]
  cases houtput : r.output with
  | none =>
      refine ⟨_, _, run_withCatalog hread hload rfl, Or.inr ?_⟩
      rcases printResult_cases (snippetFile s) with ⟨output, htext, hprint⟩ | ⟨hhalf, hprint⟩
      · exact Or.inl ⟨output, htext, Or.inl ⟨houtput, hprint⟩⟩
      · exact Or.inr ⟨hhalf, hprint, fun file hfile => by simp [houtput] at hfile⟩
  | some file =>
      obtain ⟨ending, t', hwrite, hcases⟩ := writeResult_cases file (snippetFile s) t
      refine ⟨_, _, run_withCatalog hread hload hwrite, ?_⟩
      rcases hcases with hfault | ⟨output, htext, hdone, hfile⟩ | ⟨hhalf, hfailed, hempty⟩
      · exact Or.inl ⟨Option.some_ne_none file, hfault⟩
      · exact Or.inr (Or.inl ⟨output, htext, Or.inr ⟨file, houtput, hdone, hfile⟩⟩)
      · refine Or.inr (Or.inr ⟨hhalf, hfailed, fun other hother => ?_⟩)
        rw [houtput] at hother
        rwa [← Option.some.inj hother]

/-- A tree that has a catalog in its working folder. -/
def catalogTree (bytes : List UInt8) : FileTree :=
  .ofFiles ["home"] [(⟨"", ["catalog.yaml"]⟩, bytes)]

/-- The request to print the snippets of that catalog. -/
def printCatalog : SnippetsRequest :=
  ⟨"catalog.yaml", none, true⟩

theorem printCatalog_finds {bytes : List UInt8} {s : Snapshot}
    (h : (Snapshot.loadBytes .strict "catalog.yaml" bytes).result = .ok s) :
    printCatalog.Finds [] (catalogTree bytes) s := by
  have hpath : Path.ofText "catalog.yaml" = ⟨"", ["catalog.yaml"]⟩ := by decide +kernel
  have hnull : (Path.mk "" ["catalog.yaml"]).text.contains '\x00' = false := by simp [Path.text]
  have hplace :
      (catalogTree bytes).place ⟨"", ["catalog.yaml"]⟩ = .ok ["home", "catalog.yaml"] := by
    rw [FileTree.place, hnull]
    rfl
  refine ⟨⟨defaultSection, none, true⟩, bytes, by rfl, ?_, ?_⟩
  · show (catalogTree bytes).read (.ofText "catalog.yaml") = _
    rw [hpath, FileTree.read, hplace]
    rfl
  · show (Snapshot.loadBytes .strict (Path.ofText "catalog.yaml").text bytes).result = _
    rw [hpath]
    exact h

theorem exists_of_map_toOption {ε α β : Type} {x : Except ε α} {f : α → β} {b : β}
    (h : x.toOption.map f = some b) : ∃ a, x = .ok a ∧ f a = b := by
  cases x with
  | error e => cases h
  | ok a => exact ⟨a, rfl, Option.some.inj h⟩

/-- A quote, a backslash, a control character and a letter beyond ASCII. -/
def quotedText : Text :=
  "\"\\\x01é"

/-- A catalog whose one action has that text as its description. -/
def quotedCatalog : List UInt8 :=
  "actions:\n- key: Paste\n  description: \"\\\"\\\\\\x01é\"\n".toUTF8.toList

/-- A catalog whose one action has a description of one character, written as the two halves of its
pair. -/
def halvesCatalog : List UInt8 :=
  (String.toUTF8
    "\x7b\"actions\": [\x7b\"key\": \"Click\", \"description\": \"\\ud83d\\ude00\"\x7d]\x7d").toList

end Command

end Actionary
