import Mathlib.Data.List.Forall2
import Actionary.Json
import Actionary.Proofs.Distinct

/-!
# JSON texts read back

A reader for the JSON texts of results. It works in two stages:

    lex      characters to tokens: brackets, commas, colons and texts without their escapes
    step     tokens to a value, one by one, with what is not closed yet on a stack

Of two members of a record with one name the later counts, in the place of the earlier, as in any
dictionary. So a value can come back from its text only if no record in it has a name twice
(`DistinctNames`), and then it does (`read?_toText`). Numbers, truth values and null are not among
the values of results and are refused.
-/

namespace Actionary.Json

/-! ## Tokens -/

/-- The tokens of a JSON text. -/
inductive Token where
  | openArray
  | closeArray
  | openObject
  | closeObject
  | comma
  | colon
  | text (s : Text)

/-- The blanks between tokens. -/
def isSpace (c : Code) : Bool :=
  c == ' ' || c == '\t' || c == '\n' || c == '\r'

/-- The token that a character is by itself. -/
def mark? (c : Code) : Option Token :=
  if c == '[' then some .openArray
  else if c == ']' then some .closeArray
  else if c == '{' then some .openObject
  else if c == '}' then some .closeObject
  else if c == ',' then some .comma
  else if c == ':' then some .colon
  else none

/-- The character that a letter behind a backslash stands for. -/
def escape? (c : Code) : Option Code :=
  if c == '"' || c == '\\' || c == '/' then some c
  else if c == 'b' then some '\x08'
  else if c == 'f' then some '\x0C'
  else if c == 'n' then some '\n'
  else if c == 'r' then some '\r'
  else if c == 't' then some '\t'
  else none

/-- The value of a hexadecimal digit. -/
def hexDigit? (c : Code) : Option Nat :=
  if '0' ≤ c && c ≤ '9' then some (c.toNat - 0x30)
  else if 'a' ≤ c && c ≤ 'f' then some (c.toNat - 0x57)
  else if 'A' ≤ c && c ≤ 'F' then some (c.toNat - 0x37)
  else none

/-- A part of a quoted text: a code point, or a code unit that is written by its number. -/
inductive Part where
  | point (c : Code)
  | unit (n : Nat)

/-- The text of parts. Two units side by side make one character if they are the two halves of its
pair; any other half stays a half. -/
def joinParts : List Part → List Code
  | [] => []
  | .point c :: ps => c :: joinParts ps
  | .unit high :: .unit low :: ps =>
    if 0xD800 ≤ high && high < 0xDC00 && 0xDC00 ≤ low && low < 0xE000 then
      .ofNat (0x10000 + (high - 0xD800) * 0x400 + (low - 0xDC00)) :: joinParts ps
    else .ofNat high :: joinParts (.unit low :: ps)
  | .unit n :: ps => .ofNat n :: joinParts ps

/-- Where the reader of tokens stands: between tokens, inside a text with its parts so far, behind a
backslash, or inside the number of a code unit. Of a number it has the value of the digits so far,
and how many come behind the next one. -/
inductive Mode where
  | between
  | plain (parts : List Part)
  | escaped (parts : List Part)
  | code (parts : List Part) (left value : Nat)

/-- The tokens of a text, if it has only tokens and blanks. -/
def lex : Mode → List Code → Option (List Token)
  | .between, [] => some []
  | _, [] => none
  | .between, c :: cs =>
    if isSpace c then lex .between cs
    else if c == '"' then lex (.plain []) cs
    else (mark? c).bind fun t => (lex .between cs).map (t :: ·)
  | .plain parts, c :: cs =>
    if c == '"' then (lex .between cs).map (.text (Text.ofList (joinParts parts)) :: ·)
    else if c == '\\' then lex (.escaped parts) cs
    else if c.toNat < 0x20 then none
    else lex (.plain (parts ++ [.point c])) cs
  | .escaped parts, c :: cs =>
    if c == 'u' then lex (.code parts 3 0) cs
    else (escape? c).bind fun d => lex (.plain (parts ++ [.point d])) cs
  | .code parts 0 value, c :: cs =>
    (hexDigit? c).bind fun d => lex (.plain (parts ++ [.unit (16 * value + d)])) cs
  | .code parts (left + 1) value, c :: cs =>
    (hexDigit? c).bind fun d => lex (.code parts left (16 * value + d)) cs

/-! ## Values -/

/-- A sequence or record that is not closed yet. -/
inductive Unclosed where
  | array (items : List Json)
  /-- A record with its members so far, and the name of the next one. -/
  | object (members : List (Text × Json)) (name : Text)

/-- What may come next. -/
inductive Expected where
  | value
  /-- The first item of a sequence, or its end. -/
  | item
  /-- The name of a member of a record, or the end of the record if it has no members. -/
  | name (members : List (Text × Json))
  | colon (members : List (Text × Json)) (name : Text)
  /-- What follows a value. -/
  | more (v : Json)

/-- Where the reader of values stands. -/
structure Reader where
  expected : Expected
  /-- What is not closed yet, from the innermost on. -/
  unclosed : List Unclosed

namespace Reader

/-- A token where a value has to start. -/
def start (unclosed : List Unclosed) : Token → Option Reader
  | .text s => some ⟨.more (.text s), unclosed⟩
  | .openArray => some ⟨.item, unclosed⟩
  | .openObject => some ⟨.name [], unclosed⟩
  | _ => none

/-- A token behind a value. -/
def follow (v : Json) : List Unclosed → Token → Option Reader
  | .array items :: outer, .comma => some ⟨.value, .array (items ++ [v]) :: outer⟩
  | .array items :: outer, .closeArray => some ⟨.more (.array (items ++ [v])), outer⟩
  | .object members name :: outer, .comma => some ⟨.name (place (·.1) (name, v) members), outer⟩
  | .object members name :: outer, .closeObject =>
      some ⟨.more (.object (place (·.1) (name, v) members)), outer⟩
  | _, _ => none

/-- Reads a token. -/
def step : Reader → Token → Option Reader
  | ⟨.value, unclosed⟩, t => start unclosed t
  | ⟨.item, unclosed⟩, .closeArray => some ⟨.more (.array []), unclosed⟩
  | ⟨.item, unclosed⟩, t => start (.array [] :: unclosed) t
  | ⟨.name members, unclosed⟩, .text name => some ⟨.colon members name, unclosed⟩
  | ⟨.name members, unclosed⟩, .closeObject =>
    if members.isEmpty then some ⟨.more (.object []), unclosed⟩ else none
  | ⟨.colon members name, unclosed⟩, .colon => some ⟨.value, .object members name :: unclosed⟩
  | ⟨.more v, unclosed⟩, t => follow v unclosed t
  | _, _ => none

/-- Reads tokens from the first to the last. -/
def run : List Token → Reader → Option Reader
  | [], r => some r
  | t :: ts, r => (step r t).bind (run ts)

/-- The value that was read, if it is complete. -/
def result? : Reader → Option Json
  | ⟨.more v, []⟩ => some v
  | _ => none

end Reader

/-- The value of a JSON text. -/
def read? (text : Text) : Option Json :=
  (lex .between text.toList).bind fun ts => (Reader.run ts ⟨.value, []⟩).bind Reader.result?

/-! ## Texts of tokens -/

/-- Whatever follows, a text is read as the given tokens and then what follows. -/
def Spells (text : Text) (ts : List Token) : Prop :=
  ∀ cs, lex .between (text.toList ++ cs) = (lex .between cs).map (ts ++ ·)

theorem Spells.append {s t : Text} {ts us : List Token} (hs : Spells s ts) (ht : Spells t us) :
    Spells (s ++ t) (ts ++ us) := by
  intro cs
  rw [Text.toList_append, List.append_assoc, hs, ht, Option.map_map]
  refine congrArg (Option.map · _) (funext fun more => ?_)
  exact (List.append_assoc ts us more).symm

theorem lex_blanks {gap : List Code} (h : ∀ c ∈ gap, isSpace c = true) (cs : List Code) :
    lex .between (gap ++ cs) = lex .between cs := by
  induction gap with
  | nil => rfl
  | cons c gap ih =>
      obtain ⟨hc, hgap⟩ := List.forall_mem_cons.mp h
      rw [List.cons_append, lex, if_pos hc, ih hgap]

theorem spells_lineStart (level : Nat) : Spells (lineStart level) [] := by
  have hblanks : ∀ c ∈ (lineStart level).toList, isSpace c = true := by
    intro c hc
    rw [lineStart, Text.toList_append] at hc
    rcases List.mem_append.mp hc with hc | hc
    · obtain rfl := List.mem_singleton.mp hc
      rfl
    · rw [Text.toList_ofList] at hc
      obtain rfl := List.eq_of_mem_replicate hc
      rfl
  intro cs
  rw [lex_blanks hblanks]
  exact Option.map_id'.symm

/-! ## Quoted texts -/

/-- A part that the writer may give for a code point. Only controls are written by their numbers, so
no two of these numbers are the halves of a pair. -/
inductive Writes : Part → Code → Prop
  | point (c : Code) : Writes (.point c) c
  | control {c : Code} : c.toNat < 0x20 → Writes (.unit c.toNat) c

theorem joinParts_eq {ps : List Part} {s : List Code} (h : List.Forall₂ Writes ps s) :
    joinParts ps = s := by
  induction h with
  | nil => rfl
  | @cons p c ps s hp hps ih =>
      cases hp with
      | point c => rw [joinParts, ih]
      | control hcontrol =>
          have hlow : (0xD800 ≤ c.toNat) = false := by
            simp only [eq_iff_iff, Bool.false_eq_true, iff_false]
            omega
          cases ps with
          | nil => rw [joinParts, ih, Code.ofNat_toNat]; simp
          | cons q ps =>
              cases q with
              | point d => rw [joinParts, ih, Code.ofNat_toNat]; simp
              | unit n =>
                  rw [joinParts, ih, Code.ofNat_toNat]
                  simp [hlow]

/-- A control character is written by its number, of which the first two digits are zeros. -/
theorem hexPadded_control : ∀ n < 0x20, ∃ a b, Text.hexPadded 4 n = [.char '0', .char '0', a, b] ∧
    hexDigit? a = some (n / 16) ∧ hexDigit? b = some (n % 16) := by
  intro n hn
  refine ⟨Nat.digitChar (n / 16), Nat.digitChar (n % 16), ?_⟩
  revert n
  decide

theorem lex_escapeChar (c : Code) :
    ∃ p, Writes p c ∧ ∀ parts cs,
      lex (.plain parts) (escapeChar c ++ cs) = lex (.plain (parts ++ [p])) cs := by
  unfold escapeChar
  split
  · exact ⟨_, .point _, fun _ _ => rfl⟩
  · exact ⟨_, .point _, fun _ _ => rfl⟩
  · exact ⟨_, .point _, fun _ _ => rfl⟩
  · exact ⟨_, .point _, fun _ _ => rfl⟩
  · exact ⟨_, .point _, fun _ _ => rfl⟩
  · exact ⟨_, .point _, fun _ _ => rfl⟩
  · exact ⟨_, .point _, fun _ _ => rfl⟩
  · next hquote hbackslash _ _ _ _ _ =>
      split
      · next hcontrol =>
          refine ⟨_, .control hcontrol, fun parts cs => ?_⟩
          obtain ⟨a, b, hhex, ha, hb⟩ := hexPadded_control c.toNat hcontrol
          rw [hhex]
          show lex (.code parts 1 0) (a :: b :: cs) = _
          rw [lex, ha, Option.bind_some, lex, hb, Option.bind_some]
          have hcode : 16 * (16 * 0 + c.toNat / 16) + c.toNat % 16 = c.toNat := by omega
          rw [hcode]
      · next hplain =>
          refine ⟨_, .point c, fun parts cs => ?_⟩
          show lex (.plain parts) (c :: cs) = _
          rw [lex, if_neg (fun h => hquote (eq_of_beq h)),
            if_neg (fun h => hbackslash (eq_of_beq h)), if_neg hplain]

theorem lex_flatMap_escapeChar (s : List Code) :
    ∃ ps, List.Forall₂ Writes ps s ∧ ∀ parts cs,
      lex (.plain parts) (s.flatMap escapeChar ++ cs) = lex (.plain (parts ++ ps)) cs := by
  induction s with
  | nil => exact ⟨[], .nil, fun parts cs => by rw [List.append_nil]; rfl⟩
  | cons c s ih =>
      obtain ⟨p, hp, hlex⟩ := lex_escapeChar c
      obtain ⟨ps, hps, hmore⟩ := ih
      refine ⟨p :: ps, .cons hp hps, fun parts cs => ?_⟩
      rw [List.flatMap_cons, List.append_assoc, hlex, hmore, List.append_assoc]
      rfl

/-- **A quoted text is read as the text**, whatever characters and halves it holds. -/
theorem spells_quote (s : Text) : Spells (quote s) [.text s] := by
  intro cs
  obtain ⟨ps, hps, hlex⟩ := lex_flatMap_escapeChar s.toList
  rw [quote, Text.toList_ofList, List.append_assoc]
  show lex (.plain []) (s.toList.flatMap escapeChar ++ (.char '"' :: cs)) = _
  rw [hlex, List.nil_append]
  show (lex .between cs).map (.text (Text.ofList (joinParts ps)) :: ·) = _
  rw [joinParts_eq hps, Text.ofList_toList]
  rfl

/-! ## Values as tokens -/

/-- Tokens of several things, with commas between them. -/
def separated : List (List Token) → List Token
  | [] => []
  | ts :: more => ts ++ more.flatMap (.comma :: ·)

mutual

/-- The tokens of a value. -/
def tokens : Json → List Token
  | .text s => [.text s]
  | .array items => .openArray :: separated (itemTokens items) ++ [.closeArray]
  | .object members => .openObject :: separated (memberTokens members) ++ [.closeObject]

/-- The tokens of each item. -/
def itemTokens : List Json → List (List Token)
  | [] => []
  | v :: vs => tokens v :: itemTokens vs

/-- The tokens of each member. -/
def memberTokens : List (Text × Json) → List (List Token)
  | [] => []
  | (name, v) :: rest => (.text name :: .colon :: tokens v) :: memberTokens rest

end

/-- A value in which no record has two members of one name. -/
inductive DistinctNames : Json → Prop
  | text (s : Text) : DistinctNames (.text s)
  | array {items : List Json} : (∀ v ∈ items, DistinctNames v) → DistinctNames (.array items)
  | object {members : List (Text × Json)} : (members.map (·.1)).Nodup →
      (∀ m ∈ members, DistinctNames m.2) → DistinctNames (.object members)

/-- Lines that spell tokens, line by line. -/
abbrev SpellAll : List Text → List (List Token) → Prop :=
  List.Forall₂ Spells

theorem spells_intercalate {between : Text} (hbetween : Spells between [.comma]) {line : Text}
    {lines : List Text} {ts : List Token} {tss : List (List Token)}
    (h : SpellAll (line :: lines) (ts :: tss)) :
    Spells (between.intercalate (line :: lines)) (separated (ts :: tss)) := by
  induction lines generalizing line ts tss with
  | nil =>
      obtain ⟨hline, hnil⟩ := List.forall₂_cons.mp h
      obtain rfl := List.forall₂_nil_left_iff.mp hnil
      rw [Text.intercalate_singleton, separated, List.flatMap_nil, List.append_nil]
      exact hline
  | cons next lines ih =>
      obtain ⟨hline, hlines⟩ := List.forall₂_cons.mp h
      obtain ⟨us, uss, -, -, rfl⟩ := List.forall₂_cons_left_iff.mp hlines
      have hcut : separated (ts :: us :: uss) = ts ++ [.comma] ++ separated (us :: uss) := by
        rw [separated, List.flatMap_cons, List.append_assoc]
        rfl
      rw [Text.intercalate_cons_cons, hcut]
      exact (hline.append hbetween).append (ih hlines)

theorem spells_enclosed {opening closing : Text} {first last : Token}
    (hopening : Spells opening [first])
    (hclosing : Spells closing [last]) (level : Nat) {lines : List Text} {tss : List (List Token)}
    (h : SpellAll lines tss) :
    Spells (enclosed opening closing level lines) (first :: separated tss ++ [last]) := by
  cases h with
  | nil => exact hopening.append hclosing
  | @cons line ts lines tss hline hlines =>
      have hcomma : Spells "," [.comma] := fun _ => rfl
      have hinner :=
        spells_intercalate (hcomma.append (spells_lineStart (level + 1))) (.cons hline hlines)
      rw [enclosed, if_neg (by simp)]
      have hall := (((hopening.append (spells_lineStart (level + 1))).append hinner).append
        (spells_lineStart level)).append hclosing
      rwa [List.append_nil, List.append_nil] at hall

theorem spellAll_items {items : List Json} {level : Nat}
    (h : ∀ v ∈ items, Spells (render level v) (tokens v)) :
    SpellAll (renderItems level items) (itemTokens items) := by
  induction items with
  | nil => exact .nil
  | cons v items ih =>
      obtain ⟨hv, hitems⟩ := List.forall_mem_cons.mp h
      exact .cons hv (ih hitems)

theorem spellAll_members {members : List (Text × Json)} {level : Nat}
    (h : ∀ m ∈ members, Spells (render level m.2) (tokens m.2)) :
    SpellAll (renderMembers level members) (memberTokens members) := by
  induction members with
  | nil => exact .nil
  | cons m members ih =>
      obtain ⟨hm, hmembers⟩ := List.forall_mem_cons.mp h
      have hcolon : Spells ": " [.colon] := fun _ => rfl
      exact .cons (((spells_quote m.1).append hcolon).append hm) (ih hmembers)

/-- **The text of a value spells its tokens**, at every level. -/
theorem spells_render {v : Json} (h : v.DistinctNames) (level : Nat) :
    Spells (render level v) (tokens v) := by
  -- the names do not matter here; the induction along `h` goes to the items and members of `v`
  induction h generalizing level with
  | text s => exact spells_quote s
  | array _ ih =>
      exact spells_enclosed (fun _ => rfl) (fun _ => rfl) level
        (spellAll_items fun v hv => ih v hv (level + 1))
  | object _ _ ih =>
      exact spells_enclosed (fun _ => rfl) (fun _ => rfl) level
        (spellAll_members fun m hm => ih m hm (level + 1))

/-! ## Tokens as values -/

namespace Reader

theorem run_append (ts us : List Token) (r : Reader) :
    run (ts ++ us) r = (run ts r).bind (run us) := by
  induction ts generalizing r with
  | nil => rfl
  | cons t ts ih =>
      show (step r t).bind (run (ts ++ us)) = ((step r t).bind (run ts)).bind (run us)
      rw [Option.bind_assoc]
      exact congrArg (Option.bind _) (funext ih)

/-- The reader reads a value, whatever is not closed yet. -/
def Reads (v : Json) : Prop :=
  ∀ outer, run (tokens v) ⟨.value, outer⟩ = some ⟨.more v, outer⟩

/-- Behind an opening bracket a value is read as the first item of a sequence. -/
theorem run_tokens_item (v : Json) (outer : List Unclosed) :
    run (tokens v) ⟨.item, outer⟩ = run (tokens v) ⟨.value, .array [] :: outer⟩ := by
  cases v with
  | text s => rfl
  | array items => rfl
  | object members => rfl

/-- What follows an item, up to the end of the sequence. -/
theorem run_items {items : List Json} (h : ∀ w ∈ items, Reads w) (done : List Json) (v : Json)
    (outer : List Unclosed) :
    run ((itemTokens items).flatMap (.comma :: ·) ++ [.closeArray])
      ⟨.more v, .array done :: outer⟩ =
      some ⟨.more (.array (done ++ v :: items)), outer⟩ := by
  induction items generalizing done v with
  | nil => rfl
  | cons w items ih =>
      obtain ⟨hw, hitems⟩ := List.forall_mem_cons.mp h
      rw [itemTokens, List.flatMap_cons, List.append_assoc, List.cons_append]
      show run (tokens w ++ _) ⟨.value, .array (done ++ [v]) :: outer⟩ = _
      rw [run_append, hw, Option.bind_some, ih hitems, List.append_assoc]
      rfl

/-- A member with a name of its own goes behind the members before it. -/
theorem place_member {done members : List (Text × Json)} {m : Text × Json}
    (h : ((done ++ m :: members).map (·.1)).Nodup) : place (·.1) m done = done ++ [m] := by
  apply place_eq_append
  intro hmem
  rw [List.map_append, List.map_cons, List.nodup_middle, List.nodup_cons] at h
  exact h.1 (List.mem_append_left _ hmem)

/-- What follows a member, up to the end of the record. -/
theorem run_members {members : List (Text × Json)} (h : ∀ m ∈ members, Reads m.2)
    (done : List (Text × Json)) (m : Text × Json) (outer : List Unclosed)
    (hnames : ((done ++ m :: members).map (·.1)).Nodup) :
    run ((memberTokens members).flatMap (.comma :: ·) ++ [.closeObject])
        ⟨.more m.2, .object done m.1 :: outer⟩ =
      some ⟨.more (.object (done ++ m :: members)), outer⟩ := by
  induction members generalizing done m with
  | nil =>
      show some (Reader.mk (.more (.object (place (·.1) m done))) outer) = _
      rw [place_member hnames]
  | cons n members ih =>
      obtain ⟨hn, hmembers⟩ := List.forall_mem_cons.mp h
      rw [memberTokens, List.flatMap_cons, List.append_assoc]
      show run (tokens n.2 ++ _) ⟨.value, .object (place (·.1) m done) n.1 :: outer⟩ = _
      have hbehind : done ++ m :: n :: members = done ++ [m] ++ n :: members :=
        List.append_cons done m (n :: members)
      rw [run_append, hn, Option.bind_some, place_member hnames, ih hmembers, hbehind]
      rw [← hbehind]
      exact hnames

/-- **The tokens of a value are read as the value**, whatever is not closed yet. -/
theorem reads_of_distinctNames {v : Json} (h : v.DistinctNames) : Reads v := by
  induction h with
  | text s => exact fun outer => rfl
  | @array items _ ih =>
      intro outer
      cases items with
      | nil => rfl
      | cons v items =>
          obtain ⟨hv, hitems⟩ := List.forall_mem_cons.mp ih
          rw [tokens, itemTokens, separated, List.cons_append, List.append_assoc]
          show run (tokens v ++ _) ⟨.item, outer⟩ = _
          rw [run_append, run_tokens_item, hv, Option.bind_some, run_items hitems]
          rfl
  | @object members hnames _ ih =>
      intro outer
      cases members with
      | nil => rfl
      | cons m members =>
          obtain ⟨hm, hmembers⟩ := List.forall_mem_cons.mp ih
          rw [tokens, memberTokens, separated, List.cons_append, List.append_assoc]
          show run (tokens m.2 ++ _) ⟨.value, .object [] m.1 :: outer⟩ = _
          rw [run_append, hm, Option.bind_some, run_members hmembers [] m outer hnames]
          rfl

end Reader

/-- **A value comes back from its text**, with blanks behind it or without, if no record in it has a
name twice. -/
theorem read?_toText {v : Json} (h : v.DistinctNames) {back : Text}
    (hback : ∀ c ∈ back.toList, isSpace c = true) : read? (v.toText ++ back) = some v := by
  have htokens : lex .between (v.toText ++ back).toList = some (tokens v) := by
    rw [Text.toList_append, toText, spells_render h 0]
    have hend := lex_blanks hback []
    rw [List.append_nil] at hend
    rw [hend]
    exact congrArg some (List.append_nil _)
  rw [read?, htokens, Option.bind_some, Reader.reads_of_distinctNames h]
  rfl

end Actionary.Json
