import Actionary.Pattern.Syntax
import Actionary.Record.Checked
import Actionary.Text.Utf8
import Actionary.Value.Display

/-!
# Fields of records

How a field of each type is read from a value, and how a record is read field by field.
-/

namespace Actionary

namespace Field

/-- A text, or bytes that encode one. -/
def text : Value → Checked Text
  | .text s => .valid s
  | .bytes b =>
    match Text.Utf8.decode? b with
    | some s => .valid s
    | none => .fault .badEncoding
  | _ => .fault .notText

/-- A text that is compared by its encoding, so it needs one. -/
def encoded (s : Text) : Checked Text :=
  if s.hasHalf then .fault .badEncoding else .valid s

def members? : Value → Option (List Value)
  | .list items | .tuple items | .set items => some items
  | _ => none

/-- A sequence whose members are read one by one. -/
def sequence (read : Value → Checked α) (v : Value) : Checked (List α) :=
  match members? v with
  | some items => .each read items
  | none => .fault .notSequence

def texts (v : Value) : Checked (List Text) :=
  sequence text v

/-- Whether a character is a blank around the digits of an integer field. -/
def isPadding (c : Code) : Bool :=
  let n := c.toNat
  (9 ≤ n && n ≤ 13) || n == 0x20 || n == 0x85 || n == 0xA0 || n == 0x1680 ||
    (0x2000 ≤ n && n ≤ 0x200A) || n == 0x2028 || n == 0x2029 || n == 0x202F || n == 0x205F ||
    n == 0x3000

/-- An integer text without the zeros at its front and the underscores among them. The last of them
stays where nothing or a point follows; besides these only a digit or a minus sign may follow. -/
def dropZeros : List Code → Option (List Code)
  | '0' :: cs => go '0' cs
  | c :: cs => if c == '-' || Text.isAsciiDigit c then some (c :: cs) else none
  | [] => none
where
  go (last : Code) : List Code → Option (List Code)
    | [] => some [last]
    | c :: cs =>
      if c == '0' || c == '_' then go c cs
      else if c == '.' then some (last :: c :: cs)
      else if c == '-' || Text.isAsciiDigit c then some (c :: cs)
      else none

/-- A text without a point and the zeros after it, of which there is at least one. -/
def dropPoint (cs : List Code) : List Code :=
  match cs.dropWhile (· != Code.char '.') with
  | _ :: z :: zeros =>
    if (z :: zeros).all (· == Code.char '0') then cs.takeWhile (· != Code.char '.') else cs
  | _ => cs

def doublesUnderscore : List Code → Bool
  | '_' :: '_' :: _ => true
  | _ :: cs => doublesUnderscore cs
  | [] => false

/-- A text without its underscores, if each stands alone between two other characters. -/
def dropUnderscores (cs : List Code) : List Code :=
  if cs.head? == some '_' || cs.getLast? == some '_' || doublesUnderscore cs then cs
  else cs.filter (· != Code.char '_')

/-- The digits of an integer text with the minus sign in front of them: blanks around it, a plus
sign, zeros at its front, a point with zeros behind it and underscores are dropped. -/
def cleaned? (cs : List Code) : Option (List Code) :=
  let unsigned? :=
    match Text.trimBy isPadding cs with
    | '+' :: '-' :: _ => none
    | '+' :: ds => some ds
    | ds => some ds
  (unsigned?.bind dropZeros).map fun ds => dropUnderscores (dropPoint ds)

/-- The number that ASCII digits write, of which there must be some. -/
def digits? : List Code → Option Nat
  | [] => none
  | cs =>
    if cs.all Text.isAsciiDigit then some (cs.foldl (fun n c => n * 10 + (c.toNat - 48)) 0)
    else none

def longestInteger : Nat := 4300

def integerText (cs : List Code) : Checked Int :=
  match cleaned? cs with
  | none => .fault .integerText
  | some ds =>
    if longestInteger < ds.length then .fault .tooLarge
    else
      let n? : Option Int :=
        match ds with
        | '-' :: ds => (digits? ds).map fun n => -(n : Int)
        | ds => (digits? ds).map fun n => (n : Int)
      match n? with
      | some n => .valid n
      | none => .fault .integerText

def beyondEightBytes : Int := 0x8000000000000000

def integer : Value → Checked Int
  | .bool b => .valid (if b then 1 else 0)
  | .int n => .valid n
  | .float x =>
    match x with
    | .nan | .infinite _ => .fault .notFinite
    | x =>
      match x.toInt? with
      | none => .fault .fraction
      | some n =>
        if -beyondEightBytes < n && n < beyondEightBytes then .valid n else .fault .tooLarge
  | .text s => (encoded s).bind fun s => integerText s.toList
  | .bytes b =>
    match Text.Utf8.decode? b with
    | some s => integerText s.toList
    | none => .fault .integerText
  | _ => .fault .notInteger

/-- An integer that is not negative. -/
def natural (v : Value) : Checked Nat :=
  (integer v).bind fun n => if n < 0 then .fault .negative else .valid n.toNat

def truthWord? (word : Text) : Option Bool :=
  if [("1" : Text), "on", "t", "true", "y", "yes"].contains word then some true
  else if [("0" : Text), "off", "f", "false", "n", "no"].contains word then some false
  else none

def truth : Value → Checked Bool
  | .bool b => .valid b
  | .int n =>
    if n == 0 then .valid false
    else if n == 1 then .valid true
    else if -beyondEightBytes ≤ n && n < beyondEightBytes then .fault .truthText
    else .fault .notTruth
  | .float x =>
    match x.toInt? with
    | some n =>
      if n == 0 then .valid false
      else if n == 1 then .valid true
      else if -beyondEightBytes < n && n < beyondEightBytes then .fault .truthText
      else .fault .notTruth
    | none => .fault .notTruth
  | .text s => (encoded s).bind ofText
  | .bytes b =>
    match Text.Utf8.decode? b with
    | some s => ofText s
    | none => .fault .truthText
  | _ => .fault .notTruth
where
  ofText (s : Text) : Checked Bool :=
    match truthWord? (Text.ofList (s.toList.map Code.toLower)) with
    | some b => .valid b
    | none => .fault .truthText

/-- The step that a key of a map is shown as: an integer of 64 bits as itself, all else as a text
without halves. -/
def keyStep (k : Value) : Step :=
  match k.integer? with
  | some n => if -beyondEightBytes ≤ n && n < beyondEightBytes then .index n else .field k.display
  | none => .field k.display.blurred

def textEntry (entry : Value × Value) : Checked (Text × Text) :=
  let step := keyStep entry.1
  (((text entry.1).under (.field "[key]")).under step).both ((text entry.2).under step)

def textEntries : List (Value × Value) → Checked (List (Text × Text))
  | [] => .valid []
  | e :: es => ((textEntry e).both (textEntries es)).map fun p => p.1 :: p.2

def textMap : Value → Checked (List (Text × Text))
  | .map entries => textEntries entries
  | _ => .fault .notMap

def optional (read : Value → Checked α) : Value → Checked (Option α)
  | .null => .valid none
  | v => (read v).map some

end Field

abbrev Entries := List (Value × Value)

namespace Entries

/-- A field that must be there. -/
def required (entries : Entries) (name : Text) (read : Value → Checked α) : Checked α :=
  match Value.get? entries name with
  | some v => (read v).under (.field name)
  | none => (Checked.fault .missing).under (.field name)

def withDefault (entries : Entries) (name : Text) (default : α) (read : Value → Checked α) :
    Checked α :=
  match Value.get? entries name with
  | some v => (read v).under (.field name)
  | none => .valid default

/-- The faults of fields that a record does not have. -/
def unknownFields (entries : Entries) (known : List Text) : List Fault :=
  entries.filterMap fun e =>
    match e.1 with
    | .text name => if known.contains name then none else some ⟨.unknownField, [.field name]⟩
    | k => some ⟨.keyNotText, [Field.keyStep k]⟩

def hasHalfKey (entries : Entries) : Bool :=
  entries.any fun e =>
    match e.1 with
    | .text name => name.hasHalf
    | _ => false

/-- What is read from a record that has the known fields only. The names of fields are compared by
their encodings, and a name without one ends the reading. -/
def only (entries : Entries) (known : List Text) (fields : Checked α) : Checked α :=
  if entries.hasHalfKey then .fault .badEncoding else fields.also (entries.unknownFields known)

end Entries

/-- Reads a record: a map whose fields are read by `read`. -/
def readRecord (kind : RecordKind) (read : Entries → Checked α) : Value → Checked α
  | .map entries => read entries
  | _ => .fault (.notRecord kind)

end Actionary
