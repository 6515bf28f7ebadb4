import Actionary.Text.Utf8
import Actionary.Yaml.Scalar
import Actionary.Yaml.Source
import Actionary.Yaml.Token

/-!
# From text to tokens

The tokens of a text, in order. Whether a text on a line is a key is known only when the colon
behind it is found; until then it is a possible key, and the tokens from it on are not settled.
Scanning goes on to the end or to the first problem, and a problem leaves only the tokens that were
settled before it: what reads the tokens meets a fault of its own in them first, and the problem
only when it needs more. Where a text breaks off there is a problem too.
-/

namespace Actionary.Yaml

/-- A text that may turn out to be a key, with the numbers of flow collections around it and of
tokens before it. -/
structure PossibleKey where
  depth : Nat
  tokens : Nat
  required : Bool
  mark : Mark
deriving Repr

/-- The state of scanning. There is at most one possible key for each depth; the tokens are kept
latest first. -/
structure Scanner where
  place : Place
  depth : Nat
  indent : Int
  outer : List Int
  keyAllowed : Bool
  keys : List PossibleKey
  tokens : List Token
  count : Nat
  done : Bool

abbrev Scan := StateT Scanner (Except Problem)

/-- A key must be found on the line it starts on, within this many characters. -/
def keyReach : Nat := 1024

namespace Scan

def fail (c : Complaint) : Scan α := do
  complain c (← get).place

def push (kind : TokenKind) (start stop : Mark) : Scan Unit :=
  modify fun s => { s with tokens := ⟨kind, start, stop⟩ :: s.tokens, count := s.count + 1 }

def insert (kind : TokenKind) (m : Mark) (before : Nat) : Scan Unit :=
  modify fun s => { s with
    tokens := s.tokens.insertIdx (s.count - before) ⟨kind, m, m⟩, count := s.count + 1 }

def pushHere (kind : TokenKind) : Scan Unit := do
  let m := (← get).place.mark
  push kind m m

def moveTo (p : Place) : Scan Unit :=
  modify fun s => { s with place := p }

def pushMark (kind : TokenKind) (length : Nat) : Scan Unit := do
  let p := (← get).place
  let q := p.skip length
  moveTo q
  push kind p.mark q.mark

def allowKey (allowed : Bool) : Scan Unit :=
  modify fun s => { s with keyAllowed := allowed }

def isStale (p : Place) (k : PossibleKey) : Bool :=
  k.mark.line != p.mark.line || p.mark.index - k.mark.index > keyReach

def dropStale : Scan Unit := do
  let s ← get
  if s.keys.any fun k => isStale s.place k && k.required then fail .colonExpected
  set { s with keys := s.keys.filter fun k => !isStale s.place k }

def dropKey : Scan Unit := do
  let s ← get
  if s.keys.any fun k => k.depth == s.depth && k.required then fail .colonExpected
  set { s with keys := s.keys.filter fun k => k.depth != s.depth }

/-- Takes what starts here as a possible key, if a key can stand here. -/
def saveKey : Scan Unit := do
  if (← get).keyAllowed then
    dropKey
    let s ← get
    let required := s.depth == 0 && s.indent == (s.place.mark.column : Int)
    let k : PossibleKey := ⟨s.depth, s.count, required, s.place.mark⟩
    set { s with keys := s.keys ++ [k] }

/-- Ends block collections that are indented further than a column, at most so many. -/
def endBlocks (column : Int) : Nat → Scan Unit
  | 0 => return ()
  | n + 1 => do
    let s ← get
    match s.outer with
    | [] => return ()
    | i :: outer =>
      if s.indent > column then
        pushHere .blockEnd
        modify fun s => { s with indent := i, outer := outer }
        endBlocks column n

/-- Ends the block collections that are indented further than a column. -/
def unwind (column : Int) : Scan Unit := do
  let s ← get
  if s.depth == 0 then endBlocks column s.outer.length

/-- Starts a block collection at a column, if it is indented further than the one around it. -/
def indentTo (column : Nat) : Scan Bool := do
  let s ← get
  if s.indent < column then
    set { s with indent := (column : Int), outer := s.indent :: s.outer }
    return true
  else return false

/-- Moves over spaces, comments and line breaks to the next token. -/
def skipToToken : Nat → Scan Unit
  | 0 => return ()
  | fuel + 1 => do
    let s ← get
    let p := s.place.skipWhile (· == ' ')
    let p := if p.head == '#' then p.skipWhile (!isBreakOrEnd ·) else p
    if isBreak p.head then
      set { s with place := p.lineBreak.2, keyAllowed := s.depth == 0 || s.keyAllowed }
      skipToToken fuel
    else moveTo p

def isNameChar (c : Code) : Bool :=
  c.isAlphanum || c == '-' || c == '_'

/-- A name, which must be followed by a character that meets a test. -/
def name (ends : Code → Bool) : Scan Text := do
  let p := (← get).place
  let cs := p.run isNameChar
  if cs.isEmpty then fail (.nameExpected p.head)
  moveTo (p.skip cs.length)
  let c := (← get).place.head
  if ends c then return Text.ofList cs else fail (.nameExpected c)

def versionNumber : Scan Nat := do
  let p := (← get).place
  let cs := p.run Text.isAsciiDigit
  if cs.isEmpty then fail (.digitExpected p.head)
  if cs.length > Numeral.mostDigits then throw .noValue
  moveTo (p.skip cs.length)
  return cs.foldl (fun n c => n * 10 + (c.toNat - 48)) 0

def skipSpaces : Scan Unit :=
  modify fun s => { s with place := s.place.skipWhile (· == ' ') }

def tagHandle : Scan Text := do
  let p := (← get).place
  if p.head != '!' then fail (.handleMarkExpected p.head)
  if p.ahead 1 == ' ' then
    moveTo p.next
    return "!"
  let cs := p.next.run isNameChar
  let q := p.next.skip cs.length
  moveTo q
  if q.head != '!' then fail (.handleMarkExpected q.head)
  moveTo q.next
  return Text.ofList (.char '!' :: cs ++ [.char '!'])

def isUriChar (c : Code) : Bool :=
  c.isAlphanum || (Text.toList "-;/?:@&=+$,_.!~*'()[]").contains c

/-- The bytes written as percent signs with two hexadecimal digits each. -/
def uriBytes : Nat → Scan (List UInt8)
  | 0 => return []
  | fuel + 1 => do
    let p := (← get).place
    if p.head != '%' then return []
    let q := p.next
    moveTo q
    let digits := (q.take 2).takeWhile isHexDigit
    if digits.length < 2 then fail (.uriEscapeExpected (q.ahead digits.length))
    moveTo (q.skip 2)
    return (hexValue digits).toUInt8 :: (← uriBytes fuel)

def uriParts : Nat → Scan (List Code)
  | 0 => return []
  | fuel + 1 => do
    let p := (← get).place
    let cs := p.run isUriChar
    let q := p.skip cs.length
    moveTo q
    if q.head != '%' then return cs
    let bytes ← uriBytes q.fuel
    match Text.Utf8.decode bytes with
    | .error f => complain (.uriEncoding f.message) q
    | .ok ds => return cs ++ ds ++ (← uriParts fuel)

def uri : Scan Text := do
  let p := (← get).place
  if isUriChar p.head || p.head == '%' then return Text.ofList (← uriParts p.fuel)
  else fail (.uriExpected p.head)

def directive : Scan Unit := do
  let start := (← get).place.mark
  moveTo (← get).place.next
  let n ← name isSpaceOrEnd
  let kind : TokenKind ←
    if n == "YAML" then do
      skipSpaces
      let major ← versionNumber
      let p := (← get).place
      if p.head != '.' then fail (.pointExpected p.head)
      moveTo p.next
      let minor ← versionNumber
      let p := (← get).place
      if !isSpaceOrEnd p.head then fail (.versionEndExpected p.head)
      pure (.version major minor)
    else if n == "TAG" then do
      skipSpaces
      let handle ← tagHandle
      let p := (← get).place
      if p.head != ' ' then fail (.spaceExpected p.head)
      skipSpaces
      let start ← uri
      let p := (← get).place
      if !isSpaceOrEnd p.head then fail (.spaceExpected p.head)
      pure (.handle handle start)
    else do
      modify fun s => { s with place := s.place.skipWhile (!isBreakOrEnd ·) }
      pure .directive
  let stop := (← get).place.mark
  moveTo (← restOfLine (← get).place)
  push kind start stop

def anchor (kind : Text → TokenKind) : Scan Unit := do
  let start := (← get).place.mark
  moveTo (← get).place.next
  let n ← name fun c => isGap c || c == '}' || (Text.toList "?:,]%@`").contains c
  push (kind n) start (← get).place.mark

def tag : Scan Unit := do
  let p := (← get).place
  let c := p.ahead 1
  let written : WrittenTag ←
    if c == '<' then do
      moveTo (p.skip 2)
      let suffix ← uri
      let q := (← get).place
      if q.head != '>' then fail (.tagEndExpected q.head)
      moveTo q.next
      pure ⟨none, suffix⟩
    else if isGap c then do
      moveTo p.next
      pure ⟨none, "!"⟩
    else if (p.next.run (!isSpaceOrEnd ·)).contains '!' then do
      let handle ← tagHandle
      let suffix ← uri
      pure ⟨some handle, suffix⟩
    else do
      moveTo p.next
      let suffix ← uri
      pure ⟨some "!", suffix⟩
  let q := (← get).place
  if !isSpaceOrEnd q.head then fail (.spaceExpected q.head)
  push (.tag written) p.mark q.mark

def streamEnd : Scan Unit := do
  unwind (-1)
  dropKey
  modify fun s => { s with keyAllowed := false, keys := [], done := true }
  pushHere .streamEnd

def documentMark (kind : TokenKind) : Scan Unit := do
  unwind (-1)
  dropKey
  allowKey false
  pushMark kind 3

def flowStart (kind : TokenKind) : Scan Unit := do
  saveKey
  modify fun s => { s with depth := s.depth + 1, keyAllowed := true }
  pushMark kind 1

def flowEnd (kind : TokenKind) : Scan Unit := do
  dropKey
  modify fun s => { s with depth := s.depth - 1, keyAllowed := false }
  pushMark kind 1

def flowEntry : Scan Unit := do
  allowKey true
  dropKey
  pushMark .flowEntry 1

def blockEntry : Scan Unit := do
  let s ← get
  if s.depth == 0 then
    if !s.keyAllowed then fail .entryNotAllowed
    if ← indentTo s.place.mark.column then pushHere .blockSequenceStart
  allowKey true
  dropKey
  pushMark .blockEntry 1

def key : Scan Unit := do
  let s ← get
  if s.depth == 0 then
    if !s.keyAllowed then fail .keyNotAllowed
    if ← indentTo s.place.mark.column then pushHere .blockMappingStart
  allowKey (s.depth == 0)
  dropKey
  pushMark .key 1

/-- Puts the token of a key in front of what turned out to be one, and starts a block mapping there
if one starts. -/
def settleKey (k : PossibleKey) : Scan Unit := do
  modify fun s => { s with keys := s.keys.filter fun k => k.depth != s.depth }
  insert .key k.mark k.tokens
  if (← get).depth == 0 then
    if ← indentTo k.mark.column then insert .blockMappingStart k.mark k.tokens
  allowKey false

def value : Scan Unit := do
  let s ← get
  match s.keys.find? (·.depth == s.depth) with
  | some k => settleKey k
  | none =>
    if s.depth == 0 then
      if !s.keyAllowed then fail .valueNotAllowed
      if ← indentTo s.place.mark.column then pushHere .blockMappingStart
    allowKey (s.depth == 0)
    dropKey
  pushMark .value 1

def quoted (double : Bool) : Scan Unit := do
  saveKey
  allowKey false
  let p := (← get).place
  let (text, q) ← quotedScalar double p
  moveTo q
  push (.scalar (Text.ofList text) (if double then .double else .single)) p.mark q.mark

def block (folded : Bool) : Scan Unit := do
  allowKey true
  dropKey
  let s ← get
  let (text, q) ← blockScalar folded s.indent s.place
  moveTo q
  push (.scalar (Text.ofList text) .block) s.place.mark q.mark

def plain : Scan Unit := do
  saveKey
  let s ← get
  let r := plainScalar (s.depth != 0) (s.indent + 1) s.place
  moveTo r.place
  allowKey r.broken
  push (.scalar (Text.ofList r.text) .plain) s.place.mark r.stop

def startsPlain (flow : Bool) (c following : Code) : Bool :=
  !(isGap c || (Text.toList "-?:,[]{}#&*!|>'\"%@`").contains c) ||
    (!isGap following && (c == '-' || (!flow && (c == '?' || c == ':'))))

def token : Scan Unit := do
  let start := (← get).place
  if start.mark.index == 0 && start.head == '\ufeff' then moveTo start.next
  skipToToken start.fuel
  dropStale
  unwind (← get).place.mark.column
  let s ← get
  let p := s.place
  let c := p.head
  let following := p.ahead 1
  let flow := s.depth != 0
  let atStart := p.mark.column == 0
  if p.rest.isEmpty then streamEnd
  else if c == '%' && atStart then do
    unwind (-1)
    dropKey
    allowKey false
    directive
  else if c == '-' && atStart && p.atSeparator then documentMark .documentStart
  else if c == '.' && atStart && p.atSeparator then documentMark .documentEnd
  else if c == '[' then flowStart .flowSequenceStart
  else if c == '{' then flowStart .flowMappingStart
  else if c == ']' then flowEnd .flowSequenceEnd
  else if c == '}' then flowEnd .flowMappingEnd
  else if c == ',' then flowEntry
  else if c == '-' && isGap following then blockEntry
  else if c == '?' && (flow || isGap following) then key
  else if c == ':' && (flow || isGap following) then value
  else if c == '*' then do
    saveKey
    allowKey false
    anchor .alias
  else if c == '&' then do
    saveKey
    allowKey false
    anchor .anchor
  else if c == '!' then do
    saveKey
    allowKey false
    tag
  else if c == '|' && !flow then block false
  else if c == '>' && !flow then block true
  else if c == '\'' then quoted false
  else if c == '"' then quoted true
  else if startsPlain flow c following then plain
  else fail (.cannotStart c)

end Scan

namespace Scanner

def start (text : List Code) : Scanner :=
  ⟨.start text, 0, -1, [], true, [], [⟨.streamStart, ⟨0, 0, 0⟩, ⟨0, 0, 0⟩⟩], 1, false⟩

/-- How many tokens are settled: those before the first possible key. -/
def settled (s : Scanner) : Nat :=
  s.keys.foldl (fun n k => min n k.tokens) s.count

def first (s : Scanner) (n : Nat) : List Token :=
  (s.tokens.drop (s.count - n)).reverse

end Scanner

/-- The tokens of a text, and the problem that ends them if there is one. -/
structure TokenStream where
  tokens : List Token
  problem : Option Problem

/-- The problem that is met in a text: behind the place where it breaks off, no other. -/
def Source.problem (source : Source) : Problem → Problem
  | .found c m => if source.fails m.index then .noValue else .found c m
  | .noValue => .noValue

/-- Scans token after token. `settled` is the number of tokens that were settled before the last one
was scanned. -/
def scanFrom (source : Source) : Nat → Nat → Scanner → TokenStream
  | 0, _, s => ⟨s.first s.count, none⟩
  | fuel + 1, settled, s =>
    if s.done then ⟨s.first s.count, none⟩
    else
      match Scan.dropStale.run s with
      | .error problem => ⟨s.first settled, some (source.problem problem)⟩
      | .ok (_, s) =>
        match Scan.token.run s with
        | .error problem => ⟨s.first s.settled, some (source.problem problem)⟩
        | .ok (_, t) =>
          if source.fails t.place.mark.index then ⟨s.first s.settled, some .noValue⟩
          else scanFrom source fuel s.settled t

def scan (source : Source) : TokenStream :=
  scanFrom source (source.text.length + 2) 1 (.start source.text)

end Actionary.Yaml
