import Actionary.Completion.Recognition
import Actionary.Completion.Region

/-!
# Flags offered at the cursor

The flags of an action are offered where conditions on the line hold: the action is written on the
line and not right after a quote, a list of flags was opened and a flag started before the cursor,
and the cursor stands right behind a blank and two dashes.
-/

namespace Actionary

open Actionary.Pattern

structure OfferedFlag where
  name : Text
  documentation : Text
deriving DecidableEq, Repr

def OfferedFlag.read (v : Value) : Checked OfferedFlag :=
  readRecord .flag
    (fun entries =>
      entries.only ["name", "documentation"]
        ((Checked.valid OfferedFlag.mk)
          |>.apply (entries.required "name" Field.text)
          |>.apply (entries.withDefault "documentation" "" Field.text)))
    v

/-- What a condition on a flag is asked about. A negative column counts from the end of the line. -/
structure FlagContext where
  action : Action
  flag : Text
  line : Text
  column : Int

def quotes : List Code := ['\'', '"']

/-- A literal that does not follow a quote, in letters of any case. -/
def unquoted (literal : List Code) : Expr :=
  .seq (.behind true 1 (.one (.set false .exact (quotes.map fun c => .point c.toNat))))
    (.text .full literal)

/-- The written form of `unquoted`. -/
def unquotedSource (literal : Text) : Text :=
  "(?<![" ++ Text.ofList (Recognizer.escape quotes) ++ "])" ++
    Text.ofList (Recognizer.escape literal.toList)

/-- A list of flags in which a flag was started: the opening mark, blanks, anything on the line, and
two dashes. -/
def startedFlagPattern : Expr :=
  .seqAll
    [.text .exact openMark,
      .many .greedy 1 none (.set false .exact [.named .blank false false]),
      .many .reluctant 0 none .sameLine,
      .text .exact ['-', '-']]

def introducer : List Code := [' ', '-', '-']

namespace FlagContext

/-- The action is written on the line, and not right after a quote. -/
def inScope (c : FlagContext) : Bool :=
  ((unquoted c.action.literal.toList).search c.line.toList).isSome

/-- A list of flags was opened, and a flag started, before the cursor. -/
def listOpen (c : FlagContext) : Bool :=
  (startedFlagPattern.search (Text.before c.column c.line.toList)).isSome

/-- The cursor stands right behind what introduces a flag. -/
def introduced (c : FlagContext) : Bool :=
  match c.column - introducer.length with
  | .ofNat start => (c.line.toList.drop start).take introducer.length == introducer
  | .negSucc _ => false

end FlagContext

inductive FlagCondition where
  | inScope
  | listOpen
  | introduced
deriving DecidableEq, Repr

def FlagCondition.holds : FlagCondition → FlagContext → Bool
  | .inScope, c => c.inScope
  | .listOpen, c => c.listOpen
  | .introduced, c => c.introduced

def FlagCondition.all : List FlagCondition :=
  [.inScope, .listOpen, .introduced]

/-- The flags of an action for which all given conditions hold, in declared order, one for each
name. -/
def offeredFlags (conditions : List FlagCondition) (a : Action) (line : Text) (column : Int) :
    List OfferedFlag :=
  deduplicate (·.name) <|
    (a.flags.entries.filter fun e => conditions.all (·.holds ⟨a, e.1, line, column⟩)).map fun e =>
      ⟨e.1, e.2⟩

end Actionary
