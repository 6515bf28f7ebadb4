import Actionary.Pattern.Syntax
import Actionary.Yaml.Node

/-!
# What plain scalars stand for

A scalar without quotes and without a tag stands for a number, a truth value, a day, nothing, or a
text, by how it is written. The rules are tried in order, and only those for the first character of
the scalar.
-/

namespace Actionary.Yaml

open Actionary.Pattern

/-- A rule for the tag of a plain scalar: what it can start with, whether it can be empty, and how
it is written. -/
structure PlainRule where
  tag : Tag
  starts : Text
  orEmpty : Bool
  form : Option Expr

def plainRule (tag : Tag) (starts : Text) (orEmpty : Bool) (form : Text) : PlainRule :=
  ⟨tag, starts, orEmpty, Expr.parse? form.toList⟩

def boolRule : PlainRule :=
  plainRule .bool "yYnNtTfFoO" false <|
    "^(?:yes|Yes|YES|no|No|NO|true|True|TRUE|false|False|FALSE|on|On|ON|off|Off|OFF)$"

/-- Floating-point numbers: decimal with a point, sexagesimal, infinite, or not a number. -/
def floatRule : PlainRule :=
  plainRule .float "-+0123456789." false <|
    "^(?:[-+]?(?:[0-9][0-9_]*)\\.[0-9_]*(?:[eE][-+][0-9]+)?" ++
      "|\\.[0-9][0-9_]*(?:[eE][-+][0-9]+)?" ++
      "|[-+]?[0-9][0-9_]*(?::[0-5]?[0-9])+\\.[0-9_]*" ++
      "|[-+]?\\.(?:inf|Inf|INF)|\\.(?:nan|NaN|NAN))$"

/-- Integers: binary, octal, decimal, hexadecimal, or sexagesimal. -/
def intRule : PlainRule :=
  plainRule .int "-+0123456789" false <|
    "^(?:[-+]?0b[0-1_]+|[-+]?0[0-7_]+|[-+]?(?:0|[1-9][0-9_]*)" ++
      "|[-+]?0x[0-9a-fA-F_]+|[-+]?[1-9][0-9_]*(?::[0-5]?[0-9])+)$"

def mergeRule : PlainRule :=
  plainRule .merge "<" false "^(?:<<)$"

def nullRule : PlainRule :=
  plainRule .null "~nN" true "^(?:~|null|Null|NULL|)$"

def timestampRule : PlainRule :=
  plainRule .timestamp "0123456789" false <|
    "^(?:[0-9][0-9][0-9][0-9]-[0-9][0-9]-[0-9][0-9]" ++
      "|[0-9][0-9][0-9][0-9]-[0-9][0-9]?-[0-9][0-9]?(?:[Tt]|[ \\t]+)[0-9][0-9]?" ++
      ":[0-9][0-9]:[0-9][0-9](?:\\.[0-9]*)?" ++
      "(?:[ \\t]*(?:Z|[-+][0-9][0-9]?(?::[0-9][0-9])?))?)$"

def valueRule : PlainRule :=
  plainRule .value "=" false "^(?:=)$"

def markRule : PlainRule :=
  plainRule (.other (tagStart ++ "yaml")) "!&*" false "^(?:!|&|\\*)$"

def plainRules : List PlainRule :=
  [boolRule, floatRule, intRule, mergeRule, nullRule, timestampRule, valueRule, markRule]

def PlainRule.covers (r : PlainRule) (text : List Code) : Bool :=
  (match text with
    | [] => r.orEmpty
    | c :: _ => r.starts.toList.contains c) &&
  (match r.form with
    | some e => (e.fitStart text).isSome
    | none => false)

def plainTag (text : Text) : Tag :=
  match plainRules.find? (·.covers text.toList) with
  | some r => r.tag
  | none => .str

end Actionary.Yaml
