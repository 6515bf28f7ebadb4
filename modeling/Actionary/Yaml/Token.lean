import Actionary.Yaml.Problem

/-!
# Tokens of documents

The parts that a document is made of. Block collections have tokens for their ends, which follow
from the indentation.
-/

namespace Actionary.Yaml

inductive ScalarStyle where
  | plain
  | single
  | double
  | block
deriving DecidableEq, Repr

/-- A tag as it is written: its handle, if it has one, and the rest. -/
structure WrittenTag where
  handle : Option Text
  suffix : Text
deriving DecidableEq, Repr

inductive TokenKind where
  | streamStart
  | streamEnd
  | version (major minor : Nat)
  | handle (name start : Text)
  | directive
  | documentStart
  | documentEnd
  | blockSequenceStart
  | blockMappingStart
  | blockEnd
  | flowSequenceStart
  | flowSequenceEnd
  | flowMappingStart
  | flowMappingEnd
  | blockEntry
  | flowEntry
  | key
  | value
  | alias (name : Text)
  | anchor (name : Text)
  | tag (t : WrittenTag)
  | scalar (text : Text) (style : ScalarStyle)
deriving DecidableEq, Repr

def TokenKind.name : TokenKind → Text
  | .streamStart => "<stream start>"
  | .streamEnd => "<stream end>"
  | .version _ _ | .handle _ _ | .directive => "<directive>"
  | .documentStart => "<document start>"
  | .documentEnd => "<document end>"
  | .blockSequenceStart => "<block sequence start>"
  | .blockMappingStart => "<block mapping start>"
  | .blockEnd => "<block end>"
  | .flowSequenceStart => "["
  | .flowSequenceEnd => "]"
  | .flowMappingStart => .singleton '{'
  | .flowMappingEnd => .singleton '}'
  | .blockEntry => "-"
  | .flowEntry => ","
  | .key => "?"
  | .value => ":"
  | .alias _ => "<alias>"
  | .anchor _ => "<anchor>"
  | .tag _ => "<tag>"
  | .scalar _ _ => "<scalar>"

def TokenKind.isDirective : TokenKind → Bool
  | .version _ _ | .handle _ _ | .directive => true
  | _ => false

structure Token where
  kind : TokenKind
  start : Mark
  stop : Mark
deriving DecidableEq, Repr

end Actionary.Yaml
