import Actionary.Number.Numeral
import Actionary.Pattern.Refusal
import Actionary.Value

/-!
# Faults of records

What can be wrong with a field of a record, where the field is, and how the fault is worded.
-/

namespace Actionary

/-- A step on the way from a record to a faulty part of it: a field or key, or a place in a
sequence. -/
inductive Step where
  | field (name : Text)
  | index (n : Int)
deriving DecidableEq, Repr

namespace Step

def toValue : Step → Value
  | .field name => .text name
  | .index n => .int n

end Step

inductive RecordKind where
  | action
  | locator
  | elementAttribute
  | annotationEntry
  | snapshot
  | config
  | position
  | document
  | snippet
  | flag
  | settings
deriving DecidableEq, Repr

def RecordKind.title : RecordKind → Text
  | .action => "ActionDescriptor"
  | .locator => "LocatorDescriptor"
  | .elementAttribute => "AttributeDescriptor"
  | .annotationEntry => "AnnotationDescriptor"
  | .snapshot => "CatalogSnapshot"
  | .config => "CompletionConfig"
  | .position => "Position"
  | .document => "TextDocument"
  | .snippet => "ComposedSnippet"
  | .flag => "FlagCompletion"
  | .settings => "EngineSettings"

inductive Cause where
  | missing
  | notText
  | badEncoding
  | notActionKey
  | notSequence
  | notCollection
  | notCapability
  | notMap
  | notRecord (kind : RecordKind)
  | unknownField
  | keyNotText
  | repeatedKey (key : Text)
  | notInteger
  | integerText
  | fraction
  | tooLarge
  | notFinite
  | negative
  | badPattern (refusal : Pattern.Refusal)
  | notPattern
  | bytesPattern
  | truthText
  | notTruth
  | frozen
deriving DecidableEq, Repr

def refusalMessage : Pattern.Refusal → Text
  | .malformed => "Input should be a valid regular expression"
  | .tooManyTimes => "the repetition number is too large"
  | .tooManyDigits digits =>
    "Value error, Exceeds the limit (" ++ toString Numeral.mostDigits ++
      " digits) for integer string conversion: value has " ++ toString digits ++
      " digits; use sys.set_int_max_str_digits() to increase the limit"
  | .mixedClasses => "Value error, ASCII and UNICODE flags are incompatible"

def Cause.message : Cause → Text
  | .missing => "Field required"
  | .notText => "Input should be a valid string"
  | .badEncoding => "Input should be a valid string, unable to parse raw data as a unicode string"
  | .notActionKey => "String should match pattern '^[a-zA-Z][a-zA-Z0-9]*$'"
  | .notSequence => "Input should be a valid tuple"
  | .notCollection => "Input should be a valid frozenset"
  | .notCapability =>
    "Input should be 'cliArguments', 'argument', 'elementToActOn', 'elementAttributeToActOn' or " ++
      "'regularExpression'"
  | .notMap => "Input should be a valid dictionary"
  | .notRecord kind => "Input should be a valid dictionary or instance of " ++ kind.title
  | .unknownField => "Extra inputs are not permitted"
  | .keyNotText => "Keys should be strings"
  | .repeatedKey key => "Value error, action key `" ++ key ++ "` is not unique in catalog"
  | .notInteger => "Input should be a valid integer"
  | .integerText => "Input should be a valid integer, unable to parse string as an integer"
  | .fraction => "Input should be a valid integer, got a number with a fractional part"
  | .tooLarge => "Unable to parse input string as an integer, exceeded maximum size"
  | .notFinite => "Input should be a finite number"
  | .negative => "Input should be greater than or equal to 0"
  | .badPattern refusal => refusalMessage refusal
  | .notPattern => "Input should be a valid pattern"
  | .bytesPattern => "Input should be a string pattern"
  | .truthText => "Input should be a valid boolean, unable to interpret input"
  | .notTruth => "Input should be a valid boolean"
  | .frozen => "Instance is frozen"

/-- Whether a cause ends the reading of a record, so that no fault is told but this one. -/
def Cause.endsReading : Cause → Bool
  | .badPattern .tooManyTimes => true
  | _ => false

/-- A fault of a record: what is wrong, and the way to the place. -/
structure Fault where
  cause : Cause
  path : List Step
deriving DecidableEq, Repr

namespace Fault

def message (f : Fault) : Text :=
  f.cause.message

/-- The fault that ended the reading of a record, if one of its faults did. -/
def ending? (faults : List Fault) : Option Fault :=
  faults.find? (·.cause.endsReading)

def under (step : Step) (f : Fault) : Fault :=
  { f with path := step :: f.path }

end Fault

end Actionary
