import Actionary.Text.Quoted
import Actionary.Yaml.Place

/-!
# Problems of documents

What can be wrong with the text of a document, and how it is worded.
-/

namespace Actionary.Yaml

inductive NodeKind where
  | scalar
  | sequence
  | mapping
deriving DecidableEq, Repr

def NodeKind.name : NodeKind → Text
  | .scalar => "scalar"
  | .sequence => "sequence"
  | .mapping => "mapping"

inductive Complaint where
  | cannotStart (c : Code)
  | colonExpected
  | entryNotAllowed
  | keyNotAllowed
  | valueNotAllowed
  | nameExpected (c : Code)
  | digitExpected (c : Code)
  | pointExpected (c : Code)
  | versionEndExpected (c : Code)
  | spaceExpected (c : Code)
  | lineEndExpected (c : Code)
  | handleMarkExpected (c : Code)
  | tagEndExpected (c : Code)
  | uriExpected (c : Code)
  | uriEscapeExpected (c : Code)
  | uriEncoding (reason : Text)
  | indicatorExpected (c : Code)
  | zeroIndentation
  | hexadecimalExpected (count : Nat) (c : Code)
  | unknownEscape (c : Code)
  | unexpectedEnd
  | unexpectedSeparator
  | documentStartExpected (found : Text)
  | duplicateVersion
  | incompatibleVersion
  | duplicateHandle (handle : Text)
  | undefinedHandle (handle : Text)
  | contentExpected (found : Text)
  | blockEndExpected (found : Text)
  | separatorExpected (closing : Code) (found : Text)
  | undefinedAlias (name : Text)
  | secondAnchor
  | anotherDocument
  | unknownTag (tag : Text)
  | mappingExpected (kind : NodeKind)
  | sequenceExpected (kind : NodeKind)
  | scalarExpected (kind : NodeKind)
  | unhashableKey
  | mergeItem (kind : NodeKind)
  | mergeValue (kind : NodeKind)
  | pairsExpected (kind : NodeKind)
  | pairExpected (kind : NodeKind)
  | singlePairExpected (count : Nat)
  | dataNotAscii (reason : Text)
  | badData (reason : Text)
deriving DecidableEq, Repr

def quotedChar (c : Code) : Text :=
  Text.quoted (Text.ofList [c])

def Complaint.text : Complaint → Text
  | .cannotStart c => "found character " ++ quotedChar c ++ " that cannot start any token"
  | .colonExpected => "could not find expected ':'"
  | .entryNotAllowed => "sequence entries are not allowed here"
  | .keyNotAllowed => "mapping keys are not allowed here"
  | .valueNotAllowed => "mapping values are not allowed here"
  | .nameExpected c => "expected alphabetic or numeric character, but found " ++ quotedChar c
  | .digitExpected c => "expected a digit, but found " ++ quotedChar c
  | .pointExpected c => "expected a digit or '.', but found " ++ quotedChar c
  | .versionEndExpected c => "expected a digit or ' ', but found " ++ quotedChar c
  | .spaceExpected c => "expected ' ', but found " ++ quotedChar c
  | .lineEndExpected c => "expected a comment or a line break, but found " ++ quotedChar c
  | .handleMarkExpected c => "expected '!', but found " ++ quotedChar c
  | .tagEndExpected c => "expected '>', but found " ++ quotedChar c
  | .uriExpected c => "expected URI, but found " ++ quotedChar c
  | .uriEscapeExpected c =>
    "expected URI escape sequence of 2 hexadecimal numbers, but found " ++ quotedChar c
  | .uriEncoding reason => reason
  | .indicatorExpected c =>
    "expected chomping or indentation indicators, but found " ++ quotedChar c
  | .zeroIndentation => "expected indentation indicator in the range 1-9, but found 0"
  | .hexadecimalExpected count c =>
    "expected escape sequence of " ++ toString count ++ " hexadecimal numbers, but found " ++
      quotedChar c
  | .unknownEscape c => "found unknown escape character " ++ quotedChar c
  | .unexpectedEnd => "found unexpected end of stream"
  | .unexpectedSeparator => "found unexpected document separator"
  | .documentStartExpected found => "expected '<document start>', but found " ++ Text.quoted found
  | .duplicateVersion => "found duplicate YAML directive"
  | .incompatibleVersion => "found incompatible YAML document (version 1.* is required)"
  | .duplicateHandle handle => "duplicate tag handle " ++ Text.quoted handle
  | .undefinedHandle handle => "found undefined tag handle " ++ Text.quoted handle
  | .contentExpected found => "expected the node content, but found " ++ Text.quoted found
  | .blockEndExpected found => "expected <block end>, but found " ++ Text.quoted found
  | .separatorExpected closing found =>
    "expected ',' or " ++ quotedChar closing ++ ", but got " ++ Text.quoted found
  | .undefinedAlias name => "found undefined alias " ++ Text.quoted name
  | .secondAnchor => "second occurrence"
  | .anotherDocument => "but found another document"
  | .unknownTag tag => "could not determine a constructor for the tag " ++ Text.quoted tag
  | .mappingExpected kind => "expected a mapping node, but found " ++ kind.name
  | .sequenceExpected kind => "expected a sequence node, but found " ++ kind.name
  | .scalarExpected kind => "expected a scalar node, but found " ++ kind.name
  | .unhashableKey => "found unhashable key"
  | .mergeItem kind => "expected a mapping for merging, but found " ++ kind.name
  | .mergeValue kind =>
    "expected a mapping or list of mappings for merging, but found " ++ kind.name
  | .pairsExpected kind => "expected a sequence, but found " ++ kind.name
  | .pairExpected kind => "expected a mapping of length 1, but found " ++ kind.name
  | .singlePairExpected count =>
    "expected a single mapping item, but found " ++ toString count ++ " items"
  | .dataNotAscii reason => "failed to convert base64 data into ascii: " ++ reason
  | .badData reason => "failed to decode base64 data: " ++ reason

/-- Why a document cannot be read. For a part of the text without a value no place is known. -/
inductive Problem where
  | found (complaint : Complaint) (mark : Mark)
  | noValue
deriving DecidableEq, Repr

end Actionary.Yaml
