import Actionary.Text.Blank
import Actionary.Text.Line
import Actionary.Text.Word
import Actionary.Text.Digit
import Actionary.Text.LetterCase
import Actionary.Text.Fold
import Actionary.Text.Quoted
import Actionary.Text.Column
import Actionary.Text.Likeness
import Actionary.Text.Utf8
import Actionary.Number.Shortest
import Actionary.Number.Numeral
import Actionary.Value.Display
import Actionary.Pattern.Syntax
import Actionary.Distinct
import Actionary.Name
import Actionary.Main
import Actionary.Proofs.LoadModes
import Actionary.Proofs.PatternShapes
import Actionary.Proofs.FlagList
import Actionary.Proofs.Distinct
import Actionary.Proofs.Phrase
import Actionary.Proofs.SnippetNames
import Actionary.Proofs.Exclusion
import Actionary.Proofs.Letters
import Actionary.Proofs.Occurrence
import Actionary.Proofs.Recognition
import Actionary.Proofs.RelaxedLoad
import Actionary.Proofs.Resolution
import Actionary.Proofs.TypedPhrase
import Actionary.Proofs.LiteralFlags
import Actionary.Proofs.RecordNumbers
import Actionary.Proofs.Checked
import Actionary.Proofs.FlagCapability
import Actionary.Proofs.OfferedFlags
import Actionary.Proofs.OutOfRange
import Actionary.Proofs.CatalogOrder
import Actionary.Proofs.StrictReading
import Actionary.Proofs.WrittenCatalog
import Actionary.Proofs.ChoiceReading
import Actionary.Proofs.JsonReading
import Actionary.Proofs.RetypedPhrase
import Actionary.Proofs.SnippetChains
import Actionary.Proofs.Encoding
import Actionary.Proofs.SnippetFile
import Actionary.Proofs.FlagRegion
import Actionary.Proofs.Sections
import Actionary.Proofs.RecordMembers
import Actionary.Proofs.LiteralSearch
import Actionary.Proofs.WrittenPhrases
import Actionary.Proofs.Deduplication
import Actionary.Proofs.FlagSpan
import Actionary.Proofs.TabStops
import Actionary.Proofs.BlamedField
import Actionary.Proofs.DocumentLines
