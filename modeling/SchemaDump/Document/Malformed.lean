/-
  SchemaDump/Document/Malformed.lean
  ==================================
  **What is wrong with a document.**

  A document that is no dump is refused, never read in part.  Each constructor
  is one reason; `message` words it.
-/
import SchemaDump.Markup.Tag
import SchemaDump.Text.Quoted

namespace SchemaDump.Document

/-- The elements that a dump document is made of. -/
inductive Element where
  | root
  | database
  | tableStructure
  | tableData
  | row
  | field
  | key
  | options
deriving DecidableEq, Repr

def Element.name : Element → String
  | .root => "mysqldump"
  | .database => "database"
  | .tableStructure => "table_structure"
  | .tableData => "table_data"
  | .row => "row"
  | .field => "field"
  | .key => "key"
  | .options => "options"

/-- Why a text is no dump document. -/
inductive Malformed where
  | markup (fault : Markup.Fault)
  | elementAfterRoot (name : String)
  | unexpectedRoot (name : String)
  | secondDatabase
  | missingAttribute (element : Element) (key : String)
  | invalidNull (value : String)
  | invalidNonUnique (value : String)
  | invalidPosition (value : String)
  | unexpectedElement (name : String) (inside : Element)
  /-- An element is closed while none is open. -/
  | unmatchedEnd
  /-- A text that is not blank; no element is open outside of the root. -/
  | unexpectedText (inside : Option Element)
  | missingRoot
  | unexpectedEnd (inside : Element)
  | missingDatabase
deriving DecidableEq, Repr

def faultMessage : Markup.Fault → String
  | .malformed => "XML parsing error"
  | .textReference => "Invalid text content"
  | .attribute => "Invalid attribute"
  | .valueReference key => "Invalid value for attribute " ++ key

def Malformed.reason : Malformed → String
  | .markup fault => faultMessage fault
  | .elementAfterRoot name => "Element <" ++ name ++ "> after the root element"
  | .unexpectedRoot name => "Unexpected root element <" ++ name ++ ">"
  | .secondDatabase => "More than one <database> element"
  | .missingAttribute element key =>
    "Missing attribute " ++ key ++ " on <" ++ element.name ++ "> element"
  | .invalidNull value => "Invalid Null value " ++ Text.quoted value
  | .invalidNonUnique value => "Invalid Non_unique value " ++ Text.quoted value
  | .invalidPosition value => "Invalid Seq_in_index value " ++ Text.quoted value
  | .unexpectedElement name inside =>
    "Unexpected element <" ++ name ++ "> inside <" ++ inside.name ++ ">"
  | .unmatchedEnd => "End tag without matching start tag"
  | .unexpectedText inside =>
    "Unexpected text content inside <" ++ (inside.elim "document" Element.name) ++ ">"
  | .missingRoot => "Document has no root element"
  | .unexpectedEnd inside => "Unexpected end of document inside <" ++ inside.name ++ ">"
  | .missingDatabase => "Missing <database> element"

def Malformed.message (malformed : Malformed) : String :=
  "Malformed document: " ++ malformed.reason

end SchemaDump.Document
