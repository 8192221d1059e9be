/-!
# What is wrong with a document

The reasons for which a text is no element tree. The first group is found while the text is cut into
tokens, the second while a tag is read, the third while tags are matched and names resolved. Each
has one wording, and the place it is reported at is the byte offset carried by `Error`.
-/

set_option autoImplicit false

namespace SoapBindings.Xml

/-- The number of bytes of a text. -/
def byteWidth (cs : List Char) : Nat := cs.foldr (·.utf8Size + ·) 0

/-- What is wrong inside a tag. Offsets count bytes from the character after `<`. -/
inductive TagFault where
  | missingEquals (offset : Nat)
  | missingValue (offset : Nat)
  | unquotedValue (offset : Nat)
  | unclosedQuote (offset : Nat) (quote : Char)
  | duplicate (offset earlier : Nat)
  deriving DecidableEq, Repr

def TagFault.message : TagFault → String
  | missingEquals offset =>
    s!"position {offset}: attribute key must be directly followed by `=` or space"
  | missingValue offset => s!"position {offset}: `=` must be followed by an attribute value"
  | unquotedValue offset =>
    s!"position {offset}: attribute value must be enclosed in `\"` or `'`"
  | unclosedQuote offset quote =>
    s!"position {offset}: missing closing quote `" ++ quote.toString ++ "` in attribute value"
  | duplicate offset earlier =>
    s!"position {offset}: duplicated attribute, previous declaration at position {earlier}"

inductive Fault where
  | unclosedTag
  | unclosedInstruction
  | unclosedComment
  | unclosedCData
  | unclosedDoctype
  | unknownMarkup
  | unclosedReference
  | tag (fault : TagFault)
  | namelessDoctype
  | mismatchedEnd (expected found : String)
  | unmatchedEnd (name : String)
  | unknownReference (name : String)
  | unboundPrefix (bound : String)
  | secondRoot
  | unclosedElement (name : String)
  | noRoot
  deriving DecidableEq, Repr

def Fault.message : Fault → String
  | unclosedTag => "syntax error: tag not closed: `>` not found before end of input"
  | unclosedInstruction =>
    "syntax error: processing instruction or xml declaration not closed: " ++
      "`?>` not found before end of input"
  | unclosedComment => "syntax error: comment not closed: `-->` not found before end of input"
  | unclosedCData => "syntax error: CDATA not closed: `]]>` not found before end of input"
  | unclosedDoctype => "syntax error: DOCTYPE not closed: `>` not found before end of input"
  | unknownMarkup => "syntax error: unknown or missed symbol in markup"
  | unclosedReference =>
    "ill-formed document: entity or character reference not closed: " ++
      "`;` not found before end of input"
  | tag fault => fault.message
  | namelessDoctype =>
    "ill-formed document: `<!DOCTYPE>` declaration does not contain a name of a document type"
  | mismatchedEnd expected found =>
    "ill-formed document: expected `</" ++ expected ++ ">`, but `</" ++ found ++ ">` was found"
  | unmatchedEnd name =>
    "ill-formed document: close tag `</" ++ name ++ ">` does not match any open tag"
  | unknownReference name => "unknown entity reference &" ++ name ++ ";"
  | unboundPrefix bound => "unbound namespace prefix " ++ bound
  | secondRoot => "multiple root elements"
  | unclosedElement name => "element " ++ name ++ " is not closed"
  | noRoot => "document has no root element"

/-- A fault at a byte offset of the document. -/
structure Error where
  position : Nat
  fault : Fault
  deriving DecidableEq, Repr

end SoapBindings.Xml
