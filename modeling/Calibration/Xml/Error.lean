/-
# Faults of a document

One constructor per cause; the wording is in the `message` functions. Offsets count bytes of UTF-8: in an
attribute fault from the first byte of the tag's name, in a reference fault from the first byte of the text.
-/

namespace Calibration
namespace Xml

/-- The number of bytes that the characters take in UTF-8. -/
def byteCount : List Char → Nat
  | [] => 0
  | c :: cs => c.utf8Size + byteCount cs

/-- Why a numeric character reference names no character. -/
inductive NumberFault where
  | sign
  | empty
  | digit
  | tooLarge
  | zero
  | noScalar (code : Nat)
deriving DecidableEq, Repr

/-- Why a reference in text or in an attribute value cannot be resolved. -/
inductive ReferenceFault where
  | unterminated (start length : Nat)
  | unknown (start stop : Nat) (name : String)
  | number (fault : NumberFault)
deriving DecidableEq, Repr

/-- Why an attribute of a start tag is malformed. -/
inductive AttributeFault where
  | expectedEquals (position : Nat)
  | duplicated (position earlier : Nat)
  | expectedValue (position : Nat)
  | expectedQuote (position : Nat)
  | unclosedQuote (position : Nat) (quote : Char)
deriving DecidableEq, Repr

/-- Why a piece of markup has no end or no meaning. -/
inductive MarkupFault where
  | tag
  | cdata
  | comment
  | doctype
  | instruction
  | unknown
  | namelessDoctype
deriving DecidableEq, Repr

/-- Why a text is no document. -/
inductive Error where
  | markup (fault : MarkupFault)
  | strayEnd (name : String)
  | mismatchedEnd (expected found : String)
  | badAttribute (fault : AttributeFault)
  | badReference (fault : ReferenceFault)
  | secondRoot
  | unclosedElement
  | noRoot
deriving DecidableEq, Repr

def NumberFault.message : NumberFault → String
  | sign => "unexpected number sign"
  | empty => "cannot parse integer from empty string"
  | digit => "invalid digit found in string"
  | tooLarge => "number too large to fit in target type"
  | zero => "0x0 character is not permitted in XML"
  | noScalar code => "`" ++ toString code ++ "` is not a valid codepoint"

def ReferenceFault.message : ReferenceFault → String
  | unterminated start length =>
    "Error while escaping character at range " ++ toString start ++ ".." ++ toString length ++
      ": Cannot find ';' after '&'"
  | unknown start stop name =>
    "at " ++ toString start ++ ".." ++ toString stop ++ ": unrecognized entity `" ++ name ++ "`"
  | number fault => "invalid character reference: " ++ fault.message

def AttributeFault.message : AttributeFault → String
  | expectedEquals p =>
    "position " ++ toString p ++ ": attribute key must be directly followed by `=` or space"
  | duplicated p q =>
    "position " ++ toString p ++ ": duplicated attribute, previous declaration at position " ++ toString q
  | expectedValue p => "position " ++ toString p ++ ": `=` must be followed by an attribute value"
  | expectedQuote p =>
    "position " ++ toString p ++ ": attribute value must be enclosed in `\"` or `'`"
  | unclosedQuote p quote =>
    "position " ++ toString p ++ ": missing closing quote `" ++ quote.toString ++ "` in attribute value"

def MarkupFault.message : MarkupFault → String
  | tag => "syntax error: tag not closed: `>` not found before end of input"
  | cdata => "syntax error: CDATA not closed: `]]>` not found before end of input"
  | comment => "syntax error: comment not closed: `-->` not found before end of input"
  | doctype => "syntax error: DOCTYPE not closed: `>` not found before end of input"
  | instruction =>
    "syntax error: processing instruction or xml declaration not closed: " ++
      "`?>` not found before end of input"
  | unknown => "syntax error: unknown or missed symbol in markup"
  | namelessDoctype =>
    "ill-formed document: `<!DOCTYPE>` declaration does not contain a name of a document type"

def Error.message : Error → String
  | markup fault => fault.message
  | strayEnd name => "ill-formed document: close tag `</" ++ name ++ ">` does not match any open tag"
  | mismatchedEnd expected found =>
    "ill-formed document: expected `</" ++ expected ++ ">`, but `</" ++ found ++ ">` was found"
  | badAttribute fault => fault.message
  | badReference fault => fault.message
  | secondRoot => "document has more than one root element"
  | unclosedElement => "unexpected end of document"
  | noRoot => "document has no root element"

end Xml
end Calibration
