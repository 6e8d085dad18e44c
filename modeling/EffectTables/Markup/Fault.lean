namespace EffectTables.Markup

inductive Quote where
  | single
  | double
  deriving DecidableEq

def Quote.char : Quote → Char
  | single => '\x27'
  | double => '\x22'

def Quote.ofChar? (c : Char) : Option Quote :=
  if c = '\x27' then some .single else if c = '\x22' then some .double else none

inductive Construct where
  | tag
  | value (quote : Quote)
  | comment
  | characterData
  | doctype
  | instruction
  | declaration
  | reference
  deriving DecidableEq

namespace Construct

def title : Construct → String
  | tag => "tag"
  | value _ => "attribute value"
  | comment => "comment"
  | characterData => "CDATA"
  | doctype => "DOCTYPE"
  | instruction => "processing instruction"
  | declaration => "XML declaration"
  | reference => "entity or character reference"

def closing : Construct → String
  | tag | doctype => ">"
  | value quote => String.singleton quote.char
  | comment => "-->"
  | characterData => "]]>"
  | instruction | declaration => "?>"
  | reference => ";"

def message (construct : Construct) : String :=
  construct.title ++ " not closed: `" ++ construct.closing ++ "` not found before end of input"

end Construct

inductive AttributeFault where
  | missingEquals
  | missingValue
  | unquotedValue
  | unclosedValue (quote : Quote)
  | repeated (earlier : Nat)
  deriving DecidableEq

def AttributeFault.message : AttributeFault → String
  | missingEquals => "attribute key must be directly followed by `=` or space"
  | missingValue => "`=` must be followed by an attribute value"
  | unquotedValue => "attribute value must be enclosed in `\x22` or `\x27`"
  | unclosedValue quote =>
      "missing closing quote `" ++ String.singleton quote.char ++ "` in attribute value"
  | repeated earlier =>
      "duplicated attribute, previous declaration at position " ++ toString earlier

-- Why a text is not the markup of a document. The position of a fault in an attribute counts the
-- bytes from the start of the tag's name.
inductive Fault where
  | unclosed (construct : Construct)
  | unknownMarkup
  | unopened (name : String)
  | mismatched (expected found : String)
  | namelessDoctype
  | inAttribute (position : Nat) (fault : AttributeFault)
  deriving DecidableEq

namespace Fault

inductive Category where
  | syntactic
  | structural
  | inAttribute

def category : Fault → Category
  | unclosed .reference => .structural
  | unclosed _ | unknownMarkup => .syntactic
  | unopened _ | mismatched .. | namelessDoctype => .structural
  | inAttribute .. => .inAttribute

def Category.title : Category → String
  | syntactic => "syntax error"
  | structural => "ill-formed document"
  | inAttribute => "error while parsing attribute"

def detail : Fault → String
  | unclosed construct => construct.message
  | unknownMarkup => "unknown or missed symbol in markup"
  | unopened name => "close tag `</" ++ name ++ ">` does not match any open tag"
  | mismatched expected found =>
      "expected `</" ++ expected ++ ">`, but `</" ++ found ++ ">` was found"
  | namelessDoctype => "`<!DOCTYPE>` declaration does not contain a name of a document type"
  | inAttribute position fault => "position " ++ toString position ++ ": " ++ fault.message

def message (fault : Fault) : String := fault.category.title ++ ": " ++ fault.detail

end Fault

-- What was found up to the first fault, and that fault. Without one, all of the text was read.
structure Findings (α : Type) where
  items : List α
  fault : Option Fault

def Findings.cons (item : α) (rest : Findings α) : Findings α :=
  { rest with items := item :: rest.items }

end EffectTables.Markup
