import EffectTables.Markup.Doctype

namespace EffectTables.Markup

-- The markup of a document, piece by piece. Comments, character data, document types,
-- instructions and references in the text are asides. The text between is no event.
inductive Event where
  | opens (tag : Tag)
  | selfCloses (tag : Tag)
  | closes (name : String)
  | aside
  deriving DecidableEq

inductive Event.Next where
  | done
  | failed (fault : Fault)
  | found (event : Event) (rest : List Char)

def after? (pattern : List Char) : List Char → Option (List Char)
  | [] => none
  | c :: text =>
      if pattern.isPrefixOf (c :: text) then some ((c :: text).drop pattern.length)
      else after? pattern text

-- The text up to the first closing bracket outside of quotes, and what follows the bracket.
-- Without one, the quote that is open at the end.
def tagText (quote : Option Quote) : List Char → Except (Option Quote) (List Char × List Char)
  | [] => .error quote
  | c :: text =>
      match quote with
      | none =>
          if c = '>' then .ok ([], text)
          else (tagText (Quote.ofChar? c) text).map fun found => (c :: found.1, found.2)
      | some opener =>
          (tagText (if c = opener.char then none else some opener) text).map
            fun found => (c :: found.1, found.2)

def unclosedTag : Option Quote → Fault
  | none => .unclosed .tag
  | some quote => .unclosed (.value quote)

-- Spaces after the name of a closing tag do not belong to it, unless there is nothing else.
def closingName (text : List Char) : String :=
  let name := (text.reverse.dropWhile isSpace).reverse
  String.ofList (if name.isEmpty then text else name)

namespace Event

def aside? (construct : Construct) : Option (List Char) → Next
  | none => .failed (.unclosed construct)
  | some rest => .found .aside rest

def nextReference (text : List Char) : Next :=
  match text.dropWhile fun c => c != ';' && c != '&' && c != '<' with
  | ';' :: rest => .found .aside rest
  | _ => .failed (.unclosed .reference)

-- An instruction whose text begins as the one that declares the version of the markup.
def declaresVersion (text : List Char) : Bool :=
  ['x', 'm', 'l'].isPrefixOf text &&
    match text.drop 3 with
    | [] => true
    | c :: _ => isSpace c || c == '?'

def nextInstruction (text : List Char) : Next :=
  match text with
  | '>' :: _ => .failed (.unclosed .instruction)
  | _ =>
      aside? (if declaresVersion text then .declaration else .instruction)
        (after? ['?', '>'] text)

def nextDoctype (text : List Char) : Next :=
  if (text.take 7).map Char.toUpper = "DOCTYPE".toList then
    match (text.drop 7).dropWhile isSpace with
    | '>' :: _ => .failed .namelessDoctype
    | _ => aside? .doctype (Doctype.rest? 0 .outside (text.drop 7))
  else .failed (.unclosed .doctype)

def nextDeclaration (text : List Char) : Next :=
  match text with
  | '[' :: rest =>
      if "CDATA[".toList.isPrefixOf rest then
        aside? .characterData (after? [']', ']', '>'] (rest.drop 6))
      else .failed (.unclosed .characterData)
  | '-' :: rest =>
      match rest with
      | '-' :: rest => aside? .comment (after? ['-', '-', '>'] rest)
      | _ => .failed (.unclosed .comment)
  | 'D' :: _ | 'd' :: _ => nextDoctype text
  | _ => .failed .unknownMarkup

def nextClosing (text : List Char) : Next :=
  match tagText none text with
  | .error quote => .failed (unclosedTag quote)
  | .ok (name, rest) => .found (.closes (closingName name)) rest

def nextOpening (text : List Char) : Next :=
  match tagText none text with
  | .error quote => .failed (unclosedTag quote)
  | .ok (tag, rest) =>
      if tag.getLast? = some '/' then .found (.selfCloses (Tag.ofText tag.dropLast)) rest
      else .found (.opens (Tag.ofText tag)) rest

def nextMarkup (text : List Char) : Next :=
  match text with
  | [] => .failed (.unclosed .tag)
  | '!' :: rest => nextDeclaration rest
  | '?' :: rest => nextInstruction rest
  | '/' :: rest => nextClosing rest
  | _ => nextOpening text

def next (text : List Char) : Next :=
  match text.dropWhile fun c => c != '<' && c != '&' with
  | [] => .done
  | c :: rest => if c = '<' then nextMarkup rest else nextReference rest

end Event

end EffectTables.Markup
