import NodeGraph.Error
import NodeGraph.Text.Identifier

/-!
# Characters and errors of RON reading

Which characters may stand where in a RON text: whitespace between tokens, the characters of
identifiers (raw ones, written `r#name`, may also hold `.`, `+` and `-`), and those of number
literals. Then why a RON text could not be read, one constructor per cause, and the message of
each; messages name identifiers between backticks, raw when only that form can spell them, and
characters between single quotes with the escapes of quoted text.
-/

namespace NodeGraph

namespace Ron

/-- The first character of a plain identifier: an underscore or a letter. -/
def isIdentFirst (c : Char) : Bool := c = '_' || Text.isNameStart c

/-- The characters of a plain identifier after its first. -/
def isIdentNext (c : Char) : Bool := Text.isNameContinue c

/-- The characters of a raw identifier: those of plain identifiers, `.`, `+` and `-`. -/
def isIdentRaw (c : Char) : Bool := isIdentNext c || c = '.' || c = '+' || c = '-'

/-- Whitespace between tokens: the ASCII blanks, next line, the direction marks and the line and
paragraph separators. -/
def isSpace (c : Char) : Bool :=
  c = ' ' || c = '\t' || c = '\n' || c = '\r' || c.toNat = 0x0B || c.toNat = 0x0C ||
    c.toNat = 0x85 || c.toNat = 0x200E || c.toNat = 0x200F || c.toNat = 0x2028 ||
    c.toNat = 0x2029

/-- Characters of integer literals: hexadecimal digits and underscores. -/
def isIntChar (c : Char) : Bool :=
  c.isDigit || ('a' ≤ c && c ≤ 'f') || ('A' ≤ c && c ≤ 'F') || c = '_'

/-- Characters of float literals: digits, exponent marks, the point, signs and underscores. -/
def isFloatChar (c : Char) : Bool :=
  c.isDigit || c = 'e' || c = 'E' || c = '.' || c = '+' || c = '-' || c = '_'

/-- The value of a hexadecimal digit, if the character is one. -/
def hexDigit? (c : Char) : Option Nat :=
  if c.isDigit then some (c.toNat - '0'.toNat)
  else if 'a' ≤ c && c ≤ 'f' then some (c.toNat - 'a'.toNat + 10)
  else if 'A' ≤ c && c ≤ 'F' then some (c.toNat - 'A'.toNat + 10)
  else none

end Ron

end NodeGraph

namespace NodeGraph

namespace Ron

/-- Why a RON text could not be read. -/
inductive ReadError where
  /-- the text ended where more was needed -/
  | eof
  | expectedArray
  | expectedArrayEnd
  | expectedBoolean
  | expectedComma
  | expectedFloat
  | expectedInteger
  | expectedOption
  | expectedOptionEnd
  | expectedStructLikeEnd
  | expectedMapColon
  | expectedMapEnd
  | expectedDifferentStructName (expected found : String)
  | expectedStructLike
  | expectedNamedStructLike (name : String)
  | expectedStructName (name : String)
  | expectedString
  | expectedStringEnd
  | expectedByteString
  | expectedByteLiteral
  | expectedIdentifier
  | expectedChar
  /-- a malformed escape sequence, with what is wrong with it -/
  | invalidEscape (text : String)
  | integerOutOfBounds
  | invalidIntegerDigit (digit : Char) (base : Nat)
  /-- a literal of one type where another was expected, with the literal's text -/
  | invalidValueForType (expected found : String)
  | unclosedBlockComment
  | underscoreAtBeginning
  | floatUnderscore
  | unexpectedChar (c : Char)
  | trailingCharacters
  | noSuchEnumVariant (expected : List String) (found : String) (outer : Option String)
  | missingStructField (field : String) (outer : Option String)
  | duplicateStructField (field : String) (outer : Option String)
  /-- a name that only a raw identifier can spell -/
  | suggestRawIdentifier (ident : String)
  | expectedDifferentLength (expected : String) (found : Nat)
  | expectedAttribute
  | expectedAttributeEnd
  | noSuchExtension (name : String)
  /-- values nested deeper than the reader follows -/
  | exceededRecursionLimit
deriving Inhabited

/-- An identifier in a message, between backticks; one that needs it as raw identifier. -/
def showIdent (s : String) : String :=
  match s.toList with
  | [] => quoted s ++ "_[invalid identifier]"
  | c :: cs =>
    if !(c :: cs).all isIdentRaw then quoted s ++ "_[invalid identifier]"
    else if isIdentFirst c && cs.all isIdentNext then "`" ++ s ++ "`"
    else "`r#" ++ s ++ "`"

/-- A character in a message, between single quotes. -/
def showChar (c : Char) : String :=
  if c = '\'' then "'\\''" else if c = '"' then "'\"'"
  else "'" ++ String.ofList (escapeChar c) ++ "'"

/-- The alternatives an enum or struct offers, in a message. -/
def oneOf (alts : List String) (none : String) : String :=
  match alts with
  | [] => "there are no " ++ none
  | [a] => "expected " ++ showIdent a ++ " instead"
  | [a, b] => "expected either " ++ showIdent a ++ " or " ++ showIdent b ++ " instead"
  | a :: b :: rest =>
    let middle := (b :: rest).dropLast
    let last := (b :: rest).getLast (List.cons_ne_nil b rest)
    "expected one of " ++ showIdent a ++ String.join (middle.map (", " ++ showIdent ·)) ++
      ", or " ++ showIdent last ++ " instead"

/-- A count of elements in a message. -/
def elements : Nat → String
  | 0 => "zero elements"
  | 1 => "one element"
  | n => toString n ++ " elements"

/-- The message of a reading error. -/
def ReadError.message : ReadError → String
  | .eof => "Unexpected end of RON"
  | .expectedArray => "Expected opening `[`"
  | .expectedArrayEnd => "Expected closing `]`"
  | .expectedBoolean => "Expected boolean"
  | .expectedComma => "Expected comma"
  | .expectedFloat => "Expected float"
  | .expectedInteger => "Expected integer"
  | .expectedOption => "Expected option"
  | .expectedOptionEnd | .expectedStructLikeEnd => "Expected closing `)`"
  | .expectedMapColon => "Expected colon"
  | .expectedMapEnd => "Expected closing `\x7d`"
  | .expectedDifferentStructName e f =>
    "Expected struct " ++ showIdent e ++ " but found " ++ showIdent f
  | .expectedStructLike => "Expected opening `(`"
  | .expectedNamedStructLike n =>
    if n.isEmpty then "Expected only opening `(`, no name, for un-nameable struct"
    else "Expected opening `(` for struct " ++ showIdent n
  | .expectedStructName n => "Expected the explicit struct name " ++ showIdent n ++ ", but none was found"
  | .expectedString => "Expected string"
  | .expectedStringEnd => "Expected end of string"
  | .expectedByteString => "Expected byte string"
  | .expectedByteLiteral => "Expected byte literal"
  | .expectedIdentifier => "Expected identifier"
  | .expectedChar => "Expected char"
  | .invalidEscape s => s
  | .integerOutOfBounds => "Integer is out of bounds"
  | .invalidIntegerDigit d b => "Invalid digit " ++ showChar d ++ " for base " ++ toString b ++ " integers"
  | .invalidValueForType e f => "Expected " ++ e ++ " but found " ++ f ++ " instead"
  | .unclosedBlockComment => "Unclosed block comment"
  | .underscoreAtBeginning => "Unexpected leading underscore in a number"
  | .floatUnderscore => "Unexpected underscore in float"
  | .unexpectedChar c => "Unexpected char " ++ showChar c
  | .trailingCharacters => "Non-whitespace trailing characters"
  | .noSuchEnumVariant expected found outer =>
    "Unexpected " ++ (if outer.isNone then "enum " else "") ++ "variant named " ++ showIdent found ++
      (match outer with | some o => " in enum " ++ showIdent o | none => "") ++ ", " ++
      oneOf expected "variants"
  | .missingStructField field outer =>
    "Unexpected missing field named " ++ showIdent field ++
      (match outer with | some o => " in " ++ showIdent o | none => "")
  | .duplicateStructField field outer =>
    "Unexpected duplicate field named " ++ showIdent field ++
      (match outer with | some o => " in " ++ showIdent o | none => "")
  | .suggestRawIdentifier s =>
    "Found invalid std identifier " ++ quoted s ++ ", try the raw identifier `r#" ++ s ++ "` instead"
  | .expectedDifferentLength e found => "Expected " ++ e ++ " but found " ++ elements found
  | .expectedAttribute => "Expected an `#![enable(...)]` attribute"
  | .expectedAttributeEnd => "Expected closing `)]` after the enable attribute"
  | .noSuchExtension n => "No RON extension named " ++ showIdent n
  | .exceededRecursionLimit =>
    "Exceeded recursion limit, try increasing `ron::Options::recursion_limit` and using " ++
      "`serde_stacker` to protect against a stack overflow"

/-- The text of a reading error with the line and column where reading stopped. -/
def errorText (e : ReadError × Nat × Nat) : String :=
  toString e.2.1 ++ ":" ++ toString e.2.2 ++ ": " ++ e.1.message

end Ron

end NodeGraph
