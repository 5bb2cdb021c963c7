import NodeGraph.Decimal.Read
import NodeGraph.Ron.Scan

/-!
# RON literals

Numbers, booleans, strings, byte strings and characters as RON writes them.

An integer is a byte literal `b'x'`, or an optional sign, an optional base prefix (`0b`, `0o`,
`0x`) and digits with underscores between them (not first); a suffix such as `u8` or `i64` may
name its type, and a literal whose suffix names another type than the one expected is refused. A
float is `inf` or `NaN` with an optional sign, or a decimal literal with underscores after digits
of its integer part or exponent; a suffix `f32` or `f64` may name its precision. A value read
where any value may stand is taken as a float when float characters run further than integer
characters, and otherwise as an integer that falls back to a float when the integer cannot be read
but the float reaches at least as far.

A string is quoted, with the escapes `\'`, `\"`, `\\`, `\n`, `\r`, `\t`, `\0`, `\xHH` (in a string
a run of them may spell the bytes of one character) and `\u{H..}`; or raw, `r#"..."#` with any
number of `#`. Byte strings are the same behind a `b`, with any byte allowed in `\xHH`.
-/

namespace NodeGraph

namespace Ron

/-- A fixed-width integer type: whether it is signed, and its width in bits. -/
structure IntType where
  signed : Bool
  bits : Nat
deriving DecidableEq

namespace IntType

/-- The least value of the type. -/
def lo (t : IntType) : Int := if t.signed then -((2 ^ (t.bits - 1) : Nat) : Int) else 0

/-- The greatest value of the type. -/
def hi (t : IntType) : Int :=
  if t.signed then ((2 ^ (t.bits - 1) : Nat) : Int) - 1 else ((2 ^ t.bits : Nat) : Int) - 1

/-- The suffix that names the type after a literal, such as `u8` or `i64`. -/
def suffix (t : IntType) : String := (if t.signed then "i" else "u") ++ toString t.bits

/-- The type in an error message. -/
def describe (t : IntType) : String :=
  "an " ++ toString t.bits ++ "-bit " ++ (if t.signed then "" else "un") ++ "signed integer"

/-- Unsigned bytes. -/
def u8 : IntType := ⟨false, 8⟩

/-- Unsigned 32-bit integers. -/
def u32 : IntType := ⟨false, 32⟩

/-- Signed 32-bit integers. -/
def i32 : IntType := ⟨true, 32⟩

/-- The types a suffix may name, in the order they are tried. -/
def suffixed : List IntType :=
  [⟨true, 8⟩, ⟨false, 8⟩, ⟨true, 16⟩, ⟨false, 16⟩, ⟨true, 32⟩, ⟨false, 32⟩, ⟨true, 64⟩, ⟨false, 64⟩]

end IntType

/-- Accumulates the digits of an integer within `[lo, hi]`, digit by digit as the sign says;
`i` counts the characters seen, and `len` is the length of the whole run of digits. -/
def accumulate (lo hi : Int) (base : Nat) (negative : Bool) (len : Nat) :
    List Char → Nat → Int → Read Int
  | [], _, acc => do advance len; return acc
  | c :: cs, i, acc => do
    if c = '_' then accumulate lo hi base negative len cs (i + 1) acc
    else
      let scaled := acc * base
      if scaled < lo ∨ hi < scaled then advance len; throw .integerOutOfBounds
      let d := (hexDigit? c).getD 16
      if base ≤ d then advance i; throw (.invalidIntegerDigit c base)
      let next := if negative then scaled - d else scaled + d
      if next < lo ∨ hi < next then advance len; throw .integerOutOfBounds
      accumulate lo hi base negative len cs (i + 1) next

/-- Reads the digits of an integer in `[lo, hi]` after its sign: an optional base prefix, then
digits and underscores. -/
def digitsIn (lo hi : Int) (negative : Bool) : Read Int := do
  let base ← if ← consumeStr "0b" then pure 2 else if ← consumeStr "0o" then pure 8
    else if ← consumeStr "0x" then pure 16 else pure 10
  let digits := (← rest).takeWhile isIntChar
  if digits.isEmpty then throw .expectedInteger
  if digits.head? = some '_' then throw .underscoreAtBeginning
  accumulate lo hi base negative digits.length digits 0 0

/-- The bytes of one character in UTF-8, as strictly as the encoding allows: no overlong forms,
no surrogates, nothing past U+10FFFF. -/
def utf8Char? : List Nat → Option Char
  | [b0, b1] =>
    if 0xC2 ≤ b0 && b0 ≤ 0xDF && 0x80 ≤ b1 && b1 ≤ 0xBF then
      some (Char.ofNat ((b0 - 0xC0) * 0x40 + (b1 - 0x80)))
    else none
  | [b0, b1, b2] =>
    let lo1 := if b0 = 0xE0 then 0xA0 else 0x80
    let hi1 := if b0 = 0xED then 0x9F else 0xBF
    if 0xE0 ≤ b0 && b0 ≤ 0xEF && lo1 ≤ b1 && b1 ≤ hi1 && 0x80 ≤ b2 && b2 ≤ 0xBF then
      some (Char.ofNat ((b0 - 0xE0) * 0x1000 + (b1 - 0x80) * 0x40 + (b2 - 0x80)))
    else none
  | [b0, b1, b2, b3] =>
    let lo1 := if b0 = 0xF0 then 0x90 else 0x80
    let hi1 := if b0 = 0xF4 then 0x8F else 0xBF
    if 0xF0 ≤ b0 && b0 ≤ 0xF4 && lo1 ≤ b1 && b1 ≤ hi1 && 0x80 ≤ b2 && b2 ≤ 0xBF &&
        0x80 ≤ b3 && b3 ≤ 0xBF then
      some (Char.ofNat ((b0 - 0xF0) * 0x40000 + (b1 - 0x80) * 0x1000 + (b2 - 0x80) * 0x40 +
        (b3 - 0x80)))
    else none
  | _ => none

/-- What an escape sequence stands for: one byte, or a character. -/
inductive Escaped where
  | byte (b : Nat)
  | char (c : Char)

/-- The error of a byte escape that spells no character. -/
def notByteEscaped : ReadError := .invalidEscape "Not a valid byte-escaped Unicode character"

/-- Reads one hexadecimal digit of an escape. -/
def hexEscapeDigit : Read Nat := do
  match hexDigit? (← nextChar) with
  | some d => return d
  | none => throw (.invalidEscape "Non-hex digit found")

/-- Reads the two hexadecimal digits of a byte escape. -/
def byteEscape : Read Nat := do
  let hi ← hexEscapeDigit
  let lo ← hexEscapeDigit
  return hi * 16 + lo

/-- Reads further byte escapes until the bytes spell one character; at most four bytes. -/
def byteEscapes : Nat → List Nat → Read Char
  | 0, _ => throw notByteEscaped
  | k + 1, bytes => do
    if !(← consumeStr "\\x") then throw notByteEscaped
    let bytes := bytes ++ [← byteEscape]
    match utf8Char? bytes with
    | some c => return c
    | none => byteEscapes k bytes

/-- Reads the hexadecimal digits of a Unicode escape up to its closing brace, at most six. -/
def unicodeDigits : Nat → Nat → Nat → Read (Nat × Nat)
  | 0, count, acc => return (count, acc)
  | k + 1, count, acc => do
    if (← peekOrEof) = '}' then return (count, acc)
    let d ← hexEscapeDigit
    unicodeDigits k (count + 1) (acc * 16 + d)

/-- Reads an escape sequence after its backslash. In a byte string (`binary`) `\xHH` is any byte;
elsewhere it is an ASCII character, or in a string the first byte of a character spelled by a
run of such escapes. -/
def escape (binary isChar : Bool) : Read Escaped := do
  match ← nextChar with
  | '\'' => return .byte 0x27
  | '"' => return .byte 0x22
  | '\\' => return .byte 0x5C
  | 'n' => return .byte 0x0A
  | 'r' => return .byte 0x0D
  | 't' => return .byte 0x09
  | '0' => return .byte 0
  | 'x' =>
    let b ← byteEscape
    if binary then return .byte b
    if b < 0x80 then return .char (Char.ofNat b)
    if isChar then throw notByteEscaped
    return .char (← byteEscapes 3 [b])
  | 'u' =>
    if !(← consumeChar '{') then throw (.invalidEscape "Missing \x7b in Unicode escape")
    let (count, v) ← unicodeDigits 6 0 0
    if count = 0 then throw (.invalidEscape "Expected 1-6 digits, got 0 digits in Unicode escape")
    if !(← consumeChar '}') then throw (.invalidEscape "No \x7d at the end of Unicode escape")
    if v < 0xD800 || (0xDFFF < v && v < 0x110000) then return .char (Char.ofNat v)
    throw (.invalidEscape "Not a valid Unicode-escaped character")
  | _ => throw (.invalidEscape "Unknown escape character")

/-- The character an escape stands for outside byte strings. -/
def Escaped.toChar : Escaped → Char
  | .byte b => Char.ofNat b
  | .char c => c

/-- Reads the body of a quoted string after its opening quote, up to and past its closing quote.
The closing quote must be there before escapes are read; after each escape it is looked for
again. -/
def escapedBody (binary : Bool) : Nat → List Char → Read (List Char)
  | 0, acc => return acc
  | fuel + 1, acc => do
    let cs ← rest
    match cs.idxOf? '"' with
    | none => throw .expectedStringEnd
    | some stop =>
      match (cs.take stop).idxOf? '\\' with
      | none => advance (stop + 1); return acc ++ cs.take stop
      | some i =>
        advance (i + 1)
        let e ← escape binary false
        escapedBody binary fuel (acc ++ cs.take i ++ [e.toChar])

/-- Reads a raw string after its `r`: hashes, a quote, and the text up to a quote followed by as
many hashes. -/
def rawBody : Read (List Char) := do
  let hashes := ((← rest).takeWhile (· = '#')).length
  advance hashes
  if !(← consumeChar '"') then throw .expectedString
  let close := '"' :: List.replicate hashes '#'
  match go close (← rest) [] with
  | some b => advance (b.length + close.length); return b
  | none => throw .expectedStringEnd
where
  /-- The characters before the first closing sequence. -/
  go (close : List Char) : List Char → List Char → Option (List Char)
    | [], _ => none
    | c :: cs, acc =>
      if close.isPrefixOf (c :: cs) then some acc.reverse else go close cs (c :: acc)

/-- Reads a string: quoted with escapes, or raw. -/
def string : Read String := do
  if ← consumeChar '"' then return String.ofList (← escapedBody false ((← rest).length + 1) [])
  else if ← consumeChar 'r' then return String.ofList (← rawBody)
  else throw .expectedString

/-- Skips a byte string: `b"..."` with escapes, or raw, `br#"..."#`; an unclosed one is reported
as an unclosed string. -/
def byteString : Read Unit := do
  if ← consumeStr "b\"" then let _ ← escapedBody true ((← rest).length + 1) []
  else if ← consumeStr "br" then let _ ← rawBody
  else throw .expectedByteString

/-- Reads a character literal: `'c'` or an escape between single quotes. -/
def char : Read Char := do
  if !(← consumeChar '\'') then throw .expectedChar
  let c ← nextChar
  let c ← if c = '\\' then pure (← escape false true).toChar else pure c
  if !(← consumeChar '\'') then throw .expectedChar
  return c

/-- Reads `true` or `false`. -/
def bool : Read Bool := do
  if ← consumeIdent "true" then return true
  if ← consumeIdent "false" then return false
  throw .expectedBoolean

/-- Reads an integer literal. A byte literal or a literal with a type suffix comes back with the
type it names and its text; a literal without suffix is read by `plain` after its sign. -/
def integerLiteral (plain : Bool → Read Int) : Read (Int × Option (IntType × String)) := do
  let start ← get
  if ← consumeStr "b'" then
    let c ← nextChar
    let b ← if c = '\\' then
        match ← escape true true with
        | .byte b => pure b
        | .char _ => throw (.invalidEscape "Unexpected Unicode escape in byte literal")
      else if c.toNat < 0x80 then pure c.toNat
      else throw .expectedByteLiteral
    if !(← consumeChar '\'') then throw .expectedByteLiteral
    return (b, some (IntType.u8, ← since start))
  let negative ← match ← peekOrEof with
    | '+' => advance 1; pure false
    | '-' => advance 1; pure true
    | _ => pure false
  let cs ← rest
  let n := (cs.takeWhile isIntChar).length
  let after := (cs.drop n).head?
  if after = some 'i' || after = some 'u' then
    let digitsAt ← get
    advance n
    match ← IntType.suffixed.findM? (fun t => consumeIdent t.suffix) with
    | some t =>
      let suffixEnd ← get
      set digitsAt
      let res ← tryCatch (do return Except.ok (← digitsIn t.lo t.hi negative))
        (fun e => pure (Except.error e))
      match res with
      | .error .underscoreAtBeginning | .error (.invalidIntegerDigit ..) => pure ()
      | _ => let _ ← skipIdentifier
      match res with
      | .error e => throw e
      | .ok v =>
        return (v, some (t, String.ofList (start.rest.take
          (start.rest.length - suffixEnd.rest.length))))
    | none => set digitsAt
  return (← plain negative, none)

/-- Reads an integer of a type; a literal whose suffix names another type is refused. -/
def integer (t : IntType) : Read Int := do
  match ← integerLiteral (digitsIn t.lo t.hi) with
  | (v, none) => return v
  | (v, some (u, text)) => if u = t then return v else throw (.invalidValueForType t.describe text)

/-- The text of a float literal without its underscores, or where an underscore is misplaced: an
underscore may follow a digit or exponent mark, and not a point. -/
def floatDigits : List Char → Nat → Bool → Except Nat (List Char)
  | [], _, _ => .ok []
  | c :: cs, i, allow =>
    if c = '_' then
      if allow then floatDigits cs (i + 1) allow else .error i
    else
      let allow := if c.isDigit || c = 'e' || c = 'E' then true else if c = '.' then false else allow
      (floatDigits cs (i + 1) allow).map (c :: ·)

/-- The words that stand for floats, in the order they are tried. -/
def floatWords : List String := ["inf", "+inf", "-inf", "NaN", "+NaN", "-NaN"]

/-- A float as a text gives it. Binary32 values do not keep the sign of a NaN, so it is kept
beside the value: a NaN written `-NaN` is written back the same way. -/
structure Real32 where
  value : Float32
  nanNegative : Bool := false
deriving Inhabited

/-- Reads a float literal. A literal with the suffix `f64` comes back with its text, since a
binary32 value cannot hold it. -/
def floatLiteral : Read (Real32 × Option String) := do
  let start ← get
  for word in floatWords do
    let value : Real32 :=
      ⟨(Decimal.readFloat32 word.toList).getD 0, word.startsWith "-" && word.endsWith "NaN"⟩
    if ← consumeIdent word then return (value, none)
    let after := (← rest).drop word.length
    if word.toList.isPrefixOf (← rest) then
      for (suffix, wide) in [("f32", false), ("f64", true)] do
        if suffix.toList.isPrefixOf after && !((after.drop 3).head?.any isIdentNext) then
          advance (word.length + 3)
          let text ← since start
          return (value, if wide then some text else none)
  let cs ← rest
  let num := cs.takeWhile isFloatChar
  if num.isEmpty then throw .expectedFloat
  if num.head? = some '_' then throw .underscoreAtBeginning
  match floatDigits num 0 false with
  | .error i => advance i; throw .floatUnderscore
  | .ok text =>
    if (cs.drop num.length).head? = some 'f' then
      advance num.length
      for (suffix, wide) in [("f32", false), ("f64", true)] do
        if ← consumeIdent suffix then
          match Decimal.readFloat32 text with
          | some x =>
            let text ← since start
            return (⟨x, false⟩, if wide then some text else none)
          | none => set start; throw .expectedFloat
      set start
    match Decimal.readFloat32 text with
    | some x => advance num.length; return (⟨x, false⟩, none)
    | none => throw .expectedFloat

/-- Reads a binary32 float with the sign of a NaN; a literal marked as double precision is
refused. -/
def real32 : Read Real32 := do
  match ← floatLiteral with
  | (x, none) => return x
  | (_, some text) => throw (.invalidValueForType "a 32-bit floating point number" text)

/-- Reads a binary32 float. -/
def float : Read Float32 := do return (← real32).value

/-- Whether the number ahead reads further as a float than as an integer, after a sign. -/
def floatAhead : Read Bool := do
  match ← rest with
  | [] => return false
  | c :: more =>
    let body := if c = '+' || c = '-' then more else c :: more
    return (body.takeWhile isIntChar).length < (body.takeWhile isFloatChar).length

/-- Skips a number where any value may stand. A literal that reads further as a float is a float.
Otherwise it is an integer (64 bits, signed when negative); when that fails, it is a float that
reaches at least as far, or the integer's error stands. -/
def anyNumber : Read Unit := do
  if ← floatAhead then
    let _ ← floatLiteral
    return
  let start ← get
  let wide : Bool → Read Int := fun negative =>
    if negative then digitsIn (-(2 ^ 63)) (2 ^ 63 - 1) true else digitsIn 0 (2 ^ 64 - 1) false
  match ← tryCatch (do let _ ← integerLiteral wide; return none) (fun e => return some e) with
  | none => return
  | some e =>
    let failed ← get
    set start
    let reached ← tryCatch (do let _ ← floatLiteral; return true) (fun _ => return false)
    if reached && (← rest).length ≤ failed.rest.length then return
    set failed
    throw e

end Ron

end NodeGraph
