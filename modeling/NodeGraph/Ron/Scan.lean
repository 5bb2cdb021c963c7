import NodeGraph.Ron.Error

/-!
# The RON cursor

A RON text is read with a cursor: the rest of the text, the line and column of its next
character, the extensions the text enabled, and how deeply the value being read is nested. This
module holds the steps every reader shares: looking ahead, consuming characters and words,
skipping whitespace and comments, commas, identifiers and struct names, and entering a nested
value.

Whitespace is skipped together with `//` line comments and `/* */` block comments, which nest. An
identifier is plain (an underscore or letter, then letters, digits and underscores) or raw,
`r#name`, which may also hold `.`, `+` and `-`; a plain name that runs on into such characters is
refused with a hint to write it raw.
-/

namespace NodeGraph

namespace Ron

/-- The rest of a text with the line and column of its first character. -/
structure Scan where
  rest : List Char
  line : Nat := 1
  col : Nat := 1
  /-- `Some(...)` may be left out around an option's value -/
  implicitSome : Bool := false
  /-- structs must be written with their names -/
  explicitNames : Bool := false
  /-- the value inside `Some(...)` is written without its own name and parentheses -/
  unwrapSome : Bool := false
  /-- the next struct is written without its name and parentheses -/
  unwrapNext : Bool := false
  /-- how many values the cursor is inside -/
  depth : Nat := 0

/-- Reading a RON text. -/
abbrev Read := EStateM ReadError Scan

namespace Scan

/-- The scan one character further. -/
def step (s : Scan) : Scan :=
  match s.rest with
  | [] => s
  | c :: cs => if c = '\n' then { s with rest := cs, line := s.line + 1, col := 1 }
    else { s with rest := cs, col := s.col + 1 }

/-- The scan `n` characters further. -/
def skip (s : Scan) : Nat → Scan
  | 0 => s
  | n + 1 => s.step.skip n

theorem rest_step (s : Scan) : s.step.rest = s.rest.drop 1 := by
  unfold step
  split
  · rename_i h
    simp [h]
  · rename_i c cs h
    simp only [h, List.drop_one, List.tail_cons]
    split <;> rfl

end Scan

/-- The remaining text. -/
def rest : Read (List Char) := do return (← get).rest

/-- Moves `n` characters on. -/
def advance (n : Nat) : Read Unit := modify (·.skip n)

/-- The next character. -/
def peek : Read (Option Char) := do return (← rest).head?

/-- The next character, which must exist. -/
def peekOrEof : Read Char := do
  match ← peek with
  | some c => return c
  | none => throw .eof

/-- Consumes the next character, which must exist. -/
def nextChar : Read Char := do
  let c ← peekOrEof
  advance 1
  return c

/-- Whether the text goes on with a character. -/
def checkChar (c : Char) : Read Bool := do return (← peek) == some c

/-- Consumes a character if it comes next. -/
def consumeChar (c : Char) : Read Bool := do
  if ← checkChar c then advance 1; return true else return false

/-- Whether the text goes on with a string. -/
def checkStr (p : String) : Read Bool := do return p.toList.isPrefixOf (← rest)

/-- Consumes a string if it comes next. -/
def consumeStr (p : String) : Read Bool := do
  if ← checkStr p then advance p.length; return true else return false

/-- Whether a character continuing an identifier stands `k` characters ahead. -/
def identCharAt (k : Nat) : Read Bool := do return ((← rest).drop k).head?.any isIdentNext

/-- Consumes a word if it comes next and no identifier character follows it. -/
def consumeIdent (w : String) : Read Bool := do
  if (← checkStr w) && !(← identCharAt w.length) then advance w.length; return true
  else return false

/-- The text read since an earlier cursor. -/
def since (start : Scan) : Read String := do
  return String.ofList (start.rest.take (start.rest.length - (← rest).length))

/-- Skips a block comment after its opening, with nesting; `depth` counts the comments still open
beyond the first. -/
def blockComment : Nat → Nat → Read Unit
  | 0, _ => throw .unclosedBlockComment
  | fuel + 1, depth => do
    advance ((← rest).takeWhile (fun c => c ≠ '/' && c ≠ '*')).length
    if (← rest).isEmpty then throw .unclosedBlockComment
    if ← consumeStr "/*" then blockComment fuel (depth + 1)
    else if ← consumeStr "*/" then
      match depth with
      | 0 => pure ()
      | d + 1 => blockComment fuel d
    else
      advance 1
      blockComment fuel depth

/-- Skips whitespace and comments. -/
def skipWs : Read Unit := do
  go ((← rest).length + 1)
where
  go : Nat → Read Unit
    | 0 => pure ()
    | fuel + 1 => do
      let cs ← rest
      let blanks := (cs.takeWhile isSpace).length
      advance blanks
      if ← consumeChar '/' then
        match ← nextChar with
        | '/' =>
          advance ((← rest).takeWhile (· ≠ '\n')).length
          go fuel
        | '*' =>
          blockComment ((← rest).length + 1) 0
          go fuel
        | c => throw (.unexpectedChar c)
      else if blanks = 0 then pure () else go fuel

/-- Skips whitespace, then a comma and the whitespace after it; whether there was a comma. -/
def comma : Read Bool := do
  skipWs
  if ← consumeChar ',' then skipWs; return true else return false

/-- Consumes each of a list of tokens in turn, skipping whitespace after each one found; whether
all were found. A missing token does not stop the ones after it from being tried. -/
def consumeAll (tokens : List String) : Read Bool :=
  tokens.foldlM (fun ok t => do
    if ← consumeStr t then skipWs; return ok else return false) true

/-- The openings of strings, byte strings and byte literals that start with a letter; no
identifier starts with one of them. -/
def letterQuotes : List String := ["b\"", "b'", "br#", "br\"", "r\"", "r#\"", "r##"]

/-- Reads an identifier, raw (`r#name`) or plain. A plain identifier followed by characters only
raw identifiers may hold is refused with the raw spelling as a hint. -/
def identifier : Read String := do
  let first ← peekOrEof
  let cs ← rest
  if !isIdentFirst first then
    if isIdentRaw first then
      throw (.suggestRawIdentifier (String.ofList (cs.takeWhile isIdentRaw)))
    throw .expectedIdentifier
  if letterQuotes.any (·.toList.isPrefixOf cs) then throw .expectedIdentifier
  let plain : Read String := do
    let std := cs.takeWhile isIdentNext
    let raw := cs.takeWhile isIdentRaw
    if std.length < raw.length then throw (.suggestRawIdentifier (String.ofList raw))
    advance std.length
    return String.ofList std
  match cs with
  | 'r' :: '#' :: after =>
    if !(after.head?.any isIdentRaw) then throw .expectedIdentifier
    let body := after.takeWhile isIdentRaw
    advance (2 + body.length)
    return String.ofList body
  | _ => plain

/-- Skips an identifier if one comes next, without errors; the identifier skipped. Strings, byte
strings and byte literals are not identifiers even where they start with a letter. -/
def skipIdentifier : Read (Option String) := do
  let cs ← rest
  if letterQuotes.any (·.toList.isPrefixOf cs) then return none
  match cs with
  | 'r' :: '#' :: after =>
    let body := after.takeWhile isIdentRaw
    if body.isEmpty then return none
    advance (2 + body.length)
    return some (String.ofList body)
  | c :: more =>
    if isIdentFirst c then
      let body := c :: more.takeWhile isIdentNext
      advance body.length
      return some (String.ofList body)
    else return none
  | [] => return none

/-- Reads a struct's name if one is written; a different name is an error. -/
def structName (name : String) : Read Bool := do
  if !(← identCharAt 0) then
    if (← get).explicitNames then throw (.expectedStructName name)
    return false
  let found ← tryCatch identifier fun e =>
    match e with
    | .suggestRawIdentifier f => if f = name then throw e else throw (.expectedNamedStructLike name)
    | _ => throw (.expectedNamedStructLike name)
  if name.isEmpty then throw (.expectedNamedStructLike name)
  if found ≠ name then throw (.expectedDifferentStructName name found)
  return true

/-- How deeply values may nest. -/
def nestingLimit : Nat := 128

/-- Runs a reader one level deeper in the nesting of values; past the limit, reading stops. -/
def nested {α : Type} (m : Read α) : Read α := do
  let s ← get
  if nestingLimit ≤ s.depth then throw .exceededRecursionLimit
  set { s with depth := s.depth + 1 }
  let a ← m
  modify fun s => { s with depth := s.depth - 1 }
  return a

end Ron

end NodeGraph
