import NodeGraph.Ron.Literal

/-!
# Reading RON

RON writes structs as `Name(field: value, ...)` with an optional name, tuples as `(a, b)`,
sequences as `[a, b]`, maps as `\x7bkey: value\x7d`, options as `None` and `Some(v)`, enum variants
by name, and literals as `NodeGraph.Ron.Literal` reads them. Whitespace and comments may stand
between tokens; a list may end with a comma. A text may start with attributes
`#![enable(...)]` that switch on extensions: `implicit_some` lets an option's value stand without
`Some(...)`, `explicit_struct_names` makes struct names required, and `unwrap_variant_newtypes`
lets the struct inside `Some(...)` drop its own name and parentheses.

A text is read against the type it must have, one token at a time. The first problem stops the
reading; it is reported with the line and column the cursor had reached, as `line:column:
message`. Fields a struct does not know are read as any value, whose kind its first characters
decide, and dropped; a missing field without a default is reported once the struct's fields end,
and a repeated field as soon as its name is read. Values may nest at most 128 deep, counting each
struct, sequence, tuple, option and enum and each field or element inside one.

Loops run on fuel: each step consumes at least one character, so the length of the text bounds
them.
-/

namespace NodeGraph

namespace Ron

/-- Reads the entries of a comma-separated list up to a terminator, each with `item`; `fuel`
bounds the number of entries. -/
def listed {α : Type} (terminator : Char) (item : Nat → Read α) : Nat → Nat → Bool → Read (List α)
  | 0, _, _ => pure []
  | fuel + 1, i, hadComma => do
    skipWs
    let more := !(← checkChar terminator)
    if !hadComma && more then throw .expectedComma
    if !more then return []
    let a ← item i
    let c ← comma
    return a :: (← listed terminator item fuel (i + 1) c)

/-- Reads the value of a field after its name: a colon, then the value with `value`. -/
def fieldValue {α : Type} (value : Read α) : Read α := do
  skipWs
  if !(← consumeChar ':') then throw .expectedMapColon
  skipWs
  nested value

/-- Whether the text ahead holds a struct's fields rather than a tuple's values: after `(`, a name
and then a colon. -/
def fieldsAhead : Read Bool := do
  let saved ← get
  advance 1
  skipWs
  let named ← if ← checkChar ')' then pure false else do
    match ← skipIdentifier with
    | some _ =>
      skipWs
      match ← peek with
      | some ':' => pure true
      | some ',' => advance 1; skipWs; pure false
      | _ => pure false
    | none => pure false
  set saved
  return named

/-- What the value inside an unwrapped `Some(...)` holds, judged by looking ahead. -/
inductive InnerShape where
  /-- a struct's fields, `name: value, ...` -/
  | fields
  /-- two or more values separated by commas -/
  | values
  /-- one value -/
  | single

/-- Looks ahead past the first value inside parentheses, counting brackets, for a comma at the
top level: whether another value follows it. Strings and byte strings are stepped over whole, so
their brackets and commas do not count; running out of text is an error. `fuel` bounds the
characters looked at. -/
def moreThanOne : Nat → Nat → Read Bool
  | 0, _ => pure false
  | fuel + 1, depth => do
    skipWs
    let before ← get
    tryCatch (do let _ ← string) fun _ => set before
    let before ← get
    tryCatch byteString fun _ => set before
    let c ← nextChar
    if c = '(' || c = '[' || c = '\x7b' then moreThanOne fuel (depth + 1)
    else if c = ')' || c = ']' || c = '\x7d' then
      if depth ≤ 1 then return false else moreThanOne fuel (depth - 1)
    else if c = ',' && depth = 1 then
      skipWs
      return !(← checkChar ')')
    else moreThanOne fuel depth

/-- What the value inside an unwrapped `Some(...)` holds: fields when a name and a colon come
first, several values when a top-level comma is followed by another value, else one value. The
cursor is left where it was. -/
def innerShape : Read InnerShape := do
  let saved ← get
  skipWs
  let named ← skipIdentifier
  if named.isSome then skipWs
  let early : Option InnerShape ← if named.isNone then pure none else
    match ← peek with
    | some ':' => pure (some .fields)
    | some ',' =>
      advance 1
      skipWs
      pure (some (if ← checkChar ')' then .single else .values))
    | some ')' => pure (some .single)
    | _ => pure none
  let shape ← match early with
    | some sh => pure sh
    | none => do
      if ← moreThanOne ((← rest).length + 1) 1 then pure .values else pure .single
  set saved
  return shape

/-- Skips any value; its first characters decide its kind. `fuel` bounds the nesting. -/
def skipAny : Nat → Read Unit
  | 0 => pure ()
  | fuel + 1 => do
    let skipSome : Read Unit := nested (skipAny fuel)
    let skipFields : Read Unit := do
      let _ ← listed ')' (fun _ => do
        let _ ← nested identifier
        fieldValue (skipAny fuel)) ((← rest).length + 1) 0 true
    let skipValues (terminator : Char) : Read Unit := do
      let _ ← listed terminator (fun _ => nested (skipAny fuel)) ((← rest).length + 1) 0 true
    let closed (close : Char) (err : ReadError) : Read Unit := do
      skipWs
      if !(← consumeChar close) then throw err
    -- a struct or tuple after a name, or a unit when no parenthesis follows
    let group : Read Unit := do
      if !(← checkChar '(') then return
      if ← fieldsAhead then
        advance 1
        nested skipFields
      else
        advance 1
        nested (skipValues ')')
      closed ')' .expectedStructLikeEnd
    let s ← get
    if s.unwrapNext then
      set { s with unwrapNext := false }
      -- the value inside `Some(...)` may be a unit, or fields or values without parentheses
      if ← checkChar ')' then return
      match ← innerShape with
      | .fields =>
        nested skipFields
        skipWs
        return
      | .values =>
        nested (skipValues ')')
        skipWs
        return
      | .single => pure ()
    if ← consumeIdent "true" then return
    if ← consumeIdent "false" then return
    if (← checkStr "Some") && !(← identCharAt 4) then
      advance 4
      skipWs
      if ← consumeChar '(' then
        skipWs
        let unwrap := (← get).unwrapSome
        modify fun s => { s with unwrapNext := unwrap }
        skipSome
        modify fun s => { s with unwrapNext := false }
        let _ ← comma
        if !(← consumeChar ')') then throw .expectedOptionEnd
        return
      if (← get).implicitSome then skipSome; return
      throw .expectedOption
    if ← consumeIdent "None" then return
    if ← consumeStr "()" then return
    for word in ["inf", "inff32", "inff64", "NaN", "NaNf32", "NaNf64"] do
      if ← consumeIdent word then return
    if (← skipIdentifier).isSome then
      skipWs
      group
      return
    match ← peekOrEof with
    | '(' => group
    | '[' =>
      advance 1
      nested (skipValues ']')
      closed ']' .expectedArrayEnd
    | '{' =>
      advance 1
      nested (do
        let _ ← listed '}' (fun _ => do
          nested (skipAny fuel)
          fieldValue (skipAny fuel)) ((← rest).length + 1) 0 true)
      closed '}' .expectedMapEnd
    | c =>
      if c.isDigit || c = '+' || c = '-' || c = '.' then anyNumber
      else if c = '"' || c = 'r' then let _ ← string
      else if c = 'b' then
        if ← checkStr "b'" then anyNumber else byteString
      else if c = '\'' then let _ ← char
      else throw (.unexpectedChar c)

/-- Reads the fields of a struct body: each known field once with `field`, unknown fields
skipped; the names seen, in order. -/
def fields {σ : Type} (outer : Option String) (known : List String) (field : String → σ → Read σ) :
    Nat → Bool → List String → σ → Read (σ × List String)
  | 0, _, seen, acc => pure (acc, seen)
  | fuel + 1, hadComma, seen, acc => do
    skipWs
    let more := !(← checkChar ')')
    if !hadComma && more then throw .expectedComma
    if !more then return (acc, seen)
    let key ← nested identifier
    let known? := known.contains key
    if known? && seen.contains key then throw (.duplicateStructField key outer)
    let acc ← fieldValue (if known? then field key acc else do
      skipAny ((← rest).length + 1)
      pure acc)
    let c ← comma
    fields outer known field fuel c (if known? then seen ++ [key] else seen) acc

/-- Reads a struct body after its name: `(`, fields, `)`. `required` fields must appear; a
missing or repeated field is reported in `outer`. A struct whose parentheses the text left out
inside `Some(...)` ends where the option does. -/
def structBody {σ : Type} (name : String) (outer : Option String) (known required : List String)
    (field : String → σ → Read σ) (init : σ) : Read σ := do
  skipWs
  let unwrapped := (← get).unwrapNext
  modify fun s => { s with unwrapNext := false }
  if !unwrapped then
    if !(← consumeChar '(') then
      throw (if name.isEmpty then .expectedStructLike else .expectedNamedStructLike name)
  let outer := if unwrapped then none else outer
  let acc ← nested do
    let (acc, seen) ← fields outer known field ((← rest).length + 1) true [] init
    for r in required do
      if !seen.contains r then throw (.missingStructField r outer)
    return acc
  skipWs
  if !unwrapped then
    if !(← consumeChar ')') then throw .expectedStructLikeEnd
  return acc

/-- Reads a struct with an optional name. -/
def struct {σ : Type} (name : String) (known required : List String)
    (field : String → σ → Read σ) (init : σ) : Read σ := do
  if !(← get).unwrapNext then let _ ← structName name
  structBody name (if name.isEmpty then none else some name) known required field init

/-- Reads a tuple of `n` values with an optional name; `expected` describes it when it is short. -/
def tuple {α : Type} (name : Option String) (n : Nat) (expected : String) (item : Read α) :
    Read (List α) := do
  modify fun s => { s with unwrapNext := false }
  if let some nm := name then let _ ← structName nm
  if !(← consumeChar '(') then
    throw (match name with
      | some nm => if nm.isEmpty then .expectedStructLike else .expectedNamedStructLike nm
      | none => .expectedStructLike)
  let xs ← nested (go n 0 true)
  skipWs
  if !(← consumeChar ')') then throw .expectedStructLikeEnd
  return xs
where
  /-- Reads the remaining `k` values. -/
  go : Nat → Nat → Bool → Read (List α)
    | 0, _, _ => pure []
    | k + 1, i, hadComma => do
      skipWs
      let more := !(← checkChar ')')
      if !hadComma && more then throw .expectedComma
      if !more then throw (.expectedDifferentLength expected i)
      let a ← nested item
      let c ← comma
      return a :: (← go k (i + 1) c)

/-- Reads a sequence `[a, b, ...]`. -/
def seq {α : Type} (item : Read α) : Read (List α) := do
  modify fun s => { s with unwrapNext := false }
  if !(← consumeChar '[') then throw .expectedArray
  let xs ← nested (listed ']' (fun _ => nested item) ((← rest).length + 1) 0 true)
  skipWs
  if !(← consumeChar ']') then throw .expectedArrayEnd
  return xs

/-- Reads an option: `None`, `Some(v)`, or (when allowed) the value alone. -/
def option {α : Type} (item : Read α) : Read (Option α) := do
  if ← consumeIdent "None" then return none
  if ← consumeIdent "Some" then
    skipWs
    if ← consumeChar '(' then
      skipWs
      let unwrap := (← get).unwrapSome
      modify fun s => { s with unwrapNext := unwrap }
      let v ← nested item
      modify fun s => { s with unwrapNext := false }
      let _ ← comma
      if ← consumeChar ')' then return some v
      throw .expectedOptionEnd
  if (← get).implicitSome then return some (← nested item)
  throw .expectedOption

/-- Reads a value of enum `name`: the name of one of its `variants`, then what `body` reads for
that variant. -/
def enum {α : Type} (name : String) (variants : List String) (body : String → Read α) : Read α := do
  modify fun s => { s with unwrapNext := false }
  nested do
    skipWs
    let v ← nested identifier
    if !variants.contains v then
      throw (.noSuchEnumVariant variants v (if name.isEmpty then none else some name))
    body v

/-- Reads the name of an enum variant among `variants` of enum `name`, for variants that hold
nothing. -/
def variant (name : String) (variants : List String) : Read String := enum name variants pure

/-- Switches on an extension by name. -/
def enableExtension (name : String) : Read Unit :=
  match name with
  | "implicit_some" => modify fun s => { s with implicitSome := true }
  | "explicit_struct_names" => modify fun s => { s with explicitNames := true }
  | "unwrap_variant_newtypes" => modify fun s => { s with unwrapSome := true }
  | "unwrap_newtypes" => pure ()
  | _ => throw (.noSuchExtension name)

/-- Reads the extension attributes at the start of a text, `#![enable(a, b)]`, each followed by
whitespace; `fuel` bounds their number. -/
def extensions : Nat → Read Unit
  | 0 => pure ()
  | fuel + 1 => do
    if !(← checkChar '#') then return
    if !(← consumeAll ["#", "!", "[", "enable", "("]) then throw .expectedAttribute
    skipWs
    names ((← rest).length + 1)
    skipWs
    if !(← consumeAll [")", "]"]) then throw .expectedAttributeEnd
    skipWs
    extensions fuel
where
  /-- Reads the names of extensions, separated by commas; a trailing comma may end them. -/
  names : Nat → Read Unit
    | 0 => pure ()
    | k + 1 => do
      enableExtension (← identifier)
      let c ← comma
      let more ← identCharAt 0
      if !c && more then throw .expectedComma
      if c && more then names k

/-- Reads a whole text as one value: whitespace and extension attributes first, nothing but
whitespace after. The error comes with the line and column where reading stopped. -/
def parse {α : Type} (text : String) (value : Read α) : Except (ReadError × Nat × Nat) α :=
  let whole : Read α := do
    skipWs
    extensions ((← rest).length + 1)
    let v ← value
    skipWs
    if !(← rest).isEmpty then throw .trailingCharacters
    return v
  match whole.run { rest := text.toList } with
  | .ok v _ => .ok v
  | .error e s => .error (e, s.line, s.col)

end Ron

end NodeGraph
