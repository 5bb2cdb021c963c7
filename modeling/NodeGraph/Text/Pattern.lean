import NodeGraph.Text.Alphabetic

/-!
# Regular expression syntax

Whether a text is a regular expression that a deterministic matcher can be built from, by a
matcher that carries no Unicode tables. The syntax is the common one: literals, `.`, anchors `^`
and `$`, classes in brackets (with ranges, nested classes, `[:name:]` classes and the set
operators `&&`, `--`, `~~`), groups (plain, named `(?P<name>...)` or `(?<name>...)`,
non-capturing `(?:...)`, and groups of flags such as `(?i)` or `(?x-u:...)`), alternation, and the
repetitions `*`, `+`, `?` and `{n}`, `{n,}`, `{n,m}`, each optionally lazy.

An escape is a letter with a meaning (`\d`, `\w`, `\s` and their negations, `\pL` or
`\p\x7bName\x7d` classes, `\x`, `\u`, `\U` code points, `\n`, `\t` and the other control
characters, the assertions `\A` and `\z`, the word boundaries `\b`, `\B`, `\<`, `\>` and
`\b\x7bstart\x7d` and its kin) or an ASCII character that is neither a letter nor a digit; any
other escape is an error. A repetition needs something before it to repeat, and groups nest at
most 250 deep, counting every group, repetition, alternation, sequence and class on the way in.

The flags `i` (ignore case), `u` (Unicode, on at the start) and `x` (blanks and `#` comments are
skipped) hold to the end of the group that sets them. Without tables, matching must not depend
on Unicode data: with `u` on, the classes `\d`, `\w`, `\s` and case-insensitive literals and
classes are refused; `\p` classes are always refused. With `u` off the matcher works on bytes and
must still only match whole characters, so `.`, negated classes, `\D`, `\S`, `\W`, `\B`, bytes
written `\xHH` above `\x7F` and non-ASCII characters in classes are refused. Word boundaries
with `u` on are well formed, but a deterministic matcher cannot follow them.

The checks run on fuel: each step consumes at least one character.
-/

namespace NodeGraph

namespace Text

/-- Why a pattern cannot be used. -/
inductive PatternFault where
  /-- the text is not a well-formed regular expression, or needs Unicode data -/
  | malformed
  /-- the pattern asks for Unicode word boundaries, which a deterministic matcher cannot follow -/
  | wordBoundary
deriving DecidableEq, Repr

/-- The flags in force at a point of a pattern. -/
structure PatternFlags where
  /-- letters match either case -/
  caseless : Bool := false
  /-- the pattern matches characters rather than bytes -/
  unicode : Bool := true
  /-- blanks and `#` comments are skipped -/
  extended : Bool := false
deriving Inhabited

/-- The flag letters a flag group may use. -/
def patternFlags : List Char := ['i', 'm', 's', 'R', 'U', 'u', 'x']

/-- The flags with one flag letter switched on or off; letters without a part in these checks
leave them as they are. -/
def PatternFlags.set (f : PatternFlags) (letter : Char) (on : Bool) : PatternFlags :=
  match letter with
  | 'i' => { f with caseless := on }
  | 'u' => { f with unicode := on }
  | 'x' => { f with extended := on }
  | _ => f

/-- The names of the classes written `[:name:]` inside brackets. -/
def namedClasses : List String :=
  ["alnum", "alpha", "ascii", "blank", "cntrl", "digit", "graph", "lower", "print", "punct",
   "space", "upper", "word", "xdigit"]

/-- The deepest nesting a pattern may have. -/
def nestLimit : Nat := 250

/-- Whether a character is an ASCII hexadecimal digit. -/
def isHexDigit (c : Char) : Bool := c.isDigit || ('a' ≤ c && c ≤ 'f') || ('A' ≤ c && c ≤ 'F')

/-- The value of hexadecimal digits. -/
def hexValue (cs : List Char) : Nat :=
  cs.foldl (fun acc c =>
    acc * 16 + (if c.isDigit then c.toNat - 48 else if c ≤ 'F' then c.toNat - 55 else c.toNat - 87)) 0

/-- The value of decimal digits. -/
def decimalValue (cs : List Char) : Nat := cs.foldl (fun acc c => acc * 10 + (c.toNat - 48)) 0

/-- Whether a number is a Unicode scalar value. -/
def isScalar (n : Nat) : Bool := n < 0xD800 || (0xDFFF < n && n < 0x110000)

/-- The text after blanks and `#` comments; `inComment` says whether a comment is open. -/
def skipBlanksFrom : Bool → List Char → List Char
  | _, [] => []
  | true, c :: rest => if c = '\n' then skipBlanksFrom false rest else skipBlanksFrom true rest
  | false, c :: rest =>
    if isBlank c then skipBlanksFrom false rest
    else if c = '#' then skipBlanksFrom true rest
    else c :: rest

/-- The text with blanks and comments skipped when the `x` flag is on. -/
def skipSpace (f : PatternFlags) (cs : List Char) : List Char :=
  if f.extended then skipBlanksFrom false cs else cs

theorem length_skipBlanksFrom_le : ∀ (b : Bool) (cs : List Char),
    (skipBlanksFrom b cs).length ≤ cs.length
  | _, [] => Nat.le_refl _
  | true, c :: rest => by
    unfold skipBlanksFrom
    split
    · exact Nat.le_succ_of_le (length_skipBlanksFrom_le false rest)
    · exact Nat.le_succ_of_le (length_skipBlanksFrom_le true rest)
  | false, c :: rest => by
    unfold skipBlanksFrom
    split
    · exact Nat.le_succ_of_le (length_skipBlanksFrom_le false rest)
    · split
      · exact Nat.le_succ_of_le (length_skipBlanksFrom_le true rest)
      · exact Nat.le_refl _

theorem length_skipSpace_le (f : PatternFlags) (cs : List Char) :
    (skipSpace f cs).length ≤ cs.length := by
  unfold skipSpace
  split
  · exact length_skipBlanksFrom_le false cs
  · exact Nat.le_refl _

/-- Reads characters while they satisfy `p`, skipping blanks and comments after each one when the
`x` flag is on: the characters read and the rest. -/
def spacedWhile (f : PatternFlags) (p : Char → Bool) : List Char → List Char × List Char
  | [] => ([], [])
  | c :: rest =>
    if p c then
      match spacedWhile f p (skipSpace f rest) with
      | (more, after) => (c :: more, after)
    else ([], c :: rest)
termination_by cs => cs.length
decreasing_by exact Nat.lt_succ_of_le (length_skipSpace_le f rest)

/-- What an escape stands for. -/
inductive Escape where
  /-- one character; `byte` when it was written as a byte, `\xHH` -/
  | literal (c : Char) (byte : Bool)
  /-- one of `\d`, `\s`, `\w`, or a negation `\D`, `\S`, `\W` -/
  | perl (negated : Bool)
  /-- a class of the Unicode database, `\p...` or `\P...` -/
  | property
  /-- the start or end of the text, `\A` or `\z` -/
  | anchor
  /-- a word boundary, or with `negated` the absence of one -/
  | boundary (negated : Bool)

/-- Reads the code point of an escape `\x`, `\u` or `\U` after its letter: `width` hexadecimal
digits, or any number of them between braces. The code point and the rest, when well formed. -/
def codePointEscape (f : PatternFlags) (width : Nat) (cs : List Char) : Option (Nat × List Char) :=
  match skipSpace f cs with
  | [] => none
  | '{' :: more =>
    match spacedWhile f isHexDigit (skipSpace f more) with
    | (ds, '}' :: after) =>
      if !ds.isEmpty && isScalar (hexValue ds) then some (hexValue ds, skipSpace f after) else none
    | _ => none
  | cs' =>
    let (ds, after) := spacedWhile f isHexDigit cs'
    if width ≤ ds.length && isScalar (hexValue (ds.take width)) then
      -- only `width` digits belong to the escape; the rest are literals after it
      some (hexValue (ds.take width), ds.drop width ++ after)
    else none

/-- The names of the special word boundaries written `\b\x7bname\x7d`. -/
def boundaryNames : List String := ["start", "end", "start-half", "end-half"]

/-- Reads an escape after its backslash: what it stands for and the rest. -/
def escapeAt (f : PatternFlags) (cs : List Char) : Option (Escape × List Char) :=
  match cs with
  | [] => none
  | c :: rest =>
    match c with
    | 'a' => some (.literal (Char.ofNat 7) false, rest)
    | 'f' => some (.literal (Char.ofNat 12) false, rest)
    | 't' => some (.literal '\t' false, rest)
    | 'n' => some (.literal '\n' false, rest)
    | 'r' => some (.literal '\r' false, rest)
    | 'v' => some (.literal (Char.ofNat 11) false, rest)
    | 'A' | 'z' => some (.anchor, rest)
    | 'B' => some (.boundary true, rest)
    | '<' | '>' => some (.boundary false, rest)
    | 'b' =>
      match rest with
      | '{' :: more =>
        let inner := skipSpace f more
        match inner with
        | [] => none
        | d :: _ =>
          if d.isAlpha || d = '-' then
            let isNameChar := fun (x : Char) => x.isAlpha || x = '-'
            match spacedWhile f isNameChar inner with
            | (name, '}' :: after) =>
              if boundaryNames.contains (String.ofList name) then some (.boundary false, after)
              else none
            | _ => none
          -- not a special boundary: the brace opens a repetition of the boundary
          else some (.boundary false, rest)
      | _ => some (.boundary false, rest)
    | 'd' | 's' | 'w' => some (.perl false, rest)
    | 'D' | 'S' | 'W' => some (.perl true, rest)
    | 'p' | 'P' => some (.property, rest)
    | 'x' =>
      match skipSpace f rest with
      | '{' :: _ => (codePointEscape f 2 rest).map fun (n, r) => (.literal (Char.ofNat n) false, r)
      | _ => (codePointEscape f 2 rest).map fun (n, r) => (.literal (Char.ofNat n) true, r)
    | 'u' => (codePointEscape f 4 rest).map fun (n, r) => (.literal (Char.ofNat n) false, r)
    | 'U' => (codePointEscape f 8 rest).map fun (n, r) => (.literal (Char.ofNat n) false, r)
    | _ => if c.toNat < 0x80 && !c.isAlphanum then some (.literal c false, rest) else none

/-- Whether a literal may stand outside a class under the flags: with `u` on, only when case
matters; with `u` off, unless it is a byte above `\x7F`, or a non-ASCII character whose case is
ignored. -/
def literalAllowed (f : PatternFlags) (c : Char) (byte : Bool) : Bool :=
  if f.unicode then !f.caseless
  else !(byte && 0x80 ≤ c.toNat) && !(f.caseless && 0x80 ≤ c.toNat)

/-- Whether a member of a class is allowed under the flags: with `u` off only ASCII members and
classes that are not negated; with `u` on no Perl classes; `\p` classes never. -/
def memberAllowed (f : PatternFlags) : Escape → Bool
  | .literal c _ => f.unicode || c.toNat < 0x80
  | .perl negated => !f.unicode && !negated
  | .property => false
  | _ => false

/-- The depth of a list of parts joined one after another, the last first: one part is as deep
as itself, more are one deeper than the deepest. -/
def sequenceDepth : List Nat → Nat
  | [] => 0
  | [d] => d
  | ds => ds.foldl max 0 + 1

/-- A class being read: the depth of the set before the last set operator, if there is one,
and the depths of the members after it, the last first. -/
structure ClassParts where
  left : Option Nat := none
  members : List Nat := []

/-- The depth of the set a class has read so far. -/
def ClassParts.depth (p : ClassParts) : Nat :=
  match p.left with
  | none => sequenceDepth p.members
  | some d => max d (sequenceDepth p.members) + 1

/-- Adds a member of a given depth; a class with members cannot ignore case without Unicode
data. -/
def ClassParts.add (f : PatternFlags) (p : ClassParts) (d : Nat) : Option ClassParts :=
  if f.unicode && f.caseless then none else some { p with members := d :: p.members }

/-- Reads a member of a class (an escape or a character) followed by an optional `-` and the end
of a range; the rest, when well formed. -/
def classRange (f : PatternFlags) (p : ClassParts) (cs : List Char) :
    Option (ClassParts × List Char) := do
  let (first, after) ← match cs with
    | '\\' :: rest => escapeAt f rest
    | c :: rest => some (.literal c false, rest)
    | [] => none
  let after := skipSpace f after
  if after.isEmpty then none
  let isRange := match after with
    | '-' :: more => match skipSpace f more with
      | ']' :: _ | '-' :: _ => false
      | _ => true
    | _ => false
  if !isRange then
    if !memberAllowed f first then none
    return (← p.add f 0, after)
  let endText := skipSpace f (after.drop 1)
  let (last, rest) ← match endText with
    | '\\' :: more => escapeAt f more
    | c :: more => some (.literal c false, more)
    | [] => none
  match first, last with
  | .literal a _, .literal b _ =>
    if b < a || !memberAllowed f first || !memberAllowed f last then none
    return (← p.add f 0, rest)
  | _, _ => none

/-- Reads `[:name:]` or `[:^name:]` after the opening bracket of a class inside a class: whether
it is negated and the rest, or `none` when the text is no such class. -/
def namedClass (cs : List Char) : Option (Bool × List Char) :=
  match cs with
  | ':' :: more =>
    let (negated, body) := match more with
      | '^' :: r => (true, r)
      | r => (false, r)
    let name := body.takeWhile (· ≠ ':')
    match body.drop name.length with
    | ':' :: ']' :: after =>
      if namedClasses.contains (String.ofList name) then some (negated, after) else none
    | _ => none
  | _ => none

/-- Opens a class after its bracket: an optional `^`, then any number of `-` and, first of all,
a `]`, which stand for themselves. Whether the class is negated, its first members, and the
rest. -/
def classOpen (f : PatternFlags) (cs : List Char) : Option (Bool × ClassParts × List Char) := do
  let cs := skipSpace f cs
  if cs.isEmpty then none
  let (negated, cs) := match cs with
    | '^' :: rest => (true, skipSpace f rest)
    | cs => (false, cs)
  if cs.isEmpty then none
  let dashes := (spacedWhile f (· = '-') cs).1
  let cs := (spacedWhile f (· = '-') cs).2
  let p ← dashes.foldlM (fun p _ => p.add f 0) ({} : ClassParts)
  if cs.isEmpty then none
  let (p, cs) ← match dashes, cs with
    | [], ']' :: rest => do pure (← p.add f 0, skipSpace f rest)
    | _, cs => pure (p, cs)
  if cs.isEmpty then none
  return (negated, p, cs)

/-- Reads the body of a class after its opening up to and past its closing bracket: the depth of
the class and the rest, when well formed. A negated class matches bytes that are no characters
when the `u` flag is off. -/
def classBody (f : PatternFlags) : Nat → Bool → ClassParts → List Char → Option (Nat × List Char)
  | 0, _, _, _ => none
  | fuel + 1, negated, p, cs =>
    match skipSpace f cs with
    | [] => none
    | ']' :: rest =>
      if negated && !f.unicode then none else some (p.depth + 1, rest)
    | '[' :: rest =>
      match namedClass rest with
      | some (nested, after) =>
        if nested && !f.unicode then none
        else (p.add f 0).bind fun p => classBody f fuel negated p after
      | none => do
        let (nested, q, inner) ← classOpen f rest
        let (d, after) ← classBody f fuel nested q inner
        classBody f fuel negated (← p.add f d) after
    | '&' :: '&' :: rest => classBody f fuel negated { left := some p.depth } rest
    | '-' :: '-' :: rest => classBody f fuel negated { left := some p.depth } rest
    | '~' :: '~' :: rest => classBody f fuel negated { left := some p.depth } rest
    | cs' => do
      let (p, after) ← classRange f p cs'
      classBody f fuel negated p after

/-- Reads the flags of a group after `(?`, up to `)` (a flag group) or `:` (a group with flags):
each flag letter once, at most one `-`, which turns off the letters after it and may not come
last. The letters with whether each is turned on, whether a group opens, and the rest. -/
def flagGroup (cs : List Char) : Option (List (Char × Bool) × Bool × List Char) :=
  let flags := cs.takeWhile fun c => c ≠ ':' && c ≠ ')'
  let negations := (flags.filter (· = '-')).length
  let letters := flags.filter (· ≠ '-')
  let dangling := flags.getLast? = some '-'
  let repeated := letters.any fun c => (letters.filter (· = c)).length > 1
  let known := letters.all patternFlags.contains
  let afterMinus := (flags.takeWhile (· ≠ '-')).length
  let settings := (flags.zipIdx.filter (·.1 ≠ '-')).map fun (c, i) => (c, decide (i < afterMinus))
  if negations > 1 || dangling || repeated || !known then none
  else
    match cs.drop flags.length with
    | ')' :: after => if flags.isEmpty then none else some (settings, false, after)
    | ':' :: after => some (settings, true, after)
    | _ => none

/-- Whether a character may stand in a group name: a letter or an underscore first, then also
digits, `.`, `[` and `]`. -/
def isGroupNameChar (first : Bool) (c : Char) : Bool :=
  if first then c = '_' || isAlphabetic c
  else c = '_' || c = '.' || c = '[' || c = ']' || isAlphanumeric c

/-- Reads a group name after `<` up to and past `>`: the name and the rest. -/
def groupName (cs : List Char) : Option (String × List Char) :=
  match cs with
  | [] => none
  | c :: more =>
    if !isGroupNameChar true c then none
    else
      let name := c :: more.takeWhile (isGroupNameChar false)
      match cs.drop name.length with
      | '>' :: after => some (String.ofList name, after)
      | _ => none

/-- Reads the bounds of a counted repetition after `{` up to and past `}`: `n`, `n,` or `n,m`
with `n ≤ m`, each a 32-bit count; blanks may stand around the numbers. The rest, when well
formed. -/
def countedRepetition (f : PatternFlags) (cs : List Char) : Option (List Char) := do
  let number (text : List Char) : Option Nat × List Char :=
    let (ds, after) := spacedWhile f Char.isDigit (text.dropWhile isBlank)
    (if ds.isEmpty || 0xFFFFFFFF < decimalValue ds then none else some (decimalValue ds),
      skipSpace f (after.dropWhile isBlank))
  let cs := skipSpace f cs
  if cs.isEmpty then none
  let (lo, after) := number cs
  if after.isEmpty then none
  let (ok, after) ← match after with
    | ',' :: more =>
      let more := skipSpace f more
      if more.isEmpty then none
      match more with
      | '}' :: _ => pure (lo.isSome, more)
      | _ =>
        let (hi, after) := number more
        match lo, hi with
        | some a, some b => pure (a ≤ b, after)
        | _, _ => pure (false, after)
    | _ => pure (lo.isSome, after)
  match after with
  | '}' :: rest => if ok then some rest else none
  | _ => none

/-- The pattern's parts so far at one level of groups: the flags in force, the depths of the
finished alternatives and of the items of the current one (the last first, each with whether a
repetition may follow it). -/
structure PatternLevel where
  flags : PatternFlags
  alternatives : List Nat := []
  items : List (Nat × Bool) := []

/-- The depth of what a level holds: its sequence of items, or the alternation of its
alternatives. -/
def PatternLevel.depth (l : PatternLevel) : Nat :=
  let current := sequenceDepth (l.items.map (·.1))
  if l.alternatives.isEmpty then current else l.alternatives.foldl max current + 1

/-- The pattern being checked: the current level, the levels of the groups around it (the
innermost first), the group names used, and whether a Unicode word boundary was seen. -/
structure PatternScan where
  level : PatternLevel := { flags := {} }
  outer : List PatternLevel := []
  names : List String := []
  boundary : Bool := false

namespace PatternScan

/-- Adds an item of a given depth to the current sequence. -/
def push (s : PatternScan) (d : Nat) (repeatable : Bool := true) : PatternScan :=
  { s with level := { s.level with items := (d, repeatable) :: s.level.items } }

/-- Wraps the last item in a repetition; `none` when there is nothing to repeat. -/
def repeatLast (s : PatternScan) : Option PatternScan :=
  match s.level.items with
  | (d, true) :: rest => some { s with level := { s.level with items := (d + 1, true) :: rest } }
  | _ => none

/-- Opens a group whose contents have the given flags. -/
def openGroup (s : PatternScan) (flags : PatternFlags) : PatternScan :=
  { s with level := { flags := flags }, outer := s.level :: s.outer }

/-- Closes the innermost group, which becomes an item one deeper than its contents; `none` when
no group is open. -/
def closeGroup (s : PatternScan) : Option PatternScan :=
  match s.outer with
  | [] => none
  | l :: ls => some ({ s with level := l, outer := ls }.push (s.level.depth + 1))

/-- Ends the current alternative. -/
def alternate (s : PatternScan) : PatternScan :=
  { s with level := { s.level with
      alternatives := sequenceDepth (s.level.items.map (·.1)) :: s.level.alternatives,
      items := [] } }

end PatternScan

/-- Checks the rest of a pattern. -/
def checkFrom : Nat → List Char → PatternScan → Option PatternFault
  | 0, _, _ => some .malformed
  | fuel + 1, cs, s =>
    let f := s.level.flags
    match skipSpace f cs with
    | [] =>
      if !s.outer.isEmpty || nestLimit < s.level.depth then some .malformed
      else if s.boundary then some .wordBoundary
      else none
    | '(' :: rest =>
      match skipSpace f rest with
      | '?' :: 'P' :: '<' :: r | '?' :: '<' :: r =>
        match groupName r with
        | some (name, after) =>
          if s.names.contains name then some .malformed
          else checkFrom fuel after { s.openGroup f with names := name :: s.names }
        | none => some .malformed
      | '?' :: r =>
        match flagGroup r with
        | some (settings, opens, after) =>
          let g := settings.foldl (fun g (c, on) => g.set c on) f
          if opens then checkFrom fuel after (s.openGroup g)
          else checkFrom fuel after ({ s with level := { s.level with flags := g } }.push 0 false)
        | none => some .malformed
      | r => checkFrom fuel r (s.openGroup f)
    | ')' :: rest =>
      match s.closeGroup with
      | some s' => checkFrom fuel rest s'
      | none => some .malformed
    | '|' :: rest => checkFrom fuel rest s.alternate
    | '[' :: rest =>
      match classOpen f rest with
      | some (negated, p, inner) =>
        match classBody f (inner.length + 1) negated p inner with
        | some (d, after) => checkFrom fuel after (s.push d)
        | none => some .malformed
      | none => some .malformed
    | '\\' :: rest =>
      match escapeAt f rest with
      | some (.literal c byte, after) =>
        if literalAllowed f c byte then checkFrom fuel after (s.push 0) else some .malformed
      | some (.perl negated, after) =>
        if memberAllowed f (.perl negated) then checkFrom fuel after (s.push 0) else some .malformed
      | some (.property, _) => some .malformed
      | some (.anchor, after) => checkFrom fuel after (s.push 0)
      | some (.boundary negated, after) =>
        if f.unicode then checkFrom fuel after { s.push 0 with boundary := true }
        else if negated then some .malformed
        else checkFrom fuel after (s.push 0)
      | none => some .malformed
    | c :: rest =>
      if c = '*' || c = '+' || c = '?' then
        match s.repeatLast with
        | some s' =>
          let after := match rest with | '?' :: r => r | r => r
          checkFrom fuel after s'
        | none => some .malformed
      else if c = '{' then
        match s.repeatLast, countedRepetition f rest with
        | some s', some after =>
          let after := match skipSpace f after with | '?' :: r => r | r => r
          checkFrom fuel after s'
        | _, _ => some .malformed
      else if c = '.' then
        if f.unicode then checkFrom fuel rest (s.push 0) else some .malformed
      else if c = '^' || c = '$' then checkFrom fuel rest (s.push 0)
      else if literalAllowed f c false then checkFrom fuel rest (s.push 0)
      else some .malformed

/-- Why a pattern cannot be used, or `none` when it can. -/
def patternFault (s : String) : Option PatternFault :=
  checkFrom (s.length + 1) s.toList {}

end Text

end NodeGraph
