import RecordQuery.Regex.Pattern
import RecordQuery.Text.Digits

/-!
# Reading regular expressions

The notation: literals, `.`, classes in brackets with nesting, ranges, named sets and
the operators `&&`, `--` and `~~`, escapes for characters, sets and assertions, groups
with names or flags, choices, and repetitions `?`, `*`, `+` and `{m,n}`, lazy or not.
There are no references back and no assertions about longer pieces of text around.
Flags change how what follows is read up to the end of the group.  An expression that
is nested too deeply or too large when written out is refused.
-/

set_option autoImplicit false

namespace RecordQuery.Regex

open Text (isBlank isAlphabetic isAlphanumeric digitsValue hexDigit?)

/-- Why a text is not a regular expression. -/
inductive Fault where
  | unexpectedEnd
  | unclosedGroup
  | unopenedGroup
  | unclosedClass
  | badClassRange
  | badGroupName
  | badFlags
  | badEscape
  | badRepetition
  | nothingToRepeat
  | lookAround
  | unknownProperty
  | invalidBytes
  | nestedTooDeeply
  | tooLarge
deriving DecidableEq, Repr

/-- The text of a fault. -/
def Fault.message : Fault → String
  | .unexpectedEnd => "the expression ends too early"
  | .unclosedGroup => "a group is not closed"
  | .unopenedGroup => "a group is closed that was not opened"
  | .unclosedClass => "a class is not closed"
  | .badClassRange => "a class has an invalid part"
  | .badGroupName => "a group has an invalid name"
  | .badFlags => "flags are invalid"
  | .badEscape => "an escape is invalid"
  | .badRepetition => "a repetition is invalid"
  | .nothingToRepeat => "a repetition has nothing to repeat"
  | .lookAround => "looking around is not supported"
  | .unknownProperty => "a property of characters is unknown"
  | .invalidBytes => "it could match a part of a character"
  | .nestedTooDeeply => "it is nested too deeply"
  | .tooLarge => "it is too large"

/-- How a part of an expression is read. -/
structure Flags where
  ignoreCase : Bool := false
  multiLine : Bool := false
  dotAll : Bool := false
  unicode : Bool := true
  carriageReturn : Bool := false
  /-- Blanks and comments between the parts do not count. -/
  verbose : Bool := false

/-- A part of an expression and how deeply it is nested. -/
structure Tree where
  pattern : Pattern
  depth : Nat

/-- The deepest nesting that is read. -/
def nestLimit : Nat := 250

/-- The size of the largest expression that is read. -/
def sizeLimit : Nat := 327680

/-- The rest of a text, no longer than it. -/
abbrev Rest (text : List Char) := { rest : List Char // rest.length ≤ text.length }

/-! ## Blanks and numbers -/

/-- Drops blanks and comments, which run to the end of the line; `comment` holds inside
one. -/
def dropComments (comment : Bool) : List Char → List Char
  | [] => []
  | c :: text =>
    if comment then dropComments (c != '\n') text
    else if isBlank c then dropComments false text
    else if c = '#' then dropComments true text
    else c :: text

/-- The text from the next character on that counts. -/
def skip (flags : Flags) (text : List Char) : List Char :=
  if flags.verbose then dropComments false text else text

theorem length_dropComments_le (comment : Bool) (text : List Char) :
    (dropComments comment text).length ≤ text.length := by
  fun_induction dropComments comment text with
  | case1 => simp
  | case2 => simp only [List.length_cons]; omega
  | case3 => simp only [List.length_cons]; omega
  | case4 => simp only [List.length_cons]; omega
  | case5 => exact Nat.le_refl _

theorem length_skip_le (flags : Flags) (text : List Char) :
    (skip flags text).length ≤ text.length := by
  unfold skip
  split
  · exact length_dropComments_le false text
  · exact Nat.le_refl _

/-- The text from the next character on that counts, with its length compared. -/
def skipped (flags : Flags) (text : List Char) : Rest text :=
  ⟨skip flags text, length_skip_le flags text⟩

/-- Digits of a number, with nothing that counts between them. -/
def gatherDigits (flags : Flags) (text : List Char) : List Char × List Char :=
  match text with
  | [] => ([], [])
  | c :: text =>
    if c.isDigit then
      let (digits, rest) := gatherDigits flags (skip flags text)
      (c :: digits, rest)
    else ([], c :: text)
termination_by text.length
decreasing_by exact Nat.lt_succ_of_le (length_skip_le flags text)

/-- A number of 32 bits between blanks, and the rest; no number where there are no
digits. -/
def readNumber (flags : Flags) (text : List Char) : Except Fault (Option Nat × List Char) :=
  let (digits, rest) := gatherDigits flags (text.dropWhile isBlank)
  let rest := skip flags (rest.dropWhile isBlank)
  if digits = [] then .ok (none, rest)
  else if 0x100000000 ≤ digitsValue digits then .error .badRepetition
  else .ok (some (digitsValue digits), rest)

/-- The bounds of a repetition, read from after the opening brace, and the rest after the
closing one. -/
def readBounds (flags : Flags) (text : List Char) :
    Except Fault (Nat × Option Nat × List Char) := do
  let (least, rest) ← readNumber flags (skip flags text)
  let some least := least | throw .badRepetition
  match rest with
  | '}' :: rest => return (least, some least, rest)
  | ',' :: rest =>
    match skip flags rest with
    | '}' :: rest => return (least, none, rest)
    | rest =>
      let (most, rest) ← readNumber flags rest
      let some most := most | throw .badRepetition
      match rest with
      | '}' :: rest =>
        if least ≤ most then return (least, some most, rest) else throw .badRepetition
      | _ => throw .badRepetition
  | _ => throw .badRepetition

/-- A repetition may be marked as lazy, which changes nothing here. -/
def dropLazy : List Char → List Char
  | '?' :: rest => rest
  | rest => rest

/-! ## Escapes -/

/-- What an escape stands for. -/
inductive Escape where
  /-- A character; `byte` holds if it is written as two hexadecimal digits. -/
  | char (c : Char) (byte : Bool)
  | set (set : CharSet)
  | holds (assertion : Assertion)

/-- The character with a number. -/
def charOf? (code : Nat) : Option Char :=
  if code < 0xD800 ∨ (0xDFFF < code ∧ code ≤ 0x10FFFF) then some (Char.ofNat code) else none

/-- A character given by exactly so many hexadecimal digits. -/
def readHexDigits (flags : Flags) (value : Nat) :
    Nat → List Char → Except Fault (Char × List Char)
  | 0, text =>
    match charOf? value with
    | some c => .ok (c, text)
    | none => .error .badEscape
  | count + 1, text =>
    match skip flags text with
    | [] => .error .unexpectedEnd
    | c :: rest =>
      match hexDigit? c with
      | some digit => readHexDigits flags (value * 16 + digit) count rest
      | none => .error .badEscape

/-- The text of a name in braces, read from after the opening one, and the rest after the
closing one.  What does not count is left out of the name. -/
def readBraced (flags : Flags) (text : List Char) : Except Fault (List Char × List Char) :=
  match skipped flags text with
  | ⟨[], _⟩ => .error .unexpectedEnd
  | ⟨c :: rest, _⟩ =>
    if c = '\x7d' then .ok ([], rest)
    else (readBraced flags rest).map fun (name, rest) => (c :: name, rest)
termination_by text.length
decreasing_by simp only [List.length_cons] at *; omega

/-- A character given by hexadecimal digits, exactly `count` of them or any number of them
in braces. -/
def readHex (flags : Flags) (count : Nat) (text : List Char) :
    Except Fault (Escape × List Char) := do
  match skip flags text with
  | '\x7b' :: rest =>
    let (digits, rest) ← readBraced flags rest
    let some values := digits.mapM hexDigit? | throw .badEscape
    let some c := charOf? (values.foldl (fun value digit => value * 16 + digit) 0)
      | throw .badEscape
    if values = [] then throw .badEscape
    return (.char c false, skip flags rest)
  | rest =>
    let (c, rest) ← readHexDigits flags 0 count rest
    return (.char c (count == 2), skip flags rest)

/-- A name cut at the first place where `mark` stands. -/
def cutAt? (mark : List Char) : List Char → Option (List Char × List Char)
  | [] => none
  | c :: text =>
    if mark.isPrefixOf (c :: text) then some ([], (c :: text).drop mark.length)
    else (cutAt? mark text).map fun (before, after) => (c :: before, after)

/-- The set that a property name or a property with a value asks for, and whether it is
asked for by exclusion. -/
def propertySet? (name : List Char) : Option CharSet × Bool :=
  match cutAt? ['!', '='] name with
  | some (property, value) => (CharSet.propertyValue? property value, true)
  | none =>
    match cutAt? [':'] name <|> cutAt? ['='] name with
    | some (property, value) => (CharSet.propertyValue? property value, false)
    | none => (CharSet.property? name, false)

/-- The characters of a set, or all others; case is forgotten first where it does not
count.  Without Unicode a complement would hold parts of characters. -/
def finishSet (flags : Flags) (negated : Bool) (set : CharSet) : Except Fault CharSet :=
  let set :=
    if ¬ flags.ignoreCase then set
    else if flags.unicode then set.foldCase
    else set.foldCaseAscii
  if ¬ negated then .ok set
  else if flags.unicode then .ok set.complement
  else .error .invalidBytes

/-- A set of characters by their property, read from after `\p` or `\P`. -/
def readProperty (flags : Flags) (negated : Bool) (text : List Char) :
    Except Fault (Escape × List Char) := do
  if ¬ flags.unicode then throw .invalidBytes
  let (name, rest) ← match skip flags text with
    | [] => throw .unexpectedEnd
    | '\x7b' :: rest => readBraced flags rest
    | '\\' :: _ => throw .badEscape
    | c :: rest => pure ([c], skip flags rest)
  let (set, excluded) := propertySet? name
  let some set := set | throw .unknownProperty
  return (.set (← finishSet flags (negated != excluded) set), rest)

/-- The sets with a letter of their own; the capital letter asks for the complement. -/
def letterSet? (flags : Flags) (c : Char) : Option (Except Fault CharSet) :=
  let set := fun (unicode ascii : CharSet) (negated : Bool) =>
    if flags.unicode then some (.ok (if negated then unicode.complement else unicode))
    else if negated then some (.error .invalidBytes)
    else some (.ok ascii)
  match c with
  | 'd' => set .digit (.ascii Char.isDigit) false
  | 'D' => set .digit (.ascii Char.isDigit) true
  | 's' => set .blank (.ascii isBlank) false
  | 'S' => set .blank (.ascii isBlank) true
  | 'w' => set .word .asciiWord false
  | 'W' => set .word .asciiWord true
  | _ => none

/-- The name of a special word boundary in braces after `\b`.  Where the braces do not begin
with a letter or a dash they belong to a repetition. -/
def readBoundary (flags : Flags) (text : List Char) : Except Fault (Assertion × List Char) :=
  let isName := fun (c : Char) => c.isAlpha || c == '-'
  match text with
  | '\x7b' :: rest =>
    match skip flags rest with
    | [] => .error .unexpectedEnd
    | c :: _ =>
      if isName c then do
        let (name, after) ← readBraced flags rest
        match String.ofList name with
        | "start" => return (.wordStart flags.unicode, after)
        | "end" => return (.wordEnd flags.unicode, after)
        | "start-half" => return (.wordStartHalf flags.unicode, after)
        | "end-half" => return (.wordEndHalf flags.unicode, after)
        | _ => throw .badEscape
      else .ok (.wordBoundary flags.unicode, text)
  | _ => .ok (.wordBoundary flags.unicode, text)

/-- The characters that letters after a backslash stand for. -/
def letterChar? : Char → Option Char
  | 'a' => some '\x07'
  | 'f' => some '\x0c'
  | 't' => some '\t'
  | 'n' => some '\n'
  | 'r' => some '\r'
  | 'v' => some '\x0b'
  | _ => none

/-- An escape, read from after the backslash.  A character of ASCII that is no letter and no
digit may always be escaped, the two angle brackets apart. -/
def readEscape (flags : Flags) (text : List Char) : Except Fault (Escape × List Char) := do
  match text with
  | [] => throw .unexpectedEnd
  | 'x' :: rest => readHex flags 2 rest
  | 'u' :: rest => readHex flags 4 rest
  | 'U' :: rest => readHex flags 8 rest
  | 'p' :: rest => readProperty flags false rest
  | 'P' :: rest => readProperty flags true rest
  | 'A' :: rest => return (.holds .textStart, rest)
  | 'z' :: rest => return (.holds .textEnd, rest)
  | 'b' :: rest =>
    let (assertion, rest) ← readBoundary flags rest
    return (.holds assertion, rest)
  | 'B' :: rest => return (.holds (.noWordBoundary flags.unicode), rest)
  | '<' :: rest => return (.holds (.wordStart flags.unicode), rest)
  | '>' :: rest => return (.holds (.wordEnd flags.unicode), rest)
  | c :: rest =>
    match letterSet? flags c, letterChar? c with
    | some set, _ => return (.set (← set), rest)
    | none, some c => return (.char c false, rest)
    | none, none =>
      if c.val < 0x80 ∧ ¬ c.isAlphanum then return (.char c false, rest) else throw .badEscape

/-! ## Classes -/

/-- The operators between the parts of a class. -/
inductive ClassOp where
  | inter
  | diff
  | symmDiff

/-- The operator that a character begins whose double it is, and the rest after it. -/
def ClassOp.of? (c : Char) : (text : List Char) → Option (ClassOp × Rest text)
  | [] => none
  | d :: rest =>
    let rest : Rest (d :: rest) := ⟨rest, Nat.le_succ _⟩
    if c ≠ d then none
    else if c = '&' then some (.inter, rest)
    else if c = '-' then some (.diff, rest)
    else if c = '~' then some (.symmDiff, rest)
    else none

/-- Applies an operator; case is forgotten first where it does not count. -/
def ClassOp.apply (flags : Flags) (op : ClassOp) (left right : CharSet) : Except Fault CharSet := do
  let left ← finishSet flags false left
  let right ← finishSet flags false right
  match op with
  | .inter => return left.inter right
  | .diff => return left.diff right
  | .symmDiff => return left.symmDiff right

/-- What was read of a class: the union being gathered, with the number and the depth of its
parts, and the operator waiting for it with what stands on its left. -/
structure ClassState where
  union : CharSet := .none
  parts : Nat := 0
  depth : Nat := 0
  waiting : Option (CharSet × Nat × ClassOp) := none

namespace ClassState

/-- Adds a part to the union. -/
def add (state : ClassState) (set : CharSet) (depth : Nat := 0) : ClassState :=
  { state with
    union := state.union.union set, parts := state.parts + 1, depth := max state.depth depth }

/-- The set and the depth of what was read so far. -/
def result (flags : Flags) (state : ClassState) : Except Fault (CharSet × Nat) := do
  let depth := if state.parts ≤ 1 then state.depth else state.depth + 1
  match state.waiting with
  | none => return (state.union, depth)
  | some (left, leftDepth, op) =>
    return (← op.apply flags left state.union, max leftDepth depth + 1)

/-- Begins a new union after an operator. -/
def begin (flags : Flags) (state : ClassState) (op : ClassOp) : Except Fault ClassState := do
  let (set, depth) ← state.result flags
  return { waiting := some (set, depth, op) }

end ClassState

/-- A literal of a class.  Without Unicode it has to be a character of ASCII. -/
def classChar (flags : Flags) (c : Char) : Except Fault Char :=
  if flags.unicode ∨ c.val < 0x80 then .ok c else .error .invalidBytes

/-- One character or set in a class. -/
def readClassItem (flags : Flags) (text : List Char) : Except Fault (Escape × List Char) :=
  match text with
  | [] => .error .unclosedClass
  | '\\' :: rest => readEscape flags rest
  | c :: rest => .ok (.char c false, rest)

/-- A character, a set or a range in a class.  A dash before a closing bracket or another
dash does not make a range. -/
def readClassRange (flags : Flags) (text : List Char) : Except Fault (CharSet × List Char) := do
  let (first, rest) ← readClassItem flags text
  let rest := skip flags rest
  let single : Except Fault (CharSet × List Char) :=
    match first with
    | .char c _ => do return (.one (← classChar flags c), rest)
    | .set set => .ok (set, rest)
    | .holds _ => .error .badEscape
  match rest with
  | [] => throw .unclosedClass
  | '-' :: after =>
    match skip flags after with
    | ']' :: _ | '-' :: _ => single
    | [] => throw .unclosedClass
    | after =>
      let (last, rest) ← readClassItem flags after
      match first, last with
      | .char first _, .char last _ =>
        let first ← classChar flags first
        let last ← classChar flags last
        if first ≤ last then return (.range first last, rest) else throw .badClassRange
      | _, _ => throw .badClassRange
  | _ => single

/-- A named set of ASCII characters such as `[:alpha:]`, read from after the first bracket. -/
def readAsciiClass? (text : List Char) : Option (CharSet × Bool × List Char) :=
  match text with
  | ':' :: rest =>
    let (negated, rest) := match rest with
      | '^' :: rest => (true, rest)
      | rest => (false, rest)
    match cutAt? [':'] rest with
    | some (name, ']' :: rest) => (CharSet.asciiClass? name).map fun set => (set, negated, rest)
    | _ => none
  | _ => none

/-- Dashes at the start of a class are literals, and so is a closing bracket there. -/
def readClassStart (flags : Flags) (state : ClassState) (text : List Char) :
    ClassState × List Char :=
  match skipped flags text with
  | ⟨[], _⟩ => (state, [])
  | ⟨c :: rest, _⟩ =>
    if c = '-' then readClassStart flags (state.add (.one '-')) rest
    else if c = ']' ∧ state.parts = 0 then (state.add (.one ']'), rest)
    else (state, c :: rest)
termination_by text.length
decreasing_by simp only [List.length_cons] at *; omega

/-- The rest of a text that has to be shorter than the text. -/
def shorter? (text rest : List Char) : Option { rest : List Char // rest.length < text.length } :=
  if h : rest.length < text.length then some ⟨rest, h⟩ else none

mutual

/-- A class, read from after its opening bracket: its set, its depth and the rest after its
closing bracket. -/
def readClass (flags : Flags) (text : List Char) : Except Fault (CharSet × Nat × Rest text) := do
  let (negated, start) := match skip flags text with
    | '^' :: rest => (true, rest)
    | rest => (false, rest)
  let (state, start) := readClassStart flags {} start
  if h : start.length ≤ text.length then
    let (set, depth, ⟨rest, _⟩) ← readClassParts flags state start
    return (← finishSet flags negated set, depth + 1, ⟨rest, by omega⟩)
  else throw .unclosedClass
termination_by 2 * text.length + 1

/-- The parts of a class up to its closing bracket, after those in `state`. -/
def readClassParts (flags : Flags) (state : ClassState) (text : List Char) :
    Except Fault (CharSet × Nat × Rest text) := do
  match skipped flags text with
  | ⟨[], _⟩ => throw .unclosedClass
  | ⟨c :: part, _⟩ =>
    if c = ']' then
      let (set, depth) ← state.result flags
      return (set, depth, ⟨part, by simp only [List.length_cons] at *; omega⟩)
    else if c = '[' then
      match readAsciiClass? part with
      | some (set, excluded, after) =>
        let set ← finishSet flags excluded set
        let some ⟨after, shorter⟩ := shorter? text after | throw .unclosedClass
        let (set, depth, ⟨rest, _⟩) ← readClassParts flags (state.add set) after
        return (set, depth, ⟨rest, by omega⟩)
      | none =>
        let (inner, depth, ⟨after, _⟩) ← readClass flags part
        let (set, depth, ⟨rest, _⟩) ← readClassParts flags (state.add inner depth) after
        return (set, depth, ⟨rest, by simp only [List.length_cons] at *; omega⟩)
    else
      match ClassOp.of? c part with
      | some (op, ⟨after, _⟩) =>
        let state ← state.begin flags op
        let (set, depth, ⟨rest, _⟩) ← readClassParts flags state after
        return (set, depth, ⟨rest, by simp only [List.length_cons] at *; omega⟩)
      | none =>
        let (set, after) ← readClassRange flags (c :: part)
        let some ⟨after, shorter⟩ := shorter? text after | throw .unclosedClass
        let (set, depth, ⟨rest, _⟩) ← readClassParts flags (state.add set) after
        return (set, depth, ⟨rest, by omega⟩)
termination_by 2 * text.length
decreasing_by all_goals (try simp only [List.length_cons] at *); omega

end

/-! ## Groups and flags -/

/-- One flag switched on or off. -/
def Flags.put (flags : Flags) (on : Bool) : Char → Option Flags
  | 'i' => some { flags with ignoreCase := on }
  | 'm' => some { flags with multiLine := on }
  | 's' => some { flags with dotAll := on }
  | 'U' => some flags
  | 'u' => some { flags with unicode := on }
  | 'R' => some { flags with carriageReturn := on }
  | 'x' => some { flags with verbose := on }
  | _ => none

/-- Flags up to a colon or a closing parenthesis, which begins the rest.  Each flag may stand
once; those after a dash, which may stand once and not at the end, are switched off. -/
def readFlags (flags : Flags) (seen : List Char) : List Char → Except Fault (Flags × List Char)
  | [] => .error .unexpectedEnd
  | c :: text =>
    if c = ':' ∨ c = ')' then
      if seen.head? = some '-' then .error .badFlags
      else if c = ')' ∧ seen = [] then .error .nothingToRepeat
      else .ok (flags, c :: text)
    else if c ∈ seen then .error .badFlags
    else if c = '-' then readFlags flags ('-' :: seen) text
    else
      match flags.put ('-' ∉ seen) c with
      | some flags => readFlags flags (c :: seen) text
      | none => .error .badFlags

/-- The name of a group up to its closing angle bracket, and the rest after it. -/
def readGroupName (text : List Char) : Except Fault (List Char × List Char) :=
  match cutAt? ['>'] text with
  | some (first :: others, rest) =>
    let isInner := fun (c : Char) =>
      c == '_' || c == '.' || c == '[' || c == ']' || isAlphanumeric c
    if (first = '_' ∨ isAlphabetic first) ∧ others.all isInner then .ok (first :: others, rest)
    else .error .badGroupName
  | _ => .error .badGroupName

/-- What stands after the opening parenthesis of a group: flags for the rest of the group
around, or a group with its flags and the names of the groups up to it. -/
inductive GroupStart where
  | setFlags (flags : Flags)
  | group (flags : Flags) (names : List (List Char))

/-- The start of a group and the rest after it. -/
def readGroupStart (flags : Flags) (names : List (List Char)) (text : List Char) :
    Except Fault (GroupStart × List Char) := do
  let named := fun (text : List Char) => do
    let (name, rest) ← readGroupName text
    if name ∈ names then throw .badGroupName
    return (GroupStart.group flags (name :: names), rest)
  match skip flags text with
  | '?' :: '=' :: _ | '?' :: '!' :: _ | '?' :: '<' :: '=' :: _ | '?' :: '<' :: '!' :: _ =>
    throw .lookAround
  | '?' :: 'P' :: '<' :: rest => named rest
  | '?' :: '<' :: rest => named rest
  | '?' :: rest =>
    let (flags, rest) ← readFlags flags [] rest
    match rest with
    | ')' :: rest => return (.setFlags flags, rest)
    | rest => return (.group flags names, rest.drop 1)
  | rest => return (.group flags names, rest)

/-! ## Expressions -/

/-- A literal character; where case does not count, all that equal it but for case. -/
def literal (flags : Flags) (c : Char) (byte : Bool) : Except Fault Pattern :=
  if ¬ flags.unicode ∧ byte ∧ 0x80 ≤ c.val then .error .invalidBytes
  else
    let exact : CharSet := { CharSet.one c with pieces := c.utf8Size }
    if ¬ flags.ignoreCase then .ok (.one exact)
    else if flags.unicode then .ok (.one exact.foldCase)
    else .ok (.one exact.foldCaseAscii)

/-- The pattern of an escape outside a class. -/
def Escape.pattern (flags : Flags) : Escape → Except Fault Pattern
  | .char c byte => literal flags c byte
  | .set characters => .ok (.one characters)
  | .holds assertion => .ok (.holds assertion)

/-- The point stands for every character, but without its flag for none that ends a line. -/
def dot (flags : Flags) : Except Fault Pattern :=
  if ¬ flags.unicode then .error .invalidBytes
  else
    .ok <| .one <|
      if flags.dotAll then .all
      else if flags.carriageReturn then ((CharSet.one '\n').union (.one '\r')).complement
      else (CharSet.one '\n').complement

/-- What the mark for the start stands for. -/
def startMark (flags : Flags) : Assertion :=
  if ¬ flags.multiLine then .textStart
  else if flags.carriageReturn then .anyLineStart
  else .lineStart

/-- What the mark for the end stands for. -/
def endMark (flags : Flags) : Assertion :=
  if ¬ flags.multiLine then .textEnd
  else if flags.carriageReturn then .anyLineEnd
  else .lineEnd

/-- A single character, set or assertion, and the rest. -/
def readPrimitive (flags : Flags) (c : Char) (text : List Char) :
    Except Fault (Pattern × List Char) := do
  match c with
  | '\\' =>
    let (escape, rest) ← readEscape flags text
    return (← escape.pattern flags, rest)
  | '.' => return (← dot flags, text)
  | '^' => return (.holds (startMark flags), text)
  | '$' => return (.holds (endMark flags), text)
  | c => return (← literal flags c false, text)

/-- The parts of a sequence that were read, the last one first; nothing is repeated that only
sets flags. -/
abbrev Parts := List (Tree × Bool)

/-- Repeats the last part. -/
def Parts.repeatLast (parts : Parts) (least : Nat) (most : Option Nat) : Except Fault Parts :=
  match parts with
  | (tree, true) :: parts =>
    .ok ((⟨.times least most tree.pattern, tree.depth + 1⟩, true) :: parts)
  | _ => .error .nothingToRepeat

/-- The parts in a sequence. -/
def Parts.tree (parts : Parts) : Tree :=
  let depth := (parts.map (·.1.depth)).foldl max 0
  ⟨Pattern.sequence (parts.reverse.map (·.1.pattern)),
    if parts.length ≤ 1 then depth else depth + 1⟩

/-- What reading a sequence leaves: the sequence, the flags that hold after it and the names
of the groups so far. -/
structure Reading where
  tree : Tree
  flags : Flags
  names : List (List Char)

/-- The rest of a text after a mark, if it begins with that. -/
def after? (mark : Char) :
    (text : List Char) → Option { rest : List Char // rest.length < text.length }
  | [] => none
  | c :: rest => if c = mark then some ⟨rest, Nat.lt_succ_self _⟩ else none

mutual

/-- A sequence up to a `|`, a closing parenthesis or the end, after `parts`. -/
def readSequence (flags : Flags) (names : List (List Char)) (parts : Parts) (text : List Char) :
    Except Fault (Reading × Rest text) := do
  match skipped flags text with
  | ⟨[], _⟩ => return (⟨parts.tree, flags, names⟩, ⟨[], by simp⟩)
  | ⟨c :: rest, _⟩ =>
    if c = '|' ∨ c = ')' then return (⟨parts.tree, flags, names⟩, ⟨c :: rest, by assumption⟩)
    else if c = '(' then
      match ← readGroupStart flags names rest with
      | (.setFlags flags, after) =>
        let some ⟨after, shorter⟩ := shorter? text after | throw .unclosedGroup
        let (reading, ⟨rest, _⟩) ← readSequence flags names ((⟨.empty, 0⟩, false) :: parts) after
        return (reading, ⟨rest, by omega⟩)
      | (.group inner names, after) =>
        let some ⟨after, shorter⟩ := shorter? text after | throw .unclosedGroup
        let (tree, names, ⟨rest, _⟩) ← readChoice inner names after
        let some ⟨rest, closed⟩ := after? ')' rest | throw .unclosedGroup
        let parts := (⟨tree.pattern, tree.depth + 1⟩, true) :: parts
        let (reading, ⟨rest, _⟩) ← readSequence flags names parts rest
        return (reading, ⟨rest, by omega⟩)
    else if c = '[' then
      let (set, depth, ⟨rest, _⟩) ← readClass flags rest
      let (reading, ⟨rest, _⟩) ← readSequence flags names ((⟨.one set, depth⟩, true) :: parts) rest
      return (reading, ⟨rest, by simp only [List.length_cons] at *; omega⟩)
    else if c = '\x7b' then
      let (least, most, after) ← readBounds flags rest
      let parts ← parts.repeatLast least most
      let some ⟨after, shorter⟩ := shorter? text (dropLazy (skip flags after))
        | throw .badRepetition
      let (reading, ⟨rest, _⟩) ← readSequence flags names parts after
      return (reading, ⟨rest, by omega⟩)
    else if c = '?' ∨ c = '*' ∨ c = '+' then
      let parts ← parts.repeatLast (if c = '+' then 1 else 0) (if c = '?' then some 1 else none)
      let some ⟨after, shorter⟩ := shorter? text (dropLazy rest) | throw .badRepetition
      let (reading, ⟨rest, _⟩) ← readSequence flags names parts after
      return (reading, ⟨rest, by omega⟩)
    else
      let (pattern, after) ← readPrimitive flags c rest
      let some ⟨after, shorter⟩ := shorter? text after | throw .unexpectedEnd
      let (reading, ⟨rest, _⟩) ← readSequence flags names ((⟨pattern, 0⟩, true) :: parts) after
      return (reading, ⟨rest, by omega⟩)
termination_by 3 * text.length
decreasing_by all_goals (try simp only [List.length_cons] at *); omega

/-- The alternatives of a choice up to a closing parenthesis or the end, as a list of trees.
Flags that are set in one hold in those after it. -/
def readAlternatives (flags : Flags) (names : List (List Char)) (text : List Char) :
    Except Fault (List Tree × List (List Char) × Rest text) := do
  let (reading, ⟨rest, _⟩) ← readSequence flags names [] text
  match after? '|' rest with
  | some ⟨after, shorter⟩ =>
    let (trees, names, ⟨rest, _⟩) ← readAlternatives reading.flags reading.names after
    return (reading.tree :: trees, names, ⟨rest, by omega⟩)
  | none => return ([reading.tree], reading.names, ⟨rest, by omega⟩)
termination_by 3 * text.length + 1
decreasing_by all_goals omega

/-- A choice up to a closing parenthesis or the end. -/
def readChoice (flags : Flags) (names : List (List Char)) (text : List Char) :
    Except Fault (Tree × List (List Char) × Rest text) := do
  let (trees, names, rest) ← readAlternatives flags names text
  let depth := (trees.map (·.depth)).foldl max 0
  return (⟨Pattern.choice (trees.map (·.pattern)),
    if trees.length ≤ 1 then depth else depth + 1⟩, names, rest)
termination_by 3 * text.length + 2
decreasing_by omega

end

/-- The pattern that a text writes. -/
def Pattern.ofChars (text : List Char) : Except Fault Pattern := do
  let (tree, _, ⟨rest, _⟩) ← readChoice {} [] text
  if rest ≠ [] then throw .unopenedGroup
  if nestLimit < tree.depth then throw .nestedTooDeeply
  if sizeLimit < tree.pattern.size then throw .tooLarge
  return tree.pattern

end RecordQuery.Regex
