import FluentGen.Text.Alphanumeric
import FluentGen.Text.Blank
import FluentGen.Text.Literal
/-!
# Patterns

Regular expressions, as far as it matters whether a text is one that can be matched. A pattern is
made of characters, escapes, anchors, sets in brackets and groups in parentheses, which may be
repeated, with bars between alternatives. Counted repetitions and names in braces are not supported.

Matching goes by bytes and has no tables of characters. So ignoring the case of characters beyond
ASCII, the classes of digits, blanks and letters beyond ASCII, and boundaries of words made of such
letters are out of reach. A group may restrict itself to ASCII; there these are supported, but what
could match a part of a character is not.

## Main definitions
* `PatternMode`: how a part of a pattern is read.
* `PatternAtom`, `PatternAtom.read`: what stands for one place in a text.
* `PatternMode.readSet`: reads a set in brackets.
* `PatternState`, `PatternState.step`: reads a pattern part by part.
* `isPattern`: whether a text is a pattern.
-/
namespace FluentGen

/-- How a part of a pattern is read. -/
structure PatternMode where
  /-- Whether blanks and comments do not count. -/
  isSpaced : Bool := false
  ignoresCase : Bool := false
  /-- Whether classes are those of ASCII. -/
  isAscii : Bool := false
  deriving DecidableEq, Repr

namespace PatternMode

/-- Drops blanks and comments, which reach from a number sign to the end of the line. -/
def dropSpace (inComment : Bool) : List Char → List Char
  | [] => []
  | c :: rest =>
    if inComment then dropSpace (c != '\n') rest
    else if Text.isBlank c then dropSpace false rest
    else if c == '#' then dropSpace true rest
    else c :: rest

/-- Drops what does not count. -/
def skip (mode : PatternMode) (text : List Char) : List Char :=
  if mode.isSpaced then dropSpace false text else text

/-- Whether characters can be matched. -/
def matchesCharacters (mode : PatternMode) : Bool :=
  mode.isAscii || !mode.ignoresCase

/-- The letters of the flags of a group. -/
def flags : List Char :=
  ['i', 'm', 's', 'U', 'u', 'R', 'x']

/-- Sets flags, behind a hyphen to false. A flag and the hyphen are written once at most, and the
hyphen is not the last. -/
def withFlags? (mode : PatternMode) (text : List Char) : Option PatternMode :=
  if text.Nodup && text.all (fun c => c == '-' || flags.contains c) &&
      text.getLast? != some '-' then
    let enabled := text.takeWhile (· != '-')
    let set (flag : Char) (before : Bool) :=
      if text.contains flag then enabled.contains flag else before
    some { isSpaced := set 'x' mode.isSpaced
           ignoresCase := set 'i' mode.ignoresCase
           isAscii := !set 'u' (!mode.isAscii) }
  else none

end PatternMode

/-- What stands for one place in a text. -/
inductive PatternAtom where
  /-- A character, perhaps written as a byte. -/
  | character (value : Char) (isByte : Bool)
  /-- A class of characters, or what is not in it. -/
  | shorthand (isNegated : Bool)
  /-- An end of the text. -/
  | anchor
  | wordBoundary
  deriving DecidableEq, Repr

namespace PatternAtom

/-- The control characters that are written as letters behind a backslash. -/
def controls : List (Char × Char) :=
  [('a', '\x07'), ('f', '\x0C'), ('n', '\n'), ('r', '\r'), ('t', '\t'), ('v', '\x0B')]

/-- What a backslash and a character stand for. -/
def ofEscape? (c : Char) : Option PatternAtom :=
  if ['d', 's', 'w'].contains c then some (.shorthand false)
  else if ['D', 'S', 'W'].contains c then some (.shorthand true)
  else if ['A', 'z'].contains c then some .anchor
  else if ['b', 'B', '<', '>'].contains c then some .wordBoundary
  else if c.toNat < 0x80 && !c.isAlphanum then some (.character c false)
  else (controls.lookup c).map (.character · false)

/-- Reads hexadecimal digits. -/
def readDigits (mode : PatternMode) : Nat → List Char → Option (List Char × List Char)
  | 0, text => some ([], text)
  | count + 1, text =>
    match mode.skip text with
    | [] => none
    | c :: rest => (readDigits mode count rest).map fun (digits, after) => (c :: digits, after)

/-- Reads an escape after its backslash. -/
def readEscape (mode : PatternMode) (text : List Char) : Option (PatternAtom × List Char) :=
  let readCharacter (count : Nat) (rest : List Char) : Option (PatternAtom × List Char) := do
    let (digits, after) ← readDigits mode count rest
    return (.character (← Text.readCodePoint digits) (count == 2), after)
  match text with
  | 'x' :: rest => readCharacter 2 rest
  | 'u' :: rest => readCharacter 4 rest
  | 'U' :: rest => readCharacter 8 rest
  | c :: rest => (ofEscape? c).map (·, rest)
  | [] => none

/-- Reads an escape, or any other character as it is. -/
def read (mode : PatternMode) : List Char → Option (PatternAtom × List Char)
  | '\\' :: rest => readEscape mode rest
  | c :: rest => some (.character c false, rest)
  | [] => none

/-- Whether an atom can be matched. -/
def isSupported (mode : PatternMode) : PatternAtom → Bool
  | .character value isByte =>
    mode.matchesCharacters && !(mode.isAscii && isByte && 0x80 ≤ value.toNat)
  | .shorthand isNegated => mode.isAscii && !isNegated
  | .anchor => true
  | .wordBoundary => mode.isAscii

/-- Whether an atom can be in a set. -/
def isMember (mode : PatternMode) : PatternAtom → Bool
  | .character value _ => mode.matchesCharacters && !(mode.isAscii && 0x80 ≤ value.toNat)
  | .shorthand isNegated => mode.isAscii && !isNegated
  | .anchor | .wordBoundary => false

/-- The code point of a character. -/
def code? : PatternAtom → Option Nat
  | .character value _ => some value.toNat
  | _ => none

end PatternAtom

namespace PatternMode

/-- The classes that a set may name between colons. -/
def classNames : List String :=
  ["alnum", "alpha", "ascii", "blank", "cntrl", "digit", "graph", "lower", "print", "punct",
    "space", "upper", "word", "xdigit"]

/-- Whether a set may be a complement. -/
def complements (mode : PatternMode) : Bool :=
  !mode.isAscii

/-- Reads a class with a name after its opening bracket, and says whether it is a complement. -/
def readClass? (text : List Char) : Option (Bool × List Char) :=
  let read (isNegated : Bool) (text : List Char) : Option (Bool × List Char) :=
    match text.dropWhile (· != ':') with
    | ':' :: ']' :: rest =>
      if classNames.contains (String.ofList (text.takeWhile (· != ':'))) then some (isNegated, rest)
      else none
    | _ => none
  match text with
  | ':' :: '^' :: rest => read true rest
  | ':' :: rest => read false rest
  | _ => none

/-- Reads the start of a set after its opening bracket: a circumflex for a complement, and a closing
bracket that is the first member. Says whether hyphens that follow are members. -/
def openSet (mode : PatternMode) (text : List Char) : Option (Bool × List Char) :=
  let openMembers (text : List Char) : Option (Bool × List Char) :=
    match mode.skip text with
    | ']' :: rest => if mode.matchesCharacters then some (false, rest) else none
    | text => some (true, text)
  match mode.skip text with
  | '^' :: rest => if mode.complements then openMembers rest else none
  | text => openMembers text

/-- Reads a member of a set, or a range of members. A hyphen before the closing bracket or before
another hyphen makes no range. -/
def readMember (mode : PatternMode) (text : List Char) : Option (List Char) := do
  let (first, rest) ← PatternAtom.read mode text
  if !first.isMember mode then none
  else
    let rest := mode.skip rest
    match rest with
    | '-' :: after =>
      let after := mode.skip after
      if after.head? == some ']' || after.head? == some '-' then some rest
      else
        let (last, rest) ← PatternAtom.read mode after
        if last.isMember mode && (← first.code?) ≤ (← last.code?) then some rest else none
    | _ => some rest

/-- Reads the members of a set up to its closing bracket, inside `depth` other sets. The bound is on
the number of members; the length of the text is always enough. -/
def readMembers (mode : PatternMode) : Nat → Nat → Bool → List Char → Option (List Char)
  | 0, _, _, _ => none
  | bound + 1, depth, isLeading, text =>
    match mode.skip text with
    | [] => none
    | '[' :: rest =>
      match readClass? rest with
      | some (isNegated, after) =>
        if mode.matchesCharacters && (mode.complements || !isNegated) then
          readMembers mode bound depth false after
        else none
      | none =>
        (mode.openSet rest).bind fun (isLeading, after) =>
          readMembers mode bound (depth + 1) isLeading after
    | ']' :: rest =>
      match depth with
      | 0 => some rest
      | depth + 1 => readMembers mode bound depth false rest
    | '&' :: '&' :: rest => readMembers mode bound depth false rest
    | '~' :: '~' :: rest => readMembers mode bound depth false rest
    | '-' :: rest =>
      if isLeading then
        if mode.matchesCharacters then readMembers mode bound depth true rest else none
      else match rest with
        | '-' :: rest => readMembers mode bound depth false rest
        | _ => (mode.readMember ('-' :: rest)).bind (readMembers mode bound depth false)
    | text => (mode.readMember text).bind (readMembers mode bound depth false)

/-- Reads a set after its opening bracket, and returns what follows it. -/
def readSet (mode : PatternMode) (text : List Char) : Option (List Char) :=
  (mode.openSet text).bind fun (isLeading, after) =>
    mode.readMembers (text.length + 1) 0 isLeading after

end PatternMode

/-- What is known about a pattern up to some place. -/
structure PatternState where
  mode : PatternMode := {}
  /-- Whether there is something before this place that can be repeated. -/
  isRepeatable : Bool := false
  /-- The modes around the open groups, from the innermost on. -/
  outer : List PatternMode := []
  /-- The names of the groups. -/
  names : List (List Char) := []
  deriving DecidableEq, Repr

namespace PatternState

/-- The state at the start of a group. -/
def enter (state : PatternState) (mode : PatternMode) : PatternState :=
  { state with mode, isRepeatable := false, outer := state.mode :: state.outer }

/-- Whether a text is a name of a group. -/
def isGroupName (name : List Char) : Bool :=
  match name with
  | [] => false
  | first :: rest =>
    (first == '_' || (Text.isAlphanumeric first && !first.isDigit)) &&
      rest.all fun c => Text.isAlphanumeric c || ['_', '.', '[', ']'].contains c

/-- Reads the name of a group after its opening angle bracket. No two groups have the same. -/
def enterNamed (state : PatternState) (text : List Char) : Option (PatternState × List Char) :=
  let name := text.takeWhile (· != '>')
  match text.dropWhile (· != '>') with
  | _ :: rest =>
    if isGroupName name && !state.names.contains name then
      some ({ state.enter state.mode with names := name :: state.names }, rest)
    else none
  | [] => none

/-- Reads flags after a question mark. They hold for a group behind a colon, or for what follows in
the group around them; there has to be one in that case. -/
def readFlags (state : PatternState) (text : List Char) : Option (PatternState × List Char) := do
  let isEnd (c : Char) : Bool := c == ':' || c == ')'
  let flags := text.takeWhile (!isEnd ·)
  let mode ← state.mode.withFlags? flags
  match text.dropWhile (!isEnd ·) with
  | ':' :: rest => some (state.enter mode, rest)
  | ')' :: rest =>
    if flags.isEmpty then none else some ({ state with mode, isRepeatable := false }, rest)
  | _ => none

/-- Reads the start of a group after its opening parenthesis. -/
def openGroup (state : PatternState) (text : List Char) : Option (PatternState × List Char) :=
  match state.mode.skip text with
  | '?' :: 'P' :: '<' :: rest => state.enterNamed rest
  | '?' :: '<' :: rest => state.enterNamed rest
  | '?' :: rest => state.readFlags rest
  | rest => some (state.enter state.mode, rest)

/-- Reads the next part of a pattern, which starts with `c`. -/
def step (state : PatternState) (c : Char) (rest : List Char) :
    Option (PatternState × List Char) :=
  let repeatable := { state with isRepeatable := true }
  match c with
  | '(' => state.openGroup rest
  | ')' =>
    match state.outer with
    | mode :: outer => some ({ repeatable with mode, outer }, rest)
    | [] => none
  | '|' => some ({ state with isRepeatable := false }, rest)
  | '[' => (state.mode.readSet rest).map (repeatable, ·)
  | '*' | '+' | '?' => if state.isRepeatable then some (state, rest) else none
  | '{' => none
  | '.' => if state.mode.isAscii then none else some (repeatable, rest)
  | '^' | '$' => some (repeatable, rest)
  | _ => do
    let (atom, rest) ← PatternAtom.read state.mode (c :: rest)
    if atom.isSupported state.mode then some (repeatable, rest) else none

/-- Whether the rest of a pattern can be read, with all groups closed at the end. The bound is on
the number of parts; the length of the text is always enough. -/
def reachesEnd : Nat → PatternState → List Char → Bool
  | 0, _, _ => false
  | bound + 1, state, text =>
    match state.mode.skip text with
    | [] => state.outer.isEmpty
    | c :: rest => (state.step c rest).any fun (state, rest) => reachesEnd bound state rest

end PatternState

/-- Whether a text is a pattern. -/
def isPattern (text : String) : Bool :=
  PatternState.reachesEnd (text.length + 1) {} text.toList

example : ["", "a*?|(b+)", "[^]a-c&&[:alpha:]]", "\\x41\\.", "(?x) a # b", "(?-u:\\w\\b)"].all
    isPattern := by decide +kernel
example : ["(", "a)", "*", "(?i)*", "[a", "[c-a]", "a\x7b2\x7d", "\\q", "\\d", "(?i)a", "(?=a)"].all
    (!isPattern ·) := by decide +kernel

end FluentGen
