import ChatGateway.Config.Tree

/-!
# Reading YAML

Block and flow collections, the five styles of scalar, comments, anchors and a single document
with its markers.  Indentation decides what belongs to a block collection, so a tab may not
indent.

The reader recurses along the nesting and the entries of a text.  Every entry has a character of
its own, so a bound on the recursion that grows with the length of the text is never met.
-/

namespace ChatGateway.Config.Yaml

/-- A place in a text: what follows it, and its column.  The column is kept as far as it can matter,
from the start of a line to the first scalar on it. -/
structure Cursor where
  rest : List Char
  column : Nat
  anchors : List (String × Tree)

/-- A blank within a line. -/
def isSpace (character : Char) : Bool := character = ' ' || character = '\t'

/-- Whether a text begins with a blank or a line end, or is at its end. -/
def atGap : List Char → Bool
  | [] => true
  | character :: _ => isSpace character || character = '\n'

/-- A character that has a meaning inside flow collections. -/
def isFlowMark (character : Char) : Bool := [',', '[', ']', '\x7b', '\x7d'].contains character

/-- A character that a text may hold. -/
def isPrintable (character : Char) : Bool :=
  let code := character.toNat
  code = 9 || code = 10 || (32 ≤ code && code ≤ 126) ||
    (0xA0 ≤ code && code ≤ 0xD7FF) || (0xE000 ≤ code && code ≤ 0xFFFD && code ≠ 0xFEFF) ||
    0x10000 ≤ code

/-- A text with every line end written in one way. -/
def unifyBreaks : List Char → List Char
  | '\r' :: '\n' :: rest => '\n' :: unifyBreaks rest
  | '\r' :: rest => '\n' :: unifyBreaks rest
  | character :: rest =>
      (if character.toNat = 0x85 then '\n' else character) :: unifyBreaks rest
  | [] => []

/-- What follows blanks, comments and line ends: the text, its column, and whether a line end was
among them.  `tabs` says whether a tab may stand here; in a block it may not begin a line. -/
def skip (flow : Bool) :
    Bool → Bool → Bool → Nat → List Char → Option (List Char × Nat × Bool)
  | _, _, crossed, column, [] => some ([], column, crossed)
  | tabs, inComment, crossed, column, character :: rest =>
      if character = '\n' then skip flow flow false true 0 rest
      else if inComment then skip flow tabs true crossed (column + 1) rest
      else if character = ' ' then skip flow tabs false crossed (column + 1) rest
      else if character = '\t' then
        if tabs then skip flow tabs false crossed (column + 1) rest else none
      else if character = '#' then skip flow tabs true crossed (column + 1) rest
      else some (character :: rest, column, crossed)

/-- Moves to the next token; tells whether it is on another line. -/
def Cursor.advance (cursor : Cursor) (flow tabs : Bool) : Option (Cursor × Bool) :=
  (skip flow tabs false false cursor.column cursor.rest).map fun found =>
    ({ cursor with rest := found.1, column := found.2.1 }, found.2.2)

/-- Whether a marker of a document begins here. -/
def Cursor.atMarker (cursor : Cursor) : Bool :=
  cursor.column = 0 &&
    match cursor.rest with
    | '-' :: '-' :: '-' :: rest => atGap rest
    | '.' :: '.' :: '.' :: rest => atGap rest
    | _ => false

/-- Whether the document ends here. -/
def Cursor.atEnd (cursor : Cursor) : Bool := cursor.rest.isEmpty || cursor.atMarker

/-- Whether a mark that begins a part of a block collection stands here. -/
def Cursor.atMark (cursor : Cursor) (mark : Char) : Bool :=
  match cursor.rest with
  | character :: rest => character == mark && atGap rest
  | [] => false

/-- What follows a mark of one character. -/
def Cursor.pastMark (cursor : Cursor) : Cursor :=
  { cursor with rest := cursor.rest.drop 1, column := cursor.column + 1 }

/-- A scalar without text. -/
def nothing : Tree := .plain ""

/-! ## Scalars -/

/-- Whether a plain scalar may begin with these characters. -/
def startsPlain (flow : Bool) : List Char → Bool
  | [] => false
  | character :: rest =>
      if character = '-' then !atGap rest && !(flow && rest.head?.any isFlowMark)
      else if character = '?' ∨ character = ':' then !flow && !atGap rest
      else
        !(isSpace character || character = '\n' || isFlowMark character ||
          ['#', '&', '*', '!', '|', '>', '\'', '"', '%', '@', '\x60'].contains character)

/-- Whether a key ends at a colon with this text after it. -/
def endsKey (flow : Bool) (rest : List Char) : Bool :=
  atGap rest || (flow && rest.head?.any isFlowMark)

/-- The part of a plain scalar that stands on one line, and what follows. -/
def plainSpan (flow afterBlank : Bool) : List Char → List Char × List Char
  | [] => ([], [])
  | character :: rest =>
      if character = '\n' ∨ (character = ':' ∧ endsKey flow rest) ∨
          (character = '#' ∧ afterBlank) ∨ (flow ∧ isFlowMark character) then
        ([], character :: rest)
      else
        let (more, after) := plainSpan flow (isSpace character) rest
        (character :: more, after)

/-- A text without the blanks at its end. -/
def trimEnd (text : List Char) : List Char := (text.reverse.dropWhile isSpace).reverse

/-- What follows line ends and blanks: how many line ends, the column, and the text. -/
def skipBreaks : Nat → Nat → List Char → Nat × Nat × List Char
  | breaks, column, [] => (breaks, column, [])
  | breaks, column, character :: rest =>
      if character = '\n' then skipBreaks (breaks + 1) 0 rest
      else if isSpace character then skipBreaks breaks (column + 1) rest
      else (breaks, column, character :: rest)

/-- What line ends inside a scalar stand for: one for a blank, more for all but the first. -/
def folded (breaks : Nat) : List Char :=
  if breaks = 1 then [' '] else List.replicate (breaks - 1) '\n'

/-- Whether a tab stands among the blanks that begin the line just reached. -/
def tabsBefore (text rest : List Char) : Bool :=
  let gap := text.take (text.length - rest.length)
  (gap.reverse.takeWhile (· ≠ '\n')).contains '\t'

/-- A plain scalar from one of its lines on.  In a block the lines after the first have to stand
right of the parent's indentation. -/
def plainLines (flow : Bool) (least : Nat) : Nat → List Char → Option (List Char × List Char)
  | 0, _ => none
  | steps + 1, text =>
      let (line, rest) := plainSpan flow false text
      let line := trimEnd line
      match rest with
      | '\n' :: _ =>
          let (breaks, column, next) := skipBreaks 0 0 rest
          let cursor : Cursor := ⟨next, column, []⟩
          if next.isEmpty ∨ cursor.atMarker ∨ next.head? = some '#' ∨ (!flow ∧ column < least) ∨
              (flow ∧ next.head?.any isFlowMark) ∨
              (next.head? = some ':' ∧ endsKey flow (next.drop 1)) then
            some (line, rest)
          else if !flow ∧ tabsBefore rest next ∧ column < least then none
          else
            (plainLines flow least steps next).map fun more =>
              (line ++ folded breaks ++ more.1, more.2)
      | _ => some (line, rest)

/-- The text held back while reading a quoted scalar: blanks of the line, or line ends. -/
def held (blanks : List Char) (breaks : Nat) (joined : Bool) : List Char :=
  if breaks = 0 then blanks
  else if joined then List.replicate (breaks - 1) '\n'
  else (folded breaks).reverse

/-- A scalar in single quotes after the first of them.  `read` and `blanks` stand last first. -/
def singleQuoted (read blanks : List Char) (breaks : Nat) :
    List Char → Option (List Char × List Char)
  | [] => none
  | '\'' :: '\'' :: rest => singleQuoted ('\'' :: (held blanks breaks false ++ read)) [] 0 rest
  | '\'' :: rest => some ((held blanks breaks false ++ read).reverse, rest)
  | character :: rest =>
      if character = '\n' then singleQuoted read [] (breaks + 1) rest
      else if isSpace character then
        singleQuoted read (if breaks = 0 then character :: blanks else []) breaks rest
      else singleQuoted (character :: (held blanks breaks false ++ read)) [] 0 rest

/-- The character after a backslash that stands for one character. -/
def escaped? (character : Char) : Option Char :=
  match character with
  | '0' => some (Char.ofNat 0)
  | 'a' => some (Char.ofNat 7)
  | 'b' => some (Char.ofNat 8)
  | 't' => some '\t'
  | '\t' => some '\t'
  | 'n' => some '\n'
  | 'v' => some (Char.ofNat 11)
  | 'f' => some (Char.ofNat 12)
  | 'r' => some '\r'
  | 'e' => some (Char.ofNat 27)
  | ' ' => some ' '
  | '"' => some '"'
  | '/' => some '/'
  | '\\' => some '\\'
  | 'N' => some (Char.ofNat 0x85)
  | '_' => some (Char.ofNat 0xA0)
  | 'L' => some (Char.ofNat 0x2028)
  | 'P' => some (Char.ofNat 0x2029)
  | _ => none

/-- How many hexadecimal digits follow a letter after a backslash. -/
def escapeDigits (character : Char) : Nat :=
  if character = 'x' then 2 else if character = 'u' then 4 else if character = 'U' then 8 else 0

/-- What a scalar in double quotes reads next. -/
inductive QuoteState where
  | plain
  | backslash
  | digits (left value : Nat)

/-- A scalar in double quotes after the first of them.  `joined` says that the line ends held back
began with a backslash, so that the first one stands for nothing. -/
def doubleQuoted (state : QuoteState) (read blanks : List Char) (breaks : Nat) (joined : Bool) :
    List Char → Option (List Char × List Char)
  | [] => none
  | character :: rest =>
      let flushed := held blanks breaks joined ++ read
      match state with
      | .backslash =>
          if character = '\n' then doubleQuoted .plain flushed [] 1 true rest
          else if 0 < escapeDigits character then
            doubleQuoted (.digits (escapeDigits character) 0) flushed [] 0 false rest
          else
            match escaped? character with
            | some value => doubleQuoted .plain (value :: flushed) [] 0 false rest
            | none => none
      | .digits left value =>
          match Json.hexValue? character with
          | none => none
          | some digit =>
              let value := 16 * value + digit
              if 1 < left then doubleQuoted (.digits (left - 1) value) read [] 0 false rest
              else if value < 0xD800 ∨ (0xE000 ≤ value ∧ value ≤ 0x10FFFF) then
                doubleQuoted .plain (Char.ofNat value :: read) [] 0 false rest
              else none
      | .plain =>
          if character = '"' then some (flushed.reverse, rest)
          else if character = '\\' then doubleQuoted .backslash flushed [] 0 false rest
          else if character = '\n' then doubleQuoted .plain read [] (breaks + 1) joined rest
          else if isSpace character then
            doubleQuoted .plain read (if breaks = 0 then character :: blanks else []) breaks joined
              rest
          else doubleQuoted .plain (character :: flushed) [] 0 false rest

/-! ### Block scalars -/

/-- What happens to the line ends at the end of a block scalar. -/
inductive Chomping where
  | strip
  | clip
  | keep

/-- The marks after `|` or `>`: chomping and a given indentation, in either order. -/
def blockHeader? : List Char → Option (Chomping × Option Nat × List Char)
  | '-' :: rest => withIndent .strip rest
  | '+' :: rest => withIndent .keep rest
  | digit :: '-' :: rest => if isIndent digit then done .strip digit rest else none
  | digit :: '+' :: rest => if isIndent digit then done .keep digit rest else none
  | digit :: rest =>
      if isIndent digit then done .clip digit rest else some (.clip, none, digit :: rest)
  | [] => some (.clip, none, [])
where
  /-- A digit that can tell an indentation. -/
  isIndent (digit : Char) : Bool := digit.isDigit && digit ≠ '0'
  /-- The header with an indentation. -/
  done (chomping : Chomping) (digit : Char) (rest : List Char) :
      Option (Chomping × Option Nat × List Char) :=
    some (chomping, some (digit.toNat - 48), rest)
  /-- The header after its chomping mark. -/
  withIndent (chomping : Chomping) : List Char → Option (Chomping × Option Nat × List Char)
    | digit :: rest =>
        if isIndent digit then done chomping digit rest else some (chomping, none, digit :: rest)
    | [] => some (chomping, none, [])

/-- The lines of a text; a line end at the very end begins no further line. -/
def linesOf (text : List Char) : List (List Char) :=
  let lines := Text.pieces '\n' text
  if lines.getLast? = some [] then lines.dropLast else lines

/-- How many blanks begin a line. -/
def indentOf (line : List Char) : Nat := (line.takeWhile (· = ' ')).length

/-- Whether a line holds nothing but blanks. -/
def isEmptyLine (line : List Char) : Bool := line.all (· = ' ')

/-- The lines that belong to a block scalar with some indentation, without it, and how many they
are.  A line that is indented less has to be empty to belong. -/
def blockLines (indent : Nat) : List (List Char) → List (List Char)
  | [] => []
  | line :: rest =>
      if indent ≤ indentOf line then line.drop indent :: blockLines indent rest
      else if isEmptyLine line then [] :: blockLines indent rest
      else []

/-- Lines without the empty ones at their end, and how many those were. -/
def splitTrailing (lines : List (List Char)) : List (List Char) × Nat :=
  let kept := (lines.reverse.dropWhile List.isEmpty).reverse
  (kept, lines.length - kept.length)

/-- The text of the lines of a folded scalar: a line end between two lines that begin with a
character is a blank, and empty lines after such a line stand for one line end less. -/
def foldLines : Nat → List (List Char) → List Char
  | 0, _ => []
  | _, [] => []
  | _, [line] => line
  | steps + 1, line :: rest =>
      let empties := rest.takeWhile List.isEmpty
      let after := rest.dropWhile List.isEmpty
      let indented (line : List Char) : Bool := line.head?.any isSpace
      match after with
      | [] => line
      | next :: _ =>
          let gap :=
            if line.isEmpty then List.replicate (empties.length + 1) '\n'
            else if indented line ∨ indented next then List.replicate (empties.length + 1) '\n'
            else if empties.isEmpty then [' ']
            else List.replicate empties.length '\n'
          line ++ gap ++ foldLines steps after

/-- A block scalar after its first mark, below a parent with some indentation. -/
def blockScalar (isFolded : Bool) (least : Nat) (text : List Char) :
    Option (List Char × List Char) :=
  match blockHeader? text with
  | none => none
  | some (chomping, given, rest) =>
      let margin := rest.takeWhile (· ≠ '\n')
      let blanks := margin.takeWhile isSpace
      let comment := margin.drop blanks.length
      if comment.isEmpty ∨ (comment.head? = some '#' ∧ !blanks.isEmpty) then
        let lines := linesOf ((rest.drop margin.length).drop 1)
        let leading := lines.takeWhile isEmptyLine
        let found := ((lines.drop leading.length).head?.map indentOf).getD 0
        let indent := match given with
          | some given => (least - 1) + given
          | none => max (max (leading.foldl (fun width line => max width line.length) found) least) 1
        let taken := blockLines indent lines
        let after := lines.drop taken.length
        let (kept, trailing) := splitTrailing taken
        let body := if isFolded then foldLines (kept.length + 1) kept else
          ['\n'].intercalate kept
        let finish := match chomping with
          | .strip => []
          | .clip => if kept.isEmpty then [] else ['\n']
          | .keep => List.replicate (if kept.isEmpty then trailing else trailing + 1) '\n'
        some (body ++ finish, '\n' :: ['\n'].intercalate after)
      else none

/-! ## Nodes -/

/-- A name after `&` or `*`. -/
def anchorName (text : List Char) : List Char × List Char :=
  let isNamePart (character : Char) : Bool :=
    character.isAlphanum || character = '-' || character = '_'
  (text.takeWhile isNamePart, text.dropWhile isNamePart)

/-- What stands before a node: a name for it and a tag. -/
structure Properties where
  anchor : Option String
  tag : Option String

/-- No name and no tag. -/
def Properties.none : Properties := ⟨Option.none, Option.none⟩

/-- A scalar read under a tag: a text if the tag says so, without a type of its own if the tag says
that it is a number, a truth value or null. -/
def tagged (tag : Option String) (tree : Tree) : Tree :=
  match tag, tree with
  | some "!!str", .plain text => .string text
  | some "!", .plain text => .string text
  | some "!!int", .string text => .plain text
  | some "!!float", .string text => .plain text
  | some "!!bool", .string text => .plain text
  | some "!!null", .string text => .plain text
  | _, tree => tree

/-- Gives a node its properties. -/
def Cursor.name (cursor : Cursor) (properties : Properties) (tree : Tree) : Tree × Cursor :=
  let tree := tagged properties.tag tree
  match properties.anchor with
  | some anchor => (tree, { cursor with anchors := (anchor, tree) :: cursor.anchors })
  | none => (tree, cursor)

/-- Reads one property at the front of a node. -/
def readProperty? (cursor : Cursor) (properties : Properties) : Option (Properties × Cursor) :=
  let past (rest : List Char) : Cursor :=
    { cursor with rest, column := cursor.column + (cursor.rest.length - rest.length) }
  match cursor.rest with
  | '&' :: rest =>
      let (name, after) := anchorName rest
      if name.isEmpty ∨ properties.anchor.isSome ∨ !endsKey true after then none
      else some ({ properties with anchor := some (String.ofList name) }, past after)
  | '!' :: rest =>
      let name := rest.takeWhile fun character =>
        !isSpace character && character ≠ '\n' && !isFlowMark character
      if properties.tag.isSome then none
      else
        some ({ properties with tag := some (String.ofList ('!' :: name)) },
          past (rest.drop name.length))
  | _ => none

/-- Whether a property begins here. -/
def Cursor.atProperty (cursor : Cursor) : Bool :=
  cursor.rest.head? = some '&' || cursor.rest.head? = some '!'

/-- A scalar in quotes, an alias, or a plain scalar, and whether it can be a key by standing on one
line. -/
def scalar? (flow : Bool) (least : Nat) (cursor : Cursor) : Option (Tree × Cursor × Bool) :=
  let past (rest : List Char) : Cursor := { cursor with rest }
  let oneLine (rest : List Char) : Bool :=
    !(cursor.rest.take (cursor.rest.length - rest.length)).contains '\n'
  match cursor.rest with
  | '\'' :: rest =>
      (singleQuoted [] [] 0 rest).map fun found =>
        (.string (String.ofList found.1), past found.2, oneLine found.2)
  | '"' :: rest =>
      (doubleQuoted .plain [] [] 0 false rest).map fun found =>
        (.string (String.ofList found.1), past found.2, oneLine found.2)
  | '*' :: rest =>
      let (name, after) := anchorName rest
      (Dictionary.get? (String.ofList name) cursor.anchors).map fun tree =>
        (tree, past after, true)
  | text =>
      if startsPlain flow text then
        (plainLines flow least (text.length + 1) text).map fun found =>
          (.plain (String.ofList found.1), past found.2, oneLine found.2)
      else none

/-- What follows the colon of a key. -/
def Cursor.afterColon? (flow : Bool) (cursor : Cursor) : Option Cursor :=
  match cursor.rest.dropWhile isSpace with
  | ':' :: rest => if flow || atGap rest then some { cursor with rest } else none
  | _ => none

/-- What follows a character at the next token. -/
def Cursor.expect? (cursor : Cursor) (character : Char) : Option Cursor :=
  match cursor.rest with
  | found :: rest => if found = character then some { cursor with rest } else none
  | [] => none

mutual

/-- A node inside a flow collection; the cursor stands at its first character. -/
def flowNode? : Nat → Properties → Cursor → Option (Tree × Cursor)
  | 0, _, _ => none
  | steps + 1, properties, cursor =>
      if cursor.atProperty then do
        let (properties, cursor) ← readProperty? cursor properties
        let (cursor, _) ← cursor.advance true true
        if cursor.rest.head?.any (fun mark => mark = ',' || mark = ']' || mark = '\x7d') then
          some (cursor.name properties nothing)
        else flowNode? steps properties cursor
      else
        match cursor.rest with
        | '[' :: rest => do
            let (items, cursor) ← flowItems? steps { cursor with rest }
            some (cursor.name properties (.sequence items))
        | '\x7b' :: rest => do
            let (entries, cursor) ← flowEntries? steps { cursor with rest }
            some (cursor.name properties (.mapping entries))
        | _ => do
            let (tree, cursor, _) ← scalar? true 0 cursor
            some (cursor.name properties tree)

/-- The value after a colon inside a flow collection. -/
def flowValue? : Nat → Cursor → Option (Tree × Cursor)
  | 0, _ => none
  | steps + 1, cursor => do
      let (cursor, _) ← cursor.advance true true
      if cursor.rest.head?.any (fun mark => mark = ',' || mark = ']' || mark = '\x7d') then
        some (nothing, cursor)
      else flowNode? steps .none cursor

/-- The items of a flow sequence after its bracket or a comma. -/
def flowItems? : Nat → Cursor → Option (List Tree × Cursor)
  | 0, _ => none
  | steps + 1, cursor => do
      let (cursor, _) ← cursor.advance true true
      match cursor.rest with
      | ']' :: rest => some ([], { cursor with rest })
      | _ => do
          let (tree, cursor) ← flowNode? steps .none cursor
          let (cursor, _) ← cursor.advance true true
          let (tree, cursor) ← match cursor.expect? ':' with
            | some cursor => do
                let key ← tree.key?
                let (value, cursor) ← flowValue? steps cursor
                some (Tree.mapping [(key, value)], cursor)
            | none => some (tree, cursor)
          let (cursor, _) ← cursor.advance true true
          match cursor.rest with
          | ',' :: rest => do
              let (items, cursor) ← flowItems? steps { cursor with rest }
              some (tree :: items, cursor)
          | ']' :: rest => some ([tree], { cursor with rest })
          | _ => none

/-- The entries of a flow mapping after its brace or a comma. -/
def flowEntries? : Nat → Cursor → Option (List (Key × Tree) × Cursor)
  | 0, _ => none
  | steps + 1, cursor => do
      let (cursor, _) ← cursor.advance true true
      match cursor.rest with
      | '\x7d' :: rest => some ([], { cursor with rest })
      | _ => do
          let (tree, cursor) ← flowNode? steps .none cursor
          let key ← tree.key?
          let (cursor, _) ← cursor.advance true true
          let (value, cursor) ← match cursor.expect? ':' with
            | some cursor => flowValue? steps cursor
            | none => some (nothing, cursor)
          let (cursor, _) ← cursor.advance true true
          match cursor.rest with
          | ',' :: rest => do
              let (entries, cursor) ← flowEntries? steps { cursor with rest }
              some ((key, value) :: entries, cursor)
          | '\x7d' :: rest => some ([(key, value)], { cursor with rest })
          | _ => none

end

/-- Whether nothing but a comment follows on the line, so that a node may end here. -/
def Cursor.endsLine (cursor : Cursor) : Bool :=
  match cursor.rest.dropWhile isSpace with
  | [] => true
  | character :: _ => character = '\n' || character = '#'

mutual

/-- A node of a block; the cursor stands at its first character.  `parent` is the least column of a
further line of it, and `inline` says that it stands beside a key, where no block collection may
begin. -/
def blockNode? : Nat → Nat → Bool → Properties → Cursor → Option (Tree × Cursor)
  | 0, _, _, _, _ => none
  | steps + 1, least, inline, properties, cursor =>
      let start := cursor.column
      if cursor.atProperty then do
        let (properties, cursor) ← readProperty? cursor properties
        let (cursor, crossed) ← cursor.advance false true
        if cursor.atEnd ∨ (crossed ∧ cursor.column < least) then
          some (cursor.name properties nothing)
        else if crossed then blockNode? steps least false properties cursor
        else blockNode? steps least inline properties cursor
      else if cursor.atMark '-' then
        if inline then none
        else do
          let (items, cursor) ← blockItems? steps start cursor
          some (cursor.name properties (.sequence items))
      else if cursor.atMark '?' then
        if inline then none
        else do
          let (entries, cursor) ← blockEntries? steps start cursor
          some (cursor.name properties (.mapping entries))
      else
        match cursor.rest with
        | '|' :: rest => do
            let (text, rest) ← blockScalar false least rest
            some ({ cursor with rest }.name properties (.string (String.ofList text)))
        | '>' :: rest => do
            let (text, rest) ← blockScalar true least rest
            some ({ cursor with rest }.name properties (.string (String.ofList text)))
        | '[' :: _ => do
            let (tree, cursor) ← flowNode? steps properties cursor
            if cursor.endsLine then some (tree, cursor) else none
        | '\x7b' :: _ => do
            let (tree, cursor) ← flowNode? steps properties cursor
            if cursor.endsLine then some (tree, cursor) else none
        | _ => do
            let (tree, after, isKey) ← scalar? false least cursor
            match after.afterColon? false with
            | some _ =>
                if inline ∨ !isKey then none
                else do
                  let (entries, cursor) ← blockEntries? steps start cursor
                  some (cursor.name properties (.mapping entries))
            | none =>
                if after.endsLine then some (after.name properties tree) else none

/-- The items of a block sequence whose dashes stand in some column; the cursor stands at one. -/
def blockItems? : Nat → Nat → Cursor → Option (List Tree × Cursor)
  | 0, _, _ => none
  | steps + 1, column, cursor => do
      let (next, _) ← cursor.pastMark.advance false false
      let (item, cursor) ←
        if next.atEnd ∨ next.column ≤ column then some (nothing, next)
        else blockNode? steps (column + 1) false .none next
      let (cursor, _) ← cursor.advance false true
      if cursor.atEnd ∨ cursor.column < column then some ([item], cursor)
      else if cursor.column = column ∧ cursor.atMark '-' then do
        let (items, cursor) ← blockItems? steps column cursor
        some (item :: items, cursor)
      else if cursor.column = column then some ([item], cursor)
      else none

/-- The key of an entry of a block mapping whose keys stand in some column, what follows its colon,
and whether the key began with a mark of its own, after which a block collection may stand beside
the colon. -/
def blockKey? : Nat → Nat → Cursor → Option (Key × Cursor × Bool)
  | 0, _, _ => none
  | steps + 1, column, cursor => do
      if cursor.atMark '?' then
        let (next, _) ← cursor.pastMark.advance false false
        let (tree, after) ←
          if next.atEnd ∨ next.column ≤ column then some (nothing, next)
          else blockNode? steps (column + 1) false .none next
        let key ← tree.key?
        let (after, _) ← after.advance false true
        if after.column = column ∧ after.atMark ':' then some (key, after.pastMark, true) else none
      else
        let (properties, cursor) ←
          if cursor.atProperty then do
            let (properties, cursor) ← readProperty? cursor .none
            let (cursor, crossed) ← cursor.advance false true
            if crossed then none else some (properties, cursor)
          else some (Properties.none, cursor)
        let (tree, after, isKey) ← scalar? false (column + 1) cursor
        let (tree, after) := after.name properties tree
        let key ← tree.key?
        let inside ← after.afterColon? false
        if isKey then some (key, inside, false) else none

/-- The entries of a block mapping whose keys stand in some column; the cursor stands at one. -/
def blockEntries? : Nat → Nat → Cursor → Option (List (Key × Tree) × Cursor)
  | 0, _, _ => none
  | steps + 1, column, cursor => do
      let (key, inside, compact) ← blockKey? steps column cursor
      let (next, crossed) ← inside.advance false true
      let (value, cursor) ←
        if next.atEnd then some (nothing, next)
        else if !crossed then blockNode? steps (column + 1) (!compact) .none next
        else if column < next.column then blockNode? steps (column + 1) false .none next
        else if next.column = column ∧ next.atMark '-' then do
          let (items, cursor) ← blockItems? steps column next
          some (Tree.sequence items, cursor)
        else some (nothing, next)
      let (cursor, _) ← cursor.advance false true
      if cursor.atEnd ∨ cursor.column < column then some ([(key, value)], cursor)
      else if cursor.column = column ∧ !cursor.atMark '-' then do
        let (entries, cursor) ← blockEntries? steps column cursor
        some ((key, value) :: entries, cursor)
      else none

end

/-- What follows the line of a marker. -/
def Cursor.pastMarker (cursor : Cursor) : Cursor :=
  { cursor with rest := cursor.rest.drop 3, column := 3 }

/-- Skips the directives before a document; they have to be followed by its marker. -/
def skipDirectives : Nat → Cursor → Option Cursor
  | 0, _ => none
  | steps + 1, cursor => do
      let (cursor, _) ← cursor.advance false false
      if cursor.rest.head? = some '%' ∧ cursor.column = 0 then
        let rest := cursor.rest.dropWhile (· ≠ '\n')
        let next ← skipDirectives steps { cursor with rest }
        if next.atMarker then some next else none
      else some cursor

/-- Whether nothing but the end of a document follows. -/
def Cursor.isFinished (cursor : Cursor) : Bool :=
  match cursor.advance false true with
  | none => false
  | some (cursor, _) =>
      if cursor.rest.isEmpty then true
      else if cursor.column = 0 ∧ cursor.rest.take 3 = ['.', '.', '.'] then
        match cursor.pastMarker.advance false true with
        | some (cursor, _) => cursor.rest.isEmpty
        | none => false
      else false

/-- The tree of a text with one document. -/
def parse? (text : String) : Option Tree := do
  let characters := unifyBreaks (match text.toList with
    | '\uFEFF' :: rest => rest
    | rest => rest)
  if characters.all isPrintable then
    let bound := 4 * characters.length + 8
    let cursor ← skipDirectives (characters.length + 1) ⟨characters, 0, []⟩
    let marked := cursor.atMarker && cursor.rest.head? = some '-'
    let cursor := if marked then cursor.pastMarker else cursor
    let (cursor, crossed) ← cursor.advance false marked
    if cursor.atEnd then
      if cursor.isFinished then some nothing else none
    else
      let (tree, cursor) ← blockNode? bound 0 (marked && !crossed) .none cursor
      if cursor.isFinished then some tree else none
  else none

end ChatGateway.Config.Yaml
