/-!
Words of shell scripts.  A word is a list of pieces: characters, and expansions that are worked out
when the script is run.  What is quoted is neither split into fields nor a pattern.
-/
namespace Reconciler.Shell

/-- What is made of the value of a parameter. -/
inductive Form where
  | value
  /-- The number of characters. -/
  | length
  /-- What an operator makes of the value and of the text behind the operator. -/
  | operator (operator : String) (text : String)
deriving DecidableEq, Repr

/-- A piece of a word. -/
inductive Piece where
  | char (c : Char) (quoted : Bool)
  /-- Quotes make a field even where nothing is between them. -/
  | quotes
  | parameter (name : String) (form : Form) (quoted : Bool)
  /-- What a script prints. -/
  | output (script : String) (quoted : Bool)
  /-- The value of an expression. -/
  | number (expression : String) (quoted : Bool)
deriving DecidableEq, Repr

/-- The character that a piece is. -/
def Piece.char? : Piece → Option Char
  | .char c _ => some c
  | _ => none

/-- The character that a piece without quotes is. -/
def Piece.bare? : Piece → Option Char
  | .char c false => some c
  | _ => none

/-- Whether a piece stands for all arguments, each of them a field. -/
def Piece.isEveryArgument : Piece → Bool
  | .parameter "@" .value true => true
  | _ => false

/-- A word. -/
abbrev Word := List Piece

/-- Why a text is no script. -/
inductive Problem where
  | openQuote
  | openParenthesis
  | openBrace
  | openBackquote
  | badLoopName
  /-- Something stands where it cannot, and perhaps only one thing could. -/
  | unexpected (found : String) (expected : Option String)
deriving DecidableEq, Repr

/-- The wording of a problem. -/
def Problem.message (problem : Problem) : String :=
  "Syntax error: " ++ match problem with
    | .openQuote => "Unterminated quoted string"
    | .openParenthesis => "end of file unexpected (expecting \")\")"
    | .openBrace => "Missing '\x7d'"
    | .openBackquote => "EOF in backquote substitution"
    | .badLoopName => "Bad for loop variable"
    | .unexpected found none => found ++ " unexpected"
    | .unexpected found (some expected) =>
      found ++ " unexpected (expecting \"" ++ expected ++ "\")"

namespace Word

/-- The text of a word that has no quotes and no expansions. -/
def literal? (word : Word) : Option String :=
  (word.mapM Piece.bare?).map String.ofList

/-- The text of a word without its expansions, whether it is quoted or not. -/
def text (word : Word) : String :=
  String.ofList (word.filterMap Piece.char?)

/-- Whether a character may occur in a name. -/
def isNameChar (c : Char) : Bool :=
  c.isAlphanum || c = '_'

/-- Whether a character is the name of a parameter of its own. -/
def isSpecial (c : Char) : Bool :=
  c.isDigit || c ∈ ['*', '@', '#', '?', '$', '!', '-']

/-- The text up to the delimiter that closes the ones opened before it; delimiters that are quoted
or escaped do not count. -/
def enclosed (opening closing : Char) :
    Nat → Option Char → Bool → List Char → Option (List Char)
  | _, _, _, [] => none
  | depth, quote, true, c :: rest => (enclosed opening closing depth quote false rest).map (c :: ·)
  | depth, quote, false, c :: rest =>
    let go (depth : Nat) (quote : Option Char) (escaped : Bool) : Option (List Char) :=
      (enclosed opening closing depth quote escaped rest).map (c :: ·)
    if c = '\\' && quote ≠ some '\'' then go depth quote true
    else if quote = some c then go depth none false
    else if quote.isSome then go depth quote false
    else if c = '\'' || c = '"' then go depth (some c) false
    else if c = closing then if depth = 0 then some [] else go (depth - 1) none false
    else if c = opening then go (depth + 1) none false
    else go depth none false

/-- The script between backquotes, and the length of what stands there. -/
def backquoted : List Char → Option (List Char × Nat)
  | [] => none
  | '\x60' :: _ => some ([], 1)
  | '\\' :: c :: rest => do
    let (script, length) ← backquoted rest
    let kept := if c ∈ ['\x60', '\\', '$'] then [c] else ['\\', c]
    return (kept ++ script, length + 2)
  | c :: rest => do
    let (script, length) ← backquoted rest
    return (c :: script, length + 1)

/-- The operators behind the name of a parameter, longer ones first. -/
def operators : List String :=
  [":-", ":=", ":?", ":+", "##", "%%", "-", "=", "?", "+", "#", "%"]

/-- The parameter that a text between braces describes. -/
def braced? (quoted : Bool) (text : List Char) : Option Piece :=
  let named (text : List Char) : Option (String × List Char) :=
    match text with
    | [] => none
    | c :: rest =>
      if isSpecial c && !c.isDigit then some (c.toString, rest)
      else
        let name := (c :: rest).takeWhile isNameChar
        if name.isEmpty then none else some (String.ofList name, (c :: rest).drop name.length)
  match text with
  | '#' :: c :: rest =>
    match named (c :: rest) with
    | some (name, []) => some (.parameter name .length quoted)
    | _ => none
  | _ => do
    let (name, rest) ← named text
    if rest.isEmpty then return .parameter name .value quoted
    let operator ← operators.find? fun operator => operator.toList.isPrefixOf rest
    return .parameter name (.operator operator (String.ofList (rest.drop operator.length))) quoted

/-- What stands behind a dollar sign: a piece and its length, or nothing, and then the dollar sign
stands for itself. -/
def dollar (quoted : Bool) : List Char → Except Problem (Option (Piece × Nat))
  | '(' :: '(' :: rest =>
    match enclosed '(' ')' 0 none false rest with
    | some text => .ok (some (.number (String.ofList text) quoted, text.length + 4))
    | none => .error .openQuote
  | '(' :: rest =>
    match enclosed '(' ')' 0 none false rest with
    | some text => .ok (some (.output (String.ofList text) quoted, text.length + 2))
    | none => .error .openParenthesis
  | '\x7b' :: rest =>
    match enclosed '\x7b' '\x7d' 0 none false rest with
    | some text =>
      match braced? quoted text with
      | some piece => .ok (some (piece, text.length + 2))
      | none => .ok (some (.parameter "" .value quoted, text.length + 2))
    | none => .error .openBrace
  | c :: rest =>
    if isSpecial c then .ok (some (.parameter c.toString .value quoted, 1))
    else
      let name := (c :: rest).takeWhile isNameChar
      if name.isEmpty then .ok none
      else .ok (some (.parameter (String.ofList name) .value quoted, name.length))
  | [] => .ok none

/-- What a backslash and the characters behind it stand for, and how many of these are used up. -/
def escape (quoted : Bool) : List Char → List Piece × Nat
  | [] => ([.char '\\' quoted], 0)
  | '\n' :: _ => ([], 1)
  | c :: _ =>
    if !quoted || c ∈ ['$', '\x60', '"', '\\'] then ([.char c true], 1)
    else ([.char '\\' true], 0)

/-- The pieces of a text up to a character that stops it, and the rest. -/
def read (quoted : Bool) (stops : Char → Bool) :
    Nat → List Char → Except Problem (Word × List Char)
  | 0, rest => .ok ([], rest)
  | _, [] => .ok ([], [])
  | fuel + 1, c :: rest => do
    if stops c then return ([], c :: rest)
    let (found, rest) ←
      if c = '\\' then
        let (found, length) := escape quoted rest
        pure (found, rest.drop length)
      else if c = '$' then
        match ← dollar quoted rest with
        | some (piece, length) => pure ([piece], rest.drop length)
        | none => pure ([.char '$' quoted], rest)
      else if c = '\x60' then
        match backquoted rest with
        | some (script, length) =>
          pure ([.output (String.ofList script) quoted], rest.drop length)
        | none => throw Problem.openBackquote
      else if c = '\'' && !quoted then
        let text := rest.takeWhile (· ≠ '\'')
        if text.length = rest.length then throw Problem.openQuote
        pure (.quotes :: text.map (Piece.char · true), rest.drop (text.length + 1))
      else if c = '"' && !quoted then
        let (inner, after) ← read true (· = '"') fuel rest
        if after.isEmpty then throw Problem.openQuote
        pure (if inner.any Piece.isEveryArgument then inner else .quotes :: inner, after.drop 1)
      else pure ([.char c quoted], rest)
    let (more, rest) ← read quoted stops fuel rest
    return (found ++ more, rest)

/-- Whether a character ends a word. -/
def endsWord (c : Char) : Bool :=
  c ∈ [' ', '\t', '\n', ';', '&', '|', '<', '>', '(', ')']

/-- The word at the beginning of a text, and the rest. -/
def first (text : List Char) : Except Problem (Word × List Char) :=
  read false endsWord (text.length + 1) text

/-- All of a text as a word, with expansions but with no quotes in it. -/
def ofDocument (text : List Char) : Except Problem Word :=
  (read true (fun _ => false) (text.length + 1) text).map (·.1)

/-- All of a text as a word, with its quotes. -/
def ofText (quoted : Bool) (text : List Char) : Except Problem Word :=
  (read quoted (fun _ => false) (text.length + 1) text).map (·.1)

end Word

end Reconciler.Shell
