import Reconciler.Shell.Word
/-!
Tokens of shell scripts, each with the line that it is on.
-/
namespace Reconciler.Shell

/-- A token of a script. -/
inductive Token where
  | word (word : Word)
  | operator (text : String)
  /-- An operator that redirects a stream; the word behind it says where to. -/
  | redirect (stream : Nat) (operator : String)
  /-- A text in the script that a command reads. -/
  | document (text : Word)
  /-- A text that is no token. -/
  | broken (problem : Problem)
deriving DecidableEq, Repr

/-- Tokens with their lines. -/
abbrev Tokens := List (Token × Nat)

namespace Token

/-- The operators between commands, longer ones first. -/
def operators : List String :=
  ["&&", "||", ";;", ";", "|", "&", "(", ")", "\n"]

/-- The operators that redirect a stream, longer ones first. -/
def redirections : List String :=
  ["<<-", "<<", "<&", ">>", ">&", ">|", "<", ">"]

/-- The operator at the beginning of a text. -/
def operator? (among : List String) (text : List Char) : Option String :=
  among.find? fun operator => operator.toList.isPrefixOf text

/-- The redirection at the beginning of a text: the stream, the operator and the rest. -/
def redirection? (text : List Char) : Option (Nat × String × List Char) :=
  let (number, rest) := match text with
    | c :: rest =>
      if c.isDigit && (operator? redirections rest).isSome then
        (some (c.toNat - '0'.toNat), rest)
      else (none, text)
    | [] => (none, [])
  (operator? redirections rest).map fun operator =>
    (number.getD (if operator.startsWith "<" then 0 else 1), operator, rest.drop operator.length)

/-- Split a text after its first line. -/
def splitLine (text : List Char) : List Char × List Char :=
  let line := text.takeWhile (· ≠ '\n')
  (line, text.drop (line.length + 1))

/-- The lines up to a last one, and what comes after that one. -/
def linesUntil (last : List Char) (stripped : Bool) : Nat → List Char → List Char × List Char
  | 0, text => ([], text)
  | _, [] => ([], [])
  | fuel + 1, text =>
    let (line, rest) := splitLine text
    let line := if stripped then line.dropWhile (· = '\t') else line
    if line = last then ([], rest)
    else
      let (more, rest) := linesUntil last stripped fuel rest
      (line ++ '\n' :: more, rest)

/-- How many lines a text that is used up ends. -/
def linesBetween (before after : List Char) : Nat :=
  before.count '\n' - after.count '\n'

/-- The document that begins after this line: its text, and what is left to read. -/
def readDocument (operator : String) (rest : List Char) : Except Problem (Word × List Char) := do
  let (last, rest) ← Word.first (rest.dropWhile fun c => c = ' ' || c = '\t')
  let (line, below) := splitLine rest
  let (text, below) := linesUntil last.text.toList (operator = "<<-") (below.length + 1) below
  let isQuoted := last.any fun piece => piece.bare?.isNone
  let word ← if isQuoted then pure (text.map (Piece.char · true)) else Word.ofDocument text
  return (word, line ++ '\n' :: below)

/-- The tokens of a text that begins on a line. -/
def scan : Nat → Nat → List Char → Tokens
  | 0, _, _ => []
  | _, _, [] => []
  | fuel + 1, line, c :: rest =>
    let text := c :: rest
    if c = ' ' || c = '\t' then scan fuel line rest
    else if c = '\\' && rest.head? = some '\n' then scan fuel (line + 1) (rest.drop 1)
    else if c = '#' then scan fuel line (rest.dropWhile (· ≠ '\n'))
    else
      match redirection? text, operator? operators text with
      | some (stream, sign, rest), _ =>
        if sign.startsWith "<<" then
          match readDocument sign rest with
          | .error problem => [(.broken problem, line)]
          | .ok (text, rest) => (.document text, line) :: scan fuel line rest
        else (.redirect stream sign, line) :: scan fuel line rest
      | none, some sign =>
        (.operator sign, line) ::
          scan fuel (if sign = "\n" then line + 1 else line) (text.drop sign.length)
      | none, none =>
        match Word.first text with
        | .error problem => [(.broken problem, line + text.count '\n')]
        | .ok (found, rest) => (.word found, line) :: scan fuel (line + linesBetween text rest) rest

/-- The tokens of a script. -/
def ofScript (script : String) : Tokens :=
  scan (2 * script.length + 2) 1 script.toList

/-- The name of a token in the words of an error message. -/
def describe : Option Token → String
  | none => "end of file"
  | some (.word found) =>
    match found.literal? with
    | some text =>
      if text ∈ ["then", "else", "elif", "fi", "do", "done", "esac", "in", "\x7d", "!"] then
        "\"" ++ text ++ "\""
      else "word"
    | none => "word"
  | some (.operator "\n") => "newline"
  | some (.operator text) => "\"" ++ text ++ "\""
  | some (.redirect ..) | some (.document _) => "redirection"
  | some (.broken _) => "word"

end Token

end Reconciler.Shell
