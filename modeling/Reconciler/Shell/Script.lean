import Reconciler.Shell.Token
/-!
Shell scripts: simple commands, the compound ones, and how they are joined by `;`, `&&`, `||` and
`|`.  A script is read line by line, so that the lines before a mistake are commands all the same.
-/
namespace Reconciler.Shell

/-- A change of where a command reads from or writes to. -/
inductive Redirection where
  | write (stream : Nat) (path : Word) (append : Bool)
  | read (path : Word)
  /-- The stream goes where another one goes; a dash closes it. -/
  | duplicate (stream : Nat) (other : Word)
  /-- The command reads a text. -/
  | document (text : Word)
deriving DecidableEq, Repr

/-- When a pipeline is run. -/
inductive Joint where
  | always
  | afterSuccess
  | afterFailure
deriving DecidableEq, Repr

/-- A simple command: what it sets, its words and its redirections. -/
structure Simple where
  line : Nat := 0
  assignments : List (String × Word) := []
  words : List Word := []
  redirections : List Redirection := []
deriving DecidableEq, Repr

mutual

/-- A command. -/
inductive Command where
  | simple (command : Simple)
  | group (body : List Pipeline)
  | subshell (body : List Pipeline)
  /-- Conditions with what is done under the first one that holds, and what is done else. -/
  | branch (clauses : List (List Pipeline × List Pipeline)) (otherwise : List Pipeline)
  /-- The body is repeated as long as the condition succeeds, or as long as it fails. -/
  | loop (wanted : Bool) (condition body : List Pipeline)
  /-- The body is repeated for every field of some words, or for every argument. -/
  | each (name : String) (words : Option (List Word)) (body : List Pipeline)
  /-- The body under the first pattern that fits a word. -/
  | choice (word : Word) (cases : List (List Word × List Pipeline))
  | function (name : String) (body : Command)
  | redirected (command : Command) (redirections : List Redirection)

/-- Commands each of which reads what the one before it writes. -/
inductive Pipeline where
  | mk (joint : Joint) (negated : Bool) (commands : List Command)

end

/-- A script: its pipelines, and what is wrong behind them. -/
structure Script where
  pipelines : List Pipeline
  problem : Option (Problem × Nat) := none

namespace Script

/-- A mistake on a line. -/
abbrev Mistake := Problem × Nat

/-- A result with the tokens behind it. -/
abbrev Followed (α : Type) := α × Tokens

/-- The line of the next token. -/
def lineOf (tokens : Tokens) : Nat :=
  (tokens.head?.map (·.2)).getD 1

/-- The mistake that a token is at its place, where another one may be expected. -/
def unexpected (tokens : Tokens) (expected : Option String) : Mistake :=
  match tokens with
  | (.broken problem, line) :: _ => (problem, line)
  | _ =>
    (.unexpected (Token.describe (tokens.head?.map (·.1))) expected, lineOf tokens)

/-- Whether the next token is a word that reads so. -/
def isWord (text : String) : Tokens → Bool
  | (.word word, _) :: _ => word.literal? = some text
  | _ => false

/-- Whether the next token is an operator. -/
def isOperator (text : String) : Tokens → Bool
  | (.operator operator, _) :: _ => operator = text
  | _ => false

/-- Step over a word. -/
def expectWord (text : String) (tokens : Tokens) : Except Mistake Tokens :=
  if isWord text tokens then .ok (tokens.drop 1)
  else .error (unexpected tokens (some text))

/-- Step over an operator. -/
def expectOperator (text : String) (tokens : Tokens) : Except Mistake Tokens :=
  if isOperator text tokens then .ok (tokens.drop 1)
  else .error (unexpected tokens (some text))

/-- Drop empty lines. -/
def skipLines (tokens : Tokens) : Tokens :=
  tokens.dropWhile (·.1 = .operator "\n")

/-- The words that end a list of commands. -/
def closers : List String :=
  ["then", "else", "elif", "fi", "do", "done", "esac", "\x7d"]

/-- Whether a list of commands ends here. -/
def isEnd (tokens : Tokens) : Bool :=
  tokens.isEmpty || isOperator ")" tokens || isOperator ";;" tokens ||
    closers.any (isWord · tokens)

/-- The setting that a word is. -/
def assignment? (word : Word) : Option (String × Word) :=
  let name := (word.map Piece.bare?).takeWhile fun c => c.any Word.isNameChar
  let text := name.filterMap id
  if text.isEmpty || text.head?.any Char.isDigit then none
  else if (word[name.length]?.bind Piece.bare?) = some '=' then
    some (String.ofList text, word.drop (name.length + 1))
  else none

/-- A redirection by an operator, with the word behind it. -/
def redirection (stream : Nat) (operator : String) (word : Word) : Redirection :=
  if operator.endsWith "&" then .duplicate stream word
  else if operator = "<" then .read word
  else .write stream word (operator = ">>")

/-- The redirection at the beginning of some tokens. -/
def redirection? : Tokens → Option (Except Mistake (Redirection × Tokens))
  | (.document text, _) :: rest => some (.ok (.document text, rest))
  | (.redirect stream operator, _) :: (.word word, _) :: rest =>
    some (.ok (redirection stream operator word, rest))
  | (.redirect .., _) :: rest => some (.error (unexpected rest none))
  | _ => none

/-- The redirections at the beginning of some tokens. -/
def redirections : Nat → Tokens → Except Mistake (Followed (List Redirection))
  | 0, tokens => .ok ([], tokens)
  | fuel + 1, tokens =>
    match redirection? tokens with
    | none => .ok ([], tokens)
    | some found => do
      let (redirection, rest) ← found
      let (more, rest) ← redirections fuel rest
      return (redirection :: more, rest)

/-- A simple command. -/
def simple : Nat → Simple → Tokens → Except Mistake (Followed Simple)
  | 0, done, tokens => .ok (done, tokens)
  | fuel + 1, done, tokens =>
    match redirection? tokens, tokens with
    | some found, _ => do
      let (redirection, rest) ← found
      simple fuel { done with redirections := done.redirections ++ [redirection] } rest
    | none, (.word word, _) :: rest =>
      match if done.words.isEmpty then assignment? word else none with
      | some setting => simple fuel { done with assignments := done.assignments ++ [setting] } rest
      | none => simple fuel { done with words := done.words ++ [word] } rest
    | none, _ => .ok (done, tokens)

/-- Words up to one that is none. -/
def wordsOf : Tokens → List Word × Tokens
  | (.word word, _) :: rest =>
    let (more, rest) := wordsOf rest
    (word :: more, rest)
  | tokens => ([], tokens)

/-- The patterns of a case, up to the parenthesis. -/
def patterns : Nat → Tokens → Except Mistake (Followed (List Word))
  | 0, tokens => .ok ([], tokens)
  | fuel + 1, (.word word, _) :: rest =>
    if isOperator "|" rest then do
      let (more, rest) ← patterns fuel (rest.drop 1)
      return (word :: more, rest)
    else do return ([word], ← expectOperator ")" rest)
  | _, tokens => .error (unexpected tokens none)

/-- The words that a loop runs over. -/
def loopWords (tokens : Tokens) : Except Mistake (Followed (Option (List Word))) :=
  let tokens' := skipLines tokens
  if isWord "in" tokens' then
    let (words, rest) := wordsOf (tokens'.drop 1)
    if isOperator ";" rest || isOperator "\n" rest then .ok (some words, skipLines (rest.drop 1))
    else .error (unexpected rest none)
  else if isOperator ";" tokens then .ok (none, skipLines (tokens.drop 1))
  else .ok (none, tokens')

mutual

/-- Pipelines up to where a list of commands ends, or up to the end of the line. -/
def list (line : Bool) : Nat → Joint → Tokens → Except Mistake (Followed (List Pipeline))
  | 0, _, tokens => .ok ([], tokens)
  | fuel + 1, joint, tokens => do
    let tokens := if line && joint = .always then tokens else skipLines tokens
    if joint = .always && (isEnd tokens || line && isOperator "\n" tokens) then return ([], tokens)
    let negated := isWord "!" tokens
    let (commands, rest) ← pipeline fuel (if negated then tokens.drop 1 else tokens)
    let found := Pipeline.mk joint negated commands
    let next : Option Joint :=
      if isOperator "&&" rest then some .afterSuccess
      else if isOperator "||" rest then some .afterFailure
      else if isOperator ";" rest || isOperator "&" rest || isOperator "\n" rest && !line then
        some .always
      else none
    match next with
    | none => return ([found], rest)
    | some joint => do
      let (more, rest) ← list line fuel joint (rest.drop 1)
      return (found :: more, rest)

/-- Commands joined by bars. -/
def pipeline : Nat → Tokens → Except Mistake (Followed (List Command))
  | 0, tokens => .ok ([], tokens)
  | fuel + 1, tokens => do
    let (found, rest) ← command fuel (skipLines tokens)
    if isOperator "|" rest then
      let (more, rest) ← pipeline fuel (rest.drop 1)
      return (found :: more, rest)
    else return ([found], rest)

/-- A list of commands that must not be empty. -/
def body : Nat → Tokens → Except Mistake (Followed (List Pipeline))
  | 0, tokens => .ok ([], tokens)
  | fuel + 1, tokens => do
    let (found, rest) ← list false fuel .always tokens
    if found.isEmpty then throw (unexpected rest none)
    return (found, rest)

/-- A loop's body between `do` and `done`. -/
def loopBody : Nat → Tokens → Except Mistake (Followed (List Pipeline))
  | 0, tokens => .ok ([], tokens)
  | fuel + 1, tokens => do
    let (found, rest) ← body fuel (← expectWord "do" tokens)
    return (found, ← expectWord "done" rest)

/-- What follows a condition: what is done under it, and the other clauses. -/
def branch : Nat → Tokens →
    Except Mistake (Followed (List (List Pipeline × List Pipeline) × List Pipeline))
  | 0, tokens => .ok (([], []), tokens)
  | fuel + 1, tokens => do
    let (condition, rest) ← body fuel tokens
    let (found, rest) ← body fuel (← expectWord "then" rest)
    if isWord "elif" rest then
      let ((clauses, otherwise), rest) ← branch fuel (rest.drop 1)
      return (((condition, found) :: clauses, otherwise), rest)
    else if isWord "else" rest then
      let (otherwise, rest) ← body fuel (rest.drop 1)
      return (([(condition, found)], otherwise), ← expectWord "fi" rest)
    else return (([(condition, found)], []), ← expectWord "fi" rest)

/-- The cases of a choice. -/
def cases : Nat → Tokens → Except Mistake (Followed (List (List Word × List Pipeline)))
  | 0, tokens => .ok ([], tokens)
  | fuel + 1, tokens => do
    let tokens := skipLines tokens
    if isWord "esac" tokens then return ([], tokens.drop 1)
    let (words, rest) ←
      patterns fuel (if isOperator "(" tokens then tokens.drop 1 else tokens)
    let (found, rest) ← list false fuel .always rest
    if isOperator ";;" rest then
      let (more, rest) ← cases fuel (rest.drop 1)
      return ((words, found) :: more, rest)
    else return ([(words, found)], ← expectWord "esac" rest)

/-- A compound command, if there is one. -/
def compound : Nat → Tokens → Except Mistake (Followed (Option Command))
  | 0, tokens => .ok (none, tokens)
  | fuel + 1, tokens => do
    let rest := tokens.drop 1
    if isWord "\x7b" tokens then
      let (found, rest) ← body fuel rest
      return (some (.group found), ← expectWord "\x7d" rest)
    else if isOperator "(" tokens then
      let (found, rest) ← body fuel rest
      return (some (.subshell found), ← expectOperator ")" rest)
    else if isWord "if" tokens then
      let ((clauses, otherwise), rest) ← branch fuel rest
      return (some (.branch clauses otherwise), rest)
    else if isWord "while" tokens || isWord "until" tokens then
      let (condition, after) ← body fuel rest
      let (found, after) ← loopBody fuel after
      return (some (.loop (isWord "while" tokens) condition found), after)
    else if isWord "for" tokens then
      match rest with
      | (.word word, _) :: rest =>
        let (words, rest) ← loopWords rest
        let (found, rest) ← loopBody fuel rest
        return (some (.each word.text words found), rest)
      | _ => throw (.badLoopName, lineOf rest)
    else if isWord "case" tokens then
      match rest with
      | (.word word, _) :: rest =>
        let (found, rest) ← cases fuel (← expectWord "in" (skipLines rest))
        return (some (.choice word found), rest)
      | _ => throw (unexpected rest none)
    else return (none, tokens)

/-- A command. -/
def command : Nat → Tokens → Except Mistake (Followed Command)
  | 0, tokens => .ok (.group [], tokens)
  | fuel + 1, tokens => do
    if isEnd tokens then throw (unexpected tokens none)
    match ← compound fuel tokens with
    | (some found, rest) =>
      let (redirections, rest) ← redirections fuel rest
      return (if redirections.isEmpty then found else .redirected found redirections, rest)
    | (none, _) =>
      let (found, rest) ← simple fuel { line := lineOf tokens } tokens
      match found.words, isOperator "(" rest with
      | [name], true =>
        let (body, rest) ← command fuel (skipLines (← expectOperator ")" (rest.drop 1)))
        return (.function name.text body, rest)
      | _, _ =>
        if found.words.isEmpty && found.assignments.isEmpty && found.redirections.isEmpty then
          throw (unexpected tokens none)
        return (.simple found, rest)

end

/-- The script of some tokens. -/
def ofTokens : Nat → Tokens → Script
  | 0, _ => { pipelines := [] }
  | fuel + 1, tokens =>
    let tokens := skipLines tokens
    if tokens.isEmpty then { pipelines := [] }
    else
      match list true (2 * tokens.length + 10) .always tokens with
      | .error mistake => { pipelines := [], problem := some mistake }
      | .ok (found, rest) =>
        if rest.isEmpty || isOperator "\n" rest then
          let more := ofTokens fuel rest
          { more with pipelines := found ++ more.pipelines }
        else { pipelines := [], problem := some (unexpected rest none) }

/-- The script with a text. -/
def ofText (text : String) : Script :=
  let tokens := Token.ofScript text
  ofTokens (tokens.length + 1) tokens

end Script

end Reconciler.Shell
