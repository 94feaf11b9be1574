import Reconciler.Label.Expression
import Reconciler.Text.Blank
import Reconciler.Text.Quoted
/-!
Reading label selectors.  Requirements stand between the commas that are not in parentheses:

* `key` and `!key` ask for presence and absence;
* `key=value`, `key==value` and `key!=value` compare;
* `key in (a, b)` and `key notin (a, b)` compare with a set.

Blanks are allowed between the parts.  A blank selector requires nothing.
-/
namespace Reconciler.Label

/-- Why a text is no selector. -/
inductive Reason where
  | unbalancedParenthesis
  | emptyRequirement
  | invalidKey (key : String)
  | invalidValue (value : String)
  | missingParentheses (key : String)
  | unknownOperator (term : String)
deriving DecidableEq, Repr

/-- The wording of a reason. -/
def Reason.message : Reason → String
  | .unbalancedParenthesis => "unbalanced parenthesis"
  | .emptyRequirement => "empty requirement"
  | .invalidKey key => "invalid label key " ++ Text.quoted key
  | .invalidValue value => "invalid label value " ++ Text.quoted value
  | .missingParentheses key => "expected parenthesized values for " ++ Text.quoted key
  | .unknownOperator term => "unknown operator in " ++ Text.quoted term

/-- A text that is no selector, and why. -/
structure ParseError where
  selector : String
  reason : Reason
deriving DecidableEq, Repr

/-- The wording of a parse error. -/
def ParseError.message (error : ParseError) : String :=
  "invalid label selector " ++ Text.quoted error.selector ++ ": " ++ error.reason.message

/-- A letter or digit of ASCII. -/
def isAlphanumeric (c : Char) : Bool :=
  c.isAlphanum

/-- The characters of keys. -/
def isKeyChar (c : Char) : Bool :=
  isAlphanumeric c || c == '-' || c == '_' || c == '.' || c == '/'

/-- The characters of values. -/
def isValueChar (c : Char) : Bool :=
  isAlphanumeric c || c == '-' || c == '_' || c == '.'

/-- A key: at least one key character and nothing else. -/
def key? (chars : List Char) : Except Reason String :=
  if chars ≠ [] ∧ chars.all isKeyChar then .ok (String.ofList chars)
  else .error (.invalidKey (String.ofList chars))

/-- A value: value characters only, possibly none. -/
def value? (chars : List Char) : Except Reason String :=
  if chars.all isValueChar then .ok (String.ofList chars)
  else .error (.invalidValue (String.ofList chars))

/-- Split at the commas outside parentheses; `none` if the parentheses do not balance.  `depth`
parentheses are open, and `current` holds the present term backwards. -/
def splitTerms? (depth : Nat) (current : List Char) : List Char → Option (List (List Char))
  | [] => if depth = 0 then some [current.reverse] else none
  | '(' :: rest => splitTerms? (depth + 1) ('(' :: current) rest
  | ')' :: rest => if depth = 0 then none else splitTerms? (depth - 1) (')' :: current) rest
  | ',' :: rest =>
    if depth = 0 then (splitTerms? 0 [] rest).map (current.reverse :: ·)
    else splitTerms? depth (',' :: current) rest
  | c :: rest => splitTerms? depth (c :: current) rest

/-- Split around the first place where a word stands. -/
def splitAround? (word : List Char) : List Char → Option (List Char × List Char)
  | [] => if word.isEmpty then some ([], []) else none
  | c :: rest =>
    if word.isPrefixOf (c :: rest) then some ([], (c :: rest).drop word.length)
    else (splitAround? word rest).map fun (before, after) => (c :: before, after)

/-- What follows a word at the front, if it stands there. -/
def afterWord? (word chars : List Char) : Option (List Char) :=
  if word.isPrefixOf chars then some (chars.drop word.length) else none

/-- Split at every comma. -/
def splitCommas : List Char → List (List Char)
  | [] => [[]]
  | ',' :: rest => [] :: splitCommas rest
  | c :: rest =>
    match splitCommas rest with
    | first :: others => (c :: first) :: others
    | [] => [[c]]

/-- The inside of a text that starts and ends with a parenthesis. -/
def insideParentheses? : List Char → Option (List Char)
  | '(' :: rest => if rest.getLast? = some ')' then some rest.dropLast else none
  | _ => none

/-- The values of a set between parentheses; they are read before the key is. -/
def parseSet (key rest : List Char) : Except Reason (String × StringSet) := do
  match insideParentheses? (Text.trim rest) with
  | none => .error (.missingParentheses (String.ofList key))
  | some inside =>
    let values ← (splitCommas inside).mapM fun value => value? (Text.trim value)
    let key ← key? (Text.trim key)
    return (key, StringSet.ofList values)

/-- A key and a value on the two sides of an operator. -/
def parsePair (sides : List Char × List Char) : Except Reason (String × String) := do
  let key ← key? (Text.trim sides.1)
  let value ← value? (Text.trim sides.2)
  return (key, value)

/-- A set operator and its values, in a term with a key. -/
def parseOperator (term key rest : List Char) : Except Reason Expression :=
  match afterWord? "notin".toList rest with
  | some values => (parseSet key values).map fun (key, values) => .notIn key values
  | none =>
    match afterWord? "in".toList rest with
    | some values => (parseSet key values).map fun (key, values) => .isIn key values
    | none => .error (.unknownOperator (String.ofList term))

/-- A requirement without comparison: a lone key, or a key, a blank and a set operator. -/
def parseWord (term : List Char) : Except Reason Expression :=
  let key := term.takeWhile fun c => !Text.isBlank c
  match term.dropWhile fun c => !Text.isBlank c with
  | [] => (key? key).map .present
  | _ :: rest => parseOperator term key (Text.trimStart rest)

/-- A requirement that begins with a key. -/
def parseComparison (term : List Char) : Except Reason Expression :=
  match splitAround? ['!', '='] term with
  | some sides => (parsePair sides).map fun (key, value) => .notEqual key value
  | none =>
    match splitAround? ['=', '='] term <|> splitAround? ['='] term with
    | some sides => (parsePair sides).map fun (key, value) => .equal key value
    | none => parseWord term

/-- A requirement without blanks at its ends. -/
def parseExpression : List Char → Except Reason Expression
  | '!' :: key => (key? (Text.trim key)).map .absent
  | term => parseComparison term

/-- A requirement with blanks at its ends. -/
def parseTerm (term : List Char) : Except Reason Expression :=
  let term := Text.trim term
  if term.isEmpty then .error .emptyRequirement else parseExpression term

/-- The requirements of a selector, or the reason why it is none. -/
def parseChars (chars : List Char) : Except Reason Selector :=
  match splitTerms? 0 [] chars with
  | none => .error .unbalancedParenthesis
  | some terms => if (Text.trim chars).isEmpty then .ok [] else terms.mapM parseTerm

/-- The selector that a text writes. -/
def parse (text : String) : Except ParseError Selector :=
  (parseChars text.toList).mapError (⟨text, ·⟩)

end Reconciler.Label
