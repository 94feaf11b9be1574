import Reconciler.Attempt
import Reconciler.StringSet
import Reconciler.Text.Quoted
/-!
Named toggles, such as the controllers that a manager runs.  A specification is a list of items
between commas, read from left to right: `name` enables, `-name` disables, and `*` stands for the
defaults wherever it is in the list.  An item may stand between double quotes, where a quote is
written twice.  A specification is applied as a whole or not at all.
-/
namespace Reconciler

/-- Why a specification does not split into items. -/
inductive SplitError where
  | unterminatedQuote
  | afterQuote
  | bareQuote
  | lineBreak
deriving DecidableEq, Repr

/-- The wording of a split error. -/
def SplitError.message : SplitError → String
  | .unterminatedQuote => "unterminated quote"
  | .afterQuote => "unexpected character after quoted item"
  | .bareQuote => "bare quote in unquoted item"
  | .lineBreak => "line break outside quotes"

namespace Switches

/-- Where in an item the splitter stands. -/
inductive Place where
  /-- At the beginning of an item. -/
  | start
  /-- Inside an item without quotes. -/
  | bare
  /-- Between quotes. -/
  | quoted
  /-- Behind a quote that ends the item, or is the first of two. -/
  | quote
deriving DecidableEq, Repr

/-- Split from a place inside an item; `item` holds its characters so far, backwards. -/
def splitFrom : Place → List Char → List Char → Except SplitError (List String)
  | .quoted, _, [] => .error .unterminatedQuote
  | _, item, [] => .ok [String.ofList item.reverse]
  | .start, item, c :: rest =>
    if c = '"' then splitFrom .quoted item rest
    else if c = ',' then (splitFrom .start [] rest).map (String.ofList item.reverse :: ·)
    else if c = '\n' ∨ c = '\r' then .error .lineBreak
    else splitFrom .bare (c :: item) rest
  | .bare, item, c :: rest =>
    if c = '"' then .error .bareQuote
    else if c = ',' then (splitFrom .start [] rest).map (String.ofList item.reverse :: ·)
    else if c = '\n' ∨ c = '\r' then .error .lineBreak
    else splitFrom .bare (c :: item) rest
  | .quoted, item, c :: rest =>
    if c = '"' then splitFrom .quote item rest else splitFrom .quoted (c :: item) rest
  | .quote, item, c :: rest =>
    if c = '"' then splitFrom .quoted ('"' :: item) rest
    else if c = ',' then (splitFrom .start [] rest).map (String.ofList item.reverse :: ·)
    else .error .afterQuote

/-- The items of a specification. -/
def splitItems (spec : String) : Except SplitError (List String) :=
  splitFrom .start [] spec.toList

/-- The item that stands for the defaults. -/
def all : String := "*"

/-- The name in an item and whether it enables: one leading `-` is taken off. -/
def parseItem (item : String) : String × Bool :=
  match item.toList with
  | '-' :: name => (String.ofList name, false)
  | _ => (item, true)

/-- The item that disables a name. -/
def disable (name : String) : String :=
  "-" ++ name

end Switches

/-- Why a specification cannot be applied. -/
inductive SwitchesError where
  | unknownItem (name : String)
  | malformed (spec : String) (reason : SplitError)
  | disabledDefaults (spec : String)
deriving DecidableEq, Repr

/-- The wording of a switches error. -/
def SwitchesError.message : SwitchesError → String
  | .unknownItem name => "unknown item: " ++ name
  | .malformed spec reason =>
    "malformed switches " ++ Text.quoted spec ++ ": " ++ reason.message
  | .disabledDefaults spec =>
    "malformed switches " ++ Text.quoted spec ++ ": the defaults cannot be disabled"

/-- Toggles: whether each known name is on by default, and what the last specification set. -/
structure Switches where
  defaults : SortedMap String Bool
  settings : SortedMap String Bool
deriving DecidableEq

namespace Switches

/-- Toggles over the given items, where an item `-name` is off by default.  Nothing is enabled
before the first specification. -/
def ofItems (items : List String) : Switches :=
  ⟨SortedMap.ofList (items.map parseItem), .empty⟩

/-- What is wrong with an item, if anything. -/
def itemError? (switches : Switches) (spec item : String) : Option SwitchesError :=
  let name := (parseItem item).1
  if name = all then if item = all then none else some (.disabledDefaults spec)
  else if switches.defaults.contains name then none
  else some (.unknownItem name)

/-- The settings that valid items describe. -/
def settingsOf (switches : Switches) (items : List String) : SortedMap String Bool :=
  let start := if all ∈ items then switches.defaults else .empty
  (items.filter (· ≠ all)).foldl
    (fun settings item => settings.insert (parseItem item).1 (parseItem item).2) start

/-- Apply a specification.  The empty one changes nothing. -/
def set (switches : Switches) (spec : String) : Except SwitchesError Switches :=
  if spec.isEmpty then .ok switches
  else
    match splitItems spec with
    | .error reason => .error (.malformed spec reason)
    | .ok items =>
      match items.findSome? (switches.itemError? spec) with
      | some error => .error error
      | none => .ok { switches with settings := switches.settingsOf items }

/-- Apply a specification to the switches at hand. -/
def apply (spec : String) : Attempt SwitchesError Switches Unit := do
  MonadState.set (← Attempt.ofExcept ((← MonadState.get).set spec))

/-- The switches after specifications are tried one after another. -/
def run (switches : Switches) (specs : List String) : Switches :=
  specs.foldl (fun switches spec => ((apply spec).on switches).2) switches

/-- Whether a name is on. -/
def enabled (switches : Switches) (name : String) : Bool :=
  (switches.settings.get? name).getD false

/-- The names in a map that have a value. -/
def namesWith (value : Bool) (map : SortedMap String Bool) : List String :=
  (map.filter fun _ other => other == value).keys

/-- All known names. -/
def names (switches : Switches) : List String :=
  switches.defaults.keys

/-- The names that are on. -/
def active (switches : Switches) : List String :=
  namesWith true switches.settings

/-- The names that are on by default. -/
def enabledByDefault (switches : Switches) : List String :=
  namesWith true switches.defaults

/-- The names that are off by default. -/
def disabledByDefault (switches : Switches) : List String :=
  namesWith false switches.defaults

/-- The text of the toggles: every known name in order, with a `-` in front of those that are
off. -/
def text (switches : Switches) : String :=
  ",".intercalate
    (switches.names.map fun name => if switches.enabled name then name else disable name)

end Switches

end Reconciler
