import Reconciler.Json.Lenient
import Reconciler.Machine.Basic
import Reconciler.Text.Digit
/-!
Files and replies of scripted programs from settings.
-/
namespace Reconciler

/-- The file or the link with settings; the mode of a file is octal. -/
def Entry.ofJson (json : Json) : Entry :=
  match json.text? "link" with
  | some target => .link target
  | none =>
    let mode := (json.text? "mode").bind fun digits => Text.number? 8 digits.toList
    .file (Text.Utf8.encode (json.text "text")) (mode.getD 0o644)

/-- The reply with settings. -/
def Reply.ofJson (json : Json) : Reply :=
  { arguments := json.text "args"
    lists := json.flag "ls"
    stdout := json.text "stdout"
    stderr := json.text "stderr"
    status := ((json.nat? "code").getD 0) % 256 }

/-- Put the entries of an object below a place, each at the path that its name is. -/
def Machine.putAll (machine : Machine) (place : Place) (entry : Json → Option Entry) :
    Json → Machine
  | .obj fields => fields.foldl (fun machine (path, value) =>
      match entry value with
      | some found => machine.put (place ++ Path.names path) found
      | none => machine) machine
  | _ => machine

end Reconciler
