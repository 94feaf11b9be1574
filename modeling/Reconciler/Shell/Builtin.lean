import Reconciler.Shell.State
/-!
The commands that change the state of the shell and run no other command.
-/
namespace Reconciler.Shell

/-- The signals by their names. -/
def signals : List (String × Nat) :=
  [("HUP", 1), ("INT", 2), ("QUIT", 3), ("ILL", 4), ("TRAP", 5), ("ABRT", 6), ("BUS", 7),
    ("FPE", 8), ("KILL", 9), ("USR1", 10), ("SEGV", 11), ("USR2", 12), ("PIPE", 13), ("ALRM", 14),
    ("TERM", 15), ("CHLD", 17), ("CONT", 18), ("URG", 23), ("XCPU", 24), ("XFSZ", 25),
    ("VTALRM", 26), ("PROF", 27), ("WINCH", 28), ("IO", 29), ("PWR", 30), ("SYS", 31)]

/-- The signals that end no process. -/
def harmless : List Nat :=
  [0, 17, 18, 23, 28]

/-- The number of a signal that is written as a number or as a name. -/
def signal? (text : String) : Option Nat :=
  text.toNat?.or ((signals.find? (·.1 = text)).map (·.2))

/-- What a shell says about a program that a signal ended. -/
def epitaph (signal : Nat) : String :=
  match signal with
  | 1 => "Hangup\n"
  | 3 => "Quit\n"
  | 6 => "Aborted\n"
  | 9 => "Killed\n"
  | 11 => "Segmentation fault\n"
  | 14 => "Alarm clock\n"
  | 15 => "Terminated\n"
  | _ => ""

namespace State

/-- The status that an argument writes. -/
def withNumber (state : State) (command : String) (arguments : List String)
    (go : Nat → State) : State :=
  match arguments with
  | [] => go state.status
  | text :: _ =>
    match text.toNat? with
    | some number => go (number % 256)
    | none => state.abort (command ++ ": Illegal number: " ++ text)

/-- Leave loops, as far as there are any. -/
def leaveLoops (state : State) (command : String) (goingOn : Bool) (arguments : List String) :
    State :=
  let text := arguments.headD "1"
  match text.toNat? with
  | some (count + 1) =>
    { state with
      status := 0
      leaving := if state.loops = 0 then none
        else some (.loops (min (count + 1) state.loops) goingOn) }
  | _ => state.abort (command ++ ": Illegal number: " ++ text)

/-- Send a signal to a process. -/
def kill (state : State) (arguments : List String) : State :=
  let (signal, processes) := match arguments with
    | "-s" :: name :: rest => (signal? name, rest)
    | first :: rest =>
      if first.startsWith "-" then (signal? (first.drop 1).toString, rest) else (some 15, arguments)
    | [] => (some 15, [])
  match signal with
  | none =>
    match arguments with
    | "-s" :: name :: _ => state.complain ("kill: invalid signal number or name: " ++ name) 2
    | _ =>
      let letter := String.ofList (((arguments.headD "").toList.drop 1).take 1)
      state.complain ("kill: Illegal option -" ++ letter) 2
  | some signal =>
    if processes.isEmpty then
      state.complain ("kill: Usage: kill [-s sigspec | -signum | -sigspec] [pid | job]... or\n" ++
        "kill -l [exitstatus]") 2
    else if processes.contains process then
      if harmless.contains signal then { state with status := 0 }
      else { state with leaving := some (.killed signal) }
    else
      match processes.find? fun text => text.toInt?.isNone with
      | some text => state.complain ("kill: Illegal number: " ++ text) 2
      | none => state.complain "kill: No such process" 1

/-- Go to another directory. -/
def changeDirectory (state : State) (arguments : List String) : State :=
  let path := arguments.headD ""
  if path.isEmpty then { state with status := 0 }
  else
    match state.machine.files.find state.directory path with
    | .ok (place, .directory) => { state with directory := place, status := 0 }
    | _ => state.complain ("cd: can't cd to " ++ path) 2

/-- Set parameters and options. -/
def setOptions (state : State) : List String → State
  | [] => { state with status := 0 }
  | "--" :: rest => { state with arguments := rest, status := 0 }
  | first :: rest =>
    let on := first.startsWith "-"
    if (on || first.startsWith "+") && first.length ≥ 2 then
      let letters := (first.drop 1).toString
      match letters.toList.find? fun c => !"euxfvnabmC".contains c with
      | some c =>
        if c = 'o' then state.abort ("set: Illegal option -o " ++ rest.headD "")
        else state.abort ("set: Illegal option -" ++ c.toString)
      | none =>
        setOptions { state with
          strict := if letters.contains 'e' then on else state.strict
          wary := if letters.contains 'u' then on else state.wary } rest
    else { state with arguments := first :: rest, status := 0 }

/-- The text in front of the first equality sign, and the text behind it. -/
def splitSetting (text : String) : String × Option String :=
  let name := text.toList.takeWhile (· ≠ '=')
  let value := String.ofList (text.toList.drop (name.length + 1))
  (String.ofList name, if name.length = text.length then none else some value)

/-- Let other programs see parameters. -/
def exportAll (state : State) (arguments : List String) : State :=
  arguments.foldl (fun state argument =>
    let (name, value?) := splitSetting argument
    let state := { state with exported := name :: state.exported, status := 0 }
    value?.elim state (state.bind name)) { state with status := 0 }

/-- Read a line and set parameters to its fields; the last one takes the rest of the line. -/
def readLine (state : State) (arguments : List String) : State :=
  let names := arguments.filter fun argument => !argument.startsWith "-"
  match linesOf state.input.all with
  | [] => names.foldl (fun state name => state.bind name "") { state with status := 1 }
  | line :: rest =>
    let ended := line.getLast? = some 10
    let text := Text.Utf8.decodeLossy (if ended then line.dropLast else line)
    let state := { state with input := .octets rest.flatten, status := if ended then 0 else 1 }
    assign names (text.toList.dropWhile Mark.isGap) state
where
  /-- Set parameters to the fields of a text. -/
  assign : List String → List Char → State → State
    | [], _, state => state
    | [last], text, state =>
      state.bind last (String.ofList ((text.reverse.dropWhile Mark.isGap).reverse))
    | name :: names, text, state =>
      let field := text.takeWhile fun c => !Mark.isGap c
      assign names ((text.drop field.length).dropWhile Mark.isGap)
        (state.bind name (String.ofList field))

/-- A command that changes only the state of the shell. -/
def builtin? (state : State) (name : String) (arguments : List String) : Option State :=
  match name with
  | "exit" => some (state.withNumber name arguments fun status =>
      { state with status, leaving := some .shell })
  | "return" => some (state.withNumber name arguments fun status =>
      { state with status, leaving := some .function })
  | "break" => some (state.leaveLoops name false arguments)
  | "continue" => some (state.leaveLoops name true arguments)
  | "shift" =>
    let count := ((arguments.headD "1").toNat?).getD 1
    if state.arguments.length < count then some (state.abort "shift: can't shift that many")
    else some { state with arguments := state.arguments.drop count, status := 0 }
  | "set" => some (state.setOptions arguments)
  | "unset" =>
    some { state with
      bindings := state.bindings.filter fun binding => !arguments.contains binding.1
      functions := state.functions.filter fun function => !arguments.contains function.1
      status := 0 }
  | "export" | "readonly" | "local" => some (state.exportAll arguments)
  | "cd" => some (state.changeDirectory arguments)
  | "kill" => some (state.kill arguments)
  | "read" => some (state.readLine arguments)
  | "trap" =>
    match arguments with
    | [script, condition] =>
      some (if condition = "EXIT" || condition = "0" then
          { state with farewell := if script = "-" then none else some script, status := 0 }
        else { state with status := 0 })
    | _ => some { state with status := 0 }
  | "wait" | "umask" | "alias" | "hash" | "ulimit" => some { state with status := 0 }
  | _ => none

/-- The commands whose failures end the shell. -/
def special : List String :=
  [":", ".", "eval", "exec", "exit", "export", "readonly", "return", "set", "shift", "trap",
    "unset", "break", "continue"]

end State

end Reconciler.Shell
