import Reconciler.Shell.Builtin
/-!
Running shell scripts.  Every step takes fuel, so that a script that would run forever stops.
-/
namespace Reconciler.Shell

/-- Run an action in a shell of its own. -/
def Action.apart (action : Action Unit) : Action Unit := do
  let parent ← get
  set (parent.afterChild (action.run { parent with farewell := none }).2)

/-- Run an action whose output becomes a text. -/
def Action.piping (action : Action Unit) : Action Input := do
  let before ← get
  set { before with output := .pipe, piped := .octets [] }
  action
  let after ← get
  set { after with output := before.output, piped := before.piped }
  return after.piped

/-- Run an action while the status of its commands is tested. -/
def Action.testing (action : Action Unit) : Action Unit := do
  let before ← get
  set { before with tested := true }
  action
  modify fun state => { state with tested := before.tested }

/-- Run a utility. -/
def runUtility (isBuiltin : Bool) (name : String) (arguments : List String) : Action Unit := do
  let state ← get
  let run := if isBuiltin then Utility.run else Utility.runProgram
  let written := run state.machine state.directory name arguments state.input
  let files := written.files.getD state.machine.files
  let state := { state with
    machine := { state.machine with files }
    input := if Utility.reads name arguments then .octets [] else state.input }
  let origin := if isBuiltin then state.name ++ ": " ++ toString state.line ++ ": " else ""
  let state := match written.stdout, state.output with
    | .endless line, .pipe => { state with piped := .endless line }
    | stdout, sink => state.send sink stdout.all
  let state :=
    if written.stderr.isEmpty then state
    else state.send state.complaints (Text.Utf8.encode (origin ++ written.stderr))
  set { state with status := written.status }

/-- Start a shell's work in a state: the settings of a call. -/
def State.begin (state : State) : List String → State × Option String
  | [] => (state, none)
  | first :: rest =>
    if first.startsWith "-" && first.length ≥ 2 then
      let state := { state with strict := state.strict || first.contains 'e' }
      if first.contains 'c' then
        match rest with
        | [] => (({ state with line := 0 }).abort "-c requires an argument", none)
        | script :: rest =>
          ({ state with name := rest.headD state.name, arguments := rest.drop 1 }, some script)
      else begin state rest
    else
      match state.machine.files.read state.directory first with
      | .ok octets =>
        ({ state with name := first, arguments := rest }, some (Text.Utf8.decodeLossy octets))
      | .error error =>
        (({ state with line := 0 }).abort
          ("cannot open " ++ first ++ ": " ++ State.refusal error false), none)

/-- Run a loop, whose status is zero if its body is never run. -/
def Action.looping (action : Action Unit) : Action Unit := do
  modify fun state => { state with status := 0, loops := state.loops + 1 }
  action
  modify fun state => { state with loops := state.loops - 1 }

/-- Whether a loop goes on after its body was run. -/
def Action.goesOn : Action Bool := do
  let state ← get
  match state.leaving with
  | none => return true
  | some (.loops count goingOn) =>
    if count ≤ 1 then
      set { state with leaving := none }
      return goingOn
    else
      set { state with leaving := some (.loops (count - 1) goingOn) }
      return false
  | some _ => return false

mutual

/-- The marks of a piece of a word. -/
def expandPiece : Nat → Piece → Action (List Mark)
  | 0, _ => return []
  | fuel + 1, piece => do
    let state ← get
    match piece with
    | .char c quoted => return [.glyph ⟨c, quoted⟩]
    | .quotes => return [.field]
    | .output script quoted => do
      let before ← get
      let written ← Action.piping (Action.apart (runText fuel script))
      let octets := ((written.all.filter (· ≠ 0)).reverse.dropWhile (· = 10)).reverse
      modify fun state => { state with wordStatus := some state.status, status := before.status }
      return Mark.ofText quoted (Text.Utf8.decodeLossy octets)
    | .number expression quoted => expandNumber fuel quoted expression
    | .parameter name .length quoted =>
      return Mark.ofText quoted (toString ((state.parameter? name).getD "").length)
    | .parameter name (.operator operator text) quoted =>
      expandOperator fuel quoted name operator text
    | .parameter "@" .value quoted =>
      let mark (argument : String) : List Mark :=
        if quoted then .field :: Mark.ofText true argument else Mark.ofText false argument
      return [Mark.gap].intercalate (state.arguments.map mark)
    | .parameter name .value quoted =>
      match state.parameter? name with
      | some value => return Mark.ofText quoted value
      | none =>
        if name.isEmpty then set (state.abort "Bad substitution")
        else if state.wary && name ≠ "*" then set (state.abort (name ++ ": parameter not set"))
        return []

/-- The marks of the value of an expression. -/
def expandNumber : Nat → Bool → String → Action (List Mark)
  | 0, _, _ => return []
  | fuel + 1, quoted, expression => do
    let text := (Mark.pattern (← expandText fuel true expression)).text
    let state ← get
    let valueOf (name : String) : String := (state.parameter? name).getD ""
    let (name?, source) := match Arithmetic.setting? text with
      | some (name, source) => (some name, source)
      | none => (none, text)
    let failing (problem : String) : Action (List Mark) := do
      set (state.abort problem)
      return []
    match Arithmetic.evaluate valueOf source with
    | .ok value => do
      set (name?.elim state fun name => state.bind name (toString value))
      return Mark.ofText quoted (toString value)
    | .error .noOperand =>
      failing ("arithmetic expression: expecting primary: \"" ++ text ++ "\"")
    | .error .moreText => failing ("arithmetic expression: expecting EOF: \"" ++ text ++ "\"")
    | .error .zeroDivisor => failing ("arithmetic expression: division by zero: \"" ++ text ++ "\"")
    | .error (.noNumber word) => failing ("Illegal number: " ++ word)

/-- The marks of what an operator makes of a parameter. -/
def expandOperator : Nat → Bool → String → String → String → Action (List Mark)
  | 0, _, _, _, _ => return []
  | fuel + 1, quoted, name, operator, text => do
    let state ← get
    let value? := state.parameter? name
    let isMissing := if operator.startsWith ":" then value?.getD "" = "" else value?.isNone
    let value := Mark.ofText quoted (value?.getD "")
    if operator.endsWith "-" then
      if isMissing then expandText fuel quoted text else return value
    else if operator.endsWith "+" then
      if isMissing then return [] else expandText fuel quoted text
    else if operator.endsWith "=" then
      if isMissing then do
        let found := (Mark.pattern (← expandText fuel quoted text)).text
        modify fun state => state.bind name found
        return Mark.ofText quoted found
      else return value
    else if operator.endsWith "?" then
      if isMissing then do
        let found := (Mark.pattern (← expandText fuel quoted text)).text
        let reason := if found.isEmpty then
            if operator.startsWith ":" then "parameter not set or null" else "parameter not set"
          else found
        modify fun state => state.abort (name ++ ": " ++ reason)
        return []
      else return value
    else do
      let pattern := Mark.pattern (← expandText fuel false text)
      let trim := if operator.startsWith "#" then pattern.trimStart else pattern.trimEnd
      return Mark.ofText quoted (trim (operator.length = 2) (value?.getD ""))

/-- The marks of a text as a word. -/
def expandText : Nat → Bool → String → Action (List Mark)
  | 0, _, _ => return []
  | fuel + 1, quoted, text =>
    match Word.ofText quoted text.toList with
    | .ok word => expandPieces fuel word
    | .error problem => do
      modify fun state => state.abort problem.message
      return []

/-- The marks of pieces. -/
def expandPieces : Nat → List Piece → Action (List Mark)
  | 0, _ | _, [] => return []
  | fuel + 1, piece :: rest => do
    let found ← expandPiece fuel piece
    return found ++ (← expandPieces fuel rest)

/-- The fields of words. -/
def expandWords : Nat → List Word → Action (List String)
  | 0, _ | _, [] => return []
  | fuel + 1, word :: rest => do
    let marks ← expandPieces fuel word
    let state ← get
    let found := (Mark.fields none marks).flatMap state.pathsOf
    return found ++ (← expandWords fuel rest)

/-- The text that a word stands for, which is not split. -/
def expandWhole : Nat → Word → Action String
  | 0, _ => return ""
  | fuel + 1, word => do return (Mark.pattern (← expandPieces fuel word)).text

/-- Redirect streams; whether that was possible. -/
def redirect : Nat → List Redirection → Action Bool
  | 0, _ | _, [] => return true
  | fuel + 1, redirection :: rest => do
    let target ← expandWhole fuel <| match redirection with
      | .write _ path _ => path
      | .read path => path
      | .duplicate _ other => other
      | .document text => text
    let state ← get
    let changed : Except String State := match redirection with
      | .write stream _ append => do
        let (sink, state) ← state.openFile target append
        return state.setSink stream sink
      | .read _ => state.openInput target
      | .duplicate stream _ => state.duplicate stream target
      | .document _ => .ok { state with input := .octets (Text.Utf8.encode target) }
    match changed with
    | .ok state => do
      set state
      redirect fuel rest
    | .error problem => do
      set (state.complain problem 2)
      return false

/-- Set parameters to the texts of words. -/
def assignAll : Nat → List (String × Word) → Action Unit
  | 0, _ | _, [] => return ()
  | fuel + 1, (name, word) :: rest => do
    let value ← expandWhole fuel word
    modify fun state => state.bind name value
    assignAll fuel rest

/-- Start a program; `origin` stands before complaints about it. -/
def runProgram : Nat → String → String → List String → Action Unit
  | 0, _, _, _ => return ()
  | fuel + 1, origin, name, arguments => do
    let state ← get
    let found := if name.contains '/' then
        (state.machine.files.find state.directory name).toOption.map (·.2)
      else state.machine.files.get? ["bin", name]
    match found with
    | some (.program (.utility utility)) => runUtility false utility arguments
    | some (.program .shell) =>
      let child := { state with
        name, arguments := [], functions := [], line := 1, strict := false, wary := false,
        tested := false, farewell := none,
        bindings := state.bindings.filter fun binding => state.exported.contains binding.1 }
      let child := (runShell fuel arguments child).2
      let after := { state.afterChild child with leaving := none }
      match child.leaving with
      | some (.killed signal) =>
        set { after.send .stderr (Text.Utf8.encode (epitaph signal)) with status := 128 + signal }
      | _ => set after
    | some (.program (.scripted replies)) =>
      let (outcome, machine) := state.machine.callScripted replies state.directory arguments
      let state := { state with machine }.send state.output outcome.stdout
      set { state.send state.complaints outcome.stderr with status := outcome.status.getD 0 }
    | some _ => set (state.complain (origin ++ name ++ ": Permission denied") 126)
    | none => set (state.complain (origin ++ name ++ ": not found") 127)

/-- Run a command with arguments. -/
def runNamed : Nat → String → List String → Action Unit
  | 0, _, _ => return ()
  | fuel + 1, name, arguments => do
    let state ← get
    match state.functions.find? (·.1 = name), state.builtin? name arguments with
    | some (_, body), _ => do
      set { state with arguments }
      runCommand fuel body
      modify fun after => { after with
        arguments := state.arguments
        leaving := if after.leaving = some .function then none else after.leaving }
    | none, some after => set after
    | none, none =>
      match name, arguments with
      | "eval", _ => do
        set { state with status := 0 }
        runText fuel (" ".intercalate arguments)
      | "exec", [] => set { state with status := 0 }
      | "exec", name :: arguments => do
        runProgram fuel "exec: " name arguments
        modify fun state => { state with leaving := some .shell }
      | ".", path :: _ =>
        match state.machine.files.read state.directory path with
        | .ok octets => runText fuel (Text.Utf8.decodeLossy octets)
        | .error error =>
          set (state.abort (".: cannot open " ++ path ++ ": " ++ State.refusal error false))
      | "command", "-v" :: name :: _ =>
        let shown := if (state.builtin? name []).isSome || Utility.builtins.contains name then name
          else if (state.machine.files.get? ["bin", name]).isSome then "/usr/bin/" ++ name
          else ""
        if shown.isEmpty then set { state with status := 127 }
        else
          set { state.send state.output (Text.Utf8.encode (shown ++ "\n")) with status := 0 }
      | "command", name :: arguments => runNamed fuel name arguments
      | _, _ =>
        if Utility.builtins.contains name then runUtility true name arguments
        else runProgram fuel "" name arguments

/-- Run a simple command. -/
def runSimple : Nat → Simple → Action Unit
  | 0, _ => return ()
  | fuel + 1, command => do
    modify fun state => { state with line := command.line, wordStatus := none }
    let words ← expandWords fuel command.words
    let before ← get
    if before.leaving.isSome then return ()
    let opened ← redirect fuel command.redirections
    match words with
    | [] =>
      if opened then
        assignAll fuel command.assignments
        modify fun state => { state with status := state.wordStatus.getD 0 }
      modify fun state => state.withStreams before
    | name :: arguments =>
      if opened then
        let bound ← get
        assignAll fuel command.assignments
        if (← get).leaving.isNone then
          modify fun state => { state with
            exported := command.assignments.map (·.1) ++ state.exported }
          runNamed fuel name arguments
          if !State.special.contains name && !command.assignments.isEmpty then
            modify fun state =>
              { state with bindings := bound.bindings, exported := bound.exported }
      else if State.special.contains name then
        modify fun state => { state with leaving := some .shell }
      if !(name = "exec" && arguments.isEmpty) then
        modify fun state => state.withStreams { before with
          input := if command.redirections.isEmpty then state.input else before.input }

/-- Run a command. -/
def runCommand : Nat → Command → Action Unit
  | 0, _ => return ()
  | fuel + 1, command => do
    match command with
    | .simple simple => runSimple fuel simple
    | .group body => runList fuel body
    | .subshell body => Action.apart (runList fuel body)
    | .branch clauses otherwise => runBranch fuel clauses otherwise
    | .loop wanted condition body =>
      Action.looping (runLoop fuel wanted 0 condition body)
    | .each name words body => do
      let values ← match words with
        | some words => expandWords fuel words
        | none => pure (← get).arguments
      Action.looping (runEach fuel name values body)
    | .choice word cases => do
      let text ← expandWhole fuel word
      modify fun state => { state with status := 0 }
      runChoice fuel text cases
    | .function name body =>
      modify fun state => { state with
        functions := (name, body) :: state.functions.filter (·.1 ≠ name), status := 0 }
    | .redirected body redirections => do
      let before ← get
      if ← redirect fuel redirections then runCommand fuel body
      modify fun state => state.withStreams before

/-- Run what is under the first condition that holds. -/
def runBranch : Nat → List (List Pipeline × List Pipeline) → List Pipeline → Action Unit
  | 0, _, _ => return ()
  | fuel + 1, [], otherwise => do
    modify fun state => { state with status := 0 }
    runList fuel otherwise
  | fuel + 1, (condition, body) :: rest, otherwise => do
    Action.testing (runList fuel condition)
    let state ← get
    if state.leaving.isSome then return ()
    else if state.status = 0 then runList fuel body
    else runBranch fuel rest otherwise

/-- Run a body as long as a condition is met; `status` is what the body left before. -/
def runLoop : Nat → Bool → Nat → List Pipeline → List Pipeline → Action Unit
  | 0, _, _, _, _ => return ()
  | fuel + 1, wanted, status, condition, body => do
    Action.testing (runList fuel condition)
    let state ← get
    if state.leaving.isSome then return ()
    else if (state.status = 0) ≠ wanted then set { state with status }
    else
      runList fuel body
      if ← Action.goesOn then
        let state ← get
        runLoop fuel wanted state.status condition body

/-- Run a body for every value. -/
def runEach : Nat → String → List String → List Pipeline → Action Unit
  | 0, _, _, _ | _, _, [], _ => return ()
  | fuel + 1, name, value :: rest, body => do
    modify fun state => state.bind name value
    runList fuel body
    if ← Action.goesOn then runEach fuel name rest body

/-- Run the body of the first case with a pattern that fits a text. -/
def runChoice : Nat → String → List (List Word × List Pipeline) → Action Unit
  | 0, _, _ | _, _, [] => return ()
  | fuel + 1, text, (patterns, body) :: rest => do
    if ← fitsAny fuel text patterns then runList fuel body
    else runChoice fuel text rest

/-- Whether one of some patterns fits a text. -/
def fitsAny : Nat → String → List Word → Action Bool
  | 0, _, _ | _, _, [] => return false
  | fuel + 1, text, word :: rest => do
    let pattern := Mark.pattern (← expandPieces fuel word)
    if pattern.fits text then return true
    else fitsAny fuel text rest

/-- Run commands each of which reads what the one before it writes. -/
def runPipe : Nat → List Command → Action Unit
  | 0, _ | _, [] => return ()
  | fuel + 1, [last] => Action.apart (runCommand fuel last)
  | fuel + 1, command :: rest => do
    let written ← Action.piping (Action.apart (runCommand fuel command))
    modify fun state => { state with input := written }
    runPipe fuel rest

/-- Run pipelines, each if it is its turn. -/
def runList : Nat → List Pipeline → Action Unit
  | 0, _ | _, [] => return ()
  | fuel + 1, .mk joint negated commands :: rest => do
    let state ← get
    if state.leaving.isSome then return ()
    let isDue := match joint with
      | .always => true
      | .afterSuccess => state.status = 0
      | .afterFailure => state.status ≠ 0
    let isTested := negated || match rest with
      | .mk joint _ _ :: _ => joint ≠ .always
      | [] => false
    if isDue then
      let run := match commands with
        | [command] => runCommand fuel command
        | commands => runPipe fuel commands
      if isTested then Action.testing run else run
      let after ← get
      let status := if !negated then after.status else if after.status = 0 then 1 else 0
      let input := if commands.length ≤ 1 then after.input else state.input
      let leaving :=
        if after.leaving.isNone && after.strict && !after.tested && !isTested && status ≠ 0 then
          some .shell
        else after.leaving
      set { after with status, input, leaving }
    runList fuel rest

/-- Run a text as a script. -/
def runText : Nat → String → Action Unit
  | 0, _ => return ()
  | fuel + 1, text => do
    let script := Script.ofText text
    runList fuel script.pipelines
    let state ← get
    match script.problem with
    | some (problem, line) =>
      if state.leaving.isNone then set ({ state with line }.abort problem.message)
    | none => return ()

/-- Call the shell. -/
def runShell : Nat → List String → Action Unit
  | 0, _ => return ()
  | fuel + 1, arguments => do
    let (state, script?) := (← get).begin arguments
    set state
    match script? with
    | none => return ()
    | some script => do
      runText fuel script
      let state ← get
      match state.farewell, state.leaving with
      | none, _ | _, some (.killed _) => return ()
      | some farewell, _ => do
        set { state with leaving := none, farewell := none }
        runText fuel farewell
        if (← get).leaving.isNone then modify fun after => { after with status := state.status }

end

/-- How many steps may lie within one another. -/
def depth : Nat := 10000

/-- Call the shell by a name: what it leaves, and the machine afterwards. -/
def call (machine : Machine) (directory : Place) (name : String) (arguments : List String) :
    Outcome × Machine :=
  let state := ((runShell depth arguments).run { machine, directory, name }).2
  ({ stdout := state.stdout
     stderr := state.stderr
     status := match state.leaving with
       | some (.killed _) => none
       | _ => some state.status }, state.machine)

end Reconciler.Shell
