import LayoutCheck.Host.Script
import LayoutCheck.Host.Shell.Commands
import LayoutCheck.Host.Shell.State
import LayoutCheck.Host.Shell.Variables

/-! # The shell

Runs scripts on a file tree. A script that has not ended when its budget of steps is used up counts
as one that does not end. -/

namespace LayoutCheck

def Flow.isEndless : Flow → Bool
  | .endless | .exhausted | .flood _ => true
  | _ => false

namespace Run

def startFailure (e : Errno) : Octets × Nat :=
  if e = .noEntry ∨ e = .notDirectory then ("not found".toList, 127) else (e.description, 126)

/-- Runs something in a copy of the shell. Leaving the copy in any ordinary way ends it; a
signal or an endless wait goes on to the parent. -/
def inCopy (act : Run Unit) : Run Unit := fun parent =>
  match nested act parent.copy with
  | .ok () child => .ok () (parent.adopt child)
  | .error (.killed n) child => .error (.killed n) (parent.adopt child)
  | .error f child =>
    if f.isEndless then .error f (parent.adopt child) else .ok () (parent.adopt child)

def asProcess (act : Run Unit) : Run Unit := fun parent =>
  let child :=
    { parent.copy with pid := parent.nextPid, nextPid := parent.nextPid + 1, outerTraps := none }
  match nested act child with
  | .ok () child => .ok () (parent.adopt child)
  | .error (.killed n) child => .ok () (noticeSignal n (parent.adopt child))
  | .error f child =>
    if f.isEndless then .error f (parent.adopt child) else .ok () (parent.adopt child)

def caught (act : Run Unit) : Run Content := fun before =>
  let depth := before.depth + 1
  let pipe := Sink.pipe depth
  let inside := { before.openOutput 1 (some pipe) with depth := depth, written := [] }
  let text (s : Shell) : Octets :=
    (Written.inOrder (s.written.filter (·.sink == pipe))).flatMap (·.text)
  let outside (s : Shell) : Shell :=
    { s with
      sinks := before.sinks, inputs := before.inputs, depth := before.depth
      written := s.written.filter (·.sink != pipe) ++ before.written }
  match act inside with
  | .ok () s => .ok (.finite (text s)) (outside s)
  | .error (.flood t) s => .ok (.endless t) (outside s)
  | .error .exhausted s =>
    if text s = [] then .error .exhausted (outside s) else .ok (.endless (text s)) (outside s)
  | .error f s => .error f (outside s)

def forgiving (act : Run Unit) : Run Unit := do
  try act
  catch
    | .mistake => return ()
    | f => throw f

def round (act : Run Bool) : Run Bool := do
  try act
  catch
    | .breakOut 0 => return false
    | .breakOut (n + 1) => throw (.breakOut n)
    | .goOn 0 => return true
    | .goOn (n + 1) => throw (.goOn n)
    | f => throw f

def inLoop (act : Run Unit) : Run Unit :=
  within (fun s => { s with loops := s.loops + 1 }) (fun s s' => { s' with loops := s.loops }) act

/-- Runs the body of a function: its arguments are the parameters, and what it has declared
to be local comes back. -/
def inFunction (args : List Octets) (body : Run Unit) : Run Unit := do
  let enter (s : Shell) : Shell :=
    { s with args := args, locals := [] :: s.locals, loops := 0, optionPlace := 0 }
  let leave (s s' : Shell) : Shell :=
    let s' := (s'.locals.headD []).foldl (fun t (n, v) => t.putBack n v) s'
    { s' with args := s.args, locals := s.locals, loops := s.loops, optionPlace := s.optionPlace }
  nested <| within enter leave do
    try body
    catch
      | .leave => return ()
      | f => throw f

inductive Task where
  | text (script name : Octets) (args : List Octets)
  | file (path : Octets) (args : List Octets)
  | input (args : List Octets)

def readTask (called : Octets) (args : List Octets) : Run Task := do
  let g ← readSettings true (args.length + 1) ⟨args, false, false⟩
  match g.scripted, g.rest with
  | true, [] => mistake "-c requires an argument".toList
  | true, [script] => return .text script called []
  | true, script :: name :: args => return .text script name args
  | false, [] => return .input []
  | false, path :: args =>
    if (← get).hasOption 's' then return .input (path :: args) else return .file path args

def expandTilde (s : Shell) : List Piece → List Piece
  | .bare ('~' :: r) :: ps =>
    if r.head? = some '/' ∨ (r = [] ∧ ps.isEmpty) then
      match s.vars.lookup "HOME".toList with
      | some home => .fixed home :: .bare r :: ps
      | none => .bare ('~' :: r) :: ps
    else .bare ('~' :: r) :: ps
  | ps => ps

def calculate (t : Octets) : Run Int := do
  let s ← get
  match Arithmetic.evaluate (fun name => (s.vars.lookup name).getD []) t with
  | .ok (n, assigned) => do
    assigned.forM fun (name, n) => assign name (Text.ofInt n)
    return n
  | .error (.mistake words) =>
    mistake ("arithmetic expression: ".toList ++ words.toList ++ ": \x22".toList ++ t ++ ['\x22'])
  | .error (.noNumber t) => mistake ("Illegal number: ".toList ++ t)

def trace (sink : Option Sink) (assigned : List (Octets × Octets)) (words : List Octets) :
    Run Unit := do
  let s ← get
  if s.hasOption 'x' then
    let shown := assigned.map (fun (n, v) => n ++ '=' :: v) ++ words
    if let some k := sink then
      let lead := (s.vars.lookup "PS4".toList).getD []
      set (s.writeTo k (lead ++ Text.joinWith [' '] shown ++ ['\n']))

mutual

def expand : Nat → List Piece → Run (List Glyph)
  | 0, _ => throw .exhausted
  | _ + 1, [] => return []
  | fuel + 1, p :: ps => do
    let first ← expandPiece fuel p
    return first ++ (← expand fuel ps)

def expandText : Nat → List Piece → Run Octets
  | 0, _ => throw .exhausted
  | fuel + 1, ps => do
    let gs ← expand fuel (expandTilde (← get) ps)
    return Glyph.joined (← get).joint gs

def expandPiece : Nat → Piece → Run (List Glyph)
  | 0, _ => throw .exhausted
  | fuel + 1, p => do
    match p with
    | .bare t => return Glyph.ofBare t
    | .fixed t => return Glyph.ofQuoted t
    | .output quoted body =>
      match ← caught (inCopy (runToEnd fuel (runList fuel false body))) with
      | .endless _ => throw .endless
      | .finite t =>
        modify fun s => { s with caught := s.status }
        return Glyph.ofValue quoted
          ((t.reverse.dropWhile (· == '\n')).reverse.filter (· != '\x00'))
    | .sum quoted pieces =>
      let n ← calculate (← expandText fuel pieces)
      return Glyph.ofValue quoted (Text.ofInt n)
    | .parameter quoted name change =>
      let s ← get
      let value := s.param? name
      let absent (evenEmpty : Bool) : Bool := value.isNone || (evenEmpty && value == some [])
      let own : List Glyph :=
        if name = ['@'] ∨ (name = ['*'] ∧ ¬quoted) then Glyph.ofArgs quoted s.args
        else Glyph.ofValue quoted (value.getD [])
      let demanded : Run Unit :=
        if value.isNone ∧ s.hasOption 'u' ∧ name ≠ ['@'] ∧ name ≠ ['*'] then
          mistake (name ++ ": parameter not set".toList)
        else pure ()
      match change with
      | .keep => do
        demanded
        return own
      | .meaningless => mistake "Bad substitution".toList
      | .length => do
        demanded
        return Glyph.ofValue quoted (Text.ofNat (value.getD []).length)
      | .orElse evenEmpty word =>
        if absent evenEmpty then return Glyph.ofWord quoted (← expand fuel word) else return own
      | .instead evenEmpty word =>
        if absent evenEmpty then return (if quoted then [.nothing] else [])
        else return Glyph.ofWord quoted (← expand fuel word)
      | .assign evenEmpty word =>
        if absent evenEmpty then do
          let t ← expandText fuel word
          assign name t
          return Glyph.ofValue quoted t
        else return own
      | .demand evenEmpty word =>
        if absent evenEmpty then do
          let t ← expandText fuel word
          mistake (name ++ ": ".toList ++ if t = [] then "parameter not set".toList else t)
        else return own
      | .trim fromEnd longest word => do
        demanded
        let g := (Glyph.pattern s.joint (← expand fuel word)).glob
        let v := value.getD []
        return Glyph.ofValue quoted (if fromEnd then g.trimEnd longest v else g.trimStart longest v)

def expandWords : Nat → List (List Piece) → Run (List Octets)
  | 0, _ => throw .exhausted
  | _ + 1, [] => return []
  | fuel + 1, w :: ws => do
    let gs ← expand fuel (expandTilde (← get) w)
    let s ← get
    let fs := Glyph.fields s.separators gs
    let words := if s.hasOption 'f' then fs.map Field.text else fs.flatMap (Field.words s.tree)
    return words ++ (← expandWords fuel ws)

def expandTargets : Nat → List Redirection → Run (List (Nat × Nat × Opening × Octets))
  | 0, _ => throw .exhausted
  | _ + 1, [] => return []
  | fuel + 1, .mk line fd opening word :: rs => do
    let t ← expandText fuel word
    return (line, fd, opening, t) :: (← expandTargets fuel rs)

def openAll : Nat → List (Nat × Nat × Opening × Octets) → Run Unit
  | 0, _ => throw .exhausted
  | _ + 1, [] => return ()
  | fuel + 1, (line, fd, opening, target) :: rest => do
    modify fun s => { s with line := line }
    redirect fd opening target
    openAll fuel rest

def assignAll : Nat → List (Octets × List Piece) → Run (List (Octets × Octets))
  | 0, _ => throw .exhausted
  | _ + 1, [] => return []
  | fuel + 1, (name, word) :: rest => do
    let t ← expandText fuel word
    assign name t
    return (name, t) :: (← assignAll fuel rest)

/-- Runs something while descriptors are redirected. If they cannot be opened, it is not run,
and for a special command the script ends. -/
def underTargets : Nat → Bool → List (Nat × Nat × Opening × Octets) → Run Unit → Run Unit
  | 0, _, _, _ => throw .exhausted
  | fuel + 1, special, targets, act =>
    withDescriptors do
      let opened ← (try
          openAll fuel targets
          return true
        catch
          | .mistake => if special then throw .mistake else return false
          | f => throw f : Run Bool)
      if opened then act

def redirected : Nat → List Redirection → Run Unit → Run Unit
  | 0, _, _ => throw .exhausted
  | fuel + 1, rs, act => do
    let targets ← expandTargets fuel rs
    underTargets fuel false targets act

def runLines : Nat → Bool → Script.Input → Run Unit
  | 0, _, _ => throw .exhausted
  | fuel + 1, guarded, i => do
    if i.rest = [] then return ()
    match Script.next i with
    | .error m => do
      modify fun s => { s with line := m.line }
      mistake m.words
    | .ok (statements, after) => do
      modify fun s => { s with readLine := after.line }
      let s ← get
      if s.hasOption 'v' then
        set (s.write 2 (i.rest.take (i.rest.length - after.rest.length)))
      runList fuel guarded statements
      runLines fuel guarded after

/-- Runs a shell to its end, and then what it does at its end. The status stays, unless that
gives another one. -/
def runToEnd : Nat → Run Unit → Run Unit
  | 0, _ => throw .exhausted
  | fuel + 1, act => do
    try act
    catch
      | .killed n => throw (.killed n)
      | f => if f.isEndless then throw f
    let s ← get
    match s.traps.lookup 0 with
    | none | some [] => return ()
    | some script =>
      set { s with
        traps := s.traps.filter (·.1 != 0), ending := some s.status, context := [], loops := 0 }
      try
        runLines fuel false (Script.start script)
        setStatus s.status
      catch
        | .exit | .mistake => return ()
        | .killed n => throw (.killed n)
        | f => if f.isEndless then throw f else setStatus s.status

def runTraps : Nat → Run Unit
  | 0 => throw .exhausted
  | fuel + 1 => do
    let s ← get
    match s.outerTraps, s.pending with
    | none, n :: rest =>
      set { s with pending := rest, ending := some s.status, context := [] }
      runLines fuel true (Script.start ((s.traps.lookup n).getD []))
      modify fun t => { t with
        ending := s.ending, status := s.status, line := s.line, context := s.context }
      runTraps fuel
    | _, _ => return ()

def start : Nat → Executable → List Octets → Run Unit
  | 0, _, _ => throw .exhausted
  | fuel + 1, e, rest => do
    let args := e.arguments ++ rest
    match e.program with
    | .sh =>
      modify (·.fresh e.called)
      let task ← readTask e.called args
      modify fun s => { s with line := 1 }
      match task with
      | .text script name args =>
        modify fun s => { s with name := name, args := args }
        runToEnd fuel (runLines fuel false (Script.start script))
      | .input args =>
        modify fun s => { s.awaitInput with args := args }
        let text := (← get).input.finite?.getD []
        modify (·.setInput (.finite []))
        runToEnd fuel (runLines fuel false (Script.start text))
      | .file path args =>
        match (← get).openFile path with
        | .ok (.finite t) =>
          modify fun s => { s with name := path, args := args }
          runToEnd fuel (runLines fuel false (Script.start t))
        | .ok (.endless _) => throw .endless
        | .error cause => do
          modify fun s => { s with line := 0 }
          mistake (openFailure false path cause)
    | .env =>
      let unknown := (args.headD []).drop 1 |>.find? fun c => c != 'i' && c != 'u'
      let wrong := if (args.headD []).head? = some '-' then unknown else none
      if let some c := wrong then
        complete { ((← get).desk e.called).invalidOption c with status := 125 }
        throw .exit
      match ← readEnvironment args with
      | [] => do
        let s ← get
        complete (.ok (s.environment.flatMap fun (n, v) => n ++ '=' :: v ++ ['\n']))
      | name :: rest =>
        let s ← get
        match Executable.find s.tree s.searchDirs (Octets.toPath name) with
        | .ok inner => start fuel inner rest
        | .error cause => do
          modify fun s => s.write 2 (e.called ++ ": ".toList ++ Utility.alwaysQuoted name
            ++ ": ".toList ++ cause.description ++ ['\n'])
          setStatus (if cause = .noEntry then 127 else 126)
    | .test => testCommand args
    | .kill => forgiving (killCommand args)
    | p => runUtility p e.called args

def runExternal : Nat → Octets → List Octets → Run Unit
  | 0, _, _ => throw .exhausted
  | fuel + 1, name, args => do
    let s ← get
    match Executable.find s.tree s.searchDirs (Octets.toPath name) with
    | .ok e => asProcess (start fuel e args)
    | .error e =>
      if e = .badExecutable then asProcess (start fuel ⟨.sh, name, [name]⟩ args)
      else do
        let (words, status) := startFailure e
        failWith status (name ++ ": ".toList ++ words)

def runInPlace : Nat → List Octets → Run Unit
  | 0, _ => throw .exhausted
  | _ + 1, [] => setStatus 0
  | fuel + 1, name :: args => do
    let s ← get
    match Executable.find s.tree s.searchDirs (Octets.toPath name) with
    | .ok e => do
      set { s with traps := s.traps.filter (·.2 = []) }
      start fuel e args
      throw .exit
    | .error e => do
      let (words, status) := startFailure e
      failWith status (name ++ ": ".toList ++ words)
      throw .exit

def runSourced : Nat → List Octets → Run Unit
  | 0, _ => throw .exhausted
  | _ + 1, [] => setStatus 0
  | fuel + 1, name :: _ => do
    let s ← get
    let found := if name.contains '/' then some name
      else (s.searchDirs.map fun d => Octets.ofPath (d.join (Octets.toPath name))).find? fun p =>
        (s.tree.kind? (Octets.toPath p)) == some .regular
    match found with
    | none => mistake (name ++ ": not found".toList)
    | some path =>
      match s.openFile path with
      | .error e => mistake (openFailure false path e)
      | .ok (.endless _) => throw .endless
      | .ok (.finite t) =>
        setStatus 0
        named path <| nested do
          try runLines fuel false (Script.start t)
          catch
            | .leave => return ()
            | f => throw f

def runNamed : Nat → Bool → Octets → List Octets → Run Unit
  | 0, _, _, _ => throw .exhausted
  | fuel + 1, guarded, name, args => do
    match (← get).functions.lookup name with
    | some body => inFunction args (runStatement fuel guarded body)
    | none =>
      if Shell.isSpecial name then runBuiltin fuel guarded name args
      else if Shell.isBuiltin name then forgiving (runBuiltin fuel guarded name args)
      else runExternal fuel name args

def runBuiltin : Nat → Bool → Octets → List Octets → Run Unit
  | 0, _, _, _ => throw .exhausted
  | fuel + 1, guarded, name, args => do
    match String.ofList name with
    | "exec" => named name (do runInPlace fuel (← operands args))
    | "command" => runPlain fuel guarded args
    | "eval" =>
      let t := Text.joinWith [' '] args
      if t.all Glyph.isBlank then setStatus 0
      else named name (nested (runLines fuel guarded (Script.start t)))
    | "." => named name (do runSourced fuel (← operands args))
    | _ =>
      match command? name with
      | some act => named name (act args)
      | none => setStatus 0

def runPlain : Nat → Bool → List Octets → Run Unit
  | 0, _, _ => throw .exhausted
  | fuel + 1, guarded, args => do
    let (asked, rest) ← named "command".toList (letters "pvV".toList args)
    match rest with
    | [] => setStatus 0
    | name :: rest =>
      if asked.contains 'v' ∨ asked.contains 'V' then
        describeAll (asked.contains 'v') [name]
      else if Shell.isBuiltin name then forgiving (runBuiltin fuel guarded name rest)
      else if asked.contains 'p' then
        let path := (← get).vars.lookup "PATH".toList
        modify (·.setVar "PATH".toList "/usr/bin:/bin".toList)
        runExternal fuel name rest
        modify (·.putBack "PATH".toList path)
      else runExternal fuel name rest

/-- Runs the stages of a pipeline side by side. What comes from the stage before is all there
when that has ended, and `began` is when all of them started. Half of the steps are left for the
stages that follow, since one that never ends is stopped when nobody reads what it writes. -/
def runStages : Nat → Bool → Option Source → Nat → List Statement → Run Unit
  | 0, _, _, _, _ => throw .exhausted
  | _ + 1, _, _, _, [] => return ()
  | fuel + 1, guarded, source, began, s :: rest => do
    let stage : Run Unit := inCopy do
      if let some source := source then modify (·.openInput 0 source)
      runToEnd fuel (runStatement fuel guarded s)
    match rest with
    | [] => stage
    | _ :: _ =>
      let reserve := (← get).steps / 2
      modify fun t => { t with steps := t.steps - reserve }
      let content ← caught stage
      modify fun t => { t with steps := t.steps + reserve }
      let ended := (← get).clock
      modify fun t => { t with clock := began }
      runStages fuel guarded (some ⟨content, ended, false⟩) began rest
      modify fun t => { t with clock := max ended t.clock }

def runLoop : Nat → Bool → Bool → List Statement → List Statement → Nat → Run Unit
  | 0, _, _, _, _, _ => throw .exhausted
  | fuel + 1, guarded, until_, condition, body, last => do
    let again ← round do
      runList fuel true condition
      if ((← get).status == 0) != until_ then
        runList fuel guarded body
        return true
      else
        setStatus last
        return false
    if again then runLoop fuel guarded until_ condition body (← get).status

def runEach : Nat → Bool → Octets → List Octets → List Statement → Run Unit
  | 0, _, _, _, _ => throw .exhausted
  | _ + 1, _, _, [], _ => return ()
  | fuel + 1, guarded, name, w :: ws, body => do
    assign name w
    let again ← round do
      runList fuel guarded body
      return true
    if again then runEach fuel guarded name ws body

def runArms : Nat → Bool → Octets → List (List (List Piece) × List Statement) → Run Unit
  | 0, _, _, _ => throw .exhausted
  | _ + 1, _, _, [] => setStatus 0
  | fuel + 1, guarded, t, (patterns, body) :: rest => do
    if ← matchesAny fuel t patterns then
      if body.isEmpty then setStatus 0 else runList fuel guarded body
    else runArms fuel guarded t rest

def matchesAny : Nat → Octets → List (List Piece) → Run Bool
  | 0, _, _ => throw .exhausted
  | _ + 1, _, [] => return false
  | fuel + 1, t, p :: ps => do
    let s ← get
    let g := (Glyph.pattern s.joint (← expand fuel (expandTilde s p))).glob
    if g.matches? t then return true else matchesAny fuel t ps

def runSimple : Nat → Bool → List (Octets × List Piece) → List (List Piece) →
    List Redirection → Run Unit
  | 0, _, _, _, _ => throw .exhausted
  | fuel + 1, guarded, assignments, words, rs => do
    modify fun s => { s with caught := 0 }
    let ws ← expandWords fuel words
    let targets ← expandTargets fuel rs
    let before ← get
    let errors := before.sinks.lookup 2
    match ws with
    | [] =>
      underTargets fuel false targets do
        let assigned ← assignAll fuel assignments
        trace errors assigned []
        setStatus (← get).caught
    | name :: args =>
      let special := Shell.isSpecial name
      let act : Run Unit := do
        let assigned ← assignAll fuel assignments
        if ¬special then assigned.forM fun (n, _) => modify (·.exportVar n)
        trace errors assigned ws
        runNamed fuel guarded name args
        if ¬special then
          assigned.forM fun (n, _) => modify fun s =>
            let s := s.putBack n (before.vars.lookup n)
            { s with exported :=
              if before.exported.contains n then s.exported else s.exported.erase n }
      if name = "exec".toList then
        openAll fuel targets
        act
      else
        underTargets fuel special targets act

/-- Runs a statement. `guarded` statements do not end the script when they fail. -/
def runStatement : Nat → Bool → Statement → Run Unit
  | 0, _, _ => throw .exhausted
  | fuel + 1, guarded, s => do
    step
    if (← get).hasOption 'n' then return ()
    match s with
    | .simple line assignments words rs => do
      modify fun t => { t with line := line }
      runSimple fuel guarded assignments words rs
      checkFailure guarded
    | .pipeline negated stages => do
      match stages with
      | [s] => runStatement fuel true s
      | _ => runStages fuel (guarded || negated) none (← get).clock stages
      if negated then modify fun t => { t with status := if t.status = 0 then 1 else 0 }
      else checkFailure guarded
    | .andThen a b => do
      runStatement fuel true a
      if (← get).status = 0 then runStatement fuel guarded b
    | .orElse a b => do
      runStatement fuel true a
      if (← get).status ≠ 0 then runStatement fuel guarded b
    | .background body => runBehind fuel body
    | .group body rs => redirected fuel rs (runList fuel guarded body)
    | .subshell body rs => do
      redirected fuel rs (inCopy (runToEnd fuel (runList fuel guarded body)))
      checkFailure guarded
    | .branch condition yes no rs =>
      redirected fuel rs do
        runList fuel true condition
        let chosen := if (← get).status = 0 then yes else no
        if chosen.isEmpty then setStatus 0 else runList fuel guarded chosen
    | .loop until_ condition body rs =>
      redirected fuel rs (inLoop (runLoop fuel guarded until_ condition body 0))
    | .each name words body rs =>
      redirected fuel rs do
        let ws ← match words with
          | some ws => expandWords fuel ws
          | none => pure (← get).args
        setStatus 0
        inLoop (runEach fuel guarded name ws body)
    | .choose word arms rs =>
      redirected fuel rs do
        let t ← expandText fuel word
        runArms fuel guarded t arms
    | .define name body => modify fun t =>
        { t with functions := (name, body) :: t.functions.filter (·.1 != name), status := 0 }
    runTraps fuel

/-- Starts a statement in the background. Its writings carry their own times. -/
def runBehind : Nat → Statement → Run Unit
  | 0, _ => throw .exhausted
  | fuel + 1, body => do
    let parent ← get
    let rs := match body with
      | .simple _ _ _ rs | .group _ rs | .subshell _ rs => rs
      | _ => []
    let held ← (fun s => match (do openAll fuel (← expandTargets fuel rs) : Run Unit) s with
      | .ok _ s' => .ok s'.holdsStream s
      | .error _ _ => .ok true s : Run Bool)
    let pid := parent.nextPid
    modify fun s => { s with nextPid := pid + 1 }
    let endsAt ← (try
        inCopy do
          modify (·.openInput 0 ⟨.finite [], 0, false⟩)
          runToEnd fuel (runStatement fuel false body)
        return some (← get).clock
      catch _ => return none : Run (Option Nat))
    modify fun s =>
      let job : Job := ⟨pid, s.status, none, endsAt, held⟩
      { s with clock := parent.clock, status := 0, lastJob := some pid, jobs := s.jobs ++ [job] }

def runList : Nat → Bool → List Statement → Run Unit
  | 0, _, _ => throw .exhausted
  | _ + 1, _, [] => return ()
  | fuel + 1, guarded, s :: ss => do
    runStatement fuel guarded s
    runList fuel guarded ss

end

end Run

end LayoutCheck
