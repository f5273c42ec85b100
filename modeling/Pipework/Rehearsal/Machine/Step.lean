import Pipework.Rehearsal.Machine.Names
import Pipework.Rehearsal.Machine.Tool

namespace Pipework

open Script (Command Evaluation Part Redirect Scope SimpleCommand Word octets view)

namespace Script

def Command.ownWords : Command → List Word
  | .simple c => c.words ++ c.redirects.map (·.target) ++ c.assignments.map (·.2)
  | .each _ _ ws _ => ws
  | .choose _ w _ => [w]
  | .redirected _ _ rs => rs.map (·.target)
  | _ => []

def retarget (rs : List Redirect) (ws : List Word) : List Redirect :=
  rs.zipWith (fun r w => { r with target := w }) ws

def Command.withOwnWords (a : Command) (ws : List Word) : Command :=
  match a with
  | .simple c =>
    let behind := ws.drop c.words.length
    .simple { c with
      words := ws.take c.words.length
      redirects := retarget c.redirects behind
      assignments := c.assignments.zipWith (fun x w => (x.1, w))
        (behind.drop c.redirects.length) }
  | .each line name _ body => .each line name ws body
  | .choose line w arms => .choose line (ws.headD w) arms
  | .redirected line a rs => .redirected line a (retarget rs ws)
  | a => a

def Command.line? : Command → Option Nat
  | .simple c => some c.line
  | .each line _ _ _ | .choose line _ _ | .redirected line _ _ => some line
  | _ => none

def wasFilled (w : Word) : Bool :=
  w.any fun p => match p with
    | .value _ _ => true
    | _ => false

def assignAll : List (String × Word) → Evaluation (List (String × String))
  | [] => return []
  | (name, w) :: rest => do
    let v ← text w
    set (← (← get).assign name v)
    return (name, v) :: (← assignAll rest)

def chooseArm (s : List Char) : List (List Word × Command) → Evaluation (Option Command)
  | [] => return none
  | (ws, a) :: rest => do
    let patterns ← ws.mapM pattern
    if patterns.any fun p => fits p s then return some a else chooseArm s rest

end Script

def WaitStatus.shown (s : WaitStatus) : Nat :=
  match s.code?, s.signal? with
  | some code, _ => code.toNat
  | none, some signal => 128 + signal.toNat
  | none, none => 128

namespace Machine

/-! ## Starting jobs -/

def fork (m : Machine) (j : Job) (descriptors : List (Nat × Nat)) (work : List Work) :
    Machine × Nat :=
  let k : Job := { number := m.fresh, parent := j.number, scope := j.childScope
                   directory := j.directory, mask := j.mask
                   descriptors := descriptors, work := work }
  ({ m with fresh := m.fresh + 1, jobs := m.jobs ++ [k] }, m.fresh)

def withEntry (descriptors : List (Nat × Nat)) (descriptor : Nat) (handle : Option Nat) :
    List (Nat × Nat) :=
  match handle with
  | some h => (descriptor, h) :: descriptors.filter (·.1 != descriptor)
  | none => descriptors

/-- Starts the stages of a pipeline, each with a job of its own. -/
def startStages (m : Machine) (j : Job) (input : Option Nat) : List Command → Machine × List Nat
  | [] => (m, [])
  | [a] =>
    let (m, n) := m.fork j (withEntry j.descriptors 0 input) [.run a]
    (m, [n])
  | a :: rest =>
    let (m, channel) := m.addChannel {}
    let (m, r) := m.addHandle (.reader channel)
    let (m, w) := m.addHandle (.writer channel)
    let (m, n) := m.fork j (withEntry (withEntry j.descriptors 0 input) 1 (some w)) [.run a]
    let (m, ns) := m.startStages j (some r) rest
    (m, n :: ns)

def outputDescriptor : Nat := 20

/-- Starts a script whose output is put into a command. -/
def startOutput (m : Machine) (j : Job) (source : String) (c : Command) : Machine :=
  let (m, channel) := m.addChannel {}
  let (m, r) := m.addHandle (.reader channel)
  let (m, w) := m.addHandle (.writer channel)
  let script := Script.Source.parse j.scope.line source
  let work := script.work fun line => s!"{j.scope.name}: {line}: "
  -- nobody asks for the status of what goes on in there
  let asker := { j with work := [], scope := { j.scope with isTested := false } }
  let (m, n) := m.fork asker (withEntry j.descriptors 1 (some w)) work
  m.setJob ((j.withDescriptor outputDescriptor r).first [.substitute outputDescriptor n [] c])

/-- Starts a job that nobody waits for at once. It does not hear of interruptions. -/
def startBackground (m : Machine) (j : Job) (a : Command) : Machine :=
  let (m, input) := m.addHandle .null
  let (m, n) := m.fork j (withEntry j.descriptors 0 (some input)) [.run a]
  let deafen (k : Job) : Job :=
    { k with scope := { k.scope with traps := [(2, ""), (3, "")] ++ k.scope.traps } }
  let m := match m.job? n with
    | some k => m.setJob (deafen k)
    | none => m
  m.setJob ({ j with scope := { j.scope with lastBackground := some n } }.withStatus 0)

/-! ## Running commands -/

def traceLine (mark : String) (assigned : List (String × String)) (argv : List String) : String :=
  mark ++ " ".intercalate (assigned.map (fun a => a.1 ++ "=" ++ a.2) ++ argv) ++ "\n"

/-- The work of a command whose words and variables are known. `before` is the job before the
variables were set. -/
def simpleWork (before : Job) (assigned : List (String × String)) (redirects : List Redirect)
    (argv : List String) : List Work ⊕ List Work :=
  let name := argv.headD ""
  let around (body : List Work) : List Work :=
    if redirects.isEmpty then body
    else [.redirect (Script.specialCommands.contains name) redirects body,
      .restore before.descriptors]
  let undo := assigned.map fun a => Work.restoreVariable a.1 (before.scope.bindings.get? a.1)
  let args := if name = "command" then argv.tail.dropWhile (· == "-p") else []
  match argv with
  | [] => .inl (around [])
  | "exec" :: args =>
    .inl [.redirect true redirects (if args.isEmpty then [] else [.replace args true])]
  | _ =>
    match before.scope.function? name with
    | some f => .inl (around [.call f argv.tail] ++ undo)
    | none =>
      if Script.specialCommands.contains name then .inl (around [.builtin argv])
      else if !args.isEmpty && !(args.headD "").startsWith "-" then
        if builtinNames.contains (args.headD "") then .inl (around [.builtin args] ++ undo)
        else .inr [.redirect false redirects [.replace args false]]
      else if builtinNames.contains name then .inl (around [.builtin argv] ++ undo)
      else .inr [.redirect false redirects [.replace argv false]]

def runSimple (m : Machine) (j : Job) (c : SimpleCommand) : Machine :=
  match j.evaluate (Script.fields c.words) with
  | .error j => m.setJob j
  | .ok (fields, j) =>
    let files := m.filesOf j
    let argv := fields.flatMap fun f =>
      if j.scope.options.noPatterns then [f.text] else files.expandNames f
    match j.evaluate (Script.assignAll c.assignments) with
    | .error j => m.setJob j
    | .ok (assigned, k) =>
      let shown := traceLine ((j.scope.bindings.get? "PS4").getD "") assigned argv
      let trace := if j.scope.options.trace && !(argv.isEmpty && assigned.isEmpty) then
        [Work.put 2 (octets shown)] else []
      let check := if j.scope.options.exitOnFailure then [Work.checkFailure] else []
      if argv.isEmpty then
        let k := if c.assignments.any fun a => Script.wasFilled a.2 then k else k.withStatus 0
        match simpleWork j assigned c.redirects argv with
        | .inl work | .inr work => m.setJob (k.first (trace ++ work ++ check))
      else match simpleWork j assigned c.redirects argv with
        | .inl work => m.setJob (k.first (trace ++ work ++ check))
        | .inr work =>
          let share (s : Scope) (a : String × String) : Scope := s.share a.1
          let k := { k with scope := assigned.foldl share k.scope }
          let (m, n) := m.fork k j.descriptors (trace ++ work)
          m.setJob (j.first ([.await [n] false] ++ check))

def runCommand (m : Machine) (j : Job) (c : Command) : Machine :=
  let j := match c.line? with
    | some line => { j with scope := j.scope.atLine line }
    | none => j
  let go (work : List Work) : Machine := m.setJob (j.first work)
  let check := if j.scope.options.exitOnFailure then [Work.checkFailure] else []
  match c.ownWords.findSome? (Script.Word.firstOutput? j.scope) with
  | some source => m.startOutput j source c
  | none => match c with
    | .nothing => go []
    | .simple c => m.runSimple j c
    | .seq a b => go [.run a, .run b]
    | .andThen a b => go [.run a, .next true b]
    | .orElse a b => go [.run a, .next false b]
    | .negate a => go [.run a, .negate]
    | .pipeline stages =>
      let (m, ns) := m.startStages j none stages
      m.setJob (j.first ([.await ns false] ++ check))
    | .background a => m.startBackground j a
    | .branch condition yes no => go [.run condition, .branch yes no]
    | .loop whileFails condition body =>
      go [.run condition, .loopTest whileFails condition body 0]
    | .each _ name words body => match j.evaluate (Script.fields words) with
      | .error j => m.setJob j
      | .ok (fields, j) =>
        let files := m.filesOf j
        let values := fields.flatMap fun f =>
          if j.scope.options.noPatterns then [f.text] else files.expandNames f
        m.setJob ((j.withStatus 0).first [.each name values body])
    | .choose _ w arms =>
      let arm : Evaluation (Option Command) := do
        Script.chooseArm (← Script.text w).toList arms
      match j.evaluate arm with
      | .error j => m.setJob j
      | .ok (some a, j) => m.setJob (j.first [.run a])
      | .ok (none, j) => m.setJob (j.withStatus 0)
    | .redirected _ a rs => go [.redirect false rs [.run a], .restore j.descriptors]
    | .subshell a =>
      let (m, n) := m.fork j j.descriptors [.run a]
      m.setJob (j.first ([.await [n] false] ++ check))
    | .define line name body =>
      let others := j.scope.functions.filter (·.name != name)
      let scope := { j.scope with functions := ⟨name, line, body⟩ :: others }
      m.setJob ({ j with scope := scope }.withStatus 0)

def call (m : Machine) (j : Job) (f : Script.Function) (args : List String) : Machine :=
  let back := Work.endCall (some j.scope.arguments) j.scope.functionLine
  let scope := { j.scope with arguments := args, functionLine := some f.line }
  m.setJob ({ j with scope := scope }.first [.run f.body, back])

/-! ## Redirections -/

def redirect (m : Machine) (j : Job) (isFatal : Bool) (r : Redirect) (goOn : Work) : Machine :=
  match j.evaluate (Script.text r.target) with
  | .error j => m.setJob j
  | .ok (target, j) =>
    let fail (message : String) : Machine :=
      let message := j.located message
      m.setJob (if isFatal then j.abort message else j.complain message 2)
    match r.kind with
    | .document =>
      let (m, channel) := m.addChannel { held := octets target }
      let (m, h) := m.addHandle (.reader channel)
      m.setJob ((j.withDescriptor r.descriptor h).first [goOn])
    | .copy =>
      if target = "-" then
        let others := j.descriptors.filter (·.1 != r.descriptor)
        (m.setJob ({ j with descriptors := others }.first [goOn])).sweep
      else match Script.integer? target with
        | none => m.setJob (j.abort (j.located "Syntax error: Bad fd number"))
        | some n => match j.descriptors.lookup n.toNat with
          | some h => m.setJob ((j.withDescriptor r.descriptor h).first [goOn])
          | none => fail s!"{target}: Bad file descriptor"
    | kind => match m.openAs (j.first [goOn]) r.descriptor kind (octets target) with
      | .ok (m, j) => m.setJob j
      | .error e =>
        let verb := if kind == .read then "open" else "create"
        fail s!"cannot {verb} {target}: {e.shellCause (kind == .read)}"

/-! ## Becoming other programs -/

def replace (m : Machine) (j : Job) (argv : List String) (asked : Bool) : Machine :=
  let name := argv.headD ""
  match Image.find (m.filesOf j) (octets name) argv with
  | .ok image => m.setJob (m.become j image)
  | .error e =>
    let file := octets name
    -- a file without a form of its own is taken for a script
    if e = .notRunnable ∧ file.contains Path.slash then
      m.setJob (m.become j ⟨"sh", name :: name :: argv.tail⟩)
    else
      let isMissing := e = .noEntry ∨ e = .notDirectory
      let wasSought := !asked && !file.contains Path.slash
      let status :=
        if isMissing ∨ e = .linkLoop ∨ e = .nameTooLong ∨ wasSought then 127 else 126
      let subject := if asked then s!"exec: {name}" else name
      let message := if isMissing then "not found" else e.cause
      m.setJob ((j.doing []).complain (j.located s!"{subject}: {message}") status)

def handOver (m : Machine) (j : Job) (caller : String) (argv : List String) : Machine :=
  let name := argv.headD ""
  match Image.find (m.filesOf j) (octets name) argv with
  | .ok image => m.setJob (m.become j image)
  | .error e =>
    let lines := s!"{caller}: {Script.quotedName name}: {e.cause}" ::
      -- the line that starts a script has at most one argument
      (if e = .noEntry && name.toList.any Char.isWhitespace then
        [s!"{caller}: use -[v]S to pass options in shebang lines"] else [])
    let status := if e = .noEntry then 127 else 126
    m.setJob ((j.doing []).complain ("\n".intercalate lines) status)

/-! ## Gathering input -/

def joinPieces (got : List Bytes) : Bytes := got.reverse.flatten

/-- Turns to the next input of a program, or turns all of them into its output. -/
def nextInput (m : Machine) (j : Job) (call : ToolCall) (queue : List String)
    (got : List Script.Filter.Input) : Machine :=
  match queue with
  | [] =>
    if call.tool = "sh" then m.setJob (j.runScript (String.join (got.map (·.text))))
    else
      let o := Script.Filter.run call.tool call.args got
      let status := max j.scope.status o.status
      m.setJob (j.afterServing
        ⟨o.text, o.complaints.map fun c => s!"{call.name}: {c}", status⟩)
  | "-" :: rest =>
    let label := if (Script.Filter.operands call.tool call.args).isEmpty then none else some "-"
    m.setJob (j.first [.gather 0 [] call label rest got])
  | f :: rest =>
    match m.openAs (j.first [.gather 3 [] call (some f) rest got]) 3 .read (octets f) with
    | .ok (m, j) => m.setJob j
    | .error e => m.setJob (call.openFailed (j.first [.inputs call rest got]) f e)

def readsRegular (m : Machine) (j : Job) (descriptor : Nat) : Bool :=
  match m.handle? j descriptor with
  | some (_, .file l _ _) => (m.files.lookup l).any fun e => e.kind == .regular
  | _ => false

def gathered (m : Machine) (j : Job) (descriptor : Nat) (pieces : List Bytes) (call : ToolCall)
    (label : Option String) (queue : List String) (got : List Script.Filter.Input) : Machine :=
  let input : Script.Filter.Input :=
    ⟨label, m.readsRegular j descriptor, view (joinPieces pieces)⟩
  let close := if descriptor = 0 then [] else [Work.closeDescriptor descriptor]
  m.setJob (j.first (close ++ [.inputs call queue (got ++ [input])]))

/-! ## One piece of work -/

def trimLines (s : String) : String :=
  String.ofList (s.toList.reverse.dropWhile (· == '\n')).reverse

def reap (m : Machine) (numbers : List Nat) : Machine :=
  { m with jobs := m.jobs.filter fun j => !numbers.contains j.number }

/-- How a job has ended, or a status of its own if there is none of the number. -/
def statusOf (m : Machine) (number : Nat) : Nat :=
  ((m.job? number).bind (·.ended)).elim 127 WaitStatus.shown

def hasEnded (m : Machine) (number : Nat) : Bool := (m.job? number).all (·.ended.isSome)

def notices (m : Machine) (numbers : List Nat) : List Work :=
  numbers.filterMap fun n =>
    (((m.job? n).bind (·.ended)).bind (·.signal?)).bind fun s =>
      (Signal.notice? s.toNat).map fun notice => Work.put 2 (octets (notice ++ "\n"))

/-- Does a piece of the work of a job, whose other work is `j.work`. Nothing happens while it has to
wait. -/
def perform (m : Machine) (j : Job) (w : Work) : Option Machine :=
  let done (j : Job) : Option Machine := some (m.setJob j)
  let go (work : List Work) : Option Machine := done (j.first work)
  match w with
  | .run c => if j.scope.options.readOnly then go [] else some (m.runCommand j c)
  | .abort message => done (j.abort message)
  | .next ifSucceeded c => go (if (j.scope.status == 0) == ifSucceeded then [.run c] else [])
  | .negate => done (j.withStatus (if j.scope.status = 0 then 1 else 0))
  | .branch yes no =>
    if j.scope.status = 0 then go [.run yes]
    else match no with
      | .nothing => done (j.withStatus 0)
      | no => go [.run no]
  | .loopTest whileFails condition body last =>
    if (j.scope.status == 0) != whileFails then
      go [.run body, .loopAgain whileFails condition body]
    else done (j.withStatus last)
  | .loopAgain whileFails condition body =>
    go [.run condition, .loopTest whileFails condition body j.scope.status]
  | .each name values body => match values with
    | [] => go []
    | v :: vs => match j.scope.assign name v with
      | .ok scope => done ({ j with scope := scope }.first [.run body, .each name vs body])
      | .error message => done (j.abort (j.located message))
  | .checkFailure =>
    if j.scope.status ≠ 0 ∧ j.scope.options.exitOnFailure ∧ !j.isTested then done (j.doing [])
    else go []
  | .call f args => some (m.call j f args)
  | .endCall arguments functionLine =>
    let scope := { j.scope with arguments := arguments.getD j.scope.arguments
                                functionLine := functionLine }
    done { j with scope := scope }
  | .redirect isFatal rs body => match rs with
    | [] => go body
    | r :: rs => some (m.redirect j isFatal r (.redirect isFatal rs body))
  | .openInput descriptor path call body =>
    match m.openAs (j.first body) descriptor .read (octets path) with
    | .ok (m, j) => some (m.setJob j)
    | .error e => done (call.openFailed j path e)
  | .openOutput descriptor atEnd path call =>
    match m.openAs j descriptor (if atEnd then .append else .write) (octets path) with
    | .ok (m, j) => some (m.setJob j)
    | .error e => done (call.openFailed j path e)
  | .awaitPeer channel asReader seen =>
    let c := (m.channels.lookup channel).getD {}
    let peer : Handle := if asReader then .writer channel else .reader channel
    let opens := if asReader then c.writerOpens else c.readerOpens
    -- the other end may have been opened and closed again in the meantime
    if m.holds peer || seen < opens then go [] else none
  | .restore descriptors => some (m.setJob { j with descriptors := descriptors }).sweep
  | .restoreVariable name value =>
    let bindings := match value with
      | some s => j.scope.bindings.insert name s
      | none => j.scope.bindings.erase name
    done { j with scope := { j.scope with bindings := bindings } }
  | .closeDescriptor descriptor =>
    some (m.setJob { j with descriptors := j.descriptors.filter (·.1 != descriptor) }).sweep
  | .builtin argv => some (m.carryOut j argv)
  | .replace argv asked => some (m.replace j argv asked)
  | .handOver caller argv => some (m.handOver j caller argv)
  | .serve call => some (m.serve j call)
  | .await numbers _ =>
    if numbers.all m.hasEnded then
      let status := (numbers.getLast?.map m.statusOf).getD 0
      some ((m.setJob ((j.withStatus status).first (m.notices numbers))).reap numbers)
    else none
  | .awaitAll =>
    let numbers := (m.jobs.filter (·.parent == j.number)).map (·.number)
    if numbers.all m.hasEnded then some (m.setJob (j.withStatus 0)) else none
  | .put descriptor bs => match m.write j descriptor bs with
    | .written [] m => some (m.setJob j)
    | .written rest m => some (m.setJob (j.first [.put descriptor rest]))
    | .blocked => none
    | .broken => some ((m.setJob (j.withStatus 1)).signal j.number Signal.brokenPipe)
  | .repeatPut bs => go [.put 1 bs, .repeatPut bs]
  | .setStatus status => done (j.withStatus status)
  | .copy source targets call label => match m.read j source channelRoom with
    | .octets bs m =>
      let goOn := Work.copy source targets call label
      some (m.setJob (j.first (targets.map (Work.put · bs) ++ [goOn])))
    | .atEnd => go []
    | .blocked => none
    | .failed e => done (call.readFailed j (label.getD "-") e)
  | .inputs call queue got => some (m.nextInput j call queue got)
  | .gather descriptor pieces call label queue got =>
    match m.read j descriptor channelRoom with
    | .octets bs m =>
      let pieces := bs :: pieces
      if Script.Filter.isEnough call.tool call.args (view (joinPieces pieces)) then
        some (m.gathered j descriptor pieces call label queue got)
      else some (m.setJob (j.first [.gather descriptor pieces call label queue got]))
    | .atEnd => some (m.gathered j descriptor pieces call label queue got)
    | .blocked => none
    | .failed e =>
      done (call.readFailed (j.first [.inputs call queue got]) (label.getD "-") e)
  | .readLine names raw got escaped => match m.read j 0 1 with
    | .octets bs m =>
      let c := ((view bs).toList.head?).getD '\n'
      let more (got : List (Char × Bool)) (escaped : Bool) : Option Machine :=
        some (m.setJob (j.first [.readLine names raw got escaped]))
      if escaped then more (if c = '\n' then got else got ++ [(c, true)]) false
      else if c = '\n' then some (m.setJob (j.assignLine names got 0))
      else if c = '\\' ∧ !raw then more got true
      else more (got ++ [(c, false)]) false
    | .blocked => none
    | _ => done (j.assignLine names got 1)
  | .substitute descriptor number got c => match m.read j descriptor channelRoom with
    | .octets bs m => some (m.setJob (j.first [.substitute descriptor number (bs :: got) c]))
    | .blocked => none
    | _ =>
      if m.hasEnded number then
        -- the lines that end the output do not count, and neither do zero octets
        let s := trimLines (view ((joinPieces got).filter (· != 0)))
        let c := c.withOwnWords (Script.fillFirst j.scope s c.ownWords)
        let work := m.notices [number] ++ [.closeDescriptor descriptor, .run c]
        some ((m.setJob ((j.withStatus (m.statusOf number)).first work)).reap [number])
      else none
  | .sleepFor us => go [.sleepUntil (m.clock + us)]
  | .sleepUntil time => if time ≤ m.clock then go [] else none

/-! ## Turns -/

def answer (j : Job) (action : String) (status : Nat) : List Work :=
  let script := Script.Source.parse 1 action
  script.work (fun line => s!"{j.scope.name}: {line}: ") ++ [.setStatus status]

/-- The job that answers a signal before it does anything else, if one has come that it answers and
it does not have to finish something first. -/
def answering? (j : Job) : Option Job := do
  let signal ← j.pending.min?
  let action ← j.scope.traps.lookup signal
  let j' := { j with pending := j.pending.filter (· != signal) }
  match j.work with
  | [] => return j'.doing (answer j action j.scope.status)
  | w :: rest =>
    if !w.isBoundary then none
    else match w with
      -- whoever waits because a script has asked for it does not go on waiting
      | .await _ _ | .awaitAll =>
        return j'.doing (answer j action (128 + signal) ++ rest)
      | _ => return j'.first (answer j action j.scope.status)

def ending? (j : Job) : Option Job := do
  let action ← j.scope.traps.lookup 0
  let traps := j.scope.traps.filter (·.1 != 0)
  return { j with scope := { j.scope with traps := traps } }.doing
    (answer j action j.scope.status)

/-- Lets a job take its turn. A job without work ends. -/
def turn (m : Machine) (j : Job) : Option Machine :=
  if j.isStopped then none
  else match answering? j with
    | some j => some (m.setJob j)
    | none => match j.work with
      | w :: rest => m.perform (j.doing rest) w
      | [] => match ending? j with
        | some j => some (m.setJob j)
        | none => some (m.endJob j (.ofCode j.scope.status))

def turnTime : Nat := 10

/-- Lets every job take a turn. Has any of them got on? -/
def round (m : Machine) : Machine × Bool :=
  let one (s : Machine × Bool) (number : Nat) : Machine × Bool :=
    match s.1.job? number with
    | some j => if j.ended.isSome then s
      else match s.1.turn j with
        | some m => (m, true)
        | none => s
    | none => s
  let (m, progress) := (m.jobs.map (·.number)).foldl one (m, false)
  ({ m with clock := m.clock + turnTime }, progress)

def nextWake? (m : Machine) : Option Nat :=
  (m.jobs.filterMap fun j => match j.work with
    | .sleepUntil time :: _ => if j.isStopped then none else some time
    | _ => none).min?

end Machine

end Pipework
