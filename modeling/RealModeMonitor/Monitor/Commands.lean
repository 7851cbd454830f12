import RealModeMonitor.Monitor.Summary
import RealModeMonitor.Text.Words

/-!
# Running shell commands

A line is cut into words; the first names the command, the others are its arguments. `vminfo`
reports on every session as it was when the command began, but asks for controllers and timers as
it goes. Asking for a timer brings it up to date, so the report itself may let a guest take an
interrupt, or die.
-/

namespace RealModeMonitor.Monitor

/-- What `vminfo` is asked to report besides the head line of each session. -/
structure ReportOptions where
  io : Bool := false
  services : Bool := false
  controller : Bool := false
  timer : Bool := false

namespace ReportOptions

def add (o : ReportOptions) (word : String) : Option ReportOptions :=
  if word = "-io" then some { o with io := true }
  else if word = "-arpl" then some { o with services := true }
  else if word = "-pic" then some { o with controller := true }
  else if word = "-pit" then some { o with timer := true }
  else none

def ofWords? (words : List String) : Option ReportOptions := words.foldlM add {}

end ReportOptions

private def concat (lines : List String) : String := lines.foldl (· ++ ·) ""

/-- The lines on a session's controller; none if it has no controller or is dead. -/
def controllerReport (m : Monitor) (id : VmId) : Traced (String × Monitor) := do
  let (r, m) ← m.controllerOf id
  return match r with
    | .ok c => (c.lines, m)
    | .error _ => ("", m)

/-- The lines on a session's timer; none if it has no timer or is dead. -/
def timerReport (m : Monitor) (id : VmId) : Traced (String × Monitor) := do
  let (r, m) ← m.timerChannels id
  return match r with
    | .ok channels => (concat (channels.mapIdx fun i c => c.line i), m)
    | .error _ => ("", m)

/-- Everything asked for about one session. -/
def sessionReport (o : ReportOptions) (m : Monitor) (s : VmSummary) :
    Traced (String × Monitor) := do
  let io := if o.io then concat (s.io.map s.ioLine) else ""
  let services := if o.services then concat (s.services.map VmSummary.serviceLine) else ""
  let (controller, m) ← if o.controller then m.controllerReport s.id else pure ("", m)
  let (timer, m) ← if o.timer then m.timerReport s.id else pure ("", m)
  return (s.headLine ++ io ++ services ++ controller ++ timer, m)

def report (o : ReportOptions) (m : Monitor) : List VmSummary → Traced (String × Monitor)
  | [] => pure ("", m)
  | s :: rest => do
    let (text, m) ← sessionReport o m s
    let (others, m) ← report o m rest
    return (text ++ others, m)

def vminfo (m : Monitor) (arguments : List String) :
    Traced (Except ShellError String × Monitor) :=
  match ReportOptions.ofWords? arguments with
  | none => pure (.error (.usage Shell.vminfoHelp), m)
  | some o =>
    if m.summaries.isEmpty then pure (.ok "no VMs\n", m)
    else do
      let (text, m) ← report o m m.summaries
      return (.ok text, m)

/-- Switch the tracing of port accesses. -/
def dbio (m : Monitor) (arguments : List String) : Except ShellError String × Monitor :=
  if arguments = ["-on"] then (.ok "I/O tracing on\n", m.setIoTrace true)
  else if arguments = ["-off"] then (.ok "I/O tracing off\n", m.setIoTrace false)
  else (.error (.usage Shell.dbioHelp), m)

def moduleLine (e : ModuleEntry) : String :=
  e.info.name ++ " v" ++ toString e.info.version.toNat ++ " open=" ++ toString e.openCount ++ "\n"

def modulesReport (m : Monitor) : String := concat (m.modules.entries.map moduleLine)

def helpText (m : Monitor) : String := concat (m.shell.commands.map fun c => c.help ++ "\n")

def shellView (m : Monitor) : ShellView := ⟨m.vmIds.length, m.clock.now⟩

def runAction (m : Monitor) (arguments : List String) :
    ShellAction → Traced (Except ShellError String × Monitor)
  | .vminfo => m.vminfo arguments
  | .dbio => pure (m.dbio arguments)
  | .modules => pure (.ok m.modulesReport, m)
  | .help => pure (.ok m.helpText, m)
  | .external run => pure (run m.shellView arguments, m)

/-- Run one line. -/
def runShell (m : Monitor) (line : String) : Traced (Except ShellError String × Monitor) :=
  match Text.words line with
  | [] => pure (.error .empty, m)
  | name :: arguments =>
    match m.shell.lookup? name with
    | none => pure (.error (.unknownCommand name), m)
    | some c => m.runAction arguments c.action

/-- Register a batch of commands. -/
def addShellCommands (m : Monitor) (batch : List ShellCommand) :
    Except ShellError Unit × Monitor :=
  match m.shell.add batch with
  | .ok shell => (.ok (), { m with shell })
  | .error e => (.error e, m)

end RealModeMonitor.Monitor
