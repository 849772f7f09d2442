import RunTable.Command.Opening
import RunTable.Command.Tables
import RunTable.Command.Watch

/-!
One run of the program: the variables that it reads, how it ends, and what it does to a disk.
-/

namespace RunTable.Command

/-- The variables of the environment that the program reads. -/
structure Environment where
  database : Option String
  home : Option String
  settings : Poll.Settings

def environmentVariables : List String :=
  ["RUNBOARD_DB_PATH", "HOME", "RUNBOARD_POLL_INTERVAL_MS", "RUNBOARD_REDIRECT"]

def Environment.ofVariables (lookUp : String → Option String) : Environment where
  database := lookUp "RUNBOARD_DB_PATH"
  home := lookUp "HOME"
  settings := .ofEnvironment (lookUp "RUNBOARD_POLL_INTERVAL_MS") (lookUp "RUNBOARD_REDIRECT")

/-- How the program ends: its exit code, what it printed, and why it failed. -/
structure Ending where
  code : Nat
  output : String
  message : Option String
  deriving DecidableEq

namespace Ending

def success (output : String) : Ending := ⟨0, output, none⟩

/-- The ending of a command line that is not carried out. -/
def ofRefusal : Refusal → Ending
  | .usage => ⟨2, "", none⟩
  | .help => success ""
  | .version => success "runboardctl 0.0.0\n"

/-- The first line of the message; a carriage return at its end belongs to the break. -/
def headline (e : Ending) : Option String :=
  e.message.map fun message =>
    let line := message.toList.takeWhile (· ≠ '\n')
    String.ofList (if line.getLast? = some '\r' then line.dropLast else line)

def ofReport (report : Report) : Ending :=
  match report.result with
  | .ok text => success text
  | .error e => ⟨1, "", some e.message⟩

end Ending

/-- Runs the program on a disk: the disk after it, and how it ends. A file may be named that goes
as soon as a line is printed; of a watch so many ticks are followed. -/
def Disk.run (d : Disk) (environment : Environment) (second : Int) (words : List String)
    (fleeting : Option String) (ticks : Nat) : Disk × Ending :=
  let later (d : Disk) : Disk := fleeting.elim d d.remove
  match Invocation.read environment.database words with
  | .error .usage => (d, .ofRefusal .usage)
  | .error refusal => (later d, .ofRefusal refusal)
  | .ok ⟨format, named, .table command⟩ =>
    let report := command.run (d.surroundings environment.home second) format named
    let ending := Ending.ofReport report
    let d := d.after report
    (if ending.output = "" then d else later d, ending)
  | .ok ⟨format, _, .watch w⟩ =>
    let ls := w.lines environment.settings format
      (fun printed => if printed = 0 then d.look else (later d).look) ticks
    (if ls.isEmpty then d else later d, .success (RunTable.Command.lines ls))

end RunTable.Command
