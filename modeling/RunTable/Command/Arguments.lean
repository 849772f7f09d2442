import RunTable.KeyMap

/-!
Command lines. A word on a command line is the name of a subcommand, an option, the value of the
option before it, or an operand. Words are taken one after the other; a subcommand is entered when
its name stands where an operand could, and is not left again. After a word `--` there are only
operands. A word `help` in place of a subcommand asks about the one that the words after it name.
Which subcommands, options and operands there are is given by a `Grammar`.
-/

namespace RunTable.Command

/-- An option: its names, and whether it takes a value, of what form, and how often. -/
structure OptionSpec where
  long : String
  short : Option Char
  takesValue : Bool
  accepts : String → Bool
  repeatable : Bool
  required : Bool

/-- An operand: its form, whether it may be missing, and whether it takes all that are left. -/
structure OperandSpec where
  accepts : String → Bool
  many : Bool

/-- What may stand in a subcommand; the subcommands are named by values of type `ι`. -/
structure Grammar (ι : Type) where
  options : ι → List OptionSpec
  operands : ι → List OperandSpec
  subcommands : ι → List (String × ι)
  /-- Whether a subcommand may tell the version of the program. -/
  hasVersion : ι → Bool

/-- What was given in a subcommand: values by the long names of their options, and operands. -/
structure Given where
  values : List (String × String)
  operands : List String

namespace Given

def empty : Given := ⟨[], []⟩

def valuesOf (g : Given) (long : String) : List String :=
  (g.values.filter (·.1 = long)).map Prod.snd

def value? (g : Given) (long : String) : Option String := (g.valuesOf long).head?

end Given

/-- Why a command line is not carried out. -/
inductive Refusal where
  | usage
  | help
  | version
  deriving DecidableEq

/-- How far a command line has been read. -/
structure Reading (ι : Type) where
  /-- The subcommands that were entered before the present one. -/
  entered : List (ι × Given)
  current : ι
  given : Given
  /-- The option whose value comes next. -/
  pending : Option OptionSpec
  /-- Whether only operands may come. -/
  operandsOnly : Bool
  /-- What is asked about, if anything is: a subcommand, or else how to ask. -/
  topic : Option (Option ι)

namespace Reading

variable {ι : Type}

def initial (program : ι) : Reading ι := ⟨[], program, .empty, none, false, none⟩

def addValue (r : Reading ι) (o : OptionSpec) (value : String) : Except Refusal (Reading ι) :=
  if !o.accepts value then .error .usage
  else if !o.repeatable && (r.given.value? o.long).isSome then .error .usage
  else .ok { r with
    given := { r.given with values := r.given.values ++ [(o.long, value)] }, pending := none }

/-- The place of the next operand. -/
def nextOperand? (g : Grammar ι) (r : Reading ι) : Option OperandSpec :=
  let specs := g.operands r.current
  match specs[r.given.operands.length]? with
  | some spec => some spec
  | none => specs.getLast?.filter (·.many)

def addOperand (g : Grammar ι) (r : Reading ι) (word : String) : Except Refusal (Reading ι) :=
  match r.nextOperand? g with
  | some spec =>
    if spec.accepts word then
      .ok { r with given := { r.given with operands := r.given.operands ++ [word] } }
    else .error .usage
  | none => .error .usage

/-- Takes a long option, with the value that is joined to it, if any. -/
def addLong (g : Grammar ι) (r : Reading ι) (name : String) (joined : Option String) :
    Except Refusal (Reading ι) :=
  match (g.options r.current).find? (·.long = name) with
  | some o =>
    match o.takesValue, joined with
    | true, some value => r.addValue o value
    | true, none => .ok { r with pending := some o }
    | false, none => r.addValue o ""
    | false, some _ => .error .usage
  | none =>
    if joined.isSome then .error .usage
    else if name = "help" then .error .help
    else if name = "version" && g.hasVersion r.current then .error .version
    else .error .usage

/-- Takes the letters of short options; what follows one that takes a value is its value, perhaps
after an equals sign. -/
def addShort (g : Grammar ι) (r : Reading ι) : List Char → Except Refusal (Reading ι)
  | [] => .ok r
  | letter :: rest =>
    match (g.options r.current).find? (·.short = some letter) with
    | some o =>
      if o.takesValue then
        match rest with
        | [] => .ok { r with pending := some o }
        | '=' :: value => r.addValue o (String.ofList value)
        | value => r.addValue o (String.ofList value)
      else
        match r.addValue o "" with
        | .ok r => addShort g r rest
        | .error e => .error e
    | none =>
      if letter = 'h' then .error .help
      else if letter = 'V' && g.hasVersion r.current then .error .version
      else .error .usage

/-- A word that is an option, cut into its name and the value that is joined to it. -/
def cutLong (s : List Char) : String × Option String :=
  let name := s.takeWhile (· ≠ '=')
  match s.dropWhile (· ≠ '=') with
  | [] => (String.ofList name, none)
  | _ :: value => (String.ofList name, some (String.ofList value))

/-- Takes a word that is neither an option nor a name of a subcommand. -/
def addPlain (g : Grammar ι) (r : Reading ι) (word : String) : Except Refusal (Reading ι) :=
  match r.pending with
  | some o => r.addValue o word
  | none => r.addOperand g word

def addWord (g : Grammar ι) (r : Reading ι) (word : String) : Except Refusal (Reading ι) :=
  match word.toList with
  | ['-', '-'] => .ok { r with operandsOnly := true }
  | '-' :: '-' :: name =>
    if r.pending.isSome then .error .usage
    else
      let (name, joined) := cutLong name
      r.addLong g name joined
  | '-' :: c :: letters =>
    if r.pending.isSome then .error .usage else r.addShort g (c :: letters)
  | _ => r.addPlain g word

/-- What a word asks about, next to a topic. -/
def topicAfter? (g : Grammar ι) (sub : ι) (word : String) : Option (Option ι) :=
  match g.subcommands sub with
  | [] => none
  | names => if word = "help" then some none else (valueAt word names).map some

/-- Takes a word of a command line that asks about nothing. -/
def addAny (g : Grammar ι) (r : Reading ι) (word : String) : Except Refusal (Reading ι) :=
  if r.operandsOnly then
    if r.pending.isSome then .error .usage else r.addOperand g word
  else if r.pending.isNone && !(g.subcommands r.current).isEmpty && word = "help" then
    .ok { r with topic := some (some r.current) }
  else
    match if r.pending.isNone then valueAt word (g.subcommands r.current) else none with
    | some sub => .ok ⟨r.entered ++ [(r.current, r.given)], sub, .empty, none, false, none⟩
    | none => r.addWord g word

def step (g : Grammar ι) (r : Reading ι) (word : String) : Except Refusal (Reading ι) :=
  match r.topic with
  | none => r.addAny g word
  | some topic =>
    match topic.bind (topicAfter? g · word) with
    | some next => .ok { r with topic := some next }
    | none => .error .usage

/-- Whether all that has to be given in a subcommand was given. -/
def complete (g : Grammar ι) (sub : ι) (given : Given) : Bool :=
  (g.options sub).all (fun o => !o.required || (given.value? o.long).isSome) &&
    ((g.operands sub).filter (! ·.many)).length ≤ given.operands.length

/-- The subcommands with what was given in each, if the command line is complete. -/
def finish (g : Grammar ι) (r : Reading ι) : Except Refusal (List (ι × Given)) :=
  let path := r.entered ++ [(r.current, r.given)]
  if r.topic.isSome then .error .help
  else if r.pending.isSome || !(g.subcommands r.current).isEmpty then .error .usage
  else if path.all fun (sub, given) => complete g sub given then .ok path
  else .error .usage

end Reading

/-- The subcommands that a command line enters, from the program on, with what it gives each. -/
def Grammar.read {ι : Type} (g : Grammar ι) (program : ι) (words : List String) :
    Except Refusal (List (ι × Given)) := do
  let r ← words.foldlM (Reading.step g) (Reading.initial program)
  r.finish g

end RunTable.Command
