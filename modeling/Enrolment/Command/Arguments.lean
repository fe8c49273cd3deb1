import Enrolment.Command
import Enrolment.Text.Split

/-!
Command lines. An option takes its value behind an equals sign or from the next argument, which may
then not look like an option itself; no option may be given twice. The common options may stand on
both sides of the command's name, and those behind it win.
-/

namespace Enrolment

inductive Declined where
  | misuse
  | help
  | version
  deriving DecidableEq, Repr

inductive ValueKind where
  | text
  | path
  | number
  deriving DecidableEq, Repr

def ValueKind.accepts (kind : ValueKind) (value : String) : Bool :=
  match kind with
  | text => true
  | path => value ≠ ""
  | number => (readNumber value.toList).toOption.isSome

/-- An option: its name, a letter for short, and its value unless it is a mere flag. -/
structure OptionForm where
  name : String
  letter : Option Char := none
  value : Option ValueKind := none
  deriving DecidableEq, Repr

/-- A part of the command line in which some options and further arguments are known. -/
structure Level where
  options : List OptionForm
  takesFile : Bool
  commands : List String
  deriving DecidableEq, Repr

/-- What is read of a part of the command line. -/
structure Given where
  /-- The options so far with their values, empty for flags. -/
  options : List (String × String) := []
  file : Option String := none
  /-- An option that waits for its value. -/
  waiting : Option (String × ValueKind) := none
  deriving DecidableEq, Repr

namespace Given

def put (given : Given) (name : String) (kind : ValueKind) (value : String) :
    Except Declined Given :=
  if kind.accepts value && (given.options.lookup name).isNone then
    .ok { given with options := (name, value) :: given.options, waiting := none }
  else
    .error .misuse

def option (given : Given) (form : OptionForm) (value : Option String) :
    Except Declined Given :=
  match form.value, value with
  | none, none => given.put form.name .text ""
  | none, some _ => .error .misuse
  | some kind, some value => given.put form.name kind value
  | some kind, none => .ok { given with waiting := some (form.name, kind) }

def argument (given : Given) (level : Level) (text : String) : Except Declined Given :=
  match given.waiting with
  | some (name, kind) => given.put name kind text
  | none =>
      if level.takesFile && given.file = none && text ≠ "" then
        .ok { given with file := some text }
      else
        .error .misuse

def settled (given : Given) : Except Declined Given :=
  if given.waiting.isSome then .error .misuse else .ok given

def value? (given : Given) (name : String) : Option String :=
  given.options.lookup name

def isSet (given : Given) (name : String) : Bool :=
  (given.value? name).isSome

def number? (given : Given) (name : String) : Option Nat :=
  (given.value? name).bind fun value => (readNumber value.toList).toOption

end Given

namespace Level

def long (level : Level) (given : Given) (cs : List Char) : Except Declined Given := do
  let given ← given.settled
  let (name, value) := Text.cutAt '=' cs
  match level.options.find? fun form => form.name.toList = name with
  | some form => given.option form (value.map String.ofList)
  | none =>
      if name = "help".toList && value = none then throw .help
      else if name = "version".toList && value = none && level.commands ≠ [] then throw .version
      else throw .misuse

/-- Options given by letters. One that takes a value takes the rest of the letters. -/
def short (level : Level) (given : Given) : List Char → Except Declined Given
  | [] => .ok given
  | c :: cs =>
      match level.options.find? fun form => form.letter = some c with
      | some form =>
          if form.value = none then
            match given.option form none with
            | .ok given => short level given cs
            | .error declined => .error declined
          else if cs = [] then given.option form none
          else
            let value := if cs.head? = some '=' then cs.drop 1 else cs
            given.option form (some (String.ofList value))
      | none =>
          if c = 'h' then .error .help
          else if c = 'V' && level.commands ≠ [] then .error .version
          else .error .misuse

def read (level : Level) (verbatim : Bool) (given : Given) :
    List String → Except Declined (Given × Option (String × List String))
  | [] => given.settled.map fun given => (given, none)
  | arg :: args =>
      let goOn (verbatim : Bool) (next : Except Declined Given) :
          Except Declined (Given × Option (String × List String)) :=
        match next with
        | .ok given => read level verbatim given args
        | .error declined => .error declined
      if verbatim then
        goOn true (given.settled.bind (·.argument level arg))
      else if given.waiting = none && level.commands.contains arg then
        .ok (given, some (arg, args))
      else
        match arg.toList with
        | ['-', '-'] => goOn true given.settled
        | '-' :: '-' :: cs => goOn false (level.long given cs)
        | '-' :: c :: cs => goOn false (given.settled.bind (level.short · (c :: cs)))
        | _ => goOn false (given.argument level arg)

end Level

namespace Invocation

def commonForms : List OptionForm :=
  [{ name := "config", value := some .path }, { name := "base-url", value := some .text },
    { name := "api-key", value := some .text }, { name := "delimiter", value := some .text },
    { name := "log-level", value := some .text }, { name := "log-json" }]

def outerLevel : Level :=
  { options := commonForms, takesFile := false,
    commands := ["template", "validate", "import", "help"] }

def innerLevel (command : String) : Level :=
  if command = "template" then
    { options := { name := "output", letter := some 'o', value := some .path } :: commonForms,
      takesFile := false, commands := [] }
  else if command = "validate" then
    { options := { name := "json" } :: commonForms, takesFile := true, commands := [] }
  else
    { options :=
        [{ name := "concurrency", value := some .number },
          { name := "timeout", value := some .number }, { name := "results", value := some .path },
          { name := "json" }] ++ commonForms,
      takesFile := true, commands := [] }

def commonOptions (outer inner : Given) : CommonOptions :=
  let value? (name : String) : Option String := (inner.value? name).or (outer.value? name)
  { config := value? "config", baseUrl := value? "base-url", apiKey := value? "api-key",
    delimiter := value? "delimiter", logLevel := value? "log-level",
    logJson := inner.isSet "log-json" || outer.isSet "log-json" }

def command? (name : String) (given : Given) : Option Command :=
  if name = "template" then
    some (.template (given.value? "output"))
  else
    given.file.map fun file =>
      if name = "validate" then
        .validate file (given.isSet "json")
      else
        .submit file
          { concurrency := given.number? "concurrency", timeout := given.number? "timeout",
            results := given.value? "results", json := given.isSet "json" }

def helpOn (args : List String) : Declined :=
  if args.length ≤ 1 && args.all outerLevel.commands.contains then .help else .misuse

def parse (args : List String) : Except Declined Invocation := do
  match ← outerLevel.read false {} args with
  | (_, none) => throw .misuse
  | (outer, some (name, rest)) =>
      if name = "help" then
        throw (helpOn rest)
      let (inner, _) ← (innerLevel name).read false {} rest
      match command? name inner with
      | some command => return ⟨commonOptions outer inner, command⟩
      | none => throw .misuse

end Invocation
end Enrolment
