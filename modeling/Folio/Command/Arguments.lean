import Folio.Disk.Path

/-! # Arguments

The arguments of the program: options for every command come first, then the command, then what belongs
to it.  An option is given once at most; its value stands in the next argument or after an equals
sign.  After two hyphens nothing is an option. -/

namespace Folio.Command

/-- How a redirect table is printed. -/
inductive TableFormat where
  | json
  | nginx
deriving DecidableEq, Repr

/-- What a command does. -/
inductive Action where
  | build
  | redirects (orphaned : Bool) (format : TableFormat)
  | audit (json : Bool)
  | paths (json : Bool)
  | render (path : String)
deriving DecidableEq, Repr

/-- What the program is asked to do. -/
structure Invocation where
  config : DiskPath
  verbose : Bool
  action : Action
deriving DecidableEq, Repr

/-- Why there is nothing to do: the arguments are not valid, or they ask for help. -/
inductive Refusal where
  | usage
  | help
deriving DecidableEq, Repr

/-- An argument as it is read: a flag, an option with its value, or a word. -/
inductive Item where
  | flag (name : String)
  | option (name value : String)
  | word (s : String)
deriving DecidableEq, Repr

/-- The options that take a value, the flags, each with its short form, and the flags that ask about the
program itself. -/
structure Options where
  valued : List String := []
  flags : List (String × Option Char) := []
  questions : List (String × Char) := [("help", 'h')]

/-- The flag of a letter. -/
def Options.short? (o : Options) (c : Char) : Option String :=
  (o.flags.find? fun f => f.2 == some c).map (·.1)

/-- Reads a long option; `rest` are the arguments after it. -/
def longOption (o : Options) (body : List Char) (rest : List String) :
    Except Refusal (Item × List String) :=
  let name := String.ofList (body.takeWhile (· != '='))
  let value := body.dropWhile (· != '=')
  if value = [] ∧ (o.questions.map (·.1)).contains name then .error .help
  else if o.valued.contains name then
    match value, rest with
    | _ :: v, _ => .ok (.option name (String.ofList v), rest)
    | [], v :: rest =>
      if v.toList.head? = some '-' ∧ v ≠ "-" then .error .usage else .ok (.option name v, rest)
    | [], [] => .error .usage
  else if value = [] ∧ (o.flags.map (·.1)).contains name then .ok (.flag name, rest)
  else .error .usage

/-- Reads short flags, which may stand together. -/
def shortFlags (o : Options) : List Char → Except Refusal (List Item)
  | [] => .ok []
  | c :: cs =>
    if (o.questions.map (·.2)).contains c then .error .help
    else
      match o.short? c with
      | some name => (shortFlags o cs).map (.flag name :: ·)
      | none => .error .usage

/-- Reads arguments as they come, words up to `words` of them; answers what is left then. -/
def items (o : Options) : Nat → Nat → List String → Except Refusal (List Item × List String)
  | 0, _, rest => .ok ([], rest)
  | _ + 1, _, [] => .ok ([], [])
  | steps + 1, words, arg :: rest =>
    match arg.toList with
    | ['-', '-'] =>
      if words < rest.length then .error .usage else .ok (rest.map .word, [])
    | '-' :: '-' :: body => do
      let (item, rest) ← longOption o body rest
      let (more, rest) ← items o steps words rest
      return (item :: more, rest)
    | '-' :: c :: cs => do
      let flags ← shortFlags o (c :: cs)
      let (more, rest) ← items o steps words rest
      return (flags ++ more, rest)
    | _ =>
      if words = 0 then .ok ([], arg :: rest)
      else do
        let (more, rest) ← items o steps (words - 1) rest
        return (.word arg :: more, rest)

namespace Item

/-- The name of an option or a flag. -/
def name? : Item → Option String
  | flag n | option n _ => some n
  | word _ => none

/-- The value of an option. -/
def value? (name : String) : Item → Option String
  | option n v => if n = name then some v else none
  | _ => none

end Item

/-- Whether nothing is given twice. -/
def givenOnce (xs : List Item) : Bool :=
  let names := xs.filterMap Item.name?
  names.eraseDups.length == names.length

/-- Reads all arguments of a command, which takes so many words. -/
def commandItems (o : Options) (words : Nat) (args : List String) : Except Refusal (List Item) := do
  let (xs, rest) ← items o (args.length + 1) words args
  if rest ≠ [] ∨ !givenOnce xs then throw .usage
  return xs

/-- The format that a word names. -/
def format? : String → Option TableFormat
  | "json" => some .json
  | "nginx" => some .nginx
  | _ => none

/-- Reads a command and its arguments. -/
def command (name : String) (args : List String) : Except Refusal Action :=
  let json : Options := { flags := [("json", none)] }
  match name with
  | "build" => (commandItems {} 0 args).map fun _ => .build
  | "redirects" => do
    let o : Options := { valued := ["format"], flags := [("orphaned", none)] }
    let xs ← commandItems o 0 args
    let orphaned := xs.contains (.flag "orphaned")
    match xs.findSome? (Item.value? "format") with
    | none => return .redirects orphaned .json
    | some word =>
      match format? word with
      | some format => return .redirects orphaned format
      | none => throw .usage
  | "audit" => (commandItems json 0 args).map fun xs => .audit (xs.contains (.flag "json"))
  | "paths" => (commandItems json 0 args).map fun xs => .paths (xs.contains (.flag "json"))
  | "render" => do
    let xs ← commandItems {} 1 args
    match xs with
    | [.word path] => return .render path
    | _ => throw .usage
  | "help" => .error .help
  | _ => .error .usage

/-- The configuration file without an option. -/
def defaultConfig : String := "vaultpress.yml"

/-- What some arguments ask for; `environment` names the configuration file where no option does. -/
def invocation (environment : Option String) (args : List String) : Except Refusal Invocation := do
  let o : Options :=
    { valued := ["config"]
      flags := [("verbose", some 'v')]
      questions := [("help", 'h'), ("version", 'V')] }
  let (xs, rest) ← items o (args.length + 1) 0 args
  if !givenOnce xs then throw .usage
  let config := (xs.findSome? (Item.value? "config")).getD (environment.getD defaultConfig)
  if config = "" then throw .usage
  match rest with
  | [] => throw .usage
  | name :: args =>
    return ⟨⟨config⟩, xs.contains (.flag "verbose"), ← command name args⟩

end Folio.Command
