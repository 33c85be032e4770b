/-
**Arguments.**

The arguments of the command line: a release's root and options, in any order. After `--` no
argument is an option.

* `Arguments.parse`: arguments from texts, or why the program ends before it starts.
-/

import CatalogPages.Text.Quoted

namespace CatalogPages

/-- The options that stand alone. -/
inductive Switch where
  | stdout
  | develop
  | verbose
  deriving DecidableEq, Repr

/-- An option's name. -/
def Switch.flag : Switch → String
  | stdout => "--stdout"
  | develop => "--develop"
  | verbose => "--verbose"

/-- The option that an argument is. -/
def Switch.ofFlag? : String → Option Switch
  | "--stdout" => some stdout
  | "--develop" => some develop
  | "--verbose" | "-v" => some verbose
  | _ => none

/-- What a command line asks for. -/
structure Arguments where
  root : String := "."
  config : Option String := none
  stdout : Bool := false
  develop : Bool := false
  verbose : Bool := false
  deriving DecidableEq, Repr

/-- Why a command line starts no run. -/
inductive Refusal where
  | help
  | unexpectedFlag (flag : String)
  | unexpectedArgument (argument : String)
  | missingValue (flag : String)
  | repeatedFlag (flag : String)
  deriving DecidableEq, Repr

namespace Refusal

/-- What the command line's options do. -/
def helpText : String :=
  "genpages
  Render a release tree's library catalog pages.

ARGS:
    [root]
      Root of the release tree. Defaults to the current directory.

OPTIONS:
    -c, --config <path>
      Read configuration from this TOML file.

    --stdout
      Print the rendered pages instead of rewriting the templates.

    --develop
      Render as a development snapshot.

    -v, --verbose
      Log debug events.

    -h, --help
      Prints help information.
"

def message : Refusal → String
  | help => helpText
  | unexpectedFlag flag => "unexpected flag: `" ++ flag ++ "`"
  | unexpectedArgument argument =>
    "unexpected argument: " ++ String.ofList (Text.quote argument.toList)
  | missingValue flag => "expected a value for `" ++ flag ++ "`"
  | repeatedFlag flag => "flag specified more than once: `" ++ flag ++ "`"

end Refusal

namespace Arguments

/-- One argument, with its value if it takes one. -/
inductive Item where
  | root (path : String)
  | config (path : String)
  | switch (option : Switch)
  deriving DecidableEq, Repr

/-- Whether an argument has the form of an option. -/
def isFlag (argument : String) : Bool :=
  argument.toList.head? == some '-'

/-- Reads arguments one by one: whether options have ended, and whether there is a root so far. -/
def items (ended rooted : Bool) : List String → Except Refusal (List Item)
  | [] => .ok []
  | argument :: rest =>
    if ended || !isFlag argument then
      if rooted then .error (.unexpectedArgument argument)
      else (items ended true rest).map (.root argument :: ·)
    else if argument = "--" then items true rooted rest
    else if argument = "--help" || argument = "-h" then .error .help
    else if argument = "--config" || argument = "-c" then
      match rest with
      | [] => .error (.missingValue argument)
      | path :: rest => (items ended rooted rest).map (.config path :: ·)
    else
      match Switch.ofFlag? argument with
      | some option => (items ended rooted rest).map (.switch option :: ·)
      | none => .error (.unexpectedFlag argument)

/-- Whether an option is there, which it may be once. -/
def once (items : List Item) (option : Switch) : Except Refusal Bool :=
  match items.count (.switch option) with
  | 0 => .ok false
  | 1 => .ok true
  | _ => .error (.repeatedFlag option.flag)

/-- The settings file that is asked for; there may be one. -/
def config? (items : List Item) : Except Refusal (Option String) :=
  match items.filterMap fun | .config path => some path | _ => none with
  | [] => .ok none
  | [path] => .ok (some path)
  | _ => .error (.repeatedFlag "--config")

/-- The root, if one is given. -/
def root? (items : List Item) : Option String :=
  items.findSome? fun | .root path => some path | _ => none

/-- What the texts of a command line ask for. -/
def parse (texts : List String) : Except Refusal Arguments := do
  let items ← items false false texts
  let config ← config? items
  let stdout ← once items .stdout
  let develop ← once items .develop
  let verbose ← once items .verbose
  return { root := (root? items).getD ".", config, stdout, develop, verbose }

end Arguments

end CatalogPages
