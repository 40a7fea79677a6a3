import LogSieve.Command.Options

/-! Reading a command line, word by word. A word that begins with a hyphen is an option and never the
value of the option before it; two hyphens end the options. -/

namespace LogSieve.Command
variable {α : Type}

def refuse {β : Type} : Outcome β := .error .refused

def accept (result : Option α) : Outcome α :=
  match result with
  | some settings => .ok settings
  | none => .error .refused

def detached (apply : α → String → Option α) (settings : α) : List String → Outcome (α × List String)
  | [] => refuse
  | word :: words =>
    if word.startsWith "-" && word != "-" then refuse
    else do return (← accept (apply settings word), words)

/-- An option by its long name, perhaps with a value behind an equals sign. -/
def longOption (scope : Scope α) (settings : α) (body : List Char) (words : List String) :
    Outcome (α × List String) :=
  let name := body.takeWhile (· != '=')
  match scope.long (String.ofList name), body.dropWhile (· != '=') with
  | none, _ => refuse
  | some .help, [] => .error .help
  | some .version, [] => .error .version
  | some (.flag apply), [] => do return (← accept (apply settings), words)
  | some (.value apply), [] => detached apply settings words
  | some (.value apply), _ :: value => do return (← accept (apply settings (String.ofList value)), words)
  | some _, _ :: _ => refuse

/-- Letters behind one hyphen. The first that takes a value takes the rest of the word, less an equals
sign in front, or else the next word. -/
def letters (scope : Scope α) (settings : α) (words : List String) :
    List Char → Outcome (α × List String)
  | [] => .ok (settings, words)
  | letter :: rest =>
    match scope.short letter with
    | none => refuse
    | some .help => .error .help
    | some .version => .error .version
    | some (.flag apply) => do letters scope (← accept (apply settings)) words rest
    | some (.value apply) =>
      match rest with
      | [] => detached apply settings words
      | '=' :: value => do return (← accept (apply settings (String.ofList value)), words)
      | value => do return (← accept (apply settings (String.ofList value)), words)

/-- An option at the front of the words; nothing if the word there is none. -/
def option? (scope : Scope α) (settings : α) (word : String) (words : List String) :
    Option (Outcome (α × List String)) :=
  match word.toList with
  | '-' :: '-' :: body => some (longOption scope settings body words)
  | ['-'] => none
  | '-' :: body => some (letters scope settings words body)
  | _ => none

def operands (take : α → String → Option α) (settings : α) (words : List String) : Outcome α :=
  words.foldlM (fun settings word => accept (take settings word)) settings

/-- Read all words after a subcommand. No word is read twice, so the number of words is fuel
enough. -/
def readWords (scope : Scope α) (take : α → String → Option α) :
    Nat → α → List String → Outcome α
  | _, settings, [] => .ok settings
  | 0, _, _ => refuse
  | fuel + 1, settings, word :: words =>
    if word == "--" then operands take settings words
    else
      match option? scope settings word words with
      | some outcome => do
        let (settings, words) ← outcome
        readWords scope take fuel settings words
      | none => do readWords scope take fuel (← accept (take settings word)) words

def readAll (scope : Scope α) (take : α → String → Option α) (start : α) (words : List String) :
    Outcome α :=
  readWords scope take words.length start words

def takeText (settings : Common × Option String) (word : String) : Option (Common × Option String) :=
  once settings.2 (some word) fun text => (settings.1, text)

/-- The settings of both places together with the profile that the environment names. The line goes
before the environment; but an empty name there is refused as long as one of the places names
no profile. -/
def settle (environment : Option String) (outer inner : Common) : Outcome Common :=
  let common := outer.override inner
  if environment == some "" && !(outer.profile.isSome && inner.profile.isSome) then refuse
  else .ok { common with profile := common.profile.or environment }

def subcommand (environment : Option String) (outer : Common) (name : String) (words : List String) :
    Outcome Invocation :=
  match name with
  | "parse" => do
    let (inner, text) ← readAll plainScope takeText ({}, none) words
    return { common := ← settle environment outer inner, task := .parse (← accept text) }
  | "compile" => do
    let (inner, controls) ← readAll compileScope (fun _ _ => none) ({}, {}) words
    if controls.agree then
      return { common := ← settle environment outer inner, task := .compile controls }
    else refuse
  | "columns" => do
    let (inner, ()) ← readAll plainScope (fun _ _ => none) ({}, ()) words
    return { common := ← settle environment outer inner, task := .columns }
  | "help" =>
    match words with
    | [] => .error .help
    | [name] =>
      if name ∈ ["parse", "compile", "columns", "help"] then .error .help else refuse
    | _ => refuse
  | _ => refuse

def readOuter (environment : Option String) : Nat → Common → List String → Outcome Invocation
  | _, _, [] => refuse
  | 0, _, _ => refuse
  | fuel + 1, common, word :: words =>
    if word == "--" then refuse
    else
      match option? outerScope common word words with
      | some outcome => do
        let (common, words) ← outcome
        readOuter environment fuel common words
      | none => subcommand environment common word words

/-- What a command line asks for. `environment` is the profile that the environment names. -/
def read (environment : Option String) (words : List String) : Outcome Invocation :=
  readOuter environment words.length {} words

end LogSieve.Command
