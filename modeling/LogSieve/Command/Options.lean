import LogSieve.Command.Invocation
import LogSieve.Text.Character

/-! Options and their values. An option is a flag or takes one value; `Scope` says which options a
part of the command line knows and what each does there. A refusal needs no reason here. -/

namespace LogSieve.Command

/-- What an option does to the settings read so far; `none` refuses it. -/
inductive Action (α : Type) where
  | flag (apply : α → Option α)
  | value (apply : α → String → Option α)
  | help
  | version

/-- The options that can be given at one place, by their long names and by their letters. -/
structure Scope (α : Type) where
  long : String → Option (Action α)
  short : Char → Option (Action α)

inductive Stop where
  | refused
  | help
  | version

abbrev Outcome (α : Type) := Except Stop α

def once {α β : Type} (present : Option β) (value : Option β) (set : Option β → α) : Option α :=
  match present, value with
  | none, some value => some (set (some value))
  | _, _ => none

def switch {α : Type} (present : Bool) (on : α) : Option α := if present then none else some on

def signed? : List Char → Option Int
  | '-' :: digits => (Text.decimal? digits).map fun n => -(n : Int)
  | '+' :: digits => (Text.decimal? digits).map Int.ofNat
  | digits => (Text.decimal? digits).map Int.ofNat

def uint16? (text : String) : Option UInt16 :=
  (signed? text.toList).bind fun n =>
    if 0 ≤ n ∧ n < 65536 then some (UInt16.ofNat n.toNat) else none

def uint32? (text : String) : Option UInt32 :=
  (signed? text.toList).bind fun n =>
    if 0 ≤ n ∧ n < 4294967296 then some (UInt32.ofNat n.toNat) else none

def Format.ofName? : String → Option Format
  | "text" => some text
  | "json" => some json
  | _ => none

def ColourMode.ofName? : String → Option ColourMode
  | "auto" => some auto
  | "always" => some always
  | "never" => some never
  | _ => none

def path? (text : String) : Option String := if text.isEmpty then none else some text

namespace Common

def setQuiet (common : Common) : Option Common := switch common.quiet { common with quiet := true }

/-- Verbosity shows in no report, so it may be asked for any number of times. -/
def setVerbose (common : Common) : Option Common := some common

def action? : String → Option (Action Common)
  | "config" => some <| .value fun c v => once c.profile (path? v) fun x => { c with profile := x }
  | "format" => some <| .value fun c v => once c.format (Format.ofName? v) fun x => { c with format := x }
  | "color" => some <| .value fun c v => once c.colour (ColourMode.ofName? v) fun x => { c with colour := x }
  | "verbose" => some <| .flag setVerbose
  | "quiet" => some <| .flag setQuiet
  | "help" => some .help
  | _ => none

def letter? : Char → Option (Action Common)
  | 'v' => some <| .flag setVerbose
  | 'q' => some <| .flag setQuiet
  | 'h' => some .help
  | _ => none

end Common

namespace Controls

def setQuery (controls : Controls) (text : String) : Option Controls :=
  once controls.query (some text) fun x => { controls with query := x }

def action? : String → Option (Action Controls)
  | "query" => some <| .value setQuery
  | "method" => some <| .value fun c v => some { c with methods := c.methods ++ [v] }
  | "status" => some <| .value fun c v => (uint16? v).map fun n => { c with statuses := c.statuses ++ [n] }
  | "crawler" => some <| .value fun c v => some { c with crawlers := c.crawlers ++ [v] }
  | "path" => some <| .value fun c v => some { c with paths := c.paths ++ [v] }
  | "start" => some <| .value fun c v => once c.start (some v) fun x => { c with start := x }
  | "end" => some <| .value fun c v => once c.stop (some v) fun x => { c with stop := x }
  | "last-hours" => some <| .value fun c v => once c.lastHours (uint32? v) fun x => { c with lastHours := x }
  | "scope" => some <| .value fun c v => once c.scope (some v) fun x => { c with scope := x }
  | "sort" => some <| .value fun c v => once c.sort (some v) fun x => { c with sort := x }
  | "order" => some <| .value fun c v => once c.order (some v) fun x => { c with order := x }
  | "page" => some <| .value fun c v => once c.page (uint32? v) fun x => { c with page := x }
  | "page-size" => some <| .value fun c v => once c.pageSize (uint32? v) fun x => { c with pageSize := x }
  | "count" => some <| .flag fun c => switch c.count { c with count := true }
  | "histogram" => some <| .flag fun c => switch c.histogram { c with histogram := true }
  | "bucket" => some <| .value fun c v => once c.bucket (Sql.Bucket.ofName? v) fun x => { c with bucket := x }
  | _ => none

def letter? : Char → Option (Action Controls)
  | 'e' => some <| .value setQuery
  | _ => none

/-- Whether the controls go together. A start excludes a number of hours. A count, a histogram and a
page exclude one another; a bucket asks for a histogram, unless one of the others stands in its
place. -/
def agree (controls : Controls) : Bool :=
  let paged := controls.page.isSome || controls.pageSize.isSome
  !(controls.start.isSome && controls.lastHours.isSome) &&
    !(controls.count && (controls.histogram || paged)) &&
    !(controls.histogram && paged) &&
    !(controls.bucket.isSome && !(controls.histogram || controls.count || paged))

end Controls

/-- The same option where more is read than it is about. -/
def Action.within {α β : Type} (get : β → α) (set : β → α → β) : Action α → Action β
  | .flag apply => .flag fun whole => (apply (get whole)).map (set whole)
  | .value apply => .value fun whole text => (apply (get whole) text).map (set whole)
  | .help => .help
  | .version => .version

def outerScope : Scope Common where
  long name := if name == "version" then some .version else Common.action? name
  short letter := if letter == 'V' then some .version else Common.letter? letter

/-- After a subcommand without options of its own; `α` holds its words. -/
def plainScope {α : Type} : Scope (Common × α) where
  long name := (Common.action? name).map (Action.within Prod.fst fun whole common => (common, whole.2))
  short letter := (Common.letter? letter).map (Action.within Prod.fst fun whole common => (common, whole.2))

/-- After the subcommand that builds a statement. -/
def compileScope : Scope (Common × Controls) where
  long name := ((Controls.action? name).map (Action.within Prod.snd fun whole controls => (whole.1, controls))).or
    (plainScope.long name)
  short letter := ((Controls.letter? letter).map (Action.within Prod.snd fun whole controls => (whole.1, controls))).or
    (plainScope.short letter)

end LogSieve.Command
