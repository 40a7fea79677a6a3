import LogSieve.Command.Line
import LogSieve.Filter.Json
import LogSieve.Filter.Clause
import LogSieve.Json.Printer
import LogSieve.Profile.File
import LogSieve.Report.Text
import LogSieve.Text.Capital

/-! Carrying out a command line. All that the outside decides is in `Surroundings`; what comes out is
an exit code and the texts for the two outputs. -/

namespace LogSieve.Command

/-- What a run can see of the world. -/
structure Surroundings where
  environment : String → Option String
  file : String → Except Profile.ReadFailure String
  now : Moment
  /-- Whether the output is a terminal. -/
  terminal : Bool

structure Result where
  exit : UInt8
  output : String := ""
  errors : String := ""

/-- Why a run ends without a report. -/
inductive Failure where
  | profile (cause : Profile.LoadError)
  | page (cause : Sql.Error)
  | rejected (cause : Sql.Error)
  /-- The time range reaches back before the calendar. -/
  | tooLongAgo

/-- The chain of causes, the outermost first. A defect has none: the run breaks off. -/
def Failure.causes : Failure → List String
  | profile cause =>
    "Failed to load config" :: cause.message ::
      match cause with
      | .unreadable _ failure => [failure.message]
      | .unparsed _ cause => ["TOML parse error" ++ cause.elim "" (": " ++ ·)]
      | .flawed _ _ => []
  | page cause => if cause.isDefect then [] else ["Invalid pagination", cause.message]
  | rejected cause => ["Compiled query was rejected", cause.message]
  | tooLongAgo => []

def indented (margin : Nat) (text : String) : String :=
  String.ofList <| text.toList.flatMap fun c =>
    if c == '\n' then '\n' :: List.replicate margin ' ' else [c]

def numberedCauses (first : Nat) : List String → List String
  | [] => []
  | cause :: causes =>
    ("\n    " ++ toString first ++ ": " ++ indented 7 cause) :: numberedCauses (first + 1) causes

/-- A chain of causes as it is reported: a single cause is indented, several are counted. -/
def causesText : List String → String
  | [] => ""
  | [context] => "Error: " ++ context ++ "\n"
  | [context, cause] => "Error: " ++ context ++ "\n\nCaused by:\n    " ++ indented 4 cause ++ "\n"
  | context :: causes =>
    "Error: " ++ context ++ "\n\nCaused by:" ++ String.join (numberedCauses 0 causes) ++ "\n"

/-- Whether the reports are coloured. A variable that is `0` forces nothing. -/
def coloured (surroundings : Surroundings) : ColourMode → Bool
  | .always => true
  | .never => false
  | .auto =>
    if (surroundings.environment "CLICOLOR_FORCE").any (· != "0") then true
    else if (surroundings.environment "NO_COLOR").isSome then false
    else surroundings.terminal && (surroundings.environment "CLICOLOR").all (· != "0")

def Controls.filter (controls : Controls) (now : Moment) : Except Failure Filter := do
  let start ← match controls.lastHours with
    | none => pure controls.start
    | some hours =>
      match Filter.TimeRange.lastHours? hours now with
      | some range => pure range.start
      | none => throw .tooLongAgo
  return {
    crawler := Filter.Predicate.ofValues? controls.crawlers
    path := Filter.Predicate.ofValues? controls.paths
    method := .ofList (controls.methods.map Text.upper)
    status := .ofList controls.statuses
    time := { start, stop := controls.stop } }

def Controls.wantedPage? (controls : Controls) (profile : Profile) : Option Sql.Page :=
  if controls.page.isNone && controls.pageSize.isNone then none
  else some
    { number := controls.page.getD 1, size := controls.pageSize.getD profile.pages.defaultSize }

def Controls.statement (controls : Controls) (profile : Profile) (compiler : Sql.Compiler)
    (filter : Filter) : Except Sql.Error Sql.Statement :=
  let request : Sql.SortRequest := { column := controls.sort, direction := controls.order }
  if controls.count then pure (compiler.count filter controls.scope)
  else if controls.histogram then
    pure (compiler.histogram filter controls.scope (controls.bucket.getD profile.bucket))
  else
    match controls.wantedPage? profile with
    | some page => compiler.page filter request controls.scope page
    | none => pure (compiler.rows filter request controls.scope)

def Controls.request (controls : Controls) (profile : Profile) (filter : Filter) :
    Except Failure Sql.Request := do
  let compiler ← profile.compiler.mapError .page
  let statement ← (controls.statement profile compiler filter).mapError .page
  (Sql.Request.ofStatement statement profile.rowLimit).mapError .rejected

def chipJson (chip : Filter.Chip) : Json :=
  .object [("label", .string chip.label), ("key", .string chip.key)]

def report (format : Format) (colour : Bool) (filter : Filter) (request : Option Sql.Request) : String :=
  match format with
  | .json =>
    (Json.object <| [("model", filter.toJson), ("chips", .array (filter.chips.map chipJson))] ++
      (request.map fun request => ("request", request.toJson)).toList).pretty ++ "\n"
  | .text =>
    Report.chipsText colour filter.chips ++ request.elim "" (Report.requestText colour)

def columnsReport (format : Format) (colour : Bool) : String :=
  match format with
  | .json => Report.columnsJson.pretty ++ "\n"
  | .text => Report.columnsText colour

/-- The end of a run that failed. Where there is nothing to report the run breaks off. -/
def failed (warnings : String) (failure : Failure) : Result :=
  match failure.causes with
  | [] => { exit := 101, errors := warnings }
  | causes => { exit := 1, errors := warnings ++ causesText causes }

def runTask (surroundings : Surroundings) (common : Common) (profile : Profile) (task : Task) : Result :=
  let colour := coloured surroundings (common.colour.getD .auto)
  let format := common.format.getD .text
  let warnings (filter : Filter) : String :=
    if common.quiet then "" else Report.warningsText colour filter
  match task with
  | .parse text =>
    let filter := Filter.ofText text
    { exit := 0, output := report format colour filter none, errors := warnings filter }
  | .compile controls =>
    match controls.filter surroundings.now with
    | .error failure => failed "" failure
    | .ok set =>
      let filter := controls.query.elim set set.refine
      match controls.request profile filter with
      | .error failure => failed (warnings filter) failure
      | .ok request =>
        { exit := 0, output := report format colour filter (some request), errors := warnings filter }
  | .columns => { exit := 0, output := columnsReport format colour }

def runInvocation (surroundings : Surroundings) (invocation : Invocation) : Result :=
  let profile : Except Profile.LoadError Profile := match invocation.common.profile with
    | none => .ok {}
    | some path => Profile.ofFile path (surroundings.file path)
  match profile with
  | .error cause => failed "" (.profile cause)
  | .ok profile => runTask surroundings invocation.common profile invocation.task

def versionText : String := "log-query 0.1.0\n"

def usageText : String := "Usage: log-query [OPTIONS] <parse|compile|columns>\n"

def run (surroundings : Surroundings) (words : List String) : Result :=
  match read (surroundings.environment "LOG_QUERY_CONFIG") words with
  | .error .refused => { exit := 2, errors := usageText }
  | .error .help => { exit := 0, output := usageText }
  | .error .version => { exit := 0, output := versionText }
  | .ok invocation => runInvocation surroundings invocation

end LogSieve.Command
