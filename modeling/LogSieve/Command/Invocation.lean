import LogSieve.Sql.Bucket

/-! What a command line asks for. -/

namespace LogSieve.Command

inductive Format where
  | text
  | json
  deriving DecidableEq

inductive ColourMode where
  | auto
  | always
  | never
  deriving DecidableEq

/-- Settings that may stand before the subcommand and after it. What is not given is absent. -/
structure Common where
  profile : Option String := none
  format : Option Format := none
  colour : Option ColourMode := none
  quiet : Bool := false

def Common.override (common later : Common) : Common :=
  { profile := later.profile.or common.profile
    format := later.format.or common.format
    colour := later.colour.or common.colour
    quiet := later.quiet || common.quiet }

structure Controls where
  query : Option String := none
  methods : List String := []
  statuses : List UInt16 := []
  crawlers : List String := []
  paths : List String := []
  start : Option String := none
  stop : Option String := none
  lastHours : Option UInt32 := none
  scope : Option String := none
  sort : Option String := none
  order : Option String := none
  page : Option UInt32 := none
  pageSize : Option UInt32 := none
  count : Bool := false
  histogram : Bool := false
  bucket : Option Sql.Bucket := none

inductive Task where
  | parse (text : String)
  | compile (controls : Controls)
  | columns

structure Invocation where
  common : Common
  task : Task

end LogSieve.Command
