/-! Stretches of time for histograms. -/

namespace LogSieve.Sql

/-- The width of a histogram's bars. -/
inductive Bucket where
  | minute
  | hour
  | day
  | month
  deriving DecidableEq

namespace Bucket

instance : Inhabited Bucket := ⟨hour⟩

def all : List Bucket := [minute, hour, day, month]

def name : Bucket → String
  | minute => "minute"
  | hour => "hour"
  | day => "day"
  | month => "month"

def ofName? (name : String) : Option Bucket := all.find? (·.name == name)

def expression : Bucket → String
  | minute => "strftime('%Y-%m-%d %H:%M', time)"
  | hour => "strftime('%Y-%m-%d %H:00', time)"
  | day => "strftime('%Y-%m-%d', time)"
  | month => "strftime('%Y-%m', time)"

end Bucket

end LogSieve.Sql
