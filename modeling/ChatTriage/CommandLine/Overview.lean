import ChatTriage.Console
import ChatTriage.Filter
import ChatTriage.Json.Query

/-!
# The overview of filters

A table with a row for each filter: what it looks for, and how often and when it last accepted a
message.
-/

namespace ChatTriage

/-- A time range in short: its ends, an asterisk standing for an end that is open. -/
def TimeRange.brief (r : TimeRange) : String :=
  side r.start ++ "-" ++ side r.stop
where
  side (clock : Json) : String :=
    if clock.truthy then clock.shown else "*"

namespace Filter

/-- What a filter looks for, one piece for each kind of condition. -/
def conditions (f : Filter) : List String :=
  (if f.authors.isEmpty then [] else ["authors:" ++ toString f.authors.length]) ++
  (if f.keywords.isEmpty then []
    else ["keywords(" ++ f.keywordMode.name ++ "):" ++ ", ".intercalate f.keywords]) ++
  (if f.messageTypes.isEmpty then []
    else ["types:" ++ ",".intercalate (f.messageTypes.map ContentType.name)]) ++
  (match f.timeRange with
    | some r => ["time:" ++ r.brief]
    | none => [])

/-- What a filter looks for; without any condition it accepts every message. -/
def brief (f : Filter) : String :=
  if f.conditions.isEmpty then "(catch-all)" else "; ".intercalate f.conditions

end Filter

namespace CommandLine

/-- The row of a filter. -/
def overviewRow (f : Filter) : List String :=
  [f.name, if f.enabled then "yes" else "no", f.brief, toString f.stats.matched,
    match f.stats.lastMatch with
    | some t => t.wall.shortText
    | none => "-"]

/-- The table of all filters. -/
def overview (filters : List Filter) : Table where
  title := "Filters"
  columns := [("name", .left), ("enabled", .left), ("criteria", .left), ("matches", .right),
    ("last match", .left)]
  rows := filters.map overviewRow

end CommandLine

end ChatTriage
