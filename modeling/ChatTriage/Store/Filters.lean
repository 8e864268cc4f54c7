import ChatTriage.Filter.Document
import ChatTriage.Store.Cell

/-!
# The table of filters

One row per filter, by ascending id, with unique names. Ids are given once and in increasing order.
Saving a definition leaves the stats of its row alone, and storing stats leaves the definition
alone. Rows that cannot be read as filters are passed over.
-/

namespace ChatTriage.Store

/-- A row of the table. -/
structure FilterRow where
  id : Int
  name : String
  enabled : Cell
  matched : Cell
  lastMatch : Cell
  document : Document
  deriving DecidableEq, Repr

/-- The table: its rows by ascending id, and the last id that was given. -/
structure FilterTable where
  rows : List FilterRow := []
  lastId : Int := 0
  deriving DecidableEq, Repr

/-- A change to the columns of a row that are not part of its definition. -/
inductive Change where
  | enabled (value : Bool)
  | stats (matched : Json) (lastMatch : Option DateTime)
  | unsupported (name : String)
  deriving DecidableEq, Repr

/-- The change that stores stats. -/
def Change.ofStats (stats : FilterStats) : Change :=
  .stats (.int stats.matched) stats.lastMatch

namespace FilterRow

/-- The document of a row with the values of its columns in it. -/
def fill (r : FilterRow) (raw : Json) : Except Fault Json :=
  match raw with
  | .obj fields =>
    let fields := Json.put fields "id" (.int r.id)
    let fields := Json.put fields "name" (.str r.name)
    let fields := Json.put fields "enabled" (.bool r.enabled.toJson.truthy)
    .ok (.obj (Json.put fields "stats"
      (.obj [("matches", r.matched.toJson), ("lastMatch", r.lastMatch.toJson)])))
  | .arr _ => .error (.wrongKind .listByName)
  | raw => .error (.wrongKind (.notNested raw.kindName))

/-- The filter of a row. -/
def load (r : FilterRow) : Except Fault Filter := do
  Filter.ofJson (← r.fill (← r.document.read))

end FilterRow

/-- The filters of rows; a row with a malformed definition is passed over. -/
def loadAll : List FilterRow → Except Fault (List Filter)
  | [] => .ok []
  | r :: rows =>
    match r.load with
    | .ok f => (loadAll rows).map (f :: ·)
    | .error e => if e.isMalformed then loadAll rows else .error e

namespace FilterTable

/-- The rows that are enabled. -/
def enabledRows (t : FilterTable) : List FilterRow :=
  t.rows.filter (·.enabled = .int 1)

/-- The rows whose id is equal to a cell. -/
def rowsWithId (t : FilterTable) (id : Cell) : List FilterRow :=
  t.rows.filter (id.isId ·.id)

/-- A name is taken by a row other than those with an id. -/
def nameTaken (t : FilterTable) (name : String) (except : Cell) : Bool :=
  t.rows.any fun r => r.name = name && !except.isId r.id

/-- Adds a row with a fresh id. -/
def insert (t : FilterTable) (row : Int → FilterRow) : FilterTable :=
  let id := t.lastId + 1
  { rows := t.rows ++ [row id], lastId := id }

/-- Changes the rows whose id is equal to a cell. -/
def updateRows (t : FilterTable) (id : Cell) (change : FilterRow → FilterRow) : FilterTable :=
  { t with rows := t.rows.map fun r => if id.isId r.id then change r else r }

end FilterTable

/-- A truth value in a column. -/
def Cell.ofBool (b : Bool) : Cell := .int (if b then 1 else 0)

/-- The filters of the selected rows, if there is a table. -/
def queryFilters (t : Option FilterTable) (select : FilterTable → List FilterRow) :
    Except Fault (List Filter) :=
  match t with
  | none => .error (.store (.filterQuery (.noTable "filters")))
  | some t => loadAll (select t)

/-- The enabled filters. -/
def enabledFilters (t : Option FilterTable) : Except Fault (List Filter) :=
  queryFilters t FilterTable.enabledRows

/-- All filters. -/
def allFilters (t : Option FilterTable) : Except Fault (List Filter) :=
  queryFilters t FilterTable.rows

/-- The fault of a query. -/
def filterQueryFault (cause : SqlFault) : Fault := .store (.filterQuery cause)

/-- The filter whose name is equal to a value. -/
def filterMatching (t : Option FilterTable) (name : Json) : Except Fault (Option Filter) := do
  if t.isNone then throw (filterQueryFault (.noTable "filters"))
  let name ← Cell.bind filterQueryFault 1 name
  let found ← queryFilters t fun t => t.rows.filter fun r => name.textual? = some r.name
  return found.head?

/-- The filter with a name. -/
def filterNamed (t : Option FilterTable) (name : String) : Except Fault (Option Filter) := do
  if t.isNone then throw (filterQueryFault (.noTable "filters"))
  bindText name
  let found ← queryFilters t fun t => t.rows.filter (·.name = name)
  return found.head?

/-- Puts the texts of a filter into a statement. -/
def bindFilter (f : Filter) : Except Fault Unit := do
  bindText f.name
  bindDocument (.obj f.definition)

/-- Inserts a filter without an id, or changes the definition of the row with its id. Gives the
table and the id of the row. -/
def FilterTable.write (t : FilterTable) (f : Filter) : Except Fault (FilterTable × Cell) :=
  let document := Document.written (.obj f.definition)
  let taken : Except Fault (FilterTable × Cell) := .error (.duplicate (.filterName f.name))
  if f.id = .null then
    if t.nameTaken f.name .null then taken
    else
      let t := t.insert fun id => ⟨id, f.name, .ofBool f.enabled, .int 0, .null, document⟩
      .ok (t, .int t.lastId)
  else
    match Cell.bind (.store <| .filterSave ·) 4 f.id with
    | .error e => .error e
    | .ok id =>
      if (t.rowsWithId id).isEmpty then .error (.store (.noFilter f.id))
      else if t.nameTaken f.name id then taken
      else .ok (t.updateRows id fun r =>
        { r with name := f.name, enabled := .ofBool f.enabled, document }, id)

/-- Writes a filter into the table, if there is one. -/
def writeFilter (t : Option FilterTable) (f : Filter) : Except Fault (FilterTable × Cell) :=
  match t with
  | none => .error (.store (.filterSave (.noTable "filters")))
  | some t => do
    bindFilter f
    t.write f

/-- The row that was written, read back as a filter. -/
def readBack (t : FilterTable) (id : Cell) : Except Fault Filter :=
  match queryFilters (some t) (·.rowsWithId id) with
  | .ok (f :: _) => .ok f
  | .ok [] => .error .noElement
  | .error f => .error f

/-- Saves a filter: the table afterwards, and the filter as it was saved. -/
def saveFilter (t : Option FilterTable) (f : Filter) : Option FilterTable × Except Fault Filter :=
  match writeFilter t f with
  | .error e => (t, .error e)
  | .ok (t, id) => (some t, readBack t id)

/-- A date in a column. -/
def Cell.ofDate (t : Option DateTime) : Cell :=
  match t with
  | some t => .numeric (.text t.iso)
  | none => .null

/-- The first change that a row does not have. -/
def unsupported? (changes : List Change) : Option String :=
  changes.findSome? fun
    | .unsupported name => some name
    | _ => none

/-- A change with its values as cells. -/
inductive Assignment where
  | enabled (value : Bool)
  | stats (matched lastMatch : Cell)
  deriving DecidableEq, Repr

/-- The fault of an update. -/
def filterUpdateFault (cause : SqlFault) : Fault := .store (.filterUpdate cause)

/-- The assignments that changes stand for, and the number of values that they put into the
statement; `position` counts the values so far. -/
def assignments (position : Nat) : List Change → Except Fault (List Assignment × Nat)
  | [] => .ok ([], position)
  | .enabled b :: changes => do
    let (rest, count) ← assignments (position + 1) changes
    return (.enabled b :: rest, count)
  | .stats matched lastMatch :: changes => do
    let matched ← Cell.bind filterUpdateFault (position + 1) matched
    let (rest, count) ← assignments (position + 2) changes
    return (.stats matched.numeric (.ofDate lastMatch) :: rest, count)
  | .unsupported name :: _ => .error (.store (.unsupportedField name))

/-- Makes an assignment in a row. -/
def FilterRow.assign (r : FilterRow) : Assignment → Except Fault FilterRow
  | .enabled b => .ok { r with enabled := .ofBool b }
  | .stats .null _ => .error (filterUpdateFault (.required "filters.matches"))
  | .stats matched lastMatch => .ok { r with matched, lastMatch }

/-- Changes columns of the row with an id; a row that is missing is not missed. -/
def updateFilter (t : Option FilterTable) (id : Json) (changes : List Change) :
    Except Fault (Option FilterTable) :=
  match unsupported? changes, t with
  | some name, _ => .error (.store (.unsupportedField name))
  | none, none =>
      if changes.isEmpty then .ok none else .error (filterUpdateFault (.noTable "filters"))
  | none, some t => do
    if changes.isEmpty then return some t
    let (assigned, count) ← assignments 0 changes
    let id ← Cell.bind filterUpdateFault (count + 1) id
    let rows ← t.rows.mapM fun r =>
      if id.isId r.id then assigned.foldlM FilterRow.assign r else .ok r
    return some { t with rows }

/-- Stores the stats of the filter with an id. -/
def storeStats (t : Option FilterTable) (id : Json) (stats : FilterStats) :
    Except Fault (Option FilterTable) :=
  updateFilter t id [.ofStats stats]

/-- Puts in a row as it is given, its document being any text. -/
def insertFilterRow (t : Option FilterTable) (name enabled matched lastMatch document : Json) :
    Except Fault FilterTable :=
  match t with
  | none => .error (.operation (.noTable "filters"))
  | some t => do
    let name ← Cell.bind .operation 1 name
    let enabled ← Cell.bind .operation 2 enabled
    let matched ← Cell.bind .operation 3 matched
    let lastMatch ← Cell.bind .operation 4 lastMatch
    let document ← Cell.bind .operation 5 document
    let name ← needed "filters.name" name.textual?
    let text ← needed "filters.data" document.textual?
    if enabled = .null then throw (.constraint (SqlFault.required "filters.enabled").text)
    if matched = .null then throw (.constraint (SqlFault.required "filters.matches").text)
    if t.nameTaken name .null then throw (.constraint "UNIQUE constraint failed: filters.name")
    return t.insert fun id =>
      ⟨id, name, enabled.numeric, matched.numeric, lastMatch.numeric, .foreign text⟩

end ChatTriage.Store
