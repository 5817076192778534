import SignerLink.Json.Value
/-!
Tables in TOML as they grow line by line. A header opens a table once, a dotted key opens the
tables on its way, and no line takes back what an earlier one wrote.
-/

namespace SignerLink

namespace Toml

inductive Origin where
  | header
  | innerHeader
  | dottedKey
  deriving DecidableEq, Repr

inductive Node where
  | value (json : Json)
  | table (origin : Origin) (entries : List (String × Node))
  /-- Tables under one header: the closed ones, and the one that is open. -/
  | tables (closed : List Json) (last : List (String × Node))

abbrev Entries := List (String × Node)

namespace Entries

def find? (key : String) : Entries → Option Node
  | [] => none
  | (other, node) :: rest => if other = key then some node else find? key rest

def insert (key : String) (node : Node) : Entries → Entries
  | [] => [(key, node)]
  | (other, held) :: rest =>
      if other = key then (key, node) :: rest else (other, held) :: insert key node rest

end Entries

mutual

def Node.toJson : Node → Json
  | .value json => json
  | .table _ entries => .object (Entries.fields entries)
  | .tables closed last => .array (closed ++ [.object (Entries.fields last)])

def Entries.fields : List (String × Node) → Json.Fields
  | [] => []
  | (key, node) :: rest => Json.Fields.insert key node.toJson (Entries.fields rest)

end

namespace Entries

def toJson (entries : Entries) : Json := .object (fields entries)

/-- Changes the table at the end of a path; tables missing on the way are added. A dotted key
leads through no table that has a header. -/
def changeAt? (dotted : Bool) (change : Origin → Entries → Option Entries) :
    List String → Origin → Entries → Option Entries
  | [], origin, entries => change origin entries
  | key :: path, _, entries =>
      match find? key entries with
      | none => do
          let origin : Origin := if dotted then .dottedKey else .innerHeader
          let inner ← changeAt? dotted change path origin []
          return entries.insert key (.table origin inner)
      | some (.table origin inner) =>
          if dotted && origin = .header then none
          else do
            let inner ← changeAt? dotted change path origin inner
            return entries.insert key (.table origin inner)
      | some (.tables closed last) => do
          let last ← changeAt? dotted change path .header last
          return entries.insert key (.tables closed last)
      | some (.value _) => none

/-- Adds a new key to a table. Dotted keys alone add to the tables that they opened. -/
def assign? (path : List String) (key : String) (value : Json) (entries : Entries) :
    Option Entries :=
  let add (origin : Origin) (entries : Entries) : Option Entries :=
    if (origin == .dottedKey) == path.isEmpty || (find? key entries).isSome then none
    else some (entries.insert key (.value value))
  changeAt? true add path .header entries

def openTable? (path : List String) (key : String) (entries : Entries) : Option Entries :=
  let add (_ : Origin) (entries : Entries) : Option Entries :=
    match find? key entries with
    | none => some (entries.insert key (.table .header []))
    | some (.table .innerHeader inner) => some (entries.insert key (.table .header inner))
    | some _ => none
  changeAt? false add path .header entries

def openNext? (path : List String) (key : String) (entries : Entries) : Option Entries :=
  let add (_ : Origin) (entries : Entries) : Option Entries :=
    match find? key entries with
    | none => some (entries.insert key (.tables [] []))
    | some (.tables closed last) =>
        some (entries.insert key (.tables (closed ++ [toJson last]) []))
    | some _ => none
  changeAt? false add path .header entries

end Entries

end Toml

end SignerLink
