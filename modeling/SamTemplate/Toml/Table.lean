import SamTemplate.Entries
import SamTemplate.Toml.Basic

/-!
# TOML tables

A document defines its tables piece by piece: by headers, by entries below them
and by keys with dots. What may be added where depends on how a table came up,
so that none is defined twice.
-/

namespace SamTemplate

namespace Toml

/-- How a table came up. -/
inductive Origin where
  /-- By a header of its own. -/
  | header
  /-- As a step on the way to another header. -/
  | implied
  /-- As a step of a key with dots. -/
  | dotted
  deriving DecidableEq, Repr

/-- What stands under a key while a document is read. -/
inductive Item where
  /-- A value. -/
  | value (content : Toml)
  /-- A table. -/
  | table (origin : Origin) (entries : List (String × Item))
  /-- A list of tables, of which the last can still grow. -/
  | tables (earlier : List (List (String × Item))) (last : List (String × Item))
  deriving Inhabited

namespace Item

/-- Adds a value under a key with dots; `own` tells whether the table may take
    entries itself. A key with dots goes through tables that have no header of
    their own, and ends in one that came up in this way. -/
def write (content : Toml) (own : Bool) : List String → Entries Item → Option (Entries Item)
  | [], _ => none
  | [key], entries =>
    if own && (entries.get? key).isNone then some (entries.put key (.value content)) else none
  | key :: path, entries =>
    match entries.get? key with
    | none => (write content true path []).map fun inner => entries.put key (.table .dotted inner)
    | some (.table .header _) | some (.value _) => none
    | some (.table origin inner) =>
      (write content (origin == .dotted) path inner).map fun inner =>
        entries.put key (.table origin inner)
    | some (.tables earlier last) =>
      (write content false path last).map fun last => entries.put key (.tables earlier last)

/-- Changes what stands under the keys of a header. Tables on the way come up if
    they are missing, and of a list of tables the last one is meant. -/
def place (change : Option Item → Option Item) :
    List String → Entries Item → Option (Entries Item)
  | [], _ => none
  | [key], entries => (change (entries.get? key)).map fun item => entries.put key item
  | key :: path, entries =>
    match entries.get? key with
    | none => (place change path []).map fun inner => entries.put key (.table .implied inner)
    | some (.value _) => none
    | some (.table origin inner) =>
      (place change path inner).map fun inner => entries.put key (.table origin inner)
    | some (.tables earlier last) =>
      (place change path last).map fun last => entries.put key (.tables earlier last)

/-- Adds entries to a table, in order. -/
def writeAll (entries : Entries Item) (pairs : List (List String × Toml)) :
    Option (Entries Item) :=
  pairs.foldlM (fun entries pair => write pair.2 true pair.1 entries) entries

/-- A table with a header and some entries below it. It may have come up on the way
    to another header before, but not otherwise. -/
def defineTable (pairs : List (List String × Toml)) : Option Item → Option Item
  | none => (writeAll [] pairs).map (.table .header)
  | some (.table .implied entries) => (writeAll entries pairs).map (.table .header)
  | some _ => none

/-- One more table of a list, with some entries. -/
def appendTable (pairs : List (List String × Toml)) : Option Item → Option Item
  | none => (writeAll [] pairs).map (.tables [])
  | some (.tables earlier last) => (writeAll [] pairs).map (.tables (earlier ++ [last]))
  | some _ => none

mutual

/-- The value that an item has become. -/
def toToml : Item → Toml
  | .value content => content
  | .table _ entries => .table (entryValues entries)
  | .tables earlier last => .arr (tableValues earlier ++ [.table (entryValues last)])

/-- The values of entries. -/
def entryValues : List (String × Item) → List (String × Toml)
  | [] => []
  | (key, item) :: rest => (key, item.toToml) :: entryValues rest

/-- The values of a list of tables. -/
def tableValues : List (List (String × Item)) → List Toml
  | [] => []
  | entries :: rest => .table (entryValues entries) :: tableValues rest

end

end Item

end Toml

end SamTemplate
