import Household.Json.Basic

/-! # TOML values and the growth of tables

A document fills in one tree of tables. How a table came to be decides which later lines may add to
it: a header may open an implied table once, a dotted key may extend implied and dotted tables, and
an inline table is closed.
-/

set_option autoImplicit false

namespace Household.Toml

/-- How a table came to be: written in braces, opened by a header, implied by a longer header, or
made on the way of a dotted key. -/
inductive Origin where
  | inline
  | header
  | implied
  | dotted
  deriving DecidableEq, Repr

inductive Value where
  | str (s : String)
  | int (n : Int)
  | float (x : Float)
  | bool (b : Bool)
  | datetime (text : String)
  | array (items : List Value)
  | table (origin : Origin) (entries : List (String × Value))
  | tables (elements : List Value)

abbrev Entries := Keyed Value

/-- Follows `path` from a table, making the tables that are missing, and changes the table at its
end. Of an array of tables the last element is followed. -/
def Entries.modifyAt (dotted : Bool) (change : Origin → Entries → Option Entries) :
    List String → Origin → Entries → Option Entries
  | [], origin, entries => change origin entries
  | key :: path, _, entries =>
    match Keyed.get? entries key with
    | none =>
      let made := if dotted then .dotted else .implied
      (modifyAt dotted change path made []).map fun t => Keyed.insert entries key (.table made t)
    | some (.table origin t) =>
      if origin = .inline ∨ (dotted ∧ origin = .header) then none
      else
        (modifyAt dotted change path origin t).map fun t =>
          Keyed.insert entries key (.table origin t)
    | some (.tables elements) =>
      match elements.getLast? with
      | some (.table origin t) =>
        (modifyAt dotted change path origin t).map fun t =>
          Keyed.insert entries key (.tables (elements.dropLast ++ [.table origin t]))
      | _ => none
    | some _ => none

/-- A key and its value enter a table. The table has to be one that dotted keys made exactly if the
key is dotted, and the key has to be new. -/
def Entries.assign (path : List String) (key : String) (value : Value) (origin : Origin)
    (entries : Entries) : Option Entries :=
  modifyAt true
    (fun origin entries =>
      if (origin = .dotted) ↔ path = [] then none
      else if Keyed.contains entries key then none
      else some (Keyed.insert entries key value))
    path origin entries

def Entries.openTable (parent : List String) (key : String) (root : Entries) : Option Entries :=
  modifyAt false
    (fun _ entries =>
      match Keyed.get? entries key with
      | none => some (Keyed.insert entries key (.table .header []))
      | some (.table .implied t) => some (Keyed.insert entries key (.table .header t))
      | some _ => none)
    parent .header root

def Entries.openElement (parent : List String) (key : String) (root : Entries) : Option Entries :=
  modifyAt false
    (fun _ entries =>
      match Keyed.get? entries key with
      | none => some (Keyed.insert entries key (.tables [.table .header []]))
      | some (.tables elements) =>
        some (Keyed.insert entries key (.tables (elements ++ [.table .header []])))
      | some _ => none)
    parent .header root

mutual

def Value.toJson : Value → Json
  | .str s => .str s
  | .int n => .int n
  | .float x => .float x
  | .bool b => .bool b
  | .datetime text => .obj [("$__toml_private_datetime", .str text)]
  | .array items => .arr (itemsToJson items)
  | .table _ entries => .obj (entriesToJson entries)
  | .tables elements => .arr (itemsToJson elements)

def itemsToJson : List Value → List Json
  | [] => []
  | v :: rest => v.toJson :: itemsToJson rest

def entriesToJson : List (String × Value) → List (String × Json)
  | [] => []
  | (key, v) :: rest => (key, v.toJson) :: entriesToJson rest

end

end Household.Toml
