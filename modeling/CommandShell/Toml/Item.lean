/-!
# TOML documents

A document is a table.  The entries of a table come from key-value lines, from
headers and from inline tables, and how a table came to be decides what may
still be added to it.
-/

namespace CommandShell
namespace Toml

/-- How a table came to be. -/
inductive Origin where
  /-- By a header of its own. -/
  | header
  /-- As a table around one that has a header. -/
  | implied
  /-- By a dotted key. -/
  | dotted
  /-- As a value between braces. -/
  | inline
  deriving DecidableEq, Repr, Inhabited

/-- What a key can stand for. -/
inductive Item where
  | string (text : String)
  | integer (number : Int)
  | float (text : String)
  | boolean (value : Bool)
  | datetime (text : String)
  | array (items : List Item)
  | table (origin : Origin) (entries : List (String × Item))
  /-- The tables of an array that has one header for each, the latest one
  apart from those before it. -/
  | tables (earlier : List (List (String × Item)))
      (latest : List (String × Item))
  deriving Inhabited

/-- The entries of a table, in no order that matters. -/
abbrev Entries := List (String × Item)

namespace Entries

def find? (entries : Entries) (key : String) : Option Item :=
  entries.lookup key

def set (entries : Entries) (key : String) (item : Item) : Entries :=
  (key, item) :: entries.filter fun entry => entry.1 != key

/-- Add an entry; its key must be new. -/
def add? (entries : Entries) (key : String) (item : Item) : Option Entries :=
  match entries.find? key with
  | some _ => none
  | none => some ((key, item) :: entries)

/-- Change the table that a path of keys leads to.  Tables missing on the way
are created; `dotted` says whether the path is that of a dotted key, which may
not enter a table that has a header.  The change gets the origin of the table
with its entries. -/
def update? (dotted : Bool) (change : Origin → Entries → Option Entries) :
    (origin : Origin) → List String → Entries → Option Entries
  | origin, [], entries => change origin entries
  | _, key :: path, entries =>
      match entries.find? key with
      | none => do
          let origin := if dotted then .dotted else .implied
          let inner ← update? dotted change origin path []
          return entries.set key (.table origin inner)
      | some (.table .inline _) => none
      | some (.table origin inner) => do
          if dotted && origin == .header then none
          else
            let inner ← update? dotted change origin path inner
            return entries.set key (.table origin inner)
      | some (.tables earlier latest) => do
          let latest ← update? dotted change .header path latest
          return entries.set key (.tables earlier latest)
      | some _ => none

/-- Add an entry under a dotted key.  A dotted key of several parts adds to
tables of dotted keys only. -/
def addDotted? (entries : Entries) (path : List String) (key : String)
    (item : Item) : Option Entries :=
  update? true
    (fun origin entries =>
      if !path.isEmpty && origin != .dotted then none
      else entries.add? key item)
    .header path entries

/-- Open a table by its header.  Only a table that is there because of tables
inside it may be opened again. -/
def openTable? (entries : Entries) (path : List String) (key : String) :
    Option Entries :=
  update? false
    (fun _ entries =>
      match entries.find? key with
      | none => some (entries.set key (.table .header []))
      | some (.table .implied inner) =>
          some (entries.set key (.table .header inner))
      | some _ => none)
    .header path entries

/-- Open another table of an array of tables by its header. -/
def openElement? (entries : Entries) (path : List String) (key : String) :
    Option Entries :=
  update? false
    (fun _ entries =>
      match entries.find? key with
      | none => some (entries.set key (.tables [] []))
      | some (.tables earlier latest) =>
          some (entries.set key (.tables (earlier ++ [latest]) []))
      | some _ => none)
    .header path entries

end Entries

end Toml
end CommandShell
