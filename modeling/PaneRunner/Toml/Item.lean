/-
  What a TOML document holds, and how keys and headers build it. A table remembers how it came
  about, because that decides who may still add to it. `edit` follows a path and changes the table
  at its end; tables that are missing on the way are made.
-/
namespace PaneRunner.Toml

/-- How a table came about. -/
structure Origin where
  /-- it was written between braces -/
  inline : Bool := false
  /-- nothing but a longer path mentioned it yet -/
  implicit : Bool := false
  /-- that path was a dotted key -/
  dotted : Bool := false
  deriving DecidableEq, Repr

/-- What a key stands for. -/
inductive Item where
  | string (s : String)
  | integer (n : Int)
  | float
  | boolean (b : Bool)
  | datetime
  | array (items : List Item)
  | table (origin : Origin) (entries : List (String × Item))
  /-- the tables of double-bracketed headers of one name -/
  | tables (elements : List (List (String × Item)))

abbrev Entries := List (String × Item)

namespace Entries

/-- The entry of a key. -/
def find? (es : Entries) (key : String) : Option Item := es.lookup key

/-- The entries with the first one of a key replaced. -/
def replace (key : String) (item : Item) : Entries → Entries
  | [] => []
  | (k, i) :: es => if k = key then (k, item) :: es else (k, i) :: replace key item es

/-- The entries without those of a key. -/
def erase (es : Entries) (key : String) : Entries := es.filter fun e => e.1 != key

/-- Add an entry for a new key. -/
def add (es : Entries) (key : String) (item : Item) : Option Entries :=
  if (es.find? key).isSome then none else some (es ++ [(key, item)])

/-- Change the table at the end of a path. `made` is how tables on the way come about; a dotted
path may only pass through tables that nothing but paths mentioned. `f` is told whether the table
it changes stems from a dotted key. -/
def edit (made : Origin) (f : Bool → Entries → Option Entries) :
    List String → Bool → Entries → Option Entries
  | [], dotted, es => f dotted es
  | key :: path, _, es =>
    match es.find? key with
    | none => (edit made f path made.dotted []).map fun sub => es ++ [(key, .table made sub)]
    | some (.table o sub) =>
      if o.inline != made.inline || made.dotted && !o.implicit then none
      else (edit made f path o.dotted sub).map fun sub => es.replace key (.table o sub)
    | some (.tables elements) =>
      match elements.getLast? with
      | none => none
      | some sub =>
        (edit made f path false sub).map fun sub =>
          es.replace key (.tables (elements.dropLast ++ [sub]))
    | some _ => none

/-- Add a value under a dotted key. A dotted key adds to tables of dotted keys only, and a single
key to other tables only. -/
def assign (inline : Bool) (es : Entries) (path : List String) (key : String) (value : Item) :
    Option Entries :=
  es.edit { inline, implicit := true, dotted := true }
    (fun dotted es => if dotted == path.isEmpty then none else es.add key value) path false

end Entries

/-- A document under construction: the tables finished so far, and the one that keys are added to
now. -/
structure Draft where
  root : Entries := []
  current : Entries := []
  /-- the header of the current table; empty for the keys before any header -/
  header : List String := []
  /-- whether the header had double brackets -/
  repeated : Bool := false

namespace Draft

/-- Tables on the way to a header. -/
def onTheWay : Origin := { implicit := true }

/-- Put the current table where its header says. -/
def store (d : Draft) : Option Entries :=
  match d.header.getLast? with
  | none => some d.current
  | some key =>
    d.root.edit onTheWay
      (fun _ es =>
        if d.repeated then
          match es.find? key with
          | none => some (es ++ [(key, .tables [d.current])])
          | some (.tables elements) => some (es.replace key (.tables (elements ++ [d.current])))
          | some _ => none
        else es.add key (.table {} d.current))
      d.header.dropLast false

/-- A key with its value. -/
def assign (d : Draft) (path : List String) (key : String) (value : Item) : Option Draft := do
  let current ← d.current.assign false path key value
  pure { d with current }

/-- The entries of a table that a header may take up again, and the table around without it. A
table that was mentioned on the way to another header may be; any other may not. -/
def reopen (es : Entries) (key : String) : Option (Entries × Entries) :=
  match es.find? key with
  | none => some ([], es)
  | some (.table o sub) =>
    if o.implicit && !o.dotted && !o.inline then some (sub, es.erase key) else none
  | some _ => none

/-- The entries of the table that a path leads to; none if nothing is there. -/
def lookup : List String → Entries → Entries
  | [], es => es
  | key :: path, es =>
    match es.find? key with
    | some (.table _ sub) => lookup path sub
    | some (.tables elements) => lookup path (elements.getLast?.getD [])
    | _ => []

/-- A header in single brackets. -/
def startTable (d : Draft) (header : List String) : Option Draft := do
  let root ← d.store
  let key ← header.getLast?
  let way := header.dropLast
  let (current, _) ← reopen (lookup way root) key
  let root ← root.edit onTheWay (fun _ es => (reopen es key).map Prod.snd) way false
  pure { root, current, header, repeated := false }

/-- A header in double brackets. -/
def startElement (d : Draft) (header : List String) : Option Draft := do
  let root ← d.store
  let key ← header.getLast?
  let check (es : Entries) : Option Entries :=
    match es.find? key with
    | none | some (.tables _) => some es
    | some _ => none
  let root ← root.edit onTheWay (fun _ es => check es) header.dropLast false
  pure { root, current := [], header, repeated := true }

end Draft

end PaneRunner.Toml
