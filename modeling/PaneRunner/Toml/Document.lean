import PaneRunner.Text.Decimal
import PaneRunner.Toml.Item
import PaneRunner.Toml.Scan

/-
  Reading a TOML document. Arrays and inline tables may nest up to `depthLimit`, and a dotted key
  may have fewer parts than that; both keep what is built on a document shallow.
-/
namespace PaneRunner.Toml

/-- How deep values may nest, and how many parts a key may not have. -/
def depthLimit : Nat := 80

/-! Keys -/

/-- Characters of a key without quotes. -/
def isBareKey (c : Char) : Bool := c.isAlphanum || c == '-' || c == '_'

/-- One part of a key. -/
def keyPart : Scanner String := fun cs =>
  match cs with
  | '\x22' :: cs => (basicChars (cs.length + 1) cs).map fun (ds, cs) => (.ofList ds, cs)
  | '\x27' :: cs => (literalChars cs).map fun (ds, cs) => (.ofList ds, cs)
  | cs =>
    match cs.takeWhile isBareKey with
    | [] => none
    | ds => some (.ofList ds, cs.dropWhile isBareKey)

/-- The parts of a key, `fuel` of them at most. -/
def keyParts : Nat → Scanner (List String)
  | 0, _ => none
  | fuel + 1, cs => do
    let (part, cs) ← keyPart (skipBlanks cs)
    match skipBlanks cs with
    | '.' :: cs => do
      let (parts, cs) ← keyParts fuel cs
      pure (part :: parts, cs)
    | cs => pure ([part], cs)

/-- A key, dotted or not. -/
def scanKey : Scanner (List String) := keyParts (depthLimit - 1)

/-! Values -/

/-- A value that holds no others. -/
def scalar : Scanner Item := fun cs =>
  let number (cs : List Char) : Option (Item × List Char) :=
    match datetime? cs with
    | some rest => some (.datetime, rest)
    | none => (scanNumber cs).map fun (n, rest) => match n with
      | .integer n => (.integer n, rest)
      | .float => (.float, rest)
  match cs with
  | [] => none
  | c :: _ =>
    if c = '\x22' ∨ c = '\x27' then (scanString cs).map fun (s, rest) => (.string s, rest)
    else if c = '+' ∨ c = '-' ∨ c = 'i' ∨ c = 'n' ∨ c.isDigit then number cs
    else match Text.dropStart? "true".toList cs, Text.dropStart? "false".toList cs with
      | some rest, _ => some (.boolean true, rest)
      | none, some rest => some (.boolean false, rest)
      | none, none => none

/-- The rest of an array, after its opening bracket or after a comma. -/
def arrayItems (value : Scanner Item) : Nat → Scanner (List Item)
  | 0, _ => none
  | fuel + 1, cs => do
    match ← gap cs with
    | ']' :: cs => pure ([], cs)
    | cs => do
      let (item, cs) ← value cs
      match ← gap cs with
      | ',' :: cs => do
        let (items, cs) ← arrayItems value fuel cs
        pure (item :: items, cs)
      | ']' :: cs => pure ([item], cs)
      | _ => none

/-- A key with its value, up to the blanks after it. -/
def keyValue (value : Scanner Item) : Scanner (List String × Item) := fun cs => do
  match ← scanKey cs with
  | (key, '=' :: cs) => do
    let (item, cs) ← value (skipBlanks cs)
    pure ((key, item), cs)
  | _ => none

/-- Add a key with its value to a table. -/
def assignKey (assign : List String → String → Item → Option α) (key : List String)
    (item : Item) : Option α := do
  assign key.dropLast (← key.getLast?) item

/-- The rest of an inline table that has a key next. -/
def inlineEntries (value : Scanner Item) : Nat → Entries → Scanner Entries
  | 0, _, _ => none
  | fuel + 1, es, cs => do
    let ((key, item), cs) ← keyValue value cs
    let es ← assignKey (es.assign true) key item
    match skipBlanks cs with
    | ',' :: cs => inlineEntries value fuel es cs
    | '\x7d' :: cs => pure (es, cs)
    | _ => none

/-- A value, with up to `depth` arrays and inline tables in one another. -/
def scanValue : Nat → Scanner Item
  | 0, cs => scalar cs
  | depth + 1, cs =>
    match cs with
    | '[' :: cs =>
      (arrayItems (scanValue depth) (cs.length + 1) cs).map fun (items, cs) => (.array items, cs)
    | '\x7b' :: cs =>
      let table (es : Entries) : Item := .table { inline := true } es
      match skipBlanks cs with
      | '\x7d' :: cs => some (table [], cs)
      | _ =>
        (inlineEntries (scanValue depth) (cs.length + 1) [] cs).map fun (es, cs) => (table es, cs)
    | cs => scalar cs

/-! Documents -/

/-- A header, after its brackets, with the brackets that close it. -/
def header (closing : List Char) (cs : List Char) : Option (List String × List Char) := do
  let (key, cs) ← scanKey cs
  pure (key, ← lineEnd (← Text.dropStart? closing cs))

/-- One line of a document that is not blank; a comment changes nothing. -/
def statement (d : Draft) : Scanner Draft
  | '#' :: cs => (lineEnd ('#' :: cs)).map fun cs => (d, cs)
  | '[' :: '[' :: cs => do
    let (key, cs) ← header [']', ']'] cs
    pure (← d.startElement key, cs)
  | '[' :: cs => do
    let (key, cs) ← header [']'] cs
    pure (← d.startTable key, cs)
  | cs => do
    let ((key, item), cs) ← keyValue (scanValue (depthLimit - 1)) cs
    pure (← assignKey d.assign key item, ← lineEnd cs)

/-- The rest of a document. Every step reads a character, so as much fuel as there are characters
is enough. -/
def statements : Nat → Draft → List Char → Option Entries
  | 0, _, _ => none
  | fuel + 1, d, cs =>
    match skipBlanks cs with
    | [] => d.store
    | cs =>
      match newline? cs with
      | some rest => statements fuel d rest
      | none =>
        match statement d cs with
        | some (d, rest) => statements fuel d rest
        | none => none

/-- The entries of a document; a byte order mark in front does not count. -/
def parse? (text : String) : Option Entries :=
  let cs := match text.toList with
    | '\uFEFF' :: cs => cs
    | cs => cs
  statements (cs.length + 1) {} cs

end PaneRunner.Toml
