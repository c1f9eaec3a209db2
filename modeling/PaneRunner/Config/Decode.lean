import PaneRunner.Config.Basic
import PaneRunner.Toml.Document

/-
  A configuration from the document in its file. Keys that mean nothing are ignored and settings
  that are missing keep their defaults, but a value of the wrong type makes the whole document
  unusable. A section may also be written as an array of its values in the order below.
-/
namespace PaneRunner.Config

open Toml (Item Entries)

/-- A way to take one value from a document. -/
abbrev Decoder (α : Type) := Item → Option α

def string : Decoder String
  | .string s => some s
  | _ => none

def natural : Decoder Nat
  | .integer (.ofNat n) => some n
  | _ => none

/-- The elements of an array, or the tables of double-bracketed headers. -/
def elements? : Item → Option (List Item)
  | .array items => some items
  | .tables elements => some (elements.map (.table {}))
  | _ => none

def strings : Decoder (List String) := fun i => do (← elements? i).mapM string

/-- Nothing to say beyond a name. -/
def isVoid : Item → Bool
  | .array [] | .table _ [] | .tables [] => true
  | _ => false

/-- A kind: its name, or a table with its name as the one key and nothing in it. -/
def kind : Decoder Kind
  | .string s => Kind.ofName? s
  | .table _ [(name, i)] => if isVoid i then Kind.ofName? name else none
  | _ => none

/-- A field of an `α`: its key, and how its value is set. -/
structure Field (α : Type) where
  key : String
  set : Item → α → Option α

/-- A field from a decoder and a setter. -/
def field {α β : Type} (key : String) (decode : Decoder β) (set : β → α → α) : Field α :=
  ⟨key, fun i a => (decode i).map fun b => set b a⟩

/-- Set the fields that entries name. -/
def fromEntries {α : Type} (fields : List (Field α)) (start : α) (es : Entries) : Option α :=
  es.foldlM (fun a e =>
    match fields.find? fun f => f.key == e.1 with
    | some f => f.set e.2 a
    | none => some a) start

/-- Set the fields in order from a list of values. -/
def fromList {α : Type} (fields : List (Field α)) (start : α) (items : List Item) : Option α :=
  (fields.zip items).foldlM (fun a p => p.1.set p.2 a) start

/-- A section. A date has no fields, so it changes nothing. -/
def section? {α : Type} (fields : List (Field α)) (start : α) : Decoder α
  | .table _ es => fromEntries fields start es
  | .datetime => some start
  | i => (elements? i).bind (fromList fields start)

def targetFields : List (Field TargetSection) :=
  [field "kind" kind fun v s => { s with kind := v },
    field "host" string fun v s => { s with host := some v },
    field "container" string fun v s => { s with container := some v }]

def tmuxFields : List (Field TmuxSection) :=
  [field "binary" string fun v s => { s with binary := v }]

def pollingFields : List (Field PollingSection) :=
  [field "prompt_attempts" natural fun v s => { s with promptAttempts := v },
    field "prompt_interval_ms" natural fun v s => { s with promptInterval := v },
    field "output_interval_ms" natural fun v s => { s with outputInterval := v },
    field "completion_interval_ms" natural fun v s => { s with completionInterval := v },
    field "command_timeout" string fun v s => { s with commandTimeout := some v },
    field "capture_flush_attempts" natural fun v s => { s with flushAttempts := v },
    field "capture_flush_interval_ms" natural fun v s => { s with flushInterval := v }]

def promptFields : List (Field PromptSection) :=
  [field "suffixes" strings fun v s => { s with suffixes := v }]

def runFields : List (Field RunSection) :=
  [field "end_marker_prefix" string fun v s => { s with marker := v }]

def fields : List (Field Config) :=
  [field "target" (section? targetFields {}) fun v c => { c with target := v },
    field "tmux" (section? tmuxFields {}) fun v c => { c with tmux := v },
    field "polling" (section? pollingFields {}) fun v c => { c with polling := v },
    field "prompt" (section? promptFields {}) fun v c => { c with prompt := v },
    field "run" (section? runFields {}) fun v c => { c with run := v }]

/-- The configuration that a text writes down. -/
def parse? (text : String) : Option Config := (Toml.parse? text).bind (fromEntries fields {})

end PaneRunner.Config
