import MerchantApi.Json.RecordReader
import MerchantApi.Mapping
/-!
# Labels grouped by field

The grouped view of mappings: one group per field, in the order in which the
fields first appear, with the labels of the field in the order of the mappings.
Groups are exchanged as JSON, and are read from JSON values and from texts.
-/

namespace MerchantApi

structure Label where
  placeholder : String
  displayText : String
  labelId : Int64
deriving DecidableEq

structure Group where
  field : String
  labels : List Label
deriving DecidableEq

def Mapping.label (m : Mapping) : Label := ⟨m.placeholder, m.displayText, m.labelId⟩

namespace Label

def members (l : Label) : List (String × Json) :=
  [("placeholder", .string l.placeholder), ("displayText", .string l.displayText),
    ("labelId", .ofInt64 l.labelId)]

def json (l : Label) : Json := .object (Members.ofList l.members)

def document (l : Label) : Json := .object l.members

structure Draft where
  placeholder : Option String
  displayText : Option String
  labelId : Option Int64

def Draft.empty : Draft := ⟨none, none, none⟩

def Draft.label? (d : Draft) : Option Label := do
  return ⟨← d.placeholder, ← d.displayText, ← d.labelId⟩

def shape : Json.RecordShape Draft where
  title := "struct LabelMapping"
  slots :=
    [ ⟨"placeholder", fun d => d.placeholder.isSome, fun j d =>
        (Json.asText j).map fun s => { d with placeholder := some s }⟩,
      ⟨"displayText", fun d => d.displayText.isSome, fun j d =>
        (Json.asText j).map fun s => { d with displayText := some s }⟩,
      ⟨"labelId", fun d => d.labelId.isSome, fun j d =>
        (Json.asInt64 j).map fun n => { d with labelId := some n }⟩ ]
  required := true

def ofValue (j : Json) : Except Json.Mismatch Label := do
  let draft ← shape.ofValue .empty j
  match draft.label? with
  | some l => .ok l
  | none => .error (.missing "placeholder")

def textSlots : List (Json.Reader.TextSlot Draft) :=
  [ ⟨"placeholder", fun d => d.placeholder.isSome, fun _ cs d =>
      (Json.Reader.text cs).map fun (s, cs) => ({ d with placeholder := some s }, cs)⟩,
    ⟨"displayText", fun d => d.displayText.isSome, fun _ cs d =>
      (Json.Reader.text cs).map fun (s, cs) => ({ d with displayText := some s }, cs)⟩,
    ⟨"labelId", fun d => d.labelId.isSome, fun _ cs d =>
      (Json.Reader.int64 cs).map fun (n, cs) => ({ d with labelId := some n }, cs)⟩ ]

def read (depth : Nat) (cs : List Char) : Json.Reader.Reading Label :=
  match Json.Reader.record shape.title shape.arity textSlots .empty depth cs with
  | .error f => .error f
  | .ok (draft, rest) =>
    match draft.label? with
    | some l => .ok (l, rest)
    | none => Json.Reader.failHere (.mismatch (.missing "placeholder")) rest

end Label

namespace Group

def ofField (field : String) : Group := ⟨field, []⟩

end Group

/-- Groups that are being collected, and the position of the group of each field. -/
structure Grouping where
  groups : List Group
  positions : Members Nat

namespace Grouping

def empty : Grouping := ⟨[], []⟩

/-- The position of the group of a field, which is opened at the end when the
field has no position yet. -/
def locate (s : Grouping) (field : String) : Nat × Grouping :=
  match Members.get? s.positions field with
  | some position => (position, s)
  | none =>
    (s.groups.length,
      ⟨s.groups ++ [.ofField field], Members.insert field s.groups.length s.positions⟩)

def put (s : Grouping) (m : Mapping) : Grouping :=
  let (position, s) := s.locate m.fieldName
  { s with
    groups := s.groups.modify position fun g => { g with labels := g.labels ++ [m.label] } }

end Grouping

namespace Group

def ofMappings (mappings : List Mapping) : List Group :=
  (mappings.foldl Grouping.put .empty).groups

def json (g : Group) : Json :=
  .object [("field", .string g.field), ("mappings", .array (g.labels.map Label.json))]

def document (g : Group) : Json :=
  .object [("field", .string g.field), ("mappings", .array (g.labels.map Label.document))]

structure Draft where
  field : Option String
  labels : Option (List Label)

def Draft.empty : Draft := ⟨none, none⟩

def Draft.group? (d : Draft) : Option Group := do
  return ⟨← d.field, ← d.labels⟩

def shape : Json.RecordShape Draft where
  title := "struct FieldLabelMapping"
  slots :=
    [ ⟨"field", fun d => d.field.isSome, fun j d =>
        (Json.asText j).map fun s => { d with field := some s }⟩,
      ⟨"mappings", fun d => d.labels.isSome, fun j d =>
        (Json.asList Label.ofValue j).map fun ls => { d with labels := some ls }⟩ ]
  required := true

def ofValue (j : Json) : Except Json.Mismatch Group := do
  let draft ← shape.ofValue .empty j
  match draft.group? with
  | some g => .ok g
  | none => .error (.missing "field")

def listOfValue (j : Json) : Except Json.Mismatch (List Group) := Json.asList ofValue j

def textSlots : List (Json.Reader.TextSlot Draft) :=
  [ ⟨"field", fun d => d.field.isSome, fun _ cs d =>
      (Json.Reader.text cs).map fun (s, cs) => ({ d with field := some s }, cs)⟩,
    ⟨"mappings", fun d => d.labels.isSome, fun depth cs d =>
      (Json.Reader.list Label.read depth cs).map fun (ls, cs) =>
        ({ d with labels := some ls }, cs)⟩ ]

def read (depth : Nat) (cs : List Char) : Json.Reader.Reading Group :=
  match Json.Reader.record shape.title shape.arity textSlots .empty depth cs with
  | .error f => .error f
  | .ok (draft, rest) =>
    match draft.group? with
    | some g => .ok (g, rest)
    | none => Json.Reader.failHere (.mismatch (.missing "field")) rest

def parseList (text : String) : Except Json.Reader.ParseError (List Group) :=
  Json.Reader.readAll (Json.Reader.list read Json.Reader.maxDepth) text

end Group

end MerchantApi
