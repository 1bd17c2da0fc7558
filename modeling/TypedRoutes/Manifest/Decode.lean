import TypedRoutes.Manifest.Validate
import TypedRoutes.Toml.Document

/-!
Manifests from TOML. Unknown keys are passed over, though the numbers in them must still be ones
that a reader can hold. Settings, declarations and properties may also be written as arrays of
their members in order; members left off at the end take their defaults.
-/
namespace TypedRoutes.Manifest

open Toml

/-- The integers that are passed over under an unknown key. -/
def passedOver (value : Value) : Bool :=
  value.fits (-Int.pow 2 127) (Int.pow 2 128)

/-- The integers that are passed over inside a marker, which is read as a whole first. -/
def passedOverInMarker (value : Value) : Bool :=
  value.fits (-Int.pow 2 63) (Int.pow 2 64)

/-- The members of a record, by key from a table or by place from an array. A date stands for a
table of unknown keys. Members of an array beyond the last place are not looked at. -/
def members? (keys : List String) : Value → Option (List (String × Value))
  | .table entries =>
    if entries.all fun (key, value) => keys.contains key || passedOver value then some entries
    else none
  | .array elements => some (keys.zip elements)
  | .datetime => some []
  | _ => none

def text? : Value → Option String
  | .string text => some text
  | _ => none

def truth? : Value → Option Bool
  | .boolean value => some value
  | _ => none

/-- A list whose elements all have the given form. -/
def list? {α : Type} (element? : Value → Option α) : Value → Option (List α)
  | .array elements => elements.mapM element?
  | _ => none

/-- The member of a record that must be there. -/
def required? {α : Type} (entries : List (String × Value)) (key : String)
    (form? : Value → Option α) : Option α :=
  (entries.lookup key).bind form?

/-- The member of a record, or its default when it is left out. -/
def defaulted? {α : Type} (entries : List (String × Value)) (key : String)
    (form? : Value → Option α) (default : α) : Option α :=
  match entries.lookup key with
  | some value => form? value
  | none => some default

def settings? (value : Value) : Option Settings := do
  let entries ← members?
    ["route_annotation", "encode_annotation", "container", "container_param", "out_dir"] value
  let default : Settings := {}
  some {
    routeMarker := ← defaulted? entries "route_annotation" text? default.routeMarker
    encodeMarker := ← defaulted? entries "encode_annotation" text? default.encodeMarker
    container := ← defaulted? entries "container" text? default.container
    containerParam := ← defaulted? entries "container_param" text? default.containerParam
    outDir := ← defaulted? entries "out_dir" text? default.outDir }

/-- A marker, as a bare name or as a table with arguments. -/
def marker? : Value → Option Marker
  | .string name => some { name }
  | .table entries => do
    if !entries.all (passedOverInMarker ·.2) then none
    some {
      name := ← required? entries "name" text?
      args := ← defaulted? entries "args" (list? text?) [] }
  | _ => none

def property? (value : Value) : Option Property := do
  let entries ← members? ["name", "type", "annotations", "extension", "inherited"] value
  some {
    name := ← required? entries "name" text?
    type := ← defaulted? entries "type" (text? · |>.map some) none
    markers := ← defaulted? entries "annotations" (list? marker?) []
    extension := ← defaulted? entries "extension" (text? · |>.map some) none
    inherited := ← defaulted? entries "inherited" truth? false }

def declaration? (value : Value) : Option Declaration := do
  let entries ← members? ["name", "package", "file", "annotations", "properties"] value
  some {
    name := ← required? entries "name" text?
    package := ← defaulted? entries "package" text? ""
    file := ← defaulted? entries "file" (text? · |>.map some) none
    markers := ← defaulted? entries "annotations" (list? marker?) []
    properties := ← defaulted? entries "properties" (list? property?) [] }

/-- The manifest that a document's root table holds. -/
def ofDocument? (root : List (String × Value)) : Option Manifest := do
  let entries ← members? ["generator", "declaration"] (.table root)
  some {
    settings := ← defaulted? entries "generator" settings? {}
    declarations := ← defaulted? entries "declaration" (list? declaration?) [] }

/-- The manifest that a text holds, whether or not it can be generated from. -/
def decode? (source : String) : Option Manifest := do
  ofDocument? (← Toml.parse? source)

/-- The manifest that a text holds, once it is found fit to be generated from. The file is the name
that errors give. -/
def parse (source file : String) : Except Error Manifest :=
  match decode? source with
  | none => .error (.malformed file)
  | some manifest => do
    validate manifest source file
    return manifest

/-- The name that manifests go by when they come from no file. -/
def defaultFile : String := "wayfinder.toml"

end TypedRoutes.Manifest
