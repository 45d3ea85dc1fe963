import FilterQuery.Compiler.Plan
import FilterQuery.Session.Files

/-!
# The configuration file

The file holds the schemas of properties by their names and the settings of the compiler, each of
which may be left out. It is read directly from text. A file that is missing, cannot be read or does
not hold a configuration is an error that names the file.
-/

namespace FilterQuery

/-- Whether searching a property without a schema ignores case. -/
structure CompilerSettings where
  ignoreCase : Bool
deriving DecidableEq, Repr

namespace CompilerSettings

def standard : CompilerSettings := ⟨true⟩

def caseField : String := "caseInsensitivePropertyContains"

def fieldNames : List String := [caseField]

def field (settings : CompilerSettings) (name : String) (value : Json) :
    Except Json.Mismatch CompilerSettings :=
  if name = caseField then do return ⟨← Json.expectBool value⟩ else .ok settings

def decode : Json → Except Json.Mismatch CompilerSettings :=
  Json.expectRecord "CompilerConfig" fieldNames field standard

def fieldReader : Json.Reader.FieldReader CompilerSettings := fun _ _ cs ↦ do
  let (ignoreCase, cs) ← Json.Reader.expectBool cs
  return (⟨ignoreCase⟩, cs)

def reader (cs : List Char) : Except Json.Stop (CompilerSettings × List Char) := do
  let ((settings, _), cs) ←
    Json.Reader.expectRecord "CompilerConfig" fieldNames fieldReader standard cs
  return (settings, cs)

def toJson (settings : CompilerSettings) : Json := .object [(caseField, .bool settings.ignoreCase)]

end CompilerSettings

structure Configuration where
  properties : SchemaTable
  compiler : CompilerSettings
deriving Repr

namespace Configuration

def standard : Configuration := ⟨[], .standard⟩

def fieldNames : List String := ["properties", "compiler"]

/-- Reads a field; `depth` bounds the nesting of the schemas' fields. -/
def fieldReader (depth : Nat) : Json.Reader.FieldReader Configuration := fun configuration name cs ↦
  match name with
  | "properties" => do
    let (schemas, cs) ← Json.Reader.expectMap (PropertySchema.reader depth) cs
    return ({ configuration with properties := Keyed.ofList schemas }, cs)
  | _ => do
    let (settings, cs) ← CompilerSettings.reader cs
    return ({ configuration with compiler := settings }, cs)

/-- The configuration itself, its table of schemas and each schema use up a level of nesting. -/
def fieldDepth : Nat := Json.depthLimit - 3

def reader (cs : List Char) : Except Json.Stop (Configuration × List Char) := do
  let ((configuration, _), cs) ←
    Json.Reader.expectRecord "BuilderConfig" fieldNames (fieldReader fieldDepth) standard cs
  return (configuration, cs)

/-- The configuration that a text holds. -/
def parse (text : String) : Except Json.ReadError Configuration := Json.readText reader text

def toJson (configuration : Configuration) : Json :=
  .object [("compiler", configuration.compiler.toJson),
    ("properties", .object (configuration.properties.map fun (name, schema) ↦
      (name, schema.toJson)))]

/-- The compiler with these settings and schemas. -/
def toCompiler {Step : Type} (configuration : Configuration) : Compiler Step :=
  ⟨configuration.compiler.ignoreCase, configuration.properties.byKeyOrIdent⟩

end Configuration

inductive ConfigurationError
  | notFound (path : String)
  | unreadable (path : String) (failure : Session.ReadFailure)
  | malformed (path : String) (error : Json.ReadError)
deriving Repr

namespace ConfigurationError

def message : ConfigurationError → String
  | .notFound path => "配置文件不存在: " ++ path
  | .unreadable path failure => "无法读取配置文件 " ++ path ++ ": " ++ failure.message
  | .malformed path error => "无法解析JSON配置文件 " ++ path ++ ": " ++ error.message

end ConfigurationError

namespace Configuration

/-- The configuration in the file at a path. -/
def load (path : String) (content : Session.Content) : Except ConfigurationError Configuration :=
  match content with
  | .ok text => (parse text).mapError (.malformed path)
  | .error failure =>
    .error (if failure.isAbsence then .notFound path else .unreadable path failure)

/-- Where the configuration is looked for. -/
def defaultPath : String := "query_builder.json"

end Configuration

end FilterQuery
