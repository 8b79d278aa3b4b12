import RunReport.Json.Doc
import RunReport.Manifest.Decode
import RunReport.Manifest.Hjson
import RunReport.Manifest.Ini
import RunReport.Manifest.Toml
import RunReport.Manifest.Yaml.Node
import RunReport.Store.Workspace

/-!
# Manifest Files

Finding and reading the file of a manifest.

The format of a file is known by its extension. If there is no file of the given name, the same
name is tried with each extension in turn. A file whose content is no table says nothing.

## Main definitions

* `ManifestFormat`: The formats of manifests.
* `Manifest.candidates`: The names under which a manifest may be found.
* `Manifest.load`: The manifest of a name.
-/

namespace RunReport

/-- The formats of manifests. -/
inductive ManifestFormat
  | toml
  | json
  | yaml
  | hjson
  | ini
  deriving DecidableEq

namespace ManifestFormat

/-- The extensions of manifests, in the order in which they are tried. -/
def extensions : List (String × ManifestFormat) :=
  [("toml", toml), ("json", json), ("yaml", yaml), ("yml", yaml), ("hjson", hjson), ("ini", ini)]

/-- The format of a path. -/
def ofPath? (path : String) : Option ManifestFormat :=
  (Path.extension? path).bind fun e => (extensions.find? (·.1 = e)).map (·.2)

/-- The settings of a JSON text. -/
def readJson? (text : String) : Option (List (String × Setting)) :=
  (Json.read (Utf8.encode text.toList)).toOption.map fun v => (Setting.ofJson v).members

/-- The settings of a text in a format. -/
def read? : ManifestFormat → String → Option (List (String × Setting))
  | toml => Toml.read?
  | json => readJson?
  | yaml => Yaml.read?
  | hjson => Hjson.read?
  | ini => Ini.read?

end ManifestFormat

namespace Manifest

variable [HostLibrary] [PatternLibrary]

/-- The names under which a manifest may be found. -/
def candidates (path : String) : List String :=
  path :: ManifestFormat.extensions.map fun e => Path.withExtension path e.1

/-- The manifest that a text in a format says. -/
def ofText (path : String) (format : ManifestFormat) (text : String) :
    Except ManifestFault Manifest :=
  match format.read? text with
  | none => .error .malformed
  | some top => ofSettings (Path.shown path) (Setting.ofFile top)

/-- The manifest of a name. -/
def load (w : Workspace) (path : String) : Except ManifestFault Manifest :=
  match (candidates path).find? w.hasFile with
  | none => .error (.notFound path)
  | some found =>
    match ManifestFormat.ofPath? found, ((w.read found).toOption.bind Utf8.decode?) with
    | none, _ => .error (.unknownFormat found)
    | _, none => .error .notText
    | some format, some cs => ofText found format (String.ofList cs)

end Manifest

end RunReport
