import Depot.FileSystem
import Depot.Properties.Interpolation
import Depot.Settings.Decoding
import Depot.Toml.Document
import Depot.Toml.Moment

/-! Settings read from text and from files. A text by itself is taken as it stands; a date or time
in it is a table under the reserved key. A layer of the resolved settings is different: it is
optional, a table under the reserved key is a date or time in it, references in its texts, though
not in its keys, are replaced once that is settled, so that no value can bring in any structure, and
a date or time is then the text of it. -/

namespace Depot

/-- Why settings could not be read. -/
inductive SettingsError where
  | file (path : Path) (cause : FileError)
  | malformed (path : Path)
deriving DecidableEq, Repr

namespace Settings

/-- The path under which a text by itself is reported. -/
def inlinePath : Path := ⟨"<inline>"⟩

def parse? (content : String) : Option Settings := do
  let document ← Toml.Document.parse content
  ofValue? .allowed (document.mapMoments .reservedTable)

/-- The settings that a text spells. -/
def parse (content : String) : Except SettingsError Settings :=
  match parse? content with
  | some settings => .ok settings
  | none => .error (.malformed inlinePath)

/-- The settings in a file, which has to be there. -/
def load (files : FileSystem) (path : Path) : Except SettingsError Settings :=
  match files.readText path with
  | .error cause => .error (.file path cause)
  | .ok content =>
    match parse? content with
    | some settings => .ok settings
    | none => .error (.malformed path)

/-- The settings of a document with the references in its texts replaced. -/
def ofDocument? (p : Properties) (document : Toml.Value) : Option Settings :=
  document.recoverMoments?.bind fun recovered =>
    ofValue? .refused ((recovered.mapTexts p.interpolate).mapMoments .text)

/-- The settings in a file whose text is read as a document in some way; none when there is no file.
-/
def loadLayerBy (document? : String → Option Toml.Value) (files : FileSystem) (p : Properties)
    (path : Path) : Except SettingsError (Option Settings) :=
  if files.isFile path then
    match files.readText path with
    | .error cause => .error (.file path cause)
    | .ok content =>
      match (document? content).bind (ofDocument? p) with
      | some settings => .ok (some settings)
      | none => .error (.malformed path)
  else .ok none

/-- The settings in a file; none when there is no file. -/
def loadLayer : FileSystem → Properties → Path → Except SettingsError (Option Settings) :=
  loadLayerBy Toml.Document.parse

end Settings

end Depot
