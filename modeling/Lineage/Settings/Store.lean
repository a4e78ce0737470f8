import Lineage.Settings
import Lineage.Text.Quoted

/-! The place where settings are kept: a file in a directory of its own. -/

namespace Lineage

/-- What stands where the settings file belongs. -/
inductive SettingsFile
  | absent
  /-- A directory is in its place. -/
  | blocked
  | text (content : String)
  deriving DecidableEq, Repr

/-- What stands where the directory belongs. -/
inductive SettingsFolder
  | absent
  /-- A file is in its place. -/
  | blocked
  | present (file : SettingsFile)
  deriving DecidableEq, Repr

structure SettingsStore where
  /-- The directory's path. -/
  path : String
  folder : SettingsFolder
  deriving DecidableEq, Repr

/-- Why settings were not saved. -/
inductive StoreFault
  | folderBlocked (path : String)
  | fileBlocked (path : String)
  deriving DecidableEq, Repr

namespace StoreFault

/-- What failed, and the cause of that. -/
def chain : StoreFault → List String
  | .folderBlocked path =>
    ["Failed to create config directory: " ++ Text.quoted path, "File exists (os error 17)"]
  | .fileBlocked path =>
    ["Failed to write settings file: " ++ Text.quoted path, "Is a directory (os error 21)"]

end StoreFault

namespace SettingsStore

def fileName : String := "settings.json"

def filePath (s : SettingsStore) : String :=
  if s.path.isEmpty || s.path.endsWith "/" then s.path ++ fileName else s.path ++ "/" ++ fileName

/-- The text of the file, if there is one. -/
def content? (s : SettingsStore) : Option String :=
  match s.folder with
  | .present (.text content) => some content
  | _ => none

/-- A missing or malformed file means the default settings. -/
def load (s : SettingsStore) : Settings :=
  (s.content?.bind Settings.parse?).getD .default

/-- The directory is made if it is missing. -/
def save (s : SettingsStore) (settings : Settings) : Except StoreFault SettingsStore :=
  match s.folder with
  | .blocked => .error (.folderBlocked s.path)
  | .present .blocked => .error (.fileBlocked s.filePath)
  | _ => .ok { s with folder := .present (.text settings.render) }

/-- Loaded, changed and saved. -/
def update (s : SettingsStore) (change : Settings → Settings) :
    Except StoreFault (SettingsStore × Settings) :=
  let settings := change s.load
  (s.save settings).map fun s => (s, settings)

end SettingsStore

end Lineage
