import TopicTables.File.Tree
import TopicTables.Value.Flatten
import TopicTables.Violation
import TopicTables.Yaml.Value

/-! Settings files.

A settings file is a document whose top level is a map, or an empty document. It is
loaded as one flat bag of texts. -/
namespace TopicTables

/-- Why a settings file cannot be loaded. -/
inductive LoadFault where
  | file (fault : FileFault)
  | document (fault : Yaml.Fault)
  /-- The top level of the file at the path is no map. -/
  | notMapping (path : Path)
  | flatten (fault : FlattenFault)
  deriving DecidableEq, Repr

/-- The complaint about a file whose top level is no map. -/
def notMappingError (path : Path) : ConfigError :=
  ⟨"Settings file ".toList ++ path.text ++ " must contain a mapping at the top level.".toList,
    none, none⟩

def LoadFault.message : LoadFault → Text
  | .file fault => fault.message
  | .document fault => fault.message
  | .notMapping path => (notMappingError path).message
  | .flatten fault => fault.message

/-- The flat bag of a settings file with that content. -/
def loadText (path : Path) (content : List Char) : Except LoadFault TextBag :=
  match Yaml.read content with
  | .error fault => .error (.document fault)
  | .ok .nothing => .ok ∅
  | .ok (.map entries) => match flatten [] entries with
    | .ok bag => .ok bag
    | .error fault => .error (.flatten fault)
  | .ok .other => .error (.notMapping path)

/-- The flat bag of the settings file at a path. -/
def load (tree : FileTree) (path : Path) : Except LoadFault TextBag :=
  match tree.read path with
  | .ok t => loadText path t
  | .error fault => .error (.file fault)

end TopicTables
