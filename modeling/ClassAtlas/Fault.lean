import ClassAtlas.Text.Quoted

/-!
# Faults

Why an operation refuses its input. A fault is a cause; its wording is in `Fault.message`
alone, and nowhere else is a text of a fault built or taken apart.
-/
namespace ClassAtlas

/-- The ways in which the file system refuses a path. -/
inductive PathFault where
  /-- Nothing lies there. -/
  | missing
  /-- A file stands where a directory has to. -/
  | notDirectory
  /-- A directory stands where a file has to. -/
  | isDirectory
  /-- Something already lies there. -/
  | exists
deriving DecidableEq, Repr

/-- The number and the words of a refusal. -/
def PathFault.words : PathFault → String
  | .missing => "[Errno 2] No such file or directory"
  | .notDirectory => "[Errno 20] Not a directory"
  | .isDirectory => "[Errno 21] Is a directory"
  | .exists => "[Errno 17] File exists"

/-- A cause of failure. -/
inductive Fault where
  /-- A type is required and none is given. -/
  | unknownUsage
  /-- A reference is required and none is given. -/
  | unknownReference
  /-- A kind of type is required and none is given. -/
  | unknownKind
  /-- A word is not in a vocabulary. -/
  | notAWord (word vocabulary : String)
  /-- A text that has to be one line is not. -/
  | severalLines (label : String)
  /-- A text that must not hold a double quote does. -/
  | quoteInside (label text : String)
  /-- An index is built once only. -/
  | alreadyBuilt
  /-- None of the requested source roots is a directory. -/
  | rootsMissing (requested : List String)
  /-- No candidate source root is a directory. -/
  | rootNotFound (base : String) (candidates : List String)
  /-- No diagram is written in this format. -/
  | unknownFormat (format : String) (known : List String)
  /-- The file system refuses a path. -/
  | refused (cause : PathFault) (path : String)
  /-- A setting has a value of a kind that cannot be used where it stands. -/
  | unusableSetting
  /-- A setting is asked for a part that values of its kind do not have. -/
  | misusedSetting
  /-- A setting is required and none is given. -/
  | missingSetting
  /-- A setting is named and its value left out. -/
  | emptySetting
  /-- A node has no kind to label it with. -/
  | unlabelledNode
deriving DecidableEq, Repr

/-- The cause in words. -/
def Fault.message : Fault → String
  | .unknownUsage => "Unknown type usage: None"
  | .unknownReference => "Unknown type reference: None"
  | .unknownKind => "Unknown type kind: None"
  | .notAWord word vocabulary => Text.quoted word ++ " is not a valid " ++ vocabulary
  | .severalLines label => label ++ " must be a single line"
  | .quoteInside label text => "Quote (\") not allowed in " ++ label ++ ": " ++ text
  | .alreadyBuilt => "IndexBuilder has already been built"
  | .rootsMissing requested =>
    "None of the given source roots exist: " ++ ", ".intercalate requested
  | .rootNotFound base candidates =>
    "No source root found under " ++ base ++ " (tried " ++ ", ".intercalate candidates ++ ")"
  | .unknownFormat format known =>
    "Unknown output format '" ++ format ++ "' (expected one of " ++ ", ".intercalate known ++ ")"
  | .refused cause path => cause.words ++ ": " ++ Text.quoted path
  | .unusableSetting => "setting of an unusable kind"
  | .misusedSetting => "setting without the part it is asked for"
  | .missingSetting => "setting missing"
  | .emptySetting => "setting without a value"
  | .unlabelledNode => "node without a kind"

end ClassAtlas
