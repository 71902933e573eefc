import GuardedCnf.Format.Clauses
import GuardedCnf.Format.Text
import GuardedCnf.Path
/-! # The choice of a format

    Formats are tried from the last registered to the first.  A format is asked
    for by its name, or found by the extension of a path. -/

namespace GuardedCnf

/-- The formats to choose from, the last registered first. -/
abbrev Registry := List Format

/-- Why no format is chosen. -/
inductive FormatError where
  /-- No format has the extension of the path. -/
  | noExtension (path : String) (known : List String)
  /-- No format has the name. -/
  | unknown (name : String)

/-- The wording of a failure. -/
def FormatError.message : FormatError → String
  | .noExtension path known =>
      s!"don't know what to do with {path}: known formats are " ++ ", ".intercalate known
  | .unknown name => s!"unknown format {name}"

namespace Registry

/-- The formats that are known unless told otherwise. -/
def standard : Registry := [Format.dimacs, Format.text]

/-- The names of the formats. -/
def names (formats : Registry) : List String := formats.map (·.name)

/-- The format with a name. -/
def byName? (formats : Registry) (name : String) : Option Format :=
  formats.find? (·.name == name)

/-- The format for the extension of a path. -/
def forPath (formats : Registry) (path : String) : Except FormatError Format :=
  match formats.find? fun f => f.extensions.contains (Path.extension path) with
  | some f => .ok f
  | none => .error (.noExtension path formats.names)

/-- The format with a name, or without one that for the path. -/
def choose (formats : Registry) (path : String) : Option String → Except FormatError Format
  | none => formats.forPath path
  | some name =>
      match formats.byName? name with
      | some f => .ok f
      | none => .error (.unknown name)

end Registry

/-- Why a file gives no formula. -/
inductive InputError where
  | format (e : FormatError)
  /-- The file cannot be opened. -/
  | opening (path : String) (e : FileError)
  /-- The content is no formula of the format. -/
  | content (path name : String) (e : ReadError)

/-- The wording of a failure, the outermost part first. -/
def InputError.messages : InputError → List String
  | .format e => [e.message]
  | .opening path e => [s!"opening input file {path}", e.message]
  | .content path name e => s!"parsing {path} as {name}" :: e.messages

end GuardedCnf
