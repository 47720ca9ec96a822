import StorageUpgrade.Platform
import StorageUpgrade.Shell.Session

/-!
# Configurations

A configuration is an object whose keys are those of attributes.  It must name the files, and it
sets the attributes that the command line did not: where both set one to different values, the
command line counts and the log says so.
-/

namespace StorageUpgrade
namespace Conf

/-- A value as the note on two values shows it: the texts of a list with spaces between them. -/
def joined : Json → Except Json.Misuse String
  | .arr vs => do
    let texts ← vs.mapM fun v => match v with
      | .str _ | .rawText _ => .ok v.display
      | _ => .error .wrongKind
    return " ".intercalate texts
  | v => if v.holdsTooLong then .error (.badForm v) else .ok v.display

/-- The note that a value of the command line counts, and not the one of the configuration. -/
def overrideNote (key cli conf : String) : String :=
  "Note: attribute " ++ key ++ " value in CLI (" ++ cli ++
    ") overrides value stored in conf file (" ++ conf ++ ")"

/-- Sets an attribute to the value of a configuration, unless it has been set. -/
def applyValue (a : Attribute) (v : Json) : SessionM Unit := do
  let given ← SessionM.valueOf a
  if Attribute.isUnset given then SessionM.set a v
  else if !given.alike v then
    let given ← (Json.Misuse.lift (joined given) : Except Error _)
    let conf ← (Json.Misuse.lift (joined v) : Except Error _)
    SessionM.say "config" Log.warning (overrideNote a.key given conf)

/-- Applies an entry of a configuration; the files come last. -/
def applyEntry (key : String) (v : Json) : SessionM Unit :=
  match Attribute.ofKey? key with
  | none => throw (.input (.confUnknown key))
  | some .files => return
  | some a => applyValue a v

/-- Applies a configuration, and checks the settings that result. -/
def apply (files : Files) : Json → SessionM Unit
  | .obj entries => do
    entries.forM fun (key, v) => applyEntry key v
    match Json.find? Attribute.files.key entries with
    | none => throw (.input .confWithoutFiles)
    | some names =>
      SessionM.set .files names
      ((← SessionM.settings).check files false : Except Error _)
  | _ => throw (.input .confNotObject)

/-- Applies the configuration that a text holds; its problems are those of the file. -/
def applyText (platform : Platform) (files : Files) (path text : String) : SessionM Unit :=
  match platform.readRelaxed text with
  | .error fault => throw (fault.toError (.confNotJson path))
  | .ok conf =>
    tryCatch (apply files conf) fun e => match e with
      | .input problem => throw (.input (.conf path problem))
      | e => throw e

/-- Reads the configuration that the first of the files is. -/
def read (platform : Platform) (files : Files) : SessionM Unit := do
  match ← SessionM.valueOf .files with
  | .arr (.str name :: _) =>
    let path := (Path.ofText name).text
    if !Path.isConf name then throw (.fault (.notConfFile path))
    applyText platform files path (← SessionM.readFile files name)
    modify fun s => { s with settings := { s.settings with confFile := some path } }
    SessionM.say "config" Log.debug ("Read configuration from " ++ path)
  | .arr [] => throw (.misuse .empty)
  | _ => throw (.misuse .wrongKind)

end Conf
end StorageUpgrade
