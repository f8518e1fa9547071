/-
  Ambient.Discovery

  From the locations of manifests to the symbols in them. A relative path starts at the base
  directory of the configuration, or at the working directory.
-/
import Ambient.Config.Basic
import Ambient.Manifest.Entry
import Ambient.Source.Loading

namespace Ambient.Discovery

/-- A path given as a value; only texts are paths. -/
def pathOf (value : Json) : Except Fault Path :=
  match value with
  | .str text => .ok (Path.ofText text)
  | _ => unsuitable (.notPath value.kind)

/-- The place that a location stands for under a base directory. -/
def resolveLocation (cwd : Path) (baseDirectory location : Json) : Except Fault String := do
  if ← isUrl location.text then .ok location.text
  else
    let path ← pathOf location
    if path.isAbsolute then .ok path.text
    else
      let base ← if baseDirectory.isTruthy then pathOf baseDirectory else .ok cwd
      .ok (base.join path).text

/-- The fault of a manifest that could not be loaded from a place. -/
def loadFault (place : String) : Fault → Fault
  | .fileMissing _ => .discovery (.notFound place)
  | .source cause => .discovery (.notLoaded place cause)
  | fault => fault

/-- The symbols of the manifest at a place. -/
def symbolsAt (world : World) (place : String) : Except Fault (List TypeSymbol) := do
  let loaded ← (world.load place).mapError (loadFault place)
  Manifest.symbolsOf loaded.data

/-- The working directory as a path. -/
def workingDirectory (world : World) : Path :=
  { root := "/", steps := world.files.cwd }

/-- The symbols of the manifest at a location. -/
def symbolsOfLocation (world : World) (config : Config) (location : Json) :
    Except Fault (List TypeSymbol) := do
  let place ← resolveLocation (workingDirectory world) config.baseDirectory location
  symbolsAt world place

/-- The symbols of the manifests at some locations, in the order of the locations. -/
def loadManifests (world : World) (config : Config) :
    List Json → Except Fault (List TypeSymbol)
  | [] => .ok []
  | location :: rest => do
    let symbols ← symbolsOfLocation world config location
    let others ← loadManifests world config rest
    .ok (symbols ++ others)

/-- The symbols of all configured manifests. -/
def loadConfigured (world : World) (config : Config) : Except Fault (List TypeSymbol) := do
  loadManifests world config (← config.manifestPaths)

/-- The requests that are made while the manifests at some locations are loaded, up to the first that
cannot be. -/
def requests (world : World) (config : Config) : List Json → List Request
  | [] => []
  | location :: rest =>
    match resolveLocation (workingDirectory world) config.baseDirectory location with
    | .error _ => []
    | .ok place =>
      (World.request? defaultTimeout place).toList ++
        match symbolsAt world place with
        | .ok _ => requests world config rest
        | .error _ => []

end Ambient.Discovery
