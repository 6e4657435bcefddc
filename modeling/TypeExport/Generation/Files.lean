import TypeExport.Declaration.Render
import TypeExport.File.Tree
import TypeExport.Generation.Basic
import TypeExport.Generation.Clash

/-!
# Generating files

Every type of a category is written to a file of its own, and the manifests come last.  The files of
the types are tasks for a pool of workers.  `generate` is what one worker does: it takes the tasks as
they are handed out, first the interfaces and then the enumerations, and the first failure ends the
generation.  `generateIn` is told in which order the tasks are done; each file is written at one
stroke.  What was written before a failure stays.
-/

namespace TypeExport

/-- The outcome of a generation: the files as they are left, the events, and the result. -/
structure GenerationOutcome (κ ν ε α : Type) where
  files : FileTree κ
  events : List (GenerationEvent ν)
  result : Except (GenerationError ε) α

namespace TypeGraph

variable {κ ε : Type} [TextContent κ] (g : TypeGraph ε)

def ofCategory (category : Category) (roots : List g.Node) : List g.Node :=
  roots.filter fun t => (g.descriptor t).kind.category? = some category

def filePath (directory : Path) (t : g.Node) : Path :=
  directory.join (.ofString ((g.descriptor t).fileStem ++ fileExtension))

def fileText (policy : Policy) (t : g.Node) : Except ε String :=
  (g.artifact policy t).map (Artifact.text policy)

def writeRoot (policy : Policy) (cwd : Location) (category : Category) (directory : Path)
    (files : FileTree κ) (t : g.Node) : FileTree κ × Except (RootFailure ε) Path :=
  let failure (cause : RootCause ε) : RootFailure ε :=
    { category, fullName := (g.descriptor t).fullName, cause }
  match g.fileText policy t with
  | .error e => (files, .error (failure (.properties e)))
  | .ok text =>
    let path := g.filePath directory t
    match files.writeOutput cwd path (TextContent.ofText text) with
    | (files, none) => (files, .ok path)
    | (files, some e) => (files, .error (failure (.write e)))

/-- Writes the files of the types one after the other, up to the first failure. -/
def writeRoots (policy : Policy) (cwd : Location) (category : Category) (directory : Path)
    (files : FileTree κ) : List g.Node → GenerationOutcome κ g.Node ε (List Path)
  | [] => { files, events := [], result := .ok [] }
  | t :: rest =>
    let reads := (g.reads policy t).map .read
    match g.writeRoot policy cwd category directory files t with
    | (files, .error failure) => { files, events := reads, result := .error (.root failure) }
    | (files, .ok path) =>
      let outcome := writeRoots policy cwd category directory files rest
      { outcome with
        events := reads ++ outcome.events
        result := outcome.result.map (path :: ·) }

/-- Makes the directory of a category that has types. -/
def makeDirectoryOf (cwd : Location) (directory : Path) (roots : List g.Node)
    (files : FileTree κ) : FileTree κ × Except (GenerationError ε) Unit :=
  if roots.isEmpty then (files, .ok ())
  else
    match files.makeOutput cwd directory with
    | (files, none) => (files, .ok ())
    | (files, some e) => (files, .error (.output e))

/-- Writes the manifest of a category that has types. -/
def writeManifest (cwd : Location) (directory : Path) (roots : List g.Node) (files : FileTree κ) :
    FileTree κ × Except (GenerationError ε) (List Path) :=
  if roots.isEmpty then (files, .ok [])
  else
    let path := directory.join (.ofString ("index" ++ fileExtension))
    let text := Manifest.text (roots.map fun t => (g.descriptor t).targetName)
    match files.writeOutput cwd path (TextContent.ofText text) with
    | (files, none) => (files, .ok [path])
    | (files, some e) => (files, .error (.output e))

def writeManifests (cwd : Location) (directories : OutputDirectories)
    (interfaces enumerations : List g.Node) (files : FileTree κ) :
    FileTree κ × Except (GenerationError ε) (List Path) :=
  match g.writeManifest cwd directories.interfaces interfaces files with
  | (files, .error e) => (files, .error e)
  | (files, .ok first) =>
    match g.writeManifest cwd directories.enumerations enumerations files with
    | (files, .error e) => (files, .error e)
    | (files, .ok second) => (files, .ok (first ++ second))

def sortPaths (paths : List Path) : List Path :=
  paths.mergeSort Path.le

def openingLines (interfaces enumerations : List g.Node) : List LogLine :=
  .info ("Generating TypeScript for " ++ toString interfaces.length ++ " interfaces and " ++
      toString enumerations.length ++ " enums") ::
    (clashWarnings (interfaces.map g.descriptor) ++ clashWarnings (enumerations.map g.descriptor))

/-- Writes the files of both categories and then the manifests. -/
def generateFiles (policy : Policy) (cwd : Location) (directories : OutputDirectories)
    (interfaces enumerations : List g.Node) (files : FileTree κ) :
    GenerationOutcome κ g.Node ε Generated :=
  match g.writeRoots policy cwd .interfaces directories.interfaces files interfaces with
  | { files, events, result := .error e } => { files, events, result := .error e }
  | { files, events, result := .ok interfaceFiles } =>
    match g.writeRoots policy cwd .enumerations directories.enumerations files enumerations with
    | { files, events := more, result := .error e } =>
      { files, events := events ++ more, result := .error e }
    | { files, events := more, result := .ok enumFiles } =>
      let (files, manifests) :=
        if policy.manifests then g.writeManifests cwd directories interfaces enumerations files
        else (files, .ok [])
      { files, events := events ++ more
        result := manifests.map fun manifestFiles =>
          { interfaceFiles := sortPaths interfaceFiles, enumFiles := sortPaths enumFiles,
            manifestFiles } }

/-- Generates the files of the types.  A failing type is logged. -/
def generate (policy : Policy) (cwd : Location) (directories : OutputDirectories)
    (describe : ε → String) (roots : List g.Node) (files : FileTree κ) :
    GenerationOutcome κ g.Node ε Generated :=
  if roots.isEmpty then
    { files, events := [.line (.info "No types to generate TypeScript for")], result := .ok {} }
  else
    let interfaces := g.ofCategory .interfaces roots
    let enumerations := g.ofCategory .enumerations roots
    let opening := (g.openingLines interfaces enumerations).map .line
    match g.makeDirectoryOf cwd directories.interfaces interfaces files with
    | (files, .error e) => { files, events := opening, result := .error e }
    | (files, .ok ()) =>
      match g.makeDirectoryOf cwd directories.enumerations enumerations files with
      | (files, .error e) => { files, events := opening, result := .error e }
      | (files, .ok ()) =>
        let outcome := g.generateFiles policy cwd directories interfaces enumerations files
        let closing := match outcome.result with
          | .error (.root failure) => [.line (failure.line describe)]
          | _ => []
        { outcome with events := opening ++ outcome.events ++ closing }

/-- The tasks of a generation, as they are handed out. -/
def tasks (roots : List g.Node) : List (Category × g.Node) :=
  (g.ofCategory .interfaces roots).map (Prod.mk .interfaces) ++
    (g.ofCategory .enumerations roots).map (Prod.mk .enumerations)

/-- Does tasks one after the other, up to the first failure. -/
def writeTasks (policy : Policy) (cwd : Location) (directories : OutputDirectories)
    (files : FileTree κ) : List (Category × g.Node) →
      GenerationOutcome κ g.Node ε (List (Category × Path))
  | [] => { files, events := [], result := .ok [] }
  | (category, t) :: rest =>
    let reads := (g.reads policy t).map .read
    match g.writeRoot policy cwd category (directories.of category) files t with
    | (files, .error failure) => { files, events := reads, result := .error (.root failure) }
    | (files, .ok path) =>
      let outcome := writeTasks policy cwd directories files rest
      { outcome with
        events := reads ++ outcome.events
        result := outcome.result.map ((category, path) :: ·) }

def pathsOf (category : Category) (written : List (Category × Path)) : List Path :=
  (written.filter (·.1 = category)).map (·.2)

/-- Does tasks in an order and writes the manifests. -/
def completeTasks (policy : Policy) (cwd : Location) (directories : OutputDirectories)
    (order : List (Category × g.Node)) (roots : List g.Node) (files : FileTree κ) :
    GenerationOutcome κ g.Node ε Generated :=
  match g.writeTasks policy cwd directories files order with
  | { files, events, result := .error e } => { files, events, result := .error e }
  | { files, events, result := .ok written } =>
    let (files, manifests) :=
      if policy.manifests then
        g.writeManifests cwd directories (g.ofCategory .interfaces roots)
          (g.ofCategory .enumerations roots) files
      else (files, .ok [])
    { files, events
      result := manifests.map fun manifestFiles =>
        { interfaceFiles := sortPaths (pathsOf .interfaces written),
          enumFiles := sortPaths (pathsOf .enumerations written), manifestFiles } }

/-- Generates the files of the types, with the tasks done in a given order. -/
def generateIn (order : List (Category × g.Node)) (policy : Policy) (cwd : Location)
    (directories : OutputDirectories) (describe : ε → String) (roots : List g.Node)
    (files : FileTree κ) : GenerationOutcome κ g.Node ε Generated :=
  if roots.isEmpty then
    { files, events := [.line (.info "No types to generate TypeScript for")], result := .ok {} }
  else
    let interfaces := g.ofCategory .interfaces roots
    let enumerations := g.ofCategory .enumerations roots
    let opening := (g.openingLines interfaces enumerations).map .line
    match g.makeDirectoryOf cwd directories.interfaces interfaces files with
    | (files, .error e) => { files, events := opening, result := .error e }
    | (files, .ok ()) =>
      match g.makeDirectoryOf cwd directories.enumerations enumerations files with
      | (files, .error e) => { files, events := opening, result := .error e }
      | (files, .ok ()) =>
        let outcome := g.completeTasks policy cwd directories order roots files
        let closing := match outcome.result with
          | .error (.root failure) => [.line (failure.line describe)]
          | _ => []
        { outcome with events := opening ++ outcome.events ++ closing }

end TypeGraph

end TypeExport
