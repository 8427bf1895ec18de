import ArkLifecycle.Digest
import ArkLifecycle.Files.Tree
import ArkLifecycle.Json.Access
import ArkLifecycle.Json.Parser
import ArkLifecycle.Json.Printer

/-! Where the results of a run are kept.

Results stand below `base/analysis/runs/run`, or below `base/analysis` when there is no run.
-/

namespace ArkLifecycle

/-- The place for the results of an analysis, or of one run of it. -/
structure ArtifactStore where
  base : Path
  analysisId : Text
  runId : Option Text
deriving DecidableEq, Repr, Inhabited

namespace ArtifactStore

/-- (nextName v) is `v` as a name that continues a path. -/
def nextName : Json → Except Fault Text
  | .text name => .ok name
  | v => .error (.notJoinable v.shape)

/-- (ofNames base analysisId runId) is the store below a base; the names must be texts, but a run
that says nothing is none.
-/
def ofNames (base analysisId runId : Json) : Except Fault ArtifactStore := do
  return {
    base := .ofText (← base.pathText)
    analysisId := ← nextName analysisId
    runId := ← (if runId.truthy then some <$> nextName runId else pure none) }

/-- (runName? store) is the name of the run, none when it is absent or empty. -/
def runName? (store : ArtifactStore) : Option Text :=
  store.runId.filter fun name => !name.isEmpty

/-- (analysisRoot store) is the directory of the analysis. -/
def analysisRoot (store : ArtifactStore) : Path :=
  store.base.joinText store.analysisId

/-- (root store) is the directory of the run. -/
def root (store : ArtifactStore) : Path :=
  match store.runName? with
  | some name => (store.analysisRoot.joinText "runs").joinText name
  | none => store.analysisRoot

/-- (path store parts) goes on from the root by written paths. -/
def path (store : ArtifactStore) (parts : List Text) : Path :=
  parts.foldl Path.joinText store.root

/-- (reference store written) is a path as reports give it: relative to the analysis. -/
def reference (store : ArtifactStore) (written : Text) : Text :=
  match store.runName? with
  | some name => (((Path.ofText "runs").joinText name).joinText written).render
  | none => written

/-- (referenceTo store v) is the reference to whatever is given as a path. It is looked at only
when there is a run.
-/
def referenceTo (store : ArtifactStore) (v : Json) : Except Fault Json :=
  match store.runName? with
  | some _ => return .text (store.reference (← nextName v))
  | none => .ok v

/-- (ensureDirectory store parts) makes a directory below the root. -/
def ensureDirectory (store : ArtifactStore) (parts : List Text) : FileEdit Unit :=
  FileEdit.makeDirectory (store.path parts)

/-- (writeText store written text) writes a file below the root, with its directories. -/
def writeText (store : ArtifactStore) (written text : Text) : FileEdit Unit :=
  FileEdit.writeFile (store.path [written]) (Emission.write text)

/-- (writeValue store written v) writes a file below the root whose text should be `v`. -/
def writeValue (store : ArtifactStore) (written : Text) (v : Json) : FileEdit Unit := do
  match v with
  | .text text => store.writeText written text
  | v =>
      FileEdit.makeDirectory (store.path [written]).parent
      throw (.notWritable v.shape)

/-- (writeJson store written v) writes a document below the root. -/
def writeJson (store : ArtifactStore) (written : Text) (v : Json) : FileEdit Unit :=
  FileEdit.writeFile (store.path [written]) v.indented

/-- (readJson store tree written) reads a document below the root. -/
def readJson (store : ArtifactStore) (tree : FileTree) (written : Text) : Except Fault Json := do
  Json.parse (← tree.read (store.path [written]))

/-- (programId tree written) names an analysis by the digest of the program's file. -/
def programId (tree : FileTree) (written : Text) : Except Fault Text := do
  return Digest.short (Digest.ofText (← tree.read (.ofText written)))

/-- (subjectPath v) is `v` as the path of the program's file, which must be given. -/
def subjectPath (v : Json) : Except Fault Text :=
  if v.truthy then v.pathText else .error .noSubject

/-- (analysisIdOf tree modelPath project) names an analysis: by its program's file, or by the
project when there is no file.
-/
def analysisIdOf (tree : FileTree) (modelPath project : Json) : Except Fault Json := do
  if !modelPath.truthy && project.truthy then
    return project
  else
    return .text (← programId tree (← subjectPath modelPath))

end ArtifactStore

end ArkLifecycle
