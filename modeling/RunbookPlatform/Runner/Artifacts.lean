import RunbookPlatform.Runner.Executor
import RunbookPlatform.System

/-!
# Collection of artifacts

`WorkspaceManager.collect_artifacts` walks the declared artifacts of a step through the file
system that a command has left behind. The file system answers what paths lead to and may fail;
a failure that is no `SandboxValidationError` passes the callers' handlers.

## Main definitions

- `FileSystem` — what the walk asks of the operating system
- `collectArtifacts` — `collect_artifacts`, with the paths it opens
- `CollectsAsDeclared` — it fails as declared
- `Declared` — the file systems and declarations for which it does

## Main results

- `collectOne_of_standing` — what one declaration leads to
- `collects_as_declared_iff` — when only defects of required artifacts are raised
- `collects_as_designed` — what holds of every file system
-/

namespace RunbookPlatform.Sandbox

-- ════════════════════════════════════════════════════════════════════════
-- File systems
-- ════════════════════════════════════════════════════════════════════════

/-- Why a lookup fails. -/
inductive Errno where
  | noent | notdir | badf | loop
  /-- Any other reason: a directory that may not be searched, a name that is too long. -/
  | other (text : String)

/-- `_ignore_error` of `pathlib`. -/
def Errno.isIgnored : Errno → Bool
  | other _ => false
  | _ => true

/-- What stands at a location. -/
inductive Node where
  | regular (content : Bytes) (readable : Bool)
  | directory (size : ℕ)
  | blockDevice
  | charDevice
  | socket
  | fifo

/-- A file system. Nothing of it changes while artifacts are collected. -/
structure FileSystem where
  /-- Where the lookup of a path ends, and what stands there. -/
  locate : String → Except Errno (String × Node)
  /-- `Path.resolve()`; the name of an exception for a loop of links or a path that is no text
  of the operating system. -/
  resolve : String → Except String String
  /-- A resolved path has no links: its lookup ends at itself. -/
  canonical : ∀ {path resolved location node}, resolve path = .ok resolved →
    locate resolved = .ok (location, node) → location = resolved

namespace FileSystem

variable (fs : FileSystem)

/-- `path.stat()`. -/
def stat (path : String) : Except Exn Node :=
  match fs.locate path with
  | .ok (_, node) => .ok node
  | .error _ => .error (.other "OSError")

/-- `path.exists()`. -/
def pathExists (path : String) : Except Exn Bool :=
  match fs.locate path with
  | .ok _ => .ok true
  | .error errno => if errno.isIgnored then .ok false else .error (.other "OSError")

/-- `path.read_bytes()`. -/
def readBytes (path : String) : Except Exn Bytes :=
  match fs.locate path with
  | .ok (_, .regular content true) => .ok content
  | .ok (_, .regular _ false) => .error (.other "PermissionError")
  | .ok (_, .directory _) => .error (.other "IsADirectoryError")
  | .ok _ => .error (.other "OSError")
  | .error _ => .error (.other "OSError")

end FileSystem

/-- `st_size`. -/
def Node.size : Node → ℕ
  | regular content _ => content.length
  | directory size => size
  | _ => 0

-- ════════════════════════════════════════════════════════════════════════
-- Collection
-- ════════════════════════════════════════════════════════════════════════

/-- The candidate is the root or lies under it. -/
def isInside (root candidate : String) : Bool :=
  (root ++ "/").toList.isPrefixOf candidate.toList || candidate == root

section

variable (env : Env) (host : Host) (fs : FileSystem) (root : String) (limits : Limits)

/-- `validate_artifact_path`. -/
def validateArtifactPath (relativePath : String) : Except Exn String :=
  if isAbsolute relativePath then
    .error (.sandboxValidation
      s!"Artifact path must be relative, got absolute: {env.reprText relativePath}")
  else if hasParentPart relativePath then
    .error (.sandboxValidation s!"Artifact path contains '..': {env.reprText relativePath}")
  else do
    let resolvedRoot ← (fs.resolve root).mapError Exn.other
    let candidate ← (fs.resolve (joinPath resolvedRoot relativePath)).mapError Exn.other
    if isInside resolvedRoot candidate then pure candidate
    else .error (.sandboxValidation
      s!"Artifact path {env.reprText relativePath} resolves outside workspace root (possible symlink escape or traversal)")

/-- `_reject_special_file`. -/
def rejectSpecialFile (path : String) : Except Exn Unit := do
  match ← fs.stat path with
  | .blockDevice | .charDevice =>
    .error (.sandboxValidation s!"Artifact path is a device file: {path}")
  | .socket => .error (.sandboxValidation s!"Artifact path is a socket: {path}")
  | .fifo => .error (.sandboxValidation s!"Artifact path is a FIFO: {path}")
  | _ => pure ()

/-- The body of the loop of `collect_artifacts` up to `read_bytes`: the path it opens and the
size of what stands there, or `continue`. -/
def examine (collected : ℕ) (spec : ArtifactSpec) : Except Exn (Option (String × ℕ)) :=
  match validateArtifactPath env fs root spec.path with
  | .error (.sandboxValidation text) =>
    if spec.required then .error (.sandboxValidation text) else .ok none
  | .error exc => .error exc
  | .ok absPath => do
    let found ← fs.pathExists absPath
    if !found then
      if spec.required then
        .error (.sandboxValidation s!"Required artifact {env.reprText spec.path} not found")
      else pure none
    else do
      rejectSpecialFile fs absPath
      let node ← fs.stat absPath
      if limits.artifactMaxBytes < node.size then
        .error (.sandboxValidation
          s!"Artifact {env.reprText spec.path} is {node.size} bytes, exceeds limit {limits.artifactMaxBytes}")
      else if limits.maxArtifacts ≤ collected then
        .error (.sandboxValidation s!"Artifact count exceeds limit of {limits.maxArtifacts}")
      else pure (some (absPath, node.size))

/-- What an exception, or an artifact, leaves for one declaration, and the paths it opens. -/
def collectOne (collected : ℕ) (spec : ArtifactSpec) :
    Except Exn (Option CollectedArtifact) × List String :=
  match examine env fs root limits collected spec with
  | .error exc => (.error exc, [])
  | .ok none => (.ok none, [])
  | .ok (some (absPath, size)) =>
    match fs.readBytes absPath with
    | .error exc => (.error exc, [absPath])
    | .ok data =>
      (.ok (some
        { spec, absolutePath := absPath, sizeBytes := size
          checksumSha256 := host.sha256 data }), [absPath])

/-- The loop of `collect_artifacts`: what it returns, and the paths it opens. -/
def collectFrom (collected : List CollectedArtifact) :
    List ArtifactSpec → Except Exn (List CollectedArtifact) × List String
  | [] => (.ok collected, [])
  | spec :: specs =>
    let (outcome, opened) := collectOne env host fs root limits collected.length spec
    match outcome with
    | .error exc => (.error exc, opened)
    | .ok artifact =>
      let (outcome, later) := collectFrom (collected ++ artifact.toList) specs
      (outcome, opened ++ later)

/-- `collect_artifacts`. -/
def collectArtifacts (specs : List ArtifactSpec) :
    Except Exn (List CollectedArtifact) × List String :=
  collectFrom env host fs root limits [] specs

-- ════════════════════════════════════════════════════════════════════════
-- Declarations
-- ════════════════════════════════════════════════════════════════════════

/-- How a declared path stands in the file system. -/
inductive Standing where
  /-- An absolute path, one with `..`, one that leads out of the workspace, or nowhere. -/
  | missing
  /-- A special file, or more bytes than the limit. -/
  | rejected
  /-- A readable regular file in the workspace. -/
  | file
  /-- A directory, or a file that may not be read. -/
  | unopenable
  /-- A path whose lookup fails. -/
  | faulty
  deriving DecidableEq

/-- How what stands at a location does, given the limit of its size. -/
def Node.standing (maxBytes : ℤ) : Node → Standing
  | regular content readable =>
    if maxBytes < content.length then .rejected else if readable then .file else .unopenable
  | directory size => if maxBytes < size then .rejected else .unopenable
  | _ => .rejected

def standing (path : String) : Standing :=
  if isAbsolute path || hasParentPart path then .missing
  else
    match fs.resolve root with
    | .error _ => .faulty
    | .ok resolvedRoot =>
      match fs.resolve (joinPath resolvedRoot path) with
      | .error _ => .faulty
      | .ok candidate =>
        if isInside resolvedRoot candidate then
          match fs.locate candidate with
          | .error errno => if errno.isIgnored then .missing else .faulty
          | .ok (_, node) => node.standing limits.artifactMaxBytes
        else .missing

/-- The path is declared as one inside the workspace, and an existing regular file stands
there. -/
def isRegularInside (path : String) : Bool :=
  !isAbsolute path && !hasParentPart path &&
    match fs.resolve root with
    | .error _ => false
    | .ok resolvedRoot =>
      match fs.resolve (joinPath resolvedRoot path) with
      | .error _ => false
      | .ok candidate =>
        isInside resolvedRoot candidate &&
          match fs.locate candidate with
          | .ok (_, .regular _ _) => true
          | _ => false

/-- The collection stops at the declaration with an exception. -/
def StopsAt (specs : List ArtifactSpec) (spec : ArtifactSpec) : Prop :=
  ∃ before after entries exc, specs = before ++ spec :: after ∧
    (collectArtifacts env host fs root limits before).1 = .ok entries ∧
    (collectArtifacts env host fs root limits (before ++ [spec])).1 = .error exc

/-- Artifacts are collected, or fail, as declared. -/
structure CollectsAsDeclared (specs : List ArtifactSpec) : Prop where
  outcome :
    (∃ entries, (collectArtifacts env host fs root limits specs).1 = .ok entries ∧
      entries.map (·.spec) = specs.filter fun spec => isRegularInside fs root spec.path) ∨
    ∃ text, (collectArtifacts env host fs root limits specs).1 = .error (.sandboxValidation text)
  /-- What is opened lies inside the workspace. -/
  inside : ∀ path ∈ (collectArtifacts env host fs root limits specs).2,
    ∀ location node, fs.locate path = .ok (location, node) →
      ∃ resolvedRoot, fs.resolve root = .ok resolvedRoot ∧ isInside resolvedRoot location = true
  /-- An artifact that is not required does not stop the collection by a defect of its own. -/
  optional : ∀ spec, StopsAt env host fs root limits specs spec →
    spec.required = true ∨ standing fs root limits spec.path = .file

/-- The declarations, after so many artifacts, up to the first that is refused as declared. -/
def Declared : ℕ → List ArtifactSpec → Prop
  | _, [] => True
  | collected, spec :: specs =>
    match standing fs root limits spec.path with
    | .missing => spec.required = true ∨ Declared collected specs
    | .rejected => spec.required = true
    | .file => limits.maxArtifacts ≤ collected ∨ Declared (collected + 1) specs
    | .unopenable => spec.required = true ∧ limits.maxArtifacts ≤ collected
    | .faulty => False

end

-- ════════════════════════════════════════════════════════════════════════
-- One declaration
-- ════════════════════════════════════════════════════════════════════════

section

variable {env : Env} {host : Host} {fs : FileSystem} {root : String} {limits : Limits}
  {count : ℕ} {spec : ArtifactSpec}

theorem validateArtifactPath_ok {path absPath : String} :
    validateArtifactPath env fs root path = .ok absPath ↔
      isAbsolute path = false ∧ hasParentPart path = false ∧
        ∃ resolvedRoot, fs.resolve root = .ok resolvedRoot ∧
          fs.resolve (joinPath resolvedRoot path) = .ok absPath ∧
          isInside resolvedRoot absPath = true := by
  unfold validateArtifactPath
  cases isAbsolute path with
  | true => simp
  | false =>
    cases hasParentPart path with
    | true => simp
    | false =>
      cases fs.resolve root with
      | error name => simp [Except.mapError, bind, Except.bind]
      | ok resolvedRoot =>
        cases hcandidate : fs.resolve (joinPath resolvedRoot path) with
        | error name => simp [Except.mapError, bind, Except.bind, hcandidate]
        | ok candidate =>
          cases hinside : isInside resolvedRoot candidate with
          | false =>
            simp only [Except.mapError, bind, Except.bind, hcandidate, hinside]
            refine iff_of_false (fun h => by cases h) ?_
            rintro ⟨-, -, _, hroot, hsame, hin⟩
            obtain rfl := Except.ok.inj hroot
            rw [hcandidate] at hsame
            obtain rfl := Except.ok.inj hsame
            rw [hinside] at hin
            cases hin
          | true =>
            simp only [Except.mapError, bind, Except.bind, pure, Except.pure, hcandidate, hinside,
              Bool.false_eq_true, if_false, if_true, true_and, Except.ok.injEq]
            constructor
            · rintro rfl
              exact ⟨resolvedRoot, rfl, hcandidate, hinside⟩
            · rintro ⟨_, rfl, hsame, -⟩
              exact Except.ok.inj (hcandidate.symm.trans hsame)

/-- The standing of a path that passes the check and leads nowhere. -/
theorem standing_of_lost {path absPath : String} {errno : Errno}
    (h : validateArtifactPath env fs root path = .ok absPath)
    (hlocate : fs.locate absPath = .error errno) :
    standing fs root limits path = if errno.isIgnored then .missing else .faulty := by
  obtain ⟨habs, hparent, resolvedRoot, hroot, hresolve, hinside⟩ := validateArtifactPath_ok.1 h
  simp only [standing, habs, hparent, hroot, hresolve, hinside, hlocate, Bool.or_self, if_true,
    Bool.false_eq_true, if_false]

/-- The standing of a path that passes the check is that of what it leads to. -/
theorem standing_of_found {path absPath location : String} {node : Node}
    (h : validateArtifactPath env fs root path = .ok absPath)
    (hlocate : fs.locate absPath = .ok (location, node)) :
    standing fs root limits path = node.standing limits.artifactMaxBytes := by
  obtain ⟨habs, hparent, resolvedRoot, hroot, hresolve, hinside⟩ := validateArtifactPath_ok.1 h
  simp only [standing, habs, hparent, hroot, hresolve, hinside, hlocate, Bool.or_self, if_true,
    Bool.false_eq_true, if_false]

variable (limits) in
/-- A path that does not pass the check is missing, or its lookup fails. -/
theorem standing_of_invalid {path : String} {exc : Exn}
    (h : validateArtifactPath env fs root path = .error exc) :
    (∃ text, exc = .sandboxValidation text) ∧ standing fs root limits path = .missing ∨
      (∃ name, exc = .other name) ∧ standing fs root limits path = .faulty := by
  unfold validateArtifactPath at h
  unfold standing
  cases habs : isAbsolute path with
  | true =>
    rw [habs, if_pos rfl] at h
    cases h
    exact .inl ⟨⟨_, rfl⟩, by simp⟩
  | false =>
    cases hparent : hasParentPart path with
    | true =>
      rw [habs, hparent, if_neg (by simp), if_pos rfl] at h
      cases h
      exact .inl ⟨⟨_, rfl⟩, by simp⟩
    | false =>
      rw [habs, hparent, if_neg (by simp), if_neg (by simp)] at h
      cases hroot : fs.resolve root with
      | error name =>
        rw [hroot] at h
        cases h
        exact .inr ⟨⟨_, rfl⟩, by simp⟩
      | ok resolvedRoot =>
        rw [hroot] at h
        cases hcandidate : fs.resolve (joinPath resolvedRoot path) with
        | error name =>
          simp only [Except.mapError, bind, Except.bind, hcandidate] at h
          cases h
          exact .inr ⟨⟨_, rfl⟩, by simp [hcandidate]⟩
        | ok candidate =>
          simp only [Except.mapError, bind, Except.bind, hcandidate, pure, Except.pure] at h
          split_ifs at h with hinside
          cases h
          exact .inl ⟨⟨_, rfl⟩, by simp [hcandidate, hinside]⟩

/-- A special file. -/
def Node.isSpecial : Node → Bool
  | regular _ _ => false
  | directory _ => false
  | _ => true

theorem examine_of_refused {text : String}
    (h : validateArtifactPath env fs root spec.path = .error (.sandboxValidation text)) :
    examine env fs root limits count spec =
      if spec.required then .error (.sandboxValidation text) else .ok none := by
  simp only [examine, h]

theorem examine_of_failed {name : String}
    (h : validateArtifactPath env fs root spec.path = .error (.other name)) :
    examine env fs root limits count spec = .error (.other name) := by
  simp only [examine, h]

theorem examine_of_lost {absPath : String} {errno : Errno}
    (h : validateArtifactPath env fs root spec.path = .ok absPath)
    (hlocate : fs.locate absPath = .error errno) :
    examine env fs root limits count spec =
      if errno.isIgnored then
        if spec.required then
          .error (.sandboxValidation s!"Required artifact {env.reprText spec.path} not found")
        else .ok none
      else .error (.other "OSError") := by
  simp only [examine, h, FileSystem.pathExists, hlocate]
  cases errno.isIgnored <;> rfl

variable (limits count) in
theorem examine_of_special {absPath location : String} {node : Node}
    (h : validateArtifactPath env fs root spec.path = .ok absPath)
    (hlocate : fs.locate absPath = .ok (location, node)) (hnode : node.isSpecial = true) :
    ∃ text, examine env fs root limits count spec = .error (.sandboxValidation text) := by
  simp only [examine, h, FileSystem.pathExists, rejectSpecialFile, FileSystem.stat, hlocate]
  cases node with
  | regular content readable => cases hnode
  | directory size => cases hnode
  | _ => exact ⟨_, rfl⟩

theorem examine_of_plain {absPath location : String} {node : Node}
    (h : validateArtifactPath env fs root spec.path = .ok absPath)
    (hlocate : fs.locate absPath = .ok (location, node)) (hnode : node.isSpecial = false) :
    examine env fs root limits count spec =
      if limits.artifactMaxBytes < node.size then
        .error (.sandboxValidation
          s!"Artifact {env.reprText spec.path} is {node.size} bytes, exceeds limit {limits.artifactMaxBytes}")
      else if limits.maxArtifacts ≤ count then
        .error (.sandboxValidation s!"Artifact count exceeds limit of {limits.maxArtifacts}")
      else .ok (some (absPath, node.size)) := by
  simp only [examine, h, FileSystem.pathExists, rejectSpecialFile, FileSystem.stat, hlocate]
  cases node with
  | regular content readable => rfl
  | directory size => rfl
  | _ => cases hnode

/-- What is opened is the path that passed the check. -/
theorem examine_some {absPath : String} {size : ℕ}
    (h : examine env fs root limits count spec = .ok (some (absPath, size))) :
    validateArtifactPath env fs root spec.path = .ok absPath := by
  cases hvalid : validateArtifactPath env fs root spec.path with
  | error exc =>
    rcases standing_of_invalid limits hvalid with ⟨⟨text, rfl⟩, -⟩ | ⟨⟨name, rfl⟩, -⟩
    · rw [examine_of_refused hvalid] at h
      split_ifs at h
      cases Except.ok.inj h
    · rw [examine_of_failed hvalid] at h
      cases h
  | ok path =>
    cases hlocate : fs.locate path with
    | error errno =>
      rw [examine_of_lost hvalid hlocate] at h
      split_ifs at h
      cases Except.ok.inj h
    | ok found =>
      obtain ⟨location, node⟩ := found
      cases hnode : node.isSpecial with
      | true =>
        obtain ⟨text, htext⟩ := examine_of_special limits count hvalid hlocate hnode
        rw [htext] at h
        cases h
      | false =>
        rw [examine_of_plain hvalid hlocate hnode] at h
        split_ifs at h
        obtain ⟨rfl, -⟩ := Prod.mk.inj (Option.some.inj (Except.ok.inj h))
        rfl

/-- What is opened lies inside the workspace. -/
theorem collectOne_inside {path location : String} {node : Node}
    (h : path ∈ (collectOne env host fs root limits count spec).2)
    (hlocate : fs.locate path = .ok (location, node)) :
    ∃ resolvedRoot, fs.resolve root = .ok resolvedRoot ∧ isInside resolvedRoot location = true := by
  unfold collectOne at h
  cases hexamine : examine env fs root limits count spec with
  | error exc => simp [hexamine] at h
  | ok opened =>
    cases opened with
    | none => simp [hexamine] at h
    | some opened =>
      obtain ⟨absPath, size⟩ := opened
      obtain ⟨-, -, resolvedRoot, hroot, hresolve, hinside⟩ :=
        validateArtifactPath_ok.1 (examine_some hexamine)
      have hpath : path = absPath := by
        rw [hexamine] at h
        cases hread : fs.readBytes absPath <;> simpa [hread] using h
      subst hpath
      rw [fs.canonical hresolve hlocate]
      exact ⟨resolvedRoot, hroot, hinside⟩

/-- **One declaration**: what comes of it, by its standing and the number of artifacts before. -/
inductive OneOutcome (spec : ArtifactSpec) (full : Bool) :
    Standing → Except Exn (Option CollectedArtifact) → Prop
  | skipped : spec.required = false → OneOutcome spec full .missing (.ok none)
  | absent (text : String) : spec.required = true →
      OneOutcome spec full .missing (.error (.sandboxValidation text))
  | refused (text : String) : OneOutcome spec full .rejected (.error (.sandboxValidation text))
  | taken (artifact : CollectedArtifact) : artifact.spec = spec → full = false →
      OneOutcome spec full .file (.ok (some artifact))
  | tooMany (text : String) : full = true →
      OneOutcome spec full .file (.error (.sandboxValidation text))
  | closed (name : String) : full = false → OneOutcome spec full .unopenable (.error (.other name))
  | closedTooMany (text : String) : full = true →
      OneOutcome spec full .unopenable (.error (.sandboxValidation text))
  | failed (name : String) : OneOutcome spec full .faulty (.error (.other name))

variable (env host fs root limits count spec) in
theorem collectOne_of_standing :
    OneOutcome spec (decide (limits.maxArtifacts ≤ count)) (standing fs root limits spec.path)
      (collectOne env host fs root limits count spec).1 := by
  unfold collectOne
  cases hvalid : validateArtifactPath env fs root spec.path with
  | error exc =>
    rcases standing_of_invalid limits hvalid with
      ⟨⟨text, rfl⟩, hstanding⟩ | ⟨⟨name, rfl⟩, hstanding⟩
    · rw [examine_of_refused hvalid, hstanding]
      cases hrequired : spec.required with
      | true => exact .absent _ hrequired
      | false => exact .skipped hrequired
    · rw [examine_of_failed hvalid, hstanding]
      exact .failed name
  | ok absPath =>
    cases hlocate : fs.locate absPath with
    | error errno =>
      rw [examine_of_lost hvalid hlocate, standing_of_lost hvalid hlocate]
      cases errno.isIgnored with
      | false => exact .failed _
      | true =>
        cases hrequired : spec.required with
        | true => exact .absent _ hrequired
        | false => exact .skipped hrequired
    | ok found =>
      obtain ⟨location, node⟩ := found
      rw [standing_of_found hvalid hlocate]
      cases hnode : node.isSpecial with
      | true =>
        obtain ⟨text, htext⟩ := examine_of_special limits count hvalid
          hlocate hnode
        have hstanding : node.standing limits.artifactMaxBytes = .rejected := by
          cases node with
          | regular content readable => cases hnode
          | directory size => cases hnode
          | _ => rfl
        rw [htext, hstanding]
        exact .refused text
      | false =>
        rw [examine_of_plain hvalid hlocate hnode]
        by_cases hsize : limits.artifactMaxBytes < node.size
        · have hstanding : node.standing limits.artifactMaxBytes = .rejected := by
            cases node with
            | regular content readable => exact if_pos hsize
            | directory size => exact if_pos hsize
            | _ => cases hnode
          rw [if_pos hsize, hstanding]
          exact .refused _
        · rw [if_neg hsize]
          cases node with
          | regular content readable =>
            rw [show (Node.regular content readable).standing limits.artifactMaxBytes =
              if readable then .file else .unopenable from if_neg hsize]
            by_cases hcount : limits.maxArtifacts ≤ count
            · rw [if_pos hcount]
              cases readable with
              | true => exact .tooMany _ (decide_eq_true hcount)
              | false => exact .closedTooMany _ (decide_eq_true hcount)
            · rw [if_neg hcount]
              cases readable with
              | true =>
                simp only [FileSystem.readBytes, hlocate]
                exact .taken _ rfl (decide_eq_false hcount)
              | false =>
                simp only [FileSystem.readBytes, hlocate]
                exact .closed _ (decide_eq_false hcount)
          | directory size =>
            rw [show (Node.directory size).standing limits.artifactMaxBytes = .unopenable from
              if_neg hsize]
            by_cases hcount : limits.maxArtifacts ≤ count
            · rw [if_pos hcount]
              exact .closedTooMany _ (decide_eq_true hcount)
            · rw [if_neg hcount]
              simp only [FileSystem.readBytes, hlocate]
              exact .closed _ (decide_eq_false hcount)
          | _ => cases hnode

/-- A readable file of the workspace is a regular one. -/
theorem isRegularInside_of_file {path : String} (h : standing fs root limits path = .file) :
    isRegularInside fs root path = true := by
  unfold standing at h
  unfold isRegularInside
  cases habs : isAbsolute path with
  | true => simp [habs] at h
  | false =>
    cases hparent : hasParentPart path with
    | true => simp [habs, hparent] at h
    | false =>
      cases hroot : fs.resolve root with
      | error name => simp [habs, hparent, hroot] at h
      | ok resolvedRoot =>
        cases hcandidate : fs.resolve (joinPath resolvedRoot path) with
        | error name => simp [habs, hparent, hroot, hcandidate] at h
        | ok candidate =>
          cases hinside : isInside resolvedRoot candidate with
          | false => simp [habs, hparent, hroot, hcandidate, hinside] at h
          | true =>
            cases hlocate : fs.locate candidate with
            | error errno =>
              simp only [habs, hparent, hroot, hcandidate, hinside, hlocate] at h
              cases hignored : errno.isIgnored <;> simp [hignored] at h
            | ok found =>
              obtain ⟨location, node⟩ := found
              simp only [habs, hparent, hroot, hcandidate, hinside, hlocate] at h
              cases node with
              | regular content readable => simp [hcandidate, hinside, hlocate]
              | directory size =>
                simp only [Node.standing] at h
                split_ifs at h
              | _ => cases h

/-- Where nothing stands, or outside of the workspace, is no regular file. -/
theorem isRegularInside_of_missing {path : String}
    (h : standing fs root limits path = .missing) : isRegularInside fs root path = false := by
  unfold standing at h
  unfold isRegularInside
  cases habs : isAbsolute path with
  | true => rfl
  | false =>
    cases hparent : hasParentPart path with
    | true => rfl
    | false =>
      cases hroot : fs.resolve root with
      | error name => rfl
      | ok resolvedRoot =>
        cases hcandidate : fs.resolve (joinPath resolvedRoot path) with
        | error name => simp [hcandidate]
        | ok candidate =>
          cases hinside : isInside resolvedRoot candidate with
          | false => simp [hcandidate, hinside]
          | true =>
            cases hlocate : fs.locate candidate with
            | error errno => simp [hcandidate, hlocate]
            | ok found =>
              obtain ⟨location, node⟩ := found
              simp only [habs, hparent, hroot, hcandidate, hinside, hlocate] at h
              cases node with
              | regular content readable =>
                simp only [Node.standing, Bool.or_self, Bool.false_eq_true, if_false, if_true] at h
                split_ifs at h
              | _ => simp [hcandidate, hlocate]

-- ════════════════════════════════════════════════════════════════════════
-- All declarations
-- ════════════════════════════════════════════════════════════════════════

variable {collected : List CollectedArtifact} {specs : List ArtifactSpec} {exc : Exn}

theorem collectFrom_of_error
    (h : (collectOne env host fs root limits collected.length spec).1 = .error exc) :
    (collectFrom env host fs root limits collected (spec :: specs)).1 = .error exc := by
  simp only [collectFrom, h]

theorem collectFrom_of_ok {artifact : Option CollectedArtifact}
    (h : (collectOne env host fs root limits collected.length spec).1 = .ok artifact) :
    (collectFrom env host fs root limits collected (spec :: specs)).1 =
      (collectFrom env host fs root limits (collected ++ artifact.toList) specs).1 := by
  simp only [collectFrom, h]

/-- Nothing outside the workspace is opened. -/
theorem collectFrom_inside {path location : String} {node : Node}
    (h : path ∈ (collectFrom env host fs root limits collected specs).2)
    (hlocate : fs.locate path = .ok (location, node)) :
    ∃ resolvedRoot, fs.resolve root = .ok resolvedRoot ∧ isInside resolvedRoot location = true := by
  induction specs generalizing collected with
  | nil => cases h
  | cons spec specs ih =>
    cases hone : (collectOne env host fs root limits collected.length spec).1 with
    | error exc =>
      simp only [collectFrom, hone] at h
      exact collectOne_inside h hlocate
    | ok artifact =>
      simp only [collectFrom, hone] at h
      rcases List.mem_append.1 h with h | h
      · exact collectOne_inside h hlocate
      · exact ih h

/-- What the collection returns, or raises as declared, after some artifacts. -/
def OutcomeFrom (env : Env) (host : Host) (fs : FileSystem) (root : String) (limits : Limits)
    (collected : List CollectedArtifact) (specs : List ArtifactSpec) : Prop :=
  (∃ entries, (collectFrom env host fs root limits collected specs).1 = .ok (collected ++ entries) ∧
    entries.map (·.spec) = specs.filter fun spec => isRegularInside fs root spec.path) ∨
  ∃ text, (collectFrom env host fs root limits collected specs).1 =
    .error (.sandboxValidation text)

def StopsFrom (env : Env) (host : Host) (fs : FileSystem) (root : String) (limits : Limits)
    (collected : List CollectedArtifact) (specs : List ArtifactSpec) (spec : ArtifactSpec) : Prop :=
  ∃ before after entries exc, specs = before ++ spec :: after ∧
    (collectFrom env host fs root limits collected before).1 = .ok entries ∧
    (collectFrom env host fs root limits collected (before ++ [spec])).1 = .error exc

/-- What is returned extends what was collected before. -/
theorem collectFrom_extends {result : List CollectedArtifact}
    (h : (collectFrom env host fs root limits collected specs).1 = .ok result) :
    ∃ more, result = collected ++ more := by
  induction specs generalizing collected with
  | nil =>
    cases h
    exact ⟨[], (List.append_nil _).symm⟩
  | cons spec specs ih =>
    cases hone : (collectOne env host fs root limits collected.length spec).1 with
    | error exc =>
      rw [collectFrom_of_error hone] at h
      cases h
    | ok artifact =>
      rw [collectFrom_of_ok hone] at h
      obtain ⟨more, hmore⟩ := ih h
      exact ⟨artifact.toList ++ more, by rw [hmore, List.append_assoc]⟩

theorem outcomeFrom_of_error
    (h : (collectOne env host fs root limits collected.length spec).1 = .error exc) :
    OutcomeFrom env host fs root limits collected (spec :: specs) ↔
      ∃ text, exc = .sandboxValidation text := by
  rw [OutcomeFrom, collectFrom_of_error h]
  constructor
  · rintro (⟨entries, heq, -⟩ | ⟨text, heq⟩)
    · cases heq
    · exact ⟨text, Except.error.inj heq⟩
  · rintro ⟨text, rfl⟩
    exact .inr ⟨text, rfl⟩

theorem outcomeFrom_skipped
    (h : (collectOne env host fs root limits collected.length spec).1 = .ok none)
    (hmissing : isRegularInside fs root spec.path = false) :
    OutcomeFrom env host fs root limits collected (spec :: specs) ↔
      OutcomeFrom env host fs root limits collected specs := by
  rw [OutcomeFrom, OutcomeFrom, collectFrom_of_ok h, List.filter_cons_of_neg (by simp [hmissing])]
  simp

theorem outcomeFrom_taken {artifact : CollectedArtifact}
    (h : (collectOne env host fs root limits collected.length spec).1 = .ok (some artifact))
    (hspec : artifact.spec = spec) (hregular : isRegularInside fs root spec.path = true) :
    OutcomeFrom env host fs root limits collected (spec :: specs) ↔
      OutcomeFrom env host fs root limits (collected ++ [artifact]) specs := by
  rw [OutcomeFrom, OutcomeFrom, collectFrom_of_ok h, List.filter_cons_of_pos (by simp [hregular]),
    Option.toList_some]
  refine or_congr_left ?_
  constructor
  · rintro ⟨entries, hentries, hmap⟩
    obtain ⟨more, hmore⟩ := collectFrom_extends hentries
    rw [List.append_assoc] at hmore
    obtain rfl := List.append_cancel_left hmore
    exact ⟨more, by rw [hentries, List.append_assoc], (List.cons.inj hmap).2⟩
  · rintro ⟨entries, hentries, hmap⟩
    exact ⟨artifact :: entries, by simpa using hentries, by simp [hspec, hmap]⟩

theorem stopsFrom_of_error {other : ArtifactSpec}
    (h : (collectOne env host fs root limits collected.length spec).1 = .error exc) :
    StopsFrom env host fs root limits collected (spec :: specs) other ↔ other = spec := by
  constructor
  · rintro ⟨before, after, entries, _, hspecs, hbefore, -⟩
    cases before with
    | nil => exact (List.cons.inj hspecs).1.symm
    | cons first before =>
      obtain rfl := (List.cons.inj hspecs).1
      rw [collectFrom_of_error h] at hbefore
      cases hbefore
  · rintro rfl
    exact ⟨[], specs, collected, exc, rfl, rfl, collectFrom_of_error h⟩

theorem stopsFrom_of_ok {artifact : Option CollectedArtifact} {other : ArtifactSpec}
    (h : (collectOne env host fs root limits collected.length spec).1 = .ok artifact) :
    StopsFrom env host fs root limits collected (spec :: specs) other ↔
      StopsFrom env host fs root limits (collected ++ artifact.toList) specs other := by
  constructor
  · rintro ⟨before, after, entries, exc, hspecs, hbefore, hstop⟩
    cases before with
    | nil =>
      obtain rfl := (List.cons.inj hspecs).1
      rw [List.nil_append, collectFrom_of_ok h] at hstop
      cases hstop
    | cons first before =>
      obtain ⟨rfl, rfl⟩ := List.cons.inj hspecs
      rw [collectFrom_of_ok h] at hbefore
      rw [List.cons_append, collectFrom_of_ok h] at hstop
      exact ⟨before, after, entries, exc, rfl, hbefore, hstop⟩
  · rintro ⟨before, after, entries, exc, rfl, hbefore, hstop⟩
    refine ⟨spec :: before, after, entries, exc, rfl, ?_, ?_⟩
    · rw [collectFrom_of_ok h]
      exact hbefore
    · rw [List.cons_append, collectFrom_of_ok h]
      exact hstop

variable (env host fs root limits collected specs) in
/-- After some artifacts, the rest is collected as declared when it stands as declared. -/
theorem collectsFrom_iff :
    (OutcomeFrom env host fs root limits collected specs ∧
      ∀ spec, StopsFrom env host fs root limits collected specs spec →
        spec.required = true ∨ standing fs root limits spec.path = .file) ↔
      Declared fs root limits collected.length specs := by
  induction specs generalizing collected with
  | nil =>
    refine iff_of_true ⟨.inl ⟨[], by simp [collectFrom], rfl⟩, ?_⟩ trivial
    rintro spec ⟨before, after, -, -, hspecs, -⟩
    cases before <;> cases hspecs
  | cons spec specs ih =>
    have hone := collectOne_of_standing env host fs root limits collected.length spec
    rw [Declared]
    generalize hout : (collectOne env host fs root limits collected.length spec).1 = out at hone
    generalize hstanding : standing fs root limits spec.path = stands at hone
    cases hone with
    | skipped hrequired =>
      simp only [outcomeFrom_skipped hout (isRegularInside_of_missing hstanding),
        stopsFrom_of_ok hout, Option.toList_none, List.append_nil, ih, hrequired,
        Bool.false_eq_true, false_or]
    | absent text hrequired =>
      simp [outcomeFrom_of_error hout, stopsFrom_of_error hout, hrequired]
    | refused text =>
      simp [outcomeFrom_of_error hout, stopsFrom_of_error hout, hstanding]
    | taken artifact hspec hfull =>
      have hcount : ¬limits.maxArtifacts ≤ collected.length := of_decide_eq_false hfull
      have hrest := ih (collected ++ [artifact])
      rw [List.length_append, List.length_singleton] at hrest
      simp only [outcomeFrom_taken hout hspec (isRegularInside_of_file hstanding),
        stopsFrom_of_ok hout, Option.toList_some, hrest, hcount, false_or]
    | tooMany text hfull =>
      have hcount : limits.maxArtifacts ≤ collected.length := of_decide_eq_true hfull
      simp [outcomeFrom_of_error hout, stopsFrom_of_error hout, hstanding, hcount]
    | closed name hfull =>
      have hcount : ¬limits.maxArtifacts ≤ collected.length := of_decide_eq_false hfull
      simp [outcomeFrom_of_error hout, hcount]
    | closedTooMany text hfull =>
      have hcount : limits.maxArtifacts ≤ collected.length := of_decide_eq_true hfull
      simp [outcomeFrom_of_error hout, stopsFrom_of_error hout, hstanding, hcount]
    | failed name => simp [outcomeFrom_of_error hout]

/-- **Artifacts** are collected as declared exactly when they stand as declared. -/
theorem collects_as_declared_iff :
    CollectsAsDeclared env host fs root limits specs ↔ Declared fs root limits 0 specs := by
  have hiff := collectsFrom_iff env host fs root limits [] specs
  rw [← show ([] : List CollectedArtifact).length = 0 from rfl, ← hiff]
  constructor
  · intro h
    exact ⟨h.outcome, h.optional⟩
  · rintro ⟨houtcome, hoptional⟩
    exact ⟨houtcome, fun path hpath location node => collectFrom_inside hpath, hoptional⟩

/-- A path that the system does not open: a directory, a file that may not be read, or one whose
lookup fails. -/
def Unopened (fs : FileSystem) (root : String) (limits : Limits) (spec : ArtifactSpec) : Prop :=
  standing fs root limits spec.path = .unopenable ∨ standing fs root limits spec.path = .faulty

/-- What the collection does by design. -/
structure CollectsAsDesigned (env : Env) (host : Host) (fs : FileSystem) (root : String)
    (limits : Limits) (specs : List ArtifactSpec) : Prop where
  returned : ∀ entries, (collectArtifacts env host fs root limits specs).1 = .ok entries →
    entries.map (·.spec) = specs.filter fun spec => isRegularInside fs root spec.path
  /-- Unless it stops at a path that the system does not open, it raises what is declared. -/
  raised : ∀ exc, (collectArtifacts env host fs root limits specs).1 = .error exc →
    ∃ spec, StopsAt env host fs root limits specs spec ∧
      (Unopened fs root limits spec ∨ ∃ text, exc = .sandboxValidation text)
  /-- What is opened lies inside the workspace. -/
  inside : ∀ path ∈ (collectArtifacts env host fs root limits specs).2,
    ∀ location node, fs.locate path = .ok (location, node) →
      ∃ resolvedRoot, fs.resolve root = .ok resolvedRoot ∧ isInside resolvedRoot location = true
  /-- An artifact that is not required does not stop the collection by its absence, or by a path
  that is not allowed. -/
  optional : ∀ spec, StopsAt env host fs root limits specs spec →
    spec.required = true ∨ standing fs root limits spec.path ≠ .missing

theorem returnedFrom {result : List CollectedArtifact}
    (h : (collectFrom env host fs root limits collected specs).1 = .ok result) :
    result.map (·.spec) =
      collected.map (·.spec) ++ specs.filter fun spec => isRegularInside fs root spec.path := by
  induction specs generalizing collected with
  | nil =>
    cases h
    exact (List.append_nil _).symm
  | cons spec specs ih =>
    have hone := collectOne_of_standing env host fs root limits collected.length spec
    generalize hout : (collectOne env host fs root limits collected.length spec).1 = out at hone
    generalize hstanding : standing fs root limits spec.path = stands at hone
    cases out with
    | error exc =>
      rw [collectFrom_of_error hout] at h
      cases h
    | ok artifact =>
      rw [collectFrom_of_ok hout] at h
      rw [ih h]
      cases hone with
      | skipped _ => simp [isRegularInside_of_missing hstanding]
      | taken _ hspec _ => simp [isRegularInside_of_file hstanding, hspec]

theorem raisedFrom (h : (collectFrom env host fs root limits collected specs).1 = .error exc) :
    ∃ spec, StopsFrom env host fs root limits collected specs spec ∧
      (Unopened fs root limits spec ∨ ∃ text, exc = .sandboxValidation text) := by
  induction specs generalizing collected with
  | nil => cases h
  | cons spec specs ih =>
    have hone := collectOne_of_standing env host fs root limits collected.length spec
    generalize hout : (collectOne env host fs root limits collected.length spec).1 = out at hone
    generalize hstanding : standing fs root limits spec.path = stands at hone
    cases out with
    | ok artifact =>
      rw [collectFrom_of_ok hout] at h
      obtain ⟨other, hstop, hwhy⟩ := ih h
      exact ⟨other, (stopsFrom_of_ok hout).2 hstop, hwhy⟩
    | error raised =>
      rw [collectFrom_of_error hout] at h
      obtain rfl := Except.error.inj h
      refine ⟨spec, (stopsFrom_of_error hout).2 rfl, ?_⟩
      cases hone with
      | absent text _ => exact .inr ⟨text, rfl⟩
      | refused text => exact .inr ⟨text, rfl⟩
      | tooMany text _ => exact .inr ⟨text, rfl⟩
      | closedTooMany text _ => exact .inr ⟨text, rfl⟩
      | closed name _ => exact .inl (.inl hstanding)
      | failed name => exact .inl (.inr hstanding)

theorem optionalFrom {other : ArtifactSpec}
    (h : StopsFrom env host fs root limits collected specs other) :
    other.required = true ∨ standing fs root limits other.path ≠ .missing := by
  induction specs generalizing collected with
  | nil =>
    obtain ⟨before, after, -, -, hspecs, -⟩ := h
    cases before <;> cases hspecs
  | cons spec specs ih =>
    have hone := collectOne_of_standing env host fs root limits collected.length spec
    generalize hout : (collectOne env host fs root limits collected.length spec).1 = out at hone
    generalize hstanding : standing fs root limits spec.path = stands at hone
    cases out with
    | ok artifact => exact ih ((stopsFrom_of_ok hout).1 h)
    | error exc =>
      obtain rfl := (stopsFrom_of_error hout).1 h
      cases hone with
      | absent _ hrequired => exact .inl hrequired
      | _ => exact .inr (by simp [hstanding])

/-- **Artifacts**, by design: what is returned is every regular file of the workspace, an absent
one that is not required is passed over, nothing outside is opened. -/
theorem collects_as_designed (env : Env) (host : Host) (fs : FileSystem) (root : String)
    (limits : Limits) (specs : List ArtifactSpec) :
    CollectsAsDesigned env host fs root limits specs where
  returned _ h := returnedFrom h
  raised _ h := raisedFrom h
  inside _ hpath _ _ := collectFrom_inside hpath
  optional _ h := optionalFrom h

end

/-- A workspace with one file, of three bytes. -/
def oneOutput : FileSystem where
  locate path :=
    if path = "/workspace/out" then .ok (path, .regular [1, 2, 3] true) else .error .noent
  resolve path := .ok path
  canonical {path resolved location node} _ hlocate := by
    split_ifs at hlocate
    exact (Prod.mk.inj (Except.ok.inj hlocate)).1.symm

/-- A file over the limit fails the step, though it is not required. -/
theorem oversized_optional_fails :
    ¬∀ (fs : FileSystem) (limits : Limits) (specs : List ArtifactSpec),
      CollectsAsDeclared .sample .sample fs "/workspace" limits specs := by
  intro h
  have hoptional := (h oneOutput
    { timeoutSeconds := 60, stdoutMaxBytes := 65536, stderrMaxBytes := 65536
      artifactMaxBytes := 2, maxArtifacts := 10 } [{ name := "out", path := "out" }]).optional
      { name := "out", path := "out" } ⟨[], [], [], _, rfl, rfl, by with_unfolding_all rfl⟩
  revert hoptional
  decide +kernel

end RunbookPlatform.Sandbox
