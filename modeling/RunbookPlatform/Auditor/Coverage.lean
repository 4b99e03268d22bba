import RunbookPlatform.Auditor.Scope
import RunbookPlatform.Evidence.Services

/-!
# Control coverage

`apps/api/apps/auditor/coverage.py`: a mapping profile lists controls with what each of them
requires of an evidence bundle. The coverage of every control is computed from the items that the
manifest of the sealed bundle lists, and saved in one row for each control.

## Main definitions

- `ControlMappingProfile`, `ChangeControlCoverage` — the rows
- `validateMappingRules` — the rules that can be saved
- `computeCoverageResults`, `recomputeControlCoverage` — the functions of the source

## Design notes

What a rule lists may be any JSON value. Where the source iterates over a value or looks into one
that Python does not iterate, the functions fail with its `TypeError`.
-/

namespace RunbookPlatform

open Transactional

-- ════════════════════════════════════════════════════════════════════════
-- Rows
-- ════════════════════════════════════════════════════════════════════════

/-- `ControlCoverageStatus`. -/
inductive ControlCoverageStatus where
  | covered | partiallyCovered | notCovered | notApplicable | stale
  deriving DecidableEq

def ControlCoverageStatus.value : ControlCoverageStatus → String
  | covered => "covered"
  | partiallyCovered => "partially_covered"
  | notCovered => "not_covered"
  | notApplicable => "not_applicable"
  | stale => "stale"

/-- `ControlMappingProfile`. -/
structure ControlMappingProfile where
  organization : ℕ
  standard : String
  version : ℕ := 1
  mappingRules : Json
  isActive : Bool := true

/-- `CoverageResult`. -/
structure CoverageResult where
  controlId : String
  controlTitle : String
  coverageStatus : ControlCoverageStatus
  matchedSections : List String := []
  missingSections : List String := []
  evidencePaths : List String := []
  coverageFingerprintSha256 : String := ""
  deriving DecidableEq

/-- `ChangeControlCoverage`. -/
structure ChangeControlCoverage where
  organization : ℕ
  changeRecord : ℕ
  evidenceBundle : ℕ
  mappingProfile : ℕ
  standard : String
  controlId : String
  controlTitle : String
  coverageStatus : ControlCoverageStatus
  matchedSections : List String
  missingSections : List String
  evidencePaths : List String
  coverageFingerprintSha256 : String
  computedAt : Time
  computedBy : Option String

/-- A bundle with the rows that it is read with. -/
structure CoveredBundle where
  id : ℕ
  row : EvidenceBundle
  change : ChangeRecord
  /-- The risk level of the change's operation profile. -/
  riskLevel : String

section

variable (env : Env)

-- ════════════════════════════════════════════════════════════════════════
-- The rules of a profile
-- ════════════════════════════════════════════════════════════════════════

/-- The keys that a rule must not have. -/
def forbiddenRuleKeys : List String :=
  ["query", "url", "webhook", "python", "expression", "script"]

/-- One rule of `_validate_mapping_rules`. -/
def validateMappingRule (rule : Json) : Except Err Unit := do
  check (rule.isObj = true) <| .django "" "Control mapping rules must be JSON objects."
  check (∀ key ∈ forbiddenRuleKeys, key ∉ rule.keys) <|
    .django "" "Control mapping rules must not contain live queries or executable hooks."
  let controlId := strip (pyStr env (rule.getD "control_id" (.str "")))
  check (controlId ≠ "" ∧ controlId.length ≤ 128) <|
    .django "" "Control mapping rules require bounded control_id."

/-- `_validate_mapping_rules`. -/
def validateMappingRules (value : Json) : Except Err Unit :=
  match value with
  | .arr rules => do
    check (rules.length ≤ maxScopeItems) <|
      .django "" "Control mapping_rules contains too many entries."
    rules.forM (validateMappingRule env)
  | _ => .error (.django "" "Control mapping_rules must be a list.")

/-- `str(rule["control_id"])`. -/
def ruleControlText (rule : Json) : String := pyStr env (rule.getD "control_id" .null)

/-- `str(rule["control_id"]).strip()`. -/
def ruleControlId (rule : Json) : String := strip (ruleControlText env rule)

/-- The rules that have a control. -/
def effectiveRules (rules : List Json) : List Json :=
  rules.filter fun rule => rule.isObj && (rule.getD "control_id" .null).truthy

/-- `_ordered_rules`. -/
def orderedRules (rules : List Json) : List Json :=
  Ranked.rank (ruleControlText env) (effectiveRules rules)

/-- `text in value`. -/
def pyContains (text : String) : Json → Except Err Bool
  | .arr items => .ok (items.any (Json.pyEq (.str text)))
  | .obj fields => .ok (fields.any (·.1 = text))
  | .str other => .ok (decide (text.toList <:+: other.toList))
  | _ => .error (.uncaught "TypeError")

/-- `_rule_applies`. -/
def ruleApplies (rule : Json) (bundle : CoveredBundle) : Except Err Bool := do
  let applicability := (rule.getD "applicability" .null).orElse (.obj [])
  if applicability.isObj = false then pure true
  else
    let risks := applicability.getD "risk" .null
    let riskFits ← if risks.truthy then pyContains bundle.riskLevel risks else pure true
    if riskFits = false then pure false
    else
      let changeTypes := applicability.getD "change_type" .null
      if changeTypes.truthy then
        pyContains (if bundle.change.isEmergency then "emergency" else "standard") changeTypes
      else pure true

-- ════════════════════════════════════════════════════════════════════════
-- The items of a bundle
-- ════════════════════════════════════════════════════════════════════════

/-- The paths that one object of a manifest names. -/
def namedPaths (value : Json) : List String :=
  ["canonical_path", "path"].filterMap fun key =>
    match value.get? key with
    | some (.str path) => if strip path = "" then none else some (strip path)
    | _ => none

mutual

/-- `_collect_manifest_paths`. -/
def manifestPaths : Json → List String
  | .obj fields => namedPaths (.obj fields) ++ fieldPaths fields
  | .arr items => itemPaths items
  | _ => []

def itemPaths : List Json → List String
  | [] => []
  | value :: values => manifestPaths value ++ itemPaths values

def fieldPaths : List (String × Json) → List String
  | [] => []
  | (_, value) :: fields => manifestPaths value ++ fieldPaths fields

end

/-- `order_by("item_type", "position", "canonical_path", "item_key")`. The items of a bundle are of
its organization. -/
def orderedItems (items : List EvidenceBundleItem) : List EvidenceBundleItem :=
  Ranked.rank (fun item => toLex (item.itemType.value, toLex (item.position,
    toLex (item.canonicalPath, item.itemKey)))) items

/-- `_item_is_eligible`. -/
def itemIsEligible (paths : List String) (item : EvidenceBundleItem) : Bool :=
  item.present && item.valid && item.canonicalPath ≠ "" && paths.contains item.canonicalPath

/-- `_section_from_path`. -/
def sectionFromPath (path : String) : String :=
  let bare := ((path.toList.dropWhile (· = '/')).reverse.dropWhile (· = '/')).reverse
  String.ofList (bare.takeWhile (· ≠ '/'))

/-- `_item_evidence_path`. -/
def itemEvidencePath (item : EvidenceBundleItem) : String :=
  if item.jsonPointer ≠ "" then item.canonicalPath ++ "#" ++ item.jsonPointer
  else item.canonicalPath

-- ════════════════════════════════════════════════════════════════════════
-- Results
-- ════════════════════════════════════════════════════════════════════════

/-- `sorted(set(texts))`. -/
def sortedSet (texts : List String) : List String := Ranked.rank id texts.dedup

/-- What a rule lists under a key: `str(...).strip()` of each truthy entry. -/
def ruleTexts (rule : Json) (key : String) : Except Err (List String) :=
  match (rule.getD key (.arr [])).iterate? with
  | some entries => .ok (sortedSet ((entries.filter Json.truthy).map fun entry =>
      strip (pyStr env entry)))
  | none => .error (.uncaught "TypeError")

/-- `str(rule.get("control_title", "")).strip()[:255]`. -/
def ruleControlTitle (rule : Json) : String :=
  String.ofList ((strip (pyStr env (rule.getD "control_title" (.str "")))).toList.take 255)

/-- The items that a requirement finds: eligible, and of its section or its type. -/
def itemsFor (bundle : CoveredBundle) (fits : EvidenceBundleItem → Bool) :
    List EvidenceBundleItem :=
  (orderedItems bundle.row.items).filter fun item =>
    itemIsEligible (manifestPaths bundle.row.manifest) item && fits item

/-- A requirement: its text, and the items that meet it. -/
def requirementsOf (sections itemTypes : List String) :
    List (String × (EvidenceBundleItem → Bool)) :=
  (sections.map fun name =>
    ("section:" ++ name, fun item => decide (sectionFromPath item.canonicalPath = name))) ++
  itemTypes.map fun name => ("item_type:" ++ name, fun item => decide (item.itemType.value = name))

/-- `_compute_rule_result`, of the requirements. -/
def resultOf (bundle : CoveredBundle) (controlId controlTitle : String)
    (requirements : List (String × (EvidenceBundleItem → Bool))) : CoverageResult :=
  let met := requirements.filter fun requirement => itemsFor bundle requirement.2 ≠ []
  let matched := met.map (·.1)
  let missing := sortedSet ((requirements.map (·.1)).filter (· ∉ matched))
  { controlId
    controlTitle
    coverageStatus :=
      if requirements = [] then .notCovered
      else if missing = [] then .covered
      else if matched ≠ [] then .partiallyCovered
      else .notCovered
    matchedSections := sortedSet matched
    missingSections := missing
    evidencePaths := sortedSet (met.flatMap fun requirement =>
      (itemsFor bundle requirement.2).map itemEvidencePath) }

/-- `_compute_rule_result`. -/
def computeRuleResult (bundle : CoveredBundle) (rule : Json) : Except Err CoverageResult := do
  let sections ← ruleTexts env rule "required_sections"
  let itemTypes ← ruleTexts env rule "required_item_types"
  pure (resultOf bundle (ruleControlId env rule) (ruleControlTitle env rule)
    (requirementsOf sections itemTypes))

/-- `_with_fingerprint`. -/
def withFingerprint (bundle : CoveredBundle) (profile : Loaded ControlMappingProfile)
    (result : CoverageResult) : CoverageResult :=
  { result with
    coverageFingerprintSha256 := env.sha256 (Json.obj
      [("organization_id", .str (idText bundle.row.organization)),
        ("change_id", .str (idText bundle.row.changeRecord)),
        ("evidence_bundle_id", .str (idText bundle.id)),
        ("bundle_content_sha256", .str bundle.row.contentSha256),
        ("mapping_profile_id", .str (idText profile.id)),
        ("mapping_profile_version", .int profile.row.version),
        ("control_id", .str result.controlId),
        ("coverage_status", .str result.coverageStatus.value),
        ("matched_sections", .ofStrings result.matchedSections),
        ("missing_sections", .ofStrings result.missingSections),
        ("evidence_paths", .ofStrings result.evidencePaths)]).dumpsAscii }

/-- The result of one rule, without its fingerprint. -/
def unsignedResult (bundle : CoveredBundle) (rule : Json) : Except Err CoverageResult := do
  let applies ← ruleApplies rule bundle
  if applies then
    if bundle.row.completenessStatus = .complete then computeRuleResult env bundle rule
    else
      pure { controlId := ruleControlId env rule, controlTitle := ruleControlTitle env rule
             coverageStatus := .notCovered, missingSections := ["bundle:complete"] }
  else
    pure { controlId := ruleControlId env rule, controlTitle := ruleControlTitle env rule
           coverageStatus := .notApplicable }

/-- What `compute_coverage_results` computes for one rule. -/
def ruleResult (bundle : CoveredBundle) (profile : Loaded ControlMappingProfile) (rule : Json) :
    Except Err CoverageResult := do
  let result ← unsignedResult env bundle rule
  pure (withFingerprint env bundle profile result)

/-- `_validate_inputs`. -/
def validateCoverageInputs (bundle : CoveredBundle) (profile : Loaded ControlMappingProfile) :
    Except Err Unit := do
  check (bundle.row.organization = profile.row.organization) <|
    .validation "cross_org_mapping_profile"
      "Mapping profile must belong to the evidence bundle organization."
  check (bundle.row.status = .sealed) <|
    .validation "sealed_bundle_required" "Control coverage requires a sealed evidence bundle."
  check (profile.row.isActive = true) <|
    .validation "active_mapping_profile_required"
      "Control coverage requires an active mapping profile."

/-- `compute_coverage_results`. -/
def computeCoverageResults (bundle : CoveredBundle) (profile : Loaded ControlMappingProfile) :
    Except Err (List CoverageResult) := do
  validateCoverageInputs bundle profile
  match profile.row.mappingRules.iterate? with
  | some rules => (orderedRules env rules).mapM (ruleResult env bundle profile)
  | none => .error (.uncaught "TypeError")

-- ════════════════════════════════════════════════════════════════════════
-- The rows of a computation
-- ════════════════════════════════════════════════════════════════════════

/-- The row of a result. -/
def coverageRow (bundle : CoveredBundle) (profile : Loaded ControlMappingProfile) (now : Time)
    (computedBy : Option String) (result : CoverageResult) : ChangeControlCoverage where
  organization := bundle.row.organization
  changeRecord := bundle.row.changeRecord
  evidenceBundle := bundle.id
  mappingProfile := profile.id
  standard := profile.row.standard
  controlId := result.controlId
  controlTitle := result.controlTitle
  coverageStatus := result.coverageStatus
  matchedSections := result.matchedSections
  missingSections := result.missingSections
  evidencePaths := result.evidencePaths
  coverageFingerprintSha256 := result.coverageFingerprintSha256
  computedAt := now
  computedBy

/-- `ChangeControlCoverage.clean`, of a row of a sealed bundle and its own profile. -/
def cleanCoverage (bundle : CoveredBundle) (row : ChangeControlCoverage) : Except Err Unit := do
  check (bundle.change.organization = row.organization) <|
    .django "" "Coverage organization must match the change organization."
  check (row.matchedSections.length ≤ maxScopeItems) <|
    .django "" "matched_sections contains too many entries."
  check (row.missingSections.length ≤ maxScopeItems) <|
    .django "" "missing_sections contains too many entries."
  check (row.evidencePaths.length ≤ maxScopeItems) <|
    .django "" "evidence_paths contains too many entries."

/-- The row has the key of the unique constraint. -/
def ChangeControlCoverage.hasKey (bundle profile : ℕ) (controlId : String)
    (row : ChangeControlCoverage) : Bool :=
  row.evidenceBundle = bundle && row.mappingProfile = profile && row.controlId = controlId

/-- `objects.update_or_create(evidence_bundle, mapping_profile, control_id, defaults)`. -/
def updateOrCreate (bundle : CoveredBundle) (row : ChangeControlCoverage)
    (t : Table ChangeControlCoverage) :
    Except Err (Loaded ChangeControlCoverage × Table ChangeControlCoverage) := do
  cleanCoverage bundle row
  match t.find? fun _ old => old.hasKey row.evidenceBundle row.mappingProfile row.controlId with
  | some (i, _) => pure (⟨i, row⟩, t.modify i fun _ => row)
  | none => pure (⟨t.next, row⟩, t.insert row)

/-- The loop over the results. -/
def saveCoverages (bundle : CoveredBundle) :
    List ChangeControlCoverage → Table ChangeControlCoverage →
      Except Err (List (Loaded ChangeControlCoverage) × Table ChangeControlCoverage)
  | [], t => .ok ([], t)
  | row :: rows, t => do
    let (coverage, t) ← updateOrCreate bundle row t
    let (coverages, t) ← saveCoverages bundle rows t
    pure (coverage :: coverages, t)

/-- The earlier rows of controls that the profile does not have. -/
def markStale (bundle profile : ℕ) (controls : List String) (now : Time)
    (computedBy : Option String) (t : Table ChangeControlCoverage) :
    Table ChangeControlCoverage :=
  t.modifyWhere
    (fun row => row.evidenceBundle = bundle && row.mappingProfile = profile &&
      !controls.contains row.controlId)
    fun row => { row with coverageStatus := .stale, computedAt := now, computedBy }

/-- `recompute_control_coverage`. -/
def recomputeControlCoverage (bundle : CoveredBundle) (profile : Loaded ControlMappingProfile)
    (now : Time) (computedBy : Option String) (t : Table ChangeControlCoverage) :
    Except Err (List (Loaded ChangeControlCoverage) × Table ChangeControlCoverage) := do
  let results ← computeCoverageResults env bundle profile
  let (coverages, t) ←
    saveCoverages bundle (results.map (coverageRow bundle profile now computedBy)) t
  pure (coverages, markStale bundle.id profile.id (results.map (·.controlId)) now computedBy t)

end

end RunbookPlatform
