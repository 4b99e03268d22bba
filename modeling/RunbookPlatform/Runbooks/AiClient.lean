import Mathlib.Data.List.Induction
import RunbookPlatform.Core.Python

/-!
# The boundary of the AI service

`apps/runbooks/ai_client.py` maps the decoded JSON of the AI service to records. The checks read
truth values and memberships, so that a value of an unexpected type can pass them, or break them.

The fields of the records hold whatever the response has there; the declared types are a
predicate on them.

## Main definitions

- `MapError` — what a mapping raises
- `validateAndMapCandidate`, `validateAndMapEnrichment` — the two mappings
- `MapsWell` — the boundary's promise: a contract error, or a typed record
- `CandidateFits`, `EnrichmentFits` — the responses on which it is kept

## Main results

- `mapSteps_cases` — what the loop over the steps does
- `maps_well_iff` — the promise is kept exactly on these responses
-/

namespace RunbookPlatform

-- ════════════════════════════════════════════════════════════════════════
-- Decoded values
-- ════════════════════════════════════════════════════════════════════════

namespace Doc

/-- `value.get(key, default)`. -/
def getD : Doc → String → Doc → Doc
  | obj members, key, default => (members.lookup key).getD default
  | _, _, default => default

def isObj : Doc → Bool
  | obj _ => true
  | _ => false

def isStr : Doc → Bool
  | str _ => true
  | _ => false

def isBool : Doc → Bool
  | bool _ => true
  | _ => false

def items? : Doc → Option (List Doc)
  | arr items => some items
  | _ => none

theorem isStr_iff {d : Doc} : d.isStr = true ↔ ∃ s, d = str s := by
  cases d <;> simp [isStr]

/-- Whether `hash(value)` is defined. -/
def hashable : Doc → Bool
  | arr _ => false
  | obj _ => false
  | _ => true

theorem hashable_of_isStr {d : Doc} (h : d.isStr = true) : d.hashable = true := by
  obtain ⟨s, rfl⟩ := isStr_iff.1 h
  rfl

section

-- `integer repr` is the integer that a finite `float` equals.
variable (integer : String → Option ℤ)

/-- The integer that a value equals. -/
def number? : Doc → Option ℤ
  | bool b => some (if b then 1 else 0)
  | int n => some n
  | float (.finite repr) => integer repr
  | _ => none

/-- The truth value of a decoded value. -/
def truthy : Doc → Bool
  | null => false
  | bool b => b
  | int n => n != 0
  | float (.finite repr) => integer repr != some 0
  | float _ => true
  | str s => s != ""
  | arr items => !items.isEmpty
  | obj members => !members.isEmpty

/-- Whether a member of a `set` is found under a value: `==`, and the same object for `NaN`. -/
def sameKey : Doc → Doc → Bool
  | str s, str t => s == t
  | null, null => true
  | float (.finite x), float (.finite y) =>
    x == y || (integer x).isSome && integer x == integer y
  | float x, float y => x == y
  | a, b => (a.number? integer).isSome && a.number? integer == b.number? integer

/-- `value in seen`. -/
def isSeen (seen : List Doc) (value : Doc) : Bool := seen.any fun key => key.sameKey integer value

/-- Texts are found among texts only. -/
theorem isSeen_str {seen : List Doc} {s : String} (h : str s ∈ seen) :
    isSeen integer seen (str s) = true :=
  List.any_eq_true.2 ⟨_, h, beq_self_eq_true s⟩

end

/-- `str(value)`, for a value that has a hash. -/
def keyText : Doc → String
  | null => "None"
  | bool b => if b then "True" else "False"
  | int n => toString n
  | float x => x.text
  | str s => s
  | _ => ""

/-- `raw_step.get("step_key")`. -/
def stepKey (raw : Doc) : Doc := raw.getD "step_key" .null

end Doc

-- ════════════════════════════════════════════════════════════════════════
-- The mappings
-- ════════════════════════════════════════════════════════════════════════

/-- What a mapping raises. -/
inductive MapError where
  /-- `AiServiceContractError`. -/
  | contract (message : String)
  /-- An exception of Python's own. -/
  | uncaught (exception : String)

/-- `if not ok: raise AiServiceContractError(message)`. -/
def demand (ok : Bool) (message : String) : Except MapError Unit :=
  if ok then .ok () else .error (.contract message)

/-- `value in seen_keys`, which takes the hash of the value. -/
def seenKey (integer : String → Option ℤ) (seen : List Doc) (value : Doc) : Except MapError Bool :=
  if value.hashable then .ok (value.isSeen integer seen) else .error (.uncaught "TypeError")

/-- A `WorkflowCandidateStep`, with what the response has in its fields. -/
structure MappedStep where
  stepKey : Doc
  name : Doc
  stepType : Doc
  riskLevel : Doc
  requiresApproval : Bool
  command : Option String

/-- A `WorkflowCandidate`. -/
structure MappedCandidate where
  requestId : Doc
  workflowTitle : Doc
  steps : List MappedStep
  warnings : List Doc

/-- A `WorkflowEnrichmentStep`. -/
structure MappedEnrichmentStep where
  stepKey : Doc
  riskLevel : Doc
  requiresApproval : Bool

/-- A `WorkflowEnrichment`. -/
structure MappedEnrichment where
  requestId : Doc
  steps : List MappedEnrichmentStep
  warnings : List Doc

section

variable (integer : String → Option ℤ)

/-- The step that the mapping appends for a raw step. -/
def mappedStep (raw : Doc) : MappedStep where
  stepKey := raw.stepKey
  name := raw.getD "name" .null
  stepType := raw.getD "step_type" .null
  riskLevel := raw.getD "risk_level" .null
  requiresApproval := raw.getD "requires_approval" (.bool false) matches .bool true
  command := match raw.getD "command" .null with
    | .str s => some s
    | _ => none

/-- The body of the loop of `_validate_and_map_candidate`. -/
def candidateStep (seen : List Doc) (i : ℕ) (raw : Doc) : Except MapError MappedStep := do
  demand raw.isObj s!"Step {i} is not a JSON object"
  demand (raw.stepKey.truthy integer) s!"Step {i} missing 'step_key'"
  demand ((raw.getD "name" .null).truthy integer) s!"Step {i} missing 'name'"
  demand ((raw.getD "step_type" .null).truthy integer) s!"Step {i} missing 'step_type'"
  demand ((raw.getD "risk_level" .null).truthy integer) s!"Step {i} missing 'risk_level'"
  demand (raw.getD "requires_approval" (.bool false)).isBool
    s!"Step {i} field 'requires_approval' must be a boolean"
  let duplicate ← seenKey integer seen raw.stepKey
  demand (!duplicate) s!"Duplicate step_key: '{raw.stepKey.keyText}'"
  pure (mappedStep raw)

/-- The step that the mapping appends for a raw step of an enrichment. -/
def mappedEnrichmentStep (raw : Doc) : MappedEnrichmentStep where
  stepKey := raw.stepKey
  riskLevel := raw.getD "risk_level" .null
  requiresApproval := raw.getD "requires_approval" .null matches .bool true

/-- The body of the loop of `_validate_and_map_enrichment`. -/
def enrichmentStep (seen : List Doc) (i : ℕ) (raw : Doc) :
    Except MapError MappedEnrichmentStep := do
  demand raw.isObj s!"Enrich step {i} is not a JSON object"
  demand (raw.stepKey.truthy integer) s!"Enrich step {i} missing 'step_key'"
  let duplicate ← seenKey integer seen raw.stepKey
  demand (!duplicate) s!"Duplicate enrich step_key: '{raw.stepKey.keyText}'"
  demand ((raw.getD "risk_level" .null).isStr && (raw.getD "risk_level" .null).truthy integer)
    s!"Enrich step {i} missing 'risk_level'"
  demand (raw.getD "requires_approval" .null).isBool
    s!"Enrich step {i} field 'requires_approval' must be a boolean"
  pure (mappedEnrichmentStep raw)

/-- The loop over the raw steps, given its body. -/
def mapSteps {σ : Type} (body : List Doc → ℕ → Doc → Except MapError σ) (seen : List Doc) (i : ℕ) :
    List Doc → Except MapError (List σ)
  | [] => .ok []
  | raw :: raws => do
    let step ← body seen i raw
    let steps ← mapSteps body (seen ++ [raw.stepKey]) (i + 1) raws
    pure (step :: steps)

/-- `warnings if isinstance(warnings, list) else []`. -/
def mappedWarnings (data : Doc) : List Doc := (data.getD "warnings" (.arr [])).items?.getD []

/-- The raw steps of a response, when they are a non-empty list. -/
def rawSteps? (data : Doc) : Option (List Doc) :=
  (data.getD "steps" .null).items?.filter (· ≠ [])

/-- `_validate_and_map_candidate`. -/
def validateAndMapCandidate (data : Doc) : Except MapError MappedCandidate := do
  demand data.isObj "AI response is not a JSON object"
  demand ((data.getD "workflow_title" (.str "")).truthy integer)
    "AI response missing 'workflow_title'"
  match rawSteps? data with
  | none => .error (.contract "AI response 'steps' must be a non-empty list")
  | some raws => do
    let steps ← mapSteps (candidateStep integer) [] 0 raws
    pure
      { requestId := data.getD "request_id" (.str "")
        workflowTitle := data.getD "workflow_title" (.str "")
        steps
        warnings := mappedWarnings data }

/-- `_validate_and_map_enrichment`. -/
def validateAndMapEnrichment (data : Doc) : Except MapError MappedEnrichment := do
  demand data.isObj "AI enrich response is not a JSON object"
  match rawSteps? data with
  | none => .error (.contract "AI enrich response 'steps' must be a non-empty list")
  | some raws => do
    let steps ← mapSteps (enrichmentStep integer) [] 0 raws
    pure
      { requestId := data.getD "request_id" (.str "")
        steps
        warnings := mappedWarnings data }

end

-- ════════════════════════════════════════════════════════════════════════
-- What the loop does
-- ════════════════════════════════════════════════════════════════════════

/-- The computation raises a contract error. -/
def RaisesContract {α : Type} (x : Except MapError α) : Prop :=
  ∃ message, x = .error (.contract message)

section

variable {α : Type}

theorem not_raisesContract_ok {a : α} : ¬RaisesContract (.ok a : Except MapError α) := by
  rintro ⟨message, h⟩
  cases h

theorem not_raisesContract_uncaught {exception : String} :
    ¬RaisesContract (.error (.uncaught exception) : Except MapError α) := by
  rintro ⟨message, h⟩
  cases h

theorem demand_bind_true {message : String} {ok : Bool} {f : Unit → Except MapError α}
    (h : ok = true) : (demand ok message >>= f) = f () := by
  rw [demand, if_pos h, ok_bind]

theorem raisesContract_demand {message : String} {ok : Bool} {f : Unit → Except MapError α} :
    RaisesContract (demand ok message >>= f) ↔ ok = false ∨ RaisesContract (f ()) := by
  cases ok with
  | false => exact ⟨fun _ => .inl rfl, fun _ => ⟨message, rfl⟩⟩
  | true => rw [demand_bind_true rfl]; simp

theorem raisesContract_seenKey {integer : String → Option ℤ} {seen : List Doc} {value : Doc}
    {f : Bool → Except MapError α} :
    RaisesContract (seenKey integer seen value >>= f) ↔
      value.hashable = true ∧ RaisesContract (f (value.isSeen integer seen)) := by
  cases hhash : value.hashable with
  | false =>
    rw [seenKey, if_neg (by simp [hhash])]
    exact ⟨fun h => absurd h not_raisesContract_uncaught, fun h => absurd h.1 (by simp)⟩
  | true =>
    rw [seenKey, if_pos hhash, ok_bind]
    exact (and_iff_right rfl).symm

end

/-- What a body of the loop does with a raw step: it refuses it by a check, fails to hash its
key, or appends the step made of it. -/
structure BodySpec {σ : Type} (body : List Doc → ℕ → Doc → Except MapError σ) (make : Doc → σ)
    (Refuses : List Doc → Doc → Prop) : Prop where
  refuses : ∀ seen i raw, Refuses seen raw → ∃ message, body seen i raw = .error (.contract message)
  breaks : ∀ seen i raw, ¬Refuses seen raw → raw.stepKey.hashable = false →
    body seen i raw = .error (.uncaught "TypeError")
  accepts : ∀ seen i raw, ¬Refuses seen raw → raw.stepKey.hashable = true →
    body seen i raw = .ok (make raw)

/-- Some raw step is refused, and every key before it has a hash. -/
def Refused (Refuses : List Doc → Doc → Prop) (seen raws : List Doc) : Prop :=
  ∃ before raw after, raws = before ++ raw :: after ∧
    (∀ other ∈ before, other.stepKey.hashable = true) ∧
    Refuses (seen ++ before.map Doc.stepKey) raw

section

variable {σ : Type} {body : List Doc → ℕ → Doc → Except MapError σ} {make : Doc → σ}
  {Refuses : List Doc → Doc → Prop}

theorem not_refused_nil {seen : List Doc} : ¬Refused Refuses seen [] := by
  rintro ⟨before, raw, after, heq, -⟩
  cases before <;> cases heq

theorem refused_cons {seen raws : List Doc} {raw : Doc} :
    Refused Refuses seen (raw :: raws) ↔ Refuses seen raw ∨
      raw.stepKey.hashable = true ∧ Refused Refuses (seen ++ [raw.stepKey]) raws := by
  constructor
  · rintro ⟨before, other, after, heq, hhash, hrefuses⟩
    cases before with
    | nil =>
      cases heq
      rw [List.map_nil, List.append_nil] at hrefuses
      exact .inl hrefuses
    | cons first before =>
      cases heq
      refine .inr ⟨hhash _ List.mem_cons_self, before, other, after, rfl,
        fun o ho => hhash o (List.mem_cons_of_mem _ ho), ?_⟩
      rw [List.append_assoc]
      exact hrefuses
  · rintro (hrefuses | ⟨hhash, before, other, after, rfl, hbefore, hrefuses⟩)
    · refine ⟨[], raw, raws, rfl, fun o ho => absurd ho List.not_mem_nil, ?_⟩
      rw [List.map_nil, List.append_nil]
      exact hrefuses
    · refine ⟨raw :: before, other, after, rfl, ?_, ?_⟩
      · intro o ho
        rcases List.mem_cons.1 ho with rfl | ho
        · exact hhash
        · exact hbefore o ho
      · rw [List.append_assoc] at hrefuses
        exact hrefuses

/-- **The loop over the raw steps** raises a contract error exactly when a step is refused before
a key without a hash is reached, and else stops at such a key or maps all steps in order. -/
theorem mapSteps_cases (spec : BodySpec body make Refuses) (seen : List Doc) (i : ℕ)
    (raws : List Doc) :
    (Refused Refuses seen raws ∧ ∃ message, mapSteps body seen i raws = .error (.contract message)) ∨
      (¬Refused Refuses seen raws ∧ (∃ raw ∈ raws, raw.stepKey.hashable = false) ∧
        mapSteps body seen i raws = .error (.uncaught "TypeError")) ∨
      (¬Refused Refuses seen raws ∧ (∀ raw ∈ raws, raw.stepKey.hashable = true) ∧
        mapSteps body seen i raws = .ok (raws.map make)) := by
  induction raws generalizing seen i with
  | nil => exact .inr (.inr ⟨not_refused_nil, fun _ h => absurd h List.not_mem_nil, rfl⟩)
  | cons raw raws ih =>
    rw [mapSteps, refused_cons]
    by_cases hrefuses : Refuses seen raw
    · obtain ⟨message, hbody⟩ := spec.refuses seen i raw hrefuses
      rw [hbody]
      exact .inl ⟨.inl hrefuses, message, rfl⟩
    · cases hhash : raw.stepKey.hashable with
      | false =>
        rw [spec.breaks seen i raw hrefuses hhash]
        refine .inr (.inl ⟨?_, ⟨raw, List.mem_cons_self, hhash⟩, rfl⟩)
        simp [hrefuses]
      | true =>
        rw [spec.accepts seen i raw hrefuses hhash]
        rcases ih (seen ++ [raw.stepKey]) (i + 1) with
          ⟨hrest, message, hmap⟩ | ⟨hrest, ⟨other, hother, hbreaks⟩, hmap⟩ | ⟨hrest, hall, hmap⟩
        · refine .inl ⟨.inr ⟨rfl, hrest⟩, message, ?_⟩
          rw [hmap]
          rfl
        · refine .inr (.inl ⟨by simp [hrefuses, hrest],
            ⟨other, List.mem_cons_of_mem _ hother, hbreaks⟩, ?_⟩)
          rw [hmap]
          rfl
        · refine .inr (.inr ⟨by simp [hrefuses, hrest], ?_, ?_⟩)
          · intro other hother
            rcases List.mem_cons.1 hother with rfl | hother
            · exact hhash
            · exact hall other hother
          · rw [hmap]
            rfl

end

-- ════════════════════════════════════════════════════════════════════════
-- The two bodies
-- ════════════════════════════════════════════════════════════════════════

section

variable (integer : String → Option ℤ)

/-- The key has a hash, and was seen. -/
def Repeats (seen : List Doc) (raw : Doc) : Prop :=
  raw.stepKey.hashable = true ∧ raw.stepKey.isSeen integer seen = true

/-- A check of the candidate's loop refuses the raw step. -/
def CandidateRefuses (seen : List Doc) (raw : Doc) : Prop :=
  raw.isObj = false ∨ raw.stepKey.truthy integer = false ∨
    (raw.getD "name" .null).truthy integer = false ∨
    (raw.getD "step_type" .null).truthy integer = false ∨
    (raw.getD "risk_level" .null).truthy integer = false ∨
    (raw.getD "requires_approval" (.bool false)).isBool = false ∨ Repeats integer seen raw

/-- A check of the enrichment's loop refuses the raw step. -/
def EnrichmentRefuses (seen : List Doc) (raw : Doc) : Prop :=
  raw.isObj = false ∨ raw.stepKey.truthy integer = false ∨ Repeats integer seen raw ∨
    raw.stepKey.hashable = true ∧
      ((raw.getD "risk_level" .null).isStr = false ∨
        (raw.getD "risk_level" .null).truthy integer = false ∨
        (raw.getD "requires_approval" .null).isBool = false)

theorem candidateStep_raises {seen : List Doc} {i : ℕ} {raw : Doc} :
    RaisesContract (candidateStep integer seen i raw) ↔ CandidateRefuses integer seen raw := by
  simp only [candidateStep, raisesContract_demand, raisesContract_seenKey, CandidateRefuses,
    Repeats, pure, Except.pure, not_raisesContract_ok, or_false, Bool.not_eq_false']

theorem enrichmentStep_raises {seen : List Doc} {i : ℕ} {raw : Doc} :
    RaisesContract (enrichmentStep integer seen i raw) ↔ EnrichmentRefuses integer seen raw := by
  simp only [enrichmentStep, raisesContract_demand, raisesContract_seenKey, EnrichmentRefuses,
    Repeats, pure, Except.pure, not_raisesContract_ok, or_false, Bool.not_eq_false',
    Bool.and_eq_false_iff, and_or_left, or_assoc]

/-- **The loop of the candidate** refuses by its checks, and hashes the key last. -/
theorem candidateStep_spec :
    BodySpec (candidateStep integer) mappedStep (CandidateRefuses integer) where
  refuses _ _ _ h := (candidateStep_raises integer).2 h
  breaks seen i raw h hhash := by
    simp only [CandidateRefuses, not_or, Bool.not_eq_false] at h
    obtain ⟨hobj, hkey, hname, htype, hrisk, happroval, -⟩ := h
    rw [candidateStep, demand_bind_true hobj, demand_bind_true hkey, demand_bind_true hname,
      demand_bind_true htype, demand_bind_true hrisk, demand_bind_true happroval, seenKey,
      if_neg (by simp [hhash])]
    rfl
  accepts seen i raw h hhash := by
    simp only [CandidateRefuses, Repeats, hhash, true_and, not_or, Bool.not_eq_false,
      Bool.not_eq_true] at h
    obtain ⟨hobj, hkey, hname, htype, hrisk, happroval, hnew⟩ := h
    rw [candidateStep, demand_bind_true hobj, demand_bind_true hkey, demand_bind_true hname,
      demand_bind_true htype, demand_bind_true hrisk, demand_bind_true happroval, seenKey,
      if_pos hhash, ok_bind, demand_bind_true (by simp [hnew])]
    rfl

/-- **The loop of the enrichment** hashes the key before it reads the other fields. -/
theorem enrichmentStep_spec :
    BodySpec (enrichmentStep integer) mappedEnrichmentStep (EnrichmentRefuses integer) where
  refuses _ _ _ h := (enrichmentStep_raises integer).2 h
  breaks seen i raw h hhash := by
    simp only [EnrichmentRefuses, not_or, Bool.not_eq_false] at h
    obtain ⟨hobj, hkey, -⟩ := h
    rw [enrichmentStep, demand_bind_true hobj, demand_bind_true hkey, seenKey,
      if_neg (by simp [hhash])]
    rfl
  accepts seen i raw h hhash := by
    simp only [EnrichmentRefuses, Repeats, hhash, true_and, not_or, Bool.not_eq_false,
      Bool.not_eq_true] at h
    obtain ⟨hobj, hkey, hnew, hrisk, htruthy, happroval⟩ := h
    rw [enrichmentStep, demand_bind_true hobj, demand_bind_true hkey, seenKey, if_pos hhash,
      ok_bind, demand_bind_true (by simp [hnew]), demand_bind_true (by simp [hrisk, htruthy]),
      demand_bind_true happroval]
    rfl

end

-- ════════════════════════════════════════════════════════════════════════
-- The promise of the boundary
-- ════════════════════════════════════════════════════════════════════════

/-- All fields of the step have their declared types. -/
structure MappedStep.Typed (step : MappedStep) : Prop where
  stepKey : step.stepKey.isStr = true
  name : step.name.isStr = true
  stepType : step.stepType.isStr = true
  riskLevel : step.riskLevel.isStr = true

structure MappedEnrichmentStep.Typed (step : MappedEnrichmentStep) : Prop where
  stepKey : step.stepKey.isStr = true
  riskLevel : step.riskLevel.isStr = true

/-- The keys of the steps: those of the response in its order, not empty, and distinct. -/
structure GoodKeys (raws keys : List Doc) : Prop where
  order : keys = raws.map Doc.stepKey
  nonempty : .str "" ∉ keys
  distinct : keys.Nodup

/-- The record has the declared types and good keys. -/
structure MappedCandidate.WellFormed (data : Doc) (candidate : MappedCandidate) : Prop where
  requestId : candidate.requestId.isStr = true
  workflowTitle : candidate.workflowTitle.isStr = true
  steps : ∀ step ∈ candidate.steps, step.Typed
  warnings : ∀ warning ∈ candidate.warnings, warning.isStr = true
  keys : ∃ raws, rawSteps? data = some raws ∧ GoodKeys raws (candidate.steps.map (·.stepKey))

structure MappedEnrichment.WellFormed (data : Doc) (enrichment : MappedEnrichment) : Prop where
  requestId : enrichment.requestId.isStr = true
  steps : ∀ step ∈ enrichment.steps, step.Typed
  warnings : ∀ warning ∈ enrichment.warnings, warning.isStr = true
  keys : ∃ raws, rawSteps? data = some raws ∧ GoodKeys raws (enrichment.steps.map (·.stepKey))

/-- A contract error and no other exception, or a record that is well-formed. -/
def MapsWell {α : Type} (outcome : Except MapError α) (WellFormed : α → Prop) : Prop :=
  RaisesContract outcome ∨ ∃ record, outcome = .ok record ∧ WellFormed record

/-- The texts that both mappings copy from the response without a check. -/
def TypedEnvelope (data : Doc) : Prop :=
  (data.getD "request_id" (.str "")).isStr = true ∧
    ∀ warning ∈ mappedWarnings data, warning.isStr = true

section

variable (integer : String → Option ℤ)

/-- A check refuses the response before a key without a hash is reached. -/
def CandidateRefused (data : Doc) : Prop :=
  data.isObj = false ∨ (data.getD "workflow_title" (.str "")).truthy integer = false ∨
    ∀ raws, rawSteps? data = some raws → Refused (CandidateRefuses integer) [] raws

/-- The responses on which the mapping of a candidate keeps its promise: a check refuses them, or
all they have in the declared fields are texts. -/
def CandidateFits (data : Doc) : Prop :=
  CandidateRefused integer data ∨
    (data.getD "workflow_title" (.str "")).isStr = true ∧ TypedEnvelope data ∧
      ∀ raws, rawSteps? data = some raws → ∀ raw ∈ raws, (mappedStep raw).Typed

def EnrichmentRefused (data : Doc) : Prop :=
  data.isObj = false ∨
    ∀ raws, rawSteps? data = some raws → Refused (EnrichmentRefuses integer) [] raws

/-- The responses on which the mapping of an enrichment keeps its promise. The loop checks the
risk level. -/
def EnrichmentFits (data : Doc) : Prop :=
  EnrichmentRefused integer data ∨
    TypedEnvelope data ∧
      ∀ raws, rawSteps? data = some raws → ∀ raw ∈ raws, raw.stepKey.isStr = true

/-- The risk level of an enrichment step is checked, once its key has a hash. -/
theorem risk_isStr {raws : List Doc} {raw : Doc}
    (hall : ∀ raw ∈ raws, raw.stepKey.hashable = true)
    (hnot : ¬Refused (EnrichmentRefuses integer) [] raws) (hraw : raw ∈ raws) :
    (raw.getD "risk_level" .null).isStr = true := by
  obtain ⟨before, after, rfl⟩ := List.append_of_mem hraw
  by_contra hrisk
  refine hnot ⟨before, raw, after, rfl, fun o ho => hall o (List.mem_append_left _ ho), ?_⟩
  exact .inr (.inr (.inr ⟨hall raw hraw, .inl (by simpa using hrisk)⟩))

/-- Elements that relate to all before them do so pairwise. -/
theorem pairwise_of_splits {α : Type} {R : α → α → Prop} {l : List α}
    (h : ∀ before x after, l = before ++ x :: after → ∀ y ∈ before, R y x) : l.Pairwise R := by
  induction l using List.reverseRecOn with
  | nil => exact .nil
  | append_singleton l a ih =>
    rw [List.pairwise_append]
    refine ⟨ih fun before x after heq => h before x (after ++ [a]) (by simp [heq]),
      List.pairwise_singleton _ _, ?_⟩
    intro y hy b hb
    rw [List.mem_singleton.1 hb]
    exact h l a [] rfl y hy

/-- Raw steps with texts as keys have good keys, when no check refuses them. -/
theorem goodKeys {Refuses : List Doc → Doc → Prop} {raws : List Doc}
    (hempty : ∀ seen raw, raw.stepKey.truthy integer = false → Refuses seen raw)
    (hrepeats : ∀ seen raw, Repeats integer seen raw → Refuses seen raw)
    (hnot : ¬Refused Refuses [] raws) (hstr : ∀ raw ∈ raws, raw.stepKey.isStr = true) :
    GoodKeys raws (raws.map Doc.stepKey) := by
  have haccepted : ∀ before raw after, raws = before ++ raw :: after →
      ¬Refuses (before.map Doc.stepKey) raw := by
    rintro before raw after rfl hrefuses
    refine hnot ⟨before, raw, after, rfl, fun other hother => ?_, hrefuses⟩
    exact Doc.hashable_of_isStr (hstr other (List.mem_append_left _ hother))
  refine ⟨rfl, ?_, ?_⟩
  · intro hmem
    obtain ⟨raw, hraw, hkey⟩ := List.mem_map.1 hmem
    obtain ⟨before, after, hsplit⟩ := List.append_of_mem hraw
    exact haccepted before raw after hsplit (hempty _ _ (by rw [hkey]; rfl))
  · rw [List.Nodup, List.pairwise_map]
    refine pairwise_of_splits fun before raw after hsplit other hother hsame => ?_
    refine haccepted before raw after hsplit (hrepeats _ _ ?_)
    obtain ⟨s, hs⟩ := Doc.isStr_iff.1 (hstr raw (hsplit ▸ by simp))
    refine ⟨by rw [hs]; rfl, ?_⟩
    rw [hs]
    exact Doc.isSeen_str integer (List.mem_map.2 ⟨other, hother, hsame.trans hs⟩)

theorem not_mapsWell_uncaught {α : Type} {exception : String} {WellFormed : α → Prop} :
    ¬MapsWell (.error (.uncaught exception) : Except MapError α) WellFormed := by
  rintro (h | ⟨record, h, -⟩)
  · exact not_raisesContract_uncaught h
  · cases h

theorem mapsWell_ok {α : Type} {record : α} {WellFormed : α → Prop} :
    MapsWell (.ok record : Except MapError α) WellFormed ↔ WellFormed record := by
  constructor
  · rintro (h | ⟨_, h, hwell⟩)
    · exact absurd h not_raisesContract_ok
    · cases h
      exact hwell
  · exact fun h => .inr ⟨record, rfl, h⟩

theorem candidate_maps_well_iff {data : Doc} :
    MapsWell (validateAndMapCandidate integer data) (MappedCandidate.WellFormed data) ↔
      CandidateFits integer data := by
  by_cases hobj : data.isObj = true
  swap
  · rw [Bool.not_eq_true] at hobj
    exact iff_of_true (.inl (raisesContract_demand.2 (.inl hobj))) (.inl (.inl hobj))
  by_cases htitle : (data.getD "workflow_title" (.str "")).truthy integer = true
  swap
  · rw [Bool.not_eq_true] at htitle
    refine iff_of_true (.inl ?_) (.inl (.inr (.inl htitle)))
    rw [validateAndMapCandidate, demand_bind_true hobj]
    exact raisesContract_demand.2 (.inl htitle)
  rw [validateAndMapCandidate, demand_bind_true hobj, demand_bind_true htitle]
  cases hraws : rawSteps? data with
  | none =>
    refine iff_of_true (.inl ⟨_, rfl⟩) (.inl (.inr (.inr ?_)))
    intro raws h
    rw [hraws] at h
    cases h
  | some raws =>
    have hfits : CandidateFits integer data ↔ Refused (CandidateRefuses integer) [] raws ∨
        (data.getD "workflow_title" (.str "")).isStr = true ∧ TypedEnvelope data ∧
          ∀ raw ∈ raws, (mappedStep raw).Typed := by
      simp [CandidateFits, CandidateRefused, hobj, htitle, hraws]
    rw [hfits]
    rcases mapSteps_cases (candidateStep_spec integer) [] 0 raws with
      ⟨hrefused, message, hmap⟩ | ⟨hnot, ⟨raw, hraw, hhash⟩, hmap⟩ | ⟨hnot, -, hmap⟩
    · refine iff_of_true (.inl ⟨message, ?_⟩) (.inl hrefused)
      simp only [hmap]
      rfl
    · refine iff_of_false ?_ ?_
      · simp only [hmap]
        exact not_mapsWell_uncaught
      · rintro (hrefused | ⟨-, -, htyped⟩)
        · exact hnot hrefused
        · have := Doc.hashable_of_isStr (htyped raw hraw).stepKey
          rw [mappedStep, hhash] at this
          cases this
    · simp only [hmap]
      refine mapsWell_ok.trans ⟨fun hwell => .inr ?_, ?_⟩
      · exact ⟨hwell.workflowTitle, ⟨hwell.requestId, hwell.warnings⟩,
          fun raw hraw => hwell.steps _ (List.mem_map_of_mem hraw)⟩
      · rintro (hrefused | ⟨htext, henvelope, htyped⟩)
        · exact absurd hrefused hnot
        · refine ⟨henvelope.1, htext, ?_, henvelope.2, raws, hraws, ?_⟩
          · intro step hstep
            obtain ⟨raw, hraw, rfl⟩ := List.mem_map.1 hstep
            exact htyped raw hraw
          · rw [List.map_map]
            exact goodKeys integer (fun _ _ h => .inr (.inl h))
              (fun _ _ h => .inr (.inr (.inr (.inr (.inr (.inr h)))))) hnot
              fun raw hraw => (htyped raw hraw).stepKey

theorem enrichment_maps_well_iff {data : Doc} :
    MapsWell (validateAndMapEnrichment integer data) (MappedEnrichment.WellFormed data) ↔
      EnrichmentFits integer data := by
  by_cases hobj : data.isObj = true
  swap
  · rw [Bool.not_eq_true] at hobj
    exact iff_of_true (.inl (raisesContract_demand.2 (.inl hobj))) (.inl (.inl hobj))
  rw [validateAndMapEnrichment, demand_bind_true hobj]
  cases hraws : rawSteps? data with
  | none =>
    refine iff_of_true (.inl ⟨_, rfl⟩) (.inl (.inr ?_))
    intro raws h
    rw [hraws] at h
    cases h
  | some raws =>
    have hfits : EnrichmentFits integer data ↔ Refused (EnrichmentRefuses integer) [] raws ∨
        TypedEnvelope data ∧ ∀ raw ∈ raws, raw.stepKey.isStr = true := by
      simp [EnrichmentFits, EnrichmentRefused, hobj, hraws]
    rw [hfits]
    rcases mapSteps_cases (enrichmentStep_spec integer) [] 0 raws with
      ⟨hrefused, message, hmap⟩ | ⟨hnot, ⟨raw, hraw, hhash⟩, hmap⟩ | ⟨hnot, hall, hmap⟩
    · refine iff_of_true (.inl ⟨message, ?_⟩) (.inl hrefused)
      simp only [hmap]
      rfl
    · refine iff_of_false ?_ ?_
      · simp only [hmap]
        exact not_mapsWell_uncaught
      · rintro (hrefused | ⟨-, htyped⟩)
        · exact hnot hrefused
        · have := Doc.hashable_of_isStr (htyped raw hraw)
          rw [hhash] at this
          cases this
    · simp only [hmap]
      refine mapsWell_ok.trans ⟨fun hwell => .inr ?_, ?_⟩
      · exact ⟨⟨hwell.requestId, hwell.warnings⟩,
          fun raw hraw => (hwell.steps _ (List.mem_map_of_mem hraw)).stepKey⟩
      · rintro (hrefused | ⟨henvelope, htyped⟩)
        · exact absurd hrefused hnot
        · refine ⟨henvelope.1, ?_, henvelope.2, raws, hraws, ?_⟩
          · intro step hstep
            obtain ⟨raw, hraw, rfl⟩ := List.mem_map.1 hstep
            exact ⟨htyped raw hraw, risk_isStr integer hall hnot hraw⟩
          · rw [List.map_map]
            exact goodKeys integer (fun _ _ h => .inr (.inl h))
              (fun _ _ h => .inr (.inr (.inl h))) hnot htyped

/-- **The boundary of the AI service is total on exactly these responses**: for every decoded
JSON value each of the two mappings raises a contract error or returns a well-formed record, if
and only if the value fits it. -/
theorem maps_well_iff (data : Doc) :
    (MapsWell (validateAndMapCandidate integer data) (MappedCandidate.WellFormed data) ↔
        CandidateFits integer data) ∧
      (MapsWell (validateAndMapEnrichment integer data) (MappedEnrichment.WellFormed data) ↔
        EnrichmentFits integer data) :=
  ⟨candidate_maps_well_iff integer, enrichment_maps_well_iff integer⟩

end

-- ════════════════════════════════════════════════════════════════════════
-- A key that is a list
-- ════════════════════════════════════════════════════════════════════════

/-- A response with one step, under a given key. -/
def oneStepResponse (key : Doc) : Doc :=
  .obj [("request_id", .str "r1"), ("workflow_title", .str "Restart"),
    ("steps", .arr [.obj [("step_key", key), ("name", .str "Restart"),
      ("step_type", .str "manual_task"), ("risk_level", .str "low"),
      ("requires_approval", .bool false)]]),
    ("warnings", .arr [])]

/-- The hash of the key is an uncaught `TypeError`, and a number as key is taken as it is. -/
theorem listed_key_breaks :
    ¬MapsWell (validateAndMapCandidate (fun _ => none) (oneStepResponse (.arr [.str "step-1"])))
        (MappedCandidate.WellFormed (oneStepResponse (.arr [.str "step-1"]))) ∧
      ¬MapsWell (validateAndMapEnrichment (fun _ => none) (oneStepResponse (.int 1)))
        (MappedEnrichment.WellFormed (oneStepResponse (.int 1))) := by
  constructor
  · rintro (⟨message, h⟩ | ⟨record, h, -⟩)
    · cases h
    · cases h
  · rintro (⟨message, h⟩ | ⟨record, h, hwell⟩)
    · cases h
    · cases h
      exact absurd (hwell.steps _ List.mem_cons_self).stepKey Bool.false_ne_true

end RunbookPlatform
