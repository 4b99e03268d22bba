import RunbookPlatform.Audit.Scrub
import RunbookPlatform.System

/-!
# The generation of verification plans

A generated plan has one check for every entry of the template, in the order of the template,
and what it records about itself is true of its checks. Normal entries are those that the
normalizer leaves alone.

## Main definitions

- `CheckTemplate.Normal` — what the normalizer makes sure of
- `PlanFaithful` — a generated plan and its checks say what the template says

## Main results

- `normalizeVerificationCheckTemplate_normal`, `Normal.normalizes` — the normalizer makes normal
  entries, and leaves those alone
- `verification_plan_faithful` — every generation fails or is faithful
-/

namespace RunbookPlatform

open Transactional

-- ════════════════════════════════════════════════════════════════════════
-- Normal entries
-- ════════════════════════════════════════════════════════════════════════

/-- A configuration that the normalizer accepts. -/
structure NormalConfig (env : Env) (config : Json) : Prop where
  isObj : config.isObj = true
  allowed : forbiddenKey? env config = none

/-- An entry that the normalizer makes. -/
structure CheckTemplate.Normal (env : Env) (item : CheckTemplate) : Prop where
  stripped : ∀ text ∈ [item.key, item.name, item.description, item.verificationKey,
    item.sourceStepKey, item.artifactKind, item.artifactNamePattern, item.expectedChecksumSha256],
      strip text = text
  key : item.key ≠ "" ∧ item.key.length ≤ 128
  name : item.name ≠ ""
  checksum : item.expectedChecksumSha256 = "" ∨ item.expectedChecksumSha256.length = 64
  runnerStep : item.type = .runnerStep → item.verificationKey ≠ "" ∨ item.sourceStepKey ≠ ""
  artifact : item.type = .artifactPresence →
    item.verificationKey ≠ "" ∨ item.artifactKind ≠ "" ∨ item.artifactNamePattern ≠ ""
  configs : ∀ config ∈ [item.apiAssertion, item.externalReferenceConfig,
    item.manualAttestationConfig], NormalConfig env config

variable {env : Env} {s s' : Db} {item : CheckTemplate} {items : List CheckTemplate}

theorem dropWhile_dropWhile {α : Type} (p : α → Bool) (xs : List α) :
    (xs.dropWhile p).dropWhile p = xs.dropWhile p := by
  induction xs with
  | nil => rfl
  | cons x xs ih =>
    by_cases hx : p x = true
    · rwa [List.dropWhile_cons_of_pos hx]
    · rw [List.dropWhile_cons_of_neg hx, List.dropWhile_cons_of_neg hx]

/-- The end of a text loses its spaces without a change to the first character. -/
theorem dropWhile_rdropWhile {α : Type} (p : α → Bool) {xs : List α} (h : xs.dropWhile p = xs) :
    ((xs.reverse.dropWhile p).reverse).dropWhile p = (xs.reverse.dropWhile p).reverse := by
  cases xs with
  | nil => rfl
  | cons x xs =>
    have hx : ¬p x = true := by
      intro hx
      rw [List.dropWhile_cons_of_pos hx] at h
      have hlength := congrArg List.length h
      have hle := (List.dropWhile_suffix p (l := xs)).length_le
      rw [List.length_cons] at hlength
      omega
    rw [List.reverse_cons, List.dropWhile_append]
    split_ifs with hall
    · rw [List.dropWhile_cons_of_neg hx, List.reverse_singleton, List.dropWhile_cons_of_neg hx]
    · rw [List.reverse_append, List.reverse_singleton, List.singleton_append,
        List.dropWhile_cons_of_neg hx]

/-- A stripped text is stripped. -/
theorem strip_strip (text : String) : strip (strip text) = strip text := by
  have hfirst := dropWhile_rdropWhile isSpace (dropWhile_dropWhile isSpace text.toList)
  rw [strip, strip, String.toList_ofList, hfirst, List.reverse_reverse, dropWhile_dropWhile]

theorem rejectSensitiveKeys_ok {value : Json} {code detailPrefix : String} {u : Unit} :
    rejectSensitiveKeys env value code detailPrefix s = .ok u ↔ forbiddenKey? env value = none := by
  rw [rejectSensitiveKeys]
  cases forbiddenKey? env value with
  | none => exact iff_of_true rfl rfl
  | some key => exact iff_of_false nofun nofun

/-- An accepted configuration is normal. -/
theorem templateConfig_normal {raw config : Json} {key configName : String}
    (h : templateConfig env raw key configName s = .ok config) : NormalConfig env config := by
  simp only [templateConfig, Query.bind_ok, ensure_ok, rejectSensitiveKeys_ok, Query.pure_apply,
    Except.ok.injEq] at h
  obtain ⟨-, hobj, -, hallowed, rfl⟩ := h
  cases hvalue : raw.getD configName (.obj []) with
  | null => exact ⟨rfl, rfl⟩
  | obj fields =>
    rw [hvalue, if_neg (by simp)] at hobj hallowed
    cases fields with
    | nil => exact ⟨rfl, rfl⟩
    | cons field fields => exact ⟨rfl, hallowed⟩
  | _ =>
    rw [hvalue] at hobj
    cases hobj

/-- A normal configuration is left alone. -/
theorem NormalConfig.accepted {raw config : Json} {key configName : String}
    (h : NormalConfig env config) (hraw : raw.getD configName (.obj []) = config) :
    templateConfig env raw key configName s = .ok config := by
  simp only [templateConfig, Query.bind_ok, ensure_ok, rejectSensitiveKeys_ok, Query.pure_apply,
    Except.ok.injEq, hraw]
  obtain ⟨hobj, hallowed⟩ := h
  cases config with
  | obj fields =>
    refine ⟨(), rfl, (), hallowed, ?_⟩
    cases fields <;> rfl
  | _ => cases hobj

theorem CheckType.ofValue?_value (type : CheckType) :
    CheckType.ofValue? (strip type.value) = some type := by
  cases type <;> decide

/-- **The normalizer makes normal entries.** -/
theorem normalizeVerificationCheckTemplate_normal {raw : Json} {position : ℕ}
    (h : normalizeVerificationCheckTemplate env raw position s = .ok item) : item.Normal env := by
  simp only [normalizeVerificationCheckTemplate, Query.bind_ok, ensure_ok, expect_ok] at h
  obtain ⟨-, hkey, -, hlength, -, hname, type, -, h⟩ := h
  cases hraw : raw.getD "required" (.bool true) with
  | bool b =>
    simp only [hraw, Query.bind_ok, ensure_ok, Query.pure_apply, Except.ok.injEq] at h
    obtain ⟨required, -, -, hchecksum, -, hrunner, -, hartifact, api, hapi, external, hexternal, manual,
      hmanual, rfl⟩ := h
    refine ⟨?_, ⟨hkey, hlength⟩, hname, hchecksum, hrunner, hartifact, ?_⟩
    · simp only [List.forall_mem_cons, templateText]
      exact ⟨strip_strip _, strip_strip _, strip_strip _, strip_strip _, strip_strip _, strip_strip _,
        strip_strip _, strip_strip _, List.forall_mem_nil _⟩
    · simp only [List.forall_mem_cons]
      exact ⟨templateConfig_normal hapi, templateConfig_normal hexternal,
        templateConfig_normal hmanual, List.forall_mem_nil _⟩
  | _ => simp only [hraw, Query.bind_ok, raise_apply, reduceCtorEq, false_and, exists_false] at h

/-- **A normal entry is left alone.** -/
theorem CheckTemplate.Normal.normalizes (h : item.Normal env) (position : ℕ) :
    normalizeVerificationCheckTemplate env item.toJson position s = .ok item := by
  obtain ⟨key, name, description, type, required, verificationKey, sourceStepKey, artifactKind,
    artifactNamePattern, checksum, api, external, manual⟩ := item
  obtain ⟨hstripped, ⟨hkey, hlength⟩, hname, hchecksum, hrunner, hartifact, hconfigs⟩ := h
  simp only [List.forall_mem_cons] at hstripped hconfigs
  obtain ⟨h1, h2, h3, h4, h5, h6, h7, h8, -⟩ := hstripped
  obtain ⟨hapi, hexternal, hmanual, -⟩ := hconfigs
  generalize hitem : CheckTemplate.toJson ⟨key, name, description, type, required, verificationKey,
    sourceStepKey, artifactKind, artifactNamePattern, checksum, api, external, manual⟩ = entry
  have htext {text : String} (field : String) (hfield : entry.getD field (.str "") = .str text)
      (hstrip : strip text = text) : templateText env entry field = text := by
    rw [templateText, hfield]
    exact hstrip
  have htype : CheckType.ofValue? (strip (pyStr env ((entry.getD "type" .null).orElse
      ((entry.getD "check_type" .null).orElse (.str ""))))) = some type := by
    have hvalue : entry.getD "type" .null = .str type.value := hitem ▸ rfl
    have hpresent (other : Json) : (Json.str type.value).orElse other = .str type.value := by
      cases type <;> rfl
    rw [hvalue, hpresent]
    exact CheckType.ofValue?_value type
  have hrequired : entry.getD "required" (.bool true) = .bool required := hitem ▸ rfl
  simp only [normalizeVerificationCheckTemplate, hrequired, Query.bind_ok, ensure_ok, expect_ok,
    Query.pure_apply, Except.ok.injEq, htext "key" (hitem ▸ rfl) h1, htext "name" (hitem ▸ rfl)
    h2, htext "description" (hitem ▸ rfl) h3, htext "verification_key" (hitem ▸ rfl) h4, htext
    "source_step_key" (hitem ▸ rfl) h5, htext "artifact_kind" (hitem ▸ rfl) h6, htext
    "artifact_name_pattern" (hitem ▸ rfl) h7, htext "expected_checksum_sha256" (hitem ▸ rfl) h8]
  exact ⟨(), hkey, (), hlength, (), hname, type, htype, required, rfl, (), hchecksum, (), hrunner, (),
    hartifact, api, hapi.accepted (hitem ▸ rfl), external, hexternal.accepted (hitem ▸ rfl), manual,
    hmanual.accepted (hitem ▸ rfl), rfl⟩

-- ════════════════════════════════════════════════════════════════════════
-- Normal templates
-- ════════════════════════════════════════════════════════════════════════

/-- The template of entries. -/
def templateOf (items : List CheckTemplate) : Json :=
  .obj [("checks", .arr (items.map (·.toJson)))]

/-- The fields of an entry. -/
def CheckTemplate.fieldNames : List String :=
  ["key", "name", "description", "type", "required", "verification_key", "source_step_key",
    "artifact_kind", "artifact_name_pattern", "expected_checksum_sha256", "api_assertion",
    "external_reference_config", "manual_attestation_config"]

/-- An ASCII name that is not forbidden. -/
def isPlainName (name : String) : Bool :=
  name.toList.all (·.toNat < 128) && !targetMetadataForbiddenKeys.contains (asciiLower name)

/-- Nothing is forbidden in an object whose names are plain and whose values are allowed. -/
theorem forbiddenKeyOfFields?_eq_none (hlower : LowersAscii env.lower)
    {fields : List (String × Json)} (hnames : (fields.map (·.1)).all isPlainName = true)
    (hvalues : ∀ value ∈ fields.map (·.2), forbiddenKey? env value = none) :
    forbiddenKeyOfFields? env fields = none := by
  induction fields with
  | nil => rfl
  | cons field fields ih =>
    obtain ⟨name, value⟩ := field
    rw [List.map_cons, List.all_cons, Bool.and_eq_true] at hnames
    rw [List.map_cons, List.forall_mem_cons] at hvalues
    obtain ⟨hplain, hrest⟩ := hnames
    rw [isPlainName, Bool.and_eq_true, Bool.not_eq_true', List.contains_eq_mem,
      decide_eq_false_iff_not] at hplain
    rw [forbiddenKeyOfFields?, hlower name hplain.1, if_neg hplain.2, hvalues.1, Option.none_or]
    exact ih hrest hvalues.2

/-- Nothing is forbidden in a normal entry. -/
theorem CheckTemplate.Normal.allowed (hlower : LowersAscii env.lower) (h : item.Normal env) :
    forbiddenKey? env item.toJson = none := by
  have hconfigs := h.configs
  simp only [List.forall_mem_cons] at hconfigs
  obtain ⟨hapi, hexternal, hmanual, -⟩ := hconfigs
  rw [toJson, forbiddenKey?]
  refine forbiddenKeyOfFields?_eq_none hlower ?_ ?_
  · show fieldNames.all isPlainName = true
    decide
  · simp only [List.map_cons, List.map_nil, List.forall_mem_cons]
    exact ⟨rfl, rfl, rfl, rfl, rfl, rfl, rfl, rfl, rfl, rfl, hapi.allowed, hexternal.allowed,
      hmanual.allowed, nofun⟩

/-- Nor in their template. -/
theorem templateOf_allowed (hlower : LowersAscii env.lower) (h : ∀ item ∈ items, item.Normal env) :
    forbiddenKey? env (templateOf items) = none := by
  have hitems : forbiddenKeyOfItems? env (items.map (·.toJson)) = none := by
    induction items with
    | nil => rfl
    | cons item items ih =>
      rw [List.forall_mem_cons] at h
      rw [List.map_cons, forbiddenKeyOfItems?, h.1.allowed hlower, Option.none_or]
      exact ih h.2
  rw [templateOf, forbiddenKey?]
  refine forbiddenKeyOfFields?_eq_none hlower ?_ ?_
  · show ["checks"].all isPlainName = true
    decide
  · simp only [List.map_cons, List.map_nil, List.forall_mem_cons]
    exact ⟨by rw [forbiddenKey?]; exact hitems, nofun⟩

/-- The entries come from the template one by one, with keys of their own. -/
structure Normalized (env : Env) (s : Db) (seenKeys : List String) (raws : List Json)
    (items : List CheckTemplate) : Prop where
  entries : List.Forall₂ (fun raw item => ∃ position,
    normalizeVerificationCheckTemplate env raw position s = .ok item) raws items
  distinct : (items.map (·.key)).Nodup
  fresh : ∀ item ∈ items, item.key ∉ seenKeys

theorem normalizeChecks_normalized {raws : List Json} {position : ℕ} {seenKeys : List String}
    (h : normalizeChecks env position seenKeys raws s = .ok items) :
    Normalized env s seenKeys raws items := by
  induction raws generalizing position seenKeys items with
  | nil =>
    simp only [normalizeChecks, Query.pure_apply, Except.ok.injEq] at h
    subst h
    exact ⟨.nil, List.nodup_nil, nofun⟩
  | cons raw raws ih =>
    simp only [normalizeChecks, Query.bind_ok, ensure_ok, Query.pure_apply, Except.ok.injEq] at h
    obtain ⟨-, -, item, hitem, -, hfresh, rest, hrest, rfl⟩ := h
    obtain ⟨hentries, hdistinct, hseen⟩ := ih hrest
    refine ⟨.cons ⟨position, hitem⟩ hentries, ?_, ?_⟩
    · rw [List.map_cons, List.nodup_cons]
      refine ⟨fun hmem => ?_, hdistinct⟩
      obtain ⟨other, hother, hkey⟩ := List.mem_map.1 hmem
      exact hseen other hother (hkey ▸ List.mem_cons_self)
    · rw [List.forall_mem_cons]
      exact ⟨hfresh, fun other hother hmem => hseen other hother (List.mem_cons_of_mem _ hmem)⟩

theorem Normalized.normal {seenKeys : List String} {raws : List Json}
    (h : Normalized env s seenKeys raws items) : ∀ item ∈ items, item.Normal env := by
  obtain ⟨hentries, -, -⟩ := h
  induction hentries with
  | nil => exact nofun
  | cons hitem _ ih =>
    obtain ⟨position, hitem⟩ := hitem
    exact List.forall_mem_cons.2 ⟨normalizeVerificationCheckTemplate_normal hitem, ih⟩

/-- Normal entries with keys of their own are left alone. -/
theorem normalizeChecks_of_normal {position : ℕ} {seenKeys : List String}
    (hnormal : ∀ item ∈ items, item.Normal env) (hdistinct : (items.map (·.key)).Nodup)
    (hfresh : ∀ item ∈ items, item.key ∉ seenKeys) :
    normalizeChecks env position seenKeys (items.map (·.toJson)) s = .ok items := by
  induction items generalizing position seenKeys with
  | nil => rfl
  | cons item items ih =>
    rw [List.forall_mem_cons] at hnormal hfresh
    rw [List.map_cons, List.nodup_cons] at hdistinct
    simp only [List.map_cons, normalizeChecks, Query.bind_ok, ensure_ok, Query.pure_apply,
      Except.ok.injEq]
    refine ⟨(), rfl, item, hnormal.1.normalizes position, (), hfresh.1, items, ?_, rfl⟩
    refine ih hnormal.2 hdistinct.2 fun other hother hmem => ?_
    obtain hkey | hmem := List.mem_cons.1 hmem
    · exact hdistinct.1 (hkey ▸ List.mem_map_of_mem hother)
    · exact hfresh.2 other hother hmem

/-- What a valid template consists of. -/
theorem validateVerificationPlanTemplate_ok {profile : OperationProfile} {template : Json} :
    validateVerificationPlanTemplate env profile template s = .ok items ↔
      template.isObj = true ∧ forbiddenKey? env template = none ∧
        ∃ raws, template.getD "checks" .null = .arr raws ∧
          (profile.verificationRequired = true → raws ≠ []) ∧
            normalizeChecks env 1 [] raws s = .ok items ∧
              (profile.verificationRequired = true → items.any (·.required) = true) ∧
                (profile.verificationMode = .automated →
                  computeVerificationPlanMode items = .automated) ∧
                    (profile.verificationMode = .manual →
                      computeVerificationPlanMode items ≠ .automated) := by
  have hitems (v : Json) (raws : List Json) : v.items? = some raws ↔ v = .arr raws := by
    cases v <;> simp [Json.items?]
  simp only [validateVerificationPlanTemplate, Query.bind_ok, ensure_ok, expect_ok,
    rejectSensitiveKeys_ok, Query.pure_apply, Except.ok.injEq, hitems, exists_const]
  constructor
  · rintro ⟨hobj, hallowed, raws, hraws, hsome, items', hchecks, hrequired, hautomated, hmanual, rfl⟩
    exact ⟨hobj, hallowed, raws, hraws, hsome, hchecks, hrequired, hautomated, hmanual⟩
  · rintro ⟨hobj, hallowed, raws, hraws, hsome, hchecks, hrequired, hautomated, hmanual⟩
    exact ⟨hobj, hallowed, raws, hraws, hsome, items, hchecks, hrequired, hautomated, hmanual, rfl⟩

/-- **A normalized template is left alone.** -/
theorem validateVerificationPlanTemplate_again (hlower : LowersAscii env.lower)
    {profile : OperationProfile} {template : Json}
    (h : validateVerificationPlanTemplate env profile template s = .ok items) :
    validateVerificationPlanTemplate env profile (templateOf items) s = .ok items := by
  rw [validateVerificationPlanTemplate_ok] at h
  obtain ⟨-, -, raws, -, hsome, hchecks, hrequired, hautomated, hmanual⟩ := h
  have hnormalized := normalizeChecks_normalized hchecks
  refine validateVerificationPlanTemplate_ok.2 ⟨rfl, templateOf_allowed hlower hnormalized.normal, _,
    rfl, fun hprofile hnil => ?_,
    normalizeChecks_of_normal hnormalized.normal hnormalized.distinct hnormalized.fresh, hrequired,
    hautomated, hmanual⟩
  rw [List.map_eq_nil_iff] at hnil
  have hany := hrequired hprofile
  rw [hnil] at hany
  cases hany

-- ════════════════════════════════════════════════════════════════════════
-- Generated plans
-- ════════════════════════════════════════════════════════════════════════

/-- Every check belongs to a plan: its foreign key. -/
def Db.ChecksBelong (s : Db) : Prop :=
  ∀ i check, s.checks.get? i = some check → (s.plans.get? check.plan).isSome = true

/-- The rows of the entries, from position `position` on. -/
def checkRows (organization plan changeRecord position : ℕ) (items : List CheckTemplate) :
    List VerificationCheck :=
  (items.zipIdx position).map fun x => x.1.toCheck organization plan changeRecord x.2

/-- A generated plan and its checks say what the template says. -/
structure PlanFaithful (env : Env) (change : Loaded ChangeRecord) (profile : OperationProfile)
    (items : List CheckTemplate) (plan : ℕ) (row : VerificationPlan) (s s' : Db) : Prop where
  /-- The entries are those of the template. -/
  entries : ∃ raws, (profile.verificationPlanTemplate.orElse (.obj [])).getD "checks" .null = .arr raws ∧
    List.Forall₂ (fun raw item => ∃ position,
      normalizeVerificationCheckTemplate env raw position s = .ok item) raws items
  stored : s'.plans.get? plan = some row
  /-- The checks are those of the entries, in order. -/
  checks : (checksOf plan s').map (·.row) =
    checkRows change.row.organization plan change.id 1 items
  distinct : ((checksOf plan s').map (·.row.key)).Nodup
  required : row.requiredCheckCount = (checksOf plan s').countP (·.row.required)
  optional : row.optionalCheckCount = (checksOf plan s').countP (!·.row.required)
  hash : row.generatedFromProfileSha256 = sha256CanonicalJson env row.generatedFromProfileSnapshot
  /-- A plan that is needed can be dispatched. -/
  accepted : profile.verificationRequired = true →
    validateExistingVerificationPlanForDispatch ⟨plan, row⟩ change.row s' = .ok ()
  /-- The normalized template is left alone. -/
  normalized : validateVerificationPlanTemplate env profile (templateOf items) s = .ok items

/-- The entries add their rows to the checks of the plan, and to no other. -/
theorem insertChecks_rows {organization plan change position : ℕ} {u : Unit}
    (h : (insertChecks organization plan change position items).run s = .ok (u, s')) :
    (checksOf plan s').map (·.row) =
      (checksOf plan s).map (·.row) ++ checkRows organization plan change position items := by
  induction items generalizing position s with
  | nil =>
    simp only [insertChecks, Tx.run_pure, Except.ok.injEq, Prod.mk.injEq] at h
    obtain ⟨-, rfl⟩ := h
    rw [checkRows, List.zipIdx_nil, List.map_nil, List.append_nil]
  | cons item items ih =>
    simp only [insertChecks, Tx.bind_ok, insertRow_ok] at h
    obtain ⟨_, s1, ⟨-, rfl⟩, h⟩ := h
    have hplan : decide ((item.toCheck organization plan change position).plan = plan) = true :=
      decide_eq_true rfl
    rw [ih h, checksOf, Rel.checks_set, Rel.checks_get, rowsWhere_insert, checksOf, if_pos hplan,
      List.map_append, checkRows, checkRows, List.zipIdx_cons, List.map_cons, List.append_assoc]
    rfl

theorem checkRows_keys (organization plan change position : ℕ) :
    (checkRows organization plan change position items).map (·.key) = items.map (·.key) := by
  rw [checkRows, List.map_map]
  have hkeys : ((·.key) ∘ fun x : CheckTemplate × ℕ =>
      x.1.toCheck organization plan change x.2) = (·.key) ∘ Prod.fst := rfl
  rw [hkeys, ← List.map_map, List.zipIdx_map_fst]

theorem countP_checkRows (organization plan change position : ℕ) (p : Bool → Bool) :
    (checkRows organization plan change position items).countP (fun check => p check.required) =
      items.countP fun item => p item.required := by
  rw [checkRows, List.countP_map]
  have hrequired : ((fun check : VerificationCheck => p check.required) ∘
      fun x : CheckTemplate × ℕ => x.1.toCheck organization plan change x.2) =
        (fun item : CheckTemplate => p item.required) ∘ Prod.fst := rfl
  rw [hrequired, ← List.countP_map, List.zipIdx_map_fst]

/-- What a generation that succeeds leaves behind. -/
theorem generateVerificationPlanLocked_faithful (hlower : LowersAscii env.lower)
    (hbelong : s.ChecksBelong) {change : Loaded ChangeRecord} {profile : OperationProfile}
    {actor : AuditActor} {plan : ℕ}
    (h : (generateVerificationPlanLocked env change ⟨change.row.operationProfile, profile⟩
      actor).run s = .ok (plan, s')) :
    ∃ items row, PlanFaithful env change profile items plan row s s' := by
  simp only [generateVerificationPlanLocked, Tx.bind_ok, Tx.lift_query_ok, Tx.run_lift,
    Tx.run_pure, insertUnique_ok, Except.ok.injEq, Prod.mk.injEq] at h
  obtain ⟨items, _, ⟨hvalid, rfl⟩, now, _, ⟨-, rfl⟩, _, s1, ⟨-, rfl, rfl⟩, _, s2, hchecks, _, s3,
    hemit, rfl, rfl⟩ := h
  have htemplate := validateVerificationPlanTemplate_ok.1 hvalid
  obtain ⟨-, -, raws, hraws, -, hnormalize, hrequired, -, -⟩ := htemplate
  have hnormalized := normalizeChecks_normalized hnormalize
  rw [Rel.plans_set, Rel.plans_get] at hchecks
  have hplans : (s.plans.insert _) = s3.plans :=
    (Tx.sameOn hchecks [.plans] (by decide) .plans (by decide)).trans
      (Tx.sameOn hemit [.plans] (by decide) .plans (by decide))
  have hkept : s2.checks = s3.checks := Tx.sameOn hemit [.checks] (by decide) .checks (by decide)
  have hnone : checksOf s.plans.next s = [] := by
    -- no check belongs to a plan before the plan is there
    refine List.eq_nil_iff_forall_not_mem.2 fun check hmem => ?_
    obtain ⟨hcheck, hplan⟩ := mem_rowsWhere.1 hmem
    have hold := hbelong _ _ hcheck
    rw [of_decide_eq_true hplan, Table.get?_next] at hold
    cases hold
  have hrows : (checksOf s.plans.next s3).map (·.row) =
      checkRows change.row.organization s.plans.next change.id 1 items := by
    have hadded := insertChecks_rows hchecks
    rw [checksOf, ← hkept]
    refine hadded.trans ?_
    change (checksOf s.plans.next s).map (·.row) ++ _ = _
    rw [hnone, List.map_nil, List.nil_append]
  have hcount (p : Bool → Bool) : (checksOf s.plans.next s3).countP (fun check => p check.row.required) =
      items.countP fun item => p item.required := by
    rw [← countP_checkRows, ← hrows, List.countP_map]
    rfl
  have hoptional : items.length - items.countP (·.required) = items.countP (!·.required) := by
    have htotal := List.length_eq_countP_add_countP (·.required) (l := items)
    simp only [Bool.not_eq_true, Bool.decide_eq_false] at htotal
    omega
  have hstored := congrArg (·.get? s.plans.next) hplans
  simp only [Table.get?_insert_next] at hstored
  refine ⟨items, _, ⟨raws, hraws, hnormalized.entries⟩, hstored.symm, hrows, ?_, ?_, ?_, ?_,
    fun hprofile => ?_, validateVerificationPlanTemplate_again hlower hvalid⟩
  · have hkeys := congrArg (List.map (·.key)) hrows
    rw [List.map_map, checkRows_keys] at hkeys
    exact hkeys ▸ hnormalized.distinct
  · exact (hcount id).symm
  · exact hoptional.trans (hcount (!·)).symm
  · rfl
  · simp only [validateExistingVerificationPlanForDispatch, Query.bind_ok, ensure_ok, select_ok]
    refine ⟨(), trivial, (), trivial, (), by decide, (), ?_, _, rfl, hcount id⟩
    rw [List.countP_pos_iff]
    exact List.any_eq_true.1 (hrequired hprofile)

/-- **Every generation fails and changes nothing, or is faithful.** -/
theorem verification_plan_faithful (hlower : LowersAscii env.lower) (hbelong : s.ChecksBelong)
    (change : Loaded ChangeRecord) (profile : OperationProfile) (actor : AuditActor) :
    (∃ e, (Prog.atomic .service (generateVerificationPlanLocked env change
        ⟨change.row.operationProfile, profile⟩ actor) :
          Handler [.plans, .checks, .audit] ℕ).exec s = (.error e, s)) ∨
      ∃ plan s', (Prog.atomic .service (generateVerificationPlanLocked env change
          ⟨change.row.operationProfile, profile⟩ actor) :
            Handler [.plans, .checks, .audit] ℕ).exec s = (.ok plan, s') ∧
        ∃ items row, PlanFaithful env change profile items plan row s s' := by
  rw [Prog.exec_atomic]
  cases hrun : (generateVerificationPlanLocked env change ⟨change.row.operationProfile, profile⟩
    actor).run s with
  | error e => exact .inl ⟨e, rfl⟩
  | ok result =>
    obtain ⟨plan, s'⟩ := result
    exact .inr ⟨plan, s', rfl, generateVerificationPlanLocked_faithful hlower hbelong hrun⟩

/-- A profile whose changes are attested by hand and by a ticket. -/
def OperationProfile.ticketed : OperationProfile :=
  { OperationProfile.sample with
    verificationRequired := true
    verificationPlanTemplate := .obj [("checks", .arr [
      .obj [("key", .str " works "), ("name", .str "Works"), ("type", .str "manual_attestation")],
      .obj [("key", .str "ticket"), ("name", .str "Ticket"), ("check_type", .str "external_reference"),
        ("required", .bool false)]])] }

/-- A change of the sample organization. -/
def Loaded.ticketed : Loaded ChangeRecord where
  id := 0
  row := { organization := 0, operationProfile := 0, workflow := 0, title := "Change" }

theorem verification_plan_faithful_ticketed : ∃ plan s',
    (Prog.atomic .service (generateVerificationPlanLocked .ascii .ticketed
      ⟨0, .ticketed⟩ .sample) : Handler [.plans, .checks, .audit] ℕ).exec
        (.initial (.sample .ticketed) 0) = (.ok plan, s') ∧
      ∃ items row, PlanFaithful .ascii .ticketed .ticketed items plan row
        (.initial (.sample .ticketed) 0) s' := by
  have hlower : LowersAscii Env.ascii.lower := fun _ _ => rfl
  have hbelong : (Db.initial (.sample .ticketed) 0).ChecksBelong := by
    intro i check hcheck
    cases hcheck
  refine (verification_plan_faithful hlower hbelong .ticketed .ticketed
    .sample).resolve_left ?_
  rintro ⟨e, he⟩
  have hok : ((Prog.atomic .service (generateVerificationPlanLocked .ascii .ticketed
      ⟨0, .ticketed⟩ .sample) : Handler [.plans, .checks, .audit] ℕ).exec
        (.initial (.sample .ticketed) 0)).1.toBool = true := by decide
  rw [show (generateVerificationPlanLocked .ascii .ticketed ⟨0, .ticketed⟩ .sample) =
    generateVerificationPlanLocked .ascii .ticketed
      ⟨Loaded.ticketed.row.operationProfile, .ticketed⟩ .sample from rfl, he] at hok
  cases hok

end RunbookPlatform
