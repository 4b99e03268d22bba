import RunbookPlatform.Auditor.Scope
import RunbookPlatform.System

/-!
# What an auditor sees

A grant admits a change when each dimension that its scope restricts has a matching value, and
its date limits and its limit on exceptions hold. The compiled expressions agree with that on the
scopes of a pool exactly when the stated limits are read, one joined row has all the values, and
no scope without any restriction is joined with a restricted one that does not admit the change.

## Main definitions

- `ScopeDimension.matches` — that a joined row has a value
- `Admits`, `Meets` — what a scope is for, and what its expression says
- `ScopeExact` — auditors see what their grants admit

## Main results

- `scopeToChangeQ_spec` — the meaning of the expression of a scope
- `meets_iff_admits` — when the expression of one scope is exact
- `auditor_scope_exact_iff`, `unrestricted_grant_hides`
-/

namespace RunbookPlatform

open Transactional Queries

variable {env : AuditorEnv} {d : AuditorDb} {organization : ℕ} {scope : Json} {x : AuditedChange}
  {r : AuditRow}

-- ════════════════════════════════════════════════════════════════════════
-- What a scope is for
-- ════════════════════════════════════════════════════════════════════════

/-- The field of an object is the text. -/
def hasText (object : Json) (key value : String) : Bool := object.get? key = some (.str value)

section

variable (env d organization scope x)

/-- The joined row has the value in the dimension. -/
def ScopeDimension.matches (value : String) (r : AuditRow) : ScopeDimension → Bool
  | serviceKeys =>
    (r.target.any fun t => hasText t.row.metadata "service_key" value ||
        hasText t.row.metadata "service" value) ||
      hasText r.change.row.requestSnapshot "service_key" value ||
      hasText r.change.row.requestSnapshot "service" value ||
      (scopeServices d organization [value]).any fun service =>
        service.row.targetPatterns.any fun pattern => (targetPatternQ env pattern).holds r
  | targetIds =>
    r.target.any fun t => t.row.targetIdentifier = value || t.row.normalizedIdentifier = value ||
      t.row.displayName = value || env.uuid? value = some t.id
  | riskLevels => r.change.riskLevel = value
  | statuses => r.change.row.status.value = value
  | changeTypes => value = if r.change.row.isEmergency then "emergency" else "standard"
  | bundleStatuses => r.bundle = some value
  | controlIds => r.coverage.any fun c => c.controlId = value
  | coverageStatuses => r.coverage.any fun c => c.coverageStatus = value
  | standards => r.coverage.any fun c => c.standard = value

/-- The values to which a scope restricts a dimension. -/
def restrictedValues (dimension : ScopeDimension) : Option (List String) :=
  match scope.get? dimension.key with
  | some (.arr items) => some (items.filterMap Json.str?)
  | _ => none

/-- The dimensions that a scope restricts; with `all` it restricts none. -/
def restrictions : List (ScopeDimension × List String) :=
  if scope.get? "all" = none then
    ScopeDimension.all.filterMap fun dimension =>
      (restrictedValues scope dimension).map fun values => (dimension, values)
  else []

/-- The date limits that a scope states: each holds of the date of the change. -/
def StatedLimits : Prop :=
  (∀ text, scope.get? "date_from" = some (.str text) →
    ∃ t, env.scopeDatetime text = .ok (some t) ∧ t ≤ x.auditDate) ∧
  ∀ text, scope.get? "date_to" = some (.str text) →
    ∃ t, env.scopeDatetime text = .ok (some t) ∧ x.auditDate ≤ t

/-- The limit on exceptions. -/
def ExceptionLimit : Prop :=
  scope.get? "include_exceptions" = some (.bool false) →
    x.exceptions = [] ∧ x.freezeExceptionReference = ""

/-- The scope admits the change. -/
def Admits : Prop :=
  (∀ restriction ∈ restrictions scope, ∃ value ∈ restriction.2, ∃ r ∈ x.rows,
    restriction.1.matches env d organization value r = true) ∧
  StatedLimits env scope x ∧ ExceptionLimit scope x

-- ════════════════════════════════════════════════════════════════════════
-- What its expression says
-- ════════════════════════════════════════════════════════════════════════

/-- One joined row of the change has a value of each dimension that is restricted. -/
def JointlyMatched : Prop :=
  ∃ r ∈ x.rows, ∀ restriction ∈ restrictions scope, ∃ value ∈ restriction.2,
    restriction.1.matches env d organization value r = true

/-- The date limits that are read. -/
def ReadLimits : Prop :=
  (∀ text t, scope.get? "date_from" = some (.str text) →
    env.scopeDatetime text = .ok (some t) → t ≤ x.auditDate) ∧
  ∀ text t, scope.get? "date_to" = some (.str text) →
    env.scopeDatetime text = .ok (some t) → x.auditDate ≤ t

/-- The change meets the expression of the scope. -/
def Meets : Prop :=
  JointlyMatched env d organization scope x ∧ ReadLimits env scope x ∧ ExceptionLimit scope x

/-- Reading the date limits raises nothing. -/
def LimitsParse : Prop :=
  ∀ key ∈ ["date_from", "date_to"], ∀ text, scope.get? key = some (.str text) →
    ∃ limit, env.scopeDatetime text = .ok limit

/-- Each date limit is a datetime. -/
def LimitsRead : Prop :=
  ∀ key ∈ ["date_from", "date_to"], ∀ text, scope.get? key = some (.str text) →
    ∃ t, env.scopeDatetime text = .ok (some t)

/-- The expression of the scope restricts nothing. -/
def Unrestricted : Prop :=
  restrictions scope = [] ∧
  (∀ key ∈ ["date_from", "date_to"], ∀ text t, scope.get? key = some (.str text) →
    env.scopeDatetime text ≠ .ok (some t)) ∧
  scope.get? "include_exceptions" ≠ some (.bool false)

end

theorem statedLimits_iff : StatedLimits env scope x ↔ LimitsRead env scope ∧ ReadLimits env scope x := by
  constructor
  · rintro ⟨hfrom, hto⟩
    refine ⟨fun key hkey text hget => ?_, fun text t hget hread => ?_, fun text t hget hread => ?_⟩
    · simp only [List.mem_cons, List.not_mem_nil, or_false] at hkey
      rcases hkey with rfl | rfl
      · exact (hfrom text hget).imp fun _ h => h.1
      · exact (hto text hget).imp fun _ h => h.1
    · obtain ⟨t', hread', hle⟩ := hfrom text hget
      cases hread.symm.trans hread'
      exact hle
    · obtain ⟨t', hread', hle⟩ := hto text hget
      cases hread.symm.trans hread'
      exact hle
  · rintro ⟨hread, hfrom, hto⟩
    refine ⟨fun text hget => ?_, fun text hget => ?_⟩
    · obtain ⟨t, ht⟩ := hread "date_from" (by simp) text hget
      exact ⟨t, ht, hfrom text t hget ht⟩
    · obtain ⟨t, ht⟩ := hread "date_to" (by simp) text hget
      exact ⟨t, ht, hto text t hget ht⟩

/-- **One scope** is exact on the change when what meets its expression has its limits read, and
what it admits is matched by one joined row. -/
theorem meets_iff_admits :
    (Meets env d organization scope x ↔ Admits env d organization scope x) ↔
      (Meets env d organization scope x → LimitsRead env scope) ∧
        (Admits env d organization scope x → JointlyMatched env d organization scope x) := by
  constructor
  · intro h
    exact ⟨fun hmeets => (statedLimits_iff.1 (h.1 hmeets).2.1).1, fun hadmits => (h.2 hadmits).1⟩
  · rintro ⟨hread, hjoint⟩
    constructor
    · intro hmeets
      obtain ⟨r, hr, hmatched⟩ := hmeets.1
      refine ⟨fun restriction hrestriction => ?_,
        statedLimits_iff.2 ⟨hread hmeets, hmeets.2.1⟩, hmeets.2.2⟩
      obtain ⟨value, hvalue, hat⟩ := hmatched restriction hrestriction
      exact ⟨value, hvalue, r, hr, hat⟩
    · intro hadmits
      exact ⟨hjoint hadmits, (statedLimits_iff.1 hadmits.2.1).2, hadmits.2.2⟩

-- ════════════════════════════════════════════════════════════════════════
-- Valid scopes
-- ════════════════════════════════════════════════════════════════════════

/-- What the validation of a scope promises. -/
structure ValidScope (scope : Json) : Prop where
  dimensions : ∀ (dimension : ScopeDimension) value, scope.get? dimension.key = some value →
    (∃ texts, texts ≠ [] ∧ value = .arr (texts.map .str)) ∨
      value.isObj = true ∧ value.pyEq allObject = true
  dates : ∀ key ∈ ["date_from", "date_to"], ∀ value, scope.get? key = some value →
    ∃ text, text ≠ "" ∧ value = .str text
  all : ∀ value, scope.get? "all" = some value → value = .bool true

theorem exists_texts {items : List Json} (h : ∀ item ∈ items, isScopeText item = true) :
    ∃ texts : List String, items = texts.map .str := by
  induction items with
  | nil => exact ⟨[], rfl⟩
  | cons item items ih =>
    obtain ⟨texts, htexts⟩ := ih fun i hi => h i (List.mem_cons_of_mem _ hi)
    have hitem := h item List.mem_cons_self
    cases item with
    | str text => exact ⟨text :: texts, by rw [htexts]; rfl⟩
    | _ => simp [isScopeText, Json.str?] at hitem

theorem validateScopeDimension_ok {key : String} {value : Json} {u : Unit}
    (h : validateScopeDimension key value = .ok u) :
    (∃ texts, texts ≠ [] ∧ value = .arr (texts.map .str)) ∨
      value.isObj = true ∧ value.pyEq allObject = true := by
  cases value with
  | arr items =>
    simp only [validateScopeDimension, except_bind_ok, check_ok] at h
    obtain ⟨_, hne, _, -, hitems⟩ := h
    obtain ⟨texts, rfl⟩ := exists_texts hitems
    exact .inl ⟨texts, fun hnil => hne (by rw [hnil]; rfl), rfl⟩
  | obj fields => exact .inr ⟨rfl, check_ok.1 h⟩
  | _ => cases h

theorem validateScopeEntries_ok {entries : List (String × Json)} {u : Unit}
    (h : validateScopeEntries env entries = .ok u) {key : String} {value : Json}
    (hmem : (key, value) ∈ entries) : ∃ u, validateScopeEntry env key value = .ok u := by
  induction entries with
  | nil => cases hmem
  | cons entry entries ih =>
    simp only [validateScopeEntries, except_bind_ok] at h
    obtain ⟨v, hfirst, hrest⟩ := h
    rcases List.mem_cons.1 hmem with rfl | hmem
    · exact ⟨v, hfirst⟩
    · exact ih hrest hmem

theorem validScope_of_ok {u : Unit} (h : validateAuditorScope env scope = .ok u) :
    ValidScope scope := by
  cases scope with
  | obj entries =>
    simp only [validateAuditorScope, except_bind_ok] at h
    obtain ⟨_, -, _, -, hentries⟩ := h
    have hentry : ∀ key value, (Json.obj entries).get? key = some value →
        ∃ u, validateScopeValue key value = .ok u := by
      intro key value hget
      obtain ⟨before, after, hsplit, -⟩ := List.lookup_eq_some_iff.1 hget
      have hmem : (key, value) ∈ entries := by
        rw [show entries = before ++ (key, value) :: after from hsplit]
        simp
      obtain ⟨u, hu⟩ := validateScopeEntries_ok hentries hmem
      simp only [validateScopeEntry, except_bind_ok] at hu
      exact ⟨u, hu.choose_spec.2⟩
    refine ⟨fun dimension value hget => ?_, fun key hkey value hget => ?_, fun value hget => ?_⟩
    · obtain ⟨u, hu⟩ := hentry dimension.key value hget
      have hkey : dimension.key ∈ readonlyScopeDimensions :=
        List.mem_map_of_mem dimension.mem_all
      rw [validateScopeValue, if_pos hkey] at hu
      exact validateScopeDimension_ok hu
    · obtain ⟨u, hu⟩ := hentry key value hget
      have hdate : key = "date_from" ∨ key = "date_to" := by simpa using hkey
      have hnot : key ∉ readonlyScopeDimensions := by rcases hdate with rfl | rfl <;> decide
      rw [validateScopeValue, if_neg hnot, if_pos hdate, check_ok] at hu
      obtain ⟨text, htext, hstrip⟩ := (Option.any_eq_true _ _).1 hu
      cases value with
      | str s =>
        refine ⟨s, fun hempty => ?_, rfl⟩
        subst hempty
        cases htext
        revert hstrip
        decide
      | _ => cases htext
    · obtain ⟨u, hu⟩ := hentry "all" value hget
      rw [validateScopeValue, if_neg (by decide), if_neg (by decide), if_neg (by decide),
        if_pos rfl, check_ok] at hu
      exact hu
  | _ => cases h

-- ════════════════════════════════════════════════════════════════════════
-- Dimensions
-- ════════════════════════════════════════════════════════════════════════

theorem keyIn_iff {object : Json} {key : String} {values : List String} :
    keyIn object key values = true ↔ ∃ value ∈ values, hasText object key value = true := by
  simp only [keyIn, hasText, decide_eq_true_eq]
  cases hget : object.get? key with
  | none => simp
  | some found =>
    cases found with
    | str text => simp [Json.str?]
    | _ => simp [Json.str?]

theorem mem_scopeServices {values : List String} {service : Loaded ServiceCatalogEntry} :
    service ∈ scopeServices d organization values ↔
      ∃ value ∈ values, service ∈ scopeServices d organization [value] := by
  obtain ⟨i, row⟩ := service
  simp only [scopeServices, mem_rowsWhere, Bool.and_eq_true, decide_eq_true_eq,
    List.contains_iff_mem, List.mem_singleton]
  constructor
  · rintro ⟨hrow, ⟨horg, hkey⟩, hactive⟩
    exact ⟨row.serviceKey, hkey, hrow, ⟨horg, rfl⟩, hactive⟩
  · rintro ⟨value, hvalue, hrow, ⟨horg, rfl⟩, hactive⟩
    exact ⟨hrow, ⟨horg, hvalue⟩, hactive⟩

theorem onNames_isEmpty (p : String → Bool) : (onNames p).isEmpty = false := rfl

theorem onNames_holds (p : String → Bool) :
    (onNames p).holds r = r.target.any fun t =>
      p t.row.targetIdentifier || p t.row.normalizedIdentifier || p t.row.displayName := by
  rw [onNames, Q.holds_disj rfl rfl, Q.holds_disj rfl rfl]
  cases htarget : r.target <;> simp [onTarget, Q.holds, htarget]

theorem targetPatternQ_isEmpty (pattern : Json) : (targetPatternQ env pattern).isEmpty = false := by
  cases pattern with
  | str text =>
    simp only [targetPatternQ]
    split_ifs <;> rfl
  | obj fields =>
    simp only [targetPatternQ]
    split_ifs with h
    · rfl
    · exact Bool.eq_false_iff.2 h
  | _ => rfl

/-- The expression of the services: their keys on the change, or a pattern of one of them. -/
theorem serviceScopeQ_holds (values : List String) :
    (serviceScopeQ env d organization values).holds r = true ↔
      ∃ value ∈ values, ScopeDimension.serviceKeys.matches env d organization value r = true := by
  rw [serviceScopeQ, ← List.foldl_map]
  set keys := (((onTarget fun t => keyIn t.metadata "service_key" values).disj
    (onTarget fun t => keyIn t.metadata "service" values)).disj
    (onChange fun x => keyIn x.row.requestSnapshot "service_key" values)).disj
    (onChange fun x => keyIn x.row.requestSnapshot "service" values) with hkeys
  have hkeysHold : keys.holds r = true ↔ ∃ value ∈ values,
      ((r.target.any fun t => hasText t.row.metadata "service_key" value ||
          hasText t.row.metadata "service" value) ||
        hasText r.change.row.requestSnapshot "service_key" value ||
        hasText r.change.row.requestSnapshot "service" value) = true := by
    rw [hkeys, Q.holds_disj rfl rfl, Q.holds_disj rfl rfl, Q.holds_disj rfl rfl]
    simp only [onTarget, onChange, Q.holds, Bool.or_eq_true, keyIn_iff]
    cases r.target with
    | none => grind
    | some t =>
      simp only [Option.any_some, keyIn_iff, Bool.or_eq_true]
      grind
  have hpatterns : (∃ q ∈ ((scopeServices d organization values).flatMap
        (·.row.targetPatterns)).map (targetPatternQ env), q.isEmpty = false ∧ q.holds r = true) ↔
      ∃ value ∈ values, ((scopeServices d organization [value]).any fun service =>
        service.row.targetPatterns.any fun pattern =>
          (targetPatternQ env pattern).holds r) = true := by
    simp only [List.mem_map, List.mem_flatMap, List.any_eq_true]
    constructor
    · rintro ⟨_, ⟨pattern, ⟨service, hservice, hpattern⟩, rfl⟩, -, hholds⟩
      obtain ⟨value, hvalue, hservice⟩ := mem_scopeServices.1 hservice
      exact ⟨value, hvalue, service, hservice, pattern, hpattern, hholds⟩
    · rintro ⟨value, hvalue, service, hservice, pattern, hpattern, hholds⟩
      exact ⟨_, ⟨pattern, ⟨service, mem_scopeServices.2 ⟨value, hvalue, hservice⟩, hpattern⟩, rfl⟩,
        targetPatternQ_isEmpty pattern, hholds⟩
  rw [holds_foldl_disj rfl, hkeysHold, hpatterns]
  simp only [ScopeDimension.matches, Bool.or_eq_true]
  grind

theorem targetScopeQ_holds (values : List String) :
    (targetScopeQ env values).holds r = true ↔
      ∃ value ∈ values, ScopeDimension.targetIds.matches env d organization value r = true := by
  have hnames : (onNames values.contains).holds r = true ↔ ∃ value ∈ values,
      (r.target.any fun t => t.row.targetIdentifier = value ||
        t.row.normalizedIdentifier = value || t.row.displayName = value) = true := by
    rw [onNames_holds]
    cases r.target with
    | none => simp
    | some t =>
      simp only [Option.any_some, Bool.or_eq_true, List.contains_iff_mem, decide_eq_true_eq]
      grind
  have hkeys : (r.target.any fun t => (values.filterMap env.uuid?).contains t.id) = true ↔
      ∃ value ∈ values, (r.target.any fun t => env.uuid? value = some t.id) = true := by
    cases r.target <;> simp
  have hboth : (∃ value ∈ values, ScopeDimension.targetIds.matches env d organization value r =
        true) ↔ (onNames values.contains).holds r = true ∨
      (r.target.any fun t => (values.filterMap env.uuid?).contains t.id) = true := by
    rw [hnames, hkeys]
    simp only [ScopeDimension.matches]
    cases r.target with
    | none => simp
    | some t =>
      simp only [Option.any_some, Bool.or_eq_true]
      grind
  rw [hboth, targetScopeQ]
  split_ifs with hnone
  · rw [hnone]
    cases r.target <;> simp
  · rw [Q.holds_disj (onNames_isEmpty _) rfl, Bool.or_eq_true]
    rfl

theorem changeTypeScopeQ_holds (values : List String) :
    (changeTypeScopeQ values).holds r = true ↔
      ∃ value ∈ values, ScopeDimension.changeTypes.matches env d organization value r = true := by
  have hvalue : (∃ value ∈ values, ScopeDimension.changeTypes.matches env d organization value r =
      true) ↔ (if r.change.row.isEmergency then "emergency" else "standard") ∈ values := by
    simp [ScopeDimension.matches]
  rw [hvalue, changeTypeScopeQ]
  by_cases hstandard : "standard" ∈ values <;> by_cases hemergency : "emergency" ∈ values <;>
    cases hrow : r.change.row.isEmergency <;>
    simp [hstandard, hemergency, hrow, Q.disj, noChange, onChange, Q.isEmpty, Q.holds]

/-- A builder always restricts something. -/
theorem builder_isEmpty (dimension : ScopeDimension) (values : List String) :
    (dimension.builder env d organization values).isEmpty = false := by
  cases dimension with
  | serviceKeys =>
    refine Bool.eq_false_iff.2 fun h => ?_
    change (serviceScopeQ env d organization values).isEmpty = true at h
    rw [serviceScopeQ, ← List.foldl_map] at h
    cases (foldl_disj_isEmpty.1 h).1
  | targetIds =>
    change (targetScopeQ env values).isEmpty = false
    rw [targetScopeQ]
    split_ifs
    · exact onNames_isEmpty _
    · rw [Q.isEmpty_disj, onNames_isEmpty, Bool.false_and]
  | changeTypes =>
    change (changeTypeScopeQ values).isEmpty = false
    rw [changeTypeScopeQ]
    split_ifs <;> rfl
  | _ => rfl

/-- **A builder** asks for one of the values. -/
theorem builder_holds (dimension : ScopeDimension) (values : List String) :
    (dimension.builder env d organization values).holds r = true ↔
      ∃ value ∈ values, dimension.matches env d organization value r = true := by
  cases dimension with
  | serviceKeys => exact serviceScopeQ_holds values
  | targetIds => exact targetScopeQ_holds values
  | riskLevels | statuses =>
    simp [ScopeDimension.builder, onChange, Q.holds, ScopeDimension.matches]
  | changeTypes => exact changeTypeScopeQ_holds values
  | bundleStatuses =>
    cases hbundle : r.bundle <;>
      simp [ScopeDimension.builder, Q.holds, ScopeDimension.matches, hbundle]
  | controlIds | coverageStatuses | standards =>
    cases hcoverage : r.coverage <;>
      simp [ScopeDimension.builder, Q.holds, ScopeDimension.matches, hcoverage]

theorem dimensionQ_of_valid (hvalid : ValidScope scope) (dimension : ScopeDimension) :
    dimensionQ env d organization scope dimension =
      .ok ((restrictedValues scope dimension).elim .empty
        (dimension.builder env d organization)) := by
  rw [dimensionQ, restrictedValues]
  cases hget : scope.get? dimension.key with
  | none => rfl
  | some value =>
    rcases hvalid.dimensions dimension value hget with ⟨texts, hne, rfl⟩ | ⟨hobj, heq⟩
    · have htexts : (texts.map Json.str).map (pyStr env.toEnv) = texts := by
        rw [List.map_map]
        exact List.map_id _
      have hvalues : (texts.map Json.str).filterMap Json.str? = texts := by
        rw [List.filterMap_map]
        exact List.filterMap_some
      cases texts with
      | nil => exact absurd rfl hne
      | cons text texts =>
        simp only [Option.elim_some, hvalues]
        rw [if_neg (by simp [allObject, Json.pyEq]), if_neg (by simp [Json.truthy])]
        simp only [Json.iterate?, htexts]
    · cases value with
      | obj fields => simp [heq]
      | _ => cases hobj

theorem mem_restrictions {dimension : ScopeDimension} {values : List String} :
    (dimension, values) ∈ restrictions scope ↔
      scope.get? "all" = none ∧ restrictedValues scope dimension = some values := by
  unfold restrictions
  split_ifs with h
  · simp only [List.mem_filterMap, Option.map_eq_some_iff, Prod.mk.injEq, h, true_and]
    constructor
    · rintro ⟨_, -, _, hvalues, rfl, rfl⟩
      exact hvalues
    · intro hvalues
      exact ⟨dimension, dimension.mem_all, values, hvalues, rfl, rfl⟩
  · simp [h]

/-- The expressions of some dimensions, joined by `&` to an expression. -/
theorem dimensionsQ_of_valid (env : AuditorEnv) (d : AuditorDb) (organization : ℕ)
    (hvalid : ValidScope scope) (dimensions : List ScopeDimension) (q : Q AuditRow) :
    ∃ q', dimensionsQ env d organization scope dimensions q = .ok q' ∧
      (q'.isEmpty = true ↔ q.isEmpty = true ∧
        ∀ dimension ∈ dimensions, restrictedValues scope dimension = none) ∧
      ∀ r, q'.holds r = true ↔ q.holds r = true ∧ ∀ dimension ∈ dimensions, ∀ values,
        restrictedValues scope dimension = some values →
          ∃ value ∈ values, dimension.matches env d organization value r = true := by
  induction dimensions generalizing q with
  | nil => exact ⟨q, rfl, by simp, by simp⟩
  | cons dimension dimensions ih =>
    obtain ⟨q', hq', hempty, hholds⟩ := ih (q.conj ((restrictedValues scope dimension).elim .empty
      (dimension.builder env d organization)))
    refine ⟨q', by rw [dimensionsQ, dimensionQ_of_valid hvalid, ok_bind, hq'], ?_, fun r => ?_⟩
    · rw [hempty, Q.isEmpty_conj, Bool.and_eq_true, List.forall_mem_cons, and_assoc]
      refine and_congr_right fun _ => and_congr_left fun _ => ?_
      cases restrictedValues scope dimension with
      | none => exact ⟨fun _ => rfl, fun _ => rfl⟩
      | some values => simp [builder_isEmpty]
    · rw [hholds, Q.holds_conj, Bool.and_eq_true, List.forall_mem_cons, and_assoc]
      refine and_congr_right fun _ => and_congr_left fun _ => ?_
      cases restrictedValues scope dimension with
      | none => simp [Q.holds]
      | some values => simp [builder_holds]

-- ════════════════════════════════════════════════════════════════════════
-- Limits
-- ════════════════════════════════════════════════════════════════════════

/-- The date limit under the key, as it is read. -/
def readLimit (env : AuditorEnv) (scope : Json) (key : String) : Option Time :=
  match scope.get? key with
  | some (.str text) => (env.scopeDatetime text).toOption.join
  | _ => none

theorem readLimit_eq_some {key : String} {t : Time} :
    readLimit env scope key = some t ↔
      ∃ text, scope.get? key = some (.str text) ∧ env.scopeDatetime text = .ok (some t) := by
  unfold readLimit
  split
  · rename_i text hget
    constructor
    · intro h
      refine ⟨text, hget, ?_⟩
      cases hread : env.scopeDatetime text with
      | error e => simp [hread, Except.toOption] at h
      | ok limit => simpa [hread, Except.toOption] using h
    · rintro ⟨text', hget', hread⟩
      cases hget.symm.trans hget'
      simp [hread, Except.toOption]
  · rename_i hnot
    constructor
    · intro h
      cases h
    · rintro ⟨text, hget, -⟩
      exact absurd hget (hnot text)

theorem parseScopeDatetime_of_valid (hvalid : ValidScope scope) (hparse : LimitsParse env scope)
    (key : String) (hkey : key ∈ ["date_from", "date_to"]) :
    parseScopeDatetime env (scope.getD key .null) = .ok (readLimit env scope key) := by
  rw [Json.getD, readLimit, parseScopeDatetime]
  cases hget : scope.get? key with
  | none => rfl
  | some value =>
    obtain ⟨text, hne, rfl⟩ := hvalid.dates key hkey value hget
    obtain ⟨limit, hlimit⟩ := hparse key hkey text hget
    have htruthy : (!(Json.str text).truthy) = false := by simp [Json.truthy, hne]
    have htext : pyStr env.toEnv (.str text) = text := rfl
    simp only [Option.getD_some, htruthy, htext, hlimit]
    cases limit <;> rfl

theorem readLimits_iff : ReadLimits env scope x ↔
    (∀ t, readLimit env scope "date_from" = some t → t ≤ x.auditDate) ∧
      ∀ t, readLimit env scope "date_to" = some t → x.auditDate ≤ t := by
  simp only [readLimit_eq_some, forall_exists_index, and_imp, ReadLimits]
  exact ⟨fun h => ⟨fun t text => h.1 text t, fun t text => h.2 text t⟩,
    fun h => ⟨fun text t => h.1 t text, fun text t => h.2 t text⟩⟩

theorem auditDateGteQ_spec (value : Time) (r : AuditRow) :
    (auditDateGteQ value).holds r = true ↔ value ≤ r.change.auditDate := by
  rw [auditDateGteQ, Q.holds_disj rfl rfl, AuditedChange.auditDate]
  cases hsubmitted : r.change.row.submittedAt <;> simp [onChange, Q.holds, hsubmitted]

theorem auditDateLteQ_spec (value : Time) (r : AuditRow) :
    (auditDateLteQ value).holds r = true ↔ r.change.auditDate ≤ value := by
  rw [auditDateLteQ, Q.holds_disj rfl rfl, AuditedChange.auditDate]
  cases hsubmitted : r.change.row.submittedAt <;> simp [onChange, Q.holds, hsubmitted]

theorem mem_rows {r : AuditRow} : r ∈ x.rows ↔
    r.change = x ∧ r.target ∈ leftJoin x.targets ∧ r.bundle ∈ leftJoin x.evidenceBundles ∧
      r.coverage ∈ leftJoin x.controlCoverages ∧ r.exception ∈ leftJoin x.exceptions := by
  obtain ⟨change, target, bundle, coverage, exception⟩ := r
  simp only [AuditedChange.rows, List.mem_flatMap, List.mem_map, AuditRow.mk.injEq]
  constructor
  · rintro ⟨_, ht, _, hb, _, hc, _, he, rfl, rfl, rfl, rfl, rfl⟩
    exact ⟨rfl, ht, hb, hc, he⟩
  · rintro ⟨rfl, ht, hb, hc, he⟩
    exact ⟨_, ht, _, hb, _, hc, _, he, rfl, rfl, rfl, rfl, rfl⟩

theorem exists_row (x : AuditedChange) : ∃ r, r ∈ x.rows := by
  obtain ⟨target, ht⟩ := exists_mem_leftJoin x.targets
  obtain ⟨bundle, hb⟩ := exists_mem_leftJoin x.evidenceBundles
  obtain ⟨coverage, hc⟩ := exists_mem_leftJoin x.controlCoverages
  obtain ⟨exception, he⟩ := exists_mem_leftJoin x.exceptions
  exact ⟨⟨x, target, bundle, coverage, exception⟩, mem_rows.2 ⟨rfl, ht, hb, hc, he⟩⟩

theorem exception_isNone (hr : r ∈ x.rows) : r.exception.isNone = true ↔ x.exceptions = [] := by
  have he := (mem_rows.1 hr).2.2.2.2
  cases hexception : r.exception with
  | none =>
    rw [hexception, none_mem_leftJoin] at he
    simp [he]
  | some e =>
    rw [hexception, some_mem_leftJoin] at he
    simp [List.ne_nil_of_mem he]

/-- The expressions of the dimensions, or none with `all`. -/
theorem scopeDimensions_spec (env : AuditorEnv) (d : AuditorDb) (organization : ℕ)
    (hvalid : ValidScope scope) :
    ∃ q, scopeDimensionsQ env d organization scope = .ok q ∧
      (q.isEmpty = true ↔ restrictions scope = []) ∧
      ∀ r, q.holds r = true ↔ ∀ restriction ∈ restrictions scope, ∃ value ∈ restriction.2,
        restriction.1.matches env d organization value r = true := by
  cases hall : scope.get? "all" with
  | some value =>
    cases hvalid.all value hall
    have hnone : restrictions scope = [] := by simp [restrictions, hall]
    refine ⟨.empty, by simp [scopeDimensionsQ, Json.getD, hall, Json.truthy], ?_, fun r => ?_⟩
    · simp [hnone, Q.isEmpty]
    · simp [hnone, Q.holds]
  | none =>
    obtain ⟨q, hq, hempty, hholds⟩ :=
      dimensionsQ_of_valid env d organization hvalid ScopeDimension.all .empty
    refine ⟨q, by simp [scopeDimensionsQ, Json.getD, hall, Json.truthy, hq], ?_, fun r => ?_⟩
    · rw [hempty, List.eq_nil_iff_forall_not_mem]
      constructor
      · rintro ⟨-, hnone⟩ ⟨dimension, values⟩ hmem
        rw [mem_restrictions, hnone dimension dimension.mem_all] at hmem
        cases hmem.2
      · intro hnone
        refine ⟨rfl, fun dimension _ => Option.eq_none_iff_forall_ne_some.2 fun values hvalues => ?_⟩
        exact hnone (dimension, values) (mem_restrictions.2 ⟨hall, hvalues⟩)
    · rw [hholds]
      constructor
      · rintro ⟨-, hmatched⟩ ⟨dimension, values⟩ hmem
        exact hmatched dimension dimension.mem_all values (mem_restrictions.1 hmem).2
      · intro hmatched
        exact ⟨rfl, fun dimension _ values hvalues =>
          hmatched (dimension, values) (mem_restrictions.2 ⟨hall, hvalues⟩)⟩

/-- An expression with a date limit, if there is one. -/
theorem elim_conj_spec (limit : Option Time) (q : Q AuditRow) {f : Time → Q AuditRow}
    (hf : ∀ t, (f t).isEmpty = false) :
    ((limit.elim q fun t => q.conj (f t)).isEmpty = true ↔ q.isEmpty = true ∧ limit = none) ∧
      ∀ r, (limit.elim q fun t => q.conj (f t)).holds r = true ↔
        q.holds r = true ∧ ∀ t, limit = some t → (f t).holds r = true := by
  cases limit with
  | none => simp
  | some t => simp [hf]

theorem unrestricted_iff : Unrestricted env scope ↔
    ((restrictions scope = [] ∧ readLimit env scope "date_from" = none) ∧
      readLimit env scope "date_to" = none) ∧
        scope.get? "include_exceptions" ≠ some (.bool false) := by
  have hnone : ∀ key, readLimit env scope key = none ↔ ∀ text t,
      scope.get? key = some (.str text) → env.scopeDatetime text ≠ .ok (some t) := by
    intro key
    rw [Option.eq_none_iff_forall_ne_some]
    simp only [ne_eq, readLimit_eq_some, not_exists, not_and]
    exact forall_comm
  simp only [Unrestricted, hnone, List.forall_mem_cons, List.not_mem_nil, false_implies,
    implies_true, and_true, and_assoc]

/-- **The expression of a valid scope** is met by the changes that meet the scope. -/
theorem scopeToChangeQ_spec (d : AuditorDb) (organization : ℕ) (hvalid : ValidScope scope)
    (hparse : LimitsParse env scope) :
    ∃ q, scopeToChangeQ env d organization scope = .ok q ∧
      (q.isEmpty = true ↔ Unrestricted env scope) ∧
      ∀ x, (∃ r ∈ x.rows, q.holds r = true) ↔ Meets env d organization scope x := by
  obtain ⟨q, hq, hempty, hholds⟩ := scopeDimensions_spec env d organization hvalid
  obtain ⟨hemptyFrom, hholdsFrom⟩ := elim_conj_spec (f := auditDateGteQ)
    (readLimit env scope "date_from") q fun _ => rfl
  set qFrom := (readLimit env scope "date_from").elim q fun t => q.conj (auditDateGteQ t)
  obtain ⟨hemptyTo, hholdsTo⟩ := elim_conj_spec (f := auditDateLteQ)
    (readLimit env scope "date_to") qFrom fun _ => rfl
  set qTo := (readLimit env scope "date_to").elim qFrom fun t => qFrom.conj (auditDateLteQ t)
  have hresult : scopeToChangeQ env d organization scope =
      .ok (if scope.get? "include_exceptions" = some (.bool false) then
        qTo.conj ((Q.atom fun r => r.exception.isNone).conj
          (onChange fun x => x.freezeExceptionReference = "")) else qTo) := by
    rw [scopeToChangeQ, hq, ok_bind,
      parseScopeDatetime_of_valid hvalid hparse "date_from" (by simp), ok_bind,
      parseScopeDatetime_of_valid hvalid hparse "date_to" (by simp), ok_bind]
    rfl
  refine ⟨_, hresult, ?_, fun x => ?_⟩
  · rw [unrestricted_iff, ← hempty, ← hemptyFrom, ← hemptyTo]
    split_ifs with hexceptions
    · have hnever : ((Q.atom fun r : AuditRow => r.exception.isNone).conj
          (onChange fun x => x.freezeExceptionReference = "")).isEmpty = false := rfl
      rw [Q.isEmpty_conj, hnever, Bool.and_false]
      simp [hexceptions]
    · simp [hexceptions]
  · have hrow : ∀ r ∈ x.rows, (if scope.get? "include_exceptions" = some (.bool false) then
          qTo.conj ((Q.atom fun r => r.exception.isNone).conj
            (onChange fun x => x.freezeExceptionReference = "")) else qTo).holds r = true ↔
        (∀ restriction ∈ restrictions scope, ∃ value ∈ restriction.2,
          restriction.1.matches env d organization value r = true) ∧
        ReadLimits env scope x ∧ ExceptionLimit scope x := by
      intro r hr
      have hchange : r.change = x := (mem_rows.1 hr).1
      have hlimits : qTo.holds r = true ↔
          (∀ restriction ∈ restrictions scope, ∃ value ∈ restriction.2,
            restriction.1.matches env d organization value r = true) ∧ ReadLimits env scope x := by
        rw [hholdsTo, hholdsFrom, hholds, readLimits_iff, and_assoc]
        simp only [auditDateGteQ_spec, auditDateLteQ_spec, hchange]
      rw [ExceptionLimit, ← and_assoc, ← hlimits]
      split_ifs with hexceptions
      · simp [hexceptions, onChange, Q.holds, hchange, exception_isNone hr]
      · simp [hexceptions]
    constructor
    · rintro ⟨r, hr, hq⟩
      obtain ⟨hmatched, hlimits⟩ := (hrow r hr).1 hq
      exact ⟨⟨r, hr, hmatched⟩, hlimits⟩
    · rintro ⟨⟨r, hr, hmatched⟩, hlimits⟩
      exact ⟨r, hr, (hrow r hr).2 ⟨hmatched, hlimits⟩⟩

/-- Reading the limits raises when the expression cannot be built. -/
theorem limitsParse_of_ok (hvalid : ValidScope scope) {q : Q AuditRow}
    (h : scopeToChangeQ env d organization scope = .ok q) : LimitsParse env scope := by
  have hparse : ∀ key ∈ ["date_from", "date_to"],
      (∃ limit, parseScopeDatetime env (scope.getD key .null) = .ok limit) →
        ∀ text, scope.get? key = some (.str text) → ∃ limit, env.scopeDatetime text = .ok limit := by
    rintro key hkey ⟨limit, hlimit⟩ text hget
    obtain ⟨text', hne, htext⟩ := hvalid.dates key hkey _ hget
    cases htext
    have htext : pyStr env.toEnv (.str text) = text := rfl
    refine ⟨limit, ?_⟩
    simpa [parseScopeDatetime, Json.getD, hget, Json.truthy, hne, htext] using hlimit
  simp only [scopeToChangeQ, except_bind_ok] at h
  obtain ⟨_, -, dateFrom, hfrom, dateTo, hto, -⟩ := h
  intro key hkey
  refine hparse key hkey ?_
  simp only [List.mem_cons, List.not_mem_nil, or_false] at hkey
  rcases hkey with rfl | rfl
  · exact ⟨dateFrom, hfrom⟩
  · exact ⟨dateTo, hto⟩

-- ════════════════════════════════════════════════════════════════════════
-- The changes that an auditor sees
-- ════════════════════════════════════════════════════════════════════════

variable {user : String} {now : Time} {allowAdminBypass : Bool} {queryset : List AuditedChange}

/-- The grant is active for the user. -/
def AuditorDb.Grants (d : AuditorDb) (user : String) (organization : ℕ) (now : Time)
    (grant : AuditorAccessGrant) : Prop :=
  ∃ i, d.grants.get? i = some grant ∧ grant.isActiveAt user organization now = true

theorem scopedQ_some {grants : List (Loaded AuditorAccessGrant)}
    {expression : Loaded AuditorAccessGrant → Q AuditRow} {q : Q AuditRow}
    (h : ∀ grant ∈ grants,
      scopeToChangeQ env d organization grant.row.scope = .ok (expression grant)) :
    scopedQ env d organization grants (some q) =
      .ok (some ((grants.map expression).foldl .disj q)) := by
  induction grants generalizing q with
  | nil => rfl
  | cons grant grants ih =>
    rw [scopedQ, h grant List.mem_cons_self, ok_bind, Option.elim_some,
      ih fun g hg => h g (List.mem_cons_of_mem _ hg)]
    rfl

theorem scopedQ_none {grants : List (Loaded AuditorAccessGrant)}
    {expression : Loaded AuditorAccessGrant → Q AuditRow} (hne : grants ≠ [])
    (h : ∀ grant ∈ grants,
      scopeToChangeQ env d organization grant.row.scope = .ok (expression grant)) :
    scopedQ env d organization grants none = .ok (some (anyOf (grants.map expression))) := by
  cases grants with
  | nil => exact absurd rfl hne
  | cons grant grants =>
    rw [scopedQ, h grant List.mem_cons_self, ok_bind, Option.elim_none,
      scopedQ_some fun g hg => h g (List.mem_cons_of_mem _ hg)]
    simp [anyOf, Q.disj, Q.isEmpty]

/-- What the query shows: with a restricted grant only the restricted ones count. -/
def QueryShows (env : AuditorEnv) (d : AuditorDb) (user : String) (organization : ℕ) (now : Time)
    (x : AuditedChange) : Prop :=
  ((∃ grant, d.Grants user organization now grant) ∧
    ∀ grant, d.Grants user organization now grant → Unrestricted env grant.scope) ∨
  ∃ grant, d.Grants user organization now grant ∧ ¬Unrestricted env grant.scope ∧
    Meets env d organization grant.scope x

/-- **The query** of a member whose grants are valid. -/
theorem applyAuditorAccessScope_spec (queryset : List AuditedChange) (allowAdminBypass : Bool)
    (now : Time) (hmember : (d.membership user organization).isSome = true)
    (hadmin : isAdminMember d user organization = false)
    (hvalid : ∀ grant, d.Grants user organization now grant →
      ValidScope grant.scope ∧ LimitsParse env grant.scope) :
    ∃ shown, applyAuditorAccessScope env d queryset (some user) organization allowAdminBypass now =
        .ok shown ∧
      ∀ x, x ∈ shown ↔ x ∈ queryset ∧ x.row.organization = organization ∧
        QueryShows env d user organization now x := by
  set grants := Ranked.rank (fun grant : Loaded AuditorAccessGrant =>
    toLex (grant.row.createdAt, grant.id))
    (rowsWhere d.grants fun grant => grant.isActiveAt user organization now) with hgrants
  have hmem : ∀ grant : Loaded AuditorAccessGrant, grant ∈ grants ↔
      d.grants.get? grant.id = some grant.row ∧
        grant.row.isActiveAt user organization now = true := fun grant => by
    rw [hgrants, Ranked.mem_rank]
    exact mem_rowsWhere
  have hactive : ∀ grant ∈ grants, d.Grants user organization now grant.row := fun grant hg =>
    ⟨grant.id, (hmem grant).1 hg⟩
  have hget : getActiveAuditorGrants d (some user) organization now = .ok grants := by
    simp only [getActiveAuditorGrants]
    rw [if_neg (by simp [Option.isSome_iff_ne_none.1 hmember])]
  rw [applyAuditorAccessScope]
  simp only [Option.any_some, hadmin, Bool.and_false, Bool.false_eq_true, if_false, hget, ok_bind]
  by_cases hnone : grants = []
  · refine ⟨[], by simp [hnone, pure, Except.pure], fun x => ?_⟩
    have hno : ∀ grant, ¬d.Grants user organization now grant := by
      rintro grant ⟨i, hi⟩
      have hi : (⟨i, grant⟩ : Loaded AuditorAccessGrant) ∈ grants := (hmem ⟨i, grant⟩).2 hi
      rw [hnone] at hi
      cases hi
    simp [QueryShows, hno]
  · choose! expression hexpression hempty hmeets using fun (grant : Loaded AuditorAccessGrant)
      (hg : grant ∈ grants) => scopeToChangeQ_spec d organization
        (hvalid _ (hactive grant hg)).1 (hvalid _ (hactive grant hg)).2
    rw [if_neg (by simpa using hnone), scopedQ_none hnone hexpression, ok_bind]
    refine ⟨_, rfl, fun x => ?_⟩
    have hshows : (x.rows.any (anyOf (grants.map expression)).holds) = true ↔
        QueryShows env d user organization now x := by
      have hgrant : ∀ grant, d.Grants user organization now grant →
          ∃ loaded ∈ grants, loaded.row = grant := by
        rintro grant ⟨i, hi⟩
        exact ⟨⟨i, grant⟩, (hmem ⟨i, grant⟩).2 hi, rfl⟩
      rw [List.any_eq_true]
      constructor
      · rintro ⟨r, hr, hholds⟩
        rcases holds_anyOf.1 hholds with hall | ⟨_, hq, hne, hq'⟩
        · obtain ⟨grant, hg⟩ := List.exists_mem_of_ne_nil grants hnone
          refine .inl ⟨⟨grant.row, hactive grant hg⟩, fun grant hgranted => ?_⟩
          obtain ⟨loaded, hloaded, rfl⟩ := hgrant grant hgranted
          exact (hempty loaded hloaded).1 (hall _ (List.mem_map_of_mem hloaded))
        · obtain ⟨grant, hg, rfl⟩ := List.mem_map.1 hq
          refine .inr ⟨grant.row, hactive grant hg, fun hunrestricted => ?_,
            (hmeets grant hg x).1 ⟨r, hr, hq'⟩⟩
          rw [(hempty grant hg).2 hunrestricted] at hne
          cases hne
      · rintro (⟨-, hall⟩ | ⟨grant, hgranted, hrestricted, hmeet⟩)
        · obtain ⟨r, hr⟩ := exists_row x
          refine ⟨r, hr, holds_anyOf.2 (.inl fun q hq => ?_)⟩
          obtain ⟨grant, hg, rfl⟩ := List.mem_map.1 hq
          exact (hempty grant hg).2 (hall _ (hactive grant hg))
        · obtain ⟨loaded, hloaded, rfl⟩ := hgrant grant hgranted
          obtain ⟨r, hr, hholds⟩ := (hmeets loaded hloaded x).2 hmeet
          refine ⟨r, hr, holds_anyOf.2 (.inr ⟨_, List.mem_map_of_mem hloaded, ?_, hholds⟩)⟩
          exact Bool.eq_false_iff.2 fun h => hrestricted ((hempty loaded hloaded).1 h)
    simp only [List.mem_filter, hshows, decide_eq_true_eq, and_assoc]

-- ════════════════════════════════════════════════════════════════════════
-- Exactness
-- ════════════════════════════════════════════════════════════════════════

/-- Whatever grants with scopes of the pool are active, the query shows the change exactly when
one of them admits it. -/
def ScopeExact (env : AuditorEnv) (d : AuditorDb) (user : String) (organization : ℕ)
    (allowAdminBypass : Bool) (now : Time) (pool : List Json) (x : AuditedChange) : Prop :=
  ∀ grants : Table AuditorAccessGrant,
    (∀ i grant, grants.get? i = some grant → grant.isActiveAt user organization now = true →
      grant.scope ∈ pool) →
    ∀ queryset, x ∈ queryset →
      ∃ shown, applyAuditorAccessScope env { d with grants } queryset (some user) organization
          allowAdminBypass now = .ok shown ∧
        (x ∈ shown ↔ x.row.organization = organization ∧
          ∃ i grant, grants.get? i = some grant ∧
            grant.isActiveAt user organization now = true ∧
            Admits env d organization grant.scope x)

/-- The stated limits are read, one joined row has the values, and no scope without restriction
is joined with a restricted one that the change does not meet. -/
structure ScopesFit (env : AuditorEnv) (d : AuditorDb) (organization : ℕ) (pool : List Json)
    (x : AuditedChange) : Prop where
  parse : ∀ scope ∈ pool, LimitsParse env scope
  read : x.row.organization = organization → ∀ scope ∈ pool,
    Meets env d organization scope x → LimitsRead env scope
  joint : x.row.organization = organization → ∀ scope ∈ pool,
    Admits env d organization scope x → JointlyMatched env d organization scope x
  mixed : x.row.organization = organization → ∀ free ∈ pool, Unrestricted env free →
    ∀ scope ∈ pool, ¬Unrestricted env scope → Meets env d organization scope x

theorem Unrestricted.meets (h : Unrestricted env scope) : Meets env d organization scope x := by
  obtain ⟨hnone, hlimits, hexceptions⟩ := h
  obtain ⟨r, hr⟩ := exists_row x
  refine ⟨⟨r, hr, by simp [hnone]⟩, ⟨fun text t hget hread => ?_, fun text t hget hread => ?_⟩,
    fun h => absurd h hexceptions⟩
  · exact absurd hread (hlimits "date_from" (by simp) text t hget)
  · exact absurd hread (hlimits "date_to" (by simp) text t hget)

/-- A query that answers has built the expression of each grant. -/
theorem scopeToChangeQ_of_scopedQ {grants : List (Loaded AuditorAccessGrant)}
    {q result : Option (Q AuditRow)} (h : scopedQ env d organization grants q = .ok result) :
    ∀ grant ∈ grants, ∃ q, scopeToChangeQ env d organization grant.row.scope = .ok q := by
  induction grants generalizing q with
  | nil => simp
  | cons grant grants ih =>
    simp only [scopedQ, except_bind_ok] at h
    obtain ⟨first, hfirst, hrest⟩ := h
    rintro g hg
    rcases List.mem_cons.1 hg with rfl | hg
    · exact ⟨first, hfirst⟩
    · exact ih hrest g hg

theorem scopeToChangeQ_of_apply {shown : List AuditedChange}
    (hmember : (d.membership user organization).isSome = true)
    (hadmin : isAdminMember d user organization = false)
    (h : applyAuditorAccessScope env d queryset (some user) organization allowAdminBypass now =
      .ok shown) {grant : AuditorAccessGrant} (hgrant : d.Grants user organization now grant) :
    ∃ q, scopeToChangeQ env d organization grant.scope = .ok q := by
  obtain ⟨i, hi, hactive⟩ := hgrant
  rw [applyAuditorAccessScope] at h
  simp only [Option.any_some, hadmin, Bool.and_false, Bool.false_eq_true, if_false,
    getActiveAuditorGrants] at h
  rw [if_neg (by simp [Option.isSome_iff_ne_none.1 hmember]), ok_bind] at h
  have hmem : (⟨i, grant⟩ : Loaded AuditorAccessGrant) ∈
      Ranked.rank (fun grant : Loaded AuditorAccessGrant => toLex (grant.row.createdAt, grant.id))
        (rowsWhere d.grants fun grant => grant.isActiveAt user organization now) :=
    (Ranked.mem_rank _).2 (mem_rowsWhere.2 ⟨hi, hactive⟩)
  rw [if_neg (by simpa using List.ne_nil_of_mem hmem)] at h
  simp only [except_bind_ok] at h
  obtain ⟨_, hscoped, -⟩ := h
  exact scopeToChangeQ_of_scopedQ hscoped ⟨i, grant⟩ hmem

/-- Active grants with the scopes. -/
def grantsOf (user : String) (organization : ℕ) (scopes : List Json) : Table AuditorAccessGrant :=
  ⟨scopes.map fun scope => { organization, user, scope, createdAt := 0 }⟩

theorem grantsOf_grants {scopes : List Json} {grant : AuditorAccessGrant} :
    AuditorDb.Grants { d with grants := grantsOf user organization scopes } user organization now
        grant ↔
      ∃ scope ∈ scopes, grant = { organization, user, scope, createdAt := 0 } := by
  constructor
  · rintro ⟨i, hi, -⟩
    obtain ⟨scope, hscope, rfl⟩ := List.mem_map.1 (List.mem_of_getElem? hi)
    exact ⟨scope, hscope, rfl⟩
  · rintro ⟨scope, hscope, rfl⟩
    obtain ⟨i, hi⟩ := List.mem_iff_getElem?.1 (List.mem_map_of_mem (f := fun scope =>
      ({ organization, user, scope, createdAt := 0 } : AuditorAccessGrant)) hscope)
    exact ⟨i, hi, by simp [AuditorAccessGrant.isActiveAt]⟩

/-- The query with grants of some scopes of the pool. -/
theorem ScopeExact.of_scopes {pool : List Json} (scopes : List Json)
    (h : ScopeExact env d user organization allowAdminBypass now pool x)
    (hmember : (d.membership user organization).isSome = true)
    (hadmin : isAdminMember d user organization = false)
    (hvalid : ∀ scope ∈ pool, ValidScope scope) (hscopes : ∀ scope ∈ scopes, scope ∈ pool) :
    (∀ scope ∈ scopes, LimitsParse env scope) ∧
      (x.row.organization = organization →
        ((scopes ≠ [] ∧ ∀ scope ∈ scopes, Unrestricted env scope) ∨
            (∃ scope ∈ scopes, ¬Unrestricted env scope ∧ Meets env d organization scope x) ↔
          ∃ scope ∈ scopes, Admits env d organization scope x)) := by
  set d' : AuditorDb := { d with grants := grantsOf user organization scopes } with hd'
  have hgrants : ∀ grant, d'.Grants user organization now grant ↔
      ∃ scope ∈ scopes, grant = { organization, user, scope, createdAt := 0 } :=
    fun grant => grantsOf_grants
  obtain ⟨shown, hshown, hiff⟩ := h (grantsOf user organization scopes)
    (fun i grant hi hactive => by
      obtain ⟨scope, hscope, rfl⟩ := (hgrants grant).1 ⟨i, hi, hactive⟩
      exact hscopes scope hscope) [x] List.mem_cons_self
  have hparse : ∀ scope ∈ scopes, LimitsParse env scope := by
    intro scope hscope
    obtain ⟨q, hq⟩ := scopeToChangeQ_of_apply (d := d') hmember hadmin hshown
      ((hgrants _).2 ⟨scope, hscope, rfl⟩)
    exact limitsParse_of_ok (hvalid scope (hscopes scope hscope)) hq
  refine ⟨hparse, fun horg => ?_⟩
  obtain ⟨shown', hshown', hspec⟩ := applyAuditorAccessScope_spec (d := d') [x]
    allowAdminBypass now hmember hadmin fun grant hgrant => by
      obtain ⟨scope, hscope, rfl⟩ := (hgrants grant).1 hgrant
      exact ⟨hvalid scope (hscopes scope hscope), hparse scope hscope⟩
  cases hshown.symm.trans hshown'
  have hquery : QueryShows env d' user organization now x ↔
      (scopes ≠ [] ∧ ∀ scope ∈ scopes, Unrestricted env scope) ∨
        ∃ scope ∈ scopes, ¬Unrestricted env scope ∧ Meets env d organization scope x := by
    refine or_congr (and_congr ?_ ?_) ?_
    · constructor
      · rintro ⟨grant, hgrant⟩
        obtain ⟨scope, hscope, -⟩ := (hgrants grant).1 hgrant
        exact List.ne_nil_of_mem hscope
      · intro hne
        obtain ⟨scope, hscope⟩ := List.exists_mem_of_ne_nil scopes hne
        exact ⟨_, (hgrants _).2 ⟨scope, hscope, rfl⟩⟩
    · constructor
      · exact fun hall scope hscope => hall _ ((hgrants _).2 ⟨scope, hscope, rfl⟩)
      · rintro hall grant hgrant
        obtain ⟨scope, hscope, rfl⟩ := (hgrants grant).1 hgrant
        exact hall scope hscope
    · constructor
      · rintro ⟨grant, hgrant, hboth⟩
        obtain ⟨scope, hscope, rfl⟩ := (hgrants grant).1 hgrant
        exact ⟨scope, hscope, hboth⟩
      · rintro ⟨scope, hscope, hboth⟩
        exact ⟨_, (hgrants _).2 ⟨scope, hscope, rfl⟩, hboth⟩
  have hadmits : (∃ i grant, (grantsOf user organization scopes).get? i = some grant ∧
      grant.isActiveAt user organization now = true ∧ Admits env d organization grant.scope x) ↔
        ∃ scope ∈ scopes, Admits env d organization scope x := by
    constructor
    · rintro ⟨i, grant, hi, hactive, hadmitted⟩
      obtain ⟨scope, hscope, rfl⟩ := (hgrants grant).1 ⟨i, hi, hactive⟩
      exact ⟨scope, hscope, hadmitted⟩
    · rintro ⟨scope, hscope, hadmitted⟩
      obtain ⟨i, hi, hactive⟩ := (hgrants _).2 ⟨scope, hscope, rfl⟩
      exact ⟨i, _, hi, hactive, hadmitted⟩
  rw [← hquery, ← hadmits]
  constructor
  · exact fun hshows => (hiff.1 ((hspec x).2 ⟨List.mem_cons_self, horg, hshows⟩)).2
  · exact fun hadmitted => ((hspec x).1 (hiff.2 ⟨horg, hadmitted⟩)).2.2

/-- **Auditor scope is exact** for every set of grants with scopes of the pool exactly when the
scopes fit the change. -/
theorem auditor_scope_exact_iff {pool : List Json}
    (hmember : (d.membership user organization).isSome = true)
    (hadmin : isAdminMember d user organization = false)
    (hvalid : ∀ scope ∈ pool, validateAuditorScope env scope = .ok ()) :
    ScopeExact env d user organization allowAdminBypass now pool x ↔
      ScopesFit env d organization pool x := by
  have hvalid : ∀ scope ∈ pool, ValidScope scope := fun scope hscope =>
    validScope_of_ok (hvalid scope hscope)
  constructor
  · intro h
    have hone : ∀ scope ∈ pool, LimitsParse env scope ∧ (x.row.organization = organization →
        (Meets env d organization scope x ↔ Admits env d organization scope x)) := by
      intro scope hscope
      obtain ⟨hparse, hexact⟩ := h.of_scopes [scope] hmember hadmin hvalid (by simpa)
      refine ⟨hparse scope List.mem_cons_self, fun horg => ?_⟩
      have hexact := hexact horg
      simp only [List.mem_singleton, forall_eq, exists_eq_left, ne_eq, List.cons_ne_self,
        not_false_eq_true, true_and] at hexact
      rw [← hexact]
      constructor
      · intro hmeets
        by_cases hfree : Unrestricted env scope
        · exact .inl hfree
        · exact .inr ⟨hfree, hmeets⟩
      · rintro (hfree | ⟨-, hmeets⟩)
        · exact hfree.meets
        · exact hmeets
    refine ⟨fun scope hscope => (hone scope hscope).1, fun horg scope hscope =>
      (meets_iff_admits.1 ((hone scope hscope).2 horg)).1, fun horg scope hscope =>
      (meets_iff_admits.1 ((hone scope hscope).2 horg)).2,
      fun horg free hfree hunrestricted scope hscope hrestricted => ?_⟩
    obtain ⟨-, hexact⟩ := h.of_scopes [free, scope] hmember hadmin hvalid
      (by simp [hfree, hscope])
    have hadmits : Admits env d organization free x :=
      ((hone free hfree).2 horg).1 hunrestricted.meets
    rcases (hexact horg).2 ⟨free, List.mem_cons_self, hadmits⟩ with ⟨-, hall⟩ |
      ⟨other, hother, hotherRestricted, hmeets⟩
    · exact absurd (hall scope (by simp)) hrestricted
    · simp only [List.mem_cons, List.not_mem_nil, or_false] at hother
      rcases hother with rfl | rfl
      · exact absurd hunrestricted hotherRestricted
      · exact hmeets
  · intro hfit grants hpool queryset hx
    set d' : AuditorDb := { d with grants }
    have hscope : ∀ grant, d'.Grants user organization now grant → grant.scope ∈ pool := by
      rintro grant ⟨i, hi, hactive⟩
      exact hpool i grant hi hactive
    obtain ⟨shown, hshown, hspec⟩ := applyAuditorAccessScope_spec (d := d') queryset
      allowAdminBypass now hmember hadmin fun grant hgrant => ⟨hvalid _ (hscope grant hgrant), hfit.parse _ (hscope grant hgrant)⟩
    refine ⟨shown, hshown, ?_⟩
    rw [hspec]
    constructor
    · rintro ⟨-, horg, hshows⟩
      refine ⟨horg, ?_⟩
      have hexact : ∀ grant, d'.Grants user organization now grant →
          Meets env d organization grant.scope x → Admits env d organization grant.scope x :=
        fun grant hgrant => (meets_iff_admits.2 ⟨hfit.read horg _ (hscope grant hgrant),
          hfit.joint horg _ (hscope grant hgrant)⟩).1
      rcases hshows with ⟨⟨grant, hgrant⟩, hall⟩ | ⟨grant, hgrant, -, hmeets⟩
      · exact ⟨_, grant, hgrant.choose_spec.1, hgrant.choose_spec.2,
          hexact grant hgrant (hall grant hgrant).meets⟩
      · exact ⟨_, grant, hgrant.choose_spec.1, hgrant.choose_spec.2, hexact grant hgrant hmeets⟩
    · rintro ⟨horg, i, grant, hi, hactive, hadmitted⟩
      refine ⟨hx, horg, ?_⟩
      have hgrant : d'.Grants user organization now grant := ⟨i, hi, hactive⟩
      have hmeets : Meets env d organization grant.scope x :=
        (meets_iff_admits.2 ⟨hfit.read horg _ (hscope grant hgrant),
          hfit.joint horg _ (hscope grant hgrant)⟩).2 hadmitted
      by_cases hfree : Unrestricted env grant.scope
      · by_cases hall : ∀ other, d'.Grants user organization now other →
          Unrestricted env other.scope
        · exact .inl ⟨⟨grant, hgrant⟩, hall⟩
        · push Not at hall
          obtain ⟨other, hother, hrestricted⟩ := hall
          exact .inr ⟨other, hother, hrestricted, hfit.mixed horg _ (hscope grant hgrant) hfree _
            (hscope other hother) hrestricted⟩
      · exact .inr ⟨grant, hgrant, hfree, hmeets⟩

/-- Functions from outside, for runs. -/
def AuditorEnv.sample : AuditorEnv :=
  { Env.sample with
    scopeDatetime := fun text => .ok (if text = "1970-01-01T00:01:00+00:00" then some 60 else none)
    uuid? := String.toNat? }

/-- A member of an organization who is no admin. -/
def auditorDb : AuditorDb where
  memberships := ⟨[{ organization := 0, user := "auditor", role := .viewer }]⟩

/-- A draft with a high risk. -/
def AuditedChange.sample : AuditedChange where
  row := { organization := 0, operationProfile := 0, workflow := 0, title := "Restart" }
  createdAt := 100
  riskLevel := "high"

/-- The scope of everything. -/
def everything : Json := .obj [("all", .bool true)]

/-- The scope of the closed changes. -/
def closedOnly : Json := .obj [("statuses", .arr [.str "closed"])]

/-- The scope of the changes with a high risk since a minute after midnight. -/
def riskySince : Json :=
  .obj [("risk_levels", .arr [.str "high"]), ("date_from", .str "1970-01-01T00:01:00+00:00")]

theorem auditor_scope_exact_sample :
    ScopeExact .sample auditorDb "auditor" 0 false 0 [closedOnly, riskySince] .sample ↔
      ScopesFit .sample auditorDb 0 [closedOnly, riskySince] .sample :=
  auditor_scope_exact_iff (by decide) (by decide) (by decide)

/-- With a grant of everything, a second grant hides the change. -/
theorem unrestricted_grant_hides :
    (∀ scope ∈ [everything, closedOnly], validateAuditorScope .sample scope = .ok ()) ∧
      ¬ScopeExact .sample auditorDb "auditor" 0 false 0 [everything, closedOnly] .sample := by
  refine ⟨by decide, fun h => ?_⟩
  obtain ⟨shown, hshown, hiff⟩ := h (grantsOf "auditor" 0 [everything, closedOnly])
    (fun i grant hi _ => by
      obtain ⟨scope, hscope, rfl⟩ := List.mem_map.1 (List.mem_of_getElem? hi)
      exact hscope) [.sample] List.mem_cons_self
  have hnone : ((applyAuditorAccessScope .sample
      { auditorDb with grants := grantsOf "auditor" 0 [everything, closedOnly] } [.sample]
      (some "auditor") 0 false 0).toOption.map List.length) = some 0 := by decide
  have hempty : shown = [] := by
    rw [hshown] at hnone
    simpa [Except.toOption] using hnone
  have hadmits : Admits .sample auditorDb 0 everything .sample :=
    ⟨by simp [restrictions, everything, Json.get?, Json.fields],
      ⟨fun text hget => (nomatch hget), fun text hget => (nomatch hget)⟩, fun h => (nomatch h)⟩
  rw [hempty] at hiff
  exact List.not_mem_nil (hiff.2 ⟨rfl, 0, _, rfl, by decide, hadmits⟩)

end RunbookPlatform
