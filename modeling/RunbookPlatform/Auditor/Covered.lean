import RunbookPlatform.Auditor.Coverage
import RunbookPlatform.System

/-!
# The coverage of controls

Rules that name different controls are evaluated in one order, however they are listed, and each
of them has one row. The rows of a profile on a bundle are then those of its controls, and the
earlier rows of other controls, which are stale.

## Main definitions

- `DistinctControls` — no two rules name one control
- `MeetsRule`, `RequiresSome` — what covers a control
- `UniqueCoverages` — the unique constraint of the table
- `CoverageDefined` — what the rows say after a computation

## Main results

- `recompute_order` — the order of the rules does not matter
- `covered_iff` — when a control is covered
- `saveCoverages_ok` — the rows after the loop
- `control_coverage_defined` — the coverage of controls that no two rules name
-/

namespace RunbookPlatform

open Transactional

variable {env : Env} {bundle : CoveredBundle} {profile : Loaded ControlMappingProfile}
  {rule : Json} {rules rules' : List Json} {now : Time} {computedBy : Option String}
  {t t' : Table ChangeControlCoverage}

-- ════════════════════════════════════════════════════════════════════════
-- The order of the rules
-- ════════════════════════════════════════════════════════════════════════

/-- No two rules with a control name the same, up to blanks around it. -/
def DistinctControls (env : Env) (rules : List Json) : Prop :=
  ((effectiveRules rules).map (ruleControlId env)).Nodup

instance : Decidable (DistinctControls env rules) :=
  inferInstanceAs (Decidable (List.Nodup _))

/-- Rules with distinct controls are ordered in one way. -/
theorem orderedRules_perm (hdistinct : DistinctControls env rules) (hperm : rules'.Perm rules) :
    orderedRules env rules' = orderedRules env rules := by
  refine Ranked.rank_eq_of_perm (fun a ha b hb hab => ?_) (hperm.filter _)
  refine List.inj_on_of_nodup_map hdistinct ha hb ?_
  rw [ruleControlId, ruleControlId, hab]

/-- The controls of the ordered rules are those of the rules. -/
theorem orderedRules_controls : ((orderedRules env rules).map (ruleControlId env)).Perm
    ((effectiveRules rules).map (ruleControlId env)) :=
  (Ranked.perm_rank _ _).map _

/-- **The order of the rules** does not matter. -/
theorem recompute_order {profile' : Loaded ControlMappingProfile}
    (hrules : profile.row.mappingRules = .arr rules) (hdistinct : DistinctControls env rules)
    (hperm : rules'.Perm rules)
    (hprofile : profile' = ⟨profile.id, { profile.row with mappingRules := .arr rules' }⟩) :
    recomputeControlCoverage env bundle profile' now computedBy t =
      recomputeControlCoverage env bundle profile now computedBy t := by
  have hresult (rule : Json) : ruleResult env bundle profile' rule =
      ruleResult env bundle profile rule := by
    subst hprofile
    rfl
  have hrow (result : CoverageResult) : coverageRow bundle profile' now computedBy result =
      coverageRow bundle profile now computedBy result := by
    subst hprofile
    rfl
  have hcompute : computeCoverageResults env bundle profile' =
      computeCoverageResults env bundle profile := by
    have hinputs : validateCoverageInputs bundle profile' =
        validateCoverageInputs bundle profile := by
      subst hprofile
      rfl
    have hrules' : profile'.row.mappingRules = .arr rules' := by
      subst hprofile
      rfl
    rw [computeCoverageResults, computeCoverageResults, hinputs, hrules, hrules']
    simp only [Json.iterate?, orderedRules_perm hdistinct hperm, funext hresult]
  have hid : profile'.id = profile.id := by
    subst hprofile
    rfl
  rw [recomputeControlCoverage, recomputeControlCoverage, hcompute, hid]
  simp only [funext hrow]

-- ════════════════════════════════════════════════════════════════════════
-- One rule
-- ════════════════════════════════════════════════════════════════════════

theorem mem_sortedSet {text : String} {texts : List String} :
    text ∈ sortedSet texts ↔ text ∈ texts := by
  rw [sortedSet, Ranked.mem_rank, List.mem_dedup]

theorem sortedSet_eq_nil {texts : List String} : sortedSet texts = [] ↔ texts = [] := by
  simp only [List.eq_nil_iff_forall_not_mem, mem_sortedSet]

/-- What a requirement finds. -/
theorem itemsFor_ne_nil {fits : EvidenceBundleItem → Bool} :
    itemsFor bundle fits ≠ [] ↔ ∃ item ∈ bundle.row.items,
      itemIsEligible (manifestPaths bundle.row.manifest) item = true ∧ fits item = true := by
  have hmem (item : EvidenceBundleItem) : item ∈ itemsFor bundle fits ↔ item ∈ bundle.row.items ∧
      itemIsEligible (manifestPaths bundle.row.manifest) item = true ∧ fits item = true := by
    rw [itemsFor, List.mem_filter, orderedItems, Ranked.mem_rank, Bool.and_eq_true]
  constructor
  · intro h
    obtain ⟨item, hitem⟩ := List.exists_mem_of_ne_nil _ h
    exact ⟨item, (hmem item).1 hitem⟩
  · rintro ⟨item, hitem⟩
    exact List.ne_nil_of_mem ((hmem item).2 hitem)

/-- Requirements with one text are met by the same items. -/
theorem requirementsOf_inj {sections itemTypes : List String}
    {a b : String × (EvidenceBundleItem → Bool)} (ha : a ∈ requirementsOf sections itemTypes)
    (hb : b ∈ requirementsOf sections itemTypes) (hab : a.1 = b.1) : a = b := by
  have hfirst (x y : String) : "section:" ++ x ≠ "item_type:" ++ y := by
    intro h
    have hlists := congrArg String.toList h
    simp at hlists
  simp only [requirementsOf, List.mem_append, List.mem_map] at ha hb
  rcases ha with ⟨x, -, rfl⟩ | ⟨x, -, rfl⟩ <;> rcases hb with ⟨y, -, rfl⟩ | ⟨y, -, rfl⟩
  · rw [String.append_right_inj] at hab
    rw [hab]
  · exact absurd hab (hfirst x y)
  · exact absurd hab.symm (hfirst y x)
  · rw [String.append_right_inj] at hab
    rw [hab]

/-- The requirements of a rule are met. -/
theorem resultOf_covered {sections itemTypes : List String} {controlId controlTitle : String} :
    (resultOf bundle controlId controlTitle (requirementsOf sections itemTypes)).coverageStatus =
        .covered ↔
      requirementsOf sections itemTypes ≠ [] ∧
        ∀ requirement ∈ requirementsOf sections itemTypes, itemsFor bundle requirement.2 ≠ [] := by
  have hmissing : sortedSet (((requirementsOf sections itemTypes).map (·.1)).filter
      (· ∉ ((requirementsOf sections itemTypes).filter fun requirement =>
        itemsFor bundle requirement.2 ≠ []).map (·.1))) = [] ↔
      ∀ requirement ∈ requirementsOf sections itemTypes, itemsFor bundle requirement.2 ≠ [] := by
    rw [sortedSet_eq_nil, List.filter_eq_nil_iff]
    constructor
    · intro h requirement hrequirement
      have hmet := h requirement.1 (List.mem_map_of_mem hrequirement)
      simp only [decide_eq_true_eq, not_not, List.mem_map, List.mem_filter] at hmet
      obtain ⟨other, ⟨hother, hfound⟩, htext⟩ := hmet
      rwa [requirementsOf_inj hrequirement hother htext.symm]
    · intro h text htext
      obtain ⟨requirement, hrequirement, rfl⟩ := List.mem_map.1 htext
      simp only [decide_eq_true_eq, not_not, List.mem_map, List.mem_filter]
      exact ⟨requirement, ⟨hrequirement, h requirement hrequirement⟩, rfl⟩
  unfold resultOf
  dsimp only
  by_cases hempty : requirementsOf sections itemTypes = []
  · simp [hempty]
  · rw [if_neg hempty]
    by_cases hmet : ∀ requirement ∈ requirementsOf sections itemTypes,
        itemsFor bundle requirement.2 ≠ []
    · rw [if_pos (hmissing.2 hmet)]
      exact ⟨fun _ => ⟨hempty, hmet⟩, fun _ => rfl⟩
    · rw [if_neg (mt hmissing.1 hmet)]
      constructor
      · intro h
        split_ifs at h
      · exact fun h => absurd h.2 hmet

/-- An item of the bundle that is present, valid and listed in the manifest. -/
def Provides (bundle : CoveredBundle) (fits : EvidenceBundleItem → Prop) : Prop :=
  ∃ item ∈ bundle.row.items,
    itemIsEligible (manifestPaths bundle.row.manifest) item = true ∧ fits item

/-- The rule applies, the bundle is complete, and it provides every section and every item type
that the rule requires. -/
def MeetsRule (env : Env) (bundle : CoveredBundle) (rule : Json) : Prop :=
  ruleApplies rule bundle = .ok true ∧ bundle.row.completenessStatus = .complete ∧
    ∃ sections itemTypes, ruleTexts env rule "required_sections" = .ok sections ∧
      ruleTexts env rule "required_item_types" = .ok itemTypes ∧
      (∀ name ∈ sections,
        Provides bundle fun item => sectionFromPath item.canonicalPath = name) ∧
      ∀ name ∈ itemTypes, Provides bundle fun item => item.itemType.value = name

/-- The rule requires a section or an item type. -/
def RequiresSome (env : Env) (rule : Json) : Prop :=
  ruleTexts env rule "required_sections" ≠ .ok [] ∨
    ruleTexts env rule "required_item_types" ≠ .ok []

/-- All requirements are met when all sections and all item types are. -/
theorem requirementsOf_met {sections itemTypes : List String} :
    (∀ requirement ∈ requirementsOf sections itemTypes, itemsFor bundle requirement.2 ≠ []) ↔
      (∀ name ∈ sections,
        Provides bundle fun item => sectionFromPath item.canonicalPath = name) ∧
      ∀ name ∈ itemTypes, Provides bundle fun item => item.itemType.value = name := by
  simp only [itemsFor_ne_nil, requirementsOf, List.mem_append, List.mem_map, Provides]
  constructor
  · intro h
    refine ⟨fun name hname => ?_, fun name hname => ?_⟩
    · obtain ⟨item, hitem, heligible, hfits⟩ := h _ (.inl ⟨name, hname, rfl⟩)
      exact ⟨item, hitem, heligible, of_decide_eq_true hfits⟩
    · obtain ⟨item, hitem, heligible, hfits⟩ := h _ (.inr ⟨name, hname, rfl⟩)
      exact ⟨item, hitem, heligible, of_decide_eq_true hfits⟩
  · rintro ⟨hsections, htypes⟩ requirement (⟨name, hname, rfl⟩ | ⟨name, hname, rfl⟩)
    · obtain ⟨item, hitem, heligible, hfits⟩ := hsections name hname
      exact ⟨item, hitem, heligible, decide_eq_true hfits⟩
    · obtain ⟨item, hitem, heligible, hfits⟩ := htypes name hname
      exact ⟨item, hitem, heligible, decide_eq_true hfits⟩

/-- **A control is covered** when its rule applies, the bundle is complete, and the rule requires
something, all of which the bundle provides. -/
theorem covered_iff {result : CoverageResult}
    (h : ruleResult env bundle profile rule = .ok result) :
    result.coverageStatus = .covered ↔ MeetsRule env bundle rule ∧ RequiresSome env rule := by
  rw [ruleResult, except_bind_ok] at h
  obtain ⟨unsigned, h, hsigned⟩ := h
  cases hsigned
  rw [unsignedResult, except_bind_ok] at h
  obtain ⟨applies, happlies, h⟩ := h
  change unsigned.coverageStatus = .covered ↔ _
  cases applies with
  | false =>
    cases h
    constructor
    · rintro ⟨⟩
    · rintro ⟨⟨happlies', -⟩, -⟩
      rw [happlies] at happlies'
      cases happlies'
  | true =>
    rw [if_pos rfl] at h
    by_cases hcomplete : bundle.row.completenessStatus = .complete
    · rw [if_pos hcomplete, computeRuleResult] at h
      simp only [except_bind_ok] at h
      obtain ⟨sections, hsections, itemTypes, htypes, h⟩ := h
      cases h
      rw [resultOf_covered, requirementsOf_met]
      have hsome : requirementsOf sections itemTypes ≠ [] ↔ RequiresSome env rule := by
        simp only [RequiresSome, hsections, htypes, requirementsOf, ne_eq, Except.ok.injEq,
          List.append_eq_nil_iff, List.map_eq_nil_iff, not_and_or]
      rw [hsome]
      constructor
      · rintro ⟨hrequires, hmet⟩
        exact ⟨⟨happlies, hcomplete, sections, itemTypes, hsections, htypes, hmet⟩, hrequires⟩
      · rintro ⟨⟨-, -, sections', itemTypes', hsections', htypes', hmet⟩, hrequires⟩
        rw [hsections] at hsections'
        rw [htypes] at htypes'
        cases hsections'
        cases htypes'
        exact ⟨hrequires, hmet⟩
    · rw [if_neg hcomplete] at h
      cases h
      constructor
      · rintro ⟨⟩
      · rintro ⟨⟨-, hcomplete', -⟩, -⟩
        exact absurd hcomplete' hcomplete

/-- A result names the control of its rule, and is not stale. -/
theorem ruleResult_control {result : CoverageResult}
    (h : ruleResult env bundle profile rule = .ok result) :
    result.controlId = ruleControlId env rule ∧ result.coverageStatus ≠ .stale := by
  rw [ruleResult, except_bind_ok] at h
  obtain ⟨unsigned, h, hsigned⟩ := h
  cases hsigned
  rw [unsignedResult, except_bind_ok] at h
  obtain ⟨applies, -, h⟩ := h
  change unsigned.controlId = _ ∧ unsigned.coverageStatus ≠ .stale
  split_ifs at h
  · rw [computeRuleResult] at h
    simp only [except_bind_ok] at h
    obtain ⟨sections, -, itemTypes, -, h⟩ := h
    cases h
    refine ⟨rfl, ?_⟩
    unfold resultOf
    dsimp only
    split_ifs <;> simp
  · cases h
    exact ⟨rfl, by simp⟩
  · cases h
    exact ⟨rfl, by simp⟩

-- ════════════════════════════════════════════════════════════════════════
-- The rows
-- ════════════════════════════════════════════════════════════════════════

/-- What the unique constraint compares. -/
def ChangeControlCoverage.key (row : ChangeControlCoverage) : ℕ × ℕ × String :=
  (row.evidenceBundle, row.mappingProfile, row.controlId)

theorem ChangeControlCoverage.hasKey_iff {row other : ChangeControlCoverage} :
    other.hasKey row.evidenceBundle row.mappingProfile row.controlId = true ↔
      other.key = row.key := by
  simp [hasKey, key, and_assoc]

/-- The unique constraint of the table. -/
def UniqueCoverages (t : Table ChangeControlCoverage) : Prop :=
  ∀ i j row other, t.get? i = some row → t.get? j = some other → row.key = other.key → i = j

/-- **One save** puts the row where its key is, or at the end. -/
theorem updateOrCreate_cases {row : ChangeControlCoverage}
    {coverage : Loaded ChangeControlCoverage}
    (h : updateOrCreate bundle row t = .ok (coverage, t')) :
    coverage.row = row ∧
      ((coverage.id = t.next ∧ t' = t.insert row ∧
          ∀ j old, t.get? j = some old → old.key ≠ row.key) ∨
        ∃ old, t.get? coverage.id = some old ∧ old.key = row.key ∧
          t' = t.modify coverage.id fun _ => row) := by
  rw [updateOrCreate, except_bind_ok] at h
  obtain ⟨_, -, h⟩ := h
  cases hfound : t.find? fun _ old =>
    old.hasKey row.evidenceBundle row.mappingProfile row.controlId with
  | none =>
    rw [hfound] at h
    cases h
    refine ⟨rfl, .inl ⟨rfl, rfl, fun j old hold hkey => ?_⟩⟩
    have hnot := Table.find?_none.1 hfound j old hold
    rw [ChangeControlCoverage.hasKey_iff.2 hkey] at hnot
    cases hnot
  | some found =>
    obtain ⟨i, old⟩ := found
    rw [hfound] at h
    cases h
    obtain ⟨hold, hkey⟩ := Table.find?_some hfound
    exact ⟨rfl, .inr ⟨old, hold, ChangeControlCoverage.hasKey_iff.1 hkey, rfl⟩⟩

/-- A save touches no row with another key. -/
theorem updateOrCreate_ok {row : ChangeControlCoverage} {coverage : Loaded ChangeControlCoverage}
    (hunique : UniqueCoverages t) (h : updateOrCreate bundle row t = .ok (coverage, t')) :
    coverage.row = row ∧ t'.get? coverage.id = some row ∧
      (∀ j later, t'.get? j = some later → j ≠ coverage.id →
        t.get? j = some later ∧ later.key ≠ row.key) ∧
      ∀ j old, t.get? j = some old → old.key ≠ row.key → t'.get? j = some old := by
  obtain ⟨hrow, ⟨hid, rfl, hfree⟩ | ⟨old, hold, hkey, rfl⟩⟩ := updateOrCreate_cases h
  · rw [hid]
    refine ⟨hrow, Table.get?_insert_next _ _, fun j later hlater hj => ?_,
      fun j old hold _ => Table.get?_insert_of_some _ hold⟩
    rw [Table.get?_insert, if_neg hj] at hlater
    exact ⟨hlater, hfree j later hlater⟩
  · refine ⟨hrow, ?_, fun j later hlater hj => ?_, fun j other hother hne => ?_⟩
    · rw [Table.get?_modify_self, hold, Option.map_some]
    · rw [Table.get?_modify_of_ne hj] at hlater
      refine ⟨hlater, fun hsame => hj ?_⟩
      exact hunique j coverage.id later old hlater hold (hsame.trans hkey.symm)
    · rw [Table.get?_modify_of_ne (fun hj => hne ?_), hother]
      rw [hj, hold] at hother
      cases hother
      exact hkey

/-- A save keeps the constraint. -/
theorem updateOrCreate_unique {row : ChangeControlCoverage}
    {coverage : Loaded ChangeControlCoverage} (hunique : UniqueCoverages t)
    (h : updateOrCreate bundle row t = .ok (coverage, t')) : UniqueCoverages t' := by
  obtain ⟨-, hsaved, hothers, -⟩ := updateOrCreate_ok hunique h
  intro i j a b ha hb hab
  by_cases hi : i = coverage.id
  · by_cases hj : j = coverage.id
    · rw [hi, hj]
    · rw [hi, hsaved] at ha
      cases ha
      exact absurd hab.symm (hothers j b hb hj).2
  · obtain ⟨ha', hne⟩ := hothers i a ha hi
    by_cases hj : j = coverage.id
    · rw [hj, hsaved] at hb
      cases hb
      exact absurd hab hne
    · exact hunique i j a b ha' (hothers j b hb hj).1 hab

/-- A save leaves each key where it is. -/
theorem updateOrCreate_keys {row : ChangeControlCoverage}
    {coverage : Loaded ChangeControlCoverage} (h : updateOrCreate bundle row t = .ok (coverage, t'))
    {j : ℕ} {old : ChangeControlCoverage} (hold : t.get? j = some old) :
    ∃ later, t'.get? j = some later ∧ later.key = old.key := by
  obtain ⟨-, ⟨-, rfl, -⟩ | ⟨other, hother, hkey, rfl⟩⟩ := updateOrCreate_cases h
  · exact ⟨old, Table.get?_insert_of_some _ hold, rfl⟩
  · by_cases hj : j = coverage.id
    · rw [hj, hother] at hold
      cases hold
      exact ⟨row, by rw [hj, Table.get?_modify_self, hother, Option.map_some], hkey.symm⟩
    · exact ⟨old, by rw [Table.get?_modify_of_ne hj, hold], rfl⟩

theorem saveCoverages_keys {rows : List ChangeControlCoverage}
    {coverages : List (Loaded ChangeControlCoverage)}
    (h : saveCoverages bundle rows t = .ok (coverages, t')) {j : ℕ} {old : ChangeControlCoverage}
    (hold : t.get? j = some old) : ∃ later, t'.get? j = some later ∧ later.key = old.key := by
  induction rows generalizing t coverages old with
  | nil =>
    cases h
    exact ⟨old, hold, rfl⟩
  | cons row rows ih =>
    rw [saveCoverages, except_bind_ok] at h
    obtain ⟨⟨coverage, t1⟩, hsave, h⟩ := h
    simp only [except_bind_ok] at h
    obtain ⟨⟨rest, t2⟩, hrest, h⟩ := h
    cases h
    obtain ⟨middle, hmiddle, hkey⟩ := updateOrCreate_keys hsave hold
    obtain ⟨later, hlater, hkey'⟩ := ih hrest hmiddle
    exact ⟨later, hlater, hkey'.trans hkey⟩

/-- **The loop** saves rows with different keys, and touches no other. -/
theorem saveCoverages_ok {rows : List ChangeControlCoverage}
    {coverages : List (Loaded ChangeControlCoverage)} (hunique : UniqueCoverages t)
    (hkeys : (rows.map (·.key)).Nodup) (h : saveCoverages bundle rows t = .ok (coverages, t')) :
    coverages.map (·.row) = rows ∧ UniqueCoverages t' ∧
      (∀ coverage ∈ coverages, t'.get? coverage.id = some coverage.row) ∧
      (∀ j later, t'.get? j = some later → later ∈ rows ∨
        t.get? j = some later ∧ ∀ row ∈ rows, later.key ≠ row.key) ∧
      ∀ j old, t.get? j = some old → (∀ row ∈ rows, old.key ≠ row.key) → t'.get? j = some old := by
  induction rows generalizing t coverages with
  | nil =>
    cases h
    exact ⟨rfl, hunique, by simp, fun j later hlater => .inr ⟨hlater, by simp⟩,
      fun j old hold _ => hold⟩
  | cons row rows ih =>
    rw [saveCoverages, except_bind_ok] at h
    obtain ⟨⟨coverage, t1⟩, hsave, h⟩ := h
    simp only [except_bind_ok] at h
    obtain ⟨⟨rest, t2⟩, hrest, h⟩ := h
    cases h
    rw [List.map_cons, List.nodup_cons] at hkeys
    obtain ⟨hnew, hkeys⟩ := hkeys
    obtain ⟨hrow, hsaved, hothers, hkept⟩ := updateOrCreate_ok hunique hsave
    obtain ⟨hrows, hunique', hsaves, hcases, hkept'⟩ :=
      ih (updateOrCreate_unique hunique hsave) hkeys hrest
    have hapart : ∀ other ∈ rows, row.key ≠ other.key := fun other hother hkey =>
      hnew (hkey ▸ List.mem_map_of_mem hother)
    refine ⟨by rw [List.map_cons, hrow, hrows], hunique', ?_, fun j later hlater => ?_,
      fun j old hold hne => ?_⟩
    · intro c hc
      rcases List.mem_cons.1 hc with rfl | hc
      · rw [hkept' c.id row hsaved hapart, hrow]
      · exact hsaves c hc
    · rcases hcases j later hlater with hmem | ⟨hlater1, hne⟩
      · exact .inl (List.mem_cons_of_mem _ hmem)
      · by_cases hj : j = coverage.id
        · rw [hj, hsaved] at hlater1
          cases hlater1
          exact .inl List.mem_cons_self
        · obtain ⟨hold, hother⟩ := hothers j later hlater1 hj
          exact .inr ⟨hold, List.forall_mem_cons.2 ⟨hother, hne⟩⟩
    · rw [List.forall_mem_cons] at hne
      exact hkept' j old (hkept j old hold hne.1) hne.2

/-- The results of a list of rules, one for each. -/
theorem forall₂_of_mapM {α β : Type} {f : α → Except Err β} {as : List α} {bs : List β}
    (h : as.mapM f = .ok bs) : List.Forall₂ (fun a b => f a = .ok b) as bs := by
  induction as generalizing bs with
  | nil =>
    cases h
    exact .nil
  | cons a as ih =>
    rw [List.mapM_cons] at h
    simp only [except_bind_ok] at h
    obtain ⟨b, hb, bs', hbs, h⟩ := h
    cases h
    exact .cons hb (ih hbs)

/-- Results name the controls of their rules. -/
theorem controls_of_forall₂ {results : List CoverageResult}
    (h : List.Forall₂ (fun rule result => ruleResult env bundle profile rule = .ok result)
      rules results) : results.map (·.controlId) = rules.map (ruleControlId env) := by
  induction h with
  | nil => rfl
  | cons hresult _ ih => rw [List.map_cons, List.map_cons, ih, (ruleResult_control hresult).1]

theorem exists_right_of_forall₂ {α β : Type} {R : α → β → Prop} {as : List α} {bs : List β} {a : α}
    (h : List.Forall₂ R as bs) (ha : a ∈ as) : ∃ b ∈ bs, R a b := by
  induction h with
  | nil => cases ha
  | cons hfirst _ ih =>
    rcases List.mem_cons.1 ha with rfl | ha
    · exact ⟨_, List.mem_cons_self, hfirst⟩
    · obtain ⟨b, hb, hR⟩ := ih ha
      exact ⟨b, List.mem_cons_of_mem _ hb, hR⟩

theorem exists_left_of_forall₂ {α β : Type} {R : α → β → Prop} {as : List α} {bs : List β} {b : β}
    (h : List.Forall₂ R as bs) (hb : b ∈ bs) : ∃ a ∈ as, R a b :=
  exists_right_of_forall₂ h.flip hb

/-- A row that the profile still has, or that is of another, is left alone. -/
theorem get?_markStale {controls : List String} {j : ℕ} {row : ChangeControlCoverage}
    (hrow : t.get? j = some row)
    (hkept : row.evidenceBundle = bundle.id → row.mappingProfile = profile.id →
      row.controlId ∈ controls) :
    (markStale bundle.id profile.id controls now computedBy t).get? j = some row := by
  rw [markStale, Table.get?_modifyWhere, hrow, Option.map_some, if_neg]
  simp only [Bool.and_eq_true, decide_eq_true_eq, Bool.not_eq_true', List.contains_iff_mem,
    Bool.eq_false_iff, ne_eq, not_and, not_not, and_imp]
  exact hkept

/-- A row after the last statement has the key it had before. -/
theorem get?_of_markStale {controls : List String} {j : ℕ} {later : ChangeControlCoverage}
    (hlater : (markStale bundle.id profile.id controls now computedBy t).get? j = some later) :
    ∃ row, t.get? j = some row ∧ row.key = later.key := by
  rw [markStale, Table.get?_modifyWhere, Option.map_eq_some_iff] at hlater
  obtain ⟨row, hrow, rfl⟩ := hlater
  refine ⟨row, hrow, ?_⟩
  split_ifs <;> rfl

/-- What is computed and saved for the rules, before the other rows are marked. -/
theorem recompute_cases {coverages : List (Loaded ChangeControlCoverage)}
    (hrules : profile.row.mappingRules = .arr rules)
    (h : recomputeControlCoverage env bundle profile now computedBy t = .ok (coverages, t')) :
    ∃ results t1,
      List.Forall₂ (fun rule result => ruleResult env bundle profile rule = .ok result)
        (orderedRules env rules) results ∧
      results.map (·.controlId) = (orderedRules env rules).map (ruleControlId env) ∧
      saveCoverages bundle (results.map (coverageRow bundle profile now computedBy)) t =
        .ok (coverages, t1) ∧
      t' = markStale bundle.id profile.id (results.map (·.controlId)) now computedBy t1 := by
  rw [recomputeControlCoverage, except_bind_ok] at h
  obtain ⟨results, hcompute, h⟩ := h
  rw [except_bind_ok] at h
  obtain ⟨⟨coverages', t1⟩, hsave, h⟩ := h
  cases h
  rw [computeCoverageResults, except_bind_ok, hrules] at hcompute
  obtain ⟨_, -, hresults⟩ := hcompute
  have hall := forall₂_of_mapM hresults
  exact ⟨results, t1, hall, controls_of_forall₂ hall, hsave, rfl⟩

/-- An accepted profile has a list of rules. -/
theorem validateMappingRules_list {value : Json} {u : Unit}
    (h : validateMappingRules env value = .ok u) : ∃ rules, value = .arr rules := by
  cases value with
  | arr rules => exact ⟨rules, rfl⟩
  | _ => cases h

/-- What the coverage of a profile's controls is, in a table of their rows: one row for each
control, with what is computed for its rule; and the other earlier rows are stale. -/
structure CoverageDefined (env : Env) (bundle : CoveredBundle)
    (profile : Loaded ControlMappingProfile) (now : Time) (computedBy : Option String)
    (rules : List Json) (t t' : Table ChangeControlCoverage)
    (coverages : List (Loaded ChangeControlCoverage)) : Prop where
  /-- There is exactly one coverage for each control. -/
  once : (coverages.map (·.row.controlId)).Nodup
  controls : ∀ controlId, controlId ∈ coverages.map (·.row.controlId) ↔
    ∃ rule ∈ effectiveRules rules, ruleControlId env rule = controlId
  /-- The coverages are the saved rows. -/
  saved : ∀ coverage ∈ coverages, t'.get? coverage.id = some coverage.row
  /-- The row of a control is the result that is computed for it. -/
  computed : ∀ rule ∈ effectiveRules rules, ∃ result,
    ruleResult env bundle profile rule = .ok result ∧
      (result.coverageStatus = .covered ↔ MeetsRule env bundle rule ∧ RequiresSome env rule) ∧
      ∀ j later, t'.get? j = some later →
        later.key = (bundle.id, profile.id, ruleControlId env rule) →
        later = coverageRow bundle profile now computedBy result
  /-- The rows of other bundles and profiles stay. -/
  others : ∀ j old, t.get? j = some old →
    ¬(old.evidenceBundle = bundle.id ∧ old.mappingProfile = profile.id) → t'.get? j = some old
  /-- The rows of controls that the profile does not have become stale, and no other. -/
  stale : ∀ j old, t.get? j = some old → old.evidenceBundle = bundle.id →
    old.mappingProfile = profile.id → ∃ later, t'.get? j = some later ∧
      (later.coverageStatus = .stale ↔
        ∀ rule ∈ effectiveRules rules, ruleControlId env rule ≠ old.controlId)

/-- **One computation** defines the coverage of controls that no two rules name. -/
theorem recompute_defines {coverages : List (Loaded ChangeControlCoverage)}
    (hrules : profile.row.mappingRules = .arr rules) (hdistinct : DistinctControls env rules)
    (hunique : UniqueCoverages t)
    (h : recomputeControlCoverage env bundle profile now computedBy t = .ok (coverages, t')) :
    CoverageDefined env bundle profile now computedBy rules t t' coverages := by
  obtain ⟨results, t1, hall, hids, hsave, rfl⟩ := recompute_cases hrules h
  have hnodup : (results.map (·.controlId)).Nodup := by
    rw [hids]
    exact orderedRules_controls.nodup_iff.2 hdistinct
  have hmem (controlId : String) : controlId ∈ results.map (·.controlId) ↔
      ∃ rule ∈ effectiveRules rules, ruleControlId env rule = controlId := by
    rw [hids, orderedRules_controls.mem_iff, List.mem_map]
  have hkeys : ((results.map (coverageRow bundle profile now computedBy)).map (·.key)).Nodup := by
    rw [List.map_map]
    refine List.Nodup.of_map (fun key : ℕ × ℕ × String => key.2.2) ?_
    rw [List.map_map]
    exact hnodup
  obtain ⟨hrows, hunique1, hsaves, hcases, hkept⟩ := saveCoverages_ok hunique hkeys hsave
  have hcontrols : coverages.map (·.row.controlId) = results.map (·.controlId) := by
    have hmap := congrArg (List.map ChangeControlCoverage.controlId) hrows
    rw [List.map_map, List.map_map] at hmap
    exact hmap
  have hsaved (coverage : Loaded ChangeControlCoverage) (hcoverage : coverage ∈ coverages) :
      (markStale bundle.id profile.id (results.map (·.controlId)) now computedBy t1).get?
        coverage.id = some coverage.row := by
    refine get?_markStale (hsaves coverage hcoverage) fun _ _ => ?_
    rw [← hcontrols]
    exact List.mem_map_of_mem hcoverage
  refine ⟨hcontrols ▸ hnodup, fun controlId => hcontrols ▸ hmem controlId, hsaved, ?_, ?_, ?_⟩
  · intro rule hrule
    obtain ⟨result, hresult, hok⟩ := exists_right_of_forall₂ hall ((Ranked.mem_rank _).2 hrule)
    refine ⟨result, hok, covered_iff hok, fun j later hlater hkey => ?_⟩
    have hrow : coverageRow bundle profile now computedBy result ∈ coverages.map (·.row) :=
      hrows ▸ List.mem_map_of_mem hresult
    obtain ⟨coverage, hcoverage, hrow⟩ := List.mem_map.1 hrow
    have hkey' : coverage.row.key = (bundle.id, profile.id, ruleControlId env rule) := by
      rw [hrow, ← (ruleResult_control hok).1]
      rfl
    obtain ⟨row, hrow1, hrowkey⟩ := get?_of_markStale hlater
    have hj : j = coverage.id := hunique1 j coverage.id row coverage.row hrow1
      (hsaves coverage hcoverage) (hrowkey.trans (hkey.trans hkey'.symm))
    rw [hj, hsaved coverage hcoverage, hrow] at hlater
    exact (Option.some.inj hlater).symm
  · intro j old hold hother
    have hne : ∀ row ∈ results.map (coverageRow bundle profile now computedBy),
        old.key ≠ row.key := by
      intro row hrow hkey
      obtain ⟨result, -, rfl⟩ := List.mem_map.1 hrow
      exact hother ⟨congrArg (·.1) hkey, congrArg (·.2.1) hkey⟩
    exact get?_markStale (hkept j old hold hne) fun hbundle hprofile =>
      absurd ⟨hbundle, hprofile⟩ hother
  · intro j old hold hbundle hprofile
    have hgone : (∀ rule ∈ effectiveRules rules, ruleControlId env rule ≠ old.controlId) ↔
        old.controlId ∉ results.map (·.controlId) := by
      rw [hmem]
      push Not
      rfl
    rw [hgone]
    obtain ⟨row, hrow, hkey⟩ := saveCoverages_keys hsave hold
    by_cases hin : old.controlId ∈ results.map (·.controlId)
    · have hcontrol : row.controlId = old.controlId := congrArg (·.2.2) hkey
      refine ⟨row, get?_markStale hrow fun _ _ => hcontrol ▸ hin, ?_⟩
      refine iff_of_false (fun hstale => ?_) (not_not.2 hin)
      rcases hcases j row hrow with hnew | ⟨-, hne⟩
      · obtain ⟨result, hresult, rfl⟩ := List.mem_map.1 hnew
        obtain ⟨rule, -, hok⟩ := exists_left_of_forall₂ hall hresult
        exact (ruleResult_control hok).2 hstale
      · obtain ⟨result, hresult, hid⟩ := List.mem_map.1 hin
        refine hne _ (List.mem_map_of_mem hresult) (hkey.trans ?_)
        rw [ChangeControlCoverage.key, hbundle, hprofile, ← hid]
        rfl
    · have hne : ∀ row ∈ results.map (coverageRow bundle profile now computedBy),
          old.key ≠ row.key := by
        intro row hrow hkey
        obtain ⟨result, hresult, rfl⟩ := List.mem_map.1 hrow
        have hid : old.controlId = result.controlId := congrArg (·.2.2) hkey
        exact hin (hid ▸ List.mem_map_of_mem hresult)
      have hold1 := hkept j old hold hne
      refine ⟨{ old with coverageStatus := .stale, computedAt := now, computedBy }, ?_,
        iff_of_true rfl hin⟩
      rw [markStale, Table.get?_modifyWhere, hold1, Option.map_some, if_pos]
      simpa [hbundle, hprofile] using hin

/-- **Control coverage.** An accepted profile has a list of rules; when no two of them name one
control, their order does not matter, and a computation that returns defines the coverage of
their controls. -/
theorem control_coverage_defined (env : Env) (bundle : CoveredBundle)
    (profile : Loaded ControlMappingProfile) (now : Time) (computedBy : Option String)
    (t : Table ChangeControlCoverage)
    (hvalid : validateMappingRules env profile.row.mappingRules = .ok ())
    (hunique : UniqueCoverages t) :
    ∃ rules, profile.row.mappingRules = .arr rules ∧ (DistinctControls env rules →
      (∀ rules', rules'.Perm rules →
        recomputeControlCoverage env bundle
            ⟨profile.id, { profile.row with mappingRules := .arr rules' }⟩ now computedBy t =
          recomputeControlCoverage env bundle profile now computedBy t) ∧
      ∀ coverages t', recomputeControlCoverage env bundle profile now computedBy t =
          .ok (coverages, t') →
        CoverageDefined env bundle profile now computedBy rules t t' coverages) := by
  obtain ⟨rules, hrules⟩ := validateMappingRules_list hvalid
  refine ⟨rules, hrules, fun hdistinct => ⟨fun rules' hperm => ?_, fun coverages t' h => ?_⟩⟩
  · exact recompute_order hrules hdistinct hperm rfl
  · exact recompute_defines hrules hdistinct hunique h

/-- A sealed bundle with one item. -/
def CoveredBundle.sample : CoveredBundle where
  id := 0
  row :=
    { organization := 0
      changeRecord := 0
      version := 1
      completenessStatus := .complete
      sourceCutoffAt := 0
      compiledAt := 0
      manifest := .obj [("path", .str "audit/trail")]
      status := .sealed
      items := [{ itemType := .auditEvent, itemKey := "audit", canonicalPath := "audit/trail"
                  position := 0 }] }
  change :=
    { organization := 0, operationProfile := 0, workflow := 0, title := "Restart"
      status := .closed }
  riskLevel := "low"

/-- A rule that requires a section. -/
def sampleRule (controlId : String) (sections : List String) : Json :=
  .obj [("control_id", .str controlId), ("required_sections", .ofStrings sections)]

/-- A profile with some rules. -/
def sampleProfile (rules : List Json) : Loaded ControlMappingProfile :=
  ⟨0, { organization := 0, standard := "soc2", mappingRules := .arr rules }⟩

theorem uniqueCoverages_empty : UniqueCoverages .empty := by
  intro i j row other hrow
  cases hrow

/-- A control with one rule gets its coverage. -/
theorem control_coverage_defined_one : ∃ coverages t',
    recomputeControlCoverage .sample .sample (sampleProfile [sampleRule "AC-1" ["audit"]]) 0 none
        .empty = .ok (coverages, t') ∧
      CoverageDefined .sample .sample (sampleProfile [sampleRule "AC-1" ["audit"]]) 0 none
        [sampleRule "AC-1" ["audit"]] .empty t' coverages := by
  have hreturns : (recomputeControlCoverage .sample .sample
      (sampleProfile [sampleRule "AC-1" ["audit"]]) 0 none .empty).isOk = true := by decide +kernel
  obtain ⟨rules, hrules, hdefined⟩ := control_coverage_defined .sample .sample
    (sampleProfile [sampleRule "AC-1" ["audit"]]) 0 none .empty (by decide +kernel)
    uniqueCoverages_empty
  cases hrules
  obtain ⟨-, hdefined⟩ := hdefined (by decide +kernel)
  obtain ⟨r, hrun⟩ := exists_eq_ok hreturns
  exact ⟨r.1, r.2, hrun, hdefined r.1 r.2 hrun⟩

/-- Two rules that name one control with other blanks give it two coverages; and a rule that
requires nothing covers nothing. -/
theorem coverage_not_defined :
    (¬∀ (env : Env) (bundle : CoveredBundle) (profile : Loaded ControlMappingProfile)
        (rules : List Json) (now : Time) (computedBy : Option String)
        (t t' : Table ChangeControlCoverage) (coverages : List (Loaded ChangeControlCoverage)),
        profile.row.mappingRules = .arr rules → validateMappingRules env (.arr rules) = .ok () →
        UniqueCoverages t →
        recomputeControlCoverage env bundle profile now computedBy t = .ok (coverages, t') →
        (coverages.map (·.row.controlId)).Nodup) ∧
      ¬∀ (env : Env) (bundle : CoveredBundle) (profile : Loaded ControlMappingProfile)
        (rule : Json) (result : CoverageResult),
        ruleResult env bundle profile rule = .ok result →
        (result.coverageStatus = .covered ↔ MeetsRule env bundle rule) := by
  constructor
  · intro h
    have htwice : (recomputeControlCoverage .sample .sample
        (sampleProfile [sampleRule "AC-1" ["audit"], sampleRule "AC-1 " []]) 0 none
        .empty).toOption.map (·.1.map (·.row.controlId)) = some ["AC-1", "AC-1"] := by
      decide +kernel
    cases hrun : recomputeControlCoverage .sample .sample
        (sampleProfile [sampleRule "AC-1" ["audit"], sampleRule "AC-1 " []]) 0 none .empty with
    | error e =>
      rw [hrun] at htwice
      cases htwice
    | ok r =>
      rw [hrun] at htwice
      have honce := h .sample .sample _ _ 0 none .empty r.2 r.1 rfl (by decide +kernel)
        uniqueCoverages_empty hrun
      have hids : r.1.map (·.row.controlId) = ["AC-1", "AC-1"] := Option.some.inj htwice
      rw [hids] at honce
      exact absurd honce (by decide)
  · intro h
    have hempty : (ruleResult .sample .sample (sampleProfile [])
        (sampleRule "AC-1" [])).toOption.map (·.coverageStatus) = some .notCovered := by
      decide +kernel
    cases hrun : ruleResult .sample .sample (sampleProfile []) (sampleRule "AC-1" []) with
    | error e =>
      rw [hrun] at hempty
      cases hempty
    | ok result =>
      rw [hrun] at hempty
      have hstatus : result.coverageStatus = .notCovered := Option.some.inj hempty
      have hmeets : MeetsRule .sample .sample (sampleRule "AC-1" []) :=
        ⟨by decide +kernel, rfl, [], [], by decide +kernel, by decide +kernel, by simp, by simp⟩
      have hcovered := (h _ _ _ _ _ hrun).2 hmeets
      rw [hstatus] at hcovered
      cases hcovered

end RunbookPlatform
