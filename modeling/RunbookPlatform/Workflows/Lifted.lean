import RunbookPlatform.Workflows.Services

/-!
# Lifting a v1 workflow

`create_v2_draft_from_v1` writes the definition of a v1 workflow as a v2 definition. The draft of an
accepted workflow passes the v2 checks when the texts that only v2 wants are there, and an execution
of it has the steps of an execution of the workflow.

## Main definitions

- `StepV1` — an accepted v1 step, with what the v1 checks found
- `Liftable` — what the v2 checks want of a v1 definition
- `ExecutionStep.lifted` — the row of the lifted step

## Main results

- `Schema.valid_closed` — the objects that conform to a closed schema
- `draftFromV1_valid_iff` — the drafts that pass the v2 checks
- `stepRows_lifted` — the steps of the executions of the two definitions
-/

namespace RunbookPlatform

open Schema

-- ════════════════════════════════════════════════════════════════════════
-- Objects and their schemas
-- ════════════════════════════════════════════════════════════════════════

namespace Schema

variable {fs : List (String × Json)} {ps : List (String × Schema)} {keys : List String}

/-- **Closed objects** are those with the required fields, with declared fields that conform, and
with no others. -/
theorem valid_closed :
    (closed keys ps).valid (.obj fs) = true ↔
      (∀ k ∈ keys, ∃ x, fs.lookup k = some x) ∧
        (∀ p ∈ ps, ∀ x, fs.lookup p.1 = some x → p.2.valid x = true) ∧
          ∀ kv ∈ fs, kv.1 ∈ ps.map (·.1) := by
  rw [closed, valid_all]
  simp only [List.forall_mem_cons, List.not_mem_nil, IsEmpty.forall_iff, implies_true, and_true]
  rw [valid_object, valid_required, valid, Bool.and_eq_true, validProperties_iff, List.all_eq_true]
  constructor
  · rintro ⟨-, hrequired, hdeclared, hclosed⟩
    refine ⟨hrequired, fun p hp => hdeclared p.1 p.2 hp, fun kv hkv => ?_⟩
    have h := hclosed kv hkv
    rwa [Bool.or_false, List.contains_iff_mem] at h
  · rintro ⟨hrequired, hdeclared, hclosed⟩
    refine ⟨⟨fs, rfl⟩, hrequired, fun k s hp => hdeclared (k, s) hp, fun kv hkv => ?_⟩
    rw [Bool.or_false, List.contains_iff_mem]
    exact hclosed kv hkv

/-- An object with one field conforms when the field does, and no other is required. -/
theorem valid_closed_single {k : String} {x : Json} {s : Schema}
    (hnodup : (ps.map (·.1)).Nodup) (hs : ps.lookup k = some s) :
    (closed keys ps).valid (.obj [(k, x)]) = true ↔ (∀ k' ∈ keys, k' = k) ∧ s.valid x = true := by
  have hsingle {k' : String} {y : Json} (h : [(k, x)].lookup k' = some y) : k' = k ∧ x = y := by
    rw [List.lookup_cons] at h
    cases heq : k' == k with
    | true =>
      rw [heq] at h
      exact ⟨beq_iff_eq.1 heq, Option.some.inj h⟩
    | false =>
      rw [heq] at h
      cases h
  obtain ⟨before, after, rfl, -⟩ := List.lookup_eq_some_iff.1 hs
  rw [valid_closed]
  constructor
  · rintro ⟨hrequired, hdeclared, -⟩
    refine ⟨fun k' hk' => ?_, hdeclared (k, s) (by simp) x List.lookup_cons_self⟩
    obtain ⟨y, hy⟩ := hrequired k' hk'
    exact (hsingle hy).1
  · rintro ⟨hkeys, hx⟩
    refine ⟨fun k' hk' => ?_, fun p hp y hy => ?_, fun kv hkv => ?_⟩
    · rw [hkeys k' hk']
      exact ⟨x, List.lookup_cons_self⟩
    · obtain ⟨hk, rfl⟩ := hsingle hy
      have hinj := List.inj_on_of_nodup_map hnodup hp
        (show (k, s) ∈ before ++ (k, s) :: after by simp) hk
      rw [hinj]
      exact hx
    · rw [List.mem_singleton.1 hkv]
      simp

/-- A declared field of an object conforms to its schema. -/
theorem valid_declares :
    (declares ps).valid (.obj fs) = true ↔
      ∀ p ∈ ps, ∀ x, fs.lookup p.1 = some x → p.2.valid x = true := by
  rw [declares, valid, Bool.and_eq_true, validProperties_iff, List.all_eq_true]
  constructor
  · rintro ⟨hdeclared, -⟩ p hp
    exact hdeclared p.1 p.2 hp
  · intro hdeclared
    refine ⟨fun k s hp => hdeclared (k, s) hp, fun kv _ => ?_⟩
    simp

end Schema

/-- The entries that are there. -/
def present (entries : List (String × Option Json)) : List (String × Json) :=
  entries.filterMap fun entry => entry.2.map fun x => (entry.1, x)

/-- **Entries** are looked up as they are, when no key is there twice. -/
theorem lookup_present {entries : List (String × Option Json)}
    (hnodup : (entries.map (·.1)).Nodup) (key : String) :
    (present entries).lookup key = (entries.lookup key).join := by
  induction entries with
  | nil => rfl
  | cons entry entries ih =>
    obtain ⟨k, v⟩ := entry
    obtain ⟨hk, hrest⟩ := List.nodup_cons.1 hnodup
    by_cases hkey : key = k
    · subst hkey
      rw [List.lookup_cons_self]
      cases v with
      | some x => exact List.lookup_cons_self
      | none =>
        have hnone : entries.lookup key = none := by
          rw [List.lookup_eq_none_iff]
          intro entry hentry
          rw [bne_iff_ne]
          intro hkey
          have hmem : entry.1 ∈ entries.map (·.1) := List.mem_map_of_mem hentry
          rw [← hkey] at hmem
          exact hk hmem
        show (present entries).lookup key = none
        rw [ih hrest, hnone]
        rfl
    · have hne : (key == k) = false := beq_false_of_ne hkey
      rw [List.lookup_cons, hne]
      cases v with
      | none => exact ih hrest
      | some x =>
        show ((k, x) :: present entries).lookup key = _
        rw [List.lookup_cons, hne]
        exact ih hrest

theorem mem_present {entries : List (String × Option Json)} {kv : String × Json}
    (h : kv ∈ present entries) : kv.1 ∈ entries.map (·.1) := by
  obtain ⟨entry, hentry, heq⟩ := List.mem_filterMap.1 h
  obtain ⟨x, -, rfl⟩ := Option.map_eq_some_iff.1 heq
  exact List.mem_map_of_mem hentry

-- ════════════════════════════════════════════════════════════════════════
-- Accepted v1 steps
-- ════════════════════════════════════════════════════════════════════════

/-- The types of v1 steps. -/
inductive TypeV1 where
  | manualTask | shellCommand | approval
  deriving DecidableEq

def TypeV1.value : TypeV1 → String
  | manualTask => "manual_task"
  | shellCommand => "shell_command"
  | approval => "approval"

/-- The type of the lifted step. -/
def TypeV1.lifted : TypeV1 → String
  | manualTask => "manual_task"
  | shellCommand => "shell_command"
  | approval => "approval_gate"

/-- An accepted v1 step: its fields, and what the v1 checks found. -/
structure StepV1 (step : Json) where
  id : String
  name : String
  type : TypeV1
  risk : String
  command : Option String
  requiresApproval : Option Bool
  timeout : Option ℤ
  get_id : step.get? "id" = some (.str id)
  get_name : step.get? "name" = some (.str name)
  get_type : step.get? "type" = some (.str type.value)
  get_risk : step.get? "risk" = some (.str risk)
  get_command : step.get? "command" = command.map Json.str
  get_requiresApproval : step.get? "requiresApproval" = requiresApproval.map Json.bool
  get_timeout : step.get? "approvalTimeoutSeconds" = timeout.map Json.int
  id_ne : id ≠ ""
  risk_mem : risk ∈ supportedRiskLevels
  timeout_pos : ∀ n ∈ timeout, 1 ≤ n

section

variable {env : Env} {message : Schema → Json → String} {step : Json}

/-- What the schema says of a v1 step. -/
structure FieldsV1 (step : Json) : Prop where
  id : ∃ t, step.get? "id" = some (.str t)
  name : ∃ t, step.get? "name" = some (.str t)
  type : ∃ t, step.get? "type" = some (.str t)
  risk : ∃ t, step.get? "risk" = some (.str t)
  command : ∃ t : Option String, step.get? "command" = t.map Json.str
  requiresApproval : ∃ b : Option Bool, step.get? "requiresApproval" = b.map Json.bool
  timeout : ∃ n : Option ℤ, step.get? "approvalTimeoutSeconds" = n.map Json.int ∧ ∀ m ∈ n, 1 ≤ m

theorem fieldsV1 (h : stepSchemaV1.valid step = true) : FieldsV1 step := by
  rw [stepSchemaV1, valid_all] at h
  simp only [List.forall_mem_cons, List.not_mem_nil, IsEmpty.forall_iff, implies_true, and_true]
    at h
  obtain ⟨hobject, hrequired, hdeclared⟩ := h
  obtain ⟨fs, rfl⟩ := valid_object.1 hobject
  rw [valid_required] at hrequired
  rw [valid_declares] at hdeclared
  simp only [List.forall_mem_cons, List.not_mem_nil, IsEmpty.forall_iff, implies_true, and_true]
    at hrequired hdeclared
  obtain ⟨⟨i, hi⟩, ⟨n, hn⟩, ⟨t, ht⟩, ⟨r, hr⟩⟩ := hrequired
  obtain ⟨hid, hname, htype, hrisk, hcommand, happroval, htimeout⟩ := hdeclared
  have htext {key : String} {x : Json} (hget : fs.lookup key = some x)
      (h : ∀ x, fs.lookup key = some x → (Schema.type .string).valid x = true) :
      ∃ t, (Json.obj fs).get? key = some (.str t) := by
    obtain ⟨t, rfl⟩ := valid_string.1 (h x hget)
    exact ⟨t, hget⟩
  refine ⟨htext hi hid, htext hn hname, htext ht htype, htext hr hrisk, ?_, ?_, ?_⟩
  · cases hget : fs.lookup "command" with
    | none => exact ⟨none, hget⟩
    | some x =>
      obtain ⟨t, rfl⟩ := valid_string.1 (hcommand x hget)
      exact ⟨some t, hget⟩
  · cases hget : fs.lookup "requiresApproval" with
    | none => exact ⟨none, hget⟩
    | some x =>
      obtain ⟨b, rfl⟩ := valid_boolean.1 (happroval x hget)
      exact ⟨some b, hget⟩
  · cases hget : fs.lookup "approvalTimeoutSeconds" with
    | none => exact ⟨none, hget, fun m hm => by cases hm⟩
    | some x =>
      have hvalid := htimeout x hget
      rw [integerFrom, valid_all] at hvalid
      simp only [List.forall_mem_cons, List.not_mem_nil, IsEmpty.forall_iff, implies_true,
        and_true] at hvalid
      obtain ⟨m, rfl⟩ := valid_integer.1 hvalid.1
      refine ⟨some m, hget, fun m' hm' => ?_⟩
      obtain rfl := Option.mem_some.1 hm'
      exact valid_minimum.1 hvalid.2

/-- **The steps** that the v1 checks accept. -/
theorem checkStepsV1_steps {position : ℕ} {seenIds : List String} {steps : List Json} {u : Unit}
    (hfields : ∀ step ∈ steps, FieldsV1 step)
    (h : checkStepsV1 env position seenIds steps = .ok u) :
    (∀ step ∈ steps, Nonempty (StepV1 step)) ∧
      (steps.map (textOf · "id" "")).Nodup ∧
        ∀ step ∈ steps, textOf step "id" "" ∉ seenIds := by
  induction steps generalizing position seenIds with
  | nil => simp
  | cons step steps ih =>
    simp only [checkStepsV1, except_bind_ok, check_ok] at h
    obtain ⟨_, hid, _, hnew, _, htype, _, hrisk, _, -, _, -, hrest⟩ := h
    obtain ⟨hsteps, hnodup, hfresh⟩ := ih (fun s hs => hfields s (List.mem_cons_of_mem _ hs)) hrest
    have hstep := hfields step List.mem_cons_self
    obtain ⟨i, hi⟩ := hstep.id
    obtain ⟨n, hn⟩ := hstep.name
    obtain ⟨t, ht⟩ := hstep.type
    obtain ⟨r, hr⟩ := hstep.risk
    obtain ⟨command, hcommand⟩ := hstep.command
    obtain ⟨approval, happroval⟩ := hstep.requiresApproval
    obtain ⟨timeout, htimeout, hpos⟩ := hstep.timeout
    have htypes : ∃ type : TypeV1, type.value = t := by
      rw [Json.getD, ht, Option.getD_some] at htype
      obtain ⟨t', hsupported, heq⟩ := List.mem_map.1 htype
      obtain rfl := Json.str.inj heq
      simp only [supportedStepTypes, List.mem_cons, List.not_mem_nil, or_false] at hsupported
      obtain rfl | rfl | rfl := hsupported
      · exact ⟨.manualTask, rfl⟩
      · exact ⟨.shellCommand, rfl⟩
      · exact ⟨.approval, rfl⟩
    have hrisks : r ∈ supportedRiskLevels := by
      rw [Json.getD, hr, Option.getD_some] at hrisk
      obtain ⟨r', hsupported, heq⟩ := List.mem_map.1 hrisk
      exact Json.str.inj heq ▸ hsupported
    have hidOf : textOf step "id" "" = i := by rw [textOf, Json.getD, hi]; rfl
    obtain ⟨type, rfl⟩ := htypes
    refine ⟨List.forall_mem_cons.2 ⟨⟨?_⟩, hsteps⟩, ?_, ?_⟩
    · exact ⟨i, n, type, r, command, approval, timeout, hi, hn, ht, hr, hcommand, happroval,
        htimeout, hidOf ▸ hid, hrisks, hpos⟩
    · refine List.nodup_cons.2 ⟨fun hmem => ?_, hnodup⟩
      obtain ⟨other, hother, heq⟩ := List.mem_map.1 hmem
      exact hfresh other hother (heq ▸ List.mem_cons_self)
    · refine List.forall_mem_cons.2 ⟨hnew, fun other hother hmem => ?_⟩
      exact hfresh other hother (List.mem_cons_of_mem _ hmem)

end

-- ════════════════════════════════════════════════════════════════════════
-- The lifted step
-- ════════════════════════════════════════════════════════════════════════

namespace StepV1

variable {step : Json} (s : StepV1 step)

/-- The action of the lifted step. -/
def action : List (String × Json) :=
  ("type", .str s.type.lifted) ::
    match s.type with
    | .manualTask => []
    | .shellCommand => [("params", .obj [("command", .str (s.command.getD ""))])]
    | .approval =>
      (s.timeout.map fun n => ("params", Json.obj [("timeout_seconds", .int n)])).toList

/-- The entries of the lifted step. -/
def entries : List (String × Option Json) :=
  [ ("id", some (.str s.id)),
    ("name", some (.str s.name)),
    ("risk", some (.str s.risk)),
    ("retry", some (.obj [("maxAttempts", .int 1)])),
    ("idempotency", some (.obj [("mode", .str "none")])),
    ("artifacts", some (.arr [])),
    ("secrets", some (.arr [])),
    ("requiresApproval", s.requiresApproval.map Json.bool),
    ("approvalTimeoutSeconds", s.timeout.map Json.int),
    ("type", some (.str s.type.lifted)),
    ("action", some (.obj s.action)) ]

theorem keys_entries :
    s.entries.map (·.1) =
      ["id", "name", "risk", "retry", "idempotency", "artifacts", "secrets", "requiresApproval",
        "approvalTimeoutSeconds", "type", "action"] :=
  rfl

/-- **The lifted step**, entry by entry. -/
theorem liftV1Step_eq : liftV1Step step = .obj (present s.entries) := by
  obtain ⟨id, name, type, risk, command, approval, timeout, hid, hname, htype, hrisk, hcommand,
    happroval, htimeout, -, -, -⟩ := s
  cases type with
  | manualTask | approval =>
    cases approval <;> cases timeout <;>
      simp [liftV1Step, present, entries, action, Json.getD, copied, hid, hname, htype, hrisk,
        happroval, htimeout, TypeV1.value, TypeV1.lifted]
  | shellCommand =>
    cases approval <;> cases timeout <;> cases command <;>
      simp [liftV1Step, present, entries, action, Json.getD, copied, hid, hname, htype, hrisk,
        hcommand, happroval, htimeout, TypeV1.value, TypeV1.lifted]

theorem lookup_entries (key : String) :
    (present s.entries).lookup key = (s.entries.lookup key).join :=
  lookup_present (by rw [keys_entries]; decide) key

theorem get_liftV1Step (key : String) :
    (liftV1Step step).get? key = (s.entries.lookup key).join := by
  rw [s.liftV1Step_eq]
  exact s.lookup_entries key

-- ════════════════════════════════════════════════════════════════════════
-- The schema of the lifted step
-- ════════════════════════════════════════════════════════════════════════

/-- The step has the texts that v2 wants. -/
structure Liftable (s : StepV1 step) : Prop where
  name : s.name ≠ ""
  command : s.type = .shellCommand → s.command.getD "" ≠ ""

theorem liftable_iff :
    s.Liftable ↔ textOf step "name" "" ≠ "" ∧
      (textOf step "type" "" = "shell_command" → textOf step "command" "" ≠ "") := by
  have hname : textOf step "name" "" = s.name := by
    rw [textOf, Json.getD, s.get_name]
    rfl
  have htype : textOf step "type" "" = s.type.value := by
    rw [textOf, Json.getD, s.get_type]
    rfl
  have hcommand : textOf step "command" "" = s.command.getD "" := by
    rw [textOf, Json.getD, s.get_command]
    cases s.command <;> rfl
  have hshell : s.type.value = "shell_command" ↔ s.type = .shellCommand := by
    cases s.type <;> decide
  rw [hname, htype, hcommand, hshell]
  exact ⟨fun h => ⟨h.name, h.command⟩, fun h => ⟨h.1, h.2⟩⟩

theorem nonemptyText_valid {t : String} : nonemptyText.valid (.str t) = true ↔ t ≠ "" := by
  rw [nonemptyText, valid_all]
  simp only [List.forall_mem_cons, List.not_mem_nil, IsEmpty.forall_iff, implies_true, and_true]
  rw [valid_minLength, Nat.one_le_iff_ne_zero, ne_eq, String.length_eq_zero_iff]
  exact and_iff_right rfl

theorem integerFrom_valid {m n : ℤ} : (integerFrom m).valid (.int n) = true ↔ m ≤ n := by
  rw [integerFrom, valid_all]
  simp only [List.forall_mem_cons, List.not_mem_nil, IsEmpty.forall_iff, implies_true, and_true]
  rw [valid_minimum]
  exact and_iff_right rfl

theorem actionType_valid {t actionType : String} :
    (all [.type .string, const actionType]).valid (.str t) = true ↔ t = actionType := by
  rw [valid_all]
  simp only [List.forall_mem_cons, List.not_mem_nil, IsEmpty.forall_iff, implies_true, and_true]
  rw [valid_const, Json.str.injEq]
  exact and_iff_right rfl

/-- **An action without parameters** conforms to the schema of its type, unless that needs them. -/
theorem actionSchema_bare {t actionType : String} {params : Schema} {needs : Bool} :
    (actionSchema actionType params needs).valid (.obj [("type", .str t)]) = true ↔
      t = actionType ∧ needs = false := by
  have hnodup : ["type", "version", "params", "inputs", "outputs"].Nodup := by decide
  rw [actionSchema, valid_closed_single (by exact hnodup) rfl, actionType_valid, and_comm]
  cases needs <;> simp [actionRequired]

/-- An action with parameters conforms when these do. -/
theorem actionSchema_with {t actionType : String} {params : Schema} {needs : Bool}
    {payload : Json} :
    (actionSchema actionType params needs).valid
        (.obj [("type", .str t), ("params", payload)]) = true ↔
      t = actionType ∧ params.valid payload = true := by
  rw [actionSchema, valid_closed]
  constructor
  · rintro ⟨-, hdeclared, -⟩
    refine ⟨actionType_valid.1 (hdeclared _ List.mem_cons_self _ rfl), ?_⟩
    exact hdeclared ("params", params) (by simp) _ rfl
  · rintro ⟨rfl, hparams⟩
    refine ⟨fun k hk => ?_, ?_, fun kv hkv => ?_⟩
    · have hkeys : k = "type" ∨ k = "params" := by
        cases needs <;> simp_all [actionRequired]
      obtain rfl | rfl := hkeys
      · exact ⟨_, rfl⟩
      · exact ⟨_, rfl⟩
    · simp only [List.forall_mem_cons, List.not_mem_nil, IsEmpty.forall_iff, implies_true, and_true]
      refine ⟨fun x hx => ?_, fun x hx => ?_, fun x hx => ?_, fun x hx => ?_, fun x hx => ?_⟩
      · obtain rfl := Option.some.inj hx
        exact actionType_valid.2 rfl
      · cases hx
      · obtain rfl := Option.some.inj hx
        exact hparams
      all_goals cases hx
    · obtain rfl | hkv := List.mem_cons.1 hkv
      · exact List.mem_cons_self
      · obtain rfl := List.mem_singleton.1 hkv
        exact List.mem_cons_of_mem _ (List.mem_cons_of_mem _ List.mem_cons_self)

theorem shellCommandParams_valid {command : String} :
    shellCommandParams.valid (.obj [("command", .str command)]) = true ↔ command ≠ "" := by
  rw [shellCommandParams, valid_closed_single (by decide) rfl, nonemptyText_valid]
  exact and_iff_right fun k' hk' => List.mem_singleton.1 hk'

theorem approvalGateParams_valid {n : ℤ} (h : 1 ≤ n) :
    approvalGateParams.valid (.obj [("timeout_seconds", .int n)]) = true := by
  rw [approvalGateParams, valid_closed_single (by decide) rfl, integerFrom_valid]
  exact ⟨List.forall_mem_nil _, h⟩

/-- **The action** conforms to the schema of its type and to no other. -/
theorem action_valid :
    (oneOf (actionTypes.map fun (t, params, needs) => actionSchema t params needs)).valid
      (.obj s.action) = true ↔ (s.type = .shellCommand → s.command.getD "" ≠ "") := by
  show (validCount (actionTypes.map fun (t, params, needs) => actionSchema t params needs)
    (.obj s.action) == 1) = true ↔ _
  simp only [actionTypes, List.map_cons, List.map_nil, validCount]
  cases htype : s.type with
  | manualTask =>
    simp [action, htype, actionSchema_bare, TypeV1.lifted]
  | shellCommand =>
    simp [action, htype, actionSchema_with, TypeV1.lifted, shellCommandParams_valid]
  | approval =>
    cases htimeout : s.timeout with
    | none => simp [action, htype, htimeout, actionSchema_bare, TypeV1.lifted]
    | some n =>
      have hpos := approvalGateParams_valid (s.timeout_pos n htimeout)
      simp [action, htype, htimeout, actionSchema_with, TypeV1.lifted, hpos]

theorem textAmong_valid {texts : List String} {t : String} (h : t ∈ texts) :
    (textAmong texts).valid (.str t) = true := by
  rw [textAmong, valid_all]
  simp only [List.forall_mem_cons, List.not_mem_nil, IsEmpty.forall_iff, implies_true, and_true]
  exact ⟨rfl, valid_enum.2 ⟨t, h, rfl⟩⟩

/-- The conditionals of the schema: the action has the type of the step. -/
theorem sameActionType_valid (s : StepV1 step) (stepType : String) :
    (sameActionType stepType).valid (liftV1Step step) = true := by
  rw [s.liftV1Step_eq, sameActionType, valid]
  by_cases htype : s.type.lifted = stepType
  · rw [Bool.or_eq_true]
    right
    rw [valid_declares]
    simp only [List.forall_mem_cons, List.not_mem_nil, IsEmpty.forall_iff, implies_true, and_true]
    intro x hx
    rw [s.lookup_entries] at hx
    obtain rfl := Option.some.inj hx
    rw [valid_all]
    simp only [List.forall_mem_cons, List.not_mem_nil, IsEmpty.forall_iff, implies_true, and_true]
    rw [valid_declares, valid_required]
    simp only [List.forall_mem_cons, List.not_mem_nil, IsEmpty.forall_iff, implies_true, and_true]
    refine ⟨fun x hx => ?_, _, rfl⟩
    obtain rfl := Option.some.inj hx
    exact valid_const.2 (congrArg Json.str htype)
  · rw [Bool.or_eq_true]
    left
    rw [Bool.not_eq_true', ← Bool.not_eq_true]
    intro hcondition
    rw [valid_all] at hcondition
    have hconst := hcondition _ List.mem_cons_self
    rw [valid_declares] at hconst
    have hlookup : (present s.entries).lookup "type" = some (.str s.type.lifted) := by
      rw [s.lookup_entries]
      rfl
    have heq := valid_const.1 (hconst _ List.mem_cons_self _ hlookup)
    exact htype (Json.str.inj heq)

/-- **The schema** accepts the lifted step when the texts that v2 wants are there. -/
theorem stepSchema_valid : stepSchema.valid (liftV1Step step) = true ↔ s.Liftable := by
  have hsame : (all (actionTypes.map fun (t, _, _) => sameActionType t)).valid (liftV1Step step) =
      true := by
    rw [valid_all]
    intro schema hschema
    obtain ⟨entry, -, rfl⟩ := List.mem_map.1 hschema
    exact s.sameActionType_valid entry.1
  rw [stepSchema, valid_all]
  simp only [List.forall_mem_cons, List.not_mem_nil, IsEmpty.forall_iff, implies_true, and_true]
  rw [and_iff_left hsame, stepFields]
  constructor
  · intro h
    have hname := closed_property h (k := "name") rfl (s.get_liftV1Step "name")
    have haction := closed_property h (k := "action") rfl (s.get_liftV1Step "action")
    exact ⟨nonemptyText_valid.1 hname, s.action_valid.1 haction⟩
  · rintro ⟨hname, hcommand⟩
    rw [s.liftV1Step_eq, valid_closed]
    simp only [s.lookup_entries]
    refine ⟨fun k hk => ?_, ?_, fun kv hkv => ?_⟩
    · simp only [List.mem_cons, List.not_mem_nil, or_false] at hk
      obtain rfl | rfl | rfl | rfl | rfl := hk
      all_goals exact ⟨_, rfl⟩
    · simp only [List.forall_mem_cons, List.not_mem_nil, IsEmpty.forall_iff, implies_true, and_true]
      refine ⟨fun x hx => ?_, fun x hx => ?_, fun x hx => ?_, fun x hx => ?_, fun x hx => ?_,
        fun x hx => ?_, fun x hx => ?_, fun x hx => ?_, fun x hx => ?_, fun x hx => ?_,
        fun x hx => ?_, fun x hx => ?_, fun x hx => ?_⟩
      · obtain rfl := Option.some.inj hx
        exact nonemptyText_valid.2 s.id_ne
      · obtain rfl := Option.some.inj hx
        exact nonemptyText_valid.2 hname
      · obtain rfl := Option.some.inj hx
        cases s.type <;> decide
      · obtain rfl := Option.some.inj hx
        exact textAmong_valid s.risk_mem
      · obtain ⟨b, -, rfl⟩ := Option.map_eq_some_iff.1 hx
        rfl
      · obtain ⟨n, hn, rfl⟩ := Option.map_eq_some_iff.1 hx
        exact integerFrom_valid.2 (s.timeout_pos n hn)
      · obtain rfl := Option.some.inj hx
        exact s.action_valid.2 hcommand
      · cases hx
      · obtain rfl := Option.some.inj hx
        decide
      · obtain rfl := Option.some.inj hx
        decide
      · cases hx
      · obtain rfl := Option.some.inj hx
        decide
      · obtain rfl := Option.some.inj hx
        decide
    · have hmem := mem_present hkv
      rw [keys_entries] at hmem
      revert hmem
      generalize kv.1 = key
      revert key
      decide

-- ════════════════════════════════════════════════════════════════════════
-- The checks of the lifted step
-- ════════════════════════════════════════════════════════════════════════

section

variable (env : Env) (message : Schema → Json → String) (definition : Json) (stepId : String)

theorem getD_liftV1Step (key : String) (default : Json) :
    (liftV1Step step).getD key default = ((s.entries.lookup key).join).getD default := by
  rw [Json.getD, s.get_liftV1Step]

theorem checkActionCatalog_action :
    checkActionCatalog env stepId (.obj s.action) "pilot.v1" = .ok () := by
  rw [action]
  cases s.type with
  | manualTask => rfl
  | shellCommand => rfl
  | approval => cases s.timeout <;> rfl

theorem checkActionInputs_action (h : s.Liftable) :
    checkActionInputs message stepId (.obj s.action) "pilot.v1" = .ok () := by
  rw [action]
  cases htype : s.type with
  | manualTask => rfl
  | shellCommand =>
    have hparams := shellCommandParams_valid.2 (h.command htype)
    show check (shellCommandParams.valid _ = true) _ = _
    exact check_ok.2 hparams
  | approval =>
    cases htimeout : s.timeout with
    | none => rfl
    | some n =>
      have hparams := approvalGateParams_valid (s.timeout_pos n htimeout)
      show check (approvalGateParams.valid _ = true) _ = _
      exact check_ok.2 hparams

theorem checkStep_lifted (h : s.Liftable) :
    checkStep env message definition "pilot.v1" stepId (liftV1Step step) = .ok () := by
  have htype : checkActionTypeMatch env stepId (liftV1Step step) (.obj s.action) = .ok () := by
    rw [checkActionTypeMatch, check_ok, s.getD_liftV1Step]
    show (Json.str s.type.lifted).pyEq (.str s.type.lifted) = true
    exact beq_self_eq_true _
  have hsecrets : checkStepSecrets env stepId (liftV1Step step) definition = .ok () := by
    have hlist : listOf (liftV1Step step) "secrets" = [] := by
      rw [listOf, s.getD_liftV1Step]
      rfl
    rw [checkStepSecrets, hlist]
    rfl
  have haction : (liftV1Step step).getD "action" (.obj []) = .obj s.action := s.getD_liftV1Step ..
  simp only [checkStep, haction, htype, s.checkActionCatalog_action,
    s.checkActionInputs_action _ _ h, hsecrets, ok_bind]

theorem checkRetryIdempotency_lifted (s : StepV1 step) :
    checkRetryIdempotency stepId (liftV1Step step) = .ok () := by
  simp only [checkRetryIdempotency, s.getD_liftV1Step]
  rfl

theorem checkDryRun_lifted (s : StepV1 step) :
    checkDryRun stepId (liftV1Step step) = .ok () := by
  rw [checkDryRun, s.getD_liftV1Step, check_ok]
  exact .inl rfl

theorem checkPilotRestrictions_lifted :
    checkPilotRestrictions stepId (liftV1Step step) (.obj s.action) = .ok () := by
  have htext : textOf (liftV1Step step) "type" "" = s.type.lifted := by
    rw [textOf, s.getD_liftV1Step]
    rfl
  rw [checkPilotRestrictions, htext, action]
  cases s.type with
  | manualTask => rfl
  | shellCommand =>
    have hworking : textOf (.obj [("command", .str (s.command.getD ""))]) "working_directory" "" =
        "" := rfl
    show checkShellCommandRestrictions stepId (.obj [("command", .str (s.command.getD ""))]) = _
    rw [checkShellCommandRestrictions, hworking, except_bind_ok]
    refine ⟨(), rfl, ?_⟩
    rw [except_bind_ok]
    exact ⟨(), check_ok.2 (by decide), check_ok.2 (by simp [traversesUp, splitText, slashes])⟩
  | approval => cases s.timeout <;> rfl

end

end StepV1

-- ════════════════════════════════════════════════════════════════════════
-- The lifted definition
-- ════════════════════════════════════════════════════════════════════════

section

variable {env : Env} {message : Schema → Json → String} {workflow : StoredWorkflow}
  {steps : List Json} {name : String}

/-- What the v2 checks want of a v1 definition: names that are there, that of the workflow short
enough, and the commands of the shell steps. -/
structure Liftable (definition : Json) : Prop where
  name : textOf definition "name" "" ≠ ""
  short : (textOf definition "name" "").length ≤ 255
  stepNames : ∀ step ∈ v1Steps definition, textOf step "name" "" ≠ ""
  commands : ∀ step ∈ v1Steps definition, textOf step "type" "" = "shell_command" →
    textOf step "command" "" ≠ ""

/-- The definition that `create_v2_draft_from_v1` writes. -/
def liftedDefinition (name : String) (steps : List Json) : Json :=
  .obj [("schemaVersion", .str "2"), ("name", .str name), ("catalogVersion", .str "pilot.v1"),
    ("steps", .arr (steps.map liftV1Step)), ("secrets", .arr [])]

theorem workflowSchemaV2_valid (hne : steps ≠ []) :
    workflowSchemaV2.valid (liftedDefinition name steps) = true ↔
      name ≠ "" ∧ name.length ≤ 255 ∧
        ∀ step ∈ steps, stepSchema.valid (liftV1Step step) = true := by
  have hname : (all [.type .string, minLength 1, maxLength 255]).valid (.str name) = true ↔
      name ≠ "" ∧ name.length ≤ 255 := by
    rw [valid_all]
    simp only [List.forall_mem_cons, List.not_mem_nil, IsEmpty.forall_iff, implies_true, and_true]
    have hshort : (maxLength 255).valid (.str name) = true ↔ name.length ≤ 255 := decide_eq_true_iff
    rw [valid_minLength, Nat.one_le_iff_ne_zero, ne_eq, String.length_eq_zero_iff, hshort]
    exact and_iff_right rfl
  have hitems : (all [.type .array, minItems 1, items stepSchema]).valid
      (.arr (steps.map liftV1Step)) = true ↔
        ∀ step ∈ steps, stepSchema.valid (liftV1Step step) = true := by
    have hcount : (minItems 1).valid (.arr (steps.map liftV1Step)) = true := by
      refine decide_eq_true ?_
      rw [List.length_map]
      exact List.length_pos_iff.2 hne
    rw [valid_all]
    simp only [List.forall_mem_cons, List.not_mem_nil, IsEmpty.forall_iff, implies_true, and_true]
    rw [valid_items, List.forall_mem_map]
    exact ⟨fun h => h.2.2, fun h => ⟨rfl, hcount, h⟩⟩
  constructor
  · intro h
    have hfirst := hname.1 (closed_property h (k := "name") rfl rfl)
    exact ⟨hfirst.1, hfirst.2, hitems.1 (closed_property h (k := "steps") rfl rfl)⟩
  · rintro ⟨hnonempty, hshort, hvalid⟩
    rw [workflowSchemaV2, liftedDefinition, valid_closed]
    refine ⟨fun k hk => ?_, ?_, ?_⟩
    · simp only [List.mem_cons, List.not_mem_nil, or_false] at hk
      obtain rfl | rfl | rfl := hk
      all_goals exact ⟨_, rfl⟩
    · simp only [List.forall_mem_cons, List.not_mem_nil, IsEmpty.forall_iff, implies_true, and_true]
      refine ⟨fun x hx => ?_, fun x hx => ?_, fun x hx => ?_, fun x hx => ?_, fun x hx => ?_,
        fun x hx => ?_, fun x hx => ?_⟩
      · obtain rfl := Option.some.inj hx
        decide
      · obtain rfl := Option.some.inj hx
        exact hname.2 ⟨hnonempty, hshort⟩
      · cases hx
      · obtain rfl := Option.some.inj hx
        rfl
      · cases hx
      · obtain rfl := Option.some.inj hx
        decide
      · obtain rfl := Option.some.inj hx
        exact hitems.2 hvalid
    · simp only [List.forall_mem_cons, List.not_mem_nil, IsEmpty.forall_iff, implies_true, and_true]
      decide

/-- **The semantic checks** of a v2 definition let the lifted steps through. -/
theorem checkSteps_lifted (env : Env) (message : Schema → Json → String) (definition : Json)
    (position : ℕ) (seenIds : List String)
    (hsteps : ∀ step ∈ steps, ∃ s : StepV1 step, s.Liftable)
    (hnodup : (steps.map (textOf · "id" "")).Nodup)
    (hnew : ∀ step ∈ steps, textOf step "id" "" ∉ seenIds) :
    ∃ ids, checkSteps env message definition "pilot.v1" position seenIds [] (steps.map liftV1Step) =
      .ok ids := by
  induction steps generalizing position seenIds with
  | nil => exact ⟨seenIds, rfl⟩
  | cons step steps ih =>
    obtain ⟨s, hs⟩ := hsteps step List.mem_cons_self
    obtain ⟨hfresh, hrest⟩ := List.nodup_cons.1 hnodup
    have hid (default : String) : textOf (liftV1Step step) "id" default = textOf step "id" "" := by
      rw [textOf, s.getD_liftV1Step, textOf, Json.getD, s.get_id]
      rfl
    have hartifacts : listOf (liftV1Step step) "artifacts" = [] := by
      rw [listOf, s.getD_liftV1Step]
      rfl
    have haction : (liftV1Step step).getD "action" (.obj []) = .obj s.action :=
      s.getD_liftV1Step ..
    have hfirst : textOf step "id" "" ∉ seenIds := hnew step List.mem_cons_self
    have hlater : ∀ other ∈ steps, textOf other "id" "" ∉ textOf step "id" "" :: seenIds := by
      intro other hother hmem
      obtain heq | hmem := List.mem_cons.1 hmem
      · have hlisted : textOf other "id" "" ∈ steps.map (textOf · "id" "") :=
          List.mem_map_of_mem hother
        rw [heq] at hlisted
        exact hfresh hlisted
      · exact hnew other (List.mem_cons_of_mem _ hother) hmem
    obtain ⟨ids, hids⟩ := ih (position + 1) (textOf step "id" "" :: seenIds)
      (fun other hother => hsteps other (List.mem_cons_of_mem _ hother)) hrest hlater
    refine ⟨ids, ?_⟩
    rw [List.map_cons, checkSteps]
    simp only [hid, hartifacts, haction, checkStepArtifacts, check, if_pos hfirst, ok_bind,
      s.checkStep_lifted env message definition _ hs, s.checkRetryIdempotency_lifted,
      s.checkDryRun_lifted, s.checkPilotRestrictions_lifted]
    exact hids

/-- What the v1 checks find in an accepted definition. -/
theorem validateV1_steps {definition : Json} (h : validateV1 env message definition = .ok ()) :
    (∃ name, definition.get? "name" = some (.str name)) ∧ v1Steps definition ≠ [] ∧
      (∀ step ∈ v1Steps definition, Nonempty (StepV1 step)) ∧
        ((v1Steps definition).map (textOf · "id" "")).Nodup := by
  simp only [validateV1, checkSchemaV1, checkSemanticsV1, except_bind_ok, check_ok] at h
  obtain ⟨_, hschema, _, hne, hsteps⟩ := h
  rw [workflowSchemaV1, valid_all] at hschema
  simp only [List.forall_mem_cons, List.not_mem_nil, IsEmpty.forall_iff, implies_true, and_true]
    at hschema
  obtain ⟨hobject, hrequired, hdeclared⟩ := hschema
  obtain ⟨fs, rfl⟩ := valid_object.1 hobject
  rw [valid_required] at hrequired
  rw [valid_declares] at hdeclared
  simp only [List.forall_mem_cons, List.not_mem_nil, IsEmpty.forall_iff, implies_true, and_true]
    at hrequired hdeclared
  obtain ⟨⟨x, hx⟩, ⟨y, hy⟩⟩ := hrequired
  obtain ⟨name, rfl⟩ := valid_string.1 (hdeclared.1 x hx)
  have hitems := hdeclared.2 y hy
  rw [arrayOf, valid_all] at hitems
  simp only [List.forall_mem_cons, List.not_mem_nil, IsEmpty.forall_iff, implies_true, and_true]
    at hitems
  obtain ⟨steps, rfl⟩ := valid_array.1 hitems.1
  have hlist : v1Steps (.obj fs) = steps := by
    rw [v1Steps, Json.getD, Json.get?, Json.fields, hy]
    rfl
  have hfields : ∀ step ∈ v1Steps (.obj fs), FieldsV1 step := by
    rw [hlist]
    exact fun step hstep => fieldsV1 (valid_items.1 hitems.2 step hstep)
  obtain ⟨haccepted, hnodup, -⟩ := checkStepsV1_steps hfields hsteps
  exact ⟨⟨name, hx⟩, hne, haccepted, hnodup⟩

/-- **The v2 checks** of a lifted definition: it passes when the texts that v2 wants are there, and
otherwise it violates the schema. -/
theorem validateV2_lifted {definition : Json} (h : validateV1 env message definition = .ok ()) :
    (Liftable definition ∧ validateV2 env message
        (liftedDefinition (textOf definition "name" "") (v1Steps definition)) = .ok ()) ∨
      ¬Liftable definition ∧ ∃ detail, validateV2 env message
        (liftedDefinition (textOf definition "name" "") (v1Steps definition)) =
          .error (.workflow "workflow_schema_violation" detail) := by
  obtain ⟨-, hne, hsteps, hnodup⟩ := validateV1_steps h
  have hliftable : Liftable definition ↔ workflowSchemaV2.valid
      (liftedDefinition (textOf definition "name" "") (v1Steps definition)) = true := by
    rw [workflowSchemaV2_valid hne]
    constructor
    · intro hlift
      refine ⟨hlift.name, hlift.short, fun step hstep => ?_⟩
      obtain ⟨s⟩ := hsteps step hstep
      exact s.stepSchema_valid.2
        (s.liftable_iff.2 ⟨hlift.stepNames step hstep, hlift.commands step hstep⟩)
    · rintro ⟨hname, hshort, hvalid⟩
      have htexts : ∀ step ∈ v1Steps definition, textOf step "name" "" ≠ "" ∧
          (textOf step "type" "" = "shell_command" → textOf step "command" "" ≠ "") := by
        intro step hstep
        obtain ⟨s⟩ := hsteps step hstep
        exact s.liftable_iff.1 (s.stepSchema_valid.1 (hvalid step hstep))
      exact ⟨hname, hshort, fun step hstep => (htexts step hstep).1,
        fun step hstep => (htexts step hstep).2⟩
  by_cases hlift : Liftable definition
  · refine .inl ⟨hlift, ?_⟩
    have hcatalog (name : String) (steps : List Json) :
        checkCatalogVersion env (liftedDefinition name steps) = .ok () := rfl
    have hversion (name : String) (steps : List Json) :
        pyStr env (catalogVersionOf (liftedDefinition name steps)) = "pilot.v1" := rfl
    have hlifted : ∀ step ∈ v1Steps definition, ∃ s : StepV1 step, s.Liftable := by
      intro step hstep
      obtain ⟨s⟩ := hsteps step hstep
      exact ⟨s, s.liftable_iff.2 ⟨hlift.stepNames step hstep, hlift.commands step hstep⟩⟩
    obtain ⟨ids, hids⟩ := checkSteps_lifted env message
      (liftedDefinition (textOf definition "name" "") (v1Steps definition)) 1 [] hlifted hnodup
      fun step _ => List.not_mem_nil
    rw [validateV2, checkSchemaV2, check, if_pos (hliftable.1 hlift), ok_bind, checkSemanticsV2,
      hcatalog, ok_bind, hversion]
    show (checkSteps env message _ "pilot.v1" 1 [] [] ((v1Steps definition).map liftV1Step) >>=
      fun stepIds => checkSecretDeclarations env stepIds [] []) = _
    rw [hids]
    rfl
  · right
    rw [validateV2, checkSchemaV2, check, if_neg fun hvalid => hlift (hliftable.2 hvalid)]
    exact ⟨hlift, _, rfl⟩

/-- The report of a v2 definition. -/
theorem buildValidationReport_v2 {definition : Json} :
    (validateV2 env message definition = .ok () →
      buildValidationReport env message definition "workflow.schema.v2" = .ok ⟨true, []⟩) ∧
    ∀ code detail, validateV2 env message definition = .error (.workflow code detail) →
      buildValidationReport env message definition "workflow.schema.v2" =
        .ok ⟨false, [(code, detail)]⟩ := by
  have hvalidate : validateWorkflowDefinition env message definition "workflow.schema.v2" =
      validateV2 env message definition := by
    rw [validateWorkflowDefinition, if_neg (by decide), if_pos rfl]
  refine ⟨fun h => ?_, fun code detail h => ?_⟩
  · rw [buildValidationReport, hvalidate, h]
  · rw [buildValidationReport, hvalidate, h]
    rfl

/-- The draft of an accepted v1 workflow is made of its lifted steps, with the report of the v2
checks. -/
theorem draftFromV1_ok (hversion : workflow.definitionSchemaVersion = "workflow.schema.v1")
    (haccepted : validateV1 env message workflow.definition = .ok ()) :
    ∃ (draft : Draft) (report : ValidationReport), draftFromV1 env message workflow = .ok draft ∧
      draft.definitionSchemaVersion = "workflow.schema.v2" ∧
      v1Steps draft.definition = (v1Steps workflow.definition).map liftV1Step ∧
      draft.validationStatus = report.status ∧
      (report.valid = true ↔ Liftable workflow.definition) := by
  obtain ⟨⟨name, hname⟩, -⟩ := validateV1_steps haccepted
  have htext : textOf workflow.definition "name" "" = name := by
    rw [textOf, Json.getD, hname]
    rfl
  have hgetD : workflow.definition.getD "name" (.str workflow.name) = .str name := by
    rw [Json.getD, hname]
    rfl
  have hreported : ∃ report, buildValidationReport env message
      (liftedDefinition name (v1Steps workflow.definition)) "workflow.schema.v2" = .ok report ∧
        (report.valid = true ↔ Liftable workflow.definition) := by
    have hcases := validateV2_lifted haccepted
    rw [htext] at hcases
    obtain ⟨hlift, hvalid⟩ | ⟨hlift, detail, hinvalid⟩ := hcases
    · exact ⟨_, buildValidationReport_v2.1 hvalid, fun _ => hlift, fun _ => rfl⟩
    · exact ⟨_, buildValidationReport_v2.2 _ _ hinvalid, fun hok => Bool.noConfusion hok,
        fun h => absurd h hlift⟩
  obtain ⟨report, hreport, hvalid⟩ := hreported
  rw [liftedDefinition] at hreport
  simp only [draftFromV1, check, if_pos hversion, ok_bind, hgetD, hreport]
  exact ⟨_, report, rfl, rfl, rfl, rfl, hvalid⟩

/-- **The draft** of an accepted v1 workflow passes the v2 checks exactly when the texts that only
v2 wants are there. -/
theorem draftFromV1_valid_iff (hversion : workflow.definitionSchemaVersion = "workflow.schema.v1")
    (haccepted : validateV1 env message workflow.definition = .ok ()) :
    ∃ draft, draftFromV1 env message workflow = .ok draft ∧
      (draft.validationStatus = .valid ↔ Liftable workflow.definition) := by
  obtain ⟨draft, report, hdraft, -, -, hstatus, hvalid⟩ := draftFromV1_ok hversion haccepted
  refine ⟨draft, hdraft, ?_⟩
  rw [hstatus, ← hvalid, ValidationReport.status]
  cases report.valid <;> decide

end

/-- A v1 workflow with an approval and a shell step. -/
def restartWorkflow : StoredWorkflow where
  organization := 0
  name := "Restart"
  version := 1
  status := .published
  definition := .obj [("name", .str "Restart"), ("steps", .arr
    [ .obj [("id", .str "ask"), ("name", .str "Ask"), ("type", .str "approval"),
        ("risk", .str "low"), ("approvalTimeoutSeconds", .int 60)],
      .obj [("id", .str "run"), ("name", .str "Run"), ("type", .str "shell_command"),
        ("risk", .str "high"), ("command", .str "restart")] ])]
  runbook := 0
  definitionHashSha256 := ""
  validationStatus := .valid
  parseSource := .manual

theorem restartWorkflow_ok :
    validateV1 .sample (fun _ _ => "") restartWorkflow.definition = .ok () := by
  have hok : (validateV1 .sample (fun _ _ => "") restartWorkflow.definition).isOk = true := by
    decide +kernel
  obtain ⟨u, haccepted⟩ := exists_eq_ok hok
  exact haccepted

/-- The draft of the workflow. -/
theorem draftFromV1_valid_restartWorkflow :
    ∃ draft, draftFromV1 .sample (fun _ _ => "") restartWorkflow = .ok draft ∧
      (draft.validationStatus = .valid ↔ Liftable restartWorkflow.definition) :=
  draftFromV1_valid_iff rfl restartWorkflow_ok

-- ════════════════════════════════════════════════════════════════════════
-- The steps of the executions
-- ════════════════════════════════════════════════════════════════════════

/-- The row of the lifted step: an approval becomes an approval gate, and only a shell step keeps
its command. -/
def ExecutionStep.lifted (row : ExecutionStep) : ExecutionStep :=
  { row with
    stepType := if row.stepType = "approval" then "approval_gate" else row.stepType
    command := if row.stepType = "shell_command" then row.command else ""
    stepSnapshot := liftV1Step row.stepSnapshot }

section

variable {env : Env} {message : Schema → Json → String} {workflow : StoredWorkflow} {step : Json}

namespace StepV1

variable (s : StepV1 step) (execution position : ℕ)

/-- The row of the step. -/
def row : ExecutionStep where
  execution
  position
  stepKey := s.id
  name := s.name
  stepType := s.type.value
  riskLevel := s.risk
  command := s.command.getD ""
  requiresApproval := s.requiresApproval.getD false
  stepSnapshot := step

theorem charField_str (text : String) : charField env (.str text) = .ok text := rfl

theorem booleanField_flag (flag : Option Bool) :
    booleanField ((flag.map Json.bool).getD (.bool false)) = .ok (flag.getD false) := by
  cases flag <;> rfl

theorem stepRow_v1 :
    stepRow env execution position "workflow.schema.v1" step = .ok (s.row execution position) := by
  have hid : stepField step "id" = .ok (.str s.id) := by rw [stepField, s.get_id]
  have hname : stepField step "name" = .ok (.str s.name) := by rw [stepField, s.get_name]
  have htype : step.getD "type" (.str "") = .str s.type.value := by
    rw [Json.getD, s.get_type]
    rfl
  have hrisk : step.getD "risk" (.str "") = .str s.risk := by
    rw [Json.getD, s.get_risk]
    rfl
  have hcommand : extractStepCommand step "workflow.schema.v1" = .str (s.command.getD "") := by
    rw [extractStepCommand, if_neg (by decide), Json.getD, s.get_command]
    cases s.command <;> rfl
  have happroval : booleanField (step.getD "requiresApproval" (.bool false)) =
      .ok (s.requiresApproval.getD false) := by
    rw [Json.getD, s.get_requiresApproval, booleanField_flag]
  simp only [stepRow, hid, hname, htype, hrisk, hcommand, happroval, charField_str, ok_bind]
  rfl

theorem stepRow_v2 :
    stepRow env execution position "workflow.schema.v2" (liftV1Step step) =
      .ok (s.row execution position).lifted := by
  have hid : stepField (liftV1Step step) "id" = .ok (.str s.id) := by
    rw [stepField, s.get_liftV1Step]
    rfl
  have hname : stepField (liftV1Step step) "name" = .ok (.str s.name) := by
    rw [stepField, s.get_liftV1Step]
    rfl
  have htype : (liftV1Step step).getD "type" (.str "") =
      .str (if s.type.value = "approval" then "approval_gate" else s.type.value) := by
    rw [s.getD_liftV1Step]
    show Json.str s.type.lifted = _
    cases s.type <;> rfl
  have hrisk : (liftV1Step step).getD "risk" (.str "") = .str s.risk := s.getD_liftV1Step ..
  have hcommand : extractStepCommand (liftV1Step step) "workflow.schema.v2" =
      .str (if s.type.value = "shell_command" then s.command.getD "" else "") := by
    have haction : (liftV1Step step).getD "action" (.obj []) = .obj s.action :=
      s.getD_liftV1Step ..
    rw [extractStepCommand, if_pos rfl, haction, action]
    cases s.type with
    | manualTask => rfl
    | shellCommand => rfl
    | approval => cases s.timeout <;> rfl
  have happroval : booleanField ((liftV1Step step).getD "requiresApproval" (.bool false)) =
      .ok (s.requiresApproval.getD false) := by
    rw [s.getD_liftV1Step]
    exact booleanField_flag s.requiresApproval
  simp only [stepRow, hid, hname, htype, hrisk, hcommand, happroval, charField_str, ok_bind]
  rfl

end StepV1

theorem stepRows_lift (env : Env) {steps : List Json}
    (hsteps : ∀ step ∈ steps, Nonempty (StepV1 step)) (execution position : ℕ) :
    ∃ rows, stepRows env execution "workflow.schema.v1" position steps = .ok rows ∧
      stepRows env execution "workflow.schema.v2" position (steps.map liftV1Step) =
        .ok (rows.map ExecutionStep.lifted) := by
  induction steps generalizing position with
  | nil => exact ⟨[], rfl, rfl⟩
  | cons step steps ih =>
    obtain ⟨s⟩ := hsteps step List.mem_cons_self
    obtain ⟨rows, hrows, hrest⟩ :=
      ih (fun other hother => hsteps other (List.mem_cons_of_mem _ hother)) (position + 1)
    refine ⟨s.row execution position :: rows, ?_, ?_⟩
    · rw [stepRows, s.stepRow_v1, ok_bind, hrows]
      rfl
    · rw [List.map_cons, stepRows, s.stepRow_v2, ok_bind, hrest]
      rfl

/-- **Executions** of an accepted v1 workflow and of the draft lifted from it get the same steps, at
the same positions, but for what the lift changes in each. -/
theorem stepRows_lifted (hversion : workflow.definitionSchemaVersion = "workflow.schema.v1")
    (haccepted : validateV1 env message workflow.definition = .ok ()) (execution : ℕ) :
    ∃ draft rows, draftFromV1 env message workflow = .ok draft ∧
      stepRows env execution workflow.definitionSchemaVersion 1 (v1Steps workflow.definition) =
        .ok rows ∧
      stepRows env execution draft.definitionSchemaVersion 1 (v1Steps draft.definition) =
        .ok (rows.map ExecutionStep.lifted) := by
  obtain ⟨-, -, hsteps, -⟩ := validateV1_steps haccepted
  obtain ⟨draft, report, hdraft, hschema, hlifted, -, -⟩ := draftFromV1_ok hversion haccepted
  obtain ⟨rows, hrows, hrest⟩ := stepRows_lift env hsteps execution 1
  refine ⟨draft, rows, hdraft, ?_, ?_⟩
  · rw [hversion]
    exact hrows
  · rw [hschema, hlifted]
    exact hrest

end

/-- The steps of the executions of the workflow. -/
theorem stepRows_lifted_restartWorkflow :
    ∃ draft rows, draftFromV1 .sample (fun _ _ => "") restartWorkflow = .ok draft ∧
      stepRows .sample 0 restartWorkflow.definitionSchemaVersion 1
        (v1Steps restartWorkflow.definition) = .ok rows ∧
      stepRows .sample 0 draft.definitionSchemaVersion 1 (v1Steps draft.definition) =
        .ok (rows.map ExecutionStep.lifted) :=
  stepRows_lifted rfl restartWorkflow_ok 0

end RunbookPlatform
