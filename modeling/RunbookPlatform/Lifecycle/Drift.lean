import RunbookPlatform.Core.Canonical
import RunbookPlatform.Lifecycle.Drafts

/-!
# Drift of a submitted request

`validate_request_integrity` rebuilds the dossier of a submitted change from its live rows
and compares it with the frozen one. `IMMUTABLE_AFTER_SUBMIT` lists what the model hooks
freeze. The two are compared here: what the dossier leaves out can drift unseen.

## Main definitions

- `ChangeRecord.immutableAfterSubmit`, `targetFields` — what a submission freezes
- `Undrifted` — none of it has drifted
- `UnseenKept` — what the check does not see is as it was

## Main results

- `requestSnapshot_unique` — a dossier determines the request
- `integrity_detects_drift_iff` — a passed check excludes drift up to what it does not see
-/

namespace RunbookPlatform

open Transactional

-- ════════════════════════════════════════════════════════════════════════
-- What is frozen
-- ════════════════════════════════════════════════════════════════════════

/-- The emergency declaration of a change. -/
structure EmergencyDeclaration where
  isEmergency : Bool
  emergencyReason : String
  emergencyDeclaredBy : Option String
  emergencyDeclaredAt : Option Time

/-- The columns of `IMMUTABLE_AFTER_SUBMIT`. -/
structure ImmutableAfterSubmit where
  operationProfile : ℕ
  workflow : ℕ
  title : String
  summary : String
  justification : String
  requestedInputs : Json
  scheduledFor : Option Time
  requestedInputsSha256 : String
  requestSnapshot : Json
  requestSnapshotSha256 : String
  operationProfileKeySnapshot : String
  workflowVersionSnapshot : Option ℕ
  emergency : EmergencyDeclaration

def ChangeRecord.emergency (change : ChangeRecord) : EmergencyDeclaration where
  isEmergency := change.isEmergency
  emergencyReason := change.emergencyReason
  emergencyDeclaredBy := change.emergencyDeclaredBy
  emergencyDeclaredAt := change.emergencyDeclaredAt

/-- The frozen columns of a change. The order of keys in a JSON column does not count. -/
def ChangeRecord.immutableAfterSubmit (change : ChangeRecord) : ImmutableAfterSubmit where
  operationProfile := change.operationProfile
  workflow := change.workflow
  title := change.title
  summary := change.summary
  justification := change.justification
  requestedInputs := change.requestedInputs.sorted
  scheduledFor := change.scheduledFor
  requestedInputsSha256 := change.requestedInputsSha256
  requestSnapshot := change.requestSnapshot.sorted
  requestSnapshotSha256 := change.requestSnapshotSha256
  operationProfileKeySnapshot := change.operationProfileKeySnapshot
  workflowVersionSnapshot := change.workflowVersionSnapshot
  emergency := change.emergency

/-- The columns of a target that the dossier is made of. -/
structure TargetFields where
  position : ℕ
  targetType : String
  targetIdentifier : String
  normalizedIdentifier : String
  displayName : String
  environment : String
  metadata : Json

def ChangeTarget.fields (target : ChangeTarget) : TargetFields where
  position := target.position
  targetType := target.targetType
  targetIdentifier := target.targetIdentifier
  normalizedIdentifier := target.normalizedIdentifier
  displayName := target.displayName
  environment := target.environment
  metadata := target.metadata.sorted

/-- The targets of a change in the order of the dossier. -/
def dossierTargets (change : ℕ) (s : Db) : List ChangeTarget :=
  sortByPosition ((targetsOf change s).map (·.row))

/-- No frozen column of the change and of its targets has drifted between two states. -/
structure Undrifted (change : ℕ) (submitted live : ChangeRecord) (s s' : Db) : Prop where
  columns : live.immutableAfterSubmit = submitted.immutableAfterSubmit
  targets : (dossierTargets change s').map ChangeTarget.fields =
    (dossierTargets change s).map ChangeTarget.fields

/-- What the integrity check does not see is as it was at submit: the emergency declaration,
and which of the falsy values a JSON column holds. -/
structure UnseenKept (change : ℕ) (submitted live : ChangeRecord) (s s' : Db) : Prop where
  emergency : live.emergency = submitted.emergency
  requestedInputs : submitted.requestedInputs.truthy = false →
    submitted.requestedInputs = .obj [] ∧ live.requestedInputs = .obj []
  metadata : ∀ (i : ℕ) (old new : ChangeTarget), (dossierTargets change s)[i]? = some old →
    (dossierTargets change s')[i]? = some new → old.metadata.truthy = false →
      new.metadata = old.metadata

-- ════════════════════════════════════════════════════════════════════════
-- Falsy values
-- ════════════════════════════════════════════════════════════════════════

namespace Json

theorem sorted_of_falsy {v : Json} (h : v.truthy = false) : v.sorted = v := by
  cases v with
  | arr items =>
    cases items with
    | nil => rfl
    | cons => simp [truthy] at h
  | obj fs =>
    cases fs with
    | nil => rfl
    | cons => simp [truthy] at h
  | _ => rfl

theorem insertEntry_ne_nil {α : Type} (kv : String × α) (kvs : List (String × α)) :
    insertEntry kv kvs ≠ [] := by
  cases kvs with
  | nil => exact List.cons_ne_nil _ _
  | cons =>
    rw [insertEntry]
    split_ifs
    all_goals exact List.cons_ne_nil _ _

@[simp] theorem truthy_sorted (v : Json) : v.sorted.truthy = v.truthy := by
  cases v with
  | arr items => cases items <;> rfl
  | obj fs =>
    cases fs with
    | nil => rfl
    | cons kv fs =>
      have hne := insertEntry_ne_nil (kv.1, kv.2.sorted) (sortEntries (sortedFields fs))
      simpa [sorted, sortedFields, sortEntries, truthy] using hne
  | _ => rfl

/-- A falsy value is its own sorted form, and no other value has it. -/
theorem sorted_eq_iff_of_falsy {v w : Json} (h : w.truthy = false) :
    v.sorted = w.sorted ↔ v = w := by
  refine ⟨fun hvw => ?_, congrArg sorted⟩
  have hv : v.truthy = false := by rw [← truthy_sorted, hvw, truthy_sorted, h]
  rwa [sorted_of_falsy hv, sorted_of_falsy h] at hvw

/-- Values that agree after `or {}` differ at most when one of them is falsy. -/
theorem sorted_eq_iff_of_orElse {v w : Json}
    (h : (v.orElse (.obj [])).sorted = (w.orElse (.obj [])).sorted) :
    v.sorted = w.sorted ↔ (w.truthy = false → v = w) := by
  cases hw : w.truthy with
  | false => simpa using sorted_eq_iff_of_falsy hw
  | true =>
    have hv : v.truthy = true := by
      by_contra hv
      rw [Bool.not_eq_true] at hv
      simp only [orElse, hv, hw, Bool.false_eq_true, if_false, if_true] at h
      have htruthy := congrArg truthy h
      rw [truthy_sorted, truthy_sorted, hw] at htruthy
      cases htruthy
    simpa [orElse, hv, hw] using h

/-- The canonical text depends on the sorted form only. -/
theorem dumps_eq_of_sorted {v w : Json} (h : v.sorted = w.sorted) : v.dumps = w.dumps := by
  rw [← String.toList_inj, toList_dumps, toList_dumps, h]

/-- Requested inputs that agree after `or {}` are the same and have the hash of the submitted
ones, unless the submitted ones are falsy. -/
theorem requestedInputs_iff {f : String → String} (hf : Function.Injective f) {v w : Json}
    (h : (v.orElse (.obj [])).sorted = (w.orElse (.obj [])).sorted) :
    v.sorted = w.sorted ∧ f (v.orElse (.obj [])).dumps = f w.dumps ↔
      (w.truthy = false → w = .obj [] ∧ v = .obj []) := by
  rw [sorted_eq_iff_of_orElse h]
  constructor
  · rintro ⟨hsame, hhash⟩ hw
    have hempty : (obj []).sorted = w.sorted := by
      refine sorted_eq_of_dumps (hf (Eq.trans ?_ hhash))
      rw [hsame hw, orElse, hw, if_neg Bool.false_ne_true]
    have hwempty : w = obj [] := ((sorted_eq_iff_of_falsy hw).1 hempty).symm
    exact ⟨hwempty, (hsame hw).trans hwempty⟩
  · intro hempty
    refine ⟨fun hw => (hempty hw).2.trans (hempty hw).1.symm, ?_⟩
    cases hw : w.truthy with
    | true => rw [dumps_eq_of_sorted h, orElse, hw, if_pos rfl]
    | false =>
      obtain ⟨rfl, rfl⟩ := hempty hw
      rfl

end Json

-- ════════════════════════════════════════════════════════════════════════
-- Dossiers
-- ════════════════════════════════════════════════════════════════════════

theorem idText_inj {i j : ℕ} (h : idText i = idText j) : i = j :=
  Nat.repr_injective h

/-- The entry of a target determines its columns, up to the falsy values of the metadata. -/
theorem targetSnapshot_unique {t u : ChangeTarget}
    (h : (targetSnapshot t).sorted = (targetSnapshot u).sorted) :
    t.fields = u.fields ↔ (u.metadata.truthy = false → t.metadata = u.metadata) := by
  have hvalues := Json.sorted_values h rfl (by simp)
  simp only [List.map_cons, List.map_nil, List.cons.injEq, and_true, Json.sorted, Json.int.injEq, Json.str.injEq, Nat.cast_inj] at hvalues
  obtain ⟨hposition, htype, hidentifier, hnormalized, hname, henvironment, hmetadata⟩ := hvalues
  rw [← Json.sorted_eq_iff_of_orElse hmetadata]
  simp [ChangeTarget.fields, hposition, htype, hidentifier, hnormalized, hname, henvironment]

/-- A map that is injective on the values of options is injective. -/
theorem ofOptStr_map_inj {f : Time → String} (hf : Function.Injective f) {a b : Option Time}
    (h : (Json.ofOptStr (a.map f)).sorted = (Json.ofOptStr (b.map f)).sorted) : a = b := by
  cases a with
  | none => cases b with
    | none => rfl
    | some => cases h
  | some t => cases b with
    | none => cases h
    | some u =>
      simp only [Option.map_some, Json.ofOptStr, Json.sorted, Json.str.injEq] at h
      rw [hf h]

/-- **A dossier determines the request** it was made from: what two dossiers with the same
canonical text say of it is the same. -/
theorem requestSnapshot_unique {env : Env} (hiso : Function.Injective env.isoformat) {c : ℕ}
    {a b : ChangeRecord} {ts us : List ChangeTarget} {t u : Time}
    {p q : Option (Loaded OperationProfile)} {w x : Option (Loaded Workflow)} {k l v z : Json}
    (h : (requestSnapshot env ⟨c, a⟩ ts t p w k v).dumps =
      (requestSnapshot env ⟨c, b⟩ us u q x l z).dumps) :
    (a.operationProfile = b.operationProfile ∧ a.workflow = b.workflow ∧ a.title = b.title ∧
      a.summary = b.summary ∧ a.justification = b.justification ∧
        a.scheduledFor = b.scheduledFor) ∧
    k.sorted = l.sorted ∧ v.sorted = z.sorted ∧
    sha256CanonicalJson env (a.requestedInputs.orElse (.obj [])) =
      sha256CanonicalJson env (b.requestedInputs.orElse (.obj [])) ∧
    (sortByPosition ts).map (fun t => (targetSnapshot t).sorted) =
      (sortByPosition us).map (fun t => (targetSnapshot t).sorted) := by
  have hvalues := Json.sorted_values (Json.sorted_eq_of_dumps h) rfl (by simp)
  simp only [List.map_cons, List.map_nil, List.cons.injEq, and_true] at hvalues
  obtain ⟨-, htitle, hsummary, hjustification, hprofile, hkey, -, hworkflow, hversion, -, hinputs,
    -, -, hscheduled, htargets, -⟩ := hvalues
  simp only [Json.sorted, Json.str.injEq] at htitle hsummary hjustification hprofile hworkflow hinputs
  rw [Json.sorted, Json.sorted, Json.arr.injEq, Json.sortedItems_eq_map, Json.sortedItems_eq_map,
    List.map_map, List.map_map] at htargets
  exact ⟨⟨idText_inj hprofile, idText_inj hworkflow, htitle, hsummary, hjustification,
    ofOptStr_map_inj hiso hscheduled⟩, hkey, hversion, hinputs, htargets⟩

-- ════════════════════════════════════════════════════════════════════════
-- The check
-- ════════════════════════════════════════════════════════════════════════

/-- What a passed check of a submitted change says. -/
theorem validateRequestIntegrity_ok {env : Env} {c : ℕ} {s : Db} {live : ChangeRecord}
    (hlive : s.changes.get? c = some live) (hstatus : live.status ≠ .draft)
    (h : validateRequestIntegrity env c s = .ok ()) :
    sha256CanonicalJson env (live.requestedInputs.orElse (.obj [])) = live.requestedInputsSha256 ∧
    sha256CanonicalJson env live.requestSnapshot = live.requestSnapshotSha256 ∧
    ∃ submittedAt profile workflow,
      sha256CanonicalJson env (requestSnapshot env ⟨c, live⟩ ((targetsOf c s).map (·.row))
        submittedAt profile workflow (.str live.operationProfileKeySnapshot)
        ((live.workflowVersionSnapshot.map fun v => Json.int v).getD .null)) =
          live.requestSnapshotSha256 := by
  simp only [validateRequestIntegrity, Query.bind_ok, lookup_ok] at h
  obtain ⟨row, hrow, h⟩ := h
  rw [hlive, Option.some.injEq] at hrow
  subst hrow
  rw [if_neg hstatus] at h
  simp only [Query.bind_ok, ensure_ok] at h
  obtain ⟨_, -, _, hinputs, _, hsnapshot, liveSnapshot, hbuilt, -, hsha⟩ := h
  refine ⟨hinputs, hsnapshot, ?_⟩
  unfold buildLiveSubmittedRequestSnapshot at hbuilt
  cases hsubmitted : live.submittedAt with
  | none =>
    rw [hsubmitted] at hbuilt
    cases hbuilt
  | some submittedAt =>
    rw [hsubmitted] at hbuilt
    simp only [Query.bind_ok, select_ok, Query.pure_apply, Except.ok.injEq] at hbuilt
    obtain ⟨targets, rfl, profile, -, workflow, -, rfl⟩ := hbuilt
    exact ⟨submittedAt, _, _, hsha⟩

/-- Entries that agree leave what the targets' metadata decides. -/
theorem targetFields_iff {ts us : List ChangeTarget}
    (h : us.map (fun t => (targetSnapshot t).sorted) = ts.map fun t => (targetSnapshot t).sorted) :
    us.map ChangeTarget.fields = ts.map ChangeTarget.fields ↔
      ∀ (i : ℕ) (old new : ChangeTarget), ts[i]? = some old → us[i]? = some new →
        old.metadata.truthy = false → new.metadata = old.metadata := by
  induction us generalizing ts with
  | nil =>
    cases ts with
    | nil => simp
    | cons => cases h
  | cons u us ih =>
    cases ts with
    | nil => cases h
    | cons t ts =>
      rw [List.map_cons, List.map_cons, List.cons.injEq] at h
      rw [List.map_cons, List.map_cons, List.cons.injEq, targetSnapshot_unique h.1, ih h.2]
      refine ⟨fun hall i old new hold hnew => ?_, fun hall => ⟨?_, fun i old new hold hnew => ?_⟩⟩
      · cases i with
        | zero =>
          cases hold
          cases hnew
          exact hall.1
        | succ i => exact hall.2 i old new hold hnew
      · exact hall 0 t u rfl rfl
      · exact hall (i + 1) old new hold hnew

/-- **Drift is detected** up to what the dossier leaves out: a submitted change that passes the
integrity check with the hash of its submission has its frozen columns and its targets' columns
unchanged if and only if what the check does not see is. -/
theorem integrity_detects_drift_iff {env : Env} {A : Admission} {s s1 s2 : Db} {c : ℕ}
    {actor : AuditActor} {nonce : String} {submitted live : ChangeRecord}
    (hsha : Function.Injective env.sha256) (hiso : Function.Injective env.isoformat)
    (hrun : Interleaved env A s)
    (hsubmit : (submitChangeRecord env c actor nonce).run s = .ok ((), s1))
    (hsubmitted : s1.changes.get? c = some submitted) (hlive : s2.changes.get? c = some live)
    (hstatus : live.status ≠ .draft)
    (hhash : live.requestSnapshotSha256 = submitted.requestSnapshotSha256)
    (hpass : validateRequestIntegrity env c s2 = .ok ()) :
    Undrifted c submitted live s1 s2 ↔ UnseenKept c submitted live s1 s2 := by
  obtain ⟨htable, -, -, row, profile, frozen, submitted', hrow, hfreeze, hsub, -, hdossier⟩ :=
    submitChangeRecord_freezes hsubmit
  rw [hsubmitted] at hsub
  cases hsub
  obtain ⟨workflow, hsnapshot, hsnapshotSha, hinputsSha⟩ :=
    freezeRequest_ok hfreeze (drafts_blank hrun hrow)
  obtain ⟨hinputs, hlivesnapshot, submittedAt, liveProfile, liveWorkflow, hlivesha⟩ :=
    validateRequestIntegrity_ok hlive hstatus hpass
  simp only [ChangeRecord.dossier, FrozenRequest.apply, Dossier.mk.injEq] at hdossier
  obtain ⟨hprofile, hworkflow, htitle, hsummary, hjustification, hrequested, hrequestedSha, hsub,
    hsubSha, hkey, hversion, hscheduled, -⟩ := hdossier
  -- The live dossier and the frozen one have one hash, so they say the same of the request.
  have hdumps := hsha (hlivesha.trans (hhash.trans (hsubSha.trans hsnapshotSha)))
  rw [hsnapshot] at hdumps
  obtain ⟨hcolumns, hlivekey, hliveversion, hliveinputs, htargets⟩ :=
    requestSnapshot_unique hiso hdumps
  have hfrozen : live.requestSnapshot.sorted = submitted.requestSnapshot.sorted := by
    refine Json.sorted_eq_of_dumps (hsha (hlivesnapshot.trans (hhash.trans ?_)))
    rw [hsubSha, hsnapshotSha, hsub, sha256CanonicalJson]
  have horElse : (live.requestedInputs.orElse (.obj [])).sorted =
      (submitted.requestedInputs.orElse (.obj [])).sorted := by
    rw [hrequested]
    exact Json.sorted_eq_of_dumps (hsha hliveinputs)
  have hlivekey' : live.operationProfileKeySnapshot = frozen.operationProfileKeySnapshot := by
    simpa [Json.sorted] using hlivekey
  have hliveversion' : live.workflowVersionSnapshot = some frozen.workflowVersionSnapshot := by
    cases hlv : live.workflowVersionSnapshot with
    | none => simp [hlv, Json.sorted] at hliveversion
    | some v => simpa [hlv, Json.sorted] using hliveversion
  have hinputs_iff := Json.requestedInputs_iff hsha horElse
  have hsame : dossierTargets c s1 = dossierTargets c s := by
    rw [dossierTargets, dossierTargets, targetsOf, targetsOf, htable]
  have htargets_iff := targetFields_iff <|
    show (dossierTargets c s2).map _ = (dossierTargets c s1).map _ from hsame ▸ htargets
  have hcolumns_iff : live.immutableAfterSubmit = submitted.immutableAfterSubmit ↔
      (live.requestedInputs.sorted = submitted.requestedInputs.sorted ∧
        live.requestedInputsSha256 = submitted.requestedInputsSha256) ∧
      live.emergency = submitted.emergency := by
    obtain ⟨h1, h2, h3, h4, h5, h6⟩ := hcolumns
    simp only [ChangeRecord.immutableAfterSubmit, ImmutableAfterSubmit.mk.injEq, h1, h2, h3, h4, h5,
      h6, hprofile, hworkflow, htitle, hsummary, hjustification, hscheduled, hfrozen, hhash, hkey,
      hversion, hlivekey', hliveversion', true_and, and_assoc]
  have hhashes : live.requestedInputsSha256 = submitted.requestedInputsSha256 ↔
      env.sha256 (live.requestedInputs.orElse (.obj [])).dumps =
        env.sha256 submitted.requestedInputs.dumps := by
    rw [← hinputs, hrequestedSha, hinputsSha, hrequested, sha256CanonicalJson, sha256CanonicalJson]
  rw [hhashes, hinputs_iff] at hcolumns_iff
  constructor
  · rintro ⟨hcols, htgts⟩
    exact ⟨(hcolumns_iff.1 hcols).2, (hcolumns_iff.1 hcols).1, htargets_iff.1 htgts⟩
  · rintro ⟨hemergency, hrequest, hmetadata⟩
    exact ⟨hcolumns_iff.2 ⟨hrequest, hemergency⟩, htargets_iff.2 hmetadata⟩

/-- The submission of an emergency change. -/
def emergencySubmission : Except Err (Unit × Db) :=
  (submitChangeRecord .sample 0 .sample "nonce").run <| runOps .sample
    [.createChange { ChangeRequest.sample with
        requestedInputs := .obj [("host", .str "db-1")]
        isEmergency := true
        emergencyReason := "It hangs." } .sample] (.initial (.sample .sample) 0)

/-- The row of the change is edited behind the model hooks. -/
def Db.editChange (s : Db) (f : ChangeRecord → ChangeRecord) : Db :=
  { s with changes := s.changes.modify 0 f }

/-- The edited change is still a submitted one with its hash, and passes the check. -/
def passesEdited (f : ChangeRecord → ChangeRecord) (s : Db) : Bool :=
  (s.changes.get? 0).any (fun row => (f row).status ≠ .draft ∧
    (f row).requestSnapshotSha256 = row.requestSnapshotSha256 ∧
      row.emergencyReason = "It hangs." ∧ row.requestedInputs.keys = ["host"]) &&
  (validateRequestIntegrity .sample 0 (s.editChange f)).toOption.isSome

/-- The submission succeeds, and both edits of its change pass the check. -/
theorem emergencySubmission_checked : ∃ s, emergencySubmission = .ok ((), s) ∧
    passesEdited (fun row => { row with terminalReason := "edited" }) s = true ∧
      passesEdited (fun row => { row with emergencyReason := "" }) s = true := by
  have h : emergencySubmission.toOption.any (fun r =>
      passesEdited (fun row => { row with terminalReason := "edited" }) r.2 &&
        passesEdited (fun row => { row with emergencyReason := "" }) r.2) = true := by
    decide +kernel
  -- The kernel runs the submission in `h` alone.
  generalize emergencySubmission = result at h ⊢
  cases result with
  | error e => cases h
  | ok r => exact ⟨r.2, rfl, Bool.and_eq_true_iff.1 h⟩

/-- The edited state, with what `passesEdited` says of it. -/
theorem passesEdited_iff {f : ChangeRecord → ChangeRecord} {s : Db} (h : passesEdited f s = true) :
    ∃ row, s.changes.get? 0 = some row ∧ (s.editChange f).changes.get? 0 = some (f row) ∧
      (f row).status ≠ .draft ∧ (f row).requestSnapshotSha256 = row.requestSnapshotSha256 ∧
        row.emergencyReason = "It hangs." ∧ row.requestedInputs.keys = ["host"] ∧
          validateRequestIntegrity .sample 0 (s.editChange f) = .ok () := by
  rw [passesEdited, Bool.and_eq_true] at h
  obtain ⟨hrow, hpass⟩ := h
  obtain ⟨row, hrow, hfacts⟩ := (Option.any_eq_true _ _).1 hrow
  obtain ⟨hstatus, hhash, hreason, hkeys⟩ := of_decide_eq_true hfacts
  refine ⟨row, hrow, ?_, hstatus, hhash, hreason, hkeys, ?_⟩
  · rw [Db.editChange, Table.get?_modify_self, hrow, Option.map_some]
  · cases hcheck : validateRequestIntegrity .sample 0 (s.editChange f) with
    | error e => simp [hcheck, Except.toOption] at hpass
    | ok u => rfl

theorem sample_sha256_injective : Function.Injective Env.sample.sha256 := fun _ _ h => h

theorem sample_isoformat_injective : Function.Injective Env.sample.isoformat := fun _ _ h =>
  Nat.repr_injective h

/-- A column that is not frozen may change. -/
theorem integrity_detects_drift_edited :
    ∃ s submitted live, emergencySubmission = .ok ((), s) ∧ s.changes.get? 0 = some submitted ∧
      (s.editChange fun row => { row with terminalReason := "edited" }).changes.get? 0 = some live ∧
        Undrifted 0 submitted live s (s.editChange fun row => { row with terminalReason := "edited" }) := by
  obtain ⟨s, hrun, hcheck, -⟩ := emergencySubmission_checked
  obtain ⟨row, hrow, hlive, hstatus, hhash, -, hkeys, hpass⟩ := passesEdited_iff hcheck
  refine ⟨s, row, _, hrun, hrow, hlive, ?_⟩
  rw [emergencySubmission] at hrun
  refine (integrity_detects_drift_iff sample_sha256_injective sample_isoformat_injective
    (Reachable.sample _ _).interleaved hrun hrow hlive hstatus hhash hpass).2
    ⟨rfl, fun hfalsy => ?_, fun i old new hold hnew _ => ?_⟩
  · cases hinputs : row.requestedInputs with
    | obj fs =>
      rw [hinputs] at hfalsy hkeys
      cases fs with
      | nil => cases hkeys
      | cons => cases hfalsy
    | _ =>
      rw [hinputs] at hkeys
      cases hkeys
  · change (dossierTargets 0 s)[i]? = some new at hnew
    rw [hold] at hnew
    cases hnew
    rfl

/-- The reason of an emergency can be edited behind the model hooks, and the check still
passes. -/
theorem emergency_drifts_unseen :
    ¬∀ (env : Env) (A : Admission) (s s1 s2 : Db) (c : ℕ) (actor : AuditActor) (nonce : String)
      (submitted live : ChangeRecord), Function.Injective env.sha256 →
      Function.Injective env.isoformat → Interleaved env A s →
      (submitChangeRecord env c actor nonce).run s = .ok ((), s1) →
      s1.changes.get? c = some submitted → s2.changes.get? c = some live → live.status ≠ .draft →
      live.requestSnapshotSha256 = submitted.requestSnapshotSha256 →
      validateRequestIntegrity env c s2 = .ok () → Undrifted c submitted live s1 s2 := by
  intro h
  obtain ⟨s, hrun, -, hcheck⟩ := emergencySubmission_checked
  obtain ⟨row, hrow, hlive, hstatus, hhash, hreason, -, hpass⟩ := passesEdited_iff hcheck
  rw [emergencySubmission] at hrun
  have hundrifted := h .sample _ _ s _ 0 _ _ row _ sample_sha256_injective
    sample_isoformat_injective (Reachable.sample _ _).interleaved hrun hrow hlive hstatus hhash hpass
  have hkept : "" = row.emergencyReason :=
    congrArg (·.emergency.emergencyReason) hundrifted.columns
  rw [hreason] at hkept
  exact absurd hkept (by decide)

end RunbookPlatform
