import RunbookPlatform.Workflows.Reviewed

/-!
# What is published and executed

The saves that a session of the workflow services has made or is about to make are justified by
the rows and locks it holds. Other sessions hold other locks, so their commits leave it so, and
its own commit keeps the invariant of the tables.

## Main definitions

- `WorkflowPos.planned`, `WorkflowPos.Knows` — the saves to come, and what a position relies on
- `SessionReviewed` — the invariant of a session
- `reviewDiscipline` — the discipline of the services

## Main results

- `commit_saves` — a commit keeps the invariant, and lies beside every other session
- `SessionReviewed.advance` — each statement keeps the invariant of its session
- `reviewed_before_live`
-/

namespace RunbookPlatform

open Transactional Sessions

variable {env : Env} {message : Schema → Json → String} {maxChars : ℕ} {d d' : WorkflowDb}
  {held : List WorkflowLock}

-- ════════════════════════════════════════════════════════════════════════
-- The saves of a transaction
-- ════════════════════════════════════════════════════════════════════════

/-- The first save supersedes a workflow, and the second one does so too or publishes another. -/
def WorkflowWrite.Leaves (first second : WorkflowWrite) : Prop :=
  ∃ i, first = .supersede i ∧
    ((∃ j, second = .supersede j) ∨ ∃ j, second = .publish j ∧ j ≠ i)

theorem Justified.leaves {first second : WorkflowWrite}
    (hsecond : Justified env message d held second) (h : first.Leaves second) :
    Justified env message (first.apply d) held second := by
  obtain ⟨i, rfl, ⟨j, rfl⟩ | ⟨j, rfl, hne⟩⟩ := h
  · obtain ⟨hheld, row, hrow, hstatus⟩ := hsecond
    by_cases hj : j = i
    · subst hj
      exact ⟨hheld, _, by rw [WorkflowWrite.apply, Table.get?_modify_self, hrow]; rfl, .inr rfl⟩
    · exact ⟨hheld, row, by rw [WorkflowWrite.apply, Table.get?_modify_of_ne hj, hrow], hstatus⟩
  · obtain ⟨hheld, row, hrow, hguard⟩ := hsecond
    exact ⟨hheld, row, by rw [WorkflowWrite.apply, Table.get?_modify_of_ne hne, hrow], hguard⟩

theorem Justified.mono {write : WorkflowWrite} {locks : List WorkflowLock}
    (h : Justified env message d held write) (hlocks : held ⊆ locks) :
    Justified env message d locks write := by
  cases write with
  | insert row call => exact ⟨hlocks h.locked, h.newest, h.draft, h.validated, h.flagged⟩
  | execute row => exact h
  | accept | reject | supersede | publish | archive => exact ⟨hlocks h.1, h.2⟩

/-- A justified save does not touch what other sessions hold. -/
theorem Justified.beside {write : WorkflowWrite} {theirs : List WorkflowLock}
    (h : Justified env message d held write) (hdisjoint : ∀ row ∈ held, row ∉ theirs) :
    Beside theirs d (write.apply d) := by
  have hmodify : ∀ {i : ℕ} {f : StoredWorkflow → StoredWorkflow}, .workflow i ∈ held →
      (∀ j row, .workflow j ∈ theirs → d.workflows.get? j = some row →
        (d.workflows.modify i f).get? j = some row) ∧
      ∀ j row, (d.workflows.modify i f).get? j = some row → d.workflows.get? j = none →
        .runbook row.runbook ∉ theirs := by
    intro i f hi
    refine ⟨fun j row hj hrow => ?_, fun j row hrow hnone => ?_⟩
    · have hne : j ≠ i := fun heq => hdisjoint _ hi (heq ▸ hj)
      rw [Table.get?_modify_of_ne hne, hrow]
    · have hlt := Table.lt_next hrow
      rw [Table.next_modify, ← Table.get?_isSome_iff, hnone] at hlt
      cases hlt
  cases write with
  | insert row call =>
    refine ⟨h.extended, fun i old _ hold => Table.get?_insert_of_some row hold,
      fun i new hnew hnone => ?_⟩
    change (d.workflows.insert row).get? i = some new at hnew
    rw [Table.get?_insert] at hnew
    split_ifs at hnew
    · cases hnew
      exact hdisjoint _ h.locked
    · rw [hnone] at hnew
      cases hnew
  | execute row =>
    refine ⟨h.extended, fun i old _ hold => hold, fun i new hnew hnone => ?_⟩
    change d.workflows.get? i = some new at hnew
    rw [hnone] at hnew
    cases hnew
  | accept | reject | supersede | publish | archive =>
    exact ⟨h.extended, (hmodify h.1).1, (hmodify h.1).2⟩

/-- **A commit of justified saves** keeps the invariant and lies beside other sessions. -/
theorem commit_saves {pending : List WorkflowWrite} (hinv : WorkflowsReviewed env message d)
    (hjustified : ∀ write ∈ pending, Justified env message d held write)
    (horder : pending.Pairwise WorkflowWrite.Leaves) :
    WorkflowsReviewed env message ((workflowMachine env message maxChars).view d pending) ∧
      ∀ theirs, (∀ row ∈ held, row ∉ theirs) →
        Beside theirs d ((workflowMachine env message maxChars).view d pending) := by
  induction pending generalizing d with
  | nil => exact ⟨hinv, fun theirs _ => .refl theirs d⟩
  | cons write rest ih =>
    rw [List.pairwise_cons] at horder
    have hwrite := hjustified write List.mem_cons_self
    obtain ⟨hlater, hbeside⟩ := ih (hwrite.inv hinv)
      (fun w hw => (hjustified w (List.mem_cons_of_mem _ hw)).leaves (horder.1 w hw)) horder.2
    exact ⟨hlater, fun theirs hdisjoint =>
      (hwrite.beside hdisjoint).trans (hbeside theirs hdisjoint)⟩

/-- A transaction of supersedings sees the row as it is, or superseded. -/
theorem view_supersedes {pending : List WorkflowWrite}
    (h : ∀ write ∈ pending, ∃ i, write = .supersede i) (j : ℕ) :
    .supersede j ∉ pending ∧
        ((workflowMachine env message maxChars).view d pending).workflows.get? j =
          d.workflows.get? j ∨
      .supersede j ∈ pending ∧
        ((workflowMachine env message maxChars).view d pending).workflows.get? j =
          (d.workflows.get? j).map fun row => { row with status := .superseded } := by
  induction pending generalizing d with
  | nil => exact .inl ⟨List.not_mem_nil, rfl⟩
  | cons write rest ih =>
    obtain ⟨i, rfl⟩ := h write List.mem_cons_self
    have hfirst : ((WorkflowWrite.supersede i).apply d).workflows.get? j =
        if j = i then (d.workflows.get? j).map fun row => { row with status := .superseded }
        else d.workflows.get? j := Table.get?_modify _ _ _ _
    have hrest := ih (d := (WorkflowWrite.supersede i).apply d)
      fun w hw => h w (List.mem_cons_of_mem _ hw)
    by_cases hj : j = i
    · subst hj
      rw [hfirst, if_pos rfl, Option.map_map] at hrest
      refine .inr ⟨List.mem_cons_self, ?_⟩
      rcases hrest with ⟨-, hview⟩ | ⟨-, hview⟩
      · exact hview
      · exact hview
    · have hmem : WorkflowWrite.supersede j ∈ .supersede i :: rest ↔ .supersede j ∈ rest := by
        simp [hj]
      rw [hfirst, if_neg hj] at hrest
      rw [hmem]
      exact hrest

/-- What a transaction of supersedings sees published is published, and not superseded by it. -/
theorem published_of_view {pending : List WorkflowWrite} {runbook j : ℕ}
    (h : ∀ write ∈ pending, ∃ i, write = .supersede i)
    (hpublished :
      ((workflowMachine env message maxChars).view d pending).isPublishedIn runbook j = true) :
    ∃ row, d.workflows.get? j = some row ∧ row.runbook = runbook ∧ row.status = .published ∧
      .supersede j ∉ pending := by
  obtain ⟨row, hrow, hboth⟩ := (Option.any_eq_true _ _).1 hpublished
  obtain ⟨hrunbook, hstatus⟩ : row.runbook = runbook ∧ row.status = .published := by
    simpa using hboth
  rcases view_supersedes h j with ⟨hnone, hview⟩ | ⟨-, hview⟩
  · exact ⟨row, hview ▸ hrow, hrunbook, hstatus, hnone⟩
  · rw [hview] at hrow
    obtain ⟨old, -, rfl⟩ := Option.map_eq_some_iff.1 hrow
    cases hstatus

-- ════════════════════════════════════════════════════════════════════════
-- Sessions
-- ════════════════════════════════════════════════════════════════════════

/-- The saves that a position is about to make. -/
def WorkflowPos.planned : WorkflowPos → List WorkflowWrite
  | supersede i _ | superseding i _ _ => [.publish i]
  | superseded i _ sibling _ => [.supersede sibling, .publish i]
  | save write => [write]
  | _ => []

/-- A draft that is right for the call. -/
structure Draft.Fits (env : Env) (message : Schema → Json → String) (d : WorkflowDb)
    (draft : Draft) (c : WorkflowCall) : Prop where
  validated : draft.definitionSchemaVersion = "workflow.schema.v2" →
    draft.validationStatus = .valid → validateV2 env message draft.definition = .ok ()
  flagged : Flagged d c draft.requiresReview

/-- What a position relies on. -/
def WorkflowPos.Knows (env : Env) (message : Schema → Json → String) (d : WorkflowDb)
    (held : List WorkflowLock) (pending : List WorkflowWrite) : WorkflowPos → Prop
  | .call _ => pending = []
  | drafted _ draft c => pending = [] ∧ draft.Fits env message d c
  | locked runbook _ draft c =>
    pending = [] ∧ .runbook runbook ∈ held ∧ draft.Fits env message d c
  | superseding i _ siblings | superseded i _ _ siblings => i ∉ siblings
  | loaded i row _ _ _ => pending = [] ∧ (row.status = .published → Executable d i)
  | _ => True

/-- The invariant of a session. -/
structure SessionReviewed (env : Env) (message : Schema → Json → String) (d : WorkflowDb)
    (s : Session WorkflowLock WorkflowWrite WorkflowPos) : Prop where
  knows : s.pos.Knows env message d s.held s.pending
  justified : ∀ write ∈ s.pending ++ s.pos.planned, Justified env message d s.held write
  order : (s.pending ++ s.pos.planned).Pairwise WorkflowWrite.Leaves

theorem Draft.Fits.later {draft : Draft} {c : WorkflowCall} (h : d.Extends d')
    (hfits : draft.Fits env message d c) : draft.Fits env message d' c :=
  ⟨hfits.validated, Beside.flagged h hfits.flagged⟩

namespace SessionReviewed

variable {pos : WorkflowPos} {pending : List WorkflowWrite}

/-- A session that plans no saves and has made none. -/
theorem idle (hplanned : pos.planned = []) (hknows : pos.Knows env message d held []) :
    SessionReviewed env message d ⟨pos, [], held⟩ :=
  ⟨hknows, by simp [hplanned], by simp [hplanned]⟩

theorem failed (e : Err) : SessionReviewed env message d ⟨.failed e, [], held⟩ := idle rfl trivial

/-- A session that makes one save. -/
theorem save {write : WorkflowWrite} (h : Justified env message d held write) :
    SessionReviewed env message d ⟨.save write, [], held⟩ :=
  ⟨trivial, by simpa [WorkflowPos.planned] using h, by simp [WorkflowPos.planned]⟩

/-- A session that is about to supersede siblings. -/
theorem supersede {i runbook : ℕ} (h : Justified env message d held (.publish i)) :
    SessionReviewed env message d ⟨.supersede i runbook, [], held⟩ :=
  ⟨trivial, by simpa [WorkflowPos.planned] using h, by simp [WorkflowPos.planned]⟩

theorem withRow {α : Type} {model : String} {row : Option α} {next : α → WorkflowPos}
    (h : ∀ a, row = some a → SessionReviewed env message d ⟨next a, [], held⟩) :
    SessionReviewed env message d ⟨withRow model row next, [], held⟩ :=
  withRow_elim (p := fun pos => SessionReviewed env message d ⟨pos, [], held⟩) failed h

theorem proceed {α : Type} {guarded : Except Err α} {next : α → WorkflowPos}
    (h : ∀ a, guarded = .ok a → SessionReviewed env message d ⟨next a, [], held⟩) :
    SessionReviewed env message d ⟨proceed guarded next, [], held⟩ :=
  proceed_elim (p := fun pos => SessionReviewed env message d ⟨pos, [], held⟩) failed h

/-- Commits of others leave the invariant of a session. -/
theorem beside {s : Session WorkflowLock WorkflowWrite WorkflowPos}
    (hinv : WorkflowsReviewed env message d) (h : SessionReviewed env message d s)
    (hbeside : Beside s.held d d') : SessionReviewed env message d' s where
  knows := by
    obtain ⟨pos, pending, held⟩ := s
    have hknows := h.knows
    cases pos with
    | drafted runbook draft c => exact ⟨hknows.1, hknows.2.later hbeside.extended⟩
    | locked i runbook draft c => exact ⟨hknows.1, hknows.2.1, hknows.2.2.later hbeside.extended⟩
    | loaded => exact ⟨hknows.1, fun hstatus => (hknows.2 hstatus).later hinv hbeside.extended⟩
    | _ => exact hknows
  justified write hwrite := hbeside.justified hinv (h.justified write hwrite)
  order := h.order

end SessionReviewed

-- ════════════════════════════════════════════════════════════════════════
-- The calls
-- ════════════════════════════════════════════════════════════════════════

theorem draftFromCandidate_fits {candidate : WorkflowCandidate} {requiresReview : Bool}
    {parseSource : ParseSource} {draft : Draft} {c : WorkflowCall}
    (h : draftFromCandidate env message candidate requiresReview parseSource = .ok draft)
    (hflagged : Flagged d c requiresReview) : draft.Fits env message d c := by
  simp only [draftFromCandidate, except_bind_ok] at h
  obtain ⟨-, -, -, -, hdraft⟩ := h
  cases hdraft
  exact ⟨fun hschema => by simp at hschema, hflagged⟩

/-- A report of success is the success of the validation. -/
theorem validateV2_of_report {definition : Json} {report : ValidationReport}
    (h : buildValidationReport env message definition "workflow.schema.v2" = .ok report)
    (hvalid : report.status = .valid) : validateV2 env message definition = .ok () := by
  rw [buildValidationReport] at h
  split at h
  · rename_i u hok
    exact hok
  · split_ifs at h
    cases h
    cases hvalid

theorem draftFromDefinition_fits {definition : Json} {draft : Draft} {c : WorkflowCall}
    (h : draftFromDefinition env message definition = .ok draft)
    (hflagged : Flagged d c false) : draft.Fits env message d c := by
  simp only [draftFromDefinition, except_bind_ok] at h
  obtain ⟨report, hreport, hdraft⟩ := h
  cases hdraft
  exact ⟨fun _ => validateV2_of_report hreport, hflagged⟩

theorem draftFromV1_fits {row : StoredWorkflow} {draft : Draft} {c : WorkflowCall}
    (h : draftFromV1 env message row = .ok draft)
    (hflagged : Flagged d c (row.parseSource = .aiParse || hasShellStep row.definition)) :
    draft.Fits env message d c := by
  simp only [draftFromV1, except_bind_ok] at h
  obtain ⟨-, -, report, hreport, hdraft⟩ := h
  cases hdraft
  exact ⟨fun _ => validateV2_of_report hreport, hflagged⟩

/-- The row of a draft. -/
theorem Draft.row_ok {draft : Draft} {runbookId version : ℕ} {runbook : Runbook}
    {row : StoredWorkflow} (h : draft.row env runbookId runbook version = .ok row) :
    row.runbook = runbookId ∧ row.version = version ∧ row.status = .draft ∧
      row.requiresReview = draft.requiresReview ∧
      row.definitionSchemaVersion = draft.definitionSchemaVersion ∧
      row.definition = draft.definition ∧ row.validationStatus = draft.validationStatus := by
  simp only [Draft.row, except_bind_ok] at h
  obtain ⟨name, -, catalogVersion, -, hrow⟩ := h
  cases hrow
  exact ⟨rfl, rfl, rfl, rfl, rfl, rfl, rfl⟩

theorem le_foldr_max {rows : List StoredWorkflow} {row : StoredWorkflow} (h : row ∈ rows) :
    row.version ≤ rows.foldr (fun row version => max row.version version) 0 := by
  induction rows with
  | nil => cases h
  | cons first rest ih =>
    rcases List.mem_cons.1 h with rfl | h
    · exact le_max_left _ _
    · exact (ih h).trans (le_max_right _ _)

theorem WorkflowDb.version_le_max {i : ℕ} {row : StoredWorkflow}
    (h : d.workflows.get? i = some row) : row.version ≤ d.maxVersion row.runbook :=
  le_foldr_max (List.mem_filter.2 ⟨List.mem_of_getElem? h, by simp⟩)

theorem checkCreateExecution_published {i : ℕ} {row : Workflow} {mode : ExecutionMode}
    {fromChangeService : Bool} {s : Db} {u : Unit}
    (h : checkCreateExecution env i row mode fromChangeService s = .ok u) :
    row.status = .published := by
  simp only [checkCreateExecution, Transactional.Query.bind_ok] at h
  obtain ⟨_, hstatus, -⟩ := h
  exact ensure_ok.1 hstatus

/-- A published workflow that needs a review has had it. -/
theorem RowReviewed.accepted {i : ℕ} {row : StoredWorkflow} (h : RowReviewed env message d i row)
    (hstatus : row.status = .published) (hneeds : d.NeedsReview i) : d.Accepted i := by
  rcases h.review hneeds with haccepted | ⟨-, hdraft⟩ | harchived
  · exact haccepted
  · rw [hdraft] at hstatus
    cases hstatus
  · rw [harchived] at hstatus
    cases hstatus

namespace SessionReviewed

/-- A workflow is locked, and passes its guards. -/
theorem lockWorkflow {i : ℕ} {guard : StoredWorkflow → Except Err Unit}
    {next : StoredWorkflow → WorkflowPos}
    (h : ∀ row, d.workflows.get? i = some row → guard row = .ok () →
      SessionReviewed env message d ⟨next row, [], .workflow i :: held⟩) :
    SessionReviewed env message d
      ⟨RunbookPlatform.withRow "Workflow" (d.workflows.get? i) fun row =>
        RunbookPlatform.proceed (guard row) fun _ => next row, [],
        ((d.workflows.get? i).elim [] fun _ => [.workflow i]) ++ held⟩ := by
  cases hrow : d.workflows.get? i with
  | none => exact failed _
  | some row => exact proceed fun _ hguard => h row hrow hguard

/-- The first statement of a call. -/
theorem call (op : WorkflowOp) (w : Unit) (hinv : WorkflowsReviewed env message d) :
    SessionReviewed env message d
      ((workflowMachine env message maxChars).advance d w ⟨.call op, [], held⟩).2.2 := by
  cases op with
  | createWorkflow runbook candidate requiresReview parseSource =>
    exact proceed fun draft hdraft =>
      idle rfl ⟨rfl, draftFromCandidate_fits hdraft ⟨rfl, nofun, nofun⟩⟩
  | createWorkflowFromRunbook runbook candidate =>
    refine withRow fun row _ => ?_
    split_ifs
    · exact failed _
    · exact proceed fun draft hdraft =>
        idle rfl ⟨rfl, draftFromCandidate_fits hdraft ⟨rfl, fun _ _ => rfl, nofun⟩⟩
  | createWorkflowV2Draft runbook definition =>
    exact proceed fun draft hdraft =>
      idle rfl ⟨rfl, draftFromDefinition_fits hdraft ⟨rfl, nofun, nofun⟩⟩
  | createV2DraftFromV1 i =>
    refine withRow fun row hrow => proceed fun draft hdraft =>
      idle rfl ⟨rfl, draftFromV1_fits hdraft ⟨rfl, nofun, fun source hsource => ?_⟩⟩
    cases hsource
    exact ⟨row, hrow, by simp⟩
  | acceptReview i =>
    refine lockWorkflow fun row hrow hguard => save ⟨List.mem_cons_self, row, hrow, ?_⟩
    simp only [checkPendingReview, except_bind_ok, check_ok] at hguard
    exact hguard.choose_spec.2
  | rejectReview i =>
    refine lockWorkflow fun row hrow hguard => save ⟨List.mem_cons_self, row, hrow, ?_⟩
    simp only [checkPendingReview, except_bind_ok, check_ok] at hguard
    exact hguard.choose_spec.2
  | publishWorkflow i =>
    exact lockWorkflow fun row hrow hguard =>
      supersede ⟨List.mem_cons_self, row, hrow, hguard⟩
  | archiveWorkflow i =>
    exact lockWorkflow fun row hrow hguard => save ⟨List.mem_cons_self, row, hrow, hguard⟩
  | createExecution i mode actor fromChangeService =>
    exact withRow fun row hrow => idle rfl ⟨rfl, fun hstatus =>
      ⟨Table.lt_next hrow, (hinv.rows i row hrow).accepted hstatus⟩⟩

/-- The row of a draft gets the newest version of its runbook. -/
theorem locked {runbookId : ℕ} {runbook : Runbook} {draft : Draft} {c : WorkflowCall}
    {row : StoredWorkflow} (hlocked : .runbook runbookId ∈ held)
    (hfits : draft.Fits env message d c)
    (hrow : draft.row env runbookId runbook (d.maxVersion runbookId + 1) = .ok row) :
    SessionReviewed env message d ⟨.save (.insert row c), [], held⟩ := by
  obtain ⟨hrunbook, hversion, hstatus, hflag, hschema, hdefinition, hvalid⟩ := Draft.row_ok hrow
  refine save ⟨hrunbook ▸ hlocked, fun i old hold hsame => ?_, hstatus, ?_, hflag ▸ hfits.flagged⟩
  · rw [hversion, ← hrunbook, ← hsame]
    exact Nat.lt_succ_of_le (WorkflowDb.version_le_max hold)
  · rw [hschema, hdefinition, hvalid]
    exact hfits.validated

/-- The session writes the first of the planned saves. -/
theorem written {pos next : WorkflowPos} {pending : List WorkflowWrite} {write : WorkflowWrite}
    (h : SessionReviewed env message d ⟨pos, pending, held⟩)
    (hplanned : pos.planned = write :: next.planned)
    (hknows : next.Knows env message d held (pending ++ [write])) :
    SessionReviewed env message d ⟨next, pending ++ [write], held⟩ := by
  obtain ⟨-, hjustified, horder⟩ := h
  rw [hplanned] at hjustified horder
  exact ⟨hknows, by simpa using hjustified, by simpa using horder⟩

/-- A sibling is still published when its lock is given. -/
theorem sibling {i runbook sibling : ℕ} {siblings : List ℕ} {pending : List WorkflowWrite}
    (h : SessionReviewed env message d ⟨.superseding i runbook (sibling :: siblings), pending, held⟩)
    (hpublished :
      ((workflowMachine env message maxChars).view d pending).isPublishedIn runbook sibling = true) :
    SessionReviewed env message d
      ⟨.superseded i runbook sibling siblings, pending, .workflow sibling :: held⟩ := by
  have hnone : i ∉ sibling :: siblings := h.knows
  rw [List.mem_cons, not_or] at hnone
  obtain ⟨hne, hrest⟩ := hnone
  obtain ⟨hpending, -, hleaves⟩ := List.pairwise_append.1 h.order
  have hsupersedes : ∀ write ∈ pending, ∃ j, write = .supersede j := fun write hwrite =>
    (hleaves write hwrite (.publish i) List.mem_cons_self).imp fun _ hj => hj.1
  obtain ⟨row, hrow, -, hstatus, -⟩ := published_of_view hsupersedes hpublished
  refine ⟨hrest, fun write hwrite => ?_, List.pairwise_append.2 ⟨hpending, ?_, ?_⟩⟩
  · rcases List.mem_append.1 hwrite with hwrite | hwrite
    · exact (h.justified write (List.mem_append_left _ hwrite)).mono (List.subset_cons_self _ _)
    · rcases List.mem_cons.1 hwrite with rfl | hwrite
      · exact ⟨List.mem_cons_self, row, hrow, .inl hstatus⟩
      · exact (h.justified write (List.mem_append_right _ hwrite)).mono (List.subset_cons_self _ _)
  · exact List.pairwise_pair.2 ⟨sibling, rfl, .inr ⟨i, rfl, hne⟩⟩
  · intro write hwrite later hlater
    rcases List.mem_cons.1 hlater with rfl | hlater
    · obtain ⟨j, rfl⟩ := hsupersedes write hwrite
      exact ⟨j, rfl, .inl ⟨sibling, rfl⟩⟩
    · exact hleaves write hwrite later hlater

/-- **Each statement** keeps the invariant of the tables and of its session. -/
theorem advance (maxChars : ℕ) {s : Session WorkflowLock WorkflowWrite WorkflowPos} (w : Unit)
    (hinv : WorkflowsReviewed env message d) (h : SessionReviewed env message d s) :
    WorkflowsReviewed env message ((workflowMachine env message maxChars).advance d w s).1 ∧
      SessionReviewed env message ((workflowMachine env message maxChars).advance d w s).1
        ((workflowMachine env message maxChars).advance d w s).2.2 := by
  obtain ⟨pos, pending, held⟩ := s
  have hknows := h.knows
  cases pos with
  | call op =>
    cases hknows
    have hdb : ((workflowMachine env message maxChars).advance d w ⟨.call op, [], held⟩).1 = d := by
      cases op <;> rfl
    rw [hdb]
    exact ⟨hinv, call op w hinv⟩
  | drafted runbook draft c =>
    obtain ⟨rfl, hfits⟩ := hknows
    refine ⟨hinv, withRow fun row hrow => idle rfl ⟨rfl, ?_, hfits⟩⟩
    have hlocked : d.runbooks.get? runbook = some row := hrow
    simp [hlocked]
  | locked runbookId runbook draft c =>
    obtain ⟨rfl, hlocked, hfits⟩ := hknows
    exact ⟨hinv, locked_elim (p := fun pos => SessionReviewed env message d ⟨pos, [], held⟩)
      (w := w) failed fun row hrow => locked hlocked hfits hrow⟩
  | supersede i runbook =>
    refine ⟨hinv, ⟨fun hi => ?_, h.justified, h.order⟩⟩
    obtain ⟨row, -, hsibling⟩ := Table.mem_keys.1 hi
    simp at hsibling
  | superseding i runbook siblings =>
    cases siblings with
    | nil => exact ⟨hinv, h.written rfl trivial⟩
    | cons sibling siblings =>
      refine ⟨hinv, ?_⟩
      change SessionReviewed env message d
        ⟨if ((workflowMachine env message maxChars).view d pending).isPublishedIn runbook sibling
            then .superseded i runbook sibling siblings else .superseding i runbook siblings,
          pending,
          (if ((workflowMachine env message maxChars).view d pending).isPublishedIn runbook sibling
            then [.workflow sibling] else []) ++ held⟩
      split_ifs with hpublished
      · exact h.sibling hpublished
      · exact ⟨fun hi => hknows (List.mem_cons_of_mem _ hi), h.justified, h.order⟩
  | superseded i runbook sibling siblings => exact ⟨hinv, h.written rfl hknows⟩
  | published i runbook =>
    have hsaves := h.justified
    have horder := h.order
    rw [show WorkflowPos.planned (.published i runbook) = [] from rfl, List.append_nil] at hsaves horder
    exact ⟨(commit_saves hinv hsaves horder).1, idle rfl trivial⟩
  | loaded i row mode actor fromChangeService =>
    obtain ⟨rfl, hexecutable⟩ := hknows
    refine ⟨hinv, proceed fun _ hguard => proceed fun _ _ => save (hexecutable ?_)⟩
    exact checkCreateExecution_published hguard
  | save write =>
    exact ⟨hinv, h.written rfl trivial⟩
  | saved =>
    have hsaves := h.justified
    have horder := h.order
    rw [show WorkflowPos.planned .saved = [] from rfl, List.append_nil] at hsaves horder
    exact ⟨(commit_saves hinv hsaves horder).1, idle rfl trivial⟩
  | failed e => exact ⟨hinv, idle rfl trivial⟩
  | raised e => exact ⟨hinv, h⟩
  | done => exact ⟨hinv, h⟩

end SessionReviewed

-- ════════════════════════════════════════════════════════════════════════
-- Runs
-- ════════════════════════════════════════════════════════════════════════

/-- What a statement of a session leaves to a session with other locks. -/
theorem SessionReviewed.others (maxChars : ℕ)
    {s : Session WorkflowLock WorkflowWrite WorkflowPos} (theirs : List WorkflowLock) (w : Unit)
    (hinv : WorkflowsReviewed env message d) (h : SessionReviewed env message d s)
    (hdisjoint : ∀ row ∈ s.held, row ∉ theirs) :
    Beside theirs d ((workflowMachine env message maxChars).advance d w s).1 := by
  rcases (workflowMachine env message maxChars).advance_db d w s with hsame | ⟨-, hcommit⟩
  · rw [hsame]
    exact .refl theirs d
  · rw [hcommit]
    have hsaves := fun write hwrite => h.justified write (List.mem_append_left _ hwrite)
    exact (commit_saves hinv hsaves (List.pairwise_append.1 h.order).1).2 theirs hdisjoint

theorem WorkflowsReviewed.fresh {u : Unit} (h : d.Fresh u) : WorkflowsReviewed env message d := by
  obtain ⟨hworkflows, hexecutions, hreturned⟩ := h
  refine ⟨fun i row hrow => ?_, fun call i hcall => ?_, fun source i hcall => ?_,
    fun i j old new _ hold => ?_, fun e row hrow => ?_⟩
  all_goals simp_all [Table.empty, Table.get?]

/-- The discipline of the workflow services. -/
def reviewDiscipline (env : Env) (message : Schema → Json → String) (maxChars : ℕ) :
    Discipline (workflowMachine env message maxChars) everyOrder WorkflowDb.Fresh where
  Inv d _ := WorkflowsReviewed env message d
  Ok d _ s := SessionReviewed env message d s
  Apart := Machine.Disjoint
  symm h row ht hs := h row hs ht
  initial h := .fresh h
  started {d w p} hp := by
    cases p with
    | call op => exact ⟨.idle rfl rfl, fun t row hrow => nomatch hrow⟩
    | _ => cases hp
  advance {d w s} hinv h := h.advance maxChars w hinv
  others {d w s t} hinv hs ht hdisjoint hblocked _ :=
    ⟨ht.beside hinv (hs.others maxChars t.held w hinv hdisjoint), hdisjoint.advance hblocked⟩
  raised {d w s} _ _ _ := ⟨.idle rfl trivial, fun t _ row hrow => nomatch hrow⟩

/-- What is live has been reviewed and validated, and versions grow. -/
structure ReviewedBeforeLive (env : Env) (message : Schema → Json → String) (d : WorkflowDb) :
    Prop where
  published : ∀ i row, d.workflows.get? i = some row → row.status = .published →
    d.NeedsReview i → d.Accepted i
  executed : ∀ e row, d.executions.get? e = some row → d.NeedsReview row.workflow →
    d.Accepted row.workflow
  validated : ∀ i row, d.workflows.get? i = some row → row.status = .published →
    row.definitionSchemaVersion = "workflow.schema.v2" →
      validateV2 env message row.definition = .ok ()
  versions : ∀ i j old new, i < j → d.workflows.get? i = some old →
    d.workflows.get? j = some new → old.runbook = new.runbook → old.version < new.version

/-- Archived workflows stay archived. -/
def KeepsArchived (d d' : WorkflowDb) : Prop :=
  ∀ i row, d.workflows.get? i = some row → row.status = .archived →
    ∃ row', d'.workflows.get? i = some row' ∧ row'.status = .archived

/-- **Reviewed before live.** In every run of the workflow services, whatever sessions overlap,
the workflows that are published or executed have been reviewed if they need it, published v2
definitions validate, versions grow, and no workflow leaves the archive. -/
theorem reviewed_before_live
    {c : Config WorkflowDb WorkflowLock WorkflowWrite Unit WorkflowPos}
    (h : (workflowMachine env message maxChars).Reach everyOrder WorkflowDb.Fresh c) :
    ReviewedBeforeLive env message c.db ∧
      ∀ c', Relation.ReflTransGen ((workflowMachine env message maxChars).Step everyOrder) c c' →
        KeepsArchived c.db c'.db := by
  have hinv : WorkflowsReviewed env message c.db :=
    ((reviewDiscipline env message maxChars).holds h).inv
  refine ⟨⟨fun i row hrow => (hinv.rows i row hrow).accepted, fun e row hrow =>
    (hinv.executed e row hrow).2, fun i row hrow hstatus hschema => ?_, hinv.versions⟩,
    fun c' hsteps => ?_⟩
  · have hreviewed := hinv.rows i row hrow
    exact hreviewed.validated hschema (hreviewed.published hschema hstatus)
  · let R : WorkflowDb × Unit → WorkflowDb × Unit → Prop := fun d d' => d.1.Extends d'.1
    have hpreorder : IsPreorder (WorkflowDb × Unit) R :=
      { refl := fun d => .refl d.1, trans := fun _ _ _ => .trans }
    have hextends : c.db.Extends c'.db :=
      (reviewDiscipline env message maxChars).evolves (R := R)
        (fun d w s hd hs => (hs.others maxChars [] w hd (by simp)).extended) h hsteps
    intro i row hrow harchived
    obtain ⟨row', hrow', hevolves⟩ := hextends.rows i row hrow
    exact ⟨row', hrow', hevolves.archived harchived⟩

/-- A step that the transform client proposes. -/
def WorkflowCandidate.sample : WorkflowCandidate where
  workflowTitle := "Restart"
  steps := [{ stepKey := "restart"
              name := "Restart the service"
              stepType := "shell_command"
              riskLevel := "high"
              requiresApproval := true
              command := some "systemctl restart web" }]

/-- One runbook, and no workflow. -/
def oneRunbook : WorkflowDb where
  runbooks := ⟨[{ organization := 0, title := "Restart", slug := "restart", rawContent := "" }]⟩

/-- Session `i` moves `n` times. -/
def moves (i n : ℕ) : List (Label WorkflowPos) := List.replicate n (.move i)

/-- A workflow is parsed, reviewed, published and executed, one call after another. -/
def liveLabels : List (Label WorkflowPos) :=
  .arrive (.call (.createWorkflowFromRunbook 0 .sample)) :: moves 0 5 ++
  .arrive (.call (.acceptReview 0)) :: moves 1 3 ++
  .arrive (.call (.publishWorkflow 0)) :: moves 2 4 ++
  .arrive (.call (.createExecution 0 .live (systemActor "api") false)) :: moves 3 4

/-- What the calls lead to. -/
def liveRun : Config WorkflowDb WorkflowLock WorkflowWrite Unit WorkflowPos :=
  ((workflowMachine .sample (fun _ _ => "") 100000).runLabels everyOrder liveLabels
    ⟨oneRunbook, (), []⟩).get (by decide +kernel)

theorem reviewed_before_live_run :
    ReviewedBeforeLive .sample (fun _ _ => "") liveRun.db ∧
      ∀ c', Relation.ReflTransGen
        ((workflowMachine .sample (fun _ _ => "") 100000).Step everyOrder) liveRun c' →
          KeepsArchived liveRun.db c'.db :=
  reviewed_before_live
    (Machine.Reach.runLabels ⟨rfl, rfl, rfl⟩ (Option.some_get (by decide +kernel)).symm)

/-- The workflow is executed. -/
example : (liveRun.db.executions.get? 0).map (·.workflow) = some 0 := by decide +kernel

end RunbookPlatform
