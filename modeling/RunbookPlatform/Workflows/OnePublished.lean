import RunbookPlatform.Workflows.Live

/-!
# One published workflow

A publication looks for the published siblings and supersedes each as it gets the lock. Two
publications in one runbook lock different drafts, so neither waits for the other, and neither
finds the other's draft published: both can commit. When no publication looks for siblings
between the look of another one in the runbook and its commit, at most one workflow is published.

## Main definitions

- `OnePublished` — the invariant of the tables
- `Covers`, `PublishesAlone` — the siblings that a publication still has to supersede
- `oneAtATime` — which publications may look for siblings

## Main results

- `one_published`
- `two_publications_overlap`
-/

namespace RunbookPlatform

open Transactional Sessions

variable {env : Env} {message : Schema → Json → String} {maxChars : ℕ} {d d' : WorkflowDb}
  {held : List WorkflowLock} {pending : List WorkflowWrite}

/-- At most one workflow of a runbook is published. -/
def OnePublished (d : WorkflowDb) : Prop :=
  ∀ i j a b, d.workflows.get? i = some a → d.workflows.get? j = some b →
    a.status = .published → b.status = .published → a.runbook = b.runbook → i = j

/-- The runbook of a publication that has looked for siblings and not yet committed. -/
def WorkflowPos.publishing : WorkflowPos → Option ℕ
  | superseding _ runbook _ | superseded _ runbook _ _ | published _ runbook => some runbook
  | _ => none

/-- A publication may look for siblings unless another one in the runbook has. -/
def oneAtATime : Schedule WorkflowLock WorkflowWrite WorkflowPos where
  move s t :=
    match s.pos with
    | .supersede _ runbook => t.pos.publishing ≠ some runbook
    | _ => true

-- ════════════════════════════════════════════════════════════════════════
-- Saves that publish nothing
-- ════════════════════════════════════════════════════════════════════════

/-- The save publishes no workflow. -/
def WorkflowWrite.Quiet : WorkflowWrite → Prop
  | publish _ => False
  | insert row _ => row.status = .draft
  | _ => True

/-- What is published was published before. -/
def PublishesNothing (d d' : WorkflowDb) : Prop :=
  ∀ i row, d'.workflows.get? i = some row → row.status = .published →
    ∃ old, d.workflows.get? i = some old ∧ old.status = .published ∧ old.runbook = row.runbook

theorem PublishesNothing.onePublished (h : PublishesNothing d d') (hone : OnePublished d) :
    OnePublished d' := by
  intro i j a b ha hb hpublishedA hpublishedB hsame
  obtain ⟨oldA, hoda, hpa, hra⟩ := h i a ha hpublishedA
  obtain ⟨oldB, hodb, hpb, hrb⟩ := h j b hb hpublishedB
  exact hone i j oldA oldB hoda hodb hpa hpb (by rw [hra, hrb, hsame])

/-- A save of a row that leaves no more rows published. -/
theorem publishesNothing_modify {i : ℕ} {f : StoredWorkflow → StoredWorkflow}
    (hd : d'.workflows = d.workflows.modify i f)
    (hf : ∀ row, (f row).status = .published →
      row.status = .published ∧ row.runbook = (f row).runbook) : PublishesNothing d d' := by
  intro j row hrow hstatus
  rw [hd, Table.get?_modify] at hrow
  split_ifs at hrow
  · obtain ⟨old, hold, rfl⟩ := Option.map_eq_some_iff.1 hrow
    exact ⟨old, hold, hf old hstatus⟩
  · exact ⟨row, hrow, hstatus, rfl⟩

theorem WorkflowWrite.Quiet.publishesNothing {write : WorkflowWrite} (h : write.Quiet) :
    PublishesNothing d (write.apply d) := by
  cases write with
  | insert row call =>
    intro i new hnew hstatus
    change (d.workflows.insert row).get? i = some new at hnew
    rw [Table.get?_insert] at hnew
    split_ifs at hnew
    · cases hnew
      rw [show row.status = .draft from h] at hstatus
      cases hstatus
    · exact ⟨new, hnew, hstatus, rfl⟩
  | accept i => exact publishesNothing_modify rfl fun row hrow => ⟨hrow, rfl⟩
  | reject i => exact publishesNothing_modify rfl fun row hrow => nomatch hrow
  | supersede i => exact publishesNothing_modify rfl fun row hrow => nomatch hrow
  | archive i => exact publishesNothing_modify rfl fun row hrow => nomatch hrow
  | publish i => exact h.elim
  | execute row => exact fun i new hnew hstatus => ⟨new, hnew, hstatus, rfl⟩

theorem view_publishesNothing (h : ∀ write ∈ pending, write.Quiet) :
    PublishesNothing d ((workflowMachine env message maxChars).view d pending) := by
  induction pending generalizing d with
  | nil => exact fun i row hrow hstatus => ⟨row, hrow, hstatus, rfl⟩
  | cons write rest ih =>
    intro i row hrow hstatus
    obtain ⟨mid, hmid, hmidStatus, hmidRunbook⟩ :=
      ih (fun w hw => h w (List.mem_cons_of_mem _ hw)) i row hrow hstatus
    obtain ⟨old, hold, hoStatus, hoRunbook⟩ :=
      (h write List.mem_cons_self).publishesNothing i mid hmid hmidStatus
    exact ⟨old, hold, hoStatus, hoRunbook.trans hmidRunbook⟩

-- ════════════════════════════════════════════════════════════════════════
-- Publications
-- ════════════════════════════════════════════════════════════════════════

/-- A publication of workflow `i` that has the siblings `rest` left to look at. -/
structure Covers (d : WorkflowDb) (i runbook : ℕ) (rest : List ℕ)
    (pending : List WorkflowWrite) : Prop where
  row : ∃ row, d.workflows.get? i = some row ∧ row.runbook = runbook
  siblings : ∀ j row, d.workflows.get? j = some row → row.status = .published →
    row.runbook = runbook → j ≠ i → j ∈ rest ∨ .supersede j ∈ pending
  pending : ∀ write ∈ pending, ∃ j, write = .supersede j

/-- What the position of a session tells about its publication. -/
def WorkflowPos.PublishesAlone (d : WorkflowDb) (pending : List WorkflowWrite) :
    WorkflowPos → Prop
  | supersede i runbook =>
    pending = [] ∧ ∃ row, d.workflows.get? i = some row ∧ row.runbook = runbook
  | superseding i runbook siblings => Covers d i runbook siblings pending
  | superseded i runbook sibling siblings => Covers d i runbook (sibling :: siblings) pending
  | published i runbook =>
    ∃ sups, pending = sups ++ [.publish i] ∧ Covers d i runbook [] sups
  | save write => write.Quiet ∧ ∀ write ∈ pending, write.Quiet
  | _ => ∀ write ∈ pending, write.Quiet

/-- Whatever is published after the commit of a publication. -/
theorem Covers.published {i runbook : ℕ} {sups : List WorkflowWrite}
    (h : Covers d i runbook [] sups) {j : ℕ} {row : StoredWorkflow}
    (hrow : ((workflowMachine env message maxChars).view d
      (sups ++ [.publish i])).workflows.get? j = some row) (hstatus : row.status = .published) :
    j = i ∧ row.runbook = runbook ∨
      j ≠ i ∧ row.runbook ≠ runbook ∧ d.workflows.get? j = some row := by
  rw [Machine.view_append] at hrow
  change (((workflowMachine env message maxChars).view d sups).workflows.modify i _).get? j =
    some row at hrow
  rw [Table.get?_modify] at hrow
  split_ifs at hrow with hj
  · subst hj
    obtain ⟨seen, hseen, rfl⟩ := Option.map_eq_some_iff.1 hrow
    obtain ⟨old, hold, hrunbook⟩ := h.row
    refine .inl ⟨rfl, ?_⟩
    rcases view_supersedes h.pending j with ⟨-, hview⟩ | ⟨-, hview⟩
    · rw [hview, hold] at hseen
      cases hseen
      exact hrunbook
    · rw [hview, hold] at hseen
      cases hseen
      exact hrunbook
  · rcases view_supersedes h.pending j with ⟨hnone, hview⟩ | ⟨-, hview⟩
    · rw [hview] at hrow
      refine .inr ⟨hj, fun hrunbook => ?_, hrow⟩
      rcases h.siblings j row hrow hstatus hrunbook hj with hrest | hsuperseded
      · cases hrest
      · exact hnone hsuperseded
    · rw [hview] at hrow
      obtain ⟨old, -, rfl⟩ := Option.map_eq_some_iff.1 hrow
      cases hstatus

/-- What is published was published before, or is of the given runbook. -/
def PublishesIn (runbook : Option ℕ) (d d' : WorkflowDb) : Prop :=
  ∀ i row, d'.workflows.get? i = some row → row.status = .published →
    (∃ old, d.workflows.get? i = some old ∧ old.status = .published ∧
      old.runbook = row.runbook) ∨ runbook = some row.runbook

/-- **The statements of a session** keep one workflow published, and publish in the runbook of
its publication only. -/
theorem publishesAlone_commit {s : Session WorkflowLock WorkflowWrite WorkflowPos} (w : Unit)
    (h : s.pos.PublishesAlone d s.pending) (hone : OnePublished d) :
    OnePublished ((workflowMachine env message maxChars).advance d w s).1 ∧
      PublishesIn s.pos.publishing d ((workflowMachine env message maxChars).advance d w s).1 := by
  obtain ⟨pos, pending, held⟩ := s
  rcases (workflowMachine env message maxChars).advance_db d w ⟨pos, pending, held⟩ with
    hsame | ⟨⟨next, hstmt⟩, hcommit⟩
  · rw [hsame]
    exact ⟨hone, fun i row hrow hstatus => .inl ⟨row, hrow, hstatus, rfl⟩⟩
  · rw [hcommit]
    cases pos with
    | published i runbook =>
      obtain ⟨sups, hpending, hcovers⟩ := h
      cases hpending
      refine ⟨fun j k a b ha hb hpublishedA hpublishedB hsame => ?_, fun j row hrow hstatus => ?_⟩
      · rcases hcovers.published ha hpublishedA with ⟨rfl, hra⟩ | ⟨-, hra, hda⟩
        · rcases hcovers.published hb hpublishedB with ⟨rfl, -⟩ | ⟨-, hrb, -⟩
          · rfl
          · exact absurd (hsame.symm.trans hra) hrb
        · rcases hcovers.published hb hpublishedB with ⟨rfl, hrb⟩ | ⟨-, -, hdb⟩
          · exact absurd (hsame.trans hrb) hra
          · exact hone j k a b hda hdb hpublishedA hpublishedB hsame
      · rcases hcovers.published hrow hstatus with ⟨-, hrunbook⟩ | ⟨-, -, hold⟩
        · exact .inr (by rw [hrunbook]; rfl)
        · exact .inl ⟨row, hold, hstatus, rfl⟩
    | saved =>
      have hnothing : PublishesNothing d
          ((workflowMachine env message maxChars).view d pending) := view_publishesNothing h
      exact ⟨hnothing.onePublished hone, fun i row hrow hstatus =>
        .inl (hnothing i row hrow hstatus)⟩
    | call op => cases op <;> cases hstmt
    | superseding i runbook siblings => cases siblings <;> cases hstmt
    | _ => cases hstmt

/-- Commits that publish elsewhere leave what a position tells. -/
theorem WorkflowPos.PublishesAlone.later {runbook : Option ℕ} {pos : WorkflowPos}
    (h : pos.PublishesAlone d pending) (hextends : d.Extends d')
    (hpublishes : PublishesIn runbook d d')
    (hapart : ∀ r, runbook = some r → pos.publishing ≠ some r) :
    pos.PublishesAlone d' pending := by
  have hrow : ∀ i r, (∃ row, d.workflows.get? i = some row ∧ row.runbook = r) →
      ∃ row, d'.workflows.get? i = some row ∧ row.runbook = r := by
    rintro i r ⟨row, hget, hrunbook⟩
    obtain ⟨later, hlater, hevolves⟩ := hextends.rows i row hget
    exact ⟨later, hlater, hevolves.runbook.trans hrunbook⟩
  have hcovers : ∀ i r rest sups, pos.publishing = some r → Covers d i r rest sups →
      Covers d' i r rest sups := by
    intro i r rest sups hpublishing hcovers
    refine ⟨hrow i r hcovers.row, fun j row hget hstatus hrunbook hj => ?_, hcovers.pending⟩
    rcases hpublishes j row hget hstatus with ⟨old, hold, hoStatus, hoRunbook⟩ | hother
    · exact hcovers.siblings j old hold hoStatus (hoRunbook.trans hrunbook) hj
    · exact absurd (hrunbook ▸ hpublishing) (hapart _ hother)
  cases pos with
  | supersede i r => exact ⟨h.1, hrow i r h.2⟩
  | superseding i r siblings => exact hcovers i r siblings pending rfl h
  | superseded i r sibling siblings => exact hcovers i r (sibling :: siblings) pending rfl h
  | published i r =>
    obtain ⟨sups, hpending, h⟩ := h
    exact ⟨sups, hpending, hcovers i r [] sups rfl h⟩
  | _ => exact h

-- ════════════════════════════════════════════════════════════════════════
-- Positions
-- ════════════════════════════════════════════════════════════════════════

/-- Where the first statement of a call leads. -/
theorem call_elim {p : WorkflowPos → Prop} (hfailed : ∀ e, p (.failed e))
    (hdrafted : ∀ runbook draft c, p (.drafted runbook draft c))
    (hsave : ∀ write, write.Quiet → p (.save write))
    (hsupersede : ∀ i row,
      ((workflowMachine env message maxChars).view d pending).workflows.get? i = some row →
        p (.supersede i row.runbook))
    (hloaded : ∀ i row mode actor fromChangeService,
      p (.loaded i row mode actor fromChangeService)) (op : WorkflowOp) (w : Unit) :
    p ((workflowMachine env message maxChars).advance d w ⟨.call op, pending, held⟩).2.2.pos := by
  cases op with
  | createWorkflow | createWorkflowV2Draft =>
    exact proceed_elim (p := p) hfailed fun _ _ => hdrafted _ _ _
  | createWorkflowFromRunbook runbook candidate =>
    refine withRow_elim (p := p) hfailed fun row _ => ?_
    split_ifs
    · exact hfailed _
    · exact proceed_elim hfailed fun _ _ => hdrafted _ _ _
  | createV2DraftFromV1 i =>
    exact withRow_elim (p := p) hfailed fun row _ => proceed_elim hfailed fun _ _ => hdrafted _ _ _
  | acceptReview i | rejectReview i | archiveWorkflow i =>
    exact withRow_elim (p := p) hfailed fun row _ =>
      proceed_elim hfailed fun _ _ => hsave _ trivial
  | publishWorkflow i =>
    exact withRow_elim (p := p) hfailed fun row hrow =>
      proceed_elim hfailed fun _ _ => hsupersede i row hrow
  | createExecution i mode actor fromChangeService =>
    exact withRow_elim (p := p) hfailed fun _ _ => hloaded _ _ _ _ _

/-- **Each statement** leads to a position that tells the truth about its publication. -/
theorem publishesAlone_advance {s : Session WorkflowLock WorkflowWrite WorkflowPos} (w : Unit)
    (hreviewed : SessionReviewed env message d s) (h : s.pos.PublishesAlone d s.pending) :
    ((workflowMachine env message maxChars).advance d w s).2.2.pos.PublishesAlone
      ((workflowMachine env message maxChars).advance d w s).1
      ((workflowMachine env message maxChars).advance d w s).2.2.pending := by
  obtain ⟨pos, pending, held⟩ := s
  have hknows := hreviewed.knows
  have hnone : ∀ write ∈ ([] : List WorkflowWrite), write.Quiet := fun _ hwrite =>
    absurd hwrite List.not_mem_nil
  cases pos with
  | call op =>
    cases hknows
    have hcall : ((workflowMachine env message maxChars).advance d w
        ⟨.call op, [], held⟩).2.2.pos.PublishesAlone d [] := by
      refine call_elim (p := fun pos => pos.PublishesAlone d []) (fun _ => hnone)
        (fun _ _ _ => hnone) (fun _ hquiet => ⟨hquiet, hnone⟩) ?_ (fun _ _ _ _ _ => hnone) op w
      exact fun i row hrow => ⟨rfl, row, hrow, rfl⟩
    cases op <;> exact hcall
  | drafted runbook draft c =>
    exact withRow_elim (p := fun pos => pos.PublishesAlone d pending) (fun _ => h) fun _ _ => h
  | locked runbookId runbook draft c =>
    obtain ⟨rfl, -⟩ := hknows
    exact locked_elim (p := fun pos => pos.PublishesAlone d []) (fun _ => hnone)
      fun row hrow => ⟨(Draft.row_ok hrow).2.2.1, hnone⟩
  | supersede i runbook =>
    obtain ⟨rfl, hrow⟩ := h
    change Covers d i runbook (d.publishedSiblings runbook i) []
    refine ⟨hrow, fun j row hget hstatus hrunbook hj => .inl ?_,
      fun _ hwrite => absurd hwrite List.not_mem_nil⟩
    exact Table.mem_keys.2 ⟨row, hget, by simp [hrunbook, hstatus, hj]⟩
  | superseding i runbook siblings =>
    cases siblings with
    | nil => exact ⟨pending, rfl, h⟩
    | cons sibling siblings =>
      change (if ((workflowMachine env message maxChars).view d pending).isPublishedIn runbook
          sibling then WorkflowPos.superseded i runbook sibling siblings
        else .superseding i runbook siblings).PublishesAlone d pending
      split_ifs with hpublished
      · exact h
      · refine ⟨h.row, fun j row hget hstatus hrunbook hj => ?_, h.pending⟩
        rcases h.siblings j row hget hstatus hrunbook hj with hmem | hsuperseded
        · rcases List.mem_cons.1 hmem with rfl | hmem
          · -- the update passed the sibling by, as this transaction has superseded it
            rcases view_supersedes h.pending j with ⟨-, hview⟩ | ⟨hsuperseded, -⟩
            · refine absurd ?_ hpublished
              rw [WorkflowDb.isPublishedIn, hview, hget]
              simp [hrunbook, hstatus]
            · exact .inr hsuperseded
          · exact .inl hmem
        · exact .inr hsuperseded
  | superseded i runbook sibling siblings =>
    change Covers d i runbook siblings (pending ++ [.supersede sibling])
    refine ⟨h.row, fun j row hget hstatus hrunbook hj => ?_, fun write hwrite => ?_⟩
    · rcases h.siblings j row hget hstatus hrunbook hj with hmem | hsuperseded
      · rcases List.mem_cons.1 hmem with rfl | hmem
        · exact .inr (List.mem_append_right _ List.mem_cons_self)
        · exact .inl hmem
      · exact .inr (List.mem_append_left _ hsuperseded)
    · rcases List.mem_append.1 hwrite with hwrite | hwrite
      · exact h.pending write hwrite
      · exact ⟨sibling, List.mem_singleton.1 hwrite⟩
  | loaded i row mode actor fromChangeService =>
    exact proceed_elim (p := fun pos => pos.PublishesAlone d pending) (fun _ => h) fun _ _ =>
      proceed_elim (fun _ => h) fun _ _ => ⟨trivial, h⟩
  | save write =>
    intro w hw
    rcases List.mem_append.1 hw with hw | hw
    · exact h.2 w hw
    · exact List.mem_singleton.1 hw ▸ h.1
  | published | saved | failed => exact hnone
  | raised | done => exact h

/-- A session is publishing when it was before, or has just looked for siblings. -/
theorem publishing_advance {s : Session WorkflowLock WorkflowWrite WorkflowPos} (w : Unit)
    {runbook : ℕ}
    (h : ((workflowMachine env message maxChars).advance d w s).2.2.pos.publishing =
      some runbook) :
    s.pos.publishing = some runbook ∨ ∃ i, s.pos = .supersede i runbook := by
  obtain ⟨pos, pending, held⟩ := s
  have hfailed : ∀ e, (WorkflowPos.failed e).publishing ≠ some runbook := by
    simp [WorkflowPos.publishing]
  have hsave : ∀ write, (WorkflowPos.save write).publishing ≠ some runbook := by
    simp [WorkflowPos.publishing]
  cases pos with
  | call op =>
    exact absurd h (call_elim (p := fun pos => pos.publishing ≠ some runbook) hfailed
      (by simp [WorkflowPos.publishing]) (fun write _ => hsave write)
      (by simp [WorkflowPos.publishing]) (by simp [WorkflowPos.publishing]) op w)
  | drafted i draft c =>
    exact absurd h (withRow_elim (p := fun pos => pos.publishing ≠ some runbook) hfailed
      (by simp [WorkflowPos.publishing]))
  | locked i row draft c =>
    exact absurd h (locked_elim (p := fun pos => pos.publishing ≠ some runbook) hfailed
      fun row _ => hsave (.insert row c))
  | supersede i r =>
    cases h
    exact .inr ⟨i, rfl⟩
  | superseding i r siblings =>
    left
    cases siblings with
    | nil => exact h
    | cons sibling siblings =>
      change (if ((workflowMachine env message maxChars).view d pending).isPublishedIn r sibling
        then WorkflowPos.superseded i r sibling siblings
        else .superseding i r siblings).publishing = some runbook at h
      split_ifs at h
      · exact h
      · exact h
  | superseded i r sibling siblings => exact .inl h
  | loaded i row mode actor fromChangeService =>
    exact absurd h (proceed_elim (p := fun pos => pos.publishing ≠ some runbook) hfailed
      fun _ _ => proceed_elim (p := fun pos => pos.publishing ≠ some runbook) hfailed
        fun _ _ => hsave _)
  | published | save | saved | failed | raised | done => cases h

-- ════════════════════════════════════════════════════════════════════════
-- Runs
-- ════════════════════════════════════════════════════════════════════════

/-- What publications keep to when they look for siblings one at a time. -/
def publishDiscipline (env : Env) (message : Schema → Json → String) (maxChars : ℕ) :
    Discipline (workflowMachine env message maxChars) oneAtATime WorkflowDb.Fresh where
  Inv d _ := WorkflowsReviewed env message d ∧ OnePublished d
  Ok d _ s := SessionReviewed env message d s ∧ s.pos.PublishesAlone d s.pending
  Apart s t := Machine.Disjoint s t ∧
    ∀ runbook, s.pos.publishing = some runbook → t.pos.publishing ≠ some runbook
  symm h := ⟨fun row ht hs => h.1 row hs ht, fun runbook ht hs => h.2 runbook hs ht⟩
  initial {d w} h := ⟨.fresh h, fun i j a b ha => by simp [h.1, Table.empty, Table.get?] at ha⟩
  started {d w p} hp := by
    cases p with
    | call op =>
      exact ⟨⟨.idle rfl rfl, fun _ hwrite => absurd hwrite List.not_mem_nil⟩,
        fun t => ⟨fun row hrow => absurd hrow List.not_mem_nil, fun _ hpublishing => nomatch hpublishing⟩⟩
    | _ => cases hp
  advance {d w s} hinv h := by
    obtain ⟨hreviewed, hsession⟩ := h.1.advance maxChars w hinv.1
    exact ⟨⟨hreviewed, (publishesAlone_commit w h.2 hinv.2).1⟩, hsession,
      publishesAlone_advance w h.1 h.2⟩
  others {d w s t} hinv hs ht hapart hblocked hadmits := by
    have hbeside := hs.1.others maxChars t.held w hinv.1 hapart.1
    refine ⟨⟨ht.1.beside hinv.1 hbeside, ht.2.later hbeside.extended
      (publishesAlone_commit w hs.2 hinv.2).2 hapart.2⟩, hapart.1.advance hblocked,
      fun runbook hpublishing => ?_⟩
    rcases publishing_advance w hpublishing with hbefore | ⟨i, hpos⟩
    · exact hapart.2 runbook hbefore
    · simp only [oneAtATime, hpos] at hadmits
      simpa using hadmits
  raised {d w s} _ _ _ := ⟨⟨.idle rfl trivial, fun _ hwrite => absurd hwrite List.not_mem_nil⟩,
    fun t _ => ⟨fun row hrow => absurd hrow List.not_mem_nil, fun _ hpublishing => nomatch hpublishing⟩⟩

/-- **One published workflow.** In every run of the workflow services in which publications in a
runbook look for siblings one at a time, at most one workflow of each runbook is published. -/
theorem one_published {c : Config WorkflowDb WorkflowLock WorkflowWrite Unit WorkflowPos}
    (h : (workflowMachine env message maxChars).Reach oneAtATime WorkflowDb.Fresh c) :
    OnePublished c.db :=
  ((publishDiscipline env message maxChars).holds h).inv.2

/-- Two drafts of one runbook are published, one call after another. -/
def publishTwice : List (Label WorkflowPos) :=
  .arrive (.call (.createWorkflow 0 .sample false .manual)) :: moves 0 5 ++
  .arrive (.call (.createWorkflow 0 .sample false .manual)) :: moves 1 5 ++
  .arrive (.call (.publishWorkflow 0)) :: moves 2 4 ++
  .arrive (.call (.publishWorkflow 1)) :: moves 3 6

/-- What the publications lead to. -/
def publishedTwice : Config WorkflowDb WorkflowLock WorkflowWrite Unit WorkflowPos :=
  ((workflowMachine .sample (fun _ _ => "") 100000).runLabels oneAtATime publishTwice
    ⟨oneRunbook, (), []⟩).get (by decide)

theorem one_published_twice : OnePublished publishedTwice.db :=
  @one_published .sample (fun _ _ => "") 100000 publishedTwice
    (Machine.Reach.runLabels ⟨rfl, rfl, rfl⟩ (Option.some_get (by decide)).symm)

/-- The second publication supersedes the first. -/
example : (publishedTwice.db.workflows.rows.map (·.status)) = [.superseded, .published] := by
  decide

/-- Both publications look for siblings before either one commits. -/
def publishTogether : List (Label WorkflowPos) :=
  .arrive (.call (.createWorkflow 0 .sample false .manual)) :: moves 0 5 ++
  .arrive (.call (.createWorkflow 0 .sample false .manual)) :: moves 1 5 ++
  [.arrive (.call (.publishWorkflow 0)), .arrive (.call (.publishWorkflow 1))] ++
  moves 2 2 ++ moves 3 2 ++ moves 2 2 ++ moves 3 2

/-- What they lead to. -/
def publishedTogether : Config WorkflowDb WorkflowLock WorkflowWrite Unit WorkflowPos :=
  ((workflowMachine .sample (fun _ _ => "") 100000).runLabels everyOrder publishTogether
    ⟨oneRunbook, (), []⟩).get (by decide)

/-- Two publications that overlap leave two published workflows in one runbook. -/
theorem two_publications_overlap :
    ¬∀ c, (workflowMachine .sample (fun _ _ => "") 100000).Reach everyOrder WorkflowDb.Fresh c →
      OnePublished c.db := by
  intro hone
  have hreach : (workflowMachine .sample (fun _ _ => "") 100000).Reach everyOrder
      WorkflowDb.Fresh publishedTogether :=
    Machine.Reach.runLabels ⟨rfl, rfl, rfl⟩ (Option.some_get (by decide)).symm
  have hboth : publishedTogether.db.isPublishedIn 0 0 = true ∧
      publishedTogether.db.isPublishedIn 0 1 = true := by decide
  simp only [WorkflowDb.isPublishedIn, Option.any_eq_true, Bool.and_eq_true,
    decide_eq_true_eq] at hboth
  obtain ⟨⟨a, ha, hra, hpa⟩, b, hb, hrb, hpb⟩ := hboth
  exact absurd (hone _ hreach 0 1 a b ha hb hpa hpb (hra.trans hrb.symm)) (by decide)

end RunbookPlatform
