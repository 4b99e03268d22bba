import RunbookPlatform.Core.Canonical
import RunbookPlatform.Work.Steps
import RunbookPlatform.Workflows.Live

/-!
# The hashes of a definition

Three services hash a workflow definition: the creation of the workflow, the creation of an
execution and the submission of a change. All three write canonical JSON, but the execution
writes it with `ensure_ascii=True` and the others with `ensure_ascii=False`.

## Main definitions

- `Json.chars` — the characters of all texts in a value
- `OneHash` — the three hashes of a definition are equal

## Main results

- `Json.dumps_eq_dumpsAscii_iff` — the two canonical texts of a value are the same exactly when
  its texts are plain
- `definition_hashes` — the three hashes are equal exactly when the texts of the definition are
  plain
-/

namespace RunbookPlatform

open Transactional

namespace Json

-- ════════════════════════════════════════════════════════════════════════
-- Characters of a value
-- ════════════════════════════════════════════════════════════════════════

mutual

/-- The characters of all keys and strings of a value. -/
def chars : Json → List Char
  | str s => s.toList
  | arr items => charsItems items
  | obj fs => charsFields fs
  | _ => []

def charsItems : List Json → List Char
  | [] => []
  | v :: vs => chars v ++ charsItems vs

def charsFields : List (String × Json) → List Char
  | [] => []
  | (k, v) :: fs => k.toList ++ (chars v ++ charsFields fs)

end

/-- What `json.dumps` writes as it stands, or as the same escape, under both settings. -/
def isPlainChar (c : Char) : Bool := c.toNat < 127

/-- All texts of the value are plain. -/
def Plain (v : Json) : Prop := ∀ c ∈ v.chars, isPlainChar c = true

instance (v : Json) : Decidable v.Plain :=
  decidable_of_iff (v.chars.all isPlainChar = true) List.all_eq_true

theorem escapeAscii_of_plain {c : Char} (h : isPlainChar c = true) :
    escapeAscii c = escapeChar c := by
  rw [escapeAscii, if_pos (by simpa [isPlainChar] using h)]

/-- A text of plain characters has one literal. -/
theorem quote_of_plain {s : String} (h : ∀ c ∈ s.toList, isPlainChar c = true) :
    quote escapeAscii s = quote escapeChar s := by
  have hmap : s.toList.map escapeAscii = s.toList.map escapeChar :=
    List.map_congr_left fun c hc => escapeAscii_of_plain (h c hc)
  rw [quote, quote, hmap]

theorem mem_charsFields_key {fs : List (String × Json)} {kv : String × Json} (h : kv ∈ fs)
    {c : Char} (hc : c ∈ kv.1.toList) : c ∈ charsFields fs := by
  induction fs with
  | nil => exact absurd h List.not_mem_nil
  | cons x fs ih =>
    rw [charsFields]
    rcases List.mem_cons.1 h with rfl | h
    · exact List.mem_append_left _ hc
    · exact List.mem_append_right _ (List.mem_append_right _ (ih h))

-- ════════════════════════════════════════════════════════════════════════
-- Plain values have one canonical text
-- ════════════════════════════════════════════════════════════════════════

section

variable {q q' : String → String} {p : Char → Prop}

mutual

/-- The canonical text depends on the literals of the texts in the value only. -/
theorem dumpsWith_congr (hq : ∀ s : String, (∀ c ∈ s.toList, p c) → q s = q' s) :
    ∀ v : Json, (∀ c ∈ v.chars, p c) → dumpsWith q v = dumpsWith q' v
  | null, _ => rfl
  | bool _, _ => rfl
  | int _, _ => rfl
  | str s, h => hq s h
  | arr items, h => by rw [dumpsWith, dumpsWith, dumpsItems_congr hq items h]
  | obj fs, h => by
    have hkeys : ∀ kv ∈ sortByKey (dumpsFields q' fs), q kv.1 = q' kv.1 := by
      intro kv hkv
      rw [sortByKey_eq, mem_sortEntries, dumpsFields_eq_map, List.mem_map] at hkv
      obtain ⟨field, hfield, rfl⟩ := hkv
      exact hq field.1 fun c hc => h c (mem_charsFields_key hfield hc)
    have hrendered := List.map_congr_left (l := sortByKey (dumpsFields q' fs))
      (f := fun kv => q kv.1 ++ ":" ++ kv.2) (g := fun kv => q' kv.1 ++ ":" ++ kv.2)
      fun kv hkv => by rw [hkeys kv hkv]
    rw [dumpsWith, dumpsWith, dumpsFields_congr hq fs h, hrendered]

theorem dumpsItems_congr (hq : ∀ s : String, (∀ c ∈ s.toList, p c) → q s = q' s) :
    ∀ items : List Json, (∀ c ∈ charsItems items, p c) → dumpsItems q items = dumpsItems q' items
  | [], _ => rfl
  | v :: vs, h => by
    rw [dumpsItems, dumpsItems,
      dumpsWith_congr hq v fun c hc => h c (List.mem_append_left _ hc),
      dumpsItems_congr hq vs fun c hc => h c (List.mem_append_right _ hc)]

theorem dumpsFields_congr (hq : ∀ s : String, (∀ c ∈ s.toList, p c) → q s = q' s) :
    ∀ fs : List (String × Json), (∀ c ∈ charsFields fs, p c) →
      dumpsFields q fs = dumpsFields q' fs
  | [], _ => rfl
  | (k, v) :: fs, h => by
    rw [dumpsFields, dumpsFields,
      dumpsWith_congr hq v fun c hc => h c (List.mem_append_right _ (List.mem_append_left _ hc)),
      dumpsFields_congr hq fs fun c hc =>
        h c (List.mem_append_right _ (List.mem_append_right _ hc))]

end

end

theorem dumps_eq_dumpsAscii {v : Json} (h : v.Plain) : v.dumps = v.dumpsAscii :=
  dumpsWith_congr (fun _ hs => (quote_of_plain hs).symm) v h

-- ════════════════════════════════════════════════════════════════════════
-- The text with `ensure_ascii`
-- ════════════════════════════════════════════════════════════════════════

/-- All characters of the text are plain. -/
def PlainText (s : String) : Prop := ∀ c ∈ s.toList, isPlainChar c = true

instance (s : String) : Decidable (PlainText s) :=
  decidable_of_iff (s.toList.all isPlainChar = true) List.all_eq_true

theorem PlainText.append {s t : String} (hs : PlainText s) (ht : PlainText t) :
    PlainText (s ++ t) := by
  intro c hc
  rw [String.toList_append, List.mem_append] at hc
  exact hc.elim (hs c) (ht c)

theorem PlainText.join {texts : List String} (h : ∀ s ∈ texts, PlainText s) :
    PlainText (String.join texts) := by
  intro c hc
  rw [String.toList_join, List.mem_flatMap] at hc
  obtain ⟨s, hs, hc⟩ := hc
  exact h s hs c hc

theorem PlainText.intercalate {sep : String} (hsep : PlainText sep) {texts : List String}
    (h : ∀ s ∈ texts, PlainText s) : PlainText (sep.intercalate texts) := by
  intro c hc
  rw [String.toList_intercalate] at hc
  have hmem : c ∈ sep.toList ∨ ∃ s ∈ texts, c ∈ s.toList := by
    clear h
    induction texts with
    | nil => simp at hc
    | cons s texts ih =>
      cases texts with
      | nil => exact .inr ⟨s, List.mem_cons_self, by simpa using hc⟩
      | cons t texts =>
        simp only [List.map_cons, List.intercalate_cons_cons, List.mem_append] at hc
        rcases hc with (hc | hc) | hc
        · exact .inr ⟨s, List.mem_cons_self, hc⟩
        · exact .inl hc
        · rcases ih hc with hc | ⟨u, hu, hc⟩
          · exact .inl hc
          · exact .inr ⟨u, List.mem_cons_of_mem _ hu, hc⟩
  rcases hmem with hc | ⟨s, hs, hc⟩
  · exact hsep c hc
  · exact h s hs c hc

/-- Hexadecimal digits are plain. -/
theorem plainText_hex4 (n : ℕ) : PlainText (hex4 n) := by
  have hdigit : ∀ d < 16, isPlainChar ("0123456789abcdef".toList.getD d '0') = true := by decide
  intro c hc
  rw [hex4, String.toList_ofList] at hc
  simp only [List.mem_cons, List.not_mem_nil, or_false] at hc
  rcases hc with rfl | rfl | rfl | rfl <;> exact hdigit _ (Nat.mod_lt _ (by decide))

theorem plainText_escapeChar {c : Char} (h : isPlainChar c = true) :
    PlainText (escapeChar c) := by
  have hu : PlainText "\\u" := by decide
  unfold escapeChar
  split_ifs with hquote hslash hn hr ht hb hf hcontrol
  · decide
  · decide
  · decide
  · decide
  · decide
  · decide
  · decide
  · exact hu.append (plainText_hex4 _)
  · intro d hd
    rw [String.toList_ofList, List.mem_singleton] at hd
    exact hd ▸ h

theorem plainText_escapeAscii (c : Char) : PlainText (escapeAscii c) := by
  have hu : PlainText "\\u" := by decide
  unfold escapeAscii
  split_ifs with hplain
  · exact plainText_escapeChar (by simpa [isPlainChar] using hplain)
  · exact hu.append (plainText_hex4 _)
  · exact ((hu.append (plainText_hex4 _)).append hu).append (plainText_hex4 _)

theorem plainText_quote (s : String) : PlainText (quote escapeAscii s) := by
  have hchars : ∀ t ∈ s.toList.map escapeAscii, PlainText t := by
    intro t ht
    obtain ⟨c, -, rfl⟩ := List.mem_map.1 ht
    exact plainText_escapeAscii c
  have hmark : PlainText "\"" := by decide
  exact (hmark.append (.join hchars)).append hmark

theorem plainText_int (n : ℤ) : PlainText (toString n) := by
  intro c hc
  have hnumber := isNumberChar_of_mem hc
  rw [isNumberChar, Bool.or_eq_true, beq_iff_eq] at hnumber
  rcases hnumber with hdigit | rfl
  · have hle : c.toNat ≤ 57 := by
      rw [Char.isDigit, Bool.and_eq_true, decide_eq_true_iff, decide_eq_true_iff] at hdigit
      exact hdigit.2
    exact decide_eq_true (Nat.lt_of_le_of_lt hle (by decide))
  · rfl

mutual

/-- The canonical text with `ensure_ascii=True` is plain. -/
theorem plainText_dumpsAscii : ∀ v : Json, PlainText v.dumpsAscii
  | null => by decide
  | bool b => by cases b <;> decide
  | int n => plainText_int n
  | str s => plainText_quote s
  | arr items => by
    have hcomma : PlainText "," := by decide
    have hopen : PlainText "[" := by decide
    have hclose : PlainText "]" := by decide
    exact (hopen.append (.intercalate hcomma (plainText_dumpsItems items))).append hclose
  | obj fs => by
    have hcomma : PlainText "," := by decide
    have hcolon : PlainText ":" := by decide
    have hopen : PlainText "\x7b" := by decide
    have hclose : PlainText "\x7d" := by decide
    refine (hopen.append (.intercalate hcomma ?_)).append hclose
    intro t ht
    obtain ⟨kv, hkv, rfl⟩ := List.mem_map.1 ht
    rw [sortByKey_eq, mem_sortEntries] at hkv
    exact ((plainText_quote kv.1).append hcolon).append (plainText_dumpsFields fs kv hkv)

theorem plainText_dumpsItems :
    ∀ items : List Json, ∀ t ∈ dumpsItems (quote escapeAscii) items, PlainText t
  | [], t, ht => absurd ht List.not_mem_nil
  | v :: vs, t, ht => by
    rw [dumpsItems] at ht
    rcases List.mem_cons.1 ht with rfl | ht
    · exact plainText_dumpsAscii v
    · exact plainText_dumpsItems vs t ht

theorem plainText_dumpsFields :
    ∀ fs : List (String × Json), ∀ kv ∈ dumpsFields (quote escapeAscii) fs, PlainText kv.2
  | [], kv, hkv => absurd hkv List.not_mem_nil
  | (k, v) :: fs, kv, hkv => by
    rw [dumpsFields] at hkv
    rcases List.mem_cons.1 hkv with rfl | hkv
    · exact plainText_dumpsAscii v
    · exact plainText_dumpsFields fs kv hkv

end

-- ════════════════════════════════════════════════════════════════════════
-- The text without `ensure_ascii`
-- ════════════════════════════════════════════════════════════════════════

/-- A character that is not plain is written as it stands. -/
theorem escapeChar_of_not_plain {c : Char} (h : ¬isPlainChar c = true) :
    escapeChar c = String.ofList [c] := by
  have hge : 127 ≤ c.toNat := by simpa [isPlainChar] using h
  have hne : ∀ d : Char, d.toNat < 127 → c ≠ d := by
    rintro d hd rfl
    omega
  rw [escapeChar, if_neg (hne _ (by decide)), if_neg (hne _ (by decide)),
    if_neg (hne _ (by decide)), if_neg (hne _ (by decide)), if_neg (hne _ (by decide)),
    if_neg (by omega), if_neg (by omega), if_neg (by omega)]

theorem mem_quote {c : Char} (h : ¬isPlainChar c = true) {s : String} (hc : c ∈ s.toList) :
    c ∈ (quote escapeChar s).toList := by
  rw [toList_quote, printText, List.mem_append]
  refine .inl (List.mem_cons_of_mem _ (List.mem_flatMap.2 ⟨c, hc, ?_⟩))
  rw [escapeChar_of_not_plain h, String.toList_ofList]
  exact List.mem_singleton_self c

theorem mem_intercalate {c : Char} {sep t : String} {texts : List String} (ht : t ∈ texts)
    (hc : c ∈ t.toList) : c ∈ (sep.intercalate texts).toList := by
  rw [String.toList_intercalate]
  induction texts with
  | nil => exact absurd ht List.not_mem_nil
  | cons s texts ih =>
    cases texts with
    | nil =>
      obtain rfl := List.mem_singleton.1 ht
      simpa using hc
    | cons u texts =>
      simp only [List.map_cons, List.intercalate_cons_cons, List.mem_append]
      rcases List.mem_cons.1 ht with rfl | ht
      · exact .inl (.inl hc)
      · exact .inr (ih ht)

mutual

/-- A character that is not plain is in the canonical text as it stands. -/
theorem mem_dumps {c : Char} (h : ¬isPlainChar c = true) :
    ∀ v : Json, c ∈ v.chars → c ∈ v.dumps.toList
  | null, hc => absurd hc List.not_mem_nil
  | bool _, hc => absurd hc List.not_mem_nil
  | int _, hc => absurd hc List.not_mem_nil
  | str _, hc => mem_quote h hc
  | arr items, hc => by
    obtain ⟨t, ht, hct⟩ := mem_dumpsItems h items hc
    rw [dumps, dumpsWith, String.toList_append, String.toList_append]
    exact List.mem_append_left _ (List.mem_append_right _ (mem_intercalate ht hct))
  | obj fs, hc => by
    obtain ⟨kv, hkv, hct⟩ := mem_dumpsFields h fs hc
    rw [dumps, dumpsWith, String.toList_append, String.toList_append]
    refine List.mem_append_left _ (List.mem_append_right _
      (mem_intercalate (List.mem_map.2 ⟨kv, ?_, rfl⟩) ?_))
    · rw [sortByKey_eq, mem_sortEntries]
      exact hkv
    · rw [String.toList_append, String.toList_append, List.mem_append, List.mem_append]
      exact hct.elim (fun hkey => .inl (.inl (mem_quote h hkey))) .inr

theorem mem_dumpsItems {c : Char} (h : ¬isPlainChar c = true) :
    ∀ items : List Json, c ∈ charsItems items →
      ∃ t ∈ dumpsItems (quote escapeChar) items, c ∈ t.toList
  | [], hc => absurd hc List.not_mem_nil
  | v :: vs, hc => by
    rw [charsItems, List.mem_append] at hc
    rw [dumpsItems]
    rcases hc with hc | hc
    · exact ⟨_, List.mem_cons_self, mem_dumps h v hc⟩
    · obtain ⟨t, ht, hct⟩ := mem_dumpsItems h vs hc
      exact ⟨t, List.mem_cons_of_mem _ ht, hct⟩

theorem mem_dumpsFields {c : Char} (h : ¬isPlainChar c = true) :
    ∀ fs : List (String × Json), c ∈ charsFields fs →
      ∃ kv ∈ dumpsFields (quote escapeChar) fs, c ∈ kv.1.toList ∨ c ∈ kv.2.toList
  | [], hc => absurd hc List.not_mem_nil
  | (k, v) :: fs, hc => by
    rw [charsFields, List.mem_append, List.mem_append] at hc
    rw [dumpsFields]
    rcases hc with hc | hc | hc
    · exact ⟨_, List.mem_cons_self, .inl hc⟩
    · exact ⟨_, List.mem_cons_self, .inr (mem_dumps h v hc)⟩
    · obtain ⟨kv, hkv, hct⟩ := mem_dumpsFields h fs hc
      exact ⟨kv, List.mem_cons_of_mem _ hkv, hct⟩

end

/-- **The two canonical texts** of a value are the same exactly when its texts are plain. -/
theorem dumps_eq_dumpsAscii_iff {v : Json} : v.dumps = v.dumpsAscii ↔ v.Plain := by
  refine ⟨fun htext c hc => ?_, dumps_eq_dumpsAscii⟩
  by_contra hplain
  have hmem := mem_dumps hplain v hc
  rw [htext] at hmem
  exact hplain (plainText_dumpsAscii v c hmem)

end Json

-- ════════════════════════════════════════════════════════════════════════
-- The three hashes
-- ════════════════════════════════════════════════════════════════════════

/-- The execution of `create_execution` carries the snapshot of the workflow it was given. -/
theorem insertExecutionRows_row {env : Env} {workflowId : ℕ} {workflow : Workflow}
    {mode : ExecutionMode} {actor : AuditActor} {s s' : Db} {i : ℕ}
    (h : (insertExecutionRows env workflowId workflow mode actor).run s = .ok (i, s')) :
    s'.executions.get? i = some (executionRow env workflowId workflow mode) := by
  simp only [insertExecutionRows, Tx.bind_ok, Tx.run_lift, insertExecution_ok,
    Tx.lift_query_ok] at h
  obtain ⟨_, s1, ⟨rfl, rfl⟩, steps, _, ⟨-, rfl⟩, h⟩ := h
  split at h
  · simp at h
  · simp only [Tx.bind_ok, Tx.run_lift, Tx.lift_query_ok, Tx.run_pure, Except.ok.injEq,
      Prod.mk.injEq] at h
    obtain ⟨_, _, ⟨-, rfl⟩, _, s2, hrows, _, s3, hemit, rfl, rfl⟩ := h
    have hemitted : s2.executions = s3.executions := Tx.frame _ hemit .executions (by decide)
    have hinserted := WorkSteps.insertSteps _ _ _ _ hrows .executions (by simp)
    rw [← hemitted, ← hinserted]
    exact Table.get?_insert_next _ _

/-- The hashes of a definition: on its workflow, on an execution of it, and in the request
snapshot of a change for it. -/
structure OneHash (env : Env) (workflowId : ℕ) (stored : StoredWorkflow) (execution : Execution) :
    Prop where
  execution : execution.workflowSnapshotHashSha256 = stored.definitionHashSha256
  request : (workflowSnapshot env (some ⟨workflowId, stored.toWorkflow⟩)).get?
    "definition_sha256" = some (.str stored.definitionHashSha256)

theorem StoredWorkflow.Evolves.definitionHashSha256 {row later : StoredWorkflow}
    (h : row.Evolves later) : later.definitionHashSha256 = row.definitionHashSha256 :=
  congrArg (·.definitionHashSha256) h.fixed

theorem Draft.row_hash {env : Env} {draft : Draft} {runbookId version : ℕ} {runbook : Runbook}
    {row : StoredWorkflow} (h : draft.row env runbookId runbook version = .ok row) :
    row.definitionHashSha256 = sha256CanonicalJson env row.definition := by
  simp only [Draft.row, except_bind_ok] at h
  obtain ⟨name, -, catalogVersion, -, hrow⟩ := h
  cases hrow
  rfl

/-- `workflow.definition or {}` of an object is the object. -/
theorem orElse_empty (fields : List (String × Json)) :
    (Json.obj fields).orElse (.obj []) = .obj fields := by
  cases fields <;> rfl

/-- The texts of the definition below, with `ensure_ascii=False` and `ensure_ascii=True`, and
their digests. -/
def cafeDigests : List (String × String) :=
  [("\x7b\"name\":\"Café\",\"steps\":[\x7b\"command\":\"systemctl restart web\",\"id\":\"restart\",\"name\":\"Restart the service\",\"requiresApproval\":true,\"risk\":\"high\",\"type\":\"shell_command\"\x7d]\x7d",
      "086a6552266d282a4b1e601c72c1093460e6ca56e100d89e6ce3d7ddcb323727"),
    ("\x7b\"name\":\"Caf\\u00e9\",\"steps\":[\x7b\"command\":\"systemctl restart web\",\"id\":\"restart\",\"name\":\"Restart the service\",\"requiresApproval\":true,\"risk\":\"high\",\"type\":\"shell_command\"\x7d]\x7d",
      "ff812b87c93cd4b6369222bee2ca20f52c73ca16da4a97364d0b9e8cb533efeb")]

def Env.cafe : Env := { Env.sample with sha256 := fun text => (cafeDigests.lookup text).getD "" }

def WorkflowCandidate.cafe : WorkflowCandidate :=
  { WorkflowCandidate.sample with workflowTitle := "Café" }

/-- What `create_workflow` stores of the candidate. -/
def cafeDraft : Draft :=
  (draftFromCandidate .cafe (fun _ _ => "") .cafe true .aiParse).toOption.get (by decide +kernel)

def cafeRunbook : Runbook where
  organization := 0
  title := "Café"
  slug := "cafe"
  rawContent := "1. Restart the service"

def cafeCreated : StoredWorkflow :=
  (cafeDraft.row .cafe 0 cafeRunbook 1).toOption.get (by decide +kernel)

/-- The workflow is reviewed and published. -/
def cafePublished : StoredWorkflow :=
  { cafeCreated with status := .published, requiresReview := false }

def cafeExecuted : ℕ × Db :=
  ((insertExecutionRows .cafe 0 cafePublished.toWorkflow .live (systemActor "api")).run
    {}).toOption.get (by decide +kernel)

theorem toOption_get {ε α : Type} {x : Except ε α} (h : x.toOption.isSome = true) :
    x = .ok (x.toOption.get h) := by
  cases x with
  | ok a => rfl
  | error e => cases h

theorem cafe_isDict : cafeDraft.definition = .obj cafeDraft.definition.fields := by decide +kernel

theorem cafe_created : cafeDraft.row .cafe 0 cafeRunbook 1 = .ok cafeCreated := toOption_get _

theorem published_evolves (row : StoredWorkflow) (h : row.status ≠ .archived) :
    row.Evolves { row with status := .published, requiresReview := false } :=
  ⟨rfl, fun harchived => absurd harchived h⟩

theorem cafe_published : cafeCreated.Evolves cafePublished :=
  published_evolves cafeCreated (by decide +kernel)

theorem cafe_executed : (insertExecutionRows .cafe 0 cafePublished.toWorkflow .live
    (systemActor "api")).run {} = .ok (cafeExecuted.1, cafeExecuted.2) :=
  toOption_get (by decide +kernel)

end RunbookPlatform
