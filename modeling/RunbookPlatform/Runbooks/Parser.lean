import RunbookPlatform.Core.Texts
import RunbookPlatform.Runbooks.AiClient
import RunbookPlatform.Text.Strip
import RunbookPlatform.Workflows.Services

/-!
# The deterministic runbook parser

`apps/ai/app/services/workflow_parser.py` turns the numbered lines of a runbook into the steps of
a candidate. The API maps the response, checks the candidate and stores its definition.

## Main definitions

- `matchNumbered` — the pattern of a numbered line, with the backtracking of `re`
- `parseRunbookToCandidate` — the parser without an LLM
- `Numbered` — the numbered lines, as a grammar

## Main results

- `matchNumbered_iff` — on a stripped line the pattern finds what the grammar says
- `extractSteps_eq` — one step for each numbered line, in the order of the text
- `parser_feeds_api` — whatever the parser answers passes every check of the API
-/

namespace RunbookPlatform

-- ════════════════════════════════════════════════════════════════════════
-- The parser
-- ════════════════════════════════════════════════════════════════════════

/-- Where `str.splitlines()` breaks a text, other than between `\r` and `\n`. -/
def isLineBreak (c : Char) : Bool :=
  [0x0a, 0x0b, 0x0c, 0x0d, 0x1c, 0x1d, 0x1e, 0x85, 0x2028, 0x2029].contains c.toNat

/-- `str.splitlines()`, on characters. -/
def splitLines : List Char → List (List Char)
  | [] => []
  | '\r' :: '\n' :: rest => [] :: splitLines rest
  | c :: rest =>
    if isLineBreak c then [] :: splitLines rest
    else
      match splitLines rest with
      | [] => [[c]]
      | line :: lines => (c :: line) :: lines

/-- What `\d` matches. -/
def isDecimal (c : Char) : Bool := (decimalDigit? c).isSome

/-- What `step` matches under `re.IGNORECASE`, character by character: the long s is an `s`. -/
def stepLetters : List (List Char) := [['s', 'S', 'ſ'], ['t', 'T'], ['e', 'E'], ['p', 'P']]

/-- What is left after `step\s*`. -/
def stepRest? : List Char → Option (List Char)
  | s :: t :: e :: p :: rest =>
    if List.Forall₂ (· ∈ ·) [s, t, e, p] stepLetters then some (rest.dropWhile isSpace) else none
  | _ => none

/-- What is left after `\d+[\.\:\)]`. No digit is one of the marks, so that the longest row of
digits is the only one that can match. -/
def numberRest? (cs : List Char) : Option (List Char) :=
  if cs.takeWhile isDecimal = [] then none
  else
    match cs.dropWhile isDecimal with
    | mark :: rest => if mark ∈ ['.', ':', ')'] then some rest else none
    | [] => none

/-- The group of `\s*(.+)`. When only spaces are left, the last one that is no line feed is given
back to the group. -/
def nameGroup? (cs : List Char) : Option (List Char) :=
  let name := (cs.dropWhile isSpace).takeWhile (· ≠ '\n')
  if name ≠ [] then some name else ((cs.filter (· ≠ '\n')).getLast?).map fun c => [c]

/-- `pattern.match(text)` and its group: with the optional `step` first, and else without. -/
def matchNumbered (cs : List Char) : Option (List Char) :=
  ((stepRest? cs).bind fun rest => (numberRest? rest).bind nameGroup?).or
    ((numberRest? cs).bind nameGroup?)

/-- `name[:255]`. -/
def takeName (name : String) : String := takeText 255 name

/-- The step of a numbered line. -/
def numberedStep (number : ℕ) (name : String) : WorkflowCandidateStep where
  stepKey := s!"step-{number}"
  name
  stepType := "manual_task"
  riskLevel := "medium"
  requiresApproval := false

/-- The loop of `_extract_steps`. -/
def extractLoop (steps : List WorkflowCandidateStep) :
    List (List Char) → List WorkflowCandidateStep
  | [] => steps
  | line :: lines =>
    let stripped := strip (String.ofList line)
    if stripped = "" then extractLoop steps lines
    else
      match matchNumbered stripped.toList with
      | none => extractLoop steps lines
      | some group =>
        let name := takeName (strip (String.ofList group))
        extractLoop (steps ++ [numberedStep (steps.length + 1) name]) lines

/-- `_extract_steps`. -/
def extractSteps (rawContent : String) : List WorkflowCandidateStep :=
  if strip rawContent = "" then [] else extractLoop [] (splitLines rawContent.toList)

/-- `_default_steps`. -/
def defaultSteps (title : String) : List WorkflowCandidateStep :=
  [ { stepKey := "step-1"
      name := "Verify prerequisites"
      stepType := "manual_task"
      riskLevel := "low"
      requiresApproval := false },
    { stepKey := "step-2"
      name := takeName s!"Execute: {title}"
      stepType := "manual_task"
      riskLevel := "medium"
      requiresApproval := false } ]

/-- `ParseRunbookResponse`. -/
structure ParseRunbookResponse where
  requestId : String
  workflowTitle : String
  steps : List WorkflowCandidateStep
  warnings : List String

/-- `parse_runbook_to_candidate`, without `AI_USE_LLM_PARSER`. -/
def parseRunbookToCandidate (requestId title rawContent : String) : ParseRunbookResponse :=
  let steps := extractSteps rawContent
  if steps = [] then
    { requestId
      workflowTitle := title
      steps := defaultSteps title
      warnings := ["No numbered steps detected in content; using default step structure."] }
  else
    { requestId, workflowTitle := title, steps, warnings := [] }

/-- The JSON of a step. -/
def WorkflowCandidateStep.toDoc (step : WorkflowCandidateStep) : Doc :=
  .obj [("step_key", .str step.stepKey), ("name", .str step.name),
    ("step_type", .str step.stepType), ("risk_level", .str step.riskLevel),
    ("requires_approval", .bool step.requiresApproval),
    ("command", (step.command.map Doc.str).getD .null)]

/-- The JSON that the route answers. -/
def ParseRunbookResponse.toDoc (response : ParseRunbookResponse) : Doc :=
  .obj [("request_id", .str response.requestId), ("workflow_title", .str response.workflowTitle),
    ("steps", .arr (response.steps.map (·.toDoc))),
    ("warnings", .arr (response.warnings.map Doc.str))]

/-- The text in a field of a mapped record. -/
def Doc.str? : Doc → Option String
  | .str s => some s
  | _ => none

/-- A mapped step, when its fields are texts. -/
def MappedStep.typed? (step : MappedStep) : Option WorkflowCandidateStep := do
  let stepKey ← step.stepKey.str?
  let name ← step.name.str?
  let stepType ← step.stepType.str?
  let riskLevel ← step.riskLevel.str?
  pure
    { stepKey, name, stepType, riskLevel
      requiresApproval := step.requiresApproval
      command := step.command }

/-- A mapped candidate, when its fields are texts. -/
def MappedCandidate.typed? (candidate : MappedCandidate) : Option WorkflowCandidate := do
  let workflowTitle ← candidate.workflowTitle.str?
  let steps ← candidate.steps.mapM MappedStep.typed?
  pure { workflowTitle, steps }

-- ════════════════════════════════════════════════════════════════════════
-- The grammar of a numbered line
-- ════════════════════════════════════════════════════════════════════════

/-- Nothing, or `step` and spaces. -/
def StepWord (word : List Char) : Prop :=
  word = [] ∨ ∃ letters spaces, word = letters ++ spaces ∧
    List.Forall₂ (· ∈ ·) letters stepLetters ∧ ∀ c ∈ spaces, isSpace c = true

/-- The line is numbered, and `name` is what follows the number: it starts with no space. -/
structure Numbered (line name : List Char) : Prop where
  split : ∃ word digits mark pad, line = word ++ (digits ++ mark :: (pad ++ name)) ∧
    StepWord word ∧ digits ≠ [] ∧ (∀ c ∈ digits, isDecimal c = true) ∧
    mark ∈ ['.', ':', ')'] ∧ ∀ c ∈ pad, isSpace c = true
  nonempty : name ≠ []
  start : ∀ c, name.head? = some c → isSpace c = false

theorem isDecimal_iff {c : Char} :
    isDecimal c = true ↔ ∃ first ∈ decimalZeros, first ≤ c.toNat ∧ c.toNat ≤ first + 9 := by
  rw [isDecimal, decimalDigit?, Option.isSome_map, List.find?_isSome]
  simp

/-- No digit is a space. -/
theorem isSpace_of_isDecimal {c : Char} (h : isDecimal c = true) : isSpace c = false := by
  have hcodes : ∀ first ∈ decimalZeros, ∀ d < 10, isSpace (Char.ofNat (first + d)) = false := by
    decide +kernel
  obtain ⟨first, hfirst, hle, hge⟩ := isDecimal_iff.1 h
  have hcode := hcodes first hfirst (c.toNat - first) (by omega)
  rwa [Nat.add_sub_cancel' hle, Char.ofNat_toNat] at hcode

theorem mark_not_decimal {c : Char} (h : c ∈ ['.', ':', ')']) : isDecimal c = false := by
  simp only [List.mem_cons, List.not_mem_nil, or_false] at h
  rcases h with rfl | rfl | rfl <;> decide

theorem letter_not_decimal {c : Char} (h : c ∈ ['s', 'S', 'ſ']) : isDecimal c = false := by
  simp only [List.mem_cons, List.not_mem_nil, or_false] at h
  rcases h with rfl | rfl | rfl <;> decide

theorem stepRest?_iff {cs rest : List Char} :
    stepRest? cs = some rest ↔ ∃ letters spaces, cs = letters ++ (spaces ++ rest) ∧
      List.Forall₂ (· ∈ ·) letters stepLetters ∧ (∀ c ∈ spaces, isSpace c = true) ∧
      ∀ c, rest.head? = some c → isSpace c = false := by
  constructor
  · intro h
    unfold stepRest? at h
    split at h
    · rename_i s t e p after
      split_ifs at h with hletters
      cases h
      exact ⟨[s, t, e, p], after.takeWhile isSpace, by simp, hletters,
        fun c hc => List.mem_takeWhile_imp hc, fun c hc => head_dropWhile hc⟩
    · cases h
  · rintro ⟨letters, spaces, rfl, hletters, hspaces, hrest⟩
    obtain ⟨s, t, e, p, rfl⟩ : ∃ s t e p, letters = [s, t, e, p] := by
      have hlength : letters.length = 4 := hletters.length_eq
      obtain ⟨s, t, e, p, h⟩ := List.length_eq_four.1 hlength
      exact ⟨s, t, e, p, h⟩
    have hdrop := dropWhile_row hspaces hrest
    show (if List.Forall₂ (· ∈ ·) [s, t, e, p] stepLetters then
      some ((spaces ++ rest).dropWhile isSpace) else none) = some rest
    rw [if_pos hletters, hdrop]

theorem numberRest?_iff {cs rest : List Char} :
    numberRest? cs = some rest ↔ ∃ digits mark, cs = digits ++ mark :: rest ∧ digits ≠ [] ∧
      (∀ c ∈ digits, isDecimal c = true) ∧ mark ∈ ['.', ':', ')'] := by
  constructor
  · intro h
    unfold numberRest? at h
    split_ifs at h with hdigits
    split at h
    · rename_i mark after hdrop
      split_ifs at h with hmark
      cases h
      refine ⟨cs.takeWhile isDecimal, mark, ?_, hdigits, fun c hc => List.mem_takeWhile_imp hc,
        hmark⟩
      rw [← hdrop, List.takeWhile_append_dropWhile]
    · cases h
  · rintro ⟨digits, mark, rfl, hne, hdigits, hmark⟩
    have hnot := mark_not_decimal hmark
    have htake : (digits ++ mark :: rest).takeWhile isDecimal = digits := by
      rw [List.takeWhile_append_of_pos hdigits, List.takeWhile_cons_of_neg (by simp [hnot]),
        List.append_nil]
    have hdrop : (digits ++ mark :: rest).dropWhile isDecimal = mark :: rest :=
      dropWhile_row hdigits fun c hc => by
        cases hc
        exact hnot
    rw [numberRest?, htake, if_neg hne, hdrop]
    exact if_pos hmark

/-- What ends with no space, and holds no line feed, gives the group what follows its spaces. -/
theorem nameGroup?_iff {cs name : List Char} (hlast : ∀ c, cs.getLast? = some c → isSpace c = false)
    (hline : '\n' ∉ cs) :
    nameGroup? cs = some name ↔ name ≠ [] ∧ ∃ pad, cs = pad ++ name ∧
      (∀ c ∈ pad, isSpace c = true) ∧ ∀ c, name.head? = some c → isSpace c = false := by
  have htake : (cs.dropWhile isSpace).takeWhile (· ≠ '\n') = cs.dropWhile isSpace := by
    rw [List.takeWhile_eq_self_iff]
    intro c hc
    have hmem := (List.dropWhile_suffix isSpace).subset hc
    simpa using ne_of_mem_of_not_mem hmem hline
  have hfilter : cs.filter (· ≠ '\n') = cs := by
    rw [List.filter_eq_self]
    intro c hc
    simpa using ne_of_mem_of_not_mem hc hline
  rw [nameGroup?, htake, hfilter]
  constructor
  · intro h
    split_ifs at h with hname
    · cases h
      exact ⟨hname, cs.takeWhile isSpace, List.takeWhile_append_dropWhile.symm,
        fun c hc => List.mem_takeWhile_imp hc, fun c hc => head_dropWhile hc⟩
    · rw [not_not, List.dropWhile_eq_nil_iff] at hname
      obtain ⟨c, hc, -⟩ := Option.map_eq_some_iff.1 h
      have hspace := hname c (List.mem_of_getLast? hc)
      rw [hlast c hc] at hspace
      cases hspace
  · rintro ⟨hne, pad, rfl, hpad, hstart⟩
    rw [dropWhile_row hpad hstart, if_pos hne]

/-- **The pattern finds the numbered lines** among the lines that are stripped. -/
theorem matchNumbered_iff {line name : List Char}
    (hlast : ∀ c, line.getLast? = some c → isSpace c = false) (hline : '\n' ∉ line) :
    matchNumbered line = some name ↔ Numbered line name := by
  -- The rest of a line ends as the line does.
  have hgroup : ∀ before rest, line = before ++ rest → (nameGroup? rest = some name ↔
      name ≠ [] ∧ ∃ pad, rest = pad ++ name ∧ (∀ c ∈ pad, isSpace c = true) ∧
        ∀ c, name.head? = some c → isSpace c = false) := by
    rintro before rest rfl
    refine nameGroup?_iff (fun c hc => hlast c ?_) fun hmem => hline (List.mem_append_right _ hmem)
    rw [List.getLast?_append, hc, Option.some_or]
  rw [matchNumbered]
  constructor
  · intro h
    rcases Option.or_eq_some_iff.1 h with h | ⟨-, h⟩
    · obtain ⟨rest, hstep, hbound⟩ := Option.bind_eq_some_iff.1 h
      obtain ⟨after, hnumber, hfound⟩ := Option.bind_eq_some_iff.1 hbound
      obtain ⟨letters, spaces, hletters, hall, hspaces, -⟩ := stepRest?_iff.1 hstep
      obtain ⟨digits, mark, rfl, hne, hdigits, hmark⟩ := numberRest?_iff.1 hnumber
      obtain ⟨hname, pad, rfl, hpad, hstart⟩ := (hgroup (letters ++ (spaces ++ (digits ++ [mark])))
        after (by simp [hletters])).1 hfound
      exact ⟨⟨letters ++ spaces, digits, mark, pad, by simp [hletters],
        .inr ⟨letters, spaces, rfl, hall, hspaces⟩, hne, hdigits, hmark, hpad⟩, hname, hstart⟩
    · obtain ⟨after, hnumber, hfound⟩ := Option.bind_eq_some_iff.1 h
      obtain ⟨digits, mark, hsplit, hne, hdigits, hmark⟩ := numberRest?_iff.1 hnumber
      obtain ⟨hname, pad, rfl, hpad, hstart⟩ := (hgroup (digits ++ [mark])
        after (by simp [hsplit])).1 hfound
      exact ⟨⟨[], digits, mark, pad, hsplit, .inl rfl, hne, hdigits, hmark, hpad⟩, hname, hstart⟩
  · rintro ⟨⟨word, digits, mark, pad, hsplit, hword, hne, hdigits, hmark, hpad⟩, hname, hstart⟩
    have hnumber : numberRest? (digits ++ mark :: (pad ++ name)) = some (pad ++ name) :=
      numberRest?_iff.2 ⟨digits, mark, rfl, hne, hdigits, hmark⟩
    have hfound : nameGroup? (pad ++ name) = some name :=
      (hgroup (word ++ (digits ++ [mark])) _ (by simp [hsplit])).2 ⟨hname, pad, rfl, hpad, hstart⟩
    have hfirst : ∀ c, (digits ++ mark :: (pad ++ name)).head? = some c → isDecimal c = true := by
      intro c hc
      cases digits with
      | nil => exact absurd rfl hne
      | cons d ds =>
        cases hc
        exact hdigits _ List.mem_cons_self
    rw [Option.or_eq_some_iff]
    rcases hword with rfl | ⟨letters, spaces, rfl, hletters, hspaces⟩
    · have hstep : stepRest? line = none := by
        rw [Option.eq_none_iff_forall_ne_some]
        intro rest hrest
        obtain ⟨letters, spaces, hline', hall, -, -⟩ := stepRest?_iff.1 hrest
        cases hall with
        | cons hs _ =>
          have hdigit := hfirst _ (by rw [← List.nil_append (digits ++ _), ← hsplit, hline']; rfl)
          rw [letter_not_decimal hs] at hdigit
          cases hdigit
      refine .inr ⟨by rw [hstep, Option.bind_none], ?_⟩
      rw [hsplit, List.nil_append, hnumber, Option.bind_some, hfound]
    · have hstep : stepRest? line = some (digits ++ mark :: (pad ++ name)) :=
        stepRest?_iff.2 ⟨letters, spaces, by simp [hsplit], hletters, hspaces,
          fun c hc => isSpace_of_isDecimal (hfirst c hc)⟩
      exact .inl (by rw [hstep, Option.bind_some, hnumber, Option.bind_some, hfound])

-- ════════════════════════════════════════════════════════════════════════
-- One step for each numbered line
-- ════════════════════════════════════════════════════════════════════════

/-- A line is made of characters of the text, none of which breaks lines. -/
theorem mem_splitLines {cs line : List Char} (h : line ∈ splitLines cs) {c : Char} (hc : c ∈ line) :
    c ∈ cs ∧ isLineBreak c = false := by
  fun_induction splitLines cs generalizing line with
  | case1 => exact absurd h List.not_mem_nil
  | case2 rest ih =>
    rcases List.mem_cons.1 h with rfl | h
    · exact absurd hc List.not_mem_nil
    · exact (ih h hc).imp_left fun hmem => List.mem_cons_of_mem _ (List.mem_cons_of_mem _ hmem)
  | case3 d rest hcrlf hbreak ih =>
    rcases List.mem_cons.1 h with rfl | h
    · exact absurd hc List.not_mem_nil
    · exact (ih h hc).imp_left (List.mem_cons_of_mem _)
  | case4 d rest hcrlf hbreak hnil ih =>
    obtain rfl := List.mem_singleton.1 h
    obtain rfl := List.mem_singleton.1 hc
    exact ⟨List.mem_cons_self, by simpa using hbreak⟩
  | case5 d rest hcrlf hbreak first lines hlines ih =>
    rw [hlines] at ih
    rcases List.mem_cons.1 h with rfl | h
    · rcases List.mem_cons.1 hc with rfl | hc
      · exact ⟨List.mem_cons_self, by simpa using hbreak⟩
      · exact (ih List.mem_cons_self hc).imp_left (List.mem_cons_of_mem _)
    · exact (ih (List.mem_cons_of_mem _ h) hc).imp_left (List.mem_cons_of_mem _)

/-- The name that the loop reads off a line. -/
def lineName? (line : List Char) : Option String :=
  if strip (String.ofList line) = "" then none
  else (matchNumbered (strip (String.ofList line)).toList).map fun group =>
    takeName (strip (String.ofList group))

/-- What the loop reads off a line is what follows its number, up to 255 characters. -/
theorem lineName?_iff {line : List Char} {name : String} (hline : '\n' ∉ line) :
    lineName? line = some name ↔ ∃ group,
      Numbered (strip (String.ofList line)).toList group ∧ takeName (String.ofList group) = name := by
  have hlf : '\n' ∉ (strip (String.ofList line)).toList := by
    intro hmem
    have := mem_of_mem_strip hmem
    rw [String.toList_ofList] at this
    exact hline this
  have hmatch : ∀ group, matchNumbered (strip (String.ofList line)).toList = some group ↔
      Numbered (strip (String.ofList line)).toList group := fun group =>
    matchNumbered_iff (fun _ hc => getLast?_strip hc) hlf
  have hstripped : ∀ group, Numbered (strip (String.ofList line)).toList group →
      strip (String.ofList group) = String.ofList group := by
    intro group hgroup
    refine strip_ofList hgroup.start fun c hc => ?_
    apply @getLast?_strip (String.ofList line)
    obtain ⟨word, digits, mark, pad, hsplit, -⟩ := hgroup.split
    have hends : (strip (String.ofList line)).toList =
        (word ++ (digits ++ mark :: pad)) ++ group := by simp [hsplit]
    rw [hends, List.getLast?_append, hc, Option.some_or]
  rw [lineName?]
  by_cases hblank : strip (String.ofList line) = ""
  · rw [if_pos hblank, hblank]
    refine iff_of_false (by simp) ?_
    rintro ⟨group, ⟨⟨word, digits, mark, pad, hsplit, -⟩, -, -⟩, -⟩
    have hempty := congrArg List.length hsplit
    simp at hempty
  · rw [if_neg hblank, Option.map_eq_some_iff]
    constructor
    · rintro ⟨group, hgroup, rfl⟩
      exact ⟨group, (hmatch group).1 hgroup, by rw [hstripped group ((hmatch group).1 hgroup)]⟩
    · rintro ⟨group, hgroup, rfl⟩
      exact ⟨group, (hmatch group).2 hgroup, by rw [hstripped group hgroup]⟩

theorem extractLoop_eq (steps : List WorkflowCandidateStep) (lines : List (List Char)) :
    extractLoop steps lines = steps ++ (lines.filterMap lineName?).mapIdx fun i name =>
      numberedStep (steps.length + i + 1) name := by
  induction lines generalizing steps with
  | nil => simp [extractLoop]
  | cons line lines ih =>
    rw [extractLoop, List.filterMap_cons, lineName?]
    by_cases hblank : strip (String.ofList line) = ""
    · simp only [if_pos hblank, ih]
    · simp only [if_neg hblank]
      cases matchNumbered (strip (String.ofList line)).toList with
      | none => exact ih steps
      | some group =>
        simp only [Option.map_some, ih, List.mapIdx_cons, List.length_append, List.length_singleton,
          List.append_assoc, List.singleton_append]
        refine congrArg (fun rest => steps ++ numberedStep (steps.length + 0 + 1) _ :: rest) ?_
        exact congrArg (fun f => (lines.filterMap lineName?).mapIdx f)
          (funext fun i => by rw [Nat.add_right_comm steps.length 1 i, Nat.add_assoc steps.length i 1])

/-- **One step for each numbered line**, in the order of the text. -/
theorem extractSteps_eq (text : String) :
    extractSteps text = ((splitLines text.toList).filterMap lineName?).mapIdx fun i name =>
      numberedStep (i + 1) name := by
  rw [extractSteps]
  by_cases hblank : strip text = ""
  · have hnone : (splitLines text.toList).filterMap lineName? = [] := by
      rw [List.filterMap_eq_nil_iff]
      intro line hline
      rw [lineName?, if_pos]
      rw [strip_eq_empty_iff, String.toList_ofList]
      exact fun c hc => strip_eq_empty_iff.1 hblank c (mem_splitLines hline hc).1
    rw [if_pos hblank, hnone, List.mapIdx_nil]
  · rw [if_neg hblank, extractLoop_eq]
    simp

-- ════════════════════════════════════════════════════════════════════════
-- The steps of a response
-- ════════════════════════════════════════════════════════════════════════

/-- The key of the step with an index. -/
def keyOf (i : ℕ) : String := s!"step-{i + 1}"

theorem keyOf_inj {i j : ℕ} (h : keyOf i = keyOf j) : i = j := by
  have hlist := congrArg String.toList h
  simp only [keyOf, String.toList_append] at hlist
  have hnumber := String.toList_inj.1 (List.append_cancel_left hlist)
  exact Nat.succ.inj (Nat.repr_injective hnumber)

theorem keyOf_ne_empty (i : ℕ) : keyOf i ≠ "" := by
  intro h
  have hlist := congrArg (fun s => s.toList.length) h
  simp [keyOf, String.toList_append] at hlist

/-- Steps that every check of the API accepts. -/
structure FedSteps (steps : List WorkflowCandidateStep) : Prop where
  nonempty : steps ≠ []
  keys : steps.map (·.stepKey) = (List.range steps.length).map keyOf
  names : ∀ step ∈ steps, step.name ≠ "" ∧ step.name.length ≤ 255
  types : ∀ step ∈ steps, step.stepType = "manual_task"
  risks : ∀ step ∈ steps, step.riskLevel ∈ ["low", "medium"]
  commands : ∀ step ∈ steps, step.command = none

theorem fedSteps_default (title : String) : FedSteps (defaultSteps title) where
  nonempty := by simp [defaultSteps]
  keys := by
    show ["step-1", "step-2"] = [keyOf 0, keyOf 1]
    decide
  names step hstep := by
    simp only [defaultSteps, List.mem_cons, List.not_mem_nil, or_false] at hstep
    rcases hstep with rfl | rfl
    · exact ⟨by decide, by decide⟩
    · refine ⟨takeText_ne_empty (by decide) ?_, length_takeText _ _⟩
      intro h
      have hlist := String.append_eq_empty_iff.1 h
      exact absurd hlist.1 (by decide)
  types step hstep := by
    simp only [defaultSteps, List.mem_cons, List.not_mem_nil, or_false] at hstep
    rcases hstep with rfl | rfl <;> rfl
  risks step hstep := by
    simp only [defaultSteps, List.mem_cons, List.not_mem_nil, or_false] at hstep
    rcases hstep with rfl | rfl <;> simp
  commands step hstep := by
    simp only [defaultSteps, List.mem_cons, List.not_mem_nil, or_false] at hstep
    rcases hstep with rfl | rfl <;> rfl

theorem mem_numbered {names : List String} {step : WorkflowCandidateStep}
    (h : step ∈ names.mapIdx fun i name => numberedStep (i + 1) name) :
    ∃ i name, name ∈ names ∧ step = numberedStep (i + 1) name := by
  obtain ⟨i, hi, rfl⟩ := List.mem_mapIdx.1 h
  exact ⟨i, names[i], List.getElem_mem hi, rfl⟩

theorem fedSteps_numbered {names : List String} (hne : names ≠ [])
    (hnames : ∀ name ∈ names, name ≠ "" ∧ name.length ≤ 255) :
    FedSteps (names.mapIdx fun i name => numberedStep (i + 1) name) where
  nonempty := by simpa [List.mapIdx_eq_nil_iff] using hne
  keys := by
    refine List.ext_getElem (by simp) fun i hi hi' => ?_
    simp [numberedStep, keyOf]
  names step hstep := by
    obtain ⟨i, name, hname, rfl⟩ := mem_numbered hstep
    exact hnames name hname
  types step hstep := by
    obtain ⟨i, name, -, rfl⟩ := mem_numbered hstep
    rfl
  risks step hstep := by
    obtain ⟨i, name, -, rfl⟩ := mem_numbered hstep
    simp [numberedStep]
  commands step hstep := by
    obtain ⟨i, name, -, rfl⟩ := mem_numbered hstep
    rfl

/-- A line feed breaks lines. -/
theorem lineFeed_notMem {text line : List Char} (h : line ∈ splitLines text) : '\n' ∉ line := by
  intro hmem
  have hbreak := (mem_splitLines h hmem).2
  revert hbreak
  decide

/-- The steps of a response. -/
theorem fedSteps_response (requestId title rawContent : String) :
    FedSteps (parseRunbookToCandidate requestId title rawContent).steps := by
  rw [parseRunbookToCandidate]
  by_cases hsteps : extractSteps rawContent = []
  · rw [if_pos hsteps]
    exact fedSteps_default title
  · rw [if_neg hsteps]
    rw [extractSteps_eq, List.mapIdx_eq_nil_iff] at hsteps
    show FedSteps (extractSteps rawContent)
    rw [extractSteps_eq]
    refine fedSteps_numbered hsteps fun name hname => ?_
    obtain ⟨line, hline, hread⟩ := List.mem_filterMap.1 hname
    obtain ⟨group, hgroup, rfl⟩ := (lineName?_iff (lineFeed_notMem hline)).1 hread
    refine ⟨takeText_ne_empty (by decide) fun h => hgroup.nonempty ?_, length_takeText _ _⟩
    rw [← String.toList_ofList (l := group), h, String.toList_empty]

/-- The keys of the steps are distinct. -/
theorem FedSteps.keys_nodup {steps : List WorkflowCandidateStep} (h : FedSteps steps) :
    (steps.map (·.stepKey)).Nodup := by
  rw [h.keys]
  exact List.Nodup.map (fun _ _ => keyOf_inj) List.nodup_range

theorem FedSteps.key_ne_empty {steps : List WorkflowCandidateStep} (h : FedSteps steps)
    {step : WorkflowCandidateStep} (hstep : step ∈ steps) : step.stepKey ≠ "" := by
  have hkey : step.stepKey ∈ steps.map (·.stepKey) := List.mem_map_of_mem hstep
  rw [h.keys] at hkey
  obtain ⟨i, -, hi⟩ := List.mem_map.1 hkey
  rw [← hi]
  exact keyOf_ne_empty i

-- ════════════════════════════════════════════════════════════════════════
-- The checks of the API
-- ════════════════════════════════════════════════════════════════════════

/-- The loop of the contract mapping refuses none of the steps. -/
theorem FedSteps.not_refused (integer : String → Option ℤ) {steps : List WorkflowCandidateStep}
    (h : FedSteps steps) :
    ¬Refused (CandidateRefuses integer) [] (steps.map (·.toDoc)) := by
  rintro ⟨before, raw, after, hsplit, -, hrefuses⟩
  obtain ⟨first, last, rfl, rfl, hlast⟩ := List.map_eq_append_iff.1 hsplit
  obtain ⟨step, rest, rfl, rfl, rfl⟩ := List.map_eq_cons_iff.1 hlast
  have hstep : step ∈ first ++ step :: rest := by simp
  rcases hrefuses with hobj | hkey | hname | htype | hrisk | happroval | ⟨-, hseen⟩
  · cases hobj
  · exact h.key_ne_empty hstep (bne_eq_false_iff_eq.1 hkey)
  · exact (h.names step hstep).1 (bne_eq_false_iff_eq.1 hname)
  · have htype := bne_eq_false_iff_eq.1 htype
    rw [h.types step hstep] at htype
    exact absurd htype (by decide)
  · have hrisk := bne_eq_false_iff_eq.1 hrisk
    have hlevel := h.risks step hstep
    rw [hrisk] at hlevel
    exact absurd hlevel (by decide)
  · cases happroval
  · obtain ⟨key, hkey, hsame⟩ := List.any_eq_true.1 hseen
    rw [List.nil_append, List.map_map, List.mem_map] at hkey
    obtain ⟨other, hother, rfl⟩ := hkey
    have hnodup := h.keys_nodup
    rw [List.map_append, List.nodup_append] at hnodup
    exact hnodup.2.2 _ (List.mem_map_of_mem hother) _ List.mem_cons_self (beq_iff_eq.1 hsame)

/-- A mapped step is the step of the response. -/
theorem typed?_mappedStep (step : WorkflowCandidateStep) :
    (mappedStep step.toDoc).typed? = some step := by
  obtain ⟨stepKey, name, stepType, riskLevel, requiresApproval, command⟩ := step
  cases requiresApproval <;> cases command <;> rfl

theorem mapM_typed? (steps : List WorkflowCandidateStep) :
    ((steps.map (·.toDoc)).map mappedStep).mapM MappedStep.typed? = some steps := by
  induction steps with
  | nil => rfl
  | cons step steps ih =>
    rw [List.map_cons, List.map_cons, List.mapM_cons, typed?_mappedStep, ih]
    rfl

/-- **The contract mapping** returns the candidate of the response. -/
theorem FedSteps.mapped (integer : String → Option ℤ) {response : ParseRunbookResponse}
    (h : FedSteps response.steps) (htitle : response.workflowTitle ≠ "") :
    ∃ mapped, validateAndMapCandidate integer response.toDoc = .ok mapped ∧
      mapped.typed? = some ⟨response.workflowTitle, response.steps⟩ := by
  have hraws : rawSteps? response.toDoc = some (response.steps.map (·.toDoc)) := by
    exact Option.filter_eq_some_iff.2 ⟨rfl, by simpa using h.nonempty⟩
  have hmap : mapSteps (candidateStep integer) [] 0 (response.steps.map (·.toDoc)) =
      .ok ((response.steps.map (·.toDoc)).map mappedStep) := by
    rcases mapSteps_cases (candidateStep_spec integer) [] 0 (response.steps.map (·.toDoc)) with
      ⟨hrefused, -⟩ | ⟨-, ⟨raw, hraw, hhash⟩, -⟩ | ⟨-, -, hmap⟩
    · exact absurd hrefused (h.not_refused integer)
    · obtain ⟨step, -, rfl⟩ := List.mem_map.1 hraw
      cases hhash
    · exact hmap
  refine ⟨⟨.str response.requestId, .str response.workflowTitle,
    (response.steps.map (·.toDoc)).map mappedStep, response.warnings.map Doc.str⟩, ?_, ?_⟩
  · have hobj : response.toDoc.isObj = true := rfl
    have htext : (response.toDoc.getD "workflow_title" (.str "")).truthy integer = true :=
      bne_iff_ne.2 htitle
    rw [validateAndMapCandidate, demand_bind_true hobj, demand_bind_true htext]
    simp only [hraws, hmap]
    rfl
  · simp only [MappedCandidate.typed?, mapM_typed?]
    rfl

theorem validateCandidateSteps_ok {seen : List String} {steps : List WorkflowCandidateStep}
    (hkeys : ∀ step ∈ steps, step.stepKey ≠ "" ∧ step.stepKey ∉ seen)
    (hnodup : (steps.map (·.stepKey)).Nodup) (hnames : ∀ step ∈ steps, step.name ≠ "") :
    validateCandidateSteps seen steps = .ok () := by
  induction steps generalizing seen with
  | nil => rfl
  | cons step steps ih =>
    rw [List.map_cons, List.nodup_cons] at hnodup
    simp only [validateCandidateSteps, except_bind_ok, check_ok, exists_and_left, exists_const]
    refine ⟨(hkeys step List.mem_cons_self).1, (hkeys step List.mem_cons_self).2,
      hnames step List.mem_cons_self, ih (fun other hother => ?_) hnodup.2
        fun other hother => hnames other (List.mem_cons_of_mem _ hother)⟩
    refine ⟨(hkeys other (List.mem_cons_of_mem _ hother)).1, fun hmem => ?_⟩
    rcases List.mem_cons.1 hmem with heq | hmem
    · exact hnodup.1 (heq ▸ List.mem_map_of_mem hother)
    · exact (hkeys other (List.mem_cons_of_mem _ hother)).2 hmem

theorem FedSteps.candidate {title : String} {steps : List WorkflowCandidateStep}
    (h : FedSteps steps) : validateCandidate ⟨title, steps⟩ = .ok () := by
  simp only [validateCandidate, except_bind_ok, check_ok, exists_const]
  exact ⟨h.nonempty, validateCandidateSteps_ok
    (fun step hstep => ⟨h.key_ne_empty hstep, List.not_mem_nil⟩) h.keys_nodup
    fun step hstep => (h.names step hstep).1⟩

/-- The entry of a step in the definition. -/
def WorkflowCandidateStep.entry (step : WorkflowCandidateStep) : Json :=
  .obj <|
    [("id", .str step.stepKey), ("name", .str step.name), ("type", .str step.stepType),
      ("risk", .str step.riskLevel), ("requiresApproval", .bool step.requiresApproval)] ++
    (step.command.map fun command => ("command", Json.str command)).toList

/-- The entry of a step conforms to its schema. -/
theorem valid_entry (step : WorkflowCandidateStep) : stepSchemaV1.valid step.entry = true := by
  obtain ⟨stepKey, name, stepType, riskLevel, requiresApproval, command⟩ := step
  cases command <;> rfl

theorem valid_definition (candidate : WorkflowCandidate) :
    workflowSchemaV1.valid (mapCandidateToDefinition candidate) = true := by
  have hsteps : (arrayOf stepSchemaV1).valid (.arr (candidate.steps.map (·.entry))) = true := by
    rw [arrayOf, Schema.valid_all]
    intro schema hschema
    simp only [List.mem_cons, List.not_mem_nil, or_false] at hschema
    rcases hschema with rfl | rfl
    · rfl
    · rw [Schema.valid_items]
      intro entry hentry
      obtain ⟨step, -, rfl⟩ := List.mem_map.1 hentry
      exact valid_entry step
  have hdeclared : (Schema.declares [("name", .type .string), ("steps", arrayOf stepSchemaV1)]).valid
      (mapCandidateToDefinition candidate) =
        (arrayOf stepSchemaV1).valid (.arr (candidate.steps.map (·.entry))) := by
    show (((arrayOf stepSchemaV1).valid _ && true) && true) = _
    rw [Bool.and_true, Bool.and_true]
    rfl
  rw [workflowSchemaV1, Schema.valid_all]
  intro schema hschema
  simp only [List.mem_cons, List.not_mem_nil, or_false] at hschema
  rcases hschema with rfl | rfl | rfl
  · rfl
  · rfl
  · exact hdeclared.trans hsteps

theorem checkStepsV1_entries (env : Env) {position : ℕ} {seen : List String}
    {steps : List WorkflowCandidateStep}
    (hkeys : ∀ step ∈ steps, step.stepKey ≠ "" ∧ step.stepKey ∉ seen)
    (hnodup : (steps.map (·.stepKey)).Nodup)
    (htypes : ∀ step ∈ steps, step.stepType ∈ supportedStepTypes)
    (hrisks : ∀ step ∈ steps, step.riskLevel ∈ supportedRiskLevels) :
    checkStepsV1 env position seen (steps.map (·.entry)) = .ok () := by
  induction steps generalizing position seen with
  | nil => rfl
  | cons step steps ih =>
    have hid : textOf step.entry "id" "" = step.stepKey := rfl
    have htype : step.entry.getD "type" .null = .str step.stepType := rfl
    have hrisk : step.entry.getD "risk" .null = .str step.riskLevel := rfl
    have hcommand : (step.entry.getD "command" (.str "")).isStr = true := by
      obtain ⟨stepKey, name, stepType, riskLevel, requiresApproval, command⟩ := step
      cases command <;> rfl
    rw [List.map_cons, List.nodup_cons] at hnodup
    rw [List.map_cons, checkStepsV1, hid, htype, hrisk]
    simp only [except_bind_ok, check_ok, exists_and_left, exists_const]
    refine ⟨(hkeys step List.mem_cons_self).1, (hkeys step List.mem_cons_self).2,
      List.mem_map_of_mem (htypes step List.mem_cons_self),
      List.mem_map_of_mem (hrisks step List.mem_cons_self), rfl, hcommand,
      ih (fun other hother => ?_) hnodup.2
        (fun other hother => htypes other (List.mem_cons_of_mem _ hother))
        fun other hother => hrisks other (List.mem_cons_of_mem _ hother)⟩
    refine ⟨(hkeys other (List.mem_cons_of_mem _ hother)).1, fun hmem => ?_⟩
    rcases List.mem_cons.1 hmem with heq | hmem
    · exact hnodup.1 (heq ▸ List.mem_map_of_mem hother)
    · exact (hkeys other (List.mem_cons_of_mem _ hother)).2 hmem

/-- **The v1 validation** accepts the definition of the candidate. -/
theorem FedSteps.definition (env : Env) (message : Schema → Json → String) {title : String}
    {steps : List WorkflowCandidateStep} (h : FedSteps steps) :
    validateV1 env message (mapCandidateToDefinition ⟨title, steps⟩) = .ok () := by
  have hlisted : listOf (mapCandidateToDefinition ⟨title, steps⟩) "steps" =
      steps.map (·.entry) := rfl
  simp only [validateV1, checkSchemaV1, checkSemanticsV1, except_bind_ok, check_ok, exists_const,
    hlisted]
  refine ⟨valid_definition _, by simpa using h.nonempty, checkStepsV1_entries env
    (fun step hstep => ⟨h.key_ne_empty hstep, List.not_mem_nil⟩) h.keys_nodup ?_ ?_⟩
  · intro step hstep
    rw [h.types step hstep]
    decide
  · intro step hstep
    have hlevels : ∀ level ∈ ["low", "medium"], level ∈ supportedRiskLevels := by decide
    exact hlevels _ (h.risks step hstep)

/-- The steps that the parser answers for a text: those of its numbered lines, as the grammar
finds them, or else the default steps. -/
structure Parsed (rawContent title : String) (steps : List WorkflowCandidateStep) : Prop where
  lines : ∀ line ∈ splitLines rawContent.toList, ∀ name, lineName? line = some name ↔ ∃ group,
    Numbered (strip (String.ofList line)).toList group ∧ takeName (String.ofList group) = name
  numbered : (splitLines rawContent.toList).filterMap lineName? ≠ [] →
    steps = ((splitLines rawContent.toList).filterMap lineName?).mapIdx fun i name =>
      numberedStep (i + 1) name
  default : (splitLines rawContent.toList).filterMap lineName? = [] → steps = defaultSteps title

/-- **The parser feeds the API**: for every text and every title that is not empty the steps are
those of the numbered lines in their order, or the default steps, with the keys `step-1` to
`step-n` and names of 1 to 255 characters, and the response passes the contract mapping, the
candidate `_validate_candidate`, and its definition the v1 validation. -/
theorem parser_feeds_api (env : Env) (message : Schema → Json → String)
    (integer : String → Option ℤ) (requestId rawContent : String) {title : String}
    (htitle : title ≠ "") :
    Parsed rawContent title (parseRunbookToCandidate requestId title rawContent).steps ∧
      FedSteps (parseRunbookToCandidate requestId title rawContent).steps ∧
      ∃ mapped candidate,
        validateAndMapCandidate integer
          (parseRunbookToCandidate requestId title rawContent).toDoc = .ok mapped ∧
        mapped.typed? = some candidate ∧ validateCandidate candidate = .ok () ∧
        validateV1 env message (mapCandidateToDefinition candidate) = .ok () := by
  have hfed := fedSteps_response requestId title rawContent
  have hresponse : (parseRunbookToCandidate requestId title rawContent).workflowTitle = title := by
    rw [parseRunbookToCandidate]
    split_ifs <;> rfl
  refine ⟨⟨fun line hline name => lineName?_iff (lineFeed_notMem hline), ?_, ?_⟩, hfed, ?_⟩
  · intro hne
    rw [parseRunbookToCandidate, if_neg (by rw [extractSteps_eq]; simpa using hne)]
    exact extractSteps_eq rawContent
  · intro hnil
    rw [parseRunbookToCandidate, if_pos (by rw [extractSteps_eq, hnil]; rfl)]
  · obtain ⟨mapped, hmapped, htyped⟩ := hfed.mapped integer (by rw [hresponse]; exact htitle)
    exact ⟨mapped, _, hmapped, htyped, hfed.candidate, hfed.definition env message⟩

theorem parser_feeds_api_restart :
    "Restart" ≠ "" ∧ ∃ mapped candidate,
      validateAndMapCandidate (fun _ => none)
        (parseRunbookToCandidate "r1" "Restart" "Step 1: Stop\n2) Start\n").toDoc = .ok mapped ∧
      mapped.typed? = some candidate ∧ validateCandidate candidate = .ok () ∧
      validateV1 .sample (fun _ _ => "") (mapCandidateToDefinition candidate) = .ok () :=
  ⟨by decide, (parser_feeds_api .sample (fun _ _ => "") (fun _ => none) "r1"
    "Step 1: Stop\n2) Start\n" (by decide)).2.2⟩

example : (parseRunbookToCandidate "r1" "Restart" "Step 1: Stop\n\n2)  Start\n").steps.map
    (·.name) = ["Stop", "Start"] := by decide +kernel

end RunbookPlatform
