import RunbookPlatform.Paths.Resolve
import RunbookPlatform.Runner.Artifacts

/-!
# Workspaces of steps

Every step that runs in the sandbox has a directory of its own below the configured root. Its
name is made of the position of the step, of its key, which is free text, and of its id; the
cleanup of a step removes the whole directory.

## Main definitions

- `UUID.text` — `str(uuid)`
- `WorkspaceManager` — a resolved root; `WorkspaceManager.buildWorkspacePath`
- `WorkspacesApart` — workspaces lie below the root, and no two steps share files

## Main results

- `stepDir_injective` — the directory of a step tells its id
- `buildWorkspacePath_below`, `buildWorkspacePath_slash` — the path, below any root but `/`
- `workspaces_apart_iff` — when workspaces do not overlap
-/

namespace RunbookPlatform

open Paths

-- ════════════════════════════════════════════════════════════════════════
-- Identifiers
-- ════════════════════════════════════════════════════════════════════════

/-- `uuid.UUID`. -/
abbrev UUID := BitVec 128

/-- The last `count` hexadecimal digits. -/
def hexDigits : ℕ → ℕ → List Char
  | 0, _ => []
  | count + 1, n => hexDigits count (n / 16) ++ [Nat.digitChar (n % 16)]

/-- The digits in the groups that `str` writes. -/
def hyphenated (hex : List Char) : List Char :=
  hex.take 8 ++ '-' :: ((hex.drop 8).take 4 ++ '-' :: ((hex.drop 12).take 4 ++
    '-' :: ((hex.drop 16).take 4 ++ '-' :: hex.drop 20)))

/-- `str(uuid)`. -/
def UUID.text (u : UUID) : String := String.ofList (hyphenated (hexDigits 32 u.toNat))

theorem length_hexDigits (count n : ℕ) : (hexDigits count n).length = count := by
  induction count generalizing n with
  | zero => rfl
  | succ count ih => rw [hexDigits, List.length_append, ih, List.length_singleton]

theorem digitChar_injective : ∀ a < 16, ∀ b < 16, Nat.digitChar a = Nat.digitChar b → a = b := by
  decide

theorem hexDigits_injective {count m n : ℕ} (hm : m < 16 ^ count) (hn : n < 16 ^ count)
    (h : hexDigits count m = hexDigits count n) : m = n := by
  induction count generalizing m n with
  | zero => omega
  | succ count ih =>
    rw [hexDigits, hexDigits] at h
    obtain ⟨hinit, hlast⟩ := List.append_inj' h rfl
    have hdiv : m / 16 = n / 16 := by
      refine ih ?_ ?_ hinit
      · rw [pow_succ] at hm
        omega
      · rw [pow_succ] at hn
        omega
    have hmod : m % 16 = n % 16 := digitChar_injective _ (Nat.mod_lt _ (by omega)) _
      (Nat.mod_lt _ (by omega)) (List.singleton_inj.1 hlast)
    omega

/-- The digits are none of the characters that separate or end texts of paths. -/
theorem mem_hexDigits {count n : ℕ} {c : Char} (h : c ∈ hexDigits count n) :
    ∃ d < 16, c = Nat.digitChar d := by
  induction count generalizing n with
  | zero => cases h
  | succ count ih =>
    rw [hexDigits, List.mem_append, List.mem_singleton] at h
    rcases h with h | rfl
    · exact ih h
    · exact ⟨n % 16, Nat.mod_lt _ (by omega), rfl⟩

theorem digitChar_plain : ∀ d < 16, Nat.digitChar d ≠ '-' ∧ Nat.digitChar d ≠ '/' ∧
    Nat.digitChar d ≠ nul := by decide

theorem length_hyphenated {hex : List Char} (h : hex.length = 32) :
    (hyphenated hex).length = 36 := by
  simp only [hyphenated, List.length_append, List.length_cons, List.length_take, List.length_drop, h]
  omega

theorem take_drop_append (hex : List Char) (i j : ℕ) :
    (hex.drop i).take j ++ hex.drop (i + j) = hex.drop i := by
  rw [← List.drop_drop, List.take_append_drop]

/-- Without the hyphens the digits are there. -/
theorem filter_hyphenated {hex : List Char} (h : ∀ c ∈ hex, c ≠ '-') :
    (hyphenated hex).filter (· ≠ '-') = hex := by
  have hkeep : ∀ part : List Char, part ⊆ hex → part.filter (· ≠ '-') = part := fun part hpart =>
    List.filter_eq_self.2 fun c hc => by simpa using h c (hpart hc)
  have hgroup : ∀ i j, (hex.drop i).take j ⊆ hex := fun i j =>
    List.Subset.trans (List.take_subset _ _) (List.drop_subset _ _)
  have hhyphen : ∀ rest : List Char, ('-' :: rest).filter (· ≠ '-') = rest.filter (· ≠ '-') :=
    fun rest => List.filter_cons_of_neg (by decide)
  simp only [hyphenated, List.filter_append, hhyphen]
  rw [hkeep _ (List.take_subset _ _), hkeep _ (hgroup 8 4), hkeep _ (hgroup 12 4),
    hkeep _ (hgroup 16 4), hkeep _ (List.drop_subset _ _), take_drop_append hex 16 4,
    take_drop_append hex 12 4, take_drop_append hex 8 4, List.take_append_drop]

theorem mem_hyphenated {hex : List Char} {c : Char} (h : c ∈ hyphenated hex) : c = '-' ∨ c ∈ hex := by
  simp only [hyphenated, List.mem_append, List.mem_cons] at h
  rcases h with h | h | h | h | h | h | h | h | h
  · exact .inr (List.mem_of_mem_take h)
  · exact .inl h
  · exact .inr (List.mem_of_mem_drop (List.mem_of_mem_take h))
  · exact .inl h
  · exact .inr (List.mem_of_mem_drop (List.mem_of_mem_take h))
  · exact .inl h
  · exact .inr (List.mem_of_mem_drop (List.mem_of_mem_take h))
  · exact .inl h
  · exact .inr (List.mem_of_mem_drop h)

namespace UUID

theorem toList_text (u : UUID) : u.text.toList = hyphenated (hexDigits 32 u.toNat) :=
  String.toList_ofList

theorem length_text (u : UUID) : u.text.toList.length = 36 := by
  rw [toList_text]
  exact length_hyphenated (length_hexDigits 32 _)

theorem text_injective {u v : UUID} (h : u.text.toList = v.text.toList) : u = v := by
  have hdigits : ∀ n, ∀ c ∈ hexDigits 32 n, c ≠ '-' := by
    intro n c hc
    obtain ⟨d, hd, rfl⟩ := mem_hexDigits hc
    exact (digitChar_plain d hd).1
  rw [toList_text, toList_text] at h
  have hhex := congrArg (List.filter (· ≠ '-')) h
  rw [filter_hyphenated (hdigits _), filter_hyphenated (hdigits _)] at hhex
  have hbound : ∀ w : UUID, w.toNat < 16 ^ 32 := fun w => w.isLt
  exact BitVec.eq_of_toNat_eq (hexDigits_injective (hbound u) (hbound v) hhex)

/-- The text has only characters of names. -/
theorem mem_text {u : UUID} {c : Char} (h : c ∈ u.text.toList) : c ≠ '/' ∧ c ≠ nul := by
  rw [toList_text] at h
  rcases mem_hyphenated h with rfl | h
  · decide
  · obtain ⟨d, hd, rfl⟩ := mem_hexDigits h
    exact (digitChar_plain d hd).2

end UUID

-- ════════════════════════════════════════════════════════════════════════
-- Workspaces
-- ════════════════════════════════════════════════════════════════════════

/-- `WorkspaceManager`: the root is resolved when the manager is made. -/
structure WorkspaceManager (links : Links) where
  root : List String
  resolved : links.Canonical root

/-- What a workspace path is built of. The key is any text that a path may have. -/
structure StepAddress where
  executionId : UUID
  stepPosition : ℤ
  stepKey : String
  stepId : UUID
  stepKey_noNul : nul ∉ stepKey.toList

/-- Why no path is built; a path that escapes is a `SandboxValidationError`. -/
inductive WorkspaceError where
  | resolve (e : ResolveError)
  | escapes (message : String)

/-- `f"{step_position}-{safe_key}-{step_id}"`. -/
def StepAddress.stepDir (step : StepAddress) : String :=
  s!"{step.stepPosition}-{safeKey step.stepKey}-{step.stepId.text}"

namespace WorkspaceManager

variable {links : Links}

/-- `WorkspaceManager(workspace_root)`, for links that lead on to at most `depth` others. -/
def init (links : Links) (depth : ℕ) (workspaceRoot : String) :
    Except ResolveError (WorkspaceManager links) :=
  match h : links.resolve depth workspaceRoot with
  | .error e => .error e
  | .ok root => .ok ⟨root, Links.resolve_canonical h⟩

/-- `build_workspace_path`. -/
def buildWorkspacePath (m : WorkspaceManager links) (depth : ℕ) (step : StepAddress) :
    Except WorkspaceError (List String) :=
  match links.resolve depth (join (join (render m.root) step.executionId.text) step.stepDir) with
  | .error e => .error (.resolve e)
  | .ok candidate =>
    if Sandbox.isInside (render m.root) (render candidate) then .ok candidate
    else .error (.escapes
      s!"Workspace path {render candidate} escapes configured root {render m.root}")

end WorkspaceManager

/-- Below the root nothing is a link. -/
def WorkspaceManager.NoLinksBelow {links : Links} (m : WorkspaceManager links) : Prop :=
  ∀ below, below ≠ [] → links.readlink (m.root ++ below) = none

/-- **Workspaces do not overlap**: every step has a path strictly below the root, and the paths of
two steps are different and neither contains the other. -/
structure WorkspacesApart {links : Links} (m : WorkspaceManager links) (depth : ℕ) : Prop where
  inside : ∀ step, ∃ path, m.buildWorkspacePath depth step = .ok path ∧ m.root <+: path ∧
    path ≠ m.root
  apart : ∀ step step' path path',
    (step.executionId, step.stepId) ≠ (step'.executionId, step'.stepId) →
      m.buildWorkspacePath depth step = .ok path → m.buildWorkspacePath depth step' = .ok path' →
        path ≠ path' ∧ ¬path <+: path' ∧ ¬path' <+: path

theorem mem_replaceParentDots {cs : List Char} {c : Char} (h : c ∈ replaceParentDots cs) :
    c = '_' ∨ c ∈ cs := by
  induction cs using replaceParentDots.induct with
  | case1 rest ih =>
    rw [replaceParentDots, List.mem_cons, List.mem_cons] at h
    rcases h with h | h | h
    · exact .inl h
    · exact .inl h
    · exact (ih h).imp_right fun hc => List.mem_cons_of_mem _ (List.mem_cons_of_mem _ hc)
  | case2 c rest hne ih =>
    rw [replaceParentDots.eq_2 c rest hne, List.mem_cons] at h
    rcases h with rfl | h
    · exact .inr List.mem_cons_self
    · exact (ih h).imp_right (List.mem_cons_of_mem _)
  | case3 => cases h

/-- No slash is left of a key, and no character is new but the underscore. -/
theorem mem_safeKey {key : String} {c : Char} (h : c ∈ (safeKey key).toList) :
    c ≠ '/' ∧ (c = '_' ∨ c ∈ key.toList) := by
  rw [safeKey, String.toList_ofList] at h
  rcases mem_replaceParentDots h with rfl | h
  · exact ⟨by decide, .inl rfl⟩
  · obtain ⟨a, ha, rfl⟩ := List.mem_map.1 h
    split_ifs with hslash
    · exact ⟨by decide, .inl rfl⟩
    · exact ⟨hslash, .inr ha⟩

namespace StepAddress

variable (step : StepAddress)

theorem toList_stepDir : step.stepDir.toList = (toString step.stepPosition).toList ++ '-' ::
    ((safeKey step.stepKey).toList ++ '-' :: step.stepId.text.toList) := by
  simp [stepDir, String.toList_append, toString]

theorem mem_toString {n : ℤ} {c : Char} (h : c ∈ (toString n).toList) : c ≠ '/' ∧ c ≠ nul := by
  have hdigits : ∀ m : ℕ, c ∈ (Nat.repr m).toList → c ≠ '/' ∧ c ≠ nul := by
    intro m hm
    have hdigit : c.isDigit = true :=
      Nat.isDigit_of_mem_toDigits (b := 10) (by omega) (by omega) (by simpa [Nat.repr] using hm)
    constructor <;> rintro rfl <;> exact absurd hdigit (by decide)
  rw [Int.toString_eq_repr, Int.repr_eq_if] at h
  split_ifs at h
  · exact hdigits _ h
  · rw [String.toList_append, List.mem_append] at h
    rcases h with hminus | h
    · obtain rfl : c = '-' := by simpa using hminus
      decide
    · exact hdigits _ h

/-- The directory of a step is one directory: its name has no slash and is not made of dots. -/
theorem isName_stepDir : IsName step.stepDir := by
  have hlength : 36 ≤ step.stepDir.toList.length := by
    rw [toList_stepDir]
    simp only [List.length_append, List.length_cons, UUID.length_text]
    omega
  have hshort : ∀ text : String, text.toList.length < 36 → step.stepDir ≠ text := by
    rintro text htext rfl
    omega
  have hchars : ∀ c ∈ step.stepDir.toList, c ≠ '/' ∧ c ≠ nul := by
    intro c hc
    rw [toList_stepDir] at hc
    simp only [List.mem_append, List.mem_cons] at hc
    rcases hc with hc | rfl | hc | rfl | hc
    · exact mem_toString hc
    · decide
    · refine ⟨(mem_safeKey hc).1, ?_⟩
      rintro rfl
      rcases (mem_safeKey hc).2 with h | h
      · exact absurd h (by decide)
      · exact step.stepKey_noNul h
    · decide
    · exact UUID.mem_text hc
  exact ⟨hshort "" (by decide), hshort "." (by decide), hshort ".." (by decide),
    fun h => (hchars _ h).1 rfl, fun h => (hchars _ h).2 rfl⟩

/-- The id is the end of the name. -/
theorem stepDir_injective {step step' : StepAddress} (h : step.stepDir = step'.stepDir) :
    step.stepId = step'.stepId := by
  have hsplit : ∀ s : StepAddress, s.stepDir.toList = ((toString s.stepPosition).toList ++ '-' ::
      (safeKey s.stepKey).toList ++ ['-']) ++ s.stepId.text.toList := by
    intro s
    rw [toList_stepDir]
    simp
  have hlist := congrArg String.toList h
  rw [hsplit, hsplit] at hlist
  have hlength : step.stepId.text.toList.length = step'.stepId.text.toList.length := by
    rw [UUID.length_text, UUID.length_text]
  exact UUID.text_injective (List.append_inj' hlist hlength).2

end StepAddress

theorem UUID.isName_text (u : UUID) : IsName u.text := by
  have hshort : ∀ text : String, text.toList.length < 36 → u.text ≠ text := by
    rintro text htext rfl
    rw [u.length_text] at htext
    omega
  exact ⟨hshort "" (by decide), hshort "." (by decide), hshort ".." (by decide),
    fun h => (UUID.mem_text h).1 rfl, fun h => (UUID.mem_text h).2 rfl⟩

namespace WorkspaceManager

variable {links : Links} (m : WorkspaceManager links)

theorem canonical_below (hlinks : m.NoLinksBelow) {below : List String}
    (hbelow : ∀ name ∈ below, IsName name) : links.Canonical (m.root ++ below) where
  isName name hname := (List.mem_append.1 hname).elim (m.resolved.isName name) (hbelow name)
  linkFree prior hprior hne := by
    rcases List.prefix_or_prefix_of_prefix hprior (List.prefix_append m.root below) with
      hroot | ⟨more, rfl⟩
    · exact m.resolved.linkFree prior hroot hne
    · by_cases hmore : more = []
      · rw [hmore, List.append_nil] at hne ⊢
        exact m.resolved.linkFree m.root List.prefix_rfl hne
      · exact hlinks more hmore

theorem isInside_below {root below : List String} (hroot : root ≠ []) (hbelow : below ≠ []) :
    Sandbox.isInside (render root) (render (root ++ below)) = true := by
  obtain ⟨name, rest, rfl⟩ := List.exists_cons_of_ne_nil hbelow
  rw [Sandbox.isInside, Bool.or_eq_true]
  left
  rw [List.isPrefixOf_iff_prefix, String.toList_append, toList_render hroot,
    toList_render (by simp), List.flatMap_append, List.prefix_append_right_inj, List.flatMap_cons]
  exact List.prefix_append ['/'] _

theorem not_prefix_of_ne {root a b : List String} (hlength : a.length = b.length) (hne : a ≠ b) :
    ¬root ++ a <+: root ++ b := fun h =>
  hne (((List.prefix_append_right_inj root).1 h).eq_of_length hlength)

/-- No text of a path starts with two slashes. -/
theorem not_isInside_slash {name : String} {rest : List String} (hname : IsName name) :
    Sandbox.isInside (render []) (render (name :: rest)) = false := by
  obtain ⟨c, cs, hcs⟩ := List.exists_cons_of_ne_nil
    (mt String.toList_eq_nil_iff.1 hname.nonempty)
  have hc : c ≠ '/' := by
    rintro rfl
    exact hname.noSlash (hcs ▸ List.mem_cons_self)
  have hlist : (render (name :: rest)).toList =
      '/' :: c :: (cs ++ rest.flatMap fun n => '/' :: n.toList) := by
    rw [toList_render (List.cons_ne_nil _ _), List.flatMap_cons, hcs]
    rfl
  rw [Sandbox.isInside, Bool.or_eq_false_iff, hlist]
  constructor
  · have hslashes : (render [] ++ "/").toList = ['/', '/'] := by decide
    rw [hslashes, Bool.eq_false_iff]
    intro h
    have hprefix := List.isPrefixOf_iff_prefix.1 h
    rw [List.cons_prefix_cons, List.cons_prefix_cons] at hprefix
    exact hc hprefix.2.1.symm
  · refine beq_eq_false_iff_ne.2 fun h => ?_
    rw [h] at hlist
    exact absurd hlist (by simp [render])

/-- The walk to the directory of a step meets nothing on its way. -/
theorem resolve_stepDir (hlinks : m.NoLinksBelow) (depth : ℕ) (step : StepAddress) :
    links.resolve depth (join (join (render m.root) step.executionId.text) step.stepDir) =
      .ok (m.root ++ [step.executionId.text, step.stepDir]) := by
  have hbelow : ∀ name ∈ [step.executionId.text, step.stepDir], IsName name := by
    simpa using ⟨step.executionId.isName_text, step.isName_stepDir⟩
  have hjoin : join (join (render m.root) step.executionId.text) step.stepDir =
      render (m.root ++ [step.executionId.text, step.stepDir]) := by
    rw [join_render m.resolved.isName step.executionId.isName_text.noSlash, join_render _
      step.isName_stepDir.noSlash, List.append_assoc]
    · rfl
    · intro n hn
      rcases List.mem_append.1 hn with hn | hn
      · exact m.resolved.isName n hn
      · rw [List.mem_singleton.1 hn]
        exact step.executionId.isName_text
  rw [hjoin, Links.resolve_render (m.canonical_below hlinks hbelow)]

/-- **The path of a step**: two directories below the root. -/
theorem buildWorkspacePath_below (hlinks : m.NoLinksBelow) (hroot : m.root ≠ []) (depth : ℕ)
    (step : StepAddress) : m.buildWorkspacePath depth step =
      .ok (m.root ++ [step.executionId.text, step.stepDir]) := by
  rw [buildWorkspacePath, m.resolve_stepDir hlinks]
  exact if_pos (isInside_below hroot (List.cons_ne_nil _ _))

/-- Of `/` the check against an escape says that nothing lies inside it. -/
theorem buildWorkspacePath_slash (hlinks : m.NoLinksBelow) (hroot : m.root = []) (depth : ℕ)
    (step : StepAddress) :
    ∃ message, m.buildWorkspacePath depth step = .error (.escapes message) := by
  rw [buildWorkspacePath, m.resolve_stepDir hlinks]
  refine ⟨_, if_neg ?_⟩
  rw [hroot, List.nil_append, not_isInside_slash step.executionId.isName_text]
  exact Bool.false_ne_true

theorem render_eq_slash_iff {names : List String} (hnames : ∀ name ∈ names, IsName name) :
    render names = "/" ↔ names = [] := by
  refine ⟨fun h => ?_, fun h => by rw [h]; rfl⟩
  by_contra hne
  exact getLast?_render hnames hne (by rw [h]; decide)

end WorkspaceManager

open WorkspaceManager in
/-- **Workspaces do not overlap exactly below a root that is not `/`.** -/
theorem workspaces_apart_iff {links : Links} (m : WorkspaceManager links)
    (hlinks : m.NoLinksBelow) (depth : ℕ) : WorkspacesApart m depth ↔ render m.root ≠ "/" := by
  rw [Ne, render_eq_slash_iff m.resolved.isName]
  constructor
  · intro h hroot
    obtain ⟨path, hpath, -⟩ := h.inside ⟨0, 0, "", 0, by decide⟩
    obtain ⟨message, hescapes⟩ := m.buildWorkspacePath_slash hlinks hroot depth
      ⟨0, 0, "", 0, by decide⟩
    rw [hpath] at hescapes
    cases hescapes
  · intro hroot
    have hbuild := m.buildWorkspacePath_below hlinks hroot depth
    constructor
    · intro step
      exact ⟨_, hbuild step, List.prefix_append _ _, by simp⟩
    · intro step step' path path' hne hpath hpath'
      rw [hbuild] at hpath hpath'
      cases hpath
      cases hpath'
      have hdifferent : [step.executionId.text, step.stepDir] ≠
          [step'.executionId.text, step'.stepDir] := by
        intro h
        obtain ⟨hexecution, hdir⟩ : step.executionId.text = step'.executionId.text ∧
          step.stepDir = step'.stepDir := by simpa using h
        exact hne (Prod.ext (UUID.text_injective (congrArg String.toList hexecution))
          (StepAddress.stepDir_injective hdir))
      have hlength : ∀ s : StepAddress, [s.executionId.text, s.stepDir].length = 2 := fun _ => rfl
      have hsame := (hlength step).trans (hlength step').symm
      exact ⟨fun h => hdifferent (List.append_cancel_left h), not_prefix_of_ne hsame hdifferent,
        not_prefix_of_ne hsame.symm hdifferent.symm⟩

/-- A file system without links. -/
def noLinks : Links where
  readlink _ := none
  cwd := []
  cwd_isName _ h := absurd h List.not_mem_nil
  cwd_linkFree _ _ _ := rfl

/-- The manager of the default root. -/
def defaultManager : WorkspaceManager noLinks where
  root := ["tmp", "runner-workspaces"]
  resolved := by
    refine ⟨fun name hname => ?_, fun _ _ _ => rfl⟩
    rcases List.mem_cons.1 hname with rfl | hname
    · exact ⟨by decide, by decide, by decide, by decide, by decide⟩
    · rw [List.mem_singleton.1 hname]
      exact ⟨by decide, by decide, by decide, by decide, by decide⟩

/-- The manager of the root `/`. -/
def slashManager : WorkspaceManager noLinks := ⟨[], Links.canonical_nil⟩

theorem default_workspaces_apart : WorkspacesApart defaultManager 0 :=
  (workspaces_apart_iff defaultManager (fun _ _ => rfl) 0).2 (by decide)

/-- Below `/` every path seems to escape. -/
theorem slash_workspaces_escape : WorkspaceManager.init noLinks 0 "/" = .ok slashManager ∧
    ¬∀ (links : Links) (m : WorkspaceManager links), m.NoLinksBelow → ∀ depth,
      WorkspacesApart m depth := by
  refine ⟨rfl, fun h => ?_⟩
  obtain ⟨path, hpath, -⟩ := (h noLinks slashManager (fun _ _ => rfl) 0).inside
    ⟨0, 1, "deploy", 0, by decide⟩
  obtain ⟨message, hescapes⟩ := slashManager.buildWorkspacePath_slash (fun _ _ => rfl) rfl 0
    ⟨0, 1, "deploy", 0, by decide⟩
  rw [hpath] at hescapes
  cases hescapes

end RunbookPlatform
