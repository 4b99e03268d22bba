import Mathlib.Data.List.Basic
import Mathlib.Data.List.Infix

/-!
# Paths and symbolic links

Texts of paths, and how `os.path.realpath` walks along one: component by component, with `.` and
empty components left out, `..` going up, and symbolic links replaced by where they lead.

## Main definitions

- `components`, `render`, `join` — texts of paths
- `Links` — the symbolic links of a file system
- `resolve` — the walk along a path
- `Canonical` — a path of names that meets no link

## Main results

- `resolve_canonical` — the end of a walk is canonical
- `resolve_render` — a canonical path resolves to itself
-/

namespace Paths

-- ════════════════════════════════════════════════════════════════════════
-- Texts of paths
-- ════════════════════════════════════════════════════════════════════════

/-- The character that no path may contain. -/
def nul : Char := Char.ofNat 0

/-- What an entry of a directory may be called. -/
structure IsName (name : String) : Prop where
  nonempty : name ≠ ""
  notDot : name ≠ "."
  notParent : name ≠ ".."
  noSlash : '/' ∉ name.toList
  noNul : nul ∉ name.toList

/-- The components of a text. -/
def components (text : String) : List String := (text.toList.splitOn '/').map String.ofList

/-- `os.path.isabs`. -/
def isAbsolute (text : String) : Bool := text.toList.head? = some '/'

/-- The text of an absolute path. -/
def render (names : List String) : String :=
  if names = [] then "/" else String.ofList (names.flatMap fun name => '/' :: name.toList)

/-- `os.path.join`. -/
def join (path name : String) : String :=
  if isAbsolute name then name
  else if path = "" ∨ path.toList.getLast? = some '/' then path ++ name
  else path ++ "/" ++ name

theorem notMem_of_mem_splitOn {α : Type} [DecidableEq α] {sep : α} {xs part : List α}
    (h : part ∈ xs.splitOn sep) : sep ∉ part := by
  induction xs generalizing part with
  | nil =>
    rw [List.splitOn_nil, List.mem_singleton] at h
    rw [h]
    exact List.not_mem_nil
  | cons x xs ih =>
    rw [List.splitOn_cons_eq_if_modifyHead] at h
    split_ifs at h with hx
    · rcases List.mem_cons.1 h with rfl | h
      · exact List.not_mem_nil
      · exact ih h
    · cases hparts : xs.splitOn sep with
      | nil => exact absurd hparts (List.splitOn_ne_nil _ _)
      | cons head tail =>
        rw [hparts] at h ih
        rcases List.mem_cons.1 h with rfl | h
        · have hne : sep ≠ x := fun heq => hx (by simp [heq])
          simpa [hne] using ih List.mem_cons_self
        · exact ih (List.mem_cons_of_mem _ h)

theorem noSlash_of_mem_components {text name : String} (h : name ∈ components text) :
    '/' ∉ name.toList := by
  obtain ⟨cs, hcs, rfl⟩ := List.mem_map.1 h
  rw [String.toList_ofList]
  exact notMem_of_mem_splitOn hcs

theorem toList_render {names : List String} (hne : names ≠ []) :
    (render names).toList = names.flatMap fun name => '/' :: name.toList := by
  rw [render, if_neg hne, String.toList_ofList]

theorem isAbsolute_render (names : List String) : isAbsolute (render names) = true := by
  cases names with
  | nil => decide
  | cons name names => simp [isAbsolute, toList_render (List.cons_ne_nil name names)]

theorem splitOn_names {name : String} {names : List String}
    (hnames : ∀ n ∈ name :: names, '/' ∉ n.toList) :
    (name.toList ++ names.flatMap fun n => '/' :: n.toList).splitOn '/' =
      (name :: names).map String.toList := by
  induction names generalizing name with
  | nil =>
    rw [List.flatMap_nil, List.append_nil,
      List.splitOn_eq_singleton (hnames name List.mem_cons_self)]
    rfl
  | cons next names ih =>
    rw [List.flatMap_cons, List.cons_append,
      List.splitOn_append_cons_self_of_not_mem (hnames name List.mem_cons_self),
      ih fun n hn => hnames n (List.mem_cons_of_mem _ hn)]
    rfl

/-- The components of a path are its names, after the empty one before the first slash. -/
theorem components_render {names : List String} (hnames : ∀ name ∈ names, '/' ∉ name.toList)
    (hne : names ≠ []) : components (render names) = "" :: names := by
  cases names with
  | nil => exact absurd rfl hne
  | cons name names =>
    have hsplit := List.splitOn_append_cons_self_of_not_mem (a := '/') (List.not_mem_nil)
      (name.toList ++ names.flatMap fun n => '/' :: n.toList)
    rw [List.nil_append, splitOn_names hnames] at hsplit
    rw [components, toList_render hne, List.flatMap_cons, List.cons_append, hsplit, List.map_cons,
      List.map_map]
    have hid : (name :: names).map (String.ofList ∘ String.toList) = name :: names :=
      (List.map_congr_left fun n _ => String.ofList_toList).trans (List.map_id _)
    rw [hid]

theorem components_root : components (render []) = ["", ""] := by decide

/-- The text of a path ends with a name. -/
theorem getLast?_render {names : List String} (hnames : ∀ name ∈ names, IsName name)
    (hne : names ≠ []) : (render names).toList.getLast? ≠ some '/' := by
  obtain ⟨init, last, rfl⟩ := (List.eq_nil_or_concat' names).resolve_left hne
  have hlast := hnames last (by simp)
  rw [toList_render hne, List.flatMap_append, List.flatMap_singleton]
  intro h
  have hcs : last.toList ≠ [] := fun h => hlast.nonempty (String.toList_eq_nil_iff.1 h)
  rw [List.getLast?_append, List.getLast?_cons] at h
  obtain ⟨c, hc⟩ := Option.ne_none_iff_exists'.1 (mt List.getLast?_eq_none_iff.1 hcs)
  rw [hc, Option.getD_some, Option.some_or, Option.some.injEq] at h
  subst h
  exact hlast.noSlash (List.mem_of_getLast? hc)

/-- Joining a name to a path. -/
theorem join_render {names : List String} {name : String} (hnames : ∀ n ∈ names, IsName n)
    (hname : '/' ∉ name.toList) : join (render names) name = render (names ++ [name]) := by
  have hrelative : isAbsolute name ≠ true := fun h =>
    hname (List.mem_of_head? (of_decide_eq_true h))
  rw [join, if_neg hrelative]
  apply String.toList_injective
  by_cases hne : names = []
  · subst hne
    rw [if_pos (.inr (by decide)), String.toList_append, List.nil_append,
      toList_render (List.cons_ne_nil _ _), List.flatMap_singleton]
    rfl
  · have hlast := getLast?_render hnames hne
    have hempty : render names ≠ "" := fun h => by
      have := isAbsolute_render names
      rw [h] at this
      exact absurd this (by decide)
    rw [if_neg (not_or.2 ⟨hempty, hlast⟩), String.toList_append, String.toList_append,
      toList_render hne, toList_render (by simp), List.flatMap_append, List.flatMap_singleton,
      List.append_assoc]
    rfl

-- ════════════════════════════════════════════════════════════════════════
-- Symbolic links
-- ════════════════════════════════════════════════════════════════════════

/-- No entry on the way along a path is a link. -/
def LinkFree (readlink : List String → Option String) (path : List String) : Prop :=
  ∀ prior, prior <+: path → prior ≠ [] → readlink prior = none

/-- The symbolic links of a file system, and the directory that relative paths start from. -/
structure Links where
  /-- Where the link at a path leads; nothing if no link is there. -/
  readlink : List String → Option String
  cwd : List String
  cwd_isName : ∀ name ∈ cwd, IsName name
  cwd_linkFree : LinkFree readlink cwd

/-- Why a walk fails. -/
inductive ResolveError where
  | loop | embeddedNul
  deriving DecidableEq

namespace Links

variable (links : Links)

/-- A path of names without links. -/
structure Canonical (path : List String) : Prop where
  isName : ∀ name ∈ path, IsName name
  linkFree : LinkFree links.readlink path

/-- The start of a walk along a text that is met in a directory. -/
def start (directory : List String) (text : String) : List String :=
  if isAbsolute text then [] else directory

/-- `_joinrealpath` on the components that are left, with `expand` for the walk along a link. -/
def walkWith (expand : List String → List String → Except ResolveError (List String)) :
    List String → List String → Except ResolveError (List String)
  | path, [] => .ok path
  | path, name :: rest =>
    if name = "" ∨ name = "." then walkWith expand path rest
    else if name = ".." then walkWith expand path.dropLast rest
    else if nul ∈ name.toList then .error .embeddedNul
    else
      match links.readlink (path ++ [name]) with
      | none => walkWith expand (path ++ [name]) rest
      | some target =>
        match expand (start path target) (components target) with
        | .error e => .error e
        | .ok base => walkWith expand base rest

/-- `_joinrealpath`, for links that lead on to at most `depth` others. -/
def walk : ℕ → List String → List String → Except ResolveError (List String)
  | 0 => links.walkWith fun _ _ => .error .loop
  | depth + 1 => links.walkWith (walk depth)

/-- `Path.resolve`, for links that lead on to at most `depth` others. -/
def resolve (depth : ℕ) (text : String) : Except ResolveError (List String) :=
  links.walk depth (start links.cwd text) (components text)

variable {links}

theorem canonical_nil : links.Canonical [] where
  isName _ h := absurd h List.not_mem_nil
  linkFree _ hprior hne := absurd (List.prefix_nil.1 hprior) hne

theorem Canonical.of_prefix {path init : List String} (h : links.Canonical path)
    (hinit : init <+: path) : links.Canonical init where
  isName name hname := h.isName name (hinit.subset hname)
  linkFree prior hprior := h.linkFree prior (hprior.trans hinit)

/-- A name that is no link leads on. -/
theorem Canonical.concat {path : List String} {name : String} (h : links.Canonical path)
    (hname : IsName name) (hlink : links.readlink (path ++ [name]) = none) :
    links.Canonical (path ++ [name]) where
  isName n hn := by
    rcases List.mem_append.1 hn with hn | hn
    · exact h.isName n hn
    · rw [List.mem_singleton.1 hn]
      exact hname
  linkFree prior hprior hne := by
    rcases List.prefix_concat_iff.1 hprior with rfl | hprior
    · exact hlink
    · exact h.linkFree prior hprior hne

theorem canonical_cwd : links.Canonical links.cwd := ⟨links.cwd_isName, links.cwd_linkFree⟩

theorem Canonical.start {directory : List String} (h : links.Canonical directory) (text : String) :
    links.Canonical (start directory text) := by
  rw [Links.start]
  split_ifs
  · exact canonical_nil
  · exact h

theorem walkWith_canonical {expand : List String → List String → Except ResolveError (List String)}
    (hexpand : ∀ {path rest result}, links.Canonical path → (∀ name ∈ rest, '/' ∉ name.toList) →
      expand path rest = .ok result → links.Canonical result)
    {path rest result : List String} (hpath : links.Canonical path)
    (hrest : ∀ name ∈ rest, '/' ∉ name.toList)
    (h : links.walkWith expand path rest = .ok result) : links.Canonical result := by
  induction rest generalizing path with
  | nil =>
    cases h
    exact hpath
  | cons name rest ih =>
    have hrest' : ∀ n ∈ rest, '/' ∉ n.toList := fun n hn => hrest n (List.mem_cons_of_mem _ hn)
    rw [walkWith] at h
    split_ifs at h with hskip hparent hnul
    · exact ih hpath hrest' h
    · exact ih (hpath.of_prefix (List.dropLast_prefix path)) hrest' h
    · have hname : IsName name := ⟨fun h => hskip (.inl h), fun h => hskip (.inr h), hparent,
        hrest name List.mem_cons_self, hnul⟩
      cases hlink : links.readlink (path ++ [name]) with
      | none =>
        rw [hlink] at h
        exact ih (hpath.concat hname hlink) hrest' h
      | some target =>
        rw [hlink] at h
        dsimp only at h
        cases hbase : expand (start path target) (components target) with
        | error e =>
          rw [hbase] at h
          cases h
        | ok base =>
          rw [hbase] at h
          exact ih (hexpand (hpath.start target) (fun n hn => noSlash_of_mem_components hn) hbase)
            hrest' h

theorem walk_canonical {depth : ℕ} {path rest result : List String} (hpath : links.Canonical path)
    (hrest : ∀ name ∈ rest, '/' ∉ name.toList) (h : links.walk depth path rest = .ok result) :
    links.Canonical result := by
  induction depth generalizing path rest result with
  | zero => exact walkWith_canonical (fun _ _ h => by cases h) hpath hrest h
  | succ depth ih => exact walkWith_canonical ih hpath hrest h

/-- **The end of a walk is canonical.** -/
theorem resolve_canonical {depth : ℕ} {text : String} {result : List String}
    (h : links.resolve depth text = .ok result) : links.Canonical result :=
  walk_canonical (canonical_cwd.start text) (fun _ hname => noSlash_of_mem_components hname) h

theorem walkWith_names {expand : List String → List String → Except ResolveError (List String)}
    {path rest : List String} (h : links.Canonical (path ++ rest)) :
    links.walkWith expand path rest = .ok (path ++ rest) := by
  induction rest generalizing path with
  | nil => rw [walkWith, List.append_nil]
  | cons name rest ih =>
    have hname : IsName name := h.isName name (by simp)
    have hlink : links.readlink (path ++ [name]) = none :=
      h.linkFree _ ⟨rest, by rw [List.append_assoc]; rfl⟩ (by simp)
    have hassoc : path ++ name :: rest = path ++ [name] ++ rest := by simp
    rw [walkWith, if_neg (not_or.2 ⟨hname.nonempty, hname.notDot⟩), if_neg hname.notParent,
      if_neg hname.noNul, hlink, hassoc]
    exact ih (hassoc ▸ h)

theorem walk_skip (depth : ℕ) (path rest : List String) :
    links.walk depth path ("" :: rest) = links.walk depth path rest := by
  cases depth <;> rw [walk, walkWith, if_pos (.inl rfl)]

/-- **A canonical path resolves to itself.** -/
theorem resolve_render {names : List String} (h : links.Canonical names) (depth : ℕ) :
    links.resolve depth (render names) = .ok names := by
  have hstart : start links.cwd (render names) = [] := if_pos (isAbsolute_render names)
  rw [resolve, hstart]
  by_cases hne : names = []
  · subst hne
    rw [components_root, walk_skip, walk_skip]
    cases depth <;> rfl
  · rw [components_render (fun n hn => (h.isName n hn).noSlash) hne, walk_skip]
    cases depth <;> exact walkWith_names h

end Links

end Paths
