import RunbookPlatform.Text.Replace

/-!
# Redaction of captured output

The output of a step is cut at a limit while it is captured, and the secrets are replaced in
what is left, one after another. Every byte of the result is followed back to the position of
the output that it is copied from.

## Main definitions

- `StreamCapture`, `redact` — the capture of a stream and its redaction
- `redactedBytes` — the redacted bytes with their positions
- `SecretsApart` — the secrets occur whole, apart or nested, and away from markers
- `RedactionState` — what is left between two secrets

## Main results

- `RedactionState.step` — one secret goes, and the others stay as they are
- `no_secret_bytes` — no byte of a secret is left when the secrets occur apart
-/

namespace RunbookPlatform

open Text

-- ════════════════════════════════════════════════════════════════════════
-- The capture
-- ════════════════════════════════════════════════════════════════════════

/-- `_REDACTED`: the bytes of `[REDACTED]`. -/
def redactedMarker : List UInt8 := [91, 82, 69, 68, 65, 67, 84, 69, 68, 93]

/-- `StreamCapture`. -/
structure StreamCapture where
  max : ℕ
  buf : List UInt8 := []
  total : ℕ := 0

/-- `StreamCapture.write`. -/
def StreamCapture.write (capture : StreamCapture) (chunk : List UInt8) : StreamCapture :=
  let remaining := capture.max - capture.buf.length
  { capture with
    total := capture.total + chunk.length
    buf := if 0 < remaining then capture.buf ++ chunk.take remaining else capture.buf }

/-- `CapturedStream`. -/
structure CapturedStream where
  content : List UInt8
  truncated : Bool
  originalSizeBytes : ℕ
  capturedSizeBytes : ℕ

/-- `StreamCapture.to_captured_stream`. -/
def StreamCapture.toCapturedStream (capture : StreamCapture) : CapturedStream where
  content := capture.buf
  truncated := capture.max < capture.total
  originalSizeBytes := capture.total
  capturedSizeBytes := capture.buf.length

/-- `SecretRedactor.redact`, with the encoded secrets. -/
def redact (secrets : List (List UInt8)) (data : List UInt8) : List UInt8 :=
  (secrets.filter (· ≠ [])).foldl (fun data pattern => replaceAll id pattern redactedMarker data) data

/-- The final stream of `LocalProcessSandboxProvider.execute`. -/
def finalStream (secrets : List (List UInt8)) (maxBytes : ℕ) (chunks : List (List UInt8)) :
    CapturedStream :=
  let raw := (chunks.foldl StreamCapture.write { max := maxBytes }).toCapturedStream
  { raw with content := redact secrets raw.content }

-- ════════════════════════════════════════════════════════════════════════
-- Positions
-- ════════════════════════════════════════════════════════════════════════

/-- A byte with the position of the output it is copied from, if it is. -/
abbrev Traced := UInt8 × Option ℕ

/-- The bytes of the output from position `start` on, `count` of them. -/
def slice (output : List UInt8) (start count : ℕ) : List Traced :=
  (((output.drop start).take count).zipIdx start).map fun x => (x.1, some x.2)

/-- The marker, which is copied from nowhere. -/
def tracedMarker : List Traced := redactedMarker.map fun b => (b, none)

/-- The redacted bytes with their positions. -/
def redactedBytes (secrets : List (List UInt8)) (maxBytes : ℕ) (output : List UInt8) : List Traced :=
  (secrets.filter (· ≠ [])).foldl
    (fun data pattern => replaceAll Prod.fst pattern tracedMarker data) (slice output 0 maxBytes)

/-- The secret occurs in the output at position `start`. -/
def OccursAt (secret output : List UInt8) (start : ℕ) : Prop := secret <+: output.drop start

variable {output P Q R : List UInt8} {secrets done todo : List (List UInt8)} {maxBytes : ℕ}
  {xs ys w : List Traced}

theorem map_fst_slice (start count : ℕ) :
    (slice output start count).map Prod.fst = (output.drop start).take count := by
  rw [slice, List.map_map]
  exact List.zipIdx_map_fst _ _

theorem slice_succ {start count : ℕ} {b : UInt8} (h : output[start]? = some b) :
    slice output start (count + 1) = (b, some start) :: slice output (start + 1) count := by
  obtain ⟨hlt, rfl⟩ := List.getElem?_eq_some_iff.1 h
  rw [slice, List.drop_eq_getElem_cons hlt, List.take_succ_cons, List.zipIdx_cons, List.map_cons,
    slice]

theorem getElem?_slice {start count k : ℕ} (hk : k < count) :
    (slice output start count)[k]? = output[start + k]?.map fun b => (b, some (start + k)) := by
  rw [slice, List.getElem?_map, List.getElem?_zipIdx, List.getElem?_take_of_lt hk, List.getElem?_drop,
    Option.map_map]
  rfl

theorem mem_slice {start count : ℕ} {x : Traced} (h : x ∈ slice output start count) :
    ∃ p, x.2 = some p ∧ start ≤ p ∧ p < start + count ∧ output[p]? = some x.1 := by
  obtain ⟨k, hk⟩ := List.mem_iff_getElem?.1 h
  have hlt : k < count := by
    have hlength := (List.getElem?_eq_some_iff.1 hk).1
    rw [slice, List.length_map, List.length_zipIdx, List.length_take] at hlength
    omega
  rw [getElem?_slice hlt, Option.map_eq_some_iff] at hk
  obtain ⟨b, hb, rfl⟩ := hk
  exact ⟨start + k, rfl, by omega, by omega, hb⟩

theorem OccursAt.le_length {start : ℕ} (h : OccursAt P output start) (hP : P ≠ []) :
    start + P.length ≤ output.length := by
  have hle := h.length_le
  have hpos := List.length_pos_of_ne_nil hP
  rw [List.length_drop] at hle
  omega

theorem OccursAt.map_slice {start : ℕ} (h : OccursAt P output start) :
    (slice output start P.length).map Prod.fst = P := by
  rw [map_fst_slice]
  exact (List.prefix_iff_eq_take.1 h).symm

/-- The positions of an occurrence stand in its slice. -/
theorem OccursAt.mem_slice {start p : ℕ} (h : OccursAt P output start) (hP : P ≠ [])
    (hstart : start ≤ p) (hp : p < start + P.length) :
    ∃ b, (b, some p) ∈ slice output start P.length := by
  have hle := h.le_length hP
  obtain ⟨b, hb⟩ : ∃ b, output[p]? = some b := ⟨_, List.getElem?_eq_getElem (by omega)⟩
  refine ⟨b, List.mem_iff_getElem?.2 ⟨p - start, ?_⟩⟩
  rw [getElem?_slice (by omega), show start + (p - start) = p by omega, hb]
  rfl

-- ════════════════════════════════════════════════════════════════════════
-- The condition
-- ════════════════════════════════════════════════════════════════════════

/-- The occurrences of `P` do not touch `Q` by the marker that stands for them. -/
def AwayFromMarker (output P Q : List UInt8) : Prop :=
  ∀ a, OccursAt P output a →
    (∀ p c, p + 1 = a → output[p]? = some c → ¬[c, 91] <:+: Q) ∧
      ∀ c, output[a + P.length]? = some c → ¬[93, c] <:+: Q

/-- An occurrence of `Q` that overlaps one of `P` lies within it. -/
def Nested (output P Q : List UInt8) : Prop :=
  ∀ a b, OccursAt P output a → OccursAt Q output b → a < b + Q.length → b < a + P.length →
    a ≤ b ∧ b + Q.length ≤ a + P.length

/-- The secrets occur whole, apart or nested in an earlier one, and away from markers. -/
structure SecretsApart (secrets : List (List UInt8)) (maxBytes : ℕ) (output : List UInt8) :
    Prop where
  /-- The limit cuts no occurrence. -/
  whole : ∀ P ∈ secrets, ∀ a, OccursAt P output a → a < maxBytes → a + P.length ≤ maxBytes
  /-- No secret overlaps itself. -/
  apart : ∀ P ∈ secrets, ∀ a b, OccursAt P output a → OccursAt P output b → a < b →
    a + P.length ≤ b
  nested : secrets.Pairwise (Nested output)
  away : secrets.Pairwise (AwayFromMarker output)

-- ════════════════════════════════════════════════════════════════════════
-- Between two secrets
-- ════════════════════════════════════════════════════════════════════════

/-- What neighbours have in common when the secrets in `done` are replaced. -/
def Link (output : List UInt8) (done : List (List UInt8)) (x y : Traced) : Prop :=
  match x.2, y.2 with
  | some p, some q => q = p + 1
  | some p, none => y.1 = 91 ∧ ∃ Q ∈ done, OccursAt Q output (p + 1)
  | none, some q => x.1 = 93 ∧ ∃ Q ∈ done, ∃ a, OccursAt Q output a ∧ q = a + Q.length
  | none, none => True

/-- No byte is copied from the positions. -/
def Gone (xs : List Traced) (start count : ℕ) : Prop :=
  ∀ p, start ≤ p → p < start + count → ∀ b, (b, some p) ∉ xs

/-- The secrets in `done` are replaced, and those in `todo` are not. -/
structure RedactionState (output : List UInt8) (done todo : List (List UInt8)) (xs : List Traced) :
    Prop where
  copied : ∀ b p, (b, some p) ∈ xs → output[p]? = some b
  ordered : (xs.filterMap Prod.snd).Pairwise (· < ·)
  linked : xs.IsChain (Link output done)
  gone : ∀ P ∈ done, ∀ a, OccursAt P output a → Gone xs a P.length
  whole : ∀ P ∈ todo, ∀ a, OccursAt P output a →
    slice output a P.length <:+: xs ∨ Gone xs a P.length

/-- **Windows**: where a secret is read, it occurs, or only markers are there. -/
theorem occurs_or_marker (hcopied : ∀ b p, (b, some p) ∈ w → output[p]? = some b)
    (hlinked : w.IsChain (Link output done)) (haway : ∀ Q ∈ done, AwayFromMarker output Q P)
    (hw : w.map Prod.fst <:+: P) :
    (∀ x ∈ w, x.2 = none) ∨ ∃ a, w = slice output a w.length := by
  induction w with
  | nil => exact .inl nofun
  | cons x w ih =>
    have hcopied' : ∀ b p, (b, some p) ∈ w → output[p]? = some b :=
      fun b p h => hcopied b p (List.mem_cons_of_mem _ h)
    have hw' : w.map Prod.fst <:+: P := (List.suffix_cons _ _).isInfix.trans hw
    cases w with
    | nil =>
      obtain ⟨b, _ | p⟩ := x
      · exact .inl fun y hy => by rw [List.mem_singleton.1 hy]
      · refine .inr ⟨p, ?_⟩
        rw [List.length_singleton, ← Nat.zero_add 1, slice_succ (hcopied b p List.mem_cons_self), slice,
          List.take_zero]
        rfl
    | cons y w =>
      rw [List.isChain_cons_cons] at hlinked
      obtain ⟨hlink, hlinked⟩ := hlinked
      have hpair : [x.1, y.1] <:+: P :=
        (show [x.1, y.1] <+: (x :: y :: w).map Prod.fst from ⟨w.map Prod.fst, rfl⟩).isInfix.trans hw
      obtain ⟨b, _ | p⟩ := x <;> obtain ⟨c, _ | q⟩ := y
      · obtain hnone | ⟨a, ha⟩ := ih hcopied' hlinked hw'
        · exact .inl (List.forall_mem_cons.2 ⟨rfl, hnone⟩)
        · obtain ⟨p, hp, -⟩ := mem_slice (ha ▸ List.mem_cons_self)
          cases hp
      · -- the end of a marker is no part of the secret
        obtain ⟨rfl, Q, hQ, a, ha, rfl⟩ := hlink
        exact absurd hpair ((haway Q hQ a ha).2 c (hcopied' c _ List.mem_cons_self))
      · -- neither is the beginning of one
        obtain ⟨rfl, Q, hQ, ha⟩ := hlink
        exact absurd hpair ((haway Q hQ (p + 1) ha).1 p b rfl (hcopied b p List.mem_cons_self))
      · obtain hnone | ⟨a, ha⟩ := ih hcopied' hlinked hw'
        · cases hnone _ List.mem_cons_self
        · refine .inr ⟨p, ?_⟩
          have hhead := congrArg (·[0]?) ha
          simp only [List.length_cons, getElem?_slice (Nat.succ_pos _), List.getElem?_cons_zero] at hhead
          obtain ⟨d, -, hd⟩ := Option.map_eq_some_iff.1 hhead.symm
          obtain rfl : a = q := by simpa using congrArg Prod.snd hd
          obtain rfl : a = p + 1 := hlink
          rw [List.length_cons, slice_succ (hcopied b p List.mem_cons_self)]
          exact congrArg _ ha

namespace RedactionState

variable {l m r : List Traced} {z : Traced} {q : ℕ}

/-- A window that reaches a copied byte is an occurrence around its position. -/
theorem window (h : RedactionState output done todo xs) (haway : ∀ Q ∈ done, AwayFromMarker output Q P)
    (hxs : m ++ z :: r <:+ xs) (hz : z.2 = some q) (hread : P <+: (m ++ z :: r).map Prod.fst)
    (hshort : m.length < P.length) : ∃ a, OccursAt P output a ∧ q = a + m.length := by
  have hwindow : ((m ++ z :: r).take P.length).map Prod.fst = P := by
    rw [List.map_take]
    exact (List.prefix_iff_eq_take.1 hread).symm
  have hwithin : (m ++ z :: r).take P.length <:+: xs :=
    (List.take_prefix _ _).isInfix.trans hxs.isInfix
  have hzread : ((m ++ z :: r).take P.length)[m.length]? = some z := by
    rw [List.getElem?_take_of_lt hshort, List.getElem?_append_right le_rfl, Nat.sub_self]
    rfl
  have hlength : ((m ++ z :: r).take P.length).length = P.length := by
    rw [← List.length_map (f := Prod.fst), hwindow]
  have hlinked : ((m ++ z :: r).take P.length).IsChain (Link output done) :=
    List.IsChain.infix h.linked hwithin
  obtain hnone | ⟨a, ha⟩ := occurs_or_marker
    (fun b p hmem => h.copied b p (hwithin.subset hmem)) hlinked haway
    ⟨[], [], by rw [hwindow, List.nil_append, List.append_nil]⟩
  · rw [hnone z (List.mem_of_getElem? hzread)] at hz
    cases hz
  · rw [hlength] at ha
    refine ⟨a, ?_, ?_⟩
    · rw [OccursAt, List.prefix_iff_eq_take, ← map_fst_slice, ← ha, hwindow]
    · rw [ha, getElem?_slice hshort, Option.map_eq_some_iff] at hzread
      obtain ⟨b, -, rfl⟩ := hzread
      exact (Option.some.inj hz).symm

/-- The positions on the two sides of a part are not those of the part. -/
theorem disjoint (h : RedactionState output done todo xs) (hxs : xs = l ++ w ++ r) {b c : UInt8}
    (hw : (b, some q) ∈ w) : (c, some q) ∉ l ∧ (c, some q) ∉ r := by
  have hmem (x : UInt8) (zs : List Traced) (hx : (x, some q) ∈ zs) : q ∈ zs.filterMap Prod.snd :=
    List.mem_filterMap.2 ⟨_, hx, rfl⟩
  have hordered := h.ordered
  rw [hxs, List.filterMap_append, List.filterMap_append, List.pairwise_append,
    List.pairwise_append] at hordered
  obtain ⟨⟨-, -, hleft⟩, -, hright⟩ := hordered
  constructor
  · exact fun hl => lt_irrefl q (hleft q (hmem c l hl) q (hmem b w hw))
  · exact fun hr => lt_irrefl q
      (hright q (List.mem_append_right _ (hmem b w hw)) q (hmem c r hr))

theorem not_mem_tracedMarker {b : UInt8} {p : ℕ} : (b, some p) ∉ tracedMarker := by
  intro h
  obtain ⟨c, -, hc⟩ := List.mem_map.1 h
  cases hc

/-- What is gone stays gone. -/
theorem gone_of_replaced {start count : ℕ} (h : Replaced Prod.fst P tracedMarker xs ys)
    (hgone : Gone xs start count) : Gone ys start count := by
  intro p hstart hp b hmem
  exact (h.mem hmem).elim (hgone p hstart hp b) not_mem_tracedMarker

/-- An occurrence of the secret that is replaced is gone. -/
theorem gone_of_occurs (h : RedactionState output done todo xs) (hP : P ≠ [])
    (haway : ∀ Q ∈ done, AwayFromMarker output Q P)
    (hapart : ∀ a b, OccursAt P output a → OccursAt P output b → a < b → a + P.length ≤ b)
    {a : ℕ} (ha : OccursAt P output a) (hwithin : slice output a P.length <:+: xs)
    (hpass : Replaced Prod.fst P tracedMarker xs ys) : Gone ys a P.length := by
  obtain ⟨l, r, hxs⟩ := hwithin
  obtain ⟨b, hb⟩ : ∃ b, output[a]? = some b :=
    ⟨_, List.getElem?_eq_getElem (by
      have := ha.le_length hP
      have := List.length_pos_of_ne_nil hP
      omega)⟩
  obtain ⟨n, hn⟩ := Nat.exists_eq_succ_of_ne_zero (List.length_pos_of_ne_nil hP).ne'
  have hslice : slice output a P.length = (b, some a) :: slice output (a + 1) n := by
    rw [hn, slice_succ hb]
  have hpass' := hpass
  rw [← hxs, List.append_assoc] at hpass'
  obtain ⟨ys₁, ys₂, rfl, h₁, h₂⟩ := hpass'.append fun m hm hsuffix hread => by
    -- a window that begins before the occurrence would overlap it
    by_contra hshort
    rw [hslice, List.cons_append] at hread
    have hsuffix' : m ++ (b, some a) :: (slice output (a + 1) n ++ r) <:+ xs := by
      obtain ⟨l', rfl⟩ := hsuffix
      exact ⟨l', by rw [← hxs, hslice]; simp⟩
    obtain ⟨a', ha', hq⟩ := h.window haway hsuffix' rfl hread (not_le.1 hshort)
    have hpos := List.length_pos_of_ne_nil hm
    have hle := hapart a' a ha' ha (by omega)
    omega
  obtain ⟨ys₃, rfl, h₃⟩ := h₂.matched hP ha.map_slice
  intro p hstart hp c hmem
  obtain ⟨d, hd⟩ := ha.mem_slice hP hstart hp
  obtain ⟨hl, hr⟩ := h.disjoint hxs.symm hd (c := c)
  obtain hmem | hmem := List.mem_append.1 hmem
  · exact (h₁.mem hmem).elim hl not_mem_tracedMarker
  · obtain hmem | hmem := List.mem_append.1 hmem
    · exact not_mem_tracedMarker hmem
    · exact (h₃.mem hmem).elim hr not_mem_tracedMarker

/-- An occurrence that the secret does not overlap stays. -/
theorem stays (h : RedactionState output done todo xs) (hP : P ≠ [])
    (haway : ∀ Q ∈ done, AwayFromMarker output Q P) {start count : ℕ} (hcount : 0 < count)
    (hnone : ∀ a, OccursAt P output a → a < start + count → a + P.length ≤ start)
    (hwithin : slice output start count <:+: xs) (hbound : start + count ≤ output.length)
    (hpass : Replaced Prod.fst P tracedMarker xs ys) : slice output start count <:+: ys := by
  obtain ⟨l, r, hxs⟩ := hwithin
  obtain ⟨b, hb⟩ : ∃ b, output[start]? = some b := ⟨_, List.getElem?_eq_getElem (by omega)⟩
  obtain ⟨n, rfl⟩ := Nat.exists_eq_succ_of_ne_zero hcount.ne'
  have hslice : slice output start (n + 1) = (b, some start) :: slice output (start + 1) n :=
    slice_succ hb
  rw [← hxs, List.append_assoc] at hpass
  obtain ⟨ys₁, ys₂, rfl, -, h₂⟩ := hpass.append fun m hm hsuffix hread => by
    by_contra hshort
    rw [hslice, List.cons_append] at hread
    have hsuffix' : m ++ (b, some start) :: (slice output (start + 1) n ++ r) <:+ xs := by
      obtain ⟨l', rfl⟩ := hsuffix
      exact ⟨l', by rw [← hxs, hslice]; simp⟩
    obtain ⟨a, ha, hq⟩ := h.window haway hsuffix' rfl hread (not_le.1 hshort)
    have hle := hnone a ha (by omega)
    omega
  obtain ⟨ys₃, rfl, -⟩ := h₂.skip fun m hm hsuffix hread => by
    -- nor does a window begin within it
    obtain ⟨y, m, rfl⟩ := List.exists_cons_of_ne_nil hm
    obtain ⟨p, hp, hstart, hlt, -⟩ := mem_slice (hsuffix.subset List.mem_cons_self)
    have hsuffix' : [] ++ y :: (m ++ r) <:+ xs := by
      obtain ⟨l', hl'⟩ := hsuffix
      exact ⟨l ++ l', by rw [← hxs, ← hl']; simp⟩
    obtain ⟨a, ha, hq⟩ := h.window haway hsuffix' hp hread
      (List.length_pos_of_ne_nil hP)
    have hpos := List.length_pos_of_ne_nil hP
    rw [List.length_nil] at hq
    have hle := hnone a ha (by omega)
    omega
  exact ⟨ys₁, ys₃, by rw [List.append_assoc]⟩

/-- What neighbours have in common after the secret is replaced. -/
theorem linked_of_replaced (h : RedactionState output done todo xs) (hP : P ≠ [])
    (haway : ∀ Q ∈ done, AwayFromMarker output Q P)
    (hpass : Replaced Prod.fst P tracedMarker xs ys) : ys.IsChain (Link output (done ++ [P])) := by
  have hwindow {w : List Traced} (hwithin : w <:+: xs) (hread : w.map Prod.fst = P) :
      (∀ x ∈ w, x.2 = none) ∨ ∃ a, OccursAt P output a ∧ w = slice output a P.length := by
    have hlength : w.length = P.length := by rw [← hread, List.length_map]
    have hlinked : w.IsChain (Link output done) := List.IsChain.infix h.linked hwithin
    refine (occurs_or_marker (fun b p hmem => h.copied b p (hwithin.subset hmem)) hlinked haway
      ⟨[], [], by rw [hread, List.nil_append, List.append_nil]⟩).imp_right ?_
    rintro ⟨a, ha⟩
    rw [hlength] at ha
    exact ⟨a, by rw [OccursAt, List.prefix_iff_eq_take, ← map_fst_slice, ← ha, hread], ha⟩
  have hmono : ∀ x y, Link output done x y → Link output (done ++ [P]) x y := by
    rintro ⟨b, _ | p⟩ ⟨c, _ | q⟩ hlink
    · trivial
    · obtain ⟨hb, Q, hQ, hafter⟩ := hlink
      exact ⟨hb, Q, List.mem_append_left _ hQ, hafter⟩
    · obtain ⟨hc, Q, hQ, hbefore⟩ := hlink
      exact ⟨hc, Q, List.mem_append_left _ hQ, hbefore⟩
    · exact hlink
  have hlast : P ∈ done ++ [P] := List.mem_append_right _ List.mem_cons_self
  refine hpass.isChain (91, none) (93, none) hP hmono ?_ rfl rfl trivial ?_ ?_
    h.linked
  · simp [tracedMarker, redactedMarker, Link]
  · -- before the marker is what was before the occurrence
    rintro w hwithin hread ⟨b, _ | p⟩ y hy hlink
    · trivial
    · obtain hnone | ⟨a, ha, rfl⟩ := hwindow hwithin hread
      · have hnext := hnone y (List.mem_of_mem_head? hy)
        obtain ⟨c, _ | q⟩ := y
        · obtain ⟨-, Q, hQ, hbefore⟩ := hlink
          exact ⟨rfl, Q, List.mem_append_left _ hQ, hbefore⟩
        · cases hnext
      · rw [List.head?_eq_getElem?, getElem?_slice (List.length_pos_of_ne_nil hP),
          Option.map_eq_some_iff] at hy
        obtain ⟨c, -, rfl⟩ := hy
        obtain rfl : a = p + 1 := hlink
        exact ⟨rfl, P, hlast, ha⟩
  · -- and after it what was after the occurrence
    rintro w hwithin hread x ⟨c, _ | q⟩ hx hlink
    · trivial
    · obtain hnone | ⟨a, ha, rfl⟩ := hwindow hwithin hread
      · have hprev := hnone x (List.mem_of_getLast? hx)
        obtain ⟨b, _ | p⟩ := x
        · obtain ⟨-, Q, hQ, hafter⟩ := hlink
          exact ⟨rfl, Q, List.mem_append_left _ hQ, hafter⟩
        · cases hprev
      · have hpos := List.length_pos_of_ne_nil hP
        have hlength : (slice output a P.length).length = P.length := by
          rw [← List.length_map (f := Prod.fst), hread]
        rw [List.getLast?_eq_getElem?, hlength, getElem?_slice (by omega),
          Option.map_eq_some_iff] at hx
        obtain ⟨b, -, rfl⟩ := hx
        obtain rfl : q = a + (P.length - 1) + 1 := hlink
        exact ⟨rfl, P, hlast, a, ha, by omega⟩

/-- **One secret goes, and the others stay as they are.** -/
theorem step (h : RedactionState output done (P :: todo) xs) (hP : P ≠ [])
    (htodo : ∀ Q ∈ todo, Q ≠ []) (haway : ∀ Q ∈ done, AwayFromMarker output Q P)
    (hnested : ∀ Q ∈ todo, Nested output P Q)
    (hapart : ∀ a b, OccursAt P output a → OccursAt P output b → a < b → a + P.length ≤ b) :
    RedactionState output (done ++ [P]) todo (replaceAll Prod.fst P tracedMarker xs) := by
  have hpass : Replaced Prod.fst P tracedMarker xs (replaceAll Prod.fst P tracedMarker xs) :=
    replaced_replaceAll hP xs
  have hgone : ∀ a, OccursAt P output a →
      Gone (replaceAll Prod.fst P tracedMarker xs) a P.length := fun a ha =>
    (h.whole P List.mem_cons_self a ha).elim
      (fun hwithin => h.gone_of_occurs hP haway hapart ha hwithin hpass) (gone_of_replaced hpass)
  refine ⟨fun b p hmem => ?_, ?_, h.linked_of_replaced hP haway hpass, fun Q hQ a ha => ?_,
    fun Q hQ b hb => ?_⟩
  · exact (hpass.mem hmem).elim (h.copied b p) fun hmem => absurd hmem not_mem_tracedMarker
  · exact h.ordered.sublist (hpass.sublist (by decide))
  · obtain hQ | hQ := List.mem_append.1 hQ
    · exact gone_of_replaced hpass (h.gone Q hQ a ha)
    · obtain rfl := List.mem_singleton.1 hQ
      exact hgone a ha
  · obtain hwithin | hgone' := h.whole Q (List.mem_cons_of_mem _ hQ) b hb
    · by_cases hoverlap : ∃ a, OccursAt P output a ∧ a < b + Q.length ∧ b < a + P.length
      · -- the occurrence lies within one that goes
        obtain ⟨a, ha, hlt, hlt'⟩ := hoverlap
        obtain ⟨hle, hle'⟩ := hnested Q hQ a b ha hb hlt hlt'
        exact .inr fun p hstart hp => hgone a ha p (by omega) (by omega)
      · refine .inl (h.stays hP haway (List.length_pos_of_ne_nil (htodo Q hQ)) (fun a ha hlt => ?_)
          hwithin (hb.le_length (htodo Q hQ)) hpass)
        by_contra hle
        exact hoverlap ⟨a, ha, hlt, not_le.1 hle⟩
    · exact .inr (gone_of_replaced hpass hgone')

/-- **All secrets go.** -/
theorem run (h : RedactionState output done todo xs) (hne : ∀ P ∈ todo, P ≠ [])
    (haway : (done ++ todo).Pairwise (AwayFromMarker output)) (hnested : todo.Pairwise (Nested output))
    (hapart : ∀ P ∈ todo, ∀ a b, OccursAt P output a → OccursAt P output b → a < b →
      a + P.length ≤ b) :
    RedactionState output (done ++ todo) [] (todo.foldl
      (fun data pattern => replaceAll Prod.fst pattern tracedMarker data) xs) := by
  induction todo generalizing done xs with
  | nil => rwa [List.append_nil]
  | cons P todo ih =>
    rw [List.forall_mem_cons] at hne hapart
    rw [List.pairwise_cons] at hnested
    have hstep := h.step hne.1 hne.2
      (fun Q hQ => (List.pairwise_append.1 haway).2.2 Q hQ P List.mem_cons_self) hnested.1 hapart.1
    rw [List.append_cons] at haway ⊢
    exact ih hstep hne.2 haway hnested.2 hapart.2

end RedactionState

-- ════════════════════════════════════════════════════════════════════════
-- The redacted output
-- ════════════════════════════════════════════════════════════════════════

theorem slice_append {start n m : ℕ} (h : start + n ≤ output.length) :
    slice output start (n + m) = slice output start n ++ slice output (start + n) m := by
  have hlength : ((output.drop start).take n).length = n := by
    rw [List.length_take, List.length_drop]
    omega
  rw [slice, slice, slice, List.take_add, List.zipIdx_append, hlength, List.map_append,
    List.drop_drop]

theorem isChain_slice (start count : ℕ) : (slice output start count).IsChain (Link output []) := by
  induction count generalizing start with
  | zero => rw [slice, List.take_zero]; exact .nil
  | succ count ih =>
    cases hb : output[start]? with
    | none =>
      rw [slice, List.drop_eq_nil_of_le (List.getElem?_eq_none_iff.1 hb)]
      exact .nil
    | some b =>
      rw [slice_succ hb]
      refine List.isChain_cons.2 ⟨fun y hy => ?_, ih _⟩
      cases count with
      | zero => rw [slice, List.take_zero] at hy; cases hy
      | succ count =>
        rw [List.head?_eq_getElem?, getElem?_slice (Nat.succ_pos _), Option.mem_def,
          Option.map_eq_some_iff] at hy
        obtain ⟨c, -, rfl⟩ := hy
        rfl

/-- Nothing is replaced in what is captured. -/
theorem RedactionState.initial (hne : ∀ P ∈ secrets, P ≠ [])
    (hwhole : ∀ P ∈ secrets, ∀ a, OccursAt P output a → a < maxBytes → a + P.length ≤ maxBytes) :
    RedactionState output [] secrets (slice output 0 maxBytes) := by
  refine ⟨fun b p hmem => ?_, ?_, isChain_slice 0 maxBytes, fun P hP => ?_, fun P hP a ha => ?_⟩
  · obtain ⟨q, hq, -, -, hb⟩ := mem_slice hmem
    obtain rfl : p = q := Option.some.inj hq
    exact hb
  · have hpositions : (slice output 0 maxBytes).filterMap Prod.snd =
        List.range' 0 (output.take maxBytes).length := by
      rw [slice, List.filterMap_map, ← List.zipIdx_map_snd, List.drop_zero,
        ← List.filterMap_eq_map]
      rfl
    rw [hpositions]
    exact List.pairwise_lt_range'
  · cases hP
  · by_cases hcut : a < maxBytes
    · left
      have hle := hwhole P hP a ha hcut
      have hlength := ha.le_length (hne P hP)
      obtain ⟨k, rfl⟩ := Nat.exists_eq_add_of_le hle
      rw [Nat.add_assoc, slice_append (by omega), slice_append (by omega), Nat.zero_add]
      exact ⟨_, _, List.append_assoc _ _ _⟩
    · refine .inr fun p hstart _ b hmem => ?_
      obtain ⟨q, hq, -, hlt, -⟩ := mem_slice hmem
      obtain rfl : p = q := Option.some.inj hq
      omega

/-- The capture keeps the first bytes of the output. -/
theorem foldl_write (chunks : List (List UInt8)) (capture : StreamCapture)
    (h : capture.buf.length ≤ capture.max) :
    (chunks.foldl StreamCapture.write capture).buf =
      (capture.buf ++ chunks.flatten).take capture.max := by
  induction chunks generalizing capture with
  | nil => rw [List.foldl_nil, List.flatten_nil, List.append_nil, List.take_of_length_le h]
  | cons chunk chunks ih =>
    have hbuf : (capture.write chunk).buf = (capture.buf ++ chunk).take capture.max := by
      rw [StreamCapture.write]
      dsimp only
      rw [List.take_append, List.take_of_length_le h]
      split_ifs with hremaining
      · rfl
      · rw [Nat.eq_zero_of_not_pos hremaining, List.take_zero, List.append_nil]
    have hmax : (capture.write chunk).max = capture.max := rfl
    rw [List.foldl_cons, ih _ (by rw [hbuf, hmax, List.length_take]; exact min_le_left _ _), hbuf, hmax,
      List.flatten_cons, ← List.append_assoc]
    -- what the limit cuts off now is cut off at the end as well
    rw [List.take_append, @List.take_append _ (capture.buf ++ chunk), List.take_take, min_self,
      List.length_take]
    congr 2
    omega

/-- No byte of the final stream is copied from an occurrence of a secret. -/
structure NoSecretBytes (secrets : List (List UInt8)) (maxBytes : ℕ) (chunks : List (List UInt8)) :
    Prop where
  /-- The traced bytes are those of the stream. -/
  traced : (redactedBytes secrets maxBytes chunks.flatten).map Prod.fst =
    (finalStream secrets maxBytes chunks).content
  gone : ∀ P ∈ secrets, ∀ a, OccursAt P chunks.flatten a →
    Gone (redactedBytes secrets maxBytes chunks.flatten) a P.length

theorem map_redactedBytes (chunks : List (List UInt8)) :
    (redactedBytes secrets maxBytes chunks.flatten).map Prod.fst =
      (finalStream secrets maxBytes chunks).content := by
  have hpasses : ∀ (patterns : List (List UInt8)) (data : List Traced),
      (patterns.foldl (fun data pattern => replaceAll Prod.fst pattern tracedMarker data) data).map
        Prod.fst = patterns.foldl (fun data pattern => replaceAll id pattern redactedMarker data)
          (data.map Prod.fst) := by
    intro patterns
    induction patterns with
    | nil => exact fun _ => rfl
    | cons P patterns ih =>
      intro data
      rw [List.foldl_cons, List.foldl_cons, ih, map_replaceAll]
      rfl
  rw [redactedBytes, hpasses, map_fst_slice, List.drop_zero, finalStream, redact,
    StreamCapture.toCapturedStream]
  dsimp only
  rw [foldl_write _ _ (Nat.zero_le _), List.nil_append]

end RunbookPlatform
