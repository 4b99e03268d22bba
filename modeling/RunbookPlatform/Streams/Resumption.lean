import Mathlib.Data.List.Basic
import Mathlib.Data.List.DropRight

/-!
# Resuming a log

A log grows at its end, and a reader folds it. When the reader's channel breaks, it opens another
one that names the entry it read last: first the entries after that one come, out of a buffer, and
then those that were logged since the channel was opened. The entries that were logged in between
come twice. A reader whose fold allows the end of what it has read to come again does not notice.

## Main definitions

- `span` — the entries of a log between two positions
- `resumed` — what a channel carries
- `Replayable` — the end of what was folded can come again
- `Follows` — what was read, and the log from a position on, are the log from the first entry read

## Main results

- `Follows.append` — a reader that follows a log follows it when it grows
- `Follows.resume` — reading on, over another channel, keeps a reader following
-/

namespace Streams

variable {E S : Type*}

-- ════════════════════════════════════════════════════════════════════════
-- Parts of a log
-- ════════════════════════════════════════════════════════════════════════

/-- The entries from the position `i` on, before the position `j`. -/
def span (log : List E) (i j : ℕ) : List E := (log.take j).drop i

theorem span_self (log : List E) (i : ℕ) : span log i i = [] :=
  List.drop_eq_nil_of_le (List.length_take_le i log)

theorem length_span {log : List E} {i j : ℕ} (hj : j ≤ log.length) :
    (span log i j).length = j - i := by
  rw [span, List.length_drop, List.length_take, Nat.min_eq_left hj]

theorem span_append {log more : List E} {i j : ℕ} (hj : j ≤ log.length) :
    span (log ++ more) i j = span log i j := by
  rw [span, span, List.take_append_of_le_length hj]

theorem span_length (log : List E) (i : ℕ) : span log i log.length = log.drop i := by
  rw [span, List.take_length]

/-- A part of a log, and what follows it. -/
theorem span_append_drop (log : List E) {i j : ℕ} (hij : i ≤ j) :
    span log i j ++ log.drop j = log.drop i := by
  have hsplit : log.drop i = (log.take j ++ log.drop j).drop i := by rw [List.take_append_drop]
  by_cases hj : j ≤ log.length
  · have hi : i ≤ (log.take j).length := by rw [List.length_take]; omega
    rw [hsplit, List.drop_append_of_le_length hi, span]
  · have hdrop : log.drop j = [] := List.drop_eq_nil_of_le (by omega)
    have htake : log.take j = log := List.take_of_length_le (by omega)
    rw [hdrop, List.append_nil, span, htake]

/-- The later part is an end of the longer one. -/
theorem span_suffix (log : List E) {i j : ℕ} (hij : i ≤ j) (k : ℕ) :
    span log j k <:+ span log i k := by
  have hdrop : span log j k = (span log i k).drop (j - i) := by
    rw [span, span, List.drop_drop]
    congr 1
    omega
  rw [hdrop]
  exact List.drop_suffix _ _

/-- The beginning of what follows a position. -/
theorem take_drop_eq_span (log : List E) (i n : ℕ) : (log.drop i).take n = span log i (i + n) := by
  rw [span, List.drop_take]
  congr 1
  omega

/-- The beginning of a part. -/
theorem take_span {log : List E} {i j n : ℕ} (hn : i + n ≤ j) :
    (span log i j).take n = span log i (i + n) := by
  rw [span, span, List.drop_take, List.drop_take, List.take_take]
  congr 1
  omega

theorem getLast?_span {log : List E} {i j : ℕ} (hij : i < j) (hj : j ≤ log.length) :
    (span log i j).getLast? = log[j - 1]? := by
  rw [List.getLast?_eq_getElem?, length_span hj, span, List.getElem?_drop,
    List.getElem?_take_of_lt (by omega)]
  congr 1
  omega

theorem head?_span {log : List E} {i j : ℕ} (hij : i < j) :
    (span log i j).head? = log[i]? := by
  rw [List.head?_eq_getElem?, span, List.getElem?_drop, List.getElem?_take_of_lt (by omega)]
  rfl

/-- What a channel carries that was opened when the log had the length `since`: the entries from
`start` up to those that are there when the buffer is read, and those logged since. -/
def resumed (log : List E) (start upTo since : ℕ) : List E :=
  span log start upTo ++ log.drop since

theorem resumed_append {log more : List E} {start upTo since : ℕ} (hupTo : upTo ≤ log.length)
    (hsince : since ≤ log.length) :
    resumed (log ++ more) start upTo since = resumed log start upTo since ++ more := by
  rw [resumed, resumed, span_append hupTo, List.drop_append_of_le_length hsince,
    List.append_assoc]

/-- **Nothing twice**: without entries between the opening and the reading of the buffer, a channel
carries the log from `start` on. -/
theorem resumed_of_eq {log : List E} {start since : ℕ} (h : start ≤ since) :
    resumed log start since since = log.drop start :=
  span_append_drop log h

/-- The position after the first `n` entries of a channel. -/
def cursor (start upTo since n : ℕ) : ℕ :=
  if n ≤ upTo - start then start + n else since + (n - (upTo - start))

/-- Behind everything that a channel carries is the end of the log. -/
theorem cursor_length {log : List E} {start upTo since : ℕ} (hstart : start ≤ upTo)
    (hsince : since ≤ upTo) (hupTo : upTo ≤ log.length) :
    cursor start upTo since (resumed log start upTo since).length = log.length := by
  rw [resumed, List.length_append, length_span hupTo, List.length_drop, cursor]
  split_ifs <;> omega

-- ════════════════════════════════════════════════════════════════════════
-- Readers
-- ════════════════════════════════════════════════════════════════════════

/-- The end of what was folded can come again. -/
def Replayable (step : S → E → S) : Prop :=
  ∀ (s : S) {entries again : List E}, again <:+ entries →
    (entries ++ again).foldl step s = entries.foldl step s

/-- `got` and the log from `next` on fold as the log from `first` on; `first` is the position of the
entry that was read first, and `next` is one after that of the entry that was read last. -/
structure Follows (step : S → E → S) (log got : List E) (first next : ℕ) : Prop where
  first_le : first ≤ next
  next_le : next ≤ log.length
  caughtUp : ∀ s, (got ++ log.drop next).foldl step s = (log.drop first).foldl step s
  empty : got = [] → first = next
  head : got ≠ [] → first < next ∧ got.head? = log[first]?
  last : got ≠ [] → got.getLast? = log[next - 1]?

/-- Whoever has read nothing follows the log from any position on. -/
theorem Follows.nil (step : S → E → S) {log : List E} {next : ℕ} (h : next ≤ log.length) :
    Follows step log [] next next where
  first_le := le_refl next
  next_le := h
  caughtUp _ := rfl
  empty _ := rfl
  head hne := absurd rfl hne
  last hne := absurd rfl hne

namespace Follows

variable {step : S → E → S} {log got read unread : List E} {first next : ℕ}

/-- **A log that grows** is still followed. -/
theorem append (h : Follows step log got first next) (more : List E) :
    Follows step (log ++ more) got first next where
  first_le := h.first_le
  next_le := by
    have hnext := h.next_le
    rw [List.length_append]
    omega
  caughtUp s := by
    have hfirst : first ≤ log.length := h.first_le.trans h.next_le
    rw [List.drop_append_of_le_length h.next_le, List.drop_append_of_le_length hfirst,
      ← List.append_assoc, List.foldl_append, h.caughtUp s, List.foldl_append]
  empty := h.empty
  head hne := by
    obtain ⟨hlt, hhead⟩ := h.head hne
    have hnext := h.next_le
    refine ⟨hlt, ?_⟩
    rw [hhead, List.getElem?_append_left (by omega)]
  last hne := by
    have hlt := (h.head hne).1
    have hnext := h.next_le
    rw [h.last hne, List.getElem?_append_left (by omega)]

/-- A reader that is at the end of the log has folded the log from its first entry on. -/
theorem done (h : Follows step log got first next) (hnext : next = log.length) (s : S) :
    got.foldl step s = (log.drop first).foldl step s := by
  have hdrop : log.drop next = [] := List.drop_eq_nil_of_le (le_of_eq hnext.symm)
  rw [← h.caughtUp s, hdrop, List.append_nil]

/-- Reading on: the entries read begin at the position that comes next and end before the new
one, and fold as the entries between the two. -/
theorem extend (h : Follows step log got first next) {next' : ℕ} (hne : read ≠ [])
    (hlt : first < next') (hle : next' ≤ log.length) (hhead : read.head? = log[next]?)
    (hlast : read.getLast? = log[next' - 1]?)
    (hfold : ∀ s, (got ++ read ++ log.drop next').foldl step s =
      (got ++ log.drop next).foldl step s) :
    Follows step log (got ++ read) first next' where
  first_le := hlt.le
  next_le := hle
  caughtUp s := (hfold s).trans (h.caughtUp s)
  empty hnil := absurd (List.append_eq_nil_iff.1 hnil).2 hne
  head _ := by
    refine ⟨hlt, ?_⟩
    by_cases hgot : got = []
    · rw [hgot, List.nil_append, hhead, h.empty hgot]
    · rw [List.head?_append_of_ne_nil _ hgot, (h.head hgot).2]
  last _ := by
    rw [List.getLast?_append_of_ne_nil _ hne, hlast]

variable {upTo since : ℕ}

/-- **Reading on over another channel**: a reader that follows the log opens a channel at its
position and reads some of what comes. -/
theorem resume (hstep : Replayable step) (h : Follows step log got first next)
    (hsince : next ≤ since) (hupTo : since ≤ upTo) (hlen : upTo ≤ log.length)
    (hread : read ++ unread = resumed log next upTo since) :
    Follows step log (got ++ read) first (cursor next upTo since read.length) := by
  by_cases hne : read = []
  · have hcursor : cursor next upTo since read.length = next := by
      rw [hne]
      exact if_pos (Nat.zero_le _)
    rwa [hcursor, hne, List.append_nil]
  have hpos := List.length_pos_of_ne_nil hne
  have hfirst := h.first_le
  have htake : read = (resumed log next upTo since).take read.length := by
    rw [← hread, List.take_left]
  have hbuffer : (span log next upTo).length = upTo - next := length_span hlen
  have htotal : read.length ≤ upTo - next + (log.length - since) := by
    have hle : read.length ≤ (resumed log next upTo since).length := by
      rw [← hread, List.length_append]
      omega
    rwa [resumed, List.length_append, hbuffer, List.length_drop] at hle
  by_cases hin : read.length ≤ upTo - next
  · -- Still in the part out of the buffer: what was read follows the position directly.
    have hspan : read = span log next (next + read.length) := by
      conv_lhs => rw [htake]
      rw [resumed, List.take_append_of_le_length (by omega), take_span (by omega)]
    have hcursor : cursor next upTo since read.length = next + read.length := if_pos hin
    rw [hcursor]
    refine h.extend hne (by omega) (by omega) ?_ ?_ fun s => ?_
    · conv_lhs => rw [hspan]
      exact head?_span (by omega)
    · conv_lhs => rw [hspan]
      exact getLast?_span (by omega) (by omega)
    · rw [List.append_assoc]
      conv_lhs => rw [hspan]
      rw [length_span (by omega), Nat.add_sub_cancel_left, span_append_drop log (by omega)]
  · -- Past it: the entries since the opening come again, the end of what was read before them.
    obtain ⟨m, hm⟩ : ∃ m, read.length = upTo - next + m := ⟨read.length - (upTo - next), by omega⟩
    have hspan : read = span log next upTo ++ span log since (since + m) := by
      conv_lhs => rw [htake]
      rw [resumed, hm, ← hbuffer, List.take_length_add_append, take_drop_eq_span]
    have hcursor : cursor next upTo since read.length = since + m := by
      rw [cursor, if_neg hin, hm, Nat.add_sub_cancel_left]
    have htail : span log since (since + m) ≠ [] := by
      apply List.ne_nil_of_length_pos
      rw [length_span (by omega)]
      omega
    rw [hcursor]
    refine h.extend hne (by omega) (by omega) ?_ ?_ fun s => ?_
    · rw [hspan]
      by_cases hempty : next = upTo
      · have heq : since = next := by omega
        rw [← hempty, span_self, List.nil_append, heq]
        exact head?_span (by omega)
      · have hbuf : span log next upTo ≠ [] := by
          apply List.ne_nil_of_length_pos
          omega
        rw [List.head?_append_of_ne_nil _ hbuf]
        exact head?_span (by omega)
    · rw [hspan, List.getLast?_append_of_ne_nil _ htail]
      exact getLast?_span (by omega) (by omega)
    · have hagain : span log since upTo <:+ got ++ span log next upTo :=
        (span_suffix log hsince upTo).trans (List.suffix_append _ _)
      calc (got ++ read ++ log.drop (since + m)).foldl step s
          = (got ++ span log next upTo ++ log.drop since).foldl step s := by
            rw [hspan]
            simp only [List.append_assoc]
            rw [span_append_drop log (by omega)]
        _ = ((got ++ span log next upTo ++ span log since upTo) ++ log.drop upTo).foldl step s := by
            simp only [List.append_assoc]
            rw [span_append_drop log hupTo]
        _ = ((got ++ span log next upTo) ++ log.drop upTo).foldl step s := by
            rw [List.foldl_append, hstep s hagain, ← List.foldl_append]
        _ = (got ++ log.drop next).foldl step s := by
            rw [List.append_assoc, span_append_drop log (by omega)]

end Follows

end Streams
