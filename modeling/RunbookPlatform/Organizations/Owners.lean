import RunbookPlatform.Organizations.Requests

/-!
# Owners of organizations

Creations, role updates and removals that overlap can leave an organization without an owner: two
owners step down at once, each counting the other, or a creation fails between its two writes.
These are the only ways.

## Main definitions

- `EveryOrganizationOwned` — an organization has an owner, or its creation is in progress
- `OwnerStays` — what a step must not do to an organization for that
- `Unshared` — nobody else is about an organization whose creation is in progress

## Main results

- `Unshared.owned_step` — a step keeps the owners exactly when `OwnerStays`
- `organization_keeps_owner_iff` — so do all steps of a run
-/

namespace RunbookPlatform

open Transactional Sessions OrganizationPosition

-- ════════════════════════════════════════════════════════════════════════
-- Owners
-- ════════════════════════════════════════════════════════════════════════

/-- The organization has an owner. -/
def OrganizationDb.HasOwner (db : OrganizationDb) (organization : ℕ) : Prop :=
  ∃ k m, db.Has k m ∧ m.organization = organization ∧ m.role = .owner

/-- The organization whose creation is between its two writes. -/
def OrganizationPosition.creates? : OrganizationPosition → Option ℕ
  | membershipExists (.creation organization _) | createMembership (.creation organization _) =>
    some organization
  | _ => none

/-- Every organization has an owner, unless the request that creates it is in progress. -/
def EveryOrganizationOwned (s : Calls OrganizationDb OrganizationPosition) : Prop :=
  ∀ organization < s.db.organizations.next,
    (∃ i p, s.At i p ∧ p.creates? = some organization) ∨ s.db.HasOwner organization

/-- The guard `_assert_not_removing_last_owner` would fail on this membership now. -/
def OrganizationDb.removesLastOwner (db : OrganizationDb) (m : Membership)
    (nextRole : Option MembershipRole) : Bool :=
  m.role = .owner && nextRole ≠ some .owner && db.ownerCount m.organization ≤ 1

/-- The step leaves organizations their owners: no membership is written against the guard as it
would be evaluated now, and no creation ends between its two writes. -/
def OwnerStays (s : Calls OrganizationDb OrganizationPosition) :
    CallEvent OrganizationPosition → Prop
  | .arrive _ => True
  | .advance i => ∀ k nextRole m, s.At i (write k nextRole) → s.db.Has k m →
      s.db.removesLastOwner m nextRole = false
  | .fail i => ∀ p, s.At i p → p.creates? = none

namespace OrganizationDb

variable {db : OrganizationDb} {organization : ℕ}

theorem isOwnerOf_some {m : Membership} : isOwnerOf organization (some m) = true ↔
    m.organization = organization ∧ m.role = .owner := by
  simp [isOwnerOf]

theorem ownerCount_pos : 0 < db.ownerCount organization ↔ db.HasOwner organization := by
  rw [ownerCount, Table.log, List.length_pos_iff_exists_mem]
  constructor
  · rintro ⟨row, hrow⟩
    obtain ⟨hmem, howner⟩ := List.mem_filter.1 hrow
    obtain ⟨k, hk⟩ := List.mem_iff_getElem?.1 hmem
    cases row with
    | none => simp [isOwnerOf] at howner
    | some m => exact ⟨k, m, hk, isOwnerOf_some.1 howner⟩
  · rintro ⟨k, m, hk, howner⟩
    exact ⟨some m, List.mem_filter.2 ⟨List.mem_of_getElem? hk, isOwnerOf_some.2 howner⟩⟩

/-- What is selected is there, and satisfies the filter. -/
theorem selectMembership?_some {p : ℕ → Membership → Bool} {k : ℕ} {m : Membership}
    (h : db.selectMembership? p = some (k, m)) : db.Has k m ∧ p k m = true := by
  obtain ⟨⟨j, row⟩, hfind, hmap⟩ := Option.bind_eq_some_iff.1 h
  obtain ⟨n, hrow, heq⟩ := Option.map_eq_some_iff.1 hmap
  obtain ⟨rfl, rfl⟩ := Prod.mk.inj heq
  simp only at hrow
  subst hrow
  obtain ⟨hget, hp⟩ := Table.find?_some hfind
  exact ⟨hget, by simpa using hp⟩

/-- An organization without memberships has none to select. -/
theorem selectMembership?_none {p : ℕ → Membership → Bool}
    (h : ∀ k m, db.Has k m → p k m = false) : db.selectMembership? p = none := by
  cases hselect : db.selectMembership? p with
  | none => rfl
  | some found =>
    obtain ⟨hhas, hp⟩ := selectMembership?_some hselect
    rw [h _ _ hhas] at hp
    cases hp

theorem has_insertMembership {m : Membership} {db' : OrganizationDb}
    (h : db.insertMembership? m = some db') {k : ℕ} {n : Membership} :
    db'.Has k n ↔ k = db.memberships.next ∧ n = m ∨ db.Has k n := by
  rw [insertMembership?] at h
  split_ifs at h
  cases h
  rw [Has, Has, Table.get?_insert]
  split_ifs with hk
  · subst hk
    simp [eq_comm]
  · simp [hk]

theorem organizations_insertMembership {m : Membership} {db' : OrganizationDb}
    (h : db.insertMembership? m = some db') : db'.organizations = db.organizations := by
  rw [insertMembership?] at h
  split_ifs at h
  cases h
  rfl

/-- A member can be added to an organization that has none. -/
theorem insertMembership?_isSome {m : Membership} (hknown : m.organization < db.organizations.next)
    (hnone : ∀ k n, db.Has k n → n.organization ≠ m.organization) :
    (db.insertMembership? m).isSome := by
  rw [insertMembership?, dif_pos]
  · rfl
  · refine ⟨hknown, fun k _ n hn hsame => ?_⟩
    refine hnone k n ?_ hsame.1
    rw [Has]
    cases hrow : db.memberships.get? k with
    | none => simp [hrow] at hn
    | some row =>
      rw [hrow] at hn
      simpa using hn

theorem has_writeMembership {k : ℕ} {nextRole : Option MembershipRole} {j : ℕ} {n : Membership}
    (h : (db.writeMembership k nextRole).Has j n) :
    ∃ m, db.Has j m ∧ m.organization = n.organization := by
  rw [Has, writeMembership, Table.get?_modify] at h
  split_ifs at h with hj
  · obtain ⟨row, hrow, hnew⟩ := Option.map_eq_some_iff.1 h
    obtain ⟨m, rfl, hrole⟩ := Option.bind_eq_some_iff.1 hnew
    obtain ⟨role, -, rfl⟩ := Option.map_eq_some_iff.1 hrole
    exact ⟨m, hrow, rfl⟩
  · exact ⟨n, h, rfl⟩

/-- An update changes a count by what it changes in its row. -/
theorem length_filter_modify {α : Type} (p : α → Bool) (f : α → α) {rows : List α} {i : ℕ} {row : α}
    (h : rows[i]? = some row) : ((rows.modify i f).filter p).length + (p row).toNat =
      (rows.filter p).length + (p (f row)).toNat := by
  induction rows generalizing i with
  | nil => simp at h
  | cons first rest ih =>
    cases i with
    | zero =>
      rw [List.getElem?_cons_zero, Option.some.injEq] at h
      subst h
      rw [List.modify_zero_cons, List.filter_cons, List.filter_cons]
      cases p first <;> cases p (f first) <;> simp
    | succ i =>
      rw [List.getElem?_cons_succ] at h
      have hrest := ih h
      rw [List.modify_succ_cons, List.filter_cons, List.filter_cons]
      cases p first
      · simpa using hrest
      · simp only [if_true, List.length_cons]
        omega

/-- How many owners there are after a write. -/
theorem ownerCount_writeMembership {k : ℕ} {m : Membership} (h : db.Has k m)
    (nextRole : Option MembershipRole) (organization : ℕ) :
    (db.writeMembership k nextRole).ownerCount organization +
        (isOwnerOf organization (some m)).toNat =
      db.ownerCount organization +
        (isOwnerOf organization (nextRole.map fun role => { m with role })).toNat :=
  length_filter_modify (isOwnerOf organization) _ h

/-- A write of a membership that is not there does nothing. -/
theorem ownerCount_writeMembership_of_not_has {k : ℕ} (h : ∀ m, ¬db.Has k m)
    (nextRole : Option MembershipRole) (organization : ℕ) :
    (db.writeMembership k nextRole).ownerCount organization = db.ownerCount organization := by
  cases hrow : db.memberships.get? k with
  | none =>
    have hsame : (db.writeMembership k nextRole).memberships = db.memberships :=
      Table.modify_of_none hrow _
    rw [ownerCount, ownerCount, hsame]
  | some row =>
    cases row with
    | none => exact length_filter_modify (isOwnerOf organization) _ hrow
    | some m => exact absurd hrow (h m)

/-- **The guard is exact when it is evaluated at the write.** The organization of the membership
has an owner afterwards if the guard passes, and if it fails it has none. -/
theorem hasOwner_writeMembership {k : ℕ} {m : Membership} (h : db.Has k m)
    (nextRole : Option MembershipRole) (howned : db.HasOwner m.organization) :
    (db.writeMembership k nextRole).HasOwner m.organization ↔
      db.removesLastOwner m nextRole = false := by
  have hcount := ownerCount_writeMembership h nextRole m.organization
  have hold : isOwnerOf m.organization (some m) = decide (m.role = .owner) := by
    simp [isOwnerOf]
  have hnew : isOwnerOf m.organization (nextRole.map fun role => { m with role }) =
      decide (nextRole = some .owner) := by
    cases nextRole <;> simp [isOwnerOf]
  rw [hold, hnew] at hcount
  rw [← ownerCount_pos] at howned ⊢
  have hguard : db.removesLastOwner m nextRole = false ↔
      m.role = .owner → nextRole ≠ some .owner → 1 < db.ownerCount m.organization := by
    simp [removesLastOwner]
  rw [hguard]
  by_cases howner : m.role = .owner
  · by_cases hnext : nextRole = some .owner
    · rw [decide_eq_true howner, decide_eq_true hnext] at hcount
      exact iff_of_true (by omega) fun _ hne => absurd hnext hne
    · rw [decide_eq_true howner, decide_eq_false hnext, Bool.toNat_true, Bool.toNat_false] at hcount
      constructor
      · intro hpos _ _
        omega
      · intro hcounted
        have hmore := hcounted howner hnext
        omega
  · rw [decide_eq_false howner, Bool.toNat_false] at hcount
    exact iff_of_true (by omega) fun hrole => absurd hrole howner

/-- The other organizations keep their owners. -/
theorem hasOwner_writeMembership_of_ne {k : ℕ} {m : Membership} (h : db.Has k m)
    (nextRole : Option MembershipRole) (hne : m.organization ≠ organization) :
    (db.writeMembership k nextRole).HasOwner organization ↔ db.HasOwner organization := by
  have hcount := ownerCount_writeMembership h nextRole organization
  have hother : isOwnerOf organization (nextRole.map fun role => { m with role }) = false := by
    cases nextRole <;> simp [isOwnerOf, hne]
  have hold : isOwnerOf organization (some m) = false := by simp [isOwnerOf, hne]
  rw [hother, hold] at hcount
  rw [← ownerCount_pos, ← ownerCount_pos]
  simp only [Bool.toNat_false, Nat.add_zero] at hcount
  rw [hcount]

end OrganizationDb

-- ════════════════════════════════════════════════════════════════════════
-- What a statement does
-- ════════════════════════════════════════════════════════════════════════

/-- The organization that a request has found, or is creating, on its way to a new membership. -/
def OrganizationPosition.organization? : OrganizationPosition → Option ℕ
  | getObject request => some request.organization
  | validateUserId organization _ _ | getUser organization _ _ => some organization
  | membershipExists call | createMembership call => some call.membership.organization
  | _ => none

theorem OrganizationPosition.organization?_of_creates? {p : OrganizationPosition} {organization : ℕ}
    (h : p.creates? = some organization) : p.organization? = some organization := by
  unfold creates? at h
  split at h
  · exact h
  · exact h
  · cases h

/-- What becomes of the tables, and of the organization that the request is about. -/
structure StatementEffect (db : OrganizationDb) (p : OrganizationPosition) (db' : OrganizationDb)
    (next : Option OrganizationPosition) : Prop where
  organizations : db.organizations.next ≤ db'.organizations.next
  /-- A membership is of an organization that had one, or is the one that the request adds. -/
  memberships : ∀ k m, db'.Has k m → (∃ n, db.Has k n ∧ n.organization = m.organization) ∨
    p.organization? = some m.organization ∧ next = none
  /-- The request goes on with its organization, has found one by a membership of it, or has
  created one. -/
  goesOn : ∀ q organization, next = some q → q.organization? = some organization →
    p.organization? = some organization ∧ (q.creates? = some organization →
      p.creates? = some organization) ∨
    (∃ k m, db.Has k m ∧ m.organization = organization) ∧ q.creates? = none ∨
    organization = db.organizations.next ∧ organization < db'.organizations.next

namespace StatementEffect

variable {db : OrganizationDb} {p : OrganizationPosition}

/-- A statement that ends the request without a write. -/
theorem ended : StatementEffect db p db none where
  organizations := Nat.le_refl _
  memberships k m h := .inl ⟨m, h, rfl⟩
  goesOn q organization hq := by cases hq

/-- A statement that only reads. -/
theorem read {q : OrganizationPosition} (hq : ∀ organization, q.organization? = some organization →
    p.organization? = some organization ∧ (q.creates? = some organization →
      p.creates? = some organization) ∨
    (∃ k m, db.Has k m ∧ m.organization = organization) ∧ q.creates? = none) :
    StatementEffect db p db (some q) where
  organizations := Nat.le_refl _
  memberships k m h := .inl ⟨m, h, rfl⟩
  goesOn q' organization hq' horganization := by
    obtain rfl := Option.some.inj hq'
    exact (hq organization horganization).imp_right .inl

/-- The views after `get_object` are about the same organization, and create none. -/
theorem view (request : MemberRequest) {organization : ℕ}
    (h : request.view.organization? = some organization) :
    request.organization = organization ∧ request.view.creates? = none := by
  unfold MemberRequest.view at h ⊢
  split at h
  · exact ⟨Option.some.inj h, rfl⟩
  · cases h
  · cases h

theorem organization?_assertNotRemovingLastOwner (k : ℕ) (m : Membership)
    (nextRole : Option MembershipRole) :
    (assertNotRemovingLastOwner k m nextRole).organization? = none := by
  unfold assertNotRemovingLastOwner
  split_ifs <;> rfl

end StatementEffect

/-- **What every statement does.** -/
theorem OrganizationPosition.statement_effect (db : OrganizationDb) (p : OrganizationPosition) :
    StatementEffect db p (p.statement db).1 (p.statement db).2 := by
  cases p with
  | createUser user => exact ⟨Nat.le_refl _, fun k m h => .inl ⟨m, h, rfl⟩, fun q o hq => by cases hq⟩
  | createOrganization user name slug =>
    rw [statement]
    split_ifs
    · exact .ended
    · refine ⟨?_, fun k m h => .inl ⟨m, h, rfl⟩, fun q o hq ho => .inr (.inr ?_)⟩
      · exact (Table.next_insert db.organizations _).symm ▸ Nat.le_succ _
      · obtain rfl := Option.some.inj hq
        obtain rfl := Option.some.inj ho
        exact ⟨rfl, (Table.next_insert db.organizations _).symm ▸ Nat.lt_succ_self _⟩
  | hasPermission request =>
    rw [statement]
    split
    · exact .ended
    · rename_i k m hselect
      split_ifs
      · obtain ⟨hhas, hmatch⟩ := OrganizationDb.selectMembership?_some hselect
        rw [Bool.and_eq_true, decide_eq_true_eq, decide_eq_true_eq] at hmatch
        exact .read fun o ho => .inr ⟨⟨k, m, hhas, hmatch.2.trans (Option.some.inj ho)⟩, rfl⟩
      · exact .ended
  | getObject request =>
    rw [statement]
    split_ifs
    · refine .read fun o ho => .inl ?_
      obtain ⟨horganization, hcreates⟩ := StatementEffect.view request ho
      exact ⟨congrArg some horganization, fun h => absurd (hcreates.symm.trans h) nofun⟩
    · exact .ended
  | validateUserId organization user role =>
    rw [statement]
    split_ifs
    · exact .read fun o ho => .inl ⟨ho, nofun⟩
    · exact .ended
  | getUser organization user role =>
    rw [statement]
    split_ifs
    · exact .read fun o ho => .inl ⟨ho, nofun⟩
    · exact .ended
  | membershipExists call =>
    rw [statement]
    split_ifs
    · exact .ended
    · refine .read fun o ho => .inl ⟨ho, fun h => ?_⟩
      cases call with
      | creation organization user => exact h
      | post organization user role => cases h
  | createMembership call =>
    rw [statement]
    cases hinsert : db.insertMembership? call.membership with
    | none => exact .ended
    | some db' =>
      refine ⟨?_, fun k m h => ?_, fun q o hq => by cases hq⟩
      · rw [Option.getD_some, OrganizationDb.organizations_insertMembership hinsert]
      · rcases (OrganizationDb.has_insertMembership hinsert).1 h with ⟨-, rfl⟩ | hold
        · exact .inr ⟨rfl, rfl⟩
        · exact .inl ⟨m, hold, rfl⟩
  | getMembership organization k nextRole =>
    rw [statement]
    cases db.selectMembership? fun j m => j = k && m.organization = organization with
    | none => exact .ended
    | some found =>
      refine .read fun o ho => ?_
      rw [StatementEffect.organization?_assertNotRemovingLastOwner] at ho
      cases ho
  | countOwners k organization nextRole =>
    rw [statement]
    split_ifs
    · exact .ended
    · exact .read fun o ho => by cases ho
  | write k nextRole =>
    exact ⟨Nat.le_refl _, fun j m h => .inl (OrganizationDb.has_writeMembership h),
      fun q o hq => by cases hq⟩

-- ════════════════════════════════════════════════════════════════════════
-- An organization in creation
-- ════════════════════════════════════════════════════════════════════════

/-- Requests are about organizations that are there, and nobody but its creator can be about an
organization whose creation is in progress, since that has no members yet. -/
structure Unshared (s : Calls OrganizationDb OrganizationPosition) : Prop where
  known : ∀ i p organization, s.At i p → p.organization? = some organization →
    organization < s.db.organizations.next
  memberless : ∀ i p organization, s.At i p → p.creates? = some organization →
    ∀ k m, s.db.Has k m → m.organization ≠ organization
  alone : ∀ i p organization, s.At i p → p.creates? = some organization →
    ∀ j q, s.At j q → q.organization? = some organization → j = i

namespace Unshared

variable {s t : Calls OrganizationDb OrganizationPosition} {i : ℕ} {p : OrganizationPosition}

/-- A statement of a request. -/
theorem advance (h : Unshared s) (hi : s.At i p) {db' : OrganizationDb}
    {next : Option OrganizationPosition} (heffect : StatementEffect s.db p db' next) :
    Unshared ⟨db', s.calls.set i next⟩ where
  known j q organization hj horganization := by
    rcases (Calls.at_set hi db' next).1 hj with ⟨-, hnext⟩ | ⟨-, hold⟩
    · rcases heffect.goesOn q organization hnext horganization with ⟨hsame, -⟩ | ⟨⟨k, m, hm, ho⟩, -⟩ | h'
      · exact (h.known i p organization hi hsame).trans_le heffect.organizations
      · exact (ho ▸ s.db.references k m hm).trans_le heffect.organizations
      · exact h'.2
    · exact (h.known j q organization hold horganization).trans_le heffect.organizations
  memberless j q organization hj hcreates k m hm := by
    intro horganization
    have hq := OrganizationPosition.organization?_of_creates? hcreates
    rcases (Calls.at_set hi db' next).1 hj with ⟨-, hnext⟩ | ⟨hne, hold⟩
    · rcases heffect.memberships k m hm with ⟨n, hn, hsame⟩ | ⟨-, hended⟩
      · rcases heffect.goesOn q organization hnext hq with ⟨-, hp⟩ | ⟨-, hnone⟩ | ⟨hfresh, -⟩
        · exact h.memberless i p organization hi (hp hcreates) k n hn (hsame.trans horganization)
        · rw [hnone] at hcreates
          cases hcreates
        · have hlt := s.db.references k n hn
          omega
      · rw [hended] at hnext
        cases hnext
    · rcases heffect.memberships k m hm with ⟨n, hn, hsame⟩ | ⟨hp, -⟩
      · exact h.memberless j q organization hold hcreates k n hn (hsame.trans horganization)
      · exact hne (h.alone j q organization hold hcreates i p hi (horganization ▸ hp)).symm
  alone j q organization hj hcreates j' q' hj' horganization := by
    have hq := OrganizationPosition.organization?_of_creates? hcreates
    rcases (Calls.at_set hi db' next).1 hj with ⟨rfl, hnext⟩ | ⟨hne, hold⟩
    · rcases (Calls.at_set hi db' next).1 hj' with ⟨hj', -⟩ | ⟨-, hold'⟩
      · exact hj'
      · rcases heffect.goesOn q organization hnext hq with ⟨-, hp⟩ | ⟨-, hnone⟩ | ⟨hfresh, -⟩
        · exact h.alone j p organization hi (hp hcreates) j' q' hold' horganization
        · rw [hnone] at hcreates
          cases hcreates
        · have hlt := h.known j' q' organization hold' horganization
          omega
    · rcases (Calls.at_set hi db' next).1 hj' with ⟨rfl, hnext⟩ | ⟨-, hold'⟩
      · rcases heffect.goesOn q' organization hnext horganization with ⟨hp, -⟩ | ⟨⟨k, m, hm, ho⟩, -⟩ |
          ⟨hfresh, -⟩
        · exact h.alone j q organization hold hcreates j' p hi hp
        · exact absurd ho (h.memberless j q organization hold hcreates k m hm)
        · have hlt := h.known j q organization hold hq
          omega
      · exact h.alone j q organization hold hcreates j' q' hold' horganization

/-- A request that begins is about no organization yet. -/
theorem arrive (h : Unshared s) (hstart : p.isStart = true) :
    Unshared { s with calls := s.calls ++ [some p] } := by
  have hnone : p.organization? = none := by cases p <;> simp_all [isStart, organization?]
  have hold : ∀ j q o, ({ s with calls := s.calls ++ [some p] } : Calls _ _).At j q →
      q.organization? = some o → s.At j q := by
    intro j q o hj ho
    rcases (Calls.at_append p).1 hj with ⟨-, rfl⟩ | hold
    · rw [hnone] at ho
      cases ho
    · exact hold
  refine ⟨fun j q o hj ho => h.known j q o (hold j q o hj ho) ho,
    fun j q o hj hcreates => ?_, fun j q o hj hcreates j' q' hj' ho => ?_⟩
  · exact h.memberless j q o (hold j q o hj (organization?_of_creates? hcreates)) hcreates
  · exact h.alone j q o (hold j q o hj (organization?_of_creates? hcreates)) hcreates j' q'
      (hold j' q' o hj' ho) ho

/-- **Every step keeps organizations in creation apart.** -/
theorem step (h : Unshared s) {event : CallEvent OrganizationPosition}
    (hstep : organizationCalls.step? s event = some t) : Unshared t := by
  rcases Autocommit.step?_cases hstep with ⟨p, rfl, hstart, rfl⟩ | ⟨i, p, rfl, hi, rfl⟩ |
    ⟨i, p, rfl, hi, rfl⟩
  · exact h.arrive hstart
  · exact h.advance hi (p.statement_effect s.db)
  · exact h.advance hi .ended

end Unshared

-- ════════════════════════════════════════════════════════════════════════
-- Steps and runs
-- ════════════════════════════════════════════════════════════════════════

section Exactness

variable {s t : Calls OrganizationDb OrganizationPosition} {i : ℕ} {p : OrganizationPosition}

/-- A statement that takes no owner away, and leaves a creation in progress or gives the
organization its owner. -/
theorem EveryOrganizationOwned.advance (howned : EveryOrganizationOwned s) (hi : s.At i p)
    {db' : OrganizationDb} {next : Option OrganizationPosition}
    (hkept : ∀ o < s.db.organizations.next, s.db.HasOwner o → db'.HasOwner o)
    (hcreating : ∀ o, p.creates? = some o ∨ s.db.organizations.next ≤ o ∧ o < db'.organizations.next →
      (∃ q, next = some q ∧ q.creates? = some o) ∨ db'.HasOwner o) :
    EveryOrganizationOwned ⟨db', s.calls.set i next⟩ := by
  intro o ho
  have hnew : (∃ q, next = some q ∧ q.creates? = some o) ∨ db'.HasOwner o →
      (∃ j q, (⟨db', s.calls.set i next⟩ : Calls _ _).At j q ∧ q.creates? = some o) ∨
        db'.HasOwner o := by
    rintro (⟨q, hq, hcreates⟩ | hhas)
    · exact .inl ⟨i, q, (Calls.at_set hi db' next).2 (.inl ⟨rfl, hq⟩), hcreates⟩
    · exact .inr hhas
  by_cases hknown : o < s.db.organizations.next
  · rcases howned o hknown with ⟨j, q, hj, hcreates⟩ | hhas
    · by_cases hij : j = i
      · subst hij
        exact hnew (hcreating o (.inl (hj.inj hi ▸ hcreates)))
      · exact .inl ⟨j, q, (Calls.at_set hi db' next).2 (.inr ⟨hij, hj⟩), hcreates⟩
    · exact .inr (hkept o hknown hhas)
  · exact hnew (hcreating o (.inr ⟨Nat.le_of_not_lt hknown, ho⟩))

/-- The same for a statement that adds no organization. -/
theorem EveryOrganizationOwned.advance_of_same (howned : EveryOrganizationOwned s) (hi : s.At i p)
    {db' : OrganizationDb} {next : Option OrganizationPosition}
    (hsame : db'.organizations = s.db.organizations)
    (hkept : ∀ o, s.db.HasOwner o → db'.HasOwner o)
    (hcreating : ∀ o, p.creates? = some o →
      (∃ q, next = some q ∧ q.creates? = some o) ∨ db'.HasOwner o) :
    EveryOrganizationOwned ⟨db', s.calls.set i next⟩ := by
  refine howned.advance hi (fun o _ => hkept o) ?_
  rintro o (hcreates | hfresh)
  · exact hcreating o hcreates
  · rw [hsame] at hfresh
    omega

/-- A statement that creates nothing and writes nothing. -/
theorem EveryOrganizationOwned.read (howned : EveryOrganizationOwned s) (hi : s.At i p)
    (hnone : p.creates? = none) (next : Option OrganizationPosition) :
    EveryOrganizationOwned ⟨s.db, s.calls.set i next⟩ := by
  refine howned.advance_of_same hi rfl (fun o hhas => hhas) fun o hcreates => ?_
  rw [hnone] at hcreates
  cases hcreates

/-- A creation finds no member in its way, and leaves the organization its owner. -/
theorem Unshared.owned_createMembership (h : Unshared s) (howned : EveryOrganizationOwned s)
    {call : MembershipCall} (hi : s.At i (createMembership call)) :
    EveryOrganizationOwned ⟨((createMembership call).statement s.db).1,
      s.calls.set i ((createMembership call).statement s.db).2⟩ := by
  rw [statement]
  have hkept : ∀ db', s.db.insertMembership? call.membership = some db' → ∀ o, s.db.HasOwner o →
      db'.HasOwner o := by
    rintro db' hinsert o ⟨k, m, hm, howner⟩
    exact ⟨k, m, (OrganizationDb.has_insertMembership hinsert).2 (.inr hm), howner⟩
  cases call with
  | post organization user role =>
    cases hinsert : s.db.insertMembership? (MembershipCall.post organization user role).membership with
    | none => exact howned.read hi rfl _
    | some db' =>
      refine howned.advance_of_same hi (OrganizationDb.organizations_insertMembership hinsert)
        (hkept db' hinsert) fun o hcreates => ?_
      cases hcreates
  | creation organization user =>
    have hsome := OrganizationDb.insertMembership?_isSome
      (m := (MembershipCall.creation organization user).membership)
      (h.known i _ organization hi rfl) (h.memberless i _ organization hi rfl)
    obtain ⟨db', hinsert⟩ := Option.isSome_iff_exists.1 hsome
    rw [hinsert]
    refine howned.advance_of_same hi (OrganizationDb.organizations_insertMembership hinsert)
      (hkept db' hinsert) fun o hcreates => .inr ?_
    obtain rfl := Option.some.inj hcreates
    exact ⟨_, _, (OrganizationDb.has_insertMembership hinsert).2 (.inl ⟨rfl, rfl⟩), rfl, rfl⟩

/-- **Every statement but a write** leaves organizations their owners. -/
theorem Unshared.owned_of_read (h : Unshared s) (howned : EveryOrganizationOwned s) (hi : s.At i p)
    (hwrite : ∀ k nextRole, p ≠ write k nextRole) :
    EveryOrganizationOwned ⟨(p.statement s.db).1, s.calls.set i (p.statement s.db).2⟩ := by
  cases p with
  | createUser user =>
    refine howned.advance_of_same hi rfl (fun o hhas => hhas) fun o hcreates => ?_
    cases hcreates
  | createOrganization user name slug =>
    rw [statement]
    split_ifs
    · exact howned.read hi rfl _
    · refine howned.advance hi (fun o _ hhas => hhas) ?_
      rintro o (hcreates | ⟨hge, hlt⟩)
      · cases hcreates
      · rw [OrganizationDb.insertOrganization, Table.next_insert] at hlt
        have heq : o = s.db.organizations.next := by omega
        exact .inl ⟨_, rfl, congrArg some heq.symm⟩
  | hasPermission request =>
    rw [statement]
    split
    · exact howned.read hi rfl _
    · split_ifs
      · exact howned.read hi rfl _
      · exact howned.read hi rfl _
  | getObject request =>
    rw [statement]
    split_ifs
    · exact howned.read hi rfl _
    · exact howned.read hi rfl _
  | validateUserId organization user role => exact howned.read hi rfl _
  | getUser organization user role => exact howned.read hi rfl _
  | membershipExists call =>
    cases call with
    | post organization user role => exact howned.read hi rfl _
    | creation organization user =>
      have hselect : s.db.selectMembership? (fun _ m => m.organization =
          (MembershipCall.creation organization user).membership.organization &&
          m.user = (MembershipCall.creation organization user).membership.user) = none := by
        refine OrganizationDb.selectMembership?_none fun k m hm => ?_
        have hne := h.memberless i _ organization hi rfl k m hm
        rw [Bool.and_eq_false_iff]
        exact .inl (decide_eq_false hne)
      rw [statement, hselect, Option.isSome_none, if_neg Bool.false_ne_true]
      exact howned.advance_of_same hi rfl (fun o hhas => hhas) fun o hcreates =>
        .inl ⟨_, rfl, hcreates⟩
  | createMembership call => exact h.owned_createMembership howned hi
  | getMembership organization k nextRole => exact howned.read hi rfl _
  | countOwners k organization nextRole => exact howned.read hi rfl _
  | write k nextRole => exact absurd rfl (hwrite k nextRole)

/-- **A write** leaves organizations their owners exactly when the guard would pass at it. -/
theorem Unshared.owned_write (h : Unshared s) (howned : EveryOrganizationOwned s) {k : ℕ}
    {nextRole : Option MembershipRole} (hi : s.At i (write k nextRole)) :
    EveryOrganizationOwned ⟨s.db.writeMembership k nextRole, s.calls.set i none⟩ ↔
      ∀ m, s.db.Has k m → s.db.removesLastOwner m nextRole = false := by
  have hown : ∀ m, s.db.Has k m → s.db.HasOwner m.organization := by
    intro m hm
    rcases howned m.organization (s.db.references k m hm) with ⟨j, q, hj, hcreates⟩ | hhas
    · exact absurd rfl (h.memberless j q m.organization hj hcreates k m hm)
    · exact hhas
  constructor
  · intro hafter m hm
    rw [← OrganizationDb.hasOwner_writeMembership hm nextRole (hown m hm)]
    rcases hafter m.organization (s.db.references k m hm) with ⟨j, q, hj, hcreates⟩ | hhas
    · rcases (Calls.at_set hi _ none).1 hj with ⟨-, hq⟩ | ⟨-, hold⟩
      · cases hq
      · exact absurd rfl (h.memberless j q m.organization hold hcreates k m hm)
    · exact hhas
  · intro hguard
    refine howned.advance hi (fun o _ hhas => ?_) ?_
    · by_cases hrow : ∃ m, s.db.Has k m
      · obtain ⟨m, hm⟩ := hrow
        by_cases ho : m.organization = o
        · subst ho
          exact (OrganizationDb.hasOwner_writeMembership hm nextRole hhas).2 (hguard m hm)
        · exact (OrganizationDb.hasOwner_writeMembership_of_ne hm nextRole ho).2 hhas
      · rw [← OrganizationDb.ownerCount_pos] at hhas ⊢
        rwa [OrganizationDb.ownerCount_writeMembership_of_not_has (not_exists.1 hrow)]
    · rintro o (hcreates | hfresh)
      · cases hcreates
      · have hle : s.db.organizations.next ≤ o ∧ o < s.db.organizations.next := hfresh
        omega

/-- **A failure** leaves organizations their owners exactly when it ends no creation between its
two writes. -/
theorem Unshared.owned_fail (h : Unshared s) (howned : EveryOrganizationOwned s) (hi : s.At i p) :
    EveryOrganizationOwned ⟨s.db, s.calls.set i none⟩ ↔ p.creates? = none := by
  constructor
  · intro hafter
    cases hcreates : p.creates? with
    | none => rfl
    | some o =>
      have hknown := h.known i p o hi (organization?_of_creates? hcreates)
      rcases hafter o hknown with ⟨j, q, hj, hq⟩ | ⟨k, m, hm, ho, -⟩
      · rcases (Calls.at_set hi _ none).1 hj with ⟨-, hnext⟩ | ⟨hne, hold⟩
        · cases hnext
        · exact absurd (h.alone i p o hi hcreates j q hold (organization?_of_creates? hq)) hne
      · exact absurd ho (h.memberless i p o hi hcreates k m hm)
  · intro hnone
    refine howned.advance hi (fun o _ hhas => hhas) ?_
    rintro o (hcreates | hfresh)
    · rw [hnone] at hcreates
      cases hcreates
    · omega

/-- **Every step is exact.** -/
theorem Unshared.owned_step (h : Unshared s) (howned : EveryOrganizationOwned s)
    {event : CallEvent OrganizationPosition} (hstep : organizationCalls.step? s event = some t) :
    EveryOrganizationOwned t ↔ OwnerStays s event := by
  rcases Autocommit.step?_cases hstep with ⟨p, rfl, hstart, rfl⟩ | ⟨i, p, rfl, hi, rfl⟩ |
    ⟨i, p, rfl, hi, rfl⟩
  · refine ⟨fun _ => trivial, fun _ o ho => (howned o ho).imp_left ?_⟩
    rintro ⟨j, q, hj, hcreates⟩
    exact ⟨j, q, (Calls.at_append p).2 (.inr hj), hcreates⟩
  · by_cases hwrite : ∃ k nextRole, p = write k nextRole
    · obtain ⟨k, nextRole, rfl⟩ := hwrite
      refine (h.owned_write howned hi).trans ⟨fun hguard k' nextRole' m hi' hm => ?_, fun hstays m hm =>
        hstays k nextRole m hi hm⟩
      obtain ⟨rfl, rfl⟩ := write.inj (hi.inj hi')
      exact hguard m hm
    · refine iff_of_true (h.owned_of_read howned hi fun k nextRole hp => hwrite ⟨k, nextRole, hp⟩) ?_
      intro k nextRole m hi' hm
      exact absurd ⟨k, nextRole, hi.inj hi'⟩ hwrite
  · refine (h.owned_fail howned hi).trans ⟨fun hnone q hq => ?_, fun hstays => hstays p hi⟩
    exact hi.inj hq ▸ hnone

end Exactness

/-- **When every organization keeps an owner.** From a database in which all of them have one, the
states of a run have it all along exactly when every step leaves it to them. -/
theorem organization_keeps_owner_iff (db : OrganizationDb)
    (hdb : ∀ organization < db.organizations.next, db.HasOwner organization)
    (events : List (CallEvent OrganizationPosition)) :
    Along organizationCalls.step? EveryOrganizationOwned { db } events ↔
      Throughout organizationCalls.step? OwnerStays { db } events := by
  have hnobody : ∀ i p, ¬({ db } : Calls OrganizationDb OrganizationPosition).At i p := by
    intro i p h
    simp [Calls.At] at h
  have hunshared : Unshared { db } :=
    ⟨fun i p _ h => absurd h (hnobody i p), fun i p _ h => absurd h (hnobody i p),
      fun i p _ h => absurd h (hnobody i p)⟩
  exact along_iff_throughout (fun s e t h hstep => h.step hstep)
    (fun s e t h howned hstep => h.owned_step howned hstep) hunshared (fun o ho => .inr (hdb o ho))
    events

/-- A creation that is not cut short gives the organization its owner. -/
theorem created_organization_owned :
    Along organizationCalls.step? EveryOrganizationOwned { db := .withUsers ["alice"] }
      [.arrive (createOrganization "alice" "Acme" "acme"), .advance 0, .advance 0, .advance 0] := by
  refine (organization_keeps_owner_iff (.withUsers ["alice"]) (fun o ho => absurd ho (Nat.not_lt_zero o))
    _).2 fun t ht => ⟨trivial, ?_⟩
  obtain rfl := Option.some.inj ht
  refine fun t ht => ⟨fun k nextRole m hat => ?_, ?_⟩
  · cases hat
  obtain rfl := Option.some.inj ht
  refine fun t ht => ⟨fun k nextRole m hat => ?_, ?_⟩
  · cases hat
  obtain rfl := Option.some.inj ht
  refine fun t ht => ⟨fun k nextRole m hat => ?_, trivial⟩
  cases hat

/-- Alice creates an organization and makes Bob an owner beside her. Then both step down. -/
def bothStepDown : List (CallEvent OrganizationPosition) :=
  [.arrive (createOrganization "alice" "Acme" "acme"), .advance 0, .advance 0, .advance 0,
    .arrive (hasPermission
      { user := "alice", header := some 0, organization := 0, action := .post "bob" .owner }),
    .advance 1, .advance 1, .advance 1, .advance 1, .advance 1, .advance 1,
    .arrive (hasPermission
      { user := "alice", header := some 0, organization := 0, action := .patch 0 .admin }),
    .arrive (hasPermission
      { user := "bob", header := some 0, organization := 0, action := .patch 1 .admin }),
    .advance 2, .advance 3, .advance 2, .advance 3, .advance 2, .advance 3,
    -- both count two owners before either writes
    .advance 2, .advance 3, .advance 2, .advance 3]

theorem both_step_down_unowned : ¬Along organizationCalls.step? EveryOrganizationOwned
    { db := .withUsers ["alice", "bob"] } bothStepDown := by
  have hrun : (bothStepDown.foldlM organizationCalls.step?
      { db := .withUsers ["alice", "bob"] }).any (fun t => t.db.organizations.next = 1 &&
        t.calls.all (·.isNone) && t.db.ownerCount 0 = 0) = true := by
    decide +kernel
  intro h
  obtain ⟨t, ht, hend⟩ := Option.any_eq_true _ _ |>.1 hrun
  simp only [Bool.and_eq_true, decide_eq_true_eq] at hend
  obtain ⟨⟨hnext, hended⟩, hcount⟩ := hend
  rcases h.last ht 0 (by omega) with ⟨i, p, hi, -⟩ | hhas
  · have hnone := List.all_eq_true.1 hended _ (List.mem_of_getElem? hi)
    cases hnone
  · rw [← OrganizationDb.ownerCount_pos] at hhas
    omega

end RunbookPlatform
