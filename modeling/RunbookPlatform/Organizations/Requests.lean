import RunbookPlatform.Core.Rows
import RunbookPlatform.Sessions.Autocommit
import RunbookPlatform.Transactional.Table

/-!
# Requests about organizations

`OrganizationViewSet` with the membership services it calls, statement by statement. No view and
no service opens a transaction or locks a row, so each statement is committed at once, and what
`_assert_not_removing_last_owner` has counted may be out of date when the role is written.

Requests that only read are left out, and so is what the serializers refuse before the first
query of a view.

## Main definitions

- `OrganizationDb` — organizations and memberships, with the constraints of the two tables
- `OrganizationPosition` — the requests, as programs of statements
- `organizationCalls` — any number of them over one database
-/

namespace RunbookPlatform

open Transactional Sessions

-- ════════════════════════════════════════════════════════════════════════
-- The tables
-- ════════════════════════════════════════════════════════════════════════

/-- `Organization`. -/
structure Organization where
  name : String
  slug : String

/-- The users, the organizations and their memberships. A deleted membership leaves none. -/
structure OrganizationDb where
  users : List String := []
  organizations : Table Organization := .empty
  memberships : Table (Option Membership) := .empty
  /-- The foreign key of `Membership.organization`. -/
  references : ∀ k m, memberships.get? k = some (some m) → m.organization < organizations.next
  /-- `unique_membership_per_org_user`. -/
  unique : ∀ j k m n, memberships.get? j = some (some m) → memberships.get? k = some (some n) →
    m.organization = n.organization → m.user = n.user → j = k

/-- The row is an owner of the organization. -/
def isOwnerOf (organization : ℕ) (row : Option Membership) : Bool :=
  row.any fun m => m.organization = organization && m.role = .owner

namespace OrganizationDb

/-- Membership `k` is `m`. -/
def Has (db : OrganizationDb) (k : ℕ) (m : Membership) : Prop :=
  db.memberships.get? k = some (some m)

/-- The database without organizations. -/
def withUsers (users : List String) : OrganizationDb where
  users
  references k m h := by simp at h
  unique j k m n h := by simp at h

/-- `Membership.objects.filter(...).first()`. -/
def selectMembership? (db : OrganizationDb) (p : ℕ → Membership → Bool) : Option (ℕ × Membership) :=
  (db.memberships.find? fun k row => row.any (p k)).bind fun found =>
    found.2.map fun m => (found.1, m)

/-- `Membership.objects.filter(organization=..., role=MembershipRole.OWNER).count()`. -/
def ownerCount (db : OrganizationDb) (organization : ℕ) : ℕ :=
  (db.memberships.log (isOwnerOf organization)).length

/-- `Organization.objects.create(...)`, with a new slug. -/
def insertOrganization (db : OrganizationDb) (organization : Organization) : OrganizationDb :=
  { db with
    organizations := db.organizations.insert organization
    references := fun k m h => by
      rw [Table.next_insert]
      exact Nat.lt_succ_of_lt (db.references k m h) }

/-- `Membership.objects.create(...)`. The insertion is refused for an organization that is not
there, and for a user who is already a member. -/
def insertMembership? (db : OrganizationDb) (m : Membership) : Option OrganizationDb :=
  if h : m.organization < db.organizations.next ∧
      ∀ k, k < db.memberships.next → ∀ n ∈ (db.memberships.get? k).join,
        ¬(n.organization = m.organization ∧ n.user = m.user) then
    some { db with
      memberships := db.memberships.insert (some m)
      references := fun k n hn => by
        rw [Table.get?_insert] at hn
        split_ifs at hn with hk
        · cases hn
          exact h.1
        · exact db.references k n hn
      unique := fun j k a b ha hb horganization huser => by
        rw [Table.get?_insert] at ha hb
        split_ifs at ha hb with hj hk hk
        · exact hj.trans hk.symm
        · cases ha
          exact absurd ⟨horganization.symm, huser.symm⟩ (h.2 k (Table.lt_next hb) b (by simp [hb]))
        · cases hb
          exact absurd ⟨horganization, huser⟩ (h.2 j (Table.lt_next ha) a (by simp [ha]))
        · exact db.unique j k a b ha hb horganization huser }
  else none

/-- Write row `k`, keeping the organization and the user if a row stays. -/
def writeMembership (db : OrganizationDb) (k : ℕ) (nextRole : Option MembershipRole) :
    OrganizationDb :=
  have hkept : ∀ j n, (db.memberships.modify k fun row =>
      row.bind fun m => nextRole.map fun role => { m with role }).get? j = some (some n) →
      ∃ m, db.memberships.get? j = some (some m) ∧ m.organization = n.organization ∧
        m.user = n.user := by
    intro j n hn
    rw [Table.get?_modify] at hn
    split_ifs at hn with hj
    · obtain ⟨row, hrow, hnew⟩ := Option.map_eq_some_iff.1 hn
      obtain ⟨m, rfl, hrole⟩ := Option.bind_eq_some_iff.1 hnew
      obtain ⟨role, -, rfl⟩ := Option.map_eq_some_iff.1 hrole
      exact ⟨m, hrow, rfl, rfl⟩
    · exact ⟨n, hn, rfl, rfl⟩
  { db with
    memberships := db.memberships.modify k fun row =>
      row.bind fun m => nextRole.map fun role => { m with role }
    references := fun j n hn => by
      obtain ⟨m, hm, horganization, -⟩ := hkept j n hn
      exact horganization ▸ db.references j m hm
    unique := fun i j a b ha hb horganization huser => by
      obtain ⟨m, hm, hmo, hmu⟩ := hkept i a ha
      obtain ⟨n, hn, hno, hnu⟩ := hkept j b hb
      exact db.unique i j m n hm hn (hmo.trans (horganization.trans hno.symm))
        (hmu.trans (huser.trans hnu.symm)) }

end OrganizationDb

-- ════════════════════════════════════════════════════════════════════════
-- The requests
-- ════════════════════════════════════════════════════════════════════════

/-- What `members` and `member_detail` are asked for, with valid data. -/
inductive MemberAction where
  | post (user : String) (role : MembershipRole)
  | patch (membership : ℕ) (role : MembershipRole)
  | delete (membership : ℕ)

/-- A request to `members` or `member_detail`, with the organizations that it names. -/
structure MemberRequest where
  user : String
  /-- `X-Organization-Id`. -/
  header : Option ℕ
  /-- `organization_id` in the query and in the body. -/
  query : Option ℕ := none
  body : Option ℕ := none
  /-- `pk`. -/
  organization : ℕ
  action : MemberAction

/-- `ADMIN_ROLES`. -/
def adminRoles : List MembershipRole := [.owner, .admin]

/-- `require_matching_organization_id`. -/
def MemberRequest.requireMatchingOrganizationId (request : MemberRequest) : Bool :=
  match request.header with
  | none => false
  | some header => [request.query, request.body].all (fun source => source.all (· = header)) &&
      header = request.organization

/-- A call of `create_membership`. -/
inductive MembershipCall where
  /-- By `create`, for the user who creates the organization. -/
  | creation (organization : ℕ) (user : String)
  /-- By `members`. -/
  | post (organization : ℕ) (user : String) (role : MembershipRole)

/-- The arguments of the call. -/
def MembershipCall.membership : MembershipCall → Membership
  | .creation organization user => { organization, user, role := .owner }
  | .post organization user role => { organization, user, role }

/-- The statement that a request executes next, with what its local variables hold. -/
inductive OrganizationPosition where
  /-- `create_user` of `apps.users`. -/
  | createUser (user : String)
  /-- `create`: `create_organization`. -/
  | createOrganization (user name slug : String)
  /-- `IsOrganizationAdminOrOwner.has_permission`. -/
  | hasPermission (request : MemberRequest)
  /-- `self.get_object()`. -/
  | getObject (request : MemberRequest)
  /-- `validate_user_id`, and `get_object_or_404(User, ...)`. -/
  | validateUserId (organization : ℕ) (user : String) (role : MembershipRole)
  | getUser (organization : ℕ) (user : String) (role : MembershipRole)
  /-- `create_membership`: the check, and the insertion. -/
  | membershipExists (call : MembershipCall)
  | createMembership (call : MembershipCall)
  /-- `get_object_or_404(services.list_members(...), pk=membership_id)`. -/
  | getMembership (organization membership : ℕ) (nextRole : Option MembershipRole)
  /-- The query of `_assert_not_removing_last_owner`. -/
  | countOwners (membership organization : ℕ) (nextRole : Option MembershipRole)
  /-- `membership.save(...)` of `update_member_role`, or `membership.delete()` of
  `remove_membership` when there is no next role. -/
  | write (membership : ℕ) (nextRole : Option MembershipRole)

open OrganizationPosition

/-- The views behind `get_object`. -/
def MemberRequest.view (request : MemberRequest) : OrganizationPosition :=
  match request.action with
  | .post user role => validateUserId request.organization user role
  | .patch membership role => getMembership request.organization membership (some role)
  | .delete membership => getMembership request.organization membership none

/-- The first test of `_assert_not_removing_last_owner`, on the membership as it was loaded. -/
def assertNotRemovingLastOwner (k : ℕ) (m : Membership) (nextRole : Option MembershipRole) :
    OrganizationPosition :=
  if m.role ≠ .owner ∨ nextRole = some .owner then write k nextRole
  else countOwners k m.organization nextRole

/-- What each statement does, and where the request goes on. It ends where an exception is
raised. -/
def OrganizationPosition.statement (db : OrganizationDb) :
    OrganizationPosition → OrganizationDb × Option OrganizationPosition
  | createUser user => ({ db with users := user :: db.users }, none)
  | createOrganization user name slug =>
    if (db.organizations.find? fun _ o => o.slug = slug).isSome then (db, none)
    else (db.insertOrganization { name, slug },
      some (membershipExists (.creation db.organizations.next user)))
  | hasPermission request =>
    match db.selectMembership? fun _ m =>
        m.user = request.user && m.organization = request.organization with
    | none => (db, none)
    | some (_, m) =>
      if m.role ∈ adminRoles && request.requireMatchingOrganizationId then
        (db, some (getObject request))
      else (db, none)
  | getObject request =>
    if (db.organizations.get? request.organization).isSome &&
        (db.selectMembership? fun _ m =>
          m.user = request.user && m.organization = request.organization).isSome then
      (db, some request.view)
    else (db, none)
  | validateUserId organization user role =>
    (db, if user ∈ db.users then some (getUser organization user role) else none)
  | getUser organization user role =>
    (db, if user ∈ db.users then some (membershipExists (.post organization user role)) else none)
  | membershipExists call =>
    (db, if (db.selectMembership? fun _ m => m.organization = call.membership.organization &&
        m.user = call.membership.user).isSome then none
      else some (createMembership call))
  | createMembership call => ((db.insertMembership? call.membership).getD db, none)
  | getMembership organization k nextRole =>
    (db, (db.selectMembership? fun j m => j = k && m.organization = organization).map fun found =>
      assertNotRemovingLastOwner found.1 found.2 nextRole)
  | countOwners k organization nextRole =>
    (db, if db.ownerCount organization ≤ 1 then none else some (write k nextRole))
  | write k nextRole => (db.writeMembership k nextRole, none)

/-- Where a request begins. -/
def OrganizationPosition.isStart : OrganizationPosition → Bool
  | createUser _ | createOrganization _ _ _ | hasPermission _ => true
  | _ => false

/-- The organization and membership endpoints. -/
def organizationCalls : Autocommit OrganizationDb OrganizationPosition where
  start := isStart
  statement := statement

end RunbookPlatform
