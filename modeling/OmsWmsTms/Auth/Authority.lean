import OmsWmsTms.Auth.RoleIntegrity

/-!
# Who may do what, by the history

The answers of a login and of `_get_user_permissions` follow the history of the requests that have
succeeded, whatever else the server does at the same time.

* `Registered`, `Active`, `HasRole`, `Gives`, `Grants` : what a journal says about users, links and
  permissions.
* `permissions_by_history` : the permissions that are reported are those that the history grants.
* `login_by_history` : who is let in is registered with the password, and has not been deactivated
  or deleted.
-/

namespace OmsWmsTms

namespace Rbac

open Uow (Committed Held History)

/-! ### What a journal says -/

variable (t₀ : RoleTables) (ws : List RbacWrite)

/-- A user with an identifier, a name (as its column keeps it) and a password hash has been
registered, and not deleted since. -/
def Registered (userId : Uuid) (username hashedPassword : String) : Prop :=
  Held (∃ row ∈ t₀.users, row.id = userId ∧ row.username = username ∧
      row.hashedPassword = hashedPassword)
    (fun w => ∃ data, w = .insertUser userId data hashedPassword ∧
      Text.cut 100 data.username = username)
    (fun w => w = .deleteUser userId) ws

/-- A user has been registered or activated, and not deactivated or deleted since. -/
def Active (userId : Uuid) : Prop :=
  Held (∃ row ∈ t₀.users, row.id = userId ∧ row.isActive = true)
    (fun w => (∃ data hashedPassword, w = .insertUser userId data hashedPassword) ∨
      w = .setActive userId true)
    (fun w => w = .setActive userId false ∨ w = .deleteUser userId) ws

/-- A role has been assigned to a user, and neither taken away nor deleted since. -/
def HasRole (userId roleId : Uuid) : Prop :=
  Held ((userId, roleId) ∈ t₀.userRoles) (fun w => w = .insertUserRole userId roleId)
    (fun w => w = .deleteUserRole userId roleId ∨ w = .deleteRole roleId ∨ w = .deleteUser userId)
    ws

/-- A permission has been assigned to a role, and not taken away since; nor has the role been
deleted. -/
def Gives (roleId permissionId : Uuid) : Prop :=
  Held ((roleId, permissionId) ∈ t₀.rolePermissions)
    (fun w => w = .insertRolePermission roleId permissionId)
    (fun w => w = .deleteRolePermission roleId permissionId ∨ w = .deleteRole roleId) ws

/-- A permission has been created with a code; permissions stay. -/
def Grants (permissionId : Uuid) (code : String) : Prop :=
  Held (∃ row ∈ t₀.permissions, row.id = permissionId ∧ row.code = code)
    (fun w => ∃ data, w = .insertPermission permissionId data ∧ Text.cut 100 data.code = code)
    (fun _ => False) ws

/-! ### What a commit does to the links -/

variable {t₀ ws} {t t' : RoleTables} {w : RbacWrite}

/-- The users after a commit. -/
theorem users_apply (h : w.apply t = .ok t') :
    (∃ id data hashedPassword email, w = .insertUser id data hashedPassword ∧
      id ∉ t.users.map UserRow.id ∧ t'.users = t.users ++ [data.row id email hashedPassword]) ∨
    (∃ id active, w = .setActive id active ∧ id ∈ t.users.map UserRow.id ∧
      t'.users = updateRows UserRow.id id (fun row => { row with isActive := active }) t.users) ∨
    (∃ id, w = .deleteUser id ∧ t'.users = t.users.filter (·.id ≠ id)) ∨
    ((∀ id data hashedPassword, w ≠ .insertUser id data hashedPassword) ∧
      (∀ id active, w ≠ .setActive id active) ∧ (∀ id, w ≠ .deleteUser id) ∧
      t'.users = t.users) := by
  cases w with
  | insertUser id data hashedPassword =>
    obtain ⟨email, hid, -, -, rfl⟩ := insertUser_apply h
    exact .inl ⟨_, _, _, _, rfl, hid, rfl⟩
  | setActive id active =>
    simp only [RbacWrite.apply] at h
    split_ifs at h with hid
    cases h
    exact .inr (.inl ⟨_, _, rfl, hid, rfl⟩)
  | deleteUser id =>
    cases h
    exact .inr (.inr (.inl ⟨_, rfl, rfl⟩))
  | insertUserRole userId roleId =>
    obtain ⟨links, -, rfl⟩ := map_eq_ok_iff.1 h
    simp
  | insertRolePermission roleId permissionId =>
    obtain ⟨links, -, rfl⟩ := map_eq_ok_iff.1 h
    simp
  | insertRole id data | insertPermission id data | updateRole id changes =>
    simp only [RbacWrite.apply] at h
    split_ifs at h <;> cases h <;> simp
  | deleteRole id | deleteUserRole userId roleId | deleteRolePermission roleId permissionId =>
    cases h
    simp

theorem registered_apply {userId : Uuid} {username hashedPassword : String}
    (h : w.apply t = .ok t') :
    (∃ row ∈ t'.users, row.id = userId ∧ row.username = username ∧
        row.hashedPassword = hashedPassword) ↔
      (∃ data, w = .insertUser userId data hashedPassword ∧
          Text.cut 100 data.username = username) ∨
        ((∃ row ∈ t.users, row.id = userId ∧ row.username = username ∧
          row.hashedPassword = hashedPassword) ∧ ¬ w = .deleteUser userId) := by
  rcases users_apply h with ⟨id, data, hash, email, rfl, hnew, husers⟩ |
    ⟨id, active, rfl, hid, husers⟩ | ⟨id, rfl, husers⟩ | ⟨hinsert, -, hdelete, husers⟩
  · rw [husers]
    constructor
    · rintro ⟨row, hrow, rfl, rfl, rfl⟩
      rcases List.mem_append.1 hrow with hold | hlast
      · exact .inr ⟨⟨row, hold, rfl, rfl, rfl⟩, by simp⟩
      · obtain rfl := List.mem_singleton.1 hlast
        exact .inl ⟨data, rfl, rfl⟩
    · rintro (⟨data', hw, rfl⟩ | ⟨⟨row, hrow, hrest⟩, -⟩)
      · cases hw
        exact ⟨_, List.mem_append_right _ (List.mem_singleton_self _), rfl, rfl, rfl⟩
      · exact ⟨row, by simp [hrow], hrest⟩
  · rw [husers]
    constructor
    · rintro ⟨row, hrow, rfl, rfl, rfl⟩
      rcases mem_updateRows.1 hrow with ⟨row', hrow', -, rfl⟩ | ⟨hold, -⟩
      · exact .inr ⟨⟨row', hrow', rfl, rfl, rfl⟩, by simp⟩
      · exact .inr ⟨⟨row, hold, rfl, rfl, rfl⟩, by simp⟩
    · rintro (⟨data, hw, -⟩ | ⟨⟨row, hrow, rfl, rfl, rfl⟩, -⟩)
      · cases hw
      · by_cases hid : row.id = id
        · exact ⟨_, mem_updateRows.2 (.inl ⟨row, hrow, hid, rfl⟩), rfl, rfl, rfl⟩
        · exact ⟨row, mem_updateRows.2 (.inr ⟨hrow, hid⟩), rfl, rfl, rfl⟩
  · rw [husers]
    constructor
    · rintro ⟨row, hrow, rfl, rfl, rfl⟩
      obtain ⟨hrow, hne⟩ := List.mem_filter.1 hrow
      refine .inr ⟨⟨row, hrow, rfl, rfl, rfl⟩, fun hw => ?_⟩
      cases hw
      simp at hne
    · rintro (⟨data, hw, -⟩ | ⟨⟨row, hrow, rfl, hrest⟩, hne⟩)
      · cases hw
      · have hid : row.id ≠ id := fun heq => hne (by rw [heq])
        exact ⟨row, List.mem_filter.2 ⟨hrow, by simpa using hid⟩, rfl, hrest⟩
  · rw [husers]
    simp [hinsert, hdelete]

theorem active_apply {userId : Uuid} (h : w.apply t = .ok t') :
    (∃ row ∈ t'.users, row.id = userId ∧ row.isActive = true) ↔
      ((∃ data hashedPassword, w = .insertUser userId data hashedPassword) ∨
          w = .setActive userId true) ∨
        ((∃ row ∈ t.users, row.id = userId ∧ row.isActive = true) ∧
          ¬ (w = .setActive userId false ∨ w = .deleteUser userId)) := by
  rcases users_apply h with ⟨id, data, hash, email, rfl, hnew, husers⟩ |
    ⟨id, active, rfl, hid, husers⟩ | ⟨id, rfl, husers⟩ | ⟨hinsert, hset, hdelete, husers⟩
  · rw [husers]
    constructor
    · rintro ⟨row, hrow, rfl, hactive⟩
      rcases List.mem_append.1 hrow with hold | hlast
      · exact .inr ⟨⟨row, hold, rfl, hactive⟩, by simp⟩
      · obtain rfl := List.mem_singleton.1 hlast
        exact .inl (.inl ⟨data, hash, rfl⟩)
    · rintro ((⟨data', hash', hw⟩ | hw) | ⟨⟨row, hrow, hrest⟩, -⟩)
      · cases hw
        exact ⟨_, List.mem_append_right _ (List.mem_singleton_self _), rfl, rfl⟩
      · cases hw
      · exact ⟨row, by simp [hrow], hrest⟩
  · rw [husers]
    obtain ⟨user, huser, rfl⟩ := List.mem_map.1 hid
    constructor
    · rintro ⟨row, hrow, rfl, hactive⟩
      rcases mem_updateRows.1 hrow with ⟨row', hrow', hid', rfl⟩ | ⟨hold, hne⟩
      · dsimp only at hactive ⊢
        refine .inl (.inr ?_)
        rw [hid', hactive]
      · refine .inr ⟨⟨row, hold, rfl, hactive⟩, ?_⟩
        rintro (hw | hw)
        · exact hne (RbacWrite.setActive.inj hw).1.symm
        · cases hw
    · rintro ((⟨data, hash, hw⟩ | hw) | ⟨⟨row, hrow, rfl, hactive⟩, hne⟩)
      · cases hw
      · cases hw
        exact ⟨_, mem_updateRows.2 (.inl ⟨user, huser, rfl, rfl⟩), rfl, rfl⟩
      · by_cases heq : row.id = user.id
        · refine ⟨_, mem_updateRows.2 (.inl ⟨row, hrow, heq, rfl⟩), rfl, ?_⟩
          cases active with
          | true => rfl
          | false => exact absurd (.inl (by rw [heq])) hne
        · exact ⟨row, mem_updateRows.2 (.inr ⟨hrow, heq⟩), rfl, hactive⟩
  · rw [husers]
    constructor
    · rintro ⟨row, hrow, rfl, hactive⟩
      obtain ⟨hrow, hne⟩ := List.mem_filter.1 hrow
      refine .inr ⟨⟨row, hrow, rfl, hactive⟩, ?_⟩
      rintro (hw | hw)
      · cases hw
      · cases hw
        simp at hne
    · rintro ((⟨data, hash, hw⟩ | hw) | ⟨⟨row, hrow, rfl, hactive⟩, hne⟩)
      · cases hw
      · cases hw
      · have hid : row.id ≠ id := fun heq => hne (.inr (by rw [heq]))
        exact ⟨row, List.mem_filter.2 ⟨hrow, by simpa using hid⟩, rfl, hactive⟩
  · rw [husers]
    simp [hinsert, hset, hdelete]

theorem hasRole_apply {userId roleId : Uuid} (h : w.apply t = .ok t') :
    (userId, roleId) ∈ t'.userRoles ↔ w = .insertUserRole userId roleId ∨
      ((userId, roleId) ∈ t.userRoles ∧
        ¬ (w = .deleteUserRole userId roleId ∨ w = .deleteRole roleId ∨
          w = .deleteUser userId)) := by
  cases w with
  | insertUserRole userId' roleId' =>
    obtain ⟨links, hlinks, rfl⟩ := map_eq_ok_iff.1 h
    obtain ⟨-, rfl⟩ := insertLink_eq_ok_iff.1 hlinks
    simp only [List.mem_append, List.mem_singleton, Prod.mk.injEq, RbacWrite.insertUserRole.injEq,
      reduceCtorEq, or_self, not_false_eq_true, and_true]
    rw [or_comm, eq_comm, @eq_comm _ roleId]
  | insertRolePermission roleId permissionId =>
    obtain ⟨links, -, rfl⟩ := map_eq_ok_iff.1 h
    simp
  | insertUser id data hashedPassword =>
    obtain ⟨email, -, -, -, rfl⟩ := insertUser_apply h
    simp
  | setActive id active | insertRole id data | insertPermission id data | updateRole id changes =>
    simp only [RbacWrite.apply] at h
    split_ifs at h <;> cases h <;> simp
  | deleteUser id =>
    cases h
    simp [@eq_comm _ id]
  | deleteRole id =>
    cases h
    simp [@eq_comm _ id]
  | deleteUserRole userId' roleId' =>
    cases h
    simp [@eq_comm _ userId', @eq_comm _ roleId', -not_and, not_and_or]
  | deleteRolePermission roleId permissionId =>
    cases h
    simp

theorem gives_apply {roleId permissionId : Uuid} (h : w.apply t = .ok t') :
    (roleId, permissionId) ∈ t'.rolePermissions ↔ w = .insertRolePermission roleId permissionId ∨
      ((roleId, permissionId) ∈ t.rolePermissions ∧
        ¬ (w = .deleteRolePermission roleId permissionId ∨ w = .deleteRole roleId)) := by
  cases w with
  | insertRolePermission roleId' permissionId' =>
    obtain ⟨links, hlinks, rfl⟩ := map_eq_ok_iff.1 h
    obtain ⟨-, rfl⟩ := insertLink_eq_ok_iff.1 hlinks
    simp only [List.mem_append, List.mem_singleton, Prod.mk.injEq,
      RbacWrite.insertRolePermission.injEq, reduceCtorEq, or_self, not_false_eq_true, and_true]
    rw [or_comm, eq_comm, @eq_comm _ permissionId]
  | insertUserRole userId roleId =>
    obtain ⟨links, -, rfl⟩ := map_eq_ok_iff.1 h
    simp
  | insertUser id data hashedPassword =>
    obtain ⟨email, -, -, -, rfl⟩ := insertUser_apply h
    simp
  | setActive id active | insertRole id data | insertPermission id data | updateRole id changes =>
    simp only [RbacWrite.apply] at h
    split_ifs at h <;> cases h <;> simp
  | deleteRole id =>
    cases h
    simp [@eq_comm _ id]
  | deleteRolePermission roleId' permissionId' =>
    cases h
    simp [@eq_comm _ roleId', @eq_comm _ permissionId', -not_and, not_and_or]
  | deleteUser id | deleteUserRole userId roleId =>
    cases h
    simp

theorem grants_apply {permissionId : Uuid} {code : String} (h : w.apply t = .ok t') :
    (∃ row ∈ t'.permissions, row.id = permissionId ∧ row.code = code) ↔
      (∃ data, w = .insertPermission permissionId data ∧ Text.cut 100 data.code = code) ∨
        ((∃ row ∈ t.permissions, row.id = permissionId ∧ row.code = code) ∧ ¬ False) := by
  cases w with
  | insertPermission id data =>
    simp only [RbacWrite.apply] at h
    split_ifs at h
    cases h
    simp only [List.mem_append, List.mem_singleton]
    constructor
    · rintro ⟨row, hold | rfl, rfl, rfl⟩
      · exact .inr ⟨⟨row, hold, rfl, rfl⟩, not_false⟩
      · exact .inl ⟨data, rfl, rfl⟩
    · rintro (⟨data', hw, rfl⟩ | ⟨⟨row, hrow, hrest⟩, -⟩)
      · cases hw
        exact ⟨_, .inr rfl, rfl, rfl⟩
      · exact ⟨row, .inl hrow, hrest⟩
  | insertUser id data hashedPassword =>
    obtain ⟨email, -, -, -, rfl⟩ := insertUser_apply h
    simp
  | setActive id active | insertRole id data | updateRole id changes =>
    simp only [RbacWrite.apply] at h
    split_ifs at h <;> cases h <;> simp
  | insertUserRole left right | insertRolePermission left right =>
    obtain ⟨links, -, rfl⟩ := map_eq_ok_iff.1 h
    simp
  | deleteUser id | deleteRole id | deleteUserRole left right | deleteRolePermission left right =>
    cases h
    simp

/-! ### The tables and the history -/

section History

variable (h : Committed RbacWrite.apply t₀ ws t)
include h

theorem registered_iff (userId : Uuid) (username hashedPassword : String) :
    (∃ row ∈ t.users, row.id = userId ∧ row.username = username ∧
      row.hashedPassword = hashedPassword) ↔ Registered t₀ ws userId username hashedPassword :=
  h.holds_iff fun _ _ _ _ _ _ happly => registered_apply happly

theorem active_iff (userId : Uuid) :
    (∃ row ∈ t.users, row.id = userId ∧ row.isActive = true) ↔ Active t₀ ws userId :=
  h.holds_iff fun _ _ _ _ _ _ happly => active_apply happly

theorem hasRole_iff (userId roleId : Uuid) :
    (userId, roleId) ∈ t.userRoles ↔ HasRole t₀ ws userId roleId :=
  h.holds_iff fun _ _ _ _ _ _ happly => hasRole_apply happly

theorem gives_iff (roleId permissionId : Uuid) :
    (roleId, permissionId) ∈ t.rolePermissions ↔ Gives t₀ ws roleId permissionId :=
  h.holds_iff fun _ _ _ _ _ _ happly => gives_apply happly

theorem grants_iff (permissionId : Uuid) (code : String) :
    (∃ row ∈ t.permissions, row.id = permissionId ∧ row.code = code) ↔
      Grants t₀ ws permissionId code :=
  h.holds_iff fun _ _ _ _ _ _ happly => grants_apply happly

/-- Consistent tables stay so. -/
theorem wellFormed_committed (ht₀ : t₀.WellFormed) : t.WellFormed :=
  h.invariant ht₀ fun _ _ _ _ _ ht _ happly => ht.apply happly

end History

/-! ### The answers -/

variable {checkpw : String → String → Bool} {s : RbacState} {ls : List (Uow.Label RbacRequest)}
  {since till : List RbacWrite}

/-- **The permissions that are reported for a user** are those that the history grants: the user had
been registered at one moment, had the roles at a second, and the roles gave the permissions at a
third, in this order between the call and the answer. -/
theorem permissions_by_history (ht₀ : t₀.WellFormed)
    (hrun : (rbacSystem checkpw).Run (.init t₀) ls s) {username : String} {answer : RbacAnswer}
    (hanswer : ⟨RbacRequest.getUserPermissions username, since, till, .ok answer⟩ ∈ s.log) :
    ∃ codes past past' past'', answer = .codes codes ∧ since <+: past ∧ past <+: past' ∧
      past' <+: past'' ∧ past'' <+: till ∧ till <+: s.journal ∧
      ∀ code, code ∈ codes ↔ ∃ userId hashedPassword roleId permissionId,
        Registered t₀ past userId username hashedPassword ∧ HasRole t₀ past' userId roleId ∧
        Gives t₀ past'' roleId permissionId ∧ Grants t₀ past'' permissionId code := by
  obtain ⟨-, htill, hpost⟩ := (sound_rbacSystem hrun).log _ hanswer
  obtain ⟨past, past', past'', t, t', t'', codes, hsince, hpast, hpast', hpast'', hd, hd', hd'',
    rfl, hcodes⟩ := hpost answer rfl
  refine ⟨codes, past, past', past'', rfl, hsince, hpast, hpast', hpast'', htill, fun code => ?_⟩
  rw [hcodes code]
  constructor
  · rintro ⟨user, huser, rfl, role, -, hrole, permission, hpermission, hgives, rfl⟩
    exact ⟨user.id, user.hashedPassword, role.id, permission.id,
      (registered_iff hd _ _ _).1 ⟨user, huser, rfl, rfl, rfl⟩, (hasRole_iff hd' _ _).1 hrole,
      (gives_iff hd'' _ _).1 hgives, (grants_iff hd'' _ _).1 ⟨permission, hpermission, rfl, rfl⟩⟩
  · rintro ⟨userId, hashedPassword, roleId, permissionId, huser, hrole, hgives, hgrants⟩
    obtain ⟨user, hrow, rfl, rfl, -⟩ := (registered_iff hd _ _ _).2 huser
    replace hrole := (hasRole_iff hd' _ _).2 hrole
    obtain ⟨permission, hpermission, rfl, rfl⟩ := (grants_iff hd'' _ _).2 hgrants
    -- the role of a link is there
    obtain ⟨role, hmem, rfl⟩ :=
      List.mem_map.1 ((wellFormed_committed hd' ht₀).userRoles_mem _ hrole).2
    exact ⟨user, hrow, rfl, role, hmem, hrole, permission, hpermission,
      (gives_iff hd'' _ _).2 hgives, rfl⟩

/-! ### A question that overlaps with a change -/

/-- Empty tables. -/
theorem wellFormed_empty : RoleTables.WellFormed {} := by
  constructor <;> simp

/-- A user is registered and given a role with a permission. -/
def setUp : List (Uow.Label RbacRequest) :=
  [.call (.registerUser 1 ⟨"alice", some "alice@example.com"⟩ "secret"),
    .step 0, .step 0, .step 0, .step 0,
    .call (.createRole 2 ⟨"Clerk", "clerk", none⟩), .step 0, .step 0, .step 0, .step 0,
    .call (.createPermission 3 ⟨"Read orders", "orders:read", "orders", "read", none⟩),
    .step 0, .step 0, .step 0, .step 0,
    .call (.assignPermissionToRole (.ofUuid 2) (.ofUuid 3)),
    .step 0, .step 0, .step 0, .step 0, .step 0,
    .call (.assignRoleToUser (.ofUuid 1) (.ofUuid 2)), .step 0, .step 0, .step 0, .step 0, .step 0]

/-- While the permissions of the user are being read, the role is taken away. -/
def overlapped : List (Uow.Label RbacRequest) := setUp ++
  [.call (.getUserPermissions "alice"), .step 0, .step 0,
    .call (.removeRoleFromUser (.ofUuid 1) (.ofUuid 2)), .step 1, .step 1, .step 1,
    .step 0, .step 0]

theorem permissions_by_history_overlapped : ∃ s,
    (rbacSystem plain).Run (.init {}) overlapped s ∧
      ∃ past' userId roleId, past' <+: s.journal ∧ HasRole {} past' userId roleId := by
  have hread : (Lts.runNext (Uow.State.next RbacWrite.apply (RbacRequest.handler plain))
      (.init {}) overlapped).map (fun s => decide
        ((.getUserPermissions "alice", .ok (.codes ["orders:read"])) ∈ s.answers)) = some true := by
    decide
  obtain ⟨s, hrun, hanswer⟩ := Lts.exists_run_of_map hread
  refine ⟨s, hrun, ?_⟩
  obtain ⟨since, till, hlog⟩ := Uow.State.mem_answers.1 (of_decide_eq_true hanswer)
  obtain ⟨codes, past, past', past'', hcodes, -, -, hpast', hpast'', htill, hiff⟩ :=
    permissions_by_history wellFormed_empty hrun hlog
  cases hcodes
  obtain ⟨userId, -, roleId, -, -, hrole, -⟩ := (hiff "orders:read").1 (by simp)
  exact ⟨past', userId, roleId, hpast'.trans (hpast''.trans htill), hrole⟩

/-- **A login lets in** the user who, at some moment between the call and the answer, is registered
with this name and a hash of this password, and is active; nobody else. -/
theorem login_by_history (ht₀ : t₀.WellFormed)
    (hrun : (rbacSystem checkpw).Run (.init t₀) ls s) {username password : String}
    {answer : RbacAnswer}
    (hanswer : ⟨RbacRequest.authenticateUser username password, since, till, .ok answer⟩ ∈ s.log) :
    ∃ row? past, answer = .userOrNone row? ∧ since <+: past ∧ past <+: till ∧
      till <+: s.journal ∧ ∀ userId hashedPassword,
        (∃ row, row? = some row ∧ row.id = userId ∧ row.hashedPassword = hashedPassword) ↔
          Registered t₀ past userId username hashedPassword ∧ Active t₀ past userId ∧
          checkpw password hashedPassword = true := by
  obtain ⟨-, htill, hpost⟩ := (sound_rbacSystem hrun).log _ hanswer
  obtain ⟨past, t, row?, hsince, hpast, hd, rfl, hrow⟩ := hpost answer rfl
  refine ⟨row?, past, rfl, hsince, hpast, htill, fun userId hashedPassword => ?_⟩
  rw [← registered_iff hd, ← active_iff hd]
  constructor
  · rintro ⟨row, hsome, rfl, rfl⟩
    obtain ⟨hmem, hname, hpassword, hactive⟩ := (hrow row).1 hsome
    exact ⟨⟨row, hmem, rfl, hname, rfl⟩, ⟨row, hmem, rfl, hactive⟩, hpassword⟩
  · rintro ⟨⟨row, hmem, rfl, hname, rfl⟩, ⟨row', hmem', hid, hactive⟩, hpassword⟩
    -- one row has the identifier
    obtain rfl := List.inj_on_of_nodup_map (wellFormed_committed hd ht₀).userIds hmem' hmem hid
    exact ⟨row', (hrow row').2 ⟨hmem, hname, hpassword, hactive⟩, rfl, rfl⟩

theorem login_by_history_deactivated : ∃ s,
    (rbacSystem plain).Run (.init {}) (setUp ++
      [.call (.authenticateUser "alice" "secret"), .step 0, .step 0,
        .call (.toggleUserActive (.ofUuid 1)), .step 0, .step 0, .step 0,
        .call (.authenticateUser "alice" "secret"), .step 0, .step 0]) s ∧
      ∃ past, past <+: s.journal ∧ Active {} past 1 := by
  have hread : (Lts.runNext (Uow.State.next RbacWrite.apply (RbacRequest.handler plain))
      (.init {}) (setUp ++
        [.call (.authenticateUser "alice" "secret"), .step 0, .step 0,
          .call (.toggleUserActive (.ofUuid 1)), .step 0, .step 0, .step 0,
          .call (.authenticateUser "alice" "secret"), .step 0, .step 0])).map (fun s => decide
        ((.authenticateUser "alice" "secret", .ok (.userOrNone
          (some ⟨1, "alice", "alice@example.com", "secret", true⟩))) ∈ s.answers)) = some true := by
    decide
  obtain ⟨s, hrun, hanswer⟩ := Lts.exists_run_of_map hread
  refine ⟨s, hrun, ?_⟩
  obtain ⟨since, till, hlog⟩ := Uow.State.mem_answers.1 (of_decide_eq_true hanswer)
  obtain ⟨row?, past, hrow, -, hpast, htill, hiff⟩ := login_by_history wellFormed_empty hrun hlog
  cases hrow
  exact ⟨past, hpast.trans htill, ((hiff 1 "secret").1 ⟨_, rfl, rfl, rfl⟩).2.1⟩

end Rbac

end OmsWmsTms
