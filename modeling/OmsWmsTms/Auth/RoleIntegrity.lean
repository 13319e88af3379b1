import OmsWmsTms.Auth.Roles
import OmsWmsTms.Uow.Journal

/-!
# The tables of users, roles and permissions stay consistent

* `RoleTables.WellFormed` : the keys are unique, and every link joins two rows that are there;
  `RoleTables.WellFormed.apply` : a commit keeps it.
* `Justifies`, `Answers` : what a handler goes by; `justified_handler`.
* `tables_consistent` : in every interleaving of requests the tables are consistent, no system role
  is lost and none is made, and each is as the committed updates have left it.
-/

namespace OmsWmsTms

namespace Rbac

/-! ### Consistency -/

/-- The constraints of the tables. -/
structure RoleTables.WellFormed (t : RoleTables) : Prop where
  userIds : (t.users.map UserRow.id).Nodup
  usernames : (t.users.map UserRow.username).Nodup
  emails : (t.users.map UserRow.email).Nodup
  roleIds : (t.roles.map RoleRow.id).Nodup
  roleCodes : (t.roles.map RoleRow.code).Nodup
  permissionIds : (t.permissions.map PermissionRow.id).Nodup
  permissionCodes : (t.permissions.map PermissionRow.code).Nodup
  userRoles : t.userRoles.Nodup
  rolePermissions : t.rolePermissions.Nodup
  /-- No link of a user dangles. -/
  userRoles_mem : ∀ link ∈ t.userRoles,
    link.1 ∈ t.users.map UserRow.id ∧ link.2 ∈ t.roles.map RoleRow.id
  /-- No link of a permission dangles. -/
  rolePermissions_mem : ∀ link ∈ t.rolePermissions,
    link.1 ∈ t.roles.map RoleRow.id ∧ link.2 ∈ t.permissions.map PermissionRow.id

/-- A new link. -/
theorem insertLink_eq_ok_iff {lefts rights : List Uuid} {link : Uuid × Uuid}
    {links links' : List (Uuid × Uuid)} :
    insertLink lefts rights link links = .ok links' ↔
      (link.1 ∈ lefts ∧ link.2 ∈ rights ∧ link ∉ links) ∧ links ++ [link] = links' := by
  unfold insertLink
  split_ifs with h
  · simp only [Except.ok.injEq, h, true_and, not_false_eq_true, and_self]
  · simp only [h, false_and]

theorem nodup_concat {α : Type} {l : List α} {a : α} (h : l.Nodup) (ha : a ∉ l) :
    (l ++ [a]).Nodup := by
  refine List.nodup_append.2 ⟨h, List.nodup_singleton a, ?_⟩
  rintro b hb c hc rfl
  exact ha (List.mem_singleton.1 hc ▸ hb)

/-- What has left a table is not in its identifiers. -/
theorem mem_map_filter_ne {Row : Type} {id : Row → Uuid} {rows : List Row} {i j : Uuid} :
    j ∈ (rows.filter (id · ≠ i)).map id ↔ j ∈ rows.map id ∧ j ≠ i := by
  simp only [List.mem_map, List.mem_filter, decide_eq_true_eq]
  constructor
  · rintro ⟨row, ⟨hrow, hne⟩, rfl⟩
    exact ⟨⟨row, hrow, rfl⟩, hne⟩
  · rintro ⟨⟨row, hrow, rfl⟩, hne⟩
    exact ⟨row, ⟨hrow, hne⟩, rfl⟩

theorem nodup_map_filter {Row α : Type} {f : Row → α} {rows : List Row} {p : Row → Bool}
    (h : (rows.map f).Nodup) : ((rows.filter p).map f).Nodup :=
  h.sublist (List.filter_sublist.map f)

variable {t t' : RoleTables} {w : RbacWrite}

/-- **An insertion of a user**: its keys are new. -/
theorem insertUser_apply {id : Uuid} {data : UserData} {hashedPassword : String}
    (h : (RbacWrite.insertUser id data hashedPassword).apply t = .ok t') :
    ∃ email, id ∉ t.users.map UserRow.id ∧
      (data.row id email hashedPassword).username ∉ t.users.map UserRow.username ∧
      (data.row id email hashedPassword).email ∉ t.users.map UserRow.email ∧
      t' = { t with users := t.users ++ [data.row id email hashedPassword] } := by
  simp only [RbacWrite.apply] at h
  split_ifs at h with hlong
  split at h
  · cases h
  · rename_i email hemail
    split_ifs at h with htaken
    cases h
    simp only [not_or] at htaken
    exact ⟨email, htaken.1, htaken.2.1, htaken.2.2, rfl⟩

namespace RoleTables.WellFormed

/-- Other rows of users, with keys of their own: no link of a user dangles if they have the users
that are linked. -/
theorem with_users (ht : t.WellFormed) {users : List UserRow}
    (hids : (users.map UserRow.id).Nodup) (husernames : (users.map UserRow.username).Nodup)
    (hemails : (users.map UserRow.email).Nodup)
    (hlinked : ∀ link ∈ t.userRoles, link.1 ∈ users.map UserRow.id) :
    { t with users }.WellFormed :=
  { ht with
    userIds := hids
    usernames := husernames
    emails := hemails
    userRoles_mem := fun link hlink => ⟨hlinked link hlink, (ht.userRoles_mem link hlink).2⟩ }

/-- Other rows of roles. -/
theorem with_roles (ht : t.WellFormed) {roles : List RoleRow}
    (hids : (roles.map RoleRow.id).Nodup) (hcodes : (roles.map RoleRow.code).Nodup)
    (hlinked : ∀ link ∈ t.userRoles, link.2 ∈ roles.map RoleRow.id)
    (hgranted : ∀ link ∈ t.rolePermissions, link.1 ∈ roles.map RoleRow.id) :
    { t with roles }.WellFormed :=
  { ht with
    roleIds := hids
    roleCodes := hcodes
    userRoles_mem := fun link hlink => ⟨(ht.userRoles_mem link hlink).1, hlinked link hlink⟩
    rolePermissions_mem := fun link hlink =>
      ⟨hgranted link hlink, (ht.rolePermissions_mem link hlink).2⟩ }

theorem concat_userRole (ht : t.WellFormed) {link : Uuid × Uuid}
    (huser : link.1 ∈ t.users.map UserRow.id) (hrole : link.2 ∈ t.roles.map RoleRow.id)
    (hnew : link ∉ t.userRoles) : { t with userRoles := t.userRoles ++ [link] }.WellFormed := by
  refine { ht with
    userRoles := nodup_concat ht.userRoles hnew
    userRoles_mem := fun link' hlink => ?_ }
  rcases List.mem_append.1 hlink with hold | hlast
  · exact ht.userRoles_mem link' hold
  · obtain rfl := List.mem_singleton.1 hlast
    exact ⟨huser, hrole⟩

theorem concat_rolePermission (ht : t.WellFormed) {link : Uuid × Uuid}
    (hrole : link.1 ∈ t.roles.map RoleRow.id)
    (hpermission : link.2 ∈ t.permissions.map PermissionRow.id)
    (hnew : link ∉ t.rolePermissions) :
    { t with rolePermissions := t.rolePermissions ++ [link] }.WellFormed := by
  refine { ht with
    rolePermissions := nodup_concat ht.rolePermissions hnew
    rolePermissions_mem := fun link' hlink => ?_ }
  rcases List.mem_append.1 hlink with hold | hlast
  · exact ht.rolePermissions_mem link' hold
  · obtain rfl := List.mem_singleton.1 hlast
    exact ⟨hrole, hpermission⟩

/-- Some links of users are left. -/
theorem filter_userRoles (ht : t.WellFormed) (p : Uuid × Uuid → Bool) :
    { t with userRoles := t.userRoles.filter p }.WellFormed :=
  { ht with
    userRoles := ht.userRoles.filter p
    userRoles_mem := fun link hlink => ht.userRoles_mem link (List.mem_of_mem_filter hlink) }

/-- Some links of permissions are left. -/
theorem filter_rolePermissions (ht : t.WellFormed) (p : Uuid × Uuid → Bool) :
    { t with rolePermissions := t.rolePermissions.filter p }.WellFormed :=
  { ht with
    rolePermissions := ht.rolePermissions.filter p
    rolePermissions_mem := fun link hlink =>
      ht.rolePermissions_mem link (List.mem_of_mem_filter hlink) }

/-- **A commit keeps the constraints.** -/
theorem apply (ht : t.WellFormed) (h : w.apply t = .ok t') : t'.WellFormed := by
  cases w with
  | insertUser id data hashedPassword =>
    obtain ⟨email, hid, husername, hemail, rfl⟩ := insertUser_apply h
    refine ht.with_users (nodup_map_concat ht.userIds hid)
      (nodup_map_concat ht.usernames husername) (nodup_map_concat ht.emails hemail)
      fun link hlink => ?_
    rw [List.map_append]
    exact List.mem_append_left _ (ht.userRoles_mem link hlink).1
  | setActive id active =>
    simp only [RbacWrite.apply] at h
    split_ifs at h with hid
    cases h
    have hkeep {α : Type} {column : UserRow → α}
        (hcolumn : ∀ row, column { row with isActive := active } = column row) :
        (updateRows UserRow.id id (fun row => { row with isActive := active }) t.users).map column =
          t.users.map column := map_updateRows hcolumn
    refine ht.with_users ?_ ?_ ?_ fun link hlink => ?_
    · rw [hkeep fun _ => rfl]
      exact ht.userIds
    · rw [hkeep fun _ => rfl]
      exact ht.usernames
    · rw [hkeep fun _ => rfl]
      exact ht.emails
    · rw [hkeep fun _ => rfl]
      exact (ht.userRoles_mem link hlink).1
  | deleteUser id =>
    cases h
    -- the links of the user are deleted with it
    refine (ht.filter_userRoles _).with_users (nodup_map_filter ht.userIds)
      (nodup_map_filter ht.usernames) (nodup_map_filter ht.emails) fun link hlink => ?_
    obtain ⟨hlink, hne⟩ := List.mem_filter.1 hlink
    exact mem_map_filter_ne.2 ⟨(ht.userRoles_mem link hlink).1, of_decide_eq_true hne⟩
  | insertRole id data =>
    simp only [RbacWrite.apply] at h
    split_ifs at h with hlong htaken
    cases h
    rw [not_or] at htaken
    refine ht.with_roles (nodup_map_concat ht.roleIds htaken.1)
      (nodup_map_concat ht.roleCodes htaken.2) (fun link hlink => ?_) fun link hlink => ?_
    · rw [List.map_append]
      exact List.mem_append_left _ (ht.userRoles_mem link hlink).2
    · rw [List.map_append]
      exact List.mem_append_left _ (ht.rolePermissions_mem link hlink).1
  | updateRole id changes =>
    simp only [RbacWrite.apply] at h
    split_ifs at h
    · cases h
      exact ht
    · cases h
      have hids : (updateRows RoleRow.id id changes.write t.roles).map RoleRow.id =
          t.roles.map RoleRow.id := map_updateRows fun _ => rfl
      have hcodes : (updateRows RoleRow.id id changes.write t.roles).map RoleRow.code =
          t.roles.map RoleRow.code := map_updateRows fun _ => rfl
      refine ht.with_roles ?_ ?_ (fun link hlink => ?_) fun link hlink => ?_
      · rw [hids]
        exact ht.roleIds
      · rw [hcodes]
        exact ht.roleCodes
      · rw [hids]
        exact (ht.userRoles_mem link hlink).2
      · rw [hids]
        exact (ht.rolePermissions_mem link hlink).1
  | deleteRole id =>
    cases h
    refine ((ht.filter_userRoles _).filter_rolePermissions _).with_roles
      (nodup_map_filter ht.roleIds) (nodup_map_filter ht.roleCodes) (fun link hlink => ?_)
        fun link hlink => ?_
    · obtain ⟨hlink, hne⟩ := List.mem_filter.1 hlink
      exact mem_map_filter_ne.2 ⟨(ht.userRoles_mem link hlink).2, of_decide_eq_true hne⟩
    · obtain ⟨hlink, hne⟩ := List.mem_filter.1 hlink
      exact mem_map_filter_ne.2 ⟨(ht.rolePermissions_mem link hlink).1, of_decide_eq_true hne⟩
  | insertPermission id data =>
    simp only [RbacWrite.apply] at h
    split_ifs at h with hlong htaken
    cases h
    rw [not_or] at htaken
    refine { ht with
      permissionIds := nodup_map_concat ht.permissionIds htaken.1
      permissionCodes := nodup_map_concat ht.permissionCodes htaken.2
      rolePermissions_mem := fun link hlink => ?_ }
    obtain ⟨hrole, hpermission⟩ := ht.rolePermissions_mem link hlink
    rw [List.map_append]
    exact ⟨hrole, List.mem_append_left _ hpermission⟩
  | insertUserRole userId roleId =>
    obtain ⟨links, hlinks, rfl⟩ := map_eq_ok_iff.1 h
    obtain ⟨⟨huser, hrole, hnew⟩, rfl⟩ := insertLink_eq_ok_iff.1 hlinks
    exact ht.concat_userRole huser hrole hnew
  | deleteUserRole userId roleId =>
    cases h
    exact ht.filter_userRoles _
  | insertRolePermission roleId permissionId =>
    obtain ⟨links, hlinks, rfl⟩ := map_eq_ok_iff.1 h
    obtain ⟨⟨hrole, hpermission, hnew⟩, rfl⟩ := insertLink_eq_ok_iff.1 hlinks
    exact ht.concat_rolePermission hrole hpermission hnew
  | deleteRolePermission roleId permissionId =>
    cases h
    exact ht.filter_rolePermissions _

end RoleTables.WellFormed

/-! ### What the handlers go by -/

open Uow (Committed History Stable)
open Uow.Prog (justified_read justified_withOk)

variable (checkpw : String → String → Bool) (t₀ : RoleTables)

/-- A role is deleted by a request that has read it as no system role. -/
def Justifies (ws : List RbacWrite) : RbacWrite → Prop
  | .deleteRole id => ∃ past t role, past <+: ws ∧ Committed RbacWrite.apply t₀ past t ∧
      role ∈ t.roles ∧ role.id = id ∧ role.isSystem = false
  | _ => True

/-- `row?` is the active user with this name and password, if there is one. -/
def LoggedIn (t : RoleTables) (username password : String) (row? : Option UserRow) : Prop :=
  ∀ row, row? = some row ↔ row ∈ t.users ∧ row.username = username ∧
    checkpw password row.hashedPassword = true ∧ row.isActive = true

/-- `codes` are the permissions of a user, by the users, the roles and the permissions of three
moments. -/
def Reported (t t' t'' : RoleTables) (username : String) (codes : List String) : Prop :=
  ∀ code, code ∈ codes ↔ ∃ user ∈ t.users, user.username = username ∧
    ∃ role ∈ t'.roles, (user.id, role.id) ∈ t'.userRoles ∧
      ∃ permission ∈ t''.permissions, (role.id, permission.id) ∈ t''.rolePermissions ∧
        permission.code = code

/-- What an answer says about the journals between the call and the answer. -/
def Answers : RbacRequest → List RbacWrite → RbacAnswer → List RbacWrite → Prop
  | .authenticateUser username password, since, answer, ws =>
    ∃ past t row?, since <+: past ∧ past <+: ws ∧ Committed RbacWrite.apply t₀ past t ∧
      answer = .userOrNone row? ∧ LoggedIn checkpw t username password row?
  | .getUserPermissions username, since, answer, ws =>
    ∃ past past' past'' t t' t'' codes, since <+: past ∧ past <+: past' ∧ past' <+: past'' ∧
      past'' <+: ws ∧ Committed RbacWrite.apply t₀ past t ∧ Committed RbacWrite.apply t₀ past' t' ∧
      Committed RbacWrite.apply t₀ past'' t'' ∧
      answer = .codes codes ∧ Reported t t' t'' username codes
  | _, _, _, _ => True

/-- A handler that goes by what it has read. -/
abbrev Goes (q : RbacRequest) (since : List RbacWrite) (p : RbacProg) :
    (List RbacWrite → Prop) → Prop :=
  p.Justified RbacWrite.apply (Justifies t₀) t₀ (Answers checkpw t₀ q since)

variable {checkpw t₀} {since : List RbacWrite}

theorem justified_authenticateUser (username password : String) :
    Goes checkpw t₀ (.authenticateUser username password) since
      (authenticateUser checkpw username password) fun ws => since <+: ws := by
  refine justified_read fun t => ?_
  refine justified_withOk fun user? huser => ?_
  cases user? with
  | none =>
    rintro ws ⟨past, hpast, hsince, hd⟩
    refine ⟨past, t, none, hsince, hpast, hd, rfl, fun row => ?_⟩
    have hnone := List.filter_eq_nil_iff.1 (scalarOneOrNone_eq_none huser)
    refine ⟨fun h => (by cases h), fun h => ?_⟩
    exact absurd (decide_eq_true h.2.1) (hnone row h.1)
  | some user =>
    have hrows := mem_of_scalarOneOrNone huser
    have honly : ∀ row, row ∈ t.users ∧ row.username = username ↔ row = user := by
      intro row
      have hmem : row ∈ t.users.filter (·.username = username) ↔ row = user := by
        rw [hrows, List.mem_singleton]
      simpa only [List.mem_filter, decide_eq_true_eq] using hmem
    have huser' := (honly user).2 rfl
    have hanswer : ∀ row?, (∀ row, row? = some row ↔ row = user ∧
        checkpw password user.hashedPassword = true ∧ user.isActive = true) →
        ∀ ws, (∃ past, past <+: ws ∧ since <+: past ∧ Committed RbacWrite.apply t₀ past t) →
          Answers checkpw t₀ (.authenticateUser username password) since (.userOrNone row?) ws := by
      rintro row? hrow ws ⟨past, hpast, hsince, hd⟩
      refine ⟨past, t, row?, hsince, hpast, hd, rfl, fun row => ?_⟩
      rw [hrow row]
      constructor
      · rintro ⟨rfl, h⟩
        exact ⟨huser'.1, huser'.2, h⟩
      · rintro ⟨hmem, hname, h⟩
        obtain rfl := (honly row).1 ⟨hmem, hname⟩
        exact ⟨rfl, h⟩
    dsimp only
    split_ifs with hpassword hactive
    · refine hanswer (some user) fun row => ?_
      simp only [Option.some.injEq, hpassword, hactive, and_self, and_true]
      exact eq_comm
    · exact hanswer none fun row => ⟨fun h => (by cases h), fun h => absurd h.2.2 hactive⟩
    · exact hanswer none fun row => ⟨fun h => (by cases h), fun h => absurd h.2.1 hpassword⟩

theorem justified_getUserPermissions (username : String) :
    Goes checkpw t₀ (.getUserPermissions username) since (getUserPermissions username)
      fun ws => since <+: ws := by
  refine justified_read fun t => ?_
  refine justified_withOk fun user? huser => ?_
  cases user? with
  | none =>
    rintro ws ⟨past, hpast, hsince, hd⟩
    refine ⟨past, past, past, t, t, t, [], hsince, List.prefix_rfl, List.prefix_rfl, hpast, hd, hd,
      hd, rfl, fun code => ⟨fun h => (by cases h), ?_⟩⟩
    rintro ⟨user, huser', hname, -⟩
    have hnone := List.filter_eq_nil_iff.1 (scalarOneOrNone_eq_none huser)
    exact absurd (decide_eq_true hname) (hnone user huser')
  | some user =>
    have hrows := mem_of_scalarOneOrNone huser
    have honly : ∀ row, row ∈ t.users ∧ row.username = username ↔ row = user := by
      intro row
      have hmem : row ∈ t.users.filter (·.username = username) ↔ row = user := by
        rw [hrows, List.mem_singleton]
      simpa only [List.mem_filter, decide_eq_true_eq] using hmem
    obtain ⟨huser', hname⟩ := (honly user).2 rfl
    refine justified_read fun t' => ?_
    -- no role: the third statement is not executed
    cases hroles : t'.rolesOf user.id with
    | nil =>
      rintro ws ⟨past', hpast', ⟨past, hpast, hsince, hd⟩, hd'⟩
      refine ⟨past, past', past', t, t', t', [], hsince, hpast, List.prefix_rfl, hpast', hd, hd',
        hd', rfl, fun code => ⟨fun h => (by cases h), ?_⟩⟩
      rintro ⟨user', hmem, hname', role, hrole, hlink, -⟩
      obtain rfl := (honly user').1 ⟨hmem, hname'⟩
      exact absurd (decide_eq_true hlink) (List.filter_eq_nil_iff.1 hroles role hrole)
    | cons role roles =>
      refine justified_read fun t'' => ?_
      rintro ws ⟨past'', hpast'', ⟨past', hpast', ⟨past, hpast, hsince, hd⟩, hd'⟩, hd''⟩
      refine ⟨past, past', past'', t, t', t'', _, hsince, hpast, hpast', hpast'', hd, hd', hd'',
        rfl, fun code => ?_⟩
      rw [← hroles]
      simp only [List.mem_flatMap, List.mem_map, RoleTables.rolesOf, RoleTables.permissionsOf,
        List.mem_filter, decide_eq_true_eq]
      constructor
      · rintro ⟨role, ⟨hrole, hlink⟩, permission, ⟨hpermission, hgives⟩, rfl⟩
        exact ⟨user, huser', hname, role, hrole, hlink, permission, hpermission, hgives, rfl⟩
      · rintro ⟨user', hmem, hname', role, hrole, hlink, permission, hpermission, hgives, rfl⟩
        obtain rfl := (honly user').1 ⟨hmem, hname'⟩
        exact ⟨role, ⟨hrole, hlink⟩, permission, ⟨hpermission, hgives⟩, rfl⟩

theorem justified_deleteRole (roleId : IdArg) {K : List RbacWrite → Prop} :
    Goes checkpw t₀ (.deleteRole roleId) since (deleteRole roleId) K := by
  refine justified_withOk fun id _ => ?_
  refine justified_read fun t => ?_
  cases hrole : t.role? id with
  | none => trivial
  | some role =>
    dsimp only
    split_ifs with hsystem
    · trivial
    · refine ⟨?_, fun _ _ => trivial⟩
      rintro ws ⟨past, hpast, -, hd⟩
      refine ⟨past, t, role, hpast, hd, List.mem_of_find?_eq_some hrole, ?_, by simpa using hsystem⟩
      simpa using List.find?_some hrole

/-- The answer to a request other than a login or a question for permissions, after a refresh. -/
theorem justified_refresh {α : Type} {q : RbacRequest} {find : RoleTables → Option α}
    {answer : α → RbacAnswer} {K : List RbacWrite → Prop}
    (hq : ∀ a ws, Answers checkpw t₀ q since a ws) :
    Goes checkpw t₀ q since (.refresh find fun row => .ret (answer row)) K := by
  refine justified_read fun t => ?_
  split
  · exact fun _ _ => hq _ _
  · trivial

/-- **What the handlers write and answer follows from what they have read.** -/
theorem justified_handler (q : RbacRequest) (since : List RbacWrite) :
    Goes checkpw t₀ q since (q.handler checkpw) fun ws => since <+: ws := by
  cases q with
  | registerUser id data hashedPassword =>
    refine justified_read fun t => ?_
    refine justified_withOk fun existing _ => ?_
    split_ifs
    · trivial
    · exact ⟨fun _ _ => trivial, justified_refresh fun _ _ => trivial⟩
  | authenticateUser username password => exact justified_authenticateUser username password
  | toggleUserActive userId =>
    refine justified_withOk fun id _ => ?_
    refine justified_read fun t => ?_
    split
    · trivial
    · exact ⟨fun _ _ => trivial, fun _ _ => trivial⟩
  | deleteUser userId =>
    refine justified_withOk fun id _ => ?_
    exact ⟨fun _ _ => trivial, fun _ _ => trivial⟩
  | createRole id data =>
    refine justified_read fun t => ?_
    refine justified_withOk fun existing _ => ?_
    split_ifs
    · trivial
    · exact ⟨fun _ _ => trivial, justified_refresh fun _ _ => trivial⟩
  | updateRole roleId data =>
    refine justified_withOk fun id _ => ?_
    refine justified_read fun t => ?_
    split
    · trivial
    · exact ⟨fun _ _ => trivial, justified_refresh fun _ _ => trivial⟩
  | deleteRole roleId => exact justified_deleteRole roleId
  | createPermission id data =>
    refine justified_read fun t => ?_
    refine justified_withOk fun existing _ => ?_
    split_ifs
    · trivial
    · exact ⟨fun _ _ => trivial, justified_refresh fun _ _ => trivial⟩
  | assignRoleToUser userId roleId =>
    refine justified_withOk fun uid _ => ?_
    refine justified_read fun t => ?_
    split_ifs
    · trivial
    refine justified_withOk fun rid _ => ?_
    refine justified_read fun t' => ?_
    split_ifs
    · trivial
    refine justified_read fun t'' => ?_
    split_ifs
    · trivial
    exact ⟨fun _ _ => trivial, fun _ _ => trivial⟩
  | removeRoleFromUser userId roleId =>
    refine justified_withOk fun uid _ => justified_withOk fun rid _ => ?_
    refine justified_read fun t => ?_
    split_ifs
    · exact ⟨fun _ _ => trivial, fun _ _ => trivial⟩
    · trivial
  | assignPermissionToRole roleId permissionId =>
    refine justified_withOk fun rid _ => ?_
    refine justified_read fun t => ?_
    split_ifs
    · trivial
    refine justified_withOk fun pid _ => ?_
    refine justified_read fun t' => ?_
    split_ifs
    · trivial
    refine justified_read fun t'' => ?_
    split_ifs
    · trivial
    exact ⟨fun _ _ => trivial, fun _ _ => trivial⟩
  | removePermissionFromRole roleId permissionId =>
    refine justified_withOk fun rid _ => justified_withOk fun pid _ => ?_
    refine justified_read fun t => ?_
    split_ifs
    · exact ⟨fun _ _ => trivial, fun _ _ => trivial⟩
    · trivial
  | getUserPermissions username => exact justified_getUserPermissions username

/-! ### System roles -/

/-- The system roles. -/
def RoleTables.systemRoles (t : RoleTables) : List RoleRow := t.roles.filter RoleRow.isSystem

/-- A role after a commit that does not delete it. -/
def RoleRow.after (row : RoleRow) : RbacWrite → RoleRow
  | .updateRole id changes => if row.id = id then changes.write row else row
  | _ => row

/-- A role after some commits: its name and its description are those of the last updates. -/
def RoleRow.afterAll (row : RoleRow) (ws : List RbacWrite) : RoleRow := ws.foldl RoleRow.after row

section AfterAll

variable (row : RoleRow) (ws : List RbacWrite)

theorem RoleRow.afterAll_concat (w : RbacWrite) :
    row.afterAll (ws ++ [w]) = (row.afterAll ws).after w := by
  simp only [RoleRow.afterAll, List.foldl_append, List.foldl_cons, List.foldl_nil]

/-- No commit changes what identifies a role, nor whether it is a system role. -/
theorem RoleRow.after_keys (w : RbacWrite) :
    (row.after w).id = row.id ∧ (row.after w).code = row.code ∧
      (row.after w).isSystem = row.isSystem := by
  cases w with
  | updateRole id changes =>
    simp only [RoleRow.after]
    split_ifs <;> exact ⟨rfl, rfl, rfl⟩
  | _ => exact ⟨rfl, rfl, rfl⟩

theorem RoleRow.afterAll_keys :
    (row.afterAll ws).id = row.id ∧ (row.afterAll ws).code = row.code ∧
      (row.afterAll ws).isSystem = row.isSystem := by
  induction ws using List.reverseRecOn with
  | nil => exact ⟨rfl, rfl, rfl⟩
  | append_singleton ws w ih =>
    obtain ⟨hid, hcode, hsystem⟩ := (row.afterAll ws).after_keys w
    rw [RoleRow.afterAll_concat, hid, hcode, hsystem]
    exact ih

end AfterAll

/-- The identifiers of the system roles stay. -/
theorem map_id_afterAll (roles : List RoleRow) (ws : List RbacWrite) :
    (roles.map fun role => role.afterAll ws).map RoleRow.id = roles.map RoleRow.id := by
  rw [List.map_map]
  exact List.map_congr_left fun role _ => (role.afterAll_keys ws).1

/-- An update changes a system role as any other. -/
theorem systemRoles_updateRows (id : Uuid) (changes : RoleUpdate) (t : RoleTables) :
    ({ t with roles := updateRows RoleRow.id id changes.write t.roles } : RoleTables).systemRoles =
      t.systemRoles.map fun role => role.after (.updateRole id changes) := by
  unfold RoleTables.systemRoles updateRows
  rw [List.filter_map]
  have hfilter : t.roles.filter (RoleRow.isSystem ∘ fun row =>
      if row.id = id then changes.write row else row) = t.roles.filter RoleRow.isSystem := by
    refine List.filter_congr fun row _ => ?_
    simp only [Function.comp_apply]
    split_ifs <;> rfl
  rw [hfilter]
  exact List.map_congr_left fun row _ => rfl

/-- A commit makes no system role, and it loses none unless it deletes one. -/
theorem systemRoles_apply (h : w.apply t = .ok t')
    (hw : ∀ id, w = .deleteRole id → ∀ role ∈ t.roles, role.isSystem = true → role.id ≠ id) :
    t'.systemRoles = t.systemRoles.map fun role => role.after w := by
  -- a commit that updates no role leaves all of them as they are
  have hsame (hroles : t'.systemRoles = t.systemRoles)
      (hw : ∀ id changes, w ≠ .updateRole id changes) :
      t'.systemRoles = t.systemRoles.map fun role => role.after w := by
    have hafter (role : RoleRow) : role.after w = role := by
      cases w with
      | updateRole id changes => exact absurd rfl (hw id changes)
      | _ => rfl
    simp only [hroles, hafter, List.map_id']
  cases w with
  | insertUser id data hashedPassword =>
    obtain ⟨email, -, -, -, rfl⟩ := insertUser_apply h
    exact hsame rfl nofun
  | setActive id active =>
    simp only [RbacWrite.apply] at h
    split_ifs at h
    cases h
    exact hsame rfl nofun
  | insertRole id data =>
    simp only [RbacWrite.apply] at h
    split_ifs at h
    cases h
    refine hsame ?_ nofun
    simp [RoleTables.systemRoles, RoleData.row]
  | updateRole id changes =>
    simp only [RbacWrite.apply] at h
    split_ifs at h with hnone
    · cases h
      subst hnone
      have hafter (role : RoleRow) : role.after (.updateRole id ⟨none, none⟩) = role := by
        simp [RoleRow.after, RoleUpdate.write]
      simp only [hafter, List.map_id']
    · cases h
      exact systemRoles_updateRows id changes t
  | deleteRole id =>
    cases h
    refine hsame ?_ nofun
    unfold RoleTables.systemRoles
    rw [List.filter_filter]
    refine List.filter_congr fun role hrole => ?_
    by_cases hsystem : role.isSystem = true
    · simp [hsystem, hw id rfl role hrole hsystem]
    · simp [hsystem]
  | insertPermission id data =>
    simp only [RbacWrite.apply] at h
    split_ifs at h
    cases h
    exact hsame rfl nofun
  | insertUserRole userId roleId =>
    obtain ⟨links, -, rfl⟩ := map_eq_ok_iff.1 h
    exact hsame rfl nofun
  | insertRolePermission roleId permissionId =>
    obtain ⟨links, -, rfl⟩ := map_eq_ok_iff.1 h
    exact hsame rfl nofun
  | deleteUser id =>
    cases h
    exact hsame rfl nofun
  | deleteUserRole userId roleId =>
    cases h
    exact hsame rfl nofun
  | deleteRolePermission roleId permissionId =>
    cases h
    exact hsame rfl nofun

/-- The tables after a history. -/
theorem consistent_history {ws : List RbacWrite} (ht₀ : t₀.WellFormed)
    (h : History RbacWrite.apply (Justifies t₀) t₀ ws t) :
    t.WellFormed ∧ t.systemRoles = t₀.systemRoles.map fun role => role.afterAll ws := by
  refine h.strong (P := fun ws t =>
    t.WellFormed ∧ t.systemRoles = t₀.systemRoles.map fun role => role.afterAll ws)
    ⟨ht₀, (List.map_id' _).symm⟩ ?_
  intro ws w t t' hrest hpasts hJ happly
  obtain ⟨ht, hsystem⟩ := hpasts ws t List.prefix_rfl hrest.committed
  refine ⟨ht.apply happly, ?_⟩
  rw [systemRoles_apply happly, hsystem, List.map_map]
  · exact List.map_congr_left fun role _ => (role.afterAll_concat ws w).symm
  -- the role that is deleted was no system role once, so it is none now
  rintro id rfl role hrole hflag rfl
  obtain ⟨past, t'', role', hpast, hd, hrole', hid, hflag'⟩ := hJ
  obtain ⟨ht'', hsystem''⟩ := hpasts past t'' hpast hd
  have hids : t.systemRoles.map RoleRow.id = t''.systemRoles.map RoleRow.id := by
    rw [hsystem, hsystem'', map_id_afterAll, map_id_afterAll]
  have hmem : role.id ∈ t''.systemRoles.map RoleRow.id :=
    hids ▸ List.mem_map.2 ⟨role, List.mem_filter.2 ⟨hrole, hflag⟩, rfl⟩
  obtain ⟨role'', hmem'', heq⟩ := List.mem_map.1 hmem
  obtain ⟨hrole'', hflag''⟩ := List.mem_filter.1 hmem''
  obtain rfl := List.inj_on_of_nodup_map ht''.roleIds hrole'' hrole' (heq.trans hid.symm)
  rw [hflag'] at hflag''
  cases hflag''

variable {s : RbacState} {ls : List (Uow.Label RbacRequest)}

/-- The server is sound. -/
theorem sound_rbacSystem (hrun : (rbacSystem checkpw).Run (.init t₀) ls s) :
    Uow.Sound RbacWrite.apply (Justifies t₀) t₀ (Answers checkpw t₀) s :=
  Uow.sound_run_since justified_handler hrun

/-- **In every interleaving of requests** on consistent tables they stay consistent: keys are unique
and no link dangles.  The system roles are those of the start, each as the committed updates have
left it: none is lost, none is made, and no identifier and no code of them changes. -/
theorem tables_consistent (ht₀ : t₀.WellFormed)
    (hrun : (rbacSystem checkpw).Run (.init t₀) ls s) :
    s.db.WellFormed ∧
      s.db.systemRoles = t₀.systemRoles.map (fun role => role.afterAll s.journal) ∧
      s.db.systemRoles.map (fun role => (role.id, role.code)) =
        t₀.systemRoles.map fun role => (role.id, role.code) := by
  obtain ⟨hwf, hsystem⟩ := consistent_history ht₀ (sound_rbacSystem hrun).history
  refine ⟨hwf, hsystem, ?_⟩
  rw [hsystem, List.map_map]
  refine List.map_congr_left fun role _ => ?_
  obtain ⟨hid, hcode, -⟩ := role.afterAll_keys s.journal
  simp only [Function.comp_apply, hid, hcode]

/-- A stand-in for `bcrypt.checkpw`: the hash is the password itself. -/
def plain (password hashedPassword : String) : Bool := password = hashedPassword

/-- Tables with one system role. -/
def seeded : RoleTables where
  roles := [⟨9, "Administrator", "admin", none, true⟩]

theorem tables_consistent_seeded : ∃ s,
    (rbacSystem plain).Run (.init seeded)
      [.call (.createRole 2 ⟨"Clerk", "clerk", none⟩),
        .call (.createRole 3 ⟨"Clerk", "clerk", none⟩),
        .step 0, .step 1, .step 0, .step 1, .step 0, .step 0,
        .call (.deleteRole (.ofUuid 9)), .call (.updateRole (.ofUuid 9) ⟨some "Root", none⟩),
        .step 0, .step 0, .step 0, .step 0, .step 0,
        .call (.deleteRole (.ofUuid 2)), .step 0, .step 0, .step 0] s ∧
      s.journal = [.insertRole 2 ⟨"Clerk", "clerk", none⟩, .updateRole 9 ⟨some "Root", none⟩,
        .deleteRole 2] ∧
      s.db.systemRoles = [⟨9, "Root", "admin", none, true⟩] := by
  have hread : (Lts.runNext (Uow.State.next RbacWrite.apply (RbacRequest.handler plain))
      (.init seeded)
      [.call (.createRole 2 ⟨"Clerk", "clerk", none⟩),
        .call (.createRole 3 ⟨"Clerk", "clerk", none⟩),
        .step 0, .step 1, .step 0, .step 1, .step 0, .step 0,
        .call (.deleteRole (.ofUuid 9)), .call (.updateRole (.ofUuid 9) ⟨some "Root", none⟩),
        .step 0, .step 0, .step 0, .step 0, .step 0,
        .call (.deleteRole (.ofUuid 2)), .step 0, .step 0, .step 0]).map Uow.State.journal =
      some [.insertRole 2 ⟨"Clerk", "clerk", none⟩, .updateRole 9 ⟨some "Root", none⟩,
        .deleteRole 2] := by
    decide
  obtain ⟨s, hrun, hjournal⟩ := Lts.exists_run_of_map hread
  have hseeded : seeded.WellFormed := by
    constructor <;> simp [seeded]
  refine ⟨s, hrun, hjournal, ?_⟩
  rw [(tables_consistent hseeded hrun).2.1, hjournal]
  decide

end Rbac

end OmsWmsTms
