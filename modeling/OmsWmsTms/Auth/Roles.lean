import OmsWmsTms.Core.Handlers
import OmsWmsTms.Data.Rows

/-!
# Users, roles and permissions

The handlers of `src/auth/service.py` on users, roles and permissions, `_get_user_permissions` of
`src/core/dependencies.py`, and the endpoints that toggle and delete a user.  Identifiers and
password hashes are made outside of the handlers.

* `RoleTables` : the five tables of `src/auth/models.py`.
* `RbacWrite.apply` : what a commit does, under the constraints of the tables.
* `registerUser`, …, `getUserPermissions` : the handlers; `rbacSystem` : a server with them.
-/

namespace OmsWmsTms

namespace Rbac

/-! ### The tables -/

/-- A row of `users`. -/
structure UserRow where
  id : Uuid
  username : String
  email : String
  hashedPassword : String
  isActive : Bool
deriving DecidableEq

/-- A row of `roles`. -/
structure RoleRow where
  id : Uuid
  name : String
  code : String
  description : Option String
  isSystem : Bool
deriving DecidableEq

/-- A row of `permissions`. -/
structure PermissionRow where
  id : Uuid
  name : String
  code : String
  resource : String
  action : String
  description : Option String
deriving DecidableEq

/-- The tables. -/
structure RoleTables where
  users : List UserRow := []
  roles : List RoleRow := []
  permissions : List PermissionRow := []
  /-- `user_roles`: a user and a role. -/
  userRoles : List (Uuid × Uuid) := []
  /-- `role_permissions`: a role and a permission. -/
  rolePermissions : List (Uuid × Uuid) := []
deriving DecidableEq

/-- What `register_user` reads of its data, but for the password. -/
structure UserData where
  username : String
  /-- The form of the admin pages may come without one. -/
  email : Option String
deriving DecidableEq

/-- The data of `create_role`. -/
structure RoleData where
  name : String
  code : String
  description : Option String
deriving DecidableEq

/-- The data of `update_role`; `none` is `None`. -/
structure RoleUpdate where
  name : Option String
  description : Option String
deriving DecidableEq

/-- The data of `create_permission`. -/
structure PermissionData where
  name : String
  code : String
  resource : String
  action : String
  description : Option String
deriving DecidableEq

/-! ### What a commit does -/

/-- The changes that a handler collects; it commits one. -/
inductive RbacWrite
  | insertUser (id : Uuid) (data : UserData) (hashedPassword : String)
  | setActive (id : Uuid) (active : Bool)
  /-- `DELETE FROM users`, which cascades to the roles of the user. -/
  | deleteUser (id : Uuid)
  | insertRole (id : Uuid) (data : RoleData)
  /-- The columns whose values differ. -/
  | updateRole (id : Uuid) (changes : RoleUpdate)
  /-- `DELETE FROM roles`, after the session has deleted the rows of the two secondary tables. -/
  | deleteRole (id : Uuid)
  | insertPermission (id : Uuid) (data : PermissionData)
  | insertUserRole (userId roleId : Uuid)
  | deleteUserRole (userId roleId : Uuid)
  | insertRolePermission (roleId permissionId : Uuid)
  | deleteRolePermission (roleId permissionId : Uuid)
deriving DecidableEq

/-- The user that `register_user` inserts, as the columns keep it. -/
def UserData.row (data : UserData) (id : Uuid) (email hashedPassword : String) : UserRow where
  id
  username := Text.cut 100 data.username
  email := Text.cut 255 email
  hashedPassword
  isActive := true

/-- The role that `create_role` inserts. -/
def RoleData.row (data : RoleData) (id : Uuid) : RoleRow where
  id
  name := Text.cut 100 data.name
  code := Text.cut 50 data.code
  description := data.description
  isSystem := false

/-- The permission that `create_permission` inserts. -/
def PermissionData.row (data : PermissionData) (id : Uuid) : PermissionRow where
  id
  name := Text.cut 100 data.name
  code := Text.cut 100 data.code
  resource := Text.cut 100 data.resource
  action := Text.cut 50 data.action
  description := data.description

/-- The role after an update. -/
def RoleUpdate.write (changes : RoleUpdate) (row : RoleRow) : RoleRow :=
  { row with
    name := (changes.name.map (Text.cut 100)).getD row.name
    description := changes.description.or row.description }

/-- A violated constraint. -/
def integrityError : RequestError := .service .integrityError

/-- A value that does not fit its column. -/
def dataError : RequestError := .service .dataError

/-- The texts of a statement fit their columns, up to blanks at the end. -/
def TextsFit (columns : List (ℕ × String)) : Prop :=
  ∀ column ∈ columns, Text.FitsUpToBlanks column.1 column.2

instance (columns : List (ℕ × String)) : Decidable (TextsFit columns) :=
  inferInstanceAs (Decidable (∀ column ∈ columns, Text.FitsUpToBlanks column.1 column.2))

/-- Insert a link between two rows that are there. -/
def insertLink (lefts rights : List Uuid) (link : Uuid × Uuid) (links : List (Uuid × Uuid)) :
    Except RequestError (List (Uuid × Uuid)) :=
  if link.1 ∈ lefts ∧ link.2 ∈ rights ∧ link ∉ links then .ok (links ++ [link])
  else .error integrityError

/-- **A commit.** -/
def RbacWrite.apply : RbacWrite → RoleTables → Except RequestError RoleTables
  | .insertUser id data hashedPassword, t =>
    if ¬TextsFit [(100, data.username), (255, data.email.getD "")] then .error dataError
    else
      match data.email with
      | none => .error integrityError
      | some email =>
        let row := data.row id email hashedPassword
        if id ∈ t.users.map UserRow.id ∨ row.username ∈ t.users.map UserRow.username ∨
            row.email ∈ t.users.map UserRow.email then .error integrityError
        else .ok { t with users := t.users ++ [row] }
  | .setActive id active, t =>
    if id ∈ t.users.map UserRow.id then
      .ok { t with
        users := updateRows UserRow.id id (fun row => { row with isActive := active }) t.users }
    else .error (.service .staleData)
  | .deleteUser id, t =>
    .ok { t with
      users := t.users.filter (·.id ≠ id)
      userRoles := t.userRoles.filter (·.1 ≠ id) }
  | .insertRole id data, t =>
    if ¬TextsFit [(100, data.name), (50, data.code)] then .error dataError
    else if id ∈ t.roles.map RoleRow.id ∨ (data.row id).code ∈ t.roles.map RoleRow.code then
      .error integrityError
    else .ok { t with roles := t.roles ++ [data.row id] }
  | .updateRole id changes, t =>
    -- without a change there is no `UPDATE`
    if changes = ⟨none, none⟩ then .ok t
    else if id ∉ t.roles.map RoleRow.id then .error (.service .staleData)
    else if ¬TextsFit [(100, changes.name.getD "")] then .error dataError
    else .ok { t with roles := updateRows RoleRow.id id changes.write t.roles }
  | .deleteRole id, t =>
    .ok { t with
      roles := t.roles.filter (·.id ≠ id)
      userRoles := t.userRoles.filter (·.2 ≠ id)
      rolePermissions := t.rolePermissions.filter (·.1 ≠ id) }
  | .insertPermission id data, t =>
    if ¬TextsFit [(100, data.name), (100, data.code), (100, data.resource), (50, data.action)] then
      .error dataError
    else if id ∈ t.permissions.map PermissionRow.id ∨
        (data.row id).code ∈ t.permissions.map PermissionRow.code then .error integrityError
    else .ok { t with permissions := t.permissions ++ [data.row id] }
  | .insertUserRole userId roleId, t =>
    (insertLink (t.users.map UserRow.id) (t.roles.map RoleRow.id) (userId, roleId) t.userRoles).map
      fun links => { t with userRoles := links }
  | .deleteUserRole userId roleId, t =>
    .ok { t with userRoles := t.userRoles.filter (· ≠ (userId, roleId)) }
  | .insertRolePermission roleId permissionId, t =>
    (insertLink (t.roles.map RoleRow.id) (t.permissions.map PermissionRow.id)
      (roleId, permissionId) t.rolePermissions).map fun links => { t with rolePermissions := links }
  | .deleteRolePermission roleId permissionId, t =>
    .ok { t with rolePermissions := t.rolePermissions.filter (· ≠ (roleId, permissionId)) }

/-! ### The handlers -/

/-- What a handler answers. -/
inductive RbacAnswer
  | done
  | user (row : UserRow)
  | role (row : RoleRow)
  | permission (row : PermissionRow)
  /-- A user, or `None`. -/
  | userOrNone (row? : Option UserRow)
  | codes (codes : List String)
deriving DecidableEq

/-- The handlers of the tables. -/
abbrev RbacProg := Uow.Prog RoleTables RbacWrite RequestError RbacAnswer

open Uow.Prog (withOk refresh)

namespace RoleTables

/-- The user with an identifier, if there is one; it is the primary key. -/
def user? (t : RoleTables) (id : Uuid) : Option UserRow := t.users.find? (·.id = id)

/-- The role with an identifier. -/
def role? (t : RoleTables) (id : Uuid) : Option RoleRow := t.roles.find? (·.id = id)

/-- The permission with an identifier. -/
def permission? (t : RoleTables) (id : Uuid) : Option PermissionRow :=
  t.permissions.find? (·.id = id)

end RoleTables

/-- `register_user`. -/
def registerUser (id : Uuid) (data : UserData) (hashedPassword : String) : RbacProg :=
  .read fun t =>
  withOk (scalarOneOrNone (t.users.filter fun row =>
    row.username = data.username ∨ some row.email = data.email)) fun existing =>
  if existing.isSome then .throw (.validation "Username or email already exists")
  else
    .commit (.insertUser id data hashedPassword) <|
    refresh (·.user? id) fun row => .ret (.user row)

/-- `authenticate_user`; `checkpw` is `bcrypt.checkpw`. -/
def authenticateUser (checkpw : String → String → Bool) (username password : String) : RbacProg :=
  .read fun t =>
  withOk (scalarOneOrNone (t.users.filter (·.username = username))) fun user =>
  match user with
  | none => .ret (.userOrNone none)
  | some user =>
    if ¬ checkpw password user.hashedPassword then .ret (.userOrNone none)
    else if ¬ user.isActive then .ret (.userOrNone none)
    else .ret (.userOrNone (some user))

/-- `toggle_user_active_state` of `src/auth/router.py`, and `toggle_user_active` of
`src/admin/router.py`. -/
def toggleUserActive (userId : IdArg) : RbacProg :=
  withOk userId.parse fun id =>
  .read fun t =>
    match t.user? id with
    | none => .throw (.notFound "User not found")
    | some user => .commit (.setActive id !user.isActive) (.ret .done)

/-- `delete_user` of `src/admin/router.py`. -/
def deleteUser (userId : IdArg) : RbacProg :=
  withOk userId.parse fun id => .commit (.deleteUser id) (.ret .done)

/-- `create_role`. -/
def createRole (id : Uuid) (data : RoleData) : RbacProg :=
  .read fun t =>
  withOk (scalarOneOrNone (t.roles.filter (·.code = data.code))) fun existing =>
  if existing.isSome then .throw (.validation s!"Role code '{data.code}' already exists")
  else
    .commit (.insertRole id data) <|
    refresh (·.role? id) fun row => .ret (.role row)

/-- The columns of a role that an update changes. -/
def RoleUpdate.against (data : RoleUpdate) (row : RoleRow) : RoleUpdate where
  name := data.name.filter (· ≠ row.name)
  description := data.description.filter (some · ≠ row.description)

/-- `update_role`. -/
def updateRole (roleId : IdArg) (data : RoleUpdate) : RbacProg :=
  withOk roleId.parse fun id =>
  .read fun t =>
    match t.role? id with
    | none => .throw (.notFound s!"Role {roleId.text} not found")
    | some role =>
      .commit (.updateRole id (data.against role)) <|
      refresh (·.role? id) fun row => .ret (.role row)

/-- `delete_role`. -/
def deleteRole (roleId : IdArg) : RbacProg :=
  withOk roleId.parse fun id =>
  .read fun t =>
    match t.role? id with
    | none => .throw (.notFound s!"Role {roleId.text} not found")
    | some role =>
      if role.isSystem then .throw (.validation "Cannot delete system role")
      else .commit (.deleteRole id) (.ret .done)

/-- `create_permission`. -/
def createPermission (id : Uuid) (data : PermissionData) : RbacProg :=
  .read fun t =>
  withOk (scalarOneOrNone (t.permissions.filter (·.code = data.code))) fun existing =>
  if existing.isSome then .throw (.validation s!"Permission code '{data.code}' already exists")
  else
    .commit (.insertPermission id data) <|
    refresh (·.permission? id) fun row => .ret (.permission row)

/-- `assign_role_to_user`. -/
def assignRoleToUser (userId roleId : IdArg) : RbacProg :=
  withOk userId.parse fun uid =>
  .read fun t =>
  if (t.user? uid).isNone then .throw (.notFound s!"User {userId.text} not found")
  else
    withOk roleId.parse fun rid =>
    .read fun t =>
    if (t.role? rid).isNone then .throw (.notFound s!"Role {roleId.text} not found")
    else .read fun t =>
      if (uid, rid) ∈ t.userRoles then .throw (.validation "User already has this role")
      else .commit (.insertUserRole uid rid) (.ret .done)

/-- `remove_role_from_user`. -/
def removeRoleFromUser (userId roleId : IdArg) : RbacProg :=
  withOk userId.parse fun uid => withOk roleId.parse fun rid =>
  .read fun t =>
  if (uid, rid) ∈ t.userRoles then .commit (.deleteUserRole uid rid) (.ret .done)
  else .throw (.notFound "User does not have this role")

/-- `assign_permission_to_role`. -/
def assignPermissionToRole (roleId permissionId : IdArg) : RbacProg :=
  withOk roleId.parse fun rid =>
  .read fun t =>
  if (t.role? rid).isNone then .throw (.notFound s!"Role {roleId.text} not found")
  else
    withOk permissionId.parse fun pid =>
    .read fun t =>
    if (t.permission? pid).isNone then
      .throw (.notFound s!"Permission {permissionId.text} not found")
    else .read fun t =>
      if (rid, pid) ∈ t.rolePermissions then
        .throw (.validation "Role already has this permission")
      else .commit (.insertRolePermission rid pid) (.ret .done)

/-- `remove_permission_from_role`. -/
def removePermissionFromRole (roleId permissionId : IdArg) : RbacProg :=
  withOk roleId.parse fun rid => withOk permissionId.parse fun pid =>
  .read fun t =>
  if (rid, pid) ∈ t.rolePermissions then .commit (.deleteRolePermission rid pid) (.ret .done)
  else .throw (.notFound "Role does not have this permission")

/-- The roles of a user. -/
def RoleTables.rolesOf (t : RoleTables) (userId : Uuid) : List RoleRow :=
  t.roles.filter fun role => (userId, role.id) ∈ t.userRoles

/-- The permissions of a role. -/
def RoleTables.permissionsOf (t : RoleTables) (roleId : Uuid) : List PermissionRow :=
  t.permissions.filter fun permission => (roleId, permission.id) ∈ t.rolePermissions

/-- `_get_user_permissions`: `selectinload` reads the roles in a statement of its own, and then the
permissions of these roles in another. -/
def getUserPermissions (username : String) : RbacProg :=
  .read fun t =>
  withOk (scalarOneOrNone (t.users.filter (·.username = username))) fun user =>
  match user with
  | none => .ret (.codes [])
  | some user => .read fun t' =>
    match t'.rolesOf user.id with
    | [] => .ret (.codes [])
    | roles => .read fun t'' =>
      .ret (.codes (roles.flatMap fun role =>
        (t''.permissionsOf role.id).map PermissionRow.code))

/-! ### The server -/

/-- A request. -/
inductive RbacRequest
  | registerUser (id : Uuid) (data : UserData) (hashedPassword : String)
  | authenticateUser (username password : String)
  | toggleUserActive (userId : IdArg)
  | deleteUser (userId : IdArg)
  | createRole (id : Uuid) (data : RoleData)
  | updateRole (roleId : IdArg) (data : RoleUpdate)
  | deleteRole (roleId : IdArg)
  | createPermission (id : Uuid) (data : PermissionData)
  | assignRoleToUser (userId roleId : IdArg)
  | removeRoleFromUser (userId roleId : IdArg)
  | assignPermissionToRole (roleId permissionId : IdArg)
  | removePermissionFromRole (roleId permissionId : IdArg)
  | getUserPermissions (username : String)
deriving DecidableEq

/-- The handler of a request. -/
def RbacRequest.handler (checkpw : String → String → Bool) : RbacRequest → RbacProg
  | .registerUser id data hashedPassword => Rbac.registerUser id data hashedPassword
  | .authenticateUser username password => Rbac.authenticateUser checkpw username password
  | .toggleUserActive userId => Rbac.toggleUserActive userId
  | .deleteUser userId => Rbac.deleteUser userId
  | .createRole id data => Rbac.createRole id data
  | .updateRole roleId data => Rbac.updateRole roleId data
  | .deleteRole roleId => Rbac.deleteRole roleId
  | .createPermission id data => Rbac.createPermission id data
  | .assignRoleToUser userId roleId => Rbac.assignRoleToUser userId roleId
  | .removeRoleFromUser userId roleId => Rbac.removeRoleFromUser userId roleId
  | .assignPermissionToRole roleId permissionId => Rbac.assignPermissionToRole roleId permissionId
  | .removePermissionFromRole roleId permissionId =>
    Rbac.removePermissionFromRole roleId permissionId
  | .getUserPermissions username => Rbac.getUserPermissions username

/-- A server of users, roles and permissions. -/
abbrev RbacState := Uow.State RoleTables RbacWrite RbacRequest RequestError RbacAnswer

/-- **The requests on users, roles and permissions.**  A user to whom other tables refer is not
deleted: such a request ends as if it were cut off. -/
def rbacSystem (checkpw : String → String → Bool) : Lts RbacState (Uow.Label RbacRequest) :=
  Uow.system RbacWrite.apply (RbacRequest.handler checkpw)

end Rbac

end OmsWmsTms
