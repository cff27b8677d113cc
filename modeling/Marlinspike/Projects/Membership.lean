import Marlinspike.Assignments
import Marlinspike.Emit.SigmaYaml
import Marlinspike.Json
import Marlinspike.Transition

/-!
Projects, who may see and change them, and what is kept with them: members, asset tags and finding
notes. Requests are served one at a time over a database that keeps its foreign keys and hands out
no project id twice.
-/
namespace Marlinspike.Projects.Membership

inductive Role where
  | viewer
  | editor
  | owner
  deriving DecidableEq

/-- `_MEMBER_ROLE_RANK`. -/
def Role.rank : Role → Nat
  | .viewer => 1
  | .editor => 2
  | .owner => 3

def Role.text : Role → String
  | .viewer => "viewer"
  | .editor => "editor"
  | .owner => "owner"

def Role.ofText (text : String) : Option Role := [Role.viewer, .editor, .owner].find? (·.text = text)

/-- A row of `project_members`. -/
structure Member where
  role : Role
  invitedBy : Nat
  createdAt : String

/-- A row of `asset_tags`. -/
structure Tag where
  id : Nat
  owner : Json
  criticality : Json
  zone : Json
  businessFunction : Json
  freeText : Json
  updatedBy : Nat
  createdAt : String
  updatedAt : String

/-- A row of `finding_notes`. -/
structure Note where
  id : Nat
  reportFilename : Json
  status : String
  body : Json
  authorId : Nat
  createdAt : String
  updatedAt : String

/-- A project with the rows that refer to it: its members by user, its tags by asset, its notes by
    signature. -/
structure Project where
  creator : Nat
  name : String
  members : PyDict Nat Member
  tags : PyDict String Tag
  notes : PyDict String Note

structure State where
  projects : PyDict Nat Project
  /-- Every id a project was given so far. -/
  used : List Nat

/-- The table of users. -/
structure Users where
  named : String → Option Nat
  nameOf : Nat → Option String

structure Response where
  status : Nat
  body : Json

/-! ### Reading requests -/

/-- An exception that nothing catches; what was not committed is rolled back. -/
def failed : Response := ⟨500, .null⟩

def refuse (status : Nat) (message : String) : Response := ⟨status, .obj [("error", .str message)]⟩

def notOk (status : Nat) (message : String) : Response :=
  ⟨status, .obj [("ok", .bool false), ("error", .str message)]⟩

/-- `request.get_json(silent=True) or {}`. -/
def bodyOf : Option Json → Except Response (List (String × Json))
  | none => .ok []
  | some (.obj items) => .ok items
  | some value => if value.truthy then .error failed else .ok []

/-- `body.get(key, default)`. -/
def field (body : List (String × Json)) (key : String) (default : Json) : Json := (body.lookup key).getD default

def strip (s : String) : String := String.ofList (Assignments.strip Emit.SigmaYaml.isSpace s.toList)

/-- `value.strip()`. -/
def stripped : Json → Except Response String
  | .str s => .ok (strip s)
  | _ => .error failed

/-- `value in {...}`, of a set of texts. -/
def among (choices : List String) : Json → Except Response Bool
  | .str s => .ok (choices.contains s)
  | .arr _ => .error failed
  | .obj _ => .error failed
  | _ => .ok false

/-- The role of a request, checked against `_VALID_MEMBER_ROLES`. -/
def roleOf (value : Json) : Except Response Role := do
  let _ ← among [] value
  match value.asStr.bind Role.ofText with
  | some role => .ok role
  | none => .error (refuse 400 "role must be one of: ['editor', 'owner', 'viewer']")

/-- `_validate_asset_key`. -/
def validateAssetKey (key : String) : Option String :=
  if key = "" ∨ key.length > 64 then some "asset_key must be 1–64 characters"
  else if key.toList.any fun c => c.toNat ≤ 0x1f || c.toNat = 0x7f then
    some "asset_key must not contain control characters"
  else none

/-! ### Access -/

/-- `_get_project_for_user`. -/
def getProjectForUser (s : State) (pid uid : Nat) (minRole : Role) : Option Project :=
  if uid = 0 then none
  else
    match s.projects.get pid with
    | none => none
    | some proj =>
      if proj.creator = uid then some proj
      else
        match proj.members.get uid with
        | none => none
        | some member => if minRole.rank ≤ member.role.rank then some proj else none

/-- What a route does with a project that the user may use: it may answer without a change, leave
    the project changed or leave none. -/
def onProject (s : State) (pid uid : Nat) (minRole : Role) (missing : Response)
    (handler : Project → Except Response (Option Project × Response)) : State × Response :=
  match getProjectForUser s pid uid minRole with
  | none => (s, missing)
  | some proj =>
    match handler proj with
    | .error response => (s, response)
    | .ok (some changed, response) => ({ s with projects := s.projects.set pid changed }, response)
    | .ok (none, response) => ({ s with projects := s.projects.pop pid }, response)

def notFound : Response := refuse 404 "Project not found"

/-- Another project of the user has the name. -/
def taken (s : State) (uid : Nat) (name : String) (pid : Nat) : Bool :=
  s.projects.items.any fun item => item.2.creator = uid ∧ item.2.name = name ∧ item.1 ≠ pid

/-! ### Projects -/

/-- The name of a project as it was asked for. -/
def projectName (json : Option Json) : Except Response String := do
  let body ← bodyOf json
  let name ← stripped (field body "name" (.str ""))
  if name = "" then .error (notOk 400 "Project name required")
  else if name.length > 200 then .error (notOk 400 "Name too long (max 200 chars)")
  else .ok name

/-- `api_projects_create`, with the id the database gives to the row; none if it has given it before. -/
def apiProjectsCreate (s : State) (uid id : Nat) (json : Option Json) : Option (State × Response) :=
  match projectName json with
  | .error response => some (s, response)
  | .ok name =>
    if s.projects.items.any fun item => item.2.creator = uid ∧ item.2.name = name then
      some (s, notOk 409 "Project name already exists")
    else if id ∈ s.used then none
    else
      some (⟨s.projects.set id ⟨uid, name, .empty, .empty, .empty⟩, id :: s.used⟩,
        ⟨200, .obj [("ok", .bool true), ("id", .int id), ("name", .str name)]⟩)

/-- `api_projects_rename`. The names of the user who asks are looked through, and then the table
    refuses a second project of that name to the creator. -/
def apiProjectsRename (s : State) (uid pid : Nat) (json : Option Json) : State × Response :=
  onProject s pid uid .owner (notOk 404 "Project not found") fun proj =>
    if proj.name = "Default" then .error (notOk 400 "Cannot rename the Default project")
    else do
      let name ← projectName json
      if taken s uid name pid then .error (notOk 409 "Project name already exists")
      else if taken s proj.creator name pid then .error failed
      else .ok (some { proj with name := name }, ⟨200, .obj [("ok", .bool true)]⟩)

/-- `api_projects_delete`. Members go with the project; tags and notes refer to it without a
    cascade, and the database refuses. -/
def apiProjectsDelete (s : State) (uid pid : Nat) (confirm : Option String) : State × Response :=
  if confirm ≠ some "true" then (s, notOk 400 "Add ?confirm=true to delete")
  else
    onProject s pid uid .owner (notOk 404 "Project not found") fun proj =>
      if proj.name = "Default" then .error (notOk 400 "Cannot delete the Default project")
      else if proj.tags.items ≠ [] ∨ proj.notes.items ≠ [] then .error failed
      else .ok (none, ⟨200, .obj [("ok", .bool true)]⟩)

/-! ### Members -/

variable (users : Users)

def usernameOf (uid : Nat) : Json := .str ((users.nameOf uid).getD "unknown")

/-- `api_project_members_list`. -/
def apiProjectMembersList (s : State) (uid pid : Nat) : State × Response :=
  onProject s pid uid .viewer notFound fun proj =>
    let creator : Json := .obj [("user_id", .int proj.creator), ("username", usernameOf users proj.creator),
      ("role", .str "owner"), ("is_creator", .bool true), ("invited_by", .null), ("created_at", .null)]
    let members := proj.members.items.map fun item => Json.obj [("user_id", .int item.1),
      ("username", usernameOf users item.1), ("role", .str item.2.role.text), ("is_creator", .bool false),
      ("invited_by", .int item.2.invitedBy), ("created_at", .str item.2.createdAt)]
    .ok (some proj, ⟨200, .obj [("members", .arr (creator :: members))]⟩)

/-- `api_project_members_add`. -/
def apiProjectMembersAdd (s : State) (uid pid : Nat) (now : String) (json : Option Json) : State × Response :=
  onProject s pid uid .owner notFound fun proj => do
    let body ← bodyOf json
    let username := field body "username" .null
    let username ← stripped (if username.truthy then username else .str "")
    let role ← roleOf (field body "role" (.str "viewer"))
    match users.named username with
    | none => .error (refuse 404 "User not found")
    | some target =>
      if target = proj.creator then .error (refuse 409 "Project creator is already an owner")
      else
        let member : Member :=
          match proj.members.get target with
          | some existing => { existing with role := role }
          | none => ⟨role, uid, now⟩
        .ok (some { proj with members := proj.members.set target member },
          ⟨200, .obj [("ok", .bool true), ("user_id", .int target), ("username", .str username),
            ("role", .str role.text)]⟩)

/-- `api_project_members_update`. -/
def apiProjectMembersUpdate (s : State) (uid pid target : Nat) (json : Option Json) : State × Response :=
  onProject s pid uid .owner notFound fun proj =>
    if target = proj.creator then .error (refuse 400 "Cannot change the project creator's role")
    else do
      let body ← bodyOf json
      let role ← roleOf (field body "role" .null)
      match proj.members.get target with
      | none => .error (refuse 404 "Member not found")
      | some member =>
        .ok (some { proj with members := proj.members.set target { member with role := role } },
          ⟨200, .obj [("ok", .bool true)]⟩)

/-- `api_project_members_remove`. -/
def apiProjectMembersRemove (s : State) (uid pid target : Nat) : State × Response :=
  onProject s pid uid .owner notFound fun proj =>
    if target = proj.creator then .error (refuse 400 "Cannot remove the project creator")
    else .ok (some { proj with members := proj.members.pop target }, ⟨200, .obj [("ok", .bool true)]⟩)

/-! ### Asset tags -/

/-- `_asset_tag_dict`. -/
def assetTagDict (pid : Nat) (key : String) (tag : Tag) : Json :=
  .obj [("id", .int tag.id), ("project_id", .int pid), ("asset_key", .str key), ("owner", tag.owner),
    ("criticality", tag.criticality), ("zone", tag.zone), ("business_function", tag.businessFunction),
    ("free_text", tag.freeText), ("updated_by", .int tag.updatedBy), ("created_at", .str tag.createdAt),
    ("updated_at", .str tag.updatedAt)]

def validCriticalities : List String := ["low", "medium", "high", "critical"]

/-- `api_asset_tags_list`. -/
def apiAssetTagsList (s : State) (uid pid : Nat) : State × Response :=
  onProject s pid uid .viewer notFound fun proj =>
    let tags := proj.tags.items.mergeSort fun a b => decide (a.1 ≤ b.1)
    .ok (some proj, ⟨200, .obj [("asset_tags", .arr (tags.map fun item => assetTagDict pid item.1 item.2))]⟩)

/-- `api_asset_tags_upsert`, with the id the database gives to a new row. -/
def apiAssetTagsUpsert (s : State) (uid pid : Nat) (key : String) (now : String) (id : Nat) (json : Option Json) :
    State × Response :=
  onProject s pid uid .editor notFound fun proj =>
    match validateAssetKey key with
    | some error => .error (refuse 400 error)
    | none => do
      let body ← bodyOf json
      let criticality := field body "criticality" .null
      let valid ← among validCriticalities criticality
      match criticality, valid with
      | .null, _ => upsert proj body .null
      | _, true => upsert proj body criticality
      | _, false =>
        .error (refuse 400 "criticality must be one of ['critical', 'high', 'low', 'medium']")
where
  upsert (proj : Project) (body : List (String × Json)) (criticality : Json) :
      Except Response (Option Project × Response) :=
    let tag := (proj.tags.get key).getD ⟨id, .null, .null, .null, .null, .null, uid, now, now⟩
    let tag : Tag := { tag with
      owner := field body "owner" tag.owner
      criticality := match criticality with | .null => tag.criticality | given => given
      zone := field body "zone" tag.zone
      businessFunction := field body "business_function" tag.businessFunction
      freeText := field body "free_text" tag.freeText
      updatedBy := uid
      updatedAt := now }
    .ok (some { proj with tags := proj.tags.set key tag }, ⟨200, assetTagDict pid key tag⟩)

/-- `api_asset_tags_delete`. -/
def apiAssetTagsDelete (s : State) (uid pid : Nat) (key : String) : State × Response :=
  onProject s pid uid .editor notFound fun proj =>
    .ok (some { proj with tags := proj.tags.pop key }, ⟨204, .str ""⟩)

/-! ### Finding notes -/

/-- `_finding_note_dict`. -/
def findingNoteDict (pid : Nat) (signature : String) (note : Note) : Json :=
  .obj [("id", .int note.id), ("project_id", .int pid), ("report_filename", note.reportFilename),
    ("finding_signature", .str signature), ("status", .str note.status), ("body", note.body),
    ("author_id", .int note.authorId), ("created_at", .str note.createdAt), ("updated_at", .str note.updatedAt)]

def validNoteStatuses : List String := ["open", "resolved", "accepted", "false_positive"]

/-- `api_notes_upsert`, with the id the database gives to a new row, whose report may not be null. -/
def apiNotesUpsert (s : State) (uid pid : Nat) (signature : String) (now : String) (id : Nat) (json : Option Json) :
    State × Response :=
  onProject s pid uid .editor notFound fun proj =>
    match validateAssetKey signature with
    | some error => .error (refuse 400 ("finding_signature invalid: " ++ error))
    | none => do
      let body ← bodyOf json
      let status := field body "status" (.str "open")
      let valid ← among validNoteStatuses status
      match status, valid with
      | .str text, true =>
        let report := field body "report_filename" (.str "")
        let note := (proj.notes.get signature).getD ⟨id, report, text, .null, uid, now, now⟩
        let note : Note := { note with
          reportFilename := if report.truthy then report else note.reportFilename
          status := text
          body := field body "body" note.body
          authorId := uid
          updatedAt := now }
        match note.reportFilename with
        | .null => .error failed
        | _ =>
          .ok (some { proj with notes := proj.notes.set signature note }, ⟨200, findingNoteDict pid signature note⟩)
      | _, _ =>
        .error (refuse 400 "status must be one of ['accepted', 'false_positive', 'open', 'resolved']")

/-- `api_notes_delete`. -/
def apiNotesDelete (s : State) (uid pid : Nat) (signature : String) : State × Response :=
  onProject s pid uid .editor notFound fun proj =>
    .ok (some { proj with notes := proj.notes.pop signature }, ⟨204, .str ""⟩)

/-! ### Requests -/

inductive Call where
  | create (id : Nat) (json : Option Json)
  | rename (pid : Nat) (json : Option Json)
  | delete (pid : Nat) (confirm : Option String)
  | listMembers (pid : Nat)
  | addMember (pid : Nat) (json : Option Json)
  | updateMember (pid target : Nat) (json : Option Json)
  | removeMember (pid target : Nat)
  | listTags (pid : Nat)
  | putTag (pid : Nat) (key : String) (id : Nat) (json : Option Json)
  | deleteTag (pid : Nat) (key : String)
  | putNote (pid : Nat) (signature : String) (id : Nat) (json : Option Json)
  | deleteNote (pid : Nat) (signature : String)

/-- A request of a logged-in user. -/
structure Request where
  actor : Nat
  now : String
  call : Call

def serve (s : State) (r : Request) : Option (State × Response) :=
  match r.call with
  | .create id json => apiProjectsCreate s r.actor id json
  | .rename pid json => some (apiProjectsRename s r.actor pid json)
  | .delete pid confirm => some (apiProjectsDelete s r.actor pid confirm)
  | .listMembers pid => some (apiProjectMembersList users s r.actor pid)
  | .addMember pid json => some (apiProjectMembersAdd users s r.actor pid r.now json)
  | .updateMember pid target json => some (apiProjectMembersUpdate s r.actor pid target json)
  | .removeMember pid target => some (apiProjectMembersRemove s r.actor pid target)
  | .listTags pid => some (apiAssetTagsList s r.actor pid)
  | .putTag pid key id json => some (apiAssetTagsUpsert s r.actor pid key r.now id json)
  | .deleteTag pid key => some (apiAssetTagsDelete s r.actor pid key)
  | .putNote pid signature id json => some (apiNotesUpsert s r.actor pid signature r.now id json)
  | .deleteNote pid signature => some (apiNotesDelete s r.actor pid signature)

end Marlinspike.Projects.Membership
