import Marlinspike.Noninterference
import Marlinspike.Projects.Membership

/-!
Projects are closed to strangers. A request changes a project only if its user has the role for it,
and over whole runs a user whom nobody invites neither changes nor notices the projects of others:
without all requests of such a user the others' projects are the same, and so are the answers about
them.
-/
namespace Marlinspike.Projects.Isolation
open Marlinspike.Projects.Membership

variable {users : Users} {s t : State} {r : Request} {x : Response} {pid uid : Nat} {proj : Project}

/-! ### Access -/

/-- The rank of a user in a project, nought without access. -/
def rankIn (proj : Project) (uid : Nat) : Nat :=
  if proj.creator = uid then Role.owner.rank else (proj.members.get uid).elim 0 (·.role.rank)

def access (s : State) (pid uid : Nat) : Nat := (s.projects.get pid).elim 0 (rankIn · uid)

theorem rank_le (role : Role) : role.rank ≤ Role.owner.rank := by cases role <;> decide

theorem rank_pos (role : Role) : 0 < role.rank := by cases role <;> decide

theorem getProjectForUser_iff {minRole : Role} : getProjectForUser s pid uid minRole = some proj ↔
    uid ≠ 0 ∧ s.projects.get pid = some proj ∧ minRole.rank ≤ access s pid uid := by
  unfold getProjectForUser access
  by_cases user : uid = 0
  · simp [user]
  rw [if_neg user]
  cases found : s.projects.get pid with
  | none => simp
  | some other =>
    dsimp only [Option.elim, rankIn]
    by_cases creator : other.creator = uid
    · simp [creator, user, rank_le]
    rw [if_neg creator, if_neg creator]
    cases row : other.members.get uid with
    | none =>
      have := rank_pos minRole
      simp
      omega
    | some member =>
      by_cases enough : minRole.rank ≤ member.role.rank
      · simp [enough, user]
      · simp [enough]

/-- Everything that a route does with a project. -/
theorem onProject_cases {minRole : Role} {missing : Response}
    {handler : Project → Except Response (Option Project × Response)}
    (served : onProject s pid uid minRole missing handler = (t, x)) :
    t = s ∨ ∃ proj next, s.projects.get pid = some proj ∧ minRole.rank ≤ access s pid uid ∧
      handler proj = .ok (next, x) ∧ t.used = s.used ∧
      ∀ q, t.projects.get q = if pid = q then next else s.projects.get q := by
  unfold onProject at served
  split at served
  next => exact Or.inl (Prod.mk.inj served).1.symm
  next proj found =>
    obtain ⟨-, found, enough⟩ := getProjectForUser_iff.mp found
    split at served
    next => exact Or.inl (Prod.mk.inj served).1.symm
    next changed response handled =>
      obtain ⟨rfl, rfl⟩ := Prod.mk.inj served
      exact Or.inr ⟨proj, some changed, found, enough, handled, rfl, fun q => PyDict.get_set _ _ _ _⟩
    next response handled =>
      obtain ⟨rfl, rfl⟩ := Prod.mk.inj served
      exact Or.inr ⟨proj, none, found, enough, handled, rfl, fun q => PyDict.get_pop _ _ _⟩

/-! ### One request -/

theorem bind_eq_ok {α β : Type} {m : Except Response α} {k : α → Except Response β} {b : β} :
    m >>= k = .ok b ↔ ∃ a, m = .ok a ∧ k a = .ok b := by
  cases m with
  | error response =>
    constructor
    · intro eq
      cases eq
    · rintro ⟨_, eq, _⟩
      cases eq
  | ok a =>
    constructor
    · exact fun eq => ⟨a, rfl, eq⟩
    · rintro ⟨_, eq, rest⟩
      cases eq
      exact rest

/-- The project that a request is about; a new project is none yet. -/
def target : Call → Option Nat
  | .create _ _ => none
  | .rename pid _ | .delete pid _ | .listMembers pid | .addMember pid _ | .updateMember pid _ _
  | .removeMember pid _ | .listTags pid | .putTag pid _ _ _ | .deleteTag pid _ | .putNote pid _ _ _
  | .deleteNote pid _ => some pid

/-- What the check constraints of the routes admit. -/
structure Proper (proj : Project) : Prop where
  creator : proj.members.get proj.creator = none
  tags : ∀ key tag, proj.tags.get key = some tag → tag.criticality = .null ∨
    ∃ text ∈ validCriticalities, tag.criticality = .str text
  notes : ∀ signature note, proj.notes.get signature = some note → note.status ∈ validNoteStatuses

/-- What a request can make of a project, and who may ask for it. -/
inductive Change (s : State) (r : Request) (pid : Nat) (proj : Project) (next : Option Project) : Prop where
  | same (next_ : next = some proj)
  | renamed (name : String) (owns : Role.owner.rank ≤ access s pid r.actor)
    (free : taken s proj.creator name pid = false) (next_ : next = some { proj with name := name })
  | deleted (owns : Role.owner.rank ≤ access s pid r.actor) (next_ : next = none)
  | member (target : Nat) (member : Member) (owns : Role.owner.rank ≤ access s pid r.actor)
    (apart : target ≠ proj.creator)
    (call : (∃ json, r.call = .addMember pid json) ∨ ∃ json, r.call = .updateMember pid target json)
    (next_ : next = some { proj with members := proj.members.set target member })
  | removed (target : Nat) (owns : Role.owner.rank ≤ access s pid r.actor)
    (next_ : next = some { proj with members := proj.members.pop target })
  | tags (tags : PyDict String Tag) (edits : Role.editor.rank ≤ access s pid r.actor)
    (proper : Proper proj → Proper { proj with tags := tags }) (next_ : next = some { proj with tags := tags })
  | notes (notes : PyDict String Note) (edits : Role.editor.rank ≤ access s pid r.actor)
    (proper : Proper proj → Proper { proj with notes := notes }) (next_ : next = some { proj with notes := notes })

/-- Everything that a request can do. -/
inductive Step (s : State) (r : Request) (t : State) : Prop where
  | refused (same : t = s)
  | created (id : Nat) (json : Option Json) (name : String) (call : r.call = .create id json) (fresh : id ∉ s.used)
    (free : ∀ item ∈ s.projects.items, ¬(item.2.creator = r.actor ∧ item.2.name = name))
    (next : t = ⟨s.projects.set id ⟨r.actor, name, .empty, .empty, .empty⟩, id :: s.used⟩)
  | changed (pid : Nat) (proj : Project) (next : Option Project) (about : target r.call = some pid)
    (found : s.projects.get pid = some proj) (ids : t.used = s.used)
    (gets : ∀ q, t.projects.get q = if pid = q then next else s.projects.get q) (change : Change s r pid proj next)

theorem step_of_onProject {minRole : Role} {missing : Response}
    {handler : Project → Except Response (Option Project × Response)} (about : target r.call = some pid)
    (served : onProject s pid r.actor minRole missing handler = (t, x))
    (changes : ∀ proj next, minRole.rank ≤ access s pid r.actor → handler proj = .ok (next, x) →
      Change s r pid proj next) : Step s r t := by
  obtain same | ⟨proj, next, found, enough, handled, ids, gets⟩ := onProject_cases served
  · exact .refused same
  · exact .changed pid proj next about found ids gets (changes proj next enough handled)

theorem step_of_create {id : Nat} {json : Option Json} (call : r.call = .create id json)
    (served : apiProjectsCreate s r.actor id json = some (t, x)) : Step s r t := by
  unfold apiProjectsCreate at served
  split at served
  next => exact .refused (Prod.mk.inj (Option.some.inj served)).1.symm
  next name _ =>
    split at served
    next => exact .refused (Prod.mk.inj (Option.some.inj served)).1.symm
    next free =>
      split at served
      next => cases served
      next fresh =>
        refine .created id json name call fresh (fun item listed same => free ?_)
          (Prod.mk.inj (Option.some.inj served)).1.symm
        exact List.any_eq_true.mpr ⟨item, listed, decide_eq_true same⟩

theorem step_of_rename {json : Option Json} (about : target r.call = some pid)
    (served : apiProjectsRename s r.actor pid json = (t, x)) : Step s r t := by
  refine step_of_onProject about served fun proj next owns handled => ?_
  split at handled
  next => cases handled
  next =>
    obtain ⟨name, -, handled⟩ := bind_eq_ok.mp handled
    split at handled
    next => cases handled
    next =>
      split at handled
      next => cases handled
      next free =>
        cases handled
        exact .renamed name owns (Bool.eq_false_iff.mpr free) rfl

theorem step_of_delete {confirm : Option String} (about : target r.call = some pid)
    (served : apiProjectsDelete s r.actor pid confirm = (t, x)) : Step s r t := by
  unfold apiProjectsDelete at served
  split at served
  next => exact .refused (Prod.mk.inj served).1.symm
  next =>
    refine step_of_onProject about served fun proj next owns handled => ?_
    split at handled
    next => cases handled
    next =>
      split at handled
      next => cases handled
      next =>
        cases handled
        exact .deleted owns rfl

theorem step_of_addMember {json : Option Json} (call : r.call = .addMember pid json)
    (served : apiProjectMembersAdd users s r.actor pid r.now json = (t, x)) : Step s r t := by
  refine step_of_onProject (by rw [call]; rfl) served fun proj next owns handled => ?_
  obtain ⟨body, -, handled⟩ := bind_eq_ok.mp handled
  obtain ⟨username, -, handled⟩ := bind_eq_ok.mp handled
  obtain ⟨role, -, handled⟩ := bind_eq_ok.mp handled
  split at handled
  next => cases handled
  next target _ =>
    split at handled
    next => cases handled
    next apart =>
      cases handled
      exact .member target _ owns apart (Or.inl ⟨json, call⟩) rfl

theorem step_of_updateMember {target : Nat} {json : Option Json} (call : r.call = .updateMember pid target json)
    (served : apiProjectMembersUpdate s r.actor pid target json = (t, x)) : Step s r t := by
  refine step_of_onProject (by rw [call]; rfl) served fun proj next owns handled => ?_
  split at handled
  next => cases handled
  next apart =>
    obtain ⟨body, -, handled⟩ := bind_eq_ok.mp handled
    obtain ⟨role, -, handled⟩ := bind_eq_ok.mp handled
    split at handled
    next => cases handled
    next member _ =>
      cases handled
      exact .member target _ owns apart (Or.inr ⟨json, call⟩) rfl

theorem step_of_removeMember {user : Nat} (about : target r.call = some pid)
    (served : apiProjectMembersRemove s r.actor pid user = (t, x)) : Step s r t := by
  refine step_of_onProject about served fun proj next owns handled => ?_
  split at handled
  next => cases handled
  next =>
    cases handled
    exact .removed user owns rfl

theorem step_of_read {missing : Response} {answer : Project → Response} (about : target r.call = some pid)
    (served : onProject s pid r.actor .viewer missing (fun proj => .ok (some proj, answer proj)) = (t, x)) :
    Step s r t := by
  refine step_of_onProject about served fun proj next _ handled => ?_
  cases handled
  exact .same rfl

theorem proper_tags {tags : PyDict String Tag} (proper : Proper proj)
    (known : ∀ key tag, tags.get key = some tag → proj.tags.get key = some tag ∨ tag.criticality = .null ∨
      ∃ text ∈ validCriticalities, tag.criticality = .str text) : Proper { proj with tags := tags } := by
  refine ⟨proper.creator, fun key tag found => ?_, proper.notes⟩
  obtain old | new := known key tag found
  · exact proper.tags key tag old
  · exact new

theorem proper_notes {notes : PyDict String Note} (proper : Proper proj)
    (known : ∀ signature note, notes.get signature = some note → proj.notes.get signature = some note ∨
      note.status ∈ validNoteStatuses) : Proper { proj with notes := notes } := by
  refine ⟨proper.creator, proper.tags, fun signature note found => ?_⟩
  obtain old | new := known signature note found
  · exact proper.notes signature note old
  · exact new

/-- A tag is put with the criticality it had or with one of the valid ones. -/
theorem change_of_upsert {key : String} {id : Nat} {body : List (String × Json)} {criticality : Json}
    {next : Option Project} (edits : Role.editor.rank ≤ access s pid r.actor)
    (valid : criticality = .null ∨ ∃ text ∈ validCriticalities, criticality = .str text)
    (handled : apiAssetTagsUpsert.upsert r.actor pid key r.now id proj body criticality = .ok (next, x)) :
    Change s r pid proj next := by
  cases handled
  refine .tags _ edits (fun proper => proper_tags proper fun other tag found => ?_) rfl
  rw [PyDict.get_set] at found
  split at found
  next same =>
    subst same
    obtain rfl := Option.some.inj found
    dsimp only
    obtain rfl | ⟨text, listed, rfl⟩ := valid
    · cases old : proj.tags.get key with
      | none => exact Or.inr (Or.inl rfl)
      | some tag => exact Or.inr (proper.tags key tag old)
    · exact Or.inr (Or.inr ⟨text, listed, rfl⟩)
  next => exact Or.inl found

theorem among_eq_true {choices : List String} {value : Json} (valid : among choices value = .ok true) :
    ∃ text ∈ choices, value = .str text := by
  unfold among at valid
  split at valid
  next text => exact ⟨text, List.contains_iff_mem.mp (Except.ok.inj valid), rfl⟩
  all_goals cases valid

theorem step_of_putTag {key : String} {id : Nat} {json : Option Json} (about : target r.call = some pid)
    (served : apiAssetTagsUpsert s r.actor pid key r.now id json = (t, x)) : Step s r t := by
  refine step_of_onProject about served fun proj next edits handled => ?_
  split at handled
  next => cases handled
  next =>
    obtain ⟨body, -, handled⟩ := bind_eq_ok.mp handled
    obtain ⟨valid, checked, handled⟩ := bind_eq_ok.mp handled
    split at handled
    next => exact change_of_upsert edits (Or.inl rfl) handled
    next => exact change_of_upsert edits (Or.inr (among_eq_true checked)) handled
    next => cases handled

theorem step_of_deleteTag {key : String} (about : target r.call = some pid)
    (served : apiAssetTagsDelete s r.actor pid key = (t, x)) : Step s r t := by
  refine step_of_onProject about served fun proj next edits handled => ?_
  cases handled
  refine .tags _ edits (fun proper => proper_tags proper fun other tag found => ?_) rfl
  rw [PyDict.get_pop] at found
  split at found
  next => cases found
  next => exact Or.inl found

theorem step_of_putNote {signature : String} {id : Nat} {json : Option Json} (about : target r.call = some pid)
    (served : apiNotesUpsert s r.actor pid signature r.now id json = (t, x)) : Step s r t := by
  refine step_of_onProject about served fun proj next edits handled => ?_
  split at handled
  next => cases handled
  next =>
    obtain ⟨body, -, handled⟩ := bind_eq_ok.mp handled
    obtain ⟨valid, checked, handled⟩ := bind_eq_ok.mp handled
    split at handled
    next text given =>
      dsimp only at handled
      split at handled
      next => cases handled
      next =>
        cases handled
        refine .notes _ edits (fun proper => proper_notes proper fun other note found => ?_) rfl
        rw [PyDict.get_set] at found
        split at found
        next same =>
          obtain rfl := Option.some.inj found
          obtain ⟨status, listed, equal⟩ := among_eq_true checked
          exact Or.inr (Json.str.inj (given.symm.trans equal) ▸ listed)
        next => exact Or.inl found
    next => cases handled

theorem step_of_deleteNote {signature : String} (about : target r.call = some pid)
    (served : apiNotesDelete s r.actor pid signature = (t, x)) : Step s r t := by
  refine step_of_onProject about served fun proj next edits handled => ?_
  cases handled
  refine .notes _ edits (fun proper => proper_notes proper fun other note found => ?_) rfl
  rw [PyDict.get_pop] at found
  split at found
  next => cases found
  next => exact Or.inl found

theorem serve_step (served : serve users s r = some (t, x)) : Step s r t := by
  unfold serve at served
  cases call : r.call with
  | create id json => exact step_of_create call (by rw [call] at served; exact served)
  | rename pid json =>
    rw [call] at served
    exact step_of_rename (by rw [call]; rfl) (Option.some.inj served)
  | delete pid confirm =>
    rw [call] at served
    exact step_of_delete (by rw [call]; rfl) (Option.some.inj served)
  | listMembers pid =>
    rw [call] at served
    exact step_of_read (by rw [call]; rfl) (Option.some.inj served)
  | addMember pid json =>
    rw [call] at served
    exact step_of_addMember call (Option.some.inj served)
  | updateMember pid target json =>
    rw [call] at served
    exact step_of_updateMember call (Option.some.inj served)
  | removeMember pid target =>
    rw [call] at served
    exact step_of_removeMember (by rw [call]; rfl) (Option.some.inj served)
  | listTags pid =>
    rw [call] at served
    exact step_of_read (by rw [call]; rfl) (Option.some.inj served)
  | putTag pid key id json =>
    rw [call] at served
    exact step_of_putTag (by rw [call]; rfl) (Option.some.inj served)
  | deleteTag pid key =>
    rw [call] at served
    exact step_of_deleteTag (by rw [call]; rfl) (Option.some.inj served)
  | putNote pid signature id json =>
    rw [call] at served
    exact step_of_putNote (by rw [call]; rfl) (Option.some.inj served)
  | deleteNote pid signature =>
    rw [call] at served
    exact step_of_deleteNote (by rw [call]; rfl) (Option.some.inj served)

theorem change_creator {next : Option Project} {changed : Project} (change : Change s r pid proj next)
    (next_ : next = some changed) : changed.creator = proj.creator := by
  subst next_
  cases change with
  | deleted _ next_ => cases next_
  | same next_ | renamed _ _ _ next_ | member _ _ _ _ _ next_ | removed _ _ next_ | tags _ _ _ next_
  | notes _ _ _ next_ =>
    cases next_
    rfl

/-- Whoever changes anything of a project has at least the role of an editor in it. -/
theorem change_authorized {next : Option Project} (change : Change s r pid proj next) :
    next = some proj ∨ Role.editor.rank ≤ access s pid r.actor := by
  cases change with
  | same next_ => exact Or.inl next_
  | renamed _ owns _ _ | deleted owns _ | member _ _ owns _ _ _ | removed _ owns _ =>
    exact Or.inr ((rank_le .editor).trans owns)
  | tags _ edits _ _ | notes _ edits _ _ => exact Or.inr edits

/-! ### What every run keeps -/

/-- What the database holds: ids that were given, proper rows, and no name twice for a user. -/
structure Sound (s : State) : Prop where
  ids : ∀ pid proj, s.projects.get pid = some proj → pid ∈ s.used
  proper : ∀ pid proj, s.projects.get pid = some proj → Proper proj
  names : ∀ p q P Q, s.projects.get p = some P → s.projects.get q = some Q → P.creator = Q.creator →
    P.name = Q.name → p = q

theorem change_proper {next : Option Project} {changed : Project} (change : Change s r pid proj next)
    (proper : Proper proj) (next_ : next = some changed) : Proper changed := by
  subst next_
  cases change with
  | deleted _ next_ => cases next_
  | same next_ =>
    cases next_
    exact proper
  | renamed _ _ _ next_ =>
    cases next_
    exact ⟨proper.creator, proper.tags, proper.notes⟩
  | member target member _ apart _ next_ =>
    cases next_
    refine ⟨?_, proper.tags, proper.notes⟩
    rw [PyDict.get_set, if_neg apart]
    exact proper.creator
  | removed target _ next_ =>
    cases next_
    refine ⟨?_, proper.tags, proper.notes⟩
    rw [PyDict.get_pop]
    split
    next => rfl
    next => exact proper.creator
  | tags tags _ kept next_ =>
    cases next_
    exact kept proper
  | notes notes _ kept next_ =>
    cases next_
    exact kept proper

theorem taken_iff {name : String} : taken s uid name pid = true ↔
    ∃ q proj, s.projects.get q = some proj ∧ proj.creator = uid ∧ proj.name = name ∧ q ≠ pid := by
  unfold taken
  rw [List.any_eq_true]
  constructor
  · rintro ⟨⟨q, proj⟩, listed, same⟩
    exact ⟨q, proj, PyDict.mem_items_iff.mp listed, of_decide_eq_true same⟩
  · rintro ⟨q, proj, found, same⟩
    exact ⟨(q, proj), PyDict.mem_items_iff.mpr found, decide_eq_true same⟩

/-- The names stay apart: a project is only renamed to a free name. -/
theorem change_names {next : Option Project} {changed : Project} (sound : Sound s)
    (found : s.projects.get pid = some proj) (change : Change s r pid proj next) (next_ : next = some changed) {q : Nat}
    {Q : Project} (other : s.projects.get q = some Q) (apart : q ≠ pid) (creator : changed.creator = Q.creator)
    (name : changed.name = Q.name) : False := by
  have creator_ := change_creator change next_
  subst next_
  cases change with
  | deleted _ next_ => cases next_
  | renamed new owns free next_ =>
    cases next_
    have used := taken_iff.mpr ⟨q, Q, other, creator.symm, name.symm, apart⟩
    exact Bool.false_ne_true (free.symm.trans used)
  | same next_ | member _ _ _ _ _ next_ | removed _ _ next_ | tags _ _ _ next_ | notes _ _ _ next_ =>
    cases next_
    exact apart (sound.names pid q _ Q found other creator name).symm

theorem sound_step (sound : Sound s) (step : Step s r t) : Sound t := by
  cases step with
  | refused same => exact same ▸ sound
  | created id json name call fresh free next =>
    subst next
    have gets (q : Nat) := PyDict.get_set s.projects id q ⟨r.actor, name, .empty, .empty, .empty⟩
    have absent (q : Nat) (Q : Project) (other : s.projects.get q = some Q) (creator : Q.creator = r.actor)
        (name_ : Q.name = name) : False :=
      free (q, Q) (PyDict.mem_items_iff.mpr other) ⟨creator, name_⟩
    refine ⟨fun q Q found => ?_, fun q Q found => ?_, fun p q P Q foundP foundQ creator name_ => ?_⟩
    · rw [gets] at found
      split at found
      next same => exact same ▸ List.mem_cons_self
      next => exact List.mem_cons_of_mem _ (sound.ids q Q found)
    · rw [gets] at found
      split at found
      next =>
        cases found
        exact ⟨rfl, fun _ _ found => (by cases found), fun _ _ found => (by cases found)⟩
      next => exact sound.proper q Q found
    · rw [gets] at foundP foundQ
      split at foundP
      next first =>
        split at foundQ
        next second => exact first.symm.trans second
        next =>
          cases foundP
          exact (absent q Q foundQ creator.symm name_.symm).elim
      next =>
        split at foundQ
        next =>
          cases foundQ
          exact (absent p P foundP creator name_).elim
        next => exact sound.names p q P Q foundP foundQ creator name_
  | changed pid proj next about found ids gets change =>
    refine ⟨fun q Q found' => ?_, fun q Q found' => ?_, fun p q P Q foundP foundQ creator name => ?_⟩
    · rw [ids]
      rw [gets] at found'
      split at found'
      next same => exact same ▸ sound.ids pid proj found
      next => exact sound.ids q Q found'
    · rw [gets] at found'
      split at found'
      next => exact change_proper change (sound.proper pid proj found) found'
      next => exact sound.proper q Q found'
    · rw [gets] at foundP foundQ
      split at foundP
      next first =>
        split at foundQ
        next second => exact first.symm.trans second
        next second =>
          exact (change_names sound found change foundP foundQ (Ne.symm second) creator name).elim
      next first =>
        split at foundQ
        next => exact (change_names sound found change foundQ foundP (Ne.symm first) creator.symm name.symm).elim
        next => exact sound.names p q P Q foundP foundQ creator name

theorem sound_init : Sound ⟨.empty, []⟩ := by
  have nothing (q : Nat) (proj : Project) (found : (PyDict.empty : PyDict Nat Project).get q = some proj) : False := by
    cases found
  exact ⟨fun q proj found => (nothing q proj found).elim, fun q proj found => (nothing q proj found).elim,
    fun p _ P _ found => (nothing p P found).elim⟩

open Noninterference (stepOf heard)

/-- In every state of a run no user has two projects of a name, no creator has a row among the
    members, and what tags and notes say is among the valid choices. -/
theorem always_sound (users : Users) (requests : List Request) :
    Transition.Always (stepOf (serve users)) Sound ⟨.empty, []⟩ requests := by
  have met : Transition.Meets (stepOf (serve users)) (fun _ _ => True) ⟨.empty, []⟩ requests :=
    Transition.meets_of_labels (fun _ _ _ => trivial) _
  refine Transition.always_of_meets Sound (fun s r t sound _ stepped => ?_) (fun _ sound => sound) sound_init met
  obtain ⟨x, served⟩ := Noninterference.stepOf_eq_some.mp stepped
  exact sound_step sound (serve_step served)

/-! ### Strangers -/

/-- A project of somebody else. -/
def foreign (u : Nat) (s : State) (pid : Nat) : Option Project := (s.projects.get pid).filter (·.creator ≠ u)

/-- Nobody has made the user a member of a project. -/
def Stranger (u : Nat) (s : State) : Prop :=
  ∀ pid proj, s.projects.get pid = some proj → proj.creator ≠ u → proj.members.get u = none

variable {u : Nat}

theorem foreign_eq_some : foreign u s pid = some proj ↔ s.projects.get pid = some proj ∧ proj.creator ≠ u := by
  rw [foreign, Option.filter_eq_some_iff, decide_eq_true_iff]

theorem foreign_eq_none : foreign u s pid = none ↔ ∀ proj, s.projects.get pid = some proj → proj.creator = u := by
  rw [foreign, Option.filter_eq_none_iff]
  simp

/-- A stranger has access to no project of others. -/
theorem access_stranger (stranger : Stranger u s) (found : s.projects.get pid = some proj)
    (other : proj.creator ≠ u) : access s pid u = 0 := by
  have row := stranger pid proj found other
  rw [access, found, Option.elim_some, rankIn, if_neg other, row]
  rfl

/-- A request about no project of others changes none. -/
theorem foreign_changed {next : Option Project}
    (gets : ∀ q, t.projects.get q = if pid = q then next else s.projects.get q) (found : s.projects.get pid = some proj)
    (own : proj.creator = u) (change : Change s r pid proj next) (q : Nat) :
    foreign u t q = foreign u s q := by
  unfold foreign
  rw [gets]
  split
  next same =>
    subst same
    have none_ : (s.projects.get pid).filter (·.creator ≠ u) = none := by simp [found, own]
    rw [none_]
    cases next with
    | none => rfl
    | some changed => simp [change_creator change rfl, own]
  next => rfl

/-- A stranger's request changes no project of others. -/
theorem foreign_hidden (stranger : Stranger u s) (sound : Sound s) (step : Step s r t) (actor : r.actor = u) (q : Nat) :
    foreign u t q = foreign u s q := by
  cases step with
  | refused same => rw [same]
  | created id json name call fresh free next =>
    subst next
    unfold foreign
    rw [PyDict.get_set]
    split
    next same =>
      subst same
      have absent : s.projects.get id = none := by
        by_contra present
        obtain ⟨proj, found⟩ := Option.ne_none_iff_exists'.mp present
        exact fresh (sound.ids id proj found)
      rw [absent]
      simp [actor]
    next => rfl
  | changed pid proj next about found ids gets change =>
    by_cases own : proj.creator = u
    · exact foreign_changed gets found own change q
    · have nought := access_stranger stranger found own
      obtain same | edits := change_authorized change
      · unfold foreign
        rw [gets]
        split
        next at_ => rw [same, ← at_, found]
        next => rfl
      · rw [actor, nought] at edits
        exact absurd edits (by decide)

/-- The states of a run with and without the requests of a user, of whom nothing is in `others`. -/
structure Agrees (u : Nat) (others : Nat → Bool) (s s' : State) : Prop where
  sound : Sound s
  sound' : Sound s'
  same : ∀ q, foreign u s q = foreign u s' q
  ids : ∀ q ∈ s'.used, q ∈ s.used
  apart : ∀ q, others q = true → ∀ proj, s.projects.get q = some proj → proj.creator ≠ u
  apart' : ∀ q, others q = true → ∀ proj, s'.projects.get q = some proj → proj.creator ≠ u

variable {others : Nat → Bool} {s' : State}

/-- No new project of the user is among the others. -/
def Elsewhere (u : Nat) (others : Nat → Bool) (r : Request) : Prop :=
  r.actor = u → ∀ id json, r.call = .create id json → others id = false

theorem used_mono (step : Step s r t) {q : Nat} (old : q ∈ s.used) : q ∈ t.used := by
  cases step with
  | refused same => exact same ▸ old
  | created id _ _ _ _ _ next => exact next ▸ List.mem_cons_of_mem _ old
  | changed pid proj next about found ids gets change => exact ids ▸ old

/-- What is not the user's does not become so. -/
theorem apart_step (elsewhere : Elsewhere u others r) (step : Step s r t)
    (apart : ∀ q, others q = true → ∀ proj, s.projects.get q = some proj → proj.creator ≠ u) :
    ∀ q, others q = true → ∀ proj, t.projects.get q = some proj → proj.creator ≠ u := by
  intro q among proj found
  cases step with
  | refused same => exact apart q among proj (same ▸ found)
  | created id json name call fresh free next =>
    subst next
    rw [PyDict.get_set] at found
    split at found
    next same =>
      cases found
      intro actor
      have outside := elsewhere actor id json call
      rw [same, among] at outside
      cases outside
    next => exact apart q among proj found
  | changed pid old next about found' ids gets change =>
    rw [gets] at found
    split at found
    next same =>
      rw [change_creator change found]
      exact apart q among old (same ▸ found')
    next => exact apart q among proj found

theorem agrees_hidden (agrees : Agrees u others s s') (stranger : Stranger u s) (elsewhere : Elsewhere u others r)
    (actor : r.actor = u) (step : Step s r t) : Agrees u others t s' where
  sound := sound_step agrees.sound step
  sound' := agrees.sound'
  same q := (foreign_hidden stranger agrees.sound step actor q).trans (agrees.same q)
  ids q used := used_mono step (agrees.ids q used)
  apart := apart_step elsewhere step agrees.apart
  apart' := agrees.apart'

/-! ### The requests of others -/

theorem onProject_congr {minRole : Role} {missing : Response}
    {handler handler' : Project → Except Response (Option Project × Response)}
    (same : s.projects.get pid = s'.projects.get pid)
    (handlers : ∀ proj, s.projects.get pid = some proj → handler proj = handler' proj) :
    (onProject s pid uid minRole missing handler).2 = (onProject s' pid uid minRole missing handler').2 ∧
      (onProject s pid uid minRole missing handler).1.projects.get pid =
        (onProject s' pid uid minRole missing handler').1.projects.get pid := by
  have accesses : getProjectForUser s pid uid minRole = getProjectForUser s' pid uid minRole := by
    unfold getProjectForUser
    rw [same]
  unfold onProject
  rw [← accesses]
  cases found : getProjectForUser s pid uid minRole with
  | none => exact ⟨rfl, same⟩
  | some proj =>
    dsimp only
    rw [← handlers proj (getProjectForUser_iff.mp found).2.1]
    cases handler proj with
    | error response => exact ⟨rfl, same⟩
    | ok done =>
      obtain ⟨next, response⟩ := done
      cases next with
      | none =>
        refine ⟨rfl, ?_⟩
        rw [PyDict.get_pop, PyDict.get_pop, if_pos rfl, if_pos rfl]
      | some changed =>
        refine ⟨rfl, ?_⟩
        rw [PyDict.get_set, PyDict.get_set, if_pos rfl, if_pos rfl]

theorem answered {a b : State × Response} (congr : a.2 = b.2 ∧ a.1.projects.get pid = b.1.projects.get pid)
    (served : some a = some (t, x)) : ∃ t', some b = some (t', x) ∧ t.projects.get pid = t'.projects.get pid := by
  cases served
  exact ⟨b.1, congrArg some (Prod.ext rfl congr.1.symm), congr.2⟩

/-- A request about a project depends on the project and, if it renames it, on names. -/
theorem serve_congr (about : target r.call = some pid) (same : s.projects.get pid = s'.projects.get pid)
    (names : ∀ proj, s.projects.get pid = some proj → ∀ name, taken s r.actor name pid = taken s' r.actor name pid ∧
      taken s proj.creator name pid = taken s' proj.creator name pid)
    (served : serve users s r = some (t, x)) :
    ∃ t', serve users s' r = some (t', x) ∧ t.projects.get pid = t'.projects.get pid := by
  unfold serve at served ⊢
  cases call : r.call with
  | create id json =>
    rw [call] at about
    cases about
  | rename pid json =>
    rw [call] at about served
    cases about
    refine answered (onProject_congr same fun proj found => ?_) served
    have same_ (name : String) := names proj found name
    simp only [(same_ _).1, (same_ _).2]
  | delete pid confirm =>
    rw [call] at about served
    cases about
    refine answered ?_ served
    unfold apiProjectsDelete
    split
    next => exact ⟨rfl, same⟩
    next => exact onProject_congr same fun _ _ => rfl
  | listMembers pid | addMember pid _ | updateMember pid _ _ | removeMember pid _ | listTags pid | putTag pid _ _ _
  | deleteTag pid _ | putNote pid _ _ _ | deleteNote pid _ =>
    rw [call] at about served
    cases about
    exact answered (onProject_congr same fun _ _ => rfl) served

theorem serve_total (about : target r.call = some pid) (s : State) : ∃ t x, serve users s r = some (t, x) := by
  unfold serve
  cases call : r.call with
  | create id json =>
    rw [call] at about
    cases about
  | _ => exact ⟨_, _, rfl⟩

/-- The projects of one user are the same where the others' are, unless it is the hidden one. -/
theorem held_iff (same : ∀ q, foreign u s q = foreign u s' q) (other : uid ≠ u) {q : Nat} :
    (s.projects.get q = some proj ∧ proj.creator = uid) ↔ (s'.projects.get q = some proj ∧ proj.creator = uid) := by
  have both : foreign u s q = some proj ↔ s.projects.get q = some proj ∧ proj.creator ≠ u := foreign_eq_some
  rw [same q, foreign_eq_some] at both
  constructor
  · rintro ⟨found, creator⟩
    exact ⟨(both.mpr ⟨found, creator ▸ other⟩).1, creator⟩
  · rintro ⟨found, creator⟩
    exact ⟨(both.mp ⟨found, creator ▸ other⟩).1, creator⟩

theorem taken_congr (same : ∀ q, foreign u s q = foreign u s' q) (other : uid ≠ u) (name : String) (pid : Nat) :
    taken s uid name pid = taken s' uid name pid := by
  rw [Bool.eq_iff_iff, taken_iff, taken_iff]
  refine exists_congr fun q => exists_congr fun proj => ?_
  have held : (s.projects.get q = some proj ∧ proj.creator = uid) ↔ _ := held_iff same other
  tauto

theorem has_name_iff {name : String} :
    (s.projects.items.any fun item => item.2.creator = uid ∧ item.2.name = name) = true ↔
      ∃ q proj, s.projects.get q = some proj ∧ proj.creator = uid ∧ proj.name = name := by
  rw [List.any_eq_true]
  constructor
  · rintro ⟨⟨q, proj⟩, listed, same⟩
    exact ⟨q, proj, PyDict.mem_items_iff.mp listed, of_decide_eq_true same⟩
  · rintro ⟨q, proj, found, same⟩
    exact ⟨(q, proj), PyDict.mem_items_iff.mpr found, decide_eq_true same⟩

theorem has_name_congr (same : ∀ q, foreign u s q = foreign u s' q) (other : uid ≠ u) (name : String) :
    (s.projects.items.any fun item => item.2.creator = uid ∧ item.2.name = name) =
      s'.projects.items.any fun item => item.2.creator = uid ∧ item.2.name = name := by
  rw [Bool.eq_iff_iff, has_name_iff, has_name_iff]
  refine exists_congr fun q => exists_congr fun proj => ?_
  have held : (s.projects.get q = some proj ∧ proj.creator = uid) ↔ _ := held_iff same other
  tauto

theorem foreign_set (same : ∀ q, foreign u s q = foreign u s' q) (used used' : List Nat) (id : Nat) (proj : Project)
    (q : Nat) : foreign u ⟨s.projects.set id proj, used⟩ q = foreign u ⟨s'.projects.set id proj, used'⟩ q := by
  unfold foreign
  rw [PyDict.get_set, PyDict.get_set]
  split
  next => rfl
  next => exact same q

theorem agrees_create (agrees : Agrees u others s s') (other : r.actor ≠ u) {id : Nat} {json : Option Json}
    (call : r.call = .create id json) (served : serve users s r = some (t, x)) :
    ∃ t', serve users s' r = some (t', x) ∧ (∀ q, foreign u t q = foreign u t' q) ∧ ∀ q ∈ t'.used, q ∈ t.used := by
  unfold serve at served ⊢
  rw [call] at served ⊢
  dsimp only at served ⊢
  unfold apiProjectsCreate at served ⊢
  cases named : projectName json with
  | error response =>
    rw [named] at served
    cases served
    exact ⟨s', rfl, agrees.same, agrees.ids⟩
  | ok name =>
    rw [named] at served
    dsimp only at served ⊢
    rw [has_name_congr agrees.same other] at served
    split at served
    next used =>
      cases served
      exact ⟨s', if_pos used, agrees.same, agrees.ids⟩
    next free =>
      split at served
      next => cases served
      next fresh =>
        cases served
        refine ⟨_, by rw [if_neg free, if_neg fun old => fresh (agrees.ids id old)], fun q => ?_, fun q used => ?_⟩
        · exact foreign_set agrees.same _ _ id _ q
        · obtain rfl | old := List.mem_cons.mp used
          · exact List.mem_cons_self
          · exact List.mem_cons_of_mem _ (agrees.ids q old)

/-- A request about one project leaves the others as they are, and the ids. -/
theorem step_frame (about : target r.call = some pid) (step : Step s r t) :
    (∀ q, q ≠ pid → t.projects.get q = s.projects.get q) ∧ t.used = s.used := by
  cases step with
  | refused same => exact ⟨fun q _ => by rw [same], by rw [same]⟩
  | created id json name call _ _ _ =>
    rw [call] at about
    cases about
  | changed pid' proj next about' found ids gets change =>
    obtain rfl := Option.some.inj (about.symm.trans about')
    exact ⟨fun q apart => (gets q).trans (if_neg (Ne.symm apart)), ids⟩

theorem foreign_own (about : target r.call = some pid) (none_ : foreign u s pid = none) (step : Step s r t) (q : Nat) :
    foreign u t q = foreign u s q := by
  cases step with
  | refused same => rw [same]
  | created id json name call _ _ _ =>
    rw [call] at about
    cases about
  | changed pid' proj next about' found ids gets change =>
    obtain rfl := Option.some.inj (about.symm.trans about')
    exact foreign_changed gets found (foreign_eq_none.mp none_ proj found) change q

/-- Two requests about the same project, of which the second is a copy without the hidden user. -/
theorem agrees_target (agrees : Agrees u others s s') (other : r.actor ≠ u) (about : target r.call = some pid)
    (served : serve users s r = some (t, x)) :
    ∃ t' x', serve users s' r = some (t', x') ∧ (∀ q, foreign u t q = foreign u t' q) ∧ t'.used = s'.used ∧
      (others pid = true → x = x') := by
  have frame := step_frame about (serve_step served)
  -- The project is the same in both states, or it is the hidden user's.
  by_cases same : s.projects.get pid = s'.projects.get pid ∧ ∀ proj, s.projects.get pid = some proj → proj.creator ≠ u
  · obtain ⟨t', served', at_⟩ := serve_congr about same.1
      (fun proj found name => ⟨taken_congr agrees.same other name pid,
        taken_congr agrees.same (same.2 proj found) name pid⟩) served
    have frame' := step_frame about (serve_step served')
    refine ⟨t', x, served', fun q => ?_, frame'.2, fun _ => rfl⟩
    by_cases is_ : q = pid
    · rw [foreign, foreign, is_, at_]
    · have before := agrees.same q
      unfold foreign at before ⊢
      rw [frame.1 q is_, frame'.1 q is_, before]
  · have hidden : foreign u s pid = none := by
      by_contra some_
      obtain ⟨proj, found⟩ := Option.ne_none_iff_exists'.mp some_
      have found' := found
      rw [agrees.same pid] at found'
      obtain ⟨found, creator⟩ := foreign_eq_some.mp found
      refine same ⟨found.trans (foreign_eq_some.mp found').1.symm, fun proj' found' => ?_⟩
      exact Option.some.inj (found.symm.trans found') ▸ creator
    have hidden' : foreign u s' pid = none := (agrees.same pid).symm.trans hidden
    obtain ⟨t', x', served'⟩ : ∃ t' x', serve users s' r = some (t', x') := serve_total about s'
    have frame' := step_frame about (serve_step served')
    refine ⟨t', x', served', fun q => ?_, frame'.2, fun among => (same ⟨?_, agrees.apart pid among⟩).elim⟩
    · rw [foreign_own about hidden (serve_step served), foreign_own about hidden' (serve_step served')]
      exact agrees.same q
    · -- Neither state has the project: it would be one of the hidden user.
      have absent (w : State) (none_ : foreign u w pid = none)
          (apart : ∀ proj, w.projects.get pid = some proj → proj.creator ≠ u) : w.projects.get pid = none := by
        by_contra some_
        obtain ⟨proj, found⟩ := Option.ne_none_iff_exists'.mp some_
        exact apart proj found (foreign_eq_none.mp none_ proj found)
      rw [absent s hidden (agrees.apart pid among), absent s' hidden' (agrees.apart' pid among)]

/-- What the requests are watched for: answers to others about the projects among them. -/
def watched (u : Nat) (others : Nat → Bool) (r : Request) : Bool := r.actor ≠ u && (target r.call).any others

theorem agrees_open (agrees : Agrees u others s s') (elsewhere : Elsewhere u others r) (other : r.actor ≠ u)
    (served : serve users s r = some (t, x)) :
    ∃ t' x', serve users s' r = some (t', x') ∧ Agrees u others t t' ∧ (watched u others r = true → x = x') := by
  have step := serve_step served
  have sound := sound_step agrees.sound step
  have apart := apart_step elsewhere step agrees.apart
  cases about : target r.call with
  | none =>
    cases call : r.call with
    | create id json =>
      obtain ⟨t', served', same, ids⟩ := agrees_create agrees other call served
      have step' := serve_step served'
      exact ⟨t', x, served', ⟨sound, sound_step agrees.sound' step', same, ids, apart,
        apart_step elsewhere step' agrees.apart'⟩, fun _ => rfl⟩
    | _ =>
      rw [call] at about
      cases about
  | some pid =>
    obtain ⟨t', x', served', same, used, answer⟩ := agrees_target agrees other about served
    have step' := serve_step served'
    refine ⟨t', x', served', ⟨sound, sound_step agrees.sound' step', same, fun q old => ?_, apart,
      apart_step elsewhere step' agrees.apart'⟩, fun watch => answer ?_⟩
    · exact used_mono step (agrees.ids q (used ▸ old))
    · simpa [watched, about, other] using watch

/-- Two users, one of whom asks for what the other has. -/
def twoUsers : Users := ⟨fun name => if name = "ops" then some 2 else none, fun _ => none⟩

def plant : Project := ⟨1, "Plant", .empty, .empty, .empty⟩

def curious : List Request :=
  [⟨1, "t", .create 1 (some (.obj [("name", .str "Plant")]))⟩, ⟨2, "t", .deleteTag 1 "plc"⟩,
    ⟨1, "t", .deleteTag 1 "plc"⟩]

theorem stranger_of_empty (empty : ∀ item ∈ s.projects.items, item.2.members.items = []) : Stranger u s := by
  intro pid proj found _
  have none_ := empty (pid, proj) (PyDict.mem_items_iff.mpr found)
  rw [PyDict.get, none_]
  rfl

theorem rankIn_le (proj : Project) (uid : Nat) : rankIn proj uid ≤ Role.owner.rank := by
  unfold rankIn
  split
  next => exact Nat.le_refl _
  next =>
    cases proj.members.get uid with
    | none => exact Nat.zero_le _
    | some member => exact rank_le member.role

theorem access_le (s : State) (pid uid : Nat) : access s pid uid ≤ Role.owner.rank := by
  unfold access
  cases s.projects.get pid with
  | none => exact Nat.zero_le _
  | some proj => exact rankIn_le proj uid

/-- A request that makes somebody a member, or gives a member another role. -/
def Grants (pid uid : Nat) (call : Call) : Prop :=
  (∃ json, call = .addMember pid json) ∨ ∃ json, call = .updateMember pid uid json

theorem rankIn_set {target : Nat} (member : Member) (apart : target ≠ uid) :
    rankIn { proj with members := proj.members.set target member } uid = rankIn proj uid := by
  unfold rankIn
  rw [PyDict.get_set, if_neg apart]

theorem rankIn_pop (target : Nat) : rankIn { proj with members := proj.members.pop target } uid ≤ rankIn proj uid := by
  unfold rankIn
  rw [PyDict.get_pop]
  split
  next => exact Nat.le_refl _
  next =>
    split
    next => exact Nat.zero_le _
    next => exact Nat.le_refl _

theorem change_grows {next : Option Project} {n : Nat} (change : Change s r pid proj next)
    (before : rankIn proj uid < n) (after : n ≤ next.elim 0 (rankIn · uid)) :
    access s pid r.actor = Role.owner.rank ∧ Grants pid uid r.call := by
  cases change with
  | deleted _ next_ =>
    subst next_
    exact absurd (before.trans_le after) (Nat.not_lt_zero _)
  | member target member owns _ call next_ =>
    subst next_
    refine ⟨le_antisymm (access_le s pid r.actor) owns, ?_⟩
    by_cases same : target = uid
    · exact same ▸ call
    · rw [Option.elim_some, rankIn_set member same] at after
      omega
  | removed target _ next_ =>
    subst next_
    have less : rankIn { proj with members := proj.members.pop target } uid ≤ rankIn proj uid := rankIn_pop target
    rw [Option.elim_some] at after
    omega
  | same next_ | renamed _ _ _ next_ | tags _ _ _ next_ | notes _ _ _ next_ =>
    subst next_
    exact absurd after (Nat.not_le_of_lt before)

/-- Access to a project grows only by the creation of the project or by an owner's request. -/
theorem access_grows {n : Nat} (step : Step s r t) (before : access s pid uid < n) (after : n ≤ access t pid uid) :
    (∃ json, r.call = .create pid json ∧ r.actor = uid) ∨
      access s pid r.actor = Role.owner.rank ∧ Grants pid uid r.call := by
  unfold access at before after
  cases step with
  | refused same =>
    rw [same] at after
    omega
  | created id json name call fresh free next =>
    subst next
    rw [PyDict.get_set] at after
    by_cases same : id = pid
    · subst same
      rw [if_pos rfl, Option.elim_some, rankIn] at after
      split at after
      next creator => exact Or.inl ⟨json, call, creator⟩
      next => exact absurd (before.trans_le after) (Nat.not_lt_zero _)
    · rw [if_neg same] at after
      omega
  | changed pid' proj next about found ids gets change =>
    rw [gets] at after
    by_cases same : pid' = pid
    · subst same
      rw [if_pos rfl] at after
      rw [found, Option.elim_some] at before
      exact Or.inr (change_grows change before after)
    · rw [if_neg same] at after
      omega

/-- Whoever has access at the end of a run has had it all along, or since they created the project,
    or since an owner made them a member or gave them the role. -/
theorem access_granted {requests : List Request} {n : Nat}
    (ran : Transition.run (stepOf (serve users)) s requests = some t) (has : n ≤ access t pid uid) :
    Transition.Always (stepOf (serve users)) (fun m => n ≤ access m pid uid) s requests ∨
      ∃ before r after m m', requests = before ++ r :: after ∧
        Transition.run (stepOf (serve users)) s before = some m ∧ stepOf (serve users) m r = some m' ∧
        Transition.Always (stepOf (serve users)) (fun m => n ≤ access m pid uid) m' after ∧
        ((∃ json, r.call = .create pid json ∧ r.actor = uid) ∨
          access m pid r.actor = Role.owner.rank ∧ Grants pid uid r.call) := by
  obtain always | ⟨before, r, after, m, m', split, ran_, stepped, absent, since⟩ := Transition.always_or_since
    (fun m => n ≤ access m pid uid) ran has
  · exact Or.inl always
  · obtain ⟨x, served⟩ := Noninterference.stepOf_eq_some.mp stepped
    have now := Transition.always_head since
    exact Or.inr ⟨before, r, after, m, m', split, ran_, stepped, since,
      access_grows (serve_step served) (Nat.lt_of_not_le absent) now⟩

theorem access_granted_viewer :
    ∃ t, Transition.run (stepOf (serve twoUsers)) ⟨PyDict.empty.set 1 plant, [1]⟩
        [⟨1, "t", .addMember 1 (some (.obj [("username", .str "ops")]))⟩] = some t ∧ 1 ≤ access t 1 2 ∧
      ∃ (r : Request) (m : State), access m 1 r.actor = Role.owner.rank ∧ Grants 1 2 r.call := by
  have ran : Transition.run (stepOf (serve twoUsers)) ⟨PyDict.empty.set 1 plant, [1]⟩
      [⟨1, "t", .addMember 1 (some (.obj [("username", .str "ops")]))⟩] =
    some ⟨(PyDict.empty.set 1 plant).set 1 { plant with members := PyDict.empty.set 2 ⟨.viewer, 1, "t"⟩ }, [1]⟩ := rfl
  have has : 1 ≤ access ⟨(PyDict.empty.set 1 plant).set 1
      { plant with members := PyDict.empty.set 2 ⟨.viewer, 1, "t"⟩ }, [1]⟩ 1 2 := by decide
  refine ⟨_, ran, has, ?_⟩
  obtain always | ⟨before, r, after, m, m', split, ran', -, -, made⟩ := access_granted ran has
  · exact absurd (Transition.always_head always) (by decide)
  · have listed : r ∈ before ++ r :: after := List.mem_append_right _ List.mem_cons_self
    rw [← split, List.mem_singleton] at listed
    obtain ⟨json, call, -⟩ | made := made
    · rw [listed] at call
      cases call
    · exact ⟨r, m, made⟩

end Marlinspike.Projects.Isolation
