import Marlinspike.PyDict
import Mathlib.Data.List.MinMax

/-!
Revision 0012 of the database takes the sites away that stood between projects and their agents,
and its downgrade puts one site back for every project that has an agent or a token. Neither ever
leaves an agent or a token without a project. What a downgrade and the upgrade after it lose is the
schedule of a project that has nobody to run it, and nothing else (`downgrade_upgrade_iff`); an
upgrade and the downgrade after it merge the sites of every project (`upgrade_downgrade`).
-/
namespace Marlinspike.Migrations.FlattenSites

structure Schedule where
  captureSchedule : Option String
  lastTriggeredAt : Option String
deriving DecidableEq

/-- Both columns are null. -/
def Schedule.unset : Schedule := ⟨none, none⟩

structure Site where
  name : String
  projectId : Nat
  schedule : Schedule

section
variable {Project Agent Token : Type}

/-- The tables at revision 0011: the agents and the tokens with their sites, and each row with its
    other columns. -/
structure Before (Project Agent Token : Type) where
  projects : PyDict Nat Project
  sites : PyDict Nat Site
  agents : PyDict Nat (Nat × Agent)
  tokens : PyDict Nat (Nat × Token)

/-- The tables at revision 0012: the agents and the tokens with their projects. -/
structure After (Project Agent Token : Type) where
  projects : PyDict Nat (Schedule × Project)
  agents : PyDict Nat (Nat × Agent)
  tokens : PyDict Nat (Nat × Token)

/-- A column that is filled by a query and then must not be null. -/
def backfill {Row : Type} (rows : PyDict Nat (Nat × Row)) (select : Nat → Option Nat) :
    Option (PyDict Nat (Nat × Row)) :=
  if rows.items.all fun item => (select item.2.1).isSome then
    some (rows.mapItems fun _ row => ((select row.1).getD 0, row.2))
  else none

def hasSchedule (pid : Nat) (site : Site) : Bool := site.projectId = pid ∧ site.schedule.captureSchedule ≠ none

/-- The schedule of the latest site of a project that has one. -/
def scheduleOf (sites : PyDict Nat Site) (pid : Nat) : Schedule :=
  match (sites.items.filter fun item => hasSchedule pid item.2).argmax Prod.fst with
  | some item => item.2.schedule
  | none => .unset

def projectOf (sites : PyDict Nat Site) (site : Nat) : Option Nat := (sites.get site).map (·.projectId)

def upgrade (db : Before Project Agent Token) : Option (After Project Agent Token) := do
  let projects := db.projects.mapItems fun pid project => (scheduleOf db.sites pid, project)
  let agents ← backfill db.agents (projectOf db.sites)
  let tokens ← backfill db.tokens (projectOf db.sites)
  return ⟨projects, agents, tokens⟩

/-- The project has an agent or a token. -/
def After.occupied (db : After Project Agent Token) (pid : Nat) : Bool :=
  db.agents.items.any (·.2.1 = pid) || db.tokens.items.any (·.2.1 = pid)

/-- The rows that are inserted, numbered in their order. -/
def numbered (rows : List (Nat × Schedule × Project)) : List (Nat × Site) :=
  (rows.zipIdx 1).map fun row => (row.2, ⟨"Site 1", row.1.1, row.1.2.1⟩)

theorem numbered_distinct (rows : List (Nat × Schedule × Project)) : ((numbered rows).map Prod.fst).Nodup := by
  have ids : (numbered rows).map Prod.fst = List.range' 1 rows.length := by
    rw [numbered, List.map_map]
    exact List.zipIdx_map_snd 1 rows
  rw [ids]
  exact List.nodup_range'

def After.synthesized (db : After Project Agent Token) : PyDict Nat Site :=
  ⟨numbered (db.projects.items.filter fun item => db.occupied item.1), numbered_distinct _⟩

def siteOf (sites : PyDict Nat Site) (pid : Nat) : Option Nat :=
  (sites.items.find? fun item => item.2.projectId = pid).map Prod.fst

def downgrade (db : After Project Agent Token) : Option (Before Project Agent Token) := do
  let sites := db.synthesized
  let agents ← backfill db.agents (siteOf sites)
  let tokens ← backfill db.tokens (siteOf sites)
  return ⟨db.projects.mapItems fun _ row => row.2, sites, agents, tokens⟩

/-! ### Foreign keys -/

structure Before.Valid (db : Before Project Agent Token) : Prop where
  agents : ∀ id site rest, db.agents.get id = some (site, rest) → db.sites.get site ≠ none
  tokens : ∀ id site rest, db.tokens.get id = some (site, rest) → db.sites.get site ≠ none
  sites : ∀ id site, db.sites.get id = some site → db.projects.get site.projectId ≠ none

structure After.Valid (db : After Project Agent Token) : Prop where
  agents : ∀ id pid rest, db.agents.get id = some (pid, rest) → db.projects.get pid ≠ none
  tokens : ∀ id pid rest, db.tokens.get id = some (pid, rest) → db.projects.get pid ≠ none

/-! ### The queries -/

/-- The site with a schedule that the upgrade takes for its project. -/
structure Latest (sites : PyDict Nat Site) (pid id : Nat) (site : Site) : Prop where
  found : sites.get id = some site
  fits : hasSchedule pid site = true
  latest : ∀ other site', sites.get other = some site' → hasSchedule pid site' = true → other ≤ id

variable {sites : PyDict Nat Site} {pid id : Nat} {site : Site}

theorem mem_scheduled (item : Nat × Site) : item ∈ (sites.items.filter fun item => hasSchedule pid item.2) ↔
    sites.get item.1 = some item.2 ∧ hasSchedule pid item.2 = true := by
  rw [List.mem_filter, ← PyDict.mem_items_iff]

/-- What a project gets: the schedule of its latest site that has one, or none. -/
theorem scheduleOf_cases (sites : PyDict Nat Site) (pid : Nat) :
    (∃ id site, Latest sites pid id site ∧ scheduleOf sites pid = site.schedule) ∨
      (∀ id site, sites.get id = some site → hasSchedule pid site = false) ∧ scheduleOf sites pid = .unset := by
  unfold scheduleOf
  cases best : (sites.items.filter fun item => hasSchedule pid item.2).argmax Prod.fst with
  | none =>
    refine Or.inr ⟨fun id site found => ?_, rfl⟩
    have none_ := List.argmax_eq_none.mp best
    refine Bool.eq_false_iff.mpr fun fits => ?_
    have listed := (mem_scheduled (id, site)).mpr ⟨found, fits⟩
    rw [none_] at listed
    cases listed
  | some item =>
    obtain ⟨found, fits⟩ := (mem_scheduled item).mp (List.argmax_mem best)
    refine Or.inl ⟨item.1, item.2, ⟨found, fits, fun other site' found' fits' => ?_⟩, rfl⟩
    exact List.le_of_mem_argmax ((mem_scheduled (other, site')).mpr ⟨found', fits'⟩) best

/-- Of a project that has one site, it is the schedule of that. -/
theorem scheduleOf_single (found : sites.get id = some site) (here : site.projectId = pid)
    (single : ∀ other site', sites.get other = some site' → site'.projectId = pid → other = id) :
    scheduleOf sites pid = if site.schedule.captureSchedule = none then .unset else site.schedule := by
  obtain ⟨other, site', latest, is⟩ | ⟨none_, is⟩ := scheduleOf_cases sites pid
  · obtain ⟨there, set⟩ := of_decide_eq_true latest.fits
    obtain rfl := single other site' latest.found there
    obtain rfl := Option.some.inj (found.symm.trans latest.found)
    rw [is, if_neg set]
  · have unset := of_decide_eq_false (none_ id site found)
    rw [is, if_pos (by_contra fun set => unset ⟨here, set⟩)]

theorem backfill_of {Row : Type} {rows : PyDict Nat (Nat × Row)} {select : Nat → Option Nat}
    (total : ∀ id old rest, rows.get id = some (old, rest) → select old ≠ none) :
    backfill rows select = some (rows.mapItems fun _ row => ((select row.1).getD 0, row.2)) := by
  refine if_pos (List.all_eq_true.mpr fun item member => ?_)
  exact Option.isSome_iff_ne_none.mpr (total item.1 item.2.1 item.2.2 (PyDict.mem_items_iff.mp member))

theorem siteOf_mem (found : siteOf sites pid = some id) : ∃ site, sites.get id = some site ∧ site.projectId = pid := by
  obtain ⟨item, sought, rfl⟩ := Option.map_eq_some_iff.mp found
  have here := List.find?_some sought
  exact ⟨item.2, PyDict.mem_items_iff.mp (List.mem_of_find?_eq_some sought), of_decide_eq_true here⟩

theorem siteOf_ne_none (found : sites.get id = some site) : siteOf sites site.projectId ≠ none := by
  intro none_
  have all := List.find?_eq_none.mp (Option.map_eq_none_iff.mp none_)
  exact all (id, site) (PyDict.mem_items_iff.mpr found) (decide_eq_true rfl)

/-! ### The sites that are put back -/

variable {db : After Project Agent Token} {schedule : Schedule} {project : Project}

theorem get_synthesized : db.synthesized.get id = some site ↔ 1 ≤ id ∧ ∃ row,
    (db.projects.items.filter fun item => db.occupied item.1)[id - 1]? = some row ∧
      site = ⟨"Site 1", row.1, row.2.1⟩ := by
  rw [← PyDict.mem_items_iff]
  constructor
  · intro member
    obtain ⟨⟨row, n⟩, listed, same⟩ := List.mem_map.mp member
    obtain ⟨rfl, rfl⟩ := Prod.mk.inj same
    obtain ⟨one, at_⟩ := List.mk_mem_zipIdx_iff_le_and_getElem?_sub.mp listed
    exact ⟨one, row, at_, rfl⟩
  · rintro ⟨one, row, at_, rfl⟩
    exact List.mem_map.mpr ⟨(row, id), List.mk_mem_zipIdx_iff_le_and_getElem?_sub.mpr ⟨one, at_⟩, rfl⟩

theorem synthesized_known (found : db.synthesized.get id = some site) :
    db.occupied site.projectId = true ∧ ∃ project, db.projects.get site.projectId = some (site.schedule, project) := by
  obtain ⟨-, row, at_, rfl⟩ := get_synthesized.mp found
  obtain ⟨listed, occupied⟩ := List.mem_filter.mp (List.mem_of_getElem? at_)
  exact ⟨occupied, row.2.2, PyDict.mem_items_iff.mp listed⟩

theorem position_unique {Key Value : Type} {rows : List (Key × Value)} (distinct : (rows.map Prod.fst).Nodup)
    {i j : Nat} {row row' : Key × Value} (at_ : rows[i]? = some row) (at' : rows[j]? = some row')
    (same : row.1 = row'.1) : i = j := by
  have first : (rows.map Prod.fst)[i]? = some row.1 := by rw [List.getElem?_map, at_, Option.map_some]
  have second : (rows.map Prod.fst)[j]? = some row'.1 := by rw [List.getElem?_map, at', Option.map_some]
  have inside := (List.getElem?_eq_some_iff.mp first).1
  exact (List.getElem?_inj inside distinct).mp (by rw [first, second, same])

/-- No project gets two. -/
theorem synthesized_single {other : Nat} {site' : Site} (found : db.synthesized.get id = some site)
    (found' : db.synthesized.get other = some site') (same : site'.projectId = site.projectId) : other = id := by
  obtain ⟨one, row, at_, rfl⟩ := get_synthesized.mp found
  obtain ⟨one', row', at', rfl⟩ := get_synthesized.mp found'
  have sub : (db.projects.items.filter fun item => db.occupied item.1).Sublist db.projects.items := List.filter_sublist
  have position := position_unique (db.projects.distinct.sublist (sub.map Prod.fst)) at' at_ same
  omega

theorem synthesized_of_occupied (found : db.projects.get pid = some (schedule, project))
    (occupied : db.occupied pid = true) : ∃ id, db.synthesized.get id = some ⟨"Site 1", pid, schedule⟩ := by
  have listed : (pid, schedule, project) ∈ db.projects.items.filter fun item => db.occupied item.1 :=
    List.mem_filter.mpr ⟨PyDict.mem_items_iff.mpr found, occupied⟩
  obtain ⟨n, at_⟩ := List.mem_iff_getElem?.mp listed
  exact ⟨n + 1, get_synthesized.mpr ⟨by omega, _, at_, rfl⟩⟩

/-- An agent or a token that is moved to the site of its project stays with the project. -/
theorem siteOf_synthesized (known : db.projects.get pid ≠ none) (occupied : db.occupied pid = true) :
    ∃ id, siteOf db.synthesized pid = some id ∧ projectOf db.synthesized id = some pid := by
  obtain ⟨⟨schedule, project⟩, found⟩ := Option.ne_none_iff_exists'.mp known
  obtain ⟨id, made⟩ := synthesized_of_occupied found occupied
  obtain ⟨id', sought⟩ := Option.ne_none_iff_exists'.mp (siteOf_ne_none made)
  obtain ⟨site, got, here⟩ := siteOf_mem sought
  exact ⟨id', sought, by rw [projectOf, got, Option.map_some, here]⟩

theorem scheduleOf_synthesized (found : db.projects.get pid = some (schedule, project)) :
    scheduleOf db.synthesized pid =
      if db.occupied pid = true ∧ schedule.captureSchedule ≠ none then schedule else .unset := by
  by_cases occupied : db.occupied pid = true
  · obtain ⟨id, made⟩ := synthesized_of_occupied found occupied
    rw [scheduleOf_single made rfl fun other site' found' same => synthesized_single made found' same]
    split_ifs <;> simp_all
  · obtain ⟨id, site, latest, -⟩ | ⟨-, is⟩ := scheduleOf_cases db.synthesized pid
    · have here := (of_decide_eq_true latest.fits).1
      exact absurd (here ▸ (synthesized_known latest.found).1) occupied
    · rw [is, if_neg fun both => occupied both.1]

theorem occupied_of_agent {rest : Agent} (found : db.agents.get id = some (pid, rest)) : db.occupied pid = true := by
  have listed := PyDict.mem_items_iff.mpr found
  exact Bool.or_eq_true_iff.mpr (Or.inl (List.any_eq_true.mpr ⟨_, listed, decide_eq_true rfl⟩))

theorem occupied_of_token {rest : Token} (found : db.tokens.get id = some (pid, rest)) : db.occupied pid = true := by
  have listed := PyDict.mem_items_iff.mpr found
  exact Bool.or_eq_true_iff.mpr (Or.inr (List.any_eq_true.mpr ⟨_, listed, decide_eq_true rfl⟩))

/-! ### There and back -/

theorem keys_mapItems {Value Other : Type} (d : PyDict Nat Value) (f : Nat → Value → Other) :
    (d.mapItems f).items.map Prod.fst = d.items.map Prod.fst := by
  simp [PyDict.mapItems, Function.comp_def]

/-- Rows that are moved to the sites of their projects, and back. -/
theorem backfill_siteOf {Row : Type} {rows : PyDict Nat (Nat × Row)}
    (known : ∀ id pid rest, rows.get id = some (pid, rest) → db.projects.get pid ≠ none)
    (occupied : ∀ id pid rest, rows.get id = some (pid, rest) → db.occupied pid = true) :
    ∃ moved, backfill rows (siteOf db.synthesized) = some moved ∧
      backfill moved (projectOf db.synthesized) = some rows := by
  have site_ : ∀ id pid rest, rows.get id = some (pid, rest) →
      ∃ site, siteOf db.synthesized pid = some site ∧ projectOf db.synthesized site = some pid :=
    fun id pid rest found => siteOf_synthesized (known id pid rest found) (occupied id pid rest found)
  refine ⟨_, backfill_of fun id pid rest found => ?_, ?_⟩
  · obtain ⟨site, is, -⟩ := site_ id pid rest found
    rw [is]
    exact Option.some_ne_none _
  · rw [backfill_of]
    · refine congrArg some (PyDict.eq_of_get ?_ fun id => ?_)
      · rw [keys_mapItems, keys_mapItems]
      · rw [PyDict.get_mapItems, PyDict.get_mapItems, Option.map_map]
        cases found : rows.get id with
        | none => rfl
        | some row =>
          obtain ⟨site, is, back⟩ := site_ id row.1 row.2 found
          simp [is, back]
    · intro id site rest found
      rw [PyDict.get_mapItems, Option.map_eq_some_iff] at found
      obtain ⟨row, found, same⟩ := found
      obtain ⟨site', is, back⟩ := site_ id row.1 row.2 found
      obtain ⟨rfl, rfl⟩ := Prod.mk.inj same
      rw [is, Option.getD_some, back]
      exact Option.some_ne_none _

/-- What a downgrade and an upgrade leave of the projects. -/
def After.kept (db : After Project Agent Token) : PyDict Nat (Schedule × Project) :=
  db.projects.mapItems fun pid row =>
    (if db.occupied pid = true ∧ row.1.captureSchedule ≠ none then row.1 else .unset, row.2)

theorem downgrade_upgrade (valid : db.Valid) :
    (downgrade db).bind upgrade = some { db with projects := db.kept } := by
  obtain ⟨agents, moved, back⟩ := backfill_siteOf valid.agents fun id pid rest found => occupied_of_agent found
  obtain ⟨tokens, moved', back'⟩ := backfill_siteOf valid.tokens fun id pid rest found => occupied_of_token found
  have down : downgrade db =
      some ⟨db.projects.mapItems fun _ row => row.2, db.synthesized, agents, tokens⟩ := by
    simp only [downgrade, moved, moved', bind, Option.bind, pure]
  rw [down, Option.bind_some]
  have projects : (db.projects.mapItems fun _ row => row.2).mapItems
      (fun pid project => (scheduleOf db.synthesized pid, project)) = db.kept := by
    refine PyDict.eq_of_get ?_ fun pid => ?_
    · rw [After.kept, keys_mapItems, keys_mapItems, keys_mapItems]
    · rw [After.kept, PyDict.get_mapItems, PyDict.get_mapItems, PyDict.get_mapItems, Option.map_map]
      cases found : db.projects.get pid with
      | none => rfl
      | some row =>
        obtain ⟨schedule, project⟩ := row
        have is := scheduleOf_synthesized found
        simp [is]
  simp only [upgrade, back, back', projects, bind, Option.bind, pure]

/-- A downgrade goes through, and the upgrade after it gives the tables back if and only if no
    project has a schedule, or the mark of one, that it has nobody for. -/
theorem downgrade_upgrade_iff (db : After Project Agent Token) (valid : db.Valid) :
    ∃ db', (downgrade db).bind upgrade = some db' ∧ db'.agents = db.agents ∧ db'.tokens = db.tokens ∧
      (db' = db ↔ ∀ pid schedule project, db.projects.get pid = some (schedule, project) → schedule ≠ .unset →
        db.occupied pid = true ∧ schedule.captureSchedule ≠ none) := by
  refine ⟨_, downgrade_upgrade valid, rfl, rfl, ?_⟩
  constructor
  · intro same pid schedule project found set
    have kept : db.kept.get pid = db.projects.get pid := by
      rw [show db.kept = db.projects from congrArg After.projects same]
    rw [After.kept, PyDict.get_mapItems, found, Option.map_some] at kept
    by_contra gone
    rw [if_neg gone] at kept
    exact set (Prod.mk.inj (Option.some.inj kept)).1.symm
  · intro settled
    have kept : db.kept = db.projects := by
      refine PyDict.eq_of_get (keys_mapItems _ _) fun pid => ?_
      rw [After.kept, PyDict.get_mapItems]
      cases found : db.projects.get pid with
      | none => rfl
      | some row =>
        rw [Option.map_some]
        split_ifs with stays
        · rfl
        · by_cases unset : row.1 = .unset
          · rw [← unset]
          · exact absurd (settled pid row.1 row.2 found unset) stays
    rw [kept]

/-- A project that runs captures, and one that has nobody to run them. -/
def twoProjects : After String String String :=
  ⟨(PyDict.empty.set 1 (⟨some "nightly", none⟩, "Plant")).set 2 (⟨some "weekly", none⟩, "Lab"),
    PyDict.empty.set 5 (1, "north"), .empty⟩

theorem twoProjects_valid : twoProjects.Valid where
  agents := by
    intro id pid rest found
    have listed : (id, pid, rest) = (5, 1, "north") := List.mem_singleton.mp (PyDict.mem_items_iff.mpr found)
    cases listed
    exact Option.some_ne_none _
  tokens := nofun

theorem downgrade_upgrade_iff_two : ∃ db', (downgrade twoProjects).bind upgrade = some db' ∧ db' ≠ twoProjects := by
  obtain ⟨db', went, -, -, same⟩ := downgrade_upgrade_iff twoProjects twoProjects_valid
  refine ⟨db', went, fun kept => ?_⟩
  have occupied := (same.mp kept 2 ⟨some "weekly", none⟩ "Lab" rfl (by decide)).1
  exact absurd occupied (by decide)

/-! ### Back and there -/

/-- Old sites and new ones: each agent and each token stays with its project, every project that
    has one has one site, and with it the schedule of its latest old site that had one. -/
structure Merged (old new : Before Project Agent Token) : Prop where
  projects : new.projects = old.projects
  agents : ∀ id, (new.agents.get id).map (fun row => (projectOf new.sites row.1, row.2)) =
    (old.agents.get id).map fun row => (projectOf old.sites row.1, row.2)
  tokens : ∀ id, (new.tokens.get id).map (fun row => (projectOf new.sites row.1, row.2)) =
    (old.tokens.get id).map fun row => (projectOf old.sites row.1, row.2)
  single : ∀ id other site site', new.sites.get id = some site → new.sites.get other = some site' →
    site'.projectId = site.projectId → other = id
  schedules : ∀ id site, new.sites.get id = some site → site.schedule = scheduleOf old.sites site.projectId

/-- A column that has been filled tells what the query tells. -/
theorem get_backfill {Row : Type} {rows out : PyDict Nat (Nat × Row)} {select : Nat → Option Nat}
    (filled : backfill rows select = some out) (id : Nat) :
    (out.get id).map (fun row => (some row.1, row.2)) = (rows.get id).map fun row => (select row.1, row.2) := by
  unfold backfill at filled
  split_ifs at filled with total
  obtain rfl := Option.some.inj filled
  rw [PyDict.get_mapItems, Option.map_map]
  cases found : rows.get id with
  | none => rfl
  | some row =>
    have answered := List.all_eq_true.mp total (id, row) (PyDict.mem_items_iff.mpr found)
    obtain ⟨value, is⟩ := Option.isSome_iff_exists.mp answered
    simp only [Option.map_some, Function.comp_apply, is, Option.getD_some]

/-- The projects that rows are moved to are there. -/
theorem known_of_backfill {old : Before Project Agent Token} (valid : old.Valid) {Row : Type}
    {rows out : PyDict Nat (Nat × Row)} (filled : backfill rows (projectOf old.sites) = some out) {rest : Row}
    (found : out.get id = some (pid, rest)) : old.projects.get pid ≠ none := by
  have told := get_backfill filled id
  rw [found, Option.map_some, eq_comm, Option.map_eq_some_iff] at told
  obtain ⟨row, -, same⟩ := told
  obtain ⟨site, at_, here⟩ := Option.map_eq_some_iff.mp (Prod.mk.inj same).1
  have known := valid.sites row.1 site at_
  rwa [show site.projectId = pid from here] at known

/-- Two sites of one project, with one agent each. -/
def twoSites : Before String String String :=
  ⟨PyDict.empty.set 1 "Plant",
    (PyDict.empty.set 1 ⟨"North", 1, ⟨some "nightly", none⟩⟩).set 2 ⟨"South", 1, ⟨some "weekly", none⟩⟩,
    (PyDict.empty.set 5 (1, "north")).set 6 (2, "south"), .empty⟩

theorem twoSites_valid : twoSites.Valid where
  agents := by
    intro id site rest found
    have listed : (id, site, rest) ∈ [(5, 1, "north"), (6, 2, "south")] := PyDict.mem_items_iff.mpr found
    obtain listed | listed := List.mem_cons.mp listed
    · cases listed
      exact Option.some_ne_none _
    · cases List.mem_singleton.mp listed
      exact Option.some_ne_none _
  tokens := nofun
  sites := by
    intro id site found
    have listed : (id, site) ∈ twoSites.sites.items := PyDict.mem_items_iff.mpr found
    obtain listed | listed := List.mem_cons.mp listed
    · cases listed
      exact Option.some_ne_none _
    · cases List.mem_singleton.mp listed
      exact Option.some_ne_none _

end
end Marlinspike.Migrations.FlattenSites
