import Marlinspike.Gateway.Pushes

/-!
Commands that are pushed to agents which run the agent's own code: a `res` frame comes from a
task that has the request, and a task asks capd once. What an operator is told is then what
capd has answered to that very command, and capd gets every command once at most (`faithful`).
-/
namespace Marlinspike.Gateway.Pushes
open Marlinspike.Transition

variable {s t : State} {l : Label} {fits : Request → Bool}

/-- The frames of the agent that have not been dropped. -/
def Conn.frames (conn : Conn) : List Frame := conn.handled ++ conn.hand.toList ++ conn.toGateway

/-- A connection whose agent makes one task of each request, and replies from tasks only. -/
structure Conn.Sound (executions : List Execution) (c : Nat) (conn : Conn) : Prop where
  sent : conn.sent = conn.tasks.map Task.request ++ conn.toAgent
  once : (conn.sent.map Request.id).Nodup
  ran : ∀ task ∈ conn.tasks, ∀ capd, task.capd = some capd → ⟨c, task.request, capd⟩ ∈ executions
  answers : ∀ reply, .res reply ∈ conn.frames → ∃ task ∈ conn.tasks, task.reply = some reply

structure Agents (s : State) : Prop where
  sound : ∀ (c : Nat) conn, s.conns[c]? = some conn → conn.Sound s.executions c
  asked : ∀ (c : Nat) conn request, s.conns[c]? = some conn → request ∈ conn.sent →
    ∃ (p : Nat) (push : Push), s.pushes[p]? = some push ∧ push.conn = c ∧ push.request = request ∧ push.waits = false
  tasked : ∀ e ∈ s.executions, ∃ conn task, s.conns[e.conn]? = some conn ∧ task ∈ conn.tasks ∧
    task.request = e.request ∧ task.capd = some e.capd
  once : (s.executions.map fun e => (e.conn, e.request.id)).Nodup

theorem agents_init : Agents State.init where
  sound := by simp [State.init]
  asked := by simp [State.init]
  tasked := by simp [State.init]
  once := List.nodup_nil

theorem sound_init (executions : List Execution) (c : Nat) (agentUuid : String) :
    (Conn.init agentUuid).Sound executions c where
  sent := rfl
  once := List.nodup_nil
  ran _ member := by cases member
  answers _ there := by cases there

/-- A step that does not touch the agent's side, and brings no reply. -/
structure Conn.Untouched (conn conn' : Conn) : Prop where
  sent : conn'.sent = conn.sent
  tasks : conn'.tasks = conn.tasks
  toAgent : conn'.toAgent = conn.toAgent
  frames : ∀ reply, .res reply ∈ conn'.frames → .res reply ∈ conn.frames

theorem Conn.Untouched.refl (conn : Conn) : conn.Untouched conn := ⟨rfl, rfl, rfl, fun _ => id⟩

theorem Conn.Sound.untouched {executions : List Execution} {c : Nat} {conn conn' : Conn}
    (sound : conn.Sound executions c) (untouched : conn.Untouched conn') : conn'.Sound executions c where
  sent := by rw [untouched.sent, untouched.tasks, untouched.toAgent, sound.sent]
  once := untouched.sent ▸ sound.once
  ran := untouched.tasks ▸ sound.ran
  answers reply there := untouched.tasks ▸ sound.answers reply (untouched.frames reply there)

/-- The connections and the calls change by one function each, and nothing is executed. -/
theorem Agents.mapped (agents : Agents s) {f : Nat → Conn → Conn} {g : Nat → Push → Push}
    (conns : ∀ c : Nat, t.conns[c]? = (s.conns[c]?).map (f c))
    (pushes : ∀ p : Nat, t.pushes[p]? = (s.pushes[p]?).map (g p)) (executions : t.executions = s.executions)
    (sound : ∀ c conn, s.conns[c]? = some conn → conn.Sound s.executions c → (f c conn).Sound s.executions c)
    (tasks : ∀ c conn, s.conns[c]? = some conn → ∀ task ∈ conn.tasks, ∃ task' ∈ (f c conn).tasks,
      task'.request = task.request ∧ task'.capd = task.capd)
    (sent : ∀ c conn, s.conns[c]? = some conn → ∀ request ∈ (f c conn).sent, request ∈ conn.sent ∨
      ∃ p push, s.pushes[p]? = some push ∧ push.conn = c ∧ push.request = request ∧ (g p push).waits = false)
    (same : ∀ p push, s.pushes[p]? = some push → (g p push).conn = push.conn ∧
      (g p push).request = push.request ∧ (push.waits = false → (g p push).waits = false)) : Agents t where
  sound c conn' found := by
    rw [conns] at found
    obtain ⟨conn, at_, rfl⟩ := Option.map_eq_some_iff.mp found
    exact executions ▸ sound c conn at_ (agents.sound c conn at_)
  asked c conn' request found member := by
    rw [conns] at found
    obtain ⟨conn, at_, rfl⟩ := Option.map_eq_some_iff.mp found
    obtain ⟨p, push, called, here, is, wrote⟩ : ∃ (p : Nat) (push : Push), s.pushes[p]? = some push ∧ push.conn = c ∧
        push.request = request ∧ (g p push).waits = false := by
      rcases sent c conn at_ request member with old | new
      · obtain ⟨p, push, called, here, is, waits⟩ := agents.asked c conn request at_ old
        exact ⟨p, push, called, here, is, (same p push called).2.2 waits⟩
      · exact new
    obtain ⟨conn', request', -⟩ := same p push called
    exact ⟨p, g p push, by rw [pushes, called]; rfl, conn'.trans here, request'.trans is, wrote⟩
  tasked e member := by
    obtain ⟨conn, task, found, there, request, capd⟩ := agents.tasked e (executions ▸ member)
    obtain ⟨task', there', request', capd'⟩ := tasks e.conn conn found task there
    exact ⟨f e.conn conn, task', by rw [conns, found]; rfl, there', request'.trans request, capd'.trans capd⟩
  once := executions ▸ agents.once

theorem resolve_request (n : Nat) (reply : Reply) (push : Push) :
    (push.resolve n reply).request = push.request ∧ (push.resolve n reply).phase = push.phase := by
  unfold Push.resolve
  split <;> exact ⟨rfl, rfl⟩

/-- A step that leaves a call what it asks for, and does not put it back before its write. -/
structure Push.Asks (push push' : Push) : Prop where
  conn : push'.conn = push.conn
  request : push'.request = push.request
  waits : push.waits = false → push'.waits = false

theorem Push.Asks.refl (push : Push) : Push.Asks push push := ⟨rfl, rfl, fun waits => waits⟩

theorem asks_of_phase {push push' : Push} (conn : push'.conn = push.conn) (request : push'.request = push.request)
    (phase : push'.phase = push.phase) : Push.Asks push push' :=
  ⟨conn, request, fun waits => by rw [Push.waits, phase]; exact waits⟩

theorem asks_cancel (push : Push) : Push.Asks push push.cancel :=
  asks_of_phase (cancel_fields push).2.1 (cancel_request push) (cancel_fields push).2.2.2.2

theorem asks_took (conn : Conn) (frame : Frame) (p : Nat) (push : Push) : Push.Asks push (push.took conn frame p) := by
  cases frame with
  | other => exact .refl push
  | res reply =>
    simp only [Push.took]
    split
    · exact asks_of_phase (resolve_fields _ _ _).1 (resolve_request _ _ _).1 (resolve_request _ _ _).2
    · exact .refl push

theorem Agents.untouched (agents : Agents s) {f : Nat → Conn → Conn} {g : Nat → Push → Push}
    (conns : ∀ c : Nat, t.conns[c]? = (s.conns[c]?).map (f c))
    (pushes : ∀ p : Nat, t.pushes[p]? = (s.pushes[p]?).map (g p)) (executions : t.executions = s.executions)
    (same : ∀ c conn, s.conns[c]? = some conn → Conn.Untouched conn (f c conn))
    (asks : ∀ p push, s.pushes[p]? = some push → Push.Asks push (g p push)) : Agents t := by
  refine agents.mapped conns pushes executions ?_ ?_ ?_ ?_
  · exact fun c conn found sound => sound.untouched (same c conn found)
  · intro c conn found task member
    exact ⟨task, (same c conn found).tasks ▸ member, rfl, rfl⟩
  · exact fun c conn found request member => .inl ((same c conn found).sent ▸ member)
  · exact fun p push called => ⟨(asks p push called).conn, (asks p push called).request, (asks p push called).waits⟩

theorem Agents.puts (agents : Agents s) {g : Nat → Push → Push} {c : Nat} {conn conn' : Conn}
    (found : s.conns[c]? = some conn) (untouched : conn.Untouched conn') (conns : t.conns = s.conns.set c conn')
    (pushes : ∀ p : Nat, t.pushes[p]? = (s.pushes[p]?).map (g p)) (executions : t.executions = s.executions)
    (asks : ∀ p push, s.pushes[p]? = some push → Push.Asks push (g p push)) : Agents t := by
  have conns' : ∀ i : Nat, t.conns[i]? = (s.conns[i]?).map fun other => if c = i then conn' else other := fun i => by
    rw [conns, Numbered.getElem?_set found]
  refine agents.untouched conns' pushes executions (fun i other at_ => ?_) asks
  split
  · next here =>
    subst here
    cases found.symm.trans at_
    exact untouched
  · exact .refl other

theorem Agents.moves (agents : Agents s) (c : Nat) {f : Conn → Conn}
    (untouched : ∀ conn, Conn.Untouched conn (f conn)) : Agents { s with conns := s.conns.modify c f } := by
  refine agents.untouched (g := fun _ push => push) (Numbered.getElem?_modify s.conns c f)
    (Numbered.getElem?_same s.pushes) rfl (fun i conn _ => ?_) fun _ push _ => .refl push
  split
  · exact untouched conn
  · exact .refl conn

theorem untouched_close (conn : Conn) : conn.Untouched conn.close := ⟨rfl, rfl, rfl, fun _ => id⟩

/-- A frame that is no reply. -/
theorem untouched_arrive (conn : Conn) : conn.Untouched (conn.arrive .other) := by
  unfold Conn.arrive
  split
  · exact .refl conn
  · refine ⟨rfl, rfl, rfl, fun reply there => ?_⟩
    simpa [Conn.frames] using there

theorem agents_accept (agents : Agents s) (agentUuid : String) : Agents (authenticates s agentUuid) := by
  have closed : Agents { s with conns := closing s agentUuid } := by
    refine agents.untouched (g := fun _ push => push) (getElem?_closing s agentUuid)
      (Numbered.getElem?_same s.pushes) rfl (fun c conn _ => ?_) fun _ push _ => .refl push
    split
    · exact untouched_close conn
    · exact .refl conn
  refine ⟨fun c conn found => ?_, fun c conn request found member => ?_, fun e member => ?_, closed.once⟩
  · rcases Numbered.getElem?_concat.mp found with old | ⟨-, rfl⟩
    · exact closed.sound c conn old
    · exact sound_init s.executions c agentUuid
  · rcases Numbered.getElem?_concat.mp found with old | ⟨-, rfl⟩
    · exact closed.asked c conn request old member
    · cases member
  · obtain ⟨conn, task, found, rest⟩ := closed.tasked e member
    exact ⟨conn, task, Numbered.getElem?_concat_of found, rest⟩

theorem agents_push (agents : Agents s) {agentUuid method : String} {params : Json}
    (pushed : pushCommand s agentUuid method params = some t) : Agents t := by
  obtain ⟨c, -, rest⟩ := Option.bind_eq_some_iff.mp pushed
  obtain ⟨conn, found, is⟩ := Option.bind_eq_some_iff.mp rest
  cases is
  have kept : Agents { s with
      conns := s.conns.set c
        { conn with nextId := conn.nextId + 1, pending := conn.pending.set (conn.nextId + 1) s.pushes.length } } := by
    refine agents.puts found ?_ rfl (Numbered.getElem?_same s.pushes) rfl fun _ push _ => .refl push
    exact ⟨rfl, rfl, rfl, fun _ => id⟩
  refine ⟨kept.sound, fun i other request at_ member => ?_, kept.tasked, kept.once⟩
  obtain ⟨p, push, called, rest⟩ := kept.asked i other request at_ member
  exact ⟨p, push, Numbered.getElem?_concat_of called, rest⟩

/-- The request of a call that is written for the first time. -/
theorem Conn.Sound.write {executions : List Execution} {c : Nat} {conn : Conn} {request : Request}
    (sound : conn.Sound executions c) (fresh : request.id ∉ conn.sent.map Request.id) :
    (conn.write request).Sound executions c := by
  unfold Conn.write
  split
  · exact sound
  · refine ⟨?_, ?_, sound.ran, sound.answers⟩
    · rw [← List.append_assoc, ← sound.sent]
    · rw [List.map_append, List.nodup_append]
      refine ⟨sound.once, List.nodup_singleton _, ?_⟩
      rintro id there _ (⟨⟩ | ⟨_, ⟨⟩⟩) rfl
      exact fresh there

theorem agents_write (agents : Agents s) (inv : Invariant s) {p : Nat} {push : Push}
    (called : s.pushes[p]? = some push) (waits : push.waits = true) :
    Agents { s with
      conns := s.conns.modify push.conn (Conn.write push.request)
      pushes := s.pushes.set p { push with phase := .draining } } := by
  refine agents.mapped (Numbered.getElem?_modify s.conns _ _) (Numbered.getElem?_set called) rfl ?_ ?_ ?_ ?_
  · intro c conn found sound
    split
    · next here =>
      subst here
      refine sound.write fun there => ?_
      -- a request of this id is of this call, which has not written it
      obtain ⟨request, member, same⟩ := List.mem_map.mp there
      obtain ⟨q, other, called', here, rfl, wrote⟩ := agents.asked push.conn conn request found member
      obtain rfl := inv.distinct q p other push called' called here same
      cases called.symm.trans called'
      rw [wrote] at waits
      cases waits
    · exact sound
  · intro c conn _ task member
    refine ⟨task, ?_, rfl, rfl⟩
    split
    · unfold Conn.write
      split <;> exact member
    · exact member
  · intro c conn found request member
    split at member
    · next here =>
      unfold Conn.write at member
      split at member
      · exact .inl member
      · rcases List.mem_append.mp member with old | new
        · exact .inl old
        · obtain rfl := List.mem_singleton.mp new
          exact .inr ⟨p, push, called, here, rfl, by rw [if_pos rfl]; rfl⟩
    · exact .inl member
  · intro q other called'
    split
    · next here =>
      subst here
      cases called.symm.trans called'
      exact ⟨rfl, rfl, fun _ => rfl⟩
    · exact ⟨rfl, rfl, id⟩

theorem agents_take (agents : Agents s) {c : Nat} {conn : Conn} {request : Request} {rest : List Request}
    (found : s.conns[c]? = some conn) (written : conn.toAgent = request :: rest) :
    Agents { s with
      conns := s.conns.set c { conn with toAgent := rest, tasks := conn.tasks ++ [⟨request, none, false⟩] } } := by
  refine agents.mapped (g := fun _ push => push) (Numbered.getElem?_set found) (Numbered.getElem?_same s.pushes) rfl
    ?_ ?_ ?_ fun _ _ _ => ⟨rfl, rfl, id⟩
  · intro i other at_ sound
    split
    · next here =>
      subst here
      cases found.symm.trans at_
      refine ⟨?_, sound.once, ?_, ?_⟩
      · simp only [List.map_append, List.append_assoc]
        rw [sound.sent, written]
        rfl
      · intro task member capd ran
        rcases List.mem_append.mp member with old | new
        · exact sound.ran task old capd ran
        · cases List.mem_singleton.mp new
          cases ran
      · intro reply there
        obtain ⟨task, member, answer⟩ := sound.answers reply there
        exact ⟨task, List.mem_append_left _ member, answer⟩
    · exact sound
  · intro i other at_ task member
    refine ⟨task, ?_, rfl, rfl⟩
    split
    · next here =>
      subst here
      cases found.symm.trans at_
      exact List.mem_append_left _ member
    · exact member
  · intro i other at_ request member
    split at member
    · next here =>
      subst here
      cases found.symm.trans at_
      exact .inl member
    · exact .inl member

/-- A task that goes on has the reply that it had. -/
theorem reply_of {task task' : Task} {reply : Reply} (request : task'.request = task.request)
    (capd : ∀ answer, task.capd = some answer → task'.capd = some answer) (replied : task.reply = some reply) :
    task'.reply = some reply := by
  unfold Task.reply at replied ⊢
  rw [request]
  split_ifs at replied ⊢
  · obtain ⟨answer, ran, rfl⟩ := Option.map_eq_some_iff.mp replied
    rw [capd answer ran]
    rfl
  · exact replied

theorem Conn.Sound.setTask {executions more : List Execution} {c i : Nat} {conn : Conn} {task task' : Task}
    (sound : conn.Sound executions c) (tasked : conn.tasks[i]? = some task) (request : task'.request = task.request)
    (capd : ∀ answer, task.capd = some answer → task'.capd = some answer)
    (ran : ∀ answer, task'.capd = some answer → ⟨c, task.request, answer⟩ ∈ more)
    (kept : ∀ e ∈ executions, e ∈ more) : ({ conn with tasks := conn.tasks.set i task' }).Sound more c where
  sent := by
    rw [Numbered.map_set tasked request]
    exact sound.sent
  once := sound.once
  ran other member answer answered := by
    rcases List.mem_or_eq_of_mem_set member with old | rfl
    · exact kept _ (sound.ran other old answer answered)
    · exact request ▸ ran answer answered
  answers reply there := by
    obtain ⟨other, member, replied⟩ := sound.answers reply there
    rcases Numbered.mem_set_or tasked task' member with rfl | still
    · exact ⟨task', Numbered.mem_set tasked, reply_of request capd replied⟩
    · exact ⟨other, still, replied⟩

theorem Conn.Sound.more {executions more : List Execution} {c : Nat} {conn : Conn} (sound : conn.Sound executions c)
    (kept : ∀ e ∈ executions, e ∈ more) : conn.Sound more c :=
  ⟨sound.sent, sound.once, fun task member capd ran => kept _ (sound.ran task member capd ran), sound.answers⟩

/-- The tasks of a connection have one id each. -/
theorem Conn.Sound.task_eq {executions : List Execution} {c : Nat} {conn : Conn} {task other : Task}
    (sound : conn.Sound executions c) (member : task ∈ conn.tasks) (member' : other ∈ conn.tasks)
    (same : task.request.id = other.request.id) : task = other := by
  have once := sound.once
  rw [sound.sent, List.map_append, List.map_map, List.nodup_append] at once
  exact List.inj_on_of_nodup_map once.1 member member' same

/-- A reply of a task; one that is on a closed link is lost. -/
theorem Conn.Sound.arrive {executions : List Execution} {c : Nat} {conn : Conn} {task : Task} {reply : Reply}
    (sound : conn.Sound executions c) (member : task ∈ conn.tasks) (replied : task.reply = some reply) :
    (conn.arrive (.res reply)).Sound executions c := by
  unfold Conn.arrive
  split
  · exact sound
  · refine ⟨sound.sent, sound.once, sound.ran, fun other there => ?_⟩
    simp only [Conn.frames, ← List.append_assoc] at there
    rcases List.mem_append.mp there with old | new
    · exact sound.answers other old
    · cases List.mem_singleton.mp new
      exact ⟨task, member, replied⟩

theorem arrive_fields (frame : Frame) (conn : Conn) :
    (conn.arrive frame).tasks = conn.tasks ∧ (conn.arrive frame).sent = conn.sent := by
  unfold Conn.arrive
  split <;> exact ⟨rfl, rfl⟩

theorem agents_reply (agents : Agents s) {c i : Nat} {conn : Conn} {task : Task} {reply : Reply}
    (found : s.conns[c]? = some conn) (tasked : conn.tasks[i]? = some task) (answer : task.reply = some reply) :
    Agents { s with
      conns := s.conns.set c
        (({ conn with tasks := conn.tasks.set i { task with replied := true } }).arrive (.res reply)) } := by
  refine agents.mapped (g := fun _ push => push) (Numbered.getElem?_set found) (Numbered.getElem?_same s.pushes) rfl
    ?_ ?_ ?_ fun _ _ _ => ⟨rfl, rfl, id⟩
  · intro j other at_ sound
    split
    · next here =>
      subst here
      cases found.symm.trans at_
      have ran := sound.ran task (List.mem_of_getElem? tasked)
      have set : ({ conn with tasks := conn.tasks.set i { task with replied := true } }).Sound s.executions c :=
        sound.setTask tasked rfl (fun _ => id) ran fun _ => id
      exact set.arrive (Numbered.mem_set tasked) answer
    · exact sound
  · intro j other at_ old member
    split
    · next here =>
      subst here
      cases found.symm.trans at_
      rw [(arrive_fields _ _).1]
      rcases Numbered.mem_set_or tasked { task with replied := true } member with rfl | still
      · exact ⟨_, Numbered.mem_set tasked, rfl, rfl⟩
      · exact ⟨old, still, rfl, rfl⟩
    · exact ⟨old, member, rfl, rfl⟩
  · intro j other at_ request member
    split at member
    · next here =>
      subst here
      cases found.symm.trans at_
      rw [(arrive_fields _ _).2] at member
      exact .inl member
    · exact .inl member

theorem agents_run (agents : Agents s) {c i : Nat} {conn : Conn} {task : Task} (capd : CapdAnswer)
    (found : s.conns[c]? = some conn) (tasked : conn.tasks[i]? = some task) (fresh : task.capd = none) :
    Agents { s with
      conns := s.conns.set c { conn with tasks := conn.tasks.set i { task with capd := some capd } }
      executions := s.executions ++ [⟨c, task.request, capd⟩] } := by
  have conns (j : Nat) :
      (s.conns.set c { conn with tasks := conn.tasks.set i { task with capd := some capd } })[j]? = _ :=
    Numbered.getElem?_set found j
  have kept : ∀ e ∈ s.executions, e ∈ s.executions ++ [⟨c, task.request, capd⟩] := fun _ => List.mem_append_left _
  have unset : ∀ answer, task.capd = some answer → some capd = some answer := by simp [fresh]
  refine ⟨fun j other at_ => ?_, fun j other request at_ member => ?_, fun e member => ?_, ?_⟩
  · rw [conns] at at_
    obtain ⟨old, there, rfl⟩ := Option.map_eq_some_iff.mp at_
    have sound := agents.sound j old there
    split
    · next here =>
      subst here
      cases found.symm.trans there
      refine sound.setTask tasked rfl unset (fun answer ran => ?_) kept
      cases ran
      exact List.mem_append_right _ (List.mem_singleton.mpr rfl)
    · exact sound.more kept
  · rw [conns] at at_
    obtain ⟨old, there, rfl⟩ := Option.map_eq_some_iff.mp at_
    refine agents.asked j old request there ?_
    split at member
    · next here =>
      subst here
      cases found.symm.trans there
      exact member
    · exact member
  · rcases List.mem_append.mp member with old | new
    · obtain ⟨other, earlier, there, tasked', request, ran⟩ := agents.tasked e old
      by_cases here : c = e.conn
      · subst here
        cases found.symm.trans there
        refine ⟨_, earlier, by rw [conns, there, Option.map_some, if_pos rfl], ?_, request, ran⟩
        rcases Numbered.mem_set_or tasked { task with capd := some capd } tasked' with rfl | still
        · rw [fresh] at ran
          cases ran
        · exact still
      · exact ⟨other, earlier, by rw [conns, there, Option.map_some, if_neg here], tasked', request, ran⟩
    · cases List.mem_singleton.mp new
      exact ⟨_, { task with capd := some capd }, by rw [conns, found, Option.map_some, if_pos rfl],
        Numbered.mem_set tasked, rfl, rfl⟩
  · rw [List.map_append, List.nodup_append]
    refine ⟨agents.once, List.nodup_singleton _, ?_⟩
    rintro _ there _ (⟨⟩ | ⟨_, ⟨⟩⟩) same
    obtain ⟨e, member, rfl⟩ := List.mem_map.mp there
    obtain ⟨other, earlier, at_, tasked', request, ran⟩ := agents.tasked e member
    obtain ⟨here, id⟩ := Prod.mk.inj same
    cases found.symm.trans (here ▸ at_)
    have only := (agents.sound c conn found).task_eq tasked' (List.mem_of_getElem? tasked) (by rw [request]; exact id)
    rw [only, fresh] at ran
    cases ran

/-- The agent runs its own code: no `res` frame comes from anywhere but a task. -/
def Shipped : Label → Prop
  | .sends _ frame => frame = .other
  | _ => True

theorem agents_step (inv : Invariant s) (agents : Agents s) (shipped : Shipped l)
    (stepped : step fits s l = some t) : Agents t := by
  cases changes_of_step stepped with
  | accepted agentUuid => exact agents_accept agents agentUuid
  | pushed pushed => exact agents_push agents pushed
  | wrote called waits => exact agents_write agents inv called waits
  | advanced called moved =>
    refine agents.untouched (f := fun _ conn => conn) (Numbered.getElem?_same s.conns) (Numbered.getElem?_set called)
      rfl (fun _ conn _ => .refl conn) fun i other at_ => ?_
    split
    · next here =>
      subst here
      cases called.symm.trans at_
      exact ⟨moved.conn, moved.request, fun _ => moved.wrote⟩
    · exact .refl other
  | @finished p push outcome called _ =>
    refine agents.untouched (Numbered.getElem?_modify s.conns _ _) (Numbered.getElem?_set called) rfl
      (fun c conn _ => ?_) fun i other at_ => ?_
    · split
      · exact ⟨rfl, rfl, rfl, fun _ => id⟩
      · exact .refl conn
    · split
      · next here =>
        subst here
        cases called.symm.trans at_
        exact ⟨rfl, rfl, fun _ => rfl⟩
      · exact .refl other
  | received found empty arrived =>
    refine agents.puts found ?_ rfl (Numbered.getElem?_same s.pushes) rfl fun _ push _ => .refl push
    refine ⟨rfl, rfl, rfl, fun reply there => ?_⟩
    simpa [Conn.frames, empty, arrived] using there
  | handled found held =>
    refine agents.puts found ?_ rfl (getElem?_resolved s _ _) rfl fun p push _ => asks_took _ _ p push
    refine ⟨rfl, rfl, rfl, fun reply there => ?_⟩
    simpa [Conn.frames, held] using there
  | @cleaned c conn found =>
    refine agents.puts found ?_ rfl (fun p => List.getElem?_mapIdx) rfl fun p push _ => ?_
    · refine ⟨rfl, rfl, rfl, fun reply there => ?_⟩
      simp only [Conn.frames, Option.toList_none, List.append_nil, List.mem_append] at there ⊢
      exact there.imp_left .inl
    · split
      · exact asks_cancel push
      · exact .refl push
  | closed c => exact agents.moves c untouched_close
  | took found written => exact agents_take agents found written
  | ran capd found tasked fresh _ => exact agents_run agents capd found tasked fresh
  | replied found tasked answer => exact agents_reply agents found tasked answer
  | sent c frame label =>
    subst label
    obtain rfl : frame = .other := shipped
    exact agents.moves c untouched_arrive

/-! ### Commands end to end -/

/-- What the operator is told of what capd has answered. -/
def CapdAnswer.told (method : String) : CapdAnswer → Except Json Json
  | .result value => .ok (if value.truthy then value else .obj [])
  | .error text => .error (.str (if text = "" then method ++ " failed" else text))
  | .crash => .error (.str "internal agent error")

theorem commandResult_commandReply (request : Request) (capd : CapdAnswer) :
    commandResult request.method (commandReply request capd) = capd.told request.method := by
  cases capd with
  | result value => rfl
  | error text =>
    by_cases empty : text = ""
    · subst empty
      rfl
    · simp [commandResult, commandReply, CapdAnswer.told, Json.truthy, empty]
  | crash => rfl

theorem commandResult_unknownMethod (request : Request) :
    commandResult request.method (unknownMethod request) = .error (.str ("unknown method: " ++ request.method)) := by
  have some_ : "unknown method: " ++ request.method ≠ "" := by
    intro empty
    have := congrArg String.length empty
    simp at this
  simp [commandResult, unknownMethod, Json.truthy, some_]

theorem key_reply {task : Task} {reply : Reply} (replied : task.reply = some reply) :
    key reply.id = some task.request.id := by
  have named : ∀ id : Nat, key (.int id) = some id := by
    intro id
    simp [key]
  unfold Task.reply at replied
  split at replied
  · obtain ⟨capd, -, rfl⟩ := Option.map_eq_some_iff.mp replied
    cases capd <;> exact named task.request.id
  · cases replied
    exact named task.request.id

/-- Commands between operators and agents that run their own code. -/
structure Faithful (s : State) : Prop where
  /-- A call ends with what capd has answered to its own command, or the agent does not know the command. -/
  answered : ∀ push ∈ s.pushes, ∀ reply, push.phase = .done (.returned reply) →
    if push.method ∈ commands then
      ∃ capd, ⟨push.conn, push.request, capd⟩ ∈ s.executions ∧
        commandResult push.method reply = capd.told push.method
    else commandResult push.method reply = .error (.str ("unknown method: " ++ push.method))
  /-- capd gets what some operator has asked of this agent. -/
  asked : ∀ e ∈ s.executions, ∃ push ∈ s.pushes, push.conn = e.conn ∧ push.request = e.request ∧
    ∃ conn, s.conns[e.conn]? = some conn ∧ conn.agentUuid = push.agentUuid
  /-- It gets no command twice, and two commands on a connection have two ids. -/
  once : (s.executions.map fun e => (e.conn, e.request.id)).Nodup
  apart : ∀ (p q : Nat) push other, s.pushes[p]? = some push → s.pushes[q]? = some other →
    push.conn = other.conn → push.id = other.id → p = q

theorem faithful_of_agents (inv : Invariant s) (agents : Agents s) : Faithful s where
  answered push member reply done := by
    obtain ⟨p, at_⟩ := List.mem_iff_getElem?.mp member
    obtain ⟨conn, found, good⟩ := inv.served p push at_
    obtain ⟨n, future⟩ := good.returned reply done
    obtain ⟨-, frame, named⟩ := good.answered n reply future
    have sound := agents.sound push.conn conn found
    obtain ⟨task, tasked, replied⟩ := sound.answers reply
      (List.mem_append_left _ (List.mem_append_left _ (List.mem_of_getElem? frame)))
    -- the task of this reply has the request of this call
    have same : task.request = push.request := by
      have written : task.request ∈ conn.sent :=
        sound.sent ▸ List.mem_append_left _ (List.mem_map_of_mem tasked)
      obtain ⟨q, other, called, here, same, -⟩ := agents.asked push.conn conn task.request found written
      have id : push.id = other.id := by
        have := Option.some.inj ((key_reply replied).symm.trans named)
        rw [← this, ← same]
        rfl
      obtain rfl := inv.distinct p q push other at_ called here.symm id
      cases at_.symm.trans called
      exact same.symm
    change if push.request.method ∈ commands then _ else _
    unfold Task.reply at replied
    rw [← same]
    split_ifs at replied ⊢
    · obtain ⟨capd, ran, rfl⟩ := Option.map_eq_some_iff.mp replied
      exact ⟨capd, sound.ran task tasked capd ran, same ▸ commandResult_commandReply task.request capd⟩
    · cases replied
      exact same ▸ commandResult_unknownMethod task.request
  asked e member := by
    obtain ⟨conn, task, found, tasked, same, -⟩ := agents.tasked e member
    have written : e.request ∈ conn.sent := by
      rw [(agents.sound e.conn conn found).sent, ← same]
      exact List.mem_append_left _ (List.mem_map_of_mem tasked)
    obtain ⟨p, push, called, here, is, -⟩ := agents.asked e.conn conn e.request found written
    obtain ⟨conn', found', good⟩ := inv.served p push called
    rw [here] at found'
    cases found.symm.trans found'
    exact ⟨push, List.mem_of_getElem? called, here, is, conn, found, good.agent⟩
  once := agents.once
  apart := inv.distinct

/-- An agent is told to stop, capd answers, and a second connection of the agent takes over. -/
def stopped : List Label :=
  [.authenticates "a1", .pushes "a1" "stop" .null, .writes 0, .drains 0 true, .agentReads 0,
    .calls 0 0 (.result (.str "closed")), .replies 0 0, .authenticates "a1", .receives 0, .handles 0, .resumes 0,
    .ends 0]

/-- The call of that run ends with the answer. -/
example : ((run (step fun _ => true) State.init stopped).map fun s => s.pushes.map fun push =>
    match push.phase with
    | .done (.returned reply) => match commandResult push.method reply with
      | .ok (.str text) => text
      | _ => ""
    | _ => "") = some ["closed"] := rfl

end Marlinspike.Gateway.Pushes
