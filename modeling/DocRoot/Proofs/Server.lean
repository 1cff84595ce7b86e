import DocRoot.Proofs.Admission
import DocRoot.Server

/-!
# The count of a server

A server takes the steps of an accept with no other in between, and a connection leaves it as
soon as it has ended. So its count is one of those that come about in any order of the steps,
and it is the number of connections that are open.
-/

set_option autoImplicit false

namespace DocRoot.Server

open Admission

/-- The server as the acceptor sees it. -/
def admission (s : Server) : Admission :=
  ⟨s.active, List.replicate s.connections.length .serving, .idle⟩

/-- What a server becomes by what clients do. A connection that comes has a name of its own. -/
inductive Reached (site : Site) : Server → Prop
  | start : Reached site (.ofSite site)
  | accept {s : Server} {name : String} (peer : SocketAddr) : Reached site s →
      s.connection? name = none → Reached site (s.accept name peer).1
  | receive {s : Server} (t : FileTree) (timing : Timing) (name : String) (bs : Bytes) :
      Reached site s → Reached site (s.receive t timing name bs).1
  | finish {s : Server} (name : String) : Reached site s → Reached site (s.finish name).1

/-- No two connections share a name, and the count is one that comes about under the limit. -/
structure Counts (site : Site) (s : Server) : Prop where
  serves : s.site = site
  names : (s.connections.map (·.1)).Nodup
  reachable : Reachable site.settings.performance.maxConnections s.admission

variable {site : Site} {s : Server} {name : String} {c : Connection}
  {connections : List (String × Connection)}

theorem length_others (names : (connections.map (·.1)).Nodup)
    (h : connections.lookup name = some c) :
    (connections.filter (·.1 ≠ name)).length + 1 = connections.length := by
  induction connections with
  | nil => cases h
  | cons x connections ih =>
    obtain ⟨key, d⟩ := x
    obtain ⟨hkey, hnames⟩ := List.nodup_cons.mp names
    by_cases he : name = key
    · subst he
      have hall : connections.filter (·.1 ≠ name) = connections := by
        apply List.filter_eq_self.mpr
        intro y hy
        have hne : y.1 ≠ name := fun h => hkey (List.mem_map.mpr ⟨y, hy, h⟩)
        simpa using hne
      rw [List.filter_cons_of_neg (by simp), hall, List.length_cons]
    · have hlookup : connections.lookup name = some c := by
        have hb : (name == key) = false := beq_false_of_ne he
        simpa [List.lookup_cons, hb] using h
      rw [List.filter_cons_of_pos (by simpa using Ne.symm he), List.length_cons,
        ih hnames hlookup, List.length_cons]

theorem counts_start (site : Site) : Counts site (.ofSite site) where
  serves := rfl
  names := List.nodup_nil
  reachable := .empty

theorem not_mem_names (fresh : s.connection? name = none) : name ∉ s.connections.map (·.1) := by
  intro h
  obtain ⟨x, hx, rfl⟩ := List.mem_map.mp h
  exact absurd fresh (by simpa [connection?, List.lookup_eq_none_iff] using ⟨x.2, hx⟩)

/-- With no step of a task in between, an accept ends where `Server.accept` says. -/
theorem Counts.accept (h : Counts site s) (fresh : s.connection? name = none)
    (peer : SocketAddr) : Counts site (s.accept name peer).1 := by
  obtain ⟨rfl, names, reachable⟩ := h
  have none : OfTasks [] := by simp [OfTasks]
  have idle : s.admission.accepting = .idle := rfl
  have haccept := accept_eq reachable.sound idle
  have hcounter : s.admission.counter = s.active := rfl
  rw [hcounter] at haccept
  unfold Server.accept
  by_cases hroom : Room s.site.settings.performance.maxConnections s.admission.tasks.length
  · -- the connection comes first and its task last, but all tasks are alike
    have hrun : run s.site.settings.performance.maxConnections s.admission
        (acceptance [] [] .handOver) = some s.admission.joined := by
      refine (run_acceptance_iff reachable.sound idle none none rfl).mpr ⟨s.admission, rfl, ?_⟩
      rw [if_pos hroom]
      exact ⟨rfl, rfl⟩
    rw [if_pos hroom] at haccept
    refine ⟨by simp only [haccept], ?_, ?_⟩
    · simp only [haccept, List.map_cons]
      exact List.nodup_cons.mpr ⟨not_mem_names fresh, names⟩
    · have hjoined : s.admission.joined = admission { s with
          active := s.admission.joined.counter
          connections := (name, .start peer) :: s.connections } := by
        simp [joined, admission, List.replicate_succ']
      simp only [haccept]
      exact hjoined ▸ reachable.run hrun
  · rw [if_neg hroom] at haccept
    refine ⟨by simp only [haccept], by simpa only [haccept] using names, ?_⟩
    simp only [haccept]
    exact reachable

theorem run_leave {limit : Option UInt64} {active n : Nat} :
    run limit ⟨active, List.replicate (n + 1) .serving, .idle⟩ [.close 0, .release 0] =
      some ⟨lower active, List.replicate n .serving, .idle⟩ := by
  simp [run, step?, List.replicate_succ]

theorem Counts.update (h : Counts site s) (opened : s.connection? name = some c)
    (c' : Connection) : Counts site (s.update name c') := by
  obtain ⟨rfl, names, reachable⟩ := h
  have hlength := length_others names opened
  have hothers : ((s.connections.filter (·.1 ≠ name)).map (·.1)).Nodup :=
    names.sublist (List.filter_sublist.map _)
  unfold Server.update
  by_cases hclosed : c'.session.isClosed
  · simp only [hclosed, if_true]
    refine ⟨rfl, hothers, ?_⟩
    have hrun : run s.site.settings.performance.maxConnections s.admission
        [.close 0, .release 0] =
          some (admission { s with
            active := lower s.active
            connections := s.connections.filter (·.1 ≠ name) }) := by
      rw [admission, ← hlength]
      exact run_leave
    exact reachable.run hrun
  · simp only [hclosed]
    refine ⟨rfl, ?_, ?_⟩
    · refine List.nodup_cons.mpr ⟨?_, hothers⟩
      intro hmem
      obtain ⟨x, hx, rfl⟩ := List.mem_map.mp hmem
      simp at hx
    · have hsame : s.admission = admission { s with
          connections := (name, c') :: s.connections.filter (·.1 ≠ name) } := by
        rw [admission, admission, List.length_cons, hlength]
      exact hsame ▸ reachable

theorem Reached.counts (h : Reached site s) : Counts site s := by
  induction h with
  | start => exact counts_start site
  | accept peer _ fresh ih => exact ih.accept fresh peer
  | receive t timing name bs _ ih =>
    unfold Server.receive
    split
    · exact ih
    · rename_i c opened
      exact ih.update opened (c.take t _ timing bs).1
  | finish name _ ih =>
    unfold Server.finish
    split
    · exact ih
    · rename_i c opened
      exact ih.update opened c.finish.1

/-- Whatever clients do, the count of a server is the number of its open connections, which
is never over the limit. -/
theorem active_eq_length (h : Reached site s) :
    s.active = s.connections.length ∧
      ∀ n, site.settings.performance.maxConnections = some n →
        s.connections.length ≤ n.toNat := by
  have sound := h.counts.reachable.sound
  have hlength : s.admission.tasks.length = s.connections.length := List.length_replicate
  have hcounted : s.active = s.admission.tasks.length := sound.counted
  exact ⟨hcounted.trans hlength, hlength ▸ sound.capped⟩

end DocRoot.Server
