import DocRoot.Admission

/-!
# The count of connections

The counter holds as many as there are tasks, and one more while a connection is being
accepted. What the number was when a connection was counted decides on it: the tasks that
leave the count meanwhile come too late for it, and none can join them.
-/

set_option autoImplicit false

namespace DocRoot.Admission

/-- What can come about from the start, in any order of the steps. -/
inductive Reachable (limit : Option UInt64) : Admission → Prop
  | empty : Reachable limit .empty
  | step {a b : Admission} {e : Event} : Reachable limit a → step? limit a e = some b →
      Reachable limit b

/-- There is room for one more beside so many. -/
def Room (limit : Option UInt64) (running : Nat) : Prop := ∀ n, limit = some n → running < n.toNat

def OfTasks (events : List Event) : Prop := ∀ e ∈ events, e.isOfTask = true

/-- What happens while one connection is accepted: between the steps of the acceptor the
tasks take theirs. -/
def acceptance (m₁ m₂ : List Event) (last : Event) : List Event :=
  .count :: m₁ ++ .compare :: m₂ ++ [last]

/-- The same with one connection more. -/
def joined (a : Admission) : Admission :=
  { a with counter := a.counter + 1, tasks := a.tasks ++ [.serving] }

/-- The same while one more connection is accepted. -/
def during (a : Admission) (x : Accepting) : Admission :=
  { a with counter := a.counter + 1, accepting := x }

variable {limit : Option UInt64} {a b c : Admission} {e last : Event} {events m m₁ m₂ : List Event}
  {x : Accepting} {before : Nat}

theorem fits_iff : fits limit before = true ↔ Room limit before := by
  cases limit with
  | none => simp [fits, Room]
  | some n => simp [fits, Room]

instance (limit : Option UInt64) (running : Nat) : Decidable (Room limit running) :=
  decidable_of_iff _ fits_iff

section Runs

theorem run_cons : run limit a (e :: events) = (step? limit a e).bind (run limit · events) := rfl

theorem run_append : run limit a (m₁ ++ m₂) = (run limit a m₁).bind (run limit · m₂) := by
  induction m₁ generalizing a with
  | nil => rfl
  | cons e m₁ ih =>
    rw [List.cons_append, run_cons, run_cons, Option.bind_assoc]
    congr 1
    funext b
    exact ih

theorem run_singleton : run limit a [e] = step? limit a e := by
  rw [run_cons]
  cases step? limit a e <;> rfl

theorem run_induction {P : Admission → Prop}
    (keeps : ∀ a e b, P a → e ∈ events → step? limit a e = some b → P b) (ha : P a)
    (hrun : run limit a events = some b) : P b := by
  induction events generalizing a with
  | nil =>
    cases hrun
    exact ha
  | cons e events ih =>
    obtain ⟨c, hstep, hrest⟩ := Option.bind_eq_some_iff.mp hrun
    have hc : P c := keeps a e c ha (by simp) hstep
    exact ih (fun a' e' b' ha' he' => keeps a' e' b' ha' (by simp [he'])) hc hrest

theorem Reachable.run (h : Reachable limit a) (hrun : run limit a events = some b) :
    Reachable limit b :=
  run_induction (fun _ _ _ ha _ hstep => ha.step hstep) h hrun

theorem step_cases (h : step? limit a e = some b) :
    (e = .count ∧ a.accepting = .idle ∧
      b = { a with counter := a.counter + 1, accepting := .counted a.counter }) ∨
    (∃ before, e = .compare ∧ a.accepting = .counted before ∧
      b = { a with accepting := if fits limit before then .admitted else .refused before }) ∨
    (e = .handOver ∧ a.accepting = .admitted ∧
      b = { a with tasks := a.tasks ++ [.serving], accepting := .idle }) ∨
    (∃ before, e = .takeBack ∧ a.accepting = .refused before ∧
      b = { a with counter := a.counter - 1, accepting := .idle }) ∨
    (∃ i, e = .close i ∧ a.tasks[i]? = some .serving ∧
      b = { a with tasks := a.tasks.set i .ended }) ∨
    ∃ i, e = .release i ∧ a.tasks[i]? = some .ended ∧
      b = { a with counter := a.counter - 1, tasks := a.tasks.eraseIdx i } := by
  cases e with
  | count =>
    simp only [step?] at h
    split at h
    · rename_i hx
      exact .inl ⟨rfl, hx, (Option.some.inj h).symm⟩
    · cases h
  | compare =>
    simp only [step?] at h
    split at h
    · rename_i before hx
      exact .inr (.inl ⟨before, rfl, hx, (Option.some.inj h).symm⟩)
    · cases h
  | handOver =>
    simp only [step?] at h
    split at h
    · rename_i hx
      exact .inr (.inr (.inl ⟨rfl, hx, (Option.some.inj h).symm⟩))
    · cases h
  | takeBack =>
    simp only [step?] at h
    split at h
    · rename_i before hx
      exact .inr (.inr (.inr (.inl ⟨before, rfl, hx, (Option.some.inj h).symm⟩)))
    · cases h
  | close i =>
    simp only [step?] at h
    split at h
    · rename_i hi
      exact .inr (.inr (.inr (.inr (.inl ⟨i, rfl, hi, (Option.some.inj h).symm⟩))))
    · cases h
  | release i =>
    simp only [step?] at h
    split at h
    · rename_i hi
      exact .inr (.inr (.inr (.inr (.inr ⟨i, rfl, hi, (Option.some.inj h).symm⟩))))
    · cases h

end Runs

section Invariant

/-- What holds of the counter and the tasks at any time. -/
structure Sound (limit : Option UInt64) (a : Admission) : Prop where
  counted : a.counter = a.tasks.length + if a.accepting = .idle then 0 else 1
  capped : ∀ n, limit = some n → a.tasks.length ≤ n.toNat
  /-- Since a connection was counted there are no more tasks than there were then. -/
  fewer : ∀ before, a.accepting = .counted before → a.tasks.length ≤ before
  room : a.accepting = .admitted → Room limit a.tasks.length

theorem sound_empty : Sound limit .empty where
  counted := rfl
  capped := by simp [empty]
  fewer := by simp [empty]
  room := by simp [empty]

theorem length_eraseIdx {i : Nat} {p : TaskPhase} {tasks : List TaskPhase}
    (h : tasks[i]? = some p) : (tasks.eraseIdx i).length + 1 = tasks.length := by
  obtain ⟨hi, _⟩ := List.getElem?_eq_some_iff.mp h
  rw [List.length_eraseIdx_of_lt hi]
  omega

theorem Room.mono {k m : Nat} (h : Room limit m) (hkm : k ≤ m) : Room limit k :=
  fun n hn => Nat.lt_of_le_of_lt hkm (h n hn)

theorem Sound.step (h : Sound limit a) (hstep : step? limit a e = some b) : Sound limit b := by
  obtain ⟨hcount, hcap, hfewer, hroom⟩ := h
  rcases step_cases hstep with ⟨_, hx, rfl⟩ | ⟨before, _, hx, rfl⟩ | ⟨_, hx, rfl⟩ |
    ⟨before, _, hx, rfl⟩ | ⟨i, _, hi, rfl⟩ | ⟨i, _, hi, rfl⟩
  · -- there are as many tasks as the counter has shown
    rw [if_pos hx] at hcount
    exact ⟨by simp [hcount], hcap, by simp [hcount], by simp⟩
  · -- tasks may have left since the count, so there is room if there was then
    have hle := hfewer before hx
    rw [if_neg (by simp [hx])] at hcount
    refine ⟨?_, hcap, ?_, ?_⟩
    · split <;> simpa using hcount
    · intro n hn
      split at hn <;> cases hn
    · intro hadmitted
      simp only at hadmitted
      split at hadmitted
      · rename_i hfits
        exact (fits_iff.mp hfits).mono hle
      · cases hadmitted
  · have hspare := hroom hx
    rw [if_neg (by simp [hx])] at hcount
    refine ⟨by simpa using hcount, ?_, by simp, by simp⟩
    intro n hn
    rw [List.length_append]
    exact hspare n hn
  · rw [if_neg (by simp [hx])] at hcount
    exact ⟨by simp [hcount], hcap, by simp, by simp⟩
  · exact ⟨by simpa using hcount, by simpa using hcap, by simpa using hfewer,
      by simpa using hroom⟩
  · -- a task leaves the list and the counter at once
    have hlen := length_eraseIdx hi
    refine ⟨?_, ?_, ?_, ?_⟩
    · simp only
      omega
    · intro n hn
      have := hcap n hn
      simp only
      omega
    · intro before hx
      have := hfewer before hx
      simp only
      omega
    · intro hx
      exact (hroom hx).mono (by simp only; omega)

theorem Reachable.sound (h : Reachable limit a) : Sound limit a := by
  induction h with
  | empty => exact sound_empty
  | step _ hstep ih => exact ih.step hstep

theorem Sound.run (h : Sound limit a) (hrun : run limit a events = some b) : Sound limit b :=
  run_induction (fun _ _ _ ha _ hstep => ha.step hstep) h hrun

theorem Sound.lowers (h : Sound limit a) (hstep : step? limit a e = some b)
    (he : e = .takeBack ∨ ∃ i, e = .release i) : a.counter = b.counter + 1 := by
  have hcount := h.counted
  rcases step_cases hstep with ⟨rfl, _⟩ | ⟨_, rfl, _⟩ | ⟨rfl, _⟩ | ⟨_, _, hx, rfl⟩ |
    ⟨_, rfl, _⟩ | ⟨i, _, hi, rfl⟩
  · simp at he
  · simp at he
  · simp at he
  · rw [if_neg (by simp [hx])] at hcount
    simp only
    omega
  · simp at he
  · have hlen := length_eraseIdx hi
    simp only
    omega

end Invariant

section Interleaving

theorem accepting_of_task (he : e.isOfTask = true) (hstep : step? limit a e = some b) :
    b.accepting = a.accepting := by
  rcases step_cases hstep with ⟨rfl, _⟩ | ⟨_, rfl, _⟩ | ⟨rfl, _⟩ | ⟨_, rfl, _⟩ | ⟨_, _, _, rfl⟩ |
    ⟨_, _, _, rfl⟩
  · cases he
  · cases he
  · cases he
  · cases he
  · rfl
  · rfl

theorem accepting_of_tasks (hm : OfTasks m) (hrun : run limit a m = some b) :
    b.accepting = a.accepting := by
  refine run_induction (P := fun c => c.accepting = a.accepting) ?_ rfl hrun
  intro c e d hc he hstep
  exact (accepting_of_task (hm e he) hstep).trans hc

/-- The tasks do not notice that a connection is being accepted. -/
theorem step?_during (h : Sound limit a) (he : e.isOfTask = true) :
    step? limit (a.during x) e = (step? limit a e).map (·.during x) := by
  cases e with
  | close i =>
    simp only [step?, during]
    split <;> rfl
  | release i =>
    have hcount := h.counted
    simp only [step?, during, lower]
    split
    · rename_i hi
      have hlen := length_eraseIdx hi
      have hcounter : a.counter + 1 - 1 = a.counter - 1 + 1 := by omega
      simp [hcounter]
    · rfl
  | _ => cases he

theorem run_during (h : Sound limit a) (hm : OfTasks m) :
    run limit (a.during x) m = (run limit a m).map (·.during x) := by
  induction m generalizing a with
  | nil => rfl
  | cons e m ih =>
    obtain ⟨he, hm⟩ := List.forall_mem_cons.mp hm
    rw [run_cons, run_cons, step?_during h he]
    cases hstep : step? limit a e with
    | none => rfl
    | some c => exact ih (h.step hstep) hm

theorem step?_admitted (idle : c.accepting = .idle) (hl : last.isOfTask = false) :
    step? limit (c.during .admitted) last = some b ↔ last = .handOver ∧ b = c.joined := by
  have hend : ({ c.during .admitted with
      tasks := c.tasks ++ [.serving], accepting := .idle } : Admission) = c.joined := by
    rw [during, joined, idle]
  cases last with
  | handOver => simpa [step?, during] using hend ▸ eq_comm
  | close i => cases hl
  | release i => cases hl
  | _ => simp [step?, during]

theorem step?_refused (idle : c.accepting = .idle) (hl : last.isOfTask = false) :
    step? limit (c.during (.refused before)) last = some b ↔ last = .takeBack ∧ b = c := by
  have hend : ({ c.during (.refused before) with
      counter := c.counter, accepting := .idle } : Admission) = c := by
    rw [during, ← idle]
  cases last with
  | takeBack => simpa [step?, during, lower] using hend ▸ eq_comm
  | close i => cases hl
  | release i => cases hl
  | _ => simp [step?, during]

/-- An accept sees the counter once, and of what the tasks do meanwhile nothing. -/
theorem run_acceptance (h : Sound limit a) (idle : a.accepting = .idle) (h₁ : OfTasks m₁)
    (h₂ : OfTasks m₂) :
    run limit a (acceptance m₁ m₂ last) = (run limit a (m₁ ++ m₂)).bind fun c =>
      step? limit
        (c.during (if fits limit a.counter then .admitted else .refused a.counter)) last := by
  have hcount : step? limit a .count = some (a.during (.counted a.counter)) := by
    simp only [step?, idle]
    rfl
  rw [acceptance, List.append_assoc, List.cons_append, run_cons, hcount, Option.bind_some,
    run_append, run_append, run_during h h₁]
  cases hc : run limit a m₁ with
  | none => rfl
  | some c =>
    have hcompare : step? limit (c.during (.counted a.counter)) .compare =
        some (c.during (if fits limit a.counter then .admitted else .refused a.counter)) := rfl
    rw [Option.map_some, Option.bind_some, Option.bind_some, List.cons_append, run_cons, hcompare,
      Option.bind_some, run_append, run_during (h.run hc) h₂]
    cases run limit c m₂ with
    | none => rfl
    | some d => exact run_singleton

/-- A connection is let in if there was room when it was counted. Otherwise all is as if it had
not come. -/
theorem run_acceptance_iff (h : Sound limit a) (idle : a.accepting = .idle) (h₁ : OfTasks m₁)
    (h₂ : OfTasks m₂) (hl : last.isOfTask = false) :
    run limit a (acceptance m₁ m₂ last) = some b ↔
      ∃ c, run limit a (m₁ ++ m₂) = some c ∧
        if Room limit a.tasks.length then last = .handOver ∧ b = c.joined
        else last = .takeBack ∧ b = c := by
  have hcounter : a.counter = a.tasks.length := by simpa [idle] using h.counted
  have hm : OfTasks (m₁ ++ m₂) := by
    intro e he
    exact (List.mem_append.mp he).elim (h₁ e) (h₂ e)
  rw [run_acceptance h idle h₁ h₂, hcounter, Option.bind_eq_some_iff]
  apply exists_congr
  intro c
  apply and_congr_right
  intro hc
  have hidle : c.accepting = .idle := (accepting_of_tasks hm hc).trans idle
  by_cases hroom : Room limit a.tasks.length
  · rw [if_pos (fits_iff.mpr hroom), if_pos hroom, step?_admitted hidle hl]
  · rw [if_neg (mt fits_iff.mp hroom), if_neg hroom, step?_refused hidle hl]

theorem next_of_acceptor (hx : a.accepting ≠ .idle) (hrun : run limit a events = some b)
    (hb : b.accepting = .idle) :
    ∃ m e rest c d, events = m ++ e :: rest ∧ OfTasks m ∧ e.isOfTask = false ∧
      c.accepting = a.accepting ∧ step? limit c e = some d ∧ run limit d rest = some b := by
  induction events generalizing a with
  | nil =>
    cases hrun
    exact absurd hb hx
  | cons e events ih =>
    obtain ⟨c, hstep, hrest⟩ := Option.bind_eq_some_iff.mp hrun
    cases he : e.isOfTask with
    | false => exact ⟨[], e, events, a, c, rfl, by simp [OfTasks], he, rfl, hstep, hrest⟩
    | true =>
      have hc := accepting_of_task he hstep
      obtain ⟨m, e', rest, c', d, rfl, hm, he', hc', hstep', hrest'⟩ := ih (hc ▸ hx) hrest
      refine ⟨e :: m, e', rest, c', d, rfl, ?_, he', hc'.trans hc, hstep', hrest'⟩
      exact List.forall_mem_cons.mpr ⟨he, hm⟩

/-- Whatever happens from the count of a connection on until no connection is accepted, it
begins with one whole accept. -/
theorem exists_acceptance (idle : a.accepting = .idle)
    (hrun : run limit a (.count :: events) = some b) (hb : b.accepting = .idle) :
    ∃ m₁ m₂ last rest, .count :: events = acceptance m₁ m₂ last ++ rest ∧ OfTasks m₁ ∧
      OfTasks m₂ ∧ last.isOfTask = false := by
  obtain ⟨c, hcount, hrest⟩ := Option.bind_eq_some_iff.mp hrun
  have hc : c.accepting = .counted a.counter := by
    simp only [step?, idle, raise] at hcount
    cases hcount
    rfl
  obtain ⟨m₁, e, rest, c', d, rfl, h₁, he, hc', hstep, hrest'⟩ :=
    next_of_acceptor (by simp [hc]) hrest hb
  rw [hc] at hc'
  -- with a connection counted, the acceptor can only compare
  have hcompare : e = .compare ∧ d.accepting ≠ .idle := by
    rcases step_cases hstep with ⟨_, hx, _⟩ | ⟨before, rfl, _, rfl⟩ | ⟨_, hx, _⟩ | ⟨_, _, hx, _⟩ |
      ⟨_, rfl, _⟩ | ⟨_, rfl, _⟩
    · cases hx.symm.trans hc'
    · refine ⟨rfl, ?_⟩
      simp only
      split <;> simp
    · cases hx.symm.trans hc'
    · cases hx.symm.trans hc'
    · cases he
    · cases he
  obtain ⟨rfl, hd⟩ := hcompare
  obtain ⟨m₂, last, rest', _, _, rfl, h₂, hlast, _⟩ := next_of_acceptor hd hrest' hb
  exact ⟨m₁, m₂, last, rest', by simp [acceptance], h₁, h₂, hlast⟩

theorem accept_eq (h : Sound limit a) (idle : a.accepting = .idle) :
    accept limit a.counter =
      if Room limit a.tasks.length then (a.joined.counter, none)
      else (a.counter, some a.tasks.length) := by
  have hcounter : a.counter = a.tasks.length := by simpa [idle] using h.counted
  by_cases hroom : Room limit a.tasks.length
  · simp [accept, hroom, fits_iff, hcounter, joined]
  · simp [accept, hroom, fits_iff, hcounter]

/-- In whatever order the steps are taken, the counter tells the connections and the one
being accepted, and it is never lowered below zero. There are never more connections than
the limit, and a connection is let in if and only if there was room when it was counted. -/
theorem connections_counted_and_capped (limit : Option UInt64) {a : Admission}
    (reachable : Reachable limit a) :
    (a.counter = a.tasks.length + if a.accepting = .idle then 0 else 1) ∧
      (∀ n, limit = some n → a.tasks.length ≤ n.toNat) ∧
      (∀ e b, step? limit a e = some b → (e = .takeBack ∨ ∃ i, e = .release i) →
        a.counter = b.counter + 1) ∧
      (a.accepting = .idle → a.tasks = [] → a.counter = 0) ∧
      (a.accepting = .idle →
        (∀ events b, run limit a (.count :: events) = some b → b.accepting = .idle →
          ∃ m₁ m₂ last rest, .count :: events = acceptance m₁ m₂ last ++ rest ∧ OfTasks m₁ ∧
            OfTasks m₂ ∧ last.isOfTask = false) ∧
        (∀ m₁ m₂ last b, OfTasks m₁ → OfTasks m₂ → last.isOfTask = false →
          (run limit a (acceptance m₁ m₂ last) = some b ↔
            ∃ c, run limit a (m₁ ++ m₂) = some c ∧
              if Room limit a.tasks.length then last = .handOver ∧ b = c.joined
              else last = .takeBack ∧ b = c)) ∧
        accept limit a.counter =
          if Room limit a.tasks.length then (a.joined.counter, none)
          else (a.counter, some a.tasks.length)) := by
  have sound := reachable.sound
  refine ⟨sound.counted, sound.capped, fun e b hstep he => sound.lowers hstep he, ?_, ?_⟩
  · intro idle htasks
    simpa [idle, htasks] using sound.counted
  · intro idle
    refine ⟨fun events b hrun hb => exists_acceptance idle hrun hb, ?_, accept_eq sound idle⟩
    intro m₁ m₂ last b h₁ h₂ hl
    exact run_acceptance_iff sound idle h₁ h₂ hl

/-- At a limit of one, a connection that comes while the only task has yet to leave the count
is refused, though the task has left it by the time of the comparison. -/
theorem connections_counted_and_capped_late_release :
    ∃ a, run (some 1) .empty [.count, .compare, .handOver, .close 0] = some a ∧
      a = ⟨1, [.ended], .idle⟩ ∧ ¬Room (some 1) a.tasks.length ∧
      run (some 1) a (acceptance [.release 0] [] .takeBack) = some .empty ∧
      run (some 1) a (acceptance [.release 0] [] .handOver) = none := by
  have start : run (some 1) .empty [.count, .compare, .handOver, .close 0] =
      some ⟨1, [.ended], .idle⟩ := rfl
  obtain ⟨_, _, _, _, accepting⟩ :=
    connections_counted_and_capped (some 1) (Reachable.empty.run start)
  obtain ⟨_, accepts, _⟩ := accepting rfl
  have full : ¬Room (some 1) [TaskPhase.ended].length := by decide
  have tasks : OfTasks [.release 0] := by simp [OfTasks, Event.isOfTask]
  refine ⟨_, start, rfl, full, ?_, ?_⟩
  · refine (accepts _ _ _ _ tasks (by simp [OfTasks]) rfl).mpr ⟨.empty, rfl, ?_⟩
    rw [if_neg full]
    exact ⟨rfl, rfl⟩
  · apply Option.eq_none_iff_forall_ne_some.mpr
    intro b hb
    obtain ⟨_, _, hlast⟩ := (accepts _ _ _ _ tasks (by simp [OfTasks]) rfl).mp hb
    rw [if_neg full] at hlast
    cases hlast.1

end Interleaving

end DocRoot.Admission
