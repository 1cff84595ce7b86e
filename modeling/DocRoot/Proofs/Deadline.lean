import DocRoot.Deadline

/-!
# Connections that are served to their end

Whether the clock can tell a deadline depends on the instant at which it is set and on the
number of seconds alone. Where it always can, a watched connection sends and logs what it
would without a deadline.
-/

set_option autoImplicit false

namespace DocRoot

namespace Instant

variable {i d : Instant} {seconds : UInt64}

theorem later?_eq_none_iff :
    i.later? seconds = none ↔ Int64.maxValue.toInt < i.seconds.toInt + seconds.toNat := by
  simp [later?]

end Instant

/-- The clock can tell a deadline for a head that is set at this instant. -/
def Site.Tells (site : Site) (now : Instant) : Prop :=
  site.settings.performance.headerReadTimeout = 0 ∨
    now.seconds.toInt + site.settings.performance.headerReadTimeout.toNat ≤
      Int64.maxValue.toInt

instance (site : Site) (now : Instant) : Decidable (site.Tells now) :=
  inferInstanceAs (Decidable (_ ∨ _))

/-- What comes in at an instant, while the files are these. -/
structure Arrival where
  files : FileTree
  now : Instant
  timing : Timing
  bytes : Bytes

def Connection.run (site : Site) : Connection → List Arrival → Connection × Bytes × List LogLine
  | c, [] => (c, [], [])
  | c, x :: arrivals =>
    let (c, out, told) := c.take x.files site x.timing x.bytes
    let (c, later, tail) := c.run site arrivals
    (c, out ++ later, told ++ tail)

namespace Watched

/-- A watched connection, over all that comes in until its task stops. -/
def run (site : Site) : Watched → List Arrival → Option Watched × Bytes × List LogLine
  | w, [] => (some w, [], [])
  | w, x :: arrivals =>
    match w.take x.files site x.now x.timing x.bytes with
    | (none, out, told) => (none, out, told)
    | (some w, out, told) =>
      let (left, later, tail) := w.run site arrivals
      (left, out ++ later, told ++ tail)

/-- What is left and what was sent and told is what there is of a connection without
deadlines. -/
def Follows (result : Option Watched × Bytes × List LogLine)
    (untimed : Connection × Bytes × List LogLine) : Prop :=
  ∃ w, result = (some w, untimed.2) ∧ w.connection = untimed.1

variable {t : FileTree} {site : Site} {now : Instant} {timing : Timing} {peer : SocketAddr}
  {w : Watched} {c : Connection} {b : UInt8}

theorem await?_eq_none_iff : await? site now c = none ↔ ¬site.Tells now := by
  unfold await? Site.Tells
  by_cases h : site.settings.performance.headerReadTimeout = 0
  · simp [h]
  · simp [h, Instant.later?_eq_none_iff]

theorem connection_of_await? (h : await? site now c = some w) : w.connection = c := by
  simp only [await?] at h
  split at h
  · cases h
    rfl
  · obtain ⟨d, _, rfl⟩ := Option.map_eq_some_iff.mp h
    rfl

theorem exists_await? (h : site.Tells now) (c : Connection) :
    ∃ w, await? site now c = some w ∧ w.connection = c := by
  cases hw : await? site now c with
  | none => exact absurd h (await?_eq_none_iff.mp hw)
  | some w => exact ⟨w, rfl, connection_of_await? hw⟩

theorem exists_next? (h : site.Tells now) (w : Watched) (b : UInt8) (c : Connection) :
    ∃ w', w.next? site now b c = some w' ∧ w'.connection = c := by
  unfold next?
  split
  · exact ⟨_, rfl, rfl⟩
  · split
    · exact exists_await? h c
    · exact ⟨_, rfl, rfl⟩

/-- A connection that is not stopped is the one without deadlines. -/
theorem follows_take (h : site.Tells now) (w : Watched) (bs : Bytes) :
    Follows (w.take t site now timing bs) (w.connection.take t site timing bs) := by
  induction bs generalizing w with
  | nil => exact ⟨w, rfl, rfl⟩
  | cons b bs ih =>
    rw [take, Connection.take]
    rcases w.connection.takeByte t site timing b with ⟨c, out, told⟩
    obtain ⟨w', hw', rfl⟩ := exists_next? h w b c
    obtain ⟨left, hleft, hconnection⟩ := ih w'
    simp only [hw', hleft]
    exact ⟨left, rfl, hconnection⟩

theorem follows_run {arrivals : List Arrival} (h : ∀ x ∈ arrivals, site.Tells x.now)
    (w : Watched) : Follows (w.run site arrivals) (w.connection.run site arrivals) := by
  induction arrivals generalizing w with
  | nil => exact ⟨w, rfl, rfl⟩
  | cons x arrivals ih =>
    obtain ⟨hx, harrivals⟩ := List.forall_mem_cons.mp h
    obtain ⟨w', htake, hw'⟩ := follows_take hx w x.bytes
    rcases hc : w.connection.take x.files site x.timing x.bytes with ⟨c, out, told⟩
    rw [hc] at htake hw'
    rw [run, Connection.run, htake, hc]
    obtain rfl : w'.connection = c := hw'
    obtain ⟨left, hleft, hconnection⟩ := ih harrivals w'
    simp only [hleft]
    exact ⟨left, rfl, hconnection⟩

/-- A connection from which the clock can tell every deadline is served to its end. -/
theorem exists_follows {arrivals : List Arrival} (hnow : site.Tells now)
    (h : ∀ x ∈ arrivals, site.Tells x.now) (peer : SocketAddr) :
    ∃ w, start? site now peer = some w ∧
      Follows (w.run site arrivals) ((Connection.start peer).run site arrivals) := by
  obtain ⟨w, hw, hconnection⟩ := exists_await? hnow (.start peer)
  rw [← hconnection]
  exact ⟨w, hw, follows_run h w⟩

end Watched

end DocRoot
