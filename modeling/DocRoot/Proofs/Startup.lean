import DocRoot.Proofs.Deadline
import DocRoot.Proofs.Serving.Run
import DocRoot.Proofs.Serving.Servable
import DocRoot.Proofs.Settings.Lookup
import DocRoot.Startup

/-!
# What settings make of a program

Settings that load are no promise that they serve. Of all that can be set, two fields stop a
program or a task in the middle: no workers at all, and a deadline past the last second of
the clock. Whatever else is wrong with them is an error that ends the program in order.
-/

set_option autoImplicit false

namespace DocRoot

namespace Startup

variable {listen : SocketAddr → Except Fault Unit} {dir : List Name} {t : FileTree}
  {b : LogBook} {s : Settings}

theorem serve_noWorkers (h : s.server.workers = some 0) :
    serve listen dir t s = .error .noWorkers := by
  simp only [serve, if_pos h]
  rfl

/-- With workers it is the address, the listening or the root that fails. -/
theorem serve_cases (listen : SocketAddr → Except Fault Unit) (dir : List Name) (t : FileTree)
    (h : s.server.workers ≠ some 0) :
    serve listen dir t s = .error .badAddress ∨
      (∃ cause, serve listen dir t s = .error (.fault cause)) ∨
      ∃ site address, serve listen dir t s = .ok ⟨site, address⟩ ∧
        Site.make t s dir = .ok site := by
  cases ha : SocketAddr.ofHostPort? s.server.host s.server.port with
  | none =>
    refine Or.inl ?_
    simp only [serve, if_neg h, ha]
    rfl
  | some address =>
    cases hl : listen address with
    | error cause =>
      refine Or.inr (Or.inl ⟨cause, ?_⟩)
      simp only [serve, if_neg h, ha, hl]
      rfl
    | ok u =>
      cases hm : Site.make t s dir with
      | error cause =>
        refine Or.inr (Or.inl ⟨cause, ?_⟩)
        simp only [serve, if_neg h, ha, hl, hm]
        rfl
      | ok site =>
        refine Or.inr (Or.inr ⟨site, address, ?_, rfl⟩)
        simp only [serve, if_neg h, ha, hl, hm]
        rfl

theorem settings_of_serve {running : Running} (h : serve listen dir t s = .ok running) :
    running.site.settings = s := by
  by_cases hw : s.server.workers = some 0
  · rw [serve_noWorkers hw] at h
    cases h
  rcases serve_cases listen dir t hw with haddress | ⟨cause, hfault⟩ | ⟨site, address, hok, hmade⟩
  · rw [haddress] at h
    cases h
  · rw [hfault] at h
    cases h
  · rw [hok] at h
    cases h
    obtain ⟨root, _, rfl⟩ := Site.make_eq_ok_iff.mp hmade
    rfl

theorem serve_aborts_iff (listen : SocketAddr → Except Fault Unit) (dir : List Name)
    (t : FileTree) :
    (∃ e, serve listen dir t s = .error e ∧ e.isAbort = true) ↔ s.server.workers = some 0 := by
  constructor
  · rintro ⟨e, he, habort⟩
    apply Classical.byContradiction
    intro hw
    rcases serve_cases listen dir t hw with haddress | ⟨cause, hfault⟩ | ⟨site, address, hok, _⟩
    · rw [haddress] at he
      cases he
      cases habort
    · rw [hfault] at he
      cases he
      cases habort
    · rw [hok] at he
      cases he
  · intro hw
    exact ⟨.noWorkers, serve_noWorkers hw, rfl⟩

/-- After settings have loaded, the log book is opened, and only then anything else. -/
theorem start_of_load (loaded : Settings.load b.files dir (utf8 Settings.fileStem) = .ok s) :
    (∃ cause, (b.openWith dir s.logging.accessLogFile s.logging.errorLogFile).2 = .error cause ∧
        (start listen dir b).2 = .error (.fault cause)) ∨
      ∃ files, (b.openWith dir s.logging.accessLogFile s.logging.errorLogFile).2 = .ok () ∧
        (start listen dir b).2 = serve listen dir files s := by
  simp only [start, openLogs, loaded]
  rcases b.openWith dir s.logging.accessLogFile s.logging.errorLogFile with ⟨b', cause | ⟨⟩⟩
  · exact Or.inl ⟨cause, rfl, rfl⟩
  · exact Or.inr ⟨b'.files, rfl, rfl⟩

end Startup

/-- Settings that load stop the program if they allow no workers, and stop a connection if it
waits for a head at an instant from which the clock cannot tell the deadline. Otherwise the
program serves each connection to its end, or fails to start with an error. -/
theorem loaded_settings_start_and_serve (listen : SocketAddr → Except Fault Unit)
    {dir : List Name} {b : LogBook} {s : Settings}
    (loaded : Settings.load b.files dir (utf8 Settings.fileStem) = .ok s) :
    ((∃ e, (Startup.start listen dir b).2 = .error e ∧ e.isAbort = true) ↔
      s.server.workers = some 0 ∧
        (b.openWith dir s.logging.accessLogFile s.logging.errorLogFile).2 = .ok ()) ∧
      ∀ running, (Startup.start listen dir b).2 = .ok running →
        running.site.settings = s ∧
        ∀ now peer,
          (Watched.start? running.site now peer = none ↔ ¬running.site.Tells now) ∧
          ∀ arrivals : List Arrival, running.site.Tells now →
            (∀ x ∈ arrivals, running.site.Tells x.now) →
            ∃ w, Watched.start? running.site now peer = some w ∧
              Watched.Follows (w.run running.site arrivals)
                ((Connection.start peer).run running.site arrivals) := by
  rcases Startup.start_of_load loaded with ⟨cause, hopen, hstart⟩ | ⟨files, hopen, hstart⟩
  · rw [hstart, hopen]
    refine ⟨?_, ?_⟩
    · constructor
      · rintro ⟨e, he, habort⟩
        cases he
        cases habort
      · rintro ⟨_, h⟩
        cases h
    · intro running h
      cases h
  · rw [hstart, hopen, Startup.serve_aborts_iff]
    refine ⟨by simp, ?_⟩
    intro running h
    refine ⟨Startup.settings_of_serve h, fun now peer => ⟨Watched.await?_eq_none_iff, ?_⟩⟩
    intro arrivals hnow harrivals
    exact Watched.exists_follows hnow harrivals peer

section Loaded
variable {text : String} {s : Settings}

theorem Startup.start_laterSettings (listen : SocketAddr → Except Fault Unit)
    (loaded : Settings.ofText .toml "fileserver.toml" text = .ok s)
    (access : s.logging.accessLogFile = none) (error : s.logging.errorLogFile = none) :
    (Startup.start listen [utf8 "www"] (.closed (laterSettings (utf8 text)))).2 =
      Startup.serve listen [utf8 "www"] (laterSettings (utf8 text)) s := by
  have hload : Settings.load (LogBook.closed (laterSettings (utf8 text))).files [utf8 "www"]
      (utf8 Settings.fileStem) = .ok s := Settings.load_laterSettings loaded
  simp only [Startup.start, Startup.openLogs, hload, access, error]
  rfl

def twoSecondsText : String := "[server]\nworkers = 1\n[performance]\nheader_read_timeout = 2\n"

def twoSeconds : Settings :=
  { Settings.defaults with
    server := { Settings.defaults.server with workers := some 1 }
    performance := { Settings.defaults.performance with headerReadTimeout := 2 } }

/-- The site of a root with only settings, which are these. -/
def laterSite (s : Settings) : Site :=
  ⟨s, [utf8 "www"], .standard, [[utf8 "www", utf8 "fileserver.toml"]]⟩

/-- A request in two parts, a second apart. -/
def twoParts : List Arrival :=
  [⟨bareRoot, ⟨7, 0⟩, ⟨⟨0, 0, 0⟩, 0⟩, utf8 "GET / HTTP/1.1\r\nHo"⟩,
    ⟨bareRoot, ⟨8, 0⟩, ⟨⟨0, 0, 0⟩, 0⟩, utf8 "st: a\r\n\r\n"⟩]

theorem ofText_twoSeconds :
    Settings.ofText .toml "fileserver.toml" twoSecondsText = .ok twoSeconds :=
  Settings.ofText_eq_ok (by decide +kernel)

theorem loaded_settings_start_and_serve_twoSeconds :
    Settings.load (laterSettings (utf8 twoSecondsText)) [utf8 "www"] (utf8 Settings.fileStem) =
        .ok twoSeconds ∧
      (¬∃ e, (Startup.start (fun _ => .ok ()) [utf8 "www"]
        (.closed (laterSettings (utf8 twoSecondsText)))).2 = .error e ∧ e.isAbort = true) ∧
      ∃ running, (Startup.start (fun _ => .ok ()) [utf8 "www"]
          (.closed (laterSettings (utf8 twoSecondsText)))).2 = .ok running ∧
        ∃ w, Watched.start? running.site ⟨7, 0⟩ .neighbour = some w ∧
          Watched.Follows (w.run running.site twoParts)
            ((Connection.start .neighbour).run running.site twoParts) := by
  have loaded : Settings.load (LogBook.closed (laterSettings (utf8 twoSecondsText))).files
      [utf8 "www"] (utf8 Settings.fileStem) = .ok twoSeconds :=
    Settings.load_laterSettings ofText_twoSeconds
  obtain ⟨aborts, served⟩ := loaded_settings_start_and_serve (fun _ => .ok ()) loaded
  refine ⟨loaded, fun h => absurd (aborts.mp h).1 (by decide), ?_⟩
  have start : (Startup.start (fun _ => .ok ()) [utf8 "www"]
      (.closed (laterSettings (utf8 twoSecondsText)))).2 =
        .ok ⟨laterSite twoSeconds, ⟨.v4 #v[0, 0, 0, 0], 8080, 0⟩⟩ :=
    Startup.start_laterSettings _ ofText_twoSeconds rfl rfl
  refine ⟨_, start, ?_⟩
  obtain ⟨_, connections⟩ := served _ start
  exact (connections ⟨7, 0⟩ .neighbour).2 twoParts (by decide) (by decide)

def noWorkersText : String := "[server]\nworkers = 0\n"

def noWorkers : Settings :=
  { Settings.defaults with server := { Settings.defaults.server with workers := some 0 } }

theorem ofText_noWorkers :
    Settings.ofText .toml "fileserver.toml" noWorkersText = .ok noWorkers :=
  Settings.ofText_eq_ok (by decide +kernel)

/-- Settings with the greatest number of seconds that can be written down. -/
def endlessText : String := "[performance]\nheader_read_timeout = 9223372036854775807\n"

def endless : Settings :=
  { Settings.defaults with
    performance :=
      { Settings.defaults.performance with headerReadTimeout := 9223372036854775807 } }

theorem ofText_endless : Settings.ofText .toml "fileserver.toml" endlessText = .ok endless :=
  Settings.ofText_eq_ok (by decide +kernel)

theorem not_tells_endless {now : Instant} (h : 1 ≤ now.seconds.toInt) :
    ¬(laterSite endless).Tells now := by
  have htimeout : (laterSite endless).settings.performance.headerReadTimeout =
      9223372036854775807 := rfl
  have hmax : Int64.maxValue.toInt = 9223372036854775807 := by decide
  rintro (hzero | hle)
  · rw [htimeout] at hzero
    exact absurd hzero (by decide)
  · rw [htimeout, hmax] at hle
    have hseconds : (9223372036854775807 : UInt64).toNat = 9223372036854775807 := by decide
    omega

/-- Settings that load stop the program before it listens if they allow no workers, and with
the greatest number of seconds for a head every connection is stopped at once. -/
theorem loaded_settings_stop_the_program :
    (Settings.load (laterSettings (utf8 noWorkersText)) [utf8 "www"] (utf8 Settings.fileStem) =
        .ok noWorkers ∧
      ∀ listen, (Startup.start listen [utf8 "www"]
          (.closed (laterSettings (utf8 noWorkersText)))).2 = .error .noWorkers ∧
        StartError.noWorkers.isAbort = true) ∧
    Settings.load (laterSettings (utf8 endlessText)) [utf8 "www"] (utf8 Settings.fileStem) =
        .ok endless ∧
      ∃ running, (Startup.start (fun _ => .ok ()) [utf8 "www"]
          (.closed (laterSettings (utf8 endlessText)))).2 = .ok running ∧
        ∀ now peer, 1 ≤ now.seconds.toInt → Watched.start? running.site now peer = none := by
  refine ⟨⟨Settings.load_laterSettings ofText_noWorkers, fun listen => ⟨?_, rfl⟩⟩,
    Settings.load_laterSettings ofText_endless, ?_⟩
  · rw [Startup.start_laterSettings listen ofText_noWorkers rfl rfl]
    exact Startup.serve_noWorkers rfl
  · have start : (Startup.start (fun _ => .ok ()) [utf8 "www"]
        (.closed (laterSettings (utf8 endlessText)))).2 =
          .ok ⟨laterSite endless, ⟨.v4 #v[0, 0, 0, 0], 8080, 0⟩⟩ :=
      Startup.start_laterSettings _ ofText_endless rfl rfl
    refine ⟨_, start, ?_⟩
    intro now peer h
    exact Watched.await?_eq_none_iff.mpr (not_tells_endless h)

end Loaded

end DocRoot
