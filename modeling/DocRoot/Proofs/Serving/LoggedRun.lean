import DocRoot.Proofs.LogBook
import DocRoot.Proofs.Serving.Run
import DocRoot.Proofs.Serving.Secrecy
import DocRoot.Server

/-!
# Runs that leave their lines behind

Each request is answered on the files as they are, and its lines are written before the
next one comes, perhaps to a file that is served. Two runs on trees that differ in
protected contents alone cannot be told apart.
-/

set_option autoImplicit false

namespace DocRoot

open FileTree

/-- A request, who sends it and when it is answered. -/
structure Asked where
  request : Http.Request
  peer : SocketAddr
  timing : Timing

namespace Asked

def untimed (q : Asked) : Http.Request × SocketAddr := (q.request, q.peer)

end Asked

namespace Exchange

/-- The exchange with the times of its log entry left out. -/
def untimed (x : Exchange) : Exchange :=
  { x with access := x.access.map fun e => { e with time := ⟨0, 0, 0⟩, micros := 0 } }

/-- The lines that an exchange leaves in the logs. -/
def lines (site : Site) (x : Exchange) : List LogLine :=
  x.notices.map LogLine.ofNotice ++ ((accessLine? site x).map ((LogKind.access, ·))).toList

end Exchange

namespace LogBook

def writeLines (b : LogBook) (lines : List LogLine) : LogBook :=
  lines.foldl (fun b l => b.write l.1 l.2) b

/-- Answers a request on the files of the book, and writes its lines there. -/
def serve (site : Site) (b : LogBook) (q : Asked) : LogBook × Exchange :=
  let x := Exchange.handle b.files site q.request q.peer q.timing
  (b.writeLines (x.lines site), x)

def run (site : Site) : LogBook → List Asked → LogBook × List Exchange
  | b, [] => (b, [])
  | b, q :: asked =>
    ((run site (b.serve site q).1 asked).1,
      (b.serve site q).2 :: (run site (b.serve site q).1 asked).2)

end LogBook

section Handling
variable {t u : FileTree} {site : Site} {q q' : Asked}

theorem Exchange.handle_eq (alike : t.AlikeBut site.Protects u) (r : Http.Request)
    (peer : SocketAddr) (timing : Timing) :
    handle t site r peer timing = handle u site r peer timing := by
  simp only [handle, Serving.answer_eq alike]

/-- The clock is seen in the entry of the log and nowhere else. -/
theorem Exchange.handle_untimed (t : FileTree) (site : Site) (r : Http.Request)
    (peer : SocketAddr) (timing timing' : Timing) :
    (handle t site r peer timing).untimed = (handle t site r peer timing').untimed := by
  simp only [handle, untimed, entry]
  split <;> rfl

theorem Exchange.accessLog_of_isSome {r : Http.Request} {peer : SocketAddr} {timing : Timing}
    (h : (handle t site r peer timing).access.isSome = true) :
    site.settings.logging.accessLog = true := by
  simp only [handle] at h
  split at h
  · assumption
  · cases h

theorem Exchange.access_isSome_eq {x y : Exchange} (h : x.untimed = y.untimed) :
    x.access.isSome = y.access.isSome := by
  have ha := congrArg (fun z => z.access.isSome) h
  simpa [untimed] using ha

end Handling

namespace LogBook

section Alike
variable {secret : Location → Prop} {b c : LogBook}

theorem AlikeBut.writeLines (h : b.AlikeBut secret c) (lines : List LogLine) :
    (b.writeLines lines).AlikeBut secret (c.writeLines lines) := by
  induction lines generalizing b c with
  | nil => exact h
  | cons l lines ih => exact ih (h.write (Or.inl rfl))

theorem AlikeBut.writeLines_stream (h : b.AlikeBut secret c) (hs : b.stream = c.stream)
    (lines : List LogLine) :
    (b.writeLines lines).stream = (c.writeLines lines).stream := by
  induction lines generalizing b c with
  | nil => exact hs
  | cons l lines ih => exact ih (h.write (Or.inl rfl)) (h.write_stream hs l.1 l.2)

theorem writeLines_targets (b : LogBook) (lines : List LogLine) :
    (b.writeLines lines).targets = b.targets := by
  induction lines generalizing b with
  | nil => rfl
  | cons l lines ih => exact (ih (b.write l.1 l.2)).trans (write_targets b l.1 l.2)

theorem writeLines_append (b : LogBook) (ls ms : List LogLine) :
    b.writeLines (ls ++ ms) = (b.writeLines ls).writeLines ms := by
  simp [writeLines]

/-- Exchanges that agree but for the time leave books alike whose access log is secret. -/
theorem AlikeBut.writeLines_untimed (h : b.AlikeBut secret c) (site : Site) {x y : Exchange}
    (hxy : x.untimed = y.untimed)
    (hk : x.access.isSome = true → KeepsSecret secret b.targets .access) :
    (b.writeLines (x.lines site)).AlikeBut secret (c.writeLines (y.lines site)) := by
  have hnotices : x.notices = y.notices := congrArg (fun z => z.notices) hxy
  have hsome := Exchange.access_isSome_eq hxy
  have hlog := h.writeLines (x.notices.map LogLine.ofNotice)
  simp only [Exchange.lines, writeLines_append, ← hnotices, Exchange.accessLine?]
  cases hx : x.access with
  | none =>
    rw [hx] at hsome
    obtain hy : y.access = none := by simpa using hsome.symm
    rw [hy]
    exact hlog
  | some d =>
    rw [hx] at hsome
    obtain ⟨e, hy⟩ := Option.isSome_iff_exists.mp hsome.symm
    have hk' : KeepsSecret secret (b.writeLines (x.notices.map LogLine.ofNotice)).targets
        .access := by
      rw [writeLines_targets]
      exact hk (by rw [hx]; rfl)
    rw [hy]
    exact hlog.write (Or.inr hk')

end Alike

section Runs
variable {site : Site} {b c : LogBook}

theorem AlikeBut.serve (h : b.AlikeBut site.Protects c) (q : Asked) :
    (b.serve site q).2 = (c.serve site q).2 ∧
      (b.serve site q).1.AlikeBut site.Protects (c.serve site q).1 := by
  have hx := Exchange.handle_eq h.files q.request q.peer q.timing
  refine ⟨hx, ?_⟩
  simp only [LogBook.serve, hx]
  exact h.writeLines _

theorem AlikeBut.serve_stream (h : b.AlikeBut site.Protects c) (hs : b.stream = c.stream)
    (q : Asked) : (b.serve site q).1.stream = (c.serve site q).1.stream := by
  simp only [LogBook.serve, Exchange.handle_eq h.files q.request q.peer q.timing]
  exact h.writeLines_stream hs _

theorem AlikeBut.serve_untimed (h : b.AlikeBut site.Protects c)
    (hk : site.settings.logging.accessLog = true → KeepsSecret site.Protects b.targets .access)
    {q q' : Asked} (hq : q.untimed = q'.untimed) :
    (b.serve site q).2.untimed = (c.serve site q').2.untimed ∧
      (b.serve site q).1.AlikeBut site.Protects (c.serve site q').1 := by
  obtain ⟨r, peer, timing⟩ := q
  obtain ⟨r', peer', timing'⟩ := q'
  obtain ⟨rfl, rfl⟩ := Prod.mk.inj hq
  have hx : (Exchange.handle b.files site r peer timing).untimed =
      (Exchange.handle c.files site r peer timing').untimed := by
    rw [Exchange.handle_eq h.files, Exchange.handle_untimed]
  exact ⟨hx, h.writeLines_untimed site hx fun hs => hk (Exchange.accessLog_of_isSome hs)⟩

/-- With the same clock two runs are the same, line by line. -/
theorem AlikeBut.run (h : b.AlikeBut site.Protects c) (hs : b.stream = c.stream)
    (asked : List Asked) :
    (b.run site asked).2 = (c.run site asked).2 ∧
      (b.run site asked).1.stream = (c.run site asked).1.stream ∧
      (b.run site asked).1.AlikeBut site.Protects (c.run site asked).1 := by
  induction asked generalizing b c with
  | nil => exact ⟨rfl, hs, h⟩
  | cons q asked ih =>
    obtain ⟨hx, hbc⟩ := h.serve q
    obtain ⟨hxs, hrest⟩ := ih hbc (h.serve_stream hs q)
    refine ⟨?_, hrest⟩
    simp only [LogBook.run, hx, hxs]

/-- With two clocks they are the same but for the times, unless the log is served. -/
theorem AlikeBut.run_untimed (h : b.AlikeBut site.Protects c)
    (hk : site.settings.logging.accessLog = true → KeepsSecret site.Protects b.targets .access)
    {asked asked' : List Asked} (hq : asked.map Asked.untimed = asked'.map Asked.untimed) :
    (b.run site asked).2.map Exchange.untimed = (c.run site asked').2.map Exchange.untimed := by
  induction asked generalizing b c asked' with
  | nil =>
    obtain rfl : asked' = [] := by simpa using hq.symm
    rfl
  | cons q asked ih =>
    obtain ⟨q', rest, rfl, hqq, hrest⟩ := List.map_eq_cons_iff.mp hq.symm
    obtain ⟨hx, hbc⟩ := h.serve_untimed hk hqq.symm
    have hk' : site.settings.logging.accessLog = true →
        KeepsSecret site.Protects (b.serve site q).1.targets .access := by
      intro hl
      rw [LogBook.serve, writeLines_targets]
      exact hk hl
    simp only [LogBook.run, List.map_cons, hx, ih hbc hk' hrest.symm]

end Runs

end LogBook

/-- What protected files hold has no influence on what anyone is sent or what is logged,
over any sequence of requests, whether or not the logs are kept among the files. -/
theorem protected_contents_stay_unseen {t u : FileTree} {settings : Settings} {steps : List Name}
    {site : Site} (made : Site.make t settings steps = .ok site)
    (alike : t.AlikeBut site.Protects u) :
    Site.make u settings steps = .ok site ∧
      (∀ targets stream asked,
        (LogBook.run site ⟨targets, t, stream⟩ asked).2 =
            (LogBook.run site ⟨targets, u, stream⟩ asked).2 ∧
          (LogBook.run site ⟨targets, t, stream⟩ asked).1.stream =
            (LogBook.run site ⟨targets, u, stream⟩ asked).1.stream) ∧
      ∀ targets stream asked asked', asked.map Asked.untimed = asked'.map Asked.untimed →
        (site.settings.logging.accessLog = true →
          LogBook.KeepsSecret site.Protects targets .access) →
        (LogBook.run site ⟨targets, t, stream⟩ asked).2.map Exchange.untimed =
          (LogBook.run site ⟨targets, u, stream⟩ asked').2.map Exchange.untimed := by
  refine ⟨?_, ?_, ?_⟩
  · rw [← Site.make_eq alike]
    exact made
  · intro targets stream asked
    have h : LogBook.AlikeBut site.Protects ⟨targets, t, stream⟩ ⟨targets, u, stream⟩ :=
      ⟨rfl, alike⟩
    obtain ⟨hx, hs, _⟩ := h.run rfl asked
    exact ⟨hx, hs⟩
  · intro targets stream asked asked' hq hk
    have h : LogBook.AlikeBut site.Protects ⟨targets, t, stream⟩ ⟨targets, u, stream⟩ :=
      ⟨rfl, alike⟩
    exact h.run_untimed hk hq

/-- A root with its settings in it and a link to a key beside it, both with these contents. -/
def twoSecrets (key settings : Bytes) : FileTree :=
  ⟨[([utf8 "www"], .directory), ([utf8 "key"], .file key),
    ([utf8 "www", utf8 "link"], .link (utf8 "../key")),
    ([utf8 "www", utf8 "fileserver.ini"], .file settings)]⟩

def twoSecretsSite : Site :=
  ⟨.defaults, [utf8 "www"], .standard, [[utf8 "www", utf8 "fileserver.ini"]]⟩

def linkAndRoot : List Asked :=
  [⟨⟨.get, ⟨"/link", none⟩, .http11, []⟩, .neighbour, ⟨⟨0, 0, 0⟩, 0⟩⟩,
    ⟨⟨.get, ⟨"/", none⟩, .http11, []⟩, .neighbour, ⟨⟨0, 0, 0⟩, 7⟩⟩]

theorem protected_contents_stay_unseen_twoSecrets :
    Site.make (twoSecrets [1] []) .defaults [utf8 "www"] = .ok twoSecretsSite ∧
      (twoSecrets [1] []).AlikeBut twoSecretsSite.Protects (twoSecrets [2, 3] [4]) ∧
      Site.make (twoSecrets [2, 3] [4]) .defaults [utf8 "www"] = .ok twoSecretsSite ∧
      (LogBook.run twoSecretsSite ⟨none, twoSecrets [1] [], []⟩ linkAndRoot).2 =
        (LogBook.run twoSecretsSite ⟨none, twoSecrets [2, 3] [4], []⟩ linkAndRoot).2 := by
  have made : Site.make (twoSecrets [1] []) .defaults [utf8 "www"] = .ok twoSecretsSite := rfl
  have outside : ¬twoSecretsSite.root <+: [utf8 "key"] := by decide
  have hidden : [utf8 "www", utf8 "fileserver.ini"] ∈ twoSecretsSite.hidden :=
    List.mem_singleton.mpr rfl
  have alike : (twoSecrets [1] []).AlikeBut twoSecretsSite.Protects (twoSecrets [2, 3] [4]) :=
    .cons ⟨rfl, .same _⟩ (.cons ⟨rfl, .file _ _ (Or.inl outside)⟩ (.cons ⟨rfl, .same _⟩
      (.cons ⟨rfl, .file _ _ (Or.inr hidden)⟩ .nil)))
  obtain ⟨made', same, _⟩ := protected_contents_stay_unseen made alike
  exact ⟨made, alike, made', (same none [] _).1⟩

end DocRoot
