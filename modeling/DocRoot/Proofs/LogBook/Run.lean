import DocRoot.LogBook
import DocRoot.Proofs.FileTree.Growth
import Mathlib.Data.List.Induction

/-!
# The log book over a run

A program writes lines and tries to open its book, in any order and as often as it likes. One
opening at most succeeds. The lines before it go to the stream, and from then on each line goes
where its log is kept, at the end of what is there. Two logs may be kept in one file.
-/

set_option autoImplicit false

namespace DocRoot

open FileTree

namespace LogBook

inductive Act
  | opening (access error : Option String)
  | line (kind : LogKind) (text : String)
  deriving Repr

namespace Act

def text? : Act → Option String
  | opening _ _ => none
  | line _ text => some text

/-- The line, if it goes to this target. -/
def lineTo? (route : LogKind → LogTarget) (target : LogTarget) : Act → Option String
  | opening _ _ => none
  | line kind text => if route kind = target then some text else none

end Act

/-- The lines that go to this target, in the order they are written. -/
def linesTo (route : LogKind → LogTarget) (target : LogTarget) (acts : List Act) : List String :=
  acts.filterMap (Act.lineTo? route target)

/-- The lines as a file holds them. -/
def bytesOf (lines : List String) : Bytes := lines.flatMap fun line => utf8 (line ++ "\n")

def act (base : List Name) (b : LogBook) : Act → LogBook
  | .opening access error => (b.openWith base access error).1
  | .line kind text => b.write kind text

def after (base : List Name) (b : LogBook) (acts : List Act) : LogBook := acts.foldl (act base) b

/-- The book of a program that has done this. -/
def since (base : List Name) (t : FileTree) (acts : List Act) : LogBook :=
  (closed t).after base acts

/-- After these acts the book can be opened, with the files that are named. -/
def Opens (base : List Name) (t : FileTree) (acts : List Act) (access error : Option String) :
    Prop :=
  ((since base t acts).openWith base access error).2 = .ok ()

/-- One of these acts has opened the book. -/
def HasOpened (base : List Name) (t : FileTree) (acts : List Act) : Prop :=
  ∃ before access error rest, acts = before ++ .opening access error :: rest ∧
    Opens base t before access error

/-- No log is kept in a device that does not take what is written. -/
def Writable (b : LogBook) : Prop :=
  ∀ kind place s, b.target kind = .file place → b.files.at? place = some (.special s) →
    s.writeFault = none

/-- Every log that is kept in a file has its file, or a device that takes what is written. -/
def Ready (b : LogBook) : Prop :=
  ∀ kind place, b.target kind = .file place →
    (∃ content, b.files.at? place = some (.file content)) ∨
      ∃ s, b.files.at? place = some (.special s) ∧ s.writeFault = none

end LogBook

/-- What a log is kept in when it is opened with this path: the file that the path leads to,
or the stream if there is no path. -/
inductive LogTarget.OpenedBy (t : FileTree) (base : List Name) : Option String → LogTarget → Prop
  | stream : OpenedBy t base none .stream
  | file {path : String} {place : Location} :
      t.Opened (Path.join base (utf8 path)) place → OpenedBy t base (some path) (.file place)

theorem LogTarget.OpenedBy.of_grows {t u : FileTree} {base : List Name} {path : Option String}
    {target : LogTarget} (h : target.OpenedBy t base path) (hg : t.Grows u) :
    target.OpenedBy u base path := by
  cases h with
  | stream => exact .stream
  | file h => exact .file (h.of_grows hg)

namespace LogBook

section Opening
variable (t : FileTree) (b : LogBook) (base : List Name) (access error : Option String)

theorem openFile_spec (path : Bytes) :
    t.Makes (openFile t base path).1 ∧ ∀ place, (openFile t base path).2 = .ok place →
      (openFile t base path).1.Opened (Path.join base path) place := by
  generalize hr : openFile t base path = r
  unfold openFile at hr
  dsimp only at hr
  have hmakes := t.makes_makeDirectories (if Path.isAbsolute path then [] else base)
    ((Path.pieces path).filter (· ≠ Path.dot)).dropLast
  split at hr
  case h_1 u e hdirs =>
    subst hr
    rw [hdirs] at hmakes
    exact ⟨hmakes, by simp⟩
  case h_2 u hdirs =>
    rw [hdirs] at hmakes
    split at hr
    case h_1 place v hopen =>
      subst hr
      obtain ⟨hv, hopened⟩ := openAppend_spec hopen
      refine ⟨hmakes.trans hv, ?_⟩
      intro l hl
      obtain rfl := Except.ok.inj hl
      exact hopened
    case h_2 e hopen =>
      subst hr
      exact ⟨hmakes, by simp⟩

theorem openTarget_spec (path : Option String) :
    t.Makes (openTarget t base path).1 ∧ ∀ target, (openTarget t base path).2 = .ok target →
      target.OpenedBy (openTarget t base path).1 base path := by
  cases path with
  | none =>
    refine ⟨.refl t, ?_⟩
    intro target h
    obtain rfl := Except.ok.inj h
    exact .stream
  | some path =>
    obtain ⟨hmakes, hopened⟩ := openFile_spec t base (utf8 path)
    simp only [openTarget]
    refine ⟨hmakes, ?_⟩
    intro target h
    cases hp : (openFile t base (utf8 path)).2 with
    | error e => simp [hp, Except.map] at h
    | ok place =>
      rw [hp] at h
      obtain rfl := Except.ok.inj h
      exact .file (hopened place hp)

theorem openTargets_spec :
    t.Makes (openTargets t base access error).1 ∧
      ∀ ts, (openTargets t base access error).2 = .ok ts →
        ts.access.OpenedBy (openTargets t base access error).1 base access ∧
          ts.error.OpenedBy (openTargets t base access error).1 base error := by
  generalize hr : openTargets t base access error = r
  unfold openTargets at hr
  have hfirst := openTarget_spec t base access
  split at hr
  case h_1 u e ha =>
    subst hr
    rw [ha] at hfirst
    exact ⟨hfirst.1, by simp⟩
  case h_2 u a ha =>
    rw [ha] at hfirst
    obtain ⟨htu, haccess⟩ := hfirst
    have hsecond := openTarget_spec u base error
    split at hr
    case h_1 v e he =>
      subst hr
      rw [he] at hsecond
      exact ⟨htu.trans hsecond.1, by simp⟩
    case h_2 v e he =>
      subst hr
      rw [he] at hsecond
      obtain ⟨huv, herror⟩ := hsecond
      refine ⟨htu.trans huv, ?_⟩
      intro ts hts
      obtain rfl := Except.ok.inj hts
      exact ⟨(haccess a rfl).of_grows huv.grows, herror e rfl⟩

theorem openWith_files :
    (b.openWith base access error).1.files = (openTargets b.files base access error).1 := by
  unfold openWith
  split
  · simp_all
  · split <;> simp_all

theorem openWith_stream : (b.openWith base access error).1.stream = b.stream := by
  unfold openWith
  split
  · rfl
  · split <;> rfl

theorem makes_openWith : b.files.Makes (b.openWith base access error).1.files := by
  rw [openWith_files]
  exact (openTargets_spec b.files base access error).1

variable {b base access error}

theorem openWith_of_fault {e : Fault} (h : (openTargets b.files base access error).2 = .error e) :
    (b.openWith base access error).2 = .error e ∧
      (b.openWith base access error).1.targets = b.targets := by
  unfold openWith
  split <;> simp_all

theorem openWith_of_closed {ts : LogTargets} (hb : b.targets = none)
    (h : (openTargets b.files base access error).2 = .ok ts) :
    (b.openWith base access error).2 = .ok () ∧
      (b.openWith base access error).1.targets = some ts := by
  unfold openWith
  split <;> simp_all

theorem openWith_of_taken {ts taken : LogTargets} (hb : b.targets = some taken)
    (h : (openTargets b.files base access error).2 = .ok ts) :
    (b.openWith base access error).2 = .error alreadyOpen := by
  unfold openWith
  split <;> simp_all

/-- What has succeeded found the book closed and all files there to be opened. -/
theorem targets_of_openWith (h : (b.openWith base access error).2 = .ok ()) :
    b.targets = none ∧ ∃ ts, (openTargets b.files base access error).2 = .ok ts ∧
      (b.openWith base access error).1.targets = some ts := by
  cases ht : (openTargets b.files base access error).2 with
  | error e => simp [(openWith_of_fault ht).1] at h
  | ok ts =>
    cases hb : b.targets with
    | none => exact ⟨rfl, ts, rfl, (openWith_of_closed hb ht).2⟩
    | some taken => simp [openWith_of_taken hb ht] at h

theorem targets_of_openWith_error {e : Fault} (h : (b.openWith base access error).2 = .error e) :
    (b.openWith base access error).1.targets = b.targets := by
  cases ht : (openTargets b.files base access error).2 with
  | error e => exact (openWith_of_fault ht).2
  | ok ts =>
    cases hb : b.targets with
    | none => simp [(openWith_of_closed hb ht).1] at h
    | some taken => exact (openWith_of_open b base access error hb).1

end Opening

section Acts
variable {b : LogBook} {base : List Name} {acts : List Act} {l : Location} {n : Node}

@[simp] theorem after_nil : b.after base [] = b := rfl

@[simp] theorem after_cons (a : Act) : b.after base (a :: acts) = (b.act base a).after base acts :=
  rfl

theorem after_append (rest : List Act) :
    b.after base (acts ++ rest) = (b.after base acts).after base rest :=
  List.foldl_append

@[simp] theorem bytesOf_append (lines more : List String) :
    bytesOf (lines ++ more) = bytesOf lines ++ bytesOf more :=
  List.flatMap_append

theorem linesTo_cons (route : LogKind → LogTarget) (target : LogTarget) (a : Act) :
    linesTo route target (a :: acts) =
      (a.lineTo? route target).toList ++ linesTo route target acts := by
  unfold linesTo
  cases h : a.lineTo? route target <;> simp [h]

theorem target_of_targets {c : LogBook} (h : c.targets = b.targets) : c.target = b.target := by
  funext kind
  rw [target, target, h]

theorem target_of_open {ts : LogTargets} (h : b.targets = some ts) : b.target = ts.of := by
  funext kind
  rw [target, h]

theorem target_of_closed (h : b.targets = none) : b.target = fun _ => .stream := by
  funext kind
  rw [target, h]

theorem targets_act {ts : LogTargets} (h : b.targets = some ts) (a : Act) :
    (b.act base a).targets = some ts := by
  cases a with
  | opening access error => exact (openWith_of_open b base access error h).1
  | line kind text => exact (write_targets b kind text).trans h

theorem targets_after {ts : LogTargets} (h : b.targets = some ts) :
    (b.after base acts).targets = some ts := by
  induction acts generalizing b with
  | nil => exact h
  | cons a acts ih => exact ih (targets_act h a)

/-- The targets are set once, so if they are the same at the end they never changed. -/
theorem targets_act_of_after {a : Act} (same : (b.after base (a :: acts)).targets = b.targets) :
    (b.act base a).targets = b.targets := by
  cases hb : b.targets with
  | some ts => exact targets_act hb a
  | none =>
    cases ha : (b.act base a).targets with
    | none => rfl
    | some ts =>
      rw [after_cons, targets_after ha, hb] at same
      cases same

theorem at?_write (kind : LogKind) (text : String) (h : b.files.at? l = some n) :
    (b.write kind text).files.at? l =
      some (n.appended (if b.target kind = .file l then utf8 (text ++ "\n") else [])) := by
  unfold write
  cases ht : b.target kind with
  | stream => simpa using h
  | file place =>
    have hplace : (LogTarget.file place = .file l) = (l = place) := by simp [eq_comm]
    simp only [hplace]
    cases ha : b.files.append place (utf8 (text ++ "\n")) with
    | ok files => exact at?_append ha h
    | error e =>
      by_cases hl : l = place
      · subst hl
        rw [if_pos rfl, appended_of_append_error ha h]
        exact h
      · rw [if_neg hl, Node.appended_nil]
        exact h

theorem stream_write (ready : b.Ready) (kind : LogKind) (text : String) :
    (b.write kind text).stream = b.stream ++ if b.target kind = .stream then [text] else [] := by
  unfold write
  cases ht : b.target kind with
  | stream => simp
  | file place =>
    have happend : ∃ files, b.files.append place (utf8 (text ++ "\n")) = .ok files := by
      rcases ready kind place ht with ⟨content, hn⟩ | ⟨s, hn, hw⟩
      · exact ⟨_, append_eq_ok_iff.mpr (.inl ⟨content, hn, rfl⟩)⟩
      · exact ⟨_, append_eq_ok_iff.mpr (.inr ⟨s, hn, hw, rfl⟩)⟩
    obtain ⟨files, happend⟩ := happend
    simp only [happend]
    simp

/-- One act leaves everything where it was, but for the line at the end of its file. -/
theorem at?_act (a : Act) (h : b.files.at? l = some n) :
    (b.act base a).files.at? l =
      some (n.appended (bytesOf (a.lineTo? b.target (.file l)).toList)) := by
  cases a with
  | opening access error =>
    have hkept := (makes_openWith b base access error).keeps l n h
    simpa [act, Act.lineTo?, bytesOf] using hkept
  | line kind text =>
    rw [act, at?_write kind text h, Act.lineTo?]
    split <;> simp [bytesOf]

theorem stream_act (ready : b.Ready) (a : Act) :
    (b.act base a).stream = b.stream ++ (a.lineTo? b.target .stream).toList := by
  cases a with
  | opening access error => simpa [act, Act.lineTo?] using openWith_stream b base access error
  | line kind text =>
    rw [act, stream_write ready, Act.lineTo?]
    split <;> rfl

theorem Ready.act (ready : b.Ready) {a : Act} (same : (b.act base a).targets = b.targets) :
    (b.act base a).Ready := by
  intro kind place ht
  rw [target_of_targets same] at ht
  rcases ready kind place ht with ⟨content, hn⟩ | ⟨s, hn, hw⟩
  · exact .inl ⟨_, at?_act a hn⟩
  · exact .inr ⟨s, at?_act a hn, hw⟩

/-- While the targets are the same, every node stays, and every file gets its lines. -/
theorem at?_after (same : (b.after base acts).targets = b.targets)
    (h : b.files.at? l = some n) :
    (b.after base acts).files.at? l =
      some (n.appended (bytesOf (linesTo b.target (.file l) acts))) := by
  induction acts generalizing b n with
  | nil => simpa [linesTo, bytesOf] using h
  | cons a acts ih =>
    have hstep := targets_act_of_after same
    rw [after_cons, ih (same.trans hstep.symm) (at?_act a h), target_of_targets hstep,
      Node.appended_appended, linesTo_cons, bytesOf_append]

theorem stream_after (same : (b.after base acts).targets = b.targets) (ready : b.Ready) :
    (b.after base acts).stream = b.stream ++ linesTo b.target .stream acts := by
  induction acts generalizing b with
  | nil => simp [linesTo]
  | cons a acts ih =>
    have hstep := targets_act_of_after same
    rw [after_cons, ih (same.trans hstep.symm) (ready.act hstep), target_of_targets hstep,
      stream_act ready, linesTo_cons, List.append_assoc]

theorem grows_after (same : (b.after base acts).targets = b.targets) :
    b.files.Grows (b.after base acts).files := by
  intro l n h
  exact ⟨_, at?_after same h⟩

/-- What is open stays what it is, so what can be written in the end could be from the start. -/
theorem ready_of_writable {ts : LogTargets} {access error : Option String}
    (hts : b.targets = some ts) (haccess : ts.access.OpenedBy b.files base access)
    (herror : ts.error.OpenedBy b.files base error)
    (writable : (b.after base acts).Writable) : b.Ready := by
  intro kind place ht
  have same : (b.after base acts).targets = b.targets := (targets_after hts).trans hts.symm
  have hopened : ∃ path, (b.target kind).OpenedBy b.files base path := by
    rw [target_of_open hts]
    cases kind with
    | access => exact ⟨access, haccess⟩
    | error => exact ⟨error, herror⟩
  obtain ⟨path, hopened⟩ := hopened
  rw [ht] at hopened
  cases hopened with
  | file hopened =>
    refine hopened.node.imp_right ?_
    rintro ⟨s, hdevice, _⟩
    refine ⟨s, hdevice, writable kind place s ?_ (at?_after same hdevice)⟩
    rw [target_of_targets same, ht]

/-- The file of a log, made while the book was closed or there before, gets the lines. -/
theorem logFile_after {t : FileTree} {kind : LogKind} {place : Location} (hmakes : t.Makes b.files)
    (ready : b.Ready) (same : (b.after base acts).targets = b.targets)
    (hplace : b.target kind = .file place)
    (plain : ∀ s, (b.after base acts).files.at? place ≠ some (.special s)) :
    (b.after base acts).files.at? place =
      some (.file (t.contentAt place ++ bytesOf (linesTo b.target (.file place) acts))) := by
  obtain ⟨content, hn⟩ := (ready kind place hplace).resolve_right
    fun ⟨s, hdevice, _⟩ => plain s (at?_after same hdevice)
  have hcontent : content = t.contentAt place := by
    rw [← hmakes.contentAt_eq, contentAt, hn]
  rw [at?_after same hn, hcontent]
  rfl

/-- A closed book writes to no file. -/
theorem makes_act (h : b.targets = none) (a : Act) : b.files.Makes (b.act base a).files := by
  cases a with
  | opening access error => exact makes_openWith b base access error
  | line kind text =>
    have hstream : b.target kind = .stream := by rw [target_of_closed h]
    simp only [act, write, hstream]
    exact .refl b.files

theorem makes_after (h : (b.after base acts).targets = none) :
    b.files.Makes (b.after base acts).files := by
  induction acts generalizing b with
  | nil => exact .refl b.files
  | cons a acts ih =>
    have hb : b.targets = none := by
      cases hb : b.targets with
      | none => rfl
      | some ts =>
        rw [targets_after hb] at h
        cases h
    exact (makes_act hb a).trans (ih h)

end Acts

section Since
variable {base : List Name} {t : FileTree} {acts rest : List Act} {access error : Option String}

theorem since_append : since base t (acts ++ rest) = (since base t acts).after base rest :=
  after_append rest

theorem ready_of_closed {b : LogBook} (h : b.targets = none) : b.Ready := by
  intro kind place ht
  rw [target_of_closed h] at ht
  cases ht

theorem linesTo_stream (acts : List Act) :
    linesTo (fun _ => .stream) .stream acts = acts.filterMap Act.text? := by
  have hroute : Act.lineTo? (fun _ => .stream) .stream = Act.text? := by
    funext a
    cases a <;> rfl
  rw [linesTo, hroute]

theorem since_closed (h : (since base t acts).targets = none) :
    (since base t acts).stream = acts.filterMap Act.text? ∧ t.Makes (since base t acts).files := by
  refine ⟨?_, makes_after h⟩
  have hstream := stream_after (b := closed t) h (ready_of_closed rfl)
  rw [target_of_closed rfl, linesTo_stream] at hstream
  exact hstream

theorem HasOpened.append (h : HasOpened base t acts) (rest : List Act) :
    HasOpened base t (acts ++ rest) := by
  obtain ⟨before, access, error, after, rfl, hopens⟩ := h
  exact ⟨before, access, error, after ++ rest, by simp, hopens⟩

/-- The book is open from the first opening that succeeds. -/
theorem targets_since_eq_none_iff :
    (since base t acts).targets = none ↔ ¬HasOpened base t acts := by
  constructor
  · rintro h ⟨before, access, error, rest, rfl, hopens⟩
    obtain ⟨_, ts, _, hts⟩ := targets_of_openWith hopens
    have hopen : (since base t (before ++ .opening access error :: rest)).targets = some ts := by
      rw [since_append, after_cons]
      exact targets_after hts
    rw [hopen] at h
    cases h
  · intro h
    induction acts using List.reverseRecOn with
    | nil => rfl
    | append_singleton acts a ih =>
      have hclosed := ih fun hopened => h (hopened.append [a])
      rw [since_append, after_cons, after_nil]
      cases a with
      | line kind text => exact (write_targets _ kind text).trans hclosed
      | opening access error =>
        cases hr : ((since base t acts).openWith base access error).2 with
        | ok done => exact absurd ⟨acts, access, error, [], rfl, hr⟩ h
        | error e => exact (targets_of_openWith_error hr).trans hclosed

/-- A book is opened once. -/
theorem openWith_of_hasOpened (h : HasOpened base t acts) (access error : Option String) :
    ((since base t acts).openWith base access error).2 ≠ .ok () ∧
      ((since base t acts).openWith base access error).1.targets = (since base t acts).targets ∧
      ∀ ts, (openTargets (since base t acts).files base access error).2 = .ok ts →
        ((since base t acts).openWith base access error).2 = .error alreadyOpen := by
  obtain ⟨taken, htaken⟩ :=
    Option.ne_none_iff_exists'.mp fun hnone => targets_since_eq_none_iff.mp hnone h
  obtain ⟨hkept, hfails⟩ := openWith_of_open (since base t acts) base access error htaken
  exact ⟨hfails, hkept.trans htaken.symm, fun _ hts => openWith_of_taken htaken hts⟩

/-- Opening finds every file where its path leads, and has changed none since the program
began. -/
theorem since_opening (h : Opens base t acts access error) :
    ∃ ts, (since base t (acts ++ [.opening access error])).targets = some ts ∧
      (since base t (acts ++ [.opening access error])).stream = acts.filterMap Act.text? ∧
      t.Makes (since base t (acts ++ [.opening access error])).files ∧
      ts.access.OpenedBy (since base t (acts ++ [.opening access error])).files base access ∧
      ts.error.OpenedBy (since base t (acts ++ [.opening access error])).files base error := by
  obtain ⟨hclosed, ts, hopened, hts⟩ := targets_of_openWith h
  obtain ⟨hstream, hmakes⟩ := since_closed hclosed
  obtain ⟨hmade, hspec⟩ := openTargets_spec (since base t acts).files base access error
  have hstep : since base t (acts ++ [.opening access error]) =
      ((since base t acts).openWith base access error).1 := by
    rw [since_append, after_cons, after_nil, act]
  rw [hstep, openWith_files, openWith_stream]
  exact ⟨ts, hts, hstream, hmakes.trans hmade, hspec ts hopened⟩

end Since

end LogBook

/-- Over any run of openings and lines, from any tree: as long as no opening has succeeded, the
lines go to the stream and no file is written to. An opening changes no file, it sets the
targets if it is the first that succeeds, and after that every opening fails. From then on
each line goes to the end of the file that its log is kept in, or to the stream, and nothing
else changes, even if both logs are kept in one file. A device keeps no line. -/
theorem every_line_reaches_its_log (base : List Name) (t : FileTree) :
    (∀ acts, ¬LogBook.HasOpened base t acts →
      (LogBook.since base t acts).targets = none ∧
        (LogBook.since base t acts).stream = acts.filterMap LogBook.Act.text? ∧
        t.Makes (LogBook.since base t acts).files) ∧
    (∀ acts access error b, b = LogBook.since base t acts →
      (∀ l n, b.files.at? l = some n →
        (b.openWith base access error).1.files.at? l = some n) ∧
      (∀ e, (LogBook.openTargets b.files base access error).2 = .error e →
        (b.openWith base access error).2 = .error e ∧
          (b.openWith base access error).1.targets = b.targets) ∧
      (¬LogBook.HasOpened base t acts →
        ∀ ts, (LogBook.openTargets b.files base access error).2 = .ok ts →
          (b.openWith base access error).2 = .ok () ∧
            (b.openWith base access error).1.targets = some ts) ∧
      (LogBook.HasOpened base t acts →
        (b.openWith base access error).2 ≠ .ok () ∧
          (b.openWith base access error).1.targets = b.targets ∧
          ∀ ts, (LogBook.openTargets b.files base access error).2 = .ok ts →
            (b.openWith base access error).2 = .error LogBook.alreadyOpen)) ∧
    (∀ before access error after b, LogBook.Opens base t before access error →
      b = LogBook.since base t (before ++ .opening access error :: after) → b.Writable →
      ∃ ts, b.targets = some ts ∧
        ts.access.OpenedBy b.files base access ∧ ts.error.OpenedBy b.files base error ∧
        b.stream = before.filterMap LogBook.Act.text? ++ LogBook.linesTo ts.of .stream after ∧
        (∀ kind place, ts.of kind = .file place →
          (∀ s, b.files.at? place ≠ some (.special s)) → b.files.at? place = some (.file
            (t.contentAt place ++ LogBook.bytesOf (LogBook.linesTo ts.of (.file place) after)))) ∧
        ∀ l n, t.at? l = some n → b.files.at? l =
          some (n.appended (LogBook.bytesOf (LogBook.linesTo ts.of (.file l) after)))) := by
  refine ⟨?_, ?_, ?_⟩
  · intro acts h
    have hclosed := LogBook.targets_since_eq_none_iff.mpr h
    exact ⟨hclosed, LogBook.since_closed hclosed⟩
  · rintro acts access error b rfl
    have hmakes := LogBook.makes_openWith (LogBook.since base t acts) base access error
    refine ⟨hmakes.keeps, fun e he => LogBook.openWith_of_fault he, ?_,
      fun h => LogBook.openWith_of_hasOpened h access error⟩
    intro h ts hts
    exact LogBook.openWith_of_closed (LogBook.targets_since_eq_none_iff.mpr h) hts
  · rintro before access error after b hopens rfl writable
    obtain ⟨ts, hts, hstream, hmakes, haccess, herror⟩ := LogBook.since_opening hopens
    rw [List.append_cons, LogBook.since_append] at writable ⊢
    generalize LogBook.since base t (before ++ [.opening access error]) = b at *
    have same : (b.after base after).targets = b.targets :=
      (LogBook.targets_after hts).trans hts.symm
    have ready : b.Ready := LogBook.ready_of_writable hts haccess herror writable
    have hgrows := LogBook.grows_after same
    have htarget : b.target = ts.of := LogBook.target_of_open hts
    refine ⟨ts, same.trans hts, haccess.of_grows hgrows, herror.of_grows hgrows, ?_, ?_, ?_⟩
    · rw [LogBook.stream_after same ready, hstream, htarget]
    · intro kind place hplace plain
      rw [← htarget] at hplace ⊢
      exact LogBook.logFile_after hmakes ready same hplace plain
    · intro l n hn
      rw [LogBook.at?_after same (hmakes.keeps l n hn), htarget]

/-- A log with a line in it, and a link to it. -/
def sharedLog : FileTree :=
  ⟨[([utf8 "all.log"], .file (utf8 "old\n")), ([utf8 "errors.log"], .link (utf8 "all.log"))]⟩

/-- A line, and an opening that fails because a file stands where a directory should. -/
def earlyActs : List LogBook.Act := [.line .error "early", .opening (some "all.log/x") none]

/-- Lines of both logs, and an opening that comes too late. -/
def lateActs : List LogBook.Act :=
  [.line .access "one", .line .error "two", .opening none none, .line .access "three"]

def sharedLogBook : LogBook :=
  LogBook.since [] sharedLog
    (earlyActs ++ .opening (some "all.log") (some "errors.log") :: lateActs)

theorem every_line_reaches_its_log_sharedLog :
    LogBook.Opens [] sharedLog earlyActs (some "all.log") (some "errors.log") ∧
      sharedLogBook.Writable ∧
      ∃ ts, sharedLogBook.targets = some ts ∧ ts.access = ts.error ∧
        sharedLogBook.stream = ["early"] ∧
        sharedLogBook.files.at? [utf8 "all.log"] =
          some (.file (utf8 "old\n" ++ utf8 "one\n" ++ utf8 "two\n" ++ utf8 "three\n")) := by
  have opens : LogBook.Opens [] sharedLog earlyActs (some "all.log") (some "errors.log") := by
    unfold LogBook.Opens
    decide +kernel
  have targets : sharedLogBook.targets =
      some ⟨.file [utf8 "all.log"], .file [utf8 "all.log"]⟩ := by
    decide +kernel
  have plain : ∀ place, LogTarget.file place = .file [utf8 "all.log"] →
      ∀ s, sharedLogBook.files.at? place ≠ some (.special s) := by
    intro place hplace s hs
    obtain rfl := LogTarget.file.inj hplace
    have hfile : (sharedLogBook.files.at? [utf8 "all.log"]).any (·.isFile) = true := by
      decide +kernel
    rw [hs] at hfile
    cases hfile
  have writable : sharedLogBook.Writable := by
    intro kind place s hplace hs
    rw [LogBook.target_of_open targets] at hplace
    refine absurd hs (plain place ?_ s)
    rw [← hplace]
    cases kind <;> rfl
  obtain ⟨_, _, hrun⟩ := every_line_reaches_its_log [] sharedLog
  obtain ⟨ts, hts, _, _, hstream, hlog, _⟩ := hrun _ _ _ _ _ opens rfl writable
  obtain rfl := Option.some.inj (targets.symm.trans hts)
  exact ⟨opens, writable, _, targets, rfl, hstream, hlog .access _ rfl (plain _ rfl)⟩

end DocRoot
