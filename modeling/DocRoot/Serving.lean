import DocRoot.Http.Request
import DocRoot.Listing
import DocRoot.RequestPath
import DocRoot.Site

/-!
# Serving a path

A path leads to a node below the root, and the node decides the answer: a file is
sent, a directory is sent as its index file or as a listing, and a directory asked
for without a slash at the end is redirected. Nothing is served whose place, links
followed, is outside the root or hidden.
-/

set_option autoImplicit false

namespace DocRoot.Serving

open Http

/-- An answer or a refusal, with what the operator is told on the way. -/
structure Outcome (α : Type) where
  result : Except Refusal α
  notices : List Notice

namespace Outcome

variable {α β : Type}

def ok (a : α) : Outcome α := ⟨.ok a, []⟩
def refuse (r : Refusal) : Outcome α := ⟨.error r, []⟩
def told (a : α × List Notice) : Outcome α := ⟨.ok a.1, a.2⟩

def bind (x : Outcome α) (f : α → Outcome β) : Outcome β :=
  match x.result with
  | .ok a => ⟨(f a).result, x.notices ++ (f a).notices⟩
  | .error r => ⟨.error r, x.notices⟩

instance : Monad Outcome where
  pure := ok
  bind := bind

@[simp] theorem pure_eq (a : α) : (pure a : Outcome α) = ok a := rfl

@[simp] theorem bind_eq (x : Outcome α) (f : α → Outcome β) : x >>= f = x.bind f := rfl

@[simp] theorem ok_bind (a : α) (f : α → Outcome β) : (ok a).bind f = f a := rfl

@[simp] theorem refuse_bind (r : Refusal) (f : α → Outcome β) :
    (refuse r : Outcome α).bind f = refuse r := rfl

end Outcome

/-- Lets pass what lies under the root and is not hidden. -/
def ensureServable (t : FileTree) (site : Site) (steps : List Name) (path : String) :
    Outcome Unit :=
  match t.canonicalize steps with
  | .error _ => .refuse (.notFound path)
  | .ok place =>
    if !Location.isWithin site.root place then
      ⟨.error (.notFound path), [.outside path place]⟩
    else if site.hidden.contains place then .refuse (.notFound path)
    else .ok ()

/-- The first of the names that leads from the directory to a file. -/
def findIndex (t : FileTree) (dir : List Name) (names : List String) : Option (List Name) :=
  (names.map fun n => Path.join dir (utf8 n)).find? (t.isFile ·)

def sendFile (t : FileTree) (site : Site) (steps : List Name) (path : String) (isHead : Bool) :
    Outcome Response :=
  match t.read steps with
  | .error cause => .refuse (.ofFault path cause)
  | .ok content => .told (Response.ofFile content (site.types.ofSteps steps) isHead)

def sendDirectory (t : FileTree) (site : Site) (steps : List Name) (path : String)
    (isHead : Bool) : Outcome Response :=
  match findIndex t steps site.settings.serve.indexFiles with
  | some index => do
    ensureServable t site index path
    sendFile t site index path isHead
  | none =>
    if site.settings.serve.directoryListing then
      match Listing.render t steps (RequestPath.display path) site.hidden with
      | .error r => .refuse r
      | .ok page => .told (Response.ofListing page isHead)
    else .refuse (.notFound path)

def load (t : FileTree) (site : Site) (target : Target) (isHead : Bool) : Outcome Response :=
  let path := target.path
  match RequestPath.translate? path with
  | none => .refuse (.badPath path)
  | some names =>
    -- the root joined to no name ends in a slash, and counts with it where it is looked up
    let asked := site.root ++ RequestPath.steps names
    let steps := site.root ++ RequestPath.location names
    match t.node asked with
    | .error _ => .refuse (.notFound path)
    | .ok node => do
      ensureServable t site asked path
      if node.isDirectory then
        if RequestPath.endsInSlash path then sendDirectory t site steps path isHead
        else .told (Response.redirect (RequestPath.directoryForm path target.query))
      else if RequestPath.endsInSlash path then .refuse (.notFound path)
      else sendFile t site steps path isHead

/-- What is told of a refusal: only a fault of the system is. -/
def refusalNotices (path : String) : Refusal → List Notice
  | .fault cause => [.unreadable path cause]
  | _ => []

def serve (t : FileTree) (site : Site) (target : Target) (isHead : Bool) :
    Response × List Notice :=
  let outcome := load t site target isHead
  match outcome.result with
  | .ok response => (response, outcome.notices)
  | .error r =>
    let page := Response.error r.status r.message isHead
    (page.1, outcome.notices ++ refusalNotices target.path r ++ page.2)

/-- Serves `GET` and `HEAD` and refuses every other method. -/
def answer (t : FileTree) (site : Site) (method : Method) (target : Target) :
    Response × List Notice :=
  match method with
  | .get => serve t site target false
  | .head => serve t site target true
  | .other token =>
    let r := Refusal.unsupportedMethod token
    Response.error r.status r.message false

end DocRoot.Serving
