import PagePress.Service.Basic

/-!
A service that follows a script: it lists packages, brings forth artifacts, reports diagnostics, and
ends as the script says. It takes any option that its table knows.
-/

set_option autoImplicit false

namespace PagePress

structure ScriptListing where
  location : Location
  package : String
  kinds : List Kind
  recurse : Bool

/-- An artifact that a script brings forth, and how far it is brought. -/
structure ScriptOutput where
  name : String
  kind : Kind
  chunks : List Payload
  opens : Bool
  seals : Bool

/-- What a script does. A diagnostic whose severity has no meaning fails when it is reported. -/
structure Script where
  listings : List ScriptListing
  outputs : List ScriptOutput
  diagnostics : List (Except Failure Diagnostic)
  failure : Option Failure
  succeeds : Bool

namespace Script

def list (l : ScriptListing) : Activity Unit :=
  .list l.location l.package l.kinds l.recurse fun answer =>
    (Activity.ofAnswer answer).andThen fun objects =>
      (Activity.binaryNames objects).andThen fun names => .note names (.done ())

def emit (o : ScriptOutput) : Activity Unit :=
  .output .classOutput o.name o.kind fun answer =>
    (Activity.ofAnswer answer).andThen fun object =>
      if o.opens then
        .openStream object fun answer =>
          (Activity.ofAnswer answer).andThen fun stream =>
            (Activity.writeAll stream o.chunks).andThen fun _ =>
              if o.seals then .finish stream fun answer => Activity.ofAnswer answer else .done ()
      else .done ()

def report (d : Except Failure Diagnostic) : Activity Unit :=
  (Activity.ofAnswer d).andThen fun d => .report d (.done ())

def each {α : Type} (act : α → Activity Unit) : List α → Activity Unit
  | [] => .done ()
  | a :: rest => (act a).andThen fun _ => each act rest

/-- What a script does, in order. -/
def activity (s : Script) : Activity Bool :=
  (each list s.listings).andThen fun _ =>
    (each emit s.outputs).andThen fun _ =>
      (each report s.diagnostics).andThen fun _ =>
        match s.failure with
        | some failure => .fail failure
        | none => .done s.succeeds

def service (arity : ArityTable) (s : Script) : Service where
  arity := arity
  check _ _ := .ok ()
  task _ _ _ := .ok s.activity

end Script

end PagePress
