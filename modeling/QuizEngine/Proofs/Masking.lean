import QuizEngine.Http.Message
import Mathlib.Data.List.Forall2

/-!
# What a response says of causes inside the system

A cause inside the system has a text for the log, and the response to it another one. Two
errors resemble each other (`Error.Resembles`) when they are the same up to such texts,
wherever in a batch the causes were recorded. Their responses have the same status and the
same fields but for the list of failures, and in that list at most the reasons of internal
causes are others (`Error.Resembles.response`).

The reasons are not replaced: a batch that lists an internal cause gives its text away
(`Error.recorded_text_shown`).
-/

namespace QuizEngine

open Http

namespace Error

mutual

/-- Two errors that are the same up to the texts of the internal causes in them. -/
inductive Resembles : Error → Error → Prop where
  | refl (e : Error) : Resembles e e
  | config (text text' : String) : Resembles (.config text) (.config text')
  | database (text text' : String) : Resembles (.database text) (.database text')
  | external (text text' : String) : Resembles (.external text) (.external text')
  | internal (text text' : String) : Resembles (.internal text) (.internal text')
  | bulkGrade {failures failures' : List GradeFailure} (applied : List Uuid)
      (h : RecordResembles failures failures') :
      Resembles (.bulkGrade failures applied) (.bulkGrade failures' applied)

/-- Two lists of failures that are the same up to the texts of the internal causes that were
recorded in them. -/
inductive RecordResembles : List GradeFailure → List GradeFailure → Prop where
  | nil : RecordResembles [] []
  | same (f : GradeFailure) {failures failures' : List GradeFailure}
      (h : RecordResembles failures failures') : RecordResembles (f :: failures) (f :: failures')
  | ofError (answerId : Uuid) {cause cause' : Error} {failures failures' : List GradeFailure}
      (hc : Resembles cause cause') (h : RecordResembles failures failures') :
      RecordResembles (.ofError answerId cause :: failures) (.ofError answerId cause' :: failures')

end

/-- The failures that the response to an error lists. -/
def failures : Error → List GradeFailure
  | .bulkGrade failures _ => failures
  | _ => []

end Error

/-- Two failures of one answer and of one kind, which say the same of it unless the kind is
internal. -/
structure GradeFailure.Alike (f f' : GradeFailure) : Prop where
  answerId_eq : f.answerId = f'.answerId
  kind_eq : f.kind = f'.kind
  reason_eq : f.kind ≠ .internal → f.reason = f'.reason

/-- Two errors of one kind, which say the same unless the kind is internal, and list failures
that are alike. -/
structure Error.Alike (e e' : Error) : Prop where
  kind_eq : e.kind = e'.kind
  message_eq : e.kind ≠ .internal → e.message = e'.message
  failures_alike : List.Forall₂ GradeFailure.Alike e.failures e'.failures

/-! ## Failures -/

namespace GradeFailure

theorem Alike.refl (f : GradeFailure) : f.Alike f := ⟨rfl, rfl, fun _ => rfl⟩

/-- What is recorded of causes that are alike is alike. -/
theorem alike_ofError (answerId : Uuid) {cause cause' : Error} (h : cause.Alike cause') :
    (ofError answerId cause).Alike (ofError answerId cause') :=
  ⟨rfl, h.kind_eq, h.message_eq⟩

/-- Of an answer and a kind, the reason makes the failure. -/
theorem toJson_inj_of_alike {f f' : GradeFailure} (h : f.Alike f') (hj : f.toJson = f'.toJson) :
    f = f' := by
  obtain ⟨id, kind, reason⟩ := f
  obtain ⟨id', kind', reason'⟩ := f'
  obtain ⟨rfl, rfl, -⟩ := h
  simp_all [toJson]

/-- Lists of failures that are alike are equal once they are written alike. -/
theorem map_toJson_inj_of_alike {failures failures' : List GradeFailure}
    (h : List.Forall₂ Alike failures failures')
    (hj : failures.map toJson = failures'.map toJson) : failures = failures' := by
  induction h with
  | nil => rfl
  | cons hf _ ih =>
    simp only [List.map_cons, List.cons.injEq] at hj
    rw [toJson_inj_of_alike hf hj.1, ih hj.2]

end GradeFailure

/-! ## Errors -/

namespace Error

variable {e e' : Error}

theorem Alike.refl (e : Error) : e.Alike e :=
  ⟨rfl, fun _ => rfl, List.forall₂_same.mpr fun f _ => .refl f⟩

/-- Internal causes may say what they like. -/
theorem alike_of_internal (hk : e.kind = .internal) (hk' : e'.kind = .internal)
    (hf : e.failures = []) (hf' : e'.failures = []) : e.Alike e' :=
  ⟨hk.trans hk'.symm, fun h => absurd hk h, by rw [hf, hf']; exact .nil⟩

theorem message_bulkGrade (failures : List GradeFailure) (applied : List Uuid) :
    (bulkGrade failures applied).message =
      "Bulk grading rejected for " ++ toString failures.length ++ " answer(s)" := rfl

/-- The kind of a batch is that of its first failure, and its text counts its failures. -/
theorem alike_bulkGrade {failures failures' : List GradeFailure} (applied : List Uuid)
    (h : List.Forall₂ GradeFailure.Alike failures failures') :
    (bulkGrade failures applied).Alike (bulkGrade failures' applied) where
  kind_eq := by
    cases h with
    | nil => rfl
    | cons hf _ => exact hf.kind_eq
  message_eq _ := by rw [message_bulkGrade, message_bulkGrade, h.length_eq]
  failures_alike := h

-- A cause recorded in a batch may be a batch itself, so that the induction goes through
-- errors and lists of failures at once.
/-- Errors that resemble each other are alike. -/
theorem Resembles.alike (h : e.Resembles e') : e.Alike e' := by
  refine @Resembles.rec (fun e e' _ => e.Alike e')
    (fun failures failures' _ => List.Forall₂ GradeFailure.Alike failures failures')
    ?refl ?config ?database ?external ?internal ?bulkGrade ?nil ?same ?ofError e e' h
  case refl => exact .refl
  case config | database | external | internal => exact fun _ _ => alike_of_internal rfl rfl rfl rfl
  case bulkGrade => exact fun applied _ ih => alike_bulkGrade applied ih
  case nil => exact .nil
  case same => exact fun f _ _ _ ih => .cons (.refl f) ih
  case ofError => exact fun id _ _ _ _ _ _ hc ih => .cons (GradeFailure.alike_ofError id hc) ih

/-! ## Responses -/

/-- The body of a batch. -/
theorem body_bulkGrade (failures : List GradeFailure) (applied : List Uuid) :
    (bulkGrade failures applied).body =
      .object [("error", .text (bulkGrade failures applied).kind.code),
        ("message", .text (bulkGrade failures applied).message),
        ("failures", .array (failures.map GradeFailure.toJson)),
        ("applied", .array (applied.map fun id => .text id.toText))] := rfl

/-- Of an internal cause that is not recorded in a batch, the body only has the kind. -/
theorem Resembles.body_eq_of_failures_eq (h : e.Resembles e') (hf : e.failures = e'.failures) :
    e.body = e'.body := by
  cases h with
  | bulkGrade applied _ => exact congrArg (fun failures => (Error.bulkGrade failures applied).body) hf
  | _ => rfl

/-- The fields of the body that are not the list of failures. -/
theorem Resembles.field?_eq (h : e.Resembles e') {name : String} (hn : name ≠ "failures") :
    e.body.field? name = e'.body.field? name := by
  cases h with
  | @bulkGrade failures failures' applied h =>
    obtain ⟨hkind, -, halike⟩ := (Resembles.bulkGrade applied h).alike
    have hlength : failures.length = failures'.length := halike.length_eq
    have hname : ("failures" == name) = false := beq_false_of_ne hn.symm
    simp only [body_bulkGrade, message_bulkGrade, hkind, hlength, Json.field?, Json.lookup,
      List.find?_cons, hname]
  | _ => rfl

/-- The failures in the body are those of the error. -/
theorem Resembles.failures_eq_of_body_eq (h : e.Resembles e') (hb : e.body = e'.body) :
    e.failures = e'.failures := by
  cases h with
  | bulkGrade applied h =>
    have halike := (Resembles.bulkGrade applied h).alike.failures_alike
    simp only [body_bulkGrade, Json.object.injEq, List.cons.injEq, Prod.mk.injEq,
      Json.array.injEq] at hb
    exact GradeFailure.map_toJson_inj_of_alike halike hb.2.2.1.2
  | _ => rfl

/-- Two errors that resemble each other have the same response up to the reasons of internal
causes in a batch: they have the same status, the same fields but for the failures, and
failures of the same answers and the same kinds in the same order, with the same reasons
where the kind is not internal. What is no batch thus has the same response whatever the
text, and a batch has it only where the texts that were recorded are the same. -/
theorem Resembles.response (h : e.Resembles e') :
    (Response.ofError e).status = (Response.ofError e').status ∧
      (∀ name, name ≠ "failures" → e.body.field? name = e'.body.field? name) ∧
      List.Forall₂ GradeFailure.Alike e.failures e'.failures ∧
      (Response.ofError e = Response.ofError e' ↔ e.failures = e'.failures) := by
  have hstatus : e.kind.status = e'.kind.status := congrArg ErrorKind.status h.alike.kind_eq
  refine ⟨hstatus, fun name hn => h.field?_eq hn, h.alike.failures_alike, fun hr => ?_, fun hf => ?_⟩
  · exact h.failures_eq_of_body_eq (Option.some.inj (congrArg Response.body hr))
  · rw [Response.ofError, Response.ofError, hstatus, h.body_eq_of_failures_eq hf]

end Error

/-! ## A batch that gives a text away -/

namespace Sample

/-- A batch that stopped at an internal cause. -/
def stopped (cause : Error) : Error :=
  .bulkGrade [.ofError ⟨2, by decide⟩ cause] [⟨1, by decide⟩]

/-- Something else that a database says. -/
def refusedConnection : Error := .database "password authentication failed for user quiz"

theorem stopped_resembles (text text' : String) :
    (stopped (.database text)).Resembles (stopped (.database text')) :=
  .bulkGrade _ (.ofError _ (.database text text') .nil)

end Sample

open Sample

namespace Error

/-- Two batches that stopped at the database have the same status and the same message. -/
theorem response_stopped :
    (stopped poolTimedOut).Resembles (stopped refusedConnection) ∧
      (Response.ofError (stopped poolTimedOut)).status =
        (Response.ofError (stopped refusedConnection)).status ∧
      (stopped poolTimedOut).body.field? "message" =
        (stopped refusedConnection).body.field? "message" := by
  have h : (stopped poolTimedOut).Resembles (stopped refusedConnection) := stopped_resembles _ _
  obtain ⟨hstatus, hfields, -, -⟩ := Resembles.response h
  exact ⟨h, hstatus, hfields "message" (by decide)⟩

/-- But they do not have the same response: the reason in it is the text of the log. -/
theorem recorded_text_shown :
    (stopped poolTimedOut).Resembles (stopped refusedConnection) ∧
      Response.ofError (stopped poolTimedOut) ≠ Response.ofError (stopped refusedConnection) ∧
      ((stopped poolTimedOut).body.field "failures").items.map (fun f => f.field "reason") =
        [.text "Database error: pool timed out while waiting for an open connection"] := by
  refine ⟨stopped_resembles _ _, fun h => ?_, rfl⟩
  have hf := (stopped_resembles _ _).failures_eq_of_body_eq (Option.some.inj (congrArg Response.body h))
  exact absurd hf (by decide +kernel)

end Error

end QuizEngine
