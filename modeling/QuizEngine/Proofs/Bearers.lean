import QuizEngine.Http.Server
import QuizEngine.Proofs.Guards
import Mathlib.Data.List.Basic

/-!
# Whose requests are answered

A request is answered for the caller whom the token in its `authorization` header names
(`Server.Names`, `Server.authenticate_eq_ok_iff`): a token with a good signature that has not
expired, the claims in which stand for a caller. Paths of graders are for teachers and
administrators. A request that is not admitted (`Server.Admits`) has one response, whatever
is stored, and changes nothing; any other request that asks for a call has the engine answer
that call for the caller of its token (`Server.respond_spec`).
-/

namespace QuizEngine

/-! ## The characters of a token -/

namespace Token

/-- A character that is visible and does not end a part of a token. -/
structure IsWordChar (c : Char) : Prop where
  ne_point : c ≠ '.'
  visible : 0x20 ≤ c.toNat ∧ c.toNat < 0x7f

instance (c : Char) : Decidable (IsWordChar c) :=
  decidable_of_iff (c ≠ '.' ∧ 0x20 ≤ c.toNat ∧ c.toNat < 0x7f)
    ⟨fun h => ⟨h.1, h.2⟩, fun h => ⟨h.ne_point, h.visible⟩⟩

theorem isWordChar_sextetChar (n : Nat) : IsWordChar (sextetChar n) := by
  by_cases hn : n < 63
  · have hall : ∀ n < 63, IsWordChar (sextetChar n) := by decide
    exact hall n hn
  · have hlast : sextetChar n = '_' := by
      unfold sextetChar
      repeat rw [if_neg (by omega)]
    rw [hlast]
    decide

theorem isWordChar_of_mem_encode {c : Char} {bytes : List UInt8} (h : c ∈ encode bytes) :
    IsWordChar c := by
  fun_induction encode bytes <;> simp only [List.mem_cons, List.not_mem_nil, or_false] at h
  case case4 _ _ _ _ _ ih =>
    rcases h with rfl | rfl | rfl | rfl | h
    · exact isWordChar_sextetChar _
    · exact isWordChar_sextetChar _
    · exact isWordChar_sextetChar _
    · exact isWordChar_sextetChar _
    · exact ih h
  all_goals rcases h with rfl | rfl | rfl <;> exact isWordChar_sextetChar _

theorem visible_of_between {a c z : Char} (h : a ≤ c ∧ c ≤ z) (ha : 0x20 ≤ a.toNat)
    (hz : z.toNat < 0x7f) : 0x20 ≤ c.toNat ∧ c.toNat < 0x7f :=
  ⟨Nat.le_trans ha h.1, Nat.lt_of_le_of_lt h.2 hz⟩

theorem isWordChar_of_sextet?_eq_some {c : Char} {n : Nat} (h : sextet? c = some n) :
    IsWordChar c := by
  refine ⟨?point, ?visible⟩
  case point =>
    rintro rfl
    cases h
  case visible =>
    unfold sextet? at h
    split at h
    · exact visible_of_between ‹_› (by decide) (by decide)
    split at h
    · exact visible_of_between ‹_› (by decide) (by decide)
    split at h
    · exact visible_of_between ‹_› (by decide) (by decide)
    split at h
    · subst c
      decide
    split at h
    · subst c
      decide
    · cases h

theorem exists_eq_some_of_mapM {f : α → Option β} {xs : List α} {ys : List β}
    (h : xs.mapM f = some ys) {x : α} (hx : x ∈ xs) : ∃ y, f x = some y := by
  induction xs generalizing ys with
  | nil => cases hx
  | cons z rest ih =>
    simp only [List.mapM_cons, Option.bind_eq_bind, Option.bind_eq_some_iff] at h
    obtain ⟨y, hy, others, hothers, -⟩ := h
    rcases List.mem_cons.1 hx with rfl | hx
    · exact ⟨y, hy⟩
    · exact ih hothers hx

/-- What can be read of a token has no other characters. -/
theorem isWordChar_of_draftOf?_eq_some {part : String} {d : Draft} (h : draftOf? part = some d)
    {c : Char} (hc : c ∈ part.toList) : IsWordChar c := by
  simp only [draftOf?, decode?, Option.bind_eq_bind, Option.bind_eq_some_iff] at h
  obtain ⟨_, ⟨sextets, hs, -⟩, -⟩ := h
  obtain ⟨n, hn⟩ := exists_eq_some_of_mapM hs hc
  exact isWordChar_of_sextet?_eq_some hn

end Token

theorem Caller.mayGrade_iff {caller : Caller} :
    caller.mayGrade = true ↔ caller.role = .teacher ∨ caller.role = .admin := by
  simp [Caller.mayGrade]

/-! ## Claims -/

namespace Claims

variable {c : Claims} {token secret : String} {now : Nat}

/-- The claims in a good token: it is a header that names the algorithm, the claims, and the
signature of both, and has not expired. -/
def InToken (c : Claims) (token secret : String) (now : Nat) : Prop :=
  ∃ head body, token = head ++ "." ++ body ++ "." ++ signature secret (head ++ "." ++ body) ∧
    Token.Header.isAccepted head = true ∧ ofPart? body = some c ∧ now ≤ c.expires + leeway

theorem isWordChar_of_isAccepted {part : String} (h : Token.Header.isAccepted part = true) {x : Char}
    (hx : x ∈ part.toList) : Token.IsWordChar x := by
  unfold Token.Header.isAccepted at h
  split at h
  · exact Token.isWordChar_of_draftOf?_eq_some ‹_› hx
  · cases h

theorem isWordChar_of_ofPart? {part : String} (h : ofPart? part = some c) {x : Char}
    (hx : x ∈ part.toList) : Token.IsWordChar x := by
  simp only [ofPart?, Option.bind_eq_bind, Option.bind_eq_some_iff] at h
  obtain ⟨d, hd, -⟩ := h
  exact Token.isWordChar_of_draftOf?_eq_some hd hx

theorem isWordChar_of_mem_signature {signed : String} {x : Char}
    (hx : x ∈ (signature secret signed).toList) : Token.IsWordChar x := by
  rw [signature, String.toList_ofList] at hx
  exact Token.isWordChar_of_mem_encode hx

-- The points of a token are those between its parts: no part has one in it, because each is
-- written in the URL alphabet.
/-- The parts of a good token are its pieces. -/
theorem pieces_eq_iff {head body : String} (hhead : Token.Header.isAccepted head = true)
    (hbody : ofPart? body = some c) :
    Text.pieces '.' token = [head, body, signature secret (head ++ "." ++ body)] ↔
      token = head ++ "." ++ body ++ "." ++ signature secret (head ++ "." ++ body) := by
  have hjoin (a b d : String) : ['.'].intercalate ([a, b, d].map String.toList) =
      (a ++ "." ++ b ++ "." ++ d).toList := by
    simp [List.intercalate]
  constructor
  · intro h
    rw [← String.toList_inj, ← hjoin, ← h, Text.intercalate_pieces]
  · intro h
    refine Text.pieces_of_intercalate (by simp) (fun part hpart hpoint => ?_) (by rw [hjoin, h])
    simp only [List.mem_cons, List.not_mem_nil, or_false] at hpart
    rcases hpart with rfl | rfl | rfl
    · exact (isWordChar_of_isAccepted hhead hpoint).ne_point rfl
    · exact (isWordChar_of_ofPart? hbody hpoint).ne_point rfl
    · exact (isWordChar_of_mem_signature hpoint).ne_point rfl

theorem filter_expired_eq_some_iff {claims : Option Claims} :
    claims.filter (fun c => !c.expired now) = some c ↔ claims = some c ∧ now ≤ c.expires + leeway := by
  simp [Option.filter_eq_some_iff, expired]

theorem ofToken?_eq_some_iff : ofToken? token secret now = some c ↔ c.InToken token secret now := by
  constructor
  · intro h
    unfold ofToken? at h
    split at h
    case h_1 head body sign hpieces =>
      split at h
      case isTrue hgood =>
        simp only [Bool.and_eq_true, beq_iff_eq] at hgood
        obtain ⟨hhead, rfl⟩ := hgood
        obtain ⟨hbody, hnow⟩ := filter_expired_eq_some_iff.1 h
        exact ⟨head, body, (pieces_eq_iff hhead hbody).1 hpieces, hhead, hbody, hnow⟩
      case isFalse => cases h
    case h_2 => cases h
  · rintro ⟨head, body, htoken, hhead, hbody, hnow⟩
    simp only [ofToken?, (pieces_eq_iff hhead hbody).2 htoken, hhead, beq_self_eq_true,
      Bool.and_self, if_true]
    exact filter_expired_eq_some_iff.2 ⟨hbody, hnow⟩

/-- The caller is the user whom the claims name, in the role that they name; without one that
is a student. -/
structure StandFor (c : Claims) (caller : Caller) : Prop where
  userId_eq : readLong (Text.trimmed c.subject) = .ok caller.userId
  role_eq : c.role.elim (some .student) Role.ofText? = some caller.role

theorem caller?_eq (c : Claims) : c.caller? =
    (readLong (Text.trimmed c.subject)).toOption.bind fun userId =>
      (c.role.elim (some .student) Role.ofText?).map fun role => ⟨userId, role⟩ := by
  unfold caller?
  cases c.role with
  | none => rfl
  | some name => simp only [Option.elim_some, Option.map_eq_bind, Function.comp_def, Option.bind_eq_bind]

theorem caller?_eq_some_iff {caller : Caller} : c.caller? = some caller ↔ c.StandFor caller := by
  have htoOption (x : Except NumberError Int) (n : Int) : x.toOption = some n ↔ x = .ok n := by
    cases x <;> simp [Except.toOption]
  simp only [caller?_eq, Option.bind_eq_some_iff, Option.map_eq_some_iff, htoOption]
  constructor
  · rintro ⟨userId, hid, role, hrole, rfl⟩
    exact ⟨hid, hrole⟩
  · rintro ⟨hid, hrole⟩
    exact ⟨_, hid, _, hrole, rfl⟩

end Claims

namespace Http

namespace Server

variable {server : Server} {r : Request} {caller : Caller}

/-! ## Who asks -/

theorem bearerToken?_eq_some_iff {value token : String} :
    bearerToken? value = some token ↔ value = "Bearer " ++ token := by
  constructor
  · intro h
    simp only [bearerToken?] at h
    split at h
    case isTrue hprefix =>
      obtain ⟨rest, hrest⟩ := List.isPrefixOf_iff_prefix.1 hprefix
      rw [← hrest, ← String.length_toList, List.drop_left, Option.some.injEq] at h
      rw [← String.toList_inj, String.toList_append, ← hrest, ← h]
      simp
    case isFalse => cases h
  · rintro rfl
    have hprefix : "Bearer ".toList.isPrefixOf ("Bearer " ++ token).toList = true :=
      List.isPrefixOf_iff_prefix.2 (by rw [String.toList_append]; exact List.prefix_append _ _)
    simp only [bearerToken?, hprefix, if_true]
    rw [← String.length_toList, String.toList_append, List.drop_left, String.ofList_toList]

theorem isReadable_append (s t : String) :
    Request.isReadable (s ++ t) = (Request.isReadable s && Request.isReadable t) := by
  simp [Request.isReadable]

/-- Whatever stands in a good token can be read. -/
theorem isReadable_of_inToken {c : Claims} {token secret : String} {now : Nat}
    (h : c.InToken token secret now) : Request.isReadable ("Bearer " ++ token) = true := by
  obtain ⟨head, body, rfl, hhead, hbody, -⟩ := h
  have hall {s : String} (hs : ∀ x ∈ s.toList, Token.IsWordChar x) : Request.isReadable s = true :=
    List.all_eq_true.2 fun x hx => by simp [(hs x hx).visible]
  have hscheme : Request.isReadable "Bearer " = true := by decide
  have hpoint : Request.isReadable "." = true := by decide
  simp only [isReadable_append, hscheme, hpoint, Bool.true_and, Bool.and_true, Bool.and_eq_true]
  exact ⟨⟨hall fun x => Claims.isWordChar_of_isAccepted hhead,
    hall fun x => Claims.isWordChar_of_ofPart? hbody⟩,
    hall fun x => Claims.isWordChar_of_mem_signature⟩

/-- The caller whom the token of a header names. -/
def Names (server : Server) (authorization : Option String) (caller : Caller) : Prop :=
  ∃ (token : String) (c : Claims), authorization = some ("Bearer " ++ token) ∧
    c.InToken token server.tokenSecret server.tokenTime ∧ c.StandFor caller

/-- The caller of a request is the one whom its header names, and nothing else of the request
counts. -/
theorem authenticate_eq_ok_iff :
    server.authenticate r = .ok caller ↔ server.Names (r.header? "authorization") caller := by
  unfold authenticate
  constructor
  · intro h
    split at h
    case h_2 => cases h
    case h_1 value hvalue =>
    split at h
    case isTrue => cases h
    split at h
    case h_2 => cases h
    case h_1 token htoken =>
    split at h
    case h_2 => cases h
    case h_1 c hc =>
    split at h
    case h_2 => cases h
    case h_1 found hfound =>
    obtain rfl : found = caller := Except.ok.inj h
    obtain rfl := bearerToken?_eq_some_iff.1 htoken
    exact ⟨token, c, hvalue, Claims.ofToken?_eq_some_iff.1 hc, Claims.caller?_eq_some_iff.1 hfound⟩
  · rintro ⟨token, c, hvalue, htoken, hcaller⟩
    simp only [hvalue, isReadable_of_inToken htoken, bearerToken?_eq_some_iff.2 rfl,
      Claims.ofToken?_eq_some_iff.2 htoken, Claims.caller?_eq_some_iff.2 hcaller]
    rfl

end Server

/-! ## Paths of graders -/

/-- The path begins as the paths of graders do. -/
def Request.IsForGraders (r : Request) : Prop :=
  ["", "api", "grading"] <+: Text.pieces '/' (splitTarget r.target).1

/-- What the path of a request leads to. -/
def Request.route (r : Request) : Route := .ofPath (splitTarget r.target).1

/-- The query of a request. -/
def Request.query (r : Request) : String := (splitTarget r.target).2

theorem Route.isForGraders_ofParts_iff {parts : List String} :
    (Route.ofParts parts).isForGraders = true ↔
      ["", "api", "grading"] <+: parts ∨ Route.ofParts parts = .unknown := by
  unfold Route.ofParts
  split
  case h_10 answer =>
    split <;> simp [Route.isForGraders]
  all_goals simp [Route.isForGraders]

/-- Besides the paths of graders, students may not ask for what there is not. -/
theorem Request.isForGraders_route_iff {r : Request} :
    r.route.isForGraders = true ↔ r.IsForGraders ∨ r.route = .unknown := by
  simp only [Request.route, Route.ofPath, Route.isForGraders_ofParts_iff, Request.IsForGraders]

namespace Server

variable {server : Server} {r : Request} {caller : Caller} {call : Call}

/-! ## Who is admitted -/

/-- The token of the request names the caller, and the caller may ask for what the path
leads to. -/
structure Admits (server : Server) (r : Request) (caller : Caller) : Prop where
  named : server.Names (r.header? "authorization") caller
  grader : r.IsForGraders → caller.role = .teacher ∨ caller.role = .admin

/-- What the request asks for, by its path, its method and its body. -/
structure Asks (server : Server) (r : Request) (call : Call) : Prop where
  method_ne : r.method ≠ "OPTIONS"
  answersMethod_eq : answersMethod r.route r.method = true
  callOf_eq : server.callOf r r.route r.query = .ok call

/-- Whatever is stored, the request has the response and changes nothing. -/
def AnswersAlone (server : Server) (r : Request) (response : Response) : Prop :=
  ∀ e now fresh, server.respond e now fresh r = (.ok response, e)

/-- The engine answers the call for the caller. -/
def Runs (server : Server) (r : Request) (caller : Caller) (call : Call) : Prop :=
  ∀ e now fresh, server.respond e now fresh r =
    ((answer (e.perform ⟨caller, now, fresh⟩ call).1).map (withoutBody r.route r.method),
      (e.perform ⟨caller, now, fresh⟩ call).2)

theorem callerFor_eq_ok_iff {route : Route} :
    server.callerFor r route = .ok caller ↔
      server.authenticate r = .ok caller ∧ (route.isForGraders = true → caller.mayGrade = true) := by
  unfold callerFor
  cases server.authenticate r with
  | error fault => simp
  | ok found =>
    simp only [ite_error_eq_ok_iff, Except.ok.injEq, Bool.and_eq_true, Bool.not_eq_true']
    constructor
    · rintro ⟨hgrade, rfl⟩
      exact ⟨rfl, fun hg => by simpa [hg] using hgrade⟩
    · rintro ⟨rfl, hgrade⟩
      exact ⟨fun h => by simp [hgrade h.1] at h, rfl⟩

/-- There is nothing to ask for on a path that leads nowhere. -/
theorem Asks.route_ne_unknown (h : server.Asks r call) : r.route ≠ .unknown := by
  intro hr
  have hcall := h.callOf_eq
  rw [hr] at hcall
  cases hcall

/-- Nor on the path of the health check. -/
theorem Asks.not_isPublic (h : server.Asks r call) : r.route.isPublic = false := by
  have hcall := h.callOf_eq
  cases hr : r.route with
  | health =>
    rw [hr] at hcall
    cases hcall
  | _ => rfl

/-- A caller who is admitted to a call is taken for the caller. -/
theorem Admits.callerFor_eq (h : server.Admits r caller) (ha : server.Asks r call) :
    server.callerFor r r.route = .ok caller := by
  refine callerFor_eq_ok_iff.2 ⟨authenticate_eq_ok_iff.2 h.named, fun hg => ?_⟩
  rcases Request.isForGraders_route_iff.1 hg with hg | hg
  · exact Caller.mayGrade_iff.2 (h.grader hg)
  · exact absurd hg ha.route_ne_unknown

theorem admits_of_callerFor_eq (h : server.callerFor r r.route = .ok caller) :
    server.Admits r caller := by
  obtain ⟨hauth, hgrade⟩ := callerFor_eq_ok_iff.1 h
  exact ⟨authenticate_eq_ok_iff.1 hauth, fun hg =>
    Caller.mayGrade_iff.1 (hgrade (Request.isForGraders_route_iff.2 (.inl hg)))⟩

/-! ## What is answered -/

theorem respond_eq (server : Server) (e : Engine) (now : Instant) (fresh : Uuid) (r : Request) :
    server.respond e now fresh r =
      let outcome :=
        if r.method = "OPTIONS" then (.ok (.bare 200), e)
        else if r.route.isPublic then
          (.ok (if answersMethod r.route r.method then .json 200 server.healthBody else .bare 405), e)
        else server.respondToCaller e now fresh r r.route r.query
      (outcome.1.map (withoutBody r.route r.method), outcome.2) := rfl

theorem runs_of_callerFor_eq (hc : server.callerFor r r.route = .ok caller)
    (ha : server.Asks r call) : server.Runs r caller call := by
  intro e now fresh
  simp only [respond_eq, if_neg ha.method_ne, ha.not_isPublic, Bool.false_eq_true, if_false,
    respondToCaller, hc, if_neg ha.route_ne_unknown, ha.answersMethod_eq, if_true, serve,
    ha.callOf_eq]

theorem answersAlone_of_options (hm : r.method = "OPTIONS") :
    ∃ response, server.AnswersAlone r response :=
  ⟨withoutBody r.route r.method (.bare 200), fun e now fresh => by
    simp only [respond_eq, if_pos hm, Except.map]⟩

theorem answersAlone_of_respondToCaller {response : Response}
    (h : ∀ e now fresh,
      server.respondToCaller e now fresh r r.route r.query = (.ok response, e)) :
    ∃ response, server.AnswersAlone r response := by
  by_cases hm : r.method = "OPTIONS"
  · exact answersAlone_of_options hm
  cases hp : r.route.isPublic with
  | true =>
    exact ⟨withoutBody r.route r.method
        (if answersMethod r.route r.method then .json 200 server.healthBody else .bare 405),
      fun e now fresh => by simp only [respond_eq, if_neg hm, hp, if_true, Except.map]⟩
  | false =>
    exact ⟨withoutBody r.route r.method response, fun e now fresh => by
      simp only [respond_eq, if_neg hm, hp, Bool.false_eq_true, if_false, h, Except.map]⟩

/-- A request has one response whatever is stored, unless it has a caller and asks for
something. -/
theorem answersAlone_or_asks (server : Server) (r : Request) :
    (∃ response, server.AnswersAlone r response) ∨
      ∃ caller call, server.callerFor r r.route = .ok caller ∧ server.Asks r call := by
  by_cases hm : r.method = "OPTIONS"
  · exact .inl (answersAlone_of_options hm)
  -- The checks come in the order of `respondToCaller`; only behind the last one is the engine
  -- asked.
  cases hc : server.callerFor r r.route with
  | error response =>
    exact .inl (answersAlone_of_respondToCaller fun e now fresh => by
      simp only [respondToCaller, hc]; rfl)
  | ok caller =>
    by_cases hu : r.route = .unknown
    · exact .inl (answersAlone_of_respondToCaller fun e now fresh => by
        simp only [respondToCaller, hc, if_pos hu]; rfl)
    cases ha : answersMethod r.route r.method with
    | false =>
      exact .inl (answersAlone_of_respondToCaller fun e now fresh => by
        simp only [respondToCaller, hc, if_neg hu, ha]; rfl)
    | true =>
      cases hcall : server.callOf r r.route r.query with
      | error response =>
        exact .inl (answersAlone_of_respondToCaller fun e now fresh => by
          simp only [respondToCaller, hc, if_neg hu, ha, if_true, serve, hcall]; rfl)
      | ok call => exact .inr ⟨caller, call, rfl, hm, ha, hcall⟩

/-- A request without a token that names a caller, and a request of a student on a path of
graders, has one response whatever is stored, and changes nothing. Any other request has the
engine answer what it asks for, for the caller of its token and nobody else; if it asks for
nothing, it has one response as well. -/
theorem respond_spec (server : Server) (r : Request) :
    ((¬∃ caller, server.Admits r caller) → ∃ response, server.AnswersAlone r response) ∧
    ∀ caller, server.Admits r caller →
      (∀ other, server.Names (r.header? "authorization") other → other = caller) ∧
      (∀ call, server.Asks r call → server.Runs r caller call) ∧
      ((¬∃ call, server.Asks r call) → ∃ response, server.AnswersAlone r response) := by
  refine ⟨fun hnobody => ?_, fun caller hcaller => ⟨fun other hother => ?_, fun call hcall => ?_,
    fun hnothing => ?_⟩⟩
  · refine (answersAlone_or_asks server r).resolve_right ?_
    rintro ⟨caller, call, hc, -⟩
    exact hnobody ⟨caller, admits_of_callerFor_eq hc⟩
  · have hsame := (authenticate_eq_ok_iff.2 hother).symm.trans (authenticate_eq_ok_iff.2 hcaller.named)
    exact Except.ok.inj hsame
  · exact runs_of_callerFor_eq (hcaller.callerFor_eq hcall) hcall
  · refine (answersAlone_or_asks server r).resolve_right ?_
    rintro ⟨-, call, -, hcall⟩
    exact hnothing ⟨call, hcall⟩

end Server

end Http

/-! ## A teacher, and somebody unknown -/

namespace Sample

open Http Server

def keyedServer : Server := ⟨"key", false, .inMemory, 0⟩

/-- The header of a token. -/
def tokenHead : String := "eyJ0eXAiOiJKV1QiLCJhbGciOiJIUzI1NiJ9"

/-- The claims of teacher 7. -/
def tokenBody : String := "eyJzdWIiOiI3IiwiZXhwIjoxMDAsInJvbGUiOiJURUFDSEVSIn0"

/-- A token signed with the key. -/
def token : String := tokenHead ++ "." ++ tokenBody ++ "." ++ "QWqMrLl_lKIDZoFRXyhR9q4x_3I94ovM5r2dPO7tbc4"

def graderClaims : Claims := ⟨"7", 100, some "TEACHER"⟩

def grader : Caller := ⟨7, .teacher⟩

/-- What is left to grade at a quiz is asked for with these headers. -/
def pendingRequest (headers : List (String × String)) : Request :=
  ⟨"GET", "/api/grading/quizzes/1/pending", headers, "", none⟩

/-- The request of the teacher. -/
def signedRequest : Request := pendingRequest [("Authorization", "Bearer " ++ token)]

theorem inToken_token : graderClaims.InToken token "key" 0 :=
  ⟨tokenHead, tokenBody, by decide +kernel, by decide +kernel, by decide +kernel, by decide⟩

theorem standFor_grader : graderClaims.StandFor grader := ⟨by decide +kernel, by decide +kernel⟩

theorem admits_signedRequest : keyedServer.Admits signedRequest grader :=
  ⟨⟨token, graderClaims, by decide +kernel, inToken_token, standFor_grader⟩, fun _ => .inl rfl⟩

theorem asks_signedRequest : keyedServer.Asks signedRequest (.pending 1) where
  method_ne := by decide
  answersMethod_eq := by decide +kernel
  callOf_eq := by
    have hroute : signedRequest.route = .pending "1" := by decide +kernel
    have hquiz : quizId? "1" = some 1 := by decide +kernel
    rw [hroute, callOf, hquiz]
    rfl

theorem not_admits_unsigned : ¬∃ caller, keyedServer.Admits (pendingRequest []) caller := by
  rintro ⟨caller, ⟨token, c, hnone, -⟩, -⟩
  cases hnone

end Sample

namespace Http.Server

open Sample

/-- The teacher has the engine list what is left to grade; without the token there is nothing to
learn from the store. -/
theorem respond_spec_pending :
    keyedServer.Runs signedRequest grader (.pending 1) ∧
      ∃ response, keyedServer.AnswersAlone (pendingRequest []) response :=
  ⟨((respond_spec keyedServer signedRequest).2 grader admits_signedRequest).2.1 _ asks_signedRequest,
    (respond_spec keyedServer (pendingRequest [])).1 not_admits_unsigned⟩

end Http.Server

end QuizEngine
