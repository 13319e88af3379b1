import OmsWmsTms.Control.Except
import OmsWmsTms.Data.Text
import OmsWmsTms.Lts.Basic
import Mathlib.Algebra.Order.Group.Unbundled.Int

/-!
# The request guards

`src/core/csrf.py`: the tokens of the admin pages, the signatures of the extension API, and
`CsrfMiddleware`, which forwards a request or refuses it.

* `generateCsrfToken`, `verifyToken`, `verifyExtendSignature`, `dispatch` : the functions.
* `guardSystem` : the requests one after the other, and what is signed with the key.
* `Obtainable` : a text that a client can present, signatures being unforgeable.
* `Guards` : a request is forwarded or refused, and forwarded only with its token or signature.
* `Plain` : nothing is raised for a request.
* `guards_iff` : the requests that are guarded.

The clock is in whole seconds, as `int(time.time())` reads it.
-/

namespace OmsWmsTms

namespace Csrf

/-- `hmac.new(settings.secret_key.encode(), msg.encode(), hashlib.sha256).hexdigest()`. -/
structure Hmac where
  hexdigest : String → String
  /-- A hexadecimal text. -/
  ascii : ∀ msg, Text.isAscii (hexdigest msg) = true

/-- What is raised. -/
inductive Raised
  | valueError
  | typeError
  | attributeError
  /-- By the parser of the form. -/
  | formError
deriving DecidableEq

/-- A value of a form: a text or a file. -/
inductive FormValue
  | text (s : String)
  | file
deriving DecidableEq

/-- What the guards read of a request. -/
structure Request where
  method : String
  /-- `request.url.path`; a malformed `Host` makes it raise a `ValueError`. -/
  urlPath : Except Raised String
  /-- By the names in lower case. -/
  headers : List (String × List UInt8) := []
  cookies : String → Option String := fun _ => none
  form : Except Raised (String → Option FormValue) := .ok fun _ => none
  /-- `request.client.host`. -/
  client : Option String := none

/-- `request.headers.get(name, "")`. -/
def Request.header (r : Request) (name : String) : String :=
  (r.headers.lookup name).elim "" Text.latin1

/-- `request.cookies.get("csrf_token", "")`. -/
def Request.cookieToken (r : Request) : String := (r.cookies "csrf_token").getD ""

/-- Its content type is that of a form. -/
def Request.sendsForm (r : Request) : Prop :=
  let ct := r.header "content-type"
  Text.contains "application/x-www-form-urlencoded" ct ∨ Text.contains "multipart/form-data" ct

instance (r : Request) : Decidable r.sendsForm :=
  inferInstanceAs (Decidable (Text.contains _ _ ∨ Text.contains _ _))

/-- `hmac.compare_digest` of two texts. -/
def compareDigest (a b : String) : Except Raised Bool :=
  if Text.isAscii a ∧ Text.isAscii b then .ok (a == b) else .error .typeError

/-- `seed, sig = token.split(":", 1)`. -/
def FormValue.split : FormValue → Except Raised (String × String)
  | .text s => (Text.splitOnce ':' s).elim (.error .valueError) .ok
  | .file => .error .attributeError

section Guards

variable (mac : Hmac)

/-- `generate_csrf_token`, with the seed of `secrets.token_hex(16)`. -/
def generateCsrfToken (seed : String) : String :=
  let msg := "csrf:" ++ seed
  let sig := mac.hexdigest msg
  seed ++ ":" ++ sig

/-- `_verify_token`. -/
def verifyToken (token : FormValue) (cookieToken : String) : Except Raised Bool :=
  tryCatch (do
    let (seed, sig) ← token.split
    let msg := "csrf:" ++ seed
    let expected := mac.hexdigest msg
    return (← compareDigest sig expected) && token == .text cookieToken)
  fun
    | .valueError | .attributeError => return false
    | e => throw e

/-- `_verify_extend_signature`. -/
def verifyExtendSignature (now : ℤ) (r : Request) : Except Raised Bool := do
  let path ← r.urlPath
  if Text.startsWith "/api/v1/extend" path then
    let actualSig := r.header "x-extend-signature"
    let timestampStr := r.header "x-extend-timestamp"
    if actualSig = "" then return false
    else if timestampStr = "" then return false
    else
      match Text.int? timestampStr with
      | none => return false
      | some ts =>
        if |now - ts| > 300 then return false
        else
          let clientIp := r.client.getD "unknown"
          let msg := path ++ ":" ++ timestampStr ++ ":" ++ clientIp
          compareDigest actualSig (mac.hexdigest msg)
  else return true

/-- What the middleware does with a request: `call_next`, with the token of an admin page, or an
answer of its own. -/
inductive Outcome
  | forward (csrfToken : Option String)
  | answer (status : ℕ) (detail : String)
deriving DecidableEq

/-- The token of a form is verified. -/
def verifyForm (form : String → Option FormValue) (cookieToken : String) : Except Raised Bool :=
  let formToken := (form "csrf_token").getD (.text "")
  if formToken = .text "" then return false else verifyToken mac formToken cookieToken

/-- The token of a mutating admin request is verified: the one of the header, or of the form. -/
def verifyAdmin (r : Request) : Except Raised Bool := do
  if r.cookieToken = "" then return false
  else
    let headerToken := r.header "x-csrf-token"
    if headerToken ≠ "" then verifyToken mac (.text headerToken) r.cookieToken
    else
      if r.sendsForm then verifyForm mac (← r.form) r.cookieToken else return false

/-- `method in ("POST", "PUT", "DELETE", "PATCH")`. -/
def Request.mutates (r : Request) : Prop := r.method ∈ ["POST", "PUT", "DELETE", "PATCH"]

instance (r : Request) : Decidable r.mutates :=
  inferInstanceAs (Decidable (r.method ∈ ["POST", "PUT", "DELETE", "PATCH"]))

/-- `CsrfMiddleware.dispatch`, with the seed of a new token. -/
def dispatch (now : ℤ) (seed : String) (r : Request) : Except Raised Outcome := do
  let path ← r.urlPath
  if r.method ∈ ["GET", "HEAD"] ∧ Text.startsWith "/admin/" path then
    return .forward (some (generateCsrfToken mac seed))
  else if r.mutates ∧ Text.startsWith "/admin/" path then
    if ← verifyAdmin mac r then return .forward none
    else return .answer 403 "CSRF validation failed"
  else if r.mutates ∧ Text.startsWith "/api/v1/extend" path then
    if ← verifyExtendSignature mac now r then return .forward none
    else return .answer 403 "Extension API authentication failed"
  else return .forward none

end Guards

/-! ### Requests one after the other -/

/-- The tokens of `generate_csrf_token`, and the messages whose signatures were handed out. -/
structure State where
  tokens : List String := []
  signed : List String := []

/-- What happens. -/
inductive Label
  | request (now : ℤ) (seed : String) (r : Request)
  /-- Something else is signed with the key: an extension request, a token of a user. -/
  | sign (msg : String)

/-- A step: no other message that is signed looks like that of a CSRF token. -/
def State.next (mac : Hmac) (s : State) : Label → Option State
  | .request now seed r =>
    match dispatch mac now seed r with
    | .ok (.forward (some token)) =>
      some { tokens := s.tokens ++ [token], signed := s.signed ++ ["csrf:" ++ seed] }
    | _ => some s
  | .sign msg =>
    if Text.startsWith "csrf:" msg then none
    else some { s with signed := s.signed ++ [msg] }

/-- The runs of the application with a key. -/
def guardSystem (mac : Hmac) : Lts State Label := Lts.ofNext (State.next mac)

/-- A text that a client can present: signatures are unforgeable, so that each one in it is of a
message whose signature was handed out. -/
def Obtainable (mac : Hmac) (s : State) (text : String) : Prop :=
  ∀ part msg, Text.contains part text → part = mac.hexdigest msg → msg ∈ s.signed

/-- A request has a token in its header or in its form. -/
def Request.Carries (r : Request) (token : String) : Prop :=
  r.header "x-csrf-token" = token ∨
    ∃ form, r.form = .ok form ∧ form "csrf_token" = some (.text token)

/-- A request is forwarded or answered with 403; a mutating admin request is forwarded only if a
token that it carries is that of its cookie and was generated, and a mutating extension request only
if its signature is the one for its path, timestamp and client and the timestamp is within 300
seconds. -/
structure Guards (mac : Hmac) (s : State) (now : ℤ) (seed : String) (r : Request) : Prop where
  decides : ∃ outcome, dispatch mac now seed r = .ok outcome ∧
    ((∃ token, outcome = .forward token) ∨ ∃ detail, outcome = .answer 403 detail)
  admin : ∀ forwarded path, dispatch mac now seed r = .ok (.forward forwarded) →
    r.urlPath = .ok path → r.mutates → Text.startsWith "/admin/" path →
    ∃ token, r.Carries token ∧ r.cookies "csrf_token" = some token ∧ token ∈ s.tokens
  extend : ∀ forwarded path, dispatch mac now seed r = .ok (.forward forwarded) →
    r.urlPath = .ok path → r.mutates → Text.startsWith "/api/v1/extend" path →
    ∃ ts, Text.int? (r.header "x-extend-timestamp") = some ts ∧ |now - ts| ≤ 300 ∧
      r.header "x-extend-signature" = mac.hexdigest
        (path ++ ":" ++ r.header "x-extend-timestamp" ++ ":" ++ r.client.getD "unknown")

/-! ### What is raised -/

/-- A token whose part after the first colon is ASCII. -/
def PlainToken (token : String) : Prop :=
  ∀ seed sig, Text.splitOnce ':' token = some (seed, sig) → Text.isAscii sig = true

/-- The token that an admin request is verified by is plain, and its form can be read if it is
looked into. -/
def Request.PlainAdmin (r : Request) : Prop :=
  r.cookieToken ≠ "" →
    (r.header "x-csrf-token" ≠ "" → PlainToken (r.header "x-csrf-token")) ∧
    (r.header "x-csrf-token" = "" → r.sendsForm → ∃ form, r.form = .ok form ∧
      ∀ token, form "csrf_token" = some (.text token) → PlainToken token)

/-- The signature of an extension request with a timestamp in time is ASCII. -/
def Request.PlainExtend (now : ℤ) (r : Request) : Prop :=
  ∀ ts, Text.int? (r.header "x-extend-timestamp") = some ts → |now - ts| ≤ 300 →
    Text.isAscii (r.header "x-extend-signature") = true

/-- Nothing is raised: the path of the request can be read, and what it is verified by. -/
def Plain (now : ℤ) (r : Request) : Prop :=
  ∃ path, r.urlPath = .ok path ∧
    (r.mutates → Text.startsWith "/admin/" path → r.PlainAdmin) ∧
    (r.mutates → Text.startsWith "/api/v1/extend" path → r.PlainExtend now)

variable {mac : Hmac} {s s' : State} {label : Label} {now : ℤ} {seed : String} {r : Request}

/-- The verification of a text. -/
theorem verifyToken_text (token cookieToken : String) :
    verifyToken mac (.text token) cookieToken =
      match Text.splitOnce ':' token with
      | none => .ok false
      | some (seed, sig) =>
        if Text.isAscii sig then
          .ok (sig == mac.hexdigest ("csrf:" ++ seed) && token == cookieToken)
        else .error .typeError := by
  unfold verifyToken
  cases hsplit : Text.splitOnce ':' token with
  | none =>
    have hraise : (FormValue.text token).split = .error .valueError := by
      simp [FormValue.split, hsplit]
    rw [hraise]
    rfl
  | some parts =>
    obtain ⟨seed, sig⟩ := parts
    have hparts : (FormValue.text token).split = .ok (seed, sig) := by
      simp [FormValue.split, hsplit]
    have heq : (FormValue.text token == .text cookieToken) = (token == cookieToken) := by
      rw [Bool.eq_iff_iff, beq_iff_eq, beq_iff_eq, FormValue.text.injEq]
    rw [hparts]
    by_cases hascii : Text.isAscii sig = true
    · have hcompare : compareDigest sig (mac.hexdigest ("csrf:" ++ seed)) =
          .ok (sig == mac.hexdigest ("csrf:" ++ seed)) := if_pos ⟨hascii, mac.ascii _⟩
      simp only [hascii, if_true, ← heq]
      simp only [bind, Except.bind, hcompare]
      rfl
    · have hcompare : compareDigest sig (mac.hexdigest ("csrf:" ++ seed)) = .error .typeError :=
        if_neg fun h => hascii h.1
      simp only [hascii]
      simp only [bind, Except.bind, hcompare]
      rfl

/-- A file is no token. -/
theorem verifyToken_file (cookieToken : String) : verifyToken mac .file cookieToken = .ok false :=
  rfl

theorem exists_verifyToken_iff {token cookieToken : String} :
    (∃ b, verifyToken mac (.text token) cookieToken = .ok b) ↔ PlainToken token := by
  rw [verifyToken_text]
  unfold PlainToken
  cases hsplit : Text.splitOnce ':' token with
  | none => simp
  | some parts =>
    obtain ⟨seed, sig⟩ := parts
    by_cases hascii : Text.isAscii sig = true
    · simp [hascii]
    · simp [hascii]

/-- **A verified token** is that of the cookie, and its signature is the one for its seed. -/
theorem verifyToken_eq_true {token : FormValue} {cookieToken : String}
    (h : verifyToken mac token cookieToken = .ok true) : token = .text cookieToken ∧
      ∃ seed, Text.splitOnce ':' cookieToken = some (seed, mac.hexdigest ("csrf:" ++ seed)) := by
  cases token with
  | file =>
    rw [verifyToken_file] at h
    cases h
  | text token =>
    rw [verifyToken_text] at h
    split at h
    next => cases h
    next seed sig hsplit =>
      split_ifs at h
      have hboth := Except.ok.inj h
      rw [Bool.and_eq_true, beq_iff_eq, beq_iff_eq] at hboth
      obtain ⟨rfl, rfl⟩ := hboth
      exact ⟨rfl, seed, hsplit⟩

theorem exists_verifyForm_iff {form : String → Option FormValue} {cookieToken : String} :
    (∃ b, verifyForm mac form cookieToken = .ok b) ↔
      ∀ token, form "csrf_token" = some (.text token) → PlainToken token := by
  unfold verifyForm
  cases hvalue : form "csrf_token" with
  | none => exact iff_of_true ⟨false, rfl⟩ fun _ h => by cases h
  | some value =>
    rw [Option.getD_some]
    cases value with
    | file =>
      refine iff_of_true ⟨false, ?_⟩ fun _ h => by cases h
      rw [if_neg (by decide)]
      exact verifyToken_file cookieToken
    | text token =>
      have hsame : (∀ token', some (FormValue.text token) = some (.text token') →
          PlainToken token') ↔ PlainToken token :=
        ⟨fun h => h token rfl, fun h token' heq => FormValue.text.inj (Option.some.inj heq) ▸ h⟩
      rw [hsame]
      by_cases hempty : token = ""
      · subst hempty
        exact iff_of_true ⟨false, rfl⟩ fun _ _ hsplit => by cases hsplit
      · rw [if_neg (by simpa using hempty)]
        exact exists_verifyToken_iff

/-- **A verified form** has the token of the cookie. -/
theorem verifyForm_eq_true {form : String → Option FormValue} {cookieToken : String}
    (h : verifyForm mac form cookieToken = .ok true) :
    form "csrf_token" = some (.text cookieToken) ∧
      ∃ seed, Text.splitOnce ':' cookieToken = some (seed, mac.hexdigest ("csrf:" ++ seed)) := by
  unfold verifyForm at h
  dsimp only at h
  split_ifs at h with hempty
  · cases h
  · obtain ⟨htoken, hseed⟩ := verifyToken_eq_true h
    refine ⟨?_, hseed⟩
    cases hvalue : form "csrf_token" with
    | none => exact absurd (by rw [hvalue]; rfl) hempty
    | some value =>
      rw [hvalue, Option.getD_some] at htoken
      rw [htoken]

theorem exists_verifyAdmin_iff : (∃ b, verifyAdmin mac r = .ok b) ↔ r.PlainAdmin := by
  unfold verifyAdmin Request.PlainAdmin
  by_cases hcookie : r.cookieToken = ""
  · rw [if_pos hcookie]
    exact iff_of_true ⟨false, rfl⟩ fun hne => absurd hcookie hne
  · rw [if_neg hcookie]
    simp only [ne_eq, hcookie, not_false_eq_true, true_imp_iff]
    by_cases hheader : r.header "x-csrf-token" = ""
    · rw [if_neg (not_not.2 hheader)]
      simp only [hheader, not_true_eq_false, false_imp_iff, true_imp_iff, true_and]
      by_cases hform : r.sendsForm
      · rw [if_pos hform]
        simp only [hform, true_imp_iff]
        cases hread : r.form with
        | error e =>
          refine iff_of_false ?_ ?_
          · rintro ⟨b, hb⟩
            cases hb
          · rintro ⟨form, hform, -⟩
            cases hform
        | ok form =>
          refine exists_verifyForm_iff.trans ⟨fun h => ⟨form, rfl, h⟩, ?_⟩
          rintro ⟨form', heq, h⟩
          exact Except.ok.inj heq ▸ h
      · rw [if_neg hform]
        exact iff_of_true ⟨false, rfl⟩ fun h => absurd h hform
    · rw [if_pos hheader]
      simp only [hheader, not_false_eq_true, true_imp_iff, false_imp_iff, and_true]
      exact exists_verifyToken_iff

theorem Request.cookies_eq (r : Request) (h : r.cookieToken ≠ "") :
    r.cookies "csrf_token" = some r.cookieToken := by
  unfold Request.cookieToken at h ⊢
  cases hcookie : r.cookies "csrf_token" with
  | none => exact absurd (by rw [hcookie]; rfl) h
  | some token => rfl

/-- **A verified admin request** carries the token of its cookie. -/
theorem verifyAdmin_eq_true (h : verifyAdmin mac r = .ok true) :
    r.Carries r.cookieToken ∧ r.cookies "csrf_token" = some r.cookieToken ∧
      ∃ seed, Text.splitOnce ':' r.cookieToken =
        some (seed, mac.hexdigest ("csrf:" ++ seed)) := by
  unfold verifyAdmin at h
  dsimp only at h
  split_ifs at h with hcookie hheader hform
  · cases h
  · obtain ⟨htoken, hseed⟩ := verifyToken_eq_true h
    exact ⟨.inl (FormValue.text.inj htoken), r.cookies_eq hcookie, hseed⟩
  · obtain ⟨form, hread, hform⟩ := bind_eq_ok_iff.1 h
    obtain ⟨htoken, hseed⟩ := verifyForm_eq_true hform
    exact ⟨.inr ⟨form, hread, htoken⟩, r.cookies_eq hcookie, hseed⟩
  · cases h

section Extend

variable {path : String}

/-- The message that an extension request is signed by. -/
def extendMessage (path : String) (r : Request) : String :=
  path ++ ":" ++ r.header "x-extend-timestamp" ++ ":" ++ r.client.getD "unknown"

theorem verifyExtendSignature_eq (hpath : r.urlPath = .ok path)
    (hextend : Text.startsWith "/api/v1/extend" path) : verifyExtendSignature mac now r =
      if r.header "x-extend-signature" = "" then .ok false
      else if r.header "x-extend-timestamp" = "" then .ok false
      else match Text.int? (r.header "x-extend-timestamp") with
        | none => .ok false
        | some ts =>
          if |now - ts| > 300 then .ok false
          else compareDigest (r.header "x-extend-signature")
            (mac.hexdigest (extendMessage path r)) := by
  unfold verifyExtendSignature
  rw [hpath]
  show (if Text.startsWith "/api/v1/extend" path = true then _ else _) = _
  rw [if_pos hextend]
  rfl

theorem exists_compareDigest_iff {sig msg : String} :
    (∃ b, compareDigest sig (mac.hexdigest msg) = .ok b) ↔ Text.isAscii sig = true := by
  unfold compareDigest
  by_cases hascii : Text.isAscii sig = true
  · rw [if_pos ⟨hascii, mac.ascii msg⟩]
    exact iff_of_true ⟨_, rfl⟩ hascii
  · rw [if_neg fun h => hascii h.1]
    refine iff_of_false ?_ hascii
    rintro ⟨b, hb⟩
    cases hb

theorem exists_verifyExtendSignature_iff (hpath : r.urlPath = .ok path)
    (hextend : Text.startsWith "/api/v1/extend" path) :
    (∃ b, verifyExtendSignature mac now r = .ok b) ↔ r.PlainExtend now := by
  rw [verifyExtendSignature_eq hpath hextend]
  unfold Request.PlainExtend
  by_cases hsig : r.header "x-extend-signature" = ""
  · rw [if_pos hsig]
    exact iff_of_true ⟨false, rfl⟩ fun _ _ _ => hsig ▸ rfl
  · rw [if_neg hsig]
    by_cases hstamp : r.header "x-extend-timestamp" = ""
    · -- an empty timestamp is no number
      rw [if_pos hstamp, hstamp]
      exact iff_of_true ⟨false, rfl⟩ fun ts hts => by cases hts
    · rw [if_neg hstamp]
      cases hint : Text.int? (r.header "x-extend-timestamp") with
      | none => exact iff_of_true ⟨false, rfl⟩ fun ts hts => by cases hts
      | some ts =>
        dsimp only
        by_cases htime : |now - ts| > 300
        · rw [if_pos htime]
          refine iff_of_true ⟨false, rfl⟩ fun ts' hts' hle => absurd hle ?_
          exact not_le.2 (Option.some.inj hts' ▸ htime)
        · rw [if_neg htime]
          refine exists_compareDigest_iff.trans ⟨fun h _ _ _ => h, fun h => ?_⟩
          exact h ts rfl (not_lt.1 htime)

/-- **A verified signature** is the one for the path, the timestamp and the client. -/
theorem verifyExtendSignature_eq_true (hpath : r.urlPath = .ok path)
    (hextend : Text.startsWith "/api/v1/extend" path)
    (h : verifyExtendSignature mac now r = .ok true) :
    ∃ ts, Text.int? (r.header "x-extend-timestamp") = some ts ∧ |now - ts| ≤ 300 ∧
      r.header "x-extend-signature" = mac.hexdigest (extendMessage path r) := by
  rw [verifyExtendSignature_eq hpath hextend] at h
  split_ifs at h
  · cases h
  · cases h
  · split at h
    next => cases h
    next ts hint =>
      split_ifs at h with htime
      · cases h
      · unfold compareDigest at h
        split_ifs at h
        exact ⟨ts, hint, not_lt.1 htime, beq_iff_eq.1 (Except.ok.inj h)⟩

end Extend

/-! ### What is decided -/

section Dispatch

variable {path : String}

/-- No path starts with both. -/
theorem not_admin_of_extend (h : Text.startsWith "/api/v1/extend" path = true) :
    ¬ Text.startsWith "/admin/" path = true := by
  intro hadmin
  obtain ⟨rest, hrest⟩ := List.isPrefixOf_iff_prefix.1 h
  obtain ⟨rest', hrest'⟩ := List.isPrefixOf_iff_prefix.1 hadmin
  rw [← hrest] at hrest'
  exact absurd (congrArg (fun s => s[2]?) hrest') (by simp)

theorem Request.not_mutates (h : r.method ∈ ["GET", "HEAD"]) : ¬ r.mutates := by
  unfold Request.mutates
  rcases List.mem_pair.1 h with heq | heq <;> rw [heq] <;> decide

/-- The answer to what was verified. -/
def verdict (detail : String) (verified : Bool) : Outcome :=
  if verified then .forward none else .answer 403 detail

theorem dispatch_eq (hpath : r.urlPath = .ok path) : dispatch mac now seed r =
    if r.method ∈ ["GET", "HEAD"] ∧ Text.startsWith "/admin/" path then
      .ok (.forward (some (generateCsrfToken mac seed)))
    else if r.mutates ∧ Text.startsWith "/admin/" path then
      verdict "CSRF validation failed" <$> verifyAdmin mac r
    else if r.mutates ∧ Text.startsWith "/api/v1/extend" path then
      verdict "Extension API authentication failed" <$> verifyExtendSignature mac now r
    else .ok (.forward none) := by
  have hmap : ∀ (detail : String) (x : Except Raised Bool),
      (x >>= fun b => if b then return .forward none else return .answer 403 detail) =
        verdict detail <$> x := by
    intro detail x
    cases x with
    | error e => rfl
    | ok b => cases b <;> rfl
  unfold dispatch
  rw [hpath, ← hmap, ← hmap]
  rfl

theorem exists_verdict_iff {detail : String} {x : Except Raised Bool} :
    (∃ outcome, verdict detail <$> x = .ok outcome) ↔ ∃ b, x = .ok b := by
  simp only [map_eq_ok_iff]
  exact ⟨fun ⟨_, b, hb, _⟩ => ⟨b, hb⟩, fun ⟨b, hb⟩ => ⟨_, b, hb, rfl⟩⟩

theorem verdict_cases (detail : String) (b : Bool) :
    (∃ token, verdict detail b = .forward token) ∨
      ∃ detail', verdict detail b = .answer 403 detail' := by
  cases b with
  | true => exact .inl ⟨none, rfl⟩
  | false => exact .inr ⟨detail, rfl⟩

/-- **The middleware decides** exactly when nothing is raised. -/
theorem exists_dispatch_iff : (∃ outcome, dispatch mac now seed r = .ok outcome) ↔ Plain now r := by
  unfold Plain
  cases hpath : r.urlPath with
  | error e =>
    refine iff_of_false ?_ ?_
    · rintro ⟨outcome, houtcome⟩
      rw [dispatch, hpath] at houtcome
      cases houtcome
    · rintro ⟨path, heq, -⟩
      cases heq
  | ok path =>
    have hplain : (∃ path', Except.ok (ε := Raised) path = .ok path' ∧
        (r.mutates → Text.startsWith "/admin/" path' → r.PlainAdmin) ∧
        (r.mutates → Text.startsWith "/api/v1/extend" path' → r.PlainExtend now)) ↔
        (r.mutates → Text.startsWith "/admin/" path → r.PlainAdmin) ∧
          (r.mutates → Text.startsWith "/api/v1/extend" path → r.PlainExtend now) := by
      constructor
      · rintro ⟨path', heq, h⟩
        exact Except.ok.inj heq ▸ h
      · exact fun h => ⟨path, rfl, h⟩
    rw [hplain, dispatch_eq hpath]
    -- the branches exclude each other: a path is not both of the admin pages and of `extend`
    split_ifs with hpage hadmin hextend
    · have hmutates := Request.not_mutates hpage.1
      exact iff_of_true ⟨_, rfl⟩ ⟨fun h => absurd h hmutates, fun h => absurd h hmutates⟩
    · rw [exists_verdict_iff, exists_verifyAdmin_iff]
      refine ⟨fun h => ⟨fun _ _ => h, fun _ hextend => ?_⟩, fun h => h.1 hadmin.1 hadmin.2⟩
      exact absurd hadmin.2 (not_admin_of_extend hextend)
    · rw [exists_verdict_iff, exists_verifyExtendSignature_iff hpath hextend.2]
      exact ⟨fun h => ⟨fun hm ha => absurd ⟨hm, ha⟩ hadmin, fun _ _ => h⟩,
        fun h => h.2 hextend.1 hextend.2⟩
    · exact iff_of_true ⟨_, rfl⟩
        ⟨fun hm ha => absurd ⟨hm, ha⟩ hadmin, fun hm he => absurd ⟨hm, he⟩ hextend⟩

/-- It forwards the request, or answers with 403. -/
theorem dispatch_cases {outcome : Outcome} (h : dispatch mac now seed r = .ok outcome) :
    (∃ token, outcome = .forward token) ∨ ∃ detail, outcome = .answer 403 detail := by
  obtain ⟨path, hpath, -⟩ := bind_eq_ok_iff.1 h
  rw [dispatch_eq hpath] at h
  split_ifs at h
  · exact .inl ⟨_, (Except.ok.inj h).symm⟩
  · obtain ⟨b, -, rfl⟩ := map_eq_ok_iff.1 h
    exact verdict_cases _ b
  · obtain ⟨b, -, rfl⟩ := map_eq_ok_iff.1 h
    exact verdict_cases _ b
  · exact .inl ⟨_, (Except.ok.inj h).symm⟩

/-- Only what was verified is forwarded. -/
theorem eq_true_of_verdict {detail : String} {x : Except Raised Bool} {token : Option String}
    (h : verdict detail <$> x = .ok (.forward token)) : x = .ok true := by
  obtain ⟨b, hb, hverdict⟩ := map_eq_ok_iff.1 h
  cases b with
  | true => exact hb
  | false => cases hverdict

theorem verifyAdmin_of_forward {forwarded : Option String}
    (h : dispatch mac now seed r = .ok (.forward forwarded)) (hpath : r.urlPath = .ok path)
    (hmutates : r.mutates) (hadmin : Text.startsWith "/admin/" path) :
    verifyAdmin mac r = .ok true := by
  rw [dispatch_eq hpath, if_neg fun hget => Request.not_mutates hget.1 hmutates,
    if_pos ⟨hmutates, hadmin⟩] at h
  exact eq_true_of_verdict h

theorem verifyExtendSignature_of_forward {forwarded : Option String}
    (h : dispatch mac now seed r = .ok (.forward forwarded)) (hpath : r.urlPath = .ok path)
    (hmutates : r.mutates) (hextend : Text.startsWith "/api/v1/extend" path) :
    verifyExtendSignature mac now r = .ok true := by
  have hadmin := not_admin_of_extend hextend
  rw [dispatch_eq hpath, if_neg fun hget => hadmin hget.2, if_neg fun h => hadmin h.2,
    if_pos ⟨hmutates, hextend⟩] at h
  exact eq_true_of_verdict h

/-- The token of an admin page is generated. -/
theorem forward_token {token : String}
    (h : dispatch mac now seed r = .ok (.forward (some token))) :
    token = generateCsrfToken mac seed := by
  obtain ⟨path, hpath, -⟩ := bind_eq_ok_iff.1 h
  rw [dispatch_eq hpath] at h
  have hverdict : ∀ {detail : String} {x : Except Raised Bool},
      verdict detail <$> x ≠ .ok (.forward (some token)) := by
    intro detail x heq
    obtain ⟨b, -, hb⟩ := map_eq_ok_iff.1 heq
    cases b <;> cases hb
  split_ifs at h
  · cases h
    rfl
  · exact absurd h hverdict
  · exact absurd h hverdict
  · cases h

end Dispatch

/-! ### Which tokens are accepted -/

/-- The messages of this form that were signed are those of the generated tokens. -/
def Issued (mac : Hmac) (s : State) : Prop :=
  ∀ msg ∈ s.signed, Text.startsWith "csrf:" msg = true →
    ∃ seed, msg = "csrf:" ++ seed ∧ generateCsrfToken mac seed ∈ s.tokens

theorem Issued.next (h : Issued mac s) (hnext : s.next mac label = some s') : Issued mac s' := by
  cases label with
  | request now seed r =>
    simp only [State.next] at hnext
    split at hnext
    next token hdispatch =>
      obtain rfl := Option.some.inj hnext
      obtain rfl := forward_token hdispatch
      intro msg hmsg hstart
      rcases List.mem_append.1 hmsg with hmsg | hmsg
      · obtain ⟨seed', heq, htoken⟩ := h msg hmsg hstart
        exact ⟨seed', heq, List.mem_append_left _ htoken⟩
      · exact ⟨seed, List.mem_singleton.1 hmsg,
          List.mem_append_right _ (List.mem_singleton_self _)⟩
    next =>
      obtain rfl := Option.some.inj hnext
      exact h
  | sign msg =>
    simp only [State.next] at hnext
    split_ifs at hnext with hsign
    obtain rfl := Option.some.inj hnext
    intro msg' hmsg hstart
    rcases List.mem_append.1 hmsg with hmsg | hmsg
    · exact h msg' hmsg hstart
    · exact absurd (List.mem_singleton.1 hmsg ▸ hstart) hsign

/-- **A token with the signature of its seed** that a client can present was generated. -/
theorem Issued.mem_tokens (h : Issued mac s) {token seed : String} (htoken : Obtainable mac s token)
    (hsplit : Text.splitOnce ':' token = some (seed, mac.hexdigest ("csrf:" ++ seed))) :
    token ∈ s.tokens := by
  have hparts := Text.splitOnce_eq_some hsplit
  have hsigned : "csrf:" ++ seed ∈ s.signed := by
    refine htoken _ _ ?_ rfl
    rw [Text.contains, hparts]
    exact ((List.suffix_cons _ _).trans (List.suffix_append _ _)).isInfix
  obtain ⟨seed', heq, hmem⟩ := h _ hsigned (Text.startsWith_append _ _)
  have hseed : seed = seed' := by
    rw [← String.toList_inj, String.toList_append, String.toList_append,
      List.append_cancel_left_eq, String.toList_inj] at heq
    exact heq
  have hgenerated : token = generateCsrfToken mac seed' := by
    rw [← hseed, ← String.toList_inj, hparts, generateCsrfToken]
    simp
  exact hgenerated ▸ hmem

/-- **The requests that are guarded** are those for which nothing is raised. -/
theorem guards_iff {labels : List Label} (hrun : (guardSystem mac).Run {} labels s)
    (hobtainable : ∀ token, r.Carries token → Obtainable mac s token) :
    Guards mac s now seed r ↔ Plain now r := by
  have hissued : Issued mac s := hrun.invariant (I := Issued mac) (fun _ h => nomatch h)
    fun _ _ _ h hstep => h.next hstep
  constructor
  · intro h
    obtain ⟨outcome, houtcome, -⟩ := h.decides
    exact exists_dispatch_iff.1 ⟨outcome, houtcome⟩
  · intro h
    obtain ⟨outcome, houtcome⟩ := exists_dispatch_iff.2 h
    refine ⟨⟨outcome, houtcome, dispatch_cases houtcome⟩,
      fun forwarded path hforward hpath hmutates hadmin => ?_,
      fun forwarded path hforward hpath hmutates hextend =>
        verifyExtendSignature_eq_true hpath hextend
          (verifyExtendSignature_of_forward hforward hpath hmutates hextend)⟩
    obtain ⟨hcarries, hcookie, seed', hsplit⟩ :=
      verifyAdmin_eq_true (verifyAdmin_of_forward hforward hpath hmutates hadmin)
    exact ⟨_, hcarries, hcookie, hissued.mem_tokens (hobtainable _ hcarries) hsplit⟩

/-! ### An admin page and its form -/

/-- Some values of HMAC-SHA256 with the key `your-secret-key`; what it gives for other messages does
not matter. -/
def sampleMac : Hmac where
  hexdigest msg :=
    if msg = "csrf:00112233445566778899aabbccddeeff" then
      "9ff46c4fe6f2734c6c30a626e5bcb7e967295c0aa587943794be57afb1e15b06"
    else "0000000000000000000000000000000000000000000000000000000000000000"
  ascii msg := by split_ifs <;> decide +kernel

/-- The token of a page. -/
def sampleToken : String := generateCsrfToken sampleMac "00112233445566778899aabbccddeeff"

/-- The page is read. -/
def readPage : Label :=
  .request 1000 "00112233445566778899aabbccddeeff"
    { method := "GET", urlPath := .ok "/admin/users" }

/-- Its form is sent, with the token in the header. -/
def sendForm : Request where
  method := "POST"
  urlPath := .ok "/admin/users"
  headers := [("x-csrf-token", sampleToken.toList.map fun c => c.toNat.toUInt8)]
  cookies name := if name = "csrf_token" then some sampleToken else none

theorem readPage_run : ∃ s, (guardSystem sampleMac).Run {} [readPage] s ∧
    s.signed = ["csrf:00112233445566778899aabbccddeeff"] :=
  Lts.exists_run_of_map (by decide +kernel)

/-- The header of the form is the token of the page. -/
theorem header_sendForm : sendForm.header "x-csrf-token" = sampleToken := by decide +kernel

theorem sendForm_obtainable {s : State}
    (hsigned : s.signed = ["csrf:00112233445566778899aabbccddeeff"]) {token : String}
    (hcarries : sendForm.Carries token) : Obtainable sampleMac s token := by
  have htoken : token = sampleToken := by
    rcases hcarries with hheader | ⟨form, hform, hvalue⟩
    · rw [← hheader, header_sendForm]
    · obtain rfl := Except.ok.inj hform
      cases hvalue
  rintro part msg hpart rfl
  rw [htoken] at hpart
  rw [hsigned, List.mem_singleton]
  by_contra hne
  simp only [sampleMac, if_neg hne] at hpart
  exact absurd hpart (by decide +kernel)

/-- The form is guarded. -/
theorem sendForm_guards : ∃ s, (guardSystem sampleMac).Run {} [readPage] s ∧
    Guards sampleMac s 1001 "" sendForm := by
  obtain ⟨s, hs, hsigned⟩ := readPage_run
  refine ⟨s, hs, (guards_iff hs fun token => sendForm_obtainable hsigned).2
    ⟨_, rfl, fun _ _ _ => ⟨fun _ seed sig hsplit => ?_, fun hempty => ?_⟩, fun _ hextend => ?_⟩⟩
  · have hparts : Text.splitOnce ':' sampleToken =
        some ("00112233445566778899aabbccddeeff",
          "9ff46c4fe6f2734c6c30a626e5bcb7e967295c0aa587943794be57afb1e15b06") := by decide +kernel
    rw [header_sendForm, hparts] at hsplit
    obtain ⟨-, rfl⟩ := Prod.mk.inj (Option.some.inj hsplit)
    decide +kernel
  · rw [header_sendForm] at hempty
    exact absurd hempty (by decide +kernel)
  · exact absurd hextend (by decide +kernel)

/-- The same form with a token that is not ASCII. -/
def accentForm : Request where
  method := "POST"
  urlPath := .ok "/admin/users"
  headers := [("x-csrf-token", [97, 58, 233])]
  cookies name := if name = "csrf_token" then some "a:b" else none

/-- There is no signature in it. -/
theorem accentForm_obtainable {s : State} {token : String} (hcarries : accentForm.Carries token) :
    Obtainable sampleMac s token := by
  have htoken : token = "a:é" := by
    rcases hcarries with hheader | ⟨form, hform, hvalue⟩
    · rw [← hheader]
      rfl
    · obtain rfl := Except.ok.inj hform
      cases hvalue
  rintro part msg hpart rfl
  rw [htoken] at hpart
  simp only [sampleMac] at hpart
  split_ifs at hpart <;> exact absurd hpart (by decide +kernel)

/-- **It raises a `TypeError`**, which the guard does not catch. -/
theorem accentForm_not_guarded : ¬ ∀ labels s, (guardSystem sampleMac).Run {} labels s →
    ∀ now seed r, (∀ token, r.Carries token → Obtainable sampleMac s token) →
      Guards sampleMac s now seed r := by
  intro h
  have hraises : dispatch sampleMac 1000 "" accentForm = .error .typeError := rfl
  obtain ⟨outcome, houtcome, -⟩ := (h [] {} (.nil _) 1000 "" accentForm fun token hcarries =>
    accentForm_obtainable hcarries).decides
  rw [hraises] at houtcome
  cases houtcome

end Csrf

end OmsWmsTms
