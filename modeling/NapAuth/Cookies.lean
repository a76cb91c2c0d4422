import NapAuth.Codec.Base64
import NapAuth.Separated
import NapAuth.Server.Program

/-!
# The session cookie

In cookie mode the access token travels in a cookie: `writeNapCookieSuccess` of an adapter sets it
when a login or a refresh succeeds, the browser sends it back, `parseCookieValue` reads it out of the
`Cookie` header among the others, and `/auth/logout` clears it. A browser keeps cookies by name,
domain and path, so a clear with another domain or path leaves the cookie there. The browser is one that
takes what a response sets: it may drop a cookie for other reasons (its `SameSite`, a response that is
not secure), and these are left out.

`parseCookieValue_header` is the round trip of the header. The keys by which a login sets the cookie
and a logout clears it are `Wired.login_key` and `logout_key`, for both adapters, and
`Wired.clearKey_eq_iff` says when the two are the same.
-/

namespace NapAuth

/-! ## The header -/

/-- A text that a cookie may have as its value. -/
def CookieValue (value : List Char) : Prop := ∀ c ∈ value, c ≠ ';' ∧ JsString.isSpace c = false

/-- A text that a cookie may have as its name. -/
def CookieName (name : List Char) : Prop := CookieValue name ∧ '=' ∉ name

instance (value : List Char) : Decidable (CookieValue value) :=
  List.decidableBAll (fun c => c ≠ ';' ∧ JsString.isSpace c = false) value

instance (name : List Char) : Decidable (CookieName name) :=
  inferInstanceAs (Decidable (CookieValue name ∧ '=' ∉ name))

/-- A cookie in a `Cookie` header. -/
def cookiePair (cookie : String × String) : List Char :=
  cookie.1.toList ++ '=' :: cookie.2.toList

/-- The `Cookie` header of some cookies, which a browser leaves out if it has none to send. -/
def cookieHeader : List (String × String) → Option String
  | [] => none
  | cookie :: cookies => some (String.ofList
      (cookiePair cookie ++ cookies.flatMap fun c => ';' :: ' ' :: cookiePair c))

/-- A cookie as its name and its value may be. -/
def WellFormedCookie (cookie : String × String) : Prop :=
  CookieName cookie.1.toList ∧ CookieValue cookie.2.toList

instance (cookie : String × String) : Decidable (WellFormedCookie cookie) :=
  inferInstanceAs (Decidable (CookieName cookie.1.toList ∧ CookieValue cookie.2.toList))

/-- A text without white space is its own trim, and so it is after a blank. -/
theorem trimList_of_not_space {l : List Char} (h : ∀ c ∈ l, JsString.isSpace c = false) :
    JsString.trimList l = l ∧ JsString.trimList (' ' :: l) = l := by
  have hdrop : ∀ l : List Char, (∀ c ∈ l, JsString.isSpace c = false) →
      l.dropWhile JsString.isSpace = l := by
    intro l hl
    cases l with
    | nil => rfl
    | cons c l => exact List.dropWhile_cons_of_neg (by simp [hl c List.mem_cons_self])
  have hback := hdrop l.reverse fun c hc => h c (List.mem_reverse.mp hc)
  have hblank : (' ' :: l).dropWhile JsString.isSpace = l :=
    (List.dropWhile_cons_of_pos (by decide)).trans (hdrop l h)
  unfold JsString.trimList
  rw [hblank, hdrop l h, hback, List.reverse_reverse]
  exact ⟨rfl, rfl⟩

section Header

variable {cookie : String × String} {cookies : List (String × String)} {name : String}

/-- The characters of a cookie. -/
theorem WellFormedCookie.chars (h : WellFormedCookie cookie) : CookieValue (cookiePair cookie) := by
  intro c hc
  rcases List.mem_append.mp hc with hc | hc
  · exact h.1.1 c hc
  · rcases List.mem_cons.mp hc with rfl | hc
    · decide
    · exact h.2 c hc

/-- What `parseCookieValue` looks for in one part of a header. -/
theorem parse_cookiePair (h : WellFormedCookie cookie) :
    (if String.ofList ((cookiePair cookie).takeWhile (· ≠ '=')) = name then
      some (String.ofList (((cookiePair cookie).dropWhile (· ≠ '=')).drop 1))
    else none) = if cookie.1 = name then some cookie.2 else none := by
  have hname : ∀ c ∈ cookie.1.toList, decide (c ≠ '=') = true := fun c hc =>
    decide_eq_true fun heq => h.1.2 (heq ▸ hc)
  have htake : (cookiePair cookie).takeWhile (· ≠ '=') = cookie.1.toList := by
    rw [cookiePair, List.takeWhile_append_of_pos hname, List.takeWhile_cons_of_neg (by simp),
      List.append_nil]
  have hdrop : (cookiePair cookie).dropWhile (· ≠ '=') = '=' :: cookie.2.toList := by
    rw [cookiePair, List.dropWhile_append_of_pos hname, List.dropWhile_cons_of_neg (by simp)]
  rw [htake, hdrop, List.drop_one, List.tail_cons, String.ofList_toList, String.ofList_toList]

/-- The parts of a header are its cookies. -/
theorem splitOn_header (h : ∀ c ∈ cookie :: cookies, WellFormedCookie c) :
    ((cookiePair cookie ++ cookies.flatMap fun c => ';' :: ' ' :: cookiePair c).splitOn ';').map
      JsString.trimList = (cookie :: cookies).map cookiePair := by
  have hjoin : (cookiePair cookie ++ cookies.flatMap fun c => ';' :: ' ' :: cookiePair c) =
      List.intercalate [';'] (cookiePair cookie :: cookies.map fun c => ' ' :: cookiePair c) := by
    rw [Separated.intercalate_cons, Separated.rest, List.flatMap_map]
  have hfree : ∀ l ∈ cookiePair cookie :: cookies.map (fun c => ' ' :: cookiePair c), ';' ∉ l := by
    intro l hl hmem
    rcases List.mem_cons.mp hl with rfl | hl
    · exact ((h cookie List.mem_cons_self).chars _ hmem).1 rfl
    · obtain ⟨c, hc, rfl⟩ := List.mem_map.mp hl
      rcases List.mem_cons.mp hmem with heq | hmem
      · cases heq
      · exact ((h c (List.mem_cons_of_mem _ hc)).chars _ hmem).1 rfl
  have htrim : ∀ c ∈ cookie :: cookies, JsString.trimList (cookiePair c) = cookiePair c ∧
      JsString.trimList (' ' :: cookiePair c) = cookiePair c := fun c hc =>
    trimList_of_not_space fun x hx => ((h c hc).chars x hx).2
  rw [hjoin, List.splitOn_intercalate ';' hfree (List.cons_ne_nil _ _), List.map_cons,
    (htrim cookie List.mem_cons_self).1, List.map_map, List.map_cons]
  exact congrArg _ (List.map_congr_left fun c hc => (htrim c (List.mem_cons_of_mem _ hc)).2)

/-- What is read out of a header is the value of the first cookie with the name. -/
theorem parseCookieValue_header (h : ∀ c ∈ cookies, WellFormedCookie c) :
    parseCookieValue (cookieHeader cookies) name =
      (cookies.find? fun c => c.1 = name).map Prod.snd := by
  cases cookies with
  | nil => rfl
  | cons cookie cookies =>
    have htruthy : truthyString (cookieHeader (cookie :: cookies)) = true := by
      refine truthyString_iff.mpr ⟨_, rfl, fun hempty => ?_⟩
      have hlist := congrArg String.toList hempty
      simp [cookiePair] at hlist
    have hfind : ∀ l : List (String × String), (∀ c ∈ l, WellFormedCookie c) →
        ((l.map cookiePair).findSome? fun candidate =>
          if String.ofList (candidate.takeWhile (· ≠ '=')) = name then
            some (String.ofList ((candidate.dropWhile (· ≠ '=')).drop 1))
          else none) = (l.find? fun c => c.1 = name).map Prod.snd := by
      intro l hl
      induction l with
      | nil => rfl
      | cons c l ih =>
        rw [List.map_cons, List.findSome?_cons, parse_cookiePair (hl c List.mem_cons_self),
          List.find?_cons, ih fun c' hc' => hl c' (List.mem_cons_of_mem _ hc')]
        by_cases hname : c.1 = name <;> simp [hname]
    rw [parseCookieValue, htruthy]
    simp only [Bool.true_eq_false, if_false, cookieHeader, Option.getD_some, String.toList_ofList]
    rw [splitOn_header h]
    exact hfind _ h

end Header

/-! ## The browser -/

/-- The domain that a `Domain` attribute stands for: a dot at its beginning and its case do not count,
and an empty one is none. -/
def cookieDomain (domain : Option String) : Option String :=
  (domain.map fun d => String.ofList ((match d.toList with
    | '.' :: cs => cs
    | cs => cs).map Char.toLower)).filter (· ≠ "")

/-- What a browser keeps a cookie by. -/
structure CookieKey where
  name : String
  /-- Without a domain, the cookie is for the host that has set it. -/
  domain : Option String
  path : String
  deriving DecidableEq

/-- A `Set-Cookie` header, as a browser reads it. Times are in milliseconds. -/
structure SetCookie where
  name : String
  value : String
  domain : Option String
  path : Option String
  /-- Until when the browser is to keep it, if not for the session. -/
  expiry : Option ℤ
  deriving DecidableEq

/-- A cookie in a browser. -/
structure StoredCookie where
  key : CookieKey
  value : String
  /-- Until when the browser keeps it, if not for the session. -/
  expiry : Option ℤ
  deriving DecidableEq

/-- What the cookie is kept by. Without a path, it is that of the request. -/
def SetCookie.key (sc : SetCookie) (defaultPath : String) : CookieKey :=
  ⟨sc.name, cookieDomain sc.domain, sc.path.getD defaultPath⟩

/-- Whether a cookie with an expiry is kept at a time. -/
def keptAt (now : ℤ) (expiry : Option ℤ) : Bool := expiry.all (now < ·)

/-- The cookies of a browser. -/
abbrev Jar : Type := List StoredCookie

namespace Jar

/-- A response sets a cookie: it replaces the one with its key, or removes it. -/
def receive (jar : Jar) (now : ℤ) (defaultPath : String) (sc : SetCookie) : Jar :=
  let others := jar.filter (·.key ≠ sc.key defaultPath)
  if keptAt now sc.expiry then others ++ [⟨sc.key defaultPath, sc.value, sc.expiry⟩] else others

/-- The cookies that a request carries: those that are kept, and that its URL matches. -/
def sends (jar : Jar) (now : ℤ) (isMatch : CookieKey → Bool) : List (String × String) :=
  (jar.filter fun c => isMatch c.key && keptAt now c.expiry).map fun c => (c.key.name, c.value)

end Jar

/-! ## The adapters -/

/-- The options of a cookie, as far as the adapters set or read them. -/
structure CookieOptions where
  httpOnly : Option Bool
  secure : Option Bool
  sameSite : Option String
  domain : Option String
  path : Option String
  maxAge : Option ℤ
  expires : Option ℤ
  deriving DecidableEq

namespace CookieOptions

/-- `{}`. -/
def empty : CookieOptions := ⟨none, none, none, none, none, none, none⟩

/-- `{ ...a, ...b }`. A property of `b` that is there with the value `undefined` would count, and is left
out: what is `none` is not there. -/
def spread (a b : CookieOptions) : CookieOptions where
  httpOnly := b.httpOnly.or a.httpOnly
  secure := b.secure.or a.secure
  sameSite := b.sameSite.or a.sameSite
  domain := b.domain.or a.domain
  path := b.path.or a.path
  maxAge := b.maxAge.or a.maxAge
  expires := b.expires.or a.expires

end CookieOptions

/-- `SECURE_COOKIE_DEFAULTS`. -/
def secureCookieDefaults : CookieOptions :=
  { CookieOptions.empty with httpOnly := some true, secure := some true, sameSite := some "lax",
                             path := some "/" }

/-- What `writeNapCookieSuccess` returns, as its stamps have it. -/
structure CookieWriter where
  cookieName : String
  attrs : CookieOptions
  /-- It replies without the tokens. -/
  discardsTokens : Bool
  deriving DecidableEq

/-- `writeNapCookieSuccess`. -/
def writeNapCookieSuccess (cookieName : String) (cookieOptions : Option CookieOptions)
    (hasTransformBody : Bool) : CookieWriter where
  cookieName := cookieName
  attrs := secureCookieDefaults.spread (cookieOptions.getD .empty)
  discardsTokens := !hasTransformBody

/-- The options of an adapter that are about the cookie. -/
structure CookieConfig where
  cookieName : Option String
  clearCookieOptions : Option CookieOptions
  /-- `writeSuccess`, if it was made by `writeNapCookieSuccess`. -/
  writeSuccess : Option CookieWriter
  deriving DecidableEq

/-- `setCookieAttrsOf`: the lifetime is dropped. -/
def setCookieAttrsOf (writeSuccess : Option CookieWriter) : Option CookieOptions :=
  writeSuccess.map fun w => { w.attrs with maxAge := none, expires := none }

namespace CookieConfig

/-- The name that guards, the session route and the logout read. -/
def read (config : CookieConfig) : String := config.cookieName.getD "session"

/-- `assertCookieNamesAgree`. -/
def assertCookieNamesAgree (config : CookieConfig) : Except String Unit :=
  match config.writeSuccess with
  | none => .ok ()
  | some w =>
    if w.cookieName ≠ config.read then
      .error ("NAP cookie name mismatch: writeNapCookieSuccess writes '" ++ w.cookieName ++
        "' but the adapter reads '" ++ config.read ++ "'. /auth/session and /auth/logout would look " ++
        "for a cookie that is never set. Pass cookieName: '" ++ w.cookieName ++
        "' alongside writeSuccess, or write under '" ++ config.read ++ "'.")
    else .ok ()

end CookieConfig

/-- The libraries by which the adapters write cookies, with what a browser reads that receives the
response at the time given: `res.cookie` and `res.clearCookie` of Express, and `serialize` of the
`cookie` package. -/
structure CookieLibrary where
  cookie : ℤ → String → String → CookieOptions → SetCookie
  clearCookie : ℤ → String → CookieOptions → SetCookie
  serialize : ℤ → String → String → CookieOptions → SetCookie

/-- What is documented of the libraries. -/
structure CookieLibrary.Lawful (L : CookieLibrary) : Prop where
  /-- Express writes the attributes that it is given. Its path is `/` if none is given. -/
  cookie : ∀ now name value o, ∃ expiry,
    L.cookie now name value o = ⟨name, value, o.domain, some (o.path.getD "/"), expiry⟩
  /-- So it does when it clears a cookie. -/
  clearCookie : ∀ now name o, ∃ expiry,
    L.clearCookie now name o = ⟨name, "", o.domain, some (o.path.getD "/"), expiry⟩
  /-- A cleared cookie has expired, unless the options have a lifetime of their own. -/
  clearCookie_ends : ∀ now name o, 0 < now → o.maxAge = none → o.expires = none →
    keptAt now (L.clearCookie now name o).expiry = false
  /-- `serialize` writes the attributes that it is given. -/
  serialize : ∀ now name value o, ∃ expiry,
    L.serialize now name value o = ⟨name, value, o.domain, o.path, expiry⟩
  /-- A `Max-Age` of zero ends a cookie at once. -/
  serialize_ends : ∀ now name value o, o.maxAge = some 0 →
    keptAt now (L.serialize now name value o).expiry = false

variable (L : CookieLibrary)

namespace Express

/-- The cookie that a login or a refresh sets. -/
def loginCookie (now : ℤ) (w : CookieWriter) (accessToken : String) : SetCookie :=
  L.cookie now w.cookieName accessToken w.attrs

/-- The cookie that `/auth/logout` clears. -/
def logoutCookie (now : ℤ) (config : CookieConfig) : SetCookie :=
  L.clearCookie now config.read
    ((config.clearCookieOptions.or (setCookieAttrsOf config.writeSuccess)).getD
      { CookieOptions.empty with path := some "/" })

end Express

namespace Fastify

/-- The cookie that a login or a refresh sets. -/
def loginCookie (now : ℤ) (w : CookieWriter) (accessToken : String) : SetCookie :=
  L.serialize now w.cookieName accessToken w.attrs

/-- The cookie that `/auth/logout` clears. -/
def logoutCookie (now : ℤ) (config : CookieConfig) : SetCookie :=
  L.serialize now config.read ""
    ((({ CookieOptions.empty with path := some "/" }).spread
      ((config.clearCookieOptions.or (setCookieAttrsOf config.writeSuccess)).getD .empty)).spread
        { CookieOptions.empty with maxAge := some 0 })

end Fastify

/-- The two adapters. -/
inductive Adapter where
  | express
  | fastify
  deriving DecidableEq

namespace Adapter

/-- The cookie that a login or a refresh sets. -/
def loginCookie (now : ℤ) (w : CookieWriter) (accessToken : String) : Adapter → SetCookie
  | express => Express.loginCookie L now w accessToken
  | fastify => Fastify.loginCookie L now w accessToken

/-- The cookie that `/auth/logout` clears. -/
def logoutCookie (now : ℤ) (config : CookieConfig) : Adapter → SetCookie
  | express => Express.logoutCookie L now config
  | fastify => Fastify.logoutCookie L now config

end Adapter

/-! ## What is kept by what -/

/-- What the cookie of a login is kept by. -/
def CookieWriter.key (w : CookieWriter) : CookieKey :=
  ⟨w.cookieName, cookieDomain w.attrs.domain, w.attrs.path.getD "/"⟩

/-- What the logout clears. -/
def CookieConfig.clearKey (config : CookieConfig) : CookieKey :=
  let options := (config.clearCookieOptions.or (setCookieAttrsOf config.writeSuccess)).getD .empty
  ⟨config.read, cookieDomain options.domain, options.path.getD "/"⟩

/-- An adapter whose cookies are written by `writeNapCookieSuccess`, under the name that is read. -/
structure CookieConfig.Wired (config : CookieConfig) (w : CookieWriter) : Prop where
  writes : config.writeSuccess = some w
  /-- Its options are those of `writeNapCookieSuccess`. -/
  made : ∃ cookieOptions hasTransformBody,
    w = writeNapCookieSuccess w.cookieName cookieOptions hasTransformBody
  /-- The handlers could be made. -/
  agree : config.assertCookieNamesAgree = .ok ()
  /-- The name is one that a cookie may have. -/
  name : CookieName config.read.toList

section Keys

variable {L} {config : CookieConfig} {w : CookieWriter} {now : ℤ} {token path : String}

/-- The name that is written is the name that is read. -/
theorem CookieConfig.Wired.cookieName_eq (h : config.Wired w) : w.cookieName = config.read := by
  have hagree := h.agree
  simp only [CookieConfig.assertCookieNamesAgree, h.writes] at hagree
  split at hagree
  · cases hagree
  · rename_i hname
    exact not_not.mp hname

/-- A written cookie has a path of its own. -/
theorem CookieConfig.Wired.attrs_path (h : config.Wired w) : ∃ path, w.attrs.path = some path := by
  obtain ⟨cookieOptions, hasTransformBody, hw⟩ := h.made
  rw [hw]
  exact Option.isSome_iff_exists.mp (by simp [writeNapCookieSuccess, CookieOptions.spread,
    secureCookieDefaults])

/-- Both adapters write the token of a login, and keep it by the same key, whatever route has set
it. -/
theorem CookieConfig.Wired.login_key (h : config.Wired w) (hL : L.Lawful) (a : Adapter) :
    (a.loginCookie L now w token).key path = w.key ∧ (a.loginCookie L now w token).value = token := by
  obtain ⟨own, hown⟩ := h.attrs_path
  cases a with
  | express =>
    obtain ⟨expiry, heq⟩ := hL.cookie now w.cookieName token w.attrs
    rw [Adapter.loginCookie, Express.loginCookie, heq]
    exact ⟨rfl, rfl⟩
  | fastify =>
    obtain ⟨expiry, heq⟩ := hL.serialize now w.cookieName token w.attrs
    rw [Adapter.loginCookie, Fastify.loginCookie, heq]
    exact ⟨by simp only [SetCookie.key, CookieWriter.key, hown, Option.getD_some], rfl⟩

/-- Both adapters clear the cookie with the same key, whatever route does. -/
theorem CookieConfig.logout_key (hL : L.Lawful) (a : Adapter) :
    (a.logoutCookie L now config).key path = config.clearKey ∧
      (a.logoutCookie L now config).value = "" := by
  unfold CookieConfig.clearKey
  cases a with
  | express =>
    obtain ⟨expiry, heq⟩ := hL.clearCookie now config.read
      ((config.clearCookieOptions.or (setCookieAttrsOf config.writeSuccess)).getD
        { CookieOptions.empty with path := some "/" })
    rw [Adapter.logoutCookie, Express.logoutCookie, heq]
    cases config.clearCookieOptions.or (setCookieAttrsOf config.writeSuccess) <;> exact ⟨rfl, rfl⟩
  | fastify =>
    obtain ⟨expiry, heq⟩ := hL.serialize now config.read ""
      ((({ CookieOptions.empty with path := some "/" }).spread
        ((config.clearCookieOptions.or (setCookieAttrsOf config.writeSuccess)).getD .empty)).spread
          { CookieOptions.empty with maxAge := some 0 })
    rw [Adapter.logoutCookie, Fastify.logoutCookie, heq]
    cases config.clearCookieOptions.or (setCookieAttrsOf config.writeSuccess) with
    | none => exact ⟨rfl, rfl⟩
    | some options =>
      obtain ⟨-, -, -, domain, own, -, -⟩ := options
      cases domain <;> cases own <;> exact ⟨rfl, rfl⟩

/-- With the attributes that the adapter copies, the logout clears what the login has set. With
options of its own, it does so exactly when their domain and their path are those of the login. -/
theorem CookieConfig.Wired.clearKey_eq_iff (h : config.Wired w) : config.clearKey = w.key ↔
    ∀ options, config.clearCookieOptions = some options →
      cookieDomain options.domain = cookieDomain w.attrs.domain ∧
        options.path.getD "/" = w.attrs.path.getD "/" := by
  unfold CookieConfig.clearKey CookieWriter.key
  rw [h.writes, h.cookieName_eq]
  cases config.clearCookieOptions with
  | none => simp [setCookieAttrsOf]
  | some options => simp

/-- The logout of Fastify removes a cookie, and so does that of Express if its options have no
lifetime. -/
theorem CookieConfig.logout_ends (hL : L.Lawful) (a : Adapter) (hpos : 0 < now)
    (hlife : a = .express → ∀ options, config.clearCookieOptions = some options →
      options.maxAge = none ∧ options.expires = none) :
    keptAt now (a.logoutCookie L now config).expiry = false := by
  cases a with
  | fastify => exact hL.serialize_ends _ _ _ _ rfl
  | express =>
    have hlife := hlife rfl
    refine hL.clearCookie_ends _ _ _ hpos ?_ ?_
    · cases hclear : config.clearCookieOptions with
      | none => cases config.writeSuccess <;> rfl
      | some options => exact (hlife options hclear).1
    · cases hclear : config.clearCookieOptions with
      | none => cases config.writeSuccess <;> rfl
      | some options => exact (hlife options hclear).2

end Keys

end NapAuth
