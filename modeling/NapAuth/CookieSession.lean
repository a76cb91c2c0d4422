import NapAuth.Cookies

/-!
# The cookie over a browser's history

A browser logs in, refreshes and logs out any number of times, and other responses set cookies of
their own. What a guard then reads out of its `Cookie` header is what was written last: the access
token of the last login or refresh, as long as its cookie is kept, and no token after a logout that
clears the cookie it was written to (`cookie_follows_session`). With the attributes that the adapter
copies from the login, every logout does; with `clearCookieOptions` that have no lifetime it does exactly
when they have the domain and the path of the login (`logout_clears_iff`).
-/

namespace NapAuth

/-! ## Histories -/

/-- A response that a browser receives at the time `now`, to a request whose default path is
`path`. -/
inductive BrowserEvent where
  /-- A login or a refresh succeeds, with an access token made of the drawn bytes. -/
  | login (now : ℤ) (path : String) (secret : List UInt8)
  /-- A logout. -/
  | logout (now : ℤ) (path : String)
  /-- Another response sets a cookie. -/
  | other (now : ℤ) (path : String) (sc : SetCookie)

variable (L : CookieLibrary) (a : Adapter) (config : CookieConfig) (w : CookieWriter)

/-- The cookie that a login sets. -/
def Adapter.accessCookie (now : ℤ) (secret : List UInt8) : SetCookie :=
  a.loginCookie L now w (base64Url secret)

/-- What a response does to the cookies of a browser. -/
def Jar.step (jar : Jar) : BrowserEvent → Jar
  | .login now path secret => jar.receive now path (a.accessCookie L w now secret)
  | .logout now path => jar.receive now path (a.logoutCookie L now config)
  | .other now path sc => jar.receive now path sc

/-- The session cookie as it should be: the access token that was written last, and until when it is
kept. -/
def sessionCookie (current : Option (String × Option ℤ)) : BrowserEvent → Option (String × Option ℤ)
  | .login now _ secret =>
    let expiry := (a.accessCookie L w now secret).expiry
    if keptAt now expiry then some (base64Url secret, expiry) else none
  | .logout _ _ => if config.clearKey = w.key then none else current
  | .other _ _ _ => current

/-- What is assumed of a response: some bytes are drawn for a token, a logout removes what it clears,
and another cookie has another name than the session's. -/
def BrowserEvent.Admissible : BrowserEvent → Prop
  | .login _ _ secret => secret ≠ []
  | .logout now _ => keptAt now (a.logoutCookie L now config).expiry = false
  | .other _ _ sc => sc.name ≠ config.read ∧ WellFormedCookie (sc.name, sc.value)

variable {L a config w}

/-- The cookies of a browser are well formed, and those with the session's name are the session
cookie. -/
structure Jar.Holds (config : CookieConfig) (w : CookieWriter) (jar : Jar)
    (current : Option (String × Option ℤ)) : Prop where
  wellFormed : ∀ c ∈ jar, WellFormedCookie (c.key.name, c.value)
  session : jar.filter (fun c => c.key.name = config.read) =
    (current.map fun s => (⟨w.key, s.1, s.2⟩ : StoredCookie)).toList
  token : ∀ s, current = some s → s.1 ≠ ""

set_option maxRecDepth 4000 in
/-- A cookie may have every character of the URL alphabet in its value. -/
theorem cookieValue_urlChar : ∀ c ∈ Codec.base64Alphabet,
    Codec.urlChar c ≠ ';' ∧ JsString.isSpace (Codec.urlChar c) = false := by
  have hall : (Codec.base64Alphabet.all fun c =>
      decide (Codec.urlChar c ≠ ';' ∧ JsString.isSpace (Codec.urlChar c) = false)) = true := by decide
  exact fun c hc => of_decide_eq_true (List.all_eq_true.mp hall c hc)

/-- A token can be the value of a cookie. -/
theorem cookieValue_base64Url (bytes : List UInt8) : CookieValue (base64Url bytes).toList := by
  have hpadded := (Codec.wellFormed_of_decode (Codec.decodeBase64Bytes_encode bytes)).padded
  rw [Codec.sanitized_encode] at hpadded
  obtain ⟨body, padding, heq, -, hbody, -⟩ := hpadded
  intro c hc
  rw [base64Url, Codec.encodeBase64UrlBytes_eq heq hbody, String.toList_ofList] at hc
  obtain ⟨c', hc', rfl⟩ := List.mem_map.mp hc
  exact cookieValue_urlChar c' (hbody c' hc')

section Steps

variable {jar : Jar} {current : Option (String × Option ℤ)} {event : BrowserEvent} {now : ℤ}
  {path : String} {sc : SetCookie}

/-- A token of some bytes is not empty. -/
theorem base64Url_ne_empty {secret : List UInt8} (h : secret ≠ []) : base64Url secret ≠ "" :=
  fun hempty => h (Codec.encodeBase64UrlBytes_injective (hempty.trans (by decide)))

/-- The cookies that are left when a cookie is set are among those before, and the new one. -/
theorem Jar.mem_receive {c : StoredCookie} (h : c ∈ jar.receive now path sc) :
    c ∈ jar ∨ c = ⟨sc.key path, sc.value, sc.expiry⟩ := by
  unfold Jar.receive at h
  dsimp only at h
  split at h
  · rcases List.mem_append.mp h with h | h
    · exact Or.inl (List.mem_of_mem_filter h)
    · exact Or.inr (List.mem_singleton.mp h)
  · exact Or.inl (List.mem_of_mem_filter h)

/-- A cookie with another name leaves the session cookie alone. -/
theorem Jar.receive_other (hname : sc.name ≠ config.read) :
    (jar.receive now path sc).filter (fun c => c.key.name = config.read) =
      jar.filter fun c => c.key.name = config.read := by
  have hothers : (jar.filter (·.key ≠ sc.key path)).filter (fun c => c.key.name = config.read) =
      jar.filter fun c => c.key.name = config.read := by
    rw [List.filter_filter]
    refine List.filter_congr fun c _ => ?_
    by_cases hc : c.key.name = config.read
    · have hkey : c.key ≠ sc.key path := fun heq => hname ((congrArg CookieKey.name heq).symm.trans hc)
      simp [hc, hkey]
    · simp [hc]
  unfold Jar.receive
  dsimp only
  split
  · rw [List.filter_append, hothers]
    simp [SetCookie.key, hname]
  · exact hothers

/-- A cookie with the session's name replaces the session cookie, or removes it, if their keys are the
same. -/
theorem Jar.Holds.receive_same (h : jar.Holds config w current) (hkey : sc.key path = w.key)
    (hname : w.key.name = config.read) :
    (jar.receive now path sc).filter (fun c => c.key.name = config.read) =
      if keptAt now sc.expiry then [⟨w.key, sc.value, sc.expiry⟩] else [] := by
  have hothers : (jar.filter (·.key ≠ sc.key path)).filter (fun c => c.key.name = config.read) =
      [] := by
    rw [List.filter_comm, h.session]
    cases current with
    | none => rfl
    | some s => simp [hkey]
  unfold Jar.receive
  dsimp only
  split
  · rw [List.filter_append, hothers, hkey]
    simp [hname]
  · exact hothers

/-- What a response does to the cookies is what it should do to the session cookie. -/
theorem Jar.Holds.step (h : jar.Holds config w current) (hL : L.Lawful) (hw : config.Wired w)
    (hadm : event.Admissible L a config) :
    (jar.step L a config w event).Holds config w (sessionCookie L a config w current event) := by
  have hname : w.key.name = config.read := hw.cookieName_eq
  have hread : CookieName w.key.name.toList := hname ▸ hw.name
  -- What a response sets is well formed, so all is.
  have hwell : ∀ {now path sc}, WellFormedCookie ((sc.key path).name, sc.value) →
      ∀ c ∈ jar.receive now path sc, WellFormedCookie (c.key.name, c.value) := by
    intro now path sc hsc c hc
    rcases Jar.mem_receive hc with hc | rfl
    · exact h.wellFormed c hc
    · exact hsc
  cases event with
  | login now path secret =>
    obtain ⟨hkey, htoken⟩ : (a.accessCookie L w now secret).key path = w.key ∧
      (a.accessCookie L w now secret).value = base64Url secret := hw.login_key hL a
    refine ⟨hwell ?_, ?_, fun s hs => ?_⟩
    · rw [hkey, htoken]
      exact ⟨hread, cookieValue_base64Url secret⟩
    · rw [Jar.step, h.receive_same hkey hname, htoken, sessionCookie]
      split <;> rfl
    · rw [sessionCookie] at hs
      split at hs
      · exact Option.some.inj hs ▸ base64Url_ne_empty hadm
      · cases hs
  | logout now path =>
    obtain ⟨hkey, hempty⟩ : (a.logoutCookie L now config).key path = config.clearKey ∧
      (a.logoutCookie L now config).value = "" := CookieConfig.logout_key hL a
    have hends : keptAt now (a.logoutCookie L now config).expiry = false := hadm
    refine ⟨hwell ?_, ?_, fun s hs => ?_⟩
    · rw [hkey, hempty]
      exact ⟨hw.name, by simp [CookieValue]⟩
    · rw [Jar.step, sessionCookie]
      split_ifs with hsame
      · rw [h.receive_same (hkey.trans hsame) hname, hends]
        rfl
      · -- Another key is cleared, and the session cookie stays.
        have hkept : jar.receive now path (a.logoutCookie L now config) =
            jar.filter (·.key ≠ config.clearKey) := by
          rw [Jar.receive, hends, hkey]
          rfl
        rw [hkept, List.filter_comm, h.session]
        cases current with
        | none => rfl
        | some s => simp [Ne.symm hsame]
    · rw [sessionCookie] at hs
      split at hs
      · cases hs
      · exact h.token s hs
  | other now path sc =>
    refine ⟨hwell hadm.2, ?_, h.token⟩
    rw [Jar.step, Jar.receive_other hadm.1]
    exact h.session

end Steps

variable (L a config w) in
/-- The cookies of a browser after a history of responses. -/
def Jar.run (jar : Jar) (events : List BrowserEvent) : Jar := events.foldl (Jar.step L a config w) jar

variable (L a config w) in
/-- The session cookie after a history of responses. -/
def sessionCookieAfter (events : List BrowserEvent) : Option (String × Option ℤ) :=
  events.foldl (sessionCookie L a config w) none

section Histories

variable {jar : Jar} {events : List BrowserEvent}

/-- After every history, the cookies with the session's name are the session cookie. -/
theorem Jar.Holds.run {current : Option (String × Option ℤ)} (h : jar.Holds config w current)
    (hL : L.Lawful) (hw : config.Wired w) (hadm : ∀ event ∈ events, event.Admissible L a config) :
    (jar.run L a config w events).Holds config w (events.foldl (sessionCookie L a config w) current) := by
  induction events generalizing jar current with
  | nil => exact h
  | cons event events ih =>
    exact ih (h.step hL hw (hadm event List.mem_cons_self)) fun event' hmem =>
      hadm event' (List.mem_cons_of_mem _ hmem)

/-- What is read out of the header that a browser sends is the session cookie, while it is kept. -/
theorem Jar.Holds.parse {current : Option (String × Option ℤ)} (h : jar.Holds config w current)
    {now : ℤ} {isMatch : CookieKey → Bool} (hmatch : isMatch w.key = true) :
    parseCookieValue (cookieHeader (jar.sends now isMatch)) config.read =
      (current.filter fun s => keptAt now s.2).map Prod.fst := by
  have hwell : ∀ c ∈ jar.sends now isMatch, WellFormedCookie c := by
    intro c hc
    obtain ⟨c', hc', rfl⟩ := List.mem_map.mp hc
    exact h.wellFormed c' (List.mem_of_mem_filter hc')
  have hsent : (jar.sends now isMatch).filter (fun c => c.1 = config.read) =
      ((jar.filter fun c => c.key.name = config.read).filter fun c =>
        isMatch c.key && keptAt now c.expiry).map fun c => (c.key.name, c.value) := by
    rw [Jar.sends, List.filter_map, List.filter_comm]
    rfl
  rw [parseCookieValue_header hwell, ← List.head?_filter, hsent, h.session]
  cases current with
  | none => rfl
  | some s => cases hkept : keptAt now s.2 <;> simp [hmatch, hkept, Option.filter]

/-- What a guard looks up for a request without an `Authorization` header. -/
theorem Jar.Holds.presented {current : Option (String × Option ℤ)} (h : jar.Holds config w current)
    {now : ℤ} {isMatch : CookieKey → Bool} (hmatch : isMatch w.key = true) :
    presentedToken ⟨none, cookieHeader (jar.sends now isMatch), config.read⟩ =
      (current.filter fun s => keptAt now s.2).map Prod.fst := by
  have hcookie : ∀ header : Option String, presentedToken ⟨none, header, config.read⟩ =
      if truthyString (parseCookieValue header config.read) then
        parseCookieValue header config.read else none := fun header => rfl
  rw [hcookie, h.parse hmatch]
  cases current with
  | none => rfl
  | some s =>
    have hne := h.token s rfl
    cases hkept : keptAt now s.2 <;> simp [Option.filter, hkept, truthyString, hne]

/-- A browser that starts without a cookie of the session's name holds the session cookie after every
history. -/
theorem Jar.holds_run (hL : L.Lawful) (hw : config.Wired w)
    (hjar : ∀ c ∈ jar, c.key.name ≠ config.read ∧ WellFormedCookie (c.key.name, c.value))
    (hadm : ∀ event ∈ events, event.Admissible L a config) :
    (jar.run L a config w events).Holds config w (sessionCookieAfter L a config w events) := by
  have hstart : jar.Holds config w none := by
    refine ⟨fun c hc => (hjar c hc).2, ?_, by simp⟩
    exact List.filter_eq_nil_iff.mpr fun c hc => by simpa using (hjar c hc).1
  exact hstart.run hL hw hadm

/-- The cookie follows the session. A browser without a cookie of the session's name logs in,
refreshes and logs out at a wired adapter, and other responses set cookies with other names, in any
order and any number of times. On a request for which its cookies match, a guard then looks up the
access token that was written last, while its cookie is kept, and no token after a logout that clears
it. -/
theorem cookie_follows_session (hL : L.Lawful) (hw : config.Wired w)
    (hjar : ∀ c ∈ jar, c.key.name ≠ config.read ∧ WellFormedCookie (c.key.name, c.value))
    (hadm : ∀ event ∈ events, event.Admissible L a config) (now : ℤ) {isMatch : CookieKey → Bool}
    (hmatch : isMatch w.key = true) :
    presentedToken ⟨none, cookieHeader ((jar.run L a config w events).sends now isMatch), config.read⟩ =
      ((sessionCookieAfter L a config w events).filter fun s => keptAt now s.2).map Prod.fst :=
  (Jar.holds_run hL hw hjar hadm).presented hmatch

/-- A logout logs out exactly when it clears the cookie that the login has set. If the session cookie
of a browser is still kept, then after a logout, whose options have no lifetime of their own, a guard
looks up no token if and only if the adapter has no `clearCookieOptions`, or they have the domain and
the path that the login has used; otherwise it looks up the same token as before. -/
theorem logout_clears_iff (hL : L.Lawful) (hw : config.Wired w)
    (hjar : ∀ c ∈ jar, c.key.name ≠ config.read ∧ WellFormedCookie (c.key.name, c.value))
    (hadm : ∀ event ∈ events, event.Admissible L a config) {t now : ℤ} (hpos : 0 < t) {path : String}
    (hlife : a = .express → ∀ options, config.clearCookieOptions = some options →
      options.maxAge = none ∧ options.expires = none)
    {isMatch : CookieKey → Bool} (hmatch : isMatch w.key = true) {s : String × Option ℤ}
    (hs : sessionCookieAfter L a config w events = some s) (hkept : keptAt now s.2 = true) :
    let token := presentedToken ⟨none,
      cookieHeader ((jar.run L a config w (events ++ [.logout t path])).sends now isMatch), config.read⟩
    (token = none ↔ ∀ options, config.clearCookieOptions = some options →
      cookieDomain options.domain = cookieDomain w.attrs.domain ∧
        options.path.getD "/" = w.attrs.path.getD "/") ∧
    (token = none ∨ token = some s.1) := by
  have hafter : sessionCookieAfter L a config w (events ++ [.logout t path]) =
      if config.clearKey = w.key then none else some s := by
    rw [sessionCookieAfter, List.foldl_append, List.foldl_cons, List.foldl_nil, sessionCookie]
    exact congrArg (fun x => if config.clearKey = w.key then none else x) hs
  -- A clear without a lifetime of its own ends the cookie that it sets.
  have hadm' : ∀ event ∈ events ++ [.logout t path], event.Admissible L a config := by
    intro event hmem
    rcases List.mem_append.mp hmem with hmem | hmem
    · exact hadm event hmem
    · rw [List.mem_singleton.mp hmem]
      exact CookieConfig.logout_ends hL a hpos hlife
  rw [(Jar.holds_run hL hw hjar hadm').presented hmatch, hafter, ← hw.clearKey_eq_iff]
  by_cases hsame : config.clearKey = w.key <;> simp [hsame, Option.filter, hkept]

end Histories

namespace Sample

/-- The libraries: a `maxAge` goes before `expires`, in milliseconds for Express and in seconds for
the `cookie` package. -/
def cookieLibrary : CookieLibrary where
  cookie now name value o :=
    ⟨name, value, o.domain, some (o.path.getD "/"), (o.maxAge.map (now + ·)).or o.expires⟩
  clearCookie now name o :=
    ⟨name, "", o.domain, some (o.path.getD "/"), (o.maxAge.map (now + ·)).or (o.expires.or (some 1))⟩
  serialize now name value o :=
    ⟨name, value, o.domain, o.path, (o.maxAge.map (now + 1000 * ·)).or o.expires⟩

theorem cookieLibrary_lawful : cookieLibrary.Lawful where
  cookie _ _ _ _ := ⟨_, rfl⟩
  clearCookie _ _ _ := ⟨_, rfl⟩
  clearCookie_ends now name o hpos hmaxAge hexpires := by
    simp only [cookieLibrary, hmaxAge, hexpires, keptAt, Option.map_none, Option.none_or,
      Option.all_some, decide_eq_false_iff_not]
    omega
  serialize _ _ _ _ := ⟨_, rfl⟩
  serialize_ends now name value o hmaxAge := by simp [cookieLibrary, hmaxAge, keptAt]

/-- A writer for a whole domain. -/
def domainWriter : CookieWriter :=
  writeNapCookieSuccess "session" (some { CookieOptions.empty with domain := some "example.com" }) false

/-- An adapter that copies the writer's attributes, or clears with options of its own. -/
def cookieConfig (clearCookieOptions : Option CookieOptions) : CookieConfig :=
  ⟨none, clearCookieOptions, some domainWriter⟩

theorem cookieConfig_wired (clearCookieOptions : Option CookieOptions) :
    (cookieConfig clearCookieOptions).Wired domainWriter where
  writes := rfl
  made := ⟨_, _, rfl⟩
  agree := rfl
  name := show CookieName "session".toList by decide

/-- A login, a cookie of the site, and a refresh. -/
def cookieEvents : List BrowserEvent :=
  [.login 1000 "/auth" [1, 2, 3], .other 1500 "/" ⟨"theme", "dark", none, none, none⟩,
    .login 2000 "/auth" [4, 5, 6]]

/-- Its responses are as they may be. -/
theorem cookieEvents_admissible (a : Adapter) (clearCookieOptions : Option CookieOptions) :
    ∀ event ∈ cookieEvents, event.Admissible cookieLibrary a (cookieConfig clearCookieOptions) := by
  simp only [cookieEvents, List.forall_mem_cons, BrowserEvent.Admissible]
  exact ⟨by simp, ⟨show "theme" ≠ "session" by decide, by decide⟩, by simp, by simp⟩

end Sample

open Sample in
/-- A browser that has logged in and refreshed: the guard looks up the second token. -/
theorem cookie_follows_session_here :
    presentedToken ⟨none, cookieHeader ((Jar.run cookieLibrary .express (cookieConfig none)
      domainWriter [] cookieEvents).sends 2500 fun _ => true), (cookieConfig none).read⟩ =
      some (base64Url [4, 5, 6]) :=
  (cookie_follows_session cookieLibrary_lawful (cookieConfig_wired none) (by simp)
    (cookieEvents_admissible .express none) 2500 rfl).trans (by decide)

open Sample in
/-- A logout with options of its own that leave the domain out: the browser keeps the cookie. -/
theorem logout_clears_elsewhere :
    presentedToken ⟨none, cookieHeader ((Jar.run cookieLibrary .express
      (cookieConfig (some { CookieOptions.empty with path := some "/" })) domainWriter []
      (cookieEvents ++ [.logout 3000 "/auth"])).sends 3500 fun _ => true), "session"⟩ =
      some (base64Url [4, 5, 6]) := by
  obtain ⟨hiff, hsame⟩ := @logout_clears_iff cookieLibrary .express
    (cookieConfig (some { CookieOptions.empty with path := some "/" })) domainWriter [] cookieEvents
    cookieLibrary_lawful (cookieConfig_wired _) (by simp) (cookieEvents_admissible .express _) 3000 3500
    (by decide) "/auth" (fun _ options hoptions => Option.some.inj hoptions ▸ ⟨rfl, rfl⟩)
    (fun _ => true) rfl (base64Url [4, 5, 6], none) rfl rfl
  refine hsame.resolve_left fun hnone => ?_
  exact absurd (hiff.mp hnone _ rfl).1 (by decide)

end NapAuth
