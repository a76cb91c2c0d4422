import NapAuth.JsValue
import Mathlib.Data.List.Perm.Basic
import Mathlib.Data.List.TakeWhile
import Mathlib.Data.Bool.AllAny

/-!
# Host allowlisting for request-derived audiences

`createAudienceHostAllowlist` of `packages/nap-server/src/audience.ts` turns a list of hosts into
the audience of a request: the base URL that the NIP-98 `u` tag must match. An entry is an exact
host or a subdomain wildcard, and may pin a scheme. The answer is the scheme and the host of the
request, once some entry matches that host.

Two things decide what the answer means. A URL parser reads it again, with delimiters of its own, so
the host of the answer is only `hostPart` of the host that was matched. `audience_host_allowed` says for
which headers that is a host of the allowlist, whatever the list. And `find` takes the first entry that
matches, so the order of the entries counts where an unpinned entry overlaps a pinned one.
`allowlist_order_iff` says exactly where it does.

`toLowerCase` is a parameter: the case mapping of all of Unicode is not needed, and any would do.
-/

namespace NapAuth.Audience

/-- One entry of an allowlist. -/
structure AllowedHost where
  /-- The host, or the suffix of a wildcard. -/
  host : String
  /-- The pinned scheme. `none` means whatever scheme the request arrived on. -/
  scheme : Option String
  /-- Match `*.suffix`, not the bare suffix. -/
  wildcard : Bool
  deriving DecidableEq

/-- A character after the first in a scheme: `[a-z0-9+.-]`. -/
def isSchemeChar (c : Char) : Bool := c.isLower || c.isDigit || c == '+' || c == '.' || c == '-'

/-- `/^([a-z][a-z0-9+.-]*):\/\//`, as the scheme that it captures. -/
def schemeMatch (raw : String) : Option String :=
  match raw.toList with
  | [] => none
  | c :: cs =>
    if c.isLower && "://".toList.isPrefixOf (cs.dropWhile isSchemeChar) then
      some (String.ofList (c :: cs.takeWhile isSchemeChar))
    else none

/-- `/[/?#@\s]/`: the characters that make an entry more than a host. -/
def isUrlChar (c : Char) : Bool :=
  c == '/' || c == '?' || c == '#' || c == '@' || JsString.isSpace c

/-- What an entry names besides its scheme. -/
def entryHost (raw : String) : String :=
  match schemeMatch raw with
  | some scheme => JsString.slice raw (scheme.toList.length + 3)
  | none => raw

/-- The host of an entry without the `*.` of a wildcard. -/
def bareHost (host : String) : String :=
  if JsString.startsWith host "*." then JsString.slice host 2 else host

/-- One entry of the list, or the error that it is refused with. -/
def parseEntry (toLowerCase : String → String) (entry : String) : Except String AllowedHost :=
  let raw := toLowerCase (JsString.trim entry)
  if raw = "" then
    .error "NAP audience allowlist contains an empty entry"
  else
    let scheme := schemeMatch raw
    let host := entryHost raw
    if scheme.any fun s => s != "http" && s != "https" then
      .error ("NAP audience allowlist entry '" ++ entry ++ "' must use http or https")
    else if host.toList.any isUrlChar then
      .error ("NAP audience allowlist entry '" ++ entry ++
        "' must be a host (optionally scheme-prefixed), not a URL with a path, query, or userinfo")
    else
      let wildcard := JsString.startsWith host "*."
      let bare := bareHost host
      if bare = "" || JsString.includes bare '*' then
        .error ("NAP audience allowlist entry '" ++ entry ++
          "' is not a host: a wildcard is only valid as a leading '*.'")
      else if wildcard && !JsString.includes bare '.' then
        .error ("NAP audience allowlist entry '" ++ entry ++
          "' is too broad: a wildcard needs at least one dot in its suffix")
      else
        .ok { host := bare, scheme, wildcard }

/-- Whether an entry allows a host. -/
def AllowedHost.matches (allowed : AllowedHost) (host : String) : Bool :=
  if allowed.wildcard then
    -- Where one string ends with the other, counting UTF-16 units compares them like this.
    JsString.endsWith host ("." ++ allowed.host) &&
      decide (host.toList.length > allowed.host.toList.length + 1)
  else host == allowed.host

/-- The host of a request as it is compared: `host.trim().toLowerCase()`. -/
def normalizedHost (toLowerCase : String → String) (host : String) : String :=
  toLowerCase (JsString.trim host)

/-- The base URL for a host and a protocol, given the parsed entries. -/
def allowHost (toLowerCase : String → String) (allowed : List AllowedHost) (host : Option String)
    (protocol : String) : Except String String :=
  match host with
  | none => .error "Unable to resolve external host for NAP request"
  | some host =>
    if host = "" then
      .error "Unable to resolve external host for NAP request"
    else
      let normalized := normalizedHost toLowerCase host
      match allowed.find? fun entry => entry.matches normalized with
      | none => .error ("NAP audience host '" ++ host ++ "' is not in the allowlist")
      | some entry => .ok (entry.scheme.getD protocol ++ "://" ++ normalized)

/-- Turn an allowlist into a function from host and protocol to base URL. -/
def createAudienceHostAllowlist (toLowerCase : String → String) (allowedHosts : List String) :
    Except String (Option String → String → Except String String) :=
  if allowedHosts = [] then
    .error ("NAP audience resolution requires a non-empty host allowlist: pass the exact hosts " ++
      "this deployment answers on, e.g. [\"api.example.com\"]")
  else do
    let allowed ← allowedHosts.mapM (parseEntry toLowerCase)
    return allowHost toLowerCase allowed

/-- `normalizeBaseUrl` of the adapters: one trailing slash is dropped. -/
def normalizeBaseUrl (value : String) : String :=
  if JsString.endsWith value "/" then String.ofList value.toList.dropLast else value

/-- `authCompleteUrl` of the adapters, over a base URL. -/
def authCompleteUrl (baseUrl : String) : String := normalizeBaseUrl baseUrl ++ "/auth/complete"

/-! ## What a URL parser reads -/

/-- The characters that end the host of a URL. -/
def endsHost (c : Char) : Bool := c == '/' || c == '\\' || c == '?' || c == '#'

/-- What a URL parser takes as the host in the text after a URL's `://`: it ends at the first
character that ends a host, and what stands up to the last `@` is userinfo. -/
def hostPart (l : List Char) : List Char :=
  ((l.takeWhile fun c => !endsHost c).reverse.takeWhile (· != '@')).reverse

/-- The text after the first `://`. -/
def afterScheme : List Char → List Char
  | ':' :: '/' :: '/' :: rest => rest
  | _ :: cs => afterScheme cs
  | [] => []

/-- The host of a URL. -/
def urlHost (url : String) : String := String.ofList (hostPart (afterScheme url.toList))

/-- A host that an allowlist means to allow: the host of an exact entry, or a strict subdomain of a
wildcard's suffix. -/
def AllowedBy (allowed : List AllowedHost) (host : String) : Prop :=
  ∃ entry ∈ allowed, (entry.wildcard = false ∧ host = entry.host) ∨
    (entry.wildcard = true ∧ ∃ sub, sub ≠ [] ∧ host.toList = sub ++ '.' :: entry.host.toList)

/-- An entry allows exactly the hosts that it means to allow. -/
theorem allowedBy_iff {allowed : List AllowedHost} {host : String} :
    AllowedBy allowed host ↔ ∃ entry ∈ allowed, entry.matches host = true := by
  refine exists_congr fun entry => and_congr_right fun _ => ?_
  cases hw : entry.wildcard with
  | false => simp [AllowedHost.matches, hw]
  | true =>
    simp only [AllowedHost.matches, hw, if_true, Bool.and_eq_true, decide_eq_true_eq,
      JsString.endsWith_iff]
    constructor
    · rintro (⟨h, -⟩ | ⟨-, sub, hne, heq⟩)
      · cases h
      · have := List.length_pos_of_ne_nil hne
        refine ⟨⟨sub, by simpa using heq⟩, ?_⟩
        rw [heq, List.length_append, List.length_cons]
        omega
    · rintro ⟨⟨sub, heq⟩, hlen⟩
      refine Or.inr ⟨trivial, sub, ?_, by simpa using heq⟩
      rintro rfl
      rw [heq] at hlen
      simp at hlen

/-- A text that a URL parser reads to its end: nothing in it ends a host, and if it has userinfo, what
follows that does not begin with a dot. -/
structure ReadToEnd (l : List Char) : Prop where
  noEnd : ∀ c ∈ l, endsHost c = false
  dot : '@' ∈ l → (hostPart l).head? ≠ some '.'

/-- Where nothing ends the host, the host part is what follows the last `@`. -/
theorem hostPart_eq {l : List Char} (h : ∀ c ∈ l, endsHost c = false) :
    hostPart l = (l.reverse.takeWhile (· != '@')).reverse := by
  have hall : (l.takeWhile fun c => !endsHost c) = l :=
    List.takeWhile_eq_self_iff.mpr fun c hc => by simp [h c hc]
  rw [hostPart, hall]

/-- And without an `@` it is everything. -/
theorem hostPart_eq_self {l : List Char} (h : ∀ c ∈ l, endsHost c = false) (hat : '@' ∉ l) :
    hostPart l = l := by
  have hall : l.reverse.takeWhile (· != '@') = l.reverse :=
    List.takeWhile_eq_self_iff.mpr fun c hc => by
      simpa using fun heq : c = '@' => hat (heq ▸ List.mem_reverse.mp hc)
  rw [hostPart_eq h, hall, List.reverse_reverse]

/-- The userinfo is in front of a suffix that has no `@`. -/
theorem hostPart_append {sub suffix : List Char} (h : ∀ c ∈ sub ++ suffix, endsHost c = false)
    (hat : '@' ∉ suffix) : ∃ sub', hostPart (sub ++ suffix) = sub' ++ suffix := by
  -- What is read from the end passes the suffix, and goes on into what is in front of it.
  refine ⟨(sub.reverse.takeWhile (· != '@')).reverse, ?_⟩
  have hkeep : ∀ c ∈ suffix.reverse, (c != '@') = true := fun c hc => by
    simpa using fun heq : c = '@' => hat (heq ▸ List.mem_reverse.mp hc)
  rw [hostPart_eq h, List.reverse_append, List.takeWhile_append_of_pos hkeep, List.reverse_append,
    List.reverse_reverse]

/-- Whatever follows a slash does not change the host part. -/
theorem hostPart_append_slash (l r : List Char) : hostPart (l ++ '/' :: r) = hostPart l := by
  have h : ((l ++ '/' :: r).takeWhile fun c => !endsHost c) = l.takeWhile fun c => !endsHost c := by
    induction l with
    | nil => simp [endsHost]
    | cons c l ih =>
      simp only [List.cons_append, List.takeWhile_cons, ih]
  rw [hostPart, h, hostPart]

/-- After one of the two schemes, the text after the first `://` is what follows it. -/
theorem afterScheme_append {scheme : String} (h : scheme = "http" ∨ scheme = "https")
    (rest : List Char) : afterScheme (scheme.toList ++ "://".toList ++ rest) = rest := by
  rcases h with rfl | rfl <;> simp [afterScheme]

/-- The host of a base URL is the host part of the host that it was built from. -/
theorem urlHost_base {scheme : String} (h : scheme = "http" ∨ scheme = "https") (host : String) :
    urlHost (scheme ++ "://" ++ host) = String.ofList (hostPart host.toList) := by
  simp only [urlHost, String.toList_append]
  rw [afterScheme_append h]

/-- The completion URL over a base URL has the base URL's host. -/
theorem urlHost_authCompleteUrl {scheme : String} (h : scheme = "http" ∨ scheme = "https")
    {host : String} (hne : host ≠ "") :
    urlHost (authCompleteUrl (scheme ++ "://" ++ host)) = urlHost (scheme ++ "://" ++ host) := by
  rw [urlHost_base h]
  have hl : host.toList ≠ [] := by simpa using hne
  unfold authCompleteUrl normalizeBaseUrl
  split
  · -- One trailing slash is dropped, and another one put in its place.
    rename_i hslash
    obtain ⟨l, hl'⟩ := JsString.endsWith_iff.mp hslash
    obtain ⟨init, last, hinit⟩ := (List.eq_nil_or_concat host.toList).resolve_left hl
    have hlast : last = '/' := by
      simp only [String.toList_append, hinit, List.concat_eq_append, ← List.append_assoc] at hl'
      simpa using (List.append_inj' hl' rfl).2
    subst hlast
    have hdrop : (scheme.toList ++ "://".toList ++ host.toList).dropLast =
        scheme.toList ++ "://".toList ++ init := by
      rw [hinit, List.concat_eq_append, ← List.append_assoc, List.dropLast_concat]
    have hpath : "/auth/complete".toList = '/' :: "auth/complete".toList := by decide
    simp only [urlHost, String.toList_append, String.toList_ofList, hdrop]
    rw [List.append_assoc (_ ++ _), afterScheme_append h, hinit, hpath, hostPart_append_slash,
      List.concat_eq_append, hostPart_append_slash]
  · have hpath : "/auth/complete".toList = '/' :: "auth/complete".toList := by decide
    simp only [urlHost, String.toList_append]
    rw [List.append_assoc (_ ++ _), afterScheme_append h, hpath, hostPart_append_slash]

/-- A scheme that an accepted entry pins is one of the two. -/
theorem parseEntry_scheme {toLowerCase : String → String} {entry : String} {a : AllowedHost}
    (h : parseEntry toLowerCase entry = .ok a) {s : String} (hs : a.scheme = some s) :
    s = "http" ∨ s = "https" := by
  simp only [parseEntry] at h
  split_ifs at h with h1 h2 h3 h4 h5
  obtain rfl := Except.ok.inj h
  simp only at hs
  rw [hs] at h2
  by_contra hcon
  simp only [not_or] at hcon
  simp [hcon.1, hcon.2] at h2

/-- The host of an accepted entry is not empty. -/
theorem parseEntry_host_ne {toLowerCase : String → String} {entry : String} {a : AllowedHost}
    (h : parseEntry toLowerCase entry = .ok a) : a.host ≠ "" := by
  simp only [parseEntry] at h
  split_ifs at h with h1 h2 h3 h4 h5
  obtain rfl := Except.ok.inj h
  simp only [Bool.or_eq_true, decide_eq_true_eq, not_or] at h4
  exact h4.1

/-- And it holds none of the characters that make it more than a host. -/
theorem parseEntry_isUrlChar {toLowerCase : String → String} {entry : String} {a : AllowedHost}
    (h : parseEntry toLowerCase entry = .ok a) : ∀ c ∈ a.host.toList, isUrlChar c = false := by
  simp only [parseEntry] at h
  split_ifs at h with h1 h2 h3 h4 h5
  obtain rfl := Except.ok.inj h
  intro c hc
  have hmem : c ∈ (entryHost (toLowerCase (JsString.trim entry))).toList := by
    unfold bareHost at hc
    split at hc
    · rw [JsString.slice, String.toList_ofList] at hc
      exact List.mem_of_mem_drop hc
    · exact hc
  by_contra hchar
  exact h3 (List.any_eq_true.mpr ⟨c, hmem, by simpa using hchar⟩)

/-- No accepted entry matches the empty host. -/
theorem not_matches_empty {toLowerCase : String → String} {raw : String} {entry : AllowedHost}
    (h : parseEntry toLowerCase raw = .ok entry) : ¬ entry.matches "" = true := by
  have hne := parseEntry_host_ne h
  cases hw : entry.wildcard with
  | false =>
    simp only [AllowedHost.matches, hw, beq_iff_eq, Bool.false_eq_true, if_false]
    exact fun heq => hne heq.symm
  | true => simp [AllowedHost.matches, hw]

/-- What an accepted allowlist is: its entries all parse, and it answers from them. -/
theorem createAudienceHostAllowlist_ok {toLowerCase : String → String} {hosts : List String}
    {allow : Option String → String → Except String String}
    (h : createAudienceHostAllowlist toLowerCase hosts = .ok allow) :
    hosts ≠ [] ∧ ∃ allowed, hosts.mapM (parseEntry toLowerCase) = .ok allowed ∧
      allow = allowHost toLowerCase allowed := by
  unfold createAudienceHostAllowlist at h
  split_ifs at h with hne
  refine ⟨hne, ?_⟩
  cases hm : hosts.mapM (parseEntry toLowerCase) with
  | error e => rw [hm] at h; cases h
  | ok allowed =>
    rw [hm] at h
    exact ⟨allowed, rfl, (Except.ok.inj h).symm⟩

/-- What a base URL is: the pinned scheme of the first entry that matches, or else the request's
protocol, and the compared host. -/
theorem allowHost_ok {toLowerCase : String → String} {allowed : List AllowedHost}
    {host : Option String} {protocol b : String}
    (h : allowHost toLowerCase allowed host protocol = .ok b) :
    ∃ raw entry, host = some raw ∧ raw ≠ "" ∧ entry ∈ allowed ∧
      allowed.find? (·.matches (normalizedHost toLowerCase raw)) = some entry ∧
      entry.matches (normalizedHost toLowerCase raw) = true ∧
      b = entry.scheme.getD protocol ++ "://" ++ normalizedHost toLowerCase raw := by
  cases host with
  | none => cases h
  | some raw =>
    simp only [allowHost] at h
    split_ifs at h with hraw
    split at h
    · cases h
    · rename_i entry hfind
      exact ⟨raw, entry, rfl, hraw, List.mem_of_find?_eq_some hfind, hfind,
        by simpa using List.find?_some hfind, (Except.ok.inj h).symm⟩

/-! ## The host of an answer -/

/-- A host that an accepted entry matches is allowed by it as a URL parser reads it, if it is read to
its end: what a wildcard matches is the end of the host. -/
theorem allowedBy_hostPart {toLowerCase : String → String} {raw : String} {allowed : List AllowedHost}
    {entry : AllowedHost} {host : String} (hentry : parseEntry toLowerCase raw = .ok entry)
    (hmem : entry ∈ allowed) (hmatch : entry.matches host = true) (hread : ReadToEnd host.toList) :
    AllowedBy allowed (String.ofList (hostPart host.toList)) := by
  by_cases hat : '@' ∈ host.toList
  · obtain ⟨entry', hmem', hmeans⟩ := allowedBy_iff.mpr ⟨entry, List.mem_singleton_self entry, hmatch⟩
    obtain rfl := List.mem_singleton.mp hmem'
    have hclean : '@' ∉ entry'.host.toList := fun hin =>
      absurd (parseEntry_isUrlChar hentry _ hin) (by decide)
    rcases hmeans with ⟨-, rfl⟩ | ⟨hwildcard, sub, -, heq⟩
    · -- An entry has no `@`, and neither has a host that is the entry.
      exact absurd hat hclean
    · -- The userinfo is cut off in front of the wildcard's suffix.
      obtain ⟨sub', hpart⟩ := @hostPart_append sub ('.' :: entry'.host.toList) (heq ▸ hread.noEnd)
        (by simpa using hclean)
      rw [← heq] at hpart
      refine ⟨entry', hmem, Or.inr ⟨hwildcard, sub', ?_, ?_⟩⟩
      · rintro rfl
        exact hread.dot hat (by rw [hpart]; rfl)
      · rw [String.toList_ofList, hpart]
  · -- Without userinfo the whole host is read, and it has just been matched.
    rw [hostPart_eq_self hread.noEnd hat, String.ofList_toList]
    exact allowedBy_iff.mpr ⟨entry, hmem, hmatch⟩

/-- For an accepted allowlist and a request over one of the two schemes, the URL parser's host of
the answer, and of the completion URL built on it, is an allowed host if the host of the request is read
to its end.

The wildcard test reads the end of the string and the URL parser its beginning. Between the two
nothing refuses the delimiters that `parseEntry` refuses in an entry. -/
theorem audience_host_allowed {toLowerCase : String → String} {hosts : List String}
    {allow : Option String → String → Except String String} {allowed : List AllowedHost}
    {host protocol b : String} (hallow : createAudienceHostAllowlist toLowerCase hosts = .ok allow)
    (hparse : hosts.mapM (parseEntry toLowerCase) = .ok allowed)
    (hproto : protocol = "http" ∨ protocol = "https") (hb : allow (some host) protocol = .ok b)
    (hread : ReadToEnd (normalizedHost toLowerCase host).toList) :
    AllowedBy allowed (urlHost b) ∧ AllowedBy allowed (urlHost (authCompleteUrl b)) := by
  obtain ⟨-, allowed', hparse', rfl⟩ := createAudienceHostAllowlist_ok hallow
  obtain rfl : allowed = allowed' := Except.ok.inj (hparse.symm.trans hparse')
  obtain ⟨host', entry, heq, -, hmem, -, hmatch, rfl⟩ := allowHost_ok hb
  obtain rfl := Option.some.inj heq
  obtain ⟨raw, -, hentry⟩ := exists_of_mapM_eq_ok hparse hmem
  have hscheme : entry.scheme.getD protocol = "http" ∨ entry.scheme.getD protocol = "https" := by
    cases hs : entry.scheme with
    | none => exact hproto
    | some s => exact parseEntry_scheme hentry hs
  have hne : normalizedHost toLowerCase host ≠ "" := by
    rintro heq
    rw [heq] at hmatch
    exact not_matches_empty hentry hmatch
  rw [urlHost_authCompleteUrl hscheme hne, urlHost_base hscheme, and_self]
  exact allowedBy_hostPart hentry hmem hmatch hread

/-- `toLowerCase`, as far as it concerns ASCII. -/
def asciiLowerCase (s : String) : String := String.ofList (s.toList.map Char.toLower)

/-- A wildcard's subdomain, as it was meant to be allowed, behind a userinfo. -/
theorem audience_host_subdomain :
    AllowedBy [⟨"example.com", none, true⟩] (urlHost "https://x@api.example.com") ∧
      AllowedBy [⟨"example.com", none, true⟩]
        (urlHost (authCompleteUrl "https://x@api.example.com")) :=
  @audience_host_allowed asciiLowerCase ["*.example.com"] _ _ "x@API.example.com" "https" _ rfl
    (by decide) (Or.inr rfl) (by decide) ⟨List.all_iff_forall_prop.mp (by decide), by decide⟩

/-- A path before the suffix: the resolver accepts the host, and the URL is on another host. -/
theorem audience_host_smuggled :
    ∃ allow, createAudienceHostAllowlist asciiLowerCase ["*.example.com"] = .ok allow ∧
      ["*.example.com"].mapM (parseEntry asciiLowerCase) = .ok [⟨"example.com", none, true⟩] ∧
      allow (some "evil.com/.example.com") "https" = .ok "https://evil.com/.example.com" ∧
      ¬ AllowedBy [⟨"example.com", none, true⟩] (urlHost "https://evil.com/.example.com") := by
  refine ⟨_, rfl, by decide, by decide, ?_⟩
  rw [allowedBy_iff]
  decide

/-! ## The order of an allowlist -/

/-- What an allowlist answers to a host and a protocol: it is built, and then asked. -/
def answer (toLowerCase : String → String) (hosts : List String) (host protocol : String) :
    Except String String := do
  let allow ← createAudienceHostAllowlist toLowerCase hosts
  allow (some host) protocol

/-- Whether an entry allows the host of a request. An empty host is refused before any entry is
looked at. -/
def AllowedHost.AllowsHost (toLowerCase : String → String) (entry : AllowedHost) (host : String) :
    Prop :=
  host ≠ "" ∧ entry.matches (normalizedHost toLowerCase host) = true

/-- No host is allowed by entries pinned to two different schemes. -/
def PinsAgree (toLowerCase : String → String) (allowed : List AllowedHost) : Prop :=
  ∀ host, ∀ e₁ ∈ allowed, ∀ e₂ ∈ allowed, e₁.AllowsHost toLowerCase host →
    e₂.AllowsHost toLowerCase host → ∀ s₁ s₂, e₁.scheme = some s₁ → e₂.scheme = some s₂ → s₁ = s₂

/-- Some unpinned entry and some entry pinned to another scheme than the request's both allow the
host. -/
def Shadowable (toLowerCase : String → String) (allowed : List AllowedHost)
    (host protocol : String) : Prop :=
  ∃ e₁ ∈ allowed, ∃ e₂ ∈ allowed, e₁.AllowsHost toLowerCase host ∧
    e₂.AllowsHost toLowerCase host ∧ e₁.scheme = none ∧ ∃ s, e₂.scheme = some s ∧ s ≠ protocol

section Order

variable {toLowerCase : String → String} {hosts hosts' : List String}
  {allowed allowed' : List AllowedHost} {host protocol : String}

/-- An accepted allowlist answers from its entries. -/
theorem answer_eq (hne : hosts ≠ []) (h : hosts.mapM (parseEntry toLowerCase) = .ok allowed) :
    answer toLowerCase hosts host protocol =
      allowHost toLowerCase allowed (some host) protocol := by
  simp only [answer, createAudienceHostAllowlist, if_neg hne, h]
  rfl

/-- A permutation of an accepted allowlist is accepted, with a permutation of its entries. -/
theorem mapM_parseEntry_perm (hp : hosts'.Perm hosts)
    (h : hosts.mapM (parseEntry toLowerCase) = .ok allowed) :
    ∃ allowed', hosts'.mapM (parseEntry toLowerCase) = .ok allowed' ∧ allowed'.Perm allowed := by
  have hmap : (hosts'.map (parseEntry toLowerCase)).Perm (allowed.map .ok) :=
    mapM_eq_ok_iff.mp h ▸ hp.map _
  have hcomp := congrFun₂ (List.eq_map_comp_perm (.ok (ε := String) (α := AllowedHost)))
    (hosts'.map (parseEntry toLowerCase)) allowed
  obtain ⟨allowed', heq, hperm⟩ := (iff_of_eq hcomp).mpr hmap
  exact ⟨allowed', mapM_eq_ok_iff.mpr heq, hperm⟩

/-- Where all entries that allow the host lead to one base URL, that is the answer. -/
theorem allowHost_eq_ok {b : String} {entry : AllowedHost} (hmem : entry ∈ allowed)
    (hallows : entry.AllowsHost toLowerCase host)
    (hall : ∀ e ∈ allowed, e.AllowsHost toLowerCase host →
      e.scheme.getD protocol ++ "://" ++ normalizedHost toLowerCase host = b) :
    allowHost toLowerCase allowed (some host) protocol = .ok b := by
  obtain ⟨hne, hmatch⟩ := hallows
  simp only [allowHost, if_neg hne]
  cases hfind : allowed.find? (·.matches (normalizedHost toLowerCase host)) with
  | none => exact absurd hmatch (List.find?_eq_none.mp hfind entry hmem)
  | some e =>
    exact congrArg _ (hall e (List.mem_of_find?_eq_some hfind)
      ⟨hne, by simpa using List.find?_some hfind⟩)

/-- Where no entry allows the host, it is refused, and the text does not depend on the entries. -/
theorem allowHost_eq_error (hnone : ∀ e ∈ allowed, ¬ e.AllowsHost toLowerCase host) :
    allowHost toLowerCase allowed (some host) protocol =
      allowHost toLowerCase [] (some host) protocol := by
  simp only [allowHost]
  by_cases hne : host = ""
  · rw [if_pos hne, if_pos hne]
  · have hfind : allowed.find? (·.matches (normalizedHost toLowerCase host)) = none :=
      List.find?_eq_none.mpr fun e he hmatch => hnone e he ⟨hne, hmatch⟩
    rw [if_neg hne, if_neg hne, hfind, List.find?_nil]

/-- The first entry that allows the host decides, so an unpinned one at the front answers with the
request's protocol. -/
theorem allowHost_cons_unpinned {entry : AllowedHost} (hallows : entry.AllowsHost toLowerCase host)
    (hscheme : entry.scheme = none) :
    allowHost toLowerCase (entry :: allowed) (some host) protocol =
      .ok (protocol ++ "://" ++ normalizedHost toLowerCase host) := by
  have hfind : (entry :: allowed).find? (·.matches (normalizedHost toLowerCase host)) =
      some entry := List.find?_cons_of_pos hallows.2
  simp only [allowHost, if_neg hallows.1, hfind, hscheme, Option.getD_none]

/-- Where no entry can shadow another one, all entries that allow the host lead to one scheme. -/
theorem scheme_eq_of_not_shadowable (hpins : PinsAgree toLowerCase allowed)
    (hshadow : ¬ Shadowable toLowerCase allowed host protocol) {e₁ e₂ : AllowedHost}
    (h₁ : e₁ ∈ allowed) (h₂ : e₂ ∈ allowed) (ha₁ : e₁.AllowsHost toLowerCase host)
    (ha₂ : e₂.AllowsHost toLowerCase host) :
    e₁.scheme.getD protocol = e₂.scheme.getD protocol := by
  -- Two entries of which only one is pinned agree, or the unpinned one shadows the other.
  have hmixed : ∀ a ∈ allowed, ∀ b ∈ allowed, a.AllowsHost toLowerCase host →
      b.AllowsHost toLowerCase host → a.scheme = none → ∀ s, b.scheme = some s → s = protocol := by
    intro a ha b hb haa hba hnone s hs
    by_contra hne
    exact hshadow ⟨a, ha, b, hb, haa, hba, hnone, s, hs, hne⟩
  cases hs₁ : e₁.scheme with
  | none =>
    cases hs₂ : e₂.scheme with
    | none => rfl
    | some s => exact (hmixed e₁ h₁ e₂ h₂ ha₁ ha₂ hs₁ s hs₂).symm
  | some s =>
    cases hs₂ : e₂.scheme with
    | none => exact hmixed e₂ h₂ e₁ h₁ ha₂ ha₁ hs₂ s hs₁
    | some t => exact hpins host e₁ h₁ e₂ h₂ ha₁ ha₂ s t hs₁ hs₂

/-- Where no entry can shadow another one, an entry that allows the host determines the answer. -/
theorem allowHost_of_not_shadowable (hpins : PinsAgree toLowerCase allowed)
    (hshadow : ¬ Shadowable toLowerCase allowed host protocol) (hperm : allowed'.Perm allowed)
    {entry : AllowedHost} (hmem : entry ∈ allowed) (hallows : entry.AllowsHost toLowerCase host) :
    allowHost toLowerCase allowed' (some host) protocol =
      .ok (entry.scheme.getD protocol ++ "://" ++ normalizedHost toLowerCase host) := by
  refine allowHost_eq_ok (hperm.mem_iff.mpr hmem) hallows fun e he hae => ?_
  rw [scheme_eq_of_not_shadowable hpins hshadow (hperm.mem_iff.mp he) hmem hae hallows]

/-- For an accepted allowlist in which pins do not contradict each other, a host and a protocol get
the same answer from every permutation, with the pinned scheme wherever an entry pins one, exactly
when no unpinned entry and no entry pinned to another scheme than the request's both allow the
host. -/
theorem allowlist_order_iff {allow : Option String → String → Except String String}
    (hallow : createAudienceHostAllowlist toLowerCase hosts = .ok allow)
    (hparse : hosts.mapM (parseEntry toLowerCase) = .ok allowed)
    (hpins : PinsAgree toLowerCase allowed) :
    ((∀ hosts' : List String, hosts'.Perm hosts →
        answer toLowerCase hosts' host protocol = answer toLowerCase hosts host protocol) ∧
      ∀ entry ∈ allowed, entry.AllowsHost toLowerCase host → ∀ s, entry.scheme = some s →
        answer toLowerCase hosts host protocol =
          .ok (s ++ "://" ++ normalizedHost toLowerCase host)) ↔
      ¬ Shadowable toLowerCase allowed host protocol := by
  obtain ⟨hne, -⟩ := createAudienceHostAllowlist_ok hallow
  constructor
  · -- Move the unpinned entry to the front: it answers with the request's protocol.
    rintro ⟨hperm, hpin⟩ ⟨e₁, he₁, e₂, he₂, ha₁, ha₂, hnone, s, hs, hsne⟩
    obtain ⟨raw, hraw, hentry⟩ := exists_of_mapM_eq_ok hparse he₁
    have hfront : (raw :: hosts.erase raw).Perm hosts := (List.perm_cons_erase hraw).symm
    obtain ⟨allowed', hparse', -⟩ := mapM_parseEntry_perm hfront hparse
    obtain ⟨rest, rfl⟩ : ∃ rest, allowed' = e₁ :: rest := by
      have hmap := mapM_eq_ok_iff.mp hparse'
      rw [List.map_cons, hentry] at hmap
      cases allowed' with
      | nil => cases hmap
      | cons a rest =>
        rw [List.map_cons, List.cons.injEq, Except.ok.injEq] at hmap
        exact ⟨rest, by rw [hmap.1]⟩
    have heq := (hperm _ hfront).symm.trans (answer_eq (List.cons_ne_nil _ _) hparse')
    rw [allowHost_cons_unpinned ha₁ hnone, hpin e₂ he₂ ha₂ s hs, Except.ok.injEq] at heq
    have hl := congrArg String.toList heq
    simp only [String.toList_append, List.append_assoc] at hl
    exact hsne (String.toList_injective (List.append_cancel_right hl))
  · intro hshadow
    refine ⟨fun hosts' hp => ?_, fun entry hmem hallows s hs => ?_⟩
    · obtain ⟨allowed', hparse', hperm⟩ := mapM_parseEntry_perm hp hparse
      have hne' : hosts' ≠ [] := fun hnil => hne (List.nil_perm.mp (hnil ▸ hp))
      rw [answer_eq hne hparse, answer_eq hne' hparse']
      by_cases hex : ∃ entry ∈ allowed, entry.AllowsHost toLowerCase host
      · obtain ⟨entry, hmem, hallows⟩ := hex
        rw [allowHost_of_not_shadowable hpins hshadow hperm hmem hallows,
          allowHost_of_not_shadowable hpins hshadow (List.Perm.refl _) hmem hallows]
      · rw [allowHost_eq_error fun e he ha => hex ⟨e, he, ha⟩,
          allowHost_eq_error fun e he ha => hex ⟨e, hperm.mem_iff.mp he, ha⟩]
    · rw [answer_eq hne hparse,
        allowHost_of_not_shadowable hpins hshadow (List.Perm.refl _) hmem hallows, hs,
        Option.getD_some]

/-- Two entries for different hosts, one of them pinned: whatever the order, the pin holds. -/
theorem allowlist_order_disjoint :
    (∀ hosts' : List String, hosts'.Perm ["https://api.example.com", "www.example.com"] →
        answer asciiLowerCase hosts' "api.example.com" "http" = answer asciiLowerCase
          ["https://api.example.com", "www.example.com"] "api.example.com" "http") ∧
      ∀ entry ∈ [⟨"api.example.com", some "https", false⟩, ⟨"www.example.com", none, false⟩],
        AllowedHost.AllowsHost asciiLowerCase entry "api.example.com" → ∀ s,
          entry.scheme = some s → answer asciiLowerCase
              ["https://api.example.com", "www.example.com"] "api.example.com" "http" =
            .ok (s ++ "://" ++ normalizedHost asciiLowerCase "api.example.com") := by
  refine (@allowlist_order_iff asciiLowerCase _ _ _ _ _ rfl (by decide) ?_).mpr ?_
  · simp [PinsAgree]
  · simp only [Shadowable, AllowedHost.AllowsHost]
    decide

/-- A wildcard before a pinned entry of the same host: the pin is never reached, and a request over
`http` gets an `http` audience. In the other order it gets the pinned one. -/
theorem allowlist_order_shadowed :
    PinsAgree asciiLowerCase
        [⟨"example.com", none, true⟩, ⟨"api.example.com", some "https", false⟩] ∧
      ["*.example.com", "https://api.example.com"].mapM (parseEntry asciiLowerCase) =
        .ok [⟨"example.com", none, true⟩, ⟨"api.example.com", some "https", false⟩] ∧
      answer asciiLowerCase ["*.example.com", "https://api.example.com"] "api.example.com"
        "http" = .ok "http://api.example.com" ∧
      answer asciiLowerCase ["https://api.example.com", "*.example.com"] "api.example.com"
        "http" = .ok "https://api.example.com" := by
  refine ⟨?_, by decide, by decide, by decide⟩
  simp [PinsAgree]

end Order

end NapAuth.Audience
