/-
  Auth/Cookies.lean --- the cookies that come back.

  A browser sends the cookies of an origin in one header.  What the gate reads from the
  header is what the browser was given, and a page that has the cookies of a session
  and repeats its CSRF token gets through the gate.

  A header whose text is not of visible ASCII is not read at all, so a single cookie of
  other text hides the whole jar; the results are about jars without one.  Left out: what
  a browser does to refuse or to evict a cookie, and the routes behind the gate.
-/
import RouterView.Auth.GateSpec
import RouterView.Foundation.Text

set_option autoImplicit false

namespace RouterView.Auth

open RouterView.Foundation

/-! ## The header -/

/-- A character that `HeaderValue::to_str` takes. -/
def isHeaderChar (c : Char) : Bool := c == '\t' || (32 ≤ c.toNat && c.toNat < 127)

/-- `HeaderValue::to_str`, of the bytes of a text. -/
def toStr (text : String) : Option String :=
  if text.toList.all isHeaderChar then some text else none

/-- The text of a cookie in a header. -/
def cookieText (cookie : String × String) : List Char :=
  cookie.1.toList ++ '=' :: cookie.2.toList

/-- The text that a browser sends for its cookies. -/
def cookieHeader (jar : List (String × String)) : String :=
  String.ofList ([';', ' '].intercalate (jar.map cookieText))

/-- The text has only characters that a header is read with. -/
def Visible (text : String) : Prop := ∀ c ∈ text.toList, isHeaderChar c = true

instance (text : String) : Decidable (Visible text) :=
  List.decidableBAll (fun c => isHeaderChar c = true) text.toList

theorem toStr_of_visible {text : String} (h : Visible text) : toStr text = some text := by
  rw [toStr, if_pos (List.all_eq_true.mpr h)]

/-- A cookie whose text is read back, blanks inside it included. -/
structure PlainCookie (cookie : String × String) : Prop where
  trimmed : Trimmed (cookieText cookie)
  whole : ';' ∉ cookieText cookie
  noEquals : '=' ∉ cookie.1.toList
  visible : Visible cookie.1 ∧ Visible cookie.2

theorem splitOnce_append {before after : List Char} (h : '=' ∉ before) :
    Oidc.splitOnce '=' (before ++ '=' :: after) = some (before, after) := by
  have hspan : (before ++ '=' :: after).span (fun c => decide (c ≠ '=')) =
      (before, '=' :: after) := by
    rw [List.span_eq_takeWhile_dropWhile]
    have hall : ∀ c ∈ before, decide (c ≠ '=') = true := by
      intro c hc
      simp only [ne_eq, decide_not, Bool.not_eq_true', decide_eq_false_iff_not]
      rintro rfl
      exact h hc
    rw [List.takeWhile_append_of_pos hall, List.dropWhile_append_of_pos hall]
    simp
  rw [Oidc.splitOnce, hspan]

theorem trim_blank (text : List Char) : trimChars (' ' :: text) = trimChars text := by
  have hblank : isWhitespace ' ' = true := rfl
  rw [trimChars, List.dropWhile_cons_of_pos hblank, trimChars]

/-- After the first one, the pieces between two semicolons start with a blank. -/
theorem intercalate_blank (first : List Char) (rest : List (List Char)) :
    [';', ' '].intercalate (first :: rest) =
      [';'].intercalate (first :: rest.map (fun text => ' ' :: text)) := by
  induction rest generalizing first with
  | nil => simp
  | cons second rest ih =>
      rw [List.intercalate_cons_cons, ih second, List.map_cons, List.intercalate_cons_cons,
        List.intercalate_cons_cons_left]
      simp

/-- A piece of the header is read as its cookie. -/
theorem PlainCookie.read {cookie : String × String} (h : PlainCookie cookie) :
    Oidc.splitOnce '=' (trimChars (cookieText cookie)) =
      some (cookie.1.toList, cookie.2.toList) := by
  rw [h.trimmed.trimChars]
  exact splitOnce_append h.noEquals

/-- The header of such cookies is read. -/
theorem visible_cookieHeader {jar : List (String × String)}
    (h : ∀ cookie ∈ jar, PlainCookie cookie) : Visible (cookieHeader jar) := by
  intro c hc
  rw [cookieHeader, String.toList_ofList] at hc
  have htext : ∀ cookie ∈ jar, ∀ c ∈ cookieText cookie, isHeaderChar c = true := by
    intro cookie hmem c hc
    obtain hc | hc := List.mem_append.mp hc
    · exact (h cookie hmem).visible.1 c hc
    · obtain rfl | hc := List.mem_cons.mp hc
      · rfl
      · exact (h cookie hmem).visible.2 c hc
  clear h
  induction jar with
  | nil => cases hc
  | cons first rest ih =>
      cases rest with
      | nil =>
          rw [List.map_singleton, List.intercalate_singleton] at hc
          exact htext first List.mem_cons_self c hc
      | cons second rest =>
          rw [List.map_cons, List.map_cons, List.intercalate_cons_cons, List.append_assoc] at hc
          obtain hc | hc := List.mem_append.mp hc
          · exact htext first List.mem_cons_self c hc
          · obtain hc | hc := List.mem_append.mp hc
            · simp only [List.mem_cons, List.not_mem_nil, or_false] at hc
              obtain rfl | rfl := hc <;> rfl
            · exact ih hc (fun cookie hmem => htext cookie (List.mem_cons_of_mem _ hmem))

/-- The pieces of the header are read as the cookies that it was made of. -/
theorem read_cookieHeader {jar : List (String × String)} (h : ∀ cookie ∈ jar, PlainCookie cookie) :
    ((cookieHeader jar).toList.splitOn ';').filterMap
        (fun text => Oidc.splitOnce '=' (trimChars text)) =
      jar.map (fun cookie => (cookie.1.toList, cookie.2.toList)) := by
  cases jar with
  | nil => rfl
  | cons first rest =>
      have hfirst := h first List.mem_cons_self
      have hrest : ∀ cookie ∈ rest, PlainCookie cookie :=
        fun cookie hmem => h cookie (List.mem_cons_of_mem _ hmem)
      have hpieces : (cookieHeader (first :: rest)).toList.splitOn ';' =
          cookieText first :: (rest.map cookieText).map (fun text => ' ' :: text) := by
        rw [cookieHeader, String.toList_ofList, List.map_cons, intercalate_blank]
        refine List.splitOn_intercalate ';' ?_ (List.cons_ne_nil _ _)
        intro piece hpiece hmem
        obtain rfl | hpiece := List.mem_cons.mp hpiece
        · exact hfirst.whole hmem
        · obtain ⟨text, htext, rfl⟩ := List.mem_map.mp hpiece
          obtain ⟨cookie, hcookie, rfl⟩ := List.mem_map.mp htext
          obtain hblank | hmem := List.mem_cons.mp hmem
          · cases hblank
          · exact (hrest cookie hcookie).whole hmem
      rw [hpieces, List.filterMap_cons]
      simp only [hfirst.read]
      rw [List.map_cons, List.map_map, List.filterMap_map]
      congr 1
      rw [← List.filterMap_eq_map]
      refine List.filterMap_congr ?_
      intro cookie hmem
      simp only [Function.comp_apply, trim_blank]
      exact (hrest cookie hmem).read

/-- What the gate reads for a name are the values that the browser has for it. -/
theorem cookieMatches_cookieHeader {jar : List (String × String)}
    (h : ∀ cookie ∈ jar, PlainCookie cookie) (name : String) :
    Oidc.cookieMatches [some (cookieHeader jar)] name =
      (jar.filter (fun cookie => decide (cookie.1 = name))).map Prod.snd := by
  have hread := read_cookieHeader h
  simp only [Oidc.cookieMatches, List.filterMap_cons_some (f := id) rfl, List.filterMap_nil,
    List.flatMap_cons, List.flatMap_nil, List.append_nil]
  have hpick : (fun pair : List Char × List Char =>
      if String.ofList pair.1 = name then some (String.ofList pair.2) else none) ∘
        (fun cookie : String × String => (cookie.1.toList, cookie.2.toList)) =
      fun cookie => if cookie.1 = name then some cookie.2 else none := by
    funext cookie
    simp
  rw [hread, List.filterMap_map, hpick]
  clear hread h
  induction jar with
  | nil => rfl
  | cons cookie rest ih =>
      by_cases hname : cookie.1 = name
      · simp [hname, ih]
      · simp [hname, ih]

/-! ## Pages of the application -/

section

variable {sha256 : String → Hash} {publicOrigin : String} {policyFingerprint : Option Hash}
  {db : AuthDb} {x : AuthSessionRecord} {now : Int}

/-- The session of a token is its row. -/
theorem sessionByTokenHash_eq (hx : x ∈ db.sessions.rows) :
    sessionByTokenHash x.tokenHash db = some x := by
  cases hfind : sessionByTokenHash x.tokenHash db with
  | none =>
      have hno := List.find?_eq_none.mp hfind x hx
      simp at hno
  | some y =>
      have hy := List.mem_of_find?_eq_some hfind
      have htoken := List.find?_some hfind
      rw [decide_eq_true_eq] at htoken
      rw [db.sessions.eq_of_clash hy hx (by simp [UniqueRow.clash, htoken])]

/-- A session that is active and follows the policy authenticates. -/
theorem authenticateHeaders_active (hx : x ∈ db.sessions.rows) (hactive : x.activeAt now = true)
    (hpolicy : sessionPolicyValid policyFingerprint x.authMethod x.oidcPolicyFingerprint = true) :
    authenticateHeaders policyFingerprint x.tokenHash now db = (some x.context, db) := by
  simp [authenticateHeaders, sessionByTokenHash_eq hx, hactive, hpolicy]

/-- The jar of a browser that has one session cookie and one CSRF cookie. -/
structure JarOf (jar : List (String × String)) (token csrf : String) : Prop where
  plain : ∀ cookie ∈ jar, PlainCookie cookie
  session : jar.filter (fun cookie => decide (cookie.1 = sessionCookie)) = [(sessionCookie, token)]
  csrf : jar.filter (fun cookie => decide (cookie.1 = csrfCookie)) = [(csrfCookie, csrf)]

/-- The headers of a page of the application. -/
def pageHeaders (publicOrigin : String) (jar : List (String × String)) (csrf : String) :
    GateHeaders where
  origin := [toStr publicOrigin]
  csrfToken := [toStr csrf]
  cookie := [toStr (cookieHeader jar)]

theorem JarOf.visible_csrf {jar : List (String × String)} {token csrf : String}
    (h : JarOf jar token csrf) : Visible csrf := by
  have hmem : (csrfCookie, csrf) ∈ jar := by
    have hfiltered : (csrfCookie, csrf) ∈
        jar.filter (fun cookie => decide (cookie.1 = csrfCookie)) := by
      rw [h.csrf]
      exact List.mem_singleton.mpr rfl
    exact List.mem_of_mem_filter hfiltered
  exact (h.plain _ hmem).visible.2

/-- What the gate reads from the headers of a page. -/
theorem JarOf.pageHeaders {jar : List (String × String)} {token csrf : String}
    (h : JarOf jar token csrf) (hpublic : Visible publicOrigin) :
    pageHeaders publicOrigin jar csrf =
      ⟨[some publicOrigin], [some csrf], [some (cookieHeader jar)]⟩ := by
  rw [Auth.pageHeaders, toStr_of_visible hpublic, toStr_of_visible h.visible_csrf,
    toStr_of_visible (visible_cookieHeader h.plain)]

theorem JarOf.cookieValue {jar : List (String × String)} {token csrf : String}
    (h : JarOf jar token csrf) (hpublic : Visible publicOrigin) :
    cookieValue (Auth.pageHeaders publicOrigin jar csrf) sessionCookie = some token := by
  simp only [h.pageHeaders hpublic, Auth.cookieValue, cookieValues,
    cookieMatches_cookieHeader h.plain, h.session, List.map_cons, List.head?_cons]

theorem JarOf.carriesToken {jar : List (String × String)} {token csrf : String}
    (h : JarOf jar token csrf) (hpublic : Visible publicOrigin) (hcsrf : csrf ≠ "")
    (hhash : sha256 csrf = x.csrfHash) :
    CarriesToken sha256 (Auth.pageHeaders publicOrigin jar csrf) x.csrfHash where
  header := ⟨csrf, by rw [h.pageHeaders hpublic], hcsrf, hhash⟩
  cookie := by
    refine ⟨csrf, ?_, hcsrf, hhash⟩
    simp only [h.pageHeaders hpublic, cookieValues, cookieMatches_cookieHeader h.plain, h.csrf,
      List.map_cons, List.map_nil]

/-- Only a request that changes something asks for a role. -/
theorem admit_page {jar : List (String × String)} {token csrf : String}
    (h : JarOf jar token csrf) (hpublic : Visible publicOrigin) (hcsrf : csrf ≠ "")
    (hhash : sha256 csrf = x.csrfHash) {method : Method} {path : String}
    (hrole : Request.isMutation ⟨method, path, pageHeaders publicOrigin jar csrf⟩ = true →
      x.role = .admin ∨ path = "/api/auth/logout") :
    permit sha256 publicOrigin ⟨method, path, pageHeaders publicOrigin jar csrf⟩ x.context =
      .ok () := by
  have horigin : validateOrigin (pageHeaders publicOrigin jar csrf) publicOrigin = .ok () := by
    rw [h.pageHeaders hpublic]
    exact bind_eq_ok_iff.mpr ⟨publicOrigin, rfl, ensure_of rfl⟩
  have htoken : validateCsrf sha256 (pageHeaders publicOrigin jar csrf) x.csrfHash = .ok () :=
    validateCsrf_ok.mpr (h.carriesToken hpublic hcsrf hhash)
  unfold permit
  by_cases hmutation : Request.isMutation ⟨method, path, pageHeaders publicOrigin jar csrf⟩ = true
  · have hadmin : x.context.isAdmin = true ∨ path = "/api/auth/logout" :=
      (hrole hmutation).imp_left (fun hadmin => decide_eq_true hadmin)
    simp only [hmutation, or_true, if_true, horigin]
    refine bind_eq_ok_iff.mpr ⟨(), rfl, bind_eq_ok_iff.mpr ⟨(), htoken, ?_⟩⟩
    exact ensure_of hadmin
  · by_cases hwebsocket : Request.isWebsocket ⟨method, path, pageHeaders publicOrigin jar csrf⟩ = true
    · simp only [hmutation, hwebsocket, true_or, if_true, horigin]
      rfl
    · simp only [hmutation, hwebsocket, or_self]
      rfl

/-- A page of the application that has the cookies of an active session and repeats its
CSRF token gets through the gate, whatever other cookies the browser sends. -/
theorem page_gets_through (sha256 : String → Hash) (publicOrigin : String)
    (hpublic : Visible publicOrigin) (policyFingerprint : Option Hash) (db : AuthDb)
    (x : AuthSessionRecord) (now : Int) (hx : x ∈ db.sessions.rows)
    (hactive : x.activeAt now = true)
    (hpolicy : sessionPolicyValid policyFingerprint x.authMethod x.oidcPolicyFingerprint = true)
    (jar : List (String × String)) (token csrf : String) (hjar : JarOf jar token csrf)
    (htoken : sha256 token = x.tokenHash) (hcsrf : csrf ≠ "") (hhash : sha256 csrf = x.csrfHash)
    (method : Method) (path : String)
    (hrole : Request.isMutation ⟨method, path, pageHeaders publicOrigin jar csrf⟩ = true →
      x.role = .admin ∨ path = "/api/auth/logout") (id : Nat) :
    Gate.handledBy sha256 publicOrigin policyFingerprint (Gate.idle db)
        [.arrive id ⟨method, path, pageHeaders publicOrigin jar csrf⟩ now, .proceed id now] =
      [⟨⟨⟨method, path, pageHeaders publicOrigin jar csrf⟩, x.context⟩, now⟩] := by
  have harrived : Gate.arrived sha256 publicOrigin policyFingerprint
      ⟨method, path, pageHeaders publicOrigin jar csrf⟩ now (Gate.idle db) =
        (some ⟨⟨method, path, pageHeaders publicOrigin jar csrf⟩, x.context⟩, db) := by
    have hauthentic : authenticateRequest sha256 policyFingerprint
        ⟨method, path, pageHeaders publicOrigin jar csrf⟩ now db = (some x.context, db) := by
      simp only [authenticateRequest, hjar.cookieValue hpublic, htoken]
      exact authenticateHeaders_active hx hactive hpolicy
    simp only [Gate.arrived, Gate.idle, hauthentic, admit_page hjar hpublic hcsrf hhash hrole]
  have hstill : (stillActive ⟨method, path, pageHeaders publicOrigin jar csrf⟩ x.context now db).1 =
      true := by
    have hsession := (sessionIsActive_eq (t := now) hx).trans hactive
    unfold stillActive
    split
    · exact hsession
    · rw [touch_eq_sessionIsActive]
      exact hsession
  simp only [Gate.handledBy, emitted, Gate.step, Gate.handled, harrived, if_true,
    Option.bind_some, hstill, Option.toList_none, Option.toList_some, List.nil_append,
    List.append_nil]

end

/-- The jar of a browser that also has a cookie of its own, with a blank in it. -/
def visitedJar : List (String × String) :=
  [("theme", "dark blue"), (sessionCookie, "token"), (csrfCookie, "csrf")]

theorem visitedJar_plain : ∀ cookie ∈ visitedJar, PlainCookie cookie := by
  intro cookie hmem
  simp only [visitedJar, List.mem_cons, List.not_mem_nil, or_false] at hmem
  obtain rfl | rfl | rfl := hmem <;> exact ⟨by decide, by decide, by decide, by decide⟩

theorem page_gets_through_visited :
    Gate.handledBy asBytes "https://routerview.test" none
        (Gate.idle { AuthDb.withSession with
          sessions := ⟨[{ firstSession with
            role := .viewer, tokenHash := asBytes "token", csrfHash := asBytes "csrf" }],
            List.pairwise_singleton _ _⟩ })
        [.arrive 7 ⟨.get, "/ws", pageHeaders "https://routerview.test" visitedJar "csrf"⟩ 60,
          .proceed 7 60] =
      [⟨⟨⟨.get, "/ws", pageHeaders "https://routerview.test" visitedJar "csrf"⟩,
        { firstSession.context with role := .viewer, csrfHash := asBytes "csrf" }⟩, 60⟩] :=
  page_gets_through asBytes "https://routerview.test" (by decide) none _
    { firstSession with
      role := .viewer, tokenHash := asBytes "token", csrfHash := asBytes "csrf" } 60
    (List.mem_singleton.mpr rfl) (by decide) (by decide) visitedJar "token" "csrf"
    ⟨visitedJar_plain, by decide, by decide⟩ rfl (by decide) rfl .get "/ws"
    (fun hmutation => by cases hmutation) 7

-- a cookie of other text hides the session as well
example : pageHeaders "https://routerview.test" (("theme", "größe") :: visitedJar) "csrf" =
    ⟨[some "https://routerview.test"], [some "csrf"], [none]⟩ := by
  decide

end RouterView.Auth
