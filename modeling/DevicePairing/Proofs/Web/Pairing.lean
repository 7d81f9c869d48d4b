/-
What the pairing endpoint receives of a submission.

The client writes a device and a PIN into the query of its URL, and the
endpoint reads them from the query that arrives. The PIN arrives as it
was. So does the device, unless the spelling of the whole URL has been
spoiled by the zone of its host: then a device that needs an escape
arrives as its own escaped spelling (`arrived`), and the endpoint takes it
for another device.

Whatever device arrives, the endpoint serves that one and no other: it
answers 200 exactly if the device is registered, and then only the PIN of
that device has changed.
-/
import DevicePairing.Client
import DevicePairing.Proofs.Registry
import DevicePairing.Proofs.Url.Front
import DevicePairing.Proofs.Web.Events
import DevicePairing.Web.Site

namespace DevicePairing

namespace Url

-- ============================================================= vocabulary

/-- The query of a URL: what stands behind its first question mark, up to
a hash. -/
def queryOf (url : Text) : Text :=
  ((Text.cut (.char '?') (Text.cut (.char '#') url).1).2).getD []

/-- The host of a URL as it goes on the wire. -/
def hostOf (names : HostNames) (url : Text) : Except Fault Text := do
  let parts ← Parts.ofText names url
  wireHost? names parts.host

/-- Whether the host of a URL spoils its spelling: a percent sign in it
stands before two letters or digits that are no escape. -/
def isSpoiled (names : HostNames) (url : Text) : Bool :=
  match hostOf names url with
  | .ok host => (unescapeUnreserved host).isNone
  | .error _ => false

/-- The device that arrives where a submission for `id` is sent to `url`. -/
def arrived (names : HostNames) (url id : Text) : Text :=
  if isSpoiled names url then (formText id).map unplus else id

/-- A device arrives as it is if the URL is not spoiled, or if the device
needs no escape. -/
theorem arrived_eq_iff {names : HostNames} {url id : Text} :
    arrived names url id = id
      ↔ isSpoiled names url = false ∨ isPlain id = true := by
  unfold arrived
  cases isSpoiled names url with
  | false => simp
  | true => simp [map_unplus_formText]

-- ================================================================ the URL

theorem queryOf_append {f q : Text} (hquestion : .char '?' ∉ f)
    (hhash : .char '#' ∉ f) (hquery : .char '#' ∉ q) :
    queryOf (f ++ .char '?' :: q) = q := by
  have hall : .char '#' ∉ f ++ .char '?' :: q := by
    intro hmem
    rcases List.mem_append.mp hmem with hmem | hmem
    · exact hhash hmem
    · rcases List.mem_cons.mp hmem with hmem | hmem
      · exact absurd hmem (by decide)
      · exact hquery hmem
  rw [queryOf, Text.cut_of_not_mem hall]
  dsimp only
  rw [Text.cut_append hquestion]
  rfl

/-- The values of a query in their final spelling are read back, whether
the URL was spoiled or not. -/
theorem decodeForm_respelled {names : HostNames} {keep : Char → Bool}
    {url t : Text}
    (hkeep : isSpoiled names url = false ∧ keep = keepsEscapes
      ∨ isSpoiled names url = true ∧ keep = isUrlChar) (ht : t.IsScalar) :
    decodeForm (encodeBytes keep (formText t).utf8) = arrived names url t := by
  rcases hkeep with ⟨hspoiled, rfl⟩ | ⟨hspoiled, rfl⟩
  · have hkept : encodeBytes keepsEscapes (formText t).utf8 = formText t := by
      refine encodeBytes_of_kept fun p hp => ?_
      obtain ⟨c, rfl, hc⟩ := mem_formText hp
      refine ⟨c, rfl, lt_of_isFormChar hc, ?_⟩
      exact forall_ascii
        (P := fun c => isFormChar c = true → keepsEscapes c = true)
        (by decide) (lt_of_isFormChar hc) hc
    rw [hkept, decodeForm_formText ht, arrived, hspoiled]
    rfl
  · rw [decodeForm_encodeBytes (by decide) (by decide), arrived, hspoiled]
    rfl

variable {names : HostNames} {url scheme r id pin full : Text}

/-- The query of a web URL without a query of its own is that of its
parameters, in the final spelling. -/
theorem decodeQuery_prepareWeb (hanchored : anchored url = url)
    (hscheme : takeScheme "+.-" url = some (scheme, r))
    (hweb : scheme = Text.ofString "http" ∨ scheme = Text.ofString "https")
    (hquestion : .char '?' ∉ r) (hhash : .char '#' ∉ r)
    (hid : id.IsScalar) (hpin : pin.IsScalar)
    (h : prepareWeb names url [("uniqueid", .str id), ("pin", .str pin)]
      = .ok full) :
    decodeQuery (queryOf full)
        = [(Text.ofString "uniqueid", arrived names url id),
            (Text.ofString "pin", arrived names url pin)]
      ∧ (isSpoiled names url = true → .char '[' ∈ r ∧ .char '%' ∈ r) := by
  have hnormal : isNormalised (some (scheme.map CodePoint.toLower)) = true := by
    rcases hweb with rfl | rfl <;> decide
  obtain ⟨parts, hparts, h⟩ := bind_eq_ok.mp h
  obtain ⟨hname, hfront, hhost⟩ :=
    isFront_of_ofText hanchored hscheme hnormal hquestion hhash hparts
  have hsigns {d : Char} (hd : d = '?' ∨ d = '#' ∨ d = '%') :
      .char d ∉ scheme.map CodePoint.toLower := by
    rcases hweb with rfl | rfl <;> rcases hd with rfl | rfl | rfl <;> decide
  rw [hname] at h
  dsimp only at h
  split_ifs at h
  obtain ⟨host, hwire, h⟩ := bind_eq_ok.mp h
  obtain ⟨encoded, hencoded, h⟩ := bind_eq_ok.mp h
  rw [encodeParameters_eq hid hpin] at hencoded
  cases hencoded
  have hspoiled : isSpoiled names url = (unescapeUnreserved host).isNone := by
    have hhostOf : hostOf names url = .ok host :=
      bind_eq_ok.mpr ⟨parts, hparts, hwire⟩
    rw [isSpoiled, hhostOf]
  have hquery : queryText (formText id) (formText pin) ≠ [] := by
    rw [queryText_eq]
    exact List.cons_ne_nil _ _
  rw [hfront.query, addToQuery] at h
  let named : Parts := { parts with host }
  have hnamed : IsFront named := hfront.named hwire
  have hread : encodeWhole (named.front (scheme.map CodePoint.toLower)
      ++ .char '?' :: queryText (formText id) (formText pin)) = .ok full := by
    rw [← Parts.text_eq hquery hnamed.fragment]
    exact h
  obtain ⟨f, keep, rfl, hspelled⟩ := encodeWhole_queryText hread
  have hfront' := unescapeUnreserved_front (hsigns (.inr (.inr rfl))) hnamed
  have hf {d : Char} (hd : d = '?' ∨ d = '#') : .char d ∉ f := by
    have hmark := not_mem_front hd (hsigns (hd.imp_right .inl)) hnamed
    rcases hspelled with ⟨hsome, -⟩ | ⟨-, rfl, -⟩
    · intro hd'
      rcases mem_unescapeUnreserved hsome hd' with hd' | ⟨c, hc, hun⟩
      · exact hmark hd'
      · rw [← CodePoint.char.inj hc] at hun
        rcases hd with rfl | rfl <;> exact absurd hun (by decide)
    · exact hmark
  have hkeep : isSpoiled names url = false ∧ keep = keepsEscapes
      ∨ isSpoiled names url = true ∧ keep = isUrlChar := by
    rw [hspoiled]
    rcases hspelled with ⟨hsome, rfl⟩ | ⟨hnone, -, rfl⟩
    · left
      refine ⟨?_, rfl⟩
      rw [Option.isNone_eq_false_iff, Option.isSome_iff_ne_none, ne_eq,
        ← hfront', hsome]
      exact Option.some_ne_none f
    · exact .inr ⟨Option.isNone_iff_eq_none.mpr (hfront'.mp hnone), rfl⟩
  have hvalue {c : Char} (hc : isFormChar c = false) (t : Text) :
      .char c ∉ encodeBytes keep (formText t).utf8 := by
    have hparts := hc
    rw [isFormChar, Bool.or_eq_false_iff, Bool.or_eq_false_iff] at hparts
    exact not_mem_encodeBytes (not_mem_formText hc t)
      (beq_eq_false_iff_ne.mp hparts.2) hparts.1.1
  have hhash' : .char '#' ∉ queryText (encodeBytes keep (formText id).utf8)
      (encodeBytes keep (formText pin).utf8) := by
    rw [queryText_eq]
    intro hmem
    rcases List.mem_append.mp hmem with hmem | hmem
    · rcases List.mem_append.mp hmem with hmem | hmem
      · exact absurd hmem (by decide)
      · exact hvalue (by decide) id hmem
    · rcases List.mem_append.mp hmem with hmem | hmem
      · exact absurd hmem (by decide)
      · exact hvalue (by decide) pin hmem
  constructor
  · rw [queryOf_append
      (not_mem_encodeBytes (hf (.inl rfl)) (by decide) (by decide))
        (not_mem_encodeBytes (hf (.inr rfl)) (by decide) (by decide)) hhash',
      decodeQuery_queryText (hvalue (by decide) id) (hvalue (by decide) pin),
      decodeForm_respelled hkeep hid, decodeForm_respelled hkeep hpin]
  · intro hs
    rw [hspoiled, Option.isNone_iff_eq_none] at hs
    have hnot : ¬IsSpelled host := by
      rintro hspelled
      obtain ⟨u, hu⟩ := hspelled.unescape
      have hu := hu []
      rw [List.append_nil, hs] at hu
      cases hu
    rcases wireHost?_eq_ok hwire with rfl | hregistered
    · exact hhost.resolve_left hnot
    · exact absurd (isSpelled_of_isRegisteredName hregistered) hnot

/-- Credentials that are given do not show in the URL. -/
theorem prepare_given {given given' : Option (Text × Text)} {full' : Text}
    {parameters : List (String × Json)}
    (h : prepare names given url parameters = .ok full)
    (h' : prepare names given' url parameters = .ok full') : full' = full := by
  rw [prepare] at h h'
  obtain ⟨prepared, hprepared, h⟩ := bind_eq_ok.mp h
  obtain ⟨prepared', hprepared', h'⟩ := bind_eq_ok.mp h'
  obtain ⟨-, -, h⟩ := bind_eq_ok.mp h
  obtain ⟨-, -, h'⟩ := bind_eq_ok.mp h'
  cases h
  cases h'
  rw [hprepared] at hprepared'
  cases hprepared'
  rfl

end Url

-- ============================================================= the client

namespace Client

variable {url id pin full : Text} {timeout : Json} {environment : Environment}
  {c : Client}

/-- Whether the host of the service spoils the spelling of its URLs. -/
def isSpoiled (c : Client) : Bool :=
  Url.isSpoiled c.environment.names c.endpoint

/-- The device that arrives where a client submits for `id`. -/
def arrived (c : Client) (id : Text) : Text :=
  Url.arrived c.environment.names c.endpoint id

/-- The address that PINs are sent to keeps the scheme of a web address. -/
theorem endpoint_eq (hc : ofAddress (.str url) timeout environment = .ok c)
    (hweb : url.startsWith "http://" = true
      ∨ url.startsWith "https://" = true) :
    ∃ r, (c.endpoint = Text.ofString "http:" ++ r
        ∨ c.endpoint = Text.ofString "https:" ++ r)
      ∧ ∀ p ∈ r, p ∈ url ∨ p ∈ Text.ofString "/submit-pin" := by
  have hrest (scheme : String) (hlast : ∀ p ∈ (Text.ofString scheme).getLast?,
        (p == .char '/') = false)
      (hurl : ∃ r, url = Text.ofString scheme ++ r) :
      ∃ r, c.endpoint = Text.ofString scheme ++ r
        ∧ ∀ p ∈ r, p ∈ url ∨ p ∈ Text.ofString "/submit-pin" := by
    obtain ⟨r, rfl⟩ := hurl
    cases hc
    refine ⟨Text.dropTailWhile (· == .char '/') r
        ++ Text.ofString "/submit-pin", ?_, fun p hp => ?_⟩
    · rw [endpoint, Text.dropTailWhile_append hlast]
      exact List.append_assoc _ _ _
    · refine (List.mem_append.mp hp).imp_left fun hp => ?_
      exact List.mem_append_right _ (Text.mem_of_mem_dropTailWhile hp)
  rcases hweb with hweb | hweb
  · obtain ⟨r, hr⟩ := List.isPrefixOf_iff_prefix.mp hweb
    obtain ⟨r', heq, hmem⟩ := hrest "http:" (by decide)
      ⟨Text.ofString "//" ++ r, hr.symm⟩
    exact ⟨r', .inl heq, hmem⟩
  · obtain ⟨r, hr⟩ := List.isPrefixOf_iff_prefix.mp hweb
    obtain ⟨r', heq, hmem⟩ := hrest "https:" (by decide)
      ⟨Text.ofString "//" ++ r, hr.symm⟩
    exact ⟨r', .inr heq, hmem⟩

/-- The query of a submission is read as the device that arrives and the
PIN. Only a zone can keep the device from arriving. -/
theorem decodeQuery_pinUrl
    (hc : ofAddress (.str url) timeout environment = .ok c)
    (hweb : url.startsWith "http://" = true ∨ url.startsWith "https://" = true)
    (hquestion : .char '?' ∉ url) (hhash : .char '#' ∉ url) (hid : id.IsScalar)
    (hpin : pin.IsScalar) (hfull : c.pinUrl ⟨.str id, .str pin⟩ = .ok full) :
    Url.decodeQuery (Url.queryOf full)
        = [(Text.ofString "uniqueid", c.arrived id),
            (Text.ofString "pin", c.arrived pin)]
      ∧ (c.isSpoiled = true → .char '[' ∈ url ∧ .char '%' ∈ url) := by
  obtain ⟨r, hendpoint, hmem⟩ := endpoint_eq hc hweb
  have hpath {d : Char} (hd : .char d ∉ Text.ofString "/submit-pin")
      (hr : .char d ∈ r) : .char d ∈ url := (hmem _ hr).resolve_right hd
  have hread : Url.prepareWeb c.environment.names c.endpoint
      [("uniqueid", .str id), ("pin", .str pin)] = .ok full := by
    have htext : c.endpoint.trimLeft = c.endpoint
        ∧ Url.isForeign c.endpoint = false := by
      rcases hendpoint with h | h <;> rw [h] <;> exact ⟨rfl, rfl⟩
    rw [pinUrl, Url.prepare, htext.1, htext.2] at hfull
    obtain ⟨prepared, hprepared, hfull⟩ := bind_eq_ok.mp hfull
    obtain ⟨-, -, hfull⟩ := bind_eq_ok.mp hfull
    cases hfull
    exact hprepared
  have hspelled : Url.decodeQuery (Url.queryOf full)
        = [(Text.ofString "uniqueid", c.arrived id),
            (Text.ofString "pin", c.arrived pin)]
      ∧ (c.isSpoiled = true → .char '[' ∈ r ∧ .char '%' ∈ r) := by
    have hquestion' : .char '?' ∉ r :=
      fun hr => hquestion (hpath (by decide) hr)
    have hhash' : .char '#' ∉ r := fun hr => hhash (hpath (by decide) hr)
    rcases hendpoint with h | h
    · rw [arrived, arrived, isSpoiled, h]
      rw [h] at hread
      exact Url.decodeQuery_prepareWeb rfl rfl (.inl rfl) hquestion' hhash' hid
        hpin hread
    · rw [arrived, arrived, isSpoiled, h]
      rw [h] at hread
      exact Url.decodeQuery_prepareWeb rfl rfl (.inr rfl) hquestion' hhash' hid
        hpin hread
  refine ⟨hspelled.1, fun hs => ?_⟩
  obtain ⟨hopen, hpercent⟩ := hspelled.2 hs
  exact ⟨hpath (by decide) hopen, hpath (by decide) hpercent⟩

/-- The URL that goes out is the one that is shown. -/
theorem url_of_request {submission : Submission} {request : Request}
    (hfull : c.pinUrl submission = .ok full)
    (h : c.request submission = .ok request) : request.url = full := by
  obtain ⟨url, hurl, h⟩ := bind_eq_ok.mp h
  obtain ⟨given, -, hurl⟩ := bind_eq_ok.mp hurl
  split at h
  · cases h
    exact Url.prepare_given hfull hurl
  · cases h

end Client

-- =========================================================== the endpoint

namespace Web

/-- A PIN that is received is that of the device, and nothing else has
changed: each entry stays in its place with its key. -/
theorem receivePin_known {w : Waiting} {id : Text} (pin : Text)
    (h : w.isKnown (.str id) = true) :
    ∃ w', w.receivePin (.str id) (some pin) = (true, w')
      ∧ w'.clients = w.clients.map (fun entry =>
          (entry.1, if entry.1 == .str id then some pin else entry.2))
      ∧ w'.pinFor (.str id) = some pin := by
  have hput := Registry.put_of_isKnown h (some pin)
  refine ⟨_, by rw [Registry.receivePin, if_pos h], by rw [hput], ?_⟩
  obtain ⟨entry, hentry, hkey⟩ := List.any_eq_true.mp h
  rw [hput, Registry.pinFor, List.find?_map]
  cases hfind : w.clients.find? ((fun entry => entry.1 == .str id)
      ∘ fun entry =>
        (entry.1, if entry.1 == .str id then some pin else entry.2)) with
  | none => exact absurd hkey (List.find?_eq_none.mp hfind entry hentry)
  | some found =>
      have hfound := List.find?_some hfind
      rw [Function.comp_apply] at hfound
      simp [hfound]

/-- A device and its PIN are taken exactly if the device is registered. -/
theorem takePin_pair (w : Waiting) (id : Text) {pin : Text}
    (hpin : isPin pin = true) :
    ∃ response log, takePin w [(Text.ofString "uniqueid", id),
        (Text.ofString "pin", pin)]
        = (⟨response, log⟩, (w.receivePin (.str id) (some pin)).2)
      ∧ response.status = if w.isKnown (.str id) then 200 else 400 := by
  have hid : Url.firstValue? "uniqueid" [(Text.ofString "uniqueid", id),
      (Text.ofString "pin", pin)] = some id := by
    simp [Url.firstValue?]
  have hvalue : Url.firstValue? "pin" [(Text.ofString "uniqueid", id),
      (Text.ofString "pin", pin)] = some pin := by
    have hne : Text.ofString "uniqueid" ≠ Text.ofString "pin" := by decide
    simp [Url.firstValue?, hne]
  unfold takePin
  rw [hid, hvalue]
  dsimp only
  rw [hpin]
  cases hknown : w.isKnown (.str id) with
  | true =>
      obtain ⟨w', hreceived, -⟩ := receivePin_known pin hknown
      rw [hreceived]
      exact ⟨_, _, rfl, rfl⟩
  | false =>
      have hreceived : w.receivePin (.str id) (some pin) = (false, w) := by
        rw [Registry.receivePin, hknown]
        rfl
      rw [hreceived]
      exact ⟨_, _, rfl, rfl⟩

/-- A GET request for the path of submissions is one to take a PIN. -/
theorem target_submitPin {r : Incoming} (hmethod : r.method = "GET")
    (hpath : r.path = "/submit-pin") : r.target true = .route .submitPin := by
  have htarget : (⟨"GET", "/submit-pin", [], []⟩ : Incoming).target true
      = .route .submitPin := by decide +kernel
  obtain ⟨method, path, query, body⟩ := r
  subst hmethod
  subst hpath
  exact htarget

theorem start_submitPin {s : Site} {w : Waiting} {r : Incoming}
    (hwaiting : s.waiting = some w) (hmethod : r.method = "GET")
    (hpath : r.path = "/submit-pin") (now : Int) :
    s.start now r
      = (⟨.done (.ok (takePin w r.parameters).1.value),
          (takePin w r.parameters).1.log⟩,
        { s with waiting := some (takePin w r.parameters).2 }) := by
  have hbody : r.wantsNoBody = false := by
    rw [Incoming.wantsNoBody, hmethod]
    decide
  have htarget : r.target s.waiting.isSome = .route .submitPin := by
    rw [hwaiting]
    exact target_submitPin hmethod hpath
  unfold Site.start
  rw [htarget]
  dsimp only
  rw [hbody, Site.serve, hwaiting]
  rfl

/-- A submission arrives. Let the address of the client be a web address
without a query or a fragment, whatever the script that its host is named
in, let the device be named by characters and the PIN consist of digits. If
the URL of the submission can be made at all, it is the one that goes out if
any does, and its query is read as the PIN and the device, which is the
device that was meant unless the address is one in brackets whose zone
spoils the spelling of the URL and the device needs an escape; in that case
its escaped spelling is read. The endpoint answers 200 if that device is
registered, and has then changed the PIN of that device and nothing else;
otherwise it answers 400, and nothing has changed. -/
theorem submission_arrives {url id pin full : Text} {timeout : Json}
    {environment : Environment} {c : Client}
    (hc : Client.ofAddress (.str url) timeout environment = .ok c)
    (hweb : url.startsWith "http://" = true ∨ url.startsWith "https://" = true)
    (hmarks : .char '?' ∉ url ∧ .char '#' ∉ url) (hid : id.IsScalar)
    (hpin : isPin pin = true)
    (hfull : c.pinUrl ⟨.str id, .str pin⟩ = .ok full) :
    let device := c.arrived id
    (∀ request, c.request ⟨.str id, .str pin⟩ = .ok request →
        request.url = full)
      ∧ Url.decodeQuery (Url.queryOf full)
        = [(Text.ofString "uniqueid", device), (Text.ofString "pin", pin)]
      ∧ (device = id ↔ c.isSpoiled = false ∨ Url.isPlain id = true)
      ∧ (c.isSpoiled = true → .char '[' ∈ url ∧ .char '%' ∈ url)
      ∧ ∀ (s : Site) (w : Waiting) (r : Incoming) (now : Int),
          s.waiting = some w → r.method = "GET" → r.path = "/submit-pin" →
          r.query = Url.queryOf full →
          ∃ response log t, s.start now r = (⟨.done (.ok response), log⟩, t)
            ∧ (response.status = 200 ↔ w.isKnown (.str device) = true)
            ∧ (response.status = 400 ↔ w.isKnown (.str device) = false)
            ∧ (response.status = 200 →
                ∃ w', t = { s with waiting := some w' }
                  ∧ w'.clients = w.clients.map (fun entry => (entry.1,
                      if entry.1 == .str device then some pin else entry.2))
                  ∧ w'.pinFor (.str device) = some pin)
            ∧ (response.status = 400 → t = s) := by
  intro device
  have hplain : ∀ p ∈ pin, p.isSurrogate = false
      ∧ Url.isPlain [p] = true := by
    rw [isPin, Bool.and_eq_true, List.all_eq_true] at hpin
    intro p hp
    have hdigit := hpin.2 p hp
    cases p with
    | surrogate n => cases hdigit
    | char c =>
        have hlt : c.toNat < 128 := by
          rw [CodePoint.isDigit, Char.isDigit, Bool.and_eq_true,
            decide_eq_true_eq, decide_eq_true_eq] at hdigit
          exact Nat.lt_of_le_of_lt (UInt32.le_iff_toNat_le.mp hdigit.2)
            (by decide)
        exact ⟨rfl, Url.forall_ascii (P := fun c => c.isDigit = true →
          Url.isPlain [.char c] = true) (by decide) hlt hdigit⟩
  have hscalar : pin.IsScalar := fun p hp => (hplain p hp).1
  have hpinarrives : c.arrived pin = pin := by
    refine Url.arrived_eq_iff.mpr (.inr (List.all_eq_true.mpr fun p hp => ?_))
    have hone := (hplain p hp).2
    rw [Url.isPlain, List.all_cons, List.all_nil, Bool.and_true] at hone
    exact hone
  obtain ⟨hquery, hzone⟩ := Client.decodeQuery_pinUrl
    hc hweb hmarks.1 hmarks.2 hid hscalar hfull
  rw [hpinarrives] at hquery
  refine ⟨fun _ => Client.url_of_request hfull, hquery, Url.arrived_eq_iff,
    hzone, ?_⟩
  intro s w r now hwaiting hmethod hpath hr
  have hparameters : r.parameters
      = [(Text.ofString "uniqueid", device), (Text.ofString "pin", pin)] := by
    rw [Incoming.parameters, hr, hquery]
  have hstart := start_submitPin hwaiting hmethod hpath now
  obtain ⟨response, log, htake, hstatus⟩ := takePin_pair w device hpin
  rw [hparameters, htake] at hstart
  refine ⟨response, log, _, hstart, ?_⟩
  rw [hstatus]
  cases hknown : w.isKnown (.str device) with
  | true =>
      obtain ⟨w', hreceived, hclients, hpinFor⟩ := receivePin_known pin hknown
      rw [hreceived]
      simp [hclients, hpinFor]
  | false =>
      have hreceived : w.receivePin (.str device) (some pin) = (false, w) := by
        rw [Registry.receivePin, hknown]
        rfl
      rw [hreceived, ← hwaiting]
      simp

/-- A device with an accent arrives at a host with one. -/
theorem submission_arrives_at_buecher :
    let names : Url.HostNames :=
      .ofTable [("bücher.example", "xn--bcher-kva.example")]
    let c : Client :=
      ⟨"http://bücher.example:5000", .int 5, { names, netrc := none }⟩
    ∃ full, c.pinUrl ⟨.str "a é", .str "12"⟩ = .ok full
      ∧ full = "http://xn--bcher-kva.example:5000/submit-pin?uniqueid=a+%C3%A9&pin=12"
      ∧ Url.decodeQuery (Url.queryOf full)
        = [(Text.ofString "uniqueid", Text.ofString "a é"),
            (Text.ofString "pin", Text.ofString "12")] := by
  intro names c
  have hfull : c.pinUrl ⟨.str "a é", .str "12"⟩
      = .ok "http://xn--bcher-kva.example:5000/submit-pin?uniqueid=a+%C3%A9&pin=12" := by
    apply eq_ok_of_toOption
    decide +kernel
  have hc : Client.ofAddress (.str "http://bücher.example:5000/") (.int 5)
      c.environment = .ok c := rfl
  obtain ⟨-, hquery, hdevice, hzone, -⟩ :=
    submission_arrives hc (.inl (by decide)) (by decide)
      (Text.isScalar_ofString _) (by decide) hfull
  refine ⟨_, hfull, rfl, ?_⟩
  rw [hquery, hdevice.mpr (.inl ?_)]
  rw [← Bool.not_eq_true]
  intro hspoiled
  exact absurd (hzone hspoiled).1 (by decide)

/-- But it does not arrive at an address whose zone begins with two letters
or digits of which one is no hexadecimal digit: its escapes are escaped
once more. -/
theorem escaped_device_misread :
    ∃ c full, Client.ofAddress (.str "http://[fe80::1%25eth0]:5000") (.int 5)
      = .ok c
      ∧ Text.startsWith "http://[fe80::1%25eth0]:5000" "http://" = true
      ∧ .char '?' ∉ Text.ofString "http://[fe80::1%25eth0]:5000"
      ∧ .char '#' ∉ Text.ofString "http://[fe80::1%25eth0]:5000"
      ∧ (Text.ofString "é").IsScalar ∧ isPin "1234" = true
      ∧ c.pinUrl ⟨.str "é", .str "1234"⟩ = .ok full
      ∧ Url.decodeQuery (Url.queryOf full)
        = [(Text.ofString "uniqueid", Text.ofString "%C3%A9"),
            (Text.ofString "pin", Text.ofString "1234")]
      ∧ Url.decodeQuery (Url.queryOf full)
        ≠ [(Text.ofString "uniqueid", Text.ofString "é"),
            (Text.ofString "pin", Text.ofString "1234")] := by
  have hfull : (⟨"http://[fe80::1%25eth0]:5000", .int 5, {}⟩ : Client).pinUrl
        ⟨.str "é", .str "1234"⟩
      = .ok "http://[fe80::1%25eth0]:5000/submit-pin?uniqueid=%25C3%25A9&pin=1234" := by
    apply eq_ok_of_toOption
    decide +kernel
  refine ⟨_, _, rfl, by decide, by decide, by decide, Text.isScalar_ofString _,
    by decide, hfull, by decide +kernel, by decide +kernel⟩

end Web

end DevicePairing
