/-
The devices that wait, over whole runs.

A request to the pairing endpoint asks for one thing: that the entry of a
device be replaced, by one with a PIN or by none (`Asks`). Whether it asks
for anything is a matter of its query alone, and whether it gets it one
of the registry: the device has to be there. Everything else is refused,
with nothing changed (`Answered`).

So every request that is granted takes one entry and puts at most one in
its place. That is enough for what is known of the registry in the end:
the devices stay in the order in which they were registered, each is
there at most once, and every PIN is one that was asked to be taken.
-/
import DevicePairing.Proofs.Exchange
import DevicePairing.Proofs.Registry
import DevicePairing.Proofs.Url.Inset
import DevicePairing.Proofs.Web.Events
import DevicePairing.Web.Site

namespace DevicePairing.Web

-- =============================================================== requests

/-- Decimal digits, at least one. -/
def IsNumeric (t : Text) : Prop :=
  t ≠ [] ∧ ∀ p ∈ t, p ∈ Text.ofString "0123456789"

namespace Incoming

/-- Whether a request is one to the pairing endpoint. -/
def IsPairing (r : Incoming) : Prop :=
  (r.method = "GET" ∨ r.method = "HEAD")
    ∧ (r.path = "/submit-pin" ∨ r.path = "/unpair")

/-- Whether this is the first value of a name in the query of a request. -/
def IsFirst (r : Incoming) (name : String) (v : Text) : Prop :=
  ∃ before after, r.parameters = before ++ (Text.ofString name, v) :: after
    ∧ ∀ p ∈ before, p.1 ≠ Text.ofString name

/-- What a request asks for: the device whose entry is meant, and what is
to stand in the place of that entry. -/
inductive Asks (r : Incoming) : Text → List (Json × Option Text) → Prop
  | submit {id pin : Text} (hpath : r.path = "/submit-pin")
    (hid : r.IsFirst "uniqueid" id) (hpin : r.IsFirst "pin" pin)
    (hdigits : IsNumeric pin) : Asks r id [(.str id, some pin)]
  | unpair {id : Text} (hpath : r.path = "/unpair")
    (hid : r.IsFirst "uniqueid" id) : Asks r id []

end Incoming

/-- How a request is answered with these devices waiting, and which wait
after it. -/
structure Answered (w : Waiting) (r : Incoming) (status : Nat) (w' : Waiting) :
    Prop where
  granted : status = 200 ↔ ∃ id entry, r.Asks id entry ∧ .str id ∈ w.ids
  refused : status ≠ 200 → status = 400 ∧ w' = w
  changed : status = 200 → ∃ id entry, r.Asks id entry
    ∧ ∃ before old after, w.clients = before ++ (.str id, old) :: after
      ∧ w'.clients = before ++ entry ++ after
      ∧ ∀ other ∈ before ++ after, other.1 ≠ .str id

-- ================================================================ queries

variable {r : Incoming} {w : Waiting}

theorem firstValue?_eq_some {name : String} {v : Text} :
    Url.firstValue? name r.parameters = some v ↔ r.IsFirst name v := by
  rw [Url.firstValue?, Option.map_eq_some_iff]
  constructor
  · rintro ⟨⟨name', v'⟩, hfind, rfl⟩
    obtain ⟨hname, before, after, hparameters, hbefore⟩ :=
      List.find?_eq_some_iff_append.mp hfind
    obtain rfl : name' = Text.ofString name := by simpa using hname
    refine ⟨before, after, hparameters, ?_⟩
    intro p hp
    simpa using hbefore p hp
  · rintro ⟨before, after, hparameters, hbefore⟩
    refine ⟨(Text.ofString name, v), ?_, rfl⟩
    apply List.find?_eq_some_iff_append.mpr
    refine ⟨by simp, before, after, hparameters, ?_⟩
    intro p hp
    simpa using hbefore p hp

theorem isPin_iff {t : Text} : isPin t = true ↔ IsNumeric t := by
  have hdigit :
      ∀ d : Digit, CodePoint.char d.char ∈ Text.ofString "0123456789" := by
    decide
  have hten : ∀ p ∈ Text.ofString "0123456789", p.isDigit = true := by decide
  rw [isPin, IsNumeric, Bool.and_eq_true, Bool.not_eq_true',
    List.isEmpty_eq_false_iff, List.all_eq_true]
  apply and_congr_right'
  constructor
  · intro h p hp
    obtain ⟨d, rfl⟩ := CodePoint.exists_digit (h p hp)
    exact hdigit d
  · intro h p hp
    exact hten p (h p hp)

theorem asks_submit (hpath : r.path = "/submit-pin") {id : Text}
    {entry : List (Json × Option Text)} :
    r.Asks id entry ↔ ∃ pin, Url.firstValue? "uniqueid" r.parameters = some id
      ∧ Url.firstValue? "pin" r.parameters = some pin ∧ isPin pin = true
      ∧ entry = [(.str id, some pin)] := by
  simp only [firstValue?_eq_some, isPin_iff]
  constructor
  · intro h
    cases h with
    | submit _ hid hpin hdigits => exact ⟨_, hid, hpin, hdigits, rfl⟩
    | unpair hpath' _ =>
        rw [hpath] at hpath'
        exact absurd hpath' (by decide)
  · rintro ⟨pin, hid, hpin, hdigits, rfl⟩
    exact .submit hpath hid hpin hdigits

theorem asks_unpair (hpath : r.path = "/unpair") {id : Text}
    {entry : List (Json × Option Text)} :
    r.Asks id entry
      ↔ Url.firstValue? "uniqueid" r.parameters = some id ∧ entry = [] := by
  rw [firstValue?_eq_some]
  constructor
  · intro h
    cases h with
    | submit hpath' _ _ _ =>
        rw [hpath] at hpath'
        exact absurd hpath' (by decide)
    | unpair _ hid => exact ⟨hid, rfl⟩
  · rintro ⟨hid, rfl⟩
    exact .unpair hpath hid

-- ================================================================ answers

/-- What is not asked for, or only for a device that does not wait, is
refused. -/
theorem answered_refused
    (h : ∀ id entry, r.Asks id entry → Json.str id ∉ w.ids) :
    Answered w r 400 w where
  granted := by
    constructor
    · intro hstatus
      cases hstatus
    · rintro ⟨id, entry, hasks, hid⟩
      exact absurd hid (h id entry hasks)
  refused _ := ⟨rfl, rfl⟩
  changed hstatus := by cases hstatus

/-- What is asked for one device is granted if the device waits and its
entry makes way for the other, and refused if it does not wait. -/
theorem answered_call {id : Text} {entry : List (Json × Option Text)}
    {x : Bool × Waiting} (hdistinct : Registry.IsDistinct w.ids)
    (hasks : ∀ id' entry', r.Asks id' entry' ↔ id' = id ∧ entry' = entry)
    (hunknown : w.isKnown (.str id) = false → x = (false, w))
    (hknown : ∀ before old after,
      w.clients = before ++ (.str id, old) :: after →
      (∀ other ∈ before ++ after, (other.1 == Json.str id) = false) →
        ∃ w', x = (true, w') ∧ w'.clients = before ++ entry ++ after) :
    Answered w r (if x.1 then 200 else 400) x.2 := by
  have hid := Json.isExact_str id
  by_cases h : Json.str id ∈ w.ids
  · -- the only entry for the device is the one that makes way
    obtain ⟨before, old, after, hclients, hother⟩ := hid.split hdistinct h
    obtain ⟨w', rfl, hclients'⟩ := hknown before old after hclients hother
    have hself : r.Asks id entry := (hasks id entry).mpr ⟨rfl, rfl⟩
    refine ⟨iff_of_true rfl ⟨id, entry, hself, h⟩,
      fun hne => absurd rfl hne, ?_⟩
    intro _
    refine ⟨id, entry, hself, before, old, after, hclients, hclients', ?_⟩
    intro other hmem hsame
    have hfalse := hother other hmem
    rw [hsame, hid.refl] at hfalse
    cases hfalse
  · rw [hunknown (Bool.eq_false_iff.mpr (mt hid.isKnown_iff.mp h))]
    apply answered_refused
    intro id' entry' hasks'
    rw [((hasks id' entry').mp hasks').1]
    exact h

/-- A PIN of digits is received if the device waits. -/
theorem answered_receivePin {id pin : Text}
    (hdistinct : Registry.IsDistinct w.ids)
    (hpath : r.path = "/submit-pin")
    (hid : Url.firstValue? "uniqueid" r.parameters = some id)
    (hpin : Url.firstValue? "pin" r.parameters = some pin)
    (hdigits : isPin pin = true) :
    Answered w r (if (w.receivePin (.str id) (some pin)).1 then 200 else 400)
      (w.receivePin (.str id) (some pin)).2 := by
  apply answered_call hdistinct
  · intro id' entry'
    rw [asks_submit hpath, hid, hpin]
    constructor
    · rintro ⟨pin', hid', hpin', -, rfl⟩
      cases hid'
      cases hpin'
      exact ⟨rfl, rfl⟩
    · rintro ⟨rfl, rfl⟩
      exact ⟨pin, rfl, rfl, hdigits, rfl⟩
  · intro hunknown
    rw [Registry.receivePin, hunknown]
    rfl
  · intro before old after hclients hother
    rw [List.append_assoc]
    exact (Json.isExact_str id).receivePin hclients hother (some pin)

/-- A PIN is taken as the request asks for it. -/
theorem answered_takePin (hdistinct : Registry.IsDistinct w.ids)
    (hpath : r.path = "/submit-pin") :
    Answered w r (takePin w r.parameters).1.value.status
      (takePin w r.parameters).2 := by
  have hnone (h : ∀ id pin, Url.firstValue? "uniqueid" r.parameters = some id →
      Url.firstValue? "pin" r.parameters = some pin → isPin pin = false) :
      Answered w r 400 w := by
    apply answered_refused
    intro id entry hasks
    obtain ⟨pin, hid, hpin, hdigits, -⟩ := (asks_submit hpath).mp hasks
    rw [h id pin hid hpin] at hdigits
    cases hdigits
  unfold takePin
  cases hid : Url.firstValue? "uniqueid" r.parameters with
  | none => exact hnone (by simp [hid])
  | some id =>
      cases hpin : Url.firstValue? "pin" r.parameters with
      | none => exact hnone (by simp [hpin])
      | some pin =>
          by_cases hdigits : isPin pin = true
          · simp only [hdigits, Bool.not_true, Bool.false_eq_true, if_false]
            have hcall := answered_receivePin hdistinct hpath hid hpin hdigits
            rcases hx : w.receivePin (.str id) (some pin) with ⟨known, w'⟩
            rw [hx] at hcall
            cases known with
            | false => exact hcall
            | true => exact hcall
          · rw [Bool.not_eq_true] at hdigits
            simp only [hdigits, Bool.not_false, if_true]
            apply hnone
            intro id' pin' hid' hpin'
            rw [hpin] at hpin'
            cases hpin'
            exact hdigits

/-- So is a device forgotten. -/
theorem answered_forget (hdistinct : Registry.IsDistinct w.ids)
    (hpath : r.path = "/unpair") :
    Answered w r (forget w r.parameters).1.value.status
      (forget w r.parameters).2 := by
  unfold forget
  cases hid : Url.firstValue? "uniqueid" r.parameters with
  | none =>
      apply answered_refused
      intro id entry hasks
      obtain ⟨hid', -⟩ := (asks_unpair hpath).mp hasks
      rw [hid] at hid'
      cases hid'
  | some id =>
      have hcall : Answered w r (if (w.unpair (.str id)).1 then 200 else 400)
          (w.unpair (.str id)).2 := by
        apply answered_call hdistinct
        · intro id' entry'
          rw [asks_unpair hpath, hid, Option.some.injEq, eq_comm]
        · intro hunknown
          rw [Registry.unpair, hunknown]
          rfl
        · intro before old after hclients hother
          rw [List.append_nil]
          exact (Json.isExact_str id).unpair hclients hother
      dsimp only
      rcases hx : w.unpair (.str id) with ⟨known, w'⟩
      rw [hx] at hcall
      cases known with
      | false => exact hcall
      | true => exact hcall

/-- The two paths of the endpoint lead to it. -/
theorem Incoming.IsPairing.target (hr : r.IsPairing) :
    (r.path = "/submit-pin" ∧ r.target true = .route .submitPin)
      ∨ (r.path = "/unpair" ∧ r.target true = .route .unpair) := by
  have hsubmit : ∀ method ∈ [Text.ofString "GET", Text.ofString "HEAD"],
      (⟨method, "/submit-pin", [], []⟩ : Incoming).target true
        = .route .submitPin := by decide +kernel
  have hunpair : ∀ method ∈ [Text.ofString "GET", Text.ofString "HEAD"],
      (⟨method, "/unpair", [], []⟩ : Incoming).target true
        = .route .unpair := by decide +kernel
  obtain ⟨method, path, query, body⟩ := r
  obtain ⟨hmethod, hpath⟩ := hr
  have hmem : method ∈ [Text.ofString "GET", Text.ofString "HEAD"] :=
    List.mem_cons.mpr (hmethod.imp_right List.mem_singleton.mpr)
  rcases hpath with rfl | rfl
  · exact .inl ⟨rfl, hsubmit method hmem⟩
  · exact .inr ⟨rfl, hunpair method hmem⟩

/-- Where there is no endpoint, they lead nowhere. -/
theorem Incoming.IsPairing.target_nowhere (hr : r.IsPairing) :
    r.target false = .nowhere := by
  have hnowhere : ∀ method ∈ [Text.ofString "GET", Text.ofString "HEAD"],
      ∀ path ∈ [Text.ofString "/submit-pin", Text.ofString "/unpair"],
        (⟨method, path, [], []⟩ : Incoming).target false = .nowhere := by
    decide +kernel
  obtain ⟨method, path, query, body⟩ := r
  obtain ⟨hmethod, hpath⟩ := hr
  exact hnowhere method
    (List.mem_cons.mpr (hmethod.imp_right List.mem_singleton.mpr)) path
    (List.mem_cons.mpr (hpath.imp_right List.mem_singleton.mpr))

/-- Without its body, a response has its status. -/
theorem exists_bodiless (r : Incoming) (response : Response) :
    ∃ response', (if r.wantsNoBody then
        (Except.ok (ε := Fault) response).map Response.withoutBody
      else .ok response) = .ok response'
      ∧ response'.status = response.status := by
  split
  · exact ⟨_, rfl, rfl⟩
  · exact ⟨_, rfl, rfl⟩

/-- Every request to the endpoint is answered, and changes nothing but the
devices that wait. -/
theorem answered_start {s : Site} (hwaiting : s.waiting = some w)
    (hdistinct : Registry.IsDistinct w.ids) (hr : r.IsPairing) (now : Int) :
    ∃ response log w', s.start now r
        = (⟨.done (.ok response), log⟩, { s with waiting := some w' })
      ∧ Answered w r response.status w' := by
  unfold Site.start
  rw [hwaiting]
  rcases hr.target with ⟨hpath, htarget⟩ | ⟨hpath, htarget⟩
  · obtain ⟨response, hresponse, hstatus⟩ :=
      exists_bodiless r (takePin w r.parameters).1.value
    refine ⟨response, (takePin w r.parameters).1.log,
      (takePin w r.parameters).2,
      ?_, ?_⟩
    · simp only [Option.isSome_some, htarget, Site.serve, hwaiting, Site.shield,
        hresponse]
    · rw [hstatus]
      exact answered_takePin hdistinct hpath
  · obtain ⟨response, hresponse, hstatus⟩ :=
      exists_bodiless r (forget w r.parameters).1.value
    refine ⟨response, (forget w r.parameters).1.log, (forget w r.parameters).2,
      ?_, ?_⟩
    · simp only [Option.isSome_some, htarget, Site.serve, hwaiting, Site.shield,
        hresponse]
    · rw [hstatus]
      exact answered_forget hdistinct hpath

theorem status_takePin (w : Waiting) (parameters : List (Text × Text)) :
    (takePin w parameters).1.value.status = 200
      ∨ (takePin w parameters).1.value.status = 400 := by
  unfold takePin
  split
  · exact .inr rfl
  split
  · exact .inr rfl
  split
  · exact .inr rfl
  split
  · exact .inr rfl
  · exact .inl rfl

theorem status_forget (w : Waiting) (parameters : List (Text × Text)) :
    (forget w parameters).1.value.status = 200
      ∨ (forget w parameters).1.value.status = 400 := by
  unfold forget
  split
  · exact .inr rfl
  split
  · exact .inr rfl
  · exact .inl rfl

/-- A request to the endpoint finds it exactly if there is a registry. -/
theorem start_pairing (hr : r.IsPairing) (now : Int) (s : Site) :
    ∃ response log s', s.start now r = (⟨.done (.ok response), log⟩, s')
      ∧ (response.status = 404 ↔ s.waiting.isSome = false) := by
  unfold Site.start
  cases hwaiting : s.waiting with
  | none =>
      rw [Option.isSome_none, hr.target_nowhere]
      exact ⟨_, _, _, rfl, iff_of_true rfl rfl⟩
  | some w =>
      rw [Option.isSome_some]
      have hfound {response response' : Response}
          (hsame : response'.status = response.status)
          (hstatus : response.status = 200 ∨ response.status = 400) :
          response'.status = 404 ↔ true = false := by
        rw [hsame]
        refine iff_of_false (fun h => ?_) Bool.noConfusion
        rw [h] at hstatus
        exact absurd hstatus (by decide)
      rcases hr.target with ⟨-, htarget⟩ | ⟨-, htarget⟩
      · obtain ⟨response, hresponse, hsame⟩ :=
          exists_bodiless r (takePin w r.parameters).1.value
        refine ⟨response, (takePin w r.parameters).1.log,
          { s with waiting := some (takePin w r.parameters).2 }, ?_,
          hfound hsame (status_takePin w r.parameters)⟩
        simp only [htarget, Site.serve, hwaiting, Site.shield, hresponse]
      · obtain ⟨response, hresponse, hsame⟩ :=
          exists_bodiless r (forget w r.parameters).1.value
        refine ⟨response, (forget w r.parameters).1.log,
          { s with waiting := some (forget w r.parameters).2 }, ?_,
          hfound hsame (status_forget w r.parameters)⟩
        simp only [htarget, Site.serve, hwaiting, Site.shield, hresponse]

/-- So over a whole run, in every state that the server comes to. -/
theorem pairing_upheld (pairing : Bool) :
    Site.service.Upholds (fun s : Site => s.waiting.isSome = pairing)
      fun r result => r.IsPairing → ∃ response : Response, result = .ok response
        ∧ (response.status = 404 ↔ pairing = false) where
  start := fun now r s hs => (Site.start_frame now r s).2.trans hs
  finish := fun now flight ending s hs =>
    (congrArg Option.isSome (Site.finish_frame s now flight ending).2).trans hs
  done := by
    rintro now r s result log s' rfl hstart hr
    obtain ⟨response, log', t, hanswered, hstatus⟩ := start_pairing hr now s
    rw [Site.service_start, hanswered] at hstart
    cases hstart
    exact ⟨response, rfl, hstatus⟩
  waited := by
    intro now r s request flight log s' hs hstart now' ending s'' _ hr
    obtain ⟨response, log', t, hanswered, -⟩ := start_pairing hr now s
    rw [Site.service_start, hanswered] at hstart
    cases hstart

-- ================================================================ waiting

/-- Devices that wait with no PIN yet. -/
def awaiting (ids : List Json) : Waiting := ⟨ids.map fun id => (id, none)⟩

theorem ids_awaiting (ids : List Json) : (awaiting ids).ids = ids := by
  rw [Registry.ids, awaiting, List.map_map]
  exact List.map_id ids

/-- Registering a device that waits already changes nothing as long as it
has no PIN. -/
theorem register_awaiting (ids : List Json) (id : Json) :
    (awaiting ids).register id
      = awaiting (if ids.any (· == id) then ids else ids ++ [id]) := by
  have hknown : (awaiting ids).isKnown id = ids.any (· == id) := by
    rw [Registry.isKnown_eq, ids_awaiting]
  by_cases h : ids.any (· == id) = true
  · rw [if_pos h, Registry.register, Registry.put_of_isKnown (hknown.trans h),
      awaiting, List.map_map]
    apply congrArg Registry.mk
    apply List.map_congr_left
    intro k _
    show (k, if k == id then none else none) = (k, none)
    rw [ite_self]
  · rw [if_neg h, Registry.register, Registry.put, hknown, if_neg h, awaiting,
      awaiting, List.map_append]
    rfl

/-- Devices that are registered one after the other wait in the order in
which each was registered first. -/
theorem awaitAll_awaiting
    {ids : List Json} (hids : ∀ id ∈ ids, id.key? = .ok id)
    (known : List Json) :
    (awaitAll (awaiting known) ids).value
      = .ok (awaiting (known
        ++ (ids.filter fun id => !known.any (· == id)).eraseDups)) := by
  induction ids generalizing known with
  | nil =>
      rw [awaitAll, List.filter_nil, List.eraseDups_nil, List.append_nil]
  | cons id ids ih =>
      obtain ⟨hid, hids⟩ := List.forall_mem_cons.mp hids
      rw [awaitAll, hid]
      show (awaitAll ((awaiting known).register id) ids).value = _
      rw [register_awaiting, ih hids]
      by_cases h : known.any (· == id) = true
      · rw [if_pos h, List.filter_cons_of_neg]
        simp [h]
      · rw [if_neg h, List.filter_cons_of_pos, List.eraseDups_cons,
          List.filter_filter, List.append_assoc, List.singleton_append]
        · -- a later one is kept if it is neither known nor this one again
          have hsame : (fun x => !(known ++ [id]).any (· == x))
              = fun x => !(x == id) && !known.any (· == x) := by
            funext x
            have hcomm : (id == x) = (x == id) := Json.sameKey_comm id x
            rw [List.any_append, List.any_cons, List.any_nil,
              Bool.or_false, hcomm, Bool.not_or, Bool.and_comm]
          rw [hsame]
        · simp [h]

/-- To begin with, each device waits once and without a PIN. -/
theorem awaitAll_eq (ids : List Json) (hids : ∀ id ∈ ids, id.key? = .ok id) :
    (awaitAll {} ids).value = .ok (awaiting ids.eraseDups) := by
  have hall := awaitAll_awaiting hids []
  have hfilter : ids.filter (fun id => !([] : List Json).any (· == id)) = ids :=
    List.filter_eq_self.mpr fun _ _ => rfl
  rw [hfilter, List.nil_append] at hall
  exact hall

-- =================================================================== runs

/-- What holds of the devices that wait, whatever was requested: every PIN
consists of digits, and the devices are some of these in this order. -/
structure Kept (ids : List Json) (w : Waiting) : Prop where
  pins : ∀ entry ∈ w.clients, ∀ pin, entry.2 = some pin → IsNumeric pin
  order : w.ids.Sublist ids

variable {ids : List Json}

theorem kept_awaiting (ids : List Json) : Kept ids (awaiting ids) where
  pins := by
    intro entry hentry pin hpin
    obtain ⟨id, -, rfl⟩ := List.mem_map.mp hentry
    cases hpin
  order := by simp only [ids_awaiting, List.Sublist.refl]

/-- A request keeps it. -/
theorem Kept.answered {w' : Waiting} {status : Nat} (h : Kept ids w)
    (hanswered : Answered w r status w') : Kept ids w' := by
  by_cases hstatus : status = 200
  · obtain ⟨id, entry, hasks, before, old, after, hclients, hclients', -⟩ :=
      hanswered.changed hstatus
    obtain ⟨hpins, horder⟩ := h
    rw [hclients, List.forall_mem_append, List.forall_mem_cons] at hpins
    rw [Registry.ids, hclients, List.map_append, List.map_cons] at horder
    obtain ⟨hbefore, -, hafter⟩ := hpins
    cases hasks with
    | submit _ _ _ hdigits =>
        rw [List.append_assoc, List.singleton_append] at hclients'
        constructor
        · rw [hclients', List.forall_mem_append, List.forall_mem_cons]
          refine ⟨hbefore, ?_, hafter⟩
          intro pin hpin
          cases hpin
          exact hdigits
        · rw [Registry.ids, hclients', List.map_append, List.map_cons]
          exact horder
    | unpair _ _ =>
        rw [List.append_nil] at hclients'
        constructor
        · rw [hclients', List.forall_mem_append]
          exact ⟨hbefore, hafter⟩
        · rw [Registry.ids, hclients', List.map_append]
          exact ((List.sublist_cons_self _ _).append_left _).trans horder
  · rw [(hanswered.refused hstatus).2]
    exact h

/-- So does a run of requests. -/
theorem Kept.runSteps {s : Site} {steps : List (Step Incoming)}
    (hdistinct : Registry.IsDistinct ids) (h : Kept ids w)
    (hwaiting : s.waiting = some w)
    (hsteps : ∀ step ∈ steps, step.action.IsPairing) (now : Int) :
    ∃ w', (Site.service.runSteps now s steps).2.2
      = { s with waiting := some w' }
      ∧ Kept ids w' := by
  induction steps generalizing s w now with
  | nil =>
      refine ⟨w, ?_, h⟩
      rw [← hwaiting]
      rfl
  | cons step steps ih =>
      obtain ⟨hstep, hrest⟩ := List.forall_mem_cons.mp hsteps
      obtain ⟨action, delay, during, ending⟩ := step
      obtain ⟨response, log, w', hstart, hanswered⟩ :=
        answered_start hwaiting (hdistinct.sublist h.order) hstep now
      rw [Service.runSteps_cons,
        Service.runStep_done (s := Site.service) hstart delay during ending]
      exact ih (h.answered hanswered) rfl hrest now

/-- Let devices be registered, and let any requests to the pairing endpoint
be served. Then the devices that wait are some of those registered, in the
order of their first registration, and every PIN that was received consists
of digits. The next request is answered by 200 exactly if it asks for
something, for a device that waits; then one entry makes way for the other,
and nothing else has changed. Otherwise it is answered by 400, and nothing
has changed. -/
theorem waiting_over_runs
    (ids : List Json) (hids : ∀ id ∈ ids, id.key? = .ok id) :
    ∃ w, (awaitAll {} ids).value = .ok w
      ∧ w.clients = ids.eraseDups.map (fun id => (id, none))
      ∧ ∀ (s : Site) (now : Int) (steps : List (Step Incoming)),
        s.waiting = some w → (∀ step ∈ steps, step.action.IsPairing) →
        ∃ v, (Site.service.runSteps now s steps).2.2
          = { s with waiting := some v }
          ∧ (∀ entry ∈ v.clients, ∀ pin, entry.2 = some pin → IsNumeric pin)
          ∧ v.ids.Sublist ids.eraseDups
          ∧ ∀ (now' : Int) (step : Step Incoming), step.action.IsPairing →
            ∃ response v',
              let served :=
                Site.service.runStep now' { s with waiting := some v } step
              served.1.result = .ok response
                ∧ served.2.2 = { s with waiting := some v' }
                ∧ Answered v step.action response.status v' := by
  refine ⟨awaiting ids.eraseDups, awaitAll_eq ids hids, rfl, ?_⟩
  intro s now steps hwaiting hsteps
  have hdistinct := Registry.isDistinct_eraseDups ids
  obtain ⟨v, hrun, hkept⟩ :=
    (kept_awaiting ids.eraseDups).runSteps hdistinct hwaiting hsteps now
  refine ⟨v, hrun, hkept.pins, hkept.order, ?_⟩
  rintro now' ⟨action, delay, during, ending⟩ hstep
  obtain ⟨response, log, v', hstart, hanswered⟩ :=
    answered_start (s := { s with waiting := some v }) rfl
      (hdistinct.sublist hkept.order) hstep now'
  refine ⟨response, v', ?_⟩
  rw [Service.runStep_done (s := Site.service) hstart delay during ending]
  exact ⟨rfl, rfl, hanswered⟩

/-- A device that is registered twice waits once, and its PIN is read from
among repeated names, escapes and empty pieces. -/
theorem waiting_over_two_requests :
    let ids : List Json := [.str "B", .str "A", .str "B"]
    let pad := Pad.new (.str "A") ⟨"http://localhost:5000", .int 5, {}⟩ 4
    let site (w : Waiting) : Site := { pad, waiting := some w, clock := .int 0 }
    let submitting : Step Incoming :=
      ⟨⟨"HEAD", "/submit-pin", "&uniqueid=%41&&pin=0%37&pin=x", []⟩, 0, [],
        .status 200⟩
    let unpairing : Step Incoming :=
      ⟨⟨"GET", "/unpair", "pin&uniqueid=B", []⟩, 0, [], .status 200⟩
    ∃ w v v', (awaitAll {} ids).value = .ok w
      ∧ (Site.service.runSteps 0 (site w) [submitting]).2.2 = site v
      ∧ v.clients.map (fun entry => (entry.1.text, entry.2))
        = [(Text.ofString "B", none),
          (Text.ofString "A", some (Text.ofString "07"))]
      ∧ Answered v unpairing.action 200 v' := by
  intro ids pad site submitting unpairing
  have hids : ∀ id ∈ ids, id.key? = .ok id := by
    intro id hid
    simp only [ids, List.mem_cons, List.not_mem_nil, or_false] at hid
    rcases hid with rfl | rfl | rfl <;> rfl
  have hsubmitting : ∀ step ∈ [submitting], step.action.IsPairing := by
    intro step hstep
    rw [List.mem_singleton.mp hstep]
    exact ⟨.inr rfl, .inl rfl⟩
  have hunpairing : unpairing.action.IsPairing := ⟨.inl rfl, .inr rfl⟩
  obtain ⟨w, hw, hclients, hruns⟩ := waiting_over_runs ids hids
  obtain rfl : w = awaiting ids.eraseDups := congrArg Registry.mk hclients
  have hv : (Site.service.runSteps 0 (site (awaiting ids.eraseDups))
        [submitting]).2.2.waiting.map (fun v =>
          v.clients.map fun entry => (entry.1.text, entry.2))
      = some [(Text.ofString "B", none),
        (Text.ofString "A", some (Text.ofString "07"))] := by decide +kernel
  have hstatus : (Site.service.runStep 0 (Site.service.runSteps 0
      (site (awaiting ids.eraseDups)) [submitting]).2.2
      unpairing).1.result.toOption.map Response.status = some 200 := by
    decide +kernel
  obtain ⟨v, hrun, -, -, hnext⟩ :=
    hruns (site (awaiting ids.eraseDups)) 0 [submitting] rfl hsubmitting
  obtain ⟨response, v', hresponse, -, hanswered⟩ := hnext 0 unpairing hunpairing
  rw [hrun] at hv hstatus
  rw [hresponse] at hstatus
  obtain hstatus : response.status = 200 := Option.some.inj hstatus
  rw [hstatus] at hanswered
  exact ⟨_, v, v', hw, hrun, Option.some.inj hv, hanswered⟩

end DevicePairing.Web
