/-
The program from its command line to its end.

What a command line can come to is settled before anything is touched: it
may be refused, or call for help, or ask for a program that cannot be made
(`Lacks`, `AsksForTooFew`), and then nothing is served and the store is
what it was. The journal is opened last, so only a journal that cannot be
opened comes between the options and serving.

What is served is a server whose registry has the devices as they were
registered first, and whatever way serving ends: the journal is closed, and
what it holds is what the run has handed over (`Closed`). That needs
nothing about the way in which serving has ended.
-/
import DevicePairing.Launch.Program
import DevicePairing.Proofs.Launch.Given
import DevicePairing.Proofs.Web.HandedOver
import DevicePairing.Proofs.Web.Waiting

namespace DevicePairing.Launch

open Journal (Entry HasDigits FewDigits attemptFor attemptsFor filesIn linesAt
  linesPath tablesIn)
open Web (Incoming Site Waiting awaiting padSteps returned?)

-- ============================================================== options

/-- The devices among the values of an option that may be repeated. -/
def Given.value? {α : Type} : Given α → Option α
  | .value a => some a
  | .nothing => none

namespace Options

/-- The devices that are registered, or the one of the pad. -/
def devices (o : Options) (uniqueId : Given Text) : List (Given Text) :=
  if o.register.isEmpty then [uniqueId] else o.register

/-- What is needed and was left out. -/
def Lacks (o : Options) (uniqueId : Given Text) : Prop :=
  o.pairingUrl = .nothing ∨ o.cells = .nothing
    ∨ (o.servePairing = true ∧ .nothing ∈ o.devices uniqueId)
    ∨ o.journalOut = some .nothing

/-- Whether there are to be fewer cells than one. -/
def AsksForTooFew (o : Options) : Prop := ∃ n, o.cells = .value n ∧ n < 1

/-- The registry that is asked for: each device once, in the order in which the
devices were registered first, and none has a PIN. -/
def registry (o : Options) (uniqueId : Given Text) : Option Waiting :=
  if o.servePairing then
    some (awaiting
      (((o.devices uniqueId).filterMap Given.value?).eraseDups.map .str))
  else none

end Options

variable {o : Options} {uniqueId : Given Text} {store : Store}
  {environment : Environment} {around : Surroundings}

-- ============================================================ preparing

/-- A pad can be made if there are an address and at least one cell. -/
theorem makePad_eq_ok {client : Client} {pad : Pad}
    (h : makePad o uniqueId environment = .ok (client, pad)) :
    o.pairingUrl ≠ .nothing
      ∧ ∃ n, o.cells = .value n ∧ 1 ≤ n
        ∧ pad = Pad.new (uniqueId.setting .str) client n.toNat := by
  obtain ⟨c, hclient, h⟩ := bind_eq_ok.mp h
  obtain ⟨p, hpad, h⟩ := bind_eq_ok.mp h
  cases h
  constructor
  · intro hurl
    rw [hurl] at hclient
    cases hclient
  · obtain ⟨m, hm, rfl⟩ := map_eq_ok.mp hpad
    cases hcells : o.cells with
    | nothing =>
        rw [hcells] at hm
        cases hm
    | value n =>
        rw [hcells] at hm
        change (if n < 1 then _ else Except.ok n.toNat) = .ok m at hm
        split at hm
        · cases hm
        · cases hm
          exact ⟨n, rfl, by omega, rfl⟩

/-- Otherwise it cannot. -/
theorem makePad_eq_error {f : Fault}
    (h : makePad o uniqueId environment = .error f) :
    o.pairingUrl = .nothing ∨ o.cells = .nothing
      ∨ o.AsksForTooFew ∧ f = ⟨.value, "cell_count must be >= 1"⟩ := by
  unfold makePad at h
  cases hurl : o.pairingUrl with
  | nothing => exact .inl rfl
  | value url =>
      cases hcells : o.cells with
      | nothing => exact .inr (.inl rfl)
      | value n =>
          refine .inr (.inr ?_)
          rw [hurl, hcells] at h
          change (do
            let pad ← (if n < 1 then _ else Except.ok n.toNat).map _
            Except.ok (_, pad)) = _ at h
          split at h
          · cases h
            exact ⟨⟨n, hcells, ‹_›⟩, rfl⟩
          · cases h

/-- Devices wait unless one of them cannot be a key. -/
theorem awaitAll_eq_error {ids : List Json} {id : Json} (hid : id ∈ ids)
    {f : Fault} (hkey : id.key? = .error f) (w : Waiting) :
    ∃ f, (Web.awaitAll w ids).value = .error f := by
  induction ids generalizing w with
  | nil => cases hid
  | cons first ids ih =>
      unfold Web.awaitAll
      cases hfirst : first.key? with
      | error f => exact ⟨f, rfl⟩
      | ok k =>
          rcases List.mem_cons.mp hid with rfl | hid
          · rw [hkey] at hfirst
            cases hfirst
          · exact ih hid _

/-- Keeping texts once is keeping the keys once that they are. -/
theorem eraseDups_map_str : ∀ us : List Text,
    (us.map Json.str).eraseDups = us.eraseDups.map Json.str
  | [] => rfl
  | u :: us => by
      have hother : (fun v => !(v == Json.str u)) ∘ Json.str
          = fun v => !(v == u) := by
        funext v
        have hsame : (Json.str v == Json.str u) = (v == u) :=
          Bool.eq_iff_iff.mpr (Json.sameKey_str.trans (by simp))
        exact congrArg not hsame
      rw [List.map_cons, List.eraseDups_cons, List.eraseDups_cons,
        List.filter_map, hother, eraseDups_map_str, List.map_cons]
termination_by us => us.length
decreasing_by exact Nat.lt_succ_of_le (List.length_filter_le _ _)

/-- The devices that are awaited are the keys for their names. -/
theorem awaited_eq (h : ∀ d ∈ o.devices uniqueId, d ≠ .nothing) :
    awaited o uniqueId
      = ((o.devices uniqueId).filterMap Given.value?).map Json.str := by
  show (o.devices uniqueId).map (Given.setting .str) = _
  generalize o.devices uniqueId = ds at h
  induction ds with
  | nil => rfl
  | cons d ds ih =>
      obtain ⟨hd, hds⟩ := List.forall_mem_cons.mp h
      cases d with
      | nothing => exact absurd rfl hd
      | value u => exact congrArg (Json.str u :: ·) (ih hds)

/-- The registry that is asked for is made. -/
theorem makeRegistry_eq
    (h : ¬(o.servePairing = true ∧ .nothing ∈ o.devices uniqueId)) :
    ∃ log, makeRegistry o uniqueId = ⟨.ok (o.registry uniqueId), log⟩ := by
  unfold makeRegistry Options.registry
  by_cases hserve : o.servePairing = true
  · rw [if_pos hserve, if_pos hserve]
    have hnamed : ∀ d ∈ o.devices uniqueId, d ≠ .nothing :=
      fun d hd heq => h ⟨hserve, heq ▸ hd⟩
    have hawaited := awaited_eq hnamed
    have hkeys : ∀ id ∈ awaited o uniqueId, id.key? = .ok id := by
      rw [hawaited]
      intro id hid
      obtain ⟨u, -, rfl⟩ := List.mem_map.mp hid
      rfl
    have hall := Web.awaitAll_eq _ hkeys
    rw [hawaited, eraseDups_map_str] at hall
    rcases hw : Web.awaitAll {} (awaited o uniqueId) with ⟨w, log⟩
    rw [← hawaited, hw] at hall
    cases hall
    exact ⟨log, rfl⟩
  · rw [if_neg hserve, if_neg hserve]
    exact ⟨[], rfl⟩

theorem makeRegistry_eq_error
    (h : o.servePairing = true ∧ .nothing ∈ o.devices uniqueId) :
    ∃ f log, makeRegistry o uniqueId = ⟨.error f, log⟩ := by
  obtain ⟨hserve, hnothing⟩ := h
  unfold makeRegistry
  rw [if_pos hserve]
  have hmem : Json.arr [] ∈ awaited o uniqueId :=
    List.mem_map.mpr ⟨.nothing, hnothing, rfl⟩
  obtain ⟨f, hf⟩ := awaitAll_eq_error hmem rfl {}
  rcases hw : Web.awaitAll {} (awaited o uniqueId) with ⟨w, log⟩
  rw [hw] at hf
  cases hf
  exact ⟨f, log, rfl⟩

theorem not_asksForTooFew {n : Int} (hcells : o.cells = .value n)
    (hpositive : 1 ≤ n) : ¬o.AsksForTooFew := by
  rintro ⟨m, hm, hfew⟩
  rw [hcells] at hm
  cases hm
  omega

/-- Nothing is left out if the pad and the registry can be made, and there is a
directory for the journal if there is to be one. -/
theorem lacks_nothing {n : Int} (hurl : o.pairingUrl ≠ .nothing)
    (hcells : o.cells = .value n) (hpositive : 1 ≤ n)
    (hregistry : ¬(o.servePairing = true ∧ .nothing ∈ o.devices uniqueId))
    (hjournal : o.journalOut ≠ some .nothing) :
    ¬(o.Lacks uniqueId ∨ o.AsksForTooFew) := by
  rintro ((h | h | h | h) | h)
  · exact hurl h
  · rw [hcells] at h
    cases h
  · exact hregistry h
  · exact hjournal h
  · exact not_asksForTooFew hcells hpositive h

/-- A server with a pad for a device, as it is before it has served anything;
the clock has been read once. -/
def fresh (uniqueId : Given Text) (client : Client) (n : Nat)
    (waiting : Option Waiting) (journal : Option Journal.Writer) (store : Store)
    (later : Nat → Json) : Site where
  pad := Pad.new (uniqueId.setting .str) client n
  waiting
  journal
  store
  clock := later 0
  later := fun k => later (k + 1)

theorem reading_fresh {client : Client} {n : Nat} {waiting : Option Waiting}
    {journal : Option Journal.Writer} {later : Nat → Json} (k : Nat) :
    (fresh uniqueId client n waiting journal store later).reading k
      = later k := by
  cases k <;> rfl

/-- What a program comes to that is made of options. -/
inductive Comes (o : Options) (uniqueId : Given Text) (store : Store)
    (around : Surroundings) : Launched → Prop
  /-- It is refused before anything is touched. -/
  | refused {log : List Text} {f : Fault}
      (hcannot : o.Lacks uniqueId ∨ o.AsksForTooFew)
      (hfew : o.AsksForTooFew → o.pairingUrl ≠ .nothing →
        f = ⟨.value, "cell_count must be >= 1"⟩) :
      Comes o uniqueId store around ⟨log, [], .error f, store⟩
  /-- Its journal cannot be opened. -/
  | unopened
      {log log' : List Text} {f : Fault} {directory : Text} {store' : Store}
      (hcan : ¬(o.Lacks uniqueId ∨ o.AsksForTooFew))
      (hjournal : o.journalOut = some (.value directory))
      (hopen : Journal.openAt store directory around.clock
        = (⟨.error f, log'⟩, store')) :
      Comes o uniqueId store around ⟨log, [], .error f, store'⟩
  /-- It is ready and has no journal. -/
  | ready {log : List Text} {client : Client} {n : Int} {host port : Json}
      (hcan : ¬(o.Lacks uniqueId ∨ o.AsksForTooFew))
      (hcells : o.cells = .value n) (hpositive : 1 ≤ n)
      (hjournal : o.journalOut = none) :
      Comes o uniqueId store around ⟨log, [],
        .ok ⟨fresh uniqueId client n.toNat (o.registry uniqueId) none store
          around.later, host, port⟩, store⟩
  /-- It is ready and has opened its journal. -/
  | opened {log log' : List Text} {client : Client} {n : Int} {host port : Json}
      {directory : Text} {w : Journal.Writer} {store' : Store}
      (hcan : ¬(o.Lacks uniqueId ∨ o.AsksForTooFew))
      (hcells : o.cells = .value n) (hpositive : 1 ≤ n)
      (hjournal : o.journalOut = some (.value directory))
      (hopen : Journal.openAt store directory around.clock
        = (⟨.ok w, log'⟩, store')) :
      Comes o uniqueId store around ⟨log, [],
        .ok ⟨fresh uniqueId client n.toNat (o.registry uniqueId) (some w) store'
          around.later, host, port⟩, store'⟩

theorem prepare_comes (o : Options) (uniqueId : Given Text) (store : Store)
    (around : Surroundings) :
    Comes o uniqueId store around (prepare o uniqueId store around) := by
  unfold prepare
  cases hpad : makePad o uniqueId around.environment with
  | error f =>
      dsimp only
      obtain hurl | hcells | ⟨hfew, rfl⟩ := makePad_eq_error hpad
      · exact .refused (.inl (.inl hurl)) fun _ h => absurd hurl h
      · refine .refused (.inl (.inr (.inl hcells))) fun hfew _ => ?_
        obtain ⟨n, hn, -⟩ := hfew
        rw [hcells] at hn
        cases hn
      · exact .refused (.inr hfew) fun _ _ => rfl
  | ok made =>
      obtain ⟨client, pad⟩ := made
      obtain ⟨hurl, n, hcells, hpositive, rfl⟩ := makePad_eq_ok hpad
      have henough := not_asksForTooFew hcells hpositive
      dsimp only
      by_cases hregistry : o.servePairing = true ∧ .nothing ∈ o.devices uniqueId
      · obtain ⟨f, log, hmade⟩ := makeRegistry_eq_error hregistry
        rw [hmade]
        exact .refused (.inl (.inr (.inr (.inl hregistry))))
          fun h => absurd h henough
      · obtain ⟨log, hmade⟩ := makeRegistry_eq hregistry
        rw [hmade]
        dsimp only
        have hcan := lacks_nothing hurl hcells hpositive hregistry
        unfold makeJournal
        -- The journal is the last thing that can be missing.
        cases hjournal : o.journalOut with
        | none =>
            exact .ready (hcan (by simp [hjournal])) hcells hpositive hjournal
        | some directory =>
            cases directory with
            | nothing =>
                exact .refused (.inl (.inr (.inr (.inr hjournal))))
                  fun h => absurd h henough
            | value directory =>
                have hcan := hcan (by simp [hjournal])
                rcases hopen : Journal.openAt store directory around.clock
                  with ⟨⟨result, log'⟩, store'⟩
                cases result with
                | error f =>
                    dsimp only
                    rw [hopen]
                    exact .unopened hcan hjournal hopen
                | ok w =>
                    dsimp only
                    rw [hopen]
                    exact .opened hcan hcells hpositive hjournal hopen

-- ============================================================== closing

/-- The rows of outcomes with their numbers, each with the reading of the clock
for its number: those whose status fits its column, unless the device has no
name. -/
def rowsFor (device : Given Text) (ts : Nat → Binary64)
    (xs : List (Outcome × Nat)) : List Row :=
  match device with
  | .nothing => []
  | .value u =>
    (xs.filter fun x => ∀ k ∈ x.1.status, fitsBits 16 k).map fun x =>
      (Entry.mk u x.1 (ts x.2)).row x.2

/-- The journal of the outcomes of a device, closed. -/
structure Closed (s : Store) (directory : Text) (device : Given Text)
    (ts : Nat → Binary64) (os : List Outcome) : Prop where
  /-- The lines are those of the outcomes that have lines, in their order, under
  the numbers of their places and with the readings of the clock for them. -/
  lines : linesAt s (linesPath directory)
    = ((os.zipIdx 1).filter fun x => HasDigits x.1 x.2).map fun x =>
        (attemptFor (device.setting .str) (ts x.2) x.1 x.2).line
  /-- Unless there are numbers with too many digits, that is one for each. -/
  complete : FewDigits os.length → (∀ o ∈ os, ∀ k ∈ o.status, FewDigits k) →
    (linesAt s (linesPath directory)).length = os.length
  /-- There is a single table, which can be read, and the rows are those of the
  outcomes whose numbers have no more than 64 bits. -/
  table : ∃ p c, tablesIn s directory = [(p, c)]
    ∧ c.rows? = some
      (rowsFor device ts ((os.zipIdx 1).filter fun x => fitsBits 64 x.2))
    ∧ (fitsBits 64 os.length = true →
      c.rows? = some (rowsFor device ts (os.zipIdx 1)))

variable {directory : Text} {ts : Nat → Binary64} {os : List Outcome}

theorem filter_attemptsFor (device : Given Text) (n : Nat) :
    ((attemptsFor (device.setting .str) ts n os).filter Attempt.hasLine).map
        Attempt.line
      = ((os.zipIdx n).filter fun x => HasDigits x.1 x.2).map fun x =>
          (attemptFor (device.setting .str) (ts x.2) x.1 x.2).line := by
  have hdevice : (device.setting Json.str).isWritable = true := by
    cases device <;> rfl
  have hsame (x : Outcome × Nat) :
      (attemptFor (device.setting .str) (ts x.2) x.1 x.2).hasLine
        = decide (HasDigits x.1 x.2) := by
    rw [Bool.eq_iff_iff, decide_eq_true_iff]
    exact Journal.hasLine_attemptFor hdevice
  simp only [attemptsFor, List.filter_map, List.map_map,
    Function.comp_def, hsame]

theorem filterMap_attemptsFor (device : Given Text) (n : Nat)
    (hdevice : ∀ u, device = .value u → u.IsScalar)
    (hreasons : ∀ o ∈ os, o.reason.IsScalar) :
    (attemptsFor (device.setting .str) ts n os).filterMap Attempt.row?
      = rowsFor device ts ((os.zipIdx n).filter fun x => fitsBits 64 x.2) := by
  rw [attemptsFor, List.filterMap_map]
  cases device with
  | nothing =>
      rw [rowsFor, List.filterMap_eq_nil_iff]
      intro x _
      rw [Function.comp_apply, Given.setting, Journal.row?_attemptFor_arr]
  | value u =>
      rw [rowsFor, List.filter_filter, ← List.filterMap_eq_map,
        List.filterMap_filter]
      apply List.filterMap_congr
      intro x hx
      have hreason := hreasons x.1 (List.fst_mem_of_mem_zipIdx hx)
      rw [Function.comp_apply, Given.setting,
        Journal.row?_attemptFor_str (hdevice u rfl) hreason]
      simp only [Bool.and_eq_true, decide_eq_true_eq, and_comm,
        Function.comp_apply]

/-- The numbers of places are at most the number of places. -/
theorem filter_zipIdx_fits (h : fitsBits 64 os.length = true) :
    (os.zipIdx 1).filter (fun x => fitsBits 64 x.2) = os.zipIdx 1 := by
  rw [List.filter_eq_self]
  intro x hx
  have hplace := List.snd_lt_of_mem_zipIdx hx
  simp only [fitsBits, Bool.and_eq_true, decide_eq_true_eq] at h ⊢
  omega

theorem closed_of_filed {s : Store} {device : Given Text}
    (hdevice : ∀ u, device = .value u → u.IsScalar)
    (hreasons : ∀ o ∈ os, o.reason.IsScalar)
    (h : Journal.Filed s directory
      (attemptsFor (device.setting .str) ts 1 os)) :
    Closed s directory device ts os := by
  obtain ⟨hlines, p, c, htable, hrows⟩ := h
  rw [filter_attemptsFor] at hlines
  rw [filterMap_attemptsFor device 1 hdevice hreasons] at hrows
  refine ⟨hlines, fun hlength hstatus => ?_, p, c, htable, hrows,
    fun hfits => ?_⟩
  · rw [hlines, Journal.filter_zipIdx_hasDigits hlength hstatus,
      List.length_map, List.length_zipIdx]
  · rw [hrows, filter_zipIdx_fits hfits]

-- ================================================================= runs

/-- A run in which nothing is served and nothing is touched. -/
structure Run.Declines (r : Run) (store : Store) (f : Fault) : Prop where
  served : r.served = none
  store : r.store = store
  fault : r.fault = some f

/-- A run in which a program is served that was made of options, until serving
ends. -/
structure Run.Serves (r : Run) (o : Options) (uniqueId : Given Text)
    (store : Store) (ts : Nat → Binary64) (steps : List (Step Incoming))
    (ending : Option Fault) (p : Program) : Prop where
  served : r.served = some (p, (Site.service.runSteps 0 p.site steps).1)
  /-- The end of serving is the end of the run. -/
  fault : r.fault = ending
  /-- The pad is for the device that was named and has the cells asked for. -/
  pad : ∃ client n, o.cells = .value n ∧ 1 ≤ n
    ∧ p.site.pad = Pad.new (uniqueId.setting .str) client n.toNat
  registry : p.site.waiting = o.registry uniqueId
  /-- The pairing endpoint is found if there is a registry. -/
  mounted : ∀ x ∈ Step.allAnswered steps
    (Site.service.runSteps 0 p.site steps).1,
    x.1.IsPairing → ∃ response, x.2.result = .ok response
      ∧ (response.status = 404 ↔ o.servePairing = false)
  /-- Without a journal nothing is written; otherwise the journal is closed,
  with what the pad has returned. -/
  journal :
    let script := padSteps p.site.waiting.isSome p.site.pad.cellCount steps
    let watched := Pad.service.runSteps 0 p.site.pad script
    let outcomes := (Step.allAnswered script watched.1).filterMap returned?
    (Answer.statesOf (Site.service.runSteps 0 p.site steps).1).map Site.pad
        = Answer.statesOf watched.1
      ∧ (o.journalOut = none → r.store = store)
      ∧ ∀ directory, o.journalOut = some (.value directory) →
        Closed r.store directory uniqueId ts outcomes

/-- Whether the journal that options ask for cannot be opened. -/
def Options.FailsToOpen (o : Options) (store : Store) (clock : Json)
    (f : Fault) :
    Prop :=
  ∃ directory, o.journalOut = some (.value directory)
    ∧ (Journal.openAt store directory clock).1.value = .error f

section Runs

variable {program : String} {argv : List Text} {steps : List (Step Incoming)}
  {ending : Option Fault} {log : List Text} {errors : Text} {store' : Store}
  {clock : Json} {later : Nat → Json}

/-- A program that could not be made ends with its fault. -/
theorem run_of_error {f : Fault}
    (h : launch program argv store ⟨environment, clock, later⟩
      = ⟨log, errors, .error f, store'⟩) :
    run program argv store clock steps ending environment later
      = ⟨log, errors, none, store', some f⟩ := by
  rw [run, h]

/-- A program that could be made is served, and its journal is closed. -/
theorem run_of_ok {p : Program}
    (h : launch program argv store ⟨environment, clock, later⟩
      = ⟨log, errors, .ok p, store'⟩) :
    run program argv store clock steps ending environment later
      = let served := Site.service.runSteps 0 p.site steps
        ⟨log ++ [shutdownLine], errors, some (p, served.1),
          served.2.2.closeJournal.store, ending⟩ := by
  rw [run, h]

/-- A clock that reads `ts 0` when the journal is opened, and `ts n` for the
record with the number `n`. -/
def stamped (environment : Environment) (ts : Nat → Binary64) : Surroundings :=
  ⟨environment, .float (ts 0), fun k => .float (ts (k + 1))⟩

theorem reading_stamped {client : Client} {n : Nat} {waiting : Option Waiting}
    {journal : Option Journal.Writer} (k : Nat) :
    (fresh uniqueId client n waiting journal store
      (stamped environment ts).later).reading k = .float (ts (1 + k)) := by
  rw [reading_fresh, Nat.add_comm]
  rfl

theorem registry_isSome (o : Options) (uniqueId : Given Text) :
    (o.registry uniqueId).isSome = o.servePairing := by
  unfold Options.registry
  cases o.servePairing <;> rfl

/-- What is served keeps what is promised of it, whatever is requested. -/
theorem serves_of_launch {p : Program} {client : Client} {n : Int}
    (hlaunch : launch program argv store (stamped environment ts)
      = ⟨log, errors, .ok p, store'⟩)
    (hdevice : ∀ u, uniqueId = .value u → u.IsScalar)
    (hcells : o.cells = .value n)
    (hpositive : 1 ≤ n)
    (hpad : p.site.pad = Pad.new (uniqueId.setting .str) client n.toNat)
    (hregistry : p.site.waiting = o.registry uniqueId)
    (hreadings : ∀ k, p.site.reading k = .float (ts (1 + k)))
    (hnone : o.journalOut = none → p.site.journal = none ∧ p.site.store = store)
    (hsome : ∀ directory, o.journalOut = some (.value directory) →
      ∃ w, p.site.journal = some w ∧ w.nextId = 1
        ∧ Journal.Filing w p.site.store directory []) :
    (run program argv store (.float (ts 0)) steps ending environment
      fun k => .float (ts (k + 1))).Serves
        o uniqueId store ts steps ending p := by
  rw [run_of_ok hlaunch]
  have hmounted : p.site.waiting.isSome = o.servePairing := by
    rw [hregistry, registry_isSome]
  have hid : p.site.pad.uniqueId = uniqueId.setting .str := by rw [hpad]; rfl
  have hover := Site.runSteps_handsOver hmounted rfl 0 steps
  obtain ⟨hstates, -⟩ :=
    Site.runSteps_follows (s := p.site) ⟨rfl, hmounted, rfl⟩ 0 steps
  rw [← hmounted] at hover hstates
  refine ⟨rfl, rfl, ⟨client, n, hcells, hpositive, hpad⟩, hregistry, ?_,
    hstates, ?_, ?_⟩
  · exact ((Web.pairing_upheld o.servePairing).runSteps 0 hmounted steps).1
  · intro hjournal
    obtain ⟨hno, hstore⟩ := hnone hjournal
    exact (hover.store_eq hno).trans hstore
  · intro directory hjournal
    obtain ⟨w, hw, hnext, hfiling⟩ := hsome directory hjournal
    have hfiled := hover.filed hw hreadings hnext hfiling
    rw [hid] at hfiled
    exact closed_of_filed hdevice hover.reasons hfiled

/-- How a run fares that was asked for by options. -/
structure Run.Fares (r : Run) (o : Options) (uniqueId : Given Text)
    (store : Store) (ts : Nat → Binary64) (steps : List (Step Incoming))
    (ending : Option Fault) : Prop where
  /-- What leaves out what is needed, or asks for too few cells, is declined. -/
  declined : o.Lacks uniqueId ∨ o.AsksForTooFew → ∃ f, r.Declines store f
    ∧ (o.AsksForTooFew → o.pairingUrl ≠ .nothing →
      f = ⟨.value, "cell_count must be >= 1"⟩)
  /-- If the journal cannot be opened, that is the end, and no file is made. -/
  unopened : ¬(o.Lacks uniqueId ∨ o.AsksForTooFew) →
    ∀ f, o.FailsToOpen store (.float (ts 0)) f →
      r.served = none ∧ r.store.files = store.files ∧ r.fault = some f
  /-- Otherwise the program is served. -/
  served : ¬(o.Lacks uniqueId ∨ o.AsksForTooFew) →
    (∀ f, ¬o.FailsToOpen store (.float (ts 0)) f) →
      ∃ p, r.Serves o uniqueId store ts steps ending p

theorem fares_of_comes {launched : Launched}
    (hlaunch : launch program argv store (stamped environment ts) = launched)
    (hcomes : Comes o uniqueId store (stamped environment ts) launched)
    (hdevice : ∀ u, uniqueId = .value u → u.IsScalar)
    (hempty : ∀ directory, o.journalOut = some (.value directory) →
      filesIn store directory = []) :
    (run program argv store (.float (ts 0)) steps ending environment
      fun k => .float (ts (k + 1))).Fares o uniqueId store ts steps ending := by
  cases hcomes with
  | refused hcannot hfew =>
      rw [run_of_error hlaunch]
      exact ⟨fun _ => ⟨_, ⟨rfl, rfl, rfl⟩, hfew⟩,
        fun hcan => absurd hcannot hcan,
        fun hcan => absurd hcannot hcan⟩
  | unopened hcan hjournal hopen =>
      rw [run_of_error hlaunch]
      refine ⟨fun hcannot => absurd hcannot hcan, ?_, ?_⟩
      · rintro - f ⟨directory, hdirectory, hf⟩
        rw [hjournal] at hdirectory
        cases hdirectory
        cases hf.symm.trans (congrArg (·.1.value) hopen)
        obtain ⟨-, -, hfiles⟩ | ⟨_, _, _, hok, -⟩ := Journal.openAt_cases hopen
        · exact ⟨rfl, hfiles, rfl⟩
        · cases hok
      · exact fun _ hopens =>
          absurd ⟨_, hjournal, congrArg (·.1.value) hopen⟩ (hopens _)
  | ready hcan hcells hpositive hjournal =>
      refine ⟨fun hcannot => absurd hcannot hcan, ?_, fun _ _ => ⟨_,
        serves_of_launch hlaunch hdevice hcells hpositive rfl rfl
          reading_stamped (fun _ => ⟨rfl, rfl⟩) ?_⟩⟩
      · rintro - f ⟨directory, hdirectory, -⟩
        rw [hjournal] at hdirectory
        cases hdirectory
      · intro directory hdirectory
        rw [hjournal] at hdirectory
        cases hdirectory
  | opened hcan hcells hpositive hjournal hopen =>
      refine ⟨fun hcannot => absurd hcannot hcan, ?_, fun _ _ => ⟨_,
        serves_of_launch hlaunch hdevice hcells hpositive rfl rfl
          reading_stamped ?_ ?_⟩⟩
      · rintro - f ⟨directory, hdirectory, hf⟩
        rw [hjournal] at hdirectory
        cases hdirectory
        cases hf.symm.trans (congrArg (·.1.value) hopen)
      · intro hnone
        rw [hjournal] at hnone
        cases hnone
      · intro directory hdirectory
        rw [hjournal] at hdirectory
        cases hdirectory
        obtain ⟨hnext, hfiling⟩ :=
          Journal.Filing.opened (hempty _ hjournal) hopen
        exact ⟨_, rfl, hnext, hfiling⟩

end Runs

/-- From the start of the program to its end, for every command line made of
characters, every list of requests and every way in which serving ends,
whatever the client finds where it runs and whatever the wall clock reads for
each record; the directory of the journal has no files in it, if there is one.

A command line that is refused and one that calls for help end the program
with nothing served and nothing touched. All others give options, which say
what was given, and how the run fares depends on these: options that leave out
what is needed and too few cells have the same end; a journal that cannot be
opened comes before serving; and otherwise the end of serving is the end of
the program. Then the journal is closed, with a line for every outcome that
the submissions came to, and a row for each whose status fits if the device
has a name, in their order. The pairing endpoint is there exactly if it was
asked for, with the devices that were registered, each once, or the one of the
pad. -/
theorem run_from_start_to_end (program : String) {argv : List Text}
    (hargv : ∀ a ∈ argv, a.IsScalar) (store : Store)
    (environment : Environment) (ts : Nat → Binary64)
    (hempty : ∀ o directory, Command.ofWords argv = .ok (.run o) →
      o.journalOut = some (.value directory) → filesIn store directory = [])
    (steps : List (Step Incoming)) (ending : Option Fault) :
    let r := run program argv store (.float (ts 0)) steps ending environment
      fun k => .float (ts (k + 1))
    (∀ f, Command.ofWords argv = .error f → r.Declines store (exit 2))
      ∧ (Command.ofWords argv = .ok .help → r.Declines store (exit 0))
      ∧ ∀ o, Command.ofWords argv = .ok (.run o) →
        ∃ ws uniqueId, classifyAll argv = .ok ws ∧ Says (given ws) o
          ∧ o.uniqueId = some uniqueId
          ∧ r.Fares o uniqueId store ts steps ending := by
  intro r
  refine ⟨fun f hf => ?error, fun hhelp => ?help, fun o ho => ?options⟩
  case error =>
    have hlaunch : launch program argv store (stamped environment ts)
        = ⟨[], f.text program, .error (exit 2), store⟩ := by rw [launch, hf]
    have hr : r = _ := run_of_error hlaunch
    rw [hr]
    exact ⟨rfl, rfl, rfl⟩
  case help =>
    have hlaunch : launch program argv store (stamped environment ts)
        = ⟨(helpLines program).map Text.ofString, [], .error (exit 0),
          store⟩ := by
      rw [launch, hhelp]
    have hr : r = _ := run_of_error hlaunch
    rw [hr]
    exact ⟨rfl, rfl, rfl⟩
  case options =>
    obtain ⟨ws, uniqueId, hws, htold, hid⟩ := says_of_ofWords ho
    have hdevice : ∀ u, uniqueId = .value u → u.IsScalar := by
      rintro u rfl
      exact isScalar_given (isScalar_of_classifyAll hargv hws) _
        (htold.mem_uniqueId hid)
    have hlaunch : launch program argv store (stamped environment ts)
        = prepare o uniqueId store (stamped environment ts) := by
      rw [launch, ho]
      dsimp only
      rw [hid]
    exact ⟨ws, uniqueId, hws, htold, hid,
      fares_of_comes hlaunch (prepare_comes o uniqueId store _) hdevice
        fun directory => hempty o directory ho⟩

/-- A digit is typed and submitted, and the pairing service agrees. -/
def submitOnce : List (Step Incoming) :=
  [⟨⟨"POST", "/api/cell", [], Text.utf8 "\x7b\"index\":0,\"value\":\"1\"\x7d"⟩,
    0, [], .status 200⟩,
   ⟨⟨"POST", "/api/submit", [], []⟩, 0, [], .status 200⟩]

/-- Serving that is interrupted, with a device that was registered twice: the
interrupt is the end of the run, each device waits once, and the journal is
closed with one row. -/
theorem interrupted_run_from_start_to_end :
    let argv :=
      ["--unique-id=A", "--cells", "1", "--serve-p", "--register", "B",
      "--register=A", "--reg", "B", "--journal-out", "j"].map Text.ofString
    let interrupt : Fault := ⟨.interrupt, []⟩
    let ts : Nat → Binary64 := fun n => .ofInt n
    let r :=
      run "main.py" argv {} (.float (ts 0)) submitOnce (some interrupt) {}
      fun k => .float (ts (k + 1))
    ∃ o ws uniqueId p, Command.ofWords argv = .ok (.run o)
      ∧ classifyAll argv = .ok ws ∧ Says (given ws) o
      ∧ r.Serves o uniqueId {} ts submitOnce (some interrupt) p
      ∧ p.site.waiting = some (awaiting [.str "B", .str "A"])
      ∧ (linesAt r.store (linesPath "j")).length = 1
      ∧ (tablesIn r.store "j").map (fun f => f.2.rows?.map List.length)
        = [some 1] := by
  intro argv interrupt ts r
  let o : Options :=
    { uniqueId := some (.value "A"), cells := .value 1, servePairing := true,
      register := [.value "B", .value "A", .value "B"],
      journalOut := some (.value "j") }
  have ho : Command.ofWords argv = .ok (.run o) := by rfl
  have hargv : ∀ a ∈ argv, a.IsScalar := by
    intro a ha
    obtain ⟨word, -, rfl⟩ := List.mem_map.mp ha
    exact Text.isScalar_ofString word
  obtain ⟨-, -, hoptions⟩ := run_from_start_to_end "main.py" hargv {} {} ts
    (fun _ _ _ _ => rfl) submitOnce (some interrupt)
  obtain ⟨ws, uniqueId, hws, htold, hid, hfares⟩ := hoptions o ho
  cases hid
  have hcan : ¬(o.Lacks (.value "A") ∨ o.AsksForTooFew) :=
    lacks_nothing (by simp [o]) rfl (Int.le_refl 1)
      (fun h => absurd h.2 (by decide))
      (by simp [o])
  have hopens : ∀ f, ¬o.FailsToOpen {} (.float (ts 0)) f := by
    rintro f ⟨directory, h, hf⟩
    cases h
    have hok :
        (Journal.openAt {} "j" (.float (ts 0))).1.value.toBool = true := by
      decide +kernel
    rw [hf] at hok
    cases hok
  obtain ⟨p, hserves⟩ := hfares.served hcan hopens
  refine ⟨o, ws, _, p, ho, hws, htold, hserves, hserves.registry, ?_⟩
  decide +kernel

/-- Runs fall short where a value is left out behind an equals sign. A pad
may be for nothing: its submission is finished and has its line, but it has
no row, though its status fits, since the column takes only texts. Without a
number of cells, an address, a directory or a device to wait for, a command
line that was accepted is not served; and a journal may be below a file. -/
theorem runs_fall_short :
    (let argv := ["--unique-id=--", "--cells", "1", "--journal-out", "j"].map
        Text.ofString
      let r := run "main.py" argv {} (.float .zero) submitOnce none
      (r.served.map fun (p, _) =>
          let script :=
            padSteps p.site.waiting.isSome p.site.pad.cellCount submitOnce
          let watched := Pad.service.runSteps 0 p.site.pad script
          ((Step.allAnswered script watched.1).filterMap returned?).map
            (·.status))
          = some [some 200]
        ∧ r.fault = none
        ∧ (linesAt r.store (linesPath "j")).length = 1
        ∧ (tablesIn r.store "j").map (·.2.rows?) = [some []])
      ∧ [["--cells=--"], ["--pairing-url=--"], ["--journal-out=--"],
          ["--serve-pairing", "--register=--"],
          ["--unique-id=--", "--serve-pairing"],
          ["--journal-out", "f/j"]].map (fun words =>
            let argv := ("--unique-id=A" :: words).map Text.ofString
            let store : Store := { files := [([Text.ofString "f"], .bytes [])] }
            let r := run "main.py" argv store (.float .zero) submitOnce none
            ((Command.ofWords argv).toBool, r.served.isSome,
              r.fault.map (·.kind)))
        = [(true, false, some .type), (true, false, some .attribute),
          (true, false, some .type), (true, false, some .type),
          (true, false, some .type), (true, false, some .notDirectory)] := by
  decide +kernel

end DevicePairing.Launch
