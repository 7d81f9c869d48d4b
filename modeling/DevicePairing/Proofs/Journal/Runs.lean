/-
A journal over many runs.

Each run opens a writer, hands outcomes in and closes the writer; the
clock may stand still or go backwards in between. The lines tell the next
writer where to go on, so no number is used for two records. And they
tell its table apart from the others: a table with the same name had the
same first number, so no record came of the run that left it, and there
is no row in it that could be lost.

A run that cannot be opened leaves all files as they are.
-/
import DevicePairing.Proofs.Journal.Holding
import DevicePairing.Proofs.Journal.Reopen
import Mathlib.Data.List.Nodup

namespace DevicePairing.Journal

-- ================================================================= runs

/-- A run: the clock when it begins, and what is handed in. -/
structure Run where
  time : Json
  entries : List Entry

/-- What a run came to: its first number, what was handed in, and what each
of it gave. -/
structure Session where
  firstId : Int
  entries : List Entry
  results : List (Except Fault Int)

/-- The entries of a session with their numbers. -/
def Session.numbered (x : Session) : List (Entry × Int) :=
  Journal.numbered x.firstId x.entries

/-- Carry out runs one after the other. A run whose writer is not opened
comes to nothing. -/
def carryOut (s : Store) (directory : Text) : List Run → List Session × Store
  | [] => ([], s)
  | run :: runs =>
    match openAt s directory run.time with
    | (⟨.error _, _⟩, s) => carryOut s directory runs
    | (⟨.ok w, _⟩, s) =>
      let (results, closing, s) := w.appendAll s run.entries
      let (sessions, s) := carryOut (closing.close s).2 directory runs
      (⟨w.nextId, run.entries, results⟩ :: sessions, s)

-- ============================================================== opening

variable {s : Store} {directory : Text} {xs : List (Entry × Int)}

theorem haveLines_attemptsOf (xs : List (Entry × Int)) :
    HaveLines (attemptsOf xs) := by
  intro a ha
  obtain ⟨⟨e, n⟩, hx, rfl⟩ := List.mem_map.mp ha
  exact ⟨e, n, rfl, of_decide_eq_true (List.mem_filter.mp hx).2⟩

/-- The greatest number on the lines of entries, or zero. -/
def lastOf (directory : Text) (xs : List (Entry × Int)) : Int :=
  (scanLines (linesPath directory) 0 (linesOf (attemptsOf xs)).lines).last

theorem lastOf_le_iff {n : Int} :
    lastOf directory xs ≤ n ↔ 0 ≤ n ∧ ∀ a ∈ attemptsOf xs, a.id ≤ n := by
  have hlines := haveLines_attemptsOf xs
  have hfault : (scanLines (linesPath directory) 0
      (linesOf (attemptsOf xs)).lines).fault = none := by
    rw [fault_eq_none_iff, lines_linesOf]
    intro line hline
    obtain ⟨a, ha, rfl⟩ := List.mem_map.mp hline
    exact (hlines.isReadAs_line ha).goesOn
  rw [lastOf, last_le_iff _ hfault, lines_linesOf]
  refine and_congr_right fun _ => ⟨?_, ?_⟩
  · intro h a ha
    exact h a.line (List.mem_map_of_mem ha) a.id (hlines.isReadAs_line ha).1
  · intro h line hline id hid
    obtain ⟨a, ha, rfl⟩ := List.mem_map.mp hline
    rw [(hlines.isReadAs_line ha).1] at hid
    exact Option.some.inj hid ▸ h a ha

theorem lastOf_append_le (directory : Text) (xs ys : List (Entry × Int)) :
    lastOf directory xs ≤ lastOf directory (xs ++ ys) := by
  obtain ⟨hzero, hle⟩ :=
    lastOf_le_iff.mp (Int.le_refl (lastOf directory (xs ++ ys)))
  refine lastOf_le_iff.mpr ⟨hzero, fun a ha => hle a ?_⟩
  rw [attemptsOf_append]
  exact List.mem_append_left _ ha

theorem id_le_lastOf (directory : Text) {a : Attempt} (h : a ∈ attemptsOf xs) :
    a.id ≤ lastOf directory xs :=
  (lastOf_le_iff.mp (Int.le_refl _)).2 a h

/-- Opening changes at most one file: the new table is put there. -/
theorem openAt_cases {time : Json} {log : List Text} {s' : Store}
    {result : Except Fault Writer}
    (h : openAt s directory time = (⟨result, log⟩, s')) :
    (∃ f, result = .error f ∧ s'.files = s.files)
      ∨ ∃ w m name, result = .ok w ∧ tableName m w.nextId = .ok name
        ∧ w = ⟨directory, w.nextId, Path.child directory name, [], true⟩
        ∧ s'.files = (s.put (Path.place w.tablePath)
            (.table [(.mark, .other)])).files := by
  unfold openAt at h
  have hfiles := Store.files_makeDirectory s directory
  generalize s.makeDirectory directory = made at h hfiles
  obtain ⟨made, s₁⟩ := made
  cases made with
  | error f =>
      cases h
      exact .inl ⟨f, rfl, hfiles⟩
  | ok _ =>
      dsimp only at h
      split at h
      · cases h
        exact .inl ⟨_, rfl, hfiles⟩
      split at h
      · cases h
        exact .inl ⟨_, rfl, hfiles⟩
      · rename_i w s₂ htable
        cases h
        obtain ⟨m, name, hname, hw, rfl⟩ := openTable_eq_ok htable
        right
        rw [hw]
        refine ⟨_, m, name, rfl, hname, rfl, ?_⟩
        exact Store.files_put_congr hfiles _ _

-- =============================================================== tables

/-- A table that a run has left: where it lies, what is there, the first
number of the run and the rows. -/
structure Table where
  place : Place
  content : Content
  firstId : Int
  rows : List Row

/-- The table as a file. -/
def Table.file (t : Table) : Place × Content := (t.place, t.content)

/-- A table as a run leaves it in a journal with these numbers: it is named
for its first number, which is used up if the table has rows. -/
structure Table.IsLeft (t : Table) (directory : Text) (last : Int) : Prop where
  named : ∃ m name, tableName m t.firstId = .ok name
    ∧ t.place = Path.place (Path.child directory name)
  closed : t.content.IsClosed t.rows
  firstId_le : t.firstId ≤ last + 1
  firstId_le_last : t.rows ≠ [] → t.firstId ≤ last

theorem Table.IsLeft.mono {t : Table} {last last' : Int}
    (h : t.IsLeft directory last) (hle : last ≤ last') :
    t.IsLeft directory last' where
  named := h.named
  closed := h.closed
  firstId_le := by
    have := h.firstId_le
    omega
  firstId_le_last hrows := Int.le_trans (h.firstId_le_last hrows) hle

/-- The tables that runs have left, in the order in which they were made:
their first numbers rise, and their rows are those of all entries. -/
structure Tables (s : Store) (directory : Text) (xs : List (Entry × Int))
    (ts : List Table) : Prop where
  files : tablesIn s directory = ts.map Table.file
  left : ∀ t ∈ ts, t.IsLeft directory (lastOf directory xs)
  distinct : (ts.map Table.place).Nodup
  rise : ts.Pairwise fun t u => t.firstId ≤ u.firstId
  rows : (ts.map Table.rows).flatten = rowsOf xs

/-- A table with the next number for its first has no rows. -/
theorem Table.IsLeft.rows_eq_nil {t : Table} {last : Int}
    (h : t.IsLeft directory last) (hlast : last < t.firstId) : t.rows = [] := by
  by_contra hrows
  have hle := h.firstId_le_last hrows
  omega

/-- The name of a table decides its first number. -/
theorem Table.IsLeft.firstId_eq {t : Table} {last n : Int} {m : Moment}
    {name : Text} (h : t.IsLeft directory last)
    (hname : tableName m n = .ok name)
    (hplace : t.place = Path.place (Path.child directory name)) :
    t.firstId = n := by
  obtain ⟨m', name', hname', hplace'⟩ := h.named
  have hplaces := hplace.symm.trans hplace'
  rw [Path.place_child (isName_tableName hname).1,
    Path.place_child (isName_tableName hname').1] at hplaces
  have hnames : name = name' :=
    List.singleton_injective (List.append_cancel_left hplaces)
  rw [← hnames] at hname'
  exact tableName_inj hname' hname

theorem ne_place_of_file {before after : List Table} {p : Place}
    (h : ∀ t ∈ before ++ after, t.place ≠ p) :
    ∀ f ∈ before.map Table.file ++ after.map Table.file, f.1 ≠ p := by
  rw [← List.map_append]
  intro f hf
  obtain ⟨t, ht, rfl⟩ := List.mem_map.mp hf
  exact h t ht

section Middle

variable {before after : List Table} {t : Table}

/-- No other table lies in the place of a table. -/
theorem Tables.ne_place (h : Tables s directory xs (before ++ t :: after)) :
    ∀ u ∈ before ++ after, u.place ≠ t.place := by
  have hdistinct := h.distinct
  rw [List.map_append, List.map_cons, List.nodup_middle, List.nodup_cons,
    ← List.map_append] at hdistinct
  intro u hu heq
  exact hdistinct.1 (heq ▸ List.mem_map_of_mem hu)

/-- Behind a table with the next number for its first there are no rows. -/
theorem Tables.rows_eq_nil (h : Tables s directory xs (before ++ t :: after))
    (hnext : lastOf directory xs < t.firstId) :
    ∀ u ∈ t :: after, u.rows = [] ∧ t.firstId ≤ u.firstId := by
  intro u hu
  have hle : t.firstId ≤ u.firstId := by
    rcases List.mem_cons.mp hu with rfl | hu
    · exact Int.le_refl _
    · have hrise := (List.pairwise_append.mp h.rise).2.1
      exact List.rel_of_pairwise_cons hrise hu
  have hleft := h.left u (List.mem_append_right _ hu)
  exact ⟨hleft.rows_eq_nil (Int.lt_of_lt_of_le hnext hle), hle⟩

end Middle

/-- A new table comes behind all others, or in the place of one of them
that has no rows, like those behind it. -/
theorem Tables.make {ts : List Table} (h : Tables s directory xs ts)
    {m : Moment} {n : Int} {name : Text} (hname : tableName m n = .ok name)
    (hnext : n = lastOf directory xs + 1) (c : Content) :
    ∃ before old after, ts = before ++ old ++ after
      ∧ (∀ t ∈ old ++ after, t.rows = [] ∧ n ≤ t.firstId)
      ∧ (∀ t ∈ before ++ after,
          t.place ≠ Path.place (Path.child directory name))
      ∧ tablesIn (s.put (Path.place (Path.child directory name)) c) directory
        = before.map Table.file
          ++ (Path.place (Path.child directory name), c)
            :: after.map Table.file := by
  obtain ⟨hisName, hne⟩ := isName_tableName hname
  have htable := isTable_child directory hisName hne
  have hfirst (t : Table) (ht : t ∈ ts)
      (hplace : t.place = Path.place (Path.child directory name)) :
      t.firstId = n := (h.left t ht).firstId_eq hname hplace
  generalize Path.place (Path.child directory name) = p at *
  by_cases hmem : p ∈ ts.map Table.place
  · -- a run that left no row behind began with this number before
    obtain ⟨t, ht, rfl⟩ := List.mem_map.mp hmem
    have hbegan : t.firstId = n := hfirst t ht rfl
    obtain ⟨before, after, rfl⟩ := List.append_of_mem ht
    refine ⟨before, [t], after, by simp, ?_, h.ne_place, ?_⟩
    · rw [← hbegan]
      exact h.rows_eq_nil (by omega)
    · have hfiles : tablesIn s directory = before.map Table.file
          ++ (t.place, t.content) :: after.map Table.file := by
        rw [h.files, List.map_append]
        rfl
      exact Store.filter_put_old hfiles (ne_place_of_file h.ne_place) c
  · have hnew : s.file? p = none := by
      rw [Option.eq_none_iff_forall_ne_some]
      intro d hd
      have hold := mem_tablesIn hd htable
      rw [h.files] at hold
      obtain ⟨t, ht, heq⟩ := List.mem_map.mp hold
      exact hmem (List.mem_map.mpr ⟨t, ht, congrArg Prod.fst heq⟩)
    refine ⟨ts, [], [], by simp, by simp, ?_, ?_⟩
    · intro t ht heq
      rw [List.append_nil] at ht
      exact hmem (heq ▸ List.mem_map_of_mem ht)
    · rw [← h.files]
      exact Store.filter_put_new htable hnew c

/-- The table of a run takes its place among those that were there. -/
theorem Tables.insert {before old after : List Table} {u : Table}
    {ys : List (Entry × Int)} {s' : Store}
    (h : Tables s directory xs (before ++ old ++ after))
    (hempty : ∀ t ∈ old ++ after, t.rows = [] ∧ u.firstId ≤ t.firstId)
    (hother : ∀ t ∈ before ++ after, t.place ≠ u.place)
    (hfiles : tablesIn s' directory
      = before.map Table.file ++ u.file :: after.map Table.file)
    (hleft : u.IsLeft directory (lastOf directory (xs ++ ys)))
    (hfirst : u.firstId = lastOf directory xs + 1)
    (hrows : u.rows = rowsOf ys) :
    Tables s' directory (xs ++ ys) (before ++ u :: after) := by
  have hsub : (before ++ after).Sublist (before ++ old ++ after) := by
    rw [List.append_assoc]
    exact (List.sublist_append_right old after).append_left before
  have hkept (t : Table) (ht : t ∈ before ++ after) :
      t.IsLeft directory (lastOf directory xs) := h.left t (hsub.subset ht)
  have hgrown := lastOf_append_le directory xs ys
  have hnil {ts : List Table} (hts : ∀ t ∈ ts, t.rows = []) :
      (ts.map Table.rows).flatten = [] := by
    simpa using hts
  constructor
  case files =>
    rw [hfiles, List.map_append, List.map_cons]
  case left =>
    intro t ht
    rcases List.mem_append.mp ht with ht | ht
    · exact (hkept t (List.mem_append_left _ ht)).mono hgrown
    rcases List.mem_cons.mp ht with rfl | ht
    · exact hleft
    · exact (hkept t (List.mem_append_right _ ht)).mono hgrown
  case distinct =>
    rw [List.map_append, List.map_cons, List.nodup_middle, List.nodup_cons,
      ← List.map_append]
    refine ⟨?_, h.distinct.sublist (hsub.map _)⟩
    intro hmem
    obtain ⟨t, ht, heq⟩ := List.mem_map.mp hmem
    exact hother t ht heq
  case rise =>
    obtain ⟨hbefore, hafter, hcross⟩ :=
      List.pairwise_append.mp (h.rise.sublist hsub)
    have hbehind (t : Table) (ht : t ∈ after) : u.firstId ≤ t.firstId :=
      (hempty t (List.mem_append_right _ ht)).2
    refine List.pairwise_append.mpr
      ⟨hbefore, List.pairwise_cons.mpr ⟨hbehind, hafter⟩, ?_⟩
    intro t ht v hv
    rcases List.mem_cons.mp hv with rfl | hv
    · rw [hfirst]
      exact (hkept t (List.mem_append_left _ ht)).firstId_le
    · exact hcross t ht v hv
  case rows =>
    -- what is behind the new table adds nothing to the rows
    have hold := h.rows
    rw [List.append_assoc, List.map_append, List.flatten_append,
      hnil fun t ht => (hempty t ht).1, List.append_nil] at hold
    rw [List.map_append, List.map_cons, List.flatten_append, List.flatten_cons,
      hold, hrows, hnil fun t ht => (hempty t (List.mem_append_right _ ht)).1,
      List.append_nil, rowsOf_append]

-- ================================================================= runs

/-- What a journal holds after runs that used up numbers: the lines and the
tables of their entries. -/
structure Kept (s : Store) (directory : Text) (xs : List (Entry × Int)) :
    Prop where
  lines : s.Holds (linesPath directory) (linesOf (attemptsOf xs))
  rise : (attemptsOf xs).Pairwise fun a b => a.id < b.id
  tables : ∃ ts, Tables s directory xs ts

namespace Kept

/-- A directory without files is a journal without runs. -/
theorem of_empty (h : filesIn s directory = []) : Kept s directory [] := by
  obtain ⟨hlines, htables⟩ := of_filesIn_eq_nil h
  refine ⟨.inr ⟨hlines, rfl⟩, .nil, [], htables, ?_, .nil, .nil, rfl⟩
  exact fun t ht => absurd ht List.not_mem_nil

theorem congr (h : Kept s directory xs) {s' : Store}
    (hfiles : s'.files = s.files) : Kept s' directory xs := by
  obtain ⟨hlines, hrise, ts, htables⟩ := h
  refine ⟨?_, hrise, ts, ?_, htables.left, htables.distinct, htables.rise,
    htables.rows⟩
  · rw [Store.Holds, Store.file?, hfiles]
    exact hlines
  · rw [tablesIn, hfiles]
    exact htables.files

/-- A writer that is opened begins behind the numbers in use, and its table
lies on a shelf of its own. -/
theorem opened (h : Kept s directory xs) {time : Json} {w : Writer}
    {log : List Text} {s₁ : Store}
    (hopen : openAt s directory time = (⟨.ok w, log⟩, s₁)) :
    w.nextId = lastOf directory xs + 1 ∧ w.directory = directory
      ∧ Ready w s₁ (linesOf (attemptsOf xs))
      ∧ ∃ m name before old after,
        tableName m w.nextId = .ok name
          ∧ Tables s directory xs (before ++ old ++ after)
          ∧ (∀ t ∈ old ++ after, t.rows = [] ∧ w.nextId ≤ t.firstId)
          ∧ (∀ t ∈ before ++ after,
            t.place ≠ Path.place (Path.child directory name))
          ∧ Holding w s₁ ⟨directory, Path.place (Path.child directory name),
            before.map Table.file, after.map Table.file⟩ [] := by
  obtain ⟨hlines, -, ts, htables⟩ := h
  have hscalar : (linesOf (attemptsOf xs)).IsScalar :=
    isScalar_linesOf _
  obtain ⟨-, hnext, hdirectory, hready⟩ := openAt_ready hopen hlines hscalar
  refine ⟨hnext, hdirectory, hready, ?_⟩
  obtain ⟨f, hf, -⟩ | ⟨_, m, name, heq, hname, hw, hfiles⟩ := openAt_cases hopen
  · cases hf
  cases heq
  obtain ⟨before, old, after, rfl, hempty, hother, hput⟩ :=
    htables.make hname hnext (.table [(.mark, .other)])
  obtain ⟨hisName, hne⟩ := isName_tableName hname
  refine ⟨m, name, before, old, after, hname, htables, hempty, hother, ?_⟩
  have hpath : w.tablePath = Path.child directory name := by rw [hw]
  rw [hpath] at hfiles
  constructor
  case isOpen => rw [hw]
  case directory => exact hdirectory
  case place => rw [hpath]
  case table => exact isTable_child directory hisName hne
  case alone => exact ne_place_of_file hother
  case layers =>
    refine ⟨[(.mark, .other)], ?_, ?_, ?_⟩
    · rw [hw]
      exact .mark
    · rw [Store.file?, hfiles]
      exact Store.file?_put_self s _ _
    · rw [tablesIn, hfiles]
      exact hput

/-- A run adds its entries with their numbers, and gives the numbers of
those that fit. -/
theorem session (h : Kept s directory xs) {time : Json} {w : Writer}
    {log : List Text} {s₁ : Store}
    (hopen : openAt s directory time = (⟨.ok w, log⟩, s₁)) (es : List Entry) :
    let used := w.appendAll s₁ es
    List.Forall₂ (fun y result => Gives y.1 y.2 result)
        (numbered w.nextId es) used.1
      ∧ Kept (used.2.1.close used.2.2).2 directory
        (xs ++ numbered w.nextId es) := by
  intro used
  obtain ⟨hnext, hdirectory, hready, m, name, before, old, after, hname,
    htables, hempty, hother, hholding⟩ := h.opened hopen
  obtain ⟨hgives, hused⟩ := hholding.appendAll hready es
  obtain ⟨-, -, hready⟩ := appendAll_ready hready es
  have hready := close_ready hready
  obtain ⟨c, hclosed, hfiles⟩ := hused.close
  have hattempts : attemptsOf (xs ++ numbered w.nextId es)
      = attemptsOf xs ++ attemptsFrom w.nextId es := by
    rw [attemptsOf_append, attemptsOf_numbered]
  have habove {b : Attempt} (hb : b ∈ attemptsFrom w.nextId es) :
      w.nextId ≤ b.id := by
    obtain ⟨e, n, rfl, -, hle⟩ := attempt_of_mem hb
    exact hle
  refine ⟨hgives, ?_⟩
  constructor
  case lines =>
    have hclosing : (used.2.1.close used.2.2).1.directory = directory :=
      (directory_close _ _).trans hused.directory
    have hholds := hready.holds
    rw [hclosing] at hholds
    rw [hattempts, linesOf, List.flatMap_append]
    exact hholds
  case rise =>
    rw [hattempts]
    refine List.pairwise_append.mpr
      ⟨h.rise, pairwise_attemptsFrom w.nextId es, fun a ha b hb => ?_⟩
    have hlast := id_le_lastOf directory ha
    have hb := habove hb
    omega
  case tables =>
    have hgrown := lastOf_append_le directory xs (numbered w.nextId es)
    let left : Table :=
      ⟨Path.place (Path.child directory name), c, w.nextId,
        rowsOf (numbered w.nextId es)⟩
    have hleft : left.IsLeft directory
        (lastOf directory (xs ++ numbered w.nextId es)) := by
      refine ⟨⟨m, name, hname, rfl⟩, hclosed, ?_, fun hrows => ?_⟩
      · show w.nextId ≤ _
        omega
      · obtain ⟨a, ha⟩ := exists_attempt_of_rowsOf hrows
        rw [attemptsOf_numbered] at ha
        have hmem : a ∈ attemptsOf (xs ++ numbered w.nextId es) :=
          hattempts ▸ List.mem_append_right _ ha
        exact Int.le_trans (habove ha) (id_le_lastOf directory hmem)
    exact ⟨_, htables.insert (u := left) hempty hother hfiles hleft hnext rfl⟩

/-- Opening leaves every file with a row as it is. -/
theorem spared (h : Kept s directory xs) (time : Json) {p : Place} {c : Content}
    (hfile : s.file? p = some c) (hrow : c.HoldsRow) :
    (openAt s directory time).2.file? p = some c := by
  obtain ⟨⟨⟨result, log⟩, s'⟩, hopen⟩ :
      ∃ y, openAt s directory time = y := ⟨_, rfl⟩
  rw [hopen]
  obtain ⟨f, -, hfiles⟩ | ⟨w, m, name, rfl, hname, hw, hfiles⟩ :=
    openAt_cases hopen
  · rw [Store.file?, hfiles]
    exact hfile
  obtain ⟨hnext, -⟩ := h.opened hopen
  have hpath : w.tablePath = Path.child directory name := by rw [hw]
  have hne : p ≠ Path.place w.tablePath := by
    rintro rfl
    rw [hpath] at hfile
    obtain ⟨ts, htables⟩ := h.tables
    obtain ⟨hisName, hneLines⟩ := isName_tableName hname
    have hmem := mem_tablesIn hfile (isTable_child directory hisName hneLines)
    rw [htables.files] at hmem
    obtain ⟨t, ht, heq⟩ := List.mem_map.mp hmem
    have hleft := htables.left t ht
    have hfirst := hleft.firstId_eq hname (congrArg Prod.fst heq)
    have hrows := hleft.rows_eq_nil (by omega)
    have hcontent : t.content = c := congrArg Prod.snd heq
    exact (hcontent ▸ hleft.closed).ne_nil hrow hrows
  rw [Store.file?, hfiles]
  exact (Store.file?_put_of_ne s hne _).trans hfile

/-- Runs add the entries of their sessions, and give the numbers of those
that fit. -/
theorem carryOut (h : Kept s directory xs) (runs : List Run) :
    let y := carryOut s directory runs
    (∀ x ∈ y.1, List.Forall₂ (fun e result => Gives e.1 e.2 result)
        x.numbered x.results)
      ∧ Kept y.2 directory (xs ++ y.1.flatMap Session.numbered) := by
  induction runs generalizing s xs with
  | nil =>
      refine ⟨fun x hx => absurd hx List.not_mem_nil, ?_⟩
      exact (List.append_nil xs).symm ▸ h
  | cons run runs ih =>
      obtain ⟨⟨⟨result, log⟩, s₁⟩, hopen⟩ :
          ∃ y, openAt s directory run.time = y := ⟨_, rfl⟩
      unfold Journal.carryOut
      rw [hopen]
      cases result with
      | error f =>
          obtain ⟨-, -, hfiles⟩ | ⟨_, _, _, heq, -⟩ := openAt_cases hopen
          · exact ih (h.congr hfiles)
          · cases heq
      | ok w =>
          obtain ⟨hgives, hkept⟩ := h.session hopen run.entries
          obtain ⟨hrest, hkept'⟩ := ih hkept
          refine ⟨List.forall_mem_cons.mpr ⟨hgives, hrest⟩, ?_⟩
          rw [List.append_assoc] at hkept'
          exact hkept'

end Kept

-- ============================================================== account

/-- What becomes of an entry that is handed in under a number, with these
lines in the end. The number is given back exactly if the values fit; then
the entry has a line that agrees with its row. It has a line also if it is
refused, unless a number in it has too many digits. -/
structure Answered (lines : List Text) (e : Entry) (n : Int)
    (result : Except Fault Int) : Prop where
  gives : ∀ id, result = .ok id ↔ e.Fits n ∧ id = n
  returned : ∀ id, result = .ok id → ∃ line ∈ lines,
    IsReadAs (e.attempt id) line ∧ Entry.Agrees line (e.row id)
  kept : FewDigits n → (∀ k ∈ e.outcome.status, FewDigits k) →
    ∃ line ∈ lines, IsReadAs (e.attempt n) line

/-- What is to be found in a journal after some sessions. -/
structure Accounted (s : Store) (directory : Text) (sessions : List Session) :
    Prop where
  /-- Each line is that of an attempt, and their numbers rise. -/
  lines : List.Forall₂ IsReadAs
    (attemptsOf (sessions.flatMap Session.numbered))
    (linesAt s (linesPath directory))
  rise : (attemptsOf (sessions.flatMap Session.numbered)).Pairwise
    fun a b => a.id < b.id
  answered : ∀ x ∈ sessions,
    List.Forall₂ (fun e result =>
        Answered (linesAt s (linesPath directory)) e.1 e.2 result)
      x.numbered x.results
  /-- No writer that is opened now overwrites a file with a row. -/
  spared : ∀ time p c, s.file? p = some c → c.HoldsRow →
    (openAt s directory time).2.file? p = some c
  /-- The tables are different files, and one after the other they hold the
  rows of all entries that fit, each once and in the order of the numbers. -/
  distinct : ((tablesIn s directory).map (·.1)).Nodup
  rows : ∃ tables : List (List Row),
    (tablesIn s directory).map (·.2.rows?) = tables.map some
      ∧ tables.flatten = rowsOf (sessions.flatMap Session.numbered)
      ∧ tables.flatten.Pairwise fun a b => a.id < b.id

theorem Kept.linesAt_eq (h : Kept s directory xs) :
    linesAt s (linesPath directory) = (attemptsOf xs).map Attempt.line :=
  linesAt_linesOf h.lines

/-- An entry that has a line has it among the lines. -/
theorem Kept.exists_line (h : Kept s directory xs) {e : Entry} {n : Int}
    (hx : (e, n) ∈ xs) (hline : e.HasLine n) :
    ∃ line ∈ linesAt s (linesPath directory), IsReadAs (e.attempt n) line := by
  have hmem := mem_attemptsOf hx hline
  rw [h.linesAt_eq]
  exact ⟨_, List.mem_map_of_mem hmem,
    (haveLines_attemptsOf xs).isReadAs_line hmem⟩

theorem Kept.answered (h : Kept s directory xs) {e : Entry} {n : Int}
    {result : Except Fault Int} (hx : (e, n) ∈ xs) (hgives : Gives e n result) :
    Answered (linesAt s (linesPath directory)) e n result where
  gives := hgives
  returned id hid := by
    obtain ⟨hfits, rfl⟩ := (hgives id).mp hid
    obtain ⟨line, hline, hread⟩ := h.exists_line hx hfits.hasLine
    exact ⟨line, hline, hread, hfits.agrees hread⟩
  kept hn hstatus := h.exists_line hx (Entry.hasLine_iff.mpr ⟨hn, hstatus⟩)

/-- Whatever is handed in, in whatever runs at whatever times: every entry
is accounted for. Since this is so after any runs, it is also so before each
of them, when its writer is opened. -/
theorem runs_accounted (hempty : filesIn s directory = [])
    (runs : List Run) :
    Accounted (carryOut s directory runs).2 directory
      (carryOut s directory runs).1 := by
  obtain ⟨hgives, hkept⟩ := (Kept.of_empty hempty).carryOut runs
  generalize carryOut s directory runs = y at *
  obtain ⟨sessions, s'⟩ := y
  rw [List.nil_append] at hkept
  obtain ⟨ts, htables⟩ := hkept.tables
  constructor
  case lines =>
    rw [hkept.linesAt_eq]
    exact (haveLines_attemptsOf _).forall₂
  case rise => exact hkept.rise
  case answered =>
    intro x hx
    have hin : ∀ e ∈ x.numbered, e ∈ sessions.flatMap Session.numbered :=
      fun e he => List.mem_flatMap.mpr ⟨x, hx, he⟩
    have hboth := (List.forall₂_and_left _ _).mpr ⟨hin, hgives x hx⟩
    exact hboth.imp fun e result h => hkept.answered h.1 h.2
  case spared => exact fun time p c => hkept.spared time
  case distinct =>
    rw [htables.files, List.map_map]
    exact htables.distinct
  case rows =>
    refine ⟨ts.map Table.rows, ?_, htables.rows, ?_⟩
    · rw [htables.files, List.map_map, List.map_map]
      refine List.map_congr_left fun t ht => ?_
      exact (htables.left t ht).closed.rows?_eq
    · rw [htables.rows]
      exact pairwise_rowsOf hkept.rise

/-- An outcome whose status fits no column. -/
def oversized : Entry :=
  ⟨"A1", ⟨.failure, some 70000, "http 70000", .zero⟩, .zero⟩

/-- A run without entries, one with two, and one in the same second. -/
def threeRuns : List Run :=
  [⟨.int 0, []⟩, ⟨.int 0, [paired, oversized]⟩, ⟨.int 0, [paired]⟩]

/-- The table of the first run is made anew by the second; the third has
one of its own, and the number of the entry that was refused is used up. -/
theorem runs_accounted_within_a_second :
    filesIn ⟨[], []⟩ "log" = []
      ∧ (carryOut ⟨[], []⟩ "log" threeRuns).1.map (·.firstId) = [1, 1, 3]
      ∧ (carryOut ⟨[], []⟩ "log" threeRuns).1.flatMap
          (·.results.map Except.toOption) = [some 1, none, some 3]
      ∧ Accounted (carryOut ⟨[], []⟩ "log" threeRuns).2 "log"
          (carryOut ⟨[], []⟩ "log" threeRuns).1 := by
  refine ⟨rfl, ?_, ?_, runs_accounted rfl threeRuns⟩
  · decide +kernel
  · decide +kernel

end DevicePairing.Journal
