/-
What a writer does to its table.

Beside its line, an outcome that is handed in gets a row, if its values
fit. `Holding` is what the table of an open writer comes to: the rows are
laid down behind each other, and the table lies among others that the
writer leaves alone. Handing in keeps it, row by row, whatever becomes of
the lines in between; closing makes a table of it that can be read.
-/
import DevicePairing.Proofs.Journal.Tables

namespace DevicePairing.Journal

open Layers (Laid)

-- ============================================================== entries

/-- Entries with the numbers they use up, from a first number on. -/
def numbered (n : Int) : List Entry → List (Entry × Int)
  | [] => []
  | e :: es => (e, n) :: numbered (n + 1) es

/-- The attempts of entries that have lines. -/
def attemptsOf (xs : List (Entry × Int)) : List Attempt :=
  (xs.filter fun x => x.1.HasLine x.2).map fun x => x.1.attempt x.2

/-- The rows of entries whose values fit. -/
def rowsOf (xs : List (Entry × Int)) : List Row :=
  (xs.filter fun x => x.1.Fits x.2).map fun x => x.1.row x.2

theorem attemptsOf_append (xs ys : List (Entry × Int)) :
    attemptsOf (xs ++ ys) = attemptsOf xs ++ attemptsOf ys := by
  rw [attemptsOf, List.filter_append, List.map_append]
  rfl

theorem rowsOf_append (xs ys : List (Entry × Int)) :
    rowsOf (xs ++ ys) = rowsOf xs ++ rowsOf ys := by
  rw [rowsOf, List.filter_append, List.map_append]
  rfl

theorem attemptsOf_numbered (n : Int) (es : List Entry) :
    attemptsOf (numbered n es) = attemptsFrom n es := by
  induction es generalizing n with
  | nil => rfl
  | cons e es ih =>
      rw [numbered, attemptsOf, attemptsFrom, List.filter_cons, ← ih (n + 1)]
      by_cases hline : e.HasLine n
      · simp [hline, attemptsOf]
      · simp [hline, attemptsOf]

theorem mem_attemptsOf {xs : List (Entry × Int)} {e : Entry} {n : Int}
    (h : (e, n) ∈ xs) (hline : e.HasLine n) : e.attempt n ∈ attemptsOf xs :=
  List.mem_map.mpr ⟨(e, n), List.mem_filter.mpr ⟨h, decide_eq_true hline⟩, rfl⟩

/-- Where there is a row there is an attempt. -/
theorem exists_attempt_of_rowsOf {xs : List (Entry × Int)}
    (h : rowsOf xs ≠ []) : ∃ a, a ∈ attemptsOf xs := by
  obtain ⟨r, hr⟩ := List.exists_mem_of_ne_nil _ h
  obtain ⟨⟨e, n⟩, hx, rfl⟩ := List.mem_map.mp hr
  obtain ⟨hx, hfits⟩ := List.mem_filter.mp hx
  exact ⟨_, mem_attemptsOf hx (of_decide_eq_true hfits).hasLine⟩

/-- Rows are in the order of their attempts. -/
theorem pairwise_rowsOf {xs : List (Entry × Int)}
    (h : (attemptsOf xs).Pairwise fun a b => a.id < b.id) :
    (rowsOf xs).Pairwise fun a b => a.id < b.id := by
  have hsub : (xs.filter fun x => x.1.Fits x.2).Sublist
      (xs.filter fun x => x.1.HasLine x.2) :=
    List.monotone_filter_right xs fun x hfits =>
      decide_eq_true (of_decide_eq_true hfits : x.1.Fits x.2).hasLine
  exact List.pairwise_map.mpr ((List.pairwise_map.mp h).sublist hsub)

-- =========================================================== one writer

/-- What handing an entry in under a number gives: the number exactly if
the values of the entry fit the columns. -/
def Gives (e : Entry) (n : Int) (result : Except Fault Int) : Prop :=
  ∀ id, result = .ok id ↔ e.Fits n ∧ id = n

/-- Where a table lies: in which directory, at which place, and between which
other tables. -/
structure Shelf where
  directory : Text
  place : Place
  before : List (Place × Content)
  after : List (Place × Content)

/-- The tables of the directory, with this content in the place. -/
def Shelf.around (x : Shelf) (c : Content) : List (Place × Content) :=
  x.before ++ (x.place, c) :: x.after

/-- An open writer whose table lies on a shelf, with rows in it. -/
structure Holding (w : Writer) (s : Store) (x : Shelf) (rows : List Row) :
    Prop where
  isOpen : w.isOpen = true
  directory : w.directory = x.directory
  place : Path.place w.tablePath = x.place
  table : isTable x.directory x.place = true
  alone : ∀ f ∈ x.before ++ x.after, f.1 ≠ x.place
  layers : ∃ layers, Laid w.rows rows layers
    ∧ s.file? x.place = some (.table layers)
    ∧ tablesIn s x.directory = x.around (.table layers)

variable {w : Writer} {s : Store} {t : Text} {rows : List Row} {x : Shelf}

/-- An entry that fits gives its number and a row; another is refused. -/
theorem append_cases (h : Ready w s t) (hopen : w.isOpen = true) (e : Entry) :
    ∃ c, let s₁ := s.put (Path.place (linesPath w.directory)) c
      let y := w.append s (.str e.uniqueId) e.outcome.report (.float e.time)
      (e.Fits w.nextId →
          y = (.ok w.nextId, w.advance.writeRow s₁ (e.row w.nextId)))
        ∧ (¬e.Fits w.nextId →
          ∃ f, f.family = .other ∧ y = (.error f, w.advance, s₁)) := by
  obtain ⟨-, happend⟩ := append_eq h e
  refine ⟨.bytes (t ++ e.added w.nextId).utf8, ?_, ?_⟩
  · intro hfits
    have hrow : (e.attempt w.nextId).row = .ok (e.row w.nextId) :=
      Entry.row_eq_ok.mpr ⟨hfits, rfl⟩
    rw [happend, if_pos hfits.hasLine, if_pos hopen, hrow]
  · intro hnot
    rw [happend, if_pos hopen]
    split
    · cases hrow : (e.attempt w.nextId).row with
      | error f => exact ⟨f, Entry.family_of_row hrow, rfl⟩
      | ok r => exact absurd (Entry.row_eq_ok.mp hrow).1 hnot
    · exact ⟨_, rfl, rfl⟩

namespace Holding

/-- What is put in the place of the lines does not touch the tables. -/
theorem put_lines (h : Holding w s x rows) (c : Content) :
    Holding w (s.put (Path.place (linesPath w.directory)) c) x rows := by
  obtain ⟨hopen, hdirectory, hplace, htable, halone, layers, hlaid, hfile,
    htables⟩ := h
  have hne : x.place ≠ Path.place (linesPath x.directory) := by
    intro heq
    rw [heq, isTable_lines] at htable
    cases htable
  refine ⟨hopen, hdirectory, hplace, htable, halone, layers, hlaid, ?_, ?_⟩
  · rw [hdirectory, Store.file?_put_of_ne s hne, hfile]
  · rw [tablesIn, hdirectory,
      Store.filter_put_other (isTable_lines x.directory)]
    exact htables

/-- A piece of the table comes on what was laid down. -/
theorem writePiece (h : Holding w s x rows) (span : Span) (piece : Piece) :
    let s' := s.writePiece w.tablePath span piece
    ∃ layers, Laid w.rows rows layers
      ∧ s'.file? x.place = some (.table ((span, piece) :: layers))
      ∧ tablesIn s' x.directory
        = x.around (.table ((span, piece) :: layers)) := by
  obtain ⟨-, -, hplace, -, halone, layers, hlaid, hfile, htables⟩ := h
  have hput : s.writePiece w.tablePath span piece
      = s.put x.place (.table ((span, piece) :: layers)) := by
    rw [Store.writePiece, hplace, hfile]
    rfl
  dsimp only
  rw [hput]
  refine ⟨layers, hlaid, Store.file?_put_self _ _ _, ?_⟩
  exact Store.filter_put_old htables halone _

theorem writeRow (h : Holding w s x rows) (r : Row) :
    Holding (w.writeRow s r).1 (w.writeRow s r).2 x (rows ++ [r]) := by
  obtain ⟨layers, hlaid, hfile, htables⟩ :=
    h.writePiece (.ofRow w.rows r) (.row r)
  exact ⟨h.isOpen, h.directory, h.place, h.table, h.alone, _, hlaid.row r,
    hfile, htables⟩

theorem advance (h : Holding w s x rows) : Holding w.advance s x rows :=
  ⟨h.isOpen, h.directory, h.place, h.table, h.alone, h.layers⟩

/-- Handing an entry in adds its row, if its values fit. -/
theorem append (h : Holding w s x rows) (hready : Ready w s t) (e : Entry) :
    let y := w.append s (.str e.uniqueId) e.outcome.report (.float e.time)
    Gives e w.nextId y.1
      ∧ Holding y.2.1 y.2.2 x (rows ++ rowsOf [(e, w.nextId)]) := by
  intro y
  obtain ⟨c, hfits, hnot⟩ := append_cases hready h.isOpen e
  have hadvance := (h.put_lines c).advance
  by_cases he : e.Fits w.nextId
  · have hy : y = _ := hfits he
    have hrows : rowsOf [(e, w.nextId)] = [e.row w.nextId] := by
      simp [rowsOf, he]
    rw [hy, hrows]
    refine ⟨fun id => ?_, hadvance.writeRow _⟩
    simp [he, eq_comm]
  · obtain ⟨f, -, hf⟩ := hnot he
    have hy : y = _ := hf
    have hrows : rowsOf [(e, w.nextId)] = [] := by
      simp [rowsOf, he]
    rw [hy, hrows, List.append_nil]
    refine ⟨fun id => ?_, hadvance⟩
    simp [he]

/-- Handing entries in adds the rows of those whose values fit. -/
theorem appendAll (h : Holding w s x rows) (hready : Ready w s t)
    (es : List Entry) :
    let y := w.appendAll s es
    List.Forall₂ (fun e result => Gives e.1 e.2 result)
        (numbered w.nextId es) y.1
      ∧ Holding y.2.1 y.2.2 x (rows ++ rowsOf (numbered w.nextId es)) := by
  induction es generalizing w s t rows with
  | nil => exact ⟨.nil, (List.append_nil rows).symm ▸ h⟩
  | cons e es ih =>
      obtain ⟨-, hnext, -, hready'⟩ := append_ready hready e
      obtain ⟨hgives, hholding⟩ := h.append hready e
      unfold Writer.appendAll
      generalize w.append s (.str e.uniqueId) e.outcome.report (.float e.time)
        = y at *
      obtain ⟨result, w₁, s₁⟩ := y
      obtain ⟨hresults, hholding'⟩ := ih hholding hready'
      dsimp only at hnext hgives hresults hholding'
      rw [hnext] at hresults hholding'
      rw [List.append_assoc, ← rowsOf_append] at hholding'
      exact ⟨.cons hgives hresults, hholding'⟩

/-- Closing makes a table of it that can be read. -/
theorem close (h : Holding w s x rows) :
    ∃ c : Content, c.IsClosed rows
      ∧ tablesIn (w.close s).2 x.directory = x.around c := by
  obtain ⟨layers, hlaid, -, htables⟩ :=
    h.writePiece (.ofIndex w.rows) (.index w.rows)
  rw [Writer.close, if_pos h.isOpen]
  exact ⟨_, ⟨w.rows, layers, hlaid, rfl⟩, htables⟩

end Holding

end DevicePairing.Journal
