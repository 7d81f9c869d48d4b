/-
What a table holds that one writer has laid down.

A writer lays its table down from the beginning: the mark, a row behind
the other, the index behind the rows. So nothing that it lays down comes
on anything that lies there, and once the index is there the table is
read back as the rows in their order.

A record becomes a row exactly if its values fit the columns; the row has
the values of the record then. And the name of a table ends in the first
number of its writer, so tables of writers that began with different
numbers are different files, whatever the clock said.
-/
import DevicePairing.Proofs.Journal.Session
import Mathlib.Data.List.Forall2

namespace DevicePairing

-- ============================================================ stretches

namespace Span

theorem start_le_stop (s : Span) : s.start ≤ s.stop := by
  obtain ⟨start, widths⟩ := s
  induction widths generalizing start with
  | nil => exact Nat.le_refl start
  | cons w widths ih => exact Nat.le_trans (Nat.le_add_right start w) (ih _)

/-- A row takes some bytes: its first column does. -/
theorem start_lt_stop_ofRow (spans : List Span) (r : Row) :
    (ofRow spans r).start < (ofRow spans r).stop := by
  have hrest := start_le_stop ⟨(ofRow spans r).start + 96, r.widths.tail⟩
  exact Nat.lt_of_lt_of_le (Nat.lt_add_of_pos_right (by decide)) hrest

/-- Where the next stretch begins behind others. -/
def endOf (spans : List Span) : Nat := (spans.getLast?.getD mark).stop

/-- The end of some spans is that of the last one. -/
theorem endOf_append (spans : List Span) (span : Span) :
    endOf (spans ++ [span]) = span.stop := by
  rw [endOf, List.getLast?_concat]
  rfl

end Span

-- =============================================================== layers

namespace Layers

/-- How rows are laid down: each behind the ones before, the latest layer
first. -/
inductive Laid : List Span → List Row → Layers → Prop
  | mark : Laid [] [] [(.mark, .other)]
  | row {spans : List Span} {rows : List Row} {layers : Layers}
    (h : Laid spans rows layers) (r : Row) :
      Laid (spans ++ [.ofRow spans r]) (rows ++ [r])
        ((.ofRow spans r, .row r) :: layers)

/-- Rows that lie on stretches unharmed. -/
def Lie (layers : Layers) (spans : List Span) (rows : List Row) : Prop :=
  List.Forall₂ (fun span r => layers.at? span = some (.row r)
    ∧ span.start < span.stop ∧ span.stop ≤ layers.size) spans rows

variable {spans : List Span} {rows : List Row} {layers : Layers}

theorem size_cons (span : Span) (piece : Piece) (layers : Layers) :
    size ((span, piece) :: layers) = max span.stop layers.size := rfl

/-- A layer behind a stretch is no harm to it. -/
theorem at?_cons_of_le {span old : Span} (hsome : old.start < old.stop)
    (hle : old.stop ≤ span.start) (piece : Piece) :
    at? ((span, piece) :: layers) old = layers.at? old := by
  have hne : span ≠ old := by
    rintro rfl
    omega
  have hmeets : span.meets old = false := by
    rw [Span.meets, Bool.and_eq_false_iff]
    left
    exact decide_eq_false (Nat.not_lt.mpr hle)
  rw [at?, if_neg hne, hmeets, if_neg Bool.false_ne_true]

/-- A layer that begins behind all others covers none of them. -/
theorem Lie.cons (h : Lie layers spans rows) {span : Span}
    (hle : layers.size ≤ span.start) (piece : Piece) :
    Lie ((span, piece) :: layers) spans rows := by
  refine List.Forall₂.imp (fun old r hr => ?_) h
  obtain ⟨hrow, hsome, hstop⟩ := hr
  refine ⟨?_, hsome, Nat.le_trans hstop (Nat.le_max_right _ _)⟩
  rw [at?_cons_of_le hsome (Nat.le_trans hstop hle), hrow]

namespace Laid

/-- Layers that were laid out end where their last span does. -/
theorem size_eq (h : Laid spans rows layers) :
    layers.size = Span.endOf spans := by
  induction h with
  | mark => rfl
  | @row spans rows layers h r ih =>
      rw [size_cons, ih, Span.endOf_append]
      exact Nat.max_eq_left (Span.start_le_stop (.ofRow spans r))

/-- Layers that were laid out lie where they were put. -/
theorem lie (h : Laid spans rows layers) : Lie layers spans rows := by
  induction h with
  | mark => exact .nil
  | @row spans rows layers h r ih =>
      have hstart : layers.size ≤ (Span.ofRow spans r).start :=
        Nat.le_of_eq h.size_eq
      refine List.rel_append (ih.cons hstart (.row r)) (.cons ⟨?_, ?_, ?_⟩ .nil)
      · rw [at?, if_pos rfl]
      · exact Span.start_lt_stop_ofRow spans r
      · exact Nat.le_max_left _ _

/-- No other rows are there. -/
theorem mem_of_row (h : Laid spans rows layers) {span : Span} {r : Row}
    (hr : (span, .row r) ∈ layers) : r ∈ rows := by
  induction h with
  | mark =>
      cases List.mem_singleton.mp hr
  | row h r' ih =>
      rcases List.mem_cons.mp hr with heq | hr
      · cases heq
        exact List.mem_append_right _ List.mem_cons_self
      · exact List.mem_append_left _ (ih hr)

end Laid

/-- Layers that lie at spans are read back from there. -/
theorem mapM_row? (h : Lie layers spans rows) :
    spans.mapM layers.row? = some rows := by
  induction h with
  | nil => rfl
  | cons hr _ ih =>
      rw [List.mapM_cons, ih, row?, hr.1]
      rfl

/-- With the index behind them, the rows are read back. -/
theorem Laid.rows?_index (h : Laid spans rows layers) :
    rows? ((.ofIndex spans, .index spans) :: layers) = some rows := by
  have hstart : layers.size ≤ (Span.ofIndex spans).start :=
    Nat.le_of_eq h.size_eq
  have hstop := Nat.le_trans hstart (Span.start_le_stop _)
  have hfind : List.find?
      (fun x => x.1.stop
        = size ((Span.ofIndex spans, Piece.index spans) :: layers))
      ((Span.ofIndex spans, Piece.index spans) :: layers)
      = some (Span.ofIndex spans, Piece.index spans) := by
    refine List.find?_cons_of_pos (decide_eq_true ?_)
    rw [size_cons, Nat.max_eq_left hstop]
  rw [rows?, hfind]
  simp only [at?, if_true]
  exact mapM_row? (h.lie.cons hstart (.index spans))

end Layers

namespace Content

open Layers (Laid)

/-- A table that was closed over rows. -/
def IsClosed (c : Content) (rows : List Row) : Prop :=
  ∃ spans layers, Laid spans rows layers
    ∧ c = .table ((.ofIndex spans, .index spans) :: layers)

/-- Whether a row was ever laid down in a file. -/
def HoldsRow (c : Content) : Prop := ∃ span r, (span, .row r) ∈ c.layers

variable {c : Content} {rows : List Row}

/-- A closed table is read back. -/
theorem IsClosed.rows?_eq (h : c.IsClosed rows) : c.rows? = some rows := by
  obtain ⟨spans, layers, hlaid, rfl⟩ := h
  exact hlaid.rows?_index

theorem IsClosed.ne_nil (h : c.IsClosed rows) (hrow : c.HoldsRow) :
    rows ≠ [] := by
  obtain ⟨spans, layers, hlaid, rfl⟩ := h
  obtain ⟨span, r, hr⟩ := hrow
  rcases List.mem_cons.mp hr with heq | hr
  · cases heq
  · exact List.ne_nil_of_mem (hlaid.mem_of_row hr)

end Content

namespace Journal

open DevicePairing.Path (IsName)

-- ================================================================= rows

theorem fitsBits_mono {n : Int} (h : fitsBits 16 n = true) :
    fitsBits 64 n = true := by
  have hle : pow2 (16 - 1) ≤ pow2 (64 - 1) := by decide
  simp only [fitsBits, Bool.and_eq_true, decide_eq_true_eq] at h ⊢
  omega

/-- Whether a number has no more digits than it may be written with. -/
def FewDigits (n : Int) : Prop :=
  (Nat.toDigits 10 n.natAbs).length ≤ Numeral.digitLimit

instance (n : Int) : Decidable (FewDigits n) :=
  inferInstanceAs (Decidable (_ ≤ _))

/-- A number of 64 bits has few digits. -/
theorem fewDigits_of_fitsBits {n : Int} (h : fitsBits 64 n = true) :
    FewDigits n := by
  have hpow : pow2 (64 - 1) < pow10 19 := by decide
  simp only [fitsBits, Bool.and_eq_true, decide_eq_true_eq] at h
  have hlt : n.natAbs < pow10 19 := by omega
  exact Nat.le_trans ((lt_pow10_iff (by decide)).mp hlt) (by decide)

namespace Entry

/-- The row that an entry becomes under a number. -/
def row (e : Entry) (n : Int) : Row where
  id := n
  uniqueId := some e.uniqueId
  result := e.outcome.result.name
  status := e.outcome.status
  reason := some e.outcome.reason
  elapsed := e.outcome.elapsed.roundTenths.toBinary32
  time := e.time

/-- Whether the values of an entry fit the columns of a table. -/
def Fits (e : Entry) (n : Int) : Prop :=
  fitsBits 64 n = true ∧ (∀ k ∈ e.outcome.status, fitsBits 16 k = true)
    ∧ e.uniqueId.IsScalar ∧ e.outcome.reason.IsScalar

instance (t : Text) : Decidable t.IsScalar :=
  inferInstanceAs (Decidable (∀ p ∈ t, p.isSurrogate = false))

instance (e : Entry) (n : Int) : Decidable (e.Fits n) :=
  inferInstanceAs (Decidable (_ ∧ _))

/-- A text fits a column if it can be encoded. -/
theorem textColumn_eq_ok {t : Text} {x : Option Text} :
    Attempt.textColumn (.str t) = .ok x ↔ t.IsScalar ∧ x = some t := by
  rw [← loneSurrogate?_eq_none_iff, Attempt.textColumn]
  cases t.loneSurrogate? with
  | none => simp [eq_comm]
  | some f => simp

/-- A status fits its column if it has 16 bits, and so does none. -/
theorem statusColumn_eq_ok {o : Outcome} {x : Option Int} :
    Attempt.statusColumn o.report.status = .ok x
      ↔ (∀ k ∈ o.status, fitsBits 16 k = true) ∧ x = o.status := by
  rw [Outcome.report]
  cases o.status with
  | none => simp [Attempt.statusColumn, eq_comm (a := x)]
  | some k =>
      simp only [Attempt.statusColumn, Option.mem_some_iff, forall_eq']
      split
      · rename_i hwide
        have hnot : ¬fitsBits 16 k = true := by
          intro h
          rw [fitsBits_mono h] at hwide
          cases hwide
        simp [hnot]
      split
      · simp [*, eq_comm (a := x)]
      · simp [*]

/-- An entry becomes a row exactly if its values fit. -/
theorem row_eq_ok {e : Entry} {n : Int} {r : Row} :
    (e.attempt n).row = .ok r ↔ e.Fits n ∧ r = e.row n := by
  unfold Attempt.row
  split
  · rename_i hwide
    change (!fitsBits 64 n) = true at hwide
    have hnot : ¬fitsBits 64 n = true := by simpa using hwide
    refine iff_of_false (fun h => ?_) fun h => hnot h.1.1
    cases h
  · rename_i hfits
    change ¬(!fitsBits 64 n) = true at hfits
    have hn : fitsBits 64 n = true := by simpa using hfits
    simp only [bind_eq_ok, attempt, textColumn_eq_ok, statusColumn_eq_ok]
    constructor
    · rintro ⟨_, ⟨hid, rfl⟩, _, ⟨hstatus, rfl⟩, _, ⟨hreason, rfl⟩, time,
        htime, h⟩
      cases htime
      cases h
      exact ⟨⟨hn, hstatus, hid, hreason⟩, rfl⟩
    · rintro ⟨⟨-, hstatus, hid, hreason⟩, rfl⟩
      exact ⟨_, ⟨hid, rfl⟩, _, ⟨hstatus, rfl⟩, _, ⟨hreason, rfl⟩, e.time, rfl,
        rfl⟩

/-- A text that does not fit is an ordinary fault, which is not handed on. -/
theorem family_of_textColumn {t : Text} {f : Fault}
    (h : Attempt.textColumn (.str t) = .error f) : f.family = .other := by
  unfold Attempt.textColumn at h
  dsimp only at h
  split at h
  · cases h
  · cases h
    rfl

theorem family_of_statusColumn {o : Outcome} {f : Fault}
    (h : Attempt.statusColumn o.report.status = .error f) :
    f.family = .other := by
  rw [Outcome.report] at h
  cases hstatus : o.status with
  | none =>
      rw [hstatus] at h
      cases h
  | some k =>
      rw [hstatus] at h
      simp only [Attempt.statusColumn] at h
      split at h
      · cases h
        rfl
      split at h
      · cases h
      · cases h
        rfl

/-- What keeps an entry from becoming a row is no interrupt and no fault of a
request. -/
theorem family_of_row {e : Entry} {n : Int} {f : Fault}
    (h : (e.attempt n).row = .error f) : f.family = .other := by
  unfold Attempt.row at h
  split at h
  · cases h
    rfl
  cases hid : Attempt.textColumn (e.attempt n).uniqueId with
  | error g =>
      rw [hid] at h
      cases h
      exact family_of_textColumn hid
  | ok id =>
      cases hstatus : Attempt.statusColumn (e.attempt n).status with
      | error g =>
          rw [hid, hstatus] at h
          cases h
          exact family_of_statusColumn hstatus
      | ok status =>
          cases hreason : Attempt.textColumn (e.attempt n).reason with
          | error g =>
              rw [hid, hstatus, hreason] at h
              cases h
              exact family_of_textColumn hreason
          | ok reason =>
              -- the time is a fraction, so its column takes it
              rw [hid, hstatus, hreason] at h
              cases h

-- ---------------------------------------------------- lines beside rows

variable {e : Entry} {n : Int}

/-- An entry has a line exactly if neither number in it is too long. -/
theorem hasLine_iff :
    e.HasLine n ↔ FewDigits n ∧ ∀ k ∈ e.outcome.status, FewDigits k := by
  have hstatus : e.outcome.report.status.isWritable = true
      ↔ ∀ k ∈ e.outcome.status, FewDigits k := by
    rw [Outcome.report]
    cases e.outcome.status with
    | none => simp [Json.isWritable]
    | some k => simp [Json.isWritable, FewDigits, Numeral.isSome_integerText?]
  have hfields : e.HasLine n
      ↔ (Json.int n).isWritable = true
        ∧ e.outcome.report.status.isWritable = true := by
    simp [HasLine, Attempt.fields, attempt, Json.isWritable,
      Json.fieldsWritable]
  rw [hfields, hstatus, Json.isWritable, Numeral.isSome_integerText?]
  rfl

/-- What becomes a row has a line as well. -/
theorem Fits.hasLine (h : e.Fits n) : e.HasLine n := by
  obtain ⟨hn, hstatus, -⟩ := h
  refine hasLine_iff.mpr ⟨fewDigits_of_fitsBits hn, fun k hk => ?_⟩
  exact fewDigits_of_fitsBits (fitsBits_mono (hstatus k hk))

/-- A field without fractions and surrogates. -/
def IsPlainField (f : Text × Json) : Prop :=
  f.1.IsScalar ∧ (∀ x, f.2 ≠ .float x) ∧ ∀ t, f.2 = .str t → t.IsScalar

/-- Such a field comes back as it is. -/
theorem IsPlainField.eq {f f' : Text × Json} (hf : IsPlainField f)
    (h : Json.FieldEcho f f') : f = f' := by
  obtain ⟨hname, hfloat, htext⟩ := hf
  obtain ⟨name, v⟩ := f
  obtain ⟨name', v'⟩ := f'
  obtain ⟨rfl, hv⟩ := h
  rw [Text.joinPairs_of_isScalar hname]
  cases hv with
  | null => rfl
  | int n => rfl
  | float x y => exact absurd rfl (hfloat x)
  | str t => rw [Text.joinPairs_of_isScalar (htext t rfl)]

/-- What is read from the line of an entry begins with its number, the device,
the result, the status and the reason, if its texts are made of characters. -/
theorem take_fields (hid : e.uniqueId.IsScalar)
    (hreason : e.outcome.reason.IsScalar) {line : Text}
    (hline : IsReadAs (e.attempt n) line) :
    ∃ fs, Json.read lineDepth line = .ok (.obj fs)
      ∧ fs.take 5 = (e.attempt n).fields.take 5 := by
  obtain ⟨-, fs, hread, hecho⟩ := hline
  refine ⟨fs, hread, ?_⟩
  have hname (s : String) : (Text.ofString s).IsScalar :=
    Text.isScalar_ofString s
  have hstr {t : Text} (ht : t.IsScalar) (s : String) :
      IsPlainField (s, .str t) :=
    ⟨hname s, by simp, fun _ heq => Json.str.inj heq ▸ ht⟩
  have hstatus : IsPlainField ("status_code", e.outcome.report.status) := by
    rw [Outcome.report]
    cases e.outcome.status with
    | none => exact ⟨hname _, by simp, by simp⟩
    | some k => exact ⟨hname _, by simp, by simp⟩
  have hplain : ∀ f ∈ (e.attempt n).fields.take 5, IsPlainField f := by
    simp only [Attempt.fields, attempt, List.take, List.forall_mem_cons]
    refine ⟨⟨hname _, by simp, by simp⟩, hstr hid _,
      hstr (hname _) _, hstatus, hstr hreason _, ?_⟩
    exact fun f hf => absurd hf List.not_mem_nil
  have hboth := (List.forall₂_and_left _ _).mpr
    ⟨hplain, List.forall₂_take 5 hecho⟩
  have heq : (e.attempt n).fields.take 5 = fs.take 5 :=
    List.forall₂_eq_eq_eq ▸ hboth.imp fun f f' h => h.1.eq h.2
  exact heq.symm

/-- A line that is read as a record with the values of a row: the number, the
device, the result, the status and the reason are the same. -/
def Agrees (line : Text) (r : Row) : Prop :=
  ∃ fs, Json.read lineDepth line = .ok (.obj fs)
    ∧ fs.take 5 = r.fields.take 5

/-- What is read from the line of an entry agrees with its row. -/
theorem Fits.agrees (h : e.Fits n) {line : Text}
    (hline : IsReadAs (e.attempt n) line) : Agrees line (e.row n) :=
  take_fields h.2.2.1 h.2.2.2 hline

end Entry

-- ================================================================ names

/-- The name of a table gives the first number of its writer away. -/
theorem tableName_inj {m m' : Moment} {n n' : Int} {name : Text}
    (h : tableName m n = .ok name) (h' : tableName m' n' = .ok name) :
    n = n' := by
  have hbehind (n : Int) :
      CodePoint.char '_' ∉ Text.ofInt n ++ Text.ofString ".parquet" := by
    have hsuffix : CodePoint.char '_' ∉ Text.ofString ".parquet" := by decide
    rw [List.mem_append, not_or, Text.ofInt_eq, List.mem_append, not_or]
    refine ⟨⟨?_, Text.not_mem_ofNat rfl _⟩, hsuffix⟩
    split <;> decide
  have hform (m : Moment) (n : Int) :
      Text.ofString "attempts_" ++ m.stamp ++ Text.ofString "_"
          ++ Text.ofInt n ++ Text.ofString ".parquet"
        = (Text.ofString "attempts_" ++ m.stamp)
          ++ CodePoint.char '_'
            :: (Text.ofInt n ++ Text.ofString ".parquet") := by
    simp [Text.ofString]
  have heq := (eq_of_tableName h).symm.trans (eq_of_tableName h')
  rw [hform, hform] at heq
  have hdigits := Text.eq_of_last_sep (hbehind n) (hbehind n') heq
  exact Text.ofInt_inj.mp (List.append_cancel_right hdigits)

-- ============================================================= directory

/-- Whether a place lies in a directory. -/
def isIn (directory p : Place) : Bool := !p.isEmpty && p.dropLast == directory

/-- The files in a directory. -/
def filesIn (s : Store) (directory : Text) : List (Place × Content) :=
  s.files.filter fun f => isIn (Path.place directory) f.1

/-- Whether a place is that of a table of a journal: in its directory, and
not that of the lines. -/
def isTable (directory : Text) (p : Place) : Bool :=
  isIn (Path.place directory) p && p != Path.place (linesPath directory)

/-- The tables of a journal. -/
def tablesIn (s : Store) (directory : Text) : List (Place × Content) :=
  s.files.filter fun f => isTable directory f.1

variable {s : Store} {directory : Text}

/-- The file of the lines is no table. -/
theorem isTable_lines (directory : Text) :
    isTable directory (Path.place (linesPath directory)) = false := by
  simp [isTable]

/-- Every other file in the directory is taken for one. -/
theorem isTable_child (directory : Text) {name : Text} (hname : IsName name)
    (hne : name ≠ Text.ofString "attempts.jsonl") :
    isTable directory (Path.place (Path.child directory name)) = true := by
  rw [isTable, Bool.and_eq_true, bne_iff_ne]
  refine ⟨?_, (beside hname hne).1.symm⟩
  rw [Path.place_child hname]
  simp [isIn]

/-- A directory without files has no lines and no tables. -/
theorem of_filesIn_eq_nil (h : filesIn s directory = []) :
    s.file? (Path.place (linesPath directory)) = none
      ∧ tablesIn s directory = [] := by
  have hout : ∀ f ∈ s.files, ¬isIn (Path.place directory) f.1 = true :=
    List.filter_eq_nil_iff.mp h
  constructor
  · rw [Store.file?, Option.map_eq_none_iff, List.find?_eq_none]
    intro f hf heq
    apply hout f hf
    rw [of_decide_eq_true heq, place_linesPath]
    simp [isIn]
  · refine List.filter_eq_nil_iff.mpr fun f hf htable => hout f hf ?_
    exact (Bool.and_eq_true_iff.mp htable).1

/-- A file in the place of a table is among the tables of a journal. -/
theorem mem_tablesIn {p : Place} {c : Content} (h : s.file? p = some c)
    (hp : isTable directory p = true) : (p, c) ∈ tablesIn s directory := by
  obtain ⟨⟨q, d⟩, hfind, rfl⟩ := Option.map_eq_some_iff.mp h
  have hq : q = p := by simpa using List.find?_some hfind
  rw [← hq] at hp ⊢
  exact List.mem_filter.mpr ⟨List.mem_of_find?_eq_some hfind, hp⟩

end Journal

end DevicePairing
